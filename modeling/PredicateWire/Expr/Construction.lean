/-
This file builds expressions whose operands have fitting types. Members, methods and
constructors are looked up in a catalog; of several overloads the first one that
accepts the types of the arguments is taken. `BinaryOperator.resultType` says for
which operand types an operator is defined and what it yields.
-/
import PredicateWire.Expr.Basic
import PredicateWire.Catalog.Basic
import PredicateWire.Types.Assignability

namespace PredicateWire

/-! ### Types of operators -/

namespace BinaryOperator

/-- An operator that is not defined for two operand types. -/
def undefinedForTypes (operator : BinaryOperator) (left right : DataType) : Result DataType :=
  .error (.typeMismatch
    (.operatorUndefined operator left.canonicalName right.canonicalName))

/-- The type in which two operands of numeric type meet. -/
def promotedType? (left right : DataType) : Option DataType :=
  match left.primitive?, right.primitive? with
  | some leftKind, some rightKind => (leftKind.promoted? rightKind).map .primitive
  | _, _ => none

/-- Both operands are of one primitive type. -/
def bothAre (kind : Primitive) (left right : DataType) : Bool :=
  left.primitive? == some kind && right.primitive? == some kind

/-- An operand type is one of whole numbers. -/
def isIntegerType (type : DataType) : Bool :=
  match type.primitive? with
  | some kind => kind.isInteger
  | none => false

/-- The type of the result of an operator for two operand types. -/
def resultType (operator : BinaryOperator) (left right : DataType) : Result DataType :=
  let undefinedHere := operator.undefinedForTypes left right
  match operator with
  | andAlso | orElse => if left.isBool && right.isBool then .ok .bool else undefinedHere
  | equal | notEqual =>
    if (promotedType? left right).isSome || left.accepts right || right.accepts left then
      .ok .bool
    else undefinedHere
  | lessThan | lessThanOrEqual | greaterThan | greaterThanOrEqual =>
    if (promotedType? left right).isSome || bothAre .string left right ||
        bothAre .char left right then
      .ok .bool
    else undefinedHere
  | and | or | exclusiveOr =>
    if bothAre .bool left right then .ok .bool
    else if isIntegerType left && isIntegerType right then
      match promotedType? left right with
      | some type => .ok type
      | none => undefinedHere
    else undefinedHere
  | add =>
    if bothAre .string left right then .ok left
    else
      match promotedType? left right with
      | some type => .ok type
      | none => undefinedHere
  | subtract | multiply | divide | modulo =>
    match promotedType? left right with
    | some type => .ok type
    | none => undefinedHere
  | arrayIndex =>
    match left with
    | .array element => if isIntegerType right then .ok element else undefinedHere
    | _ => undefinedHere
  | coalesce => if left.accepts right then .ok left else undefinedHere

end BinaryOperator

namespace UnaryOperator

/-- An operator with one operand is defined for a type. -/
def acceptsType (operator : UnaryOperator) (type : DataType) : Bool :=
  match operator, type.primitive? with
  | not, some kind => kind == .bool || kind.isInteger
  | negate, some kind => kind.isNumeric
  | _, none => false

end UnaryOperator

namespace Expr

/-! ### Leaves -/

/-- A reference to a parameter. -/
def ofParameter (referenced : Parameter) : Expr :=
  .parameter referenced

/-- The null of a type. -/
def null (type : DataType) : Expr :=
  .constant .null type

/-- A text. -/
def string (text : String) : Expr :=
  .constant (.string text) .string

/-- A 32-bit number. -/
def int32 (number : Int32) : Expr :=
  .constant (.int32 number) .int32

/-- A 64-bit number. -/
def int64 (number : Int64) : Expr :=
  .constant (.int64 number) .int64

/-- A double. -/
def double (number : Float) : Expr :=
  .constant (.double number) .double

/-- A truth value. -/
def bool (value : Bool) : Expr :=
  .constant (.bool value) .bool

/-- An array of texts. -/
def strings (texts : List String) : Expr :=
  .constant (.array (texts.map .string)) (.array .string)

/-! ### Members -/

/-- Reads a field or property of a target. -/
def memberOf (catalog : Catalog) (target : Expr) (name : String) : Result Expr :=
  match catalog.member? target.resultType name with
  | some read => .ok (.member target read)
  | none => .error (.symbolNotFound (.unknownMember target.resultType.canonicalName name))

/-- Reads a field of a target. -/
def fieldOf (catalog : Catalog) (target : Expr) (name : String) : Result Expr := do
  match ← memberOf catalog target name with
  | .member target read =>
    if read.isField then .ok (.member target read)
    else .error (.symbolNotFound (.notAField name))
  | _ => .error (.symbolNotFound (.notAField name))

/-! ### Calls -/

/-- Parameter types accept the types of arguments, place by place. -/
def argumentsFit (parameters : List DataType) (arguments : List Expr) : Bool :=
  parameters.length == arguments.length &&
    (parameters.zip arguments).all fun pair => pair.1.accepts pair.2.resultType

/-- The first of several methods that accepts the arguments. -/
def selectOverload (call : String) (candidates : List Method) (arguments : List Expr) :
    Result Method :=
  match candidates.find? fun method => argumentsFit method.parameters arguments with
  | some method => .ok method
  | none =>
    .error (.symbolNotFound
      (.noFittingOverload call (arguments.map fun argument => argument.resultType.canonicalName)))

/-- Calls an instance method of a target. -/
def callOn (catalog : Catalog) (target : Expr) (name : String) (arguments : List Expr) :
    Result Expr := do
  let type := target.resultType
  let candidates := (catalog.overloads type.baseName name).filter fun method =>
    !method.isStatic && !method.isGeneric
  let method ←
    selectOverload (type.canonicalName ++ "." ++ name)
      (candidates.map fun method => method.closeOver type) arguments
  return .call (some target) method arguments

/-- Calls a static method that is not generic. -/
def callStatic (catalog : Catalog) (typeName name : String) (arguments : List Expr) :
    Result Expr := do
  let candidates := (catalog.overloads typeName name).filter fun method =>
    method.isStatic && !method.isGeneric
  let method ← selectOverload (typeName ++ "." ++ name) candidates arguments
  return .call none method arguments

/-- Calls a static generic method, closed over type arguments. -/
def callGeneric (catalog : Catalog) (typeName name : String) (typeArguments : List DataType)
    (arguments : List Expr) : Result Expr := do
  let definitions := (catalog.overloads typeName name).filter fun method =>
    method.isStatic && method.isGenericDefinition &&
      method.genericArity == typeArguments.length
  let candidates ← definitions.mapM fun method => method.makeGeneric typeArguments
  let method ←
    selectOverload (typeName ++ "." ++ name ++ "\x60" ++ toString typeArguments.length) candidates
      arguments
  return .call none method arguments

/-- Asks whether a sequence contains an item. The type of the item is the element type. -/
def containsItem (catalog : Catalog) (source item : Expr) : Result Expr :=
  callGeneric catalog DataType.enumerableName "Contains" [item.resultType] [source, item]

/-- Constructs an object with the first constructor that accepts the arguments. -/
def new (catalog : Catalog) (type : DataType) (arguments : List Expr) : Result Expr :=
  match (catalog.constructorsOf type.baseName).find? fun constructor =>
      argumentsFit constructor.parameters arguments with
  | some constructor => .ok (.construct constructor arguments)
  | none =>
    .error (.symbolNotFound (.noFittingConstructor type.canonicalName arguments.length))

/-- An array of elements, each of which the element type has to accept. -/
def newArray (element : DataType) (elements : List Expr) : Result Expr :=
  match elements.find? fun item => !element.accepts item.resultType with
  | some item =>
    .error (.typeMismatch
      (.initializerElement item.resultType.canonicalName element.canonicalName))
  | none => .ok (.arrayInit (.array element) elements)

/-! ### Operators -/

/-- Applies an operator with its built-in meaning. -/
def binaryOf (operator : BinaryOperator) (left right : Expr) : Result Expr := do
  let type ← operator.resultType left.resultType right.resultType
  return .binary operator type left right none none

/-- Applies an operator that a static method with two parameters implements. -/
def binaryWith (operator : BinaryOperator) (left right : Expr) (method : Method) :
    Result Expr :=
  if !method.isStatic || method.parameters.length ≠ 2 then
    .error (.typeMismatch (.operatorMethodShape method.signature))
  else if !argumentsFit method.parameters [left, right] then
    .error (.typeMismatch (.operatorMethodOperands method.signature))
  else .ok (.binary operator method.returnType left right (some method) none)

/-- The left operand unless it is null, else the right one. A conversion, if there is one, maps
the left operand. -/
def coalesceOf (left right : Expr) (conversion : Option Expr) : Result Expr := do
  let type ←
    match conversion with
    | none => BinaryOperator.coalesce.resultType left.resultType right.resultType
    | some (.lambda _ [_] body _ _) =>
      if body.resultType.accepts right.resultType then .ok body.resultType
      else
        .error (.typeMismatch
          (.coalesceFallback right.resultType.canonicalName body.resultType.canonicalName))
    | some _ => .error (.typeMismatch .conversionShape)
  return .binary .coalesce type left right none conversion

/-- Applies an operator with one operand. -/
def unaryOf (operator : UnaryOperator) (operand : Expr) : Result Expr :=
  if operator.acceptsType operand.resultType then
    .ok (.unary operator operand.resultType operand)
  else
    .error (.typeMismatch (.unaryUndefined operator operand.resultType.canonicalName))

/-- Reads the item at an index: of an array by the operator, of anything else by its
indexer. -/
def itemOf (catalog : Catalog) (target index : Expr) : Result Expr :=
  match target.resultType with
  | .array _ => binaryOf .arrayIndex target index
  | _ => callOn catalog target "get_Item" [index]

/-! ### Lambdas -/

/-- The instance of a generic definition that the catalog has. -/
def genericType (catalog : Catalog) (definition : String) (arguments : List DataType) :
    Result DataType :=
  match catalog.findType? definition with
  | some type => type.instantiate arguments
  | none => .error (.symbolNotFound (.unknownType definition))

/-- A lambda over parameters. Its type is the function type of the parameter types and the type of
the body. -/
def lambdaOf (catalog : Catalog) (body : Expr) (parameters : List Parameter) : Result Expr := do
  match DataType.functionName? parameters.length with
  | none => .error (.unsupportedShape (.lambdaArity parameters.length))
  | some name => do
    let type ←
      genericType catalog name (parameters.map Parameter.type ++ [body.resultType])
    return .lambda type parameters body none false

end Expr

/-- The list type of an element type. -/
def Catalog.listOf (catalog : Catalog) (element : DataType) : Result DataType :=
  Expr.genericType catalog DataType.listName [element]

/-- The dictionary type of a key type and a content type. -/
def Catalog.dictionaryOf (catalog : Catalog) (key content : DataType) : Result DataType :=
  Expr.genericType catalog DataType.dictionaryName [key, content]

end PredicateWire
