/-
This file defines methods, constructors and members. A method that is generic over
parameters of its own is closed by `Method.makeGeneric`; a method or member of a
generic type is carried over to an instance by `closeOver`. Signatures are what
messages show.
-/
import PredicateWire.Types.Basic
import PredicateWire.Symbols.Native

namespace PredicateWire

/-! ### Methods -/

/-- A method. With `genericArity` above zero and no generic arguments it is an open definition. -/
structure Method where
  declaringType : DataType
  name : String
  parameters : List DataType
  returnType : DataType
  isStatic : Bool
  genericArity : Nat
  genericArguments : List DataType
  body : Native

namespace Method

/-- An instance method that is not generic. -/
def instanceMethod (declaringType : DataType) (name : String) (parameters : List DataType)
    (returnType : DataType) (body : Native) : Method :=
  ⟨declaringType, name, parameters, returnType, false, 0, [], body⟩

/-- A static method that is generic over a number of parameters of its own. -/
def staticMethod (declaringType : DataType) (name : String) (parameters : List DataType)
    (returnType : DataType) (arity : Nat) (body : Native) : Method :=
  ⟨declaringType, name, parameters, returnType, true, arity, [], body⟩

/-- The method is generic, open or closed. -/
def isGeneric (method : Method) : Bool :=
  0 < method.genericArity

/-- The method is generic and not yet closed. -/
def isGenericDefinition (method : Method) : Bool :=
  0 < method.genericArity && method.genericArguments.isEmpty

/-- The canonical names of types, with commas between them. -/
def nameList (types : List DataType) : String :=
  commaSeparated (types.map DataType.canonicalName)

/-- The readable form of a method, such as `sys.String.StartsWith(sys.String)`. -/
def signature (method : Method) : String :=
  method.declaringType.canonicalName ++ "." ++ method.name ++
    (if method.genericArguments.isEmpty then ""
      else "<" ++ nameList method.genericArguments ++ ">") ++
    "(" ++ nameList method.parameters ++ ")"

/-- Closes a generic method over arguments. -/
def makeGeneric (method : Method) (arguments : List DataType) : Result Method :=
  if !method.isGenericDefinition then
    .error (.typeMismatch (.notGenericMethod method.signature))
  else if arguments.length ≠ method.genericArity then
    .error (.typeMismatch
      (.methodArgumentCount method.signature method.genericArity arguments.length))
  else
    let fill := DataType.substitute method.declaringType.arguments arguments
    .ok { method with
          parameters := method.parameters.map fill
          returnType := fill method.returnType
          genericArguments := arguments }

/-- Carries a method over to an instance of its declaring type. -/
def closeOver (method : Method) (declaringType : DataType) : Method :=
  let fill := DataType.substitute declaringType.arguments method.genericArguments
  { method with
    declaringType := declaringType
    parameters := method.parameters.map fill
    returnType := fill method.returnType }

end Method

/-! ### Constructors -/

/-- A constructor of a type. -/
structure Constructor where
  declaringType : DataType
  parameters : List DataType
  body : Native

namespace Constructor

/-- The readable form of a constructor. -/
def signature (constructor : Constructor) : String :=
  constructor.declaringType.canonicalName ++ "::new(" ++
    Method.nameList constructor.parameters ++ ")"

end Constructor

/-! ### Members -/

/-- Where the value of a member comes from. -/
inductive Storage
  | field (isPublic : Bool)
  | property (getter : Native)

/-- A field or property of a type. -/
structure Member where
  declaringType : DataType
  name : String
  memberType : DataType
  storage : Storage

namespace Member

/-- The member that stands for a field. -/
def ofField (declaringType : DataType) (field : Field DataType) : Member :=
  ⟨declaringType, field.name, field.type, .field field.isPublic⟩

/-- The member is a field. -/
def isField (member : Member) : Bool :=
  match member.storage with
  | .field _ => true
  | .property _ => false

/-- The member may be named in a packet: it is a property or a public field. -/
def isPublic (member : Member) : Bool :=
  match member.storage with
  | .field isPublic => isPublic
  | .property _ => true

/-- Carries a member over to an instance of its declaring type. -/
def closeOver (member : Member) (declaringType : DataType) : Member :=
  { member with
    declaringType := declaringType
    memberType := member.memberType.substitute declaringType.arguments [] }

end Member

end PredicateWire
