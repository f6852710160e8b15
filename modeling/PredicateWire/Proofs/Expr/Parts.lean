/-
This file says what an expression is made of: its nodes, the types and parameters that
they speak of, which parameters are free, and what becomes of an expression when its
parameters are replaced. The parameters that a lambda declares count as nodes of their
own, because they are packed and rebuilt like any other.

Everything that an expression speaks of is collected from its nodes, one node at a time,
so that "every type that occurs" and the like are statements about a list and its
members. The equations below say what the lists are for each form of an expression. They
are marked for simp, and proofs by recursion on expressions use them to split a
hypothesis about the whole into one for each part. Nothing here depends on catalogs or
on the wire.
-/
import PredicateWire.Expr.Basic

namespace PredicateWire

/-- The types that a reference to a method speaks of. -/
def Method.types (method : Method) : List DataType :=
  method.declaringType :: (method.parameters ++ method.genericArguments)

/-- The types that a reference to a constructor speaks of. -/
def Constructor.types (constructor : Constructor) : List DataType :=
  constructor.declaringType :: constructor.parameters

namespace Expr

/-! ### Nodes -/

mutual

/-- Every node of an expression, the expression itself first. -/
def nodes : Expr → List Expr
  | lambda type parameters body name tailCall =>
    lambda type parameters body name tailCall :: (nodes body ++ parameters.map parameter)
  | parameter referenced => [parameter referenced]
  | binary operator type left right method conversion =>
    binary operator type left right method conversion ::
      (nodes left ++ nodes right ++ nodesOption conversion)
  | member target read => member target read :: nodes target
  | constant value type => [constant value type]
  | call target method arguments =>
    call target method arguments :: (nodesOption target ++ nodesAll arguments)
  | construct constructor arguments => construct constructor arguments :: nodesAll arguments
  | arrayInit type elements => arrayInit type elements :: nodesAll elements
  | unary operator type operand => unary operator type operand :: nodes operand

/-- Every node of several expressions. -/
def nodesAll : List Expr → List Expr
  | [] => []
  | expression :: rest => nodes expression ++ nodesAll rest

/-- Every node of an expression that may be absent. -/
def nodesOption : Option Expr → List Expr
  | none => []
  | some expression => nodes expression

end

attribute [grind =] nodes nodesAll nodesOption

/-- A node of several expressions is a node of one of them. -/
theorem mem_nodesAll {node : Expr} {expressions : List Expr} :
    node ∈ nodesAll expressions ↔ ∃ expression ∈ expressions, node ∈ expression.nodes := by
  induction expressions with
  | nil => simp [nodesAll]
  | cons first rest inductionHypothesis =>
    simp [nodesAll, inductionHypothesis]

theorem mem_nodes_self (expression : Expr) : expression ∈ expression.nodes := by
  cases expression <;> exact List.mem_cons_self

/-- The expression is a lambda. -/
def isLambda : Expr → Bool
  | lambda _ _ _ _ _ => true
  | _ => false

/-- The expression applies an operator with one operand. -/
def isUnary : Expr → Bool
  | unary _ _ _ => true
  | _ => false

/-- The types that a node itself speaks of. -/
def ownTypes : Expr → List DataType
  | lambda type _ _ _ _ => [type]
  | parameter referenced => [referenced.type]
  | binary _ type _ _ method _ => type :: method.toList.flatMap Method.types
  | member _ read => [read.memberType, read.declaringType]
  | constant _ type => [type]
  | call _ method _ => method.returnType :: method.types
  | construct constructor _ => constructor.types
  | arrayInit type _ => type :: type.element?.toList
  | unary _ type _ => [type]

/-- The parameter that a node refers to. -/
def ownParameter? : Expr → Option Parameter
  | parameter referenced => some referenced
  | _ => none

/-- The methods that a node itself calls. -/
def ownMethods : Expr → List Method
  | binary _ _ _ _ method _ => method.toList
  | call _ method _ => [method]
  | _ => []

/-- The constructor that a node itself calls. -/
def ownConstructor? : Expr → Option Constructor
  | construct constructor _ => some constructor
  | _ => none

/-- The member that a node itself reads. -/
def ownMember? : Expr → Option Member
  | member _ read => some read
  | _ => none

/-- The constant that a node is, with its declared type. -/
def ownConstant? : Expr → Option (Value × DataType)
  | constant value type => some (value, type)
  | _ => none

/-- The types that an expression speaks of. -/
def types (expression : Expr) : List DataType :=
  expression.nodes.flatMap ownTypes

/-- The parameters that occur in an expression, where they are declared and where they are
used. -/
def parameters (expression : Expr) : List Parameter :=
  expression.nodes.filterMap ownParameter?

/-- The methods that an expression calls. -/
def methods (expression : Expr) : List Method :=
  expression.nodes.flatMap ownMethods

/-- The constructors that an expression calls. -/
def constructors (expression : Expr) : List Constructor :=
  expression.nodes.filterMap ownConstructor?

/-- The members that an expression reads. -/
def members (expression : Expr) : List Member :=
  expression.nodes.filterMap ownMember?

/-- The constants of an expression, with their declared types. -/
def constants (expression : Expr) : List (Value × DataType) :=
  expression.nodes.filterMap ownConstant?

/-- The types that several expressions speak of. -/
def typesAll (expressions : List Expr) : List DataType :=
  (nodesAll expressions).flatMap ownTypes

/-- The types that an expression speaks of, if it is there. -/
def typesOption (expression : Option Expr) : List DataType :=
  (nodesOption expression).flatMap ownTypes

/-- The nodes of parameters speak of the types of the parameters. -/
theorem flatMap_ownTypes (parameters : List Parameter) :
    (parameters.map parameter).flatMap ownTypes = parameters.map Parameter.type := by
  induction parameters with
  | nil => rfl
  | cons first rest inductionHypothesis =>
    rw [List.map_cons, List.flatMap_cons, inductionHypothesis, List.map_cons]
    rfl

section

variable {type : DataType} {body left right target operand : Expr} {method : Method}

@[simp]
theorem types_lambda {parameters : List Parameter} {name : Option String} {tailCall : Bool} :
    (lambda type parameters body name tailCall).types =
      type :: (body.types ++ parameters.map Parameter.type) := by
  simp [types, nodes, ownTypes, flatMap_ownTypes]

@[simp]
theorem types_parameter {referenced : Parameter} :
    (parameter referenced).types = [referenced.type] := by
  simp [types, nodes, ownTypes]

@[simp]
theorem types_binary {operator : BinaryOperator} {method : Option Method}
    {conversion : Option Expr} :
    (binary operator type left right method conversion).types =
      type :: (method.toList.flatMap Method.types ++
        (left.types ++ right.types ++ typesOption conversion)) := by
  simp [types, nodes, ownTypes, typesOption]

@[simp]
theorem types_member {read : Member} :
    (member target read).types = read.memberType :: read.declaringType :: target.types := by
  simp [types, nodes, ownTypes]

@[simp]
theorem types_constant {value : Value} : (constant value type).types = [type] := by
  simp [types, nodes, ownTypes]

@[simp]
theorem types_call {target : Option Expr} {arguments : List Expr} :
    (call target method arguments).types =
      method.returnType :: (method.types ++ (typesOption target ++ typesAll arguments)) := by
  simp [types, nodes, ownTypes, typesOption, typesAll]

@[simp]
theorem types_construct {constructor : Constructor} {arguments : List Expr} :
    (construct constructor arguments).types = constructor.types ++ typesAll arguments := by
  simp [types, nodes, ownTypes, typesAll]

@[simp]
theorem types_arrayInit {elements : List Expr} :
    (arrayInit type elements).types = type :: (type.element?.toList ++ typesAll elements) := by
  simp [types, nodes, ownTypes, typesAll]

@[simp]
theorem types_unary {operator : UnaryOperator} :
    (unary operator type operand).types = type :: operand.types := by
  simp [types, nodes, ownTypes]

@[simp]
theorem typesAll_nil : typesAll [] = [] := rfl

@[simp]
theorem typesAll_cons {first : Expr} {rest : List Expr} :
    typesAll (first :: rest) = first.types ++ typesAll rest := by
  simp [typesAll, types, nodesAll]

@[simp]
theorem typesOption_none : typesOption none = [] := rfl

@[simp]
theorem typesOption_some : typesOption (some body) = body.types := by
  simp [typesOption, types, nodesOption]

end

/-- The parameters that occur in several expressions. -/
def parametersAll (expressions : List Expr) : List Parameter :=
  (nodesAll expressions).filterMap ownParameter?

/-- The parameters that occur in an expression, if it is there. -/
def parametersOption (expression : Option Expr) : List Parameter :=
  (nodesOption expression).filterMap ownParameter?

theorem filterMap_ownParameter? (parameters : List Parameter) :
    parameters.filterMap (ownParameter? ∘ parameter) = parameters :=
  List.filterMap_some

section

variable {type : DataType} {body left right target operand : Expr} {method : Method}

@[simp]
theorem parameters_lambda {parameters : List Parameter} {name : Option String} {tailCall : Bool} :
    (lambda type parameters body name tailCall).parameters = body.parameters ++ parameters := by
  simp [Expr.parameters, nodes, List.filterMap_cons, ownParameter?, filterMap_ownParameter?]

@[simp]
theorem parameters_parameter {referenced : Parameter} :
    (parameter referenced).parameters = [referenced] := by
  simp [Expr.parameters, nodes, ownParameter?]

@[simp]
theorem parameters_binary {operator : BinaryOperator} {method : Option Method}
    {conversion : Option Expr} :
    (binary operator type left right method conversion).parameters =
      left.parameters ++ right.parameters ++ parametersOption conversion := by
  simp [Expr.parameters, nodes, List.filterMap_cons, ownParameter?, parametersOption]

@[simp]
theorem parameters_member {read : Member} :
    (member target read).parameters = target.parameters := by
  simp [Expr.parameters, nodes, List.filterMap_cons, ownParameter?]

@[simp]
theorem parameters_constant {value : Value} : (constant value type).parameters = [] := by
  simp [Expr.parameters, nodes, List.filterMap_cons, ownParameter?]

@[simp]
theorem parameters_call {target : Option Expr} {arguments : List Expr} :
    (call target method arguments).parameters =
      parametersOption target ++ parametersAll arguments := by
  simp [Expr.parameters, nodes, List.filterMap_cons, ownParameter?, parametersOption, parametersAll]

@[simp]
theorem parameters_construct {constructor : Constructor} {arguments : List Expr} :
    (construct constructor arguments).parameters = parametersAll arguments := by
  simp [Expr.parameters, nodes, List.filterMap_cons, ownParameter?, parametersAll]

@[simp]
theorem parameters_arrayInit {elements : List Expr} :
    (arrayInit type elements).parameters = parametersAll elements := by
  simp [Expr.parameters, nodes, List.filterMap_cons, ownParameter?, parametersAll]

@[simp]
theorem parameters_unary {operator : UnaryOperator} :
    (unary operator type operand).parameters = operand.parameters := by
  simp [Expr.parameters, nodes, List.filterMap_cons, ownParameter?]

@[simp]
theorem parametersAll_nil : parametersAll [] = [] := rfl

@[simp]
theorem parametersAll_cons {first : Expr} {rest : List Expr} :
    parametersAll (first :: rest) = first.parameters ++ parametersAll rest := by
  simp [parametersAll, Expr.parameters, nodesAll]

@[simp]
theorem parametersOption_none : parametersOption none = [] := rfl

@[simp]
theorem parametersOption_some : parametersOption (some body) = body.parameters := by
  simp [parametersOption, Expr.parameters, nodesOption]

end

/-- An expression speaks of the types of its parameters. -/
theorem type_mem_types {expression : Expr} {referenced : Parameter}
    (member : referenced ∈ expression.parameters) : referenced.type ∈ expression.types := by
  obtain ⟨node, nodeMember, refers⟩ := List.mem_filterMap.mp member
  refine List.mem_flatMap.mpr ⟨node, nodeMember, ?_⟩
  cases node with
  | parameter other => cases refers; exact .head _
  | _ => cases refers

/-- An expression speaks of the type of its result. -/
theorem resultType_mem_types (expression : Expr) : expression.resultType ∈ expression.types := by
  cases expression <;> simp [resultType, Constructor.types]

/-! ### Free parameters -/

mutual

/-- The parameters that an expression refers to without a lambda around the reference that declares
them. -/
def free : Expr → List Parameter
  | lambda _ parameters body _ _ =>
    (free body).filter fun referenced => parameters.all fun declared => !declared.sameAs referenced
  | parameter referenced => [referenced]
  | binary _ _ left right _ conversion => free left ++ free right ++ freeOption conversion
  | member target _ => free target
  | constant _ _ => []
  | call target _ arguments => freeOption target ++ freeAll arguments
  | construct _ arguments => freeAll arguments
  | arrayInit _ elements => freeAll elements
  | unary _ _ operand => free operand

/-- The free parameters of several expressions. -/
def freeAll : List Expr → List Parameter
  | [] => []
  | expression :: rest => free expression ++ freeAll rest

/-- The free parameters of an expression that may be absent. -/
def freeOption : Option Expr → List Parameter
  | none => []
  | some expression => free expression

end

mutual

/-- The free parameters of an expression occur in it. -/
theorem free_subset : ∀ expression : Expr, expression.free ⊆ expression.parameters
  | lambda type parameters body name tailCall => by
    rw [free, parameters_lambda]
    exact fun _ member => List.mem_append_left _ (free_subset body (List.mem_filter.mp member).1)
  | parameter referenced => by
    rw [free, parameters_parameter]
    exact List.Subset.refl _
  | binary operator type left right method conversion => by
    rw [free, parameters_binary]
    exact List.append_subset.mpr ⟨List.append_subset.mpr ⟨
      fun _ member => List.mem_append_left _ (List.mem_append_left _ (free_subset left member)),
      fun _ member => List.mem_append_left _ (List.mem_append_right _ (free_subset right member))⟩,
      fun _ member => List.mem_append_right _ (freeOption_subset conversion member)⟩
  | member target read => by
    rw [free, parameters_member]
    exact free_subset target
  | constant value type => by
    rw [free]
    exact List.nil_subset _
  | call target method arguments => by
    rw [free, parameters_call]
    exact List.append_subset.mpr
      ⟨fun _ member => List.mem_append_left _ (freeOption_subset target member),
        fun _ member => List.mem_append_right _ (freeAll_subset arguments member)⟩
  | construct constructor arguments => by
    rw [free, parameters_construct]
    exact freeAll_subset arguments
  | arrayInit type elements => by
    rw [free, parameters_arrayInit]
    exact freeAll_subset elements
  | unary operator type operand => by
    rw [free, parameters_unary]
    exact free_subset operand

theorem freeAll_subset : ∀ expressions : List Expr, freeAll expressions ⊆ parametersAll expressions
  | [] => List.nil_subset _
  | expression :: rest => by
    rw [freeAll, parametersAll_cons]
    exact List.append_subset.mpr
      ⟨fun _ member => List.mem_append_left _ (free_subset expression member),
        fun _ member => List.mem_append_right _ (freeAll_subset rest member)⟩

theorem freeOption_subset : ∀ expression : Option Expr,
    freeOption expression ⊆ parametersOption expression
  | none => List.nil_subset _
  | some expression => by
    rw [freeOption, parametersOption_some]
    exact free_subset expression

end

/-! ### Replacing parameters -/

mutual

/-- The expression with other parameters in place of its own. -/
def rename (replace : Parameter → Parameter) : Expr → Expr
  | lambda type parameters body name tailCall =>
    lambda type (parameters.map replace) (rename replace body) name tailCall
  | parameter referenced => parameter (replace referenced)
  | binary operator type left right method conversion =>
    binary operator type (rename replace left) (rename replace right) method
      (renameOption replace conversion)
  | member target read => member (rename replace target) read
  | constant value type => constant value type
  | call target method arguments =>
    call (renameOption replace target) method (renameAll replace arguments)
  | construct constructor arguments => construct constructor (renameAll replace arguments)
  | arrayInit type elements => arrayInit type (renameAll replace elements)
  | unary operator type operand => unary operator type (rename replace operand)

/-- Several expressions with other parameters. -/
def renameAll (replace : Parameter → Parameter) : List Expr → List Expr
  | [] => []
  | expression :: rest => rename replace expression :: renameAll replace rest

/-- An expression that may be absent, with other parameters. -/
def renameOption (replace : Parameter → Parameter) : Option Expr → Option Expr
  | none => none
  | some expression => some (rename replace expression)

end

end Expr

end PredicateWire
