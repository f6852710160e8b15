/-
This file defines expressions together with the values they compute. The two belong
together: a lambda that is evaluated becomes a function value, which keeps the body
of the lambda and the bindings in force, and a constant may hold any value. A
parameter is told apart from others by its identity, a function value by the
evaluation that made it.
-/
import PredicateWire.Symbols.Basic

namespace PredicateWire

/-! ### Identities -/

/-- What tells one parameter from another: the scope that made it and its place there. -/
structure Identity where
  scope : Nat
  index : Nat
deriving DecidableEq

/-- The place of one step in a run of evaluations: the way to it, innermost step first. Different
steps have different addresses. -/
abbrev Address := List Nat

/-- A lambda parameter. Two parameters are the same variable when their identities agree,
whatever their names and types. -/
structure Parameter where
  identity : Identity
  name : String
  type : DataType
  byReference : Bool

namespace Parameter

/-- The parameters are the same variable. -/
def sameAs (left right : Parameter) : Bool :=
  left.identity == right.identity

end Parameter

/-! ### Values and expressions -/

mutual

/-- A value. The fields of a record are in the order of their names, each once; a map keeps its
entries in the order in which they were written. -/
inductive Value
  | null
  | bool (value : Bool)
  | int32 (value : Int32)
  | int64 (value : Int64)
  | double (value : Float)
  | char (value : Char)
  | string (value : String)
  | array (items : List Value)
  | map (entries : List (Value × Value))
  | record (fields : List (String × Value))
  | function (closure : Closure)

/-- A lambda as a value: the evaluation that made it, the lambda's parameters and body, the
bindings in force (innermost first) and the depth limit it runs under. -/
inductive Closure
  | mk (origin : Address) (parameters : List Parameter) (body : Expr)
      (bindings : List (Parameter × Value)) (limit : Nat)

/-- An expression. Every expression knows the type of its value. -/
inductive Expr
  | lambda (type : DataType) (parameters : List Parameter) (body : Expr) (name : Option String)
      (tailCall : Bool)
  | parameter (referenced : Parameter)
  | binary (operator : BinaryOperator) (type : DataType) (left right : Expr)
      (method : Option Method) (conversion : Option Expr)
  | member (target : Expr) (read : Member)
  | constant (value : Value) (type : DataType)
  | call (target : Option Expr) (method : Method) (arguments : List Expr)
  | construct (constructor : Constructor) (arguments : List Expr)
  | arrayInit (type : DataType) (elements : List Expr)
  | unary (operator : UnaryOperator) (type : DataType) (operand : Expr)

end

/-- The bindings of parameters to values, innermost first. -/
abbrev Bindings := List (Parameter × Value)

namespace Closure

/-- The evaluation that made the function. -/
def origin : Closure → Address
  | mk origin _ _ _ _ => origin

/-- The parameters of the lambda. -/
def parameters : Closure → List Parameter
  | mk _ parameters _ _ _ => parameters

/-- The body of the lambda. -/
def body : Closure → Expr
  | mk _ _ body _ _ => body

/-- The bindings in force where the lambda was evaluated. -/
def bindings : Closure → Bindings
  | mk _ _ _ bindings _ => bindings

/-- The depth limit that the body runs under. -/
def limit : Closure → Nat
  | mk _ _ _ _ limit => limit

/-- The number of parameters. -/
def arity (closure : Closure) : Nat :=
  closure.parameters.length

end Closure

namespace Expr

/-- The type of the value of an expression. -/
def resultType : Expr → DataType
  | lambda type _ _ _ _ => type
  | parameter referenced => referenced.type
  | binary _ type _ _ _ _ => type
  | member _ read => read.memberType
  | constant _ type => type
  | call _ method _ => method.returnType
  | construct constructor _ => constructor.declaringType
  | arrayInit type _ => type
  | unary _ type _ => type

/-- What kind of node an expression is. -/
def kind : Expr → NodeKind
  | lambda _ _ _ _ _ => .lambda
  | parameter _ => .parameter
  | binary operator _ _ _ _ _ => .binary operator
  | member _ _ => .memberAccess
  | constant _ _ => .constant
  | call _ _ _ => .call
  | construct _ _ => .construct
  | arrayInit _ _ => .arrayInit
  | unary operator _ _ => .unary operator

end Expr

end PredicateWire
