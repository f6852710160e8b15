/-
This file turns expressions into callables. Any lambda can be compiled; a predicate
is a lambda with one parameter whose body is a truth value. Only the shape is
checked here, everything else is a matter of the call.
-/
import PredicateWire.Evaluation.Basic

namespace PredicateWire

/-- A lambda that is ready to be called. -/
structure CompiledLambda where
  type : DataType
  parameters : List Parameter
  body : Expr
  limit : Nat

namespace CompiledLambda

/-- Compiles an expression that is a lambda. -/
def ofExpr (limit : Nat) : Expr → Result CompiledLambda
  | .lambda type parameters body _ _ => .ok ⟨type, parameters, body, limit⟩
  | other => .error (.typeMismatch (.expectedLambda other.kind))

/-- The types of the parameters. -/
def parameterTypes (lambda : CompiledLambda) : List DataType :=
  lambda.parameters.map Parameter.type

/-- The type of the body. -/
def returnType (lambda : CompiledLambda) : DataType :=
  lambda.body.resultType

/-- Calls the lambda on arguments, without any other binding. -/
def invoke (budget : Nat) (lambda : CompiledLambda) (arguments : List Value)
    (address : Address) : Outcome Value :=
  applyLambda (Closure.callAt budget) lambda.limit lambda.parameters lambda.body [] arguments
    address

end CompiledLambda

/-- A compiled lambda with one parameter and a body that is a truth value. -/
structure Predicate where
  lambda : CompiledLambda
  parameter : Parameter
  parameters_eq : lambda.parameters = [parameter]
  returns_bool : lambda.returnType.isBool = true

namespace Predicate

/-- The predicate that an expression is. -/
def ofExpr (limit : Nat) (expression : Expr) : Result Predicate := do
  let lambda ← CompiledLambda.ofExpr limit expression
  match single : lambda.parameters with
  | [parameter] =>
    if returns : lambda.returnType.isBool = true then .ok ⟨lambda, parameter, single, returns⟩
    else .error (.typeMismatch (.predicateType lambda.returnType.canonicalName))
  | parameters => .error (.typeMismatch (.predicateArity parameters.length))

/-- The type of the argument. -/
def inputType (predicate : Predicate) : DataType :=
  predicate.parameter.type

/-- The answer of a predicate for an input. -/
def call (budget : Nat) (predicate : Predicate) (input : Value) (address : Address) :
    Outcome Bool := do
  match ← predicate.lambda.invoke budget [input] address with
  | .bool answer => .ok answer
  | other => Outcome.mismatch (.predicateResult other.kindName)

end Predicate

end PredicateWire
