/-
This file evaluates expressions. Every step down the tree counts against a depth
limit, and parameters are looked up by identity, innermost binding first. A lambda
evaluates to a function that keeps the bindings in force. The two short-circuit
operators look at their right operand only when the left one leaves the answer open,
unless a method implements them; coalescing always follows its own rule. A function
called from a body starts again at depth zero under its own limit; such calls nest
no deeper than a budget.
-/
import PredicateWire.Evaluation.Natives

namespace PredicateWire

/-! ### Addresses -/

namespace Address

/-- The address of a call that the body of a step makes. -/
def call (address : Address) (number : Nat) : Address :=
  number :: 0 :: address

/-- The address of the operand at a place below a step. -/
def operand (address : Address) (place : Nat) : Address :=
  (place + 1) :: address

end Address

/-- A way to call functions at a given address. -/
abbrev AddressedCaller := Address → Closure → List Value → Outcome Value

namespace AddressedCaller

/-- The calls that the body of a step makes. -/
def within (call : AddressedCaller) (address : Address) : Caller :=
  fun number closure arguments => call (address.call number) closure arguments

end AddressedCaller

/-! ### Bindings -/

namespace Bindings

/-- The value of a parameter: the one bound innermost. -/
def get? (bindings : Bindings) (parameter : Parameter) : Option Value :=
  (bindings.find? fun binding => binding.1.sameAs parameter).map Prod.snd

/-- Binds parameters to arguments in order, on top of earlier bindings. -/
def extend (bindings : Bindings) (parameters : List Parameter) (arguments : List Value) :
    Bindings :=
  (parameters.zip arguments).reverse ++ bindings

end Bindings

/-- The value of an evaluated operand as a truth value. -/
def truth : Value → Outcome Bool
  | .bool value => .ok value
  | other => Outcome.mismatch (.expectedBool other.kindName)

/-- Refuses a call with the wrong number of arguments. -/
def checkArity (parameters : List Parameter) (arguments : List Value) : Outcome Unit :=
  if arguments.length = parameters.length then .ok ()
  else Outcome.fault (.lambdaArgumentCount parameters.length arguments.length)

/-! ### Evaluation -/

namespace Expr

mutual

/-- Evaluates an expression at a depth, where functions are called by `call`. -/
def evaluateAt (call : AddressedCaller) (limit : Nat) :
    Expr → Bindings → Nat → Address → Outcome Value
  | expression, bindings, depth, address =>
    if limit < depth then Outcome.fail (.depthExceeded limit)
    else
      match expression with
      | .lambda _ parameters body _ _ =>
        .ok (.function (.mk address parameters body bindings limit))
      | .parameter referenced =>
        match bindings.get? referenced with
        | some value => .ok value
        | none => Outcome.fault (.unboundParameter referenced.name)
      | .constant value _ => .ok value
      | .member target read => do
        let target ← evaluateAt call limit target bindings (depth + 1) (address.operand 0)
        read.read (call.within address) target
      | .call target method arguments => do
        let target ← evaluateTarget call limit target bindings (depth + 1) (address.operand 0)
        let arguments ← evaluateAll call limit arguments bindings (depth + 1) address 1
        method.invoke (call.within address) target arguments
      | .construct constructor arguments => do
        let arguments ← evaluateAll call limit arguments bindings (depth + 1) address 0
        constructor.invoke (call.within address) arguments
      | .arrayInit _ elements => do
        let items ← evaluateAll call limit elements bindings (depth + 1) address 0
        return .array items
      | .unary operator _ operand => do
        let operand ← evaluateAt call limit operand bindings (depth + 1) (address.operand 0)
        Outcome.ofResult (operator.apply operand)
      | .binary .andAlso _ left right none _ => do
        let left ← evaluateAt call limit left bindings (depth + 1) (address.operand 0)
        if ← truth left then
          let right ← evaluateAt call limit right bindings (depth + 1) (address.operand 1)
          return .bool (← truth right)
        else return .bool false
      | .binary .orElse _ left right none _ => do
        let left ← evaluateAt call limit left bindings (depth + 1) (address.operand 0)
        if ← truth left then return .bool true
        else
          let right ← evaluateAt call limit right bindings (depth + 1) (address.operand 1)
          return .bool (← truth right)
      | .binary .coalesce _ left right _ conversion => do
        let left ← evaluateAt call limit left bindings (depth + 1) (address.operand 0)
        if left.isNull then
          evaluateAt call limit right bindings (depth + 1) (address.operand 1)
        else
          match conversion with
          | some (.lambda _ parameters body _ _) => do
            checkArity parameters [left]
            evaluateAt call limit body (bindings.extend parameters [left]) (depth + 2)
              (address.operand 2)
          | some _ => Outcome.mismatch .conversionValue
          | none => .ok left
      | .binary operator _ left right method _ => do
        let left ← evaluateAt call limit left bindings (depth + 1) (address.operand 0)
        let right ← evaluateAt call limit right bindings (depth + 1) (address.operand 1)
        match method with
        | some method => method.invoke (call.within address) none [left, right]
        | none => Outcome.ofResult (operator.apply left right)

/-- Evaluates the target of a call, if it has one. -/
def evaluateTarget (call : AddressedCaller) (limit : Nat) :
    Option Expr → Bindings → Nat → Address → Outcome (Option Value)
  | none, _, _, _ => .ok none
  | some target, bindings, depth, address => do
    let value ← evaluateAt call limit target bindings depth address
    return some value

/-- Evaluates several expressions in order. The first that does not yield a value decides. -/
def evaluateAll (call : AddressedCaller) (limit : Nat) :
    List Expr → Bindings → Nat → Address → Nat → Outcome (List Value)
  | [], _, _, _, _ => .ok []
  | expression :: rest, bindings, depth, address, place => do
    let value ← evaluateAt call limit expression bindings depth (address.operand place)
    let values ← evaluateAll call limit rest bindings depth address (place + 1)
    return value :: values

end

end Expr

/-- Applies a lambda to arguments on top of bindings: its body starts one level down. -/
def applyLambda (call : AddressedCaller) (limit : Nat) (parameters : List Parameter)
    (body : Expr) (bindings : Bindings) (arguments : List Value) (address : Address) :
    Outcome Value := do
  checkArity parameters arguments
  body.evaluateAt call limit (bindings.extend parameters arguments) 1 address

/-- Calls a function. Calls that bodies make in turn nest no deeper than the budget. -/
def Closure.callAt : Nat → AddressedCaller
  | 0, _, _, _ => .error .exhausted
  | budget + 1, address, closure, arguments =>
    applyLambda (callAt budget) closure.limit closure.parameters closure.body closure.bindings
      arguments address

/-- Calls a function on arguments. -/
def Closure.call (budget : Nat) (closure : Closure) (arguments : List Value)
    (address : Address) : Outcome Value :=
  callAt (budget + 1) address closure arguments

/-- Evaluates an expression under a depth limit. -/
def Expr.evaluate (budget limit : Nat) (expression : Expr) (bindings : Bindings)
    (address : Address) : Outcome Value :=
  expression.evaluateAt (Closure.callAt budget) limit bindings 0 address

end PredicateWire
