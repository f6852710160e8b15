/-
This file evaluates expressions on a stack of bindings, innermost first, that changes
while the evaluation goes on, where `Expr.evaluateAt` hands the bindings down the tree.
Parameters that get a value are pushed, and the stack is cut back to the height it had
when the work on top of it has come to an end, whatever it came to. A function takes a
copy of the stack with it, and a call of it works on that copy.
-/
import PredicateWire.Evaluation.Basic

namespace PredicateWire

/-- Work on a stack of bindings that can stop. -/
abbrev StackM := ExceptT Halt (StateM Bindings)

/-- Takes the latest bindings off a stack until it has a height, if it is higher. -/
def Bindings.cutTo (stack : Bindings) (height : Nat) : Bindings :=
  stack.drop (stack.length - height)

namespace StackM

variable {Content : Type}

/-- Work that has an outcome of its own and does not look at the stack. -/
def ofOutcome (outcome : Outcome Content) : StackM Content :=
  ExceptT.mk (pure outcome)

/-- Work with parameters bound on top of the stack. The bindings are taken off again, whether or
not the work succeeds. -/
def onTop (parameters : List Parameter) (arguments : List Value) (work : StackM Content) :
    StackM Content :=
  ExceptT.mk do
    let height := (← get).length
    modify fun stack => stack.extend parameters arguments
    let outcome ← work.run
    modify fun stack => stack.cutTo height
    return outcome

end StackM

open StackM (ofOutcome onTop)

namespace Expr

mutual

/-- Evaluates an expression at a depth, where functions are called by `call`. -/
def evaluateOn (call : AddressedCaller) (limit : Nat) : Expr → Nat → Address → StackM Value
  | expression, depth, address =>
    if limit < depth then ofOutcome (Outcome.fail (.depthExceeded limit))
    else
      match expression with
      | .lambda _ parameters body _ _ => do
        return .function (.mk address parameters body (← get) limit)
      | .parameter referenced => do
        match (← get).get? referenced with
        | some value => return value
        | none => ofOutcome (Outcome.fault (.unboundParameter referenced.name))
      | .constant value _ => return value
      | .member target read => do
        let target ← evaluateOn call limit target (depth + 1) (address.operand 0)
        ofOutcome (read.read (call.within address) target)
      | .call target method arguments => do
        let target ← evaluateTargetOn call limit target (depth + 1) (address.operand 0)
        let arguments ← evaluateAllOn call limit arguments (depth + 1) address 1
        ofOutcome (method.invoke (call.within address) target arguments)
      | .construct constructor arguments => do
        let arguments ← evaluateAllOn call limit arguments (depth + 1) address 0
        ofOutcome (constructor.invoke (call.within address) arguments)
      | .arrayInit _ elements => do
        let items ← evaluateAllOn call limit elements (depth + 1) address 0
        return .array items
      | .unary operator _ operand => do
        let operand ← evaluateOn call limit operand (depth + 1) (address.operand 0)
        ofOutcome (Outcome.ofResult (operator.apply operand))
      | .binary .andAlso _ left right none _ => do
        let left ← evaluateOn call limit left (depth + 1) (address.operand 0)
        if ← ofOutcome (truth left) then
          let right ← evaluateOn call limit right (depth + 1) (address.operand 1)
          return .bool (← ofOutcome (truth right))
        else return .bool false
      | .binary .orElse _ left right none _ => do
        let left ← evaluateOn call limit left (depth + 1) (address.operand 0)
        if ← ofOutcome (truth left) then return .bool true
        else
          let right ← evaluateOn call limit right (depth + 1) (address.operand 1)
          return .bool (← ofOutcome (truth right))
      | .binary .coalesce _ left right _ conversion => do
        let left ← evaluateOn call limit left (depth + 1) (address.operand 0)
        if left.isNull then
          evaluateOn call limit right (depth + 1) (address.operand 1)
        else
          match conversion with
          | some (.lambda _ parameters body _ _) => do
            ofOutcome (checkArity parameters [left])
            onTop parameters [left] (evaluateOn call limit body (depth + 2) (address.operand 2))
          | some _ => ofOutcome (Outcome.mismatch .conversionValue)
          | none => return left
      | .binary operator _ left right method _ => do
        let left ← evaluateOn call limit left (depth + 1) (address.operand 0)
        let right ← evaluateOn call limit right (depth + 1) (address.operand 1)
        match method with
        | some method => ofOutcome (method.invoke (call.within address) none [left, right])
        | none => ofOutcome (Outcome.ofResult (operator.apply left right))

/-- Evaluates the target of a call, if it has one. -/
def evaluateTargetOn (call : AddressedCaller) (limit : Nat) :
    Option Expr → Nat → Address → StackM (Option Value)
  | none, _, _ => return none
  | some target, depth, address => do
    let value ← evaluateOn call limit target depth address
    return some value

/-- Evaluates several expressions in order. The first that does not yield a value decides. -/
def evaluateAllOn (call : AddressedCaller) (limit : Nat) :
    List Expr → Nat → Address → Nat → StackM (List Value)
  | [], _, _, _ => return []
  | expression :: rest, depth, address, place => do
    let value ← evaluateOn call limit expression depth (address.operand place)
    let values ← evaluateAllOn call limit rest depth address (place + 1)
    return value :: values

end

end Expr

/-- Applies a lambda to arguments on top of the stack: its body starts one level down. -/
def applyLambdaOn (call : AddressedCaller) (limit : Nat) (parameters : List Parameter) (body : Expr)
    (arguments : List Value) (address : Address) : StackM Value := do
  ofOutcome (checkArity parameters arguments)
  onTop parameters arguments (body.evaluateOn call limit 1 address)

/-- Calls a function on a copy of the bindings that it keeps. Calls that bodies make in turn nest
no deeper than the budget. -/
def Closure.callOn : Nat → AddressedCaller
  | 0, _, _, _ => .error .exhausted
  | budget + 1, address, closure, arguments =>
    ((applyLambdaOn (callOn budget) closure.limit closure.parameters closure.body arguments
      address).run closure.bindings).1

end PredicateWire
