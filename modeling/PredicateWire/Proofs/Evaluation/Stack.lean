/-
This file proves that evaluation on a stack does what evaluation with bindings does, and
that it leaves the stack as it was, whatever the outcome. With bindings, a lambda
extends what it is given and nobody has to take anything back. On a stack the arguments
are pushed and have to be taken off again, also when the body fails, or a later
reference would find what is not there any more.

Work is `BalancedAt` a stack when it has a given outcome there and leaves the stack
unchanged. Work in several steps is balanced if the steps are, one after another. Work
on top of the stack is balanced because what has been pushed is all above the height
that the stack is cut back to. The induction over expressions uses nothing but these
rules, and functions follow by induction on the budget.
-/
import PredicateWire.Evaluation.Stack
import PredicateWire.Proofs.Evaluation.Binary
import PredicateWire.Proofs.Running

namespace PredicateWire

open StackM (ofOutcome onTop)

/-- Cutting a stack back takes off what has been bound on top of it. -/
theorem Bindings.cutTo_extend (stack : Bindings) (parameters : List Parameter)
    (arguments : List Value) : (stack.extend parameters arguments).cutTo stack.length = stack := by
  unfold cutTo extend
  rw [List.length_append, Nat.add_sub_cancel_right, List.drop_left]

namespace StackM

variable {First Second : Type} {stack : Bindings}

/-- Work has an outcome from a stack and leaves the stack as it was. -/
def BalancedAt (stack : Bindings) (work : StackM First) (outcome : Outcome First) : Prop :=
  work.run stack = (outcome, stack)

/-- An outcome that is there already does not touch the stack. -/
theorem balanced_ofOutcome (outcome : Outcome First) :
    BalancedAt stack (ofOutcome outcome) outcome :=
  rfl

theorem balanced_pure (content : First) : BalancedAt stack (pure content) (.ok content) :=
  rfl

/-- Work in two steps is balanced when the steps are, the second one for whatever the first
yields. -/
theorem BalancedAt.bind {work : StackM First} {outcome : Outcome First}
    {next : First → StackM Second} {after : First → Outcome Second}
    (first : BalancedAt stack work outcome)
    (second : ∀ content, BalancedAt stack (next content) (after content)) :
    BalancedAt stack (work >>= next) (outcome >>= after) := by
  unfold BalancedAt at first
  unfold BalancedAt
  rw [Running.run_bind, first]
  cases outcome with
  | error halt => rfl
  | ok content => exact second content

/-- Work may look at the stack that it starts from. -/
theorem balanced_get {next : Bindings → StackM First} {outcome : Outcome First}
    (balanced : BalancedAt stack (next stack) outcome) :
    BalancedAt stack (get >>= next) outcome :=
  balanced

/-- Work with arguments pushed on top of the stack is balanced if it is balanced there: afterwards
the stack is cut back to its height. -/
theorem balanced_onTop {parameters : List Parameter} {arguments : List Value}
    {work : StackM First} {outcome : Outcome First}
    (balanced : BalancedAt (stack.extend parameters arguments) work outcome) :
    BalancedAt stack (onTop parameters arguments work) outcome := by
  have cut : (onTop parameters arguments work).run stack =
      ((work.run (stack.extend parameters arguments)).1,
        (work.run (stack.extend parameters arguments)).2.cutTo stack.length) := rfl
  unfold BalancedAt at balanced
  unfold BalancedAt
  rw [cut, balanced, Bindings.cutTo_extend]

end StackM

open StackM

namespace Expr

variable (call : AddressedCaller) (limit : Nat)

/-- The right operand of a binary operator that has not stopped at the left one is a truth value. -/
theorem balanced_truth {stack : Bindings} {work : StackM Value} {outcome : Outcome Value}
    (balanced : BalancedAt stack work outcome) :
    BalancedAt stack (do
        let value ← work
        return Value.bool (← ofOutcome (truth value)))
      (do
        let value ← outcome
        return Value.bool (← truth value)) :=
  balanced.bind fun value => (balanced_ofOutcome (truth value)).bind fun _ => balanced_pure _

/-- An operator that looks at both operands evaluates them from left to right and then combines
them. -/
theorem evaluateOn_eager {operator : BinaryOperator} {method : Option Method}
    (eager : operator.Eager method) (type : DataType) (left right : Expr)
    (conversion : Option Expr) (depth : Nat) (address : Address) :
    (binary operator type left right method conversion).evaluateOn call limit depth address =
      (if limit < depth then ofOutcome (Outcome.fail (.depthExceeded limit))
      else do
        let left ← left.evaluateOn call limit (depth + 1) (address.operand 0)
        let right ← right.evaluateOn call limit (depth + 1) (address.operand 1)
        ofOutcome (operator.combine method (call.within address) left right)) := by
  rw [evaluateOn]
  · cases method <;> rfl
  · exact eager.andAlso
  · exact eager.orElse
  · exact eager.coalesce

mutual

/-- By induction on the expression: every node is made of balanced work. -/
theorem balanced_evaluateOn : ∀ (expression : Expr) (stack : Bindings) (depth : Nat)
    (address : Address), BalancedAt stack (expression.evaluateOn call limit depth address)
      (expression.evaluateAt call limit stack depth address)
  | expression, stack, depth, address => by
    by_cases deep : limit < depth
    · unfold evaluateOn evaluateAt
      rw [if_pos deep, if_pos deep]
      exact balanced_ofOutcome _
    · cases expression with
      | lambda type parameters body name tailCall =>
        rw [evaluateOn, evaluateAt, if_neg deep, if_neg deep]
        exact balanced_get (balanced_pure _)
      | parameter referenced =>
        rw [evaluateOn, evaluateAt, if_neg deep, if_neg deep]
        refine balanced_get ?_
        cases stack.get? referenced with
        | some value => exact balanced_pure value
        | none => exact balanced_ofOutcome _
      | binary operator type left right method conversion =>
        have lefts := balanced_evaluateOn left stack (depth + 1) (address.operand 0)
        have rights := balanced_evaluateOn right stack (depth + 1) (address.operand 1)
        cases operator, method using BinaryOperator.evaluation_cases with
        | andAlso =>
          rw [evaluateOn, evaluateAt, if_neg deep, if_neg deep]
          refine lefts.bind fun value => (balanced_ofOutcome (truth value)).bind fun holds => ?_
          cases holds with
          | false => exact balanced_pure _
          | true => exact balanced_truth rights
        | orElse =>
          rw [evaluateOn, evaluateAt, if_neg deep, if_neg deep]
          refine lefts.bind fun value => (balanced_ofOutcome (truth value)).bind fun holds => ?_
          cases holds with
          | true => exact balanced_pure _
          | false => exact balanced_truth rights
        | coalesce method =>
          rw [evaluateOn, evaluateAt, if_neg deep, if_neg deep]
          refine lefts.bind fun value => ?_
          split
          · exact rights
          · cases conversion with
            | none => exact balanced_pure value
            | some converter =>
              cases converter with
              | lambda type parameters body name tailCall =>
                exact (balanced_ofOutcome (checkArity parameters [value])).bind fun _ =>
                  balanced_onTop (balanced_evaluateOn body _ _ _)
              | _ => exact balanced_ofOutcome _
        | eager operator method eager =>
          rw [evaluateOn_eager _ _ eager, evaluateAt_eager eager, if_neg deep, if_neg deep]
          exact lefts.bind fun _ => rights.bind fun _ => balanced_ofOutcome _
      | member target read =>
        rw [evaluateOn, evaluateAt, if_neg deep, if_neg deep]
        exact (balanced_evaluateOn target stack _ _).bind fun _ => balanced_ofOutcome _
      | constant value type =>
        rw [evaluateOn, evaluateAt, if_neg deep, if_neg deep]
        exact balanced_pure value
      | call target method arguments =>
        rw [evaluateOn, evaluateAt, if_neg deep, if_neg deep]
        exact (balanced_evaluateTargetOn target stack _ _).bind fun _ =>
          (balanced_evaluateAllOn arguments stack _ _ _).bind fun _ => balanced_ofOutcome _
      | construct constructor arguments =>
        rw [evaluateOn, evaluateAt, if_neg deep, if_neg deep]
        exact (balanced_evaluateAllOn arguments stack _ _ _).bind fun _ => balanced_ofOutcome _
      | arrayInit type elements =>
        rw [evaluateOn, evaluateAt, if_neg deep, if_neg deep]
        exact (balanced_evaluateAllOn elements stack _ _ _).bind fun _ => balanced_pure _
      | unary operator type operand =>
        rw [evaluateOn, evaluateAt, if_neg deep, if_neg deep]
        exact (balanced_evaluateOn operand stack _ _).bind fun _ => balanced_ofOutcome _

theorem balanced_evaluateTargetOn : ∀ (target : Option Expr) (stack : Bindings) (depth : Nat)
    (address : Address), BalancedAt stack (evaluateTargetOn call limit target depth address)
      (evaluateTarget call limit target stack depth address)
  | none, _, _, _ => by
    rw [evaluateTargetOn, evaluateTarget]
    exact balanced_pure none
  | some target, stack, depth, address => by
    rw [evaluateTargetOn, evaluateTarget]
    exact (balanced_evaluateOn target stack depth address).bind fun _ => balanced_pure _

theorem balanced_evaluateAllOn : ∀ (expressions : List Expr) (stack : Bindings) (depth : Nat)
    (address : Address) (place : Nat),
      BalancedAt stack (evaluateAllOn call limit expressions depth address place)
        (evaluateAll call limit expressions stack depth address place)
  | [], _, _, _, _ => by
    rw [evaluateAllOn, evaluateAll]
    exact balanced_pure []
  | expression :: rest, stack, depth, address, place => by
    rw [evaluateAllOn, evaluateAll]
    exact (balanced_evaluateOn expression stack depth _).bind fun _ =>
      (balanced_evaluateAllOn rest stack depth address (place + 1)).bind fun _ => balanced_pure _

end

end Expr

/-- A lambda applied on a stack leaves the stack as it was, although it pushes its arguments. -/
theorem balanced_applyLambdaOn (call : AddressedCaller) (limit : Nat) (parameters : List Parameter)
    (body : Expr) (stack : Bindings) (arguments : List Value) (address : Address) :
    BalancedAt stack (applyLambdaOn call limit parameters body arguments address)
      (applyLambda call limit parameters body stack arguments address) :=
  (balanced_ofOutcome (checkArity parameters arguments)).bind fun _ =>
    balanced_onTop (body.balanced_evaluateOn call limit _ 1 address)

/-- A function that works on a copy of its bindings is called to the same effect. -/
theorem Closure.callOn_eq (budget : Nat) : callOn budget = callAt budget := by
  induction budget with
  | zero => rfl
  | succ budget inductionHypothesis =>
    funext address closure arguments
    have balanced := balanced_applyLambdaOn (callOn budget) closure.limit closure.parameters
      closure.body closure.bindings arguments address
    rw [callOn, balanced, inductionHypothesis]
    rfl

/-- An expression has the same outcome on a stack, and the stack is afterwards as it was before,
whether or not the expression has a value. -/
theorem Expr.run_evaluateOn (budget limit : Nat) (expression : Expr) (stack : Bindings)
    (depth : Nat) (address : Address) :
    (expression.evaluateOn (Closure.callOn budget) limit depth address).run stack =
      (expression.evaluateAt (Closure.callAt budget) limit stack depth address, stack) := by
  rw [Closure.callOn_eq]
  exact expression.balanced_evaluateOn (Closure.callAt budget) limit stack depth address

end PredicateWire
