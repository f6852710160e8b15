/-
This file tells binary nodes apart by how they are evaluated. Three operators may stop
at their left operand: the coalescing one always, and the two logical ones as long as no
method implements them. A node of any other kind is eager. It evaluates both operands,
the left one first, and then combines their values, by the method if there is one and
else by the table of the operator.

There are many operators and four rules, and the definition of evaluation tests for the
rules one after another. Proofs about evaluation split on the rules, with
`evaluation_cases` as the eliminator; the eager case then has one equation
(`evaluateAt_eager`), whatever the operator.
-/
import PredicateWire.Evaluation.Basic

namespace PredicateWire

namespace BinaryOperator

/-- An operator that never stops at its left operand. A method makes the logical operators so. -/
structure Eager (operator : BinaryOperator) (method : Option Method) : Prop where
  andAlso : operator = .andAlso → method ≠ none
  orElse : operator = .orElse → method ≠ none
  coalesce : operator ≠ .coalesce

/-- A method makes every operator eager but the coalescing one, which does not look at it. -/
theorem eager_of_method {operator : BinaryOperator} (heeded : operator ≠ .coalesce)
    (method : Method) : operator.Eager (some method) :=
  ⟨fun _ => nofun, fun _ => nofun, heeded⟩

/-- Nodes are evaluated by one of the rules for operators that may stop, or eagerly. This is the
case split for proofs about evaluation: there is one premise for each rule, and the operators that
always look at both operands share one. -/
@[elab_as_elim]
theorem evaluation_cases {motive : BinaryOperator → Option Method → Prop}
    (andAlso : motive .andAlso none) (orElse : motive .orElse none)
    (coalesce : ∀ method, motive .coalesce method)
    (eager : ∀ operator method, Eager operator method → motive operator method)
    (operator : BinaryOperator) (method : Option Method) : motive operator method := by
  cases operator with
  | andAlso =>
    cases method with
    | none => exact andAlso
    | some method => exact eager _ _ (eager_of_method (by decide) method)
  | orElse =>
    cases method with
    | none => exact orElse
    | some method => exact eager _ _ (eager_of_method (by decide) method)
  | coalesce => exact coalesce method
  | _ => exact eager _ _ ⟨nofun, nofun, nofun⟩

/-- What becomes of the values of both operands. -/
def combine (operator : BinaryOperator) (method : Option Method) (call : Caller)
    (left right : Value) : Outcome Value :=
  match method with
  | some method => method.invoke call none [left, right]
  | none => Outcome.ofResult (operator.apply left right)

end BinaryOperator

namespace Expr

/-- An eager node evaluates its left operand and then its right one, each one level deeper and at
its own address, and combines the values. The node itself must not be too deep; the first operand
that has no value decides. -/
theorem evaluateAt_eager {operator : BinaryOperator} {method : Option Method}
    (eager : operator.Eager method) (call : AddressedCaller) (limit : Nat) (type : DataType)
    (left right : Expr) (conversion : Option Expr) (bindings : Bindings) (depth : Nat)
    (address : Address) :
    (binary operator type left right method conversion).evaluateAt call limit bindings depth
        address =
      (if limit < depth then Outcome.fail (.depthExceeded limit)
      else do
        let left ← left.evaluateAt call limit bindings (depth + 1) (address.operand 0)
        let right ← right.evaluateAt call limit bindings (depth + 1) (address.operand 1)
        operator.combine method (call.within address) left right) := by
  rw [evaluateAt]
  · rfl
  · exact eager.andAlso
  · exact eager.orElse
  · exact eager.coalesce

end Expr

end PredicateWire
