/-
This file says what it means that an evaluation comes to an end as it should. An
evaluation is given a budget of nested calls, and with too small a budget its outcome is
exhaustion, which says nothing about the expression. So it is asked for the outcome from
some budget on: it has to stay the same, and it has to be a wanted result, a failure at
run time or an excess of depth, but no mismatch of types and no missing symbol.

The definition composes. Two parts of an evaluation that settle make a whole that
settles (`settles_bind`), and a call settles when the body of the called function does
(`settles_callAt`). Nothing else about budgets is needed by the proofs that builders'
types are kept.
-/
import PredicateWire.Evaluation.Basic
import PredicateWire.Proofs.Contracts

namespace PredicateWire

/-- The error is a failure at run time, or the tree is too deep. -/
def Error.IsPermitted (error : Error) : Prop :=
  error.kind = .evaluation ∨ error.kind = .depthExceeded

/-- An evaluation stopped with an error that no typing rules out. -/
def Halt.IsPermitted : Halt → Prop
  | .failed error => error.IsPermitted
  | .exhausted => False

/-- The outcome is a wanted result or an error that no typing rules out. -/
abbrev Lands {Content : Type} (wanted : Content → Prop) (outcome : Outcome Content) : Prop :=
  Meets wanted Halt.IsPermitted outcome

section

variable {First Second : Type}

/-- A failure at run time is permitted, whatever is wanted. -/
theorem lands_fault {wanted : First → Prop} (fault : EvaluationFault) :
    Lands wanted (Outcome.fault fault) :=
  .inl rfl

/-- A result that meets what is wanted, or an error that no typing rules out, lands. -/
theorem lands_ofResult {wanted : First → Prop} {result : Result First}
    (meets : Meets wanted Error.IsPermitted result) : Lands wanted (Outcome.ofResult result) := by
  cases result with
  | ok content => exact meets
  | error error => exact meets

/-! ### Outcomes that settle -/

/-- From some budget on, the outcome is always the same, and it is as it should be. -/
def Settles (wanted : First → Prop) (run : Nat → Outcome First) : Prop :=
  ∃ enough outcome, Lands wanted outcome ∧ ∀ budget, enough ≤ budget → run budget = outcome

/-- An outcome that does not depend on the budget settles from the budget zero on. -/
theorem settles_of_lands {wanted : First → Prop} {outcome : Outcome First}
    (lands : Lands wanted outcome) : Settles wanted fun _ => outcome :=
  ⟨0, outcome, lands, fun _ _ => rfl⟩

/-- A wanted result that is there without an evaluation settles. -/
theorem settles_ok {wanted : First → Prop} {content : First} (holds : wanted content) :
    Settles wanted fun _ => .ok content :=
  settles_of_lands holds

/-- An evaluation in two parts settles when both do, the second one for what the first may yield.
The greater of the two budgets is enough for both. -/
theorem settles_bind {run : Nat → Outcome First} {next : Nat → First → Outcome Second}
    {fits : First → Prop} {wanted : Second → Prop} (first : Settles fits run)
    (second : ∀ content, fits content → Settles wanted fun budget => next budget content) :
    Settles wanted fun budget => run budget >>= next budget := by
  obtain ⟨enough, outcome, lands, same⟩ := first
  cases outcome with
  | error halt =>
    refine ⟨enough, .error halt, lands, fun budget more => ?_⟩
    dsimp only
    rw [same budget more]
    rfl
  | ok content =>
    obtain ⟨further, result, resultLands, sameResult⟩ := second content lands
    refine ⟨max enough further, result, resultLands, fun budget more => ?_⟩
    dsimp only
    rw [same budget (Nat.le_trans (Nat.le_max_left _ _) more)]
    exact sameResult budget (Nat.le_trans (Nat.le_max_right _ _) more)

theorem Settles.weaken {run : Nat → Outcome First} {fits wanted : First → Prop}
    (settles : Settles fits run) (wants : ∀ content, fits content → wanted content) :
    Settles wanted run := by
  obtain ⟨enough, outcome, lands, same⟩ := settles
  exact ⟨enough, outcome, Meets.weaken lands wants fun _ => id, same⟩

/-- A call takes one of the budget away from what the called body may do. So it settles if the body
does, from the next budget on. -/
theorem settles_callAt {closure : Closure} {arguments : List Value} {address : Address}
    {wanted : Value → Prop}
    (body : Settles wanted fun budget => applyLambda (Closure.callAt budget) closure.limit
      closure.parameters closure.body closure.bindings arguments address) :
    Settles wanted fun budget => Closure.callAt budget address closure arguments := by
  obtain ⟨enough, outcome, lands, same⟩ := body
  refine ⟨enough + 1, outcome, lands, fun budget more => ?_⟩
  cases budget with
  | zero => exact absurd more (Nat.not_succ_le_zero _)
  | succ budget => exact same budget (Nat.le_of_succ_le_succ more)

end

end PredicateWire
