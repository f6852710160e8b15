/-
This file proves that evaluation stays within its depth limit when the expression does.
Excess of depth is the only error that is not expected here, so bodies may fail as they
like, and the general theorem on what evaluation stops with is applied with all errors
but one allowed.

What has to be said about an expression is that it has no more levels than the limit,
and that its constants hold no functions. The second condition is not idle. A function
value carries an expression, a limit and bindings of its own and starts again at depth
one; one that was put into a constant by hand could be as deep as it likes. Constants
that were read from a document are plain, so a received predicate meets the condition.
-/
import PredicateWire.Proofs.Evaluation.Faults

namespace PredicateWire

/-- The value of a constant is plain. Other nodes have none to look at. -/
def Expr.PlainConstant : Expr → Prop
  | constant value _ => value.Plain
  | _ => True

/-- The body of a lambda can be evaluated within a limit. -/
structure Expr.Runs (limit : Nat) (body : Expr) : Prop where
  levels : body.levels ≤ limit
  constants : ∀ node ∈ body.nodes, node.PlainConstant

/-- An evaluation stopped because of its depth. -/
def Halt.IsDepth : Halt → Prop
  | .failed error => error.IsDepth
  | .exhausted => False

/-- A computation yields what is wanted, unless it stops for a reason other than its depth. -/
abbrev Stays {Content : Type} (wanted : Content → Prop) (outcome : Outcome Content) : Prop :=
  Meets wanted (fun halt : Halt => ¬halt.IsDepth) outcome

namespace Expectation

/-- Every error but an excess of depth is expected. -/
def shallow : Expectation where
  expects := fun error => ¬error.IsDepth
  runtime := fun _ deep => nomatch deep
  mismatch := fun _ deep => nomatch deep

/-- A body names fields at worst, so what it fails with is never an excess of depth. -/
theorem within_shallow (native : Native) : native.Within shallow := by
  intro error misnames deep
  cases native with
  | assemble typeName fields names =>
    obtain ⟨name, _, _, rfl⟩ := misnames
    cases deep
  | _ => exact misnames

/-- A node fails because of depth only through functions in a constant, and there are none in a
plain one. -/
theorem steady_shallow {node : Expr} (plain : node.PlainConstant) : node.Steady shallow := by
  cases node with
  | binary operator type left right method conversion => exact fun _ _ => within_shallow _
  | member target read => exact fun _ _ => within_shallow _
  | constant value type => exact plain
  | call target method arguments => exact within_shallow _
  | construct constructor arguments => exact within_shallow _
  | _ => trivial

end Expectation

open Expectation

/-- A predicate whose body fits its limit does not fail because of its depth, whatever plain value
it is asked about and whatever the budget for nested calls is. -/
theorem Predicate.stays_call {predicate : Predicate}
    (runs : predicate.lambda.body.Runs predicate.lambda.limit) {input : Value} (plain : input.Plain)
    (budget : Nat) (address : Address) :
    Stays (fun _ => True) (predicate.call budget input address) := by
  have within : predicate.lambda.body.RunsWithin shallow predicate.lambda.limit :=
    ⟨runs.levels, fun node member => steady_shallow (runs.constants node member)⟩
  refine (predicate.stops_call within plain budget address).weaken (fun _ => id) fun halt among => ?_
  cases halt with
  | failed error => exact among
  | exhausted => exact id

end PredicateWire
