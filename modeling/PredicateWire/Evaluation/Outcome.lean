/-
This file defines the outcome of an evaluation. An evaluation yields something,
fails with an error, or exhausts the budget of nested function calls that it was
given: predicates can apply functions to themselves, so that some evaluations never
end, and the budget is what makes evaluation total.
-/
import PredicateWire.Error

namespace PredicateWire

/-- Why an evaluation stopped without a result. -/
inductive Halt
  | failed (error : Error)
  | exhausted
deriving DecidableEq

/-- The outcome of an evaluation. -/
abbrev Outcome := Except Halt

namespace Outcome

/-- The outcome that is an error. -/
def fail {Content : Type} (error : Error) : Outcome Content :=
  .error (.failed error)

/-- The outcome that is a type mismatch. -/
def mismatch {Content : Type} (fault : Mismatch) : Outcome Content :=
  fail (.typeMismatch fault)

/-- The outcome that is a failure at run time. -/
def fault {Content : Type} (fault : EvaluationFault) : Outcome Content :=
  fail (.evaluation fault)

/-- The outcome of an operation that needs no budget. -/
def ofResult {Content : Type} : Result Content → Outcome Content
  | .ok content => .ok content
  | .error error => fail error

end Outcome

end PredicateWire
