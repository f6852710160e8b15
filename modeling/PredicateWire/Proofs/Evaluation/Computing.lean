/-
This file says what the parts of computations on values can fail with, and where what
they yield comes from. Arithmetic on whole numbers and access by an index fail at run
time only, with an error of evaluation: a number is too large, a divisor is zero, an
index is out of bounds. Every item that is found is one of the items that were given, so
what is known of all items is known of it.

The contracts here leave open what else may be expected. Theorems about the types of
values allow nothing but errors of evaluation, and theorems about depths allow
everything except one error; both take the expected errors as an argument and ask only
that they include those.
-/
import PredicateWire.Evaluation.Natives
import PredicateWire.Proofs.Contracts

namespace PredicateWire

section

variable {expected : Error → Prop} (runtime : ∀ fault, expected (.evaluation fault))

/-! ### Whole numbers -/

include runtime

/-- A whole number is in the range of 32 bits, or there is an overflow. -/
theorem meets_checkedInt32 (number : Int) :
    Meets (fun _ => True) expected (checkedInt32 number) := by
  unfold checkedInt32
  split
  · trivial
  · exact runtime _

/-- A whole number is in the range of 64 bits, or there is an overflow. -/
theorem meets_checkedInt64 (number : Int) :
    Meets (fun _ => True) expected (checkedInt64 number) := by
  unfold checkedInt64
  split
  · trivial
  · exact runtime _

namespace BinaryOperator

variable (operator : BinaryOperator)

/-- Exact arithmetic fails for a divisor that is zero and for nothing else. -/
theorem meets_exact (left right : Int) :
    Meets (fun _ => True) expected (operator.exact left right) := by
  unfold exact
  split
  · trivial
  · trivial
  · trivial
  · split
    · exact runtime _
    · trivial
  · split
    · exact runtime _
    · trivial

theorem meets_onInt64 (left right : Int) :
    Meets (fun _ => True) expected (operator.onInt64 left right) := by
  have computed : Meets (fun _ => True) expected
      (do
        let number ← operator.exact left right
        checkedInt64 number) :=
    (operator.meets_exact runtime left right).bind fun number _ => meets_checkedInt64 runtime number
  unfold onInt64
  dsimp only
  split
  · exact (meets_checkedInt64 runtime _).bind fun _ _ => computed
  · exact computed

/-! ### Items -/

/-- The item at an index is one of the items. -/
theorem meets_itemAt {wanted : Value → Prop} {items : List Value}
    (each : ∀ item ∈ items, wanted item) (index : Int) :
    Meets wanted expected (itemAt items index) := by
  unfold itemAt
  split
  · rename_i item found
    split at found
    · cases found
    · exact each item (List.mem_of_getElem? found)
  · exact runtime _

end BinaryOperator

end

/-- The first or the last item is one of the items. -/
theorem Native.mem_of_endOf {which : SequenceEnd} {items : List Value} {item : Value}
    (found : endOf which items = some item) : item ∈ items := by
  cases which with
  | first => exact List.mem_of_head? found
  | last => exact List.mem_of_getLast? found

end PredicateWire
