/-
This file says which numbers have an order. Two doubles are ordered unless one of them
is no number. Whole numbers are finite as doubles, so they can be compared with every
double that is a number. Infinities have an order too, since they are greater or less
than every number.

The comparison of doubles is that of the model of floating-point numbers that they are
taken apart into, and it has an answer for everything but what is no number. That a
whole number does not become one when it is converted follows from its being finite, and
this from the bounds on rounding.
-/
import PredicateWire.Proofs.Decimal.Order
import PredicateWire.Proofs.Evaluation.Operands

namespace PredicateWire

namespace Value

/-- Doubles are ordered as they are when they are taken apart. -/
theorem compareDoubles?_eq (left right : Float) :
    compareDoubles? left right = left.toModel.unpack.compare right.toModel.unpack := by
  unfold compareDoubles?
  simp only [Decimal.lt_iff, Decimal.beq_iff, Decimal.compare_swap left.toModel.unpack]
  rcases left.toModel.unpack.compare right.toModel.unpack with _ | (_ | _ | _) <;> rfl

/-- Two doubles have an order unless one of them is no number. -/
theorem compareDoubles?_eq_none (left right : Float) :
    compareDoubles? left right = none ↔ left.isNaN = true ∨ right.isNaN = true := by
  rw [compareDoubles?_eq]
  exact Decimal.compare_eq_none _ _

/-! ### Numbers -/

/-- The value is a double that is no number. -/
def isNaN : Value → Bool
  | double number => number.isNaN
  | _ => false

/-- A 32-bit number is a number as a double, since it is finite there. -/
theorem isNaN_ofInt32 (number : Int32) : (Float.ofInt number.toInt).isNaN = false := by
  have least := number.le_toInt
  have greatest := number.toInt_lt
  exact Decimal.isNaN_of_isFinite (Decimal.isFinite_ofInt (by omega) (by omega))

/-- So is a 64-bit number, though it may be rounded. -/
theorem isNaN_ofInt64 (number : Int64) : (Float.ofInt number.toInt).isNaN = false := by
  have least := number.le_toInt
  have greatest := number.toInt_lt
  exact Decimal.isNaN_of_isFinite (Decimal.isFinite_ofInt (by omega) (by omega))

/-- Two numbers have an order unless one of them is no number. -/
theorem compare?_numbers {first second : Value} {left right : Primitive}
    (firstKind : first.primitive? = some left) (firstNumeric : left.isNumeric = true)
    (secondKind : second.primitive? = some right) (secondNumeric : right.isNumeric = true) :
    first.compare? second = none ↔ first.isNaN = true ∨ second.isNaN = true := by
  rcases number_cases firstKind firstNumeric with
      ⟨number, rfl, rfl⟩ | ⟨number, rfl, rfl⟩ | ⟨number, rfl, rfl⟩ <;>
    rcases number_cases secondKind secondNumeric with
      ⟨other, rfl, rfl⟩ | ⟨other, rfl, rfl⟩ | ⟨other, rfl, rfl⟩ <;>
    first
    | (show compareDoubles? _ _ = none ↔ _
       simp only [compareDoubles?_eq_none, isNaN_ofInt32, isNaN_ofInt64, isNaN])
    | exact ⟨nofun, fun either => either.elim nofun nofun⟩

end Value

end PredicateWire
