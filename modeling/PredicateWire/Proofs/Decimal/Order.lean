/-
This file says how doubles are ordered. Two doubles are compared by what they are taken
apart into, and this fails only if one of them is no number. Which of the two comes
first matters neither for that nor for whether they are equal. Everything that is proved
elsewhere about the order and the equality of values with numbers in them rests on the
four facts here: swapping swaps the order, there is none just for what is no number,
equality is symmetric, and what is a number equals itself. The last one is not to be had
by reflection, because a double that is no number does not equal itself, and zero equals
its negative, although their bits differ.
-/
import PredicateWire.Proofs.Decimal.Finite

namespace PredicateWire.Decimal

open Float.Model (UnpackedFloat)

/-- Swapping two doubles swaps how they are ordered. -/
theorem compare_swap (left right : UnpackedFloat) :
    right.compare left = (left.compare right).map Ordering.swap := by
  have inner : ∀ (leftExponent rightExponent : Int) (leftMantissa rightMantissa : Nat),
      (compare rightExponent leftExponent).then (compare rightMantissa leftMantissa) =
        ((compare leftExponent rightExponent).then (compare leftMantissa rightMantissa)).swap := by
    intro leftExponent rightExponent leftMantissa rightMantissa
    rw [Ordering.swap_then, Std.OrientedOrd.eq_swap (a := rightExponent),
      Std.OrientedOrd.eq_swap (a := rightMantissa)]
  rcases left with (_ | _) | _ | (_ | _) | ⟨(_ | _), _, _, _⟩ <;>
    rcases right with (_ | _) | _ | (_ | _) | ⟨(_ | _), _, _, _⟩ <;>
    first
    | rfl
    | exact congrArg some (inner _ _ _ _)
    | exact congrArg some (congrArg Ordering.swap (inner _ _ _ _))

/-- Two doubles are ordered unless one of them is no number. -/
theorem compare_eq_none (left right : UnpackedFloat) :
    left.compare right = none ↔ left.isNaN = true ∨ right.isNaN = true := by
  rcases left with (_ | _) | _ | (_ | _) | ⟨(_ | _), _, _, _⟩ <;>
    rcases right with (_ | _) | _ | (_ | _) | ⟨(_ | _), _, _, _⟩ <;>
    first
    | exact iff_of_true rfl (.inl rfl)
    | exact iff_of_true rfl (.inr rfl)
    | exact iff_of_false (Option.some_ne_none _)
        (not_or.mpr ⟨Bool.false_ne_true, Bool.false_ne_true⟩)

/-- One double is less than another just when taking them apart and comparing says so. -/
theorem lt_iff (left right : Float) :
    left < right ↔ left.toModel.unpack.compare right.toModel.unpack = some .lt := by
  show decide (left.toModel < right.toModel) = true ↔ _
  rw [decide_eq_true_iff]
  exact beq_iff_eq

/-- Two doubles are equal just when taking them apart and comparing says so. Their bits may differ:
zero has two forms. -/
theorem beq_iff (left right : Float) :
    (left == right) = true ↔ left.toModel.unpack.compare right.toModel.unpack = some .eq :=
  beq_iff_eq (a := left.toModel.unpack.compare right.toModel.unpack)

/-- Equality of doubles is symmetric. -/
theorem beq_comm (left right : Float) : (left == right) = (right == left) := by
  rw [Bool.eq_iff_iff, beq_iff, beq_iff,
    compare_swap left.toModel.unpack right.toModel.unpack]
  rcases left.toModel.unpack.compare right.toModel.unpack with _ | (_ | _ | _) <;> decide

/-- A double that is a number equals itself. -/
theorem beq_self {number : Float} (isNumber : number.isNaN = false) :
    (number == number) = true := by
  rw [beq_iff]
  have same := compare_swap number.toModel.unpack number.toModel.unpack
  have ordered := mt (compare_eq_none number.toModel.unpack number.toModel.unpack).mp
    (not_or.mpr ⟨ne_true_of_eq_false isNumber, ne_true_of_eq_false isNumber⟩)
  rcases compared : number.toModel.unpack.compare number.toModel.unpack with _ | (_ | _ | _)
  · exact absurd compared ordered
  · rw [compared] at same
    cases same
  · rfl
  · rw [compared] at same
    cases same

theorem isNaN_of_isFinite {number : Float} (finite : isFinite number = true) :
    number.isNaN = false := by
  have below := below_unpack finite
  show number.toModel.unpack.isNaN = false
  generalize number.toModel.unpack = taken at below ⊢
  cases below <;> rfl

end PredicateWire.Decimal
