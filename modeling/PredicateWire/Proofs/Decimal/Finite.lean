/-
This file proves that whole numbers of 64 bits are finite as doubles, and that the
negative of a finite double is finite. A constant that is no finite number cannot be
written, so these are the facts that let a number which was read be written again.

Doubles are taken apart here into a sign, a significand and an exponent, as the library
defines its operations. `Below` bounds the significand by a number of bits and the
exponent by a number. No operation is followed exactly; each is only shown to move the
two bounds by so much. Rounding moves the exponent up by no more than the number of bits
of the significand, a product adds both bounds, and from the 64 bits of a whole number
this stays far below the largest exponent that there is.
-/
import Mathlib.Algebra.Group.Int.Defs
import Mathlib.Algebra.Group.Nat.Defs
import Mathlib.Data.Int.Order.Basic
import PredicateWire.Decimal.Shortest

namespace PredicateWire.Decimal

open Float.Model (Format UnpackedFloat totalExponent)
open Float.Model.UnpackedFloat

/-! ### Bits -/

/-- A double is finite unless all bits of its exponent are set. -/
theorem isFinite_iff (number : Float) : isFinite number = true ↔
    @unpackExponent .binary64 number.toBits.toBitVec ≠ -1#11 := by
  have field : (@unpackExponent .binary64 number.toBits.toBitVec).toNat =
      number.toBits.toNat % 0x8000000000000000 / 0x10000000000000 := by
    simp [unpackExponent, BitVec.extractLsb, Nat.shiftRight_eq_div_pow]
    omega
  have largest : (-1#11).toNat = 2047 := rfl
  rw [ne_eq, ← BitVec.toNat_inj, field, largest, isFinite, magnitude]
  by_cases biased : number.toBits.toNat % 0x8000000000000000 / 0x10000000000000 = 2047
  · simp only [biased, if_true]
    split_ifs <;> simp
  · simp only [biased, if_false]
    split_ifs <;> simp

/-- A double that has been taken apart is zero, or finite with a significand of so many bits and
an exponent of at most a bound. -/
inductive Below (bits : Nat) (bound : Int) : UnpackedFloat → Prop
  | zero (sign : Sign) : Below bits bound (.zero sign)
  | finite {sign : Sign} {mantissa : Nat} {exponent : Int} {positive : 0 < mantissa}
    (small : mantissa < 2 ^ bits) (within : exponent ≤ bound) :
    Below bits bound (.finite sign mantissa exponent positive)

variable {bits moreBits : Nat} {bound greater : Int} {number : UnpackedFloat}

/-- A bound for the bits and the exponent of a double may be raised. -/
theorem Below.weaken (fewer : bits ≤ moreBits) (less : bound ≤ greater)
    (below : Below bits bound number) : Below moreBits greater number := by
  cases below with
  | zero sign => exact .zero sign
  | finite small within =>
    exact .finite (Nat.lt_of_lt_of_le small (Nat.pow_le_pow_right (by decide) fewer))
      (Int.le_trans within less)

theorem Below.neg (below : Below bits bound number) : Below bits bound number.neg := by
  cases below with
  | zero sign => exact .zero _
  | finite small within => exact .finite small within

/-- The exponent that is written for a double is the one that it has, or zero if this is too small
for the format. -/
theorem unpackExponent_pack (below : Below bits bound number) (largest : bound ≤ 971)
    (least : -1075 ≤ bound) :
    (@unpackExponent .binary64 (UnpackedFloat.pack .binary64 number)).toNat ≤ bound + 1075 := by
  cases below with
  | zero sign =>
    show ((@unpackExponent .binary64 (packComponents .binary64 sign 0 0)).toNat : Int) ≤ _
    rw [unpackExponent_packComponents]
    show ((0 : Nat) : Int) ≤ _
    omega
  | @finite sign mantissa exponent positive small within =>
    have limited : ((exponent + Format.binary64.exponentBias +
        Format.binary64.mantissaBitsWithoutImplicit).toNat : Int) ≤ bound + 1075 := by
      show ((exponent + (1023 : Nat) + (52 : Nat)).toNat : Int) ≤ bound + 1075
      omega
    delta UnpackedFloat.pack
    dsimp only
    generalize (exponent + Format.binary64.exponentBias +
      Format.binary64.mantissaBitsWithoutImplicit).toNat = biased at limited
    have notInfinite : ¬2 ^ Format.binary64.exponentBits ≤ biased + 1 := by
      show ¬2 ^ 11 ≤ biased + 1
      omega
    rw [if_neg notInfinite]
    split
    · rw [unpackExponent_packComponents, BitVec.toNat_ofNat]
      exact Int.le_trans (Int.ofNat_le.mpr (Nat.mod_le _ _)) limited
    · rw [unpackExponent_packComponents]
      show ((0 : Nat) : Int) ≤ _
      omega

/-- No exponent up to 971 is written with all bits set, as the exponent of an infinite double is. -/
theorem unpackExponent_pack_ne (below : Below bits bound number) (largest : bound ≤ 971)
    (least : -1075 ≤ bound) :
    @unpackExponent .binary64 (UnpackedFloat.pack .binary64 number) ≠ -1#11 := by
  intro same
  have limited := unpackExponent_pack below largest least
  rw [same] at limited
  have : (2047 : Int) ≤ bound + 1075 := limited
  omega

/-- A double is finite if it is put together from an exponent that is not too large. -/
theorem isFinite_pack (below : Below bits 971 number) :
    isFinite (Float.ofModel (Float.Model.pack number)) = true :=
  (isFinite_iff _).mpr (unpackExponent_pack_ne below (by decide) (by decide))

/-- What is taken apart has a significand of 53 bits, and the exponent that its bits stand for. -/
theorem below_unpack_of {packed : BitVec Format.binary64.numBits}
    (finite : @unpackExponent .binary64 packed ≠ -1#11)
    (within : (max 1 (@unpackExponent .binary64 packed).toNat : Int) - 1075 ≤ bound) :
    Below 53 bound (UnpackedFloat.unpack .binary64 packed) := by
  delta UnpackedFloat.unpack
  dsimp only
  rw [if_neg finite]
  by_cases least : @unpackExponent .binary64 packed = 0#11
  · rw [if_pos least]
    by_cases empty : @unpackMantissa .binary64 packed = 0#52
    · rw [dif_pos empty]
      exact .zero _
    · rw [dif_neg empty]
      refine .finite (Nat.lt_trans (BitVec.isLt _) (by decide)) ?_
      rw [least] at within ⊢
      exact within
  · rw [if_neg least]
    refine .finite (BitVec.isLt _) (Int.le_trans ?_ within)
    show _ - (1023 + 52 : Int) ≤ _
    omega

/-- The exponent of a finite double that is taken apart is not too large. -/
theorem below_unpack {number : Float} (finite : isFinite number = true) :
    Below 53 971 number.toModel.unpack := by
  rw [isFinite_iff] at finite
  refine below_unpack_of finite ?_
  have bounded : (@unpackExponent .binary64 number.toBits.toBitVec).toNat < 2 ^ 11 :=
    BitVec.isLt _
  have different : (@unpackExponent .binary64 number.toBits.toBitVec).toNat ≠ 2047 :=
    fun same => finite (BitVec.eq_of_toNat_eq same)
  show (max 1 (@unpackExponent .binary64 number.toBits.toBitVec).toNat : Int) - 1075 ≤ 971
  omega

/-- Putting a double together and taking it apart again keeps its exponent bounded. -/
theorem below_unpack_pack (below : Below bits bound number) (largest : bound ≤ 971)
    (least : -1074 ≤ bound) : Below 53 bound (Float.Model.pack number).unpack := by
  have limited := unpackExponent_pack below largest (by omega)
  refine below_unpack_of (unpackExponent_pack_ne below largest (by omega)) ?_
  show (max 1 (@unpackExponent .binary64 (UnpackedFloat.pack .binary64 number)).toNat : Int) -
    1075 ≤ bound
  omega

/-- The negative of a finite double is finite. -/
theorem isFinite_neg {number : Float} (finite : isFinite number = true) :
    isFinite (-number) = true :=
  isFinite_pack (below_unpack finite).neg

/-! ### Rounding -/

theorem roundToNearestEven_le (mantissa : Nat) (accuracy : Accuracy) :
    accuracy.roundToNearestEven mantissa ≤ mantissa + 1 := by
  unfold Accuracy.roundToNearestEven
  split <;> omega

/-- Shifting to the right does not make a significand larger. -/
theorem mantissa_shiftRight_le (extended : ExtendedMantissa) (places : Nat) :
    (extended >>> places).mantissa ≤ extended.mantissa := by
  show (places.repeat ExtendedMantissa.shiftRightOne extended).mantissa ≤ extended.mantissa
  induction places with
  | zero => exact Nat.le_refl _
  | succ places inductionHypothesis =>
    exact Nat.le_trans (Nat.div_le_self _ _) inductionHypothesis

theorem mantissa_ofMantissaAndAccuracy (mantissa : Nat) (accuracy : Accuracy) :
    (ExtendedMantissa.ofMantissaAndAccuracy mantissa accuracy).mantissa = mantissa := by
  unfold ExtendedMantissa.ofMantissaAndAccuracy
  split <;> rfl

theorem log2_le {mantissa : Nat} (small : mantissa < 2 ^ bits) : mantissa.log2 ≤ bits := by
  by_cases zero : mantissa = 0
  · rw [zero]
    exact Nat.zero_le _
  · exact Nat.le_of_lt ((Nat.log2_lt zero).mpr small)

/-- Shifting drops bits of the significand, and the exponent grows by no more than there are. -/
theorem shiftToTargetExponent_le {mantissa : Nat} (small : mantissa < 2 ^ bits) {exponent : Int}
    (within : exponent ≤ bound) (least : -1074 ≤ bound) (accuracy : Accuracy) :
    (shiftToTargetExponent .binary64 mantissa exponent accuracy).1.mantissa ≤ mantissa ∧
      (shiftToTargetExponent .binary64 mantissa exponent accuracy).2 ≤ bound + bits := by
  have target : Format.targetExponent .binary64 (totalExponent mantissa exponent) =
      max (mantissa.log2 + 1 + exponent - (53 : Nat)) (-1074) := rfl
  have length := log2_le small
  unfold shiftToTargetExponent shiftToExponent
  simp only
  rw [target]
  refine ⟨?_, by omega⟩
  exact Nat.le_trans (mantissa_shiftRight_le _ _)
    (Nat.le_of_eq (mantissa_ofMantissaAndAccuracy mantissa accuracy))

/-- Rounding shifts twice, the second time for the bit that rounding up may have added. -/
theorem below_roundWithAccuracy (sign : Sign) {mantissa : Nat} (small : mantissa < 2 ^ bits)
    {exponent : Int} (within : exponent ≤ bound) (least : -1074 ≤ bound) (accuracy : Accuracy) :
    Below (bits + 1) (bound + bits + (bits + 1 : Nat))
      (roundWithAccuracy .binary64 sign mantissa exponent accuracy) := by
  obtain ⟨shifted, moved⟩ := shiftToTargetExponent_le small within least accuracy
  unfold roundWithAccuracy
  generalize shiftToTargetExponent .binary64 mantissa exponent accuracy = first at shifted moved ⊢
  dsimp only
  have rounded : first.1.roundedMantissa < 2 ^ (bits + 1) := by
    have added : first.1.roundedMantissa ≤ first.1.mantissa + 1 := roundToNearestEven_le _ _
    have double : 2 ^ (bits + 1) = 2 ^ bits * 2 := Nat.pow_succ ..
    omega
  obtain ⟨shiftedAgain, movedAgain⟩ :=
    shiftToTargetExponent_le rounded moved (by omega) .exact
  generalize shiftToTargetExponent .binary64 first.1.roundedMantissa first.2 .exact = second
    at shiftedAgain movedAgain ⊢
  by_cases zero : second.1.mantissa = 0
  · rw [dif_pos zero]
    exact .zero sign
  · rw [dif_neg zero]
    exact .finite (Nat.lt_of_le_of_lt shiftedAgain rounded) movedAgain

/-- The bounds of a product: those of the factors added up, and what rounding adds to them. -/
theorem below_mul {left right : UnpackedFloat} (leftBelow : Below bits bound left)
    (rightBelow : Below moreBits greater right) (least : -1074 ≤ bound + greater) :
    Below (bits + moreBits + 1)
      (bound + greater + (bits + moreBits : Nat) + (bits + moreBits + 1 : Nat))
      (UnpackedFloat.mul .binary64 left right) := by
  cases leftBelow with
  | zero sign =>
    cases rightBelow with
    | zero other => exact .zero _
    | finite small within => exact .zero _
  | finite small within =>
    cases rightBelow with
    | zero sign => exact .zero _
    | finite otherSmall otherWithin =>
      have product := Nat.mul_lt_mul'' small otherSmall
      rw [← Nat.pow_add] at product
      exact below_roundWithAccuracy _ product (Int.add_le_add within otherWithin) least _

/-! ### Whole numbers -/

/-- A whole number is widened to 53 bits before it is rounded. -/
theorem below_ofNat {whole : Nat} (small : whole < 2 ^ bits) :
    Below (bits + 53) ((bits + 52 : Nat) + (bits + 53 : Nat))
      (UnpackedFloat.ofNat .binary64 whole) := by
  unfold UnpackedFloat.ofNat UnpackedFloat.ofInt UnpackedFloat.normalize
  split
  · rename_i negative
    exact absurd (compare_lt_iff_lt.mp negative) (Int.not_lt.mpr (Int.natCast_nonneg whole))
  · exact .zero _
  · have target : Format.targetExponent .binary64 (totalExponent whole 0) =
        max ((whole.log2 : Int) + 1 + 0 - (53 : Nat)) (-1074) := rfl
    have few : (0 - Format.targetExponent .binary64 (totalExponent whole 0)).toNat ≤ 52 := by
      rw [target]
      omega
    unfold UnpackedFloat.round decreaseExponent
    simp only [Int.toNat_natCast]
    generalize (0 - Format.targetExponent .binary64 (totalExponent whole 0)).toNat = places at few ⊢
    have widened : whole <<< places < 2 ^ (bits + 52) := by
      rw [Nat.shiftLeft_eq, Nat.pow_add]
      exact Nat.mul_lt_mul_of_lt_of_le small (Nat.pow_le_pow_right (by decide) few)
        (Nat.two_pow_pos 52)
    have within : (0 : Int) - places ≤ 0 := by omega
    have rounded := below_roundWithAccuracy .positive widened within (by decide) .exact
    rw [Int.zero_add] at rounded
    exact rounded

/-- A whole number without an exponent is widened and multiplied with one. -/
theorem below_ofScientific {whole : Nat} (small : whole < 2 ^ bits) :
    Below (bits + 55) (2 * bits + 56) (UnpackedFloat.ofScientific .binary64 whole (0 : Nat)) := by
  unfold UnpackedFloat.ofScientific
  by_cases zero : whole = 0
  · rw [dif_pos zero]
    exact .zero _
  · have positive :
        ¬((0 : Nat) : Int) < -((2 ^ Format.binary64.exponentBits : Int) + whole.log2) := by
      show ¬((0 : Nat) : Int) < -((2048 : Int) + whole.log2)
      omega
    have widened : whole <<< Format.mantissaBits .binary64 < 2 ^ (bits + 53) := by
      rw [Nat.shiftLeft_eq, Nat.pow_add]
      exact Nat.mul_lt_mul_of_pos_right small (by decide)
    have one : 10 ^ (0 : Nat) < 2 ^ 1 := by decide
    rw [dif_neg zero, if_neg (by decide), if_neg positive, if_pos (by decide)]
    refine (below_mul (.finite widened (Int.le_refl _)) (.finite one (Int.le_refl _))
      (by decide)).weaken (Nat.le_refl _) ?_
    show -(53 : Int) + 0 + (bits + 53 + 1 : Nat) + (bits + 53 + 1 + 1 : Nat) ≤ 2 * bits + 56
    omega

/-- The double of a whole number of 64 bits is finite. Below 53 bits it is a product with one. -/
theorem isFinite_ofNat {whole : Nat} (small : whole < 2 ^ 64) :
    isFinite (Float.ofNat whole) = true := by
  show isFinite (Float.ofScientific whole false 0) = true
  rw [Float.ofScientific]
  split
  · rename_i fast
    have kept : whole.toUInt64.toNat = whole := by
      rw [Nat.toUInt64_eq, UInt64.toNat_ofNat_of_lt' small]
    have packed : whole.toUInt64.toFloat.toModel =
        Float.Model.pack (UnpackedFloat.ofNat .binary64 whole) := by
      show Float.Model.pack (UnpackedFloat.ofNat .binary64 whole.toUInt64.toNat) = _
      rw [kept]
    have converted : Below 53 211 whole.toUInt64.toFloat.toModel.unpack := by
      rw [packed]
      exact below_unpack_pack (below_ofNat fast.1) (by decide) (by decide)
    have one : Below 53 (-52) (Float.Model.ofBits 0x3FF0000000000000).unpack :=
      .finite (by decide) (by decide)
    exact isFinite_pack ((below_mul converted one (by decide)).weaken (Nat.le_refl _) (by decide))
  · exact isFinite_pack ((below_ofScientific small).weaken (Nat.le_refl _) (by decide))

/-- The double of a whole number of 64 bits with or without a sign is finite. -/
theorem isFinite_ofInt {number : Int} (least : -0x8000000000000000 ≤ number)
    (greatest : number < 0x10000000000000000) : isFinite (Float.ofInt number) = true := by
  cases number with
  | ofNat whole => exact isFinite_ofNat (Int.ofNat_lt.mp greatest)
  | negSucc whole => exact isFinite_neg (isFinite_ofNat (by omega))

end PredicateWire.Decimal
