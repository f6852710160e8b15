/-
This file computes the remainder of two doubles. The remainder is exact: both
operands are whole multiples of a common power of two, the remainder of the
multiples is taken, and it fits a double again. It has the sign of the dividend.
-/
import PredicateWire.Decimal.Shortest

namespace PredicateWire.Decimal

/-- The remainder of two positive finite doubles as a multiple of a power of two. -/
def Binary.remainder (dividend divisor : Binary) : Nat × Int :=
  let unit := min dividend.exponent divisor.exponent
  let multiple := dividend.significand * Nat.pow 2 (dividend.exponent - unit).toNat
  let modulus := divisor.significand * Nat.pow 2 (divisor.exponent - unit).toNat
  (multiple % modulus, unit)

/-- The double `multiple * 2 ^ unit` with a sign, where the multiple has at most 53 bits and the
unit is that of a double. The multiple is shifted up as far as the significand and the exponent
of a double allow. -/
def ofMultiple (negative : Bool) (multiple : Nat) (unit : Int) : Float :=
  let sign := if negative then 0x8000000000000000 else 0
  if multiple = 0 then Float.ofBits (UInt64.ofNat sign)
  else
    let shift := min (52 - multiple.log2) (unit + 1074).toNat
    let exponent := (unit + 1074).toNat - shift
    Float.ofBits (UInt64.ofNat (sign + multiple * Nat.pow 2 shift + exponent * 0x10000000000000))

/-- The remainder of a division that truncates. There is none when the dividend is infinite or
the divisor is zero, and an infinite divisor leaves the dividend as it is. -/
def remainder (dividend divisor : Float) : Float :=
  match magnitude dividend, magnitude divisor with
  | .notANumber, _ => dividend
  | _, .notANumber => divisor
  | .infinite, _ => 0.0 / 0.0
  | _, .zero => 0.0 / 0.0
  | .zero, _ => dividend
  | _, .infinite => dividend
  | .finite left, .finite right =>
    let (multiple, unit) := left.remainder right
    ofMultiple (isNegative dividend) multiple unit

end PredicateWire.Decimal
