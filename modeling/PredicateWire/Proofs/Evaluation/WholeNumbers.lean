/-
This file says what arithmetic on whole numbers yields. The exact results are described
without the functions that compute them: quotient and remainder are those of a division
that truncates, and there are none for the divisor zero. A result is kept in the wider of
the widths of the operands, and one that does not fit is an error and never another number
(`BinaryOperator.apply_wholeNumbers`). One result is refused though it fits: the remainder
of the least 64-bit number by minus one, which is zero. The quotient of the two overflows,
and so the remainder counts as an overflow. With 32 bits this does not happen.
-/
import Mathlib.Algebra.Order.Ring.Int
import Mathlib.Data.Int.Init
import PredicateWire.Proofs.Evaluation.Computing

namespace PredicateWire

/-! ### Division that truncates -/

/-- The dividend is the divisor times the quotient and the remainder, which is nearer to zero than
the divisor and has the sign of the dividend. -/
structure Truncates (dividend divisor quotient remainder : Int) : Prop where
  sum : dividend = divisor * quotient + remainder
  small : remainder.natAbs < divisor.natAbs
  nonneg : 0 ≤ dividend → 0 ≤ remainder
  nonpos : dividend ≤ 0 → remainder ≤ 0

/-- Only zero has no quotients and remainders, and any other divisor has one of each. -/
theorem truncates_iff {dividend divisor quotient remainder : Int} :
    Truncates dividend divisor quotient remainder ↔
      divisor ≠ 0 ∧ quotient = dividend.tdiv divisor ∧ remainder = dividend.tmod divisor := by
  constructor
  · rintro ⟨sum, small, nonneg, nonpos⟩
    have divides : divisor ≠ 0 := by omega
    rcases Int.le_total 0 dividend with above | below
    · obtain ⟨quotients, remainders⟩ := (Int.tdiv_tmod_unique above divides).mpr
        ⟨by rw [sum, add_comm], nonneg above, by have := nonneg above; omega⟩
      exact ⟨divides, quotients.symm, remainders.symm⟩
    · obtain ⟨quotients, remainders⟩ := (Int.tdiv_tmod_unique' below divides).mpr
        ⟨by rw [sum, add_comm], by have := nonpos below; omega, nonpos below⟩
      exact ⟨divides, quotients.symm, remainders.symm⟩
  · rintro ⟨divides, rfl, rfl⟩
    refine ⟨(Int.mul_tdiv_add_tmod dividend divisor).symm, ?_, Int.tmod_nonneg divisor,
      fun below => ?_⟩
    · rw [Int.natAbs_tmod]
      exact Nat.mod_lt _ (Int.natAbs_pos.mpr divides)
    · have opposite := Int.tmod_nonneg divisor (Int.neg_nonneg_of_nonpos below)
      rw [Int.neg_tmod] at opposite
      omega

/-! ### Widths -/

/-- A whole number can be held in a number of bits. -/
def Fits (bits : Nat) (number : Int) : Prop :=
  -2 ^ (bits - 1) ≤ number ∧ number < 2 ^ (bits - 1)

/-- A value holds a whole number in a number of bits. -/
inductive Value.Holds : Value → Nat → Int → Prop
  | int32 (number : Int32) : Holds (.int32 number) 32 number.toInt
  | int64 (number : Int64) : Holds (.int64 number) 64 number.toInt

/-- What fits into some bits fits into more of them. -/
theorem Fits.mono {bits more : Nat} {number : Int} (fits : Fits bits number) (le : bits ≤ more) :
    Fits more number := by
  have grows : (2 : Int) ^ (bits - 1) ≤ 2 ^ (more - 1) :=
    pow_le_pow_right₀ (by decide) (Nat.sub_le_sub_right le 1)
  unfold Fits at fits ⊢
  omega

/-- A number that a value holds fits into the value's bits. -/
theorem Value.Holds.fits {value : Value} {bits : Nat} {number : Int}
    (holds : value.Holds bits number) : Fits bits number := by
  cases holds with
  | int32 number => exact ⟨number.le_toInt, number.toInt_lt⟩
  | int64 number => exact ⟨number.le_toInt, number.toInt_lt⟩

/-- A number that fits into 32 bits is kept as it is. -/
theorem checkedInt32_of_fits {number : Int} (fits : Fits 32 number) :
    ∃ fitting, checkedInt32 number = .ok fitting ∧ fitting.toInt = number :=
  ⟨_, if_pos fits, Int32.toInt_ofInt_of_le fits.1 fits.2⟩

theorem checkedInt64_of_fits {number : Int} (fits : Fits 64 number) :
    ∃ fitting, checkedInt64 number = .ok fitting ∧ fitting.toInt = number :=
  ⟨_, if_pos fits, Int64.toInt_ofInt_of_le fits.1 fits.2⟩

/-- A number that does not fit into 32 bits is refused. -/
theorem checkedInt32_of_not_fits {number : Int} (large : ¬Fits 32 number) :
    checkedInt32 number = .error (.evaluation .overflow) :=
  if_neg large

theorem checkedInt64_of_not_fits {number : Int} (large : ¬Fits 64 number) :
    checkedInt64 number = .error (.evaluation .overflow) :=
  if_neg large

namespace BinaryOperator

variable {operator : BinaryOperator} {left right : Int}

/-! ### Exact results -/

/-- The whole number is the exact result of an arithmetic operator. -/
def IsResult (operator : BinaryOperator) (left right result : Int) : Prop :=
  match operator with
  | add => result = left + right
  | subtract => result = left - right
  | multiply => result = left * right
  | divide => ∃ remainder, Truncates left right result remainder
  | modulo => ∃ quotient, Truncates left right quotient result
  | _ => False

/-- The computed result is the exact one wherever there is an exact one. -/
theorem exact_of_isResult {result : Int} (exactly : operator.IsResult left right result) :
    operator.exact left right = .ok result := by
  cases operator with
  | add | subtract | multiply => exact congrArg Except.ok exactly.symm
  | divide =>
    obtain ⟨remainder, truncates⟩ := exactly
    obtain ⟨nonzero, rfl, -⟩ := truncates_iff.mp truncates
    exact if_neg nonzero
  | modulo =>
    obtain ⟨quotient, truncates⟩ := exactly
    obtain ⟨nonzero, -, rfl⟩ := truncates_iff.mp truncates
    exact if_neg nonzero
  | _ => exact exactly.elim

/-- What is computed without an error is the exact result. -/
theorem isResult_of_exact (arithmetic : operator.isArithmetic = true) {result : Int}
    (computed : operator.exact left right = .ok result) : operator.IsResult left right result := by
  cases operator with
  | add | subtract | multiply =>
    cases computed
    exact rfl
  | divide | modulo =>
    dsimp only [exact] at computed
    split at computed
    · cases computed
    · cases computed
      exact ⟨_, truncates_iff.mpr ⟨‹_›, rfl, rfl⟩⟩
  | _ => cases arithmetic

/-- Without an exact result there is an error. -/
theorem exact_eq_error (arithmetic : operator.isArithmetic = true)
    (undefined : ∀ result, ¬operator.IsResult left right result) :
    ∃ fault, operator.exact left right = .error (.evaluation fault) := by
  have fails : Meets (fun _ => True) (fun error => ∃ fault, error = .evaluation fault)
      (operator.exact left right) :=
    operator.meets_exact (fun fault => ⟨fault, rfl⟩) left right
  cases computed : operator.exact left right with
  | ok result => exact absurd (isResult_of_exact arithmetic computed) (undefined result)
  | error error =>
    rw [computed] at fails
    obtain ⟨fault, rfl⟩ := fails
    exact ⟨fault, rfl⟩

/-! ### Results that are kept in a width -/

/-- Numbers that fit into a number of bits are held in them, and all others are refused. -/
structure KeepsWidth (bits : Nat) (keep : Int → Result Value) : Prop where
  held : ∀ number, Fits bits number → ∃ value, keep number = .ok value ∧ value.Holds bits number
  refused : ∀ number, ¬Fits bits number → keep number = .error (.evaluation .overflow)

theorem keepsWidth_int32 :
    KeepsWidth 32 fun number => do
      let fitting ← checkedInt32 number
      return .int32 fitting := by
  refine ⟨fun number fits => ?_, fun number large => ?_⟩
  · obtain ⟨fitting, checked, rfl⟩ := checkedInt32_of_fits fits
    exact ⟨.int32 fitting, by rw [checked]; rfl, .int32 fitting⟩
  · rw [checkedInt32_of_not_fits large]
    rfl

theorem keepsWidth_int64 :
    KeepsWidth 64 fun number => do
      let fitting ← checkedInt64 number
      return .int64 fitting := by
  refine ⟨fun number fits => ?_, fun number large => ?_⟩
  · obtain ⟨fitting, checked, rfl⟩ := checkedInt64_of_fits fits
    exact ⟨.int64 fitting, by rw [checked]; rfl, .int64 fitting⟩
  · rw [checkedInt64_of_not_fits large]
    rfl

/-- A value is the exact result in a number of bits, or there is an error because no exact result
fits into them. -/
def IsExact (operator : BinaryOperator) (bits : Nat) (left right : Int) (outcome : Result Value) :
    Prop :=
  (∃ result value, operator.IsResult left right result ∧ Fits bits result ∧ outcome = .ok value ∧
      value.Holds bits result) ∨
    (∀ result, operator.IsResult left right result → ¬Fits bits result) ∧
      ∃ fault, outcome = .error (.evaluation fault)

/-- Keeping an exact result in a width yields it, or an error if it does not fit. -/
theorem KeepsWidth.isExact {bits : Nat} {keep : Int → Result Value} (keeps : KeepsWidth bits keep)
    (arithmetic : operator.isArithmetic = true) :
    operator.IsExact bits left right (operator.exact left right >>= keep) := by
  by_cases defined : ∃ result, operator.IsResult left right result
  · obtain ⟨result, exactly⟩ := defined
    rw [exact_of_isResult exactly]
    by_cases fits : Fits bits result
    · obtain ⟨value, kept, holds⟩ := keeps.held result fits
      exact .inl ⟨result, value, exactly, fits, kept, holds⟩
    · refine .inr ⟨fun other same => ?_, .overflow, keeps.refused result fits⟩
      cases (exact_of_isResult exactly).symm.trans (exact_of_isResult same)
      exact fits
  · rw [not_exists] at defined
    obtain ⟨fault, fails⟩ := exact_eq_error arithmetic defined
    rw [fails]
    exact .inr ⟨fun result exactly => absurd exactly (defined result), fault, rfl⟩

/-! ### Whole numbers of two widths -/

/-- The remainder of the least 64-bit number by minus one is asked for. -/
def IsRefusedRemainder (operator : BinaryOperator) (bits : Nat) (left right : Int) : Prop :=
  operator = modulo ∧ bits = 64 ∧ left = -2 ^ 63 ∧ right = -1

/-- The remainder that is refused is the only one whose quotient overflows, so in all other cases
the 64-bit operation is the exact one, kept in 64 bits. -/
theorem onInt64_eq (operator : BinaryOperator) (fits : Fits 64 left)
    (accepted : ¬operator.IsRefusedRemainder 64 left right) :
    operator.onInt64 left right = operator.exact left right >>= checkedInt64 := by
  unfold onInt64
  dsimp only
  split
  · rename_i least
    obtain ⟨rfl, rfl⟩ := least
    have opposite : Fits 64 (-left) := by
      have notLeast : left ≠ -2 ^ 63 := fun least => accepted ⟨rfl, rfl, least, rfl⟩
      unfold Fits at fits ⊢
      omega
    obtain ⟨fitting, checked, -⟩ := checkedInt64_of_fits opposite
    rw [checked]
    rfl
  · rfl

/-- The remainder of the least 64-bit number by minus one counts as an overflow. -/
theorem onInt64_refused (operator : BinaryOperator)
    (refused : operator.IsRefusedRemainder 64 left right) :
    operator.onInt64 left right = .error (.evaluation .overflow) := by
  obtain ⟨rfl, -, rfl, rfl⟩ := refused
  rfl

theorem apply_of_isArithmetic (arithmetic : operator.isArithmetic = true) (first second : Value) :
    operator.apply first second = operator.arithmetic first second := by
  cases operator <;> first | rfl | cases arithmetic

section

variable {first second : Value} {leftBits rightBits : Nat}

/-- Two whole numbers are computed with 32 bits if both have them and with 64 bits otherwise. -/
theorem arithmetic_wholeNumbers (operator : BinaryOperator) (firstHolds : first.Holds leftBits left)
    (secondHolds : second.Holds rightBits right) :
    (max leftBits rightBits = 32 ∧ operator.arithmetic first second = do
        let number ← operator.exact left right
        let fitting ← checkedInt32 number
        return .int32 fitting) ∨
      max leftBits rightBits = 64 ∧ operator.arithmetic first second = do
        let fitting ← operator.onInt64 left right
        return .int64 fitting := by
  cases firstHolds <;> cases secondHolds
  · exact .inl ⟨rfl, rfl⟩
  all_goals exact .inr ⟨rfl, rfl⟩

/-- Arithmetic on whole numbers is exact or an error, but for the remainder that is refused. -/
theorem isExact_apply (arithmetic : operator.isArithmetic = true)
    (firstHolds : first.Holds leftBits left) (secondHolds : second.Holds rightBits right)
    (accepted : ¬operator.IsRefusedRemainder (max leftBits rightBits) left right) :
    operator.IsExact (max leftBits rightBits) left right (operator.apply first second) := by
  rw [apply_of_isArithmetic arithmetic]
  rcases operator.arithmetic_wholeNumbers firstHolds secondHolds with
      ⟨bits, computed⟩ | ⟨bits, computed⟩
  · rw [computed, bits]
    exact keepsWidth_int32.isExact arithmetic
  · rw [bits] at accepted
    have fits : Fits 64 left := firstHolds.fits.mono (bits ▸ Nat.le_max_left _ _)
    rw [computed, bits, operator.onInt64_eq fits accepted, bind_assoc]
    exact keepsWidth_int64.isExact arithmetic

/-- The remainder that is refused is refused for every pair of values that hold the two numbers. -/
theorem apply_refused (firstHolds : first.Holds leftBits left)
    (secondHolds : second.Holds rightBits right)
    (refused : operator.IsRefusedRemainder (max leftBits rightBits) left right) :
    operator.apply first second = .error (.evaluation .overflow) := by
  have arithmetic : operator.isArithmetic = true := by rw [refused.1]; rfl
  rw [apply_of_isArithmetic arithmetic]
  rcases operator.arithmetic_wholeNumbers firstHolds secondHolds with
      ⟨bits, computed⟩ | ⟨bits, computed⟩
  · exact absurd (bits.symm.trans refused.2.1) (by decide)
  · rw [bits] at refused
    rw [computed, operator.onInt64_refused refused]
    rfl

/-- Operands in more bits have the same result in more bits. An exact result that fits into the
narrower width fits into the wider one, and what is refused in the narrower one is not asked
about. -/
theorem apply_widened (arithmetic : operator.isArithmetic = true)
    (firstHolds : first.Holds leftBits left) (secondHolds : second.Holds rightBits right)
    {value wideFirst wideSecond : Value} {moreLeft moreRight : Nat}
    (computed : operator.apply first second = .ok value)
    (wideFirstHolds : wideFirst.Holds moreLeft left) (leftMore : leftBits ≤ moreLeft)
    (wideSecondHolds : wideSecond.Holds moreRight right) (rightMore : rightBits ≤ moreRight) :
    ∃ result wide, value.Holds (max leftBits rightBits) result ∧
      wide.Holds (max moreLeft moreRight) result ∧
        operator.apply wideFirst wideSecond = .ok wide := by
  have accepted : ¬operator.IsRefusedRemainder (max leftBits rightBits) left right := by
    intro refused
    rw [apply_refused firstHolds secondHolds refused] at computed
    cases computed
  rcases isExact_apply arithmetic firstHolds secondHolds accepted with
      ⟨result, held, exactly, fits, yields, holds⟩ | ⟨-, fault, fails⟩
  · cases computed.symm.trans yields
    -- a dividend that is the least of its width already has the greater width
    have stillAccepted : ¬operator.IsRefusedRemainder (max moreLeft moreRight) left right := by
      rintro ⟨isModulo, -, least, minusOne⟩
      refine accepted ⟨isModulo, ?_, least, minusOne⟩
      cases firstHolds with
      | int32 number =>
        have above := number.le_toInt
        omega
      | int64 number => cases secondHolds <;> rfl
    have wider : max leftBits rightBits ≤ max moreLeft moreRight := by omega
    rcases isExact_apply arithmetic wideFirstHolds wideSecondHolds stillAccepted with
        ⟨other, wide, same, -, wideYields, wideHolds⟩ | ⟨large, -⟩
    · cases (exact_of_isResult exactly).symm.trans (exact_of_isResult same)
      exact ⟨result, wide, holds, wideHolds, wideYields⟩
    · exact absurd (fits.mono wider) (large result exactly)
  · rw [computed] at fails
    cases fails

end

/-- Arithmetic on whole numbers yields the exact result in the wider width of the operands, or it
fails at run time because no exact result fits into it. Only the remainder of the least 64-bit
number by minus one is refused as an overflow, though it fits. A result is the same number when the
operands are held in more bits. -/
theorem apply_wholeNumbers {first second : Value} {leftBits rightBits : Nat}
    (arithmetic : operator.isArithmetic = true) (firstHolds : first.Holds leftBits left)
    (secondHolds : second.Holds rightBits right) :
    (¬operator.IsRefusedRemainder (max leftBits rightBits) left right →
        operator.IsExact (max leftBits rightBits) left right (operator.apply first second)) ∧
      (operator.IsRefusedRemainder (max leftBits rightBits) left right →
        operator.apply first second = .error (.evaluation .overflow)) ∧
      ∀ {value wideFirst wideSecond : Value} {moreLeft moreRight : Nat},
        operator.apply first second = .ok value → wideFirst.Holds moreLeft left →
          leftBits ≤ moreLeft → wideSecond.Holds moreRight right → rightBits ≤ moreRight →
            ∃ result wide, value.Holds (max leftBits rightBits) result ∧
              wide.Holds (max moreLeft moreRight) result ∧
                operator.apply wideFirst wideSecond = .ok wide :=
  ⟨isExact_apply arithmetic firstHolds secondHolds, apply_refused firstHolds secondHolds,
    apply_widened arithmetic firstHolds secondHolds⟩

/-- The least 32-bit number has the remainder zero by minus one in both widths: the only remainder
that is refused is that of the least 64-bit number. -/
theorem apply_wholeNumbers_least32 :
    (.int32 Int32.minValue : Value).Holds 32 (-2 ^ 31) ∧ (.int32 (-1) : Value).Holds 32 (-1) ∧
      modulo.IsExact 32 (-2 ^ 31) (-1)
        (modulo.apply (.int32 Int32.minValue) (.int32 (-1))) ∧
      ∃ result wide, (.int32 0 : Value).Holds 32 result ∧ wide.Holds 64 result ∧
        modulo.apply (.int64 (-2147483648)) (.int32 (-1)) = .ok wide := by
  have leastHolds : (.int32 Int32.minValue : Value).Holds 32 (-2 ^ 31) := .int32 Int32.minValue
  have minusOneHolds : (.int32 (-1) : Value).Holds 32 (-1) := .int32 (-1)
  have wideHolds : (.int64 (-2147483648) : Value).Holds 64 (-2 ^ 31) := .int64 (-2147483648)
  have arithmetic : modulo.isArithmetic = true := rfl
  obtain ⟨exactly, -, widened⟩ := apply_wholeNumbers arithmetic leastHolds minusOneHolds
  exact ⟨leastHolds, minusOneHolds, exactly fun refused => absurd refused.2.1 (by decide),
    widened rfl wideHolds (by decide) minusOneHolds (by decide)⟩

/-- The remainder of the least 64-bit number by minus one is zero, which fits, but it is refused.
That of the least 32-bit number is not. -/
theorem modulo_least :
    (.int64 Int64.minValue : Value).Holds 64 (-2 ^ 63) ∧ (.int64 (-1) : Value).Holds 64 (-1) ∧
      modulo.IsResult (-2 ^ 63) (-1) 0 ∧ Fits 64 0 ∧
        modulo.apply (.int64 Int64.minValue) (.int64 (-1)) = .error (.evaluation .overflow) ∧
          ¬modulo.IsExact 64 (-2 ^ 63) (-1)
            (modulo.apply (.int64 Int64.minValue) (.int64 (-1))) ∧
            modulo.apply (.int32 Int32.minValue) (.int32 (-1)) = .ok (.int32 0) := by
  have exactly : modulo.IsResult (-2 ^ 63) (-1) 0 := ⟨2 ^ 63, truncates_iff.mpr (by decide)⟩
  have fits : Fits 64 0 := ⟨by decide, by decide⟩
  refine ⟨.int64 Int64.minValue, .int64 (-1), exactly, fits, rfl, ?_, rfl⟩
  rintro (⟨_, _, _, _, yields, _⟩ | ⟨large, _⟩)
  · cases yields
  · exact large 0 exactly fits

end BinaryOperator

end PredicateWire
