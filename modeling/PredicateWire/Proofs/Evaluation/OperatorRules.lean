/-
This file compares the two tables of operators: the types that an operator is defined
for, and the values that it can be applied to. A node is accepted by the first table,
and evaluated by the second one, which refuses operands with a mismatch of types. On
values of the types that it is defined for, an operator yields a value of the type of
its result or fails at run time.

There is one exception. A double that is no number is not ordered with anything, and an
ordering operator takes this for a mismatch of types. `BinaryOperator.apply_rules` says
for all operators and operands that this is when a mismatch comes up, and at no other
time. Values are taken to inhabit the types of the operands, which lets nulls stand
inside them but not in their place; null operands have a rule of their own.
-/
import PredicateWire.Proofs.Value.Inhabiting
import PredicateWire.Proofs.Value.Order

namespace PredicateWire

open Value

namespace BinaryOperator

variable {operator : BinaryOperator} {left right type : DataType} {first second : Value}
  {expected : Error → Prop}

/-! ### Operands that have an order -/

/-- The ordering operators are defined for numbers, for texts and for characters. -/
theorem fits_of_ordering (ordering : operator.isOrdering = true)
    (typed : operator.resultType left right = .ok type) :
    ((promotedType? left right).isSome || bothAre .string left right ||
      bothAre .char left right) = true ∧ type = .bool := by
  cases operator with
  | lessThan | lessThanOrEqual | greaterThan | greaterThanOrEqual =>
    dsimp only [resultType] at typed
    split at typed <;> cases typed
    exact ⟨‹_›, rfl⟩
  | _ => cases ordering

theorem apply_of_ordering (ordering : operator.isOrdering = true) (first second : Value) :
    operator.apply first second = operator.comparison first second := by
  cases operator <;> first | rfl | cases ordering

/-- Operands that an ordering operator is defined for have an order, unless one of them is no
number. -/
theorem compare?_eq_none (fits : ((promotedType? left right).isSome || bothAre .string left right ||
      bothAre .char left right) = true) (firstInhabits : first.Inhabits left)
    (secondInhabits : second.Inhabits right) (firstPresent : first.isNull = false)
    (secondPresent : second.isNull = false) :
    first.compare? second = none ↔ first.isNaN = true ∨ second.isNaN = true := by
  rw [Bool.or_eq_true, Bool.or_eq_true, Option.isSome_iff_exists] at fits
  rcases fits with (⟨type, promoted⟩ | texts) | characters
  · obtain ⟨leftKind, rightKind, kind, rfl, rfl, rfl, meeting⟩ := exists_of_promotedType promoted
    obtain ⟨leftNumeric, rightNumeric⟩ := Primitive.isNumeric_of_promoted meeting
    exact compare?_numbers (firstInhabits.belongs firstPresent) leftNumeric
      (secondInhabits.belongs secondPresent) rightNumeric
  · obtain ⟨rfl, rfl⟩ := exists_of_bothAre texts
    obtain ⟨text, rfl⟩ := exists_string (firstInhabits.belongs firstPresent)
    obtain ⟨other, rfl⟩ := exists_string (secondInhabits.belongs secondPresent)
    exact ⟨nofun, fun either => either.elim nofun nofun⟩
  · obtain ⟨rfl, rfl⟩ := exists_of_bothAre characters
    obtain ⟨character, rfl⟩ := exists_char (firstInhabits.belongs firstPresent)
    obtain ⟨other, rfl⟩ := exists_char (secondInhabits.belongs secondPresent)
    exact ⟨nofun, fun either => either.elim nofun nofun⟩

/-! ### Values of the types of operands -/

/-- What belongs to a primitive type inhabits it, so primitive results do. -/
theorem inhabits_of_computes {kind : Primitive} {result : Result Value}
    (computes : Computes expected (.primitive kind) result) :
    Meets (Inhabits (.primitive kind)) expected result :=
  computes.weaken (fun _ => Belongs.inhabits) fun _ => id

/-- An array has an item at every index, or there is none at run time: an index outside of the array
is a failure of the evaluation and no mismatch. -/
theorem meets_indexed (runtime : ∀ fault, expected (.evaluation fault)) {element : DataType}
    (whole : isIntegerType right = true) (firstInhabits : first.Inhabits (.array element))
    (secondInhabits : second.Inhabits right) (firstPresent : first.isNull = false)
    (secondPresent : second.isNull = false) :
    Meets (Inhabits element) expected (indexed first second) := by
  obtain ⟨items, rfl, each⟩ := firstInhabits.resolve_left (by rintro rfl; cases firstPresent)
  obtain ⟨kind, rfl⟩ : ∃ kind, right = .primitive kind := by
    unfold isIntegerType at whole
    split at whole
    · exact ⟨_, DataType.eq_primitive ‹_›⟩
    · cases whole
  rcases exists_of_isInteger whole (secondInhabits.belongs secondPresent) with
      ⟨index, rfl, _⟩ | ⟨index, rfl, _⟩ <;>
    exact meets_itemAt runtime each _

/-- Arithmetic on numbers yields a number of the type in which they meet, or it fails at run time. A
double meets every number as a double. -/
theorem meets_arithmetic (runtime : ∀ fault, expected (.evaluation fault))
    (operator : BinaryOperator) (promoted : promotedType? left right = some type)
    (firstInhabits : first.Inhabits left) (secondInhabits : second.Inhabits right)
    (firstPresent : first.isNull = false) (secondPresent : second.isNull = false) :
    Meets (Inhabits type) expected (operator.arithmetic first second) := by
  obtain ⟨_, _, _, rfl, rfl, rfl, _⟩ := exists_of_promotedType promoted
  exact inhabits_of_computes (computes_arithmetic runtime _ promoted
    (firstInhabits.belongs firstPresent) (secondInhabits.belongs secondPresent))

/-- Bitwise operators on whole numbers yield a number of the wider of the two types. They never
fail. -/
theorem meets_logical_numbers (bitwise : operator = and ∨ operator = or ∨ operator = exclusiveOr)
    (leftWhole : isIntegerType left = true) (rightWhole : isIntegerType right = true)
    (promoted : promotedType? left right = some type) (firstInhabits : first.Inhabits left)
    (secondInhabits : second.Inhabits right) (firstPresent : first.isNull = false)
    (secondPresent : second.isNull = false) :
    Meets (Inhabits type) expected (operator.logical first second) := by
  obtain ⟨_, _, _, rfl, rfl, rfl, _⟩ := exists_of_promotedType promoted
  exact inhabits_of_computes (computes_logical_numbers bitwise leftWhole rightWhole promoted
    (firstInhabits.belongs firstPresent) (secondInhabits.belongs secondPresent))

/-- An operator on values of types that it is defined for has a value of the type of its result, if
it does not order what is no number. -/
theorem meets_apply (runtime : ∀ fault, expected (.evaluation fault))
    (typed : operator.resultType left right = .ok type) (firstInhabits : first.Inhabits left)
    (secondInhabits : second.Inhabits right) (firstPresent : first.isNull = false)
    (secondPresent : second.isNull = false)
    (ordered : operator.isOrdering = true → ¬(first.isNaN = true ∨ second.isNaN = true)) :
    Meets (Inhabits type) expected (operator.apply first second) := by
  have truths : left = .bool → right = .bool →
      Meets (Inhabits .bool) expected (operator.logical first second) := by
    rintro rfl rfl
    exact inhabits_of_computes (computes_logical_bools _ (firstInhabits.belongs firstPresent)
      (secondInhabits.belongs secondPresent))
  cases operator with
  | andAlso =>
    obtain ⟨leftTruth, rightTruth, rfl⟩ := truths_of_resultType (.inl rfl) typed
    exact truths leftTruth rightTruth
  | orElse =>
    obtain ⟨leftTruth, rightTruth, rfl⟩ := truths_of_resultType (.inr rfl) typed
    exact truths leftTruth rightTruth
  | coalesce =>
    obtain rfl := eq_left_of_coalesce typed
    show Meets _ _ (.ok (if first.isNull then second else first))
    rw [firstPresent]
    exact firstInhabits
  | equal | notEqual =>
    dsimp only [resultType] at typed
    split at typed <;> cases typed
    exact .inr rfl
  | lessThan | lessThanOrEqual | greaterThan | greaterThanOrEqual =>
    obtain ⟨fits, rfl⟩ := fits_of_ordering rfl typed
    have known := mt (compare?_eq_none fits firstInhabits secondInhabits firstPresent
      secondPresent).mp (ordered rfl)
    obtain ⟨ordering, known⟩ := Option.ne_none_iff_exists'.mp known
    rw [apply_of_ordering rfl, comparison, firstPresent, secondPresent, known]
    exact .inr rfl
  | and | or | exclusiveOr =>
    dsimp only [resultType] at typed
    split at typed
    · cases typed
      obtain ⟨leftTruth, rightTruth⟩ := exists_of_bothAre ‹_›
      exact truths leftTruth rightTruth
    · split at typed
      · rename_i whole
        rw [Bool.and_eq_true] at whole
        split at typed <;> cases typed
        exact meets_logical_numbers (by simp) whole.1 whole.2 ‹_› firstInhabits secondInhabits
          firstPresent secondPresent
      · cases typed
  | add =>
    dsimp only [resultType] at typed
    split at typed
    · cases typed
      obtain ⟨rfl, rfl⟩ := exists_of_bothAre ‹_›
      obtain ⟨text, rfl⟩ := exists_string (firstInhabits.belongs firstPresent)
      obtain ⟨other, rfl⟩ := exists_string (secondInhabits.belongs secondPresent)
      exact .inr rfl
    · split at typed <;> cases typed
      exact meets_arithmetic runtime _ ‹_› firstInhabits secondInhabits firstPresent secondPresent
  | subtract | multiply | divide | modulo =>
    dsimp only [resultType] at typed
    split at typed <;> cases typed
    exact meets_arithmetic runtime _ ‹_› firstInhabits secondInhabits firstPresent secondPresent
  | arrayIndex =>
    dsimp only [resultType] at typed
    split at typed
    · split at typed <;> cases typed
      exact meets_indexed runtime ‹_› firstInhabits secondInhabits firstPresent secondPresent
    · cases typed

/-- A comparison that has a result has a truth value. -/
theorem returns_comparison (operator : BinaryOperator) (first second : Value) :
    Returns (Inhabits .bool) (operator.comparison first second) := by
  unfold comparison
  split
  · exact .inr rfl
  · cases first.compare? second with
    | none => trivial
    | some ordering => exact .inr rfl

/-- Null makes arithmetic null, and no other operator but the comparisons has a result for it. -/
theorem returns_apply_null (typed : operator.resultType left right = .ok type)
    (strict : operator ≠ coalesce) (absent : first = .null ∨ second = .null) :
    Returns (Inhabits type) (operator.apply first second) := by
  cases operator with
  | coalesce => exact absurd rfl strict
  | equal | notEqual =>
    dsimp only [resultType] at typed
    split at typed <;> cases typed
    exact .inr rfl
  | lessThan | lessThanOrEqual | greaterThan | greaterThanOrEqual =>
    obtain ⟨-, rfl⟩ := fits_of_ordering rfl typed
    exact returns_comparison _ _ _
  | andAlso | orElse | and | or | exclusiveOr =>
    rcases absent with rfl | rfl
    · trivial
    · cases first <;> trivial
  | add | subtract | multiply | divide | modulo =>
    rcases absent with rfl | rfl
    · exact inhabits_null type
    · cases first <;> exact inhabits_null type
  | arrayIndex =>
    rcases absent with rfl | rfl
    · trivial
    · cases first <;> trivial

/-- An operator on values that may be null returns nothing but values of the type of its result. -/
theorem returns_apply (typed : operator.resultType left right = .ok type)
    (strict : operator ≠ coalesce) (firstInhabits : first.Inhabits left)
    (secondInhabits : second.Inhabits right) :
    Returns (Inhabits type) (operator.apply first second) := by
  by_cases present : first.isNull = false ∧ second.isNull = false
  · by_cases unordered : operator.isOrdering = true ∧ (first.isNaN = true ∨ second.isNaN = true)
    · obtain ⟨fits, rfl⟩ := fits_of_ordering unordered.1 typed
      rw [apply_of_ordering unordered.1]
      exact returns_comparison operator first second
    · exact meets_apply (fun _ => trivial) typed firstInhabits secondInhabits present.1 present.2
        fun ordering unordered' => unordered ⟨ordering, unordered'⟩
  · refine returns_apply_null typed strict ?_
    rw [not_and_or, Bool.not_eq_false, Bool.not_eq_false] at present
    exact present.imp eq_null_of_isNull eq_null_of_isNull

/-- On values of the types that an operator is defined for, the operator yields a value of the type
of its result, or it fails at run time, or it refuses the operands with a mismatch of types. The
last happens just when it has to order a double that is no number. Neither operand is null. -/
theorem apply_rules (typed : operator.resultType left right = .ok type)
    (firstInhabits : first.Inhabits left) (secondInhabits : second.Inhabits right)
    (firstPresent : first.isNull = false) (secondPresent : second.isNull = false) :
    ((∃ value, operator.apply first second = .ok value ∧ value.Inhabits type) ∨
        (∃ fault, operator.apply first second = .error (.evaluation fault)) ∨
          ∃ fault, operator.apply first second = .error (.typeMismatch fault)) ∧
      ((∃ fault, operator.apply first second = .error (.typeMismatch fault)) ↔
        operator.isOrdering = true ∧ (first.isNaN = true ∨ second.isNaN = true)) := by
  by_cases unordered : operator.isOrdering = true ∧ (first.isNaN = true ∨ second.isNaN = true)
  · obtain ⟨fits, rfl⟩ := fits_of_ordering unordered.1 typed
    have unknown := (compare?_eq_none fits firstInhabits secondInhabits firstPresent
      secondPresent).mpr unordered.2
    have refused : operator.apply first second =
        .error (.typeMismatch (.incomparable first.kindName second.kindName)) := by
      rw [apply_of_ordering unordered.1, comparison, firstPresent, secondPresent, unknown]
      rfl
    exact ⟨.inr (.inr ⟨_, refused⟩), fun _ => unordered, fun _ => ⟨_, refused⟩⟩
  · have meets : Meets (Inhabits type) (fun error => ∃ fault, error = .evaluation fault)
        (operator.apply first second) :=
      meets_apply (fun fault => ⟨fault, rfl⟩) typed firstInhabits secondInhabits firstPresent
        secondPresent fun ordering either => unordered ⟨ordering, either⟩
    cases computed : operator.apply first second with
    | ok value =>
      rw [computed] at meets
      exact ⟨.inl ⟨value, rfl, meets⟩, nofun, fun holds => absurd holds unordered⟩
    | error error =>
      rw [computed] at meets
      obtain ⟨fault, rfl⟩ := meets
      exact ⟨.inr (.inl ⟨fault, rfl⟩), nofun, fun holds => absurd holds unordered⟩

/-- Whole numbers of different widths meet in the wider one, and there is no mismatch. There is one
when a whole number is ordered with a double that is no number. -/
theorem apply_rules_widths :
    multiply.apply (.int32 3) (.int64 5) = .ok (.int64 15) ∧ Inhabits .int64 (.int64 15) ∧
      (¬∃ fault, multiply.apply (.int32 3) (.int64 5) = .error (.typeMismatch fault)) ∧
      ∃ fault, lessThan.apply (.int32 3) (.double (0 / 0)) = .error (.typeMismatch fault) := by
  have multiplies : multiply.resultType .int32 .int64 = .ok .int64 := rfl
  have orders : lessThan.resultType .int32 .double = .ok .bool := rfl
  have three : Inhabits .int32 (.int32 3) := .inr rfl
  have five : Inhabits .int64 (.int64 5) := .inr rfl
  have unordered : Inhabits .double (.double (0 / 0)) := .inr rfl
  have product := apply_rules multiplies three five rfl rfl
  have order := apply_rules orders three unordered rfl rfl
  have notOrdering : ¬(multiply.isOrdering = true ∧
      ((int32 3).isNaN = true ∨ (int64 5).isNaN = true)) := by decide
  exact ⟨rfl, .inr rfl, mt product.2.mp notOrdering, order.2.mpr ⟨rfl, .inr rfl⟩⟩

/-- A double that is no number cannot be compared with a double, though doubles can. So the operands
have the types that the operator is defined for, and there is a mismatch all the same. -/
theorem lessThan_notANumber :
    lessThan.resultType .double .double = .ok .bool ∧ DataType.isClosed .double = true ∧
      Inhabits .double (.double (0 / 0)) ∧ Inhabits .double (.double 1) ∧
        isNull (.double (0 / 0)) = false ∧ isNull (.double 1) = false ∧
          lessThan.apply (.double (0 / 0)) (.double 1) =
            .error (.typeMismatch (.incomparable "f64" "f64")) := by
  refine ⟨rfl, rfl, .inr rfl, .inr rfl, rfl, rfl, ?_⟩
  rfl

end BinaryOperator

/-- An operator on a value that may be null returns nothing but values of its type. -/
theorem UnaryOperator.returns_apply {operator : UnaryOperator} {type : DataType} {value : Value}
    (accepted : operator.acceptsType type = true) (inhabits : value.Inhabits type) :
    Returns (Inhabits type) (operator.apply value) := by
  obtain ⟨kind, rfl⟩ : ∃ kind, type = .primitive kind := by
    cases type with
    | primitive kind => exact ⟨kind, rfl⟩
    | _ => cases operator <;> cases accepted
  rcases inhabits with rfl | simple
  · cases operator <;> exact .inl rfl
  · exact BinaryOperator.inhabits_of_computes
      (UnaryOperator.computes_apply (fun _ => trivial) accepted simple)

end PredicateWire
