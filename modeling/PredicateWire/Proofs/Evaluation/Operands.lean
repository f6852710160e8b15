/-
This file proves that operators on values of the types that they are defined for have
values of the type of the result. There are two tables for an operator, one for types
and one for values, and they have to be compared entry by entry. A type that occurs in
the first table is primitive or an array, so the operands are numbers, texts,
characters, truth values or arrays, and the second table has an entry for them.

Such an operator fails at run time only: by overflow, by a zero divisor or by an index
that is out of bounds. Doubles are left out where operands are ordered, since one that
is no number has no place in the order; what happens to it is said elsewhere.
-/
import PredicateWire.Expr.Construction
import PredicateWire.Proofs.Evaluation.Computing
import PredicateWire.Proofs.Value.Belonging

namespace PredicateWire

/-- The result of an operator belongs to a type, unless the operator fails as expected. -/
abbrev Computes (expected : Error → Prop) (type : DataType) (result : Result Value) : Prop :=
  Meets (Value.Belongs type) expected result

theorem runtime_isPermitted (fault : EvaluationFault) : (Error.evaluation fault).IsPermitted :=
  .inl rfl

/-! ### Primitive types and their values -/

theorem DataType.eq_primitive {type : DataType} {kind : Primitive}
    (known : type.primitive? = some kind) : type = .primitive kind := by
  cases type <;> cases known
  rfl

theorem DataType.eq_bool {type : DataType} (truth : type.isBool = true) : type = .bool :=
  eq_primitive (eq_of_beq truth)

namespace Value

variable {kind : Primitive} {value : Value}

/-- The values of a primitive type are those of its kind. -/
theorem belongs_primitive : Belongs (.primitive kind) value ↔ value.primitive? = some kind := by
  rw [Belongs]

/-- A value of the kind of truth values is a truth value. -/
theorem exists_bool (simple : value.primitive? = some .bool) : ∃ truth, value = bool truth := by
  cases value <;> cases simple
  exact ⟨_, rfl⟩

theorem exists_string (simple : value.primitive? = some .string) : ∃ text, value = string text := by
  cases value <;> cases simple
  exact ⟨_, rfl⟩

theorem exists_char (simple : value.primitive? = some .char) :
    ∃ character, value = char character := by
  cases value <;> cases simple
  exact ⟨_, rfl⟩

/-- The values of the numeric types. -/
theorem number_cases (simple : value.primitive? = some kind) (numeric : kind.isNumeric = true) :
    (∃ number, value = int32 number ∧ kind = .int32) ∨
      (∃ number, value = int64 number ∧ kind = .int64) ∨
        ∃ number, value = double number ∧ kind = .double := by
  cases value with
  | int32 number => cases simple; exact .inl ⟨number, rfl, rfl⟩
  | int64 number => cases simple; exact .inr (.inl ⟨number, rfl, rfl⟩)
  | double number => cases simple; exact .inr (.inr ⟨number, rfl, rfl⟩)
  | _ => cases simple <;> cases numeric

end Value

/-- Types that are promoted to a common one are numeric. -/
theorem Primitive.isNumeric_of_promoted {left right kind : Primitive}
    (promoted : left.promoted? right = some kind) :
    left.isNumeric = true ∧ right.isNumeric = true := by
  unfold promoted? at promoted
  unfold isNumeric
  split at promoted
  · rename_i leftKnown rightKnown
    rw [leftKnown, rightKnown]
    exact ⟨rfl, rfl⟩
  · cases promoted

/-! ### Operators with two operands -/

namespace BinaryOperator

/-- The operators whose result says how the operands are ordered. -/
def isOrdering : BinaryOperator → Bool
  | lessThan | lessThanOrEqual | greaterThan | greaterThanOrEqual => true
  | _ => false

variable {operator : BinaryOperator} {left right type : DataType} {first second : Value}
  {expected : Error → Prop}

/-- Types that are promoted to a common one are primitive, and so is that. -/
theorem exists_of_promotedType (promoted : promotedType? left right = some type) :
    ∃ leftKind rightKind kind, left = .primitive leftKind ∧ right = .primitive rightKind ∧
      type = .primitive kind ∧ leftKind.promoted? rightKind = some kind := by
  unfold promotedType? at promoted
  cases left with
  | primitive leftKind =>
    cases right with
    | primitive rightKind =>
      obtain ⟨kind, known, rfl⟩ := Option.map_eq_some_iff.mp promoted
      exact ⟨leftKind, rightKind, kind, rfl, rfl, rfl, known⟩
    | _ => cases promoted
  | _ => cases promoted

/-- Two types that are both of a kind are the primitive type of that kind. -/
theorem exists_of_bothAre {kind : Primitive} (both : bothAre kind left right = true) :
    left = .primitive kind ∧ right = .primitive kind := by
  rw [bothAre, Bool.and_eq_true, beq_iff_eq, beq_iff_eq] at both
  exact ⟨DataType.eq_primitive both.1, DataType.eq_primitive both.2⟩

/-- The values of a type of whole numbers are numbers of its width. -/
theorem exists_of_isInteger (whole : isIntegerType type = true) (belongs : first.Belongs type) :
    (∃ number, first = .int32 number ∧ type = .int32) ∨
      ∃ number, first = .int64 number ∧ type = .int64 := by
  unfold isIntegerType at whole
  cases type with
  | primitive kind =>
    have numeric : kind.isNumeric = true := by cases kind <;> first | rfl | cases whole
    rcases Value.number_cases (Value.belongs_primitive.mp belongs) numeric with
      ⟨number, rfl, rfl⟩ | ⟨number, rfl, rfl⟩ | ⟨_, _, rfl⟩
    · exact .inl ⟨number, rfl, rfl⟩
    · exact .inr ⟨number, rfl, rfl⟩
    · cases whole
  | _ => cases whole

/-- The operators that need not look at their right operand are defined for truth values. -/
theorem truths_of_resultType (short : operator = andAlso ∨ operator = orElse)
    (typed : operator.resultType left right = .ok type) :
    left = .bool ∧ right = .bool ∧ type = .bool := by
  have defined : (if left.isBool && right.isBool then Except.ok .bool
      else operator.undefinedForTypes left right) = .ok type := by
    rcases short with rfl | rfl <;> exact typed
  split at defined <;> cases defined
  rename_i truths
  rw [Bool.and_eq_true] at truths
  exact ⟨DataType.eq_bool truths.1, DataType.eq_bool truths.2, rfl⟩

/-- Without a conversion the coalescing operator has the type of its left operand. -/
theorem eq_left_of_coalesce (typed : coalesce.resultType left right = .ok type) : left = type := by
  unfold resultType at typed
  dsimp only at typed
  split at typed <;> cases typed
  rfl

/-- Numbers meet in the type that their types are promoted to. -/
theorem computes_arithmetic (runtime : ∀ fault, expected (.evaluation fault))
    (operator : BinaryOperator) (promoted : promotedType? left right = some type)
    (firstBelongs : first.Belongs left) (secondBelongs : second.Belongs right) :
    Computes expected type (operator.arithmetic first second) := by
  obtain ⟨leftKind, rightKind, kind, rfl, rfl, rfl, meeting⟩ := exists_of_promotedType promoted
  obtain ⟨leftNumeric, rightNumeric⟩ := Primitive.isNumeric_of_promoted meeting
  have narrow : ∀ number other : Int32,
      Computes expected .int32 (operator.arithmetic (.int32 number) (.int32 other)) := fun _ _ =>
    (operator.meets_exact runtime _ _).bind fun _ _ =>
      (meets_checkedInt32 runtime _).bind fun _ _ => rfl
  have wide : ∀ number other : Int, Computes expected .int64 (do
      let fitting ← operator.onInt64 number other
      return .int64 fitting) := fun _ _ =>
    (operator.meets_onInt64 runtime _ _).bind fun _ _ => rfl
  rcases Value.number_cases (Value.belongs_primitive.mp firstBelongs) leftNumeric with
      ⟨number, rfl, rfl⟩ | ⟨number, rfl, rfl⟩ | ⟨number, rfl, rfl⟩ <;>
    rcases Value.number_cases (Value.belongs_primitive.mp secondBelongs) rightNumeric with
      ⟨other, rfl, rfl⟩ | ⟨other, rfl, rfl⟩ | ⟨other, rfl, rfl⟩ <;>
    cases meeting
  · exact narrow number other
  · exact wide _ _
  · exact rfl
  · exact wide _ _
  · exact wide _ _
  all_goals exact rfl

/-- Numbers that are no doubles, texts and characters have an order. -/
theorem exists_ordering (fits : ((promotedType? left right).isSome || bothAre .string left right ||
      bothAre .char left right) = true) (leftNot : left ≠ .double) (rightNot : right ≠ .double)
    (firstBelongs : first.Belongs left) (secondBelongs : second.Belongs right) :
    ∃ ordering, first.compare? second = some ordering := by
  rw [Bool.or_eq_true, Bool.or_eq_true, Option.isSome_iff_exists] at fits
  rcases fits with (⟨type, promoted⟩ | texts) | characters
  · obtain ⟨leftKind, rightKind, kind, rfl, rfl, rfl, meeting⟩ := exists_of_promotedType promoted
    obtain ⟨leftNumeric, rightNumeric⟩ := Primitive.isNumeric_of_promoted meeting
    rcases Value.number_cases (Value.belongs_primitive.mp firstBelongs) leftNumeric with
        ⟨number, rfl, rfl⟩ | ⟨number, rfl, rfl⟩ | ⟨number, rfl, rfl⟩ <;>
      rcases Value.number_cases (Value.belongs_primitive.mp secondBelongs) rightNumeric with
        ⟨other, rfl, rfl⟩ | ⟨other, rfl, rfl⟩ | ⟨other, rfl, rfl⟩ <;>
      first
        | exact absurd rfl leftNot
        | exact absurd rfl rightNot
        | exact ⟨_, rfl⟩
  · obtain ⟨rfl, rfl⟩ := exists_of_bothAre texts
    obtain ⟨text, rfl⟩ := Value.exists_string (Value.belongs_primitive.mp firstBelongs)
    obtain ⟨other, rfl⟩ := Value.exists_string (Value.belongs_primitive.mp secondBelongs)
    exact ⟨_, rfl⟩
  · obtain ⟨rfl, rfl⟩ := exists_of_bothAre characters
    obtain ⟨character, rfl⟩ := Value.exists_char (Value.belongs_primitive.mp firstBelongs)
    obtain ⟨other, rfl⟩ := Value.exists_char (Value.belongs_primitive.mp secondBelongs)
    exact ⟨_, rfl⟩

/-- What has an order can be compared. -/
theorem computes_comparison (operator : BinaryOperator) {ordering : Ordering}
    (firstWhole : first.Whole) (secondWhole : second.Whole)
    (known : first.compare? second = some ordering) :
    Computes expected .bool (operator.comparison first second) := by
  unfold comparison
  rw [firstWhole.isNull, secondWhole.isNull, known]
  exact rfl

/-- Two truth values have a truth value, whatever the logical operator. -/
theorem computes_logical_bools (operator : BinaryOperator)
    (firstBelongs : first.Belongs .bool) (secondBelongs : second.Belongs .bool) :
    Computes expected .bool (operator.logical first second) := by
  obtain ⟨truth, rfl⟩ := Value.exists_bool (Value.belongs_primitive.mp firstBelongs)
  obtain ⟨other, rfl⟩ := Value.exists_bool (Value.belongs_primitive.mp secondBelongs)
  exact rfl

/-- Two whole numbers are combined bit by bit in the type that their types are promoted to. -/
theorem computes_logical_numbers {operator : BinaryOperator}
    (bitwise : operator = and ∨ operator = or ∨ operator = exclusiveOr)
    (leftWhole : isIntegerType left = true) (rightWhole : isIntegerType right = true)
    (promoted : promotedType? left right = some type) (firstBelongs : first.Belongs left)
    (secondBelongs : second.Belongs right) :
    Computes expected type (operator.logical first second) := by
  rcases exists_of_isInteger leftWhole firstBelongs with
      ⟨number, rfl, rfl⟩ | ⟨number, rfl, rfl⟩ <;>
    rcases exists_of_isInteger rightWhole secondBelongs with
      ⟨other, rfl, rfl⟩ | ⟨other, rfl, rfl⟩ <;>
    cases promoted <;>
    rcases bitwise with rfl | rfl | rfl <;>
    exact rfl

/-- An array has an item at every index, or there is none at run time. -/
theorem computes_indexed (runtime : ∀ fault, expected (.evaluation fault)) {element : DataType}
    (whole : isIntegerType right = true) (firstBelongs : first.Belongs (.array element))
    (secondBelongs : second.Belongs right) : Computes expected element (indexed first second) := by
  obtain ⟨items, rfl, each⟩ := firstBelongs
  rcases exists_of_isInteger whole secondBelongs with ⟨index, rfl, _⟩ | ⟨index, rfl, _⟩ <;>
    exact meets_itemAt runtime each _

/-- An operator on values of types that it is defined for has a value of the type of its result. -/
theorem computes_apply (runtime : ∀ fault, expected (.evaluation fault))
    (typed : operator.resultType left right = .ok type)
    (ordered : operator.isOrdering = true → left ≠ .double ∧ right ≠ .double)
    (firstBelongs : first.Belongs left) (secondBelongs : second.Belongs right) :
    Computes expected type (operator.apply first second) := by
  cases operator with
  | andAlso =>
    obtain ⟨rfl, rfl, rfl⟩ := truths_of_resultType (.inl rfl) typed
    exact computes_logical_bools _ firstBelongs secondBelongs
  | orElse =>
    obtain ⟨rfl, rfl, rfl⟩ := truths_of_resultType (.inr rfl) typed
    exact computes_logical_bools _ firstBelongs secondBelongs
  | coalesce =>
    obtain rfl := eq_left_of_coalesce typed
    show Computes _ _ (.ok (if first.isNull then second else first))
    rw [firstBelongs.whole.isNull]
    exact firstBelongs
  | equal | notEqual =>
    dsimp only [resultType] at typed
    split at typed <;> cases typed
    exact rfl
  | lessThan | lessThanOrEqual | greaterThan | greaterThanOrEqual =>
    dsimp only [resultType] at typed
    split at typed <;> cases typed
    obtain ⟨leftNot, rightNot⟩ := ordered rfl
    obtain ⟨ordering, known⟩ := exists_ordering ‹_› leftNot rightNot firstBelongs secondBelongs
    exact computes_comparison _ firstBelongs.whole secondBelongs.whole known
  | and | or | exclusiveOr =>
    dsimp only [resultType] at typed
    split at typed
    · cases typed
      obtain ⟨rfl, rfl⟩ := exists_of_bothAre ‹_›
      exact computes_logical_bools _ firstBelongs secondBelongs
    · split at typed
      · rename_i whole
        rw [Bool.and_eq_true] at whole
        split at typed <;> cases typed
        exact computes_logical_numbers (by simp) whole.1 whole.2 ‹_› firstBelongs secondBelongs
      · cases typed
  | add =>
    dsimp only [resultType] at typed
    split at typed
    · cases typed
      obtain ⟨rfl, rfl⟩ := exists_of_bothAre ‹_›
      obtain ⟨text, rfl⟩ := Value.exists_string (Value.belongs_primitive.mp firstBelongs)
      obtain ⟨other, rfl⟩ := Value.exists_string (Value.belongs_primitive.mp secondBelongs)
      exact rfl
    · split at typed <;> cases typed
      exact computes_arithmetic runtime _ ‹_› firstBelongs secondBelongs
  | subtract | multiply | divide | modulo =>
    dsimp only [resultType] at typed
    split at typed <;> cases typed
    exact computes_arithmetic runtime _ ‹_› firstBelongs secondBelongs
  | arrayIndex =>
    dsimp only [resultType] at typed
    split at typed
    · split at typed <;> cases typed
      exact computes_indexed runtime ‹_› firstBelongs secondBelongs
    · cases typed

end BinaryOperator

/-! ### Operators with one operand -/

/-- An operator on a value of a type that it accepts has a value of that type. -/
theorem UnaryOperator.computes_apply {expected : Error → Prop}
    (runtime : ∀ fault, expected (.evaluation fault)) {operator : UnaryOperator} {type : DataType}
    {value : Value} (accepted : operator.acceptsType type = true) (belongs : value.Belongs type) :
    Computes expected type (operator.apply value) := by
  unfold acceptsType at accepted
  split at accepted
  · rename_i kind known
    obtain rfl := DataType.eq_primitive known
    rw [Value.belongs_primitive] at belongs
    cases value <;> cases belongs <;> first | exact rfl | cases accepted
  · rename_i kind known
    obtain rfl := DataType.eq_primitive known
    rcases Value.number_cases (Value.belongs_primitive.mp belongs) accepted with
      ⟨number, rfl, rfl⟩ | ⟨number, rfl, rfl⟩ | ⟨number, rfl, rfl⟩
    · exact (meets_checkedInt32 runtime _).bind fun _ _ => rfl
    · exact (meets_checkedInt64 runtime _).bind fun _ _ => rfl
    · exact rfl
  · cases accepted

end PredicateWire
