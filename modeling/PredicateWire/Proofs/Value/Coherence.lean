/-
This file proves that equality and order of values agree with each other. The order of
two values turns round when they change places, and two values are ordered as equal just
when they are loosely equal and of a kind that has an order. What the comparison
operators answer follows from this and from the symmetry of loose equality
(`BinaryOperator.comparisons_coherent`). Nothing is assumed of doubles: their order is
that of what they are taken apart into.

Values of different kinds are the ones to look at. A whole number and a double are
compared as doubles, two whole numbers as whole numbers, and the two equalities and the
order have to choose alike on whatever side the double stands. Where there is no order,
as for a double that is no number, no ordering operator has an answer, and nothing is
said.
-/
import PredicateWire.Proofs.Evaluation.OperatorRules
import PredicateWire.Proofs.Value.Equality

namespace PredicateWire

namespace Value

variable {left right : Value}

/-! ### Values that have an order -/

/-- Two values are both numbers, both texts or both characters. -/
def Comparable (left right : Value) : Prop :=
  ∃ first second, left.primitive? = some first ∧ right.primitive? = some second ∧
    (first.isNumeric = true ∧ second.isNumeric = true ∨ first = .string ∧ second = .string ∨
      first = .char ∧ second = .char)

/-- The order of two doubles turns round when they change places. -/
theorem compareDoubles?_swap (first second : Float) :
    compareDoubles? second first = (compareDoubles? first second).map Ordering.swap := by
  rw [compareDoubles?_eq, compareDoubles?_eq]
  exact Decimal.compare_swap _ _

/-- Doubles are ordered as equal just when they are equal. -/
theorem compareDoubles?_eq_some_eq (first second : Float) :
    compareDoubles? first second = some .eq ↔ (first == second) = true := by
  rw [compareDoubles?_eq, Decimal.beq_iff]

/-- The order of two values turns round when they change places. -/
theorem compare?_swap (left right : Value) :
    right.compare? left = (left.compare? right).map Ordering.swap := by
  cases left <;> cases right <;>
    first
    | rfl
    | exact compareDoubles?_swap _ _
    | exact congrArg some (Std.OrientedOrd.eq_swap (α := Int))
    | exact congrArg some (Std.OrientedOrd.eq_swap (α := String))
    | exact congrArg some (Std.OrientedOrd.eq_swap (α := Char))

/-- Values with an order are of a kind that has one. -/
theorem comparable_of_compare? {ordering : Ordering} (known : left.compare? right = some ordering) :
    left.Comparable right := by
  cases left <;> cases right <;>
    first
    | exact ⟨_, _, rfl, rfl, .inl ⟨rfl, rfl⟩⟩
    | exact ⟨_, _, rfl, rfl, .inr (.inl ⟨rfl, rfl⟩)⟩
    | exact ⟨_, _, rfl, rfl, .inr (.inr ⟨rfl, rfl⟩)⟩
    | cases known

/-- In a lawful order two things compare as equal just when they are equal. -/
theorem some_compare_eq_iff {Content : Type} [Ord Content] [Std.LawfulEqOrd Content] [BEq Content]
    [LawfulBEq Content] (first second : Content) :
    some (compare first second) = some .eq ↔ (first == second) = true := by
  rw [Option.some_inj, Std.compare_eq_iff_eq, beq_iff_eq]

/-- Values of a kind that has an order are ordered as equal just when they are loosely equal. -/
theorem Comparable.compare?_eq (comparable : left.Comparable right) :
    left.compare? right = some .eq ↔ left.looselyEquals right = true := by
  obtain ⟨first, second, leftKind, rightKind, numbers | texts | characters⟩ := comparable
  · have whole : ∀ {number other : Int}, left.integer? = some number →
        right.integer? = some other →
          (some (compare number other) = some .eq ↔ left.looselyEquals right = true) :=
      fun leftWhole rightWhole => by
        rw [looselyEquals_integers leftWhole rightWhole, some_compare_eq_iff]
    rcases number_cases leftKind numbers.1 with
        ⟨number, rfl, rfl⟩ | ⟨number, rfl, rfl⟩ | ⟨number, rfl, rfl⟩ <;>
      rcases number_cases rightKind numbers.2 with
        ⟨other, rfl, rfl⟩ | ⟨other, rfl, rfl⟩ | ⟨other, rfl, rfl⟩ <;>
      first
      | exact whole rfl rfl
      | exact compareDoubles?_eq_some_eq _ _
  · obtain ⟨rfl, rfl⟩ := texts
    obtain ⟨text, rfl⟩ := exists_string leftKind
    obtain ⟨other, rfl⟩ := exists_string rightKind
    rw [looselyEquals, equals]
    · exact some_compare_eq_iff text other
    all_goals nofun
  · obtain ⟨rfl, rfl⟩ := characters
    obtain ⟨character, rfl⟩ := exists_char leftKind
    obtain ⟨other, rfl⟩ := exists_char rightKind
    rw [looselyEquals, equals]
    · exact some_compare_eq_iff character other
    all_goals nofun

end Value

namespace BinaryOperator

variable {operator : BinaryOperator} {left right : Value}

/-! ### Comparison operators -/

/-- An ordering operator that has an answer for operands that are not null has found their order. -/
theorem exists_of_apply_ordering {answer : Value} (ordering : operator.isOrdering = true)
    (leftPresent : left.isNull = false) (rightPresent : right.isNull = false)
    (answers : operator.apply left right = .ok answer) :
    ∃ order, left.compare? right = some order := by
  rw [apply_of_ordering ordering, comparison, leftPresent, rightPresent] at answers
  cases known : left.compare? right with
  | some order => exact ⟨order, rfl⟩
  | none =>
    rw [known] at answers
    cases answers

/-- An ordering operator answers what its name says about the order of its operands. -/
theorem apply_of_compare? {order : Ordering} (ordering : operator.isOrdering = true)
    (leftPresent : left.isNull = false) (rightPresent : right.isNull = false)
    (known : left.compare? right = some order) :
    operator.apply left right = .ok (.bool (operator.holdsFor order)) := by
  rw [apply_of_ordering ordering, comparison, leftPresent, rightPresent, known]
  rfl

/-- Loose equality is symmetric, the order of two values turns round when they change places, and
they are ordered as equal just when they are of a kind that has an order and are loosely equal. So
where one ordering operator has an answer for two values that are not null, all have one, exactly
one of less, equal and greater holds, and the other operators say what their names say. -/
theorem comparisons_coherent (left right : Value) :
    left.looselyEquals right = right.looselyEquals left ∧
      right.compare? left = (left.compare? right).map Ordering.swap ∧
      (left.compare? right = some .eq ↔
        left.Comparable right ∧ left.looselyEquals right = true) ∧
      ∀ {operator : BinaryOperator} {answer : Value}, left.isNull = false →
        right.isNull = false → operator.isOrdering = true →
          operator.apply left right = .ok answer →
            ∃ less same greater : Bool,
              lessThan.apply left right = .ok (.bool less) ∧
                equal.apply left right = .ok (.bool same) ∧
                greaterThan.apply left right = .ok (.bool greater) ∧
                [less, same, greater].count true = 1 ∧
                lessThanOrEqual.apply left right = .ok (.bool (less || same)) ∧
                greaterThanOrEqual.apply left right = .ok (.bool (greater || same)) ∧
                greaterThan.apply left right = lessThan.apply right left ∧
                notEqual.apply left right = .ok (.bool !same) := by
  refine ⟨Value.looselyEquals_comm left right, Value.compare?_swap left right, ?_, ?_⟩
  · constructor
    · intro known
      have comparable := Value.comparable_of_compare? known
      exact ⟨comparable, comparable.compare?_eq.mp known⟩
    · rintro ⟨comparable, same⟩
      exact comparable.compare?_eq.mpr same
  · intro operator answer leftPresent rightPresent ordering answers
    obtain ⟨order, known⟩ := exists_of_apply_ordering ordering leftPresent rightPresent answers
    have same : left.looselyEquals right = (order == .eq) := by
      have agree := (Value.comparable_of_compare? known).compare?_eq
      rw [known, Option.some_inj] at agree
      rw [Bool.eq_iff_iff, beq_iff_eq]
      exact agree.symm
    have turned : right.compare? left = some order.swap := by
      rw [Value.compare?_swap, known]
      rfl
    have answer : ∀ {other : BinaryOperator}, other.isOrdering = true →
        other.apply left right = .ok (.bool (other.holdsFor order)) :=
      fun other => apply_of_compare? other leftPresent rightPresent known
    refine ⟨order == .lt, order == .eq, order == .gt, answer rfl, ?_, answer rfl, ?_,
      (answer rfl).trans ?_, (answer rfl).trans ?_, (answer rfl).trans ?_, ?_⟩
    · rw [← same]
      rfl
    · cases order <;> rfl
    · cases order <;> rfl
    · cases order <;> rfl
    · rw [apply_of_compare? rfl rightPresent leftPresent turned]
      cases order <;> rfl
    · rw [← same]
      rfl

/-- A whole number and a double are compared as doubles, on whatever side they stand, and the six
comparison operators agree about them. -/
theorem comparisons_coherent_widths :
    (Value.int32 2).isNull = false ∧ (Value.double 2.5).isNull = false ∧
      lessThan.isOrdering = true ∧
      lessThan.apply (.int32 2) (.double 2.5) = .ok (.bool true) ∧
      ∃ less same greater : Bool,
        lessThan.apply (.int32 2) (.double 2.5) = .ok (.bool less) ∧
          equal.apply (.int32 2) (.double 2.5) = .ok (.bool same) ∧
          greaterThan.apply (.int32 2) (.double 2.5) = .ok (.bool greater) ∧
          [less, same, greater].count true = 1 ∧
          lessThanOrEqual.apply (.int32 2) (.double 2.5) = .ok (.bool (less || same)) ∧
          greaterThanOrEqual.apply (.int32 2) (.double 2.5) = .ok (.bool (greater || same)) ∧
          greaterThan.apply (.int32 2) (.double 2.5) =
            lessThan.apply (.double 2.5) (.int32 2) ∧
          notEqual.apply (.int32 2) (.double 2.5) = .ok (.bool !same) := by
  have answers : lessThan.apply (.int32 2) (.double 2.5) = .ok (.bool true) := by rfl
  exact ⟨rfl, rfl, rfl, answers,
    (comparisons_coherent (.int32 2) (.double 2.5)).2.2.2 rfl rfl rfl answers⟩

end BinaryOperator

end PredicateWire
