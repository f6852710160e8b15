/-
This file gives the laws of equality of values. Both ways to compare values are
symmetric. Values of different kinds are not equal, and loose equality tells only
numbers of different kinds to be equal. It is a comparison of whole numbers or of
doubles where both sides are numbers, one of items where both are arrays, and equality
everywhere else.

Neither equality is reflexive, because a double that is no number equals nothing, not
even itself; so symmetry is what can be used. The mixed case of loose equality is
handled by one lemma for doubles, on whatever side they stand, and one for whole
numbers, of whatever width, which together replace a table of all pairs of kinds.
-/
import PredicateWire.Proofs.Decimal.Order
import PredicateWire.Value.Basic

namespace PredicateWire

namespace Value

variable {left right : Value}

/-! ### Values of one kind -/

/-- Values of different kinds are not equal. -/
theorem equals_of_kindName_ne (different : left.kindName ≠ right.kindName) :
    left.equals right = false := by
  cases left <;> cases right <;> first | exact absurd rfl different | simp only [equals]

/-- Values of different kinds are not equal either way round. -/
theorem equals_comm_of_kindName_ne (different : left.kindName ≠ right.kindName) :
    left.equals right = right.equals left := by
  rw [equals_of_kindName_ne different, equals_of_kindName_ne different.symm]

/-! ### Symmetry -/

mutual

/-- Equality of values is symmetric. -/
theorem equals_comm : ∀ left right : Value, left.equals right = right.equals left
  | array items, right => by
    cases right with
    | array others => rw [equals, equals, equalsAll_comm items others]
    | _ => exact equals_comm_of_kindName_ne (by simp [kindName])
  | map entries, right => by
    cases right with
    | map others => rw [equals, equals, equalsPairs_comm entries others]
    | _ => exact equals_comm_of_kindName_ne (by simp [kindName])
  | record fields, right => by
    cases right with
    | record others => rw [equals, equals, equalsFields_comm fields others]
    | _ => exact equals_comm_of_kindName_ne (by simp [kindName])
  | double number, right => by
    cases right with
    | double other => rw [equals, equals, Decimal.beq_comm]
    | _ => exact equals_comm_of_kindName_ne (by simp [kindName])
  | null, right => by
    cases right with
    | null => rfl
    | _ => exact equals_comm_of_kindName_ne (by simp [kindName])
  | bool _, right | int32 _, right | int64 _, right | char _, right | string _, right
  | function _, right => by
    cases right <;>
      first
      | rw [equals, equals, Bool.beq_comm]
      | exact equals_comm_of_kindName_ne (by simp [kindName])

theorem equalsAll_comm : ∀ items others : List Value,
    equalsAll items others = equalsAll others items
  | [], [] => rfl
  | [], _ :: _ | _ :: _, [] => by simp only [equalsAll]
  | item :: rest, other :: others => by
    rw [equalsAll, equalsAll, equals_comm item other, equalsAll_comm rest others]

theorem equalsPairs_comm : ∀ entries others : List (Value × Value),
    equalsPairs entries others = equalsPairs others entries
  | [], [] => rfl
  | [], _ :: _ | _ :: _, [] => by simp only [equalsPairs]
  | (key, content) :: rest, (otherKey, other) :: others => by
    rw [equalsPairs, equalsPairs, equals_comm key otherKey, equals_comm content other,
      equalsPairs_comm rest others]

theorem equalsFields_comm : ∀ fields others : List (String × Value),
    equalsFields fields others = equalsFields others fields
  | [], [] => rfl
  | [], _ :: _ | _ :: _, [] => by simp only [equalsFields]
  | (name, content) :: rest, (otherName, other) :: others => by
    rw [equalsFields, equalsFields, Bool.beq_comm, equals_comm content other,
      equalsFields_comm rest others]

end

/-! ### Loose equality -/

theorem doublesAgree_comm (first second : Option Float) :
    doublesAgree first second = doublesAgree second first := by
  cases first <;> cases second <;> first | rfl | exact Decimal.beq_comm _ _

/-- A double is compared as a double, on whatever side it stands. -/
theorem looselyEquals_double (left : Value) (number : Float) :
    left.looselyEquals (double number) = doublesAgree left.double? (some number) := by
  cases left <;> rfl

theorem looselyEquals_double_comm (left : Value) (number : Float) :
    left.looselyEquals (double number) = (double number).looselyEquals left := by
  rw [looselyEquals_double, doublesAgree_comm, looselyEquals]

/-- A whole number is held in 32 bits or in 64. -/
theorem integer?_cases {value : Value} {number : Int} (known : value.integer? = some number) :
    (∃ held : Int32, value = int32 held ∧ held.toInt = number) ∨
      ∃ held : Int64, value = int64 held ∧ held.toInt = number := by
  cases value with
  | int32 held => exact .inl ⟨held, rfl, Option.some_inj.mp known⟩
  | int64 held => exact .inr ⟨held, rfl, Option.some_inj.mp known⟩
  | _ => cases known

/-- Whole numbers are compared as such, whatever their widths. -/
theorem looselyEquals_integers {first second : Int} (leftWhole : left.integer? = some first)
    (rightWhole : right.integer? = some second) :
    left.looselyEquals right = (first == second) := by
  rw [Bool.eq_iff_iff, beq_iff_eq]
  rcases integer?_cases leftWhole with ⟨number, rfl, rfl⟩ | ⟨number, rfl, rfl⟩ <;>
    rcases integer?_cases rightWhole with ⟨other, rfl, rfl⟩ | ⟨other, rfl, rfl⟩
  · rw [looselyEquals, equals, beq_iff_eq, Int32.toInt_inj] <;> nofun
  · exact beq_iff_eq
  · exact beq_iff_eq
  · rw [looselyEquals, equals, beq_iff_eq, Int64.toInt_inj] <;> nofun

mutual

/-- Loose equality of values is symmetric. -/
theorem looselyEquals_comm : ∀ left right : Value,
    left.looselyEquals right = right.looselyEquals left
  | double number, right => (looselyEquals_double_comm right number).symm
  | int32 number, right => by
    cases right with
    | double other => exact looselyEquals_double_comm _ other
    | int64 other => exact Bool.beq_comm
    | _ => exact equals_comm _ _
  | int64 number, right => by
    cases right with
    | double other => exact looselyEquals_double_comm _ other
    | int32 other => exact Bool.beq_comm
    | _ => exact equals_comm _ _
  | array items, right => by
    cases right with
    | double other => exact looselyEquals_double_comm _ other
    | array others => exact looselyEqualsAll_comm items others
    | _ => exact equals_comm _ _
  | null, right | bool _, right | char _, right | string _, right | map _, right
  | record _, right | function _, right => by
    cases right with
    | double other => exact looselyEquals_double_comm _ other
    | _ => exact equals_comm _ _

theorem looselyEqualsAll_comm : ∀ items others : List Value,
    looselyEqualsAll items others = looselyEqualsAll others items
  | [], [] => rfl
  | [], _ :: _ | _ :: _, [] => rfl
  | item :: rest, other :: others => by
    rw [looselyEqualsAll, looselyEqualsAll, looselyEquals_comm item other,
      looselyEqualsAll_comm rest others]

end

end Value

end PredicateWire
