/-
This file says how far equality depends on the width in which whole numbers are held.
Loose equality looks into arrays, so that numbers of different widths are equal inside
arrays, at any depth. It does not look into maps and records: those are compared by
equality, which tells the widths apart. So two values that are the same but for widths
are loosely equal just when no width differs inside a map or a record, and such values
can stand for each other wherever values are compared
(`Value.looselyEquals_iff_sameButItemWidths`).

Values are `Definite` here, since a double that is no number would make them unequal for
another reason. The relations between values are recursive in the value on the left, as
the equalities are, so that each equivalence is proved by the recursion of what it
describes.
-/
import PredicateWire.Evaluation.Natives
import PredicateWire.Proofs.Value.Equality
import PredicateWire.Proofs.Value.Plain

namespace PredicateWire

namespace Value

/-! ### Values without a double that is no number -/

/-- No double in the value is without being a number. What a function has captured is not looked
at. -/
inductive Definite : Value → Prop
  | null : Definite .null
  | bool (value : Bool) : Definite (.bool value)
  | int32 (value : Int32) : Definite (.int32 value)
  | int64 (value : Int64) : Definite (.int64 value)
  | double {value : Float} (isNumber : value.isNaN = false) : Definite (.double value)
  | char (value : Char) : Definite (.char value)
  | string (value : String) : Definite (.string value)
  | array {items : List Value} (each : ∀ item ∈ items, Definite item) : Definite (.array items)
  | map {entries : List (Value × Value)} (keys : ∀ entry ∈ entries, Definite entry.1)
    (contents : ∀ entry ∈ entries, Definite entry.2) : Definite (.map entries)
  | record {fields : List (String × Value)} (each : ∀ field ∈ fields, Definite field.2) :
    Definite (.record fields)
  | function (closure : Closure) : Definite (.function closure)

/-! ### Values that differ in widths -/

mutual

/-- Two values are the same, but for the widths in which they hold whole numbers at any place. -/
def SameButWidths : Value → Value → Prop
  | array items, right => ∃ others, right = array others ∧ SameButWidthsAll items others
  | map entries, right => ∃ others, right = map others ∧ SameButWidthsPairs entries others
  | record fields, right => ∃ others, right = record others ∧ SameButWidthsFields fields others
  | int32 number, right => right.integer? = some number.toInt
  | int64 number, right => right.integer? = some number.toInt
  | left, right => right = left
termination_by structural left => left

/-- Several values are the same but for widths, one by one. -/
def SameButWidthsAll : List Value → List Value → Prop
  | [], right => right = []
  | value :: rest, right => ∃ other others, right = other :: others ∧ SameButWidths value other ∧
      SameButWidthsAll rest others
termination_by structural left => left

/-- The entries of two maps are the same but for widths. -/
def SameButWidthsPairs : List (Value × Value) → List (Value × Value) → Prop
  | [], right => right = []
  | (key, content) :: rest, right => ∃ otherKey other others, right = (otherKey, other) :: others ∧
      SameButWidths key otherKey ∧ SameButWidths content other ∧ SameButWidthsPairs rest others
termination_by structural left => left

/-- The fields of two records have the same names, and contents that are the same but for
widths. -/
def SameButWidthsFields : List (String × Value) → List (String × Value) → Prop
  | [], right => right = []
  | (name, content) :: rest, right => ∃ other others, right = (name, other) :: others ∧
      SameButWidths content other ∧ SameButWidthsFields rest others
termination_by structural left => left

end

mutual

/-- Two values are the same, but for the widths of whole numbers that stand in no map and in no
record. -/
def SameButItemWidths : Value → Value → Prop
  | array items, right => ∃ others, right = array others ∧ SameButItemWidthsAll items others
  | int32 number, right => right.integer? = some number.toInt
  | int64 number, right => right.integer? = some number.toInt
  | left, right => right = left
termination_by structural left => left

/-- Several values are the same, one by one, but for widths outside maps and records. -/
def SameButItemWidthsAll : List Value → List Value → Prop
  | [], right => right = []
  | value :: rest, right => ∃ other others, right = other :: others ∧
      SameButItemWidths value other ∧ SameButItemWidthsAll rest others
termination_by structural left => left

end

/-! ### Equality tells widths apart -/

mutual

/-- Of values that are the same but for widths, equality holds only where they are the same. -/
theorem equals_iff : ∀ {left right : Value}, left.Definite → left.SameButWidths right →
    (left.equals right = true ↔ right = left)
  | array items, _, .array each, ⟨others, rfl, same⟩ => by
    rw [equals, equalsAll_iff each same, array.injEq]
  | map entries, _, .map keys contents, ⟨others, rfl, same⟩ => by
    rw [equals, equalsPairs_iff keys contents same, map.injEq]
  | record fields, _, .record each, ⟨others, rfl, same⟩ => by
    rw [equals, equalsFields_iff each same, record.injEq]
  | double number, _, .double isNumber, rfl => by
    rw [equals]
    exact iff_of_true (Decimal.beq_self isNumber) rfl
  | int32 number, _, _, same => by
    rcases integer?_cases same with ⟨held, rfl, -⟩ | ⟨held, rfl, -⟩
    · rw [equals, beq_iff_eq, int32.injEq, eq_comm]
    · exact iff_of_false (by simp [equals]) nofun
  | int64 number, _, _, same => by
    rcases integer?_cases same with ⟨held, rfl, -⟩ | ⟨held, rfl, -⟩
    · exact iff_of_false (by simp [equals]) nofun
    · rw [equals, beq_iff_eq, int64.injEq, eq_comm]
  | null, _, _, rfl | bool _, _, _, rfl | char _, _, _, rfl | string _, _, _, rfl
  | function _, _, _, rfl => iff_of_true (by simp [equals]) rfl

theorem equalsAll_iff : ∀ {items others : List Value}, (∀ item ∈ items, item.Definite) →
    SameButWidthsAll items others → (equalsAll items others = true ↔ others = items)
  | [], _, _, rfl => iff_of_true (by simp [equalsAll]) rfl
  | item :: rest, _, each, ⟨other, others, rfl, same, rests⟩ => by
    rw [List.forall_mem_cons] at each
    rw [equalsAll, Bool.and_eq_true, equals_iff each.1 same, equalsAll_iff each.2 rests,
      List.cons.injEq]

theorem equalsPairs_iff : ∀ {entries others : List (Value × Value)},
    (∀ entry ∈ entries, entry.1.Definite) → (∀ entry ∈ entries, entry.2.Definite) →
      SameButWidthsPairs entries others → (equalsPairs entries others = true ↔ others = entries)
  | [], _, _, _, rfl => iff_of_true (by simp [equalsPairs]) rfl
  | (key, content) :: rest, _, keys, contents,
      ⟨otherKey, other, others, rfl, sameKey, same, rests⟩ => by
    rw [List.forall_mem_cons] at keys contents
    rw [equalsPairs, Bool.and_eq_true, Bool.and_eq_true, equals_iff keys.1 sameKey,
      equals_iff contents.1 same, equalsPairs_iff keys.2 contents.2 rests, List.cons.injEq,
      Prod.mk.injEq]

theorem equalsFields_iff : ∀ {fields others : List (String × Value)},
    (∀ field ∈ fields, field.2.Definite) → SameButWidthsFields fields others →
      (equalsFields fields others = true ↔ others = fields)
  | [], _, _, rfl => iff_of_true (by simp [equalsFields]) rfl
  | (name, content) :: rest, _, each, ⟨other, others, rfl, same, rests⟩ => by
    rw [List.forall_mem_cons] at each
    rw [equalsFields, Bool.and_eq_true, Bool.and_eq_true, equals_iff each.1 same,
      equalsFields_iff each.2 rests, List.cons.injEq, Prod.mk.injEq, beq_self_eq_true]
    simp only [true_and]

end

/-! ### Loose equality looks into arrays -/

mutual

/-- Loose equality holds where no width differs inside a map or a record. -/
theorem looselyEquals_iff : ∀ {left right : Value}, left.Definite → left.SameButWidths right →
    (left.looselyEquals right = true ↔ left.SameButItemWidths right)
  | array items, _, .array each, ⟨others, rfl, same⟩ => by
    rw [looselyEquals, looselyEqualsAll_iff each same]
    constructor
    · exact fun same => ⟨others, rfl, same⟩
    · rintro ⟨_, ⟨⟩, same⟩
      exact same
  | map entries, _, definite, ⟨others, rfl, same⟩ =>
    equals_iff definite ⟨others, rfl, same⟩
  | record fields, _, definite, ⟨others, rfl, same⟩ =>
    equals_iff definite ⟨others, rfl, same⟩
  | double number, _, .double isNumber, rfl => iff_of_true (Decimal.beq_self isNumber) rfl
  | int32 number, _, _, same =>
    iff_of_true ((looselyEquals_integers rfl same).trans (beq_self_eq_true _)) same
  | int64 number, _, _, same =>
    iff_of_true ((looselyEquals_integers rfl same).trans (beq_self_eq_true _)) same
  | null, _, definite, rfl => equals_iff definite rfl
  | bool value, _, definite, rfl => equals_iff definite rfl
  | char value, _, definite, rfl => equals_iff definite rfl
  | string value, _, definite, rfl => equals_iff definite rfl
  | function closure, _, definite, rfl => equals_iff definite rfl

theorem looselyEqualsAll_iff : ∀ {items others : List Value}, (∀ item ∈ items, item.Definite) →
    SameButWidthsAll items others →
      (looselyEqualsAll items others = true ↔ SameButItemWidthsAll items others)
  | [], _, _, rfl => iff_of_true rfl rfl
  | item :: rest, _, each, ⟨other, others, rfl, same, rests⟩ => by
    rw [List.forall_mem_cons] at each
    rw [looselyEqualsAll, Bool.and_eq_true, looselyEquals_iff each.1 same,
      looselyEqualsAll_iff each.2 rests]
    constructor
    · exact fun both => ⟨other, others, rfl, both⟩
    · rintro ⟨_, _, ⟨⟩, both⟩
      exact both

end

/-- A whole number is loosely equal to the same values in either width. -/
theorem looselyEquals_eq_of_integer? {left right : Value} {number : Int}
    (leftWhole : left.integer? = some number) (rightWhole : right.integer? = some number)
    (other : Value) : left.looselyEquals other = right.looselyEquals other := by
  cases other with
  | int32 held => rw [looselyEquals_integers leftWhole rfl, looselyEquals_integers rightWhole rfl]
  | int64 held => rw [looselyEquals_integers leftWhole rfl, looselyEquals_integers rightWhole rfl]
  | double held =>
    rcases integer?_cases leftWhole with ⟨narrow, rfl, rfl⟩ | ⟨wide, rfl, rfl⟩ <;>
      rcases integer?_cases rightWhole with ⟨other, rfl, equal⟩ | ⟨other, rfl, equal⟩ <;>
      rw [looselyEquals_double, looselyEquals_double, double?, double?, equal]
  | _ =>
    rcases integer?_cases leftWhole with ⟨narrow, rfl, rfl⟩ | ⟨wide, rfl, rfl⟩ <;>
      rcases integer?_cases rightWhole with ⟨other, rfl, equal⟩ | ⟨other, rfl, equal⟩ <;>
      simp [looselyEquals, equals]

mutual

/-- Values that differ only in widths outside maps and records are loosely equal to the same
values. -/
theorem SameButItemWidths.looselyEquals_eq : ∀ {left right : Value}, left.SameButItemWidths right →
    ∀ other : Value, left.looselyEquals other = right.looselyEquals other
  | array items, _, ⟨others, rfl, same⟩, other => by
    cases other with
    | array wanted => exact SameButItemWidthsAll.looselyEqualsAll_eq same wanted
    | _ => simp [looselyEquals, equals, double?]
  | int32 number, _, same, other => looselyEquals_eq_of_integer? rfl same other
  | int64 number, _, same, other => looselyEquals_eq_of_integer? rfl same other
  | null, _, rfl, _ | bool _, _, rfl, _ | double _, _, rfl, _ | char _, _, rfl, _
  | string _, _, rfl, _ | map _, _, rfl, _ | record _, _, rfl, _ | function _, _, rfl, _ => rfl

theorem SameButItemWidthsAll.looselyEqualsAll_eq : ∀ {items others : List Value},
    SameButItemWidthsAll items others →
      ∀ wanted : List Value, looselyEqualsAll items wanted = looselyEqualsAll others wanted
  | [], _, rfl, _ => rfl
  | item :: rest, _, ⟨other, others, rfl, same, rests⟩, wanted => by
    cases wanted with
    | nil => rfl
    | cons value values =>
      rw [looselyEqualsAll, looselyEqualsAll, same.looselyEquals_eq value,
        SameButItemWidthsAll.looselyEqualsAll_eq rests values]

end

/-! ### Values that stand for each other -/

section

open Native (containsLoosely)

/-- An item is found, or not, as any value is that is loosely equal to the same values. -/
theorem containsLoosely_congr {left right : Value}
    (same : ∀ other : Value, other.looselyEquals left = other.looselyEquals right)
    (items : List Value) : containsLoosely items left = containsLoosely items right := by
  simp only [containsLoosely, same]

theorem contentOf?_congr {left right : Value}
    (same : ∀ other : Value, other.looselyEquals left = other.looselyEquals right)
    (container : Value) : container.contentOf? left = container.contentOf? right := by
  simp only [contentOf?, same]

/-- Of two values that are the same but for widths, the one is loosely equal to the other just when
no width differs inside a map or a record. Then neither the equality operators, nor the search for
an item or for a key, nor the lookup by a key tell the two apart: not where they are compared with
something, and not where they stand among the items or keys. -/
theorem looselyEquals_iff_sameButItemWidths {left right : Value} (definite : left.Definite)
    (same : left.SameButWidths right) :
    (left.looselyEquals right = true ↔ left.SameButItemWidths right) ∧
      (left.SameButItemWidths right →
        (∀ other, BinaryOperator.equal.apply left other = BinaryOperator.equal.apply right other ∧
            BinaryOperator.equal.apply other left = BinaryOperator.equal.apply other right) ∧
          (∀ items, containsLoosely items left = containsLoosely items right) ∧
          (∀ before after needle, containsLoosely (before ++ left :: after) needle =
            containsLoosely (before ++ right :: after) needle) ∧
          (∀ container : Value, container.contentOf? left = container.contentOf? right) ∧
          ∀ before after content key, (map (before ++ (left, content) :: after)).contentOf? key =
            (map (before ++ (right, content) :: after)).contentOf? key) := by
  refine ⟨looselyEquals_iff definite same, fun inItems => ?_⟩
  have first := inItems.looselyEquals_eq
  have second : ∀ other : Value, other.looselyEquals left = other.looselyEquals right :=
    fun other => by rw [looselyEquals_comm, first, looselyEquals_comm]
  refine ⟨fun other => ⟨?_, ?_⟩, containsLoosely_congr second, fun before after needle => ?_,
    contentOf?_congr second, fun before after content key => ?_⟩
  · show Except.ok (bool (left.looselyEquals other)) = .ok (bool (right.looselyEquals other))
    rw [first]
  · show Except.ok (bool (other.looselyEquals left)) = .ok (bool (other.looselyEquals right))
    rw [second]
  · simp only [containsLoosely, List.any_append, List.any_cons, first]
  · simp only [contentOf?, List.find?_append, List.find?_cons, first, Option.map_or]
    cases right.looselyEquals key <;> rfl

/-- Numbers of two widths are equal inside arrays, and the record beside them is the same. -/
theorem looselyEquals_iff_sameButItemWidths_nested :
    (array [array [int32 7], record [("Id", int32 1)]]).Definite ∧
      (array [array [int32 7], record [("Id", int32 1)]]).SameButWidths
        (array [array [int64 7], record [("Id", int32 1)]]) ∧
      (array [array [int32 7], record [("Id", int32 1)]]).looselyEquals
        (array [array [int64 7], record [("Id", int32 1)]]) = true := by
  have definite : (array [array [int32 7], record [("Id", int32 1)]]).Definite := by
    refine .array (List.forall_mem_cons.mpr ⟨.array ?_, List.forall_mem_singleton.mpr (.record ?_)⟩)
    · exact List.forall_mem_singleton.mpr (.int32 7)
    · exact List.forall_mem_singleton.mpr (.int32 1)
  have same : (array [array [int32 7], record [("Id", int32 1)]]).SameButWidths
      (array [array [int64 7], record [("Id", int32 1)]]) :=
    ⟨_, rfl, _, _, rfl, ⟨_, rfl, _, _, rfl, rfl, rfl⟩, _, _, rfl,
      ⟨_, rfl, _, _, rfl, rfl, rfl⟩, rfl⟩
  have inItems : (array [array [int32 7], record [("Id", int32 1)]]).SameButItemWidths
      (array [array [int64 7], record [("Id", int32 1)]]) :=
    ⟨_, rfl, _, _, rfl, ⟨_, rfl, _, _, rfl, rfl, rfl⟩, _, _, rfl, rfl, rfl⟩
  exact ⟨definite, same, (looselyEquals_iff_sameButItemWidths definite same).1.mpr inItems⟩

/-- A number in a record or in a map is not equal to the same number in the other width, though it
is in an array, and a search for the record does not find it. -/
theorem looselyEquals_inRecord :
    (record [("Id", int32 1)]).Definite ∧ (record [("Id", int32 1)]).Plain ∧
      (record [("Id", int32 1)]).SameButWidths (record [("Id", int64 1)]) ∧
        (record [("Id", int32 1)]).looselyEquals (record [("Id", int64 1)]) = false ∧
        (map [(string "Id", int32 1)]).looselyEquals (map [(string "Id", int64 1)]) = false ∧
        (array [int32 1]).looselyEquals (array [int64 1]) = true ∧
        containsLoosely [record [("Id", int64 1)]] (record [("Id", int32 1)]) = false ∧
        containsLoosely [record [("Id", int64 1)]] (record [("Id", int64 1)]) = true := by
  refine ⟨.record (List.forall_mem_singleton.mpr (.int32 1)),
    .record (List.forall_mem_singleton.mpr (.int32 1)), ⟨_, rfl, _, _, rfl, rfl, rfl⟩,
    ?_, ?_, ?_, ?_, ?_⟩ <;>
    simp [containsLoosely, looselyEquals, looselyEqualsAll, equals, equalsFields, equalsPairs]

end

end Value

end PredicateWire
