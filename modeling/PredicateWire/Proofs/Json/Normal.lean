/-
This file says what the documents are like that a reader holds as constants. In the
normal form of a document the members of every object are in the order of their names,
each name once, and a document that is in order already is its own normal form.
Constants are held in this form by whoever reads a packet, and the literals of whoever
writes one are made in it.

The second property is about numbers. Those of a document in range are whole numbers of
64 bits, with or without a sign, and finite doubles. Reading yields such numbers only,
however the text of a number is put together, because a number beyond the largest double
is refused and not read as an infinity. The normal form of a document has the same
numbers.
-/
import PredicateWire.Proofs.Decimal.Finite
import PredicateWire.Proofs.Entries
import PredicateWire.Proofs.Json.Levels

namespace PredicateWire

namespace Json

/-! ### Documents in order -/

mutual

/-- Every object in a document has its members in the order of their names, each name once. -/
def Ordered : Json → Prop
  | array items => OrderedAll items
  | object members => Entries.Ordered members ∧ OrderedMembers members
  | null => True
  | bool _ => True
  | integer _ => True
  | double _ => True
  | string _ => True

/-- Each of several documents is in order. -/
def OrderedAll : List Json → Prop
  | [] => True
  | item :: rest => Ordered item ∧ OrderedAll rest

/-- The document of each of several members is in order. -/
def OrderedMembers : List (String × Json) → Prop
  | [] => True
  | (_, value) :: rest => Ordered value ∧ OrderedMembers rest

end

mutual

/-- A document in order is its own normal form: sorting finds nothing to move and nothing to leave
out. -/
theorem Ordered.normalize_eq : ∀ {document : Json}, Ordered document → document.normalize = document
  | .null, _ => rfl
  | .bool _, _ => rfl
  | .integer _, _ => rfl
  | .double _, _ => rfl
  | .string _, _ => rfl
  | .array _, ordered => by rw [normalize, OrderedAll.normalizeAll_eq ordered]
  | .object _, ordered => by
    rw [normalize, OrderedMembers.normalizeMembers_eq ordered.2,
      Entries.ofList_of_ordered ordered.1]

theorem OrderedAll.normalizeAll_eq : ∀ {items : List Json}, OrderedAll items →
    normalizeAll items = items
  | [], _ => rfl
  | _ :: _, ordered => by
    rw [normalizeAll, Ordered.normalize_eq ordered.1, OrderedAll.normalizeAll_eq ordered.2]

theorem OrderedMembers.normalizeMembers_eq : ∀ {members : List (String × Json)},
    OrderedMembers members → normalizeMembers members = members
  | [], _ => rfl
  | _ :: _, ordered => by
    rw [normalizeMembers, Ordered.normalize_eq ordered.1,
      OrderedMembers.normalizeMembers_eq ordered.2]

end

/-! ### Documents in range -/

/-- Whole numbers have 64 bits, and doubles are finite. -/
inductive InRange : Json → Prop
  | null : InRange null
  | bool (value : Bool) : InRange (bool value)
  | integer {value : Int} (least : -0x8000000000000000 ≤ value)
    (greatest : value < 0x10000000000000000) : InRange (integer value)
  | double {value : Float} (finite : Decimal.isFinite value = true) : InRange (double value)
  | string (value : String) : InRange (string value)
  | array {items : List Json} (each : ∀ item ∈ items, InRange item) : InRange (array items)
  | object {members : List (String × Json)} (each : ∀ entry ∈ members, InRange entry.2) :
    InRange (object members)

mutual

/-- The normal form of a document in range is in range. -/
theorem InRange.normalize : ∀ {document : Json}, InRange document → InRange document.normalize
  | .null, within => within
  | .bool _, within => within
  | .integer _, within => within
  | .double _, within => within
  | .string _, within => within
  | .array items, .array each => .array (inRange_normalizeAll items each)
  | .object members, .object each => .object fun entry member =>
    inRange_normalizeMembers members each entry (Entries.mem_ofList member)

theorem inRange_normalizeAll : ∀ items : List Json, (∀ item ∈ items, InRange item) →
    ∀ item ∈ normalizeAll items, InRange item
  | [], each => each
  | item :: rest, each => by
    rw [List.forall_mem_cons] at each
    rw [normalizeAll, List.forall_mem_cons]
    exact ⟨each.1.normalize, inRange_normalizeAll rest each.2⟩

/-- Members are sorted and some of them may be left out, but no number is changed. -/
theorem inRange_normalizeMembers : ∀ members : List (String × Json),
    (∀ entry ∈ members, InRange entry.2) → ∀ entry ∈ normalizeMembers members, InRange entry.2
  | [], each => each
  | (_, value) :: rest, each => by
    rw [List.forall_mem_cons] at each
    rw [normalizeMembers, List.forall_mem_cons]
    exact ⟨InRange.normalize each.1, inRange_normalizeMembers rest each.2⟩

end

namespace Reader

theorem isFinite_of_finite? {number result : Float} (found : finite? number = some result) :
    Decimal.isFinite result = true := by
  unfold finite? at found
  split at found
  · rename_i finite
    cases found
    exact finite
  · cases found

/-- The double that is read for a number is finite, since there is none beyond the largest one. -/
theorem isFinite_scaled? {significand : Nat} {power : Int} {number : Float}
    (found : scaled? significand power = some number) : Decimal.isFinite number = true := by
  cases power with
  | ofNat power =>
    unfold scaled? at found
    dsimp only at found
    split at found
    · exact isFinite_of_finite? found
    · split at found
      · cases found
        rfl
      · cases found
  | negSucc power => exact isFinite_of_finite? found

/-- A number that is read is in range, whichever parts it has. -/
theorem inRange_ofParts? {negative : Bool} {whole fraction : List Char} {exponent : Option Int}
    {document : Json} (read : ofParts? negative whole fraction exponent = some document) :
    InRange document := by
  unfold ofParts? at read
  cases negative
  all_goals
    simp only [Bool.false_eq_true, if_false, if_true] at read
    split at read
  · rename_i isInteger
    cases read
    have small := of_decide_eq_true (Bool.and_eq_true_iff.mp isInteger).2
    exact .integer (by omega) (by omega)
  · obtain ⟨number, found, made⟩ := Option.bind_eq_some_iff.mp read
    cases made
    exact .double (isFinite_scaled? found)
  · rename_i isInteger
    cases read
    have bounds := (Bool.and_eq_true_iff.mp isInteger).2
    have small := of_decide_eq_true (Bool.and_eq_true_iff.mp bounds).2
    exact .integer (by omega) (by omega)
  · obtain ⟨number, found, made⟩ := Option.bind_eq_some_iff.mp read
    cases made
    exact .double (Decimal.isFinite_neg (isFinite_scaled? found))

/-- Every document that is read is in range. -/
theorem inRange_document? (levels : Nat) : Reads InRange (document? levels) :=
  document?_reads (fun _ => InRange) (fun _ => .null) (fun _ => .bool) (fun _ => .string)
    (fun _ _ => unsigned?_reads inRange_ofParts?) (fun _ _ => .array) (fun _ _ => .object) levels

end Reader

/-- What a text holds is in range. -/
theorem inRange_read? {text : String} {document : Json} (read : read? text = some document) :
    InRange document := by
  unfold read? readWithin? Reader.all? at read
  split at read
  · rename_i done
    split at read
    · cases read
      exact Reader.inRange_document? _ done
    · cases read
  · cases read

end Json

end PredicateWire
