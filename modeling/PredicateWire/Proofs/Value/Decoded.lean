/-
This file proves that a type admits whatever is read at it from a document in range,
whoever wrote the document. A member that is missing is null, a member that is not
declared is refused, and where no constant but null can stand everything else is
refused. Of two fields with one name the last one is kept to.

The reader of literals is not strict in every respect. Entries of a map may repeat a
key, a document at the top type stands for whatever it says by itself, and null is read
everywhere. What it keeps to is stated as a property of the value alone (`WellTyped`),
so that it can be used of received constants without the document they came from.
Numbers are in range because documents that are read are.
-/
import PredicateWire.Proofs.Value.Typed

namespace PredicateWire

namespace Value

open DataType

/-! ### Values without a type -/

theorem untyped_ofFields {contents : List (String × Value)}
    (each : ∀ entry ∈ contents, entry.2.Untyped) : (ofFields contents).Untyped :=
  .record (Entries.ordered_ofList _) fun entry member => each entry (Entries.mem_ofList member)

mutual

/-- Whatever is read without a type from a document in range consists of what it says itself. -/
theorem untyped_ofUntyped : ∀ {document : Json}, document.InRange → (ofUntyped document).Untyped
  | .null, _ => .null
  | .bool value, _ => .bool value
  | .integer value, .integer least greatest => by
    rw [ofUntyped]
    split
    · exact .int64 _
    · exact .double (Decimal.isFinite_ofInt least greatest)
  | .double _, .double finite => .double finite
  | .string value, _ => .string value
  | .array _, .array each => .array (untyped_ofUntypedAll each)
  | .object _, .object each => untyped_ofFields (untyped_ofUntypedMembers each)

theorem untyped_ofUntypedAll : ∀ {items : List Json}, (∀ item ∈ items, item.InRange) →
    ∀ value ∈ ofUntypedAll items, value.Untyped
  | [], _ => fun _ member => nomatch member
  | _ :: _, each => by
    rw [List.forall_mem_cons] at each
    rw [ofUntypedAll, List.forall_mem_cons]
    exact ⟨untyped_ofUntyped each.1, untyped_ofUntypedAll each.2⟩

theorem untyped_ofUntypedMembers : ∀ {members : List (String × Json)},
    (∀ entry ∈ members, entry.2.InRange) → ∀ entry ∈ ofUntypedMembers members, entry.2.Untyped
  | [], _ => fun _ member => nomatch member
  | (_, _) :: _, each => by
    rw [List.forall_mem_cons] at each
    rw [ofUntypedMembers, List.forall_mem_cons]
    exact ⟨untyped_ofUntyped each.1, untyped_ofUntypedMembers each.2⟩

end

/-! ### Primitive values -/

/-- The whole number of a document is the one that the document is. -/
theorem integer?_eq {document : Json} {number : Int} (read : document.integer? = some number) :
    document = .integer number := by
  unfold Json.integer? at read
  split at read
  · split at read
    · cases read
      rfl
    · cases read
  · cases read

/-- The double that a number is read as is finite, since whole numbers of 64 bits are. -/
theorem isFinite_double? {document : Json} (within : document.InRange) {number : Float}
    (read : document.double? = some number) : Decimal.isFinite number = true := by
  cases within with
  | integer least greatest =>
    cases read
    exact Decimal.isFinite_ofInt least greatest
  | double finite =>
    cases read
    exact finite
  | _ => cases read

/-- A primitive type admits what is read at it. -/
theorem admits_ofPrimitive? {governs : List (Field DataType) → Field DataType → Prop}
    {kind : Primitive} {document : Json} (within : document.InRange) {value : Value}
    (read : ofPrimitive? kind document = some value) : (primitive kind).Admits governs value := by
  cases kind with
  | void => cases read
  | double =>
    obtain ⟨number, found, rfl⟩ := Option.map_eq_some_iff.mp read
    exact .double (isFinite_double? within found)
  | _ =>
    obtain ⟨content, _, rfl⟩ := Option.map_eq_some_iff.mp read
    constructor

/-- What a primitive type has been read as is read from the document alone. -/
theorem ofPrimitive?_of_ofLiteral {kind : Primitive} {document : Json} {value : Value}
    (read : ofLiteral (.primitive kind) document = .ok value) (something : value ≠ .null) :
    ofPrimitive? kind document = some value := by
  unfold ofLiteral at read
  split at read
  · cases read
    exact absurd rfl something
  · dsimp only at read
    split at read
    · rename_i found
      cases read
      exact found
    · cases read

/-- A 32-bit number is read from the document that is the same number, so none is cut off. -/
theorem ofLiteral_int32 {document : Json} {value : Int32}
    (read : ofLiteral .int32 document = .ok (.int32 value)) :
    document = .integer value.toInt := by
  have found := ofPrimitive?_of_ofLiteral read (by rintro ⟨⟩)
  obtain ⟨narrow, narrowed, same⟩ := Option.map_eq_some_iff.mp found
  cases same
  obtain ⟨number, whole, narrowed⟩ := Option.bind_eq_some_iff.mp narrowed
  unfold int32? at narrowed
  split at narrowed
  · rename_i bounds
    cases narrowed
    rw [integer?_eq whole, Int32.toInt_ofInt_of_le bounds.1 bounds.2]
  · cases narrowed

/-- A character is read from a text that is this character and nothing else. -/
theorem ofLiteral_char {document : Json} {value : Char}
    (read : ofLiteral .char document = .ok (.char value)) :
    document = .string (String.singleton value) := by
  have found := ofPrimitive?_of_ofLiteral read (by rintro ⟨⟩)
  obtain ⟨only, alone, same⟩ := Option.map_eq_some_iff.mp found
  cases same
  obtain ⟨text, held, single⟩ := Option.bind_eq_some_iff.mp alone
  cases document with
  | string text =>
    cases held
    unfold onlyCharacter? at single
    split at single
    · rename_i characters
      cases single
      have spelled : String.ofList text.toList = String.singleton value := by
        rw [characters]
        rfl
      rw [← spelled, String.ofList_toList]
    · cases single
  | _ => cases held

/-! ### Records -/

/-- What has been read for a declared field. A field without a member is null. -/
structure ReadFor (members : List (String × Json)) (field : Field DataType)
    (entry : String × Value) : Prop where
  named : entry.1 = field.name
  admitted : field.type.Admits Field.IsLast entry.2
  missing : Entries.get? members field.name = none → entry.2 = .null

/-- What is found under a name fits the field that is found under it, where contents have been read
field by field and go by the names of their fields. -/
theorem get?_of_forall₂ {fits : Field DataType → String × Value → Prop}
    (named : ∀ {field entry}, fits field entry → entry.1 = field.name)
    {fields : List (Field DataType)} {contents : List (String × Value)}
    (each : List.Forall₂ fits fields contents) {name : String} {field : Field DataType}
    (found : (fields.find? fun other => other.name == name) = some field) :
    ∃ content, Entries.get? contents name = some content ∧ fits field (field.name, content) := by
  induction each with
  | nil => cases found
  | @cons first entry rest others fit _ inductionHypothesis =>
    rw [Entries.get?_cons, named fit]
    rw [List.find?_cons] at found
    split at found
    · rename_i same
      cases found
      rw [if_pos (eq_of_beq same)]
      exact ⟨entry.2, rfl, named fit ▸ fit⟩
    · rename_i different
      rw [if_neg (by simpa using different)]
      exact inductionHypothesis found

section

variable {members : List (String × Json)} {fields : List (Field DataType)}
  {contents : List (String × Value)}

theorem declared_of_readFor (each : List.Forall₂ (ReadFor members) fields contents) :
    ∀ entry ∈ contents, ∃ field ∈ fields, field.name = entry.1 := by
  induction each with
  | nil => exact List.forall_mem_nil _
  | cons fit _ inductionHypothesis =>
    refine List.forall_mem_cons.mpr ⟨⟨_, .head _, fit.named.symm⟩, fun entry member => ?_⟩
    obtain ⟨field, fieldMember, named⟩ := inductionHypothesis entry member
    exact ⟨field, .tail _ fieldMember, named⟩

/-- A record holds under the name of a field what has been read for the last field of the name. -/
theorem get?_ofList_of_readFor (each : List.Forall₂ (ReadFor members) fields contents)
    {field : Field DataType} (last : Field.IsLast fields field) :
    ∃ content, Entries.get? (Entries.ofList contents) field.name = some content ∧
      ReadFor members field (field.name, content) := by
  rw [Entries.get?_ofList]
  exact get?_of_forall₂ ReadFor.named (List.forall₂_reverse_iff.mpr each) last

/-- The record of what has been read for the declared fields is admitted. -/
theorem admits_ofFields {name : String} {captured : Bool}
    (each : List.Forall₂ (ReadFor members) fields contents) :
    (DataType.record name fields captured).Admits Field.IsLast (ofFields contents) := by
  refine .record (Entries.ordered_ofList _) (fun entry member => ?_) (fun field member => ?_)
    fun field last content found => ?_
  · exact declared_of_readFor each entry (Entries.mem_ofList member)
  · obtain ⟨other, last, named⟩ := Field.exists_isLast member
    obtain ⟨content, found, _⟩ := get?_ofList_of_readFor each last
    rw [← named, found]
    rfl
  · obtain ⟨other, otherFound, fit⟩ := get?_ofList_of_readFor each last
    cases found.symm.trans otherFound
    exact fit.admitted

/-- A record holds null under the name of a field that has no member. -/
theorem get?_ofList_missing (each : List.Forall₂ (ReadFor members) fields contents)
    {field : Field DataType} (member : field ∈ fields)
    (missing : Entries.get? members field.name = none) :
    Entries.get? (Entries.ofList contents) field.name = some .null := by
  obtain ⟨other, last, named⟩ := Field.exists_isLast member
  obtain ⟨content, found, fit⟩ := get?_ofList_of_readFor each last
  rw [← named] at missing ⊢
  have empty : content = .null := fit.missing missing
  rw [found, empty]

end

/-! ### Constants -/

/-- The members of an object in range are in range. -/
theorem inRange_get? {members : List (String × Json)} (within : ∀ entry ∈ members, entry.2.InRange)
    {name : String} {document : Json} (found : Entries.get? members name = some document) :
    document.InRange :=
  within (name, document) (Entries.mem_of_get? found)

mutual

/-- A type admits what is read at it from a document in range. The induction is on the type, and it
is the same for generic arguments and fields. -/
theorem meets_ofLiteral : ∀ (type : DataType) {document : Json}, document.InRange →
    Meets (type.Admits Field.IsLast) (fun _ => True) (ofLiteral type document)
  | type, document, within => by
    unfold ofLiteral
    split
    · exact .null type
    · cases type with
      | primitive kind =>
        dsimp only
        split
        · rename_i read
          exact admits_ofPrimitive? within read
        · trivial
      | object => exact .object (untyped_ofUntyped within)
      | parameter owner position => exact .parameter (untyped_ofUntyped within)
      | holder name => trivial
      | record name fields captured =>
        dsimp only
        split
        · cases within with
          | object within =>
            exact (meets_readFields within fields).bind fun contents each =>
              meets_recordOf (fun _ => trivial) (admits_ofFields each)
        · trivial
      | array element =>
        dsimp only
        split
        · cases within with
          | array within =>
            exact (meets_readItems fun item member =>
              meets_ofLiteral element (within item member)).bind fun values each => .array each
        · trivial
      | generic name family arguments =>
        cases family with
        | function => trivial
        | record =>
          dsimp only
          split
          · exact meets_recordOf (fun _ => trivial) .genericRecord
          · trivial
        | sequence =>
          dsimp only
          split
          · cases within with
            | array within =>
              exact (meets_readItems fun item member =>
                meets_readerAt arguments 0 (within item member)).bind fun values each =>
                  .sequence each
          · trivial
        | map =>
          dsimp only
          split
          · cases within with
            | array within =>
              refine (meets_readPairs (fun _ => trivial) fun key content member => ?_).bind
                fun entries each => .map (fun entry member => (each entry member).1)
                  fun entry member => (each entry member).2
              cases within _ member with
              | array pair =>
                exact ⟨meets_readerAt arguments 0 (pair key (.head _)),
                  meets_readerAt arguments 1 (pair content (.tail _ (.head _)))⟩
          · trivial

theorem meets_readerAt : ∀ (arguments : List DataType) (place : Nat) {document : Json},
    document.InRange → Meets ((arguments.getD place .object).Admits Field.IsLast) (fun _ => True)
      (readerAt arguments place document)
  | [], _, _, within => .object (untyped_ofUntyped within)
  | type :: _, 0, _, within => meets_ofLiteral type within
  | _ :: rest, place + 1, _, within => meets_readerAt rest place within

theorem meets_readFields {members : List (String × Json)}
    (within : ∀ entry ∈ members, entry.2.InRange) : ∀ fields : List (Field DataType),
    Meets (List.Forall₂ (ReadFor members) fields) (fun _ => True) (readFields members fields)
  | [] => by
    rw [readFields]
    exact .nil
  | ⟨name, type, isPublic⟩ :: rest => by
    have follow : ∀ content : Value, ReadFor members ⟨name, type, isPublic⟩ (name, content) →
        Meets (List.Forall₂ (ReadFor members) (⟨name, type, isPublic⟩ :: rest)) (fun _ => True)
          (do
            let tail ← readFields members rest
            return (name, content) :: tail) :=
      fun content fit => (meets_readFields within rest).bind fun tail others => .cons fit others
    unfold readFields
    dsimp only
    split
    · rename_i document found
      refine (meets_ofLiteral type (inRange_get? within found)).bind fun content admitted =>
        follow content ⟨rfl, admitted, fun missing => ?_⟩
      cases found.symm.trans missing
    · exact follow .null ⟨rfl, .null type, fun _ => rfl⟩

end

/-- A value keeps to a type: the last field of each name admits its content, which all fields of the
name do if names are distinct, no function occurs in the value, and its doubles are finite. -/
structure WellTyped (type : DataType) (value : Value) : Prop where
  last : type.Admits Field.IsLast value
  declared : type.Distinct → type.Admits Field.Declared value
  hasLiteral : value.HasLiteral

/-- What a type admits by its last fields keeps to the type. -/
theorem wellTyped_of_admits {type : DataType} {value : Value}
    (admits : type.Admits Field.IsLast value) : WellTyped type value :=
  ⟨admits, admits.declared, hasLiteral_of_admits Field.exists_isLast admits⟩

/-- Whatever is read at a type keeps to it. -/
theorem wellTyped_of_read {type : DataType} {document : Json} {value : Value}
    (within : document.InRange) (read : ofLiteral type document = .ok value) :
    WellTyped type value := by
  have meets := meets_ofLiteral type within
  rw [read] at meets
  exact wellTyped_of_admits meets

/-- A declared field that has no member is null, whatever its type is. The record has the field all
the same. -/
theorem field?_missing {name : String} {fields : List (Field DataType)} {captured : Bool}
    {members : List (String × Json)} {value : Value} (within : ∀ entry ∈ members, entry.2.InRange)
    (read : ofLiteral (.record name fields captured) (.object members) = .ok value)
    {field : Field DataType} (member : field ∈ fields)
    (missing : Entries.get? members field.name = none) : value.field? field.name = some .null := by
  have meets := meets_readFields within fields
  rw [ofLiteral] at read
  obtain ⟨contents, fieldsRead, read⟩ := bind_eq_ok read
  rw [fieldsRead] at meets
  unfold recordOf at read
  split at read
  · cases read
  · cases read
    exact get?_ofList_missing meets member missing

/-- No value but null belongs to the type. -/
inductive Valueless : DataType → Prop
  | void : Valueless (.primitive .void)
  | holder (name : String) : Valueless (.holder name)
  | function (name : String) (arguments : List DataType) :
    Valueless (.generic name .function arguments)

theorem Valueless.refuses {type : DataType} (valueless : Valueless type) {document : Json}
    (something : document ≠ .null) : ∃ error, ofLiteral type document = .error error := by
  unfold ofLiteral
  split
  · exact absurd rfl something
  · cases valueless <;> exact ⟨_, rfl⟩

end Value

end PredicateWire
