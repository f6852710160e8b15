/-
This file says which values are plain, that is, without functions: data are, and so is
every constant that is read from a literal. Reading a literal never fails because of its
depth. The second fact matters because depth is an error of its own kind: when a
received predicate is said to be too deep, it is the tree that is, and not one of its
constants.

Both facts go through the reader of literals, which is recursive in the type. They are
proved together, from lemmas about lists, pairs and fields that hold for any property of
values, so that whatever else is proved about the reader can use these again.
-/
import PredicateWire.Proofs.Contracts
import PredicateWire.Proofs.Entries
import PredicateWire.Value.Literal

namespace PredicateWire

namespace Value

/-- No function occurs in a value. -/
inductive Plain : Value → Prop
  | null : Plain .null
  | bool (value : Bool) : Plain (.bool value)
  | int32 (value : Int32) : Plain (.int32 value)
  | int64 (value : Int64) : Plain (.int64 value)
  | double (value : Float) : Plain (.double value)
  | char (value : Char) : Plain (.char value)
  | string (value : String) : Plain (.string value)
  | array {items : List Value} (each : ∀ item ∈ items, Plain item) : Plain (.array items)
  | map {entries : List (Value × Value)} (keys : ∀ entry ∈ entries, Plain entry.1)
    (contents : ∀ entry ∈ entries, Plain entry.2) : Plain (.map entries)
  | record {fields : List (String × Value)} (each : ∀ field ∈ fields, Plain field.2) :
    Plain (.record fields)

/-! ### Data -/

mutual

/-- Data are plain. -/
theorem plain_ofDatum : ∀ datum : Datum, (ofDatum datum).Plain
  | .null => .null
  | .bool value => .bool value
  | .int32 value => .int32 value
  | .int64 value => .int64 value
  | .double value => .double value
  | .char value => .char value
  | .string value => .string value
  | .array items => .array (plain_ofData items)
  | .map entries =>
    .map (fun entry member => (plain_ofDataPairs entries entry member).1)
      fun entry member => (plain_ofDataPairs entries entry member).2
  | .record fields => .record (plain_ofDataFields fields)

theorem plain_ofData : ∀ data : List Datum, ∀ value ∈ ofData data, value.Plain
  | [] => fun _ member => nomatch member
  | item :: rest => by
    rw [ofData, List.forall_mem_cons]
    exact ⟨plain_ofDatum item, plain_ofData rest⟩

theorem plain_ofDataPairs : ∀ entries : List (Datum × Datum),
    ∀ entry ∈ ofDataPairs entries, entry.1.Plain ∧ entry.2.Plain
  | [] => fun _ member => nomatch member
  | (key, content) :: rest => by
    rw [ofDataPairs, List.forall_mem_cons]
    exact ⟨⟨plain_ofDatum key, plain_ofDatum content⟩, plain_ofDataPairs rest⟩

theorem plain_ofDataFields : ∀ fields : List (String × Datum),
    ∀ field ∈ ofDataFields fields, field.2.Plain
  | [] => fun _ member => nomatch member
  | (name, content) :: rest => by
    rw [ofDataFields, List.forall_mem_cons]
    exact ⟨plain_ofDatum content, plain_ofDataFields rest⟩

end

/-! ### Literals -/

section

variable {expected : Error → Prop}

/-- What a reader reads of each item holds of all items. -/
theorem meets_readItems {read : Json → Result Value} {holds : Value → Prop} {items : List Json}
    (each : ∀ item ∈ items, Meets holds expected (read item)) :
    Meets (fun values => ∀ value ∈ values, holds value) expected (readItems read items) := by
  induction items with
  | nil => exact List.forall_mem_nil _
  | cons item rest inductionHypothesis =>
    rw [List.forall_mem_cons] at each
    rw [readItems]
    refine each.1.bind fun head first => (inductionHypothesis each.2).bind fun tail others => ?_
    exact List.forall_mem_cons.mpr ⟨first, others⟩

/-- What two readers read of each key and of each content holds of all entries of a map. -/
theorem meets_readPairs {refuse : Json → Error} {readKey readContent : Json → Result Value}
    {holdsKey holdsContent : Value → Prop} {pairs : List Json}
    (refuses : ∀ document, expected (refuse document))
    (each : ∀ key content, .array [key, content] ∈ pairs →
      Meets holdsKey expected (readKey key) ∧ Meets holdsContent expected (readContent content)) :
    Meets (fun entries => ∀ entry ∈ entries, holdsKey entry.1 ∧ holdsContent entry.2) expected
      (readPairs refuse readKey readContent pairs) := by
  induction pairs with
  | nil => exact List.forall_mem_nil _
  | cons pair rest inductionHypothesis =>
    unfold readPairs
    split
    · rename_i matched
      cases matched
    · rename_i key content rest matched
      cases matched
      obtain ⟨keyRead, contentRead⟩ := each key content List.mem_cons_self
      refine keyRead.bind fun first keyHolds => contentRead.bind fun second contentHolds => ?_
      exact (inductionHypothesis fun key content member => each key content (.tail _ member)).bind
        fun tail others => List.forall_mem_cons.mpr ⟨⟨keyHolds, contentHolds⟩, others⟩
    · rename_i matched
      cases matched
      exact refuses pair

/-- The record of what has been read is made unless a member is not declared. -/
theorem meets_recordOf {type : DataType} {members : List (String × Json)}
    {fields : List (String × Value)} {holds : Value → Prop}
    (refuses : ∀ name, expected (.typeMismatch (.undeclaredField name type.canonicalName)))
    (made : holds (ofFields fields)) : Meets holds expected (recordOf type members fields) := by
  unfold recordOf
  split
  · exact refuses _
  · exact made

end

theorem plain_ofFields {fields : List (String × Value)} (each : ∀ field ∈ fields, field.2.Plain) :
    (ofFields fields).Plain :=
  .record fun field member => each field (Entries.mem_ofList member)

mutual

theorem plain_ofUntyped : ∀ document : Json, (ofUntyped document).Plain
  | .null => .null
  | .bool value => .bool value
  | .integer value => by
    rw [ofUntyped]
    split
    · exact .int64 _
    · exact .double _
  | .double value => .double value
  | .string value => .string value
  | .array items => .array (plain_ofUntypedAll items)
  | .object members => plain_ofFields (plain_ofUntypedMembers members)

theorem plain_ofUntypedAll : ∀ items : List Json, ∀ value ∈ ofUntypedAll items, value.Plain
  | [] => fun _ member => nomatch member
  | item :: rest => by
    rw [ofUntypedAll, List.forall_mem_cons]
    exact ⟨plain_ofUntyped item, plain_ofUntypedAll rest⟩

theorem plain_ofUntypedMembers : ∀ members : List (String × Json),
    ∀ field ∈ ofUntypedMembers members, field.2.Plain
  | [] => fun _ member => nomatch member
  | (name, item) :: rest => by
    rw [ofUntypedMembers, List.forall_mem_cons]
    exact ⟨plain_ofUntyped item, plain_ofUntypedMembers rest⟩

end

theorem plain_ofPrimitive? {kind : Primitive} {document : Json} {value : Value}
    (read : ofPrimitive? kind document = some value) : value.Plain := by
  cases kind with
  | void => cases read
  | _ =>
    obtain ⟨content, _, rfl⟩ := Option.map_eq_some_iff.mp read
    constructor

/-- A literal that does not fit its type is refused as such. -/
theorem not_isDepth_badLiteral (type : DataType) (document : Json) :
    ¬(badLiteral type document).IsDepth :=
  fun (deep : ErrorKind.typeMismatch = .depthExceeded) => nomatch deep

/-- What a literal is read as is plain, and no literal is too deep to be read. -/
abbrev ReadsPlain (read : Result Value) : Prop :=
  Meets Plain (fun error => ¬error.IsDepth) read

mutual

/-- A literal of any depth is read as a plain value, or refused for another reason. -/
theorem ofLiteral_plain : ∀ (type : DataType) (document : Json), ReadsPlain (ofLiteral type document)
  | type, document => by
    unfold ofLiteral
    split
    · exact .null
    · cases type with
      | primitive kind =>
        dsimp only
        split
        · rename_i read
          exact plain_ofPrimitive? read
        · exact fun deep => nomatch deep
      | object => exact plain_ofUntyped document
      | parameter owner position => exact plain_ofUntyped document
      | holder name => exact fun deep => nomatch deep
      | record name fields captured =>
        dsimp only
        split
        · rename_i members _
          exact (readFields_plain members fields).bind fun contents each =>
            meets_recordOf (fun _ deep => nomatch deep) (plain_ofFields each)
        · exact fun deep => nomatch deep
      | array element =>
        dsimp only
        split
        · rename_i items _
          exact (meets_readItems fun item (_ : item ∈ items) => ofLiteral_plain element item).bind
            fun values each => .array each
        · exact fun deep => nomatch deep
      | generic name family arguments =>
        cases family with
        | function => exact fun deep => nomatch deep
        | record =>
          dsimp only
          split
          · exact meets_recordOf (fun _ deep => nomatch deep)
              (plain_ofFields fun _ member => nomatch member)
          · exact fun deep => nomatch deep
        | sequence =>
          dsimp only
          split
          · rename_i items _
            exact (meets_readItems fun item (_ : item ∈ items) =>
              readerAt_plain arguments 0 item).bind fun values each => .array each
          · exact fun deep => nomatch deep
        | map =>
          dsimp only
          split
          · rename_i pairs _
            refine (meets_readPairs (not_isDepth_badLiteral _) fun key content
              (_ : .array [key, content] ∈ pairs) => ⟨readerAt_plain arguments 0 key,
                readerAt_plain arguments 1 content⟩).bind fun entries each => ?_
            exact .map (fun entry member => (each entry member).1)
              fun entry member => (each entry member).2
          · exact fun deep => nomatch deep

theorem readerAt_plain : ∀ (types : List DataType) (place : Nat) (document : Json),
    ReadsPlain (readerAt types place document)
  | [], _, document => plain_ofUntyped document
  | type :: _, 0, document => ofLiteral_plain type document
  | _ :: rest, place + 1, document => readerAt_plain rest place document

theorem readFields_plain (members : List (String × Json)) : ∀ fields : List (Field DataType),
    Meets (fun contents => ∀ field ∈ contents, field.2.Plain)
      (fun error : Error => ¬error.IsDepth) (readFields members fields)
  | [] => by
    rw [readFields]
    exact fun _ member => nomatch member
  | ⟨name, type, _⟩ :: rest => by
    have follow : ∀ content : Value, content.Plain →
        Meets (fun contents => ∀ field ∈ contents, field.2.Plain) (fun error : Error => ¬error.IsDepth)
          (do
            let tail ← readFields members rest
            return (name, content) :: tail) :=
      fun content plain => (readFields_plain members rest).bind fun tail others =>
        List.forall_mem_cons.mpr ⟨plain, others⟩
    unfold readFields
    dsimp only
    split
    · rename_i document _
      exact (ofLiteral_plain type document).bind follow
    · exact follow .null .null

end

end Value

end PredicateWire
