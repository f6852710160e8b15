/-
This file says which values can be written as constants, namely those without functions
and with finite doubles only, and what the documents of their parts are. The members of
a record's literal are the literals of its fields under the same names.

Writing is a matter of the value alone, and so whether a constant can be sent does not
depend on the type that it is sent at. The characterisation is exact: a function has no
literal, and an infinity or a double that is no number cannot be written in the format.
The second half of the file goes from a literal back to the parts, in the form in which
reading needs it, and includes that literals are in order if the records in the value
are.
-/
import PredicateWire.Proofs.Json.Normal
import PredicateWire.Proofs.Value.Plain
import PredicateWire.Proofs.Wire.Levels

namespace PredicateWire

namespace Value

/-! ### Values without functions and with finite doubles -/

/-- No function occurs in a value, and the doubles in it are finite. -/
structure HasLiteral (value : Value) : Prop where
  plain : value.Plain
  finite : ∀ number ∈ value.doubles, Decimal.isFinite number = true

theorem mem_doublesAll {number : Float} {items : List Value} :
    number ∈ doublesAll items ↔ ∃ item ∈ items, number ∈ item.doubles := by
  induction items with
  | nil => simp [doublesAll]
  | cons item rest inductionHypothesis => simp [doublesAll, inductionHypothesis]

/-- The doubles of a map are those of its keys and contents. -/
theorem mem_doublesPairs {number : Float} {entries : List (Value × Value)} :
    number ∈ doublesPairs entries ↔
      ∃ entry ∈ entries, number ∈ entry.1.doubles ∨ number ∈ entry.2.doubles := by
  induction entries with
  | nil => simp [doublesPairs]
  | cons entry rest inductionHypothesis => grind [doublesPairs]

/-- The doubles of a record are those of its contents. -/
theorem mem_doublesFields {number : Float} {fields : List (String × Value)} :
    number ∈ doublesFields fields ↔ ∃ field ∈ fields, number ∈ field.2.doubles := by
  induction fields with
  | nil => simp [doublesFields]
  | cons field rest inductionHypothesis => grind [doublesFields]

theorem hasLiteral_double (number : Float) :
    (double number).HasLiteral ↔ Decimal.isFinite number = true := by
  constructor
  · exact fun written => written.finite number (.head _)
  · intro finite
    refine ⟨.double number, ?_⟩
    rw [doubles, List.forall_mem_singleton]
    exact finite

theorem hasLiteral_array {items : List Value} :
    (array items).HasLiteral ↔ ∀ item ∈ items, item.HasLiteral := by
  constructor
  · rintro ⟨plain, finite⟩ item member
    cases plain with
    | array each =>
      refine ⟨each item member, fun number within => finite number ?_⟩
      rw [doubles]
      exact mem_doublesAll.mpr ⟨item, member, within⟩
  · intro each
    refine ⟨.array fun item member => (each item member).plain, fun number within => ?_⟩
    rw [doubles] at within
    obtain ⟨item, member, within⟩ := mem_doublesAll.mp within
    exact (each item member).finite number within

/-- A map can be written when its keys and contents can. -/
theorem hasLiteral_map {entries : List (Value × Value)} :
    (map entries).HasLiteral ↔ ∀ entry ∈ entries, entry.1.HasLiteral ∧ entry.2.HasLiteral := by
  constructor
  · rintro ⟨plain, finite⟩ entry member
    cases plain with
    | map keys contents =>
      refine ⟨⟨keys entry member, fun number within => finite number ?_⟩,
        ⟨contents entry member, fun number within => finite number ?_⟩⟩ <;> rw [doubles]
      · exact mem_doublesPairs.mpr ⟨entry, member, .inl within⟩
      · exact mem_doublesPairs.mpr ⟨entry, member, .inr within⟩
  · intro each
    refine ⟨.map (fun entry member => (each entry member).1.plain)
      fun entry member => (each entry member).2.plain, fun number within => ?_⟩
    rw [doubles] at within
    obtain ⟨entry, member, inKey | inContent⟩ := mem_doublesPairs.mp within
    · exact (each entry member).1.finite number inKey
    · exact (each entry member).2.finite number inContent

theorem hasLiteral_record {fields : List (String × Value)} :
    (record fields).HasLiteral ↔ ∀ field ∈ fields, field.2.HasLiteral := by
  constructor
  · rintro ⟨plain, finite⟩ field member
    cases plain with
    | record each =>
      refine ⟨each field member, fun number within => finite number ?_⟩
      rw [doubles]
      exact mem_doublesFields.mpr ⟨field, member, within⟩
  · intro each
    refine ⟨.record fun field member => (each field member).plain, fun number within => ?_⟩
    rw [doubles] at within
    obtain ⟨field, member, within⟩ := mem_doublesFields.mp within
    exact (each field member).finite number within

/-! ### Writing -/

/-- The result is one exactly if something holds. -/
abbrev SucceedsIff {Content : Type} (result : Result Content) (holds : Prop) : Prop :=
  Meets (fun _ => holds) (fun _ => ¬holds) result

/-- The condition for success may be said in another way. -/
theorem succeedsIff_congr {Content : Type} {result : Result Content} {holds other : Prop}
    (succeeds : SucceedsIff result holds) (same : other ↔ holds) : SucceedsIff result other :=
  succeeds.weaken (fun _ => same.mpr) fun _ => mt same.mp

/-- Putting a result into a form does not change whether there is one. -/
theorem succeedsIff_map {First Second : Type} {result : Result First} {holds : Prop}
    (succeeds : SucceedsIff result holds) (form : First → Second) :
    SucceedsIff (do let content ← result; return form content) holds :=
  succeeds.bind fun _ fits => fits

/-- Two steps succeed when both do, if whether the second does is independent of what the first
yields. -/
theorem succeedsIff_bind {First Second : Type} {first : Result First}
    {next : First → Result Second} {holds others : Prop} (succeeds : SucceedsIff first holds)
    (rest : ∀ content, SucceedsIff (next content) others) :
    SucceedsIff (first >>= next) (holds ∧ others) := by
  refine Meets.bind (succeeds.weaken (fun _ => id) fun _ => mt And.left) fun content fits => ?_
  exact (rest content).weaken (fun _ also => ⟨fits, also⟩) fun _ => mt And.right

mutual

/-- A constant can be written exactly if it holds no function and only finite doubles. -/
theorem literal_succeedsIff : ∀ value : Value, SucceedsIff value.literal value.HasLiteral
  | .null => ⟨.null, fun _ member => nomatch member⟩
  | .bool value => ⟨.bool value, fun _ member => nomatch member⟩
  | .int32 value => ⟨.int32 value, fun _ member => nomatch member⟩
  | .int64 value => ⟨.int64 value, fun _ member => nomatch member⟩
  | .double value => by
    rw [literal]
    split
    · rename_i finite
      exact (hasLiteral_double value).mpr finite
    · rename_i infinite
      exact mt (hasLiteral_double value).mp infinite
  | .char value => ⟨.char value, fun _ member => nomatch member⟩
  | .string value => ⟨.string value, fun _ member => nomatch member⟩
  | .array items => by
    rw [literal]
    exact succeedsIff_congr (succeedsIff_map (literals_succeedsIff items) Json.array)
      hasLiteral_array
  | .map entries => by
    rw [literal]
    exact succeedsIff_congr (succeedsIff_map (literalPairs_succeedsIff entries) Json.array)
      hasLiteral_map
  | .record fields => by
    rw [literal]
    exact succeedsIff_congr (succeedsIff_map (literalFields_succeedsIff fields) Json.object)
      hasLiteral_record
  | .function closure => fun written => nomatch written.plain

theorem literals_succeedsIff : ∀ items : List Value,
    SucceedsIff (literals items) (∀ item ∈ items, item.HasLiteral)
  | [] => fun _ member => nomatch member
  | item :: rest => by
    rw [literals]
    refine succeedsIff_congr (succeedsIff_bind (literal_succeedsIff item) fun head => ?_)
      List.forall_mem_cons
    exact succeedsIff_map (literals_succeedsIff rest) (head :: ·)

theorem literalPairs_succeedsIff : ∀ entries : List (Value × Value),
    SucceedsIff (literalPairs entries) (∀ entry ∈ entries, entry.1.HasLiteral ∧ entry.2.HasLiteral)
  | [] => fun _ member => nomatch member
  | (key, content) :: rest => by
    rw [literalPairs]
    refine succeedsIff_congr (succeedsIff_bind (literal_succeedsIff key) fun first =>
      succeedsIff_bind (literal_succeedsIff content) fun second => ?_)
      (List.forall_mem_cons.trans and_assoc)
    exact succeedsIff_map (literalPairs_succeedsIff rest) (Json.array [first, second] :: ·)

theorem literalFields_succeedsIff : ∀ fields : List (String × Value),
    SucceedsIff (literalFields fields) (∀ field ∈ fields, field.2.HasLiteral)
  | [] => fun _ member => nomatch member
  | (name, content) :: rest => by
    rw [literalFields]
    refine succeedsIff_congr (succeedsIff_bind (literal_succeedsIff content) fun document => ?_)
      List.forall_mem_cons
    exact succeedsIff_map (literalFields_succeedsIff rest) ((name, document) :: ·)

end

/-- A value that can be written has a literal. -/
theorem HasLiteral.written {value : Value} (hasLiteral : value.HasLiteral) :
    ∃ document, value.literal = .ok document := by
  have succeeds := value.literal_succeedsIff
  cases outcome : value.literal with
  | ok document => exact ⟨document, rfl⟩
  | error error =>
    rw [outcome] at succeeds
    exact absurd hasLiteral succeeds

theorem hasLiteral_of_written {value : Value} {document : Json}
    (written : value.literal = .ok document) : value.HasLiteral := by
  have succeeds := value.literal_succeedsIff
  rw [written] at succeeds
  exact succeeds

/-! ### Documents of parts -/

/-- The literals of items are in order if each is. -/
theorem orderedAll_literals {items : List Value} {documents : List Json}
    (written : literals items = .ok documents)
    (each : ∀ item ∈ items, ∀ document, item.literal = .ok document → document.Ordered) :
    Json.OrderedAll documents := by
  induction items generalizing documents with
  | nil => cases written; trivial
  | cons item rest inductionHypothesis =>
    obtain ⟨head, tail, headWritten, tailWritten, rfl⟩ := cons_of_literals written
    rw [List.forall_mem_cons] at each
    exact ⟨each.1 head headWritten, inductionHypothesis tailWritten each.2⟩

/-- So are those of the entries of a map, each of which is a pair. -/
theorem orderedAll_literalPairs {entries : List (Value × Value)} {documents : List Json}
    (written : literalPairs entries = .ok documents)
    (keys : ∀ entry ∈ entries, ∀ document, entry.1.literal = .ok document → document.Ordered)
    (contents : ∀ entry ∈ entries, ∀ document, entry.2.literal = .ok document → document.Ordered) :
    Json.OrderedAll documents := by
  induction entries generalizing documents with
  | nil => cases written; trivial
  | cons entry rest inductionHypothesis =>
    obtain ⟨key, content⟩ := entry
    obtain ⟨keyDocument, contentDocument, tail, keyWritten, contentWritten, tailWritten, rfl⟩ :=
      cons_of_literalPairs written
    rw [List.forall_mem_cons] at keys contents
    exact ⟨⟨keys.1 keyDocument keyWritten, contents.1 contentDocument contentWritten, trivial⟩,
      inductionHypothesis tailWritten keys.2 contents.2⟩

/-- The members of a record's literal have the names of its fields, in their order. -/
theorem names_literalFields {contents : List (String × Value)} {members : List (String × Json)}
    (written : literalFields contents = .ok members) :
    members.map Prod.fst = contents.map Prod.fst := by
  induction contents generalizing members with
  | nil => cases written; rfl
  | cons entry rest inductionHypothesis =>
    obtain ⟨first, content⟩ := entry
    obtain ⟨head, tail, _, tailWritten, rfl⟩ := cons_of_literalFields written
    rw [List.map_cons, List.map_cons, inductionHypothesis tailWritten]

theorem ordered_iff {Content : Type} {entries : List (String × Content)} :
    Entries.Ordered entries ↔ (entries.map Prod.fst).Pairwise (· < ·) :=
  List.pairwise_map.symm

/-- The literal of a record in order is in order if the literals of its contents are. -/
theorem ordered_literalFields {contents : List (String × Value)} {members : List (String × Json)}
    (written : literalFields contents = .ok members) (ordered : Entries.Ordered contents)
    (each : ∀ entry ∈ contents, ∀ document, entry.2.literal = .ok document → document.Ordered) :
    (Json.object members).Ordered := by
  constructor
  · rw [ordered_iff, names_literalFields written]
    exact ordered_iff.mp ordered
  · clear ordered
    induction contents generalizing members with
    | nil => cases written; trivial
    | cons entry rest inductionHypothesis =>
      obtain ⟨first, content⟩ := entry
      obtain ⟨head, tail, headWritten, tailWritten, rfl⟩ := cons_of_literalFields written
      rw [List.forall_mem_cons] at each
      exact ⟨each.1 head headWritten, inductionHypothesis tailWritten each.2⟩

/-- The members of a record's literal are the literals of its fields: where the record has a content
under a name its literal is found there, and nothing is found elsewhere. -/
theorem get?_literalFields {contents : List (String × Value)} {members : List (String × Json)}
    (written : literalFields contents = .ok members) (name : String) :
    match Entries.get? contents name with
    | none => Entries.get? members name = none
    | some content => ∃ document, content.literal = .ok document ∧
        Entries.get? members name = some document := by
  induction contents generalizing members with
  | nil => cases written; rfl
  | cons entry rest inductionHypothesis =>
    obtain ⟨first, content⟩ := entry
    obtain ⟨head, tail, headWritten, tailWritten, rfl⟩ := cons_of_literalFields written
    rw [Entries.get?_cons, Entries.get?_cons]
    by_cases same : first = name
    · rw [if_pos same, if_pos same]
      exact ⟨head, headWritten, rfl⟩
    · rw [if_neg same, if_neg same]
      exact inductionHypothesis tailWritten

end Value

end PredicateWire
