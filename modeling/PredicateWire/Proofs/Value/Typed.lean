/-
This file says which values a type admits as constants, and proves that writing and
reading keep to them. What a type admits can be written, and it is read back from its
literal. Whatever else is read from a document in range is admitted as well. Where a
record type declares a name twice, the last field of the name is the one that is read
for the content, so of such types only the last fields are kept to.

The definition takes the governing fields as a parameter. With all declared fields it
says which values come through, and with the last field of each name which values may
come out; where names are distinct the two are the same. At the top type a value has to
consist of what a literal says by itself, since no type says more.
-/
import Mathlib.Data.List.Nodup
import PredicateWire.Proofs.Types.Parts
import PredicateWire.Proofs.Value.Written

namespace PredicateWire

/-! ### Fields that govern -/

/-- A field is the last one that goes by its name. -/
def Field.IsLast (fields : List (Field DataType)) (field : Field DataType) : Prop :=
  (fields.reverse.find? fun other => other.name == field.name) = some field

/-- A field is one of those that a type declares. -/
def Field.Declared (fields : List (Field DataType)) (field : Field DataType) : Prop :=
  field ∈ fields

namespace Field

variable {fields : List (Field DataType)} {field : Field DataType}

theorem IsLast.declared (last : IsLast fields field) : Declared fields field :=
  List.mem_reverse.mp (List.mem_of_find?_eq_some last)

/-- Some field is the last one of a declared name. -/
theorem exists_isLast (member : field ∈ fields) :
    ∃ other, IsLast fields other ∧ other.name = field.name := by
  cases found : fields.reverse.find? fun other => other.name == field.name with
  | none =>
    have absent := List.find?_eq_none.mp found field (List.mem_reverse.mpr member)
    exact absurd (beq_self_eq_true field.name) absent
  | some other =>
    have tested := List.find?_some found
    have named : other.name = field.name := eq_of_beq tested
    exact ⟨other, by rw [IsLast, named, found], named⟩

/-- Where names are distinct every field is the last one of its name. -/
theorem isLast_of_nodup (distinct : (fields.map Field.name).Nodup) (member : field ∈ fields) :
    IsLast fields field := by
  obtain ⟨other, last, named⟩ := exists_isLast member
  exact List.inj_on_of_nodup_map distinct last.declared member named ▸ last

end Field

/-! ### Values that a type admits -/

/-- A value consists of what a literal says by itself. -/
inductive Value.Untyped : Value → Prop
  | null : Untyped .null
  | bool (value : Bool) : Untyped (.bool value)
  | int64 (value : Int64) : Untyped (.int64 value)
  | double {value : Float} (finite : Decimal.isFinite value = true) : Untyped (.double value)
  | string (value : String) : Untyped (.string value)
  | array {items : List Value} (each : ∀ item ∈ items, Untyped item) : Untyped (.array items)
  | record {contents : List (String × Value)} (ordered : Entries.Ordered contents)
    (each : ∀ entry ∈ contents, Untyped entry.2) : Untyped (.record contents)

namespace DataType

/-- A type admits a value as a constant. A record has exactly the declared fields, and each content
is admitted by the types of the fields that govern it. An argument that is left out is the top
type. -/
inductive Admits (governs : List (Field DataType) → Field DataType → Prop) : DataType → Value → Prop
  | null (type : DataType) : Admits governs type .null
  | bool (value : Bool) : Admits governs .bool (.bool value)
  | int32 (value : Int32) : Admits governs .int32 (.int32 value)
  | int64 (value : Int64) : Admits governs .int64 (.int64 value)
  | double {value : Float} (finite : Decimal.isFinite value = true) :
    Admits governs .double (.double value)
  | char (value : Char) : Admits governs .char (.char value)
  | string (value : String) : Admits governs .string (.string value)
  | array {element : DataType} {items : List Value}
    (each : ∀ item ∈ items, Admits governs element item) :
    Admits governs (.array element) (.array items)
  | sequence {name : String} {arguments : List DataType} {items : List Value}
    (each : ∀ item ∈ items, Admits governs (arguments.getD 0 .object) item) :
    Admits governs (.generic name .sequence arguments) (.array items)
  | map {name : String} {arguments : List DataType} {entries : List (Value × Value)}
    (keys : ∀ entry ∈ entries, Admits governs (arguments.getD 0 .object) entry.1)
    (contents : ∀ entry ∈ entries, Admits governs (arguments.getD 1 .object) entry.2) :
    Admits governs (.generic name .map arguments) (.map entries)
  | record {name : String} {fields : List (Field DataType)} {captured : Bool}
    {contents : List (String × Value)} (ordered : Entries.Ordered contents)
    (declared : ∀ entry ∈ contents, ∃ field ∈ fields, field.name = entry.1)
    (present : ∀ field ∈ fields, (Entries.get? contents field.name).isSome = true)
    (each : ∀ field, governs fields field → ∀ content,
      Entries.get? contents field.name = some content → Admits governs field.type content) :
    Admits governs (.record name fields captured) (.record contents)
  | genericRecord {name : String} {arguments : List DataType} :
    Admits governs (.generic name .record arguments) (.record [])
  | object {value : Value} (untyped : value.Untyped) : Admits governs .object value
  | parameter {owner : ParameterOwner} {position : Nat} {value : Value} (untyped : value.Untyped) :
    Admits governs (.parameter owner position) value

/-- No record in a type declares two fields of one name. -/
def Distinct (type : DataType) : Prop :=
  ∀ part ∈ type.parts, (part.fields.map Field.name).Nodup

variable {governs : List (Field DataType) → Field DataType → Prop} {type : DataType} {value : Value}

/-- The arguments of a type with distinct names have distinct names. -/
theorem Distinct.getD {name : String} {family : Family} {arguments : List DataType}
    (distinct : Distinct (.generic name family arguments)) (place : Nat) :
    Distinct (arguments.getD place .object) := by
  rw [List.getD_eq_getElem?_getD]
  cases found : arguments[place]? with
  | none =>
    intro part member
    cases List.mem_singleton.mp member
    exact List.nodup_nil
  | some argument =>
    exact fun part member => distinct part (parts_argument (List.mem_of_getElem? found) member)

/-- What the last fields keep to all fields keep to, if names are distinct. -/
theorem Admits.declared (admits : Admits Field.IsLast type value) (distinct : type.Distinct) :
    Admits Field.Declared type value := by
  induction admits with
  | null type => exact .null type
  | bool value => exact .bool value
  | int32 value => exact .int32 value
  | int64 value => exact .int64 value
  | double finite => exact .double finite
  | char value => exact .char value
  | string value => exact .string value
  | array each inductionHypothesis =>
    have element := fun part member => distinct part (List.mem_cons_of_mem _ member)
    exact .array fun item member => inductionHypothesis item member element
  | sequence each inductionHypothesis =>
    exact .sequence fun item member => inductionHypothesis item member (distinct.getD 0)
  | map keys contents keysHypothesis contentsHypothesis =>
    exact .map (fun entry member => keysHypothesis entry member (distinct.getD 0))
      fun entry member => contentsHypothesis entry member (distinct.getD 1)
  | record ordered declared present each inductionHypothesis =>
    refine .record ordered declared present fun field member content found => ?_
    have names := distinct _ (mem_parts_self _)
    exact inductionHypothesis field (Field.isLast_of_nodup names member) content found
      fun part within => distinct part (parts_field member within)
  | genericRecord => exact .genericRecord
  | object untyped => exact .object untyped
  | parameter untyped => exact .parameter untyped

end DataType

namespace Value

open DataType

/-! ### Writing -/

theorem Untyped.hasLiteral {value : Value} (untyped : value.Untyped) : value.HasLiteral := by
  induction untyped with
  | null => exact ⟨.null, List.forall_mem_nil _⟩
  | bool value => exact ⟨.bool value, List.forall_mem_nil _⟩
  | int64 value => exact ⟨.int64 value, List.forall_mem_nil _⟩
  | double finite => exact (hasLiteral_double _).mpr finite
  | string value => exact ⟨.string value, List.forall_mem_nil _⟩
  | array each inductionHypothesis => exact hasLiteral_array.mpr inductionHypothesis
  | record ordered each inductionHypothesis => exact hasLiteral_record.mpr inductionHypothesis

/-- What is admitted holds no function and only finite doubles, provided that some field of each
declared name governs. -/
theorem hasLiteral_of_admits {governs : List (Field DataType) → Field DataType → Prop}
    (governed : ∀ {fields field}, field ∈ fields →
      ∃ other, governs fields other ∧ other.name = field.name)
    {type : DataType} {value : Value} (admits : type.Admits governs value) : value.HasLiteral := by
  induction admits with
  | null type => exact ⟨.null, List.forall_mem_nil _⟩
  | bool value => exact ⟨.bool value, List.forall_mem_nil _⟩
  | int32 value => exact ⟨.int32 value, List.forall_mem_nil _⟩
  | int64 value => exact ⟨.int64 value, List.forall_mem_nil _⟩
  | double finite => exact (hasLiteral_double _).mpr finite
  | char value => exact ⟨.char value, List.forall_mem_nil _⟩
  | string value => exact ⟨.string value, List.forall_mem_nil _⟩
  | array each inductionHypothesis => exact hasLiteral_array.mpr inductionHypothesis
  | sequence each inductionHypothesis => exact hasLiteral_array.mpr inductionHypothesis
  | map keys contents keysHypothesis contentsHypothesis =>
    exact hasLiteral_map.mpr fun entry member =>
      ⟨keysHypothesis entry member, contentsHypothesis entry member⟩
  | record ordered declared present each inductionHypothesis =>
    refine hasLiteral_record.mpr fun entry member => ?_
    obtain ⟨field, fieldMember, named⟩ := declared entry member
    obtain ⟨other, governing, same⟩ := governed fieldMember
    refine inductionHypothesis other governing entry.2 ?_
    rw [same, named]
    exact ordered.get?_of_mem member
  | genericRecord => exact hasLiteral_record.mpr (List.forall_mem_nil _)
  | object untyped => exact untyped.hasLiteral
  | parameter untyped => exact untyped.hasLiteral

/-! ### Reading lists back -/

/-- A reader that reads back each item reads back all of them. -/
theorem readItems_literals {read : Json → Result Value} {items : List Value}
    {documents : List Json} (written : literals items = .ok documents)
    (each : ∀ item ∈ items, ∀ document, item.literal = .ok document →
      read document = .ok item) : readItems read documents = .ok items := by
  induction items generalizing documents with
  | nil => cases written; rfl
  | cons item rest inductionHypothesis =>
    obtain ⟨head, tail, headWritten, tailWritten, rfl⟩ := cons_of_literals written
    rw [List.forall_mem_cons] at each
    rw [readItems, each.1 head headWritten, inductionHypothesis tailWritten each.2]
    rfl

/-- Readers that read back each key and each content read back all entries of a map. -/
theorem readPairs_literals {refuse : Json → Error} {readKey readContent : Json → Result Value}
    {entries : List (Value × Value)} {documents : List Json}
    (written : literalPairs entries = .ok documents)
    (keys : ∀ entry ∈ entries, ∀ document, entry.1.literal = .ok document →
      readKey document = .ok entry.1)
    (contents : ∀ entry ∈ entries, ∀ document, entry.2.literal = .ok document →
      readContent document = .ok entry.2) :
    readPairs refuse readKey readContent documents = .ok entries := by
  induction entries generalizing documents with
  | nil => cases written; rfl
  | cons entry rest inductionHypothesis =>
    obtain ⟨key, content⟩ := entry
    obtain ⟨keyDocument, contentDocument, tail, keyWritten, contentWritten, tailWritten, rfl⟩ :=
      cons_of_literalPairs written
    rw [List.forall_mem_cons] at keys contents
    have others := inductionHypothesis tailWritten keys.2 contents.2
    simp only [readPairs, keys.1 keyDocument keyWritten,
      contents.1 contentDocument contentWritten, others]
    rfl

/-- Readers that read back the content of each declared field read back what a record holds under
the names of these fields. -/
theorem readFields_literals {contents : List (String × Value)} {members : List (String × Json)}
    (written : literalFields contents = .ok members) {fields : List (Field DataType)}
    (present : ∀ field ∈ fields, (Entries.get? contents field.name).isSome = true)
    (each : ∀ field ∈ fields, ∀ content, Entries.get? contents field.name = some content →
      ∀ document, content.literal = .ok document →
        ofLiteral field.type document = .ok content) :
    readFields members fields = .ok (fields.map fun field =>
      (field.name, (Entries.get? contents field.name).getD .null)) := by
  induction fields with
  | nil => rfl
  | cons field rest inductionHypothesis =>
    rw [List.forall_mem_cons] at present each
    obtain ⟨content, found⟩ := Option.isSome_iff_exists.mp present.1
    have member := get?_literalFields written field.name
    rw [found] at member
    obtain ⟨document, documentWritten, memberFound⟩ := member
    have headRead := each.1 content found document documentWritten
    obtain ⟨name, type, isPublic⟩ := field
    rw [readFields, memberFound]
    dsimp only
    rw [headRead, inductionHypothesis present.2 each.2, List.map_cons, found]
    rfl

/-- A record with exactly the declared fields is put together from their contents. No member is
refused, and the contents are in the order of their names again. -/
theorem recordOf_literalFields {name : String} {fields : List (Field DataType)} {captured : Bool}
    {contents : List (String × Value)} {members : List (String × Json)}
    (written : literalFields contents = .ok members) (ordered : Entries.Ordered contents)
    (declared : ∀ entry ∈ contents, ∃ field ∈ fields, field.name = entry.1)
    (present : ∀ field ∈ fields, (Entries.get? contents field.name).isSome = true) :
    recordOf (.record name fields captured) members
      (fields.map fun field => (field.name, (Entries.get? contents field.name).getD .null)) =
        .ok (.record contents) := by
  have known : undeclared? (.record name fields captured) members = none := by
    rw [undeclared?, Option.map_eq_none_iff, List.find?_eq_none]
    intro entry member
    have named : entry.1 ∈ contents.map Prod.fst :=
      names_literalFields written ▸ List.mem_map_of_mem member
    obtain ⟨content, contentMember, same⟩ := List.mem_map.mp named
    obtain ⟨field, fieldMember, fieldNamed⟩ := declared content contentMember
    simp only [DataType.field?, DataType.fields, Option.isNone_iff_eq_none, List.find?_eq_none]
    intro absent
    exact absent field fieldMember (beq_iff_eq.mpr (fieldNamed.trans same))
  have built : Entries.ofList (fields.map fun field =>
      (field.name, (Entries.get? contents field.name).getD .null)) = contents := by
    refine Entries.ofList_eq ordered (List.forall_mem_map.mpr fun field member => ?_)
      fun entry member => ?_
    · obtain ⟨content, found⟩ := Option.isSome_iff_exists.mp (present field member)
      rw [found, Option.getD_some]
    · obtain ⟨field, fieldMember, named⟩ := declared entry member
      exact ⟨_, List.mem_map_of_mem fieldMember, named⟩
  rw [recordOf, known, ofFields, built]

/-! ### Reading constants back -/

/-- Null is read back at every type. -/
theorem ofLiteral_null (type : DataType) : ofLiteral type .null = .ok .null := by
  cases type <;> rw [ofLiteral]

/-- At the top type a document stands for what it says by itself. -/
theorem ofLiteral_object (document : Json) :
    ofLiteral .object document = .ok (ofUntyped document) := by
  cases document <;> rfl

theorem ofLiteral_parameter (owner : ParameterOwner) (position : Nat) (document : Json) :
    ofLiteral (.parameter owner position) document = .ok (ofUntyped document) := by
  cases document <;> rfl

/-- What a primitive type reads of a document other than null is read at the type. -/
theorem ofLiteral_primitive {kind : Primitive} {document : Json} {value : Value}
    (read : ofPrimitive? kind document = some value) (something : document ≠ .null) :
    ofLiteral (.primitive kind) document = .ok value := by
  unfold ofLiteral
  split
  · exact absurd rfl something
  · dsimp only
    rw [read]

theorem ofPrimitive?_int32 (value : Int32) :
    ofPrimitive? .int32 (.integer value.toInt) = some (.int32 value) := by
  have bounds : -0x80000000 ≤ value.toInt ∧ value.toInt < 0x80000000 :=
    ⟨value.le_toInt, value.toInt_lt⟩
  have wide : value.toInt < 0x8000000000000000 := Int.lt_trans bounds.2 (by decide)
  rw [ofPrimitive?, Json.integer?, if_pos wide, Option.bind_some, int32?, if_pos bounds,
    Int32.ofInt_toInt]
  rfl

theorem ofPrimitive?_int64 (value : Int64) :
    ofPrimitive? .int64 (.integer value.toInt) = some (.int64 value) := by
  have wide : value.toInt < 0x8000000000000000 := value.toInt_lt
  rw [ofPrimitive?, Json.integer?, if_pos wide, Option.map_some, Int64.ofInt_toInt]

/-- A character is read back from the text that it makes. -/
theorem ofPrimitive?_char (value : Char) :
    ofPrimitive? .char (.string (String.singleton value)) = some (.char value) := by
  simp [ofPrimitive?, Json.string?, onlyCharacter?]

/-- The reader at a place reads at the argument there, or at the top type. -/
theorem readerAt_eq (arguments : List DataType) (place : Nat) :
    readerAt arguments place = ofLiteral (arguments.getD place .object) := by
  funext document
  induction arguments generalizing place with
  | nil =>
    rw [readerAt]
    exact (ofLiteral_object document).symm
  | cons argument rest inductionHypothesis =>
    cases place with
    | zero => rw [readerAt, List.getD_cons_zero]
    | succ place => rw [readerAt, List.getD_cons_succ, inductionHypothesis]

/-- Items that are read back without a type make a list that is. -/
theorem ofUntypedAll_literals {items : List Value} {documents : List Json}
    (written : literals items = .ok documents)
    (each : ∀ item ∈ items, ∀ document, item.literal = .ok document → ofUntyped document = item) :
    ofUntypedAll documents = items := by
  induction items generalizing documents with
  | nil => cases written; rfl
  | cons item rest inductionHypothesis =>
    obtain ⟨head, tail, headWritten, tailWritten, rfl⟩ := cons_of_literals written
    rw [List.forall_mem_cons] at each
    rw [ofUntypedAll, each.1 head headWritten, inductionHypothesis tailWritten each.2]

/-- So do the contents of a record, under their names. -/
theorem ofUntypedMembers_literals {contents : List (String × Value)}
    {members : List (String × Json)} (written : literalFields contents = .ok members)
    (each : ∀ entry ∈ contents, ∀ document, entry.2.literal = .ok document →
      ofUntyped document = entry.2) : ofUntypedMembers members = contents := by
  induction contents generalizing members with
  | nil => cases written; rfl
  | cons entry rest inductionHypothesis =>
    obtain ⟨name, content⟩ := entry
    obtain ⟨head, tail, headWritten, tailWritten, rfl⟩ := cons_of_literalFields written
    rw [List.forall_mem_cons] at each
    rw [ofUntypedMembers, each.1 head headWritten, inductionHypothesis tailWritten each.2]

/-- A value that its literal describes by itself is read back without a type. -/
theorem Untyped.readBack {value : Value} (untyped : value.Untyped) {document : Json}
    (written : value.literal = .ok document) :
    document.Ordered ∧ ofUntyped document = value := by
  induction untyped generalizing document with
  | null => cases written; exact ⟨trivial, rfl⟩
  | bool value => cases written; exact ⟨trivial, rfl⟩
  | int64 value =>
    cases written
    have wide : value.toInt < 0x8000000000000000 := value.toInt_lt
    rw [ofUntyped, if_pos wide, Int64.ofInt_toInt]
    exact ⟨trivial, rfl⟩
  | double finite =>
    rw [literal, if_pos finite] at written
    cases written
    exact ⟨trivial, rfl⟩
  | string value => cases written; exact ⟨trivial, rfl⟩
  | array each inductionHypothesis =>
    obtain ⟨documents, itemsWritten, rfl⟩ := array_of_literal written
    refine ⟨orderedAll_literals itemsWritten fun item member document itemWritten =>
      (inductionHypothesis item member itemWritten).1, ?_⟩
    rw [ofUntyped, ofUntypedAll_literals itemsWritten fun item member document itemWritten =>
      (inductionHypothesis item member itemWritten).2]
  | record ordered each inductionHypothesis =>
    obtain ⟨members, fieldsWritten, rfl⟩ := record_of_literal written
    refine ⟨ordered_literalFields fieldsWritten ordered fun entry member document entryWritten =>
      (inductionHypothesis entry member entryWritten).1, ?_⟩
    rw [ofUntyped, ofUntypedMembers_literals fieldsWritten
      fun entry member document entryWritten => (inductionHypothesis entry member entryWritten).2,
      ofFields, Entries.ofList_of_ordered ordered]

/-- What all fields admit is read back from its literal, which is in order. -/
theorem readBack_of_admits {type : DataType} {value : Value}
    (admits : type.Admits Field.Declared value) {document : Json}
    (written : value.literal = .ok document) :
    document.Ordered ∧ ofLiteral type document = .ok value := by
  induction admits generalizing document with
  | null type =>
    cases written
    exact ⟨trivial, ofLiteral_null type⟩
  | bool value => cases written; exact ⟨trivial, rfl⟩
  | int32 value =>
    cases written
    exact ⟨trivial, ofLiteral_primitive (ofPrimitive?_int32 value) (nomatch ·)⟩
  | int64 value =>
    cases written
    exact ⟨trivial, ofLiteral_primitive (ofPrimitive?_int64 value) (nomatch ·)⟩
  | double finite =>
    rw [literal, if_pos finite] at written
    cases written
    exact ⟨trivial, rfl⟩
  | char value =>
    cases written
    exact ⟨trivial, ofLiteral_primitive (ofPrimitive?_char value) (nomatch ·)⟩
  | string value => cases written; exact ⟨trivial, rfl⟩
  | @array element items each inductionHypothesis =>
    obtain ⟨documents, itemsWritten, rfl⟩ := array_of_literal written
    have read := readItems_literals itemsWritten fun item member document itemWritten =>
      (inductionHypothesis item member itemWritten).2
    refine ⟨orderedAll_literals itemsWritten fun item member document itemWritten =>
      (inductionHypothesis item member itemWritten).1, ?_⟩
    rw [ofLiteral, read]
    rfl
  | @sequence name arguments items each inductionHypothesis =>
    obtain ⟨documents, itemsWritten, rfl⟩ := array_of_literal written
    have read := readItems_literals itemsWritten fun item member document itemWritten =>
      (inductionHypothesis item member itemWritten).2
    refine ⟨orderedAll_literals itemsWritten fun item member document itemWritten =>
      (inductionHypothesis item member itemWritten).1, ?_⟩
    rw [ofLiteral, readerAt_eq, read]
    rfl
  | @map name arguments entries keys contents keysHypothesis contentsHypothesis =>
    obtain ⟨documents, entriesWritten, rfl⟩ := map_of_literal written
    have read : readPairs (badLiteral (.generic name .map arguments))
        (ofLiteral (arguments.getD 0 .object)) (ofLiteral (arguments.getD 1 .object)) documents =
          .ok entries := readPairs_literals entriesWritten
      (fun entry member document keyWritten => (keysHypothesis entry member keyWritten).2)
      fun entry member document contentWritten => (contentsHypothesis entry member contentWritten).2
    refine ⟨orderedAll_literalPairs entriesWritten
      (fun entry member document keyWritten => (keysHypothesis entry member keyWritten).1)
      fun entry member document contentWritten =>
        (contentsHypothesis entry member contentWritten).1, ?_⟩
    rw [ofLiteral, readerAt_eq, readerAt_eq, read]
    rfl
  | @record name fields captured contents ordered declared present each inductionHypothesis =>
    obtain ⟨members, fieldsWritten, rfl⟩ := record_of_literal written
    refine ⟨ordered_literalFields fieldsWritten ordered
      fun entry member document entryWritten => ?_, ?_⟩
    · -- Each content stands under a declared field, and there its literal is known.
      obtain ⟨field, fieldMember, named⟩ := declared entry member
      have found := ordered.get?_of_mem member
      rw [← named] at found
      exact (inductionHypothesis field fieldMember entry.2 found entryWritten).1
    · have read := readFields_literals fieldsWritten present fun field member content found document
        contentWritten => (inductionHypothesis field member content found contentWritten).2
      rw [ofLiteral, read]
      exact recordOf_literalFields fieldsWritten ordered declared present
  | genericRecord =>
    cases written
    exact ⟨⟨List.Pairwise.nil, trivial⟩, rfl⟩
  | object untyped =>
    obtain ⟨inOrder, read⟩ := untyped.readBack written
    rw [ofLiteral_object, read]
    exact ⟨inOrder, rfl⟩
  | parameter untyped =>
    obtain ⟨inOrder, read⟩ := untyped.readBack written
    rw [ofLiteral_parameter, read]
    exact ⟨inOrder, rfl⟩

/-- What a type admits, by all the fields that it declares, has a literal in normal form, from which
it is read back at the type. That it can be written is part of being admitted. -/
theorem ofLiteral_literal {type : DataType} {value : Value}
    (admits : type.Admits Field.Declared value) :
    ∃ document, value.literal = .ok document ∧ document.normalize = document ∧
      ofLiteral type document = .ok value := by
  obtain ⟨document, written⟩ :=
    (hasLiteral_of_admits (fun {_ field} member => ⟨field, member, rfl⟩) admits).written
  obtain ⟨inOrder, read⟩ := readBack_of_admits admits written
  exact ⟨document, written, inOrder.normalize_eq, read⟩

/-- A shelf has a map of codes to counts, and whatever else is noted about it. -/
def shelf : DataType :=
  .record "demo.Shelf" [⟨"Counts", .generic dictionaryName .map [.char, .int64], true⟩,
    ⟨"Note", .object, true⟩] false

/-- A map that names a code twice, and a note with a record and a double in it. -/
def stock : Value :=
  .record [("Counts", .map [(.char 'b', .int64 1), (.char 'a', .null), (.char 'b', .int64 2)]),
    ("Note", .array [.int64 5, .record [("Weight", .double 0.5)]])]

theorem ofLiteral_literal_shelf : shelf.Admits Field.Declared stock ∧
    ∃ document, stock.literal = .ok document ∧ document.normalize = document ∧
      ofLiteral shelf document = .ok stock := by
  have counts : (DataType.generic dictionaryName .map [.char, .int64]).Admits Field.Declared
      (.map [(.char 'b', .int64 1), (.char 'a', .null), (.char 'b', .int64 2)]) := by
    refine .map ?_ ?_ <;> simp only [List.forall_mem_cons]
    · exact ⟨.char 'b', .char 'a', .char 'b', List.forall_mem_nil _⟩
    · exact ⟨.int64 1, .null _, .int64 2, List.forall_mem_nil _⟩
  have note : DataType.object.Admits Field.Declared
      (.array [.int64 5, .record [("Weight", .double 0.5)]]) := by
    refine .object (.array ?_)
    have weight : Untyped (.record [("Weight", .double 0.5)]) :=
      .record (List.pairwise_singleton _ _) (List.forall_mem_singleton.mpr (.double rfl))
    exact List.forall_mem_cons.mpr ⟨.int64 5, List.forall_mem_singleton.mpr weight⟩
  have admits : shelf.Admits Field.Declared stock := by
    refine .record (List.pairwise_pair.mpr (by decide)) ?_ ?_ fun field member content found => ?_
    · exact List.forall_mem_cons.mpr ⟨⟨_, .head _, rfl⟩,
        List.forall_mem_singleton.mpr ⟨_, .tail _ (.head _), rfl⟩⟩
    · exact List.forall_mem_cons.mpr ⟨rfl, List.forall_mem_singleton.mpr rfl⟩
    · rcases List.mem_cons.mp member with rfl | last
      · cases found
        exact counts
      · cases List.mem_singleton.mp last
        cases found
        exact note
  exact ⟨admits, ofLiteral_literal admits⟩

end Value

end PredicateWire
