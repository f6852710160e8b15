/-
This file proves that packing the type of a constant captures every record in it. A key
is captured once, and packing passes over it from then on. So while fields are being
captured the table knows more keys than it has fields for: those of the records around
the fields. `Capturing` allows for these and no others, and no record is met inside
itself, because among types of one world a name stands for one type.

What a receiver needs is then read off the table. Each record in the type has an entry
with its fields, and by the rules of `Received` the receiver builds it again
(`received_synthesized`), even if it knows nothing but the library. The world is a
parameter of the development: it is whatever set of types the constants of one
expression have, and names have to tell its members apart.
-/
import PredicateWire.Proofs.Table.Search
import PredicateWire.Proofs.Types.Ordinary
import PredicateWire.Proofs.Wire.Packing

namespace PredicateWire

namespace TypeTable

open Running DataType

/-! ### Records that a table holds -/

/-- The table has captured the fields of a record, and knows their types. -/
structure Holds (table : TypeTable) (name : String) (fields : List (Field DataType)) : Prop where
  known : ∀ field ∈ fields, table.Knows field.type
  entry : ∃ key, ⟨key, name, true, fields.map fun field => ⟨field.name, table.keyFor field.type⟩⟩ ∈
    table.entries

/-- The table holds all records in a type. -/
def HoldsAll (table : TypeTable) (type : DataType) : Prop :=
  ∀ name fields captured, record name fields captured ∈ type.parts → table.Holds name fields

/-- A key stays the key of its name while a table grows. -/
theorem Knows.grows {before after : TypeTable} (grows : before.Grows after) {type : DataType}
    (knows : before.Knows type) : after.Knows type ∧ after.keyFor type = before.keyFor type := by
  have found := grows.keyOf? (keyOf?_of_knows knows)
  exact ⟨knows_of_keyOf? found, keyFor_eq found⟩

/-- Captured fields stay as they are while a table grows. -/
theorem Holds.grows {before after : TypeTable} (grows : before.Grows after) {name : String}
    {fields : List (Field DataType)} (holds : before.Holds name fields) :
    after.Holds name fields := by
  obtain ⟨key, member⟩ := holds.entry
  refine ⟨fun field fieldMember => ((holds.known field fieldMember).grows grows).1, key, ?_⟩
  have same : (fields.map fun field => FieldEntry.mk field.name (after.keyFor field.type)) =
      fields.map fun field => ⟨field.name, before.keyFor field.type⟩ := by
    refine List.map_congr_left fun field fieldMember => ?_
    rw [((holds.known field fieldMember).grows grows).2]
  rw [same]
  exact grows.structural member rfl

theorem HoldsAll.grows {before after : TypeTable} (grows : before.Grows after) {type : DataType}
    (holds : before.HoldsAll type) : after.HoldsAll type :=
  fun name fields captured member => (holds name fields captured member).grows grows

/-- The records in a part of a type are records in the type. -/
theorem HoldsAll.of_mem_parts {table : TypeTable} {type part : DataType}
    (holds : table.HoldsAll type) (member : part ∈ type.parts) : table.HoldsAll part :=
  fun name fields captured within => holds name fields captured (parts_trans member within)

/-- There are no records in an ordinary type that does not travel with an instance. -/
theorem holdsAll_of_stays {type : DataType} (ordinary : type.Ordinary)
    (stays : travels type = false) (table : TypeTable) : table.HoldsAll type := by
  intro name fields captured member
  cases ordinary with
  | primitive kind => cases List.mem_singleton.mp member
  | object => cases List.mem_singleton.mp member
  | holder => cases List.mem_singleton.mp member
  | array => cases stays
  | @generic name family arguments defined each =>
    rw [travels, Bool.or_eq_false_iff, Bool.not_eq_false', List.isEmpty_iff] at stays
    exact absurd stays.2 (Library.arguments_ne_nil defined)
  | record => cases stays

/-! ### Setting fields -/

theorem knows_setFields {table : TypeTable} {key : TypeKey} {entries : List FieldEntry}
    {type : DataType} : (table.setFields key entries).Knows type ↔ table.Knows type := by
  rw [Knows, Knows, keyOf?_setFields]

theorem keyFor_setFields {table : TypeTable} {key : TypeKey} {entries : List FieldEntry}
    (type : DataType) : (table.setFields key entries).keyFor type = table.keyFor type := by
  rw [keyFor, keyFor, keyOf?_setFields]

/-- A record whose fields are set is held, if their types have keys. -/
theorem holds_setFields_self {table : TypeTable} {key : TypeKey} {name : String}
    (found : table.keyOf? name = some key) {fields : List (Field DataType)}
    (known : ∀ field ∈ fields, table.Knows field.type) :
    (table.setFields key (fields.map fun field =>
      ⟨field.name, table.keyFor field.type⟩)).Holds name fields := by
  obtain ⟨entry, member, same, named⟩ := exists_entry_of_keyOf? found
  refine ⟨fun field fieldMember => knows_setFields.mpr (known field fieldMember), key,
    mem_setFields.mpr ⟨entry, member, ?_⟩⟩
  rw [if_pos same]
  simp only [keyFor_setFields, ← same, ← named]

/-- Setting the fields of one record leaves those of another, since the two have different keys. -/
theorem Holds.setFields {table : TypeTable} (sound : table.Sound) {key : TypeKey}
    {name other : String} (found : table.keyOf? name = some key) (different : other ≠ name)
    {fields : List (Field DataType)} (holds : table.Holds other fields)
    (entries : List FieldEntry) : (table.setFields key entries).Holds other fields := by
  obtain ⟨otherKey, member⟩ := holds.entry
  obtain ⟨entry, entryMember, same, named⟩ := exists_entry_of_keyOf? found
  refine ⟨fun field fieldMember => knows_setFields.mpr (holds.known field fieldMember), otherKey,
    mem_setFields.mpr ⟨_, member, ?_⟩⟩
  rw [if_neg fun equal => ?_]
  · simp only [keyFor_setFields]
  · have one := eq_of_nodup_map sound.keys member entryMember (equal.trans same.symm)
    exact different ((congrArg TypeEntry.name one).trans named)

/-- A key is the key of one name only. -/
theorem name_of_keyOf? {table : TypeTable} (keys : (table.entries.map TypeEntry.key).Nodup)
    {name other : String} {key : TypeKey} (found : table.keyOf? name = some key)
    (otherFound : table.keyOf? other = some key) : other = name := by
  obtain ⟨entry, member, keyed, rfl⟩ := exists_entry_of_keyOf? found
  obtain ⟨rival, rivalMember, rivalKeyed, rfl⟩ := exists_entry_of_keyOf? otherFound
  rw [eq_of_nodup_map keys rivalMember member (rivalKeyed.trans keyed.symm)]

/-! ### Worlds -/

/-- Ordinary types with all their parts, among which a name stands for one type. -/
structure World (world : DataType → Prop) : Prop where
  ordinary : ∀ {type}, world type → type.Ordinary
  parts : ∀ {type}, world type → ∀ part ∈ type.parts, world part
  same : ∀ {first second}, world first → world second →
    first.canonicalName = second.canonicalName → first = second

/-- Every captured key belongs to a record of the world. The table holds all records in it, unless
its fields are being captured. -/
structure Capturing (world : DataType → Prop) (active : List String) (table : TypeTable) : Prop
    extends Tracked table where
  whole : ∀ key ∈ table.captured, ∃ name fields captured,
    world (record name fields captured) ∧ table.keyOf? name = some key ∧
      (name ∈ active ∨ table.HoldsAll (record name fields captured))

/-- None of the records in a type is being captured. -/
def Idle (active : List String) (type : DataType) : Prop :=
  ∀ name fields captured, record name fields captured ∈ type.parts → name ∉ active

theorem Idle.of_mem_parts {active : List String} {type part : DataType} (idle : Idle active type)
    (member : part ∈ type.parts) : Idle active part :=
  fun name fields captured within => idle name fields captured (parts_trans member within)

section

variable {world : DataType → Prop} {active : List String}

/-- A table that nothing has been packed into has captured nothing. -/
theorem capturing_empty (catalog : Catalog) (source : Nat → UInt32) :
    Capturing world [] (empty catalog source) := by
  refine ⟨⟨⟨.nil, .nil, ?_⟩, ?_⟩, ?_⟩ <;> intro _ member <;> cases member

/-- The property lasts while nothing more is captured: what is held stays held. -/
theorem lasts_capturing : Lasts (Capturing world active) := by
  refine ⟨Capturing.toTracked, fun {table later} capturing tracked grows same => ⟨tracked, ?_⟩⟩
  intro key member
  rw [same] at member
  obtain ⟨name, fields, captured, inWorld, found, whole⟩ := capturing.whole key member
  exact ⟨name, fields, captured, inWorld, grows.keyOf? found,
    whole.imp_right fun holds => holds.grows grows⟩

/-- Marking a key as captured leaves the entries as they are. -/
theorem grows_markCaptured (table : TypeTable) (key : TypeKey) :
    table.Grows (table.markCaptured key) :=
  ⟨rfl, id, id, fun member => .tail _ member, fun member _ => member⟩

/-- A record whose fields are being captured is no longer idle. -/
theorem Capturing.markCaptured {table : TypeTable} (capturing : Capturing world active table)
    {key : TypeKey} {name : String} {fields : List (Field DataType)} {captured : Bool}
    (inWorld : world (record name fields captured)) (found : table.keyOf? name = some key) :
    Capturing world (name :: active) (table.markCaptured key) := by
  have sound : (table.markCaptured key).Sound := ⟨capturing.keys, capturing.names, capturing.fields⟩
  refine ⟨⟨sound, fun entry member structural =>
    .tail _ (capturing.structural entry member structural)⟩, fun other member => ?_⟩
  rcases List.mem_cons.mp member with rfl | earlier
  · exact ⟨name, fields, captured, inWorld, found, .inl List.mem_cons_self⟩
  · obtain ⟨otherName, otherFields, flag, otherWorld, otherFound, whole⟩ :=
      capturing.whole other earlier
    exact ⟨otherName, otherFields, flag, otherWorld, otherFound,
      whole.imp (List.mem_cons_of_mem _) fun holds => holds.grows (grows_markCaptured table key)⟩

variable (worldly : World world)

include worldly

/-- When the fields of a record have been captured, the table holds it together with all records
in its fields. -/
theorem holdsAll_setFields {table : TypeTable} (sound : table.Sound) {key : TypeKey}
    {name : String} {fields : List (Field DataType)} {captured : Bool}
    (inWorld : world (record name fields captured)) (found : table.keyOf? name = some key)
    (each : ∀ field ∈ fields, table.Knows field.type) {type : DataType} (typeWorld : world type)
    (holds : ∀ other otherFields flag, record other otherFields flag ∈ type.parts →
      other = name ∨ table.Holds other otherFields) :
    (table.setFields key (fields.map fun field =>
      ⟨field.name, table.keyFor field.type⟩)).HoldsAll type := by
  intro other otherFields flag member
  by_cases same : other = name
  · subst same
    cases worldly.same inWorld (worldly.parts typeWorld _ member) rfl
    exact holds_setFields_self found each
  · exact ((holds other otherFields flag member).resolve_left same).setFields sound found same _

/-- When the fields of a record have been captured, it is in progress no longer, and the table holds
it. -/
theorem Capturing.setFields {table : TypeTable} {key : TypeKey} {name : String}
    {fields : List (Field DataType)} {captured : Bool}
    (capturing : Capturing world (name :: active) table)
    (inWorld : world (record name fields captured)) (found : table.keyOf? name = some key)
    (marked : key ∈ table.captured)
    (known : ∀ field ∈ fields, table.Knows field.type ∧ table.HoldsAll field.type) :
    Capturing world active (table.setFields key (fields.map fun field =>
        ⟨field.name, table.keyFor field.type⟩)) ∧
      (table.setFields key (fields.map fun field =>
        ⟨field.name, table.keyFor field.type⟩)).HoldsAll (record name fields captured) := by
  have present : ∀ field ∈ fields.map fun field =>
      FieldEntry.mk field.name (table.keyFor field.type), table.hasKey field.key = true := by
    intro entry member
    obtain ⟨field, fieldMember, rfl⟩ := List.mem_map.mp member
    exact hasKey_of_keyOf? (keyOf?_of_knows (known field fieldMember).1)
  have held : ∀ {type : DataType}, world type → (∀ other otherFields flag,
      record other otherFields flag ∈ type.parts → other = name ∨
        table.Holds other otherFields) →
      (table.setFields key (fields.map fun field =>
        ⟨field.name, table.keyFor field.type⟩)).HoldsAll type :=
    holdsAll_setFields worldly capturing.toSound inWorld found
      fun field member => (known field member).1
  have whole : (table.setFields key (fields.map fun field =>
      ⟨field.name, table.keyFor field.type⟩)).HoldsAll (record name fields captured) := by
    refine held inWorld fun other otherFields flag member => ?_
    rw [DataType.parts, partsFields_eq_flatMap] at member
    rcases List.mem_cons.mp member with same | within
    · cases same
      exact .inl rfl
    · obtain ⟨field, fieldMember, within⟩ := List.mem_flatMap.mp within
      exact .inr ((known field fieldMember).2 other otherFields flag within)
  refine ⟨⟨tracked_setFields capturing.toTracked marked present, fun other member => ?_⟩, whole⟩
  obtain ⟨otherName, otherFields, flag, otherWorld, otherFound, state⟩ :=
    capturing.whole other member
  refine ⟨otherName, otherFields, flag, otherWorld, by rwa [keyOf?_setFields], ?_⟩
  rcases state with inProgress | holds
  · rcases List.mem_cons.mp inProgress with rfl | outer
    · cases worldly.same inWorld otherWorld rfl
      exact .inr whole
    · exact .inl outer
  · exact .inr (held otherWorld fun name fields flag within =>
      .inr (holds name fields flag within))

/-- The fields of a record that is met have been captured before, or they are captured now. -/
theorem captures_record {name : String} {fields : List (Field DataType)} {captured : Bool}
    (inWorld : world (record name fields captured)) (idle : name ∉ active)
    (each : Adds (Capturing world (name :: active)) (packFields fields) fun entries later =>
      (∀ field ∈ fields, later.Knows field.type ∧ later.HoldsAll field.type) ∧
        entries = fields.map fun field => ⟨field.name, later.keyFor field.type⟩) :
    Captures (Capturing world active) (fun type table => table.HoldsAll type)
      (record name fields captured) := by
  refine ⟨fun {table key final} capturing ran => ?_⟩
  unfold pack at ran
  obtain ⟨entered, first, enterRan, ran⟩ := run_bind_ok ran
  obtain ⟨_, last, captureRan, ran⟩ := run_bind_ok ran
  cases ran
  obtain ⟨firstCapturing, firstGrows, named⟩ :=
    (adds_enter lasts_capturing (record name fields captured)).keeps capturing enterRan
  have found : first.keyOf? name = some key := named (Grows.refl _)
  obtain ⟨marked, rfl⟩ | ⟨unmarked, entries, middle, fieldsRan, rfl⟩ := capture_eq_ok captureRan
  · -- Its key is that of a record of the same name, and this is not being captured any more.
    obtain ⟨other, otherFields, flag, otherWorld, otherFound, whole⟩ :=
      firstCapturing.whole key marked
    obtain rfl := name_of_keyOf? firstCapturing.keys otherFound found
    cases worldly.same inWorld otherWorld rfl
    have holds := whole.resolve_left idle
    exact ⟨firstCapturing, firstGrows, fun grows => ⟨grows.keyOf? found, holds.grows grows⟩⟩
  · obtain ⟨middleCapturing, middleGrows, fits⟩ :=
      each.keeps (firstCapturing.markCaptured inWorld found) fieldsRan
    obtain ⟨known, rfl⟩ := fits (Grows.refl _)
    have grows : first.Grows (middle.setFields key (fields.map fun field =>
        ⟨field.name, middle.keyFor field.type⟩)) :=
      grows_setFields firstCapturing.toTracked unmarked middleGrows
    obtain ⟨done, whole⟩ := middleCapturing.setFields worldly inWorld
      (middleGrows.keyOf? found) (middleGrows.captured (.head _)) known
    exact ⟨done, firstGrows.trans grows, fun later =>
      ⟨later.keyOf? (grows.keyOf? found), whole.grows later⟩⟩

end

section

variable {world : DataType → Prop}

mutual

/-- Packing a type with its fields captures every record in it. The induction is on the type, and
the records around it are those in progress, so the type itself has to be idle. -/
theorem captures_pack (worldly : World world) :
    ∀ (type : DataType) {active : List String}, world type → Idle active type →
    Captures (Capturing world active) (fun type table => table.HoldsAll type) type
  | .array element, active, inWorld, idle => by
    have inner : element ∈ (array element).parts :=
      List.mem_cons_of_mem _ (mem_parts_self element)
    have lift : ∀ later : TypeTable, later.HoldsAll element → later.HoldsAll (array element) := by
      intro later holds name fields captured member
      rw [DataType.parts] at member
      rcases List.mem_cons.mp member with same | within
      · cases same
      · exact holds name fields captured within
    unfold Captures pack
    refine adds_bind (adds_enter lasts_capturing _) fun key => ?_
    split
    · refine adds_bind (captures_pack worldly element (worldly.parts inWorld _ inner)
        (idle.of_mem_parts inner)) fun _ => adds_pure _ fun later packed found => ?_
      exact ⟨found, lift later packed.2⟩
    · rename_i stays
      refine adds_pure _ fun later found => ⟨found, lift later ?_⟩
      exact holdsAll_of_stays (worldly.ordinary (worldly.parts inWorld _ inner))
        (Bool.eq_false_iff.mpr stays) later
  | .generic name family arguments, active, inWorld, idle => by
    have inner : ∀ argument ∈ arguments, argument ∈ (generic name family arguments).parts :=
      fun argument member => parts_argument member (mem_parts_self argument)
    have plain : (family == .record) = false := by
      cases worldly.ordinary inWorld with
      | generic defined _ => exact beq_eq_false_iff_ne.mpr (Library.base_definition defined).2.1
    unfold Captures pack
    rw [plain, Bool.and_false]
    refine adds_bind (adds_enter lasts_capturing _) fun key => ?_
    refine adds_bind (captures_packArguments worldly arguments
      (fun argument member => worldly.parts inWorld _ (inner argument member))
      fun argument member => idle.of_mem_parts (inner argument member)) fun _ => ?_
    dsimp only
    rw [if_neg Bool.false_ne_true]
    refine adds_pure _ fun later held found => ⟨found, fun other fields captured member => ?_⟩
    rw [DataType.parts, partsAll_eq_flatMap] at member
    rcases List.mem_cons.mp member with same | within
    · cases same
    · obtain ⟨argument, argumentMember, within⟩ := List.mem_flatMap.mp within
      exact held argument argumentMember other fields captured within
  | .record name fields captured, active, inWorld, idle => by
    have inner : ∀ field ∈ fields, field.type ∈ (record name fields captured).parts :=
      fun field member => parts_field member (mem_parts_self _)
    refine captures_record worldly inWorld (idle _ _ _ (mem_parts_self _)) ?_
    refine captures_packFields worldly fields
      (fun field member => worldly.parts inWorld _ (inner field member))
      fun field member other otherFields flag within listed => ?_
    have whole : record other otherFields flag ∈ (record name fields captured).parts :=
      parts_field member within
    rcases List.mem_cons.mp listed with rfl | outer
    · cases worldly.same inWorld (worldly.parts inWorld _ whole) rfl
      exact record_not_mem_field member within
    · exact idle other otherFields flag whole outer
  | .primitive kind, active, inWorld, _ => by
    unfold Captures pack
    exact (adds_enter lasts_capturing _).weaken fun _ later found =>
      ⟨found, holdsAll_of_stays (worldly.ordinary inWorld) rfl later⟩
  | .object, active, inWorld, _ => by
    unfold Captures pack
    exact (adds_enter lasts_capturing _).weaken fun _ later found =>
      ⟨found, holdsAll_of_stays (worldly.ordinary inWorld) rfl later⟩
  | .holder name, active, inWorld, _ => by
    unfold Captures pack
    exact (adds_enter lasts_capturing _).weaken fun _ later found =>
      ⟨found, holdsAll_of_stays (worldly.ordinary inWorld) rfl later⟩
  | .parameter owner position, active, inWorld, _ => by
    unfold Captures pack
    exact (adds_enter lasts_capturing _).weaken fun _ later found =>
      ⟨found, holdsAll_of_stays (worldly.ordinary inWorld) rfl later⟩

theorem captures_packArguments (worldly : World world) :
    ∀ (types : List DataType) {active : List String},
    (∀ type ∈ types, world type) → (∀ type ∈ types, Idle active type) →
    Adds (Capturing world active) (packArguments true types) fun _ later =>
      ∀ type ∈ types, later.HoldsAll type
  | [], active, _, _ => by
    unfold packArguments
    exact adds_pure _ fun _ _ member => nomatch member
  | type :: rest, active, inWorld, idle => by
    rw [List.forall_mem_cons] at inWorld idle
    unfold packArguments
    split
    · refine adds_bind (captures_pack worldly type inWorld.1 idle.1) fun _ => ?_
      refine (captures_packArguments worldly rest inWorld.2 idle.2).weaken
        fun _ later held packed => ?_
      exact List.forall_mem_cons.mpr ⟨packed.2, held⟩
    · rename_i stays
      refine (captures_packArguments worldly rest inWorld.2 idle.2).weaken fun _ later held => ?_
      exact List.forall_mem_cons.mpr ⟨holdsAll_of_stays (worldly.ordinary inWorld.1)
        (Bool.eq_false_iff.mpr stays) later, held⟩

theorem captures_packFields (worldly : World world) :
    ∀ (fields : List (Field DataType)) {active : List String},
    (∀ field ∈ fields, world field.type) → (∀ field ∈ fields, Idle active field.type) →
    Adds (Capturing world active) (packFields fields) fun entries later =>
      (∀ field ∈ fields, later.Knows field.type ∧ later.HoldsAll field.type) ∧
        entries = fields.map fun field => ⟨field.name, later.keyFor field.type⟩
  | [], active, _, _ => by
    unfold packFields
    exact adds_pure _ fun _ => ⟨fun _ member => (nomatch member), rfl⟩
  | ⟨name, type, isPublic⟩ :: rest, active, inWorld, idle => by
    rw [List.forall_mem_cons] at inWorld idle
    unfold packFields
    refine adds_bind (captures_pack worldly type inWorld.1 idle.1) fun key => ?_
    refine adds_bind (captures_packFields worldly rest inWorld.2 idle.2) fun tail => ?_
    refine adds_pure _ ?_
    rintro later ⟨held, rfl⟩ ⟨found, holds⟩
    refine ⟨List.forall_mem_cons.mpr ⟨⟨knows_of_keyOf? found, holds⟩, held⟩, ?_⟩
    rw [List.map_cons, keyFor_eq found]

end

end

/-! ### Receiving captured records -/

/-- A key leads back to the name that it was found for. -/
theorem nameOf_keyFor {table : TypeTable} (sound : table.Sound) {type : DataType}
    (knows : table.Knows type) : table.nameOf (table.keyFor type) = type.canonicalName := by
  obtain ⟨entry, member, same, named⟩ := exists_entry_of_keyOf? (keyOf?_of_knows knows)
  rw [← same, nameOf_key sound member, named]

/-- The fields that are read from an entry are those of the record, with types as they are
received. -/
theorem receivedFields_eq_map (table : TypeTable) (fields : List (Field DataType)) :
    receivedFields (fields.map fun field => ⟨field.name, table.keyFor field.type⟩)
      (fields.map fun field => field.type.synthesized) = synthesizedFields fields := by
  rw [receivedFields, List.zipWith_map, List.zipWith_self, synthesizedFields_eq_map]

/-- What holds of each item, read in two ways, holds of all pairs of readings. -/
theorem forall_zip_map {Item First Second : Type} {items : List Item} {first : Item → First}
    {second : Item → Second} {property : First × Second → Prop}
    (each : ∀ item ∈ items, property (first item, second item)) :
    ∀ pair ∈ (items.map first).zip (items.map second), property pair := by
  rw [List.zip_map']
  exact List.forall_mem_map.mpr each

/-- The library finds its types under their names, and there is nothing in them to capture. -/
theorem findType?_library : ∀ type ∈ Library.types,
    Catalog.standard.findType? type.canonicalName = some type.synthesized := by
  simp only [Library.types, Primitive.all, List.map_cons, List.map_nil, List.cons_append,
    List.nil_append, List.forall_mem_cons]
  exact ⟨rfl, rfl, rfl, rfl, rfl, rfl, rfl, rfl, rfl, rfl, rfl, rfl, rfl, rfl, rfl,
    List.forall_mem_nil _⟩

/-- A receiver that knows the library only gets the types that can be built from it under their
names, if the records in them have been captured. -/
theorem received_synthesized {table : TypeTable} (sound : table.Sound)
    (library : table.catalog = Catalog.standard) {type : DataType} (buildable : type.Buildable)
    (holds : table.HoldsAll type) : Received table type.canonicalName type.synthesized := by
  induction buildable with
  | library listed =>
    refine .known ?_
    rw [library]
    exact findType?_library _ listed
  | @array element item inductionHypothesis =>
    have inner : element ∈ (array element).parts :=
      List.mem_cons_of_mem _ (mem_parts_self element)
    rw [DataType.synthesized]
    refine .array ?_ item.wellNamed.parse_array (inductionHypothesis (holds.of_mem_parts inner))
    rw [library, findType?_array]
  | @generic name family arguments defined each inductionHypothesis =>
    have some := Library.arguments_ne_nil defined
    have named : ∀ argument ∈ arguments, argument.WellNamed :=
      fun argument member => (each argument member).wellNamed
    have unknown : table.catalog.findType?
        (DataType.generic name family arguments).canonicalName = none := by
      rw [library, findType?_generic defined named]
    have known : table.catalog.findType? name =
        Option.some (definition name family arguments.length) := by
      rw [library, Library.findType?_definition defined]
    have received : ∀ pair ∈ (arguments.map canonicalName).zip (arguments.map synthesized),
        Received table pair.1 pair.2 :=
      forall_zip_map fun argument member => inductionHypothesis argument member
        (holds.of_mem_parts (parts_argument member (mem_parts_self argument)))
    have made : (definition name family (arguments.map synthesized).length).instantiate
        (arguments.map synthesized) = .ok (DataType.generic name family (arguments.map synthesized)) :=
      instantiate_definition fun empty => some (List.map_eq_nil_iff.mp empty)
    rw [List.length_map] at made
    rw [DataType.synthesized, synthesizedAll_eq_map]
    exact .generic unknown (parse_generic defined named) known
      (by rw [List.length_map, List.length_map]) received made
  | @record name fields captured plain each inductionHypothesis =>
    obtain ⟨known, key, member⟩ := holds name fields captured (mem_parts_self _)
    rw [DataType.synthesized, ← receivedFields_eq_map table]
    refine .captured ?_ (TypeName.parse_plain plain.present plain.plain) member rfl rfl ?_ ?_
    · rw [library]
      exact plain.unknown
    · rw [List.length_map, List.length_map]
    · refine forall_zip_map fun field fieldMember => ?_
      rw [nameOf_keyFor sound (known field fieldMember)]
      exact inductionHypothesis field fieldMember
        (holds.of_mem_parts (parts_field fieldMember (mem_parts_self _)))

end TypeTable

end PredicateWire
