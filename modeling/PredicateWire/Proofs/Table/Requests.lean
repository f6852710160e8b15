/-
This file says what a sequence of packing requests leaves in a table. A request brings
the arguments of its type with it, and the types of captured fields as well. A key is
captured once, so a record that is met again while its own fields are being captured is
passed over; the table is still complete in the end, because by then every captured key
has all fields. So the table depends on which requests there are, and neither on their
order nor on their repetitions.

The proof does not compare two runs. It says which rows a table must have after given
requests (`Due`) and shows that it has these and no others (`mem_rows_iff`). Tables that
owe the same to their requests then agree but for their keys and the order of their
entries (`packEach_agrees`). Names have to tell the types of the requests apart, since a
row is filed under the name of its type.
-/
import Mathlib.Data.List.Nodup
import Mathlib.Logic.Relation
import PredicateWire.Proofs.Table.Capture
import PredicateWire.Proofs.Table.Exhaustion
import PredicateWire.Proofs.Table.Reached

namespace PredicateWire

namespace TypeTable

open Running DataType

/-! ### Requests -/

/-- A type to be packed, with or without the fields of records. -/
structure Request where
  type : DataType
  structural : Bool

namespace Request

/-- The key of the type of a request. -/
def pack (request : Request) : TableM TypeKey :=
  TypeTable.pack request.structural request.type

/-- The requests for the arguments that travel with a type. -/
def arguments (request : Request) : List Request :=
  (request.type.arguments.filter travels).map fun type => ⟨type, request.structural⟩

/-- The requests for the types of the fields that are captured. -/
def fields (request : Request) : List Request :=
  if request.structural then request.type.fields.map fun field => ⟨field.type, true⟩ else []

/-- A request for a type brings others for its arguments. -/
def Brings : Request → Request → Prop :=
  Relation.ReflTransGen fun request other => other ∈ request.arguments

/-- A request leads to others for the arguments and the fields of its type. -/
def LeadsTo : Request → Request → Prop :=
  Relation.ReflTransGen fun request other => other ∈ request.arguments ∨ other ∈ request.fields

/-- Fields are asked for, and the type can have some. -/
def Captures (request : Request) : Prop :=
  request.structural = true ∧ request.type.isRecord = true

/-- A request is for the arguments that travel, and asks for fields if the type's are asked for. -/
theorem mem_arguments {request other : Request} :
    other ∈ request.arguments ↔ other.type ∈ request.type.arguments ∧ travels other.type = true ∧
      other.structural = request.structural := by
  rw [arguments, List.mem_map]
  constructor
  · rintro ⟨type, member, rfl⟩
    exact ⟨(List.mem_filter.mp member).1, (List.mem_filter.mp member).2, rfl⟩
  · rintro ⟨member, moves, same⟩
    exact ⟨other.type, List.mem_filter.mpr ⟨member, moves⟩, by rw [← same]⟩

/-- Fields are requested only where they are asked for, and then with their own fields. -/
theorem mem_fields {request other : Request} (member : other ∈ request.fields) :
    request.structural = true ∧ ∃ field ∈ request.type.fields, other = ⟨field.type, true⟩ := by
  rw [fields] at member
  split at member
  · rename_i structural
    obtain ⟨field, fieldMember, rfl⟩ := List.mem_map.mp member
    exact ⟨structural, field, fieldMember, rfl⟩
  · cases member

theorem mem_fields_of_field {type : DataType} {field : Field DataType}
    (member : field ∈ type.fields) : ⟨field.type, true⟩ ∈ (Request.mk type true).fields := by
  rw [fields, if_pos rfl]
  exact List.mem_map_of_mem member

end Request

theorem argument_mem_parts {type argument : DataType} (member : argument ∈ type.arguments) :
    argument ∈ type.parts := by
  cases type with
  | array element =>
    cases List.mem_singleton.mp member
    exact List.mem_cons_of_mem _ (mem_parts_self _)
  | generic name family arguments => exact parts_argument member (mem_parts_self _)
  | _ => cases member

theorem field_mem_parts {type : DataType} {field : Field DataType} (member : field ∈ type.fields) :
    field.type ∈ type.parts := by
  cases type with
  | record name fields captured => exact parts_field member (mem_parts_self _)
  | _ => cases member

theorem isRecord_of_field {type : DataType} {field : Field DataType}
    (member : field ∈ type.fields) : type.isRecord = true := by
  cases type with
  | record => rfl
  | _ => cases member

/-- A request leads only to types that occur in its type. -/
theorem Request.LeadsTo.mem_parts {request other : Request} (leads : request.LeadsTo other) :
    other.type ∈ request.type.parts := by
  induction leads with
  | refl => exact mem_parts_self _
  | tail _ step inductionHypothesis =>
    refine parts_trans inductionHypothesis ?_
    rcases step with argument | inField
    · exact argument_mem_parts (Request.mem_arguments.mp argument).1
    · obtain ⟨_, field, member, rfl⟩ := Request.mem_fields inField
      exact field_mem_parts member

/-! ### What a table owes to requests -/

/-- The table has a key for the type of a request, and the key is captured if fields are asked
for. -/
structure Notes (table : TypeTable) (request : Request) : Prop where
  knows : table.Knows request.type
  captured : request.Captures → table.keyFor request.type ∈ table.captured

/-- The table notes a request and all that it brings for the arguments of its type. -/
def Covers (table : TypeTable) (request : Request) : Prop :=
  ∀ other, request.Brings other → table.Notes other

/-- The table has the fields of a type under a key, and covers the requests for them. -/
structure Shows (table : TypeTable) (key : TypeKey) (type : DataType) : Prop where
  entry : ⟨key, type.canonicalName, true,
    type.fields.map fun field => ⟨field.name, table.keyFor field.type⟩⟩ ∈ table.entries
  covers : ∀ field ∈ type.fields, table.Covers ⟨field.type, true⟩

/-- Every entry is for a type that is asked for. Entries that are not structural have no fields, and
captured keys show theirs, unless these are still being packed. -/
structure Filed (asked : Request → Prop) (pending : List TypeKey) (table : TypeTable) : Prop
    extends Tracked table where
  named : ∀ entry ∈ table.entries, ∃ request, asked request ∧
    entry.name = request.type.canonicalName
  bare : ∀ entry ∈ table.entries, entry.structural = false → entry.fields = []
  shown : ∀ key ∈ table.captured, key ∈ pending ∨
    ∃ request, asked request ∧ request.Captures ∧ table.Shows key request.type

theorem Covers.self {table : TypeTable} {request : Request} (covers : table.Covers request) :
    table.Notes request :=
  covers request .refl

theorem Covers.brings {table : TypeTable} {request other : Request}
    (covers : table.Covers request) (brings : request.Brings other) : table.Covers other :=
  fun last further => covers last (brings.trans further)

/-- A request is covered when its type has a key, which is captured if fields are asked for, and the
arguments that travel are covered. -/
theorem covers_of_found {table : TypeTable} {type : DataType} {structural : Bool} {key : TypeKey}
    (found : table.keyOf? type.canonicalName = some key)
    (marked : (Request.mk type structural).Captures → key ∈ table.captured)
    (each : ∀ argument ∈ type.arguments, travels argument = true →
      table.Covers ⟨argument, structural⟩) : table.Covers ⟨type, structural⟩ := by
  intro other brings
  rcases brings.cases_head with rfl | ⟨⟨argument, flag⟩, member, further⟩
  · refine ⟨knows_of_keyOf? found, fun captures => ?_⟩
    rw [keyFor_eq found]
    exact marked captures
  · obtain ⟨argumentMember, moves, rfl⟩ := Request.mem_arguments.mp member
    exact each argument argumentMember moves other further

/-- A type without arguments that is not a record is covered when it has a key. -/
theorem covers_of_plain {table : TypeTable} {type : DataType} {structural : Bool} {key : TypeKey}
    (found : table.keyOf? type.canonicalName = some key) (plain : type.isRecord = false)
    (stays : type.arguments = []) : table.Covers ⟨type, structural⟩ := by
  refine covers_of_found found (fun captures => ?_) fun argument member => ?_
  · exact absurd (captures.2.symm.trans plain) Bool.noConfusion
  · rw [stays] at member
    cases member

/-! ### Growing tables -/

/-- What has been noted stays noted while a table grows. -/
theorem Notes.grows {before after : TypeTable} (grows : before.Grows after) {request : Request}
    (notes : before.Notes request) : after.Notes request := by
  obtain ⟨knows, same⟩ := notes.knows.grows grows
  refine ⟨knows, fun captures => ?_⟩
  rw [same]
  exact grows.captured (notes.captured captures)

theorem Covers.grows {before after : TypeTable} (grows : before.Grows after) {request : Request}
    (covers : before.Covers request) : after.Covers request :=
  fun other brings => (covers other brings).grows grows

/-- Fields that are shown stay shown while a table grows. -/
theorem Shows.grows {before after : TypeTable} (grows : before.Grows after) {key : TypeKey}
    {type : DataType} (shows : before.Shows key type) : after.Shows key type := by
  refine ⟨?_, fun field member => (shows.covers field member).grows grows⟩
  have same : (type.fields.map fun field => FieldEntry.mk field.name (after.keyFor field.type)) =
      type.fields.map fun field => ⟨field.name, before.keyFor field.type⟩ := by
    refine List.map_congr_left fun field member => ?_
    rw [((shows.covers field member).self.knows.grows grows).2]
  rw [same]
  exact grows.structural shows.entry rfl

theorem covers_setFields {table : TypeTable} {key : TypeKey} {entries : List FieldEntry}
    {request : Request} (covers : table.Covers request) :
    (table.setFields key entries).Covers request := by
  intro other brings
  refine ⟨knows_setFields.mpr (covers other brings).knows, fun captures => ?_⟩
  rw [keyFor_setFields]
  exact (covers other brings).captured captures

/-- A key shows the fields that are set for it, provided that the types of the fields are covered,
which is the case when they have just been packed. -/
theorem shows_setFields_self {table : TypeTable} {key : TypeKey} {type : DataType}
    (found : table.keyOf? type.canonicalName = some key)
    (covers : ∀ field ∈ type.fields, table.Covers ⟨field.type, true⟩) :
    (table.setFields key (type.fields.map fun field =>
      ⟨field.name, table.keyFor field.type⟩)).Shows key type := by
  obtain ⟨entry, member, same, named⟩ := exists_entry_of_keyOf? found
  refine ⟨mem_setFields.mpr ⟨entry, member, ?_⟩, fun field fieldMember =>
    covers_setFields (covers field fieldMember)⟩
  rw [if_pos same]
  simp only [keyFor_setFields, ← same, ← named]

/-- Setting the fields of one key leaves those of another. -/
theorem Shows.setFields {table : TypeTable} {key other : TypeKey} (different : other ≠ key)
    {type : DataType} (shows : table.Shows other type) (entries : List FieldEntry) :
    (table.setFields key entries).Shows other type := by
  refine ⟨mem_setFields.mpr ⟨_, shows.entry, ?_⟩, fun field member =>
    covers_setFields (shows.covers field member)⟩
  rw [if_neg different]
  simp only [keyFor_setFields]

section Filing

variable {asked : Request → Prop} {pending : List TypeKey}

theorem filed_empty (catalog : Catalog) (source : Nat → UInt32) :
    (empty catalog source).Filed asked [] where
  toTracked := tracked_empty catalog source
  named := fun _ member => nomatch member
  bare := fun _ member => nomatch member
  shown := fun _ member => nomatch member

/-- A key that is marked is pending until its fields are set. -/
theorem Filed.markCaptured {table : TypeTable} (filed : table.Filed asked pending) (key : TypeKey) :
    (table.markCaptured key).Filed asked (key :: pending) where
  toTracked := filed.toTracked.markCaptured key
  named := filed.named
  bare := filed.bare
  shown := by
    intro other member
    rcases List.mem_cons.mp member with rfl | earlier
    · exact .inl List.mem_cons_self
    · refine (filed.shown other earlier).imp (List.mem_cons_of_mem key) ?_
      rintro ⟨request, asks, captures, shows⟩
      exact ⟨request, asks, captures, shows.grows (grows_markCaptured table key)⟩

/-- When its fields are set, a key is no longer pending. It shows the fields of the type that was
asked for, and no other key is touched. -/
theorem Filed.setFields {table : TypeTable} {key : TypeKey}
    (filed : table.Filed asked (key :: pending)) {type : DataType} (asks : asked ⟨type, true⟩)
    (record : type.isRecord = true) (found : table.keyOf? type.canonicalName = some key)
    (marked : key ∈ table.captured)
    (covers : ∀ field ∈ type.fields, table.Covers ⟨field.type, true⟩) :
    (table.setFields key (type.fields.map fun field =>
      ⟨field.name, table.keyFor field.type⟩)).Filed asked pending where
  toTracked := by
    have known : (∀ field ∈ type.fields, table.Knows field.type) ∧
        (type.fields.map fun field => FieldEntry.mk field.name (table.keyFor field.type)) =
          type.fields.map fun field => ⟨field.name, table.keyFor field.type⟩ :=
      ⟨fun field member => (covers field member).self.knows, rfl⟩
    exact tracked_setFields filed.toTracked marked (hasKey_of_known _ table known)
  named := by
    intro entry member
    obtain ⟨old, oldMember, rfl⟩ := mem_setFields.mp member
    split
    · exact filed.named old oldMember
    · exact filed.named old oldMember
  bare := by
    intro entry member plain
    obtain ⟨old, oldMember, rfl⟩ := mem_setFields.mp member
    by_cases same : old.key = key
    · rw [if_pos same] at plain
      cases plain
    · rw [if_neg same] at plain ⊢
      exact filed.bare old oldMember plain
  shown := by
    intro other member
    by_cases same : other = key
    · subst same
      exact .inr ⟨⟨type, true⟩, asks, ⟨rfl, record⟩, shows_setFields_self found covers⟩
    · refine (filed.shown other member).imp (fun listed => ?_) ?_
      · exact (List.mem_cons.mp listed).resolve_left same
      · rintro ⟨request, asks, captures, shows⟩
        exact ⟨request, asks, captures, shows.setFields same _⟩

/-- An entry that is there after a type is entered was there before, or it is new for the name of the
type. -/
theorem mem_entries_of_enter {table final : TypeTable} {type : DataType} {key : TypeKey}
    (ran : (enter type).run table = (.ok key, final)) {entry : TypeEntry}
    (member : entry ∈ final.entries) :
    entry ∈ table.entries ∨ entry = .plain key type.canonicalName := by
  obtain ⟨_, rfl⟩ | ⟨_, _, drawn, rfl⟩ := enter_eq_ok ran
  · exact .inl member
  · exact (List.mem_append.mp member).imp_right List.mem_singleton.mp

/-- Entering a type that is asked for keeps a table filed, and yields the key of the type's name. -/
theorem filed_enter {type : DataType} {structural : Bool} (asks : asked ⟨type, structural⟩) :
    Adds (Filed asked pending) (enter type) fun key later =>
      later.keyOf? type.canonicalName = some key := by
  refine ⟨fun {table key final} filed ran => ?_⟩
  obtain ⟨tracked, grows, fits⟩ := (adds_enter lasts_tracked type).keeps filed.toTracked ran
  refine ⟨⟨tracked, fun entry member => ?_, fun entry member plain => ?_, fun other member => ?_⟩,
    grows, fits⟩
  · rcases mem_entries_of_enter ran member with earlier | rfl
    · exact filed.named entry earlier
    · exact ⟨_, asks, rfl⟩
  · rcases mem_entries_of_enter ran member with earlier | rfl
    · exact filed.bare entry earlier plain
    · rfl
  · rw [capturesNothing_enter type ran] at member
    refine (filed.shown other member).imp_right ?_
    rintro ⟨request, requested, captures, shows⟩
    exact ⟨request, requested, captures, shows.grows grows⟩

/-- The fields of a type that has a key are captured, now if they have not been before. -/
theorem filed_capture {type : DataType} (asks : asked ⟨type, true⟩) (record : type.isRecord = true)
    {key : TypeKey} {work : TableM (List FieldEntry)}
    (each : Adds (Filed asked (key :: pending)) work fun entries later =>
      (∀ field ∈ type.fields, later.Covers ⟨field.type, true⟩) ∧
        entries = type.fields.map fun field => ⟨field.name, later.keyFor field.type⟩)
    {table final : TypeTable} (filed : table.Filed asked pending)
    (found : table.keyOf? type.canonicalName = some key)
    (ran : (capture key work).run table = (.ok (), final)) :
    final.Filed asked pending ∧ table.Grows final ∧ key ∈ final.captured := by
  obtain ⟨marked, rfl⟩ | ⟨uncaptured, entries, middle, workRan, rfl⟩ := capture_eq_ok ran
  · exact ⟨filed, Grows.refl _, marked⟩
  · obtain ⟨middleFiled, grows, fits⟩ := each.keeps (filed.markCaptured key) workRan
    obtain ⟨covers, rfl⟩ := fits (Grows.refl _)
    have marked : key ∈ middle.captured := grows.captured (.head _)
    exact ⟨middleFiled.setFields asks record (grows.keyOf? found) marked covers,
      grows_setFields filed.toTracked uncaptured grows, marked⟩

/-! ### Packing what is asked for -/

/-- What a request leads to is asked for as well. -/
def Hereditary (asked : Request → Prop) : Prop :=
  ∀ {request other : Request}, asked request →
    other ∈ request.arguments ∨ other ∈ request.fields → asked other

mutual

/-- Packing a type that is asked for covers the request. -/
theorem filed_pack (closed : Hereditary asked) (structural : Bool) :
    ∀ (type : DataType) {pending : List TypeKey},
    asked ⟨type, structural⟩ → Adds (Filed asked pending) (pack structural type) fun key later =>
      later.keyOf? type.canonicalName = some key ∧ later.Covers ⟨type, structural⟩
  | .array element, pending, asks => by
    unfold pack
    refine adds_bind (filed_enter asks) fun key => ?_
    split
    · rename_i moves
      have inner : asked ⟨element, structural⟩ :=
        closed asks (.inl (Request.mem_arguments.mpr ⟨.head _, moves, rfl⟩))
      refine adds_bind (filed_pack closed structural element inner) fun _ =>
        adds_pure _ fun later packed found => ⟨found, covers_of_found found nofun ?_⟩
      exact fun argument member _ => List.mem_singleton.mp member ▸ packed.2
    · rename_i stays
      refine adds_pure _ fun later found => ⟨found, covers_of_found found nofun ?_⟩
      exact fun argument member moves => absurd (List.mem_singleton.mp member ▸ moves) stays
  | .generic name family arguments, pending, asks => by
    have inner : ∀ argument ∈ arguments, travels argument = true → asked ⟨argument, structural⟩ :=
      fun argument member moves =>
        closed asks (.inl (Request.mem_arguments.mpr ⟨member, moves, rfl⟩))
    refine ⟨fun {table key final} filed ran => ?_⟩
    unfold pack at ran
    obtain ⟨entered, first, enterRan, nextRan⟩ := run_bind_ok ran
    obtain ⟨_, middle, argumentsRan, lastRan⟩ := run_bind_ok nextRan
    obtain ⟨firstFiled, firstGrows, found⟩ := (filed_enter asks).keeps filed enterRan
    obtain ⟨middleFiled, middleGrows, each⟩ :=
      (filed_packArguments closed structural arguments inner).keeps firstFiled argumentsRan
    dsimp only at lastRan
    split at lastRan
    · rename_i captures
      obtain ⟨rfl, rfl⟩ : structural = true ∧ family = .record := by simpa using captures
      obtain ⟨_, last, captureRan, yields⟩ := run_bind_ok lastRan
      cases yields
      obtain ⟨finalFiled, finalGrows, marked⟩ := filed_capture asks rfl
        (adds_pure [] fun _ => ⟨fun _ member => (nomatch member), rfl⟩) middleFiled
        (found middleGrows) captureRan
      have grows := middleGrows.trans finalGrows
      exact ⟨finalFiled, firstGrows.trans grows, fun later => ⟨found (grows.trans later),
        covers_of_found (found (grows.trans later)) (fun _ => later.captured marked)
          (each (finalGrows.trans later))⟩⟩
    · rename_i plain
      cases lastRan
      refine ⟨middleFiled, firstGrows.trans middleGrows, fun later =>
        ⟨found (middleGrows.trans later), covers_of_found (found (middleGrows.trans later))
          (fun captures => ?_) (each later)⟩⟩
      obtain ⟨asksFields, record⟩ := captures
      cases family with
      | record => exact absurd (Bool.and_eq_true_iff.mpr ⟨asksFields, rfl⟩) plain
      | _ => cases record
  | .record name fields captured, pending, asks => by
    have none : ∀ {later : TypeTable}, ∀ argument ∈ (record name fields captured).arguments,
        travels argument = true → later.Covers ⟨argument, structural⟩ :=
      fun _ member => nomatch member
    refine ⟨fun {table key final} filed ran => ?_⟩
    unfold pack at ran
    obtain ⟨entered, first, enterRan, lastRan⟩ := run_bind_ok ran
    obtain ⟨firstFiled, firstGrows, found⟩ := (filed_enter asks).keeps filed enterRan
    dsimp only at lastRan
    split at lastRan
    · rename_i structural
      subst structural
      obtain ⟨_, last, captureRan, yields⟩ := run_bind_ok lastRan
      cases yields
      have inner : ∀ field ∈ (record name fields captured).fields, asked ⟨field.type, true⟩ :=
        fun field member => closed asks (.inr (Request.mem_fields_of_field member))
      obtain ⟨finalFiled, finalGrows, marked⟩ := filed_capture asks rfl
        (filed_packFields closed fields inner) firstFiled (found (Grows.refl _)) captureRan
      exact ⟨finalFiled, firstGrows.trans finalGrows, fun later =>
        ⟨found (finalGrows.trans later), covers_of_found (found (finalGrows.trans later))
          (fun _ => later.captured marked) none⟩⟩
    · rename_i plain
      cases lastRan
      exact ⟨firstFiled, firstGrows, fun later => ⟨found later, covers_of_found (found later)
        (fun captures => absurd captures.1 plain) none⟩⟩
  | .primitive kind, pending, asks => by
    unfold pack
    exact (filed_enter asks).weaken fun _ _ found => ⟨found, covers_of_plain found rfl rfl⟩
  | .object, pending, asks => by
    unfold pack
    exact (filed_enter asks).weaken fun _ _ found => ⟨found, covers_of_plain found rfl rfl⟩
  | .holder name, pending, asks => by
    unfold pack
    exact (filed_enter asks).weaken fun _ _ found => ⟨found, covers_of_plain found rfl rfl⟩
  | .parameter owner position, pending, asks => by
    unfold pack
    exact (filed_enter asks).weaken fun _ _ found => ⟨found, covers_of_plain found rfl rfl⟩

theorem filed_packArguments (closed : Hereditary asked) (structural : Bool) :
    ∀ (types : List DataType) {pending : List TypeKey},
    (∀ type ∈ types, travels type = true → asked ⟨type, structural⟩) →
    Adds (Filed asked pending) (packArguments structural types) fun _ later =>
      ∀ type ∈ types, travels type = true → later.Covers ⟨type, structural⟩
  | [], pending, _ => by
    unfold packArguments
    exact adds_pure _ fun _ _ member => nomatch member
  | type :: rest, pending, asks => by
    rw [List.forall_mem_cons] at asks
    unfold packArguments
    split
    · rename_i moves
      refine adds_bind (filed_pack closed structural type (asks.1 moves)) fun _ => ?_
      refine (filed_packArguments closed structural rest asks.2).weaken fun _ later each packed => ?_
      exact List.forall_mem_cons.mpr ⟨fun _ => packed.2, each⟩
    · rename_i stays
      refine (filed_packArguments closed structural rest asks.2).weaken fun _ later each => ?_
      exact List.forall_mem_cons.mpr ⟨fun moves => absurd moves stays, each⟩

theorem filed_packFields (closed : Hereditary asked) :
    ∀ (fields : List (Field DataType)) {pending : List TypeKey},
    (∀ field ∈ fields, asked ⟨field.type, true⟩) →
    Adds (Filed asked pending) (packFields fields) fun entries later =>
      (∀ field ∈ fields, later.Covers ⟨field.type, true⟩) ∧
        entries = fields.map fun field => ⟨field.name, later.keyFor field.type⟩
  | [], pending, _ => by
    unfold packFields
    exact adds_pure _ fun _ => ⟨fun _ member => (nomatch member), rfl⟩
  | ⟨name, type, isPublic⟩ :: rest, pending, asks => by
    rw [List.forall_mem_cons] at asks
    unfold packFields
    refine adds_bind (filed_pack closed true type asks.1) fun key => ?_
    refine adds_bind (filed_packFields closed rest asks.2) fun tail => adds_pure _ ?_
    rintro later ⟨each, rfl⟩ ⟨found, covers⟩
    refine ⟨List.forall_mem_cons.mpr ⟨covers, each⟩, ?_⟩
    rw [List.map_cons, keyFor_eq found]

end

/-! ### Sequences of requests -/

/-- The keys of the types of several requests, packed one after the other. -/
def packEach (requests : List Request) : TableM (List TypeKey) :=
  requests.mapM Request.pack

/-- Packing covers every request, and yields for each the key of the name of its type. -/
theorem filed_packEach (closed : Hereditary asked) {requests : List Request}
    (asks : ∀ request ∈ requests, asked request) :
    Adds (Filed asked pending) (packEach requests) fun keys later =>
      List.Forall₂ (fun request key =>
        later.keyOf? request.type.canonicalName = some key ∧ later.Covers request)
        requests keys := by
  unfold packEach
  induction requests with
  | nil => exact adds_pure _ fun _ => .nil
  | cons request rest inductionHypothesis =>
    rw [List.forall_mem_cons] at asks
    rw [List.mapM_cons]
    refine adds_bind (filed_pack closed _ _ asks.1) fun key => ?_
    refine adds_bind (inductionHypothesis asks.2) fun keys => adds_pure _ ?_
    exact fun later each packed => .cons packed each

theorem packEach_collides (requests : List Request) : OnlyCollides (packEach requests) :=
  (promises_mapM fun request _ => pack_collides request.structural request.type).weaken
    (fun _ _ => trivial) fun _ => id

end Filing

/-! ### What is asked for -/

/-- The requests that a sequence of requests leads to. -/
def Asked (requests : List Request) (other : Request) : Prop :=
  ∃ request ∈ requests, request.LeadsTo other

/-- What a sequence of requests leads to leads to nothing more. -/
theorem hereditary_asked (requests : List Request) : Hereditary (Asked requests) :=
  fun ⟨request, member, leads⟩ step => ⟨request, member, leads.tail step⟩

/-- A type occurs in the type of a request. -/
def Mentions (requests : List Request) (type : DataType) : Prop :=
  ∃ request ∈ requests, type ∈ request.type.parts

/-- Types of which no two go by the same name. -/
def Coherent (world : DataType → Prop) : Prop :=
  ∀ {first second : DataType}, world first → world second →
    first.canonicalName = second.canonicalName → first = second

/-- The requests ask for no other type of the same name. -/
def Unmistakable (asked : Request → Prop) (type : DataType) : Prop :=
  ∀ request, asked request → request.type.canonicalName = type.canonicalName → request.type = type

/-- A key stands for one name, so what it shows is of the type that it was found for. -/
theorem Shows.canonicalName_eq {table : TypeTable} (sound : table.Sound) {type other : DataType}
    (knows : table.Knows type) (shows : table.Shows (table.keyFor type) other) :
    other.canonicalName = type.canonicalName := by
  obtain ⟨entry, member, same, named⟩ := exists_entry_of_keyOf? (keyOf?_of_knows knows)
  rw [← named, eq_of_nodup_map sound.keys member shows.entry same]

section Finished

variable {asked : Request → Prop} {table : TypeTable}

/-- A table that no key is pending in shows the fields of the types for which they are asked. -/
theorem Filed.shows (filed : table.Filed asked []) {request : Request} (notes : table.Notes request)
    (captures : request.Captures) : ∃ other, asked other ∧ other.Captures ∧
      other.type.canonicalName = request.type.canonicalName ∧
      table.Shows (table.keyFor request.type) other.type := by
  obtain ⟨other, asks, capturesOther, shows⟩ :=
    (filed.shown _ (notes.captured captures)).resolve_left List.not_mem_nil
  exact ⟨other, asks, capturesOther, shows.canonicalName_eq filed.toSound notes.knows, shows⟩

/-- If names are unmistakable, all that a covered request leads to is covered. -/
theorem Covers.leads (filed : table.Filed asked []) {request other : Request}
    (clear : ∀ part ∈ request.type.parts, Unmistakable asked part) (covers : table.Covers request)
    (leads : request.LeadsTo other) : table.Covers other := by
  induction leads with
  | refl => exact covers
  | @tail middle last earlier step inductionHypothesis =>
    rcases step with argument | inField
    · exact inductionHypothesis.brings (.single argument)
    · obtain ⟨structural, field, member, rfl⟩ := Request.mem_fields inField
      obtain ⟨rival, asks, _, sameName, shows⟩ :=
        filed.shows inductionHypothesis.self ⟨structural, isRecord_of_field member⟩
      rw [clear _ (Request.LeadsTo.mem_parts earlier) rival asks sameName] at shows
      exact shows.covers field member

end Finished

/-! ### Tables without keys -/

/-- What an entry says when keys are replaced by the names that they stand for. -/
structure Row where
  name : String
  structural : Bool
  fields : List (String × String)
deriving DecidableEq

/-- The row of an entry. -/
def row (table : TypeTable) (entry : TypeEntry) : Row :=
  ⟨entry.name, entry.structural, entry.fields.map fun field => (field.name, table.nameOf field.key)⟩

/-- The rows of a table, in the order of its entries. -/
def rows (table : TypeTable) : List Row :=
  table.entries.map table.row

/-- The rows that requests ask for: one for each type, with the names of its fields and of their
types if it is to be captured. -/
inductive Due (asked : Request → Prop) : Row → Prop
  | captured {type : DataType} (asks : asked ⟨type, true⟩) (record : type.isRecord = true) :
    Due asked ⟨type.canonicalName, true,
      type.fields.map fun field => (field.name, field.type.canonicalName)⟩
  | plain {type : DataType} {structural : Bool} (asks : asked ⟨type, structural⟩)
    (never : ¬(asked ⟨type, true⟩ ∧ type.isRecord = true)) :
    Due asked ⟨type.canonicalName, false, []⟩

theorem nodup_rows {table : TypeTable} (sound : table.Sound) : table.rows.Nodup := by
  refine List.Nodup.of_map Row.name ?_
  rw [rows, List.map_map]
  exact sound.names

/-- The row of an entry that shows the fields of a type: the names of the fields, with the names of
their types in place of their keys. -/
theorem row_of_shows {table : TypeTable} (sound : table.Sound) {key : TypeKey} {type : DataType}
    (shows : table.Shows key type) :
    table.row ⟨key, type.canonicalName, true,
        type.fields.map fun field => ⟨field.name, table.keyFor field.type⟩⟩ =
      ⟨type.canonicalName, true,
        type.fields.map fun field => (field.name, field.type.canonicalName)⟩ := by
  rw [row, List.map_map]
  refine congrArg (Row.mk _ _) (List.map_congr_left fun field member => ?_)
  rw [Function.comp_apply, nameOf_keyFor sound (shows.covers field member).self.knows]

section Finished

variable {asked : Request → Prop} {table : TypeTable}
  (filed : table.Filed asked []) (covers : ∀ {request}, asked request → table.Covers request)
  (clear : ∀ {request}, asked request → Unmistakable asked request.type)

include filed

/-- A structural entry shows the fields of a type for which they are asked. -/
theorem exists_shows_of_structural {entry : TypeEntry} (member : entry ∈ table.entries)
    (structural : entry.structural = true) : ∃ request, asked request ∧ request.Captures ∧
      entry = ⟨entry.key, request.type.canonicalName, true, request.type.fields.map fun field =>
        ⟨field.name, table.keyFor field.type⟩⟩ ∧ table.Shows entry.key request.type := by
  obtain ⟨request, asks, captures, shows⟩ :=
    (filed.shown _ (filed.structural entry member structural)).resolve_left List.not_mem_nil
  exact ⟨request, asks, captures, eq_of_nodup_map filed.keys member shows.entry rfl, shows⟩

include covers

/-- Every row is due: an entry is there for a request, and it shows what the request asks for. -/
theorem due_of_mem_rows {row : Row} (member : row ∈ table.rows) : Due asked row := by
  obtain ⟨entry, entryMember, rfl⟩ := List.mem_map.mp member
  cases flag : entry.structural with
  | true =>
    obtain ⟨⟨type, structural⟩, asks, ⟨rfl, record⟩, same, shows⟩ :=
      exists_shows_of_structural filed entryMember flag
    rw [same, row_of_shows filed.toSound shows]
    exact .captured asks record
  | false =>
    obtain ⟨⟨type, structural⟩, asks, named⟩ := filed.named entry entryMember
    rw [TypeTable.row, named, flag, filed.bare entry entryMember flag, List.map_nil]
    refine .plain asks fun ⟨asksFields, isRecord⟩ => ?_
    -- The type would have a structural entry, and its name has one entry only.
    obtain ⟨other, _, _, sameName, shows⟩ := filed.shows (covers asksFields).self ⟨rfl, isRecord⟩
    have one := eq_of_nodup_map filed.names entryMember shows.entry (named.trans sameName.symm)
    rw [one] at flag
    cases flag

include clear

/-- Whatever is due has a row, since what the requests lead to is covered. -/
theorem mem_rows_of_due {row : Row} (due : Due asked row) : row ∈ table.rows := by
  cases due with
  | captured asks record =>
    obtain ⟨rival, rivalAsks, _, sameName, shows⟩ :=
      filed.shows (covers asks).self ⟨rfl, record⟩
    rw [clear asks rival rivalAsks sameName] at shows
    exact List.mem_map.mpr ⟨_, shows.entry, row_of_shows filed.toSound shows⟩
  | @plain type structural asks never =>
    obtain ⟨entry, member, _, named⟩ :=
      exists_entry_of_keyOf? (keyOf?_of_knows (covers asks).self.knows)
    have flag : entry.structural = false := by
      refine Bool.eq_false_iff.mpr fun flag => ?_
      obtain ⟨⟨rival, flag⟩, rivalAsks, ⟨rfl, record⟩, same, _⟩ :=
        exists_shows_of_structural filed member flag
      cases clear asks _ rivalAsks (by rw [← named, same])
      exact never ⟨rivalAsks, record⟩
    refine List.mem_map.mpr ⟨entry, member, ?_⟩
    rw [TypeTable.row, named, flag, filed.bare entry member flag, List.map_nil]

end Finished

/-! ### Runs -/

/-- After requests of types with unmistakable names, the rows of the table are those that are due. -/
theorem mem_rows_iff {requests : List Request} {catalog : Catalog} {source : Nat → UInt32}
    {keys : List TypeKey} {table : TypeTable}
    (coherent : Coherent (Mentions requests))
    (ran : (packEach requests).run (empty catalog source) = (.ok keys, table)) {row : Row} :
    row ∈ table.rows ↔ Due (Asked requests) row := by
  obtain ⟨filed, _, fits⟩ := (filed_packEach (hereditary_asked requests)
    fun request member => ⟨request, member, .refl⟩).keeps (filed_empty catalog source) ran
  have clear : ∀ {type : DataType}, Mentions requests type →
      Unmistakable (Asked requests) type := by
    rintro type mentioned other ⟨request, member, leads⟩ sameName
    exact coherent ⟨request, member, leads.mem_parts⟩ mentioned sameName
  have covers : ∀ {other : Request}, Asked requests other → table.Covers other := by
    rintro other ⟨request, member, leads⟩
    obtain ⟨lengths, each⟩ := List.forall₂_iff_zip.mp (fits (Grows.refl _))
    obtain ⟨key, zipped⟩ := exists_mem_zip lengths member
    exact (each zipped).2.leads filed (fun part within => clear ⟨request, member, within⟩) leads
  exact ⟨due_of_mem_rows filed covers, mem_rows_of_due filed covers
    fun ⟨request, member, leads⟩ => clear ⟨request, member, leads.mem_parts⟩⟩

/-- Two sequences of the same requests, made of fresh tables, come to tables that agree but for keys
and for the order of entries, and in each of them a type gets one key. Within a sequence this is so
even if several types go by one name; for the two tables to agree, names have to tell apart the
types that the requests mention. Neither sender may give up the search for a fresh key. -/
theorem packEach_agrees {requests others : List Request}
    (same : ∀ request, request ∈ requests ↔ request ∈ others) {catalog otherCatalog : Catalog}
    {source otherSource : Nat → UInt32}
    (suffice : KeysSuffice (packEach requests) (empty catalog source))
    (othersSuffice : KeysSuffice (packEach others) (empty otherCatalog otherSource)) :
    ∃ keys table otherKeys otherTable,
      (packEach requests).run (empty catalog source) = (.ok keys, table) ∧
      (packEach others).run (empty otherCatalog otherSource) = (.ok otherKeys, otherTable) ∧
      requests.length = keys.length ∧
      (∀ first ∈ requests.zip keys, ∀ second ∈ requests.zip keys,
        first.1.type.canonicalName = second.1.type.canonicalName → first.2 = second.2) ∧
      (Coherent (Mentions requests) →
        table.rows.Perm otherTable.rows) := by
  obtain ⟨keys, table, ran⟩ := (packEach_collides requests).succeeds suffice
  obtain ⟨otherKeys, otherTable, otherRan⟩ := (packEach_collides others).succeeds othersSuffice
  obtain ⟨filed, _, fits⟩ := (filed_packEach (hereditary_asked requests)
    fun request member => ⟨request, member, .refl⟩).keeps (filed_empty catalog source) ran
  obtain ⟨otherFiled, _, _⟩ := (filed_packEach (hereditary_asked others)
    fun request member => ⟨request, member, .refl⟩).keeps (filed_empty otherCatalog otherSource)
      otherRan
  obtain ⟨lengths, each⟩ := List.forall₂_iff_zip.mp (fits (Grows.refl _))
  refine ⟨keys, table, otherKeys, otherTable, ran, otherRan, lengths, ?_, fun coherent => ?_⟩
  · intro first firstMember second secondMember sameName
    have firstFound := (each firstMember).1
    rw [sameName] at firstFound
    exact Option.some.inj (firstFound.symm.trans (each secondMember).1)
  · have sameMentioned : Mentions requests = Mentions others := by
      funext type
      simp only [Mentions, same]
    have sameAsked : Asked requests = Asked others := by
      funext other
      simp only [Asked, same]
    refine (List.perm_ext_iff_of_nodup (nodup_rows filed.toSound)
      (nodup_rows otherFiled.toSound)).mpr fun row => ?_
    rw [mem_rows_iff coherent ran, mem_rows_iff (sameMentioned ▸ coherent) otherRan, sameAsked]

/-- A line of an order: a record that a table may see by name before its fields are asked for. -/
def orderLine : DataType :=
  .record "acme.Line" [⟨"Sku", .string, true⟩, ⟨"Quantity", .int32, false⟩] false

/-- An order: a record with an array of records. -/
def order : DataType :=
  .record "acme.Order" [⟨"Id", .int32, true⟩, ⟨"Lines", .array orderLine, true⟩] false

/-- Lines by name before an order with its fields. -/
def linesFirst : List Request :=
  [⟨.array orderLine, false⟩, ⟨order, true⟩, ⟨orderLine, false⟩]

/-- The same requests the other way round, with a repetition. -/
def orderFirst : List Request :=
  [⟨order, true⟩, ⟨orderLine, false⟩, ⟨.array orderLine, false⟩, ⟨order, true⟩]

theorem coherent_linesFirst : Coherent (Mentions linesFirst) := by
  let types : List DataType := [.string, .int32, orderLine, .array orderLine, order]
  have nodup : (types.map canonicalName).Nodup := by decide +kernel
  have listed : ∀ request ∈ linesFirst, request.type.parts ⊆ types := by
    simp [linesFirst, order, orderLine, DataType.parts, partsFields, types]
  rintro first second ⟨request, member, within⟩ ⟨other, otherMember, otherWithin⟩ sameName
  exact eq_of_nodup_map nodup (listed request member within) (listed other otherMember otherWithin)
    sameName

theorem packEach_agrees_orders : ∃ keys table otherKeys otherTable,
    (packEach linesFirst).run (empty Catalog.standard UInt32.ofNat) = (.ok keys, table) ∧
    (packEach orderFirst).run (empty Catalog.empty fun drawn => UInt32.ofNat (drawn / 2)) =
      (.ok otherKeys, otherTable) ∧
    table.rows.Perm otherTable.rows := by
  have suffice : KeysSuffice (packEach linesFirst) (empty Catalog.standard UInt32.ofNat) := by
    decide +kernel
  have othersSuffice : KeysSuffice (packEach orderFirst)
      (empty Catalog.empty fun drawn => UInt32.ofNat (drawn / 2)) := by
    decide +kernel
  have same : ∀ request, request ∈ linesFirst ↔ request ∈ orderFirst := by
    simp only [linesFirst, orderFirst, List.mem_cons, List.not_mem_nil]
    grind
  obtain ⟨keys, table, otherKeys, otherTable, ran, otherRan, _, _, agree⟩ :=
    packEach_agrees same suffice othersSuffice
  exact ⟨keys, table, otherKeys, otherTable, ran, otherRan, agree coherent_linesFirst⟩

end TypeTable

end PredicateWire
