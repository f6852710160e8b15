/-
This file proves that what a type table has found for a key goes by the name of the key,
over a canonical catalog. Packing types without parameters, loading entries and
searching keep the labels of a table, that is its keys with their names, and everything
noted goes by the label of its key. Packing captures no key without making its entry
structural.

Labels are kept in front of those that are added. This is more than that none of them is
lost: the first entry of a name is the one that is found, and it stays the first. While
the fields of a record are being packed, its key is captured and has no fields yet, and
so `Settled` allows for keys that are pending; when packing succeeds none is.
-/
import PredicateWire.Proofs.Catalog.Canonical
import PredicateWire.Proofs.Table.Search
import PredicateWire.Proofs.Table.Supply
import PredicateWire.Proofs.Types.NameGrammar

namespace PredicateWire

/-- The type has a canonical name and is not a parameter that others may be filled in for. -/
def DataType.GoesBy (name : String) (type : DataType) : Prop :=
  type.canonicalName = name ∧ type.isTypeParameter = false

/-- A type that is no parameter at all is no parameter of a type. -/
theorem DataType.isTypeParameter_of_bound {type : DataType} (bound : type.isParameter = false) :
    type.isTypeParameter = false := by
  cases type with
  | parameter => cases bound
  | _ => rfl

namespace TypeTable

/-! ### Labels -/

/-- The keys of a table with their names, in the order of the entries. -/
def labels (table : TypeTable) : List (TypeKey × String) :=
  table.entries.map fun entry => (entry.key, entry.name)

theorem label_of_mem {table : TypeTable} {entry : TypeEntry} (member : entry ∈ table.entries) :
    (entry.key, entry.name) ∈ table.labels :=
  List.mem_map_of_mem member

/-- A type goes by the label of a key. -/
def Labelled (table : TypeTable) (key : TypeKey) (type : DataType) : Prop :=
  ∃ name, (key, name) ∈ table.labels ∧ type.GoesBy name

/-- Where keys are different, a key has one label. -/
theorem label_unique {table : TypeTable} (keys : (table.entries.map TypeEntry.key).Nodup)
    {key : TypeKey} {name other : String} (first : (key, name) ∈ table.labels)
    (second : (key, other) ∈ table.labels) : name = other := by
  obtain ⟨entry, member, same⟩ := List.mem_map.mp first
  obtain ⟨entryAgain, memberAgain, sameAgain⟩ := List.mem_map.mp second
  cases same
  cases eq_of_nodup_map keys memberAgain member (congrArg Prod.fst sameAgain)
  exact congrArg Prod.snd sameAgain

/-- A search in a table over a canonical catalog finds types by their names. -/
theorem names_of_canonical {table : TypeTable} (canonical : table.catalog.Canonical)
    (keys : (table.entries.map TypeEntry.key).Nodup) :
    table.Names (fun name type => type.GoesBy name) table.Labelled where
  known := fun found =>
    ⟨(canonical found).named, DataType.isTypeParameter_of_bound (canonical found).bound⟩
  array := fun parsed goesBy => by
    refine ⟨?_, rfl⟩
    rw [TypeName.array_of_parse parsed, DataType.canonicalName, goesBy.1]
  instantiated := fun {name base arguments definition types type} parsed found each instantiated => by
    have named := (TypeName.generic_of_parse parsed).2
    obtain ⟨present, family, rfl⟩ := canonical.generic_of_instantiate found instantiated
    have spelled : types.map DataType.canonicalName = arguments := by
      have paired := each.imp fun _ _ goesBy => goesBy.1
      rw [← List.forall₂_eq_eq_eq, List.forall₂_map_left_iff]
      exact paired.flip
    refine ⟨?_, rfl⟩
    rw [DataType.canonicalName_instance present, spelled, named]
    exact forall_mem_of_forall₂ (each.imp fun _ _ goesBy => goesBy.2)
  captured := fun _ => ⟨rfl, rfl⟩
  filed := fun present goesBy => by
    have tested := List.find?_some present
    have label := label_of_mem (List.mem_of_find?_eq_some present)
    rw [eq_of_beq tested] at label
    exact ⟨_, label, goesBy⟩
  entered := by
    rintro name key type found ⟨other, label, goesBy⟩
    obtain ⟨entry, member, rfl, rfl⟩ := exists_entry_of_keyOf? found
    rw [label_unique keys (label_of_mem member) label]
    exact goesBy

/-! ### Settled tables -/

/-- Everything noted goes by the label of its key, and the captured keys have structural entries,
except for some whose fields are being packed. -/
structure Settled (pending : List TypeKey) (table : TypeTable) : Prop where
  noted : ∀ noted ∈ table.resolved, table.Labelled noted.1 noted.2
  captured : ∀ key ∈ table.captured, key ∈ pending ∨
    ∃ entry ∈ table.entries, entry.key = key ∧ entry.structural = true

/-- Work keeps a table settled and its catalog, and keeps its labels in front of those it adds. -/
structure Keeps (pending : List TypeKey) (before after : TypeTable) : Prop where
  settled : after.Settled pending
  catalog : after.catalog = before.catalog
  labels : before.labels <+: after.labels

theorem Keeps.refl {pending : List TypeKey} {table : TypeTable} (settled : table.Settled pending) :
    Keeps pending table table :=
  ⟨settled, rfl, List.prefix_rfl⟩

/-- What is kept by two steps is kept by both together. -/
theorem Keeps.trans {pending : List TypeKey} {before middle after : TypeTable}
    (first : Keeps pending before middle) (second : Keeps pending middle after) :
    Keeps pending before after :=
  ⟨second.settled, second.catalog.trans first.catalog, first.labels.trans second.labels⟩

section

open Running

variable {pending : List TypeKey} {table : TypeTable}

theorem settled_empty (catalog : Catalog) (source : Nat → UInt32) :
    (empty catalog source).Settled [] :=
  ⟨fun _ absent => (by cases absent), fun _ absent => (by cases absent)⟩

/-- A settled table stays settled when entries are added, as long as everything that is noted
afterwards was noted before or goes by a label. -/
theorem Settled.keeps_append (settled : table.Settled pending) {changed : TypeTable}
    {entries : List TypeEntry} (catalog : changed.catalog = table.catalog)
    (added : changed.entries = table.entries ++ entries)
    (noted : ∀ noted ∈ changed.resolved, noted ∈ table.resolved ∨
      changed.Labelled noted.1 noted.2)
    (captured : changed.captured = table.captured) : Keeps pending table changed := by
  have labels : table.labels <+: changed.labels := by
    rw [labels, labels, added, List.map_append]
    exact List.prefix_append _ _
  refine ⟨⟨fun found member => ?_, fun key member => ?_⟩, catalog, labels⟩
  · rcases noted found member with earlier | labelled
    · obtain ⟨name, label, goesBy⟩ := settled.noted found earlier
      exact ⟨name, labels.subset label, goesBy⟩
    · exact labelled
  · rw [captured] at member
    refine (settled.captured key member).imp id fun ⟨entry, held, same, structural⟩ => ?_
    exact ⟨entry, by rw [added]; exact List.mem_append_left _ held, same, structural⟩

/-- Entering a type keeps a table settled, and its key has a label then. -/
theorem keeps_enter {type : DataType} {key : TypeKey} {final : TypeTable}
    (bound : type.isTypeParameter = false) (settled : table.Settled pending)
    (ran : (enter type).run table = (.ok key, final)) :
    Keeps pending table final ∧ ∃ name, (key, name) ∈ final.labels := by
  obtain ⟨found, rfl⟩ | ⟨_, _, drawn, rfl⟩ := enter_eq_ok ran
  · obtain ⟨entry, member, rfl, _⟩ := exists_entry_of_keyOf? found
    exact ⟨.refl settled, _, label_of_mem member⟩
  · have held : TypeEntry.plain key type.canonicalName ∈
        (table.push (.plain key type.canonicalName)).entries :=
      List.mem_append_right _ (.head _)
    have label : (key, type.canonicalName) ∈ (table.push (.plain key type.canonicalName)).labels :=
      label_of_mem held
    refine ⟨settled.keeps_append rfl rfl (fun noted member => ?_) rfl, _, label⟩
    rcases List.mem_cons.mp member with rfl | earlier
    · exact .inr ⟨_, label, rfl, bound⟩
    · exact .inl earlier

/-- A marked key is pending until its fields are set. -/
theorem Settled.markCaptured (settled : table.Settled pending) (key : TypeKey) :
    (table.markCaptured key).Settled (key :: pending) := by
  refine ⟨settled.noted, fun other member => ?_⟩
  rcases List.mem_cons.mp member with rfl | earlier
  · exact .inl (.head _)
  · exact (settled.captured other earlier).imp (List.mem_cons_of_mem key) id

/-- Captured fields make the entry of their key structural, so they are awaited no longer. -/
theorem Settled.setFields {key : TypeKey} {name : String} (settled : table.Settled (key :: pending))
    (label : (key, name) ∈ table.labels) (fields : List FieldEntry) :
    (table.setFields key fields).Settled pending := by
  have labels : (table.setFields key fields).labels = table.labels := map_setFields _ fun _ => rfl
  refine ⟨fun noted member => ?_, fun other member => ?_⟩
  · obtain ⟨called, named, goesBy⟩ := settled.noted noted member
    exact ⟨called, labels ▸ named, goesBy⟩
  · have changed : ∀ old ∈ table.entries, old.key = other →
        (old.key = key ∨ old.structural = true) →
        ∃ entry ∈ (table.setFields key fields).entries,
          entry.key = other ∧ entry.structural = true := by
      rintro old held rfl reason
      refine ⟨_, mem_setFields.mpr ⟨old, held, rfl⟩, ?_⟩
      by_cases same : old.key = key
      · rw [if_pos same]
        exact ⟨rfl, rfl⟩
      · rw [if_neg same]
        exact ⟨rfl, reason.resolve_left same⟩
    rcases settled.captured other member with waits | ⟨old, held, same, structural⟩
    · rcases List.mem_cons.mp waits with rfl | earlier
      · obtain ⟨old, held, same⟩ := List.mem_map.mp label
        have keyed : old.key = other := congrArg Prod.fst same
        exact .inr (changed old held keyed (.inl keyed))
      · exact .inl earlier
    · exact .inr (changed old held same (.inr structural))

/-- Capturing the fields of a key makes its entry structural, if they can be packed. -/
theorem keeps_capture {key : TypeKey} {name : String} {fields : TableM (List FieldEntry)}
    {final : TypeTable}
    (keeps : ∀ {before after : TypeTable} {entries}, before.Settled (key :: pending) →
      fields.run before = (.ok entries, after) → Keeps (key :: pending) before after)
    (settled : table.Settled pending) (label : (key, name) ∈ table.labels)
    (ran : (capture key fields).run table = (.ok (), final)) : Keeps pending table final := by
  obtain ⟨_, rfl⟩ | ⟨_, entries, middle, fieldsRan, rfl⟩ := capture_eq_ok ran
  · exact .refl settled
  · have packed := keeps (settled.markCaptured key) fieldsRan
    have labels : (middle.setFields key entries).labels = middle.labels :=
      map_setFields _ fun _ => rfl
    exact ⟨packed.settled.setFields (packed.labels.subset label) entries, packed.catalog,
      labels ▸ packed.labels⟩

theorem keeps_nothing {final : TypeTable} {entries : List FieldEntry} (settled : table.Settled pending)
    (ran : (pure [] : TableM (List FieldEntry)).run table = (.ok entries, final)) :
    Keeps pending table final := by
  cases ran
  exact .refl settled

mutual

/-- Packing a type without parameters keeps a table settled. -/
theorem keeps_pack (structural : Bool) : ∀ {type : DataType}, type.isClosed = true →
    ∀ {pending : List TypeKey} {table final : TypeTable} {key : TypeKey},
      table.Settled pending → (pack structural type).run table = (.ok key, final) →
        Keeps pending table final
  | .array element, closed, _, _, _, _, settled, ran => by
    unfold pack at ran
    obtain ⟨key, middle, entered, ran⟩ := run_bind_ok ran
    have first := (keeps_enter rfl settled entered).1
    rw [DataType.isClosed] at closed
    split at ran
    · obtain ⟨_, last, packed, ran⟩ := run_bind_ok ran
      cases ran
      exact first.trans (keeps_pack structural closed first.settled packed)
    · cases ran
      exact first
  | .generic name family arguments, closed, _, _, _, _, settled, ran => by
    unfold pack at ran
    obtain ⟨key, middle, entered, ran⟩ := run_bind_ok ran
    obtain ⟨first, called, label⟩ := keeps_enter rfl settled entered
    obtain ⟨_, later, packed, ran⟩ := run_bind_ok ran
    rw [DataType.isClosed] at closed
    have others := keeps_packArguments structural closed first.settled packed
    have second := first.trans others
    split at ran
    · obtain ⟨_, last, captured, ran⟩ := run_bind_ok ran
      cases ran
      exact second.trans
        (keeps_capture keeps_nothing second.settled (others.labels.subset label) captured)
    · cases ran
      exact second
  | .record name fields captured, closed, pending, table, final, _, settled, ran => by
    unfold pack at ran
    obtain ⟨key, middle, entered, ran⟩ := run_bind_ok ran
    obtain ⟨first, called, label⟩ := keeps_enter rfl settled entered
    rw [DataType.isClosed] at closed
    split at ran
    · obtain ⟨_, last, packed, ran⟩ := run_bind_ok ran
      cases ran
      exact first.trans (keeps_capture (fun settled ran => keeps_packFields closed settled ran)
        first.settled label packed)
    · cases ran
      exact first
  | .primitive kind, _, _, _, _, _, settled, ran => by
    unfold pack at ran
    exact (keeps_enter rfl settled ran).1
  | .object, _, _, _, _, _, settled, ran => by
    unfold pack at ran
    exact (keeps_enter rfl settled ran).1
  | .holder name, _, _, _, _, _, settled, ran => by
    unfold pack at ran
    exact (keeps_enter rfl settled ran).1
  | .parameter _ _, closed, _, _, _, _, _, _ => by cases closed

theorem keeps_packArguments (structural : Bool) : ∀ {types : List DataType},
    DataType.areClosed types = true →
    ∀ {pending : List TypeKey} {table final : TypeTable},
      table.Settled pending → (packArguments structural types).run table = (.ok (), final) →
        Keeps pending table final
  | [], _, _, _, _, settled, ran => by
    unfold packArguments at ran
    cases ran
    exact .refl settled
  | type :: rest, closed, _, _, _, settled, ran => by
    rw [DataType.areClosed, Bool.and_eq_true] at closed
    unfold packArguments at ran
    split at ran
    · obtain ⟨_, middle, packed, ran⟩ := run_bind_ok ran
      have first := keeps_pack structural closed.1 settled packed
      exact first.trans (keeps_packArguments structural closed.2 first.settled ran)
    · exact keeps_packArguments structural closed.2 settled ran

theorem keeps_packFields : ∀ {fields : List (Field DataType)},
    DataType.fieldsAreClosed fields = true →
    ∀ {pending : List TypeKey} {table final : TypeTable} {entries : List FieldEntry},
      table.Settled pending → (packFields fields).run table = (.ok entries, final) →
        Keeps pending table final
  | [], _, _, _, _, _, settled, ran => by
    unfold packFields at ran
    cases ran
    exact .refl settled
  | ⟨name, type, isPublic⟩ :: rest, closed, _, _, _, _, settled, ran => by
    rw [DataType.fieldsAreClosed, Bool.and_eq_true] at closed
    unfold packFields at ran
    obtain ⟨_, middle, packed, ran⟩ := run_bind_ok ran
    obtain ⟨_, last, others, ran⟩ := run_bind_ok ran
    cases ran
    have first := keeps_pack true closed.1 settled packed
    exact first.trans (keeps_packFields closed.2 first.settled others)

end

/-! ### Loading and searching -/

/-- Loading entries keeps a table settled, whether or not it succeeds. -/
theorem Settled.keeps_load (settled : table.Settled pending) (entries : List TypeEntry) :
    Keeps pending table ((load entries).run table).2 := by
  obtain ⟨added, same⟩ := load_state entries table
  rw [same]
  exact settled.keeps_append rfl rfl (fun _ => .inl) rfl

/-- A search that notes types by their labels keeps a table settled, whether or not it succeeds. -/
theorem Settled.keeps_searching (settled : table.Settled pending) {Content : Type}
    {search : TypeTable → SearchM Content} {wanted : Content → Prop} {expected : Error → Prop}
    (promises : Promises (NotedAs table.Labelled) (search table) wanted expected) :
    Keeps pending table ((searching search).run table).2 ∧
      Meets wanted expected ((searching search).run table).1 := by
  obtain ⟨noted, meets⟩ := promises.run settled.noted rfl
  rw [searching_run]
  exact ⟨⟨⟨noted, settled.captured⟩, rfl, List.prefix_rfl⟩, meets⟩

/-- Resolving a key keeps a table settled, and what it yields goes by the label of the key. -/
theorem Settled.keeps_resolve (settled : table.Settled pending)
    (canonical : table.catalog.Canonical) (keys : (table.entries.map TypeEntry.key).Nodup)
    (key : TypeKey) : Keeps pending table ((resolve key).run table).2 ∧
      Meets (table.Labelled key) (fun error => ¬error.IsDepth) ((resolve key).run table).1 :=
  settled.keeps_searching ((names_of_canonical canonical keys).promises_searchKey [] key)

/-- Resolving a name keeps a table settled, and what it yields goes by the name. Nothing is noted
for the name itself, only for the keys that are looked for on the way. -/
theorem Settled.keeps_resolveName (settled : table.Settled pending)
    (canonical : table.catalog.Canonical) (keys : (table.entries.map TypeEntry.key).Nodup)
    (name : String) : Keeps pending table ((resolveName name).run table).2 ∧
      Meets (fun found => ∀ type ∈ found, type.GoesBy name) (fun error => ¬error.IsDepth)
        ((resolveName name).run table).1 :=
  settled.keeps_searching ((names_of_canonical canonical keys).promises_searchName [] name)

end

end TypeTable

end PredicateWire
