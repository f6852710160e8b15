/-
This file proves what packing does to a type table. A table is sound when its keys and
its names are all different and every captured field has a key of the table; it is
tracked when only captured keys have fields. Work on a table `Adds` when it keeps a
property of tables, takes nothing away from them, and yields something that fits every
later table. Packing a type is such work: the key it yields is, now and later, the key
of the type's name.

That the results of work fit later tables is what makes the rules compose. A tree refers
to keys that were found at different times, and it is read with the table as it is at
the end. So what is said about a key must not become wrong when more is packed, and
`adds_bind` hands it on.
-/
import PredicateWire.Proofs.Running
import PredicateWire.Table.Basic

namespace PredicateWire

namespace TypeTable

open Running

/-! ### Sound tables -/

/-- Keys and names are all different, and captured fields have keys of the table. -/
structure Sound (table : TypeTable) : Prop where
  keys : (table.entries.map TypeEntry.key).Nodup
  names : (table.entries.map TypeEntry.name).Nodup
  fields : ∀ entry ∈ table.entries, ∀ field ∈ entry.fields, table.hasKey field.key = true

/-- A sound table that keeps track of its captured fields: an entry that has some has a captured
key. -/
structure Tracked (table : TypeTable) : Prop extends Sound table where
  structural : ∀ entry ∈ table.entries, entry.structural = true → entry.key ∈ table.captured

/-- Soundness looks at the entries only. -/
theorem Sound.congr {base : TypeTable} (sound : base.Sound) (table : TypeTable)
    (entries : table.entries = base.entries) : table.Sound := by
  refine ⟨entries ▸ sound.keys, entries ▸ sound.names, fun entry member field fieldMember => ?_⟩
  rw [hasKey, entryOf?, entries]
  exact sound.fields entry (entries ▸ member) field fieldMember

/-- Being tracked is a matter of the entries and the captured keys. -/
theorem Tracked.congr {base : TypeTable} (tracked : base.Tracked) {table : TypeTable}
    (entries : table.entries = base.entries)
    (captured : ∀ key ∈ base.captured, key ∈ table.captured) : table.Tracked where
  toSound := tracked.toSound.congr table entries
  structural := fun entry member structural =>
    captured _ (tracked.structural entry (entries ▸ member) structural)

theorem Tracked.markCaptured {table : TypeTable} (tracked : table.Tracked) (key : TypeKey) :
    (table.markCaptured key).Tracked :=
  tracked.congr rfl fun _ member => List.mem_cons_of_mem key member

/-- A later table has all keys of an earlier one, for the same names, and all its captured
fields. -/
structure Grows (before after : TypeTable) : Prop where
  catalog : after.catalog = before.catalog
  keyOf? : ∀ {name key}, before.keyOf? name = some key → after.keyOf? name = some key
  hasKey : ∀ {key}, before.hasKey key = true → after.hasKey key = true
  captured : ∀ {key}, key ∈ before.captured → key ∈ after.captured
  structural : ∀ {entry}, entry ∈ before.entries → entry.structural = true → entry ∈ after.entries

/-- A table that stays as it is has grown by nothing. -/
theorem Grows.refl (table : TypeTable) : table.Grows table :=
  ⟨rfl, id, id, id, fun member _ => member⟩

theorem Grows.trans {before middle after : TypeTable} (first : before.Grows middle)
    (second : middle.Grows after) : before.Grows after :=
  ⟨second.catalog.trans first.catalog, fun found => second.keyOf? (first.keyOf? found),
    fun present => second.hasKey (first.hasKey present),
    fun member => second.captured (first.captured member),
    fun member structural => second.structural (first.structural member structural) structural⟩

/-- A key of a table is the key of one of its entries. -/
theorem hasKey_iff {table : TypeTable} {key : TypeKey} :
    table.hasKey key = true ↔ ∃ entry ∈ table.entries, entry.key = key := by
  rw [hasKey, entryOf?, List.find?_isSome]
  simp

/-- The key of a name is a key of the table. -/
theorem hasKey_of_keyOf? {table : TypeTable} {name : String} {key : TypeKey}
    (found : table.keyOf? name = some key) : table.hasKey key = true := by
  obtain ⟨entry, first, same⟩ := Option.map_eq_some_iff.mp found
  exact hasKey_iff.mpr ⟨entry, List.mem_of_find?_eq_some first, same⟩

/-- The key of a name is that of an entry with this name. -/
theorem exists_entry_of_keyOf? {table : TypeTable} {name : String} {key : TypeKey}
    (found : table.keyOf? name = some key) :
    ∃ entry ∈ table.entries, entry.key = key ∧ entry.name = name := by
  obtain ⟨entry, first, same⟩ := Option.map_eq_some_iff.mp found
  have named := List.find?_some first
  exact ⟨entry, List.mem_of_find?_eq_some first, same, eq_of_beq named⟩

/-- A name has no key when no entry goes by it. -/
theorem keyOf?_eq_none {table : TypeTable} {name : String} :
    table.keyOf? name = none ↔ ∀ entry ∈ table.entries, entry.name ≠ name := by
  rw [keyOf?, Option.map_eq_none_iff, List.find?_eq_none]
  simp

/-! ### Work that adds to a table -/

/-- Work keeps a property of tables and only adds to them, and what it yields fits all later
tables. -/
structure Adds (kept : TypeTable → Prop) {Content : Type} (work : TableM Content)
    (fits : Content → TypeTable → Prop) : Prop where
  keeps : ∀ {table content final}, kept table → work.run table = (.ok content, final) →
    kept final ∧ table.Grows final ∧ ∀ {later}, final.Grows later → fits content later

/-- A property of tracked tables that lasts while nothing more is captured. -/
structure Lasts (kept : TypeTable → Prop) : Prop where
  tracked : ∀ {table}, kept table → table.Tracked
  stays : ∀ {table later}, kept table → later.Tracked → table.Grows later →
    later.captured = table.captured → kept later

theorem lasts_tracked : Lasts Tracked :=
  ⟨id, fun _ tracked _ _ => tracked⟩

section Adding

variable {kept : TypeTable → Prop} {First Second : Type}

theorem adds_pure (content : First) {fits : First → TypeTable → Prop}
    (always : ∀ later, fits content later) : Adds kept (pure content) fits := by
  refine ⟨fun sound ran => ?_⟩
  cases ran
  exact ⟨sound, Grows.refl _, fun _ => always _⟩

theorem adds_throw (error : Error) (fits : First → TypeTable → Prop) :
    Adds kept (throw error) fits :=
  ⟨fun _ ran => by cases ran⟩

/-- Two pieces of work add to a table if each does, and the second may count on what the first
one yielded. -/
theorem adds_bind {work : TableM First} {next : First → TableM Second}
    {fits : First → TypeTable → Prop} {wanted : Second → TypeTable → Prop}
    (first : Adds kept work fits)
    (second : ∀ content, Adds kept (next content) fun result later =>
      fits content later → wanted result later) :
    Adds kept (work >>= next) wanted := by
  refine ⟨fun sound ran => ?_⟩
  obtain ⟨content, middle, workRan, nextRan⟩ := run_bind_ok ran
  obtain ⟨middleSound, middleGrows, middleFits⟩ := first.keeps sound workRan
  obtain ⟨finalSound, finalGrows, finalFits⟩ := (second content).keeps middleSound nextRan
  exact ⟨finalSound, middleGrows.trans finalGrows, fun grows =>
    finalFits grows (middleFits (finalGrows.trans grows))⟩

/-- Work after a check may count on the check. -/
theorem adds_check {condition : Prop} [Decidable condition] {error : Error}
    {next : PUnit → TableM First} {fits : First → TypeTable → Prop}
    (adds : ¬condition → Adds kept (next ⟨⟩) fits) :
    Adds kept (if condition then throw error >>= next else next ⟨⟩) fits := by
  split
  · exact ⟨fun _ ran => by cases ran⟩
  · rename_i passed
    exact adds passed

/-- What fits later tables may be said in a weaker way. -/
theorem Adds.weaken {work : TableM First} {fits wanted : First → TypeTable → Prop}
    (adds : Adds kept work fits)
    (implies : ∀ content later, fits content later → wanted content later) :
    Adds kept work wanted := by
  refine ⟨fun sound ran => ?_⟩
  obtain ⟨finalSound, grows, fitting⟩ := adds.keeps sound ran
  exact ⟨finalSound, grows, fun later => implies _ _ (fitting later)⟩

end Adding

/-! ### Packing types -/

/-- A key that has been drawn is fresh, and drawing changes nothing else. -/
theorem drawKey_run {attempts : Nat} {table final : TypeTable} {key : TypeKey}
    (ran : (drawKey attempts).run table = (.ok key, final)) :
    table.hasKey key = false ∧ ∃ drawn, final = { table with drawn := drawn } := by
  induction attempts generalizing table with
  | zero => cases ran
  | succ attempts inductionHypothesis =>
    unfold drawKey at ran
    simp only [run_bind, run_get, run_set] at ran
    split at ran
    · obtain ⟨fresh, drawn, same⟩ := inductionHypothesis ran
      exact ⟨fresh, drawn, same⟩
    · rename_i fresh
      cases ran
      exact ⟨by simpa using fresh, _, rfl⟩

/-- A type that is entered has the key of its name already, or its name gets a new entry with a
fresh key. -/
theorem enter_eq_ok {type : DataType} {key : TypeKey} {table final : TypeTable}
    (ran : (enter type).run table = (.ok key, final)) :
    (table.keyOf? type.canonicalName = some key ∧ final = table) ∨
      (table.keyOf? type.canonicalName = none ∧ table.hasKey key = false ∧
        ∃ drawn, final = (({ table with drawn := drawn } : TypeTable).push
          (.plain key type.canonicalName)).remember key type) := by
  unfold enter at ran
  simp only [run_bind, run_get] at ran
  split at ran
  · rename_i found
    cases ran
    exact .inl ⟨found, rfl⟩
  · rename_i unnamed
    simp only [run_bind, run_modify, run_pure] at ran
    split at ran
    · rename_i drawRan
      cases ran
      obtain ⟨fresh, drawn, rfl⟩ := drawKey_run drawRan
      exact .inr ⟨unnamed, fresh, drawn, rfl⟩
    · cases ran

theorem hasKey_append {table changed : TypeTable} {entry : TypeEntry}
    (entries : changed.entries = table.entries ++ [entry]) {key : TypeKey} :
    changed.hasKey key = true ↔ table.hasKey key = true ∨ entry.key = key := by
  rw [hasKey_iff, hasKey_iff, entries]
  simp only [List.mem_append, List.mem_singleton, or_and_right, exists_or, exists_eq_left]

theorem nodup_append_singleton {Item : Type} {items : List Item} {item : Item}
    (nodup : items.Nodup) (fresh : item ∉ items) : (items ++ [item]).Nodup := by
  refine List.nodup_append.mpr ⟨nodup, by simp, fun other member last lastMember => ?_⟩
  rw [List.mem_singleton.mp lastMember]
  exact fun same => fresh (same ▸ member)

/-- A table stays tracked when an entry without fields is added under a fresh key and a new name. -/
theorem tracked_append {table changed : TypeTable} (sound : table.Tracked) {key : TypeKey}
    {name : String} (entries : changed.entries = table.entries ++ [.plain key name])
    (captured : changed.captured = table.captured) (fresh : table.hasKey key = false)
    (unnamed : table.keyOf? name = none) : changed.Tracked where
  keys := by
    rw [entries, List.map_append, List.map_singleton]
    refine nodup_append_singleton sound.keys fun member => ?_
    obtain ⟨entry, entryMember, same⟩ := List.mem_map.mp member
    have present : table.hasKey key = true := hasKey_iff.mpr ⟨entry, entryMember, same⟩
    rw [present] at fresh
    cases fresh
  names := by
    rw [entries, List.map_append, List.map_singleton]
    refine nodup_append_singleton sound.names fun member => ?_
    obtain ⟨entry, entryMember, same⟩ := List.mem_map.mp member
    exact keyOf?_eq_none.mp unnamed entry entryMember same
  fields := by
    intro entry member field fieldMember
    rw [entries, List.mem_append, List.mem_singleton] at member
    rcases member with earlier | rfl
    · exact (hasKey_append entries).mpr (.inl (sound.fields entry earlier field fieldMember))
    · cases fieldMember
  structural := by
    intro entry member structural
    rw [entries, List.mem_append, List.mem_singleton] at member
    rw [captured]
    rcases member with earlier | rfl
    · exact sound.structural entry earlier structural
    · cases structural

theorem grows_append {table changed : TypeTable} {entry : TypeEntry}
    (catalog : changed.catalog = table.catalog) (captured : changed.captured = table.captured)
    (entries : changed.entries = table.entries ++ [entry]) : table.Grows changed where
  catalog := catalog
  keyOf? := by
    intro name key found
    unfold TypeTable.keyOf? at found ⊢
    rw [entries, List.find?_append]
    obtain ⟨first, firstFound, same⟩ := Option.map_eq_some_iff.mp found
    rw [firstFound, Option.some_or, Option.map_some, same]
  hasKey := fun present => (hasKey_append entries).mpr (.inl present)
  captured := by
    intro key member
    rw [captured]
    exact member
  structural := by
    intro other member _
    rw [entries]
    exact List.mem_append_left _ member

theorem keyOf?_append_self {table changed : TypeTable} {key : TypeKey} {name : String}
    (entries : changed.entries = table.entries ++ [.plain key name])
    (unnamed : table.keyOf? name = none) : changed.keyOf? name = some key := by
  have absent := Option.map_eq_none_iff.mp unnamed
  rw [TypeTable.keyOf?, entries, List.find?_append, absent, Option.none_or]
  simp [TypeEntry.plain]

/-- Entering a type yields the key of its name. -/
theorem adds_enter {kept : TypeTable → Prop} (lasts : Lasts kept) (type : DataType) :
    Adds kept (enter type) fun key later => later.keyOf? type.canonicalName = some key := by
  refine ⟨fun {table key final} holds ran => ?_⟩
  obtain ⟨found, rfl⟩ | ⟨unnamed, fresh, drawn, rfl⟩ := enter_eq_ok ran
  · exact ⟨holds, Grows.refl _, fun grows => grows.keyOf? found⟩
  · refine ⟨lasts.stays holds (tracked_append (lasts.tracked holds) rfl rfl fresh unnamed)
      (grows_append rfl rfl rfl) rfl, grows_append rfl rfl rfl, fun grows => ?_⟩
    exact grows.keyOf? (keyOf?_append_self rfl unnamed)

/-! ### Captured fields -/

/-- An entry of the changed table is an old one, with the fields if it is the one that they are set
for. -/
theorem mem_setFields {table : TypeTable} {key : TypeKey} {fields : List FieldEntry}
    {entry : TypeEntry} :
    entry ∈ (table.setFields key fields).entries ↔ ∃ old ∈ table.entries,
      (if old.key = key then { old with structural := true, fields := fields } else old) = entry :=
  List.mem_map

/-- Whatever does not depend on fields is the same in the changed table. -/
theorem map_setFields {Content : Type} {table : TypeTable} {key : TypeKey}
    {fields : List FieldEntry} (read : TypeEntry → Content)
    (kept : ∀ entry : TypeEntry,
      read { entry with structural := true, fields := fields } = read entry) :
    (table.setFields key fields).entries.map read = table.entries.map read := by
  rw [setFields, List.map_map]
  refine List.map_congr_left fun entry _ => ?_
  rw [Function.comp_apply]
  split
  · exact kept entry
  · rfl

theorem hasKey_setFields {table : TypeTable} {key other : TypeKey} {fields : List FieldEntry} :
    (table.setFields key fields).hasKey other = table.hasKey other := by
  have member : ∀ changed : TypeTable, changed.hasKey other = true ↔
      other ∈ changed.entries.map TypeEntry.key := by
    intro changed
    rw [hasKey_iff, List.mem_map]
  rw [Bool.eq_iff_iff, member, member, map_setFields TypeEntry.key fun _ => rfl]

theorem keyOf?_setFields {table : TypeTable} {key : TypeKey} {fields : List FieldEntry}
    {name : String} : (table.setFields key fields).keyOf? name = table.keyOf? name := by
  rw [TypeTable.keyOf?, TypeTable.keyOf?, setFields, List.find?_map, Option.map_map]
  have named : (fun entry : TypeEntry => entry.name == name) ∘ (fun entry =>
        if entry.key = key then { entry with structural := true, fields := fields } else entry) =
      fun entry => entry.name == name := by
    funext entry
    rw [Function.comp_apply]
    split <;> rfl
  have keyed : TypeEntry.key ∘ (fun entry : TypeEntry =>
        if entry.key = key then { entry with structural := true, fields := fields } else entry) =
      TypeEntry.key := by
    funext entry
    rw [Function.comp_apply]
    split <;> rfl
  rw [named, keyed]

/-- Fields may be set under a captured key, if their own keys are there. -/
theorem tracked_setFields {table : TypeTable} (sound : table.Tracked) {key : TypeKey}
    {fields : List FieldEntry} (marked : key ∈ table.captured)
    (present : ∀ field ∈ fields, table.hasKey field.key = true) :
    (table.setFields key fields).Tracked where
  keys := by
    rw [map_setFields TypeEntry.key fun _ => rfl]
    exact sound.keys
  names := by
    rw [map_setFields TypeEntry.name fun _ => rfl]
    exact sound.names
  fields := by
    intro entry member field fieldMember
    rw [hasKey_setFields]
    obtain ⟨old, oldMember, rfl⟩ := mem_setFields.mp member
    split at fieldMember
    · exact present field fieldMember
    · exact sound.fields old oldMember field fieldMember
  structural := by
    intro entry member structural
    obtain ⟨old, oldMember, rfl⟩ := mem_setFields.mp member
    by_cases same : old.key = key
    · rw [if_pos same, same]
      exact marked
    · rw [if_neg same] at structural ⊢
      exact sound.structural old oldMember structural

/-- Capturing the fields of a new key leaves the fields captured before as they are. -/
theorem grows_setFields {table middle : TypeTable} (tracked : table.Tracked) {key : TypeKey}
    (uncaptured : key ∉ table.captured) (grows : (table.markCaptured key).Grows middle)
    {fields : List FieldEntry} : table.Grows (middle.setFields key fields) := by
  refine ⟨grows.catalog, fun found => ?_, fun held => ?_, fun member => ?_,
    fun member structural => ?_⟩
  · rw [keyOf?_setFields]
    exact grows.keyOf? found
  · rw [hasKey_setFields]
    exact grows.hasKey held
  · exact grows.captured (.tail _ member)
  · refine mem_setFields.mpr ⟨_, grows.structural member structural, if_neg fun same => ?_⟩
    exact uncaptured (same ▸ tracked.structural _ member structural)

/-- The fields of a key have been captured, or they are captured now. In the second case the key is
marked first, so that the fields are packed in a table where it counts as captured. -/
theorem capture_eq_ok {key : TypeKey} {fields : TableM (List FieldEntry)} {table final : TypeTable}
    (ran : (capture key fields).run table = (.ok (), final)) :
    (key ∈ table.captured ∧ final = table) ∨
      (key ∉ table.captured ∧ ∃ entries middle,
        fields.run (table.markCaptured key) = (.ok entries, middle) ∧
          final = middle.setFields key entries) := by
  unfold capture at ran
  simp only [run_bind, run_get] at ran
  split at ran
  · rename_i marked
    cases ran
    exact .inl ⟨List.contains_iff_mem.mp marked, rfl⟩
  · rename_i unmarked
    simp only [run_bind, run_modify] at ran
    split at ran
    · rename_i entries middle fieldsRan
      cases ran
      exact .inr ⟨fun member => unmarked (List.contains_iff_mem.mpr member), entries, middle,
        fieldsRan, rfl⟩
    · cases ran

/-- Capturing fields only adds to a table. Whatever is packed for the fields grows it, and then the
fields are set for a key that had none. -/
theorem adds_capture (key : TypeKey) {fields : TableM (List FieldEntry)}
    {fits : List FieldEntry → TypeTable → Prop} (adds : Adds Tracked fields fits)
    (present : ∀ entries later, fits entries later →
      ∀ field ∈ entries, later.hasKey field.key = true) :
    Adds Tracked (capture key fields) fun _ _ => True := by
  refine ⟨fun {table _ final} tracked ran => ?_⟩
  obtain ⟨_, rfl⟩ | ⟨uncaptured, entries, middle, fieldsRan, rfl⟩ := capture_eq_ok ran
  · exact ⟨tracked, Grows.refl _, fun _ => trivial⟩
  · obtain ⟨middleTracked, grows, fitting⟩ := adds.keeps (tracked.markCaptured key) fieldsRan
    have marked : key ∈ middle.captured := grows.captured (.head _)
    exact ⟨tracked_setFields middleTracked marked (present _ _ (fitting (Grows.refl _))),
      grows_setFields tracked uncaptured grows, fun _ => trivial⟩

/-! ### Packing types -/

/-- The table has a key for the name of a type. -/
def Knows (table : TypeTable) (type : DataType) : Prop :=
  (table.keyOf? type.canonicalName).isSome = true

/-- The key for the name of a type. -/
def keyFor (table : TypeTable) (type : DataType) : TypeKey :=
  (table.keyOf? type.canonicalName).getD ⟨""⟩

/-- A type is known when its name has a key. -/
theorem knows_of_keyOf? {table : TypeTable} {type : DataType} {key : TypeKey}
    (found : table.keyOf? type.canonicalName = some key) : table.Knows type := by
  rw [Knows, found]
  rfl

theorem keyFor_eq {table : TypeTable} {type : DataType} {key : TypeKey}
    (found : table.keyOf? type.canonicalName = some key) : table.keyFor type = key := by
  rw [keyFor, found]
  rfl

theorem keyOf?_of_knows {table : TypeTable} {type : DataType} (knows : table.Knows type) :
    table.keyOf? type.canonicalName = some (table.keyFor type) := by
  obtain ⟨key, found⟩ := Option.isSome_iff_exists.mp knows
  rw [keyFor_eq found, found]

/-- The keys that entries for fields refer to are there. -/
theorem hasKey_of_known {fields : List (Field DataType)} (entries : List FieldEntry)
    (table : TypeTable) (packed : (∀ field ∈ fields, table.Knows field.type) ∧
      entries = fields.map fun field => ⟨field.name, table.keyFor field.type⟩) :
    ∀ entry ∈ entries, table.hasKey entry.key = true := by
  obtain ⟨known, rfl⟩ := packed
  intro entry member
  obtain ⟨field, fieldMember, rfl⟩ := List.mem_map.mp member
  exact hasKey_of_keyOf? (keyOf?_of_knows (known field fieldMember))

mutual

/-- Packing a type yields the key of its name. -/
theorem adds_pack (structural : Bool) : ∀ type : DataType,
    Adds Tracked (pack structural type) fun key later =>
      later.keyOf? type.canonicalName = some key
  | .array element => by
    unfold pack
    refine adds_bind (adds_enter lasts_tracked _) fun key => ?_
    split
    · exact adds_bind (adds_pack structural element) fun _ => adds_pure _ fun _ _ found => found
    · exact adds_pure _ fun _ found => found
  | .generic name family arguments => by
    unfold pack
    refine adds_bind (adds_enter lasts_tracked _) fun key => ?_
    refine adds_bind (adds_packArguments structural arguments) fun _ => ?_
    split
    · have nothing : Adds Tracked (pure []) fun (entries : List FieldEntry) _ => entries = [] :=
        adds_pure _ fun _ => rfl
      refine adds_bind (adds_capture key nothing ?_) fun _ => adds_pure _ fun _ _ _ found => found
      rintro _ _ rfl _ member
      cases member
    · exact adds_pure _ fun _ _ found => found
  | .record name fields captured => by
    unfold pack
    refine adds_bind (adds_enter lasts_tracked _) fun key => ?_
    split
    · exact adds_bind (adds_capture key (adds_packFields fields) hasKey_of_known) fun _ =>
        adds_pure _ fun _ _ found => found
    · exact adds_pure _ fun _ found => found
  | .primitive kind => by
    unfold pack
    exact adds_enter lasts_tracked _
  | .object => by
    unfold pack
    exact adds_enter lasts_tracked _
  | .holder name => by
    unfold pack
    exact adds_enter lasts_tracked _
  | .parameter owner position => by
    unfold pack
    exact adds_enter lasts_tracked _

/-- Packing the arguments of a type only adds to a table. -/
theorem adds_packArguments (structural : Bool) : ∀ types : List DataType,
    Adds Tracked (packArguments structural types) fun _ _ => True
  | [] => by
    unfold packArguments
    exact adds_pure _ fun _ => trivial
  | type :: rest => by
    unfold packArguments
    split
    · exact adds_bind (adds_pack structural type) fun _ =>
        (adds_packArguments structural rest).weaken fun _ _ _ _ => trivial
    · exact adds_packArguments structural rest

/-- Packing fields yields their names with the keys of their types. -/
theorem adds_packFields : ∀ fields : List (Field DataType),
    Adds Tracked (packFields fields) fun entries later =>
      (∀ field ∈ fields, later.Knows field.type) ∧
        entries = fields.map fun field => ⟨field.name, later.keyFor field.type⟩
  | [] => by
    unfold packFields
    refine adds_pure _ fun _ => ⟨fun _ member => ?_, rfl⟩
    cases member
  | ⟨name, type, isPublic⟩ :: rest => by
    unfold packFields
    refine adds_bind (adds_pack true type) fun key => adds_bind (adds_packFields rest) fun tail =>
      adds_pure _ fun later ⟨known, entries⟩ found => ⟨fun field member => ?_, ?_⟩
    · rcases List.mem_cons.mp member with rfl | later
      · exact knows_of_keyOf? found
      · exact known field later
    · rw [entries, List.map_cons, keyFor_eq found]

end

/-! ### Packing without capturing -/

/-- Work captures nothing. -/
def CapturesNothing {Content : Type} (work : TableM Content) : Prop :=
  ∀ {table content final}, work.run table = (.ok content, final) → final.captured = table.captured

theorem capturesNothing_bind {First Second : Type} {work : TableM First}
    {next : First → TableM Second} (first : CapturesNothing work)
    (second : ∀ content, CapturesNothing (next content)) : CapturesNothing (work >>= next) := by
  intro table content final ran
  obtain ⟨middleContent, middle, workRan, nextRan⟩ := run_bind_ok ran
  exact (second middleContent nextRan).trans (first workRan)

theorem capturesNothing_pure {Content : Type} (content : Content) :
    CapturesNothing (pure content) := by
  intro table _ final ran
  cases ran
  rfl

theorem capturesNothing_enter (type : DataType) : CapturesNothing (enter type) := by
  intro table key final ran
  obtain ⟨_, rfl⟩ | ⟨_, _, drawn, rfl⟩ := enter_eq_ok ran <;> rfl

mutual

/-- Packing a type captures nothing unless fields are asked for. -/
theorem capturesNothing_pack : ∀ type : DataType, CapturesNothing (pack false type)
  | .array element => by
    unfold pack
    refine capturesNothing_bind (capturesNothing_enter _) fun key => ?_
    split
    · exact capturesNothing_bind (capturesNothing_pack element) fun _ => capturesNothing_pure key
    · exact capturesNothing_pure key
  | .generic name family arguments => by
    unfold pack
    exact capturesNothing_bind (capturesNothing_enter _) fun key =>
      capturesNothing_bind (capturesNothing_packArguments arguments) fun _ =>
        capturesNothing_pure key
  | .record name fields captured => by
    unfold pack
    exact capturesNothing_bind (capturesNothing_enter _) fun key => capturesNothing_pure key
  | .primitive kind => by
    unfold pack
    exact capturesNothing_enter _
  | .object => by
    unfold pack
    exact capturesNothing_enter _
  | .holder name => by
    unfold pack
    exact capturesNothing_enter _
  | .parameter owner position => by
    unfold pack
    exact capturesNothing_enter _

theorem capturesNothing_packArguments : ∀ types : List DataType,
    CapturesNothing (packArguments false types)
  | [] => by
    unfold packArguments
    exact capturesNothing_pure _
  | type :: rest => by
    unfold packArguments
    split
    · exact capturesNothing_bind (capturesNothing_pack type) fun _ =>
        capturesNothing_packArguments rest
    · exact capturesNothing_packArguments rest

end

/-- Packing a type without its fields keeps whatever lasts. -/
theorem adds_packPlain {kept : TypeTable → Prop} (lasts : Lasts kept) (type : DataType) :
    Adds kept (pack false type) fun key later =>
      later.keyOf? type.canonicalName = some key := by
  refine ⟨fun holds ran => ?_⟩
  obtain ⟨tracked, grows, fits⟩ := (adds_pack false type).keeps (lasts.tracked holds) ran
  exact ⟨lasts.stays holds tracked grows (capturesNothing_pack type ran), grows, fits⟩

/-! ### Loading -/

/-- Entries with new and different keys are all loaded. -/
theorem loadEntries_run (entries : List TypeEntry) {table : TypeTable}
    (distinct : ((table.entries ++ entries).map TypeEntry.key).Nodup) :
    (loadEntries entries).run table =
      (.ok (), { table with entries := table.entries ++ entries }) := by
  induction entries generalizing table with
  | nil => rw [List.append_nil]; rfl
  | cons entry rest inductionHypothesis =>
    have fresh : table.hasKey entry.key = false := by
      refine Bool.eq_false_iff.mpr fun present => ?_
      obtain ⟨other, member, same⟩ := hasKey_iff.mp present
      rw [List.map_append, List.nodup_append] at distinct
      exact distinct.2.2 _ (List.mem_map_of_mem member) _ (List.mem_map_of_mem (.head _)) same
    unfold loadEntries
    simp only [run_bind, run_get, fresh, Bool.false_eq_true, if_false, run_modify]
    rw [inductionHypothesis (by rw [push, List.append_assoc]; exact distinct), push,
      List.append_assoc]
    rfl

/-- Loading entries one by one adds those that it gets past. -/
theorem loadEntries_state (entries : List TypeEntry) (table : TypeTable) :
    ∃ added, ((loadEntries entries).run table).2 =
      { table with entries := table.entries ++ added } := by
  induction entries generalizing table with
  | nil => exact ⟨[], by rw [List.append_nil]; rfl⟩
  | cons entry rest inductionHypothesis =>
    unfold loadEntries
    simp only [run_bind, run_get]
    split
    · exact ⟨[], by rw [List.append_nil]; rfl⟩
    · obtain ⟨added, same⟩ := inductionHypothesis (table.push entry)
      refine ⟨entry :: added, ?_⟩
      rw [run_bind, run_modify]
      refine same.trans ?_
      rw [push, List.append_assoc]
      rfl

/-- Loading adds entries and changes nothing else, whether or not it succeeds. -/
theorem load_state (entries : List TypeEntry) (table : TypeTable) :
    ∃ added, ((load entries).run table).2 = { table with entries := table.entries ++ added } := by
  obtain ⟨added, same⟩ := loadEntries_state entries table
  refine ⟨added, ?_⟩
  rw [← same, load, run_bind]
  rcases (loadEntries entries).run table with ⟨error | _, loaded⟩
  · rfl
  · dsimp only
    rw [run_bind, run_get]
    dsimp only
    split <;> rfl

/-- The entries of a sound table make a table with the same entries. -/
theorem ofEntries_sound {table : TypeTable} (sound : table.Sound) (catalog : Catalog)
    (source : Nat → UInt32) :
    ofEntries catalog source table.entries =
      .ok { empty catalog source with entries := table.entries } := by
  have loaded : (loadEntries table.entries).run (empty catalog source) =
      (.ok (), { empty catalog source with entries := table.entries }) :=
    loadEntries_run table.entries sound.keys
  have complete : danglingKey? { empty catalog source with entries := table.entries } = none := by
    refine List.find?_eq_none.mpr fun key member => ?_
    obtain ⟨entry, entryMember, keyMember⟩ := List.mem_flatMap.mp member
    obtain ⟨field, fieldMember, rfl⟩ := List.mem_map.mp keyMember
    have present : table.hasKey field.key = true := sound.fields entry entryMember field fieldMember
    rw [Bool.not_eq_true, Bool.not_eq_false']
    exact present
  rw [ofEntries, load, run_bind, loaded]
  simp only [run_bind, run_get, complete, run_pure]

end TypeTable

end PredicateWire
