/-
This file proves that the indexes of a type table say what its entries say, and that the
operations on an indexed table do what they do on the table without indexes. A table is
`Consistent` when its indexes are as they should be and no key is in progress. Work on
it `Follows` work on the plain table when it has the same outcome, comes to the same
entries and keeps the table consistent, whether or not it succeeds.

With this, everything that is proved about plain tables holds of indexed ones, and
indexes need not be mentioned again. The searches differ in one more respect: an indexed
table marks the keys in progress and takes the marks back, while the plain search hands
down a list of them. That the marks are what the list is, also after a failure, is part
of what `Marked` searches carry along.
-/
import Mathlib.Data.List.Nodup
import PredicateWire.Proofs.Table.Growth
import PredicateWire.Proofs.Table.Supply
import PredicateWire.Table.Indexed

namespace PredicateWire

namespace IndexedTable

open Running

/-! ### Consistent tables -/

/-- Each key is filed under its position and each name under the key of its first entry, and no key
is in progress. -/
structure Consistent (table : IndexedTable) : Prop where
  byKey : ∀ {key position}, table.position? key = some position ↔
    (table.entries.map TypeEntry.key)[position]? = some key
  byName : ∀ name, table.keyNamed? name = table.keyOf? name
  resolving : table.resolving = []

section

variable {table : IndexedTable}

theorem consistent_empty (catalog : Catalog) (source : Nat → UInt32) :
    (empty catalog source).Consistent where
  byKey := iff_of_false (fun same => by cases same) fun same => by cases same
  byName := fun _ => rfl
  resolving := rfl

/-- The keys of the entries are all different. -/
theorem Consistent.keys (consistent : table.Consistent) :
    (table.entries.map TypeEntry.key).Nodup := by
  refine List.nodup_iff_getElem?_ne_getElem?.mpr fun first second before within same => ?_
  have placed : table.position? (table.entries.map TypeEntry.key)[second] = some second :=
    consistent.byKey.mpr (List.getElem?_eq_getElem within)
  have placedFirst : table.position? (table.entries.map TypeEntry.key)[second] = some first :=
    consistent.byKey.mpr (same.trans (List.getElem?_eq_getElem within))
  have equal := Option.some.inj (placed.symm.trans placedFirst)
  omega

/-- The entry at the position of a key is the entry of the key. -/
theorem Consistent.entryAt? (consistent : table.Consistent) (key : TypeKey) :
    table.entryAt? key = table.entryOf? key := by
  have placed : ∀ {entry : TypeEntry}, entry ∈ table.entries → entry.key = key →
      ∃ position : Nat, table.position? key = some position ∧
        table.entries[position]? = some entry := by
    rintro entry member rfl
    obtain ⟨position, found⟩ := List.mem_iff_getElem?.mp member
    refine ⟨position, consistent.byKey.mpr ?_, found⟩
    rw [List.getElem?_map, found]
    rfl
  cases found : table.entryOf? key with
  | some entry =>
    have tested := List.find?_some found
    obtain ⟨position, positioned, at_⟩ := placed (List.mem_of_find?_eq_some found) (eq_of_beq tested)
    rw [IndexedTable.entryAt?, positioned]
    exact at_
  | none =>
    refine Option.bind_eq_none_iff.mpr fun position positioned => ?_
    have keyed := consistent.byKey.mp positioned
    rw [List.getElem?_map] at keyed
    obtain ⟨entry, at_, same⟩ := Option.map_eq_some_iff.mp keyed
    have tested := List.find?_eq_none.mp found entry (List.mem_of_getElem? at_)
    exact absurd (beq_iff_eq.mpr same) tested

/-- A key has a position when it has an entry. -/
theorem Consistent.position?_isSome (consistent : table.Consistent) (key : TypeKey) :
    (table.position? key).isSome = table.hasKey key := by
  rw [TypeTable.hasKey, ← consistent.entryAt?, IndexedTable.entryAt?]
  cases positioned : table.position? key with
  | none => rfl
  | some position =>
    have keyed := consistent.byKey.mp positioned
    rw [List.getElem?_map] at keyed
    obtain ⟨entry, at_, _⟩ := Option.map_eq_some_iff.mp keyed
    rw [Option.bind_some, at_]
    rfl

/-- A table with the same entries and indexes is consistent too. What it has noted and how many keys
it has drawn does not matter. -/
theorem Consistent.congr (consistent : table.Consistent) (changed : IndexedTable)
    (entries : changed.entries = table.entries) (byKey : changed.byKey = table.byKey)
    (byName : changed.byName = table.byName) (resolving : changed.resolving = table.resolving) :
    changed.Consistent where
  byKey := by
    intro key position
    rw [entries, position?, byKey]
    exact consistent.byKey
  byName := by
    intro name
    have named := consistent.byName name
    rw [keyNamed?, byName, TypeTable.keyOf?, entries]
    exact named
  resolving := resolving.trans consistent.resolving

theorem position?_place (entry : TypeEntry) (key : TypeKey) :
    (table.place entry).position? key =
      if entry.key = key then some table.entries.length else table.position? key := by
  unfold position? place
  rw [List.find?_cons]
  by_cases same : entry.key = key
  · rw [if_pos same, show (entry.key == key) = true from beq_iff_eq.mpr same]
    rfl
  · rw [if_neg same, show (entry.key == key) = false from beq_false_of_ne same]

theorem keyNamed?_file (name other : String) (key : TypeKey) :
    (table.file name key).keyNamed? other =
      if name = other then some key else table.keyNamed? other := by
  unfold keyNamed? file
  rw [List.find?_cons]
  by_cases same : name = other
  · rw [if_pos same, show (name == other) = true from beq_iff_eq.mpr same]
    rfl
  · rw [if_neg same, show (name == other) = false from beq_false_of_ne same]

/-- A new entry is the first of its name only where there was none. -/
theorem keyOf?_append {before after : TypeTable} {entry : TypeEntry}
    (entries : after.entries = before.entries ++ [entry]) (name : String) :
    after.keyOf? name =
      (before.keyOf? name).or (if entry.name = name then some entry.key else none) := by
  rw [TypeTable.keyOf?, TypeTable.keyOf?, entries, List.find?_append, Option.map_or]
  refine congrArg _ ?_
  rw [List.find?_singleton]
  by_cases same : entry.name = name
  · simp [same]
  · simp [same]

/-- An entry with a fresh key is added with its position, and filed under its name unless another
one is. -/
theorem Consistent.add (consistent : table.Consistent) {entry : TypeEntry}
    (fresh : table.hasKey entry.key = false) (changed : IndexedTable)
    (entries : changed.entries = table.entries ++ [entry])
    (byKey : changed.byKey = (entry.key, table.entries.length) :: table.byKey)
    (byName : ∀ name, changed.keyNamed? name =
      (table.keyNamed? name).or (if entry.name = name then some entry.key else none))
    (resolving : changed.resolving = table.resolving) : changed.Consistent where
  byKey := by
    intro key position
    have positions : changed.position? key = (table.place entry).position? key := by
      rw [position?, position?, byKey]
      rfl
    rw [positions, position?_place, entries, List.map_append, List.map_singleton]
    have absent : table.position? entry.key = none := by
      rw [← Option.isNone_iff_eq_none, ← Option.not_isSome, consistent.position?_isSome, fresh]
      rfl
    have keyed : (table.entries.map TypeEntry.key ++ [entry.key])[position]? =
        if table.entries.length = position then some entry.key
        else (table.entries.map TypeEntry.key)[position]? := by
      split
      · rename_i last
        rw [← last, ← List.length_map TypeEntry.key, List.getElem?_concat_length]
      · rename_i other
        rw [List.getElem?_append, List.length_map]
        split
        · rfl
        · rename_i beyond
          rw [List.getElem?_eq_none (by simp; omega), List.getElem?_eq_none (by simp; omega)]
    rw [keyed]
    by_cases same : entry.key = key <;> by_cases last : table.entries.length = position
    · rw [if_pos same, if_pos last, same, last]
      exact iff_of_true rfl rfl
    · rw [if_pos same, if_neg last, ← consistent.byKey, ← same, absent]
      exact iff_of_false (fun found => last (Option.some.inj found)) fun found => by cases found
    · rw [if_neg same, if_pos last, consistent.byKey, List.getElem?_eq_none (by simp; omega)]
      exact iff_of_false (fun found => by cases found) fun found => same (Option.some.inj found)
    · rw [if_neg same, if_neg last, consistent.byKey]
  byName := fun name => by
    rw [byName, consistent.byName, keyOf?_append entries]
  resolving := resolving.trans consistent.resolving

/-- The entry at the position of a key is the only one of the key. -/
theorem Consistent.modify_eq_map (consistent : table.Consistent) {key : TypeKey} {position : Nat}
    (positioned : table.position? key = some position) (change : TypeEntry → TypeEntry) :
    table.entries.modify position change =
      table.entries.map fun entry => if entry.key = key then change entry else entry := by
  refine List.ext_getElem? fun other => ?_
  rw [List.getElem?_modify, List.getElem?_map]
  cases found : table.entries[other]? with
  | none => rfl
  | some entry =>
    have keyed : (table.entries.map TypeEntry.key)[other]? = some entry.key := by
      rw [List.getElem?_map, found]
      rfl
    have same : position = other ↔ entry.key = key := by
      constructor
      · rintro rfl
        exact Option.some.inj (keyed.symm.trans (consistent.byKey.mp positioned))
      · rintro rfl
        exact Option.some.inj (positioned.symm.trans (consistent.byKey.mpr keyed))
    simp only [same, Option.map_some]
    rfl

/-- Setting fields at a position is setting the fields of the key. -/
theorem Consistent.toTypeTable_setFields (consistent : table.Consistent) (key : TypeKey)
    (fields : List FieldEntry) :
    (table.setFields key fields).toTypeTable = table.toTypeTable.setFields key fields := by
  unfold IndexedTable.setFields TypeTable.setFields
  split
  · rename_i unplaced
    have absent : table.hasKey key = false := by
      rw [← consistent.position?_isSome, unplaced]
      rfl
    have kept : (table.entries.map fun entry =>
        if entry.key = key then { entry with structural := true, fields := fields } else entry) =
          table.entries := by
      refine (List.map_congr_left fun entry member => if_neg fun keyed => ?_).trans (List.map_id' _)
      have present : table.hasKey key = true := TypeTable.hasKey_iff.mpr ⟨entry, member, keyed⟩
      cases present.symm.trans absent
    rw [kept]
  · rename_i position positioned
    rw [← consistent.modify_eq_map positioned]

/-- Capturing fields changes neither keys nor names. -/
theorem Consistent.setFields (consistent : table.Consistent) (key : TypeKey)
    (fields : List FieldEntry) : (table.setFields key fields).Consistent := by
  have same := consistent.toTypeTable_setFields key fields
  have indexes : (table.setFields key fields).byKey = table.byKey ∧
      (table.setFields key fields).byName = table.byName ∧
      (table.setFields key fields).resolving = table.resolving := by
    unfold IndexedTable.setFields
    split <;> exact ⟨rfl, rfl, rfl⟩
  refine ⟨fun {other position} => ?_, fun name => ?_, indexes.2.2.trans consistent.resolving⟩
  · rw [same, TypeTable.map_setFields TypeEntry.key fun _ => rfl, position?, indexes.1]
    exact consistent.byKey
  · rw [same, TypeTable.keyOf?_setFields, keyNamed?, indexes.2.1]
    exact consistent.byName name

end

/-! ### Work that follows work without indexes -/

/-- Work on consistent tables has the outcome of work on tables without indexes, comes to the same
table, and leaves it consistent. -/
structure Follows {Content : Type} (work : IndexedM Content) (plain : TableM Content) : Prop where
  run : ∀ {table : IndexedTable}, table.Consistent → (work.run table).2.Consistent ∧
    plain.run table.toTypeTable = ((work.run table).1, (work.run table).2.toTypeTable)

section Following

variable {First Second : Type}

theorem follows_pure (content : First) : Follows (pure content) (pure content) :=
  ⟨fun consistent => ⟨consistent, rfl⟩⟩

theorem follows_throw (error : Error) : Follows (throw error : IndexedM First) (throw error) :=
  ⟨fun consistent => ⟨consistent, rfl⟩⟩

theorem follows_bind {work : IndexedM First} {plain : TableM First} {next : First → IndexedM Second}
    {plainNext : First → TableM Second} (first : Follows work plain)
    (second : ∀ content, Follows (next content) (plainNext content)) :
    Follows (work >>= next) (plain >>= plainNext) := by
  refine ⟨fun {table} consistent => ?_⟩
  obtain ⟨middleConsistent, ran⟩ := first.run consistent
  rw [run_bind, run_bind, ran]
  revert middleConsistent
  rcases work.run table with ⟨error | content, middle⟩ <;> intro middleConsistent
  · exact ⟨middleConsistent, rfl⟩
  · exact (second content).run middleConsistent

/-- Work may look at the table, if what it sees does not depend on the indexes. -/
theorem follows_get {next : IndexedTable → IndexedM First} {plainNext : TypeTable → TableM First}
    (each : ∀ table : IndexedTable, table.Consistent →
      Follows (next table) (plainNext table.toTypeTable)) :
    Follows (get >>= next) (get >>= plainNext) :=
  ⟨fun consistent => (each _ consistent).run consistent⟩

/-- A change follows if it keeps the table consistent and is the plain change but for the
indexes. -/
theorem follows_modify {change : IndexedTable → IndexedTable} {plainChange : TypeTable → TypeTable}
    (each : ∀ table : IndexedTable, table.Consistent → (change table).Consistent ∧
      (change table).toTypeTable = plainChange table.toTypeTable) :
    Follows (modify change) (modify plainChange) := by
  refine ⟨fun {table} consistent => ?_⟩
  obtain ⟨changedConsistent, same⟩ := each table consistent
  exact ⟨changedConsistent, by rw [run_modify, run_modify, same]⟩

end Following

/-! ### Packing and loading -/

/-- Drawing keys is not helped by indexes, and changes nothing but the number of draws. -/
theorem drawKey_run (attempts : Nat) {table : IndexedTable} (consistent : table.Consistent) :
    ∃ outcome drawn, (drawKey attempts).run table = (outcome, { table with drawn := drawn }) ∧
      (TypeTable.drawKey attempts).run table.toTypeTable =
        (outcome, { table.toTypeTable with drawn := drawn }) ∧
      ∀ key, outcome = .ok key → table.hasKey key = false := by
  induction attempts generalizing table with
  | zero => exact ⟨_, table.drawn, rfl, rfl, fun _ same => by cases same⟩
  | succ attempts inductionHypothesis =>
    unfold drawKey TypeTable.drawKey
    simp only [run_bind, run_get, run_set]
    rw [consistent.position?_isSome]
    split
    · have drawn : IndexedTable.Consistent { table with drawn := table.drawn + 1 } :=
        consistent.congr _ rfl rfl rfl rfl
      exact inductionHypothesis drawn
    · rename_i fresh
      refine ⟨_, table.drawn + 1, rfl, rfl, fun key same => ?_⟩
      cases same
      exact Bool.eq_false_iff.mpr fresh

theorem follows_enter (type : DataType) : Follows (enter type) (TypeTable.enter type) := by
  refine ⟨fun {table} consistent => ?_⟩
  unfold enter TypeTable.enter
  simp only [run_bind, run_get]
  rw [consistent.byName]
  cases unnamed : table.keyOf? type.canonicalName with
  | some key => exact ⟨consistent, rfl⟩
  | none =>
    obtain ⟨outcome, drawn, ran, plainRan, fresh⟩ := drawKey_run TypeTable.greatestAttempts consistent
    dsimp only
    rw [run_bind, run_bind, ran, plainRan]
    cases outcome with
    | error error => exact ⟨consistent.congr _ rfl rfl rfl rfl, rfl⟩
    | ok key =>
      refine ⟨consistent.add (fresh key rfl) _ rfl rfl (fun name => ?_) rfl, rfl⟩
      refine (keyNamed?_file type.canonicalName name key).trans ?_
      show (if type.canonicalName = name then some key else table.keyNamed? name) =
        (table.keyNamed? name).or (if type.canonicalName = name then some key else none)
      by_cases same : type.canonicalName = name
      · rw [if_pos same, if_pos same, ← same, consistent.byName, unnamed, Option.none_or]
      · rw [if_neg same, if_neg same, Option.or_none]

/-- Capturing the fields of a key follows if packing them does. -/
theorem follows_capture (key : TypeKey) {fields : IndexedM (List FieldEntry)}
    {plain : TableM (List FieldEntry)} (follows : Follows fields plain) :
    Follows (capture key fields) (TypeTable.capture key plain) := by
  unfold capture TypeTable.capture
  refine follows_get fun table _ => ?_
  split
  · exact follows_pure _
  · have marks : Follows (modify fun table => table.markCaptured key)
        (modify fun table => table.markCaptured key) :=
      follows_modify fun table consistent => ⟨consistent.congr _ rfl rfl rfl rfl, rfl⟩
    exact follows_bind marks fun _ => follows_bind follows fun entries =>
      follows_modify fun table consistent =>
        ⟨consistent.setFields key entries, consistent.toTypeTable_setFields key entries⟩

mutual

/-- Packing a type is not changed by indexes. -/
theorem follows_pack (structural : Bool) : ∀ type : DataType,
    Follows (pack structural type) (TypeTable.pack structural type)
  | .array element => by
    unfold pack TypeTable.pack
    refine follows_bind (follows_enter _) fun key => ?_
    split
    · exact follows_bind (follows_pack structural element) fun _ => follows_pure _
    · exact follows_pure _
  | .generic name family arguments => by
    unfold pack TypeTable.pack
    refine follows_bind (follows_enter _) fun key => ?_
    refine follows_bind (follows_packArguments structural arguments) fun _ => ?_
    split
    · exact follows_bind (follows_capture key (follows_pure _)) fun _ => follows_pure _
    · exact follows_pure _
  | .record name fields captured => by
    unfold pack TypeTable.pack
    refine follows_bind (follows_enter _) fun key => ?_
    split
    · exact follows_bind (follows_capture key (follows_packFields fields)) fun _ => follows_pure _
    · exact follows_pure _
  | .primitive kind => by
    unfold pack TypeTable.pack
    exact follows_enter _
  | .object => by
    unfold pack TypeTable.pack
    exact follows_enter _
  | .holder name => by
    unfold pack TypeTable.pack
    exact follows_enter _
  | .parameter owner position => by
    unfold pack TypeTable.pack
    exact follows_enter _

theorem follows_packArguments (structural : Bool) : ∀ types : List DataType,
    Follows (packArguments structural types) (TypeTable.packArguments structural types)
  | [] => by
    unfold packArguments TypeTable.packArguments
    exact follows_pure _
  | type :: rest => by
    unfold packArguments TypeTable.packArguments
    split
    · exact follows_bind (follows_pack structural type) fun _ =>
        follows_packArguments structural rest
    · exact follows_packArguments structural rest

theorem follows_packFields : ∀ fields : List (Field DataType),
    Follows (packFields fields) (TypeTable.packFields fields)
  | [] => by
    unfold packFields TypeTable.packFields
    exact follows_pure _
  | ⟨name, type, isPublic⟩ :: rest => by
    unfold packFields TypeTable.packFields
    exact follows_bind (follows_pack true type) fun _ =>
      follows_bind (follows_packFields rest) fun _ => follows_pure _

end

/-- Filing a key unless its name is taken leaves the first key of each name. -/
theorem keyNamed?_fileFirst {table : IndexedTable} (name other : String) (key : TypeKey) :
    (table.fileFirst name key).keyNamed? other =
      (table.keyNamed? other).or (if name = other then some key else none) := by
  have filed : (table.fileFirst name key).keyNamed? other =
      if (table.keyNamed? name).isSome then table.keyNamed? other
      else (table.file name key).keyNamed? other := by
    unfold fileFirst
    split <;> rfl
  rw [filed, keyNamed?_file]
  by_cases same : name = other
  · subst same
    cases table.keyNamed? name with
    | some first => rfl
    | none => simp
  · rw [if_neg same, if_neg same, Option.or_none, ite_self]

/-- Loading entries one by one is not changed by indexes. -/
theorem follows_loadEntries : ∀ entries : List TypeEntry,
    Follows (loadEntries entries) (TypeTable.loadEntries entries)
  | [] => follows_pure _
  | entry :: rest => by
    refine ⟨fun {table} consistent => ?_⟩
    unfold loadEntries TypeTable.loadEntries
    simp only [run_bind, run_get]
    rw [consistent.position?_isSome]
    cases fresh : table.hasKey entry.key with
    | true => exact ⟨consistent, rfl⟩
    | false =>
      have added : ((table.place entry).fileFirst entry.name entry.key).Consistent :=
        consistent.add fresh _ rfl rfl
          (fun name => keyNamed?_fileFirst entry.name name entry.key) rfl
      exact (follows_loadEntries rest).run added

/-- Loading entries is not changed by indexes. -/
theorem follows_load (entries : List TypeEntry) :
    Follows (load entries) (TypeTable.load entries) := by
  unfold load TypeTable.load
  refine follows_bind (follows_loadEntries entries) fun _ => follows_get fun table consistent => ?_
  have dangling : table.danglingKey? = table.toTypeTable.danglingKey? := by
    unfold danglingKey? TypeTable.danglingKey?
    simp only [consistent.position?_isSome]
  rw [dangling]
  cases table.toTypeTable.danglingKey? with
  | some key => exact follows_throw _
  | none => exact follows_pure _

/-! ### Searching -/

/-- What a search with marks comes to is what the search without marks comes to. -/
def Marked.Follows {Content : Type} {before : Marks} (marked : Marked Content before)
    (search : TypeTable.SearchM Content) : Prop :=
  search.run before.found = (marked.outcome, marked.after.found)

section Searching

variable {First Second : Type} {before : Marks}

theorem marked_andThen {first : Marked First before}
    {next : First → (marks : Marks) → marks.resolving = before.resolving → Marked Second marks}
    {search : TypeTable.SearchM First} {plainNext : First → TypeTable.SearchM Second}
    (follows : first.Follows search)
    (each : ∀ content marks same, (next content marks same).Follows (plainNext content)) :
    (first.andThen next).Follows (search >>= plainNext) := by
  unfold Marked.Follows at follows ⊢
  rw [run_bind, follows]
  obtain ⟨outcome, after, restored⟩ := first
  cases outcome with
  | error error => rfl
  | ok content => exact each content after restored

theorem marked_get {marked : Marked First before}
    {next : TypeTable.Found → TypeTable.SearchM First} (follows : marked.Follows (next before.found)) :
    marked.Follows (get >>= next) :=
  follows

/-- A search that may fail is tried to the same effect. -/
theorem marked_attempt {search : Marked First before} {plain : TypeTable.SearchM First}
    (follows : search.Follows plain) : search.attempt.Follows (TypeTable.attempt plain) := by
  show (Except.ok (plain.run before.found).1, (plain.run before.found).2) = _
  rw [follows]
  rfl

/-- While a key is in progress it is marked, and afterwards the mark is gone. -/
theorem marked_during {key : TypeKey}
    {search : Marked First ⟨before.found, key :: before.resolving⟩} {plain : TypeTable.SearchM First}
    (follows : search.Follows plain) : (Marked.during key search).Follows plain :=
  follows

theorem marked_mapAll {each : First → TypeTable.SearchM Second} : ∀ (items : List First)
    {before : Marks} {search : (item : First) → item ∈ items → (marks : Marks) →
      marks.resolving = before.resolving → Marked Second marks},
    (∀ item member marks same, (search item member marks same).Follows (each item)) →
      (Marked.mapAll before items search).Follows (items.mapM each)
  | [], _, _, _ => rfl
  | item :: rest, before, search, follows => by
    rw [List.mapM_cons]
    refine marked_andThen (follows item (.head _) before rfl) fun first marks same => ?_
    refine marked_andThen (marked_mapAll rest fun other member later equal =>
      follows other (.tail _ member) later (equal.trans same)) fun others final _ => ?_
    exact rfl

variable {table : IndexedTable}

mutual

/-- A search for a key is not changed by indexes and marks. -/
theorem marked_searchKey (consistent : table.Consistent) (before : Marks) (key : TypeKey) :
    (searchKey table before key).Follows
      (TypeTable.searchKey table.toTypeTable before.resolving key) := by
  rw [TypeTable.searchKey_eq, searchKey]
  refine marked_get ?_
  cases before.found.find? fun noted => noted.1 == key with
  | some noted => exact rfl
  | none =>
    dsimp only
    split
    · rename_i absent
      rw [consistent.entryAt?] at absent
      rw [absent]
      exact rfl
    · rename_i entry placed
      have present : table.entryOf? key = some entry := (consistent.entryAt? key).symm.trans placed
      rw [present]
      dsimp only
      split
      · rename_i inactive
        rw [if_neg (Bool.eq_false_iff.mp inactive)]
        have named := marked_searchName consistent ⟨before.found, key :: before.resolving⟩ entry.name
        rw [← bind_assoc]
        refine marked_andThen (marked_during (marked_andThen (marked_attempt named)
          fun byName marks same => ?_)) fun type marks _ => rfl
        unfold TypeTable.judge
        cases TypeTable.verdict entry byName with
        | known type => exact rfl
        | refused error => exact rfl
        | captured =>
          refine marked_andThen (marked_mapAll entry.fields fun field _ later equal => ?_)
            fun fields final _ => rfl
          have found := marked_searchKey consistent later field.key
          rw [equal, same] at found
          exact marked_andThen found fun type final _ => rfl
      · rename_i busy
        rw [if_pos (Bool.eq_false_or_eq_true _ |>.resolve_right busy)]
        exact rfl
termination_by (table.openEntries before.resolving, 0)
decreasing_by
  · exact Prod.Lex.left _ _ (TypeTable.openEntries_cons_lt ‹_› ‹_›)
  · rw [equal, same]
    exact Prod.Lex.left _ _ (TypeTable.openEntries_cons_lt ‹_› ‹_›)

/-- A search for a name is not changed by indexes and marks. -/
theorem marked_searchName (consistent : table.Consistent) (before : Marks) (name : String) :
    (searchName table before name).Follows
      (TypeTable.searchName table.toTypeTable before.resolving name) := by
  rw [TypeTable.searchName_eq, searchName]
  cases table.catalog.findType? name with
  | some type => exact rfl
  | none =>
    dsimp only
    split
    · rename_i parsed
      rw [parsed]
      exact rfl
    · rename_i parsed
      rw [parsed]
      exact rfl
    · rename_i element parsed
      rw [parsed]
      have shorter := TypeName.length_lt_of_parse_array parsed
      exact marked_andThen (marked_searchNested consistent before element) fun _ _ _ => rfl
    · rename_i base arguments parsed
      rw [parsed]
      dsimp only
      cases table.catalog.findType? base with
      | none => exact rfl
      | some definition =>
        refine marked_andThen (marked_mapAll arguments fun argument member marks same => ?_)
          fun types marks _ => ?_
        · have shorter := TypeName.length_lt_of_parse_generic parsed argument member
          rw [← same]
          exact marked_searchNested consistent marks argument
        · cases definition.instantiate types <;> exact rfl
termination_by (table.openEntries before.resolving, 2 * name.length + 1)
decreasing_by
  · exact Prod.Lex.right _ (by omega)
  · rw [same]
    exact Prod.Lex.right _ (by omega)

/-- A search for an element or an argument is not changed by indexes and marks. -/
theorem marked_searchNested (consistent : table.Consistent) (before : Marks) (name : String) :
    (searchNested table before name).Follows
      (TypeTable.searchNested table.toTypeTable before.resolving name) := by
  rw [TypeTable.searchNested, searchNested, consistent.byName]
  cases table.keyOf? name with
  | some key => exact marked_searchKey consistent before key
  | none =>
    refine marked_andThen (marked_searchName consistent before name) fun found marks _ => ?_
    cases found <;> exact rfl
termination_by (table.openEntries before.resolving, 2 * name.length + 2)
decreasing_by all_goals exact Prod.Lex.right _ (by omega)

end

/-- Work that searches follows if the search does, as long as no key was in progress before. -/
theorem follows_searching {Content : Type}
    {search : IndexedTable → (before : Marks) → Marked Content before}
    {plain : TypeTable → TypeTable.SearchM Content}
    (each : ∀ table : IndexedTable, table.Consistent → ∀ before : Marks, before.resolving = [] →
      (search table before).Follows (plain table.toTypeTable)) :
    Follows (searching search) (TypeTable.searching plain) := by
  refine ⟨fun {table} consistent => ?_⟩
  have follows := each table consistent ⟨table.resolved, table.resolving⟩ consistent.resolving
  have restored := (search table ⟨table.resolved, table.resolving⟩).restored
  refine ⟨consistent.congr _ rfl rfl rfl restored, ?_⟩
  show (((plain table.toTypeTable).run table.resolved).1,
    { table.toTypeTable with resolved := ((plain table.toTypeTable).run table.resolved).2 }) = _
  rw [show (plain table.toTypeTable).run table.resolved = _ from follows]
  rfl

/-- Resolving a key is not changed by indexes, and leaves no key in progress. -/
theorem follows_resolve (key : TypeKey) : Follows (resolve key) (TypeTable.resolve key) := by
  refine follows_searching fun table consistent before idle => ?_
  rw [← idle]
  exact marked_searchKey consistent before key

/-- Resolving a name is not changed by indexes, and leaves no key in progress. -/
theorem follows_resolveName (name : String) :
    Follows (resolveName name) (TypeTable.resolveName name) := by
  refine follows_searching fun table consistent before idle => ?_
  rw [← idle]
  exact marked_searchName consistent before name

end Searching

end IndexedTable

end PredicateWire
