/-
This file proves what a load that fails leaves in a type table. Loading stops at the
first entry whose key is taken, or it comes to the end and finds a field key that is
missing everywhere. Either way the entries that it got past stay, with their keys and
names, as if they alone had been loaded; whatever was in the table before is as it was.
Tables are those that any operations have come to, with or without success.

So a failed load is not without effect, and it may spoil the table for good: a field key
that is missing stays missing, and every later load that does not bring an entry for it
fails. The table is as before exactly when the load got past no entry at all.
-/
import PredicateWire.Proofs.Table.History

namespace PredicateWire

namespace IndexedTable

open Running

/-! ### Tables in use -/

/-- An operation on a table. -/
inductive Operation
  | pack (structural : Bool) (type : DataType)
  | load (entries : List TypeEntry)
  | resolve (key : TypeKey)
  | resolveName (name : String)

/-- The table after an operation, whatever its outcome. -/
def Operation.after (table : IndexedTable) : Operation → IndexedTable
  | pack structural type => ((IndexedTable.pack structural type).run table).2
  | load entries => ((IndexedTable.load entries).run table).2
  | resolve key => ((IndexedTable.resolve key).run table).2
  | resolveName name => ((IndexedTable.resolveName name).run table).2

/-- The table after several operations. -/
def afterAll (table : IndexedTable) (operations : List Operation) : IndexedTable :=
  operations.foldl Operation.after table

theorem Consistent.after {table : IndexedTable} (consistent : table.Consistent) :
    ∀ operation : Operation, (operation.after table).Consistent
  | .pack structural type => ((follows_pack structural type).run consistent).1
  | .load entries => ((follows_load entries).run consistent).1
  | .resolve key => ((follows_resolve key).run consistent).1
  | .resolveName name => ((follows_resolveName name).run consistent).1

theorem Consistent.afterAll {table : IndexedTable} (consistent : table.Consistent)
    (operations : List Operation) : (table.afterAll operations).Consistent := by
  induction operations generalizing table with
  | nil => exact consistent
  | cons operation rest inductionHypothesis =>
    exact inductionHypothesis (consistent.after operation)

/-! ### Installing entries -/

/-- Installs an entry: it gets the next position, and its name is filed under its key unless it is
filed already. -/
def install (table : IndexedTable) (entry : TypeEntry) : IndexedTable :=
  (table.place entry).fileFirst entry.name entry.key

/-- Installs several entries in order. -/
def installAll (table : IndexedTable) (entries : List TypeEntry) : IndexedTable :=
  entries.foldl install table

/-- The entries up to the first one whose key is taken, by the table or by an entry before it. -/
def untaken (table : IndexedTable) : List TypeEntry → List TypeEntry
  | [] => []
  | entry :: rest =>
    if (table.position? entry.key).isSome then [] else entry :: (table.install entry).untaken rest

section

variable {table : IndexedTable}

/-- Installing changes the entries and the two indexes only. -/
theorem installAll_state (entries : List TypeEntry) : table.installAll entries =
    { table with
      entries := table.entries ++ entries
      byKey := (table.installAll entries).byKey
      byName := (table.installAll entries).byName } := by
  induction entries generalizing table with
  | nil => rw [List.append_nil]; rfl
  | cons entry rest inductionHypothesis =>
    refine (@inductionHypothesis (table.install entry)).trans ?_
    rw [show (table.install entry).entries = table.entries ++ [entry] from rfl, List.append_assoc]
    rfl

theorem entries_installAll (entries : List TypeEntry) :
    (table.installAll entries).entries = table.entries ++ entries := by
  rw [installAll_state]

/-- All entries that are not taken are loaded, and the first one that is taken stops the work. -/
theorem loadEntries_cases (entries : List TypeEntry) :
    (table.untaken entries = entries ∧
      (loadEntries entries).run table = (.ok (), table.installAll entries)) ∨
    ∃ entry others, entries = table.untaken entries ++ entry :: others ∧
      ((table.installAll (table.untaken entries)).position? entry.key).isSome = true ∧
      (loadEntries entries).run table = (.error (.codec (.duplicateKey entry.key.text)),
        table.installAll (table.untaken entries)) := by
  induction entries generalizing table with
  | nil => exact .inl ⟨rfl, rfl⟩
  | cons entry rest inductionHypothesis =>
    unfold untaken loadEntries
    simp only [run_bind, run_get]
    split
    · rename_i taken
      exact .inr ⟨entry, rest, rfl, taken, rfl⟩
    · rcases @inductionHypothesis (table.install entry) with
        ⟨all, ran⟩ | ⟨stop, others, split, stopped, ran⟩
      · exact .inl ⟨congrArg _ all, ran⟩
      · exact .inr ⟨stop, others, congrArg _ split, stopped, ran⟩

/-- Entries that are not taken stay so when the others are left out. -/
theorem untaken_untaken (entries : List TypeEntry) :
    table.untaken (table.untaken entries) = table.untaken entries := by
  induction entries generalizing table with
  | nil => rfl
  | cons entry rest inductionHypothesis =>
    rw [untaken]
    split
    · rfl
    · rename_i free
      rw [untaken, if_neg free, inductionHypothesis]

/-- Whether or not loading succeeds, the entries that are not taken are installed. -/
theorem load_after (entries : List TypeEntry) :
    ((load entries).run table).2 = table.installAll (table.untaken entries) := by
  rw [load, run_bind]
  rcases @loadEntries_cases table entries with ⟨all, ran⟩ | ⟨_, _, _, _, ran⟩
  · rw [ran, all]
    dsimp only
    rw [run_bind, run_get]
    dsimp only
    split <;> rfl
  · rw [ran]

/-- Loading fails at the first entry that is taken, or for the first field key that is missing when
all entries are installed. -/
theorem load_error {entries : List TypeEntry} {error : Error}
    (failed : ((load entries).run table).1 = .error error) :
    (∃ entry others, entries = table.untaken entries ++ entry :: others ∧
      ((table.installAll (table.untaken entries)).position? entry.key).isSome = true ∧
      error = .codec (.duplicateKey entry.key.text)) ∨
    table.untaken entries = entries ∧
      ∃ key, (table.installAll (table.untaken entries)).danglingKey? = some key ∧
        error = .unknownTypeKey key.text := by
  rw [load, run_bind] at failed
  rcases @loadEntries_cases table entries with
    ⟨all, ran⟩ | ⟨entry, others, split, taken, ran⟩
  · rw [ran] at failed
    dsimp only at failed
    rw [run_bind, run_get, ← all] at failed
    refine .inr ⟨all, ?_⟩
    cases dangling : (table.installAll (table.untaken entries)).danglingKey? with
    | none =>
      simp only [dangling] at failed
      cases failed
    | some key =>
      simp only [dangling] at failed
      exact ⟨key, rfl, (Except.error.inj failed).symm⟩
  · rw [ran] at failed
    exact .inl ⟨entry, others, split, taken, (Except.error.inj failed).symm⟩

/-- A key has a position when one of the entries has it. -/
theorem Consistent.position?_isSome_iff (consistent : table.Consistent) {key : TypeKey} :
    (table.position? key).isSome = true ↔ key ∈ table.entries.map TypeEntry.key := by
  rw [consistent.position?_isSome, TypeTable.hasKey_iff, List.mem_map]

/-- A dangling key is asked for by a field and has no position. -/
theorem mem_of_danglingKey? {key : TypeKey} (dangling : table.danglingKey? = some key) :
    (∃ entry ∈ table.entries, key ∈ entry.fields.map FieldEntry.key) ∧
      (table.position? key).isSome = false := by
  have missing := List.find?_some dangling
  refine ⟨List.mem_flatMap.mp (List.mem_of_find?_eq_some dangling), ?_⟩
  exact Bool.not_eq_true' _ |>.mp missing

/-- A field key that no entry has makes every load fail that does not bring an entry for it. -/
theorem Consistent.load_fails (consistent : table.Consistent) {key : TypeKey}
    (asked : ∃ entry ∈ table.entries, key ∈ entry.fields.map FieldEntry.key)
    (missing : key ∉ table.entries.map TypeEntry.key) {entries : List TypeEntry}
    (absent : key ∉ entries.map TypeEntry.key) :
    ∃ error, ((load entries).run table).1 = .error error := by
  rcases @loadEntries_cases table entries with ⟨_, ran⟩ | ⟨_, _, _, _, ran⟩
  · have after := (follows_loadEntries entries).run consistent
    rw [load, run_bind, ran]
    dsimp only
    rw [run_bind, run_get]
    dsimp only
    cases dangling : (table.installAll entries).danglingKey? with
    | some first => exact ⟨_, rfl⟩
    | none =>
      obtain ⟨entry, member, field⟩ := asked
      rw [ran] at after
      have held : entry ∈ (table.installAll entries).entries := by
        rw [entries_installAll]
        exact List.mem_append_left _ member
      have tested := List.find?_eq_none.mp dangling key (List.mem_flatMap.mpr ⟨entry, held, field⟩)
      have present : ((table.installAll entries).position? key).isSome = true := by
        rwa [Bool.not_eq_true', Bool.not_eq_false] at tested
      rw [after.1.position?_isSome_iff, entries_installAll, List.map_append,
        List.mem_append] at present
      exact absurd present (not_or.mpr ⟨missing, absent⟩)
  · rw [load, run_bind, ran]
    exact ⟨_, rfl⟩

end

/-! ### Loads that fail -/

/-- Entries were added to a table, and nothing else in it has changed. -/
structure Gains (table after : IndexedTable) (added : List TypeEntry) : Prop where
  state : after =
    { table with
      entries := table.entries ++ added
      byKey := after.byKey
      byName := after.byName }
  consistent : after.Consistent
  position : ∀ {key position}, table.position? key = some position →
    after.position? key = some position
  named : ∀ {name key}, table.keyNamed? name = some key → after.keyNamed? name = some key

/-- Loading adds the entries that are not taken and changes nothing else, whether or not it
succeeds. -/
theorem Consistent.gains_load {table : IndexedTable} (consistent : table.Consistent)
    (entries : List TypeEntry) :
    table.Gains ((load entries).run table).2 (table.untaken entries) := by
  have after := ((follows_load entries).run consistent).1
  rw [load_after] at after ⊢
  have added := @entries_installAll table (table.untaken entries)
  refine ⟨installAll_state _, after, fun {key position} placed => ?_, fun {name key} filed => ?_⟩
  · have keyed := consistent.byKey.mp placed
    refine after.byKey.mpr ?_
    rw [added, List.map_append, List.getElem?_append_left (List.getElem?_eq_some_iff.mp keyed).1]
    exact keyed
  · have first := (consistent.byName name).symm.trans filed
    rw [after.byName, TypeTable.keyOf?, added, List.find?_append, Option.map_or]
    exact Option.or_eq_some_iff.mpr (.inl first)

/-- A load that fails, after any operations, keeps the entries before the one that it stops at, or
all of them if a field key is missing. The table is as after loading these alone, so it is as before
exactly when there are none. A missing field key stays so: later loads that do not bring its
entry fail too. -/
theorem load_failed {catalog : Catalog} {source : Nat → UInt32} (operations : List Operation)
    {entries : List TypeEntry} {error : Error} {after : IndexedTable}
    (failed : (load entries).run ((empty catalog source).afterAll operations) =
      (.error error, after)) :
    let table := (empty catalog source).afterAll operations
    ∃ kept rest, entries = kept ++ rest ∧ table.Gains after kept ∧
      after = ((load kept).run table).2 ∧ (after = table ↔ kept = []) ∧
      ((∃ entry others, rest = entry :: others ∧ entry.key ∈ after.entries.map TypeEntry.key ∧
          error = .codec (.duplicateKey entry.key.text)) ∨
        rest = [] ∧ ∃ key, error = .unknownTypeKey key.text ∧
          (∃ entry ∈ after.entries, key ∈ entry.fields.map FieldEntry.key) ∧
          key ∉ after.entries.map TypeEntry.key ∧
          ∀ others, key ∉ others.map TypeEntry.key →
            ∃ later, ((load others).run after).1 = .error later) := by
  intro table
  have consistent : table.Consistent := (consistent_empty catalog source).afterAll operations
  have gains := consistent.gains_load entries
  have afterEq : ((load entries).run table).2 = after := congrArg Prod.snd failed
  have installed : after = table.installAll (table.untaken entries) := afterEq ▸ load_after entries
  rw [afterEq] at gains
  have same : after = ((load (table.untaken entries)).run table).2 := by
    rw [load_after, untaken_untaken, installed]
  have unchanged : after = table ↔ table.untaken entries = [] := by
    constructor
    · intro equal
      have lengths := congrArg (fun table => table.entries.length) (equal.symm.trans gains.state)
      exact List.eq_nil_of_length_eq_zero (by simpa using lengths)
    · intro none
      rw [installed, none]
      rfl
  rcases load_error (congrArg Prod.fst failed) with
    ⟨entry, others, split, taken, errorEq⟩ | ⟨all, key, dangling, errorEq⟩
  · have held := gains.consistent.position?_isSome_iff.mp (installed ▸ taken)
    exact ⟨table.untaken entries, entry :: others, split, gains, same, unchanged,
      .inl ⟨entry, others, rfl, held, errorEq⟩⟩
  · obtain ⟨asked, unplaced⟩ := mem_of_danglingKey? (installed ▸ dangling)
    have missing : key ∉ after.entries.map TypeEntry.key := fun member => by
      cases unplaced.symm.trans (gains.consistent.position?_isSome_iff.mpr member)
    exact ⟨table.untaken entries, [], by rw [all, List.append_nil], gains, same, unchanged,
      .inr ⟨rfl, key, errorEq, asked, missing,
        fun others absent => gains.consistent.load_fails asked missing absent⟩⟩

/-- The entry of the integers. -/
def integerEntry : TypeEntry :=
  .plain ⟨"#00000001"⟩ "sys.Int32"

/-- Loading the integers twice fails. The table was empty and has an entry then, and the key of the
integers, which was unknown, is resolved to them. -/
theorem load_twice :
    let before := empty Catalog.standard UInt32.ofNat
    let ran := (load [integerEntry, integerEntry]).run before
    ran.1 = .error (.codec (.duplicateKey "#00000001")) ∧
      before.size = 0 ∧ ran.2.size = 1 ∧
      ((resolve integerEntry.key).run before).1 = .error (.unknownTypeKey "#00000001") ∧
      ((resolve integerEntry.key).run ran.2).1 = .ok .int32 := by
  intro before ran
  have consistent : before.Consistent := consistent_empty _ _
  have unknown : ((resolve integerEntry.key).run before).1 =
      .error (.unknownTypeKey "#00000001") := by
    show (searchKey before ⟨[], []⟩ integerEntry.key).outcome = _
    rw [searchKey]
    rfl
  have loaded : ran.2.Consistent :=
    ((follows_load [integerEntry, integerEntry]).run consistent).1
  have plain : ran.2.PlainRecords :=
    List.forall_mem_singleton.mpr fun structural => by cases structural
  have present : ran.2.entryOf? integerEntry.key = some integerEntry := rfl
  have known : ran.2.catalog.findType? integerEntry.name = some .int32 := rfl
  exact ⟨rfl, rfl, rfl, unknown,
    resolve_of_resolves loaded rfl plain (.named present (.known known))⟩

/-- An entry with a field whose key is missing. -/
def danglingEntry : TypeEntry :=
  ⟨⟨"#00000002"⟩, "Order", true, [⟨"Id", ⟨"#00000009"⟩⟩]⟩

/-- A table in which texts were packed keeps both entries of a load that fails for a missing field
key, and the key of the texts. After that not even loading nothing succeeds. -/
theorem load_failed_dangling :
    let table := (empty Catalog.standard UInt32.ofNat).afterAll [.pack true .string]
    let ran := (load [integerEntry, danglingEntry]).run table
    ran.1 = .error (.unknownTypeKey "#00000009") ∧
      table.Gains ran.2 [integerEntry, danglingEntry] ∧
      ran.2.keyNamed? "sys.String" = some ⟨"#00000000"⟩ ∧
      ∃ later, ((load []).run ran.2).1 = .error later := by
  intro table ran
  have failed : ran.1 = .error (.unknownTypeKey "#00000009") := by decide +kernel
  have packed : table.keyNamed? "sys.String" = some ⟨"#00000000"⟩ := by decide +kernel
  obtain ⟨kept, rest, split, gains, -, -, ⟨entry, others, -, -, errorEq⟩ |
    ⟨rfl, key, errorEq, -, -, later⟩⟩ := load_failed [.pack true .string] (Prod.ext failed rfl)
  · cases errorEq
  · rw [List.append_nil] at split
    subst split
    exact ⟨failed, gains, gains.named packed, later [] (fun member => nomatch member)⟩

end IndexedTable

end PredicateWire
