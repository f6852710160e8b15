/-
This file proves that the order in which keys and names are looked for does not matter.
A table notes what it finds, so that a later search in it does not start from the same
table as an earlier one, and what is noted could decide whether the later one succeeds:
a search that failed in the middle has noted some keys and not others.

Two facts settle this. A search looks at the notes of the table only through the state
that it works on, and so it looks past what the table has noted before. And every
search, whether or not it succeeds, notes only what the rules of `Resolves` say, in
which no order occurs. So the main result, `resolve_asked_iff`, is about a loaded table
after any searches in it: the outcome is that in the table as it was loaded.
-/
import Mathlib.Logic.Relation
import PredicateWire.Proofs.Table.Resolvable

namespace PredicateWire

namespace TypeTable

/-! ### Searches look past what was noted before -/

/-- Searches that do the same with every item do the same with all of them. -/
theorem mapM_congr {First Second : Type} {search other : First → SearchM Second} {items : List First}
    (same : ∀ item ∈ items, search item = other item) : items.mapM search = items.mapM other := by
  induction items with
  | nil => rfl
  | cons item rest inductionHypothesis =>
    rw [List.mapM_cons, List.mapM_cons, same item (.head _),
      inductionHypothesis fun later member => same later (.tail _ member)]

section Noted

variable (table : TypeTable) (found : Found)

mutual

/-- What a table has noted is no part of a search in it: the notes are the state of the search, and
the table is asked for its entries and its catalog alone. -/
theorem searchKey_noted (active : List TypeKey) (key : TypeKey) :
    searchKey { table with resolved := found } active key = searchKey table active key := by
  rw [searchKey_eq, searchKey_eq]
  refine congrArg (get >>= ·) (funext fun noted => ?_)
  cases noted.find? fun other => other.1 == key with
  | some other => rfl
  | none =>
    have entries : entryOf? { table with resolved := found } key = table.entryOf? key := rfl
    rw [entries]
    cases present : table.entryOf? key with
    | none => rfl
    | some entry =>
      dsimp only
      split
      · rfl
      · rename_i idle
        have inactive : active.contains key = false := Bool.eq_false_iff.mpr idle
        have fields : searchField { table with resolved := found } (key :: active) =
            searchField table (key :: active) := funext fun field => by
          unfold searchField
          rw [searchKey_noted (key :: active) field.key]
        have judged : judge { table with resolved := found } (key :: active) entry =
            judge table (key :: active) entry := by
          unfold judge
          rw [fields]
        rw [searchName_noted (key :: active) entry.name, judged]
termination_by (table.openEntries active, 0)
decreasing_by all_goals exact Prod.Lex.left _ _ (openEntries_cons_lt ‹_› ‹_›)

theorem searchName_noted (active : List TypeKey) (name : String) :
    searchName { table with resolved := found } active name = searchName table active name := by
  rw [searchName_eq, searchName_eq]
  cases table.catalog.findType? name with
  | some type => rfl
  | none =>
    dsimp only
    split
    · rfl
    · rfl
    · rename_i element parsed
      have shorter := TypeName.length_lt_of_parse_array parsed
      rw [searchNested_noted active element]
    · rename_i base arguments parsed
      have each : ∀ argument ∈ arguments,
          searchNested { table with resolved := found } active argument =
            searchNested table active argument := fun argument member =>
        have shorter := TypeName.length_lt_of_parse_generic parsed argument member
        searchNested_noted active argument
      rw [mapM_congr each]
termination_by (table.openEntries active, 2 * name.length + 1)
decreasing_by all_goals exact Prod.Lex.right _ (by omega)

theorem searchNested_noted (active : List TypeKey) (name : String) :
    searchNested { table with resolved := found } active name = searchNested table active name := by
  rw [searchNested, searchNested]
  have keys : keyOf? { table with resolved := found } name = table.keyOf? name := rfl
  rw [keys]
  cases table.keyOf? name with
  | some key => exact searchKey_noted active key
  | none =>
    dsimp only
    rw [searchName_noted active name]
termination_by (table.openEntries active, 2 * name.length + 2)
decreasing_by all_goals exact Prod.Lex.right _ (by omega)

end

end Noted

/-! ### Types of keys -/

/-- A key or a name is looked for, with or without success. -/
inductive Asks (before : TypeTable) : TypeTable → Prop
  | key (key : TypeKey) : Asks before ((resolve key).run before).2
  | name (name : String) : Asks before ((resolveName name).run before).2

/-- A table differs from another one in what has been noted, and nothing wrong has. -/
def Searched (base table : TypeTable) : Prop :=
  ∃ found, table = { base with resolved := found } ∧ Right base found

section Asking

variable {base : TypeTable}

/-- A search by a name alone leaves the notes that the search by the name leaves. -/
theorem searchAlone_state (active : List TypeKey) (name : String) (found : Found) :
    ((searchAlone base active name).run found).2 = ((searchName base active name).run found).2 := by
  unfold searchAlone
  rw [Running.run_bind]
  rcases (searchName base active name).run found with ⟨error | _ | type, noted⟩ <;> rfl

/-- Looking for a key or a name notes nothing wrong, whether or not it succeeds. -/
theorem Searched.step (plain : base.PlainRecords) {before after : TypeTable}
    (searched : Searched base before) (asks : Asks before after) : Searched base after := by
  obtain ⟨found, rfl, right⟩ := searched
  cases asks with
  | key key =>
    have idle : Below base (.key key) [] := fun _ absent => by cases absent
    obtain ⟨outcome, runs, _⟩ := (settles_searchKey plain idle).run
    obtain ⟨noted, ran, notedRight⟩ := runs right
    rw [resolve, searching_run, searchKey_noted, ran]
    exact ⟨noted, rfl, notedRight⟩
  | name name =>
    have idle : Below base (.name name) [] := fun _ absent => by cases absent
    obtain ⟨outcome, runs, _⟩ := (settles_searchAlone plain idle).run
    obtain ⟨noted, ran, notedRight⟩ := runs right
    have state : ((searchAlone base [] name).run found).2 =
        ((searchName base [] name).run found).2 := searchAlone_state [] name found
    rw [ran] at state
    rw [resolveName, searching_run, searchName_noted, ← state]
    exact ⟨noted, rfl, notedRight⟩

theorem Searched.steps (plain : base.PlainRecords) {before after : TypeTable}
    (searched : Searched base before) (asked : Relation.ReflTransGen Asks before after) :
    Searched base after := by
  induction asked with
  | refl => exact searched
  | tail _ asks inductionHypothesis => exact inductionHypothesis.step plain asks

/-- Resolving a key has one outcome, whatever was looked for before. -/
theorem resolve_searched (plain : base.PlainRecords) (key : TypeKey) :
    ∃ outcome, (∀ {table}, Searched base table → ((resolve key).run table).1 = outcome) ∧
      ∀ type, outcome = .ok type ↔ Resolves base (.key key) type := by
  have idle : Below base (.key key) [] := fun _ absent => by cases absent
  obtain ⟨outcome, runs, yields⟩ := (settles_searchKey plain idle).run
  refine ⟨outcome, ?_, yields⟩
  rintro _ ⟨found, rfl, right⟩
  obtain ⟨noted, ran, _⟩ := runs right
  rw [resolve, searching_run, searchKey_noted, ran]

end Asking

/-- Resolving a key succeeds exactly when the rules give it a type, and yields this type, whatever
was looked for before in the loaded table and whether or not it was found. So the outcome is the one
in the table as it was loaded, and a key that needs itself is never resolved. Records have to be
captured for plain names only, which loading does not check. -/
theorem resolve_asked_iff {catalog : Catalog} {source : Nat → UInt32} {entries : List TypeEntry}
    {loaded : Result Unit} {start after : TypeTable}
    (installed : (load entries).run (empty catalog source) = (loaded, start))
    (plain : start.PlainRecords) (asked : Relation.ReflTransGen Asks start after) (key : TypeKey) :
    (∀ type, ((resolve key).run after).1 = .ok type ↔ Resolves start (.key key) type) ∧
      ((resolve key).run after).1 = ((resolve key).run start).1 ∧
      (Relation.TransGen (Demands start) (.key key) (.key key) →
        ∀ type, ((resolve key).run after).1 ≠ .ok type) := by
  have nothing : start.resolved = [] := by
    obtain ⟨added, same⟩ := load_state entries (empty catalog source)
    rw [installed] at same
    exact congrArg TypeTable.resolved same
  have fresh : Searched start start :=
    ⟨[], by rw [← nothing], fun _ absent => by cases absent⟩
  obtain ⟨outcome, same, yields⟩ := resolve_searched plain key
  rw [same (fresh.steps plain asked), same fresh]
  exact ⟨yields, rfl, fun cyclic type found =>
    ((yields type).mp found).not_demands_itself cyclic⟩

/-- The entry of a record with one field. -/
def pointEntry : TypeEntry :=
  ⟨⟨"#2"⟩, "Point", true, [⟨"X", ⟨"#1"⟩⟩]⟩

/-- The entry of a record whose field holds an array of such records. -/
def chainEntry : TypeEntry :=
  ⟨⟨"#4"⟩, "Chain", true, [⟨"Next", ⟨"#5"⟩⟩]⟩

/-- Entries of two records and of their arrays. -/
def linkedEntries : List TypeEntry :=
  [.plain ⟨"#1"⟩ "sys.Int32", pointEntry, .plain ⟨"#3"⟩ "Point[]", chainEntry,
    .plain ⟨"#5"⟩ "Chain[]"]

/-- The table of these entries over a catalog that knows 32-bit integers. -/
def linked : TypeTable :=
  { empty (Catalog.empty.registerType .int32) (fun _ => 0) with entries := linkedEntries }

theorem load_linkedEntries :
    (load linkedEntries).run (empty (Catalog.empty.registerType .int32) fun _ => 0) =
      (.ok (), linked) := by
  rfl

theorem plainRecords_linked : linked.PlainRecords := by
  have plain : ∀ entry ∈ linkedEntries, entry.structural = true →
      TypeName.parse entry.name = .ok (.plain entry.name) := by
    have bare (key : TypeKey) (name : String) : (TypeEntry.plain key name).structural = true →
        TypeName.parse name = .ok (.plain name) := fun structural => by cases structural
    exact List.forall_mem_cons.mpr ⟨bare _ _, List.forall_mem_cons.mpr ⟨fun _ => rfl,
      List.forall_mem_cons.mpr ⟨bare _ _, List.forall_mem_cons.mpr ⟨fun _ => rfl,
        List.forall_mem_singleton.mpr (bare _ _)⟩⟩⟩⟩
  intro entry member structural
  rw [plain entry member structural]
  exact ⟨fun _ other => (by cases other), fun _ _ other => (by cases other)⟩

theorem resolves_linked : Resolves linked (.key ⟨"#3"⟩)
    (.array (.record "Point" [⟨"X", .int32, true⟩] true)) := by
  have number : Resolves linked (.key ⟨"#1"⟩) .int32 := .named rfl (.known rfl)
  have fields : ∀ pair ∈ pointEntry.fields.zip [DataType.int32],
      Resolves linked (.key pair.1.key) pair.2 := List.forall_mem_singleton.mpr number
  have present : linked.entryOf? ⟨"#2"⟩ = some pointEntry := rfl
  have point : Resolves linked (.key ⟨"#2"⟩)
      (.record pointEntry.name (receivedFields pointEntry.fields [.int32]) true) :=
    .captured present rfl rfl rfl rfl fields
  exact .named rfl (.array rfl rfl point)

theorem demands_linked :
    Relation.TransGen (Demands linked) (.key ⟨"#4"⟩) (.key ⟨"#4"⟩) := by
  have chain : Demands linked (linked.goalOf "Chain") (.name "Chain[]") := .element rfl rfl
  have present : linked.entryOf? ⟨"#5"⟩ = some (.plain ⟨"#5"⟩ "Chain[]") := rfl
  have chains : Demands linked (.name "Chain[]") (.key ⟨"#5"⟩) := .name present
  have held : linked.entryOf? ⟨"#4"⟩ = some chainEntry := rfl
  have next : Demands linked (.key ⟨"#5"⟩) (.key ⟨"#4"⟩) := .field held rfl rfl (.head _)
  exact ((Relation.TransGen.single chain).tail chains).tail next

/-- After two failures the array is still found, and the record that needs itself is not. -/
theorem resolve_asked_iff_linked :
    let failed := ((resolve ⟨"#5"⟩).run linked).2
    let after := ((resolveName "Chain[]").run failed).2
    (load linkedEntries).run (empty (Catalog.empty.registerType .int32) fun _ => 0) =
        (.ok (), linked) ∧
      linked.PlainRecords ∧ Relation.ReflTransGen Asks linked after ∧
      ((resolve ⟨"#3"⟩).run after).1 =
        .ok (.array (.record "Point" [⟨"X", .int32, true⟩] true)) ∧
      Relation.TransGen (Demands linked) (.key ⟨"#4"⟩) (.key ⟨"#4"⟩) ∧
      ∀ type, ((resolve ⟨"#4"⟩).run after).1 ≠ .ok type := by
  intro failed after
  have asked : Relation.ReflTransGen Asks linked after :=
    (Relation.ReflTransGen.single (.key _)).tail (.name _)
  have found := (resolve_asked_iff load_linkedEntries plainRecords_linked asked ⟨"#3"⟩).1
  have cyclic := (resolve_asked_iff load_linkedEntries plainRecords_linked asked ⟨"#4"⟩).2.2
  exact ⟨load_linkedEntries, plainRecords_linked, asked, (found _).mpr resolves_linked,
    demands_linked, cyclic demands_linked⟩

end TypeTable

end PredicateWire
