/-
This file proves that a table is never mistaken about the names that its catalog knows
by itself. Whatever else is looked for before and in between, found or not, such a name
is found to be of the type that the catalog says. What could get in the way is that the
name is looked for below itself, and refused there. But on the way down from a name that
the catalog knows, all names are known, and each is shorter than the one before, so no
key of one comes up again.

The table may be forged, and nothing is asked of it but that its keys and names are
different. Names that the catalog does not know may be found or refused depending on the
order of searches, and nothing is said about them: the notes of a search are right where
the catalog has a say (`Sure`), and that is an invariant of every search, whatever it
looks for.
-/
import PredicateWire.Proofs.Table.Asked
import PredicateWire.Proofs.Table.Names
import PredicateWire.Proofs.Table.Supply

namespace PredicateWire

namespace TypeTable

/-- The catalog of a table alone says which type a name stands for. -/
abbrev Told (table : TypeTable) : String → DataType → Prop :=
  Received (empty table.catalog fun _ => 0)

/-- A type is the one that the catalog alone says that the name of a key stands for, if it says
anything. -/
def Sure (table : TypeTable) (key : TypeKey) (type : DataType) : Prop :=
  ∀ entry other, table.entryOf? key = some entry → Told table entry.name other → type = other

/-- A search notes nothing wrong about names that the catalog knows, and what is told is what it
comes to. -/
abbrev Heeds {Content : Type} (table : TypeTable) (search : SearchM Content)
    (told : Content → Prop) : Prop :=
  Promises (NotedAs (Sure table)) search (fun found => ∀ content, told content → found = content)
    fun _ => ∀ content, ¬told content

/-- If the catalog knows the name of a key in progress, it knows the name that is looked for, which
then is shorter than a size allows. -/
def Ahead (table : TypeTable) (active : List TypeKey) (name : String) (size : Nat) : Prop :=
  ∀ key ∈ active, ∀ {entry type}, table.entryOf? key = some entry → Told table entry.name type →
    (∃ other, Told table name other) ∧ size ≤ entry.name.length

section

variable {table : TypeTable} {name : String} {type : DataType} {active : List TypeKey}

/-- A name is told to be one type at most. -/
theorem Told.unique {other : DataType} (told : Told table name type)
    (otherwise : Told table name other) : type = other :=
  Received.unique (tracked_empty _ _).toSound told otherwise

/-- A plain name is told only if the catalog has it. -/
theorem not_told_plain {plain : String} (unknown : table.catalog.findType? name = none)
    (parsed : TypeName.parse name = .ok (.plain plain)) : ¬Told table name type := by
  rintro (known | ⟨_, array⟩ | ⟨_, generic⟩ | ⟨_, _, held⟩)
  · cases unknown.symm.trans known
  · cases parsed.symm.trans array
  · cases parsed.symm.trans generic
  · cases held

/-- A name that cannot be taken apart is told only if the catalog has it. -/
theorem not_told_malformed {error : Error} (unknown : table.catalog.findType? name = none)
    (refused : TypeName.parse name = .error error) : ¬Told table name type := by
  rintro (known | ⟨_, array⟩ | ⟨_, generic⟩ | ⟨_, plain⟩)
  · cases unknown.symm.trans known
  · cases refused.symm.trans array
  · cases refused.symm.trans generic
  · cases refused.symm.trans plain

/-- An array that is told is the array of what its element is told to be. -/
theorem told_array {element : String} (unknown : table.catalog.findType? name = none)
    (parsed : TypeName.parse name = .ok (.array element)) (told : Told table name type) :
    ∃ inner, Told table element inner ∧ type = .array inner := by
  cases told with
  | known known => cases unknown.symm.trans known
  | array _ again inner =>
    cases parsed.symm.trans again
    exact ⟨_, inner, rfl⟩
  | generic _ again => cases parsed.symm.trans again
  | captured _ again => cases parsed.symm.trans again

/-- An instance that is told is a definition of the catalog, filled in with what its arguments are
told to be. -/
theorem told_generic {base : String} {arguments : List String}
    (unknown : table.catalog.findType? name = none)
    (parsed : TypeName.parse name = .ok (.generic base arguments)) (told : Told table name type) :
    ∃ definition types, table.catalog.findType? base = some definition ∧
      List.Forall₂ (Told table) arguments types ∧ definition.instantiate types = .ok type := by
  cases told with
  | known known => cases unknown.symm.trans known
  | array _ again => cases parsed.symm.trans again
  | generic _ again found lengths each instantiated =>
    cases parsed.symm.trans again
    exact ⟨_, _, found, List.forall₂_iff_zip.mpr ⟨lengths, fun member => each _ member⟩,
      instantiated⟩
  | captured _ again => cases parsed.symm.trans again

/-- The arguments of a generic name that is told are told, and make the type that it stands for. -/
theorem told_arguments {base : String} {arguments : List String} {definition : DataType}
    (unknown : table.catalog.findType? name = none)
    (parsed : TypeName.parse name = .ok (.generic base arguments))
    (based : table.catalog.findType? base = some definition) (told : Told table name type) :
    ∃ types, List.Forall₂ (Told table) arguments types ∧
      definition.instantiate types = .ok type := by
  obtain ⟨_, types, found, each, instantiated⟩ := told_generic unknown parsed told
  cases based.symm.trans found
  exact ⟨types, each, instantiated⟩

/-- A name that is ahead of a size is ahead of smaller ones. -/
theorem Ahead.weaken {size smaller : Nat} (ahead : Ahead table active name size)
    (fewer : smaller ≤ size) : Ahead table active name smaller :=
  fun key member _ _ present told =>
    ⟨(ahead key member present told).1, Nat.le_trans fewer (ahead key member present told).2⟩

/-- A part of a name is ahead of what the name is not behind. -/
theorem Ahead.part {part : String} (ahead : Ahead table active name name.length)
    (shorter : part.length < name.length)
    (parts : ∀ type, Told table name type → ∃ other, Told table part other) :
    Ahead table active part (part.length + 1) := by
  intro key member entry type present told
  obtain ⟨⟨other, named⟩, longer⟩ := ahead key member present told
  exact ⟨parts other named, by omega⟩

/-- A name that the catalog does not know is looked for only where no key in progress has a name
that the catalog knows. -/
theorem Ahead.untold {size : Nat} (ahead : Ahead table active name size)
    (unknown : ∀ type, ¬Told table name type) (other : String) (bound : Nat) :
    Ahead table active other bound :=
  fun key member _ _ present told =>
    absurd (ahead key member present told).1.choose_spec (unknown _)

/-- When a key is entered, its name is the bound for what is looked for below it. -/
theorem Ahead.cons {key : TypeKey} {entry : TypeEntry}
    (ahead : Ahead table active entry.name (entry.name.length + 1))
    (present : table.entryOf? key = some entry) :
    Ahead table (key :: active) entry.name entry.name.length := by
  refine List.forall_mem_cons.mpr ⟨fun again told => ?_, ahead.weaken (Nat.le_succ _)⟩
  cases present.symm.trans again
  exact ⟨⟨_, told⟩, Nat.le_refl _⟩

/-- Contents are the right ones if each is what it would have to be. -/
theorem eq_of_forall₂ {Item Content : Type} {right : Item → Content → Prop} {items : List Item}
    {contents others : List Content}
    (agree : List.Forall₂ (fun item content => ∀ other, right item other → content = other) items
      contents) (each : List.Forall₂ right items others) : contents = others := by
  induction agree generalizing others with
  | nil =>
    cases each
    rfl
  | cons first _ inductionHypothesis =>
    cases each with
    | cons right rest => rw [first _ right, inductionHypothesis rest]

/-- The judgement of an entry follows what its name has come to. If the catalog knows the name,
the entry is judged to be of this type; if it is judged otherwise, the catalog does not know the
name. -/
theorem verdict_told {entry : TypeEntry} {byName : Result (Option DataType)}
    (meets : Meets (fun found => ∀ content,
      (∃ type, content = some type ∧ Told table entry.name type) → found = content)
      (fun _ => ∀ content, ¬∃ type, content = some type ∧ Told table entry.name type) byName) :
    match verdict entry byName with
    | .known type => ∀ other, Told table entry.name other → type = other
    | .refused _ => ∀ other, ¬Told table entry.name other
    | .captured => ∀ other, ¬Told table entry.name other := by
  match byName, meets with
  | .ok (some type), found =>
    intro other told
    cases found _ ⟨other, rfl, told⟩
    rfl
  | .ok none, found =>
    have unknown : ∀ other, ¬Told table entry.name other := fun other told => by
      cases found _ ⟨other, rfl, told⟩
    unfold verdict
    cases entry.structural <;> exact unknown
  | .error error, failed =>
    have unknown : ∀ other, ¬Told table entry.name other :=
      fun other told => failed _ ⟨other, rfl, told⟩
    unfold verdict
    cases entry.structural <;> cases error <;> exact unknown

/-- What an entry is judged to be is what the catalog says about its name. Its fields are looked for
only where the catalog says nothing. -/
theorem heeds_judge {entry : TypeEntry} {byName : Result (Option DataType)}
    (meets : Meets (fun found => ∀ content,
      (∃ type, content = some type ∧ Told table entry.name type) → found = content)
      (fun _ => ∀ content, ¬∃ type, content = some type ∧ Told table entry.name type) byName)
    (fields : (∀ other, ¬Told table entry.name other) → ∀ field ∈ entry.fields,
      ∃ told, Heeds table (searchKey table active field.key) told) :
    Heeds table (judge table active entry byName) (Told table entry.name) := by
  have judged := verdict_told meets
  unfold judge
  generalize verdict entry byName = decided at judged ⊢
  cases decided with
  | known type => exact promises_pure judged
  | refused error => exact promises_throw judged
  | captured =>
    have each : ∀ field ∈ entry.fields, Promises (NotedAs (Sure table))
        (searchField table active field) (fun _ => True)
        fun _ => ∀ other, ¬Told table entry.name other := by
      intro field member
      obtain ⟨_, heeds⟩ := fields judged field member
      exact promises_bind (heeds.weaken (fun _ _ => trivial) fun _ _ => judged) fun _ _ =>
        promises_pure trivial
    refine promises_bind (promises_mapM each) fun made _ => promises_pure ?_
    exact fun other told => absurd told (judged other)

mutual

/-- A search for a key comes to what the catalog says about the name of the key. -/
theorem heeds_searchKey (sound : table.Sound) {active : List TypeKey} {key : TypeKey}
    (ahead : ∀ entry, table.entryOf? key = some entry →
      Ahead table active entry.name (entry.name.length + 1)) :
    Heeds table (searchKey table active key) fun type =>
      ∃ entry, table.entryOf? key = some entry ∧ Told table entry.name type := by
  rw [searchKey_eq]
  refine promises_get fun found good => ?_
  split
  · rename_i noted seen
    have tested := List.find?_some seen
    have sure := good noted (List.mem_of_find?_eq_some seen)
    rw [eq_of_beq tested] at sure
    exact promises_pure fun type ⟨entry, present, told⟩ => sure entry type present told
  · split
    · rename_i absent
      refine promises_throw fun type ⟨entry, present, _⟩ => ?_
      cases absent.symm.trans present
    · rename_i entry present
      have only : ∀ {type}, (∃ entry, table.entryOf? key = some entry ∧
          Told table entry.name type) → Told table entry.name type := by
        rintro type ⟨other, again, told⟩
        cases present.symm.trans again
        exact told
      split
      · rename_i busy
        refine promises_throw fun type told => ?_
        have longer := (ahead entry present key (List.contains_iff_mem.mp busy) present
          (only told)).2
        omega
      · rename_i idle
        have inactive : active.contains key = false := Bool.eq_false_iff.mpr idle
        have behind := ahead entry present
        refine promises_bind (promises_attempt (heeds_searchName sound (behind.cons present)))
          fun byName meets => ?_
        have chosen : Heeds table (judge table (key :: active) entry byName)
            (Told table entry.name) := by
          refine heeds_judge meets fun unknown field _ =>
            ⟨_, heeds_searchKey sound fun other _ => ?_⟩
          exact (behind.cons present).untold unknown _ _
        refine promises_bind (chosen.weaken (fun _ => id) fun _ unknown type told =>
          unknown type (only told)) fun type told => ?_
        have sure : Sure table key type := by
          intro other heardType again heard
          cases present.symm.trans again
          exact told _ heard
        exact (promises_note sure).weaken
          (fun type sure other ⟨entry, present, told⟩ => sure entry other present told) fun _ => id
termination_by (table.openEntries active, 0)
decreasing_by all_goals exact Prod.Lex.left _ _ (openEntries_cons_lt ‹_› ‹_›)

/-- A search for a name comes to what the catalog says about it. -/
theorem heeds_searchName (sound : table.Sound) {active : List TypeKey} {name : String}
    (ahead : Ahead table active name name.length) :
    Heeds table (searchName table active name) fun found =>
      ∃ type, found = some type ∧ Told table name type := by
  rw [searchName_eq]
  split
  · rename_i type known
    refine promises_pure ?_
    rintro _ ⟨other, rfl, told⟩
    rw [Told.unique (.known known) told]
  · rename_i unknown
    split
    · rename_i refused
      exact promises_throw fun _ ⟨type, _, told⟩ => not_told_malformed unknown refused told
    · rename_i parsed
      exact promises_pure fun _ ⟨type, _, told⟩ => absurd told (not_told_plain unknown parsed)
    · rename_i element parsed
      have shorter := TypeName.length_lt_of_parse_array parsed
      have nested := heeds_searchNested sound (ahead.part shorter fun type told =>
        have ⟨inner, toldOf, _⟩ := told_array unknown parsed told
        ⟨inner, toldOf⟩)
      refine promises_bind (nested.weaken (fun _ => id) ?_) fun inner found => promises_pure ?_
      · rintro _ untold _ ⟨type, _, told⟩
        obtain ⟨inner, toldOf, _⟩ := told_array unknown parsed told
        exact untold inner toldOf
      · rintro _ ⟨type, rfl, told⟩
        obtain ⟨other, toldOf, rfl⟩ := told_array unknown parsed told
        rw [found other toldOf]
    · rename_i base arguments parsed
      split
      · rename_i missing
        refine promises_pure fun _ ⟨type, _, told⟩ => ?_
        obtain ⟨_, _, found, _⟩ := told_generic unknown parsed told
        cases missing.symm.trans found
      · rename_i definition based
        have toldOf : ∀ argument ∈ arguments, ∀ type, Told table name type →
            ∃ other, Told table argument other := by
          intro argument member type told
          obtain ⟨types, each, _⟩ := told_arguments unknown parsed based told
          obtain ⟨lengths, paired⟩ := List.forall₂_iff_zip.mp each
          obtain ⟨other, pairMember⟩ := exists_mem_zip lengths member
          exact ⟨other, paired pairMember⟩
        have each : ∀ argument ∈ arguments, Promises (NotedAs (Sure table))
            (searchNested table active argument)
            (fun found => ∀ type, Told table argument type → found = type)
            fun _ => ∀ content, ¬∃ type, content = some type ∧ Told table name type := by
          intro argument member
          have shorter := TypeName.length_lt_of_parse_generic parsed argument member
          refine (heeds_searchNested sound (ahead.part shorter (toldOf argument member))).weaken
            (fun _ => id) ?_
          rintro _ untold _ ⟨type, _, told⟩
          obtain ⟨other, heard⟩ := toldOf argument member type told
          exact untold other heard
        refine promises_bind (promises_mapM_each each) fun types found => ?_
        -- The types found are the ones that are told, if any are.
        have same : ∀ {type}, Told table name type → definition.instantiate types = .ok type := by
          intro type told
          obtain ⟨others, heard, instantiated⟩ := told_arguments unknown parsed based told
          rw [eq_of_forall₂ found heard, instantiated]
        split
        · rename_i type instantiated
          refine promises_pure ?_
          rintro _ ⟨other, rfl, told⟩
          rw [Except.ok.inj (instantiated.symm.trans (same told))]
        · rename_i refused
          refine promises_throw ?_
          rintro _ ⟨other, _, told⟩
          cases refused.symm.trans (same told)
termination_by (table.openEntries active, 2 * name.length + 1)
decreasing_by all_goals exact Prod.Lex.right _ (by omega)

/-- A search for an element or an argument comes to what the catalog says about its name. -/
theorem heeds_searchNested (sound : table.Sound) {active : List TypeKey} {name : String}
    (ahead : Ahead table active name (name.length + 1)) :
    Heeds table (searchNested table active name) (Told table name) := by
  rw [searchNested]
  split
  · rename_i key found
    obtain ⟨entry, held, rfl, rfl⟩ := exists_entry_of_keyOf? found
    have present := entryOf?_key sound held
    refine (heeds_searchKey sound fun other again => ?_).weaken
      (fun type comes other told => comes other ⟨entry, present, told⟩)
      fun _ untold other told => untold other ⟨entry, present, told⟩
    cases present.symm.trans again
    exact ahead
  · refine promises_bind ((heeds_searchName sound (ahead.weaken (Nat.le_succ _))).weaken
      (fun _ => id) fun _ untold type told => untold _ ⟨type, rfl, told⟩) fun found comes => ?_
    split
    · rename_i type
      refine promises_pure fun other told => ?_
      cases comes _ ⟨other, rfl, told⟩
      rfl
    · refine promises_throw fun other told => ?_
      cases comes _ ⟨other, rfl, told⟩
termination_by (table.openEntries active, 2 * name.length + 2)
decreasing_by all_goals exact Prod.Lex.right _ (by omega)

end

end

/-! ### Tables in the course of searches -/

/-- A table differs from another one in what has been noted, and nothing wrong has been about names
that the catalog knows. -/
def Certain (base table : TypeTable) : Prop :=
  ∃ found, table = { base with resolved := found } ∧ NotedAs (Sure base) found

section

variable {base : TypeTable}

/-- A table that has noted nothing has noted nothing wrong. -/
theorem certain_self (fresh : base.resolved = []) : Certain base base :=
  ⟨[], by rw [← fresh], fun _ member => nomatch member⟩

/-- Looking for a key leaves a table certain, and a name that the catalog knows is found to be what
it says. -/
theorem promises_resolve_sure (sound : base.Sound) (key : TypeKey) :
    Promises (Certain base) (resolve key) (Sure base key) fun _ => True := by
  refine ⟨fun {table outcome final} certain ran => ?_⟩
  obtain ⟨found, rfl, sure⟩ := certain
  have idle : ∀ entry, base.entryOf? key = some entry →
      Ahead base [] entry.name (entry.name.length + 1) := fun _ _ _ member => nomatch member
  rw [resolve, searching_run, searchKey_noted] at ran
  cases ran
  obtain ⟨noted, meets⟩ := (heeds_searchKey sound idle).run sure rfl
  exact ⟨⟨_, rfl, noted⟩, meets.weaken
    (fun type comes entry other present told => comes other ⟨entry, present, told⟩)
    fun _ _ => trivial⟩

/-- The key of a type is found to be of the type that the catalog has for the name, if it is found.
It may still be refused when the search was begun below another key. -/
theorem promises_resolve_told (sound : base.Sound) {spoken type : DataType}
    (knows : base.Knows spoken) (told : Told base spoken.canonicalName type) :
    Promises (Certain base) (resolve (base.keyFor spoken)) (· = type) fun _ => True := by
  obtain ⟨entry, held, same, named⟩ := exists_entry_of_keyOf? (keyOf?_of_knows knows)
  refine (promises_resolve_sure sound _).weaken (fun found sure => ?_) fun _ => id
  refine sure entry type ?_ (named ▸ told)
  rw [← same]
  exact entryOf?_key sound held

end

end TypeTable

end PredicateWire
