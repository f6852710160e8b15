/-
This file proves that type keys are opaque to the receiving side of a type table. Keys
are compared with one another and carried about, and that is all: a table whose keys are
renamed, no two of them to the same key, finds the same types under the new keys and
fails with errors of the same kind. The errors themselves may name a key, so more than
the kind cannot be expected to agree.

Renaming is taken through the operations one by one. The lookups come first, and they
need the renaming to be injective, since two keys must not be confused; then the search
with its notes, resolving, references, and the loading of entries. Each lemma says that
the operation commutes with the renaming, so that those about larger operations follow
by the rules for `Commutes`.
-/
import PredicateWire.Proofs.Mirroring
import PredicateWire.Proofs.Table.Supply

namespace PredicateWire

namespace TypeTable

/-! ### Renamed tables -/

/-- What has been found, under renamed keys. -/
def renameFound (rename : TypeKey → TypeKey) (found : Found) : Found :=
  found.map fun noted => (rename noted.1, noted.2)

/-- The table with every key in it renamed. -/
def renameKeys (rename : TypeKey → TypeKey) (table : TypeTable) : TypeTable :=
  { table with
    entries := table.entries.map (TypeEntry.renameKeys rename)
    captured := table.captured.map rename
    resolved := renameFound rename table.resolved }

section

variable {rename : TypeKey → TypeKey} {table : TypeTable}

/-- A renamed table has the same names, under renamed keys. -/
theorem keyOf?_renameKeys (name : String) :
    (table.renameKeys rename).keyOf? name = (table.keyOf? name).map rename := by
  unfold keyOf? renameKeys
  rw [List.find?_map, Option.map_map, Option.map_map]
  rfl

variable (injective : Function.Injective rename)

include injective

theorem beq_rename (key other : TypeKey) : (rename key == rename other) = (key == other) := by
  rw [Bool.eq_iff_iff, beq_iff_eq, beq_iff_eq]
  exact injective.eq_iff

theorem entryOf?_renameKeys (key : TypeKey) :
    (table.renameKeys rename).entryOf? (rename key) =
      (table.entryOf? key).map (TypeEntry.renameKeys rename) := by
  unfold entryOf? renameKeys
  rw [List.find?_map]
  refine congrArg (Option.map _) (congrArg (List.find? · table.entries) (funext fun entry => ?_))
  exact beq_rename injective entry.key key

theorem hasKey_renameKeys (key : TypeKey) :
    (table.renameKeys rename).hasKey (rename key) = table.hasKey key := by
  rw [hasKey, hasKey, entryOf?_renameKeys injective, Option.isSome_map]

theorem contains_rename (keys : List TypeKey) (key : TypeKey) :
    (keys.map rename).contains (rename key) = keys.contains key := by
  rw [Bool.eq_iff_iff, List.contains_iff_mem, List.contains_iff_mem,
    List.mem_map_of_injective injective]

/-- What has been noted for a key is noted for the renamed key. -/
theorem find?_renameFound (found : Found) (key : TypeKey) :
    ((renameFound rename found).find? fun noted => noted.1 == rename key) =
      (found.find? fun noted => noted.1 == key).map fun noted => (rename noted.1, noted.2) := by
  unfold renameFound
  rw [List.find?_map]
  refine congrArg (Option.map _) (congrArg (List.find? · found) (funext fun noted => ?_))
  exact beq_rename injective noted.1 key

end

/-! ### Searches -/

/-- Work on a search commutes with the renaming of keys. -/
abbrev SearchCommutes (rename : TypeKey → TypeKey) {First Second : Type}
    (matching : First → Second → Prop) : SearchM First → SearchM Second → Prop :=
  Commutes (renameFound rename) matching

section

variable {rename : TypeKey → TypeKey} {table : TypeTable} {First Second : Type}

/-- Trying a search commutes if the search does. A failure is known by its kind only. -/
theorem commutes_attempt {matching : First → Second → Prop} {search : SearchM First}
    {twin : SearchM Second} (commutes : SearchCommutes rename matching search twin) :
    SearchCommutes rename (Result.Matches matching) (attempt search) (attempt twin) :=
  ⟨fun same => commutes.outcome same⟩

/-- An entry is judged by its name and by whether the search by name has found something or failed,
not by its key. -/
theorem verdict_renameKeys (rename : TypeKey → TypeKey) (entry : TypeEntry)
    {byName other : Result (Option DataType)} (same : Result.Matches Eq byName other) :
    match verdict entry byName, verdict (entry.renameKeys rename) other with
    | .known type, .known twin => type = twin
    | .refused error, .refused fault => error.kind = fault.kind
    | .captured, .captured => True
    | _, _ => False := by
  match byName, other, same with
  | .ok (some type), .ok _, rfl => rfl
  | .ok none, .ok _, rfl =>
    unfold verdict TypeEntry.renameKeys
    cases entry.structural <;> trivial
  | .error error, .error fault, kinds =>
    unfold verdict TypeEntry.renameKeys
    cases entry.structural <;> cases error <;> cases fault <;>
      first | exact kinds | trivial

theorem commutes_note (key : TypeKey) (type : DataType) :
    SearchCommutes rename Eq (note key type) (note (rename key) type) :=
  commutes_bind (commutes_modify fun _ => rfl) fun _ _ _ => commutes_pure rfl

mutual

/-- A key finds the type that the renamed key finds in the renamed table. -/
theorem commutes_searchKey (injective : Function.Injective rename) (active : List TypeKey)
    (key : TypeKey) :
    SearchCommutes rename Eq (searchKey table active key)
      (searchKey (table.renameKeys rename) (active.map rename) (rename key)) := by
  rw [searchKey_eq, searchKey_eq]
  refine commutes_get fun found => ?_
  rw [find?_renameFound injective, entryOf?_renameKeys injective]
  cases found.find? fun noted => noted.1 == key with
  | some noted => exact commutes_pure rfl
  | none =>
    cases present : table.entryOf? key with
    | none => exact commutes_throw rfl
    | some entry =>
      dsimp only [Option.map_none, Option.map_some]
      rw [contains_rename injective]
      split
      · exact commutes_throw rfl
      · rename_i idle
        have inactive : active.contains key = false := Bool.eq_false_iff.mpr idle
        have named := commutes_searchName injective (key :: active) entry.name
        refine commutes_bind (commutes_attempt named) fun byName other same => ?_
        have judged : SearchCommutes rename Eq (judge table (key :: active) entry byName)
            (judge (table.renameKeys rename) ((key :: active).map rename)
              (entry.renameKeys rename) other) := by
          have agree := verdict_renameKeys rename entry same
          unfold judge
          revert agree
          cases verdict entry byName <;> cases verdict (entry.renameKeys rename) other <;>
            intro agree
          case known.known => exact commutes_pure agree
          case refused.refused => exact commutes_throw agree
          case captured.captured =>
            have fields : ∀ field ∈ entry.fields, SearchCommutes rename Eq
                (searchField table (key :: active) field)
                (searchField (table.renameKeys rename) ((key :: active).map rename)
                  (field.renameKeys rename)) := fun field _ =>
              commutes_bind (commutes_searchKey injective (key :: active) field.key)
                fun _ _ found => found ▸ commutes_pure rfl
            refine commutes_bind (commutes_mapM fields) fun made others each => commutes_pure ?_
            rw [List.forall₂_eq_eq_eq] at each
            rw [each]
            rfl
          all_goals exact agree.elim
        refine commutes_bind judged fun type _ found => ?_
        rw [← found]
        exact commutes_note key type
termination_by (table.openEntries active, 0)
decreasing_by all_goals exact Prod.Lex.left _ _ (openEntries_cons_lt ‹_› ‹_›)

/-- A name stands for the same type in a renamed table. -/
theorem commutes_searchName (injective : Function.Injective rename) (active : List TypeKey)
    (name : String) :
    SearchCommutes rename Eq (searchName table active name)
      (searchName (table.renameKeys rename) (active.map rename) name) := by
  rw [searchName_eq, searchName_eq]
  have catalog : (table.renameKeys rename).catalog = table.catalog := rfl
  rw [catalog]
  cases table.catalog.findType? name with
  | some type => exact commutes_pure rfl
  | none =>
    dsimp only
    split
    · exact commutes_throw rfl
    · exact commutes_pure rfl
    · rename_i element parsed
      have shorter := TypeName.length_lt_of_parse_array parsed
      exact commutes_bind (commutes_searchNested injective active element) fun _ _ found =>
        found ▸ commutes_pure rfl
    · rename_i base arguments parsed
      cases table.catalog.findType? base with
      | none => exact commutes_pure rfl
      | some definition =>
        have each : ∀ argument ∈ arguments, SearchCommutes rename Eq
            (searchNested table active argument)
            (searchNested (table.renameKeys rename) (active.map rename) (id argument)) :=
          fun argument member =>
            have shorter := TypeName.length_lt_of_parse_generic parsed argument member
            commutes_searchNested injective active argument
        have mapped := commutes_mapM each
        rw [List.map_id] at mapped
        refine commutes_bind mapped fun types others found => ?_
        rw [List.forall₂_eq_eq_eq] at found
        subst found
        split
        · exact commutes_pure rfl
        · exact commutes_throw rfl
termination_by (table.openEntries active, 2 * name.length + 1)
decreasing_by all_goals exact Prod.Lex.right _ (by omega)

/-- The name of an element or an argument stands for the same type in a renamed table. -/
theorem commutes_searchNested (injective : Function.Injective rename) (active : List TypeKey)
    (name : String) :
    SearchCommutes rename Eq (searchNested table active name)
      (searchNested (table.renameKeys rename) (active.map rename) name) := by
  rw [searchNested, searchNested, keyOf?_renameKeys]
  cases table.keyOf? name with
  | some key => exact commutes_searchKey injective active key
  | none =>
    refine commutes_bind (commutes_searchName injective active name) fun found _ same => ?_
    subst same
    cases found with
    | some type => exact commutes_pure rfl
    | none => exact commutes_throw rfl
termination_by (table.openEntries active, 2 * name.length + 2)
decreasing_by all_goals exact Prod.Lex.right _ (by omega)

end

end

/-! ### Resolving -/

/-- Work on a table commutes with the renaming of keys. -/
abbrev TableCommutes (rename : TypeKey → TypeKey) {First Second : Type}
    (matching : First → Second → Prop) : TableM First → TableM Second → Prop :=
  Commutes (renameKeys rename) matching

section

variable {rename : TypeKey → TypeKey} {First Second : Type}

theorem commutes_searching {matching : First → Second → Prop} {search : TypeTable → SearchM First}
    {twin : TypeTable → SearchM Second} (each : ∀ table : TypeTable,
      SearchCommutes rename matching (search table) (twin (table.renameKeys rename))) :
    TableCommutes rename matching (searching search) (searching twin) := by
  refine ⟨fun {table other} same => ?_⟩
  subst same
  have runs := (each table).run (rfl : renameFound rename table.resolved = _)
  have noted : (table.renameKeys rename).resolved = renameFound rename table.resolved := rfl
  rw [searching_run, searching_run, noted]
  revert runs
  rcases (search table).run table.resolved with ⟨error | type, found⟩ <;>
    rcases (twin (table.renameKeys rename)).run (renameFound rename table.resolved)
      with ⟨fault | other, others⟩ <;> intro runs
  · obtain ⟨kinds, rfl⟩ := runs
    exact ⟨kinds, rfl⟩
  · exact runs.elim
  · exact runs.elim
  · obtain ⟨matched, rfl⟩ := runs
    exact ⟨matched, rfl⟩

/-- Resolving a renamed key yields what resolving the key yields. -/
theorem commutes_resolve (injective : Function.Injective rename) (key : TypeKey) :
    TableCommutes rename Eq (resolve key) (resolve (rename key)) :=
  commutes_searching fun _ => commutes_searchKey injective [] key

theorem commutes_resolveAll (injective : Function.Injective rename) (keys : List TypeKey) :
    TableCommutes rename Eq (resolveAll keys) (resolveAll (keys.map rename)) := by
  have mapped := commutes_mapM fun key (_ : key ∈ keys) => commutes_resolve injective key
  rw [List.forall₂_eq_eq_eq] at mapped
  exact mapped

theorem commutes_only {Candidate : Type} (typeName name : String) (parameters : List DataType)
    (candidates : List Candidate) :
    TableCommutes rename Eq (only typeName name parameters candidates)
      (only typeName name parameters candidates) := by
  unfold only
  split
  · exact commutes_pure rfl
  · exact commutes_throw rfl

theorem commutes_lift (result : Result First) :
    TableCommutes rename Eq (lift result) (lift result) := by
  cases result with
  | ok content => exact commutes_pure rfl
  | error error => exact commutes_throw rfl

end

end TypeTable

/-! ### References -/

open TypeTable

section

variable {rename : TypeKey → TypeKey} (injective : Function.Injective rename)

include injective

/-- A reference with renamed keys refers to the same method. -/
theorem MethodReference.commutes_resolve (reference : MethodReference) :
    TableCommutes rename Eq reference.resolve (reference.renameKeys rename).resolve := by
  unfold resolve
  refine commutes_bind (TypeTable.commutes_resolve injective reference.declaringType) ?_
  rintro declaring _ rfl
  refine commutes_bind (commutes_resolveAll injective reference.parameters) ?_
  rintro parameters _ rfl
  refine commutes_get fun table => ?_
  refine commutes_bind (commutes_only _ _ _ _) ?_
  rintro definition _ rfl
  have arity : (reference.renameKeys rename).genericArity = reference.genericArity := rfl
  rw [arity]
  split
  · exact commutes_pure rfl
  · refine commutes_bind (commutes_resolveAll injective reference.genericArguments) ?_
    rintro arguments _ rfl
    exact commutes_lift _

theorem ConstructorReference.commutes_resolve (reference : ConstructorReference) :
    TableCommutes rename Eq reference.resolve (reference.renameKeys rename).resolve := by
  unfold resolve
  refine commutes_bind (TypeTable.commutes_resolve injective reference.declaringType) ?_
  rintro declaring _ rfl
  refine commutes_bind (commutes_resolveAll injective reference.parameters) ?_
  rintro parameters _ rfl
  exact commutes_get fun table => commutes_only _ _ _ _

theorem MemberReference.commutes_resolve (reference : MemberReference) :
    TableCommutes rename Eq reference.resolve (reference.renameKeys rename).resolve := by
  unfold resolve
  refine commutes_bind (TypeTable.commutes_resolve injective reference.declaringType) ?_
  rintro declaring _ rfl
  refine commutes_get fun table => ?_
  dsimp only [renameKeys, TypeTable.renameKeys]
  split
  · exact commutes_pure rfl
  · exact commutes_throw rfl

/-! ### Loading -/

namespace TypeTable

theorem commutes_loadEntries (entries : List TypeEntry) :
    TableCommutes rename (fun _ _ => True) (loadEntries entries)
      (loadEntries (entries.map (TypeEntry.renameKeys rename))) := by
  induction entries with
  | nil => exact commutes_pure trivial
  | cons entry rest inductionHypothesis =>
    rw [List.map_cons]
    unfold loadEntries
    refine commutes_get fun table => ?_
    have taken : (table.renameKeys rename).hasKey (entry.renameKeys rename).key =
        table.hasKey entry.key := hasKey_renameKeys injective entry.key
    refine commutes_check (Bool.eq_iff_iff.mp taken.symm) ?_ ?_
    · rfl
    refine commutes_bind (commutes_modify fun table => ?_) fun _ _ _ => inductionHypothesis
    unfold push renameKeys
    rw [List.map_append, List.map_singleton]

/-- A key is missing in the renamed table when it is missing before. -/
theorem danglingKey?_renameKeys (table : TypeTable) :
    (table.renameKeys rename).danglingKey? = table.danglingKey?.map rename := by
  have keys : (table.renameKeys rename).entries.flatMap (fun entry =>
        entry.fields.map FieldEntry.key) =
      (table.entries.flatMap fun entry => entry.fields.map FieldEntry.key).map rename := by
    unfold renameKeys
    rw [List.flatMap_map, List.map_flatMap]
    refine List.flatMap_congr fun entry _ => ?_
    rw [TypeEntry.renameKeys, List.map_map, List.map_map]
    rfl
  unfold danglingKey?
  rw [keys, List.find?_map]
  refine congrArg (Option.map rename) (congrArg (List.find? · _) (funext fun key => ?_))
  exact congrArg not (hasKey_renameKeys injective key)

/-- Loading renamed entries makes the renamed table, or both loads fail. -/
theorem commutes_load (entries : List TypeEntry) :
    TableCommutes rename (fun _ _ => True) (load entries)
      (load (entries.map (TypeEntry.renameKeys rename))) := by
  unfold load
  refine commutes_bind (commutes_loadEntries injective entries) fun _ _ _ => ?_
  refine commutes_get fun table => ?_
  rw [danglingKey?_renameKeys injective]
  cases table.danglingKey? with
  | none => exact commutes_pure trivial
  | some key => exact commutes_throw rfl

/-- Renamed entries make the renamed table, or neither list of entries makes a table. The entries of
a packet are all that a receiver's table starts from. -/
theorem ofEntries_renameKeys (catalog : Catalog) (source : Nat → UInt32)
    (entries : List TypeEntry) :
    Result.Matches (fun table other => other = table.renameKeys rename)
      (ofEntries catalog source entries)
      (ofEntries catalog source (entries.map (TypeEntry.renameKeys rename))) := by
  have start : empty catalog source = (empty catalog source).renameKeys rename := rfl
  have runs := (commutes_load injective entries).run start
  unfold ofEntries
  revert runs
  rcases (load entries).run (empty catalog source) with ⟨error | _, table⟩ <;>
    rcases (load (entries.map (TypeEntry.renameKeys rename))).run (empty catalog source)
      with ⟨fault | _, other⟩ <;> intro runs
  · exact runs.1
  · exact runs.elim
  · exact runs.elim
  · exact runs.2

end TypeTable

end

end PredicateWire
