/-
This file says where the types come from that a search finds: from the catalog, or from
types that were found before. A property that the catalog supplies is a property of
everything that is found, also when it depends on the name or the key that it is found
for.

Nothing is asked of the table, so the results hold of forged ones too. Whatever is to be
proved about all types that a receiver comes by, that they are closed, that they go by
their names or that their fields are public, is proved by saying that the catalog has
the property and that arrays, filled definitions and captured records inherit it. Errors
are followed on the way: no search reports that a tree is too deep.
-/
import PredicateWire.Proofs.Contracts
import PredicateWire.Proofs.Table.Steps
import PredicateWire.Table.Reference

namespace PredicateWire

/-- A property of types that all types of a catalog have, and that types made of types with the
property have again. A captured record has public fields only. -/
structure Catalog.Supplies (catalog : Catalog) (holds : DataType → Prop) : Prop where
  known : ∀ {name type}, catalog.findType? name = some type → holds type
  array : ∀ {element}, holds element → holds (.array element)
  instantiated : ∀ {definition types type}, DataType.instantiate definition types = .ok type →
    (∀ argument ∈ types, holds argument) → holds type
  captured : ∀ {name fields}, (∀ field ∈ fields, field.isPublic = true ∧ holds field.type) →
    holds (.record name fields true)

namespace TypeTable

/-- Properties of types for names and for keys. The types of the catalog have the one for their
names, and types that are made for a name have it again. A key stands for the name of its entry, and
a name for the key of its first entry. -/
structure Names (table : TypeTable) (holds : String → DataType → Prop)
    (keyed : TypeKey → DataType → Prop) : Prop where
  known : ∀ {name type}, table.catalog.findType? name = some type → holds name type
  array : ∀ {name element type}, TypeName.parse name = .ok (.array element) →
    holds element type → holds name (.array type)
  instantiated : ∀ {name base arguments definition types type},
    TypeName.parse name = .ok (.generic base arguments) →
    table.catalog.findType? base = some definition → List.Forall₂ holds arguments types →
    DataType.instantiate definition types = .ok type → holds name type
  captured : ∀ {name fields},
    (∀ field ∈ fields, field.isPublic = true ∧ ∃ key, keyed key field.type) →
      holds name (.record name fields true)
  filed : ∀ {key entry type}, table.entryOf? key = some entry → holds entry.name type →
    keyed key type
  entered : ∀ {name key type}, table.keyOf? name = some key → keyed key type → holds name type

/-- A property that the catalog supplies holds for all names and keys. -/
theorem names_of_supplies {table : TypeTable} {holds : DataType → Prop}
    (supplies : table.catalog.Supplies holds) : table.Names (fun _ => holds) fun _ => holds where
  known := supplies.known
  array := fun _ => supplies.array
  instantiated := fun _ _ fit instantiated =>
    supplies.instantiated instantiated (forall_mem_of_forall₂ fit)
  captured := fun fit => supplies.captured fun field member =>
    ⟨(fit field member).1, (fit field member).2.choose_spec⟩
  filed := fun _ => id
  entered := fun _ => id

/-! ### Errors of searches -/

theorem not_isDepth_of_parse {name : String} {error : Error}
    (refused : TypeName.parse name = .error error) : ¬error.IsDepth := by
  unfold TypeName.parse at refused
  split at refused
  · cases refused
  · cases refused
    exact fun deep => nomatch deep

theorem not_isDepth_of_instantiate {definition : DataType} {types : List DataType} {error : Error}
    (refused : definition.instantiate types = .error error) : ¬error.IsDepth := by
  unfold DataType.instantiate at refused
  split at refused
  · cases refused
    exact fun deep => nomatch deep
  · split at refused <;> cases refused
    exact fun deep => nomatch deep

/-! ### What is found -/

/-- Everything noted has a property. -/
def Noted (holds : DataType → Prop) (found : Found) : Prop :=
  ∀ noted ∈ found, holds noted.2

/-- Everything noted has a property for its key. -/
def NotedAs (keyed : TypeKey → DataType → Prop) (found : Found) : Prop :=
  ∀ noted ∈ found, keyed noted.1 noted.2

section

variable {table : TypeTable} {holds : String → DataType → Prop} {keyed : TypeKey → DataType → Prop}
  {expected : Error → Prop} {Content : Type}

/-- The outcome of a search as a value meets the contract of the search. -/
theorem promises_attempt {search : SearchM Content} {wanted : Content → Prop} {fears : Error → Prop}
    (promises : Promises (NotedAs keyed) search wanted fears) :
    Promises (NotedAs keyed) (attempt search) (Meets wanted fears) expected := by
  refine ⟨fun {start outcome final} good ran => ?_⟩
  have shown : (attempt search).run start = (.ok (search.run start).1, (search.run start).2) := rfl
  rw [shown] at ran
  cases ran
  exact promises.run good rfl

/-- What the judgement of an entry says was found, or else the error that was met. -/
theorem verdict_cases (entry : TypeEntry) {fits : DataType → Prop}
    {byName : Result (Option DataType)}
    (meets : Meets (fun found => ∀ type ∈ found, fits type) (fun error => ¬error.IsDepth) byName) :
    match verdict entry byName with
    | .known type => fits type
    | .refused error => ¬error.IsDepth
    | .captured => True := by
  match byName, meets with
  | .ok (some type), found => exact found type rfl
  | .ok none, _ =>
    unfold verdict
    cases entry.structural with
    | true => trivial
    | false => exact fun deep => nomatch deep
  | .error error, shallow =>
    unfold verdict
    cases entry.structural <;> cases error <;> trivial

theorem promises_note {key : TypeKey} {type : DataType} (suits : keyed key type) :
    Promises (NotedAs keyed) (note key type) (keyed key) expected := by
  refine promises_bind (promises_modify fun noted good => ?_) fun _ _ => promises_pure suits
  rintro other member
  rcases List.mem_cons.mp member with rfl | earlier
  · exact suits
  · exact good other earlier

mutual

/-- What is found for a key has the property for the key. -/
theorem Names.promises_searchKey (names : table.Names holds keyed) (active : List TypeKey)
    (key : TypeKey) :
    Promises (NotedAs keyed) (searchKey table active key) (keyed key)
      fun error => ¬error.IsDepth := by
  rw [searchKey_eq]
  refine promises_get fun found good => ?_
  split
  · rename_i noted seen
    have tested := List.find?_some seen
    have suits := good noted (List.mem_of_find?_eq_some seen)
    rw [eq_of_beq tested] at suits
    exact promises_pure suits
  · split
    · exact promises_throw fun deep => nomatch deep
    · rename_i entry present
      split
      · exact promises_throw fun deep => nomatch deep
      · rename_i idle
        have inactive : active.contains key = false := Bool.eq_false_iff.mpr idle
        have named := names.promises_searchName (key :: active) entry.name
        refine promises_bind (promises_attempt named) fun byName meets => ?_
        have judged := verdict_cases entry meets
        have chosen : Promises (NotedAs keyed) (judge table (key :: active) entry byName)
            (holds entry.name) fun error => ¬error.IsDepth := by
          unfold judge
          revert judged
          cases verdict entry byName with
          | known type => exact fun suits => promises_pure suits
          | refused error => exact fun shallow => promises_throw shallow
          | captured =>
            intro _
            have fields : ∀ field ∈ entry.fields, Promises (NotedAs keyed)
                (searchField table (key :: active) field)
                (fun made => made.isPublic = true ∧ ∃ key, keyed key made.type)
                fun error => ¬error.IsDepth :=
              fun field _ => promises_bind (names.promises_searchKey (key :: active) field.key)
                fun _ suits => promises_pure ⟨rfl, _, suits⟩
            refine promises_bind (promises_mapM fields) fun made each => ?_
            exact promises_pure (names.captured each)
        exact promises_bind chosen fun type suits => promises_note (names.filed present suits)
termination_by (table.openEntries active, 0)
decreasing_by all_goals exact Prod.Lex.left _ _ (openEntries_cons_lt ‹_› ‹_›)

/-- What is found for a name has the property for the name. -/
theorem Names.promises_searchName (names : table.Names holds keyed) (active : List TypeKey)
    (name : String) :
    Promises (NotedAs keyed) (searchName table active name)
      (fun found => ∀ type ∈ found, holds name type) fun error => ¬error.IsDepth := by
  rw [searchName_eq]
  split
  · rename_i type known
    refine promises_pure fun other same => ?_
    cases same
    exact names.known known
  · split
    · rename_i refused
      exact promises_throw (not_isDepth_of_parse refused)
    · exact promises_pure fun _ same => nomatch same
    · rename_i element parsed
      have shorter := TypeName.length_lt_of_parse_array parsed
      refine promises_bind (names.promises_searchNested active element) fun type suits => ?_
      refine promises_pure fun other same => ?_
      cases same
      exact names.array parsed suits
    · rename_i base arguments parsed
      split
      · exact promises_pure fun _ same => nomatch same
      · rename_i definition based
        have each : ∀ argument ∈ arguments, Promises (NotedAs keyed)
            (searchNested table active argument) (holds argument) fun error => ¬error.IsDepth :=
          fun argument member =>
            have shorter := TypeName.length_lt_of_parse_generic parsed argument member
            names.promises_searchNested active argument
        refine promises_bind (promises_mapM_each each) fun types found => ?_
        split
        · rename_i type instantiated
          refine promises_pure fun other same => ?_
          cases same
          exact names.instantiated parsed based found instantiated
        · rename_i refused
          exact promises_throw (not_isDepth_of_instantiate refused)
termination_by (table.openEntries active, 2 * name.length + 1)
decreasing_by all_goals exact Prod.Lex.right _ (by omega)

/-- What is found for an element or an argument has the property for its name. -/
theorem Names.promises_searchNested (names : table.Names holds keyed) (active : List TypeKey)
    (name : String) :
    Promises (NotedAs keyed) (searchNested table active name) (holds name)
      fun error => ¬error.IsDepth := by
  rw [searchNested]
  split
  · rename_i key found
    exact (names.promises_searchKey active key).weaken (fun _ => names.entered found) fun _ => id
  · refine promises_bind (names.promises_searchName active name) fun found suits => ?_
    split
    · rename_i type
      exact promises_pure (suits type rfl)
    · exact promises_throw fun deep => nomatch deep
termination_by (table.openEntries active, 2 * name.length + 2)
decreasing_by all_goals exact Prod.Lex.right _ (by omega)

end

end

/-- What is found for a key has every property that the catalog supplies. -/
theorem promises_searchKey {table : TypeTable} {holds : DataType → Prop}
    (supplies : table.catalog.Supplies holds) (active : List TypeKey) (key : TypeKey) :
    Promises (Noted holds) (searchKey table active key) holds fun error => ¬error.IsDepth :=
  (names_of_supplies supplies).promises_searchKey active key

end TypeTable

end PredicateWire
