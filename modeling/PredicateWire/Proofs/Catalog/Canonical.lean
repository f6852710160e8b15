/-
This file says which catalogs are canonical. A catalog files types under names, and
nothing in its interface keeps these from being at odds: a type may be filed under the
name of another one, and a generic definition may list its parameters in any order, so
that filling them in swaps the arguments that a name spells out. A type fits a name when
neither is the case, and a catalog is canonical when all of its types fit theirs.

The library is canonical, and registering a type that fits its own base name keeps a
catalog so. Of a canonical catalog it holds that an instance of a definition has the
arguments that it was made with, which is what connects the name of a generic type to
the type.
-/
import PredicateWire.Proofs.Entries
import PredicateWire.Proofs.Types.Ordinary

namespace PredicateWire

/-- A type may be filed under a name: it is the canonical name of the type, the type is not a
generic parameter, and if it is a generic definition it lists its own parameters in order. -/
structure DataType.Fits (name : String) (type : DataType) : Prop where
  named : type.canonicalName = name
  bound : type.isParameter = false
  ordered : type.isGenericDefinition = true → ∃ base family arity, type = definition base family arity

/-- Every type of a canonical catalog fits the name it is filed under. -/
def Catalog.Canonical (catalog : Catalog) : Prop :=
  ∀ ⦃name type⦄, catalog.findType? name = some type → type.Fits name

/-- The canonical name of a definition is the name it was made with. -/
theorem DataType.canonicalName_definition (name : String) (family : Family) (arity : Nat) :
    (definition name family arity).canonicalName = name := by
  rw [definition, canonicalName, if_pos]
  rw [List.all_map]
  exact List.all_eq_true.mpr fun _ _ => rfl

/-- Filling in a definition of a canonical catalog gives the instance with the given arguments. Its
parameters stand in order, so each argument goes where it stands. -/
theorem Catalog.Canonical.generic_of_instantiate {catalog : Catalog} (canonical : catalog.Canonical)
    {base : String} {definition type : DataType} {types : List DataType}
    (found : catalog.findType? base = some definition)
    (instantiated : definition.instantiate types = .ok type) :
    types ≠ [] ∧ ∃ family, type = .generic base family types := by
  obtain ⟨name, family, arity, rfl⟩ :=
    (canonical found).ordered (DataType.instantiate_eq_ok.mp instantiated).1
  obtain ⟨present, rfl, rfl⟩ := DataType.instantiate_definition_eq_ok.mp instantiated
  have named := (canonical found).named
  rw [DataType.canonicalName_definition] at named
  exact ⟨present, family, named ▸ rfl⟩

/-! ### Registering -/

/-- A type that is registered is found under its base name, and nothing else changes. -/
theorem Catalog.findType?_registerType (catalog : Catalog) (type : DataType) (name : String) :
    (catalog.registerType type).findType? name =
      if type.baseName = name then some type else catalog.findType? name := by
  unfold registerType findType?
  rw [Entries.get?_append, Entries.get?_filter_ne, Entries.get?_cons]
  by_cases same : type.baseName = name
  · rw [if_pos same, if_pos same, if_pos same, Option.none_or]
  · rw [if_neg same, if_neg same, if_neg same]
    exact Option.or_none

/-- Registering a type that fits its base name keeps a catalog canonical. -/
theorem Catalog.Canonical.registerType {catalog : Catalog} (canonical : catalog.Canonical)
    {type : DataType} (fits : type.Fits type.baseName) :
    (catalog.registerType type).Canonical := by
  intro name other found
  rw [findType?_registerType] at found
  split at found
  · rename_i same
    cases found
    exact same ▸ fits
  · exact canonical found

/-- Registering several types that fit their base names, one after another, keeps a catalog
canonical. -/
theorem Catalog.Canonical.registerTypes {types : List DataType}
    (fits : ∀ type ∈ types, type.Fits type.baseName) {catalog : Catalog}
    (canonical : catalog.Canonical) : (types.foldl Catalog.registerType catalog).Canonical := by
  induction types generalizing catalog with
  | nil => exact canonical
  | cons type rest inductionHypothesis =>
    rw [List.forall_mem_cons] at fits
    exact inductionHypothesis fits.2 (canonical.registerType fits.1)

/-- A definition that lists its parameters in order fits its base name. -/
theorem DataType.fits_definition (name : String) (family : Family) (arity : Nat) :
    (definition name family arity).Fits (definition name family arity).baseName where
  named := canonicalName_definition name family arity
  bound := rfl
  ordered := fun _ => ⟨name, family, arity, rfl⟩

/-- The library is canonical. -/
theorem Catalog.canonical_standard : Catalog.standard.Canonical := by
  have plain : ∀ kind, (DataType.primitive kind).Fits kind.typeName := fun kind =>
    ⟨rfl, rfl, fun isOpen => by cases isOpen⟩
  have fits : ∀ type ∈ Library.types, type.Fits type.baseName := by
    unfold Library.types
    rw [List.forall_mem_append, List.forall_mem_map]
    refine ⟨fun kind _ => plain kind, ?_⟩
    simp only [List.forall_mem_cons, Library.functionDefinition, Library.sequence, Library.list,
      Library.dictionary, DataType.fits_definition, true_and]
    refine ⟨⟨rfl, rfl, fun isOpen => by cases isOpen⟩, ⟨rfl, rfl, fun isOpen => by cases isOpen⟩, ?_⟩
    exact List.forall_mem_nil _
  have empty : Catalog.empty.Canonical := fun _ _ found => by cases found
  exact empty.registerTypes fits

end PredicateWire
