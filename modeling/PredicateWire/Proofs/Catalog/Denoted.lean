/-
This file says which closed types the library with records has names for. A type is
denoted by a catalog when it is closed and is what the catalog finds under its canonical
name (`Catalog.Denotes`); these are the types that an expression can speak of and be
received. They are the primitive types and the records, arrays of denoted types, and
instances of the definitions of the library with denoted arguments (`Catalog.Made`).

The name of a type is a text, and looking it up is a search that parses it, so the
description is proved from the result of the search and not by recursion on types. In
return it holds whatever the records are called: where a record hides a name, the type
that the name stood for is no longer denoted, and the description does not mention it.
-/
import PredicateWire.Proofs.Catalog.Captured
import PredicateWire.Proofs.Entries
import PredicateWire.Proofs.Table.Names
import PredicateWire.Proofs.Types.NameGrammar

namespace PredicateWire

namespace Catalog

/-! ### The library with records -/

variable {specs : List RecordSpec}

/-- A type that is filed under a name has this base name, and it is one of the library or a
record. -/
theorem findType?_withRecords {name : String} {type : DataType}
    (found : (withRecords specs).findType? name = some type) : type.baseName = name ∧
      (type ∈ Library.types ∨ ∃ spec ∈ specs, type = spec.type) := by
  have filed : ∀ entry ∈ (withRecords specs).types, entry.2.baseName = entry.1 ∧
      (entry.2 ∈ Library.types ∨ ∃ spec ∈ specs, entry.2 = spec.type) := by
    refine withRecords_induction (motive := fun catalog => ∀ entry ∈ catalog.types,
      entry.2.baseName = entry.1 ∧
        (entry.2 ∈ Library.types ∨ ∃ spec ∈ specs, entry.2 = spec.type)) ?_ ?_
    · have library : standard.types = Library.types.map fun type => (type.baseName, type) := rfl
      rw [library]
      intro entry member
      obtain ⟨type, typeMember, rfl⟩ := List.mem_map.mp member
      exact ⟨rfl, .inl typeMember⟩
    · intro catalog spec specMember earlier entry member
      rw [registerRecord_eq] at member
      rcases List.mem_append.mp member with kept | added
      · exact earlier entry (List.mem_of_mem_filter kept)
      · cases List.mem_singleton.mp added
        exact ⟨rfl, .inr ⟨spec, specMember, rfl⟩⟩
  have member := Entries.mem_of_get? found
  exact filed _ member

/-- The library has no constructors, so each one belongs to a record and assigns fields by
position. -/
theorem mem_constructors_withRecords : ∀ constructor ∈ (withRecords specs).constructors,
    ∃ spec ∈ specs, ∃ names ∈ spec.constructors, constructor = spec.positional names := by
  refine withRecords_induction (motive := fun catalog => ∀ constructor ∈ catalog.constructors,
    ∃ spec ∈ specs, ∃ names ∈ spec.constructors, constructor = spec.positional names) ?_ ?_
  · intro constructor member
    cases member
  · intro catalog spec specMember earlier constructor member
    rw [registerRecord_eq] at member
    rcases List.mem_append.mp member with kept | added
    · exact earlier constructor kept
    · obtain ⟨names, namesMember, rfl⟩ := List.mem_map.mp added
      exact ⟨spec, specMember, names, namesMember, rfl⟩

/-- Records without methods add none to the library. -/
theorem methods_withRecords_of_plain (plain : ∀ spec ∈ specs, spec.methods = []) :
    (withRecords specs).methods = standard.methods := by
  refine withRecords_induction (motive := fun catalog => catalog.methods = standard.methods) rfl ?_
  intro catalog spec member earlier
  rw [registerRecord_eq, plain spec member]
  exact (List.append_nil _).trans earlier

/-! ### Names of types -/

/-- The types of the library are filed under their canonical names, and none is a generic
parameter. -/
theorem library_names : ∀ type ∈ Library.types,
    type.canonicalName = type.baseName ∧ type.isTypeParameter = false := by
  decide +kernel

/-- The generic definitions among the types of the library. -/
theorem definition_of_library {type : DataType} (member : type ∈ Library.types)
    (isOpen : type.isGenericDefinition = true) :
    ∃ name family arity, (name, family, arity) ∈ Library.definitions ∧
      type = DataType.definition name family arity := by
  rcases List.mem_append.mp member with primitive | named
  · obtain ⟨kind, _, rfl⟩ := List.mem_map.mp primitive
    cases isOpen
  simp only [List.mem_cons, List.not_mem_nil, or_false] at named
  rcases named with rfl | rfl | rfl | rfl | rfl | rfl | rfl | rfl
  · cases isOpen
  · exact ⟨_, _, _, .head _, rfl⟩
  · exact ⟨_, _, _, .tail _ (.head _), rfl⟩
  · exact ⟨_, _, _, .tail _ (.tail _ (.head _)), rfl⟩
  · exact ⟨_, _, _, .tail _ (.tail _ (.tail _ (.head _))), rfl⟩
  · exact ⟨_, _, _, .tail _ (.tail _ (.tail _ (.tail _ (.head _)))), rfl⟩
  · exact ⟨_, _, _, .tail _ (.tail _ (.tail _ (.tail _ (.tail _ (.head _))))), rfl⟩
  · cases isOpen

/-- What a definition is filled in to is an instance of a definition of the library. -/
theorem generic_of_instantiate {base : String} {definition type : DataType}
    {types : List DataType} (found : (withRecords specs).findType? base = some definition)
    (instantiated : definition.instantiate types = .ok type) :
    ∃ family, (base, family, types.length) ∈ Library.definitions ∧
      type = .generic base family types := by
  obtain ⟨rfl, library | ⟨spec, _, rfl⟩⟩ := findType?_withRecords found
  · obtain ⟨name, family, arity, defined, rfl⟩ :=
      definition_of_library library (DataType.instantiate_eq_ok.mp instantiated).1
    obtain ⟨_, rfl, rfl⟩ := DataType.instantiate_definition_eq_ok.mp instantiated
    exact ⟨family, defined, rfl⟩
  · cases (DataType.instantiate_eq_ok.mp instantiated).1

/-- Names that are the canonical names of types, place by place, are the list of these names. -/
theorem names_of_zip {names : List String} {types : List DataType}
    (lengths : names.length = types.length)
    (each : ∀ pair ∈ names.zip types, pair.2.canonicalName = pair.1) :
    names = types.map DataType.canonicalName := by
  have paired : List.Forall₂ (fun name type => name = DataType.canonicalName type) names types :=
    List.forall₂_iff_zip.mpr ⟨lengths, fun member => (each _ member).symm⟩
  rw [← List.forall₂_map_right_iff, List.forall₂_eq_eq_eq] at paired
  exact paired

theorem zip_names (types : List DataType) : (types.map DataType.canonicalName).zip types =
    types.map fun type => (type.canonicalName, type) := by
  have paired : (types.map DataType.canonicalName).zip (types.map id) =
      types.map fun type => (type.canonicalName, type) := List.zip_map'
  rwa [List.map_id] at paired

theorem mem_zip_names {types : List DataType} {type : DataType} (member : type ∈ types) :
    (type.canonicalName, type) ∈ (types.map DataType.canonicalName).zip types := by
  rw [zip_names]
  exact List.mem_map_of_mem member

/-- The name that a type is found under is its canonical name. -/
theorem canonicalName_of_received {source : Nat → UInt32} {name : String} {type : DataType}
    (received : TypeTable.Received (TypeTable.empty (withRecords specs) source) name type) :
    type.canonicalName = name ∧ type.isTypeParameter = false := by
  induction received with
  | known found =>
    obtain ⟨rfl, library | ⟨spec, _, rfl⟩⟩ := findType?_withRecords found
    · exact library_names _ library
    · exact ⟨rfl, rfl⟩
  | array unknown parsed received inductionHypothesis =>
    rw [TypeName.array_of_parse parsed, DataType.canonicalName, inductionHypothesis.1]
    exact ⟨rfl, rfl⟩
  | @generic name base arguments definition type types unknown parsed found lengths received
      instantiated inductionHypothesis =>
    obtain ⟨present, rfl⟩ := TypeName.generic_of_parse parsed
    obtain ⟨family, _, rfl⟩ := generic_of_instantiate found instantiated
    obtain rfl := names_of_zip lengths fun pair member => (inductionHypothesis pair member).1
    exact ⟨DataType.canonicalName_instance (fun empty => present (List.map_eq_nil_iff.mpr empty))
      fun argument member => (inductionHypothesis _ (mem_zip_names member)).2, rfl⟩
  | captured _ _ held => cases held

/-! ### Types with a name -/

/-- The type is closed, and a catalog has it under its name. -/
def Denotes (catalog : Catalog) (type : DataType) : Prop :=
  type.isClosed = true ∧ catalog.typeNamed type.canonicalName = .ok type

/-- A name stands for one type. -/
theorem Denotes.ext {catalog : Catalog} {first second : DataType} (denotes : catalog.Denotes first)
    (other : catalog.Denotes second) (same : first.canonicalName = second.canonicalName) :
    first = second :=
  Except.ok.inj (denotes.2.symm.trans (same ▸ other.2))

/-- What the closed types are that the library with records has under their names. Their parts are
such types again. -/
inductive Made (specs : List RecordSpec) : DataType → Prop
  | primitive (kind : Primitive) : Made specs (.primitive kind)
  | object : Made specs .object
  | holder : Made specs (.holder DataType.enumerableName)
  | record {spec : RecordSpec} (member : spec ∈ specs) : Made specs spec.type
  | array {element : DataType} (denotes : (withRecords specs).Denotes element) :
    Made specs (.array element)
  | generic {name : String} {family : Family} {arguments : List DataType}
    (defined : (name, family, arguments.length) ∈ Library.definitions)
    (each : ∀ argument ∈ arguments, (withRecords specs).Denotes argument) :
    Made specs (.generic name family arguments)

/-- A closed type that is found under its canonical name, from an empty table, is denoted. -/
theorem denotes_of_received {type : DataType} (closed : type.isClosed = true)
    (received : TypeTable.Received (TypeTable.empty (withRecords specs) fun _ => 0)
      type.canonicalName type) : (withRecords specs).Denotes type :=
  ⟨closed, TypeTable.typeNamed_eq_ok.mpr received⟩

/-- The closed types of the library. -/
theorem made_of_library {type : DataType} (member : type ∈ Library.types)
    (closed : type.isClosed = true) : Made specs type := by
  rcases List.mem_append.mp member with primitive | named
  · obtain ⟨kind, _, rfl⟩ := List.mem_map.mp primitive
    exact .primitive kind
  simp only [List.mem_cons, List.not_mem_nil, or_false] at named
  rcases named with rfl | rfl | rfl | rfl | rfl | rfl | rfl | rfl
  · exact .object
  all_goals first | exact .holder | cases closed

/-- A denoted type is one of those that have been described. -/
theorem Denotes.made {type : DataType} (denotes : (withRecords specs).Denotes type) :
    Made specs type := by
  obtain ⟨closed, named⟩ := denotes
  have received := TypeTable.typeNamed_eq_ok.mp named
  revert received
  generalize type.canonicalName = name
  intro received
  cases received with
  | known found =>
    obtain ⟨_, library | ⟨spec, member, rfl⟩⟩ := findType?_withRecords found
    · exact made_of_library library closed
    · exact .record member
  | array unknown parsed received =>
    rw [DataType.isClosed] at closed
    obtain rfl := (canonicalName_of_received received).1
    exact .array (denotes_of_received closed received)
  | generic unknown parsed found lengths received instantiated =>
    obtain ⟨family, defined, rfl⟩ := generic_of_instantiate found instantiated
    obtain rfl := names_of_zip lengths fun pair member =>
      (canonicalName_of_received (received pair member)).1
    rw [DataType.isClosed, DataType.areClosed_iff] at closed
    exact .generic defined fun argument member =>
      denotes_of_received (closed argument member) (received _ (mem_zip_names member))
  | captured _ _ held => cases held

/-! ### Types put together -/

section

variable {catalog : Catalog}

/-- A closed type that is filed under its canonical name is denoted. -/
theorem denotes_of_findType? {type : DataType} (closed : type.isClosed = true)
    (found : catalog.findType? type.canonicalName = some type) : catalog.Denotes type :=
  ⟨closed, TypeTable.typeNamed_eq_ok.mpr (.known found)⟩

/-- An array of a denoted type is denoted, if the name of the array is not taken. The element type
must be ordinary for its name to be read back out of the name of the array. -/
theorem Denotes.array {element : DataType} (denotes : catalog.Denotes element)
    (ordinary : element.Ordinary)
    (unknown : catalog.findType? (DataType.array element).canonicalName = none) :
    catalog.Denotes (.array element) := by
  refine ⟨?_, TypeTable.typeNamed_eq_ok.mpr (.array unknown ordinary.buildable.wellNamed.parse_array
    (TypeTable.typeNamed_eq_ok.mp denotes.2))⟩
  rw [DataType.isClosed]
  exact denotes.1

/-- An instance of a definition with denoted arguments is denoted, if the catalog has the definition
under its name and nothing under the name of the instance. -/
theorem denotes_generic {name : String} {family : Family} {arguments : List DataType}
    (defined : (name, family, arguments.length) ∈ Library.definitions)
    (found : catalog.findType? name = some (.definition name family arguments.length))
    (unknown : catalog.findType? (DataType.generic name family arguments).canonicalName = none)
    (ordinary : ∀ argument ∈ arguments, argument.Ordinary)
    (each : ∀ argument ∈ arguments, catalog.Denotes argument) :
    catalog.Denotes (.generic name family arguments) := by
  have some := Library.arguments_ne_nil defined
  refine ⟨?_, TypeTable.typeNamed_eq_ok.mpr (.generic unknown
    (DataType.parse_generic defined fun argument member =>
      (ordinary argument member).buildable.wellNamed) found (List.length_map _)
    (fun pair member => ?_) (DataType.instantiate_definition some))⟩
  · rw [DataType.isClosed, DataType.areClosed_iff]
    exact fun argument member => (each argument member).1
  · rw [zip_names] at member
    obtain ⟨argument, argumentMember, rfl⟩ := List.mem_map.mp member
    exact TypeTable.typeNamed_eq_ok.mp (each argument argumentMember).2

end

end Catalog

end PredicateWire
