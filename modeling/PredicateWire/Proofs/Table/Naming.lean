/-
This file proves that names tell types apart. In a catalog whose types have simple
names, the types that are put together from these by arrays and by filling in generic
definitions all have different canonical names, however deep they are: what has brackets
in its name is not in the catalog, and taking the name apart gives the names of the
parts.

If the definitions list their parameters in order, each name also stands for its type.
Where one lists them the other way round, a name stands for another type
(`typeNamed_swapped`). That types are told apart does not depend on the order, but the
proof is harder without it, since filling in a definition may drop arguments or use one
twice: only the arguments that are used show in the name, and only they matter for the
type.
-/
import PredicateWire.Proofs.Catalog.Denoted
import PredicateWire.Proofs.Table.History

namespace PredicateWire

/-! ### Simple names -/

/-- Text without brackets, commas and backticks. -/
def TypeName.Unmarked (text : List Char) : Prop :=
  ∀ character ∈ text, isReserved character = false ∧ character ≠ '\x60'

/-- A type that is not generic has a name without marks, and a generic definition has such a text
with a backtick and the number of its parameters behind it. -/
inductive DataType.SimplyNamed (type : DataType) : Prop
  | single (single : type.arguments = []) (present : type.baseName ≠ "")
    (unmarked : TypeName.Unmarked type.baseName.toList) : SimplyNamed type
  | definition (isOpen : type.isGenericDefinition = true) {head digits : List Char}
    (base : TypeName.Base type.baseName head digits) (unmarked : TypeName.Unmarked head)
    (arity : TypeName.digitsValue digits = type.arguments.length) : SimplyNamed type

namespace Catalog

/-- The types of a catalog are filed under their base names, and these are simple. -/
def SimplyNamed (catalog : Catalog) : Prop :=
  ∀ ⦃name type⦄, catalog.findType? name = some type → type.baseName = name ∧ type.SimplyNamed

/-- The generic definitions of a catalog list their own parameters in order. -/
def ListsInOrder (catalog : Catalog) : Prop :=
  ∀ ⦃name type⦄, catalog.findType? name = some type → type.isGenericDefinition = true →
    ∃ base family arity, type = .definition base family arity

/-- A type that is put together from the types of a catalog that are not generic and no parameters,
by arrays and by filling in the generic definitions of the catalog. -/
inductive Builds (catalog : Catalog) : DataType → Prop
  | single {name : String} {type : DataType} (found : catalog.findType? name = some type)
    (single : type.arguments = []) (bound : type.isParameter = false) : Builds catalog type
  | array {element : DataType} (item : Builds catalog element) : Builds catalog (.array element)
  | filled {name : String} {definition type : DataType} {arguments : List DataType}
    (found : catalog.findType? name = some definition)
    (each : ∀ argument ∈ arguments, Builds catalog argument)
    (instantiated : definition.instantiate arguments = .ok type) : Builds catalog type

end Catalog

namespace DataType

theorem canonicalName_of_single {type : DataType} (single : type.arguments = []) :
    type.canonicalName = type.baseName := by
  cases type with
  | array => cases single
  | generic name family arguments =>
    rw [DataType.arguments] at single
    rw [single]
    rfl
  | _ => rfl

/-- Filling in a parameter gives an argument, unless it stays in place. Which of them happens depends
on the number of arguments only. -/
theorem substitute_own {parameter : DataType} (own : parameter.isTypeParameter = true)
    {first second : List DataType} (lengths : first.length = second.length) :
    (substitute first [] parameter ∈ first ∧ substitute second [] parameter ∈ second) ∨
      substitute first [] parameter = parameter ∧ substitute second [] parameter = parameter := by
  cases parameter with
  | parameter owner position =>
    cases owner with
    | type =>
      rw [substitute, substitute, List.getD_eq_getElem?_getD, List.getD_eq_getElem?_getD]
      by_cases inside : position < first.length
      · rw [List.getElem?_eq_getElem inside, List.getElem?_eq_getElem (lengths ▸ inside)]
        exact .inl ⟨List.getElem_mem _, List.getElem_mem _⟩
      · rw [List.getElem?_eq_none (Nat.not_lt.mp inside),
          List.getElem?_eq_none (lengths ▸ Nat.not_lt.mp inside)]
        exact .inr ⟨rfl, rfl⟩
    | method => cases own
  | _ => cases own

theorem nestable_parameter {parameter : DataType} (own : parameter.isTypeParameter = true) :
    TypeName.Nestable parameter.canonicalName := by
  cases parameter with
  | parameter owner position =>
    cases owner with
    | type =>
      have text : (DataType.parameter .type position).canonicalName.toList =
          '!' :: Nat.toDigits 10 position := by
        rw [canonicalName, parameterName, String.toList_append]
        simp
      refine ⟨TypeName.balanced_of_unreserved ?_, fun empty => ?_⟩
      · rw [text, List.forall_mem_cons]
        refine ⟨rfl, fun digit member => ?_⟩
        have decimal := Nat.isDigit_of_mem_toDigits (by decide) (by decide) member
        simp only [TypeName.isReserved, Bool.or_eq_false_iff, beq_eq_false_iff_ne]
        refine ⟨⟨?_, ?_⟩, ?_⟩ <;> rintro rfl <;> cases decimal
      · rw [empty] at text
        cases text
    | method => cases own
  | _ => cases own

namespace SimplyNamed

variable {type : DataType} (simply : type.SimplyNamed)

include simply

theorem unreserved : ∀ character ∈ type.baseName.toList, TypeName.isReserved character = false := by
  cases simply with
  | single _ _ unmarked => exact fun character member => (unmarked character member).1
  | definition _ base unmarked _ =>
    rw [base.text, List.forall_mem_append, List.forall_mem_cons]
    exact ⟨fun character member => (unmarked character member).1, rfl,
      fun digit member => TypeName.isReserved_of_isDigit (base.decimal digit member)⟩

theorem present : type.baseName ≠ "" := by
  cases simply with
  | single _ present _ => exact present
  | definition _ base _ _ => exact base.name_ne_empty

/-- A generic definition with a simple name is the base of its instances. -/
theorem base (isOpen : type.isGenericDefinition = true) : ∃ head digits,
    TypeName.Base type.baseName head digits ∧
      TypeName.digitsValue digits = type.arguments.length := by
  cases simply with
  | single single _ _ =>
    cases type with
    | generic name family arguments =>
      rw [DataType.arguments] at single
      rw [single] at isOpen
      cases isOpen
    | _ => cases isOpen
  | definition _ base _ arity => exact ⟨_, _, base, arity⟩

end SimplyNamed

end DataType

namespace Catalog

section

variable {catalog : Catalog}

/-- Registering a type with a simple name keeps the names of a catalog simple. -/
theorem SimplyNamed.registerType (simply : catalog.SimplyNamed) {type : DataType}
    (simple : type.SimplyNamed) : (catalog.registerType type).SimplyNamed := by
  intro name other found
  rw [findType?_registerType] at found
  split at found
  · cases found
    exact ⟨‹_›, simple⟩
  · exact simply found

theorem Canonical.listsInOrder (canonical : catalog.Canonical) : catalog.ListsInOrder :=
  fun _ _ found => (canonical found).ordered

/-- The names of the library are simple. -/
theorem simplyNamed_standard : standard.SimplyNamed := by
  have names : ∀ type ∈ Library.types, type.isGenericDefinition = true ∨
      type.arguments.isEmpty = true ∧ type.baseName ≠ "" ∧
        type.baseName.toList.all fun character =>
          !TypeName.isReserved character && character != '\x60' := by
    decide +kernel
  have unreserved : ∀ definition ∈ Library.definitions,
      definition.1.toList.all fun character => !TypeName.isReserved character := by
    decide +kernel
  intro name type found
  obtain ⟨named, listed | ⟨_, none, _⟩⟩ := @findType?_withRecords [] name type found
  · refine ⟨named, ?_⟩
    rcases names type listed with isOpen | ⟨single, present, plain⟩
    · obtain ⟨base, family, arity, defined, rfl⟩ := definition_of_library listed isOpen
      obtain ⟨_, _, head, digits, ends, counted⟩ := Library.base_definition defined
      refine .definition isOpen ends (fun character member => ⟨?_, ends.noTick character member⟩) ?_
      · have whole : character ∈ base.toList := by
          rw [ends.text]
          exact List.mem_append_left _ member
        simpa using List.all_eq_true.mp (unreserved _ defined) character whole
      · rw [counted, DataType.definition, DataType.arguments, List.length_map, List.length_range]
    · refine .single (List.isEmpty_iff.mp single) present fun character member => ?_
      simpa using List.all_eq_true.mp plain character member
  · cases none

/-! ### Names of built types -/

/-- A name with a bracket is not in a catalog of simple names. -/
theorem SimplyNamed.findType?_eq_none (simply : catalog.SimplyNamed) {name : String}
    (bracket : ']' ∈ name.toList) : catalog.findType? name = none := by
  refine Option.eq_none_iff_forall_ne_some.mpr fun type found => ?_
  obtain ⟨rfl, simple⟩ := simply found
  cases simple.unreserved ']' bracket

/-- A generic definition of a catalog, with a simple name and its parameters. -/
structure Defines (catalog : Catalog) (name : String) (family : Family)
    (parameters : List DataType) : Prop where
  found : catalog.findType? name = some (.generic name family parameters)
  own : ∀ parameter ∈ parameters, parameter.isTypeParameter = true
  balanced : TypeName.Balanced name.toList
  base : ∃ head digits, TypeName.Base name head digits ∧
    TypeName.digitsValue digits = parameters.length
  present : parameters ≠ []

namespace Defines

variable {name : String} {family : Family} {parameters : List DataType}
  (defines : catalog.Defines name family parameters)

include defines

theorem canonicalName : (DataType.generic name family parameters).canonicalName = name := by
  rw [DataType.canonicalName, if_pos (List.all_eq_true.mpr defines.own)]

theorem nestable : TypeName.Nestable name := by
  obtain ⟨_, _, base, _⟩ := defines.base
  exact ⟨defines.balanced, base.name_ne_empty⟩

theorem isOpen : (DataType.generic name family parameters).isGenericDefinition = true := by
  rw [DataType.isGenericDefinition, Bool.and_eq_true, Bool.not_eq_true',
    List.isEmpty_eq_false_iff, List.all_eq_true]
  exact ⟨defines.present, defines.own⟩

theorem instantiate {arguments : List DataType} (lengths : arguments.length = parameters.length) :
    (DataType.generic name family parameters).instantiate arguments =
      .ok (.generic name family (parameters.map (DataType.substitute arguments []))) := by
  refine DataType.instantiate_eq_ok.mpr ⟨defines.isOpen, lengths, ?_⟩
  rw [DataType.substitute, DataType.substituteAll_eq_map]

/-- A definition that lists its parameters in order is filled in to the arguments. -/
theorem filled_inOrder (inOrder : catalog.ListsInOrder) {arguments : List DataType}
    (lengths : arguments.length = parameters.length) :
    parameters.map (DataType.substitute arguments []) = arguments := by
  have instantiated := defines.instantiate lengths
  obtain ⟨_, _, _, ordered⟩ := inOrder defines.found defines.isOpen
  rw [ordered, DataType.instantiate_definition_eq_ok] at instantiated
  obtain ⟨-, -, same⟩ := instantiated
  exact (DataType.generic.inj same).2.2

/-- If filling in a definition leaves it open, nothing has been filled in. So the filled definition
is the definition itself, or it goes by the name of an instance. -/
theorem filled_cases {arguments : List DataType}
    (bound : ∀ argument ∈ arguments, argument.isTypeParameter = false) :
    parameters.map (DataType.substitute arguments []) = parameters ∨
      (DataType.generic name family
          (parameters.map (DataType.substitute arguments []))).canonicalName =
        TypeName.instanceName name
          ((parameters.map (DataType.substitute arguments [])).map DataType.canonicalName) := by
  cases filled : (parameters.map (DataType.substitute arguments [])).all
      DataType.isTypeParameter with
  | false => exact .inr (DataType.canonicalName_filled filled)
  | true =>
    rw [List.all_eq_true, List.forall_mem_map] at filled
    refine .inl ((List.map_congr_left fun parameter member => ?_).trans (List.map_id parameters))
    rcases DataType.substitute_own (defines.own parameter member) rfl with ⟨taken, -⟩ | ⟨stays, -⟩
    · cases (filled parameter member).symm.trans (bound _ taken)
    · exact stays

/-- A definition is filled in to the same types if these go by the same names and such arguments
are the same. -/
theorem filled_ext {first second : List DataType} (lengths : first.length = second.length)
    (names : (parameters.map (DataType.substitute first [])).map DataType.canonicalName =
      (parameters.map (DataType.substitute second [])).map DataType.canonicalName)
    (apart : ∀ one ∈ first, one ∈ parameters.map (DataType.substitute first []) →
      ∀ other ∈ second, one.canonicalName = other.canonicalName → one = other) :
    parameters.map (DataType.substitute first []) =
      parameters.map (DataType.substitute second []) := by
  rw [List.map_map, List.map_map, List.map_inj_left] at names
  refine List.map_congr_left fun parameter member => ?_
  rcases DataType.substitute_own (defines.own parameter member) lengths with
    ⟨taken, otherTaken⟩ | ⟨stays, otherStays⟩
  · exact apart _ taken (List.mem_map_of_mem member) _ otherTaken (names parameter member)
  · rw [stays, otherStays]

theorem nestable_filled {arguments : List DataType}
    (each : ∀ argument ∈ arguments, TypeName.Nestable argument.canonicalName) :
    ∀ name ∈ (parameters.map (DataType.substitute arguments [])).map DataType.canonicalName,
      TypeName.Nestable name := by
  rw [List.forall_mem_map, List.forall_mem_map]
  intro parameter member
  have own := defines.own parameter member
  rcases DataType.substitute_own own rfl with ⟨taken, -⟩ | ⟨stays, -⟩
  · exact each _ taken
  · rw [stays]
    exact DataType.nestable_parameter own

end Defines

theorem Builds.bound {type : DataType} (builds : catalog.Builds type) :
    type.isTypeParameter = false := by
  cases builds with
  | single _ _ bound => exact DataType.isTypeParameter_of_bound bound
  | array => rfl
  | @filled name definition type arguments found each instantiated =>
    obtain ⟨isOpen, -, rfl⟩ := DataType.instantiate_eq_ok.mp instantiated
    cases definition with
    | generic => rfl
    | _ => cases isOpen

variable (simply : catalog.SimplyNamed)

include simply

/-- What is filled in is a definition of the catalog, and there are as many arguments as it has
parameters. Which of the arguments are used is left open. -/
theorem defines_of_instantiate {name : String} {definition type : DataType}
    {arguments : List DataType} (found : catalog.findType? name = some definition)
    (instantiated : definition.instantiate arguments = .ok type) :
    ∃ family parameters, definition = .generic name family parameters ∧
      catalog.Defines name family parameters ∧ arguments.length = parameters.length ∧
      type = .generic name family (parameters.map (DataType.substitute arguments [])) := by
  obtain ⟨isOpen, lengths, rfl⟩ := DataType.instantiate_eq_ok.mp instantiated
  obtain ⟨rfl, simple⟩ := simply found
  have base := simple.base isOpen
  have balanced := TypeName.balanced_of_unreserved simple.unreserved
  cases definition with
  | generic name family parameters =>
    rw [DataType.isGenericDefinition, Bool.and_eq_true, Bool.not_eq_true',
      List.isEmpty_eq_false_iff, List.all_eq_true] at isOpen
    refine ⟨family, parameters, rfl, ⟨found, isOpen.2, balanced, base, isOpen.1⟩, lengths, ?_⟩
    rw [DataType.substitute, DataType.substituteAll_eq_map, DataType.baseName]
  | _ => cases isOpen

/-- The name of a built type may stand between brackets. -/
theorem Builds.nestable {type : DataType} (builds : catalog.Builds type) :
    TypeName.Nestable type.canonicalName := by
  induction builds with
  | single found single _ =>
    obtain ⟨-, simple⟩ := simply found
    rw [DataType.canonicalName_of_single single]
    exact ⟨TypeName.balanced_of_unreserved simple.unreserved, simple.present⟩
  | @array element item inductionHypothesis =>
    rw [DataType.canonicalName, TypeName.Nestable, String.toList_append]
    exact ⟨TypeName.balanced_append inductionHypothesis.1
      (TypeName.balanced_bracketed TypeName.balanced_nil),
      fun empty => inductionHypothesis.2 (String.append_eq_empty_iff.mp empty).1⟩
  | @filled name definition type arguments found each instantiated inductionHypothesis =>
    obtain ⟨family, parameters, rfl, defines, lengths, rfl⟩ :=
      defines_of_instantiate simply found instantiated
    rcases defines.filled_cases fun argument member => (each argument member).bound with
      stays | named
    · rw [stays, defines.canonicalName]
      exact defines.nestable
    · rw [named]
      exact TypeName.nestable_instanceName defines.balanced
        (defines.nestable_filled inductionHypothesis)

omit simply in
/-- What the name of a built type says about it: the catalog has the type under this name, or it
does not know the name, and the name is that of an array or of a filled definition. -/
inductive Spelled (catalog : Catalog) : DataType → Prop
  | known {type : DataType} (found : catalog.findType? type.canonicalName = some type) :
    Spelled catalog type
  | array {element : DataType} (item : catalog.Builds element)
    (unknown : catalog.findType? (DataType.array element).canonicalName = none)
    (parsed : TypeName.parse (DataType.array element).canonicalName =
      .ok (.array element.canonicalName)) : Spelled catalog (.array element)
  | filled {name : String} {family : Family} {parameters arguments types : List DataType}
    (defines : catalog.Defines name family parameters)
    (lengths : arguments.length = parameters.length)
    (each : ∀ argument ∈ arguments, catalog.Builds argument)
    (filled : types = parameters.map (DataType.substitute arguments []))
    (unknown : catalog.findType? (DataType.generic name family types).canonicalName = none)
    (parsed : TypeName.parse (DataType.generic name family types).canonicalName =
      .ok (.generic name (types.map DataType.canonicalName))) :
    Spelled catalog (.generic name family types)

/-- Taking the name of a built type apart gives the names of its parts. -/
theorem Builds.spelled {type : DataType} (builds : catalog.Builds type) : catalog.Spelled type := by
  have nestable := builds.nestable simply
  cases builds with
  | single found single _ =>
    obtain ⟨rfl, -⟩ := simply found
    rw [← DataType.canonicalName_of_single single] at found
    exact .known found
  | @array element item =>
    refine .array item (simply.findType?_eq_none ?_) ?_
    · rw [DataType.canonicalName, String.toList_append]
      exact List.mem_append_right _ (by decide)
    · rw [DataType.canonicalName]
      exact TypeName.parse_array (item.nestable simply).2
  | @filled name definition type arguments found each instantiated =>
    obtain ⟨family, parameters, rfl, defines, lengths, rfl⟩ :=
      defines_of_instantiate simply found instantiated
    rcases defines.filled_cases fun argument member => (each argument member).bound with
      stays | named
    · rw [stays]
      exact .known (by rw [defines.canonicalName, found])
    · refine .filled defines lengths each rfl (simply.findType?_eq_none ?_) ?_
      · rw [named]
        exact TypeName.bracket_instanceName _ _
      · obtain ⟨head, digits, base, arity⟩ := defines.base
        have filled := defines.nestable_filled fun argument member =>
          (each argument member).nestable simply
        rw [named]
        refine TypeName.parse_generic base ?_ (fun empty => ?_) filled
        · rw [List.length_map, List.length_map, arity]
        · rw [List.map_eq_nil_iff, List.map_eq_nil_iff] at empty
          exact defines.present empty

/-- Built types are told apart by their names. -/
theorem Builds.ext {first second : DataType} (firstBuilds : catalog.Builds first)
    (secondBuilds : catalog.Builds second) (same : first.canonicalName = second.canonicalName) :
    first = second := by
  induction length : first.canonicalName.length using Nat.strongRecOn
    generalizing first second with
  | ind size inductionHypothesis =>
    subst length
    have conflict : ∀ {type : DataType}, catalog.findType? first.canonicalName = some type →
        catalog.findType? second.canonicalName = none → False := by
      intro type found none
      rw [same, none] at found
      cases found
    cases firstBuilds.spelled simply with
    | known found =>
      cases secondBuilds.spelled simply with
      | known other =>
        rw [same, other] at found
        exact (Option.some.inj found).symm
      | array _ unknown _ => exact (conflict found unknown).elim
      | filled _ _ _ _ unknown _ => exact (conflict found unknown).elim
    | array item unknown parsed =>
      cases secondBuilds.spelled simply with
      | known other => cases unknown.symm.trans (same ▸ other)
      | array otherItem _ otherParsed =>
        have elements := parsed.symm.trans (same ▸ otherParsed)
        rw [Except.ok.injEq, TypeName.array.injEq] at elements
        rw [inductionHypothesis _ (TypeName.length_lt_of_parse_array parsed) item otherItem
          elements rfl]
      | filled _ _ _ _ _ otherParsed => cases parsed.symm.trans (same ▸ otherParsed)
    | filled defines lengths each filled unknown parsed =>
      cases secondBuilds.spelled simply with
      | known other => cases unknown.symm.trans (same ▸ other)
      | array _ _ otherParsed => cases parsed.symm.trans (same ▸ otherParsed)
      | filled otherDefines otherLengths otherEach otherFilled _ otherParsed =>
        have parts := parsed.symm.trans (same ▸ otherParsed)
        rw [Except.ok.injEq, TypeName.generic.injEq] at parts
        obtain ⟨rfl, names⟩ := parts
        have definitions := defines.found.symm.trans otherDefines.found
        rw [Option.some.injEq, DataType.generic.injEq] at definitions
        obtain ⟨-, rfl, rfl⟩ := definitions
        subst filled otherFilled
        rw [defines.filled_ext (lengths.trans otherLengths.symm) names
          fun one member part other otherMember equal => inductionHypothesis _
            (TypeName.length_lt_of_parse_generic parsed _ (List.mem_map_of_mem part))
            (each one member) (otherEach other otherMember) equal rfl]

/-- If the definitions list their parameters in order, the rules give a built type to its canonical
name when there is no table. -/
theorem Builds.received (inOrder : catalog.ListsInOrder) {type : DataType}
    (builds : catalog.Builds type) :
    TypeTable.Received (TypeTable.empty catalog fun _ => 0) type.canonicalName type := by
  induction length : type.canonicalName.length using Nat.strongRecOn generalizing type with
  | ind size inductionHypothesis =>
    subst length
    cases builds.spelled simply with
    | known found => exact .known found
    | array item unknown parsed =>
      exact .array unknown parsed
        (inductionHypothesis _ (TypeName.length_lt_of_parse_array parsed) item rfl)
    | @filled name family parameters arguments types defines lengths each filled unknown parsed =>
      have instantiated := defines.instantiate lengths
      rw [defines.filled_inOrder inOrder lengths] at filled instantiated
      subst filled
      refine .generic unknown parsed defines.found (List.length_map _) (fun pair member => ?_)
        instantiated
      rw [zip_names] at member
      obtain ⟨argument, argumentMember, rfl⟩ := List.mem_map.mp member
      exact inductionHypothesis _
        (TypeName.length_lt_of_parse_generic parsed _ (List.mem_map_of_mem argumentMember))
        (each argument argumentMember) rfl

/-- In a catalog with simple names, no two types that can be built have the same canonical name. If
the definitions also list their parameters in order, the name of each of them stands for it. -/
theorem typeNamed_builds {type : DataType} (builds : catalog.Builds type) :
    (catalog.ListsInOrder → catalog.typeNamed type.canonicalName = .ok type) ∧
      ∀ other, catalog.Builds other → other.canonicalName = type.canonicalName → other = type :=
  ⟨fun inOrder => TypeTable.typeNamed_eq_ok.mpr (builds.received simply inOrder),
    fun _ otherBuilds same => otherBuilds.ext simply builds same⟩

end

end Catalog

namespace TypeTable

open IndexedTable (pairCatalog swappedPair)

/-- The pairs of an integer and a text. -/
def pair : DataType :=
  .generic "Pair`2" .record [.int32, .string]

section

variable {registered type : DataType} {catalog : Catalog}

/-- The catalog finds the definition under its name, and the library otherwise. -/
theorem findType?_pairCatalog (types : catalog.types = (pairCatalog registered).types)
    (named : registered.baseName = "Pair`2") (name : String) : catalog.findType? name =
      if "Pair`2" = name then some registered else Catalog.standard.findType? name := by
  have same : catalog.findType? name = (Catalog.standard.registerType registered).findType? name :=
    congrArg (Entries.get? · name) types
  rw [same, Catalog.findType?_registerType, named]

theorem typeNamed_library (types : catalog.types = (pairCatalog registered).types)
    (named : registered.baseName = "Pair`2")
    (known : Catalog.standard.findType? type.canonicalName = some type)
    (other : "Pair`2" ≠ type.canonicalName) :
    catalog.typeNamed type.canonicalName = .ok type := by
  refine typeNamed_eq_ok.mpr (.known ?_)
  show catalog.findType? type.canonicalName = some type
  rw [findType?_pairCatalog types named, if_neg other, known]

/-- The name of the pairs stands for what the definition is filled in to. -/
theorem typeNamed_pair (types : catalog.types = (pairCatalog registered).types)
    (named : registered.baseName = "Pair`2")
    (instantiated : registered.instantiate [.int32, .string] = .ok type) :
    catalog.typeNamed pair.canonicalName = .ok type := by
  have parsed : TypeName.parse pair.canonicalName =
      .ok (.generic "Pair`2" ["sys.Int32", "sys.String"]) := rfl
  have number : catalog.typeNamed DataType.int32.canonicalName = .ok .int32 :=
    typeNamed_library types named rfl (by decide)
  have text : catalog.typeNamed DataType.string.canonicalName = .ok .string :=
    typeNamed_library types named rfl (by decide)
  have arguments : ∀ argument ∈ ["sys.Int32", "sys.String"].zip [DataType.int32, .string],
      Received (empty catalog fun _ => 0) argument.1 argument.2 :=
    List.forall_mem_cons.mpr ⟨typeNamed_eq_ok.mp number,
      List.forall_mem_singleton.mpr (typeNamed_eq_ok.mp text)⟩
  exact typeNamed_eq_ok.mpr (.generic (findType?_pairCatalog types named _) parsed
    (findType?_pairCatalog types named _) rfl arguments instantiated)

end

/-- A definition of pairs that lists its parameters in order. -/
def pairs : DataType :=
  .definition "Pair`2" .record 2

/-- Arrays of pairs of dictionaries and arrays of arrays. -/
def nestedPairs : DataType :=
  .array (.generic "Pair`2" .record
    [.generic DataType.dictionaryName .map [.int32, .array .string], .array (.array .bool)])

/-- The names of the library with such a definition of pairs are simple. -/
theorem simplyNamed_pairs {registered : DataType} (named : registered.baseName = "Pair`2")
    (isOpen : registered.isGenericDefinition = true) (counted : registered.arguments.length = 2) :
    (pairCatalog registered).SimplyNamed := by
  have base : TypeName.Base registered.baseName "Pair".toList ['2'] := by
    rw [named]
    exact ⟨by decide, by simp, by decide, List.forall_mem_singleton.mpr rfl, by decide⟩
  have unmarked : TypeName.Unmarked "Pair".toList := by
    simp [TypeName.Unmarked, TypeName.isReserved]
  exact Catalog.simplyNamed_standard.registerType (.definition isOpen base unmarked counted.symm)

/-- The simple values of the library stay what they are. -/
theorem builds_primitive {registered : DataType} (named : registered.baseName = "Pair`2")
    (kind : Primitive) : (pairCatalog registered).Builds (.primitive kind) := by
  have found : (pairCatalog registered).findType? kind.typeName = some (.primitive kind) := by
    rw [findType?_pairCatalog rfl named, if_neg (by cases kind <;> decide)]
    cases kind <;> rfl
  exact .single found rfl rfl

/-- The name of the nested pairs stands for these, and nothing else that is built goes by it. -/
theorem typeNamed_builds_nested :
    (pairCatalog pairs).SimplyNamed ∧ (pairCatalog pairs).ListsInOrder ∧
      (pairCatalog pairs).Builds nestedPairs ∧
      nestedPairs.canonicalName =
        "Pair`2[[sys.collections.Dictionary`2[[sys.Int32],[sys.String[]]]],[sys.Boolean[][]]][]" ∧
      (pairCatalog pairs).typeNamed nestedPairs.canonicalName = .ok nestedPairs ∧
      ∀ other, (pairCatalog pairs).Builds other →
        other.canonicalName = nestedPairs.canonicalName → other = nestedPairs := by
  have simply : (pairCatalog pairs).SimplyNamed := simplyNamed_pairs rfl rfl rfl
  have inOrder : (pairCatalog pairs).ListsInOrder :=
    (Catalog.canonical_standard.registerType (DataType.fits_definition _ _ _)).listsInOrder
  have single : ∀ kind, (pairCatalog pairs).Builds (.primitive kind) := builds_primitive rfl
  have known : (pairCatalog pairs).findType? DataType.dictionaryName = some Library.dictionary := rfl
  have dictionary : (pairCatalog pairs).Builds
      (.generic DataType.dictionaryName .map [.int32, .array .string]) :=
    .filled known (List.forall_mem_cons.mpr
      ⟨single _, List.forall_mem_singleton.mpr (single _).array⟩) rfl
  have defined : (pairCatalog pairs).findType? "Pair`2" = some pairs := rfl
  have nested : (pairCatalog pairs).Builds nestedPairs :=
    .array (.filled defined (List.forall_mem_cons.mpr
      ⟨dictionary, List.forall_mem_singleton.mpr (single _).array.array⟩) rfl)
  have stands := Catalog.typeNamed_builds simply nested
  exact ⟨simply, inOrder, nested, by decide, stands.1 inOrder, stands.2⟩

/-- Where the definition of pairs lists its parameters the other way round, all names are simple,
but the name of the pairs stands for other pairs. -/
theorem typeNamed_swapped :
    (pairCatalog swappedPair).SimplyNamed ∧
      (pairCatalog swappedPair).Builds pair ∧
      (pairCatalog swappedPair).typeNamed pair.canonicalName =
        .ok (.generic "Pair`2" .record [.string, .int32]) ∧
      pair ≠ .generic "Pair`2" .record [.string, .int32] := by
  have single : ∀ kind, (pairCatalog swappedPair).Builds (.primitive kind) := builds_primitive rfl
  have defined : (pairCatalog swappedPair).findType? "Pair`2" = some swappedPair := rfl
  refine ⟨simplyNamed_pairs rfl rfl rfl, ?_, typeNamed_pair rfl rfl rfl, fun same => ?_⟩
  · exact .filled defined (List.forall_mem_cons.mpr
      ⟨single .string, List.forall_mem_singleton.mpr (single .int32)⟩) rfl
  · cases same

end TypeTable

end PredicateWire
