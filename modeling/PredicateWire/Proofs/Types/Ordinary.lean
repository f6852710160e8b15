/-
This file says which types are put together from the library and from records with plain
names, and proves that their names can be taken apart again: the library knows the names
of its own types and of its definitions, and none that ends in a bracket.

Ordinary types are those that expressions have; what can be built from the library is a
little more, since it includes definitions that stand open. A record has to go by a
plain name that the library does not know. With the name of a library type it would be
taken for this type by every receiver, and with a name like that of an array it would be
taken apart. The lists of the library are short, and what is asked of their entries is
decided by computation, once and here.
-/
import PredicateWire.Catalog.Library
import PredicateWire.Proofs.Types.NameText
import PredicateWire.Proofs.Types.Parts

namespace PredicateWire

/-! ### Types of the library -/

namespace Library

/-- A generic definition of the library: its name, what its instances are, and the number of its
parameters. -/
def definitions : List (String × Family × Nat) :=
  [("sys.Func`1", .function, 1), ("sys.Func`2", .function, 2), ("sys.Func`3", .function, 3),
    (DataType.sequenceName, .sequence, 1), (DataType.listName, .sequence, 1),
    (DataType.dictionaryName, .map, 2)]

theorem findType?_definition {name : String} {family : Family} {arity : Nat}
    (defined : (name, family, arity) ∈ definitions) :
    Catalog.standard.findType? name = some (DataType.definition name family arity) := by
  simp only [definitions, List.mem_cons, List.not_mem_nil, or_false, Prod.mk.injEq] at defined
  rcases defined with ⟨rfl, rfl, rfl⟩ | ⟨rfl, rfl, rfl⟩ | ⟨rfl, rfl, rfl⟩ | ⟨rfl, rfl, rfl⟩ |
    ⟨rfl, rfl, rfl⟩ | ⟨rfl, rfl, rfl⟩ <;> rfl

/-- The name of a definition is the base of the names of its instances. -/
theorem base_definition {name : String} {family : Family} {arity : Nat}
    (defined : (name, family, arity) ∈ definitions) :
    arity ≠ 0 ∧ family ≠ .record ∧ ∃ head digits,
      TypeName.Base name head digits ∧ TypeName.digitsValue digits = arity := by
  simp only [definitions, List.mem_cons, List.not_mem_nil, or_false, Prod.mk.injEq] at defined
  rcases defined with ⟨rfl, rfl, rfl⟩ | ⟨rfl, rfl, rfl⟩ | ⟨rfl, rfl, rfl⟩ | ⟨rfl, rfl, rfl⟩ |
    ⟨rfl, rfl, rfl⟩ | ⟨rfl, rfl, rfl⟩
  · exact ⟨by decide, by decide, "sys.Func".toList, ['1'],
      ⟨by decide, by simp, by decide, List.forall_mem_singleton.mpr rfl, by decide⟩, by decide⟩
  · exact ⟨by decide, by decide, "sys.Func".toList, ['2'],
      ⟨by decide, by simp, by decide, List.forall_mem_singleton.mpr rfl, by decide⟩, by decide⟩
  · exact ⟨by decide, by decide, "sys.Func".toList, ['3'],
      ⟨by decide, by simp, by decide, List.forall_mem_singleton.mpr rfl, by decide⟩, by decide⟩
  · exact ⟨by decide, by decide, "sys.collections.Sequence".toList, ['1'],
      ⟨by decide, by simp, by decide, List.forall_mem_singleton.mpr rfl, by decide⟩, by decide⟩
  · exact ⟨by decide, by decide, "sys.collections.List".toList, ['1'],
      ⟨by decide, by simp, by decide, List.forall_mem_singleton.mpr rfl, by decide⟩, by decide⟩
  · exact ⟨by decide, by decide, "sys.collections.Dictionary".toList, ['2'],
      ⟨by decide, by simp, by decide, List.forall_mem_singleton.mpr rfl, by decide⟩, by decide⟩

theorem arguments_ne_nil {name : String} {family : Family} {arguments : List DataType}
    (defined : (name, family, arguments.length) ∈ definitions) : arguments ≠ [] :=
  fun empty => (base_definition defined).1 (List.length_eq_zero_iff.mpr empty)

/-- No name of the library has a bracket. -/
theorem findType?_eq_none {name : String} (bracket : ']' ∈ name.toList) :
    Catalog.standard.findType? name = none := by
  refine Option.eq_none_iff_forall_ne_some.mpr fun type found => ?_
  have unbracketed : ∀ entry ∈ Catalog.standard.types, ']' ∉ entry.1.toList := by
    decide +kernel
  obtain ⟨entry, first, _⟩ := Option.map_eq_some_iff.mp found
  have named := List.find?_some first
  rw [← eq_of_beq named] at bracket
  exact unbracketed entry (List.mem_of_find?_eq_some first) bracket

end Library

namespace DataType

/-! ### Ordinary types -/

/-- A record goes by a plain name that the library does not know. -/
structure PlainName (name : String) : Prop where
  present : name ≠ ""
  plain : ∀ character ∈ name.toList, TypeName.isReserved character = false ∧ character ≠ '\x60'
  unknown : Catalog.standard.findType? name = none

/-- A type of the library, an array, an instance of a definition of the library, or a record with a
plain name of its own, over types that are ordinary as well. -/
inductive Ordinary : DataType → Prop
  | primitive (kind : Primitive) : Ordinary (primitive kind)
  | object : Ordinary object
  | holder : Ordinary (holder enumerableName)
  | array {element : DataType} (item : Ordinary element) : Ordinary (array element)
  | generic {name : String} {family : Family} {arguments : List DataType}
    (defined : (name, family, arguments.length) ∈ Library.definitions)
    (each : ∀ argument ∈ arguments, Ordinary argument) : Ordinary (generic name family arguments)
  | record {name : String} {fields : List (Field DataType)} {captured : Bool}
    (plain : PlainName name) (each : ∀ field ∈ fields, Ordinary field.type) :
    Ordinary (record name fields captured)

/-- Ordinary types are closed. -/
theorem Ordinary.isClosed {type : DataType} (ordinary : type.Ordinary) : type.isClosed = true := by
  induction ordinary with
  | primitive => rfl
  | object => rfl
  | holder => rfl
  | array _ inductionHypothesis => rwa [DataType.isClosed]
  | generic _ _ inductionHypothesis =>
    rw [DataType.isClosed, areClosed_iff]
    exact inductionHypothesis
  | record _ _ inductionHypothesis =>
    rw [DataType.isClosed, fieldsAreClosed_iff]
    exact inductionHypothesis

/-- Every part of an ordinary type is ordinary. -/
theorem Ordinary.parts {type : DataType} (ordinary : type.Ordinary) :
    ∀ part ∈ type.parts, part.Ordinary := by
  induction ordinary with
  | primitive kind =>
    rw [DataType.parts, List.forall_mem_singleton]
    exact .primitive kind
  | object =>
    rw [DataType.parts, List.forall_mem_singleton]
    exact .object
  | holder =>
    rw [DataType.parts, List.forall_mem_singleton]
    exact .holder
  | array item inductionHypothesis =>
    rw [DataType.parts, List.forall_mem_cons]
    exact ⟨.array item, inductionHypothesis⟩
  | generic defined each inductionHypothesis =>
    rw [DataType.parts, List.forall_mem_cons, partsAll_eq_flatMap]
    refine ⟨.generic defined each, fun part member => ?_⟩
    obtain ⟨argument, argumentMember, within⟩ := List.mem_flatMap.mp member
    exact inductionHypothesis argument argumentMember part within
  | record plain each inductionHypothesis =>
    rw [DataType.parts, List.forall_mem_cons, partsFields_eq_flatMap]
    refine ⟨.record plain each, fun part member => ?_⟩
    obtain ⟨field, fieldMember, within⟩ := List.mem_flatMap.mp member
    exact inductionHypothesis field fieldMember part within

/-! ### Names -/

/-- A name that can be taken out of the names of arrays and instances again: it has characters, and
its brackets are balanced. The type is not a type parameter, which would leave an instance open. -/
structure WellNamed (type : DataType) : Prop where
  balanced : TypeName.Balanced type.canonicalName.toList
  present : type.canonicalName ≠ ""
  bound : type.isTypeParameter = false

/-- An instance is named after the definition and its arguments, unless it stands open. -/
theorem canonicalName_filled {name : String} {family : Family} {arguments : List DataType}
    (filled : arguments.all isTypeParameter = false) :
    (generic name family arguments).canonicalName =
      TypeName.instanceName name (arguments.map canonicalName) := by
  rw [canonicalName, filled, if_neg Bool.false_ne_true, bracketedNames_eq_map,
    TypeName.instanceName, List.map_map]
  rfl

/-- An instance is named after the definition and its arguments if none of these is a parameter. -/
theorem canonicalName_instance {name : String} {family : Family} {arguments : List DataType}
    (present : arguments ≠ [])
    (bound : ∀ argument ∈ arguments, argument.isTypeParameter = false) :
    (generic name family arguments).canonicalName =
      TypeName.instanceName name (arguments.map canonicalName) := by
  obtain ⟨argument, member⟩ := List.exists_mem_of_ne_nil _ present
  exact canonicalName_filled
    (List.all_eq_false.mpr ⟨argument, member, Bool.eq_false_iff.mp (bound argument member)⟩)

/-- The types of the library have names that can be taken out of other names again. -/
theorem wellNamed_library : ∀ type ∈ Library.types, type.WellNamed := by
  have plain : ∀ type ∈ Library.types, (type.canonicalName.toList.all fun character =>
      character != '[' && character != ']') = true ∧ type.canonicalName ≠ "" ∧
        type.isTypeParameter = false := by
    decide +kernel
  intro type listed
  obtain ⟨unbracketed, present, bound⟩ := plain type listed
  refine ⟨TypeName.balanced_of_forall fun character member => ?_, present, bound⟩
  simpa using List.all_eq_true.mp unbracketed character member

/-- The name of an array can be taken out again if that of its element can. -/
theorem WellNamed.array {element : DataType} (item : element.WellNamed) :
    (DataType.array element).WellNamed := by
  refine ⟨?_, fun empty => ?_, rfl⟩
  · rw [canonicalName, String.toList_append]
    exact TypeName.balanced_append item.balanced
      (TypeName.balanced_bracketed TypeName.balanced_nil)
  · rw [canonicalName] at empty
    exact item.present (String.append_eq_empty_iff.mp empty).1

theorem PlainName.wellNamed {name : String} (plain : PlainName name)
    (fields : List (Field DataType)) (captured : Bool) :
    (record name fields captured).WellNamed :=
  ⟨TypeName.balanced_of_unreserved fun character member => (plain.plain character member).1,
    plain.present, rfl⟩

theorem findType?_array (element : DataType) :
    Catalog.standard.findType? (array element).canonicalName = none := by
  refine Library.findType?_eq_none ?_
  rw [canonicalName, String.toList_append]
  exact List.mem_append_right _ (by decide)

/-- The name of an array is read as that of an array, with the name of its element. -/
theorem WellNamed.parse_array {element : DataType} (item : element.WellNamed) :
    TypeName.parse (DataType.array element).canonicalName = .ok (.array element.canonicalName) := by
  rw [canonicalName]
  exact TypeName.parse_array item.present

theorem WellNamed.nestable {type : DataType} (named : type.WellNamed) :
    TypeName.Nestable type.canonicalName :=
  ⟨named.balanced, named.present⟩

section

variable {name : String} {family : Family} {arguments : List DataType}
  (defined : (name, family, arguments.length) ∈ Library.definitions)
  (each : ∀ argument ∈ arguments, argument.WellNamed)

include defined each

theorem canonicalName_generic : (generic name family arguments).canonicalName =
    TypeName.instanceName name (arguments.map canonicalName) :=
  canonicalName_instance (Library.arguments_ne_nil defined)
    fun argument member => (each argument member).bound

/-- The name of an instance can be taken out again if those of its arguments can. -/
theorem wellNamed_generic : (generic name family arguments).WellNamed := by
  have unbracketed : ∀ definition ∈ Library.definitions, ∀ character ∈ definition.1.toList,
      character ≠ '[' ∧ character ≠ ']' := by
    simp [Library.definitions, sequenceName, listName, dictionaryName]
  have nestable := TypeName.nestable_instanceName
    (TypeName.balanced_of_forall (unbracketed _ defined))
    (List.forall_mem_map.mpr fun argument member => (each argument member).nestable)
  rw [← canonicalName_generic defined each] at nestable
  exact ⟨nestable.1, nestable.2, rfl⟩

theorem findType?_generic :
    Catalog.standard.findType? (generic name family arguments).canonicalName = none := by
  refine Library.findType?_eq_none ?_
  rw [canonicalName_generic defined each]
  exact TypeName.bracket_instanceName _ _

/-- The name of an instance is read as that of an instance, with the names of its arguments. -/
theorem parse_generic : TypeName.parse (generic name family arguments).canonicalName =
    .ok (.generic name (arguments.map canonicalName)) := by
  obtain ⟨_, _, head, digits, base, arity⟩ := Library.base_definition defined
  rw [canonicalName_generic defined each]
  refine TypeName.parse_generic base (by rw [List.length_map, arity])
    (fun empty => Library.arguments_ne_nil defined (List.map_eq_nil_iff.mp empty)) ?_
  exact List.forall_mem_map.mpr fun argument member => (each argument member).nestable

end

/-! ### Types that can be built from the library -/

/-- A type of the library, which may be a definition that stands open, an array, an instance of a
definition, or a record with a plain name of its own, over types of the same sort. -/
inductive Buildable : DataType → Prop
  | library {type : DataType} (listed : type ∈ Library.types) : Buildable type
  | array {element : DataType} (item : Buildable element) : Buildable (array element)
  | generic {name : String} {family : Family} {arguments : List DataType}
    (defined : (name, family, arguments.length) ∈ Library.definitions)
    (each : ∀ argument ∈ arguments, Buildable argument) : Buildable (generic name family arguments)
  | record {name : String} {fields : List (Field DataType)} {captured : Bool}
    (plain : PlainName name) (each : ∀ field ∈ fields, Buildable field.type) :
    Buildable (record name fields captured)

/-- Types that can be built from the library have names that can be taken out of other names
again. -/
theorem Buildable.wellNamed {type : DataType} (buildable : type.Buildable) : type.WellNamed := by
  induction buildable with
  | library listed => exact wellNamed_library _ listed
  | array _ inductionHypothesis => exact inductionHypothesis.array
  | generic defined _ inductionHypothesis => exact wellNamed_generic defined inductionHypothesis
  | record plain _ _ => exact plain.wellNamed _ _

theorem Ordinary.buildable {type : DataType} (ordinary : type.Ordinary) : type.Buildable := by
  induction ordinary with
  | primitive kind =>
    refine .library (List.mem_append_left _ (List.mem_map_of_mem ?_))
    cases kind <;> decide
  | object => exact .library (List.mem_append_right _ (.head _))
  | holder => exact .library (List.mem_append_right _ (by simp [Library.enumerable]))
  | array _ inductionHypothesis => exact .array inductionHypothesis
  | generic defined _ inductionHypothesis => exact .generic defined inductionHypothesis
  | record plain _ inductionHypothesis => exact .record plain inductionHypothesis

/-! ### Instances of definitions -/

/-- A type is filled in if it is a generic definition with as many parameters. -/
theorem instantiate_eq_ok {type made : DataType} {arguments : List DataType} :
    type.instantiate arguments = .ok made ↔
      type.isGenericDefinition = true ∧ arguments.length = type.arguments.length ∧
        type.substitute arguments [] = made := by
  unfold instantiate
  by_cases isOpen : type.isGenericDefinition = true
  · rw [isOpen, if_neg (by decide)]
    by_cases lengths : arguments.length = type.arguments.length
    · rw [if_neg (not_not_intro lengths), Except.ok.injEq]
      exact ⟨fun same => ⟨rfl, lengths, same⟩, fun made => made.2.2⟩
    · rw [if_pos lengths]
      exact ⟨(nomatch ·), fun made => absurd made.2.1 lengths⟩
  · rw [Bool.not_eq_true] at isOpen
    rw [isOpen, if_pos (by decide)]
    exact ⟨(nomatch ·), fun made => nomatch made.1⟩

/-- A definition is filled in to the instance with the given arguments. -/
theorem instantiate_definition_eq_ok {name : String} {family : Family} {arity : Nat}
    {arguments : List DataType} {made : DataType} :
    (definition name family arity).instantiate arguments = .ok made ↔
      arguments ≠ [] ∧ arity = arguments.length ∧ made = generic name family arguments := by
  have count : (definition name family arity).arguments.length = arity := by
    rw [definition, DataType.arguments, List.length_map, List.length_range]
  have isOpen : (definition name family arity).isGenericDefinition = true ↔ arity ≠ 0 := by
    rw [definition, isGenericDefinition, Bool.and_eq_true, Bool.not_eq_true',
      List.isEmpty_eq_false_iff, ne_eq, List.map_eq_nil_iff, List.range_eq_nil, List.all_map,
      and_iff_left]
    exact List.all_eq_true.mpr fun _ _ => rfl
  have filled : substituteAll arguments [] ((List.range arguments.length).map (parameter .type)) =
      arguments := by
    rw [substituteAll_eq_map, List.map_map]
    refine List.ext_getElem (by rw [List.length_map, List.length_range])
      fun place inRange bound => ?_
    rw [List.getElem_map, List.getElem_range, Function.comp_apply, substitute,
      List.getD_eq_getElem?_getD, List.getElem?_eq_getElem bound, Option.getD_some]
  rw [instantiate_eq_ok, count, isOpen]
  constructor
  · rintro ⟨nonzero, rfl, rfl⟩
    refine ⟨fun empty => nonzero (List.length_eq_zero_iff.mpr empty), rfl, ?_⟩
    rw [definition, substitute, filled]
  · rintro ⟨some, rfl, rfl⟩
    refine ⟨fun empty => some (List.length_eq_zero_iff.mp empty), rfl, ?_⟩
    rw [definition, substitute, filled]

/-- A definition is filled in with as many arguments as it has parameters. -/
theorem instantiate_definition {name : String} {family : Family} {arguments : List DataType}
    (some : arguments ≠ []) :
    (definition name family arguments.length).instantiate arguments =
      .ok (generic name family arguments) :=
  instantiate_definition_eq_ok.mpr ⟨some, rfl, rfl⟩

end DataType

end PredicateWire
