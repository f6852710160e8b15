/-
This file proves that what a catalog offers can be used as its types say. Operations and
members of the library, and positional constructors of records, settle on a value of the
type of their result when they are given values of the types of their parameters. To
settle means that from some budget on for nested calls the outcome stays the same and is
such a value or a failure at run time; only searches call anything, so for all the
others it is immediate.

The library is a finite list, and each of its methods is looked at once, but at every
instance of its types. So a member of a list or a dictionary is traced back to its
definition, and the type of the target to the instance whose arguments say what the
items are. A record can get in the way by taking the name of one of these types, which
is excluded by name.
-/
import Mathlib.Data.List.Nodup
import PredicateWire.Proofs.Evaluation.Operands

namespace PredicateWire

open Value

/-! ### What bodies do with values of a type -/

namespace Native

variable {element : DataType} {items : List Value}

/-- A count lands on a whole number, or there are too many items to count. -/
theorem lands_counted (count : Nat) : Lands (Belongs .int32) (counted count) := by
  unfold counted
  split
  · exact rfl
  · exact lands_fault _

/-- The end of a sequence is one of its items, and an empty one has none at run time. -/
theorem lands_endOf (which : SequenceEnd) (each : ∀ item ∈ items, Belongs element item) :
    Lands (Belongs element) (match endOf which items with
      | some item => .ok item
      | none => Outcome.fault (.emptySequence which.name)) := by
  split
  · exact each _ (mem_of_endOf ‹_›)
  · exact lands_fault _

/-- A search by a predicate on the items ends, and it fails at run time only. -/
theorem settles_anyWhere {predicate : Closure} (answers : ∀ address, Answers [element, .bool]
      fun values budget => Closure.callAt budget address predicate values)
    (each : ∀ item ∈ items, Belongs element item) (address : Address) (number : Nat) :
    Settles (fun _ => True) fun budget =>
      anyWhere (AddressedCaller.within (Closure.callAt budget) address) predicate number items := by
  induction items generalizing number with
  | nil => exact settles_ok trivial
  | cons item rest inductionHypothesis =>
    rw [List.forall_mem_cons] at each
    have called : Settles (Belongs .bool) fun budget =>
        Closure.callAt budget (address.call number) predicate [item] :=
      answers (address.call number) item each.1
    refine settles_bind called fun answer answerBelongs => ?_
    obtain ⟨truth, rfl⟩ := exists_bool (belongs_primitive.mp answerBelongs)
    cases truth with
    | true => exact settles_ok trivial
    | false => exact inductionHypothesis each.2 (number + 1)

/-- The content that a map has for a key belongs to the type of the contents. -/
theorem lands_contentOf {entries : List (Value × Value)}
    (each : ∀ entry ∈ entries, Belongs element entry.2) (key : Value) :
    Lands (Belongs element) (match (Value.map entries).contentOf? key with
      | some content => .ok content
      | none => Outcome.fault (.keyNotFound key.text)) := by
  split
  · obtain ⟨entry, first, rfl⟩ := Option.map_eq_some_iff.mp ‹_›
    exact each entry (List.mem_of_find?_eq_some first)
  · exact lands_fault _

end Native

/-- One argument has been given for one parameter, and it belongs to its type. -/
theorem exists_single {type : DataType} {values : List Value}
    (given : List.Forall₂ Belongs [type] values) :
    ∃ value, values = [value] ∧ Belongs type value := by
  cases given with
  | cons belongs none =>
    cases none
    exact ⟨_, rfl, belongs⟩

/-- Two arguments have been given for two parameters, and they belong to their types. -/
theorem exists_pair {first second : DataType} {values : List Value}
    (given : List.Forall₂ Belongs [first, second] values) : ∃ value other,
      values = [value, other] ∧ Belongs first value ∧ Belongs second other := by
  cases given with
  | cons belongs rest =>
    obtain ⟨other, rfl, otherBelongs⟩ := exists_single rest
    exact ⟨_, other, rfl, belongs, otherBelongs⟩

/-- With the right number of arguments and a target that is there, a method settles when its body
does. -/
theorem Method.settles_invoke {method : Method} {target : Option Value} {arguments : List Value}
    {wanted : Value → Prop} {calls : Nat → Caller}
    (lengths : method.parameters.length = arguments.length)
    (present : method.isStatic = false → (target.getD .null).isNull = false)
    (body : Settles wanted fun budget => method.body.run (calls budget) target arguments) :
    Settles wanted fun budget => method.invoke (calls budget) target arguments := by
  have ran : ∀ call,
      method.invoke call target arguments = method.body.run call target arguments := by
    intro call
    unfold invoke
    rw [if_neg (not_not_intro lengths.symm)]
    cases shared : method.isStatic with
    | true => rfl
    | false => rw [present shared]; rfl
  simp only [ran]
  exact body

/-! ### Operations on sequences -/

namespace Library

/-- The static methods of the library are the operations on sequences. -/
theorem operation_of_static {method : Method} (member : method ∈ Catalog.standard.methods)
    (shared : method.isStatic = true) : method ∈ operations := by
  have own : ∀ method ∈ textMethods ++ listMethods ++ dictionaryMethods,
      method.isStatic = false := by
    intro method member
    simp only [textMethods, listMethods, dictionaryMethods, List.mem_append, List.mem_cons,
      List.not_mem_nil, or_false, or_assoc] at member
    rcases member with rfl | rfl | rfl | rfl | rfl | rfl | rfl | rfl | rfl <;> rfl
  have listed : Catalog.standard.methods =
      operations ++ (textMethods ++ listMethods ++ dictionaryMethods) := rfl
  rw [listed] at member
  rcases List.mem_append.mp member with operation | other
  · exact operation
  · rw [own method other] at shared
    cases shared

/-- The operations on sequences are static, and generic over the element type. -/
theorem shape_of_operation {definition : Method} (member : definition ∈ operations) :
    definition.isStatic = true ∧ definition.genericArity = 1 := by
  simp only [operations, List.mem_cons, List.not_mem_nil, or_false] at member
  rcases member with rfl | rfl | rfl | rfl | rfl | rfl <;> exact ⟨rfl, rfl⟩

/-- So is every static method of the library. -/
theorem genericArity_of_static {method : Method} (member : method ∈ Catalog.standard.methods)
    (shared : method.isStatic = true) : method.genericArity = 1 :=
  (shape_of_operation (operation_of_static member shared)).2

/-- An operation on sequences of an element type settles on a value of the type of its result. -/
theorem settles_operation {definition method : Method} {types : List DataType}
    {arguments : List Value} (member : definition ∈ operations)
    (made : definition.makeGeneric types = .ok method)
    (given : List.Forall₂ Belongs method.parameters arguments) (address : Address) :
    Settles (Belongs method.returnType) fun budget => method.invoke
      (AddressedCaller.within (Closure.callAt budget) address) none arguments := by
  obtain ⟨_, lengths, rfl⟩ := Method.makeGeneric_eq_ok.mp made
  have shared := shape_of_operation member
  rw [shared.2] at lengths
  obtain ⟨element, rfl⟩ := List.length_eq_one_iff.mp lengths
  refine Method.settles_invoke given.length_eq
    (fun own => absurd shared.1 (own ▸ Bool.false_ne_true)) ?_
  simp only [operations, List.mem_cons, List.not_mem_nil, or_false] at member
  rcases member with rfl | rfl | rfl | rfl | rfl | rfl
  · obtain ⟨source, item, rfl, ⟨items, rfl, each⟩, _⟩ := exists_pair given
    exact settles_ok rfl
  · obtain ⟨source, rfl, items, rfl, each⟩ := exists_single given
    exact settles_ok rfl
  · obtain ⟨source, predicate, rfl, ⟨items, rfl, each⟩, closure, rfl, answers⟩ := exists_pair given
    show Settles (Belongs .bool) fun budget =>
      Native.anyWhere (AddressedCaller.within (Closure.callAt budget) address) closure 0 items >>=
        fun found => .ok (.bool found)
    exact settles_bind (Native.settles_anyWhere answers each address 0) fun _ _ => settles_ok rfl
  · obtain ⟨source, rfl, items, rfl, each⟩ := exists_single given
    exact settles_of_lands (Native.lands_endOf .first each)
  · obtain ⟨source, rfl, items, rfl, each⟩ := exists_single given
    exact settles_of_lands (Native.lands_endOf .last each)
  · obtain ⟨source, rfl, items, rfl, each⟩ := exists_single given
    exact settles_of_lands (Native.lands_counted _)

end Library

/-! ### Members of texts, lists and dictionaries -/

namespace Library

/-- The types of the library that have members of their own go by these names. -/
def memberHolders : List String :=
  [Primitive.string.typeName, DataType.listName, DataType.dictionaryName]

end Library

section

open Catalog

variable {specs : List RecordSpec} {type : DataType} (denotes : (withRecords specs).Denotes type)

include denotes

/-- What goes by the name of a definition is an instance of the definition, unless a record does. -/
theorem exists_generic {name : String} {family : Family} {arity : Nat}
    (spared : ∀ spec ∈ specs, spec.name ≠ name)
    (defined : (name, family, arity) ∈ Library.definitions) (named : type.baseName = name) :
    ∃ arguments, arguments.length = arity ∧ type = .generic name family arguments := by
  have simple : ∀ definition ∈ Library.definitions, ∀ kind ∈ Primitive.all,
      kind.typeName ≠ definition.1 := by decide
  have special : ∀ definition ∈ Library.definitions, definition.1 ≠ DataType.objectName ∧
      definition.1 ≠ DataType.enumerableName ∧ definition.1 ≠ DataType.arrayName := by decide
  have single : ∀ definition ∈ Library.definitions, ∀ other ∈ Library.definitions,
      definition.1 = other.1 → definition = other := by decide
  obtain ⟨notObject, notHolder, notArray⟩ := special _ defined
  cases denotes.made with
  | primitive kind =>
    exact absurd named (simple _ defined kind (by cases kind <;> decide))
  | object => exact absurd named.symm notObject
  | holder => exact absurd named.symm notHolder
  | record member => exact absurd named (spared _ member)
  | array _ => exact absurd named.symm notArray
  | generic otherDefined _ =>
    cases single _ otherDefined _ defined named
    exact ⟨_, rfl, rfl⟩

variable (spared : ∀ spec ∈ specs, spec.name ∉ Library.memberHolders)

include spared

/-- No other type goes by the name of texts, unless a record does. -/
theorem eq_string (named : DataType.string.baseName = type.baseName) : type = .string := by
  cases denotes.made with
  | primitive kind => cases kind <;> first | rfl | exact absurd named (by decide)
  | object => exact absurd named (by decide)
  | holder => exact absurd named (by decide)
  | record member => exact absurd (List.mem_cons.mpr (.inl named.symm)) (spared _ member)
  | array _ =>
    have other : Primitive.string.typeName ≠ DataType.arrayName := by decide
    exact absurd named other
  | generic defined _ =>
    have others : ∀ definition ∈ Library.definitions,
        definition.1 ≠ Primitive.string.typeName := by decide
    exact absurd named.symm (others _ defined)

/-- What goes by the name of lists is a list of something. -/
theorem exists_list (named : Library.list.baseName = type.baseName) :
    ∃ element, type = .generic DataType.listName .sequence [element] := by
  obtain ⟨arguments, lengths, rfl⟩ := exists_generic denotes
    (fun spec member same => spared spec member (same ▸ .tail _ (.head _)))
    (by decide : (DataType.listName, Family.sequence, 1) ∈ Library.definitions) named.symm
  obtain ⟨element, rfl⟩ := List.length_eq_one_iff.mp lengths
  exact ⟨element, rfl⟩

/-- What goes by the name of dictionaries is a dictionary from something to something. -/
theorem exists_dictionary (named : Library.dictionary.baseName = type.baseName) :
    ∃ key content, type = .generic DataType.dictionaryName .map [key, content] := by
  obtain ⟨arguments, lengths, rfl⟩ := exists_generic denotes
    (fun spec member same => spared spec member (same ▸ .tail _ (.tail _ (.head _))))
    (by decide : (DataType.dictionaryName, Family.map, 2) ∈ Library.definitions) named.symm
  obtain ⟨key, content, rfl⟩ := List.length_eq_two.mp lengths
  exact ⟨key, content, rfl⟩

end

namespace Library

variable {calls : Nat → Caller} {definition : Method} {target : Value} {arguments : List Value}

/-- A method of texts has a value of the type of its result. -/
theorem settles_textMethod (member : definition ∈ textMethods) (belongs : Belongs .string target)
    (given : List.Forall₂ Belongs (definition.closeOver .string).parameters arguments) :
    Settles (Belongs (definition.closeOver .string).returnType) fun budget =>
      (definition.closeOver .string).invoke (calls budget) (some target) arguments := by
  obtain ⟨text, rfl⟩ := exists_string (belongs_primitive.mp belongs)
  refine Method.settles_invoke given.length_eq (fun _ => rfl) ?_
  have part : ∀ {test : TextTest}, definition = textTest test →
      ∃ part, arguments = [.string part] := by
    rintro test rfl
    obtain ⟨argument, rfl, argumentBelongs⟩ := exists_single given
    obtain ⟨part, rfl⟩ := exists_string (belongs_primitive.mp argumentBelongs)
    exact ⟨part, rfl⟩
  simp only [textMethods, List.mem_cons, List.not_mem_nil, or_false] at member
  rcases member with rfl | rfl | rfl | rfl | rfl
  · obtain ⟨part, rfl⟩ := part rfl
    exact settles_ok rfl
  · obtain ⟨part, rfl⟩ := part rfl
    exact settles_ok rfl
  · obtain ⟨part, rfl⟩ := part rfl
    exact settles_ok rfl
  · exact settles_ok rfl
  · exact settles_ok rfl

/-- A method of lists has a value of the type of its result, whatever the items are. -/
theorem settles_listMethod {type element : DataType} (member : definition ∈ listMethods)
    (shape : type = .generic DataType.listName .sequence [element]) (belongs : Belongs type target)
    (given : List.Forall₂ Belongs (definition.closeOver type).parameters arguments) :
    Settles (Belongs (definition.closeOver type).returnType) fun budget =>
      (definition.closeOver type).invoke (calls budget) (some target) arguments := by
  subst shape
  obtain ⟨items, rfl, each⟩ := belongs
  refine Method.settles_invoke given.length_eq (fun _ => rfl) ?_
  simp only [listMethods, List.mem_cons, List.not_mem_nil, or_false] at member
  rcases member with rfl | rfl
  · exact settles_ok rfl
  · obtain ⟨argument, rfl, argumentBelongs⟩ := exists_single given
    rcases BinaryOperator.exists_of_isInteger rfl argumentBelongs with
      ⟨index, rfl, _⟩ | ⟨index, rfl, _⟩ <;>
      exact settles_of_lands
        (lands_ofResult (BinaryOperator.meets_itemAt runtime_isPermitted each _))

/-- A method of dictionaries has a value of the type of its result, whatever keys and contents
are. -/
theorem settles_dictionaryMethod {type key content : DataType}
    (member : definition ∈ dictionaryMethods)
    (shape : type = .generic DataType.dictionaryName .map [key, content])
    (belongs : Belongs type target)
    (given : List.Forall₂ Belongs (definition.closeOver type).parameters arguments) :
    Settles (Belongs (definition.closeOver type).returnType) fun budget =>
      (definition.closeOver type).invoke (calls budget) (some target) arguments := by
  subst shape
  obtain ⟨entries, rfl, -, each⟩ := belongs
  refine Method.settles_invoke given.length_eq (fun _ => rfl) ?_
  simp only [dictionaryMethods, List.mem_cons, List.not_mem_nil, or_false] at member
  rcases member with rfl | rfl
  · exact settles_of_lands (Native.lands_contentOf each _)
  · exact settles_ok rfl

/-- Every method of the library that is not static belongs to texts, lists or dictionaries. These
are the three types whose names a record must not take. -/
theorem member_of_own (member : definition ∈ Catalog.standard.methods)
    (own : definition.isStatic = false) :
    (definition ∈ textMethods ∧ definition.declaringType = .string) ∨
      (definition ∈ listMethods ∧ definition.declaringType = list) ∨
        definition ∈ dictionaryMethods ∧ definition.declaringType = dictionary := by
  have listed : Catalog.standard.methods =
      operations ++ textMethods ++ listMethods ++ dictionaryMethods := rfl
  rw [listed, List.mem_append, List.mem_append, List.mem_append] at member
  rcases member with ((operation | text) | list) | dictionary
  · simp only [operations, List.mem_cons, List.not_mem_nil, or_false] at operation
    rcases operation with rfl | rfl | rfl | rfl | rfl | rfl <;> cases own
  · refine .inl ⟨text, ?_⟩
    simp only [textMethods, List.mem_cons, List.not_mem_nil, or_false] at text
    rcases text with rfl | rfl | rfl | rfl | rfl <;> rfl
  · refine .inr (.inl ⟨list, ?_⟩)
    simp only [listMethods, List.mem_cons, List.not_mem_nil, or_false] at list
    rcases list with rfl | rfl <;> rfl
  · refine .inr (.inr ⟨dictionary, ?_⟩)
    simp only [dictionaryMethods, List.mem_cons, List.not_mem_nil, or_false] at dictionary
    rcases dictionary with rfl | rfl <;> rfl

section

variable {specs : List RecordSpec} {type : DataType}
  (denotes : (Catalog.withRecords specs).Denotes type)
  (spared : ∀ spec ∈ specs, spec.name ∉ memberHolders)

include denotes spared

/-- A method of texts, lists or dictionaries, carried over to the type of its target, has a value of
the type of its result. -/
theorem settles_memberMethod (member : definition ∈ Catalog.standard.methods)
    (own : definition.isStatic = false)
    (named : definition.declaringType.baseName = type.baseName) (belongs : Belongs type target)
    (given : List.Forall₂ Belongs (definition.closeOver type).parameters arguments) :
    Settles (Belongs (definition.closeOver type).returnType) fun budget =>
      (definition.closeOver type).invoke (calls budget) (some target) arguments := by
  rcases member_of_own member own with
    ⟨text, declared⟩ | ⟨list, declared⟩ | ⟨dictionary, declared⟩ <;>
    rw [declared] at named
  · obtain rfl := eq_string denotes spared named
    exact settles_textMethod text belongs given
  · obtain ⟨element, rfl⟩ := exists_list denotes spared named
    exact settles_listMethod list rfl belongs given
  · obtain ⟨key, content, rfl⟩ := exists_dictionary denotes spared named
    exact settles_dictionaryMethod dictionary rfl belongs given

/-- A property of texts, lists or dictionaries, carried over to the type of its target, has a value
of its type. -/
theorem settles_property {property : Member} (member : property ∈ Catalog.standard.properties)
    (named : property.declaringType.baseName = type.baseName) (belongs : Belongs type target) :
    Settles (Belongs (property.closeOver type).memberType) fun budget =>
      (property.closeOver type).read (calls budget) target := by
  have listed : Catalog.standard.properties = properties.reverse := rfl
  rw [listed, List.mem_reverse, properties] at member
  simp only [List.mem_cons, List.not_mem_nil, or_false] at member
  rcases member with rfl | rfl | rfl
  · obtain rfl := eq_string denotes spared named
    obtain ⟨text, rfl⟩ := exists_string (belongs_primitive.mp belongs)
    exact settles_of_lands (Native.lands_counted _)
  · obtain ⟨element, rfl⟩ := exists_list denotes spared named
    obtain ⟨items, rfl, _⟩ := belongs
    exact settles_of_lands (Native.lands_counted _)
  · obtain ⟨key, content, rfl⟩ := exists_dictionary denotes spared named
    obtain ⟨entries, rfl, _⟩ := belongs
    exact settles_of_lands (Native.lands_counted _)

end

end Library

/-! ### Constructors and fields of records -/

namespace RecordSpec

/-- A record as it should be: its fields have names of their own, and every constructor assigns each
of them. -/
structure IsPlain (spec : RecordSpec) : Prop where
  distinct : (spec.fields.map Field.name).Nodup
  complete : ∀ names ∈ spec.constructors, names.Perm (spec.fields.map Field.name)
  methods : spec.methods = []

variable {spec : RecordSpec} (plain : spec.IsPlain)

include plain

/-- A field of a plain record is found under its name, since no other field has it. -/
theorem IsPlain.field?_eq {field : Field DataType} (member : field ∈ spec.fields) :
    spec.type.field? field.name = some field := by
  have present : (spec.type.field? field.name).isSome = true :=
    List.find?_isSome.mpr ⟨field, member, beq_self_eq_true _⟩
  obtain ⟨found, first⟩ := Option.isSome_iff_exists.mp present
  obtain ⟨foundMember, named⟩ := DataType.field?_eq_some first
  rw [first, List.inj_on_of_nodup_map plain.distinct foundMember member named]

end RecordSpec

/-- Assigning fields that a record has enters them one after another. -/
theorem Native.assign_eq_ok {typeName : String} {fields given : List (String × Value)}
    (declared : ∀ entry ∈ given, (Entries.get? fields entry.1).isSome = true) :
    assign typeName fields given =
      .ok (given.foldl (fun sorted entry => Entries.insert entry.1 entry.2 sorted) fields) := by
  induction given generalizing fields with
  | nil => rfl
  | cons entry rest inductionHypothesis =>
    obtain ⟨name, content⟩ := entry
    rw [List.forall_mem_cons] at declared
    obtain ⟨old, held⟩ := Option.isSome_iff_exists.mp declared.1
    have known : (fields.any fun field => field.1 == name) = true :=
      List.any_eq_true.mpr ⟨_, Entries.mem_of_get? held, beq_self_eq_true _⟩
    rw [assign, if_pos known]
    refine inductionHypothesis fun other member => ?_
    rw [Entries.get?_insert]
    split
    · rfl
    · exact declared.2 other member

/-- A record is assembled from blanks, which what is given for the fields replaces. -/
theorem Native.run_assemble (call : Caller) (typeName : String) {fields names : List String}
    (declared : ∀ name ∈ names, name ∈ fields) (arguments : List Value) :
    (assemble typeName fields names).run call none arguments = .ok (.record (Entries.ofList
      (fields.map (fun field => (field, Value.null)) ++ names.zip arguments))) := by
  have known : ∀ entry ∈ names.zip arguments, (Entries.get? (Entries.ofList
      (fields.map fun field => (field, Value.null))) entry.1).isSome = true := by
    intro entry member
    rw [Entries.get?_ofList, Option.isSome_iff_ne_none]
    refine fun none => Entries.get?_eq_none.mp none (entry.1, .null) ?_ rfl
    exact List.mem_reverse.mpr (List.mem_map_of_mem (declared _ (List.of_mem_zip member).1))
  show assign typeName _ _ >>= _ = _
  rw [assign_eq_ok known, Entries.ofList, Entries.ofList, List.foldl_append]
  rfl

/-- A positional constructor makes a record of its type from values of the types of its fields. -/
theorem RecordSpec.IsPlain.settles_positional {spec : RecordSpec} (plain : spec.IsPlain)
    {names : List String} (member : names ∈ spec.constructors) {arguments : List Value}
    (given : List.Forall₂ Belongs (spec.positional names).parameters arguments)
    (calls : Nat → Caller) : Settles (Belongs spec.type) fun budget =>
      (spec.positional names).invoke (calls budget) arguments := by
  have complete := plain.complete names member
  obtain ⟨lengths, paired⟩ := List.forall₂_iff_zip.mp (List.forall₂_map_left_iff.mp given)
  unfold Constructor.invoke
  simp only [if_neg (not_not_intro given.length_eq.symm)]
  simp only [positional, Native.run_assemble _ spec.name
    (fun name member => complete.mem_iff.mp member) arguments]
  refine settles_ok ⟨_, rfl, Entries.ordered_ofList _, fun entry entryMember => ?_,
    fieldsBelong_iff.mpr fun field fieldMember => ?_⟩
  · have named : entry.1 ∈ spec.fields.map Field.name := by
      rcases List.mem_append.mp (Entries.mem_ofList entryMember) with blank | filled
      · obtain ⟨name, nameMember, rfl⟩ := List.mem_map.mp blank
        exact nameMember
      · exact complete.mem_iff.mp (List.of_mem_zip filled).1
    exact List.mem_map.mp named
  · rw [Entries.get?_ofList, List.reverse_append, Entries.get?_append]
    cases found : Entries.get? (names.zip arguments).reverse field.name with
    | none =>
      -- Every field has an argument, since the constructor names it.
      have assigned : field.name ∈ (names.zip arguments).map Prod.fst := by
        rw [List.map_fst_zip (Nat.le_of_eq lengths)]
        exact complete.mem_iff.mpr (List.mem_map_of_mem fieldMember)
      obtain ⟨entry, entryMember, named⟩ := List.mem_map.mp assigned
      exact absurd named (Entries.get?_eq_none.mp found entry (List.mem_reverse.mpr entryMember))
    | some content =>
      have belongs := paired (List.mem_reverse.mp (Entries.mem_of_get? found))
      rw [parameterType, plain.field?_eq fieldMember] at belongs
      exact ⟨content, rfl, belongs⟩

/-- A field of a record has a value of its type. -/
theorem settles_field {type : DataType} {name : String} {field : Field DataType} {target : Value}
    (found : type.field? name = some field) (belongs : Belongs type target)
    (calls : Nat → Caller) : Settles (Belongs field.type) fun budget =>
      (Member.ofField type field).read (calls budget) target := by
  cases type with
  | record _ fields _ =>
    obtain ⟨contents, rfl, -, -, each⟩ := belongs
    obtain ⟨content, held, contentBelongs⟩ :=
      fieldsBelong_iff.mp each field (DataType.field?_eq_some found).1
    show Settles (Belongs field.type) fun _ =>
      .ok ((Entries.get? contents field.name).getD .null)
    rw [held]
    exact settles_ok contentBelongs
  | _ => cases found

end PredicateWire
