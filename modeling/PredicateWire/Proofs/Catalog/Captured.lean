/-
This file proves that a receiver that knows the library only finds the handles of a
sender that knows records as well. The records reach the receiver as captured types,
which have the fields of the records, all of them public, and nothing else. So a handle
comes out with captured records in its types (`Method.synthesized`,
`Member.synthesized`) and does what it did; methods and constructors of the records
themselves are lost, and are excluded here.

A handle is found by its declaring type and the shapes of its parameters, and shapes do
not tell a record from a captured one. That no other overload of the library has those
shapes is checked once for the whole library: its overloads differ in the number of
their parameters.
-/
import Mathlib.Algebra.Group.Nat.Defs
import PredicateWire.Catalog.RecordSpec
import PredicateWire.Proofs.Catalog.Handles
import PredicateWire.Proofs.Evaluation.Alike
import PredicateWire.Proofs.Expr.Built
import PredicateWire.Proofs.Types.Ordinary

namespace PredicateWire

/-! ### Handles with captured records -/

namespace Method

/-- The method with captured records in its types. -/
def synthesized (method : Method) : Method :=
  { method with
    declaringType := method.declaringType.synthesized
    parameters := method.parameters.map DataType.synthesized
    returnType := method.returnType.synthesized
    genericArguments := method.genericArguments.map DataType.synthesized }

/-- A method with captured records in its types does what the method does. -/
theorem agrees_synthesized (method : Method) : method.Agrees method.synthesized :=
  ⟨(List.length_map _).symm, rfl, (signature_recast DataType.recasts_synthesized method).symm, rfl⟩

/-- Carrying a method over to a type and capturing the records in its types can be done in either
order. -/
theorem synthesized_closeOver (method : Method) (declaringType : DataType) :
    (method.closeOver declaringType).synthesized =
      method.synthesized.closeOver declaringType.synthesized :=
  recast_closeOver DataType.recasts_synthesized method declaringType

/-- Filling in the arguments of a method and capturing the records in its types can be done in
either order. -/
theorem synthesized_filled (method : Method) (arguments : List DataType) :
    (method.filled arguments).synthesized =
      method.synthesized.filled (arguments.map DataType.synthesized) :=
  recast_filled DataType.recasts_synthesized method arguments

/-- A generic method with captured records in its types is closed over the captured arguments to
what the method is closed to, with captured records in its types. -/
theorem makeGeneric_synthesized {method closed : Method} {arguments : List DataType}
    (made : method.makeGeneric arguments = .ok closed) :
    method.synthesized.makeGeneric (arguments.map DataType.synthesized) =
      .ok closed.synthesized := by
  obtain ⟨isOpen, lengths, rfl⟩ := makeGeneric_eq_ok.mp made
  obtain ⟨generic, unclosed⟩ := isGenericDefinition_iff.mp isOpen
  refine makeGeneric_eq_ok.mpr ⟨isGenericDefinition_iff.mpr ⟨generic, ?_⟩, ?_,
    synthesized_filled method arguments⟩
  · exact List.map_eq_nil_iff.mpr unclosed
  · rw [List.length_map, lengths]
    rfl

end Method

namespace Member

/-- The member with captured records in its types. A field of a captured record is public. -/
def synthesized (member : Member) : Member :=
  { member with
    declaringType := member.declaringType.synthesized
    memberType := member.memberType.synthesized
    storage := match member.storage with
      | .field _ => .field true
      | .property getter => .property getter }

/-- A member with captured records in its types reads what the member reads. -/
theorem agrees_synthesized (member : Member) : member.Agrees member.synthesized := by
  refine ⟨(DataType.canonicalName_synthesized _).symm, rfl, ?_⟩
  unfold synthesized
  cases member.storage with
  | field isPublic => trivial
  | property getter => rfl

theorem synthesized_closeOver (member : Member) (declaringType : DataType) :
    (member.closeOver declaringType).synthesized =
      member.synthesized.closeOver declaringType.synthesized := by
  have filled := DataType.recasts_synthesized.substitute declaringType.arguments [] member.memberType
  simp only [synthesized, closeOver, filled, DataType.recasts_synthesized.arguments, List.map_nil]

end Member

/-! ### The library -/

namespace Library

/-- There are no records in the types of the library's methods. -/
theorem synthesized_methods : ∀ method ∈ Catalog.standard.methods, method.synthesized = method := by
  have same : Catalog.standard.methods.map Method.synthesized = Catalog.standard.methods.map id := rfl
  exact List.map_inj_left.mp same

theorem synthesized_properties : ∀ property ∈ Catalog.standard.properties,
    property.synthesized = property := by
  have same : Catalog.standard.properties.map Member.synthesized =
      Catalog.standard.properties.map id := rfl
  exact List.map_inj_left.mp same

/-- A filter passes one item at most if all items that pass agree in something that no two items of
the list have in common. -/
theorem length_filter_le_one {Item Content : Type} {read : Item → Content} {test : Item → Bool}
    {items : List Item} (nodup : (items.map read).Nodup)
    (same : ∀ first ∈ items, ∀ second ∈ items, test first = true → test second = true →
      read first = read second) : (items.filter test).length ≤ 1 := by
  induction items with
  | nil => exact Nat.zero_le 1
  | cons item rest inductionHypothesis =>
    rw [List.map_cons, List.nodup_cons] at nodup
    have later := inductionHypothesis nodup.2 fun first firstMember second secondMember =>
      same first (.tail _ firstMember) second (.tail _ secondMember)
    rw [List.filter_cons]
    split
    · rename_i passes
      have none : rest.filter test = [] := by
        refine List.filter_eq_nil_iff.mpr fun other member tested => nodup.1 ?_
        rw [same item (.head _) other (.tail _ member) passes tested]
        exact List.mem_map_of_mem member
      rw [none]
      exact Nat.le_refl 1
    · exact later

/-- Overloads of the library differ in the number of their parameters. -/
theorem singles (typeName name : String) (arity : Nat) (parameters : List DataType) :
    ((Catalog.standard.overloads typeName name).filter
      (MethodReference.fits arity parameters)).length ≤ 1 := by
  have nodup : (Catalog.standard.methods.map fun method : Method =>
      (method.declaringType.baseName, method.name, method.parameters.length)).Nodup := by
    decide +kernel
  rw [Catalog.overloads, List.filter_filter]
  refine length_filter_le_one nodup fun first _ second _ firstFits secondFits => ?_
  simp only [Bool.and_eq_true, beq_iff_eq, MethodReference.fits, DataType.shapesMatch]
    at firstFits secondFits
  rw [firstFits.2.1, firstFits.2.2, firstFits.1.2.1, secondFits.2.1, secondFits.2.2,
    secondFits.1.2.1]

end Library

/-! ### The library with records -/

namespace Catalog

/-- The library together with described records. -/
def withRecords (specs : List RecordSpec) : Catalog :=
  specs.foldl registerRecord standard

section

variable (catalog : Catalog)

theorem foldl_registerConstructor (constructors : List Constructor) :
    constructors.foldl registerConstructor catalog =
      { catalog with constructors := catalog.constructors ++ constructors } := by
  induction constructors generalizing catalog with
  | nil => rw [List.append_nil]; rfl
  | cons constructor rest inductionHypothesis =>
    rw [List.foldl_cons, inductionHypothesis, registerConstructor, List.append_assoc]
    rfl

theorem foldl_registerMethod (methods : List Method) :
    methods.foldl registerMethod catalog =
      { catalog with methods := catalog.methods ++ methods } := by
  induction methods generalizing catalog with
  | nil => rw [List.append_nil]; rfl
  | cons method rest inductionHypothesis =>
    rw [List.foldl_cons, inductionHypothesis, registerMethod, List.append_assoc]
    rfl

/-- Registering a record files its type and adds its constructors and methods. -/
theorem registerRecord_eq (spec : RecordSpec) :
    catalog.registerRecord spec =
      { catalog.registerType spec.type with
        methods := catalog.methods ++ spec.methods.map spec.method
        constructors := catalog.constructors ++ spec.constructors.map spec.positional } := by
  have constructed := foldl_registerConstructor (catalog.registerType spec.type)
    (spec.constructors.map spec.positional)
  have equipped := foldl_registerMethod ((spec.constructors.map spec.positional).foldl
    registerConstructor (catalog.registerType spec.type)) (spec.methods.map spec.method)
  rw [List.foldl_map] at equipped
  rw [constructed] at equipped
  unfold registerRecord
  rw [List.foldl_map] at constructed
  dsimp only at constructed equipped ⊢
  rw [constructed, equipped]
  rfl

end

/-- What holds of the library and is kept when a record is registered holds of the library with
records. All facts about such catalogs come from this. -/
theorem withRecords_induction {specs : List RecordSpec} {motive : Catalog → Prop}
    (library : motive standard)
    (record : ∀ catalog, ∀ spec ∈ specs, motive catalog → motive (catalog.registerRecord spec)) :
    motive (withRecords specs) := by
  unfold withRecords
  revert library
  generalize standard = base
  intro library
  induction specs generalizing base with
  | nil => exact library
  | cons spec rest inductionHypothesis =>
    exact inductionHypothesis (fun catalog other member => record catalog other (.tail _ member)) _
      (record base spec (.head _) library)

/-- A method belongs to the library or to one of the records, and properties belong to the
library. -/
theorem methods_withRecords (specs : List RecordSpec) :
    (∀ method ∈ (withRecords specs).methods, method ∈ standard.methods ∨
      ∃ spec ∈ specs, ∃ described, method = spec.method described) ∧
      (withRecords specs).properties = standard.properties := by
  refine withRecords_induction (motive := fun catalog => (∀ method ∈ catalog.methods,
    method ∈ standard.methods ∨ ∃ spec ∈ specs, ∃ described, method = spec.method described) ∧
      catalog.properties = standard.properties) ⟨fun _ => .inl, rfl⟩ ?_
  rintro catalog spec specMember ⟨methods, properties⟩
  rw [registerRecord_eq]
  refine ⟨fun method member => ?_, properties⟩
  rcases List.mem_append.mp member with earlier | own
  · exact methods method earlier
  · obtain ⟨described, _, rfl⟩ := List.mem_map.mp own
    exact .inr ⟨spec, specMember, described, rfl⟩

/-- Methods of the library are generic over one type at most, and methods of records over none. -/
theorem arity_withRecords (specs : List RecordSpec) :
    ∀ method ∈ (withRecords specs).methods, method.genericArity < 2 ^ 64 := by
  intro method member
  rcases (methods_withRecords specs).1 method member with library | ⟨spec, _, described, rfl⟩
  · have arities : ∀ method ∈ standard.methods, method.genericArity < 2 ^ 64 := by decide +kernel
    exact arities method library
  · exact Nat.two_pow_pos 64

/-! ### What the library receives -/

section

variable {specs : List RecordSpec}

/-- A method that does not belong to a record is received from a sender that knows the record as it
is, with captured records in its types. The types of the method are closed, and it is no open
generic definition, for a packet can speak of nothing else. -/
theorem receivedMethod_synthesized {method : Method}
    (offers : (withRecords specs).Offers method)
    (types : ∀ type ∈ method.types, type.isClosed = true)
    (returnType : method.returnType.isClosed = true)
    (notOpen : method.isGenericDefinition = false)
    (known : ∀ spec ∈ specs, method.declaringType.baseName ≠ spec.name) :
    standard.receivedMethod DataType.synthesized method = .ok method.synthesized := by
  obtain ⟨definition, member, restores⟩ := offers.restores types returnType notOpen
  have offered : definition ∈ standard.methods := by
    refine ((methods_withRecords specs).1 definition member).resolve_right ?_
    rintro ⟨spec, specMember, described, rfl⟩
    exact known spec specMember restores.baseName.symm
  have same := Library.synthesized_methods definition offered
  have candidate : definition ∈
      (standard.overloads method.declaringType.baseName method.name).filter
        (MethodReference.fits method.genericArity
          (method.parameters.map DataType.synthesized)) := by
    rw [List.mem_filter, overloads, List.mem_filter, MethodReference.fits, restores.baseName,
      restores.name, restores.genericArity, DataType.shapesMatch_synthesized, restores.shapes]
    simp [offered]
  unfold receivedMethod methodFor
  rw [DataType.baseName_synthesized, single_of_length candidate (Library.singles _ _ _ _)]
  show (if method.genericArity = 0 then _ else _) = _
  have carried := Method.synthesized_closeOver definition method.declaringType
  rw [same] at carried
  have made := restores.made
  rw [← carried]
  split at made
  · rename_i plain
    rw [if_pos plain]
    rw [Except.ok.inj made]
  · rename_i generic
    rw [if_neg generic]
    exact Method.makeGeneric_synthesized made

/-- A captured type has the fields of the type under their names, with captured types and all
public. -/
theorem field?_synthesized (type : DataType) (name : String) :
    type.synthesized.field? name =
      (type.field? name).map fun field => ⟨field.name, field.type.synthesized, true⟩ := by
  cases type with
  | record recordName fields captured =>
    rw [DataType.synthesized, DataType.field?, DataType.field?, DataType.fields, DataType.fields,
      DataType.synthesizedFields_eq_map, List.find?_map]
    rfl
  | _ => rfl

/-- A member is received with captured records in its types. -/
theorem receivedMember_synthesized {read : Member}
    (found : (withRecords specs).member? read.declaringType read.name = some read) :
    standard.receivedMember DataType.synthesized read = .ok read.synthesized := by
  have same : standard.member? read.declaringType.synthesized read.name =
      some read.synthesized := by
    rw [member?_eq_some_iff, field?_synthesized, DataType.baseName_synthesized]
    rcases member?_eq_some_iff.mp found with
      ⟨field, isField, itself⟩ | ⟨noField, property, isProperty, made⟩
    · rw [isField]
      exact .inl ⟨_, rfl, congrArg Member.synthesized itself⟩
    · rw [property?, (methods_withRecords specs).2] at isProperty
      have kept := Library.synthesized_properties property (property?_eq_some isProperty).1
      rw [noField]
      refine .inr ⟨rfl, property, isProperty, ?_⟩
      rw [← made, Member.synthesized_closeOver, kept]
      rfl
  rw [receivedMember, memberFor, same]

end

end Catalog

end PredicateWire
