/-
This file says what calls of received predicates stop with. Every name in a packet has
been resolved before there is a predicate, and the bodies of the library name nothing.
The constructors of records do: they name the fields that they assign, and a field that
the record does not declare is missed only when the constructor is called.

So there is one way in which a call of a received predicate can miss a symbol, and it
depends on the catalog of the receiver and not on the packet. `kind_call` names it
exactly. The proof combines two facts that were proved apart: what the nodes of a
rebuilt expression run comes from the catalog, and an evaluation stops only with what
the bodies that it runs stop with, at run time, or because of a mismatch of types.
-/
import PredicateWire.Proofs.Catalog.Denoted
import PredicateWire.Proofs.Wire.Depth

namespace PredicateWire

/-! ### Bodies of catalogs -/

/-- The error that reading a property fails with because its body names a field that its record
does not have. -/
def Storage.Misnames : Storage → Error → Prop
  | field _, _ => False
  | property getter, error => getter.Misnames error

namespace Catalog

/-- A body that a catalog has fails with an error because it names a field that its record does
not have. -/
def Misnames (catalog : Catalog) (error : Error) : Prop :=
  (∃ method ∈ catalog.methods, method.body.Misnames error) ∨
  (∃ constructor ∈ catalog.constructors, constructor.body.Misnames error) ∨
  ∃ property ∈ catalog.properties, property.storage.Misnames error

/-- A member that reads a property has the body of one that the catalog has. -/
theorem exists_property {catalog : Catalog} {type : DataType} {name : String} {read : Member}
    (found : catalog.member? type name = some read) {getter : Native}
    (stored : read.storage = .property getter) :
    ∃ property ∈ catalog.properties, property.storage = .property getter := by
  rcases member?_eq_some_iff.mp found with ⟨_, -, rfl⟩ | ⟨-, property, filed, rfl⟩
  · cases stored
  · exact ⟨property, (property?_eq_some filed).1, stored⟩

/-- Failures at run time, type mismatches, and what the bodies of a catalog miss. -/
def expectation (catalog : Catalog) : Expectation where
  expects := fun error =>
    error.kind = .typeMismatch ∨ error.kind = .evaluation ∨ catalog.Misnames error
  runtime := fun _ => .inr (.inl rfl)
  mismatch := fun _ => .inl rfl

/-- Only the constructors of records name fields, if records have no methods. The bodies of the
library name nothing at all, and so a body that misses a field is that of a constructor. -/
theorem misnames_withRecords {specs : List RecordSpec}
    (plain : ∀ spec ∈ specs, spec.methods = []) {error : Error}
    (misnames : (withRecords specs).Misnames error) :
    ∃ spec ∈ specs, ∃ names ∈ spec.constructors, ∃ name ∈ names,
      name ∉ spec.fields.map Field.name ∧
        error = .symbolNotFound (.unknownMember spec.name name) := by
  rcases misnames with ⟨method, member, own⟩ | ⟨constructor, member, own⟩ | ⟨property, member, own⟩
  · have none : standard.methods.map (fun method => method.body.Misnames error) =
        standard.methods.map fun _ => False := rfl
    rw [methods_withRecords_of_plain plain] at member
    exact ((List.map_inj_left.mp none method member).mp own).elim
  · obtain ⟨spec, specMember, names, namesMember, rfl⟩ := mem_constructors_withRecords _ member
    obtain ⟨name, nameMember, unknown, rfl⟩ := own
    exact ⟨spec, specMember, names, namesMember, name, nameMember, unknown, rfl⟩
  · have none : standard.properties.map (fun property => property.storage.Misnames error) =
        standard.properties.map fun _ => False := rfl
    rw [(methods_withRecords specs).2] at member
    exact ((List.map_inj_left.mp none property member).mp own).elim

end Catalog

/-- The bodies that a node with parts from a catalog runs are bodies of the catalog. -/
theorem Expr.Sourced.steady {catalog : Catalog} {holds : DataType → Prop} {node : Expr}
    (sourced : node.Sourced catalog holds) : node.Steady catalog.expectation := by
  have methods : ∀ {method : Method}, catalog.Embodies method →
      method.body.Within catalog.expectation := by
    rintro method ⟨definition, member, same⟩ error misnames
    exact .inr (.inr (.inl ⟨definition, member, same ▸ misnames⟩))
  cases node with
  | binary operator type left right method conversion =>
    exact fun handle present => methods (sourced handle present)
  | member target read =>
    intro getter stored error misnames
    obtain ⟨property, member, kept⟩ := Catalog.exists_property sourced.1 stored
    exact .inr (.inr (.inr (.inr ⟨property, member, by rw [kept]; exact misnames⟩)))
  | constant value type => exact sourced
  | call target method arguments => exact methods sourced
  | construct constructor arguments =>
    exact fun error misnames => .inr (.inr (.inr (.inl ⟨constructor, sourced, misnames⟩)))
  | _ => trivial

namespace Serializer

/-- A call of a received predicate that does not answer has failed at run time or because of a type
mismatch, unless a body of the catalog names a field that its record does not have. A budget that is
exhausted is allowed for, since it says nothing about the predicate. -/
theorem stops_call {serializer : Serializer} {scope : Nat} {packet : Packet}
    {predicate : Predicate} (received : serializer.deserialize scope packet = .ok predicate)
    (budget : Nat) (input : Datum) (address : Address) :
    Stops serializer.catalog.expectation (fun _ => True)
      (predicate.call budget (.ofDatum input) address) := by
  obtain ⟨levels, sourced⟩ := rebuilt_deserialize received
  exact predicate.stops_call ⟨levels, fun node member => (sourced node member).steady⟩
    (Value.plain_ofDatum input) budget address

/-- Where the catalog has the library and records without methods, a call of a received predicate
fails at run time, because of a type mismatch, or because a constructor that it calls names a field
that the record does not declare. -/
theorem kind_call {specs : List RecordSpec} (plain : ∀ spec ∈ specs, spec.methods = [])
    {settings : Settings} {scope : Nat} {packet : Packet} {predicate : Predicate}
    (received : Serializer.deserialize ⟨Catalog.withRecords specs, settings⟩ scope packet =
      .ok predicate) (budget : Nat) (input : Datum) (address : Address) {error : Error}
    (failed : predicate.call budget (.ofDatum input) address = .error (.failed error)) :
    error.kind = .typeMismatch ∨ error.kind = .evaluation ∨
      ∃ spec ∈ specs, ∃ names ∈ spec.constructors, ∃ name ∈ names,
        name ∉ spec.fields.map Field.name ∧
          error = .symbolNotFound (.unknownMember spec.name name) := by
  have stops := stops_call received budget input address
  rw [failed] at stops
  exact stops.imp id (Or.imp id (Catalog.misnames_withRecords plain))

end Serializer

/-! ### A constructor that names an unknown field -/

namespace RecordSpec

/-- A record with a constructor for a field that it does not declare. -/
def misnamed : RecordSpec :=
  ⟨"Item", [⟨"Id", .int32, true⟩], [["Nope"]], []⟩

end RecordSpec

namespace Expr

/-- A predicate that asks whether a new record is null. -/
def misnaming (referenced : Parameter) : Expr :=
  lambda predicateType [referenced]
    (binary .equal .bool
      (construct (RecordSpec.misnamed.positional ["Nope"]) [parameter referenced])
      (null RecordSpec.misnamed.type) none none) none false

theorem nodes_misnaming : (misnaming outerOne).nodes = [misnaming outerOne,
    binary .equal .bool
      (construct (RecordSpec.misnamed.positional ["Nope"]) [parameter outerOne])
      (null RecordSpec.misnamed.type) none none,
    construct (RecordSpec.misnamed.positional ["Nope"]) [parameter outerOne],
    parameter outerOne, null RecordSpec.misnamed.type, parameter outerOne] := rfl

theorem typeNamed_misnaming : ∀ type ∈ (misnaming outerOne).types,
    (Catalog.withRecords [RecordSpec.misnamed]).typeNamed type.canonicalName = .ok type := by
  have types : (misnaming outerOne).types = [predicateType, .bool, RecordSpec.misnamed.type,
      .object, .bool, RecordSpec.misnamed.type, .bool] := rfl
  have functions : (Catalog.withRecords [RecordSpec.misnamed]).typeNamed
      predicateType.canonicalName = .ok predicateType :=
    typeNamed_predicateType rfl rfl (by decide +kernel)
  have known : ∀ {name : String} {type : DataType},
      (Catalog.withRecords [RecordSpec.misnamed]).findType? name = some type →
        (Catalog.withRecords [RecordSpec.misnamed]).typeNamed name = .ok type :=
    fun found => TypeTable.typeNamed_eq_ok.mpr (.known found)
  rw [types]
  simp only [List.forall_mem_cons]
  exact ⟨functions, known rfl, known rfl, known rfl, known rfl, known rfl, known rfl,
    List.forall_mem_nil _⟩

theorem restored_misnaming : ∀ node ∈ (misnaming outerOne).nodes,
    node.Restored (Catalog.withRecords [RecordSpec.misnamed]) := by
  rw [nodes_misnaming]
  simp only [List.forall_mem_cons]
  exact ⟨trivial, ⟨fun _ absent => absurd absent (Option.not_mem_none _),
    fun _ absent => absurd absent (Option.not_mem_none _)⟩, rfl, trivial, Value.ofLiteral_null _,
    trivial, List.forall_mem_nil _⟩

/-- Whatever the parameter is, the body first evaluates the constructor, and this misses its field
before anything is compared with null. -/
theorem call_misnaming {predicate : Predicate} {referenced : Parameter}
    (compiled : Predicate.ofExpr 48 (misnaming referenced) = .ok predicate) (budget : Nat)
    (input : Bool) (address : Address) :
    predicate.call budget (.ofDatum (.bool input)) address =
      .error (.failed (.symbolNotFound (.unknownMember "Item" "Nope"))) := by
  obtain ⟨_, _, _, _, _, same, _, lambda, _⟩ := Predicate.ofExpr_eq_ok compiled
  cases same
  have bound : Bindings.get? [(referenced, .bool input)] referenced = some (.bool input) := by
    rw [Bindings.get?, List.find?_cons, Parameter.sameAs, beq_self_eq_true]
    rfl
  have argument : (parameter referenced).evaluateAt (Closure.callAt budget) 48
      [(referenced, .bool input)] 3 (((address.operand 0)).operand 0) = .ok (.bool input) := by
    rw [evaluateAt, bound]
    rfl
  have constructed : (construct (RecordSpec.misnamed.positional ["Nope"])
      [parameter referenced]).evaluateAt (Closure.callAt budget) 48 [(referenced, .bool input)] 2
        (address.operand 0) = .error (.failed (.symbolNotFound (.unknownMember "Item" "Nope"))) := by
    rw [evaluateAt, evaluateAll, argument]
    rfl
  have body : (binary .equal .bool (construct (RecordSpec.misnamed.positional ["Nope"])
      [parameter referenced]) (null RecordSpec.misnamed.type) none none).evaluateAt
        (Closure.callAt budget) 48 [(referenced, .bool input)] 1 address =
          .error (.failed (.symbolNotFound (.unknownMember "Item" "Nope"))) := by
    have eager : BinaryOperator.equal.Eager none := ⟨nofun, nofun, nofun⟩
    rw [evaluateAt_eager eager, constructed]
    rfl
  unfold Predicate.call CompiledLambda.invoke
  rw [lambda]
  unfold applyLambda
  show (do
    let answer ← (binary .equal .bool (construct (RecordSpec.misnamed.positional ["Nope"])
      [parameter referenced]) (null RecordSpec.misnamed.type) none none).evaluateAt
        (Closure.callAt budget) 48 [(referenced, .bool input)] 1 address
    _) = _
  rw [body]
  rfl

theorem writable_misnaming : ∀ node ∈ (misnaming outerOne).nodes, node.Writable := by
  rw [nodes_misnaming]
  simp only [List.forall_mem_cons]
  exact ⟨trivial, fun _ absent => absurd absent (Option.not_mem_none _), trivial, trivial,
    List.forall_mem_nil _, trivial, List.forall_mem_nil _⟩

end Expr

namespace Serializer

/-- One end of the wire that knows the record. -/
def misnaming : Serializer :=
  ⟨Catalog.withRecords [RecordSpec.misnamed], Settings.standard⟩

theorem serialize_misnaming :
    ∃ packet, misnaming.serialize UInt32.ofNat (Expr.misnaming Expr.outerOne) = .ok packet := by
  have succeeds : (misnaming.serialize UInt32.ofNat
      (Expr.misnaming Expr.outerOne)).toBool = true := by decide +kernel
  cases sent : misnaming.serialize UInt32.ofNat (Expr.misnaming Expr.outerOne) with
  | ok packet => exact ⟨packet, rfl⟩
  | error error =>
    rw [sent] at succeeds
    cases succeeds

/-- The predicate comes through, and the constructor fails whenever it is called. Neither packing
nor rebuilding looks at what the constructor assigns. -/
theorem deserialize_misnaming :
    ∃ packet predicate, misnaming.serialize UInt32.ofNat (Expr.misnaming Expr.outerOne) =
        .ok packet ∧ misnaming.deserialize 1 packet = .ok predicate ∧
      ∀ budget (input : Bool) address, predicate.call budget (.ofDatum (.bool input)) address =
        .error (.failed (.symbolNotFound (.unknownMember "Item" "Nope"))) := by
  obtain ⟨packet, sent⟩ := serialize_misnaming
  have shallow : (Expr.misnaming Expr.outerOne).documentNesting ≤ Json.greatestNesting := by
    obtain ⟨table, carries, _⟩ := exists_carries sent
    exact Nat.le_trans (Expr.documentNesting_le carries.packable) (by decide)
  obtain ⟨made, delivered, _⟩ := deserializeExpr_restored 1 Expr.typeNamed_misnaming
    Expr.writable_misnaming (fun _ => Expr.restored_misnaming) sent shallow
  obtain ⟨predicate, compiled, _⟩ := Predicate.exists_ofExpr 48 Expr.predicateType
    (made Expr.outerOne) (rfl : (Expr.binary .equal .bool
      (.construct (RecordSpec.misnamed.positional ["Nope"]) [.parameter (made Expr.outerOne)])
      (.null RecordSpec.misnamed.type) none none).resultType.isBool = true) none false
  have received : misnaming.deserialize 1 packet = .ok predicate := by
    unfold deserialize
    rw [delivered]
    exact compiled
  exact ⟨packet, predicate, sent, received, Expr.call_misnaming compiled⟩

/-- The error of such a call is the one that the constructor accounts for. -/
theorem kind_call_misnaming :
    ∃ packet predicate error, misnaming.deserialize 1 packet = .ok predicate ∧
      predicate.call 5 (.ofDatum (.bool false)) [] = .error (.failed error) ∧
      (error.kind = .typeMismatch ∨ error.kind = .evaluation ∨
        ∃ spec ∈ [RecordSpec.misnamed], ∃ names ∈ spec.constructors, ∃ name ∈ names,
          name ∉ spec.fields.map Field.name ∧
            error = .symbolNotFound (.unknownMember spec.name name)) := by
  obtain ⟨packet, predicate, _, received, fails⟩ := deserialize_misnaming
  have failed := fails 5 false []
  refine ⟨packet, predicate, _, received, failed, ?_⟩
  exact kind_call (List.forall_mem_singleton.mpr rfl) received 5 (.bool false) [] failed

/-- A predicate that was received fails with a missing symbol. -/
theorem symbolNotFound_call :
    ∃ packet predicate, misnaming.deserialize 1 packet = .ok predicate ∧
      ∃ error, predicate.call 5 (.ofDatum (.bool false)) [] = .error (.failed error) ∧
        error.kind = .symbolNotFound := by
  obtain ⟨packet, predicate, _, received, fails⟩ := deserialize_misnaming
  exact ⟨packet, predicate, received, _, fails 5 false [], rfl⟩

end Serializer

end PredicateWire
