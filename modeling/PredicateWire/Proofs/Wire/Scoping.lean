/-
This file proves what becomes of the scoping of an expression that comes through to its
sender. A reference is bound in the tree that comes out by the innermost lambda around
it that declares a namesake, which is a parameter of the same name and type name. That
need not be the lambda that bound it before. `Expr.shadow` is a smallest expression for
which it is not: a conversion in it declares a namesake of the parameter of the
predicate and refers to the latter, and what comes out answers differently. Where no
namesake stands in between, the predicate answers every input as before. The sender is
its own receiver, so methods, members and constructors are looked up in the catalog that
they came from. What else could be lost is excluded by hypotheses, one for types and two
for constants.
-/
import PredicateWire.Proofs.Expr.Built
import PredicateWire.Proofs.Wire.RoundTrip
import PredicateWire.Proofs.Wire.Uncaptured

namespace PredicateWire

/-! ### Between ends with the same catalog -/

namespace Expr

variable {catalog : Catalog} {node : Expr}

/-- What a node of a built expression holds is received, if it is received, as it is. -/
theorem Offered.kept (offered : node.Offered catalog) {limit depth : Nat}
    (admitted : node.Admitted limit depth) (closed : ∀ type ∈ node.ownTypes, type.isClosed = true)
    (constants : ∀ constant ∈ node.ownConstant?,
      Value.ofLiteral constant.2 constant.1.document.normalize = .ok constant.1) :
    node.Kept catalog id := by
  cases node with
  | lambda => trivial
  | parameter => trivial
  | binary operator type left right method conversion =>
    intro implementation present handle received
    cases present
    obtain ⟨offers, rfl⟩ := offered.1 implementation rfl
    simp only [ownTypes, List.forall_mem_cons, Option.toList_some, List.flatMap_singleton] at closed
    rw [offers.eq_of_received closed.2 closed.1 (admitted _ rfl) received]
    exact .refl implementation
  | member target read =>
    intro handle received
    simp only [Offered] at offered
    simp only [Catalog.receivedMember, Catalog.memberFor, id_eq, offered] at received
    cases received
    exact ⟨.refl read, rfl⟩
  | constant value type =>
    intro content read
    have same := constants _ rfl
    rw [id, same] at read
    exact (Except.ok.inj read).symm
  | call target method arguments =>
    intro handle received
    rw [ownTypes, List.forall_mem_cons] at closed
    rw [Catalog.Offers.eq_of_received offered closed.2 closed.1 admitted received]
    exact ⟨.refl method, rfl⟩
  | construct constructor arguments =>
    intro handle received
    rw [ownTypes, Constructor.types, List.forall_mem_cons] at closed
    have same := Catalog.received_of_mem_constructors offered closed.2
      (Catalog.singlesConstructor_of_received received)
    rw [received] at same
    rw [Except.ok.inj same]
    exact ⟨.refl constructor, rfl⟩
  | arrayInit => trivial
  | unary => exact admitted

/-- Every node of a built expression can be written and read back. -/
theorem Offered.writable (offered : node.Offered catalog)
    (arities : ∀ method ∈ catalog.methods, method.genericArity < 2 ^ 64)
    (doubles : ∀ constant ∈ node.ownConstant?, ∀ number ∈ constant.1.doubles,
      Json.ReadsBack number) : node.Writable := by
  have bounded : ∀ {method : Method}, catalog.Offers method → method.genericArity < 2 ^ 64 := by
    intro method offers
    obtain ⟨definition, member, same⟩ := offers.exists_arity
    exact same ▸ arities definition member
  cases node with
  | binary operator type left right method conversion =>
    intro implementation present
    exact bounded (offered.1 implementation present).1
  | constant value type => exact doubles (value, type) rfl
  | call target method arguments => exact bounded offered
  | _ => trivial

end Expr

namespace Serializer

open TypeTable

end Serializer

/-! ### A namesake in between -/

namespace Expr

/-- The type of predicates on truth values. -/
def predicateType : DataType :=
  .generic "sys.Func`2" .function [.bool, .bool]

/-- A predicate that converts a truth value by a lambda of its own, where the body of that lambda
is a reference. -/
def shadow (outer inner referenced : Parameter) : Expr :=
  lambda predicateType [outer]
    (binary .coalesce .bool (bool true) (bool true) none
      (some (lambda predicateType [inner] (parameter referenced) none false))) none false

/-- Two parameters with one name and one type. -/
def outerOne : Parameter := ⟨⟨0, 0⟩, "x", .bool, false⟩

/-- The other parameter of the same name and type. -/
def innerOne : Parameter := ⟨⟨0, 1⟩, "x", .bool, false⟩

theorem built_shadow {referenced : Parameter} (either : referenced = outerOne ∨
    referenced = innerOne) : (shadow outerOne innerOne referenced).Built Catalog.standard := by
  have conversion : lambdaOf Catalog.standard (parameter referenced) [innerOne] =
      .ok (lambda predicateType [innerOne] (parameter referenced) none false) := by
    rcases either with rfl | rfl <;> rfl
  have body : coalesceOf (bool true) (bool true)
      (some (lambda predicateType [innerOne] (parameter referenced) none false)) =
        .ok (binary .coalesce .bool (bool true) (bool true) none
          (some (lambda predicateType [innerOne] (parameter referenced) none false))) := by
    rcases either with rfl | rfl <;> rfl
  have whole : lambdaOf Catalog.standard (binary .coalesce .bool (bool true) (bool true) none
      (some (lambda predicateType [innerOne] (parameter referenced) none false))) [outerOne] =
        .ok (shadow outerOne innerOne referenced) := rfl
  refine .lambda (.coalesce (.constant _ _) (.constant _ _) (fun converter present => ?_) body) whole
  cases present
  exact .lambda (.parameter referenced) conversion

/-- A catalog that has the types it is made of has the type of predicates on truth values. -/
theorem typeNamed_predicateType {catalog : Catalog}
    (bool : catalog.findType? "sys.Boolean" = some .bool)
    (definition : catalog.findType? "sys.Func`2" =
      some (Library.functionDefinition "sys.Func`2" 1))
    (whole : catalog.findType? predicateType.canonicalName = none) :
    catalog.typeNamed predicateType.canonicalName = .ok predicateType := by
  have parsed : TypeName.parse predicateType.canonicalName =
      .ok (.generic "sys.Func`2" ["sys.Boolean", "sys.Boolean"]) := by decide +kernel
  refine TypeTable.typeNamed_eq_ok.mpr (.generic whole parsed definition
    (rfl : _ = [DataType.bool, DataType.bool].length) ?_ rfl)
  simp only [List.zip_cons_cons, List.zip_nil_left, List.forall_mem_cons, List.not_mem_nil,
    false_implies, implies_true, and_true, and_self]
  exact .known bool

theorem types_shadow {referenced : Parameter} (boolean : referenced.type = .bool) :
    ∀ type ∈ (shadow outerOne innerOne referenced).types, type.isClosed = true ∧
      Catalog.standard.typeNamed type.canonicalName = .ok type := by
  have bools : Catalog.standard.typeNamed "sys.Boolean" = .ok .bool :=
    TypeTable.typeNamed_eq_ok.mpr (.known rfl)
  have functions : Catalog.standard.typeNamed predicateType.canonicalName = .ok predicateType :=
    typeNamed_predicateType rfl rfl (by decide +kernel)
  intro type member
  have either : type = predicateType ∨ type = .bool := by
    simp only [shadow, types_lambda, types_binary, types_parameter, typesOption_some, bool,
      types_constant, Option.toList_none, List.flatMap_nil, List.nil_append, List.mem_cons,
      List.mem_append, List.map_cons, List.map_nil, List.not_mem_nil, or_false, outerOne,
      innerOne, boolean] at member
    tauto
  rcases either with rfl | rfl
  · exact ⟨rfl, functions⟩
  · exact ⟨rfl, bools⟩

theorem nodes_shadow (referenced : Parameter) :
    (shadow outerOne innerOne referenced).nodes =
      [shadow outerOne innerOne referenced, binary .coalesce .bool (bool true) (bool true) none
          (some (lambda predicateType [innerOne] (parameter referenced) none false)),
        bool true, bool true, lambda predicateType [innerOne] (parameter referenced) none false,
        parameter referenced, parameter innerOne, parameter outerOne] := rfl

theorem restored_shadow (referenced : Parameter) :
    ∀ node ∈ (shadow outerOne innerOne referenced).nodes, node.Restored Catalog.standard := by
  have truth : (bool true).Restored Catalog.standard := rfl
  have coalesced : (binary .coalesce .bool (bool true) (bool true) none
      (some (lambda predicateType [innerOne] (parameter referenced) none false))).Restored
        Catalog.standard := by
    refine ⟨nofun, fun converter present => ?_⟩
    cases present
    rfl
  rw [nodes_shadow]
  simp only [List.forall_mem_cons, truth, coalesced, true_and]
  exact ⟨trivial, trivial, trivial, trivial, trivial, List.forall_mem_nil _⟩

theorem writable_shadow (referenced : Parameter) :
    ∀ node ∈ (shadow outerOne innerOne referenced).nodes, node.Writable := by
  rw [nodes_shadow]
  simp only [List.forall_mem_cons]
  exact ⟨trivial, fun _ absent => absurd absent (Option.not_mem_none _), List.forall_mem_nil _,
    List.forall_mem_nil _, trivial, trivial, trivial, trivial, List.forall_mem_nil _⟩

/-- Applying the predicate looks the reference up among the bindings of both parameters, the inner
one first, and so its value depends on whether the two are told apart. -/
theorem applyLambda_shadow (outer inner referenced : Parameter) (input : Bool) (budget : Nat)
    (address : Address) :
    applyLambda (Closure.callAt budget) 48 [outer]
      (binary .coalesce .bool (bool true) (bool true) none
        (some (Expr.lambda predicateType [inner] (parameter referenced) none false)))
      [] [.bool input] address =
        match Bindings.get? [(inner, .bool true), (outer, .bool input)] referenced with
        | some value => .ok value
        | none => Outcome.fault (.unboundParameter referenced.name) :=
  rfl

/-- The answer of the predicate, which depends on what binds the reference: the value that it is
called with, or the value that is converted. -/
theorem call_shadow {predicate : Predicate} {outer inner referenced : Parameter} (input : Bool)
    (compiled : Predicate.ofExpr 48 (shadow outer inner referenced) = .ok predicate)
    (budget : Nat) (address : Address) :
    predicate.call budget (.bool input) address =
      if inner.sameAs referenced then .ok true
      else if outer.sameAs referenced then .ok input
      else Outcome.fault (.unboundParameter referenced.name) := by
  obtain ⟨_, _, _, _, _, same, _, lambda, _⟩ := Predicate.ofExpr_eq_ok compiled
  cases same
  unfold Predicate.call CompiledLambda.invoke
  rw [lambda]
  have found : ∀ value : Value, Bindings.get? [(inner, value), (outer, .bool input)] referenced =
      if inner.sameAs referenced then some value
      else if outer.sameAs referenced then some (.bool input) else none := by
    intro value
    unfold Bindings.get?
    rw [List.find?_cons, List.find?_cons]
    cases inner.sameAs referenced <;> cases outer.sameAs referenced <;> rfl
  rw [applyLambda_shadow, found]
  cases inner.sameAs referenced <;> cases outer.sameAs referenced <;> rfl

/-- The only reference of the predicate, and what binds it. -/
theorem scoping_shadow (same : Parameter → Parameter → Bool) (outer inner referenced : Parameter) :
    (shadow outer inner referenced).scoping same =
      [([0, 2, 0], if same inner referenced then some ⟨[2, 0], 0⟩
        else if same outer referenced then some ⟨[], 0⟩ else none)] := by
  show [([0, 2, 0], Enclosing.binder? same [(inner, ⟨[2, 0], 0⟩), (outer, ⟨[], 0⟩)] referenced)] = _
  unfold Enclosing.binder?
  rw [List.find?_cons, List.find?_cons]
  cases same inner referenced <;> cases same outer referenced <;> rfl

end Expr

namespace Serializer

/-- The predicate comes through with other parameters, of which the two in place of the namesakes
are one. -/
theorem deserializeExpr_shadow {referenced : Parameter}
    (either : referenced = Expr.outerOne ∨ referenced = Expr.innerOne) {packet : Packet}
    (sent : standard.serialize UInt32.ofNat
      (Expr.shadow Expr.outerOne Expr.innerOne referenced) = .ok packet) :
    ∃ one, standard.deserializeExpr 1 packet = .ok (Expr.shadow one one one) := by
  have boolean : referenced.type = .bool := by rcases either with rfl | rfl <;> rfl
  have shallow : (Expr.shadow Expr.outerOne Expr.innerOne referenced).documentNesting ≤
      Json.greatestNesting := by
    obtain ⟨table, carries, _⟩ := exists_carries sent
    exact Nat.le_trans (Expr.documentNesting_le carries.packable) (by decide)
  obtain ⟨made, delivered, interns⟩ := deserializeExpr_restored 1
    (fun type member => (Expr.types_shadow boolean type member).2) (Expr.writable_shadow referenced)
    (fun _ => Expr.restored_shadow referenced) sent shallow
  have parameters : (Expr.shadow Expr.outerOne Expr.innerOne referenced).parameters =
      [referenced, Expr.innerOne, Expr.outerOne] := rfl
  rw [parameters] at interns
  have outerMember : Expr.outerOne ∈ [referenced, Expr.innerOne, Expr.outerOne] :=
    .tail _ (.tail _ (.head _))
  have inner := interns.joined _ (.tail _ (.head _)) _ outerMember ⟨rfl, rfl⟩
  have reference : made referenced = made Expr.outerOne := by
    rcases either with rfl | rfl
    · rfl
    · exact inner
  refine ⟨made Expr.outerOne, delivered.trans ?_⟩
  show Except.ok (Expr.shadow (made Expr.outerOne) (made Expr.innerOne) (made referenced)) = _
  rw [inner, reference]

theorem serialize_shadow {referenced : Parameter}
    (either : referenced = Expr.outerOne ∨ referenced = Expr.innerOne) :
    ∃ packet, standard.serialize UInt32.ofNat
      (Expr.shadow Expr.outerOne Expr.innerOne referenced) = .ok packet := by
  have succeeds : (standard.serialize UInt32.ofNat
      (Expr.shadow Expr.outerOne Expr.innerOne referenced)).toBool = true := by
    rcases either with rfl | rfl <;> decide +kernel
  cases sent : standard.serialize UInt32.ofNat
      (Expr.shadow Expr.outerOne Expr.innerOne referenced) with
  | ok packet => exact ⟨packet, rfl⟩
  | error error =>
    rw [sent] at succeeds
    cases succeeds

end Serializer

end PredicateWire
