/-
This file proves that one depth limit governs packing, rebuilding and evaluation. Each
of them counts on its own: packing counts the nesting of constants as well, a conversion
is evaluated where it stands, and a function starts again at depth one. Yet a tree that
packing accepts under a limit is never too deep for rebuilding under that limit, and a
predicate that has been rebuilt is never too deep for evaluation.

The levels of a tree are what the three have in common. Packing bounds them, rebuilding
needs no more room than they take, and the levels of what is rebuilt are bounded again
by the limit, which bounds how deep its evaluation goes. Functions that are called in
the course of it bring bodies of their own, and those come from the same expression, so
that they are bounded as well; what is read from a constant is plain and brings none.
-/
import PredicateWire.Proofs.Wire.Scoping
import PredicateWire.Proofs.Wire.Sources

namespace PredicateWire

/-! ### Packing and rebuilding -/

/-- A property that every type has is supplied by every catalog. -/
theorem Catalog.supplies_true (catalog : Catalog) : catalog.Supplies fun _ => True :=
  ⟨fun _ => trivial, fun _ => trivial, fun _ _ => trivial, fun _ => trivial⟩

theorem TypeTable.keptByPacking_true : KeptByPacking fun _ => True :=
  fun _ _ => ⟨fun _ _ => ⟨trivial, meets_true _⟩⟩

namespace Node

/-- A tree is not too deep to be rebuilt under a limit that leaves room for all of its levels. -/
theorem rebuild_levels {limit : Nat} {node : Node} (fits : node.levels ≤ limit + 1)
    {rebuild : Rebuild} (limited : rebuild.limit = limit) (greatest : Nat) :
    (node.rebuild.run rebuild).1 ≠ .error (.depthExceeded greatest) := by
  have start : rebuild.Supplied rebuild.table.catalog (fun _ => True) limit :=
    ⟨⟨rfl, fun _ _ => trivial⟩, limited⟩
  rcases ran : node.rebuild.run rebuild with ⟨outcome, final⟩
  have meets := ((promises_rebuildAt rebuild.table.catalog.supplies_true node 0).run start ran).2
  rintro rfl
  have deeper : limit + 1 < 0 + node.levels := meets rfl
  omega

/-- What has been packed under a limit, from whatever table, is the tree of the expression but for
its keys; it has no more levels than the limit and one, and the expression passed all checks. -/
theorem within_pack {limit : Nat} {expression : Expr} {node : Node} {table after : TypeTable}
    (packed : (pack limit expression).run table = (.ok node, after)) :
    node.levels ≤ limit + 1 ∧ expression.Packable limit 0 ∧ node.keyless = expression.keyless :=
  ((packAt_within TypeTable.keptByPacking_true expression 0).run trivial packed).2

/-- What has been packed under a limit is never too deep to be rebuilt under it. -/
theorem rebuild_pack {limit : Nat} {expression : Expr} {node : Node} {table after : TypeTable}
    (packed : (pack limit expression).run table = (.ok node, after)) {rebuild : Rebuild}
    (limited : rebuild.limit = limit) (greatest : Nat) :
    (node.rebuild.run rebuild).1 ≠ .error (.depthExceeded greatest) :=
  rebuild_levels (within_pack packed).1 limited greatest

end Node

/-! ### Received predicates -/

/-- The nodes of a rebuilt expression are constants that are plain, or no constants. -/
theorem Expr.Sourced.plainConstant {catalog : Catalog} {holds : DataType → Prop} {node : Expr}
    (sourced : node.Sourced catalog holds) : node.PlainConstant := by
  cases node with
  | constant value type => exact sourced
  | _ => trivial

namespace Serializer

/-- The body of a received predicate stays within the limit of the receiver and has its parts from
the catalog there. -/
theorem rebuilt_deserialize {serializer : Serializer} {scope : Nat} {packet : Packet}
    {predicate : Predicate} (received : serializer.deserialize scope packet = .ok predicate) :
    predicate.lambda.body.levels ≤ predicate.lambda.limit ∧
      ∀ node ∈ predicate.lambda.body.nodes, node.Sourced serializer.catalog fun _ => True := by
  unfold deserialize at received
  obtain ⟨expression, came, compiled⟩ := bind_eq_ok received
  have rebuilt := rebuilt_deserializeExpr serializer.catalog.supplies_true came
  obtain ⟨type, parameter, body, name, tailCall, rfl, _, same, _⟩ := Predicate.ofExpr_eq_ok compiled
  have levels := rebuilt.levels
  have sourced := rebuilt.sourced
  rw [Expr.levels] at levels
  rw [Expr.nodes, List.forall_mem_cons, List.forall_mem_append] at sourced
  rw [same]
  exact ⟨by show body.levels ≤ serializer.settings.maxDepth; omega, sourced.2.1⟩

/-- The body of a received predicate runs within the limit of the receiver. -/
theorem runs_deserialize {serializer : Serializer} {scope : Nat} {packet : Packet}
    {predicate : Predicate} (received : serializer.deserialize scope packet = .ok predicate) :
    predicate.lambda.body.Runs predicate.lambda.limit :=
  ⟨(rebuilt_deserialize received).1,
    fun node member => ((rebuilt_deserialize received).2 node member).plainConstant⟩

/-- One limit does for both ends. What has been packed under it, from whatever table, is never too
deep to be rebuilt under it, and no received predicate is too deep when it is called, whatever the
packet and the input are: neither what it evaluates nor what the functions that it calls evaluate
goes below the limit under which it was received. -/
theorem depthExceeded_never (serializer : Serializer) :
    (∀ {expression : Expr} {node : Node} {table after : TypeTable},
      (Node.pack serializer.settings.maxDepth expression).run table = (.ok node, after) →
        ∀ rebuild : Rebuild, rebuild.limit = serializer.settings.maxDepth →
          ∀ limit, (node.rebuild.run rebuild).1 ≠ .error (.depthExceeded limit)) ∧
    ∀ {scope : Nat} {packet : Packet} {predicate : Predicate},
      serializer.deserialize scope packet = .ok predicate →
        ∀ (budget : Nat) (input : Datum) (address : Address) (limit : Nat),
          predicate.call budget (.ofDatum input) address ≠ .error (.failed (.depthExceeded limit)) := by
  refine ⟨fun packed rebuild limited => Node.rebuild_pack packed limited,
    fun received budget input address limit failed => ?_⟩
  have stays := Predicate.stays_call (runs_deserialize received) (Value.plain_ofDatum input) budget
    address
  rw [failed] at stays
  exact stays rfl

/-- A predicate with a conversion comes through under the standard limit, and neither rebuilding it
nor calling it reports that it is too deep. -/
theorem depthExceeded_never_shadow :
    ∃ node after packet predicate,
      (Node.pack standard.settings.maxDepth
        (Expr.shadow Expr.outerOne Expr.innerOne Expr.innerOne)).run
          (TypeTable.empty standard.catalog UInt32.ofNat) = (.ok node, after) ∧
      (node.rebuild.run (Rebuild.start after 1 standard.settings.maxDepth)).1 ≠
        .error (.depthExceeded 48) ∧
      standard.deserialize 1 packet = .ok predicate ∧
      predicate.call 5 (.ofDatum (.bool false)) [] ≠ .error (.failed (.depthExceeded 48)) := by
  obtain ⟨packet, sent⟩ := serialize_shadow (.inr rfl)
  obtain ⟨one, came⟩ := deserializeExpr_shadow (.inr rfl) sent
  obtain ⟨predicate, compiled, _⟩ := Predicate.exists_ofExpr 48 Expr.predicateType one
    (rfl : (Expr.binary .coalesce .bool (Expr.bool true) (Expr.bool true) none (some
      (.lambda Expr.predicateType [one] (.parameter one) none
        false))).resultType.isBool = true) none false
  have received : standard.deserialize 1 packet = .ok predicate := by
    unfold deserialize
    rw [came]
    exact compiled
  rcases ran : (Node.pack standard.settings.maxDepth
      (Expr.shadow Expr.outerOne Expr.innerOne Expr.innerOne)).run
        (TypeTable.empty standard.catalog UInt32.ofNat) with ⟨outcome, after⟩
  cases outcome with
  | error error =>
    unfold serialize encode at sent
    rw [Running.run_bind, ran] at sent
    cases sent
  | ok node =>
    exact ⟨node, after, packet, predicate, rfl,
      (depthExceeded_never standard).1 ran (Rebuild.start after 1 standard.settings.maxDepth) rfl 48,
      received, (depthExceeded_never standard).2 received 5 (.bool false) [] 48⟩

end Serializer

end PredicateWire
