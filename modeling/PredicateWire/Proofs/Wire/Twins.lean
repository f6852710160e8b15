/-
This file proves that type keys are opaque, to both ends of the wire. Two senders that
draw different keys send packets of which one is the other with its keys renamed, and a
packet with renamed keys is received like the packet itself.

On the sending side the tables of the two stay twins through all of packing, and the
trees they send are the tree of the expression in the keys of twin tables. Nothing has
to be assumed for this but that both find fresh keys, for a sender that does not gives
up on its own. On the receiving side the tree comes out of a text. That the text of the
one packet is read as the renamed tree of the other depends on what the texts of numbers
are read as, and so the link between the two sides, and it alone, asks that everything
in the expression is read back.
-/
import PredicateWire.Proofs.Table.Twins
import PredicateWire.Proofs.Wire.RenamedText
import PredicateWire.Proofs.Wire.Scoping

namespace PredicateWire

open TypeTable

/-! ### Packing references -/

theorem TypeTable.parallel_packAll (types : List DataType) :
    Parallel (packAll types) (packAll types) := by
  unfold packAll
  induction types with
  | nil => exact parallel_pure _ _
  | cons type rest inductionHypothesis =>
    rw [List.mapM_cons]
    refine parallel_bind (paired_pack false type).parallel fun _ _ => ?_
    exact parallel_bind inductionHypothesis fun _ _ => parallel_pure _ _

theorem TypeTable.parallel_lift {Content : Type} (result : Result Content) :
    Parallel (lift result) (lift result) := by
  cases result with
  | ok content => exact parallel_pure _ _
  | error error => exact parallel_throw error

theorem MethodReference.parallel_pack (method : Method) :
    Parallel (MethodReference.pack method) (MethodReference.pack method) := by
  unfold MethodReference.pack
  refine parallel_check ?_
  refine parallel_bind (paired_pack false method.declaringType).parallel fun _ _ => ?_
  refine parallel_bind (parallel_packAll method.parameters) fun _ _ => ?_
  exact parallel_bind (parallel_packAll method.genericArguments) fun _ _ => parallel_pure _ _

theorem ConstructorReference.parallel_pack (constructor : Constructor) :
    Parallel (ConstructorReference.pack constructor) (ConstructorReference.pack constructor) := by
  unfold ConstructorReference.pack
  refine parallel_bind (paired_pack false constructor.declaringType).parallel fun _ _ => ?_
  exact parallel_bind (parallel_packAll constructor.parameters) fun _ _ => parallel_pure _ _

theorem MemberReference.parallel_pack (read : Member) :
    Parallel (MemberReference.pack read) (MemberReference.pack read) := by
  unfold MemberReference.pack
  refine parallel_check ?_
  exact parallel_bind (paired_pack false read.declaringType).parallel fun _ _ => parallel_pure _ _

namespace Node

/-! ### Packing expressions -/

theorem parallel_packMethod? (method : Option Method) :
    Parallel (packMethod? method) (packMethod? method) := by
  cases method with
  | none => exact parallel_pure _ _
  | some method =>
    exact parallel_bind (MethodReference.parallel_pack method) fun _ _ => parallel_pure _ _

theorem parallel_packParameter (limit depth : Nat) (referenced : Parameter) :
    Parallel (packParameter limit depth referenced) (packParameter limit depth referenced) := by
  unfold packParameter
  refine parallel_check ?_
  exact parallel_bind (paired_pack false referenced.type).parallel fun _ _ => parallel_pure _ _

theorem parallel_packParameters (limit depth : Nat) (parameters : List Parameter) :
    Parallel (parameters.mapM (packParameter limit depth))
      (parameters.mapM (packParameter limit depth)) := by
  induction parameters with
  | nil => exact parallel_pure _ _
  | cons first rest inductionHypothesis =>
    rw [List.mapM_cons]
    refine parallel_bind (parallel_packParameter limit depth first) fun _ _ => ?_
    exact parallel_bind inductionHypothesis fun _ _ => parallel_pure _ _

mutual

/-- Packing an expression keeps tables twins. The induction is on the expression, and all that it
uses of tables is that packing a type does so. -/
theorem parallel_packAt (limit : Nat) : ∀ (expression : Expr) (depth : Nat),
    Parallel (packAt limit expression depth) (packAt limit expression depth)
  | .lambda type parameters body name tailCall, depth => by
    unfold packAt
    refine parallel_check ?_
    refine parallel_bind (paired_pack false type).parallel fun _ _ => ?_
    refine parallel_bind (parallel_packAt limit body (depth + 1)) fun _ _ => ?_
    refine parallel_bind (parallel_packParameters limit (depth + 1) parameters) fun _ _ => ?_
    exact parallel_pure _ _
  | .parameter referenced, depth => by
    unfold packAt
    exact parallel_check (parallel_packParameter limit depth referenced)
  | .binary operator type left right method conversion, depth => by
    unfold packAt
    refine parallel_check ?_
    refine parallel_bind (paired_pack false type).parallel fun _ _ => ?_
    refine parallel_bind (parallel_packAt limit left (depth + 1)) fun _ _ => ?_
    refine parallel_bind (parallel_packAt limit right (depth + 1)) fun _ _ => ?_
    refine parallel_bind (parallel_packOption limit conversion (depth + 1)) fun _ _ => ?_
    exact parallel_bind (parallel_packMethod? method) fun _ _ => parallel_pure _ _
  | .member target read, depth => by
    unfold packAt
    refine parallel_check ?_
    refine parallel_bind (MemberReference.parallel_pack read) fun _ _ => ?_
    refine parallel_bind (paired_pack false read.memberType).parallel fun _ _ => ?_
    exact parallel_bind (parallel_packAt limit target (depth + 1)) fun _ _ => parallel_pure _ _
  | .constant value type, depth => by
    unfold packAt
    refine parallel_check (parallel_check ?_)
    refine parallel_bind (paired_pack true type).parallel fun _ _ => ?_
    exact parallel_bind (parallel_lift value.literal) fun _ _ => parallel_pure _ _
  | .call target method arguments, depth => by
    unfold packAt
    refine parallel_check ?_
    refine parallel_bind (paired_pack false method.returnType).parallel fun _ _ => ?_
    refine parallel_bind (parallel_packOption limit target (depth + 1)) fun _ _ => ?_
    refine parallel_bind (MethodReference.parallel_pack method) fun _ _ => ?_
    exact parallel_bind (parallel_packExprs limit arguments (depth + 1))
      fun _ _ => parallel_pure _ _
  | .construct constructor arguments, depth => by
    unfold packAt
    refine parallel_check ?_
    refine parallel_bind (paired_pack false constructor.declaringType).parallel fun _ _ => ?_
    refine parallel_bind (ConstructorReference.parallel_pack constructor) fun _ _ => ?_
    exact parallel_bind (parallel_packExprs limit arguments (depth + 1))
      fun _ _ => parallel_pure _ _
  | .arrayInit type elements, depth => by
    unfold packAt
    refine parallel_check ?_
    dsimp only
    split
    · exact parallel_throw _
    · rename_i element _
      refine parallel_bind (paired_pack false type).parallel fun _ _ => ?_
      refine parallel_bind (paired_pack false element).parallel fun _ _ => ?_
      exact parallel_bind (parallel_packExprs limit elements (depth + 1))
        fun _ _ => parallel_pure _ _
  | .unary operator type operand, depth => by
    unfold packAt
    exact parallel_check (parallel_throw _)

theorem parallel_packExprs (limit : Nat) : ∀ (expressions : List Expr) (depth : Nat),
    Parallel (packAll limit expressions depth) (packAll limit expressions depth)
  | [], depth => by
    unfold packAll
    exact parallel_pure _ _
  | first :: rest, depth => by
    unfold packAll
    refine parallel_bind (parallel_packAt limit first depth) fun _ _ => ?_
    exact parallel_bind (parallel_packExprs limit rest depth) fun _ _ => parallel_pure _ _

theorem parallel_packOption (limit : Nat) : ∀ (expression : Option Expr) (depth : Nat),
    Parallel (packOption limit expression depth) (packOption limit expression depth)
  | none, depth => by
    unfold packOption
    exact parallel_pure _ _
  | some expression, depth => by
    unfold packOption
    exact parallel_bind (parallel_packAt limit expression depth) fun _ _ => parallel_pure _ _

end

theorem parallel_pack (limit : Nat) (expression : Expr) :
    Parallel (pack limit expression) (pack limit expression) :=
  parallel_packAt limit expression 0

end Node

/-! ### Packets of one expression -/

/-- Two packets are of one tree and one table, up to a renaming of keys. The texts of the trees are
not compared: they are written from the trees. -/
def Packet.DifferInKeys (rename : TypeKey → TypeKey) (packet twin : Packet) : Prop :=
  ∃ encoding node table, packet = .ofNode encoding node table ∧
    twin = .ofNode encoding (node.renameKeys rename) (table.renameKeys rename)

/-- The key of a known type, renamed, is the key of the type in the twin table. -/
theorem TypeTable.TwinBy.rename_keyFor {rename : TypeKey → TypeKey} {table twin : TypeTable}
    (twins : TwinBy rename table twin) {type : DataType} (known : table.Knows type) :
    rename (table.keyFor type) = twin.keyFor type := by
  have found := keyOf?_of_knows known
  have twinFound : twin.keyOf? type.canonicalName = some (rename (table.keyFor type)) := by
    rw [twins.keyOf?, found, Option.map_some]
  exact (keyFor_eq twinFound).symm

namespace Serializer

open Running

/-- A sender never gives up the search for a fresh key. -/
def FindsKeys (serializer : Serializer) (source : Nat → UInt32) (expression : Expr) : Prop :=
  ∀ error, serializer.serialize source expression = .error error → error.kind ≠ .keyCollision

theorem serialize_of_packed {serializer : Serializer} {source : Nat → UInt32} {expression : Expr}
    {node : Node} {final : TypeTable}
    (packed : (Node.pack serializer.settings.maxDepth expression).run
      (TypeTable.empty serializer.catalog source) = (.ok node, final)) :
    serializer.serialize source expression =
      .ok (.ofNode serializer.settings.encoding node final) := by
  unfold serialize encode
  rw [run_bind, packed]
  rfl

theorem serialize_of_failed {serializer : Serializer} {source : Nat → UInt32} {expression : Expr}
    {error : Error} {final : TypeTable}
    (failed : (Node.pack serializer.settings.maxDepth expression).run
      (TypeTable.empty serializer.catalog source) = (.error error, final)) :
    serializer.serialize source expression = .error error := by
  unfold serialize encode
  rw [run_bind, failed]

/-- Two senders that draw their keys from different sources, and find them, both fail with one error
or send packets that differ in their keys only. If what the nodes of the expression hold is read
back from its text, the second packet is also, as a text, the first one with renamed keys. -/
theorem serialize_twins (serializer : Serializer) {source twinSource : Nat → UInt32}
    {expression : Expr} (finds : serializer.FindsKeys source expression)
    (twinFinds : serializer.FindsKeys twinSource expression) :
    (∃ error, serializer.serialize source expression = .error error ∧
        serializer.serialize twinSource expression = .error error) ∨
      ∃ rename packet twin, Function.Injective rename ∧
        serializer.serialize source expression = .ok packet ∧
        serializer.serialize twinSource expression = .ok twin ∧ packet.DifferInKeys rename twin ∧
        ((∀ part ∈ expression.nodes, part.Writable) → packet.KeysRenamed rename twin) := by
  have runs := (Node.parallel_pack serializer.settings.maxDepth expression).run
    (twin_empty serializer.catalog serializer.catalog source twinSource)
  have adds := Node.adds_packTracked serializer.settings.maxDepth expression
  revert runs
  rcases ran : (Node.pack serializer.settings.maxDepth expression).run
      (TypeTable.empty serializer.catalog source) with ⟨error | node, final⟩ <;>
    rcases twinRan : (Node.pack serializer.settings.maxDepth expression).run
      (TypeTable.empty serializer.catalog twinSource) with ⟨fault | twinNode, twinFinal⟩ <;>
    intro runs
  · have failed := serialize_of_failed ran
    have twinFailed := serialize_of_failed twinRan
    obtain rfl | collides | collides := runs
    · exact .inl ⟨error, failed, twinFailed⟩
    · exact absurd collides (finds error failed)
    · exact absurd collides (twinFinds fault twinFailed)
  · exact absurd runs (finds error (serialize_of_failed ran))
  · exact absurd runs (twinFinds fault (serialize_of_failed twinRan))
  · obtain ⟨rename, twins⟩ := runs
    obtain ⟨_, _, fits⟩ := adds.keeps (tracked_empty _ _) ran
    obtain ⟨_, _, twinFits⟩ := adds.keeps (tracked_empty _ _) twinRan
    obtain ⟨_, rfl, known⟩ := fits (Grows.refl _)
    obtain ⟨_, rfl, _⟩ := twinFits (Grows.refl _)
    have tree : (expression.node final.keyFor).renameKeys rename =
        expression.node twinFinal.keyFor :=
      Expr.renameKeys_node expression fun type speaks => twins.rename_keyFor (known type speaks)
    have same : Packet.ofNode serializer.settings.encoding (expression.node twinFinal.keyFor)
        twinFinal = .ofNode serializer.settings.encoding
          ((expression.node final.keyFor).renameKeys rename) (final.renameKeys rename) := by
      rw [tree]
      exact congrArg (Packet.mk · _ _) twins.entries
    refine .inr ⟨rename, _, _, twins.injective, serialize_of_packed ran,
      serialize_of_packed twinRan, ⟨_, _, final, rfl, same⟩, fun writable => ?_⟩
    rw [same]
    exact Packet.keysRenamed_ofNode (Expr.readable_node _ expression writable) _ final

/-- Type keys are opaque. A packet with renamed keys is received like the packet itself, with fresh
parameters, or both are refused with errors of one kind. Senders with different sources of keys, who
do not give up the search for a fresh one, fail with the same error or send packets that differ in
their keys only. The last conclusion joins the two halves: the packets are then renamed ones as they
are received, if every node is `Writable`, which is to say that the doubles in its constant and the
arity of its method are read back from their texts. -/
theorem keys_opaque (serializer : Serializer) :
    (∀ rename : TypeKey → TypeKey, Function.Injective rename →
      ∀ packet renamed : Packet, packet.KeysRenamed rename renamed → ∀ scope twinScope,
        Result.Matches (fun expression twin => twin = expression.inScope twinScope)
          (serializer.deserializeExpr scope packet)
          (serializer.deserializeExpr twinScope renamed)) ∧
      ∀ source twinSource expression, serializer.FindsKeys source expression →
        serializer.FindsKeys twinSource expression →
          (∃ error, serializer.serialize source expression = .error error ∧
            serializer.serialize twinSource expression = .error error) ∨
          ∃ rename packet twin, Function.Injective rename ∧
            serializer.serialize source expression = .ok packet ∧
            serializer.serialize twinSource expression = .ok twin ∧
            packet.DifferInKeys rename twin ∧
            ((∀ part ∈ expression.nodes, part.Writable) → packet.KeysRenamed rename twin) :=
  ⟨fun _ injective _ _ same scope twinScope =>
      serializer.deserializeExpr_renameKeys injective same scope twinScope,
    fun _ _ _ finds twinFinds => serializer.serialize_twins finds twinFinds⟩

/-- A predicate that is sent twice, under different keys, is received as the same predicate in two
scopes. -/
theorem keys_opaque_shadow :
    ∃ rename packet twin one, Function.Injective rename ∧
      standard.serialize UInt32.ofNat (Expr.shadow Expr.outerOne Expr.innerOne Expr.innerOne) =
        .ok packet ∧
      standard.serialize (fun draw => UInt32.ofNat (draw + 7))
        (Expr.shadow Expr.outerOne Expr.innerOne Expr.innerOne) = .ok twin ∧
      packet.KeysRenamed rename twin ∧
      standard.deserializeExpr 1 packet = .ok (Expr.shadow one one one) ∧
      standard.deserializeExpr 2 twin = .ok ((Expr.shadow one one one).inScope 2) := by
  have finds : ∀ {source : Nat → UInt32} {packet : Packet},
      standard.serialize source (Expr.shadow Expr.outerOne Expr.innerOne Expr.innerOne) =
        .ok packet →
      standard.FindsKeys source (Expr.shadow Expr.outerOne Expr.innerOne Expr.innerOne) := by
    intro source packet sent error failed
    cases sent.symm.trans failed
  have succeeds : (standard.serialize (fun draw => UInt32.ofNat (draw + 7))
      (Expr.shadow Expr.outerOne Expr.innerOne Expr.innerOne)).toBool = true := by decide +kernel
  obtain ⟨other, twinSent⟩ : ∃ other, standard.serialize (fun draw => UInt32.ofNat (draw + 7))
      (Expr.shadow Expr.outerOne Expr.innerOne Expr.innerOne) = .ok other := by
    revert succeeds
    cases standard.serialize (fun draw => UInt32.ofNat (draw + 7))
      (Expr.shadow Expr.outerOne Expr.innerOne Expr.innerOne) with
    | ok other => exact fun _ => ⟨other, rfl⟩
    | error error => exact fun absent => absurd absent Bool.false_ne_true
  obtain ⟨first, sent⟩ := serialize_shadow (.inr rfl)
  obtain ⟨one, came⟩ := deserializeExpr_shadow (.inr rfl) sent
  obtain ⟨received, packed⟩ := keys_opaque standard
  obtain ⟨error, failed, _⟩ | ⟨rename, packet, twin, injective, packetSent, renamedSent, _, reads⟩ :=
    packed UInt32.ofNat (fun draw => UInt32.ofNat (draw + 7))
      (Expr.shadow Expr.outerOne Expr.innerOne Expr.innerOne) (finds sent) (finds twinSent)
  · cases sent.symm.trans failed
  cases sent.symm.trans packetSent
  have renamed := reads (Expr.writable_shadow _)
  have outcomes := received rename injective _ _ renamed 1 2
  refine ⟨rename, _, twin, one, injective, sent, renamedSent, renamed, came, ?_⟩
  rw [came] at outcomes
  revert outcomes
  cases standard.deserializeExpr 2 twin with
  | error error => exact False.elim
  | ok expression => exact congrArg Except.ok

end Serializer

end PredicateWire
