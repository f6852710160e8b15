/-
This file proves what packing keeps, whether or not it succeeds. All that packing does
to a table it does by packing types, so it keeps what packing types keeps. Besides, a
tree that comes out of it has no more levels than the depth limit allows, and without
its keys it is the tree of the expression.

The last fact is proved here for any table, and for a table in any state. Where a table
is tracked more is known, namely that the keys are those of the names of types; but a
table may also come from elsewhere, and bounds on what is sent should not depend on it.
So keys are blanked, and what a reference says besides its keys is compared with the
handle. The property that is kept is a parameter of all lemmas.
-/
import PredicateWire.Proofs.Contracts
import PredicateWire.Proofs.Wire.Keyless
import PredicateWire.Wire.Serializer

namespace PredicateWire

/-- A property of tables that packing a type keeps, in success and in failure. -/
def TypeTable.KeptByPacking (kept : TypeTable → Prop) : Prop :=
  ∀ (structural : Bool) (type : DataType),
    Promises kept (TypeTable.pack structural type) (fun _ => True) fun _ => True

theorem TypeTable.promises_lift {Content : Type} {kept : TypeTable → Prop}
    {result : Result Content} {wanted : Content → Prop} {expected : Error → Prop}
    (meets : Meets wanted expected result) : Promises kept (lift result) wanted expected := by
  cases result with
  | ok content => exact promises_pure meets
  | error error => exact promises_throw meets

/-- Keys that are all blanked are as many as there were. -/
theorem map_blank {types : List DataType} {keys : List TypeKey}
    (lengths : keys.length = types.length) :
    (keys.map fun _ => TypeKey.blank) = types.map fun _ => TypeKey.blank := by
  rw [List.map_const', List.map_const', lengths]

section

variable {kept : TypeTable → Prop} (packs : TypeTable.KeptByPacking kept)

include packs

theorem TypeTable.keeps_packAll (types : List DataType) :
    Promises kept (TypeTable.packAll types) (fun keys => keys.length = types.length)
      fun _ => True :=
  (promises_mapM_each fun type _ => packs false type).weaken
    (fun _ each => each.length_eq.symm) fun _ => id

theorem MethodReference.keeps_pack (method : Method) :
    Promises kept (MethodReference.pack method)
      (fun reference => method.isGenericDefinition = false ∧
        reference.renameKeys (fun _ => .blank) = .to (fun _ => .blank) method) fun _ => True := by
  unfold MethodReference.pack
  refine promises_check (fun _ => trivial) fun closed => ?_
  refine promises_bind (packs false method.declaringType) fun _ _ => ?_
  refine promises_bind (TypeTable.keeps_packAll packs method.parameters) fun _ lengths => ?_
  refine promises_bind (TypeTable.keeps_packAll packs method.genericArguments) fun _ others =>
    promises_pure ⟨eq_false_of_ne_true closed, ?_⟩
  rw [renameKeys, MethodReference.to, map_blank lengths, map_blank others]

theorem ConstructorReference.keeps_pack (constructor : Constructor) :
    Promises kept (ConstructorReference.pack constructor)
      (fun reference =>
        reference.renameKeys (fun _ => .blank) = .to (fun _ => .blank) constructor)
      fun _ => True := by
  unfold ConstructorReference.pack
  refine promises_bind (packs false constructor.declaringType) fun _ _ => ?_
  refine promises_bind (TypeTable.keeps_packAll packs constructor.parameters) fun _ lengths =>
    promises_pure ?_
  rw [renameKeys, ConstructorReference.to, map_blank lengths]

theorem MemberReference.keeps_pack (read : Member) :
    Promises kept (MemberReference.pack read)
      (fun reference => read.isPublic = true ∧
        reference.renameKeys (fun _ => .blank) = .to (fun _ => .blank) read) fun _ => True := by
  unfold MemberReference.pack
  refine promises_check (fun _ => trivial) fun shown => ?_
  exact promises_bind (packs false read.declaringType) fun _ _ =>
    promises_pure ⟨by simpa using shown, rfl⟩

theorem Node.keeps_packMethod? (method : Option Method) :
    Promises kept (Node.packMethod? method)
      (fun reference => (∀ implementation ∈ method, implementation.isGenericDefinition = false) ∧
        reference.map (MethodReference.renameKeys fun _ => .blank) =
          method.map (MethodReference.to fun _ => .blank)) fun _ => True := by
  cases method with
  | none => exact promises_pure ⟨nofun, rfl⟩
  | some method =>
    refine promises_bind (MethodReference.keeps_pack packs method) fun _ ⟨closed, same⟩ =>
      promises_pure ⟨fun _ present => ?_, congrArg some same⟩
    cases present
    exact closed

end

/-! ### Levels of trees -/

namespace Node

mutual

/-- The number of levels of a tree. -/
def levels : Node → Nat
  | lambda _ body parameters _ _ => max (levels body) (levelsAll parameters) + 1
  | parameter _ _ _ => 1
  | binary _ left right conversion _ =>
    max (max (levels left) (levels right)) (levelsOption conversion) + 1
  | member _ target _ => levels target + 1
  | constant _ _ => 1
  | call _ target _ arguments => max (levelsOption target) (levelsAll arguments) + 1
  | construct _ _ arguments => levelsAll arguments + 1
  | arrayInit _ _ elements => levelsAll elements + 1

/-- The greatest number of levels of several trees. -/
def levelsAll : List Node → Nat
  | [] => 0
  | node :: rest => max (levels node) (levelsAll rest)

/-- The number of levels of a tree that may be absent. -/
def levelsOption : Option Node → Nat
  | none => 0
  | some node => levels node

end

end Node

namespace Node

/-- Work on a table keeps a property, and what it packs at a depth is as wanted and has at most the
levels that the limit leaves. -/
abbrev PacksWithin {Content : Type} (kept : TypeTable → Prop) (limit depth : Nat)
    (levels : Content → Nat) (wanted : Content → Prop) (work : TableM Content) : Prop :=
  Promises kept work (fun content => levels content ≤ limit + 1 - depth ∧ wanted content)
    fun _ => True

variable {kept : TypeTable → Prop} {limit : Nat}

theorem packParameter_within (packs : TypeTable.KeptByPacking kept) (depth : Nat)
    (referenced : Parameter) :
    PacksWithin kept limit depth levels
      (fun node => depth ≤ limit ∧ node.keyless = referenced.node fun _ => .blank)
      (packParameter limit depth referenced) := by
  unfold packParameter
  refine promises_check (fun _ => trivial) fun within => ?_
  refine promises_bind (packs _ _) fun resultType _ =>
    promises_pure ⟨?_, Nat.le_of_not_lt within, rfl⟩
  rw [levels]
  omega

theorem packParameters_within (packs : TypeTable.KeptByPacking kept) (depth : Nat)
    (parameters : List Parameter) :
    PacksWithin kept limit depth levelsAll
      (fun nodes => (parameters ≠ [] → depth ≤ limit) ∧
        renameAllKeys (fun _ => .blank) nodes = parameters.map (Parameter.node fun _ => .blank))
      (parameters.mapM (packParameter limit depth)) := by
  induction parameters with
  | nil => exact promises_pure ⟨Nat.zero_le _, fun none => absurd rfl none, rfl⟩
  | cons first rest inductionHypothesis =>
    rw [List.mapM_cons]
    refine promises_bind (packParameter_within packs depth first)
      fun node ⟨fits, shallow, same⟩ => ?_
    refine promises_bind inductionHypothesis fun nodes ⟨others, _, sames⟩ =>
      promises_pure ⟨?_, fun _ => shallow, ?_⟩
    · rw [levelsAll]
      exact Nat.max_le.mpr ⟨fits, others⟩
    · rw [renameAllKeys, sames, List.map_cons]
      exact congrArg (· :: _) same

mutual

/-- A packed tree is the tree of the expression but for its keys, whatever was in the table before.
It has at most the levels that the limit leaves, and the expression passes the checks of packing.
All three are proved in one induction, since the checks are what bounds the levels. -/
theorem packAt_within (packs : TypeTable.KeptByPacking kept) : ∀ (expression : Expr) (depth : Nat),
    PacksWithin kept limit depth levels
      (fun node => expression.Packable limit depth ∧ node.keyless = expression.keyless)
      (packAt limit expression depth)
  | .lambda type parameters body name tailCall, depth => by
    unfold packAt
    refine promises_check (fun _ => trivial) fun within => ?_
    refine promises_bind (packs _ _) fun resultType _ => ?_
    refine promises_bind (packAt_within packs body (depth + 1))
      fun inner ⟨bodyFits, bodyPackable, same⟩ => ?_
    refine promises_bind (packParameters_within packs (depth + 1) parameters)
      fun declared ⟨fits, shallow, sames⟩ => promises_pure ⟨?_, ⟨?_, shallow, bodyPackable⟩, ?_⟩
    · rw [levels]
      omega
    · omega
    · unfold keyless Expr.keyless at same ⊢
      rw [renameKeys, same, sames, Expr.node]
      rfl
  | .parameter referenced, depth => by
    unfold packAt
    refine promises_check (fun _ => trivial) fun _ =>
      (packParameter_within packs depth referenced).weaken ?_ fun _ => id
    exact fun node ⟨fits, shallow, same⟩ => ⟨fits, shallow, same⟩
  | .binary operator type left right method conversion, depth => by
    unfold packAt
    refine promises_check (fun _ => trivial) fun within => ?_
    refine promises_bind (packs _ _) fun resultType _ => ?_
    refine promises_bind (packAt_within packs left (depth + 1))
      fun first ⟨leftFits, leftPackable, leftSame⟩ => ?_
    refine promises_bind (packAt_within packs right (depth + 1))
      fun second ⟨rightFits, rightPackable, rightSame⟩ => ?_
    refine promises_bind (packOption_within packs conversion (depth + 1))
      fun converter ⟨fits, packable, same⟩ => ?_
    refine promises_bind (keeps_packMethod? packs method) fun handle ⟨closed, reference⟩ =>
      promises_pure ⟨?_, ⟨?_, closed, leftPackable, rightPackable, packable⟩, ?_⟩
    · rw [levels]
      omega
    · omega
    · unfold keyless Expr.keyless at leftSame rightSame ⊢
      rw [renameKeys, leftSame, rightSame, same, reference, Expr.node]
      rfl
  | .member target read, depth => by
    unfold packAt
    refine promises_check (fun _ => trivial) fun within => ?_
    refine promises_bind (MemberReference.keeps_pack packs read)
      fun handle ⟨shown, reference⟩ => ?_
    refine promises_bind (packs _ _) fun resultType _ => ?_
    refine promises_bind (packAt_within packs target (depth + 1))
      fun source ⟨fits, packable, same⟩ => promises_pure ⟨?_, ⟨?_, shown, packable⟩, ?_⟩
    · rw [levels]
      omega
    · omega
    · unfold keyless Expr.keyless at same ⊢
      rw [renameKeys, same, reference, Expr.node]
      rfl
  | .constant value type, depth => by
    unfold packAt
    refine promises_check (fun _ => trivial) fun within => ?_
    refine promises_check (fun _ => trivial) fun room => ?_
    refine promises_bind (packs _ _) fun resultType _ => ?_
    have written : Meets (fun document => value.literal = .ok document) (fun _ => True)
        value.literal := by
      cases value.literal <;> trivial
    refine promises_bind (TypeTable.promises_lift written) fun document made => ?_
    have same : value.document = document := by rw [Value.document, made]
    refine promises_pure ⟨?_, ⟨?_, by simpa using room, same ▸ made⟩, ?_⟩
    · rw [levels]
      omega
    · omega
    · unfold keyless Expr.keyless
      rw [renameKeys, Expr.node, same]
      rfl
  | .call target method arguments, depth => by
    unfold packAt
    refine promises_check (fun _ => trivial) fun within => ?_
    refine promises_bind (packs _ _) fun resultType _ => ?_
    refine promises_bind (packOption_within packs target (depth + 1))
      fun source ⟨targetFits, targetPackable, targetSame⟩ => ?_
    refine promises_bind (MethodReference.keeps_pack packs method)
      fun handle ⟨closed, reference⟩ => ?_
    refine promises_bind (packAll_within packs arguments (depth + 1))
      fun others ⟨fits, packable, same⟩ =>
        promises_pure ⟨?_, ⟨?_, closed, targetPackable, packable⟩, ?_⟩
    · rw [levels]
      omega
    · omega
    · unfold keyless Expr.keyless
      rw [renameKeys, targetSame, reference, same, Expr.node]
      rfl
  | .construct constructor arguments, depth => by
    unfold packAt
    refine promises_check (fun _ => trivial) fun within => ?_
    refine promises_bind (packs _ _) fun resultType _ => ?_
    refine promises_bind (ConstructorReference.keeps_pack packs constructor)
      fun handle reference => ?_
    refine promises_bind (packAll_within packs arguments (depth + 1))
      fun others ⟨fits, packable, same⟩ => promises_pure ⟨?_, ⟨?_, packable⟩, ?_⟩
    · rw [levels]
      omega
    · omega
    · unfold keyless Expr.keyless
      rw [renameKeys, reference, same, Expr.node]
      rfl
  | .arrayInit type elements, depth => by
    unfold packAt
    refine promises_check (fun _ => trivial) fun within => ?_
    show Promises _ (match type.element? with | none => _ | some element => _) _ _
    cases isArray : type.element? with
    | none => exact promises_throw trivial
    | some element =>
      refine promises_bind (packs _ _) fun resultType _ => ?_
      refine promises_bind (packs _ _) fun item _ => ?_
      refine promises_bind (packAll_within packs elements (depth + 1))
        fun others ⟨fits, packable, same⟩ =>
          promises_pure ⟨?_, ⟨?_, by simp [Expr.Admitted, isArray], packable⟩, ?_⟩
      · rw [levels]
        omega
      · omega
      · unfold keyless Expr.keyless
        rw [renameKeys, same, Expr.node]
        rfl
  | .unary operator type operand, depth => by
    unfold packAt
    exact promises_check (fun _ => trivial) fun _ => promises_throw trivial

theorem packAll_within (packs : TypeTable.KeptByPacking kept) :
    ∀ (expressions : List Expr) (depth : Nat),
    PacksWithin kept limit depth levelsAll
      (fun nodes => Expr.PackableAll limit expressions depth ∧
        renameAllKeys (fun _ => .blank) nodes = Expr.nodeAll (fun _ => .blank) expressions)
      (packAll limit expressions depth)
  | [], depth => by
    unfold packAll
    exact promises_pure ⟨Nat.zero_le _, trivial, rfl⟩
  | expression :: rest, depth => by
    unfold packAll
    refine promises_bind (packAt_within packs expression depth)
      fun node ⟨fits, packable, same⟩ => ?_
    refine promises_bind (packAll_within packs rest depth)
      fun nodes ⟨others, restPackable, sames⟩ => promises_pure ⟨?_, ⟨packable, restPackable⟩, ?_⟩
    · rw [levelsAll]
      exact Nat.max_le.mpr ⟨fits, others⟩
    · rw [renameAllKeys, sames, Expr.nodeAll]
      exact congrArg (· :: _) same

theorem packOption_within (packs : TypeTable.KeptByPacking kept) :
    ∀ (expression : Option Expr) (depth : Nat),
    PacksWithin kept limit depth levelsOption
      (fun node => Expr.PackableOption limit expression depth ∧
        renameOptionKeys (fun _ => .blank) node = Expr.nodeOption (fun _ => .blank) expression)
      (packOption limit expression depth)
  | none, depth => by
    unfold packOption
    exact promises_pure ⟨Nat.zero_le _, trivial, rfl⟩
  | some expression, depth => by
    unfold packOption
    exact promises_bind (packAt_within packs expression depth)
      fun node ⟨fits, packable, same⟩ => promises_pure ⟨fits, packable, congrArg some same⟩

end

end Node

/-- Encoding keeps what packing types keeps. -/
theorem Serializer.keeps_encode {kept : TypeTable → Prop} (packs : TypeTable.KeptByPacking kept)
    (settings : Settings) (expression : Expr) :
    Promises kept (Serializer.encode settings expression) (fun _ => True) fun _ => True := by
  unfold Serializer.encode
  exact promises_bind (Node.packAt_within packs expression 0) fun node _ =>
    promises_get fun table _ => promises_pure trivial

end PredicateWire
