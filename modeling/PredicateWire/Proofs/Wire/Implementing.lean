/-
This file says what a method does that implements an operator. A node with such a method
evaluates its operands, the left one first, and answers with what the body of the method
returns for their values; it does so again after it has been sent, with the method that
the receiver finds. Operators that otherwise stop at the left operand do not stop there
when a method implements them.

One operator never looks at its method: coalescing goes by its own rule
(`Expr.evaluateAt_coalesce_method`), so its value may have another type than the node.
On the wire a reference stands in place of the method, and it is resolved in a table
that has been searched before; that the receiver finds the method itself is a matter of
its catalog alone.
-/
import PredicateWire.Proofs.Evaluation.Inhabitants
import PredicateWire.Proofs.Wire.Resolving
import PredicateWire.Proofs.Wire.Scoping

namespace PredicateWire

open Running TypeTable Value

/-! ### Evaluation -/

/-- A static method with two parameters that is invoked on two values runs its body. -/
theorem Method.invoke_eq_run {method : Method} (static : method.isStatic = true)
    (two : method.parameters.length = 2) (call : Caller) (first second : Value) :
    method.invoke call none [first, second] = method.body.run call none [first, second] := by
  unfold invoke
  rw [two, static]
  rfl

namespace Expr

variable {operator : BinaryOperator} {left right node : Expr} {method : Method}

/-- A node evaluates two operands, the first one first, and answers with what is returned for their
values. The first operand that has no value decides. -/
def Combines (node first second : Expr) (answer : Caller → List Value → Outcome Value) : Prop :=
  ∀ (call : AddressedCaller) (limit : Nat) (bindings : Bindings) (depth : Nat) (address : Address),
    node.evaluateAt call limit bindings depth address =
      if limit < depth then Outcome.fail (.depthExceeded limit)
      else do
        let left ← first.evaluateAt call limit bindings (depth + 1) (address.operand 0)
        let right ← second.evaluateAt call limit bindings (depth + 1) (address.operand 1)
        answer (call.within address) [left, right]

theorem combines_binary (heeded : operator ≠ .coalesce) (type : DataType) (left right : Expr)
    (method : Method) (conversion : Option Expr) :
    (binary operator type left right (some method) conversion).Combines left right
      fun call values => method.invoke call none values := by
  intro call limit bindings depth address
  exact evaluateAt_eager (BinaryOperator.eager_of_method heeded method) call limit type left right
    conversion bindings depth address

/-- A coalescing node does the same whatever method it has, and whether or not it has one: the value
on the left decides, and the method is never invoked. -/
theorem evaluateAt_coalesce_method (type : DataType) (left right : Expr) (method : Option Method)
    (conversion : Option Expr) (call : AddressedCaller) (limit : Nat) (bindings : Bindings)
    (depth : Nat) (address : Address) :
    (binary .coalesce type left right method conversion).evaluateAt call limit bindings depth
        address =
      (binary .coalesce type left right none conversion).evaluateAt call limit bindings depth
        address := by
  rw [evaluateAt, evaluateAt]

/-- What a node answers with is as wanted if what is returned for the values of its operands is.
Nothing is asked about operands without values, since the node has none either then. -/
theorem Combines.returns {answer : Caller → List Value → Outcome Value}
    (combines : node.Combines left right answer) {wanted : Value → Prop} {call : AddressedCaller}
    {limit : Nat} {bindings : Bindings} {depth : Nat} {address : Address}
    (returns : ∀ first second,
      left.evaluateAt call limit bindings (depth + 1) (address.operand 0) = .ok first →
      right.evaluateAt call limit bindings (depth + 1) (address.operand 1) = .ok second →
      Returns wanted (answer (call.within address) [first, second])) :
    Returns wanted (node.evaluateAt call limit bindings depth address) := by
  rw [combines]
  refine returns_within ?_ limit depth
  refine (meets_self _).bind fun first lefts => (meets_self _).bind fun second rights => ?_
  exact returns first second lefts rights

end Expr

/-! ### On the wire -/

namespace Node

open Rebuild

/-- An expression comes of a tree when the tree is rebuilt, at some depth and after something
else. -/
def Yields (node : Node) (expression : Expr) : Prop :=
  ∃ depth start final, (node.rebuildAt depth).run start = (.ok expression, final)

theorem promises_yields {kept : TypeTable → Prop}
    (keeps : ∀ key, Keeps kept (TypeTable.resolve key)) (node : Node) (depth : Nat) :
    Promises (fun rebuild => kept rebuild.table) (rebuildAt node depth) node.Yields
      fun _ => True := by
  refine ⟨fun {start outcome final} good ran => ?_⟩
  refine ⟨((keeps_rebuildAt keeps node depth).run good ran).1, ?_⟩
  cases outcome with
  | ok expression => exact ⟨depth, start, final, ran⟩
  | error error => trivial

/-- A node with a method is rebuilt from its operands, and with what the receiver has for the
reference. Where the catalog has the types of the method under their names, that is what it has for
the method itself, however the search for other types has gone. -/
theorem promises_implemented {base : TypeTable} (sound : base.Sound) {operator : BinaryOperator}
    {type : DataType} {left right : Node} {method : Method}
    (knows : ∀ part ∈ type :: method.types, base.Knows part) (depth : Nat) :
    Promises (fun rebuild => Certain base rebuild.table)
      (rebuildAt (.binary ⟨.binary operator, base.keyFor type, false⟩ left right none
        (some (MethodReference.to base.keyFor method))) depth)
      (fun rebuilt => ∃ found first second handle,
        rebuilt = .binary operator found first second (some handle) none ∧
        left.Yields first ∧ right.Yields second ∧
        ((∀ part ∈ type :: method.types, Told base part.canonicalName part) →
          found = type ∧ base.catalog.receivedMethod id method = .ok handle))
      fun _ => True := by
  have keeps : ∀ key, Keeps (Certain base) (TypeTable.resolve key) :=
    fun key => (promises_resolve_sure sound key).keeps
  have types : Promises (Certain base) (TypeTable.resolve (base.keyFor type))
      (fun found => Told base type.canonicalName type → found = type) fun _ => True :=
    (keeps _).when (promises_resolve_told sound (knows _ (.head _)))
  have methods : Promises (Certain base) (MethodReference.to base.keyFor method).resolve
      (fun handle => (∀ part ∈ method.types, Told base part.canonicalName part) →
        base.catalog.receivedMethod id method = .ok handle) fun _ => True :=
    (keeps_method keeps _).when
      (promises_method_told sound fun part member => knows part (.tail _ member))
  unfold rebuildAt
  refine promises_bind (promises_enter_resolve depth types) fun found isType => ?_
  have none : Promises (fun rebuild : Rebuild => Certain base rebuild.table)
      (rebuildOption .none (depth + 1)) (· = .none) fun _ => True := by
    rw [rebuildOption]
    exact promises_pure rfl
  refine promises_bind none fun converter absent => ?_
  subst absent
  refine promises_bind (promises_checkConversion .none).keeps fun _ _ => ?_
  refine promises_bind (promises_yields keeps left (depth + 1)) fun first lefts => ?_
  refine promises_bind (promises_yields keeps right (depth + 1)) fun second rights => ?_
  have handles : Promises (fun rebuild : Rebuild => Certain base rebuild.table)
      (method? (some (MethodReference.to base.keyFor method)))
      (fun handle? => ∃ handle, handle? = some handle ∧
        ((∀ part ∈ method.types, Told base part.canonicalName part) →
          base.catalog.receivedMethod id method = .ok handle)) fun _ => True :=
    promises_bind (promises_table methods) fun handle found => promises_pure ⟨handle, rfl, found⟩
  refine promises_bind handles ?_
  rintro _ ⟨handle, rfl, received⟩
  refine promises_pure ⟨found, first, second, handle, rfl, lefts, rights, fun told => ?_⟩
  rw [List.forall_mem_cons] at told
  exact ⟨isType told.1, received told.2⟩

end Node

namespace Serializer

/-- A node with a method that comes through has the operator and a method again, and operands that
come of the trees of its operands. A receiver that offers the method and has its types under their
names finds the method itself. The nodes have to be writable, for otherwise the text of the tree
could be read as another tree, with other doubles in its constants. -/
theorem deserializeExpr_implemented {sender receiver : Serializer} {source : Nat → UInt32}
    {scope : Nat} {packet : Packet} {operator : BinaryOperator} {left right rebuilt : Expr}
    {method : Method}
    (writable : ∀ part ∈ (Expr.binary operator method.returnType left right (some method)
      none).nodes, part.Writable)
    (sent : sender.serialize source (.binary operator method.returnType left right (some method)
      none) = .ok packet)
    (came : receiver.deserializeExpr scope packet = .ok rebuilt) :
    ∃ type first second handle,
      rebuilt = .binary operator type first second (some handle) none ∧
      (∃ key, (left.node key).normalized.Yields first ∧ (right.node key).normalized.Yields second) ∧
      (receiver.catalog.Offers method →
        (∀ part ∈ method.returnType :: method.types, receiver.catalog.Denotes part) →
        type = method.returnType ∧ handle = method) := by
  obtain ⟨table, carries, rfl⟩ := exists_carries sent
  have read := Json.read?_written_eq (Expr.readable_node table.keyFor _ writable)
  split at read
  case isFalse =>
    rw [deserializeExpr_unreadable _ carries.sound sender.settings.encoding read] at came
    cases came
  unfold deserializeExpr at came
  rw [Packet.load_ofNode carries.sound sender.settings.encoding read] at came
  have shape : ((Expr.binary operator method.returnType left right (some method) none).node
      table.keyFor).normalized = .binary ⟨.binary operator, table.keyFor method.returnType, false⟩
        (left.node table.keyFor).normalized (right.node table.keyFor).normalized none
        (some (MethodReference.to table.keyFor method)) := by
    rw [Expr.node, Node.normalized]
    rfl
  rcases ran : (((Expr.binary operator method.returnType left right (some method) none).node
      table.keyFor).normalized.rebuildAt 0).run
        (Rebuild.start (table.loaded receiver.catalog) scope receiver.settings.maxDepth)
    with ⟨outcome, final⟩
  have yields : outcome = .ok rebuilt := (congrArg Prod.fst ran).symm.trans came
  rw [yields, shape] at ran
  have knows : ∀ part ∈ method.returnType :: method.types, table.Knows part := by
    refine fun part member => carries.known part ?_
    refine Expr.ownTypes_subset (Expr.mem_nodes_self _) part ?_
    simpa [Expr.ownTypes] using member
  have sound : (table.loaded receiver.catalog).Sound := carries.sound.congr _ rfl
  obtain ⟨_, type, first, second, handle, same, lefts, rights, found⟩ :=
    (Node.promises_implemented sound knows 0).run (certain_self rfl) ran
  refine ⟨type, first, second, handle, same, ⟨_, lefts, rights⟩, fun offers denotes => ?_⟩
  obtain ⟨isType, received⟩ := found fun part member => typeNamed_eq_ok.mp (denotes part member).2
  refine ⟨isType, ?_⟩
  rw [List.forall_mem_cons] at denotes
  exact offers.eq_of_received (fun part member => (denotes.2 part member).1) denotes.1.1
    (carries.packable.2.1 _ rfl) received

end Serializer

namespace Expr

/-- A static method of two booleans that answers with a text. -/
def joint : Method :=
  .staticMethod .bool "Joint" [.bool, .bool] .string 0 (.script (.answer (.string "joint")))

/-- Two booleans under an operator that the method implements. -/
def jointly (operator : BinaryOperator) : Expr :=
  binary operator .string (bool false) (bool true) (some joint) none

theorem nodes_jointly (operator : BinaryOperator) :
    (jointly operator).nodes = [jointly operator, bool false, bool true] := rfl

theorem writable_jointly (operator : BinaryOperator) :
    ∀ node ∈ (jointly operator).nodes, node.Writable := by
  rw [nodes_jointly]
  simp only [List.forall_mem_cons]
  refine ⟨fun implementation present => ?_, List.forall_mem_nil _, List.forall_mem_nil _,
    List.forall_mem_nil _⟩
  cases present
  decide

end Expr

namespace Serializer

open PredicateWire.Expr (joint jointly)

/-- One end of the wire that offers the method besides the built-in library. -/
def joining : Serializer :=
  ⟨Catalog.standard.registerMethod joint, Settings.standard⟩

theorem denotes_joint : ∀ type ∈ joint.returnType :: joint.types, joining.catalog.Denotes type := by
  have known : ∀ {type : DataType}, type.isClosed = true →
      joining.catalog.findType? type.canonicalName = some type → joining.catalog.Denotes type :=
    fun closed found => ⟨closed, typeNamed_eq_ok.mpr (.known found)⟩
  have types : joint.returnType :: joint.types = [.string, .bool, .bool, .bool] := rfl
  rw [types]
  simp only [List.forall_mem_cons]
  exact ⟨known rfl rfl, known rfl rfl, known rfl rfl, known rfl rfl, List.forall_mem_nil _⟩

theorem offers_joint : joining.catalog.Offers joint :=
  .open (.definition (List.mem_append_right _ (List.mem_singleton_self _)) fun generic =>
    absurd rfl generic)

theorem deserializeExpr_jointly :
    ∃ packet, joining.serialize UInt32.ofNat (jointly .andAlso) = .ok packet ∧
      joining.deserializeExpr 1 packet = .ok (jointly .andAlso) := by
  have succeeds : (joining.serialize UInt32.ofNat (jointly .andAlso)).toBool = true := by
    decide +kernel
  cases sent : joining.serialize UInt32.ofNat (jointly .andAlso) with
  | error error =>
    rw [sent] at succeeds
    cases succeeds
  | ok packet =>
    have shallow : (jointly .andAlso).documentNesting ≤ Json.greatestNesting := by
      obtain ⟨table, carries, _⟩ := exists_carries sent
      exact Nat.le_trans (Expr.documentNesting_le carries.packable) (by decide)
    have types : (jointly .andAlso).types =
        joint.returnType :: joint.types ++ [joint.declaringType, joint.declaringType] := rfl
    have named : ∀ type ∈ (jointly .andAlso).types,
        joining.catalog.typeNamed type.canonicalName = .ok type := by
      have declaring := (denotes_joint joint.declaringType (.tail _ (.head _))).2
      rw [types, List.forall_mem_append]
      exact ⟨fun type member => (denotes_joint type member).2,
        List.forall_mem_cons.mpr ⟨declaring, List.forall_mem_singleton.mpr declaring⟩⟩
    have restored : ∀ node ∈ (jointly .andAlso).nodes, node.Restored joining.catalog := by
      rw [Expr.nodes_jointly]
      simp only [List.forall_mem_cons]
      refine ⟨⟨fun implementation present => ?_, fun conversion present => ?_⟩, rfl, rfl,
        List.forall_mem_nil _⟩
      · cases present
        rfl
      · cases present
    obtain ⟨made, delivered, _⟩ := deserializeExpr_restored 1 named
      (Expr.writable_jointly .andAlso) (fun _ => restored) sent shallow
    exact ⟨packet, rfl, delivered⟩

end Serializer

namespace Expr

end Expr

end PredicateWire
