/-
This file proves that a packet with renamed keys is received like the packet itself.
What comes out differs in the scope of its parameters only, and where nothing comes out
both are refused with errors of the same kind.

Rebuilding looks for keys in the table and hands on what is found; it makes parameters
by the names of their types and not by the keys of these. So the operations of
rebuilding commute with the renaming, one by one, and with the change of scope, and the
induction over trees puts them together. What remains is the text. The renamed packet
holds a text of its own, and whether this is read as the renamed tree is for the packet
to say (`Packet.KeysRenamed`) and for the sender to guarantee.
-/
import PredicateWire.Proofs.Expr.Parts
import PredicateWire.Proofs.Table.Renaming
import PredicateWire.Wire.Serializer

namespace PredicateWire

open TypeTable

/-! ### Scopes of parameters -/

/-- The parameter at the same place of another scope. -/
def Parameter.inScope (scope : Nat) (parameter : Parameter) : Parameter :=
  { parameter with identity := ⟨scope, parameter.identity.index⟩ }

/-- The expression with parameters of another scope. -/
def Expr.inScope (scope : Nat) (expression : Expr) : Expr :=
  expression.rename (Parameter.inScope scope)

namespace Rebuild

/-- The state of rebuilding with renamed keys, in another scope. -/
def renameKeys (rename : TypeKey → TypeKey) (scope : Nat) (rebuild : Rebuild) : Rebuild :=
  { rebuild with
    table := rebuild.table.renameKeys rename
    parameters := rebuild.parameters.map (Parameter.inScope scope)
    scope := scope }

/-- Rebuilding commutes with the renaming of keys and a change of scope. -/
abbrev Commutes (rename : TypeKey → TypeKey) (scope : Nat) {First Second : Type}
    (matching : First → Second → Prop) : RebuildM First → RebuildM Second → Prop :=
  PredicateWire.Commutes (renameKeys rename scope) matching

section

variable {rename : TypeKey → TypeKey} {scope : Nat} {First Second : Type}

theorem commutes_onTable {matching : First → Second → Prop} {work : TableM First}
    {twin : TableM Second} (commutes : TableCommutes rename matching work twin) :
    Commutes rename scope matching (onTable work) (onTable twin) := by
  refine ⟨fun {rebuild other} same => ?_⟩
  subst same
  have runs := commutes.run (rfl : rebuild.table.renameKeys rename = _)
  have first : (onTable work).run rebuild = ((work.run rebuild.table).1,
    { rebuild with table := (work.run rebuild.table).2 }) := rfl
  have second : (onTable twin).run (rebuild.renameKeys rename scope) =
    ((twin.run (rebuild.table.renameKeys rename)).1, { rebuild.renameKeys rename scope with
      table := (twin.run (rebuild.table.renameKeys rename)).2 }) := rfl
  rw [first, second]
  revert runs
  rcases work.run rebuild.table with ⟨error | content, table⟩ <;>
    rcases twin.run (rebuild.table.renameKeys rename) with ⟨fault | other, otherTable⟩ <;>
    intro runs
  · obtain ⟨kinds, rfl⟩ := runs
    exact ⟨kinds, rfl⟩
  · exact runs.elim
  · exact runs.elim
  · obtain ⟨matched, rfl⟩ := runs
    exact ⟨matched, rfl⟩

/-- Whether a parameter has been made already is a matter of its name and type. -/
theorem parameter?_renameKeys (rebuild : Rebuild) (type : DataType) (name : String) :
    (rebuild.renameKeys rename scope).parameter? type name =
      (rebuild.parameter? type name).map (Parameter.inScope scope) := by
  unfold parameter? renameKeys
  rw [List.find?_map]
  rfl

theorem commutes_parameter (type : DataType) (name : String) (byReference : Bool) :
    Commutes rename scope (fun made twin => twin = made.inScope scope)
      (parameter type name byReference) (parameter type name byReference) := by
  refine ⟨fun {rebuild other} same => ?_⟩
  subst same
  unfold parameter
  simp only [Running.run_bind, Running.run_get, parameter?_renameKeys]
  cases rebuild.parameter? type name with
  | some made => exact ⟨rfl, rfl⟩
  | none =>
    refine ⟨?_, ?_⟩
    · rw [renameKeys, List.length_map]
      rfl
    · rw [renameKeys, renameKeys, List.length_map, List.map_append]
      rfl

theorem commutes_declaredParameter (expression : Expr) :
    Commutes rename scope (fun made twin => twin = made.inScope scope)
      (declaredParameter expression) (declaredParameter (expression.inScope scope)) := by
  cases expression with
  | parameter referenced => exact commutes_pure rfl
  | _ => exact commutes_throw rfl

theorem commutes_checkConversion (conversion : Option Expr) :
    Commutes rename scope (fun _ _ => True) (checkConversion conversion)
      (checkConversion (conversion.map (Expr.inScope scope))) := by
  cases conversion with
  | none => exact commutes_pure trivial
  | some converter =>
    cases converter with
    | lambda type parameters body name tailCall => exact commutes_pure trivial
    | _ => exact commutes_throw rfl

theorem commutes_checkArray (declared element : DataType) :
    Commutes rename scope (fun _ _ => True) (checkArray declared element)
      (checkArray declared element) := by
  unfold checkArray
  split
  · exact commutes_pure trivial
  · exact commutes_throw rfl

theorem commutes_method? (injective : Function.Injective rename)
    (method : Option MethodReference) :
    Commutes rename scope Eq (method? method)
      (method? (method.map (MethodReference.renameKeys rename))) := by
  cases method with
  | none => exact commutes_pure rfl
  | some reference =>
    refine commutes_bind (commutes_onTable (reference.commutes_resolve injective)) ?_
    rintro method _ rfl
    exact commutes_pure rfl

end

end Rebuild

/-! ### Rebuilding -/

namespace Expr

variable (scope : Nat)

theorem renameAll_inScope (expressions : List Expr) :
    renameAll (Parameter.inScope scope) expressions = expressions.map (inScope scope) := by
  induction expressions with
  | nil => rfl
  | cons first rest inductionHypothesis =>
    rw [renameAll, inductionHypothesis, List.map_cons]
    rfl

theorem renameOption_inScope (expression : Option Expr) :
    renameOption (Parameter.inScope scope) expression = expression.map (inScope scope) := by
  cases expression <;> rfl

end Expr

namespace Node

variable {rename : TypeKey → TypeKey} {scope : Nat}

theorem commutes_enter (scope : Nat) (injective : Function.Injective rename) (node : Node)
    (depth : Nat) :
    Rebuild.Commutes rename scope Eq (node.enter depth) ((node.renameKeys rename).enter depth) := by
  have header : (node.renameKeys rename).header = renameHeader rename node.header := by
    cases node <;> rfl
  have tag : (node.renameKeys rename).tag = node.tag := by cases node <;> rfl
  unfold enter
  rw [header, tag]
  refine commutes_get fun rebuild => commutes_check Iff.rfl rfl ?_
  refine commutes_check Iff.rfl rfl ?_
  exact Rebuild.commutes_onTable (TypeTable.commutes_resolve injective node.header.resultType)

mutual

/-- A tree with renamed keys is rebuilt as the same expression, in its own scope. -/
theorem commutes_rebuildAt (injective : Function.Injective rename) : ∀ (node : Node) (depth : Nat),
    Rebuild.Commutes rename scope (fun expression twin => twin = expression.inScope scope)
      (rebuildAt node depth) (rebuildAt (node.renameKeys rename) depth)
  | lambda header body parameters name tailCall, depth => by
    have entered := commutes_enter scope injective
      (lambda header body parameters name tailCall) depth
    rw [renameKeys] at entered ⊢
    unfold rebuildAt
    refine commutes_bind entered ?_
    rintro type _ rfl
    refine commutes_bind (commutes_rebuildParameters injective parameters (depth + 1)) ?_
    rintro declared _ rfl
    refine commutes_bind (commutes_rebuildAt injective body (depth + 1)) ?_
    rintro inner _ rfl
    exact commutes_pure rfl
  | parameter header name byReference, depth => by
    have entered := commutes_enter scope injective
      (parameter header name byReference) depth
    rw [renameKeys] at entered ⊢
    unfold rebuildAt
    refine commutes_bind entered ?_
    rintro type _ rfl
    refine commutes_bind (Rebuild.commutes_parameter type name byReference) ?_
    rintro made _ rfl
    exact commutes_pure rfl
  | binary header left right conversion method, depth => by
    have entered := commutes_enter scope injective
      (binary header left right conversion method) depth
    rw [renameKeys] at entered ⊢
    unfold rebuildAt
    refine commutes_bind entered ?_
    rintro type _ rfl
    rw [renameHeader]
    dsimp only
    cases header.kind.binaryOperator? with
    | none => exact commutes_throw rfl
    | some operator =>
      refine commutes_bind (commutes_rebuildOption injective conversion (depth + 1)) ?_
      rintro converter _ rfl
      refine commutes_bind (Rebuild.commutes_checkConversion converter) fun _ _ _ => ?_
      refine commutes_bind (commutes_rebuildAt injective left (depth + 1)) ?_
      rintro first _ rfl
      refine commutes_bind (commutes_rebuildAt injective right (depth + 1)) ?_
      rintro second _ rfl
      refine commutes_bind (Rebuild.commutes_method? injective method) ?_
      rintro implementation _ rfl
      refine commutes_pure ?_
      show _ = Expr.rename _ _
      rw [Expr.rename, Expr.renameOption_inScope]
      rfl
  | member header target read, depth => by
    have entered := commutes_enter scope injective (member header target read) depth
    rw [renameKeys] at entered ⊢
    unfold rebuildAt
    refine commutes_bind entered fun _ _ _ => ?_
    refine commutes_bind (commutes_rebuildAt injective target (depth + 1)) ?_
    rintro source _ rfl
    refine commutes_bind (Rebuild.commutes_onTable (read.commutes_resolve injective)) ?_
    rintro found _ rfl
    exact commutes_pure rfl
  | constant header document, depth => by
    have entered := commutes_enter scope injective (constant header document) depth
    rw [renameKeys] at entered ⊢
    unfold rebuildAt
    refine commutes_bind entered ?_
    rintro type _ rfl
    refine commutes_bind (Rebuild.commutes_onTable (commutes_lift _)) ?_
    rintro value _ rfl
    exact commutes_pure rfl
  | call header target method arguments, depth => by
    have entered := commutes_enter scope injective
      (call header target method arguments) depth
    rw [renameKeys] at entered ⊢
    unfold rebuildAt
    refine commutes_bind entered fun _ _ _ => ?_
    refine commutes_bind (commutes_rebuildOption injective target (depth + 1)) ?_
    rintro source _ rfl
    refine commutes_bind (Rebuild.commutes_onTable (method.commutes_resolve injective)) ?_
    rintro implementation _ rfl
    refine commutes_bind (commutes_rebuildAll injective arguments (depth + 1)) ?_
    rintro values _ rfl
    refine commutes_pure ?_
    rw [Expr.inScope, Expr.rename, Expr.renameOption_inScope, Expr.renameAll_inScope]
  | construct header constructor arguments, depth => by
    have entered := commutes_enter scope injective
      (construct header constructor arguments) depth
    rw [renameKeys] at entered ⊢
    unfold rebuildAt
    refine commutes_bind entered fun _ _ _ => ?_
    refine commutes_bind (Rebuild.commutes_onTable (constructor.commutes_resolve injective)) ?_
    rintro implementation _ rfl
    refine commutes_bind (commutes_rebuildAll injective arguments (depth + 1)) ?_
    rintro values _ rfl
    refine commutes_pure ?_
    rw [Expr.inScope, Expr.rename, Expr.renameAll_inScope]
  | arrayInit header element elements, depth => by
    have entered := commutes_enter scope injective
      (arrayInit header element elements) depth
    rw [renameKeys] at entered ⊢
    unfold rebuildAt
    refine commutes_bind entered ?_
    rintro type _ rfl
    refine commutes_bind (Rebuild.commutes_onTable (TypeTable.commutes_resolve injective element)) ?_
    rintro item _ rfl
    refine commutes_bind (Rebuild.commutes_checkArray type item) fun _ _ _ => ?_
    refine commutes_bind (commutes_rebuildAll injective elements (depth + 1)) ?_
    rintro values _ rfl
    refine commutes_pure ?_
    rw [Expr.inScope, Expr.rename, Expr.renameAll_inScope]

theorem commutes_rebuildAll (injective : Function.Injective rename) :
    ∀ (nodes : List Node) (depth : Nat), Rebuild.Commutes rename scope
      (fun expressions twins => twins = expressions.map (Expr.inScope scope))
      (rebuildAll nodes depth) (rebuildAll (renameAllKeys rename nodes) depth)
  | [], depth => by
    rw [renameAllKeys]
    unfold rebuildAll
    exact commutes_pure rfl
  | node :: rest, depth => by
    rw [renameAllKeys]
    unfold rebuildAll
    refine commutes_bind (commutes_rebuildAt injective node depth) ?_
    rintro expression _ rfl
    refine commutes_bind (commutes_rebuildAll injective rest depth) ?_
    rintro expressions _ rfl
    exact commutes_pure rfl

theorem commutes_rebuildParameters (injective : Function.Injective rename) :
    ∀ (nodes : List Node) (depth : Nat), Rebuild.Commutes rename scope
      (fun declared twins => twins = declared.map (Parameter.inScope scope))
      (rebuildParameters nodes depth) (rebuildParameters (renameAllKeys rename nodes) depth)
  | [], depth => by
    rw [renameAllKeys]
    unfold rebuildParameters
    exact commutes_pure rfl
  | node :: rest, depth => by
    rw [renameAllKeys]
    unfold rebuildParameters
    refine commutes_bind (commutes_rebuildAt injective node depth) ?_
    rintro expression _ rfl
    refine commutes_bind (Rebuild.commutes_declaredParameter expression) ?_
    rintro declared _ rfl
    refine commutes_bind (commutes_rebuildParameters injective rest depth) ?_
    rintro others _ rfl
    exact commutes_pure rfl

theorem commutes_rebuildOption (injective : Function.Injective rename) :
    ∀ (node : Option Node) (depth : Nat), Rebuild.Commutes rename scope
      (fun expression twin => twin = expression.map (Expr.inScope scope))
      (rebuildOption node depth) (rebuildOption (renameOptionKeys rename node) depth)
  | none, depth => by
    rw [renameOptionKeys]
    unfold rebuildOption
    exact commutes_pure rfl
  | some node, depth => by
    rw [renameOptionKeys]
    unfold rebuildOption
    refine commutes_bind (commutes_rebuildAt injective node depth) ?_
    rintro expression _ rfl
    exact commutes_pure rfl

end

end Node

/-! ### Receiving -/

namespace Packet

/-- The node tree of a packet. -/
def tree (packet : Packet) : Result Node := do
  let text ← packet.treeText
  match Node.read? text with
  | some node => .ok node
  | none => .error (.codec (.unreadable (some .tree)))

/-- A packet is another one with its keys renamed: every key of its table is, and its tree, however
it is written, reads as the renamed tree or cannot be read for the same reason. -/
structure KeysRenamed (rename : TypeKey → TypeKey) (packet renamed : Packet) : Prop where
  types : renamed.types = packet.types.map (TypeEntry.renameKeys rename)
  tree : renamed.tree = packet.tree.map (Node.renameKeys rename)

/-- Loading a packet makes its table and reads its tree, in this order: a packet with two entries of
one key is refused whatever its text is. -/
theorem load_eq (packet : Packet) (catalog : Catalog) (source : Nat → UInt32) :
    packet.load catalog source = (do
      let table ← TypeTable.ofEntries catalog source packet.types
      let node ← packet.tree
      return (node, table)) := by
  unfold load tree
  cases TypeTable.ofEntries catalog source packet.types with
  | error error => rfl
  | ok table =>
    cases packet.treeText with
    | error error => rfl
    | ok text =>
      dsimp only [bind, Except.bind]
      cases Node.read? text <;> rfl

end Packet

namespace Serializer

/-- A packet with renamed keys is received as the same expression in its own scope, or refused with
an error of the same kind. -/
theorem deserializeExpr_renameKeys (serializer : Serializer) {rename : TypeKey → TypeKey}
    (injective : Function.Injective rename) {packet renamed : Packet}
    (same : packet.KeysRenamed rename renamed) (scope twinScope : Nat) :
    Result.Matches (fun expression twin => twin = expression.inScope twinScope)
      (serializer.deserializeExpr scope packet) (serializer.deserializeExpr twinScope renamed) := by
  unfold deserializeExpr
  rw [Packet.load_eq, Packet.load_eq, same.types, same.tree]
  have tables := ofEntries_renameKeys injective serializer.catalog (fun _ => 0) packet.types
  revert tables
  cases ofEntries serializer.catalog (fun _ => 0) packet.types with
  | error error =>
    cases ofEntries serializer.catalog (fun _ => 0)
        (packet.types.map (TypeEntry.renameKeys rename)) with
    | error fault => exact id
    | ok other => exact False.elim
  | ok table =>
    cases ofEntries serializer.catalog (fun _ => 0)
        (packet.types.map (TypeEntry.renameKeys rename)) with
    | error fault => exact False.elim
    | ok other =>
      rintro rfl
      cases packet.tree with
      | error error => rfl
      | ok node =>
        have start : Rebuild.start (table.renameKeys rename) twinScope serializer.settings.maxDepth =
            (Rebuild.start table scope serializer.settings.maxDepth).renameKeys rename twinScope :=
          rfl
        exact ((Node.commutes_rebuildAt injective node 0).outcome start).1

end Serializer

end PredicateWire
