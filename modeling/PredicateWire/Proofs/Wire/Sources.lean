/-
This file says where the parts of a rebuilt expression come from. Its members are what
the receiver's catalog has under their names, its methods run bodies from the catalog,
its constructors are in the catalog, its constants are plain, and its nesting stays
within the limit. Rebuilding reports a tree that nests too deeply only if it does.

The packet decides which of the things in the catalog are used, and in which order, but
it brings no code and no handle of its own. This holds of every packet, forged ones
included, and it is the basis of all that is proved about received expressions: what
they may run, what they may read and how deep they may be. Errors are followed along
with results, since that depth is the only reason for an error of depth is a statement
about failures.
-/
import PredicateWire.Proofs.Catalog.Members
import PredicateWire.Proofs.Evaluation.Depth
import PredicateWire.Proofs.Table.Supply
import PredicateWire.Proofs.Wire.Keeping

namespace PredicateWire

/-! ### Types and handles -/

namespace TypeTable

/-- The table belongs to a catalog, and the types noted in it have a property. -/
structure Supplied (catalog : Catalog) (holds : DataType → Prop) (table : TypeTable) : Prop where
  catalog : table.catalog = catalog
  noted : Noted holds table.resolved

section

variable {catalog : Catalog} {holds : DataType → Prop}

theorem promises_searching {Content : Type} {search : TypeTable → SearchM Content}
    {wanted : Content → Prop} {expected : Error → Prop}
    (promises : ∀ table : TypeTable, table.catalog = catalog →
      Promises (Noted holds) (search table) wanted expected) :
    Promises (Supplied catalog holds) (searching search) wanted expected := by
  refine ⟨fun {table outcome final} supplied ran => ?_⟩
  rw [searching_run] at ran
  cases ran
  obtain ⟨noted, meets⟩ := (promises table supplied.catalog).run supplied.noted rfl
  exact ⟨⟨supplied.catalog, noted⟩, meets⟩

variable (supplies : catalog.Supplies holds)

include supplies

theorem promises_resolve (key : TypeKey) :
    Promises (Supplied catalog holds) (resolve key) holds fun error => ¬error.IsDepth :=
  promises_searching fun _ same => promises_searchKey (same ▸ supplies) [] key

theorem promises_resolveAll (keys : List TypeKey) :
    Promises (Supplied catalog holds) (resolveAll keys) (fun types => ∀ type ∈ types, holds type)
      fun error => ¬error.IsDepth :=
  promises_mapM fun key _ => promises_resolve supplies key

end

theorem promises_only {Candidate : Type} {kept : TypeTable → Prop} (typeName name : String)
    (parameters : List DataType) (candidates : List Candidate) :
    Promises kept (only typeName name parameters candidates) (fun found => found ∈ candidates)
      fun error => ¬error.IsDepth := by
  unfold only
  split
  · exact promises_pure (.head _)
  · exact promises_throw fun deep => nomatch deep

end TypeTable

open TypeTable

/-- A method runs the body of one that the catalog has. -/
def Catalog.Embodies (catalog : Catalog) (method : Method) : Prop :=
  ∃ definition ∈ catalog.methods, definition.body = method.body

theorem Method.meets_makeGeneric (method : Method) (arguments : List DataType) :
    Meets (fun closed => closed.body = method.body) (fun error : Error => ¬error.IsDepth)
      (method.makeGeneric arguments) := by
  unfold Method.makeGeneric
  split
  · exact fun deep => nomatch deep
  · split
    · exact fun deep => nomatch deep
    · rfl

section

variable {catalog : Catalog} {holds : DataType → Prop} (supplies : catalog.Supplies holds)

include supplies

theorem promises_resolveMethod (reference : MethodReference) :
    Promises (Supplied catalog holds) reference.resolve catalog.Embodies
      fun error => ¬error.IsDepth := by
  unfold MethodReference.resolve
  refine promises_bind (promises_resolve supplies _) fun declaring _ => ?_
  refine promises_bind (promises_resolveAll supplies _) fun parameters _ => ?_
  refine promises_get fun table supplied => ?_
  refine promises_bind (promises_only _ _ _ _) fun definition found => ?_
  have filed : definition ∈ catalog.methods := by
    rw [supplied.catalog] at found
    exact (List.mem_filter.mp (List.mem_filter.mp found).1).1
  split
  · exact promises_pure ⟨definition, filed, rfl⟩
  · refine promises_bind (promises_resolveAll supplies _) fun arguments _ => promises_lift ?_
    exact (Method.meets_makeGeneric _ arguments).weaken
      (fun _ same => ⟨definition, filed, same.symm⟩) fun _ => id

theorem promises_resolveConstructor (reference : ConstructorReference) :
    Promises (Supplied catalog holds) reference.resolve
      (fun constructor => constructor ∈ catalog.constructors) fun error => ¬error.IsDepth := by
  unfold ConstructorReference.resolve
  refine promises_bind (promises_resolve supplies _) fun declaring _ => ?_
  refine promises_bind (promises_resolveAll supplies _) fun parameters _ => ?_
  refine promises_get fun table supplied => (promises_only _ _ _ _).weaken ?_ fun _ => id
  intro constructor found
  rw [supplied.catalog] at found
  exact (List.mem_filter.mp (List.mem_filter.mp found).1).1

theorem promises_resolveMember (reference : MemberReference) :
    Promises (Supplied catalog holds) reference.resolve
      (fun read => catalog.member? read.declaringType read.name = some read ∧
        holds read.declaringType) fun error => ¬error.IsDepth := by
  unfold MemberReference.resolve
  refine promises_bind (promises_resolve supplies _) fun declaring suits => ?_
  refine promises_get fun table supplied => ?_
  split
  · rename_i read found
    rw [supplied.catalog] at found
    have same := (Catalog.declaringType_of_member? found).1
    exact promises_pure ⟨Catalog.member?_self found, same ▸ suits⟩
  · exact promises_throw fun deep => nomatch deep

end

/-! ### Rebuilding -/

/-- The member of a node is what a catalog has under its name in a type with a property, its method
or constructor comes from the catalog, and the value of a constant is plain. -/
def Expr.Sourced (catalog : Catalog) (holds : DataType → Prop) : Expr → Prop
  | binary _ _ _ _ method _ => ∀ handle ∈ method, catalog.Embodies handle
  | member _ read =>
    catalog.member? read.declaringType read.name = some read ∧ holds read.declaringType
  | constant value _ => value.Plain
  | call _ method _ => catalog.Embodies method
  | construct constructor _ => constructor ∈ catalog.constructors
  | _ => True

/-- The state of rebuilding has a limit and a table that belongs to a catalog. -/
structure Rebuild.Supplied (catalog : Catalog) (holds : DataType → Prop) (limit : Nat)
    (rebuild : Rebuild) : Prop where
  table : rebuild.table.Supplied catalog holds
  limit : rebuild.limit = limit

/-- What is rebuilt at a depth has at most the levels that the limit leaves, and its nodes have
their parts from the catalog. -/
structure Expr.Rebuilt (catalog : Catalog) (holds : DataType → Prop) (limit depth levels : Nat)
    (nodes : List Expr) : Prop where
  levels : levels ≤ limit + 1 - depth
  sourced : ∀ node ∈ nodes, node.Sourced catalog holds

section

variable {catalog : Catalog} {holds : DataType → Prop} {limit : Nat}

theorem promises_onTable {Content : Type} {work : TableM Content} {wanted : Content → Prop}
    {expected : Error → Prop}
    (promises : Promises (TypeTable.Supplied catalog holds) work wanted expected) :
    Promises (Rebuild.Supplied catalog holds limit) (Rebuild.onTable work) wanted expected := by
  refine ⟨fun {rebuild outcome final} supplied ran => ?_⟩
  have shown : (Rebuild.onTable work).run rebuild =
      ((work.run rebuild.table).1, { rebuild with table := (work.run rebuild.table).2 }) := rfl
  rw [shown] at ran
  cases ran
  obtain ⟨table, meets⟩ := promises.run supplied.table rfl
  exact ⟨⟨table, supplied.limit⟩, meets⟩

section

variable {State Content : Type} {kept : State → Prop} {work : ExceptT Error (StateM State) Content}
  {wanted : Content → Prop} {deep deeper : Prop}

/-- Work that never fails because of depth may be part of work that can. -/
theorem Promises.shallow (promises : Promises kept work wanted fun error => ¬error.IsDepth) :
    Promises kept work wanted fun error => error.IsDepth → deep :=
  promises.weaken (fun _ => id) fun _ shallow isDepth => absurd isDepth shallow

/-- Work on a part of a tree fails because of depth only if the whole tree is too deep. -/
theorem Promises.part (promises : Promises kept work wanted fun error => error.IsDepth → deep)
    (implies : deep → deeper) : Promises kept work wanted fun error => error.IsDepth → deeper :=
  promises.weaken (fun _ => id) fun _ because isDepth => implies (because isDepth)

end

theorem promises_parameter (type : DataType) (name : String) (byReference : Bool)
    {expected : Error → Prop} :
    Promises (Rebuild.Supplied catalog holds limit) (Rebuild.parameter type name byReference)
      (fun _ => True) expected := by
  unfold Rebuild.parameter
  refine promises_get fun rebuild supplied => ?_
  split
  · exact promises_pure trivial
  · refine ⟨fun _ ran => ?_⟩
    cases ran
    exact ⟨⟨supplied.table, supplied.limit⟩, trivial⟩

theorem promises_declaredParameter {kept : Rebuild → Prop} (expression : Expr) :
    Promises kept (Rebuild.declaredParameter expression) (fun _ => True)
      fun error => ¬error.IsDepth := by
  unfold Rebuild.declaredParameter
  split
  · exact promises_pure trivial
  · exact promises_throw fun deep => nomatch deep

theorem promises_checkConversion {kept : Rebuild → Prop} (conversion : Option Expr) :
    Promises kept (Rebuild.checkConversion conversion) (fun _ => True)
      fun error => ¬error.IsDepth := by
  unfold Rebuild.checkConversion
  split
  · exact promises_pure trivial
  · exact promises_pure trivial
  · exact promises_throw fun deep => nomatch deep

theorem promises_checkArray {kept : Rebuild → Prop} (declared element : DataType) :
    Promises kept (Rebuild.checkArray declared element) (fun _ => True)
      fun error => ¬error.IsDepth := by
  unfold Rebuild.checkArray
  split
  · exact promises_pure trivial
  · exact promises_throw fun deep => nomatch deep

variable (supplies : catalog.Supplies holds)

include supplies

theorem promises_method? (method : Option MethodReference) :
    Promises (Rebuild.Supplied catalog holds limit) (Rebuild.method? method)
      (fun found => ∀ handle ∈ found, catalog.Embodies handle) fun error => ¬error.IsDepth := by
  cases method with
  | none => exact promises_pure fun _ none => nomatch none
  | some reference =>
    refine promises_bind (promises_onTable (promises_resolveMethod supplies reference))
      fun found embodied => promises_pure fun handle same => ?_
    cases same
    exact embodied

/-- A node is entered only within the limit. -/
theorem promises_enter (node : Node) (depth : Nat) :
    Promises (Rebuild.Supplied catalog holds limit) (node.enter depth) (fun _ => depth ≤ limit)
      fun error => error.IsDepth → limit < depth := by
  unfold Node.enter
  refine promises_get fun rebuild supplied => ?_
  rw [supplied.limit]
  refine promises_check (fun deep _ => deep) fun within => ?_
  refine promises_check (fun _ deep => nomatch deep) fun _ => ?_
  exact (promises_onTable (promises_resolve supplies _)).shallow.weaken (fun _ _ => by omega)
    fun _ => id

end

namespace Node

open PredicateWire.Expr

variable {catalog : Catalog} {holds : DataType → Prop} {limit : Nat}

mutual

/-- A rebuilt expression stays within the limit and has its parts from the catalog. That a tree
nests too deeply is reported only if it does: the levels of the tree are counted from the depth at
which it stands, and one level may be left over. -/
theorem promises_rebuildAt (supplies : catalog.Supplies holds) : ∀ (node : Node) (depth : Nat),
    Promises (Rebuild.Supplied catalog holds limit) (rebuildAt node depth)
      (fun expression => Rebuilt catalog holds limit depth expression.levels expression.nodes)
      fun error => error.IsDepth → limit + 1 < depth + node.levels
  | lambda header body parameters name tailCall, depth => by
    unfold rebuildAt
    rw [levels]
    refine promises_bind ((promises_enter supplies _ depth).part (by omega)) fun type within => ?_
    refine promises_bind
      ((promises_rebuildParameters supplies parameters (depth + 1)).part (by omega))
      fun declared _ => ?_
    refine promises_bind ((promises_rebuildAt supplies body (depth + 1)).part (by omega))
      fun inner rebuilt => ?_
    refine promises_pure ⟨?_, ?_⟩
    · have := rebuilt.levels
      rw [Expr.levels]
      omega
    · rw [Expr.nodes, List.forall_mem_cons, List.forall_mem_append]
      refine ⟨trivial, rebuilt.sourced, fun node member => ?_⟩
      obtain ⟨_, _, rfl⟩ := List.mem_map.mp member
      trivial
  | parameter header name byReference, depth => by
    unfold rebuildAt
    rw [levels]
    refine promises_bind ((promises_enter supplies _ depth).part (by omega)) fun type within => ?_
    refine promises_bind (promises_parameter _ _ _) fun made _ => promises_pure ⟨?_, ?_⟩
    · rw [Expr.levels]
      omega
    · rw [Expr.nodes, List.forall_mem_singleton]
      trivial
  | binary header left right conversion method, depth => by
    unfold rebuildAt
    rw [levels]
    refine promises_bind ((promises_enter supplies _ depth).part (by omega)) fun type within => ?_
    split
    · exact promises_throw fun deep => nomatch deep
    · refine promises_bind
        ((promises_rebuildOption supplies conversion (depth + 1)).part (by omega))
        fun converter converted => ?_
      refine promises_bind (promises_checkConversion converter).shallow fun _ _ => ?_
      refine promises_bind ((promises_rebuildAt supplies left (depth + 1)).part (by omega))
        fun first lefts => ?_
      refine promises_bind ((promises_rebuildAt supplies right (depth + 1)).part (by omega))
        fun second rights => ?_
      refine promises_bind (promises_method? supplies method).shallow fun handle embodied => ?_
      refine promises_pure ⟨?_, ?_⟩
      · have := lefts.levels
        have := rights.levels
        have := converted.levels
        rw [Expr.levels]
        omega
      · rw [Expr.nodes, List.forall_mem_cons, List.forall_mem_append, List.forall_mem_append]
        exact ⟨embodied, ⟨lefts.sourced, rights.sourced⟩, converted.sourced⟩
  | member header target read, depth => by
    unfold rebuildAt
    rw [levels]
    refine promises_bind ((promises_enter supplies _ depth).part (by omega)) fun type within => ?_
    refine promises_bind ((promises_rebuildAt supplies target (depth + 1)).part (by omega))
      fun source targets => ?_
    refine promises_bind (promises_onTable (promises_resolveMember supplies read)).shallow
      fun handle found => promises_pure ⟨?_, ?_⟩
    · have := targets.levels
      rw [Expr.levels]
      omega
    · rw [Expr.nodes, List.forall_mem_cons]
      exact ⟨found, targets.sourced⟩
  | constant header document, depth => by
    unfold rebuildAt
    rw [levels]
    refine promises_bind ((promises_enter supplies _ depth).part (by omega)) fun type within => ?_
    refine promises_bind
      (promises_onTable (promises_lift (Value.ofLiteral_plain type document))).shallow
      fun value plain => promises_pure ⟨?_, ?_⟩
    · rw [Expr.levels]
      omega
    · rw [Expr.nodes, List.forall_mem_singleton]
      exact plain
  | call header target method arguments, depth => by
    unfold rebuildAt
    rw [levels]
    refine promises_bind ((promises_enter supplies _ depth).part (by omega)) fun type within => ?_
    refine promises_bind ((promises_rebuildOption supplies target (depth + 1)).part (by omega))
      fun source targets => ?_
    refine promises_bind (promises_onTable (promises_resolveMethod supplies method)).shallow
      fun handle embodied => ?_
    refine promises_bind ((promises_rebuildAll supplies arguments (depth + 1)).part (by omega))
      fun others rests => ?_
    refine promises_pure ⟨?_, ?_⟩
    · have := targets.levels
      have := rests.levels
      rw [Expr.levels]
      omega
    · rw [Expr.nodes, List.forall_mem_cons, List.forall_mem_append]
      exact ⟨embodied, targets.sourced, rests.sourced⟩
  | construct header constructor arguments, depth => by
    unfold rebuildAt
    rw [levels]
    refine promises_bind ((promises_enter supplies _ depth).part (by omega)) fun type within => ?_
    refine promises_bind (promises_onTable (promises_resolveConstructor supplies constructor)).shallow
      fun handle filed => ?_
    refine promises_bind ((promises_rebuildAll supplies arguments (depth + 1)).part (by omega))
      fun others rests => ?_
    refine promises_pure ⟨?_, ?_⟩
    · have := rests.levels
      rw [Expr.levels]
      omega
    · rw [Expr.nodes, List.forall_mem_cons]
      exact ⟨filed, rests.sourced⟩
  | arrayInit header element elements, depth => by
    unfold rebuildAt
    rw [levels]
    refine promises_bind ((promises_enter supplies _ depth).part (by omega)) fun type within => ?_
    refine promises_bind (promises_onTable (promises_resolve supplies element)).shallow
      fun item _ => ?_
    refine promises_bind (promises_checkArray type item).shallow fun _ _ => ?_
    refine promises_bind ((promises_rebuildAll supplies elements (depth + 1)).part (by omega))
      fun others rests => ?_
    refine promises_pure ⟨?_, ?_⟩
    · have := rests.levels
      rw [Expr.levels]
      omega
    · rw [Expr.nodes, List.forall_mem_cons]
      exact ⟨trivial, rests.sourced⟩

theorem promises_rebuildAll (supplies : catalog.Supplies holds) :
    ∀ (members : List Node) (depth : Nat),
    Promises (Rebuild.Supplied catalog holds limit) (rebuildAll members depth)
      (fun expressions =>
        Rebuilt catalog holds limit depth (Expr.levelsAll expressions) (Expr.nodesAll expressions))
      fun error => error.IsDepth → limit + 1 < depth + levelsAll members
  | [], depth => by
    unfold rebuildAll
    exact promises_pure ⟨Nat.zero_le _, fun _ member => nomatch member⟩
  | node :: rest, depth => by
    unfold rebuildAll
    rw [levelsAll]
    refine promises_bind ((promises_rebuildAt supplies node depth).part (by omega))
      fun expression rebuilt => ?_
    refine promises_bind ((promises_rebuildAll supplies rest depth).part (by omega))
      fun others rests => ?_
    refine promises_pure ⟨?_, ?_⟩
    · rw [Expr.levelsAll]
      exact Nat.max_le.mpr ⟨rebuilt.levels, rests.levels⟩
    · rw [Expr.nodesAll, List.forall_mem_append]
      exact ⟨rebuilt.sourced, rests.sourced⟩

theorem promises_rebuildParameters (supplies : catalog.Supplies holds) :
    ∀ (members : List Node) (depth : Nat),
    Promises (Rebuild.Supplied catalog holds limit) (rebuildParameters members depth)
      (fun _ => True) fun error => error.IsDepth → limit + 1 < depth + levelsAll members
  | [], depth => by
    unfold rebuildParameters
    exact promises_pure trivial
  | node :: rest, depth => by
    unfold rebuildParameters
    rw [levelsAll]
    refine promises_bind ((promises_rebuildAt supplies node depth).part (by omega))
      fun expression _ => ?_
    refine promises_bind (promises_declaredParameter expression).shallow fun declared _ => ?_
    exact promises_bind ((promises_rebuildParameters supplies rest depth).part (by omega))
      fun _ _ => promises_pure trivial

theorem promises_rebuildOption (supplies : catalog.Supplies holds) :
    ∀ (node : Option Node) (depth : Nat),
    Promises (Rebuild.Supplied catalog holds limit) (rebuildOption node depth)
      (fun expression => Rebuilt catalog holds limit depth (Expr.levelsOption expression)
        (Expr.nodesOption expression))
      fun error => error.IsDepth → limit + 1 < depth + levelsOption node
  | none, depth => by
    unfold rebuildOption
    exact promises_pure ⟨Nat.zero_le _, fun _ member => nomatch member⟩
  | some node, depth => by
    unfold rebuildOption
    rw [levelsOption]
    refine promises_bind (promises_rebuildAt supplies node depth) fun expression rebuilt =>
      promises_pure ?_
    rw [Expr.levelsOption, Expr.nodesOption]
    exact rebuilt

end

end Node

/-! ### Receiving -/

section

variable {catalog : Catalog} {holds : DataType → Prop}

theorem TypeTable.promises_loadEntries (entries : List TypeEntry) :
    Promises (TypeTable.Supplied catalog holds) (loadEntries entries) (fun _ => True)
      fun _ => True := by
  induction entries with
  | nil => exact promises_pure trivial
  | cons entry rest inductionHypothesis =>
    unfold loadEntries
    refine promises_get fun table _ => promises_check (fun _ => trivial) fun _ => ?_
    refine promises_bind (promises_modify fun _ supplied => ?_) fun _ _ => inductionHypothesis
    exact ⟨supplied.catalog, supplied.noted⟩

/-- Nothing has been noted in the table of a packet. -/
theorem TypeTable.supplied_ofEntries {source : Nat → UInt32} {entries : List TypeEntry}
    {table : TypeTable} (made : ofEntries catalog source entries = .ok table) :
    table.Supplied catalog holds := by
  have loads : Promises (TypeTable.Supplied catalog holds) (TypeTable.load entries)
      (fun _ => True) fun _ => True := by
    unfold TypeTable.load
    refine promises_bind (promises_loadEntries entries) fun _ _ => promises_get fun table _ => ?_
    split
    · exact promises_throw trivial
    · exact promises_pure trivial
  have start : (empty catalog source).Supplied catalog holds := ⟨rfl, List.forall_mem_nil _⟩
  unfold ofEntries at made
  split at made
  · rename_i ran
    cases made
    exact (loads.run start ran).1
  · cases made

/-- What a packet is received as has been rebuilt from its tree, over a table that starts with its
entries. -/
theorem Serializer.exists_rebuild {serializer : Serializer} {scope : Nat} {packet : Packet}
    {expression : Expr} (received : serializer.deserializeExpr scope packet = .ok expression) :
    ∃ text node table final, Node.read? text = some node ∧
      ofEntries serializer.catalog (fun _ => 0) packet.types = .ok table ∧
      node.rebuild.run (Rebuild.start table scope serializer.settings.maxDepth) =
        (.ok expression, final) := by
  unfold deserializeExpr at received
  obtain ⟨⟨node, table⟩, loaded, received⟩ := bind_eq_ok received
  unfold Packet.load at loaded
  obtain ⟨table, made, loaded⟩ := bind_eq_ok loaded
  obtain ⟨text, _, loaded⟩ := bind_eq_ok loaded
  split at loaded
  · rename_i read
    cases loaded
    exact ⟨text, node, table, _, read, made, Prod.ext received rfl⟩
  · cases loaded

/-- The expression of a packet stays within the limit of the receiver and has its parts from the
catalog there. Nothing is asked of the packet but that it was received. -/
theorem Serializer.rebuilt_deserializeExpr {serializer : Serializer} {scope : Nat} {packet : Packet}
    {expression : Expr} (supplies : serializer.catalog.Supplies holds)
    (received : serializer.deserializeExpr scope packet = .ok expression) :
    Expr.Rebuilt serializer.catalog holds serializer.settings.maxDepth 0 expression.levels
      expression.nodes := by
  obtain ⟨_, node, table, _, _, made, ran⟩ := exists_rebuild received
  have start : (Rebuild.start table scope serializer.settings.maxDepth).Supplied
      serializer.catalog holds serializer.settings.maxDepth := ⟨supplied_ofEntries made, rfl⟩
  exact ((Node.promises_rebuildAt supplies node 0).run start ran).2

end

end PredicateWire
