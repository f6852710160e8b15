/-
This file says what rebuilding does to a type table. It looks for keys and does nothing
else, so what the search for a key keeps is kept, also by a tree that is not rebuilt to
the end. A table is never mistaken about the names that its catalog knows. Hence a
method whose types go by such names is received in the middle of a tree as if the table
were fresh.

In the middle of a tree a table has been searched before, for keys that a packet may
have chosen, and some of the searches may have failed. What was noted then could be
wrong about names that the catalog does not know, but not about those that it knows. The
lemmas are stated for any property of tables that the search for a key keeps, and the
induction over trees is done once for all of them.
-/
import PredicateWire.Proofs.Table.Asked
import PredicateWire.Proofs.Table.Certain
import PredicateWire.Proofs.Wire.Rebuilding
import PredicateWire.Proofs.Wire.Sources

namespace PredicateWire

open Running TypeTable

/-! ### Work that keeps a property -/

/-- Work keeps a property of states, whether or not it succeeds. -/
abbrev Keeps {State Content : Type} (kept : State → Prop)
    (work : ExceptT Error (StateM State) Content) : Prop :=
  Promises kept work (fun _ => True) fun _ => True

section

variable {State First Second : Type} {kept : State → Prop}

theorem Promises.keeps {work : ExceptT Error (StateM State) First} {wanted : First → Prop}
    {expected : Error → Prop} (promises : Promises kept work wanted expected) : Keeps kept work :=
  promises.weaken (fun _ _ => trivial) fun _ _ => trivial

/-- Work that keeps a property anyway promises something on a condition if it does where the
condition holds. -/
theorem Promises.when {work : ExceptT Error (StateM State) First} {condition : Prop}
    {wanted : First → Prop} (keeps : Keeps kept work)
    (promises : condition → Promises kept work wanted fun _ => True) :
    Promises kept work (fun content => condition → wanted content) fun _ => True := by
  by_cases holds : condition
  · exact (promises holds).weaken (fun _ meets _ => meets) fun _ => id
  · exact keeps.weaken (fun _ _ fails => absurd fails holds) fun _ => id

theorem keeps_pure (content : First) :
    Keeps kept (pure content : ExceptT Error (StateM State) First) :=
  promises_pure trivial

theorem keeps_throw (error : Error) :
    Keeps kept (throw error : ExceptT Error (StateM State) First) :=
  promises_throw trivial

theorem keeps_bind {work : ExceptT Error (StateM State) First}
    {next : First → ExceptT Error (StateM State) Second} (first : Keeps kept work)
    (second : ∀ content, Keeps kept (next content)) : Keeps kept (work >>= next) :=
  promises_bind first fun content _ => second content

end

/-! ### Tables in which keys are looked for -/

section

variable {kept : TypeTable → Prop} (keeps : ∀ key, Keeps kept (TypeTable.resolve key))

include keeps

theorem keeps_resolveAll (keys : List TypeKey) : Keeps kept (resolveAll keys) :=
  (promises_mapM fun key _ => keeps key).keeps

theorem keeps_method (reference : MethodReference) : Keeps kept reference.resolve := by
  unfold MethodReference.resolve
  refine keeps_bind (keeps _) fun declaring => ?_
  refine keeps_bind (keeps_resolveAll keeps _) fun parameters => ?_
  refine promises_get fun table _ => ?_
  refine keeps_bind (promises_only _ _ _ _).keeps fun definition => ?_
  dsimp only
  split
  · exact keeps_pure _
  · refine keeps_bind (keeps_resolveAll keeps _) fun arguments => ?_
    exact promises_lift (meets_true _)

theorem keeps_constructor (reference : ConstructorReference) : Keeps kept reference.resolve := by
  unfold ConstructorReference.resolve
  refine keeps_bind (keeps _) fun declaring => ?_
  refine keeps_bind (keeps_resolveAll keeps _) fun parameters => ?_
  exact promises_get fun table _ => (promises_only _ _ _ _).keeps

theorem keeps_member (reference : MemberReference) : Keeps kept reference.resolve := by
  unfold MemberReference.resolve
  refine keeps_bind (keeps _) fun declaring => promises_get fun table _ => ?_
  split
  · exact keeps_pure _
  · exact keeps_throw _

end

/-! ### Methods in the course of searches -/

section

variable {base : TypeTable} {image : DataType → DataType}

theorem promises_resolveAll_told (sound : base.Sound) {types : List DataType}
    (knows : ∀ type ∈ types, base.Knows type)
    (told : ∀ type ∈ types, Told base type.canonicalName (image type)) :
    Promises (Certain base) (resolveAll (types.map base.keyFor)) (· = types.map image)
      fun _ => True := by
  unfold resolveAll
  induction types with
  | nil => exact promises_pure rfl
  | cons type rest inductionHypothesis =>
    rw [List.forall_mem_cons] at knows told
    rw [List.map_cons, List.mapM_cons]
    refine promises_bind (promises_resolve_told sound knows.1 told.1) fun _ same => ?_
    refine promises_bind (inductionHypothesis knows.2 told.2) fun _ others => ?_
    exact promises_pure (by rw [same, others, List.map_cons])

/-- An outcome yields what it yields. -/
theorem meets_self {Fault Content : Type} (outcome : Except Fault Content) :
    Meets (fun content => outcome = .ok content) (fun _ => True) outcome := by
  cases outcome with
  | ok content => rfl
  | error fault => trivial

theorem promises_only_single {Candidate : Type} {kept : TypeTable → Prop} (declaring : DataType)
    (name : String) (parameters : List DataType) (candidates : List Candidate) :
    Promises kept (only declaring.canonicalName name parameters candidates)
      (fun found => Catalog.single declaring name parameters candidates = .ok found)
      fun _ => True := by
  rcases candidates with _ | ⟨candidate, _ | ⟨second, rest⟩⟩
  · exact promises_throw trivial
  · exact promises_pure rfl
  · exact promises_throw trivial

/-- A method whose types go by names that the catalog knows is received, if it is received, as what
the catalog has for it, however the search for other types has gone. -/
theorem promises_method_told (sound : base.Sound) {method : Method}
    (knows : ∀ type ∈ method.types, base.Knows type)
    (told : ∀ type ∈ method.types, Told base type.canonicalName (image type)) :
    Promises (Certain base) (MethodReference.to base.keyFor method).resolve
      (fun handle => base.catalog.receivedMethod image method = .ok handle) fun _ => True := by
  rw [Method.types, List.forall_mem_cons, List.forall_mem_append] at knows told
  unfold MethodReference.resolve
  refine promises_bind (promises_resolve_told sound knows.1 told.1) fun declaring same => ?_
  subst same
  refine promises_bind (promises_resolveAll_told sound knows.2.1 told.2.1) fun parameters same => ?_
  subst same
  refine promises_get fun table certain => ?_
  have catalog : table.catalog = base.catalog := by
    obtain ⟨found, rfl, _⟩ := certain
    rfl
  rw [catalog, Reception.arity_to]
  refine promises_bind (promises_only_single _ _ _ _) fun definition alone => ?_
  have received : base.catalog.receivedMethod image method =
      if method.genericArity = 0 then .ok (definition.closeOver (image method.declaringType))
      else (definition.closeOver (image method.declaringType)).makeGeneric
        (method.genericArguments.map image) := by
    unfold Catalog.receivedMethod Catalog.methodFor
    rw [show Catalog.single _ method.name _ (List.filter _ (Catalog.overloads _ _ method.name)) =
      .ok definition from alone]
    rfl
  rw [received]
  dsimp only
  split
  · exact promises_pure rfl
  · refine promises_bind (promises_resolveAll_told sound knows.2.2 told.2.2)
      fun arguments same => ?_
    subst same
    exact promises_lift (meets_self _)

end

namespace Rebuild

variable {kept : TypeTable → Prop}

/-- Work on the table promises the same where an expression is rebuilt. -/
theorem promises_table {Content : Type} {work : TableM Content} {wanted : Content → Prop}
    {expected : Error → Prop} (promises : Promises kept work wanted expected) :
    Promises (fun rebuild : Rebuild => kept rebuild.table) (onTable work) wanted expected := by
  refine ⟨fun {rebuild outcome final} good ran => ?_⟩
  have shown : (onTable work).run rebuild =
      ((work.run rebuild.table).1, { rebuild with table := (work.run rebuild.table).2 }) := rfl
  rw [shown] at ran
  cases ran
  exact promises.run good rfl

theorem keeps_parameter (type : DataType) (name : String) (byReference : Bool) :
    Keeps (fun rebuild => kept rebuild.table) (parameter type name byReference) := by
  unfold parameter
  refine promises_get fun rebuild good => ?_
  split
  · exact keeps_pure _
  · refine ⟨fun _ ran => ?_⟩
    cases ran
    exact ⟨good, trivial⟩

variable (keeps : ∀ key, Keeps kept (TypeTable.resolve key))

include keeps

theorem keeps_method? (method : Option MethodReference) :
    Keeps (fun rebuild => kept rebuild.table) (method? method) := by
  cases method with
  | none => exact keeps_pure _
  | some reference =>
    exact keeps_bind (promises_table (keeps_method keeps reference)) fun _ => keeps_pure _

end Rebuild

namespace Node

open Rebuild

variable {kept : TypeTable → Prop}

/-- A node is entered by finding the key of its type. -/
theorem promises_enter_resolve {wanted : DataType → Prop} {node : Node} (depth : Nat)
    (finds : Promises kept (TypeTable.resolve node.header.resultType) wanted fun _ => True) :
    Promises (fun rebuild => kept rebuild.table) (node.enter depth) wanted fun _ => True := by
  unfold enter
  refine promises_get fun rebuild _ => ?_
  refine promises_check (fun _ => trivial) fun _ => ?_
  exact promises_check (fun _ => trivial) fun _ => promises_table finds

theorem keeps_enter (keeps : ∀ key, Keeps kept (TypeTable.resolve key)) (node : Node)
    (depth : Nat) :
    Keeps (fun rebuild => kept rebuild.table) (node.enter depth) :=
  promises_enter_resolve depth (keeps _)

mutual

/-- What the search for a key keeps is kept where a node is rebuilt, whether or not it is rebuilt to
the end. -/
theorem keeps_rebuildAt (keeps : ∀ key, Keeps kept (TypeTable.resolve key)) :
    ∀ (node : Node) (depth : Nat),
      Keeps (fun rebuild => kept rebuild.table) (rebuildAt node depth)
  | .lambda header body parameters name tailCall, depth => by
    unfold rebuildAt
    refine keeps_bind (keeps_enter keeps _ depth) fun type => ?_
    refine keeps_bind (keeps_rebuildParameters keeps parameters (depth + 1)) fun declared => ?_
    exact keeps_bind (keeps_rebuildAt keeps body (depth + 1)) fun inner => keeps_pure _
  | .parameter header name byReference, depth => by
    unfold rebuildAt
    refine keeps_bind (keeps_enter keeps _ depth) fun type => ?_
    exact keeps_bind (keeps_parameter type name byReference) fun made => keeps_pure _
  | .binary header left right conversion method, depth => by
    unfold rebuildAt
    refine keeps_bind (keeps_enter keeps _ depth) fun type => ?_
    split
    · exact keeps_throw _
    · refine keeps_bind (keeps_rebuildOption keeps conversion (depth + 1)) fun converter => ?_
      refine keeps_bind (promises_checkConversion converter).keeps fun _ => ?_
      refine keeps_bind (keeps_rebuildAt keeps left (depth + 1)) fun first => ?_
      refine keeps_bind (keeps_rebuildAt keeps right (depth + 1)) fun second => ?_
      exact keeps_bind (keeps_method? keeps method) fun handle => keeps_pure _
  | .member header target read, depth => by
    unfold rebuildAt
    refine keeps_bind (keeps_enter keeps _ depth) fun type => ?_
    refine keeps_bind (keeps_rebuildAt keeps target (depth + 1)) fun source => ?_
    exact keeps_bind (promises_table (keeps_member keeps read)) fun handle => keeps_pure _
  | .constant header document, depth => by
    unfold rebuildAt
    refine keeps_bind (keeps_enter keeps _ depth) fun type => ?_
    exact keeps_bind (promises_table (promises_lift (meets_true _))) fun value => keeps_pure _
  | .call header target method arguments, depth => by
    unfold rebuildAt
    refine keeps_bind (keeps_enter keeps _ depth) fun type => ?_
    refine keeps_bind (keeps_rebuildOption keeps target (depth + 1)) fun source => ?_
    refine keeps_bind (promises_table (keeps_method keeps method)) fun handle => ?_
    exact keeps_bind (keeps_rebuildAll keeps arguments (depth + 1)) fun others => keeps_pure _
  | .construct header constructor arguments, depth => by
    unfold rebuildAt
    refine keeps_bind (keeps_enter keeps _ depth) fun type => ?_
    refine keeps_bind (promises_table (keeps_constructor keeps constructor)) fun handle => ?_
    exact keeps_bind (keeps_rebuildAll keeps arguments (depth + 1)) fun others => keeps_pure _
  | .arrayInit header element elements, depth => by
    unfold rebuildAt
    refine keeps_bind (keeps_enter keeps _ depth) fun type => ?_
    refine keeps_bind (promises_table (keeps element)) fun item => ?_
    refine keeps_bind (promises_checkArray type item).keeps fun _ => ?_
    exact keeps_bind (keeps_rebuildAll keeps elements (depth + 1)) fun others => keeps_pure _

theorem keeps_rebuildAll (keeps : ∀ key, Keeps kept (TypeTable.resolve key)) :
    ∀ (nodes : List Node) (depth : Nat),
      Keeps (fun rebuild => kept rebuild.table) (rebuildAll nodes depth)
  | [], depth => by
    unfold rebuildAll
    exact keeps_pure _
  | node :: rest, depth => by
    unfold rebuildAll
    refine keeps_bind (keeps_rebuildAt keeps node depth) fun expression => ?_
    exact keeps_bind (keeps_rebuildAll keeps rest depth) fun others => keeps_pure _

theorem keeps_rebuildParameters (keeps : ∀ key, Keeps kept (TypeTable.resolve key)) :
    ∀ (nodes : List Node) (depth : Nat),
      Keeps (fun rebuild => kept rebuild.table) (rebuildParameters nodes depth)
  | [], depth => by
    unfold rebuildParameters
    exact keeps_pure _
  | node :: rest, depth => by
    unfold rebuildParameters
    refine keeps_bind (keeps_rebuildAt keeps node depth) fun expression => ?_
    refine keeps_bind (promises_declaredParameter expression).keeps fun declared => ?_
    exact keeps_bind (keeps_rebuildParameters keeps rest depth) fun others => keeps_pure _

theorem keeps_rebuildOption (keeps : ∀ key, Keeps kept (TypeTable.resolve key)) :
    ∀ (node : Option Node) (depth : Nat),
      Keeps (fun rebuild => kept rebuild.table) (rebuildOption node depth)
  | none, depth => by
    unfold rebuildOption
    exact keeps_pure _
  | some node, depth => by
    unfold rebuildOption
    exact keeps_bind (keeps_rebuildAt keeps node depth) fun expression => keeps_pure _

end

end Node

end PredicateWire
