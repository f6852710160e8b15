/-
This file proves that packing types and references to closed handles has one way to
fail: the search for a fresh key is given up. Keys are drawn from a source that may
repeat itself, and after a number of attempts the search stops. A sender whose keys
suffice packs them all.

`KeysSuffice` is therefore the only hypothesis on the source of keys that the results
about packing need. It is about the work at hand, in the table at hand, and can be
decided by running the work, so that nothing has to be said about chance. Whatever else
can go wrong when an expression is packed, such as an open method or a private member,
is a property of the expression and shows up in the theorems that exclude it.
-/
import PredicateWire.Proofs.Contracts
import PredicateWire.Table.Reference

namespace PredicateWire

/-- The error says that the search for a fresh key was given up. -/
def Error.IsCollision (error : Error) : Prop :=
  error.kind = .keyCollision

namespace TypeTable

/-- The work is not stopped for want of a fresh key. -/
def KeysSuffice {Content : Type} (work : TableM Content) (table : TypeTable) : Prop :=
  ∀ error, (work.run table).1 = .error error → ¬error.IsCollision

instance decidableKeysSuffice {Content : Type} (work : TableM Content) (table : TypeTable) :
    Decidable (KeysSuffice work table) :=
  match ran : (work.run table).1 with
  | .ok _ => .isTrue fun _ failed => nomatch ran.symm.trans failed
  | .error error =>
    if collides : error.kind = .keyCollision then .isFalse fun suffice => suffice error ran collides
    else .isTrue fun _ failed => Except.error.inj (ran.symm.trans failed) ▸ collides

/-- Work on a table that fails only for want of a fresh key. -/
abbrev OnlyCollides {Content : Type} (work : TableM Content) : Prop :=
  Promises (fun _ => True) work (fun _ => True) Error.IsCollision

/-- Such work succeeds when the keys suffice. -/
theorem OnlyCollides.succeeds {Content : Type} {work : TableM Content} {table : TypeTable}
    (collides : OnlyCollides work) (suffice : KeysSuffice work table) :
    ∃ content final, work.run table = (.ok content, final) := by
  rcases ran : work.run table with ⟨error | content, final⟩
  · have reason : error.IsCollision := (collides.run trivial ran).2
    exact absurd reason (suffice error (by rw [ran]))
  · exact ⟨content, final, rfl⟩

/-! ### Packing types -/

/-- Drawing a key fails only when the attempts are used up. -/
theorem drawKey_collides (attempts : Nat) : OnlyCollides (drawKey attempts) := by
  induction attempts with
  | zero => exact promises_throw rfl
  | succ attempts inductionHypothesis =>
    unfold drawKey
    refine promises_get fun table _ => ?_
    have counted : OnlyCollides (set { table with drawn := table.drawn + 1 }) :=
      promises_modify fun _ _ => trivial
    refine promises_bind counted fun _ _ => ?_
    split
    · exact inductionHypothesis
    · exact promises_pure trivial

/-- A type is entered unless a fresh key is wanted and not found. -/
theorem enter_collides (type : DataType) : OnlyCollides (enter type) := by
  unfold enter
  refine promises_get fun table _ => ?_
  split
  · exact promises_pure trivial
  · refine promises_bind (drawKey_collides _) fun key _ => ?_
    exact promises_bind (promises_modify fun _ _ => trivial) fun _ _ => promises_pure trivial

theorem capture_collides (key : TypeKey) {fields : TableM (List FieldEntry)}
    (collides : OnlyCollides fields) : OnlyCollides (capture key fields) := by
  unfold capture
  refine promises_get fun table _ => ?_
  split
  · exact promises_pure trivial
  · refine promises_bind (promises_modify fun _ _ => trivial) fun _ _ => ?_
    exact promises_bind collides fun _ _ => promises_modify fun _ _ => trivial

mutual

/-- Packing a type fails only for want of a fresh key. -/
theorem pack_collides (structural : Bool) : ∀ type : DataType, OnlyCollides (pack structural type)
  | .array element => by
    unfold pack
    refine promises_bind (enter_collides _) fun key _ => ?_
    split
    · exact promises_bind (pack_collides structural element) fun _ _ => promises_pure trivial
    · exact promises_pure trivial
  | .generic name family arguments => by
    unfold pack
    refine promises_bind (enter_collides _) fun key _ => ?_
    refine promises_bind (packArguments_collides structural arguments) fun _ _ => ?_
    split
    · exact promises_bind (capture_collides key (promises_pure trivial)) fun _ _ =>
        promises_pure trivial
    · exact promises_pure trivial
  | .record name fields captured => by
    unfold pack
    refine promises_bind (enter_collides _) fun key _ => ?_
    split
    · exact promises_bind (capture_collides key (packFields_collides fields)) fun _ _ =>
        promises_pure trivial
    · exact promises_pure trivial
  | .primitive kind => by
    unfold pack
    exact enter_collides _
  | .object => by
    unfold pack
    exact enter_collides _
  | .holder name => by
    unfold pack
    exact enter_collides _
  | .parameter owner position => by
    unfold pack
    exact enter_collides _

theorem packArguments_collides (structural : Bool) : ∀ types : List DataType,
    OnlyCollides (packArguments structural types)
  | [] => by
    unfold packArguments
    exact promises_pure trivial
  | type :: rest => by
    unfold packArguments
    split
    · exact promises_bind (pack_collides structural type) fun _ _ =>
        packArguments_collides structural rest
    · exact packArguments_collides structural rest

theorem packFields_collides : ∀ fields : List (Field DataType), OnlyCollides (packFields fields)
  | [] => by
    unfold packFields
    exact promises_pure trivial
  | ⟨name, type, isPublic⟩ :: rest => by
    unfold packFields
    exact promises_bind (pack_collides true type) fun _ _ =>
      promises_bind (packFields_collides rest) fun _ _ => promises_pure trivial

end

theorem packAll_collides (types : List DataType) : OnlyCollides (packAll types) :=
  (promises_mapM fun type _ => pack_collides false type).weaken (fun _ _ => trivial) fun _ => id

end TypeTable

/-! ### Packing references -/

open TypeTable

/-- A method that is not open is packed. -/
theorem MethodReference.pack_collides {method : Method}
    (closed : method.isGenericDefinition = false) : OnlyCollides (MethodReference.pack method) := by
  unfold MethodReference.pack
  refine promises_check (fun isOpen => ?_) fun _ => ?_
  · rw [closed] at isOpen
    cases isOpen
  · refine promises_bind (TypeTable.pack_collides false _) fun _ _ => ?_
    refine promises_bind (packAll_collides _) fun _ _ => ?_
    exact promises_bind (packAll_collides _) fun _ _ => promises_pure trivial

theorem ConstructorReference.pack_collides (constructor : Constructor) :
    OnlyCollides (ConstructorReference.pack constructor) := by
  unfold ConstructorReference.pack
  refine promises_bind (TypeTable.pack_collides false _) fun _ _ => ?_
  exact promises_bind (packAll_collides _) fun _ _ => promises_pure trivial

end PredicateWire
