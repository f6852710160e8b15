/-
This file says exactly which expressions can be packed. Every refusal is due to one node
at its place in the tree: it stands too deep, it has no form on the wire, or it holds a
private member or a constant that cannot be written. Packing checks all places, lambda
parameters and conversions among them, and nothing else can go wrong but the search for
fresh keys. If nothing but private members stands in the way, the error names one.

The order of the checks decides which error is reported when there are several reasons,
and it is left open: an error is due to one of the places, and only for private members
does the place determine the error. Work for a part of the tree `Answers` for the places
of the part when it succeeds, and for all places of the whole when it fails, so that the
lemma for a whole node can be put together from those for its parts.
-/
import PredicateWire.Proofs.Table.Exhaustion
import PredicateWire.Proofs.Value.Written
import PredicateWire.Proofs.Wire.Keeping

namespace PredicateWire

/-! ### Places -/

namespace Expr

mutual

/-- The nodes of an expression that stands at a depth, each with its own depth. -/
def places : Expr → Nat → List (Nat × Expr)
  | lambda type parameters body name tailCall, depth =>
    (depth, lambda type parameters body name tailCall) ::
      (places body (depth + 1) ++ parameters.map fun declared => (depth + 1, parameter declared))
  | parameter referenced, depth => [(depth, parameter referenced)]
  | binary operator type left right method conversion, depth =>
    (depth, binary operator type left right method conversion) ::
      (places left (depth + 1) ++ places right (depth + 1) ++ placesOption conversion (depth + 1))
  | member target read, depth => (depth, member target read) :: places target (depth + 1)
  | constant value type, depth => [(depth, constant value type)]
  | call target method arguments, depth =>
    (depth, call target method arguments) ::
      (placesOption target (depth + 1) ++ placesAll arguments (depth + 1))
  | construct constructor arguments, depth =>
    (depth, construct constructor arguments) :: placesAll arguments (depth + 1)
  | arrayInit type elements, depth =>
    (depth, arrayInit type elements) :: placesAll elements (depth + 1)
  | unary operator type operand, depth =>
    (depth, unary operator type operand) :: places operand (depth + 1)

/-- The nodes of several expressions with their depths. -/
def placesAll : List Expr → Nat → List (Nat × Expr)
  | [], _ => []
  | expression :: rest, depth => places expression depth ++ placesAll rest depth

/-- The nodes of an expression that may be absent, with their depths. -/
def placesOption : Option Expr → Nat → List (Nat × Expr)
  | none, _ => []
  | some expression, depth => places expression depth

end

mutual

/-- Every node has its place. -/
theorem map_snd_places : ∀ (expression : Expr) (depth : Nat),
    (expression.places depth).map Prod.snd = expression.nodes
  | lambda type parameters body name tailCall, depth => by
    rw [places, nodes, List.map_cons, List.map_append, map_snd_places body, List.map_map]
    rfl
  | parameter referenced, depth => by
    rw [places, nodes, List.map_singleton]
  | binary operator type left right method conversion, depth => by
    rw [places, nodes, List.map_cons, List.map_append, List.map_append, map_snd_places left,
      map_snd_places right, map_snd_placesOption conversion]
  | member target read, depth => by
    rw [places, nodes, List.map_cons, map_snd_places target]
  | constant value type, depth => by
    rw [places, nodes, List.map_singleton]
  | call target method arguments, depth => by
    rw [places, nodes, List.map_cons, List.map_append, map_snd_placesOption target,
      map_snd_placesAll arguments]
  | construct constructor arguments, depth => by
    rw [places, nodes, List.map_cons, map_snd_placesAll arguments]
  | arrayInit type elements, depth => by
    rw [places, nodes, List.map_cons, map_snd_placesAll elements]
  | unary operator type operand, depth => by
    rw [places, nodes, List.map_cons, map_snd_places operand]

theorem map_snd_placesAll : ∀ (expressions : List Expr) (depth : Nat),
    (placesAll expressions depth).map Prod.snd = nodesAll expressions
  | [], _ => rfl
  | expression :: rest, depth => by
    rw [placesAll, nodesAll, List.map_append, map_snd_places expression, map_snd_placesAll rest]

theorem map_snd_placesOption : ∀ (expression : Option Expr) (depth : Nat),
    (placesOption expression depth).map Prod.snd = nodesOption expression
  | none, _ => rfl
  | some expression, depth => by
    rw [placesOption, nodesOption, map_snd_places expression]

end

/-- What a node needs in order to be packed at a depth, but for what is private. -/
structure Transmissible (limit depth : Nat) (node : Expr) : Prop where
  shallow : depth ≤ limit
  operator : node.isUnary = false
  methods : ∀ method ∈ node.ownMethods, method.isGenericDefinition = false
  elements : ∀ type elements, node = arrayInit type elements → type.element?.isSome = true
  constants : ∀ constant ∈ node.ownConstant?, constant.1.HasLiteral ∧
    constant.1.fitsDepth (limit - depth) = true

/-- A node with neither methods nor elements nor a constant only has to stand at a depth within the
limit. -/
theorem transmissible_of_bare {limit depth : Nat} {node : Expr} (shallow : depth ≤ limit)
    (operator : node.isUnary = false) (methods : node.ownMethods = [])
    (elements : ∀ type elements, node ≠ arrayInit type elements)
    (constants : node.ownConstant? = none) : node.Transmissible limit depth where
  shallow := shallow
  operator := operator
  methods := by simp [methods]
  elements := fun type items same => absurd same (elements type items)
  constants := by simp [constants]

/-- The node at a place can be packed. -/
structure Accepted (limit : Nat) (place : Nat × Expr) : Prop where
  transmissible : place.2.Transmissible limit place.1
  shown : ∀ read ∈ place.2.ownMember?, read.isPublic = true

/-- The node at a place is the reason for an error. Only a private member determines the error. -/
def Blamed (limit : Nat) (place : Nat × Expr) (error : Error) : Prop :=
  ¬place.2.Transmissible limit place.1 ∨ ∃ read ∈ place.2.ownMember?, read.isPublic = false ∧
    error = .privateAccess read.declaringType.canonicalName read.name

/-- The error is a want of fresh keys, or the node at one of the places is the reason for it. -/
def Refused (limit : Nat) (places : List (Nat × Expr)) (error : Error) : Prop :=
  error.IsCollision ∨ ∃ place ∈ places, Blamed limit place error

end Expr

/-! ### Work for places -/

namespace Node

open TypeTable
open PredicateWire.Expr (Transmissible Accepted Blamed Refused places placesAll placesOption
  transmissible_of_bare)

/-- Work succeeds only if the nodes at its places can be packed, and fails only for one of the nodes
at all places, or for want of a fresh key. -/
abbrev Answers {Content : Type} (limit : Nat) (own all : List (Nat × Expr))
    (work : TableM Content) : Prop :=
  Promises (fun _ => True) work (fun _ => ∀ place ∈ own, Accepted limit place) (Refused limit all)

section

variable {Content : Type} {limit : Nat} {own all : List (Nat × Expr)}

theorem answers_of_collides {work : TableM Content} (collides : OnlyCollides work) :
    Answers limit [] all work :=
  collides.weaken (fun _ _ _ listed => nomatch listed) fun _ => .inl

/-- Work answers for all places if it answers for some of them. -/
theorem Answers.within {work : TableM Content} (answers : Answers limit own own work)
    (subset : own ⊆ all) : Answers limit own all work :=
  answers.weaken (fun _ => id) fun _ => Or.imp_right fun ⟨place, listed, blamed⟩ =>
    ⟨place, subset listed, blamed⟩

/-- A check that fails only for a node that is not transmissible. The work after it may count on the
check and answers for the other places. -/
theorem answers_check {condition : Prop} [Decidable condition] {error : Error}
    {next : PUnit → TableM Content} {place : Nat × Expr} (listed : place ∈ all)
    (refused : condition → ¬place.2.Transmissible limit place.1)
    (passed : ¬condition → Answers limit own all (next ⟨⟩)) :
    Answers limit own all (if condition then throw error >>= next else next ⟨⟩) :=
  promises_check (fun fails => .inr ⟨place, listed, .inl (refused fails)⟩) passed

/-- The check of the depth, which comes first. -/
theorem answers_depth {depth : Nat} {node : Expr} {next : PUnit → TableM Content}
    (listed : (depth, node) ∈ all) (passed : depth ≤ limit → Answers limit own all (next ⟨⟩)) :
    Answers limit own all
      (if limit < depth then throw (.depthExceeded limit) >>= next else next ⟨⟩) :=
  answers_check listed (fun deep transmissible =>
    absurd transmissible.shallow (Nat.not_le.mpr deep)) fun within => passed (Nat.not_lt.mp within)

/-- Only an open method is refused. -/
theorem packMethod_answers {method : Method} {place : Nat × Expr} (listed : place ∈ all)
    (calls : method ∈ place.2.ownMethods) :
    Promises (fun _ => True) (MethodReference.pack method)
      (fun _ => method.isGenericDefinition = false) (Refused limit all) := by
  unfold MethodReference.pack
  refine promises_check (fun isOpen => .inr ⟨place, listed, .inl fun transmissible => ?_⟩)
    fun closed => ?_
  · rw [transmissible.methods method calls] at isOpen
    cases isOpen
  · refine promises_bind (answers_of_collides (pack_collides false _)) fun _ _ => ?_
    refine promises_bind (answers_of_collides (packAll_collides _)) fun _ _ => ?_
    refine promises_bind (answers_of_collides (packAll_collides _)) fun _ _ => ?_
    exact promises_pure (Bool.eq_false_iff.mpr closed)

theorem packMethod?_answers {method : Option Method} {place : Nat × Expr} (listed : place ∈ all)
    (calls : ∀ implementation ∈ method, implementation ∈ place.2.ownMethods) :
    Promises (fun _ => True) (packMethod? method)
      (fun _ => ∀ implementation ∈ method, implementation.isGenericDefinition = false)
      (Refused limit all) := by
  cases method with
  | none => exact promises_pure nofun
  | some method =>
    refine promises_bind (packMethod_answers listed (calls method rfl)) fun _ closed => ?_
    refine promises_pure fun implementation present => ?_
    cases present
    exact closed

/-- Only a private member is refused, by its name. -/
theorem packMember_answers {read : Member} {place : Nat × Expr} (listed : place ∈ all)
    (reads : read ∈ place.2.ownMember?) :
    Promises (fun _ => True) (MemberReference.pack read) (fun _ => read.isPublic = true)
      (Refused limit all) := by
  unfold MemberReference.pack
  refine promises_check (fun hidden => .inr ⟨place, listed, .inr ⟨read, reads, ?_, rfl⟩⟩)
    fun shown => ?_
  · simpa using hidden
  · refine promises_bind (answers_of_collides (pack_collides false _)) fun _ _ => ?_
    exact promises_pure (by simpa using shown)

end

theorem packParameter_answers (limit depth : Nat) (referenced : Parameter) :
    Answers limit [(depth, .parameter referenced)] [(depth, .parameter referenced)]
      (packParameter limit depth referenced) := by
  unfold packParameter
  refine answers_depth (.head _) fun within => ?_
  refine promises_bind (answers_of_collides (pack_collides false _)) fun _ _ => promises_pure ?_
  exact List.forall_mem_singleton.mpr ⟨transmissible_of_bare within rfl rfl nofun rfl, nofun⟩

theorem packParameters_answers (limit depth : Nat) (parameters : List Parameter) :
    Answers limit (parameters.map fun declared => (depth, .parameter declared))
      (parameters.map fun declared => (depth, .parameter declared))
      (parameters.mapM (packParameter limit depth)) := by
  induction parameters with
  | nil => exact promises_pure nofun
  | cons first rest inductionHypothesis =>
    rw [List.mapM_cons, List.map_cons]
    refine promises_bind ((packParameter_answers limit depth first).within fun _ listed =>
      List.mem_singleton.mp listed ▸ .head _) fun _ firstAccepted => ?_
    refine promises_bind (inductionHypothesis.within fun _ listed => .tail _ listed)
      fun _ others => promises_pure ?_
    exact List.forall_mem_cons.mpr ⟨firstAccepted _ (.head _), others⟩

mutual

/-- Packing an expression succeeds only if every node in it can be packed, and fails only for one of
them, or for want of a fresh key. -/
theorem packAt_answers (limit : Nat) : ∀ (expression : Expr) (depth : Nat),
    Answers limit (places expression depth) (places expression depth) (packAt limit expression depth)
  | .lambda type parameters body name tailCall, depth => by
    rw [places]
    unfold packAt
    refine answers_depth (.head _) fun within => ?_
    refine promises_bind (answers_of_collides (pack_collides false type)) fun _ _ => ?_
    refine promises_bind ((packAt_answers limit body (depth + 1)).within fun _ listed =>
      .tail _ (List.mem_append_left _ listed)) fun _ inBody => ?_
    refine promises_bind ((packParameters_answers limit (depth + 1) parameters).within
      fun _ listed => .tail _ (List.mem_append_right _ listed)) fun _ inParameters => ?_
    refine promises_pure (List.forall_mem_cons.mpr
      ⟨?_, List.forall_mem_append.mpr ⟨inBody, inParameters⟩⟩)
    exact ⟨transmissible_of_bare within rfl rfl nofun rfl, nofun⟩
  | .parameter referenced, depth => by
    rw [places]
    unfold packAt
    exact answers_depth (.head _) fun within => packParameter_answers limit depth referenced
  | .binary operator type left right method conversion, depth => by
    rw [places]
    unfold packAt
    refine answers_depth (.head _) fun within => ?_
    refine promises_bind (answers_of_collides (pack_collides false type)) fun _ _ => ?_
    refine promises_bind ((packAt_answers limit left (depth + 1)).within fun _ listed =>
      .tail _ (List.mem_append_left _ (List.mem_append_left _ listed))) fun _ inLeft => ?_
    refine promises_bind ((packAt_answers limit right (depth + 1)).within fun _ listed =>
      .tail _ (List.mem_append_left _ (List.mem_append_right _ listed))) fun _ inRight => ?_
    refine promises_bind ((packOption_answers limit conversion (depth + 1)).within fun _ listed =>
      .tail _ (List.mem_append_right _ listed)) fun _ inConversion => ?_
    refine promises_bind (packMethod?_answers (.head _) fun _ => Option.mem_toList.mpr)
      fun _ closed => ?_
    refine promises_pure (List.forall_mem_cons.mpr ⟨?_, List.forall_mem_append.mpr
      ⟨List.forall_mem_append.mpr ⟨inLeft, inRight⟩, inConversion⟩⟩)
    exact ⟨⟨within, rfl, fun implementation called =>
      closed implementation (Option.mem_toList.mp called), nofun, nofun⟩, nofun⟩
  | .member target read, depth => by
    rw [places]
    unfold packAt
    refine answers_depth (.head _) fun within => ?_
    refine promises_bind (packMember_answers (.head _) rfl) fun _ shown => ?_
    refine promises_bind (answers_of_collides (pack_collides false _)) fun _ _ => ?_
    refine promises_bind ((packAt_answers limit target (depth + 1)).within fun _ listed =>
      .tail _ listed) fun _ inTarget => ?_
    refine promises_pure (List.forall_mem_cons.mpr ⟨?_, inTarget⟩)
    refine ⟨transmissible_of_bare within rfl rfl nofun rfl, fun other reads => ?_⟩
    cases reads
    exact shown
  | .constant value type, depth => by
    rw [places]
    unfold packAt
    refine answers_depth (.head _) fun within => ?_
    refine answers_check (.head _) (fun deep transmissible => ?_) fun fits => ?_
    · rw [(transmissible.constants _ rfl).2] at deep
      cases deep
    · refine promises_bind (answers_of_collides (pack_collides true type)) fun _ _ => ?_
      have written := value.literal_succeedsIff.weaken (fun _ => id) fun error unwritten =>
        (show Refused limit [(depth, .constant value type)] error from .inr ⟨_, .head _,
          .inl fun transmissible => unwritten (transmissible.constants _ rfl).1⟩)
      refine promises_bind (promises_lift written) fun _ hasLiteral => promises_pure ?_
      refine List.forall_mem_singleton.mpr ⟨⟨within, rfl, nofun, nofun, ?_⟩, nofun⟩
      intro constant own
      cases own
      exact ⟨hasLiteral, by simpa using fits⟩
  | .call target method arguments, depth => by
    rw [places]
    unfold packAt
    refine answers_depth (.head _) fun within => ?_
    refine promises_bind (answers_of_collides (pack_collides false _)) fun _ _ => ?_
    refine promises_bind ((packOption_answers limit target (depth + 1)).within fun _ listed =>
      .tail _ (List.mem_append_left _ listed)) fun _ inTarget => ?_
    refine promises_bind (packMethod_answers (.head _) (.head _)) fun _ closed => ?_
    refine promises_bind ((packAll_answers limit arguments (depth + 1)).within fun _ listed =>
      .tail _ (List.mem_append_right _ listed)) fun _ inArguments => ?_
    refine promises_pure (List.forall_mem_cons.mpr
      ⟨?_, List.forall_mem_append.mpr ⟨inTarget, inArguments⟩⟩)
    exact ⟨⟨within, rfl, List.forall_mem_singleton.mpr closed, nofun, nofun⟩, nofun⟩
  | .construct constructor arguments, depth => by
    rw [places]
    unfold packAt
    refine answers_depth (.head _) fun within => ?_
    refine promises_bind (answers_of_collides (pack_collides false _)) fun _ _ => ?_
    refine promises_bind (answers_of_collides (ConstructorReference.pack_collides constructor))
      fun _ _ => ?_
    refine promises_bind ((packAll_answers limit arguments (depth + 1)).within fun _ listed =>
      .tail _ listed) fun _ inArguments => ?_
    refine promises_pure (List.forall_mem_cons.mpr ⟨?_, inArguments⟩)
    exact ⟨transmissible_of_bare within rfl rfl nofun rfl, nofun⟩
  | .arrayInit type elements, depth => by
    rw [places]
    unfold packAt
    refine answers_depth (.head _) fun within => ?_
    dsimp only
    split
    · rename_i none
      refine promises_throw (.inr ⟨_, .head _, .inl fun transmissible => ?_⟩)
      have some := transmissible.elements type elements rfl
      rw [none] at some
      cases some
    · rename_i element some
      refine promises_bind (answers_of_collides (pack_collides false type)) fun _ _ => ?_
      refine promises_bind (answers_of_collides (pack_collides false element)) fun _ _ => ?_
      refine promises_bind ((packAll_answers limit elements (depth + 1)).within fun _ listed =>
        .tail _ listed) fun _ inElements => ?_
      refine promises_pure (List.forall_mem_cons.mpr ⟨?_, inElements⟩)
      refine ⟨⟨within, rfl, nofun, ?_, nofun⟩, nofun⟩
      intro other items same
      cases same
      rw [some, Option.isSome_some]
  | .unary operator type operand, depth => by
    rw [places]
    unfold packAt
    refine answers_depth (.head _) fun within => ?_
    exact promises_throw (.inr ⟨_, .head _, .inl fun transmissible =>
      absurd transmissible.operator Bool.noConfusion⟩)

theorem packAll_answers (limit : Nat) : ∀ (expressions : List Expr) (depth : Nat),
    Answers limit (placesAll expressions depth) (placesAll expressions depth)
      (packAll limit expressions depth)
  | [], depth => by
    unfold packAll
    exact promises_pure nofun
  | expression :: rest, depth => by
    rw [placesAll]
    unfold packAll
    refine promises_bind ((packAt_answers limit expression depth).within fun _ listed =>
      List.mem_append_left _ listed) fun _ inFirst => ?_
    refine promises_bind ((packAll_answers limit rest depth).within fun _ listed =>
      List.mem_append_right _ listed) fun _ inRest => ?_
    exact promises_pure (List.forall_mem_append.mpr ⟨inFirst, inRest⟩)

theorem packOption_answers (limit : Nat) : ∀ (expression : Option Expr) (depth : Nat),
    Answers limit (placesOption expression depth) (placesOption expression depth)
      (packOption limit expression depth)
  | none, depth => by
    unfold packOption
    exact promises_pure nofun
  | some expression, depth => by
    rw [placesOption]
    unfold packOption
    exact promises_bind (packAt_answers limit expression depth) fun _ inside =>
      promises_pure inside

end

/-- Unless fresh keys run out, an expression is packed exactly if every node in it is transmissible
where it stands and no private member is read. If nothing but private members stands in the way, the
error names one. -/
theorem pack_succeeds_iff (limit : Nat) (expression : Expr) (table : TypeTable)
    (suffice : KeysSuffice (pack limit expression) table) :
    ((∃ node, ((pack limit expression).run table).1 = .ok node) ↔
      (∀ place ∈ places expression 0, place.2.Transmissible limit place.1) ∧
        ∀ read ∈ expression.members, read.isPublic = true) ∧
    ((∀ place ∈ places expression 0, place.2.Transmissible limit place.1) →
      (∃ read ∈ expression.members, read.isPublic = false) →
      ∃ read ∈ expression.members, read.isPublic = false ∧ ((pack limit expression).run table).1 =
        .error (.privateAccess read.declaringType.canonicalName read.name)) := by
  have answers := packAt_answers limit expression 0
  have placed : ∀ read, read ∈ expression.members ↔
      ∃ place ∈ places expression 0, read ∈ place.2.ownMember? := by
    intro read
    rw [Expr.members, ← Expr.map_snd_places expression 0, List.mem_filterMap]
    simp only [List.mem_map, Option.mem_def, exists_exists_and_eq_and]
  rcases ran : (pack limit expression).run table with ⟨error | node, final⟩
  · have reason : Refused limit (places expression 0) error := (answers.run trivial ran).2
    obtain ⟨place, listed, blamed⟩ := reason.resolve_left (suffice error (by rw [ran]))
    refine ⟨⟨nofun, fun ⟨transmissible, shown⟩ => ?_⟩, fun transmissible _ => ?_⟩
    · rcases blamed with fails | ⟨read, reads, hidden, _⟩
      · exact absurd (transmissible place listed) fails
      · rw [shown read ((placed read).mpr ⟨place, listed, reads⟩)] at hidden
        cases hidden
    · obtain ⟨read, reads, hidden, rfl⟩ :=
        blamed.resolve_left (not_not.mpr (transmissible place listed))
      exact ⟨read, (placed read).mpr ⟨place, listed, reads⟩, hidden, rfl⟩
  · have accepted : ∀ place ∈ places expression 0, Accepted limit place :=
      (answers.run trivial ran).2
    have shown : ∀ read ∈ expression.members, read.isPublic = true := by
      intro read occurs
      obtain ⟨place, listed, reads⟩ := (placed read).mp occurs
      exact (accepted place listed).shown read reads
    refine ⟨iff_of_true ⟨node, rfl⟩
        ⟨fun place listed => (accepted place listed).transmissible, shown⟩,
      fun _ ⟨read, occurs, hidden⟩ => ?_⟩
    rw [shown read occurs] at hidden
    cases hidden

/-- A safe with a number that only its own process knows. -/
def safe : DataType :=
  .record "acme.Safe" [⟨"Pin", .int32, false⟩, ⟨"Owner", .string, true⟩] false

/-- The number of a safe. -/
def pin : Member :=
  ⟨safe, "Pin", .int32, .field false⟩

/-- A predicate that asks for the number of a safe. -/
def asksPin : Expr :=
  let asked : Parameter := ⟨⟨0, 0⟩, "safe", safe, false⟩
  .lambda (.generic "sys.Func`2" .function [safe, .bool]) [asked]
    (.binary .equal .bool (.member (.parameter asked) pin) (.constant (.int32 7) .int32) none none)
    none false

theorem pack_succeeds_iff_pin : ((pack 3 asksPin).run (TypeTable.empty .empty UInt32.ofNat)).1 =
    .error (.privateAccess "acme.Safe" "Pin") := by
  have suffice : KeysSuffice (pack 3 asksPin) (TypeTable.empty .empty UInt32.ofNat) := by
    decide +kernel
  have sevenLiteral : (Value.int32 7).HasLiteral := ⟨.int32 7, List.forall_mem_nil _⟩
  have transmissible : ∀ place ∈ places asksPin 0, place.2.Transmissible 3 place.1 := by
    simp only [asksPin, places, Expr.placesOption, List.map_cons, List.map_nil, List.cons_append,
      List.nil_append, List.append_nil, List.forall_mem_cons]
    refine ⟨?_, ?_, ?_, ?_, ?constant, ?_, List.forall_mem_nil _⟩
    case constant =>
      refine ⟨by decide, rfl, List.forall_mem_nil _, by simp, ?_⟩
      rintro constant ⟨rfl⟩
      exact ⟨sevenLiteral, rfl⟩
    all_goals exact transmissible_of_bare (by decide) rfl rfl (by simp) rfl
  have reads : asksPin.members = [pin] := rfl
  obtain ⟨read, occurs, _, failed⟩ := (pack_succeeds_iff 3 asksPin _ suffice).2 transmissible
    ⟨pin, by rw [reads]; exact .head _, rfl⟩
  rw [reads] at occurs
  cases List.mem_singleton.mp occurs
  exact failed

end Node

end PredicateWire
