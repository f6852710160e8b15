/-
This file proves what packing an expression yields: the tree `Expr.node`, in which every
type is spoken of by the key of its name, and a table that knows these names. The tree
is a function of the expression and the keys, so everything else about trees can be
proved by recursion on expressions. `Expr.Packable` collects what packing checks.

Keys are drawn while the tree is being made, and the tree is described with the keys of
the table as it is in the end. This is possible because packing only adds to a table: a
key that was found for a name is the key of the name in every later table. What packing
the types of constants gives the table is a parameter, so that the fields of captured
records can be followed along with the tree.
-/
import PredicateWire.Proofs.Expr.Parts
import PredicateWire.Proofs.Table.Growth
import PredicateWire.Wire.Pack

namespace PredicateWire

/-! ### Trees of expressions -/

/-- The reference to a method when types are spoken of by given keys. -/
def MethodReference.to (key : DataType → TypeKey) (method : Method) : MethodReference :=
  ⟨key method.declaringType, method.name, method.parameters.map key,
    if method.isGeneric then some method.genericArity else none,
    method.genericArguments.map key⟩

/-- The reference to a constructor when types are spoken of by given keys. -/
def ConstructorReference.to (key : DataType → TypeKey) (constructor : Constructor) :
    ConstructorReference :=
  ⟨key constructor.declaringType, constructor.parameters.map key⟩

/-- The reference to a member when types are spoken of by given keys. -/
def MemberReference.to (key : DataType → TypeKey) (read : Member) : MemberReference :=
  ⟨key read.declaringType, read.name⟩

/-- The node of a parameter when types are spoken of by given keys. -/
def Parameter.node (key : DataType → TypeKey) (referenced : Parameter) : Node :=
  .parameter ⟨.parameter, key referenced.type, false⟩ referenced.name referenced.byReference

/-- The document of a constant. One that cannot be written has none and counts as null. -/
def Value.document (value : Value) : Json :=
  match value.literal with
  | .ok document => document
  | .error _ => .null

namespace Expr

mutual

/-- The tree of an expression when types are spoken of by given keys. An operator with one
operand has no node, so that its operand stands in its place. -/
def node (key : DataType → TypeKey) : Expr → Node
  | lambda type parameters body name tailCall =>
    .lambda ⟨.lambda, key type, false⟩ (node key body) (parameters.map (Parameter.node key)) name
      tailCall
  | parameter referenced => referenced.node key
  | binary operator type left right method conversion =>
    .binary ⟨.binary operator, key type, false⟩ (node key left) (node key right)
      (nodeOption key conversion) (method.map (MethodReference.to key))
  | member target read =>
    .member ⟨.memberAccess, key read.memberType, false⟩ (node key target)
      (MemberReference.to key read)
  | constant value type => .constant ⟨.constant, key type, false⟩ value.document
  | call target method arguments =>
    .call ⟨.call, key method.returnType, false⟩ (nodeOption key target)
      (MethodReference.to key method) (nodeAll key arguments)
  | construct constructor arguments =>
    .construct ⟨.construct, key constructor.declaringType, false⟩
      (ConstructorReference.to key constructor) (nodeAll key arguments)
  | arrayInit type elements =>
    .arrayInit ⟨.arrayInit, key type, false⟩ (key (type.element?.getD type)) (nodeAll key elements)
  | unary _ _ operand => node key operand

/-- The trees of several expressions. -/
def nodeAll (key : DataType → TypeKey) : List Expr → List Node
  | [] => []
  | expression :: rest => node key expression :: nodeAll key rest

/-- The tree of an expression that may be absent. -/
def nodeOption (key : DataType → TypeKey) : Option Expr → Option Node
  | none => none
  | some expression => some (node key expression)

end

/-! ### What packing checks -/

/-- What packing checks about a node that stands at a depth. -/
def Admitted (limit depth : Nat) : Expr → Prop
  | lambda _ parameters _ _ _ => parameters ≠ [] → depth < limit
  | parameter _ => True
  | binary _ _ _ _ method _ => ∀ implementation ∈ method, implementation.isGenericDefinition = false
  | member _ read => read.isPublic = true
  | constant value _ =>
    value.fitsDepth (limit - depth) = true ∧ value.literal = .ok value.document
  | call _ method _ => method.isGenericDefinition = false
  | construct _ _ => True
  | arrayInit type _ => type.element?.isSome = true
  | unary _ _ _ => False

mutual

/-- An expression at a depth passes the checks of packing. -/
def Packable (limit : Nat) : Expr → Nat → Prop
  | lambda type parameters body name tailCall, depth =>
    depth ≤ limit ∧ Admitted limit depth (lambda type parameters body name tailCall) ∧
      Packable limit body (depth + 1)
  | parameter _, depth => depth ≤ limit
  | binary operator type left right method conversion, depth =>
    depth ≤ limit ∧ Admitted limit depth (binary operator type left right method conversion) ∧
      Packable limit left (depth + 1) ∧ Packable limit right (depth + 1) ∧
      PackableOption limit conversion (depth + 1)
  | member target read, depth =>
    depth ≤ limit ∧ Admitted limit depth (member target read) ∧ Packable limit target (depth + 1)
  | constant value type, depth => depth ≤ limit ∧ Admitted limit depth (constant value type)
  | call target method arguments, depth =>
    depth ≤ limit ∧ Admitted limit depth (call target method arguments) ∧
      PackableOption limit target (depth + 1) ∧ PackableAll limit arguments (depth + 1)
  | construct _ arguments, depth => depth ≤ limit ∧ PackableAll limit arguments (depth + 1)
  | arrayInit type elements, depth =>
    depth ≤ limit ∧ Admitted limit depth (arrayInit type elements) ∧
      PackableAll limit elements (depth + 1)
  | unary _ _ _, _ => False

/-- Several expressions at a depth pass the checks of packing. -/
def PackableAll (limit : Nat) : List Expr → Nat → Prop
  | [], _ => True
  | expression :: rest, depth => Packable limit expression depth ∧ PackableAll limit rest depth

/-- An expression that may be absent passes the checks of packing. -/
def PackableOption (limit : Nat) : Option Expr → Nat → Prop
  | none, _ => True
  | some expression, depth => Packable limit expression depth

end

mutual

/-- Every node of an expression that passes the checks passes them at some depth. -/
theorem Packable.admitted {limit : Nat} : ∀ {expression : Expr} {depth : Nat},
    expression.Packable limit depth → ∀ node ∈ expression.nodes, ∃ below, node.Admitted limit below
  | .lambda type parameters body name tailCall, depth, ⟨_, declared, bodyPackable⟩ => by
    rw [nodes, List.forall_mem_cons, List.forall_mem_append]
    refine ⟨⟨depth, declared⟩, bodyPackable.admitted, fun node member => ?_⟩
    obtain ⟨referenced, _, rfl⟩ := List.mem_map.mp member
    exact ⟨depth, trivial⟩
  | .parameter referenced, depth, _ => by
    rw [nodes, List.forall_mem_singleton]
    exact ⟨depth, trivial⟩
  | .binary operator type left right method conversion, depth,
      ⟨_, closed, leftPackable, rightPackable, conversionPackable⟩ => by
    rw [nodes, List.forall_mem_cons, List.forall_mem_append, List.forall_mem_append]
    exact ⟨⟨depth, closed⟩, ⟨leftPackable.admitted, rightPackable.admitted⟩,
      PackableOption.admitted conversionPackable⟩
  | .member target read, depth, ⟨_, shown, targetPackable⟩ => by
    rw [nodes, List.forall_mem_cons]
    exact ⟨⟨depth, shown⟩, targetPackable.admitted⟩
  | .constant value type, depth, ⟨_, written⟩ => by
    rw [nodes, List.forall_mem_singleton]
    exact ⟨depth, written⟩
  | .call target method arguments, depth, ⟨_, closed, targetPackable, argumentsPackable⟩ => by
    rw [nodes, List.forall_mem_cons, List.forall_mem_append]
    exact ⟨⟨depth, closed⟩, PackableOption.admitted targetPackable,
      PackableAll.admitted argumentsPackable⟩
  | .construct constructor arguments, depth, ⟨_, argumentsPackable⟩ => by
    rw [nodes, List.forall_mem_cons]
    exact ⟨⟨depth, trivial⟩, PackableAll.admitted argumentsPackable⟩
  | .arrayInit type elements, depth, ⟨_, isArray, elementsPackable⟩ => by
    rw [nodes, List.forall_mem_cons]
    exact ⟨⟨depth, isArray⟩, PackableAll.admitted elementsPackable⟩
  | .unary _ _ _, _, packable => packable.elim

theorem PackableAll.admitted {limit : Nat} : ∀ {expressions : List Expr} {depth : Nat},
    PackableAll limit expressions depth →
      ∀ node ∈ nodesAll expressions, ∃ below, node.Admitted limit below
  | [], _, _ => fun _ member => nomatch member
  | first :: rest, depth, ⟨firstPackable, restPackable⟩ => by
    rw [nodesAll, List.forall_mem_append]
    exact ⟨firstPackable.admitted, PackableAll.admitted restPackable⟩

theorem PackableOption.admitted {limit : Nat} : ∀ {expression : Option Expr} {depth : Nat},
    PackableOption limit expression depth →
      ∀ node ∈ nodesOption expression, ∃ below, node.Admitted limit below
  | none, _, _ => fun _ member => nomatch member
  | some expression, depth, packable => by
    rw [nodesOption]
    exact Packable.admitted (show expression.Packable limit depth from packable)

end

end Expr

/-! ### Packing -/

open TypeTable

/-- The type of a constant has a property. Other nodes have none to look at. -/
def Expr.IfConstant (property : DataType → Prop) : Expr → Prop
  | constant _ type => property type
  | _ => True

/-- Packing a type with its fields yields the key of its name, and a table with a property that
belongs to the type. -/
def TypeTable.Captures (kept : TypeTable → Prop) (holds : DataType → TypeTable → Prop)
    (type : DataType) : Prop :=
  Adds kept (pack true type) fun key later =>
    later.keyOf? type.canonicalName = some key ∧ holds type later

section

variable {kept : TypeTable → Prop} (lasts : Lasts kept)

theorem adds_lift {Content : Type} (result : Result Content) :
    Adds kept (lift result) fun content _ => result = .ok content := by
  cases result with
  | ok content => exact adds_pure _ fun _ => rfl
  | error error => exact adds_throw _ _

include lasts

theorem adds_packAll (types : List DataType) :
    Adds kept (TypeTable.packAll types) fun keys later =>
      keys = types.map later.keyFor ∧ ∀ type ∈ types, later.Knows type := by
  unfold TypeTable.packAll
  induction types with
  | nil => exact adds_pure _ fun _ => ⟨rfl, by simp⟩
  | cons type rest inductionHypothesis =>
    rw [List.mapM_cons]
    refine adds_bind (adds_packPlain lasts type) fun key => adds_bind inductionHypothesis
      fun keys =>
      adds_pure _ fun later ⟨same, known⟩ found => ⟨?_, ?_⟩
    · rw [same, List.map_cons, keyFor_eq found]
    · rw [List.forall_mem_cons]
      exact ⟨knows_of_keyOf? found, known⟩

theorem adds_packMethod (method : Method) :
    Adds kept (MethodReference.pack method) fun reference later =>
      method.isGenericDefinition = false ∧ reference = .to later.keyFor method ∧
        ∀ type ∈ method.types, later.Knows type := by
  unfold MethodReference.pack
  refine adds_check fun closed => ?_
  refine adds_bind (adds_packPlain lasts method.declaringType) fun declaringType => ?_
  refine adds_bind (adds_packAll lasts method.parameters) fun parameters => ?_
  refine adds_bind (adds_packAll lasts method.genericArguments) fun arguments => ?_
  refine adds_pure _ fun later argumentsFit parametersFit declaringFound => ⟨?_, ?_, ?_⟩
  · rwa [Bool.not_eq_true] at closed
  · rw [argumentsFit.1, parametersFit.1, MethodReference.to, keyFor_eq declaringFound]
  · rw [Method.types, List.forall_mem_cons, List.forall_mem_append]
    exact ⟨knows_of_keyOf? declaringFound, parametersFit.2, argumentsFit.2⟩

theorem adds_packMethod? (method : Option Method) :
    Adds kept (Node.packMethod? method) fun reference later =>
      (∀ implementation ∈ method, implementation.isGenericDefinition = false) ∧
        reference = method.map (MethodReference.to later.keyFor) ∧
          ∀ type ∈ method.toList.flatMap Method.types, later.Knows type := by
  cases method with
  | none => exact adds_pure _ fun _ => ⟨by simp, rfl, by simp⟩
  | some method =>
    refine adds_bind (adds_packMethod lasts method) fun reference => adds_pure _ ?_
    rintro later ⟨closed, same, known⟩
    simp [closed, same]
    exact known

theorem adds_packConstructor (constructor : Constructor) :
    Adds kept (ConstructorReference.pack constructor) fun reference later =>
      reference = .to later.keyFor constructor ∧
        ∀ type ∈ constructor.types, later.Knows type := by
  unfold ConstructorReference.pack
  refine adds_bind (adds_packPlain lasts constructor.declaringType) fun declaringType => ?_
  refine adds_bind (adds_packAll lasts constructor.parameters) fun parameters => ?_
  refine adds_pure _ fun later parametersFit declaringFound => ⟨?_, ?_⟩
  · rw [parametersFit.1, ConstructorReference.to, keyFor_eq declaringFound]
  · rw [Constructor.types, List.forall_mem_cons]
    exact ⟨knows_of_keyOf? declaringFound, parametersFit.2⟩

theorem adds_packMember (read : Member) :
    Adds kept (MemberReference.pack read) fun reference later =>
      read.isPublic = true ∧ reference = .to later.keyFor read ∧
        later.Knows read.declaringType := by
  unfold MemberReference.pack
  refine adds_check fun shown => ?_
  refine adds_bind (adds_packPlain lasts read.declaringType) fun declaringType => ?_
  refine adds_pure _ fun later declaringFound => ⟨?_, ?_, knows_of_keyOf? declaringFound⟩
  · rwa [Bool.not_eq_true, Bool.not_eq_false'] at shown
  · rw [MemberReference.to, keyFor_eq declaringFound]

theorem adds_packParameter (limit depth : Nat) (referenced : Parameter) :
    Adds kept (Node.packParameter limit depth referenced) fun node later =>
      depth ≤ limit ∧ node = referenced.node later.keyFor ∧ later.Knows referenced.type := by
  unfold Node.packParameter
  refine adds_check fun shallow => ?_
  refine adds_bind (adds_packPlain lasts referenced.type) fun resultType => ?_
  refine adds_pure _ fun later found => ⟨by omega, ?_, knows_of_keyOf? found⟩
  rw [Parameter.node, keyFor_eq found]

theorem adds_packParameters (limit depth : Nat) (parameters : List Parameter) :
    Adds kept (parameters.mapM (Node.packParameter limit depth)) fun nodes later =>
      (parameters ≠ [] → depth ≤ limit) ∧ nodes = parameters.map (Parameter.node later.keyFor) ∧
        ∀ type ∈ parameters.map Parameter.type, later.Knows type := by
  induction parameters with
  | nil => exact adds_pure _ fun _ => ⟨fun some => absurd rfl some, rfl, by simp⟩
  | cons first rest inductionHypothesis =>
    rw [List.mapM_cons]
    refine adds_bind (adds_packParameter lasts limit depth first) fun node =>
      adds_bind inductionHypothesis fun nodes => adds_pure _ ?_
    rintro later ⟨_, same, known⟩ ⟨shallow, firstSame, firstKnown⟩
    refine ⟨fun _ => shallow, by rw [same, firstSame, List.map_cons], ?_⟩
    rw [List.map_cons, List.forall_mem_cons]
    exact ⟨firstKnown, known⟩

end

namespace Node

open PredicateWire.Expr

variable {kept : TypeTable → Prop} {holds : DataType → TypeTable → Prop}

mutual

/-- Packing an expression yields its tree, and a table that knows its types and has what packing the
types of its constants gives it. The tree is described with the keys of any later table, so that the
trees of parts can be put together. -/
theorem adds_packAt (lasts : Lasts kept) (limit : Nat) : ∀ (expression : Expr) (depth : Nat),
    (∀ node ∈ expression.nodes, node.IfConstant (Captures kept holds)) →
    Adds kept (packAt limit expression depth) fun node later =>
      expression.Packable limit depth ∧ node = expression.node later.keyFor ∧
        (∀ type ∈ expression.types, later.Knows type) ∧
          ∀ node ∈ expression.nodes, node.IfConstant fun type => holds type later
  | .lambda type parameters body name tailCall, depth, captures => by
    rw [nodes, List.forall_mem_cons, List.forall_mem_append] at captures
    unfold packAt
    refine adds_check fun shallow => ?_
    refine adds_bind (adds_packPlain lasts type) fun resultType => ?_
    refine adds_bind (adds_packAt lasts limit body (depth + 1) captures.2.1) fun bodyNode => ?_
    refine adds_bind (adds_packParameters lasts limit (depth + 1) parameters) fun declarations => ?_
    refine adds_pure _ ?_
    rintro later ⟨declared, rfl, parametersKnown⟩ ⟨bodyPackable, rfl, bodyKnown, bodyHolds⟩ found
    refine ⟨⟨by omega, fun some => by have := declared some; omega, bodyPackable⟩, ?_, ?_, ?_⟩
    · rw [Expr.node, keyFor_eq found]
    · rw [types_lambda, List.forall_mem_cons, List.forall_mem_append]
      exact ⟨knows_of_keyOf? found, bodyKnown, parametersKnown⟩
    · rw [nodes, List.forall_mem_cons, List.forall_mem_append]
      refine ⟨trivial, bodyHolds, fun node member => ?_⟩
      obtain ⟨referenced, _, rfl⟩ := List.mem_map.mp member
      trivial
  | .parameter referenced, depth, _ => by
    unfold packAt
    refine adds_check fun shallow => ?_
    refine (adds_packParameter lasts limit depth referenced).weaken ?_
    rintro node later ⟨_, rfl, known⟩
    refine ⟨by unfold Packable; omega, by rw [Expr.node], by simpa using known, ?_⟩
    rw [nodes, List.forall_mem_singleton]
    trivial
  | .binary operator type left right method conversion, depth, captures => by
    rw [nodes, List.forall_mem_cons, List.forall_mem_append, List.forall_mem_append] at captures
    unfold packAt
    refine adds_check fun shallow => ?_
    refine adds_bind (adds_packPlain lasts type) fun resultType => ?_
    refine adds_bind (adds_packAt lasts limit left (depth + 1) captures.2.1.1) fun leftNode => ?_
    refine adds_bind (adds_packAt lasts limit right (depth + 1) captures.2.1.2) fun rightNode => ?_
    refine adds_bind (adds_packOption lasts limit conversion (depth + 1) captures.2.2)
      fun conversionNode => ?_
    refine adds_bind (adds_packMethod? lasts method) fun reference => ?_
    refine adds_pure _ ?_
    rintro later ⟨closed, rfl, methodKnown⟩
      ⟨conversionPackable, rfl, conversionKnown, conversionHolds⟩
      ⟨rightPackable, rfl, rightKnown, rightHolds⟩ ⟨leftPackable, rfl, leftKnown, leftHolds⟩ found
    refine ⟨⟨by omega, closed, leftPackable, rightPackable, conversionPackable⟩, ?_, ?_, ?_⟩
    · rw [Expr.node, keyFor_eq found]
    · simp only [types_binary, List.forall_mem_cons, List.forall_mem_append]
      exact ⟨knows_of_keyOf? found, methodKnown, ⟨leftKnown, rightKnown⟩, conversionKnown⟩
    · rw [nodes, List.forall_mem_cons, List.forall_mem_append, List.forall_mem_append]
      exact ⟨trivial, ⟨leftHolds, rightHolds⟩, conversionHolds⟩
  | .member target read, depth, captures => by
    rw [nodes, List.forall_mem_cons] at captures
    unfold packAt
    refine adds_check fun shallow => ?_
    refine adds_bind (adds_packMember lasts read) fun reference => ?_
    refine adds_bind (adds_packPlain lasts read.memberType) fun resultType => ?_
    refine adds_bind (adds_packAt lasts limit target (depth + 1) captures.2) fun targetNode => ?_
    refine adds_pure _ ?_
    rintro later ⟨targetPackable, rfl, targetKnown, targetHolds⟩ found ⟨shown, rfl, declaringKnown⟩
    refine ⟨⟨by omega, shown, targetPackable⟩, ?_, ?_, ?_⟩
    · rw [Expr.node, keyFor_eq found]
    · simp only [types_member, List.forall_mem_cons]
      exact ⟨knows_of_keyOf? found, declaringKnown, targetKnown⟩
    · rw [nodes, List.forall_mem_cons]
      exact ⟨trivial, targetHolds⟩
  | .constant value type, depth, captures => by
    rw [nodes, List.forall_mem_singleton] at captures
    unfold packAt
    refine adds_check fun shallow => adds_check fun fits => ?_
    have whole : Captures kept holds type := captures
    refine adds_bind whole fun resultType => ?_
    refine adds_bind (adds_lift value.literal) fun document => ?_
    refine adds_pure _ ?_
    rintro later written ⟨found, typeHolds⟩
    have same : value.document = document := by rw [Value.document, written]
    refine ⟨⟨by omega, by simpa using fits, by rw [same]; exact written⟩, ?_, ?_, ?_⟩
    · rw [Expr.node, keyFor_eq found, same]
    · simpa using knows_of_keyOf? found
    · rw [nodes, List.forall_mem_singleton]
      exact typeHolds
  | .call target method arguments, depth, captures => by
    rw [nodes, List.forall_mem_cons, List.forall_mem_append] at captures
    unfold packAt
    refine adds_check fun shallow => ?_
    refine adds_bind (adds_packPlain lasts method.returnType) fun resultType => ?_
    refine adds_bind (adds_packOption lasts limit target (depth + 1) captures.2.1)
      fun targetNode => ?_
    refine adds_bind (adds_packMethod lasts method) fun reference => ?_
    refine adds_bind (adds_packExprs lasts limit arguments (depth + 1) captures.2.2)
      fun argumentNodes => ?_
    refine adds_pure _ ?_
    rintro later ⟨argumentsPackable, rfl, argumentsKnown, argumentsHold⟩ ⟨closed, rfl, methodKnown⟩
      ⟨targetPackable, rfl, targetKnown, targetHolds⟩ found
    refine ⟨⟨by omega, closed, targetPackable, argumentsPackable⟩, ?_, ?_, ?_⟩
    · rw [Expr.node, keyFor_eq found]
    · simp only [types_call, List.forall_mem_cons, List.forall_mem_append]
      exact ⟨knows_of_keyOf? found, methodKnown, targetKnown, argumentsKnown⟩
    · rw [nodes, List.forall_mem_cons, List.forall_mem_append]
      exact ⟨trivial, targetHolds, argumentsHold⟩
  | .construct constructor arguments, depth, captures => by
    rw [nodes, List.forall_mem_cons] at captures
    unfold packAt
    refine adds_check fun shallow => ?_
    refine adds_bind (adds_packPlain lasts constructor.declaringType) fun resultType => ?_
    refine adds_bind (adds_packConstructor lasts constructor) fun reference => ?_
    refine adds_bind (adds_packExprs lasts limit arguments (depth + 1) captures.2)
      fun argumentNodes => ?_
    refine adds_pure _ ?_
    rintro later ⟨argumentsPackable, rfl, argumentsKnown, argumentsHold⟩
      ⟨rfl, constructorKnown⟩ found
    refine ⟨⟨by omega, argumentsPackable⟩, ?_, ?_, ?_⟩
    · rw [Expr.node, keyFor_eq found]
    · simp only [types_construct, List.forall_mem_append]
      exact ⟨constructorKnown, argumentsKnown⟩
    · rw [nodes, List.forall_mem_cons]
      exact ⟨trivial, argumentsHold⟩
  | .arrayInit type elements, depth, captures => by
    rw [nodes, List.forall_mem_cons] at captures
    unfold packAt
    refine adds_check fun shallow => ?_
    show Adds kept (match type.element? with | none => _ | some element => _) _
    cases isArray : type.element? with
    | none => exact adds_throw _ _
    | some element =>
      refine adds_bind (adds_packPlain lasts type) fun resultType => ?_
      refine adds_bind (adds_packPlain lasts element) fun elementKey => ?_
      refine adds_bind (adds_packExprs lasts limit elements (depth + 1) captures.2)
        fun elementNodes => ?_
      refine adds_pure _ ?_
      rintro later ⟨elementsPackable, rfl, elementsKnown, elementsHold⟩ elementFound found
      refine ⟨⟨by omega, by simp [Admitted, isArray], elementsPackable⟩, ?_, ?_, ?_⟩
      · rw [Expr.node, keyFor_eq found, isArray, Option.getD_some, keyFor_eq elementFound]
      · simp only [types_arrayInit, isArray, Option.toList_some, List.forall_mem_cons,
          List.forall_mem_append]
        exact ⟨knows_of_keyOf? found, ⟨knows_of_keyOf? elementFound, by simp⟩, elementsKnown⟩
      · rw [nodes, List.forall_mem_cons]
        exact ⟨trivial, elementsHold⟩
  | .unary operator type operand, depth, _ => by
    unfold packAt
    exact adds_check fun _ => adds_throw _ _

/-- Packing several expressions yields their trees. -/
theorem adds_packExprs (lasts : Lasts kept) (limit : Nat) :
    ∀ (expressions : List Expr) (depth : Nat),
    (∀ node ∈ nodesAll expressions, node.IfConstant (Captures kept holds)) →
    Adds kept (Node.packAll limit expressions depth) fun nodes later =>
      PackableAll limit expressions depth ∧ nodes = nodeAll later.keyFor expressions ∧
        (∀ type ∈ typesAll expressions, later.Knows type) ∧
          ∀ node ∈ nodesAll expressions, node.IfConstant fun type => holds type later
  | [], depth, _ => by
    unfold Node.packAll
    exact adds_pure _ fun _ => ⟨trivial, rfl, by simp, fun _ member => nomatch member⟩
  | first :: rest, depth, captures => by
    rw [nodesAll, List.forall_mem_append] at captures
    unfold Node.packAll
    refine adds_bind (adds_packAt lasts limit first depth captures.1) fun node => ?_
    refine adds_bind (adds_packExprs lasts limit rest depth captures.2) fun nodes => ?_
    refine adds_pure _ ?_
    rintro later ⟨restPackable, rfl, restKnown, restHolds⟩
      ⟨firstPackable, rfl, firstKnown, firstHolds⟩
    refine ⟨⟨firstPackable, restPackable⟩, by rw [nodeAll], ?_, ?_⟩
    · rw [typesAll_cons, List.forall_mem_append]
      exact ⟨firstKnown, restKnown⟩
    · rw [nodesAll, List.forall_mem_append]
      exact ⟨firstHolds, restHolds⟩

/-- Packing an expression that may be absent yields its tree. -/
theorem adds_packOption (lasts : Lasts kept) (limit : Nat) :
    ∀ (expression : Option Expr) (depth : Nat),
    (∀ node ∈ nodesOption expression, node.IfConstant (Captures kept holds)) →
    Adds kept (Node.packOption limit expression depth) fun node later =>
      PackableOption limit expression depth ∧ node = nodeOption later.keyFor expression ∧
        (∀ type ∈ typesOption expression, later.Knows type) ∧
          ∀ node ∈ nodesOption expression, node.IfConstant fun type => holds type later
  | none, depth, _ => by
    unfold Node.packOption
    exact adds_pure _ fun _ => ⟨trivial, rfl, by simp, fun _ member => nomatch member⟩
  | some expression, depth, captures => by
    rw [nodesOption] at captures
    unfold Node.packOption
    refine adds_bind (adds_packAt lasts limit expression depth captures) fun node => ?_
    refine adds_pure _ ?_
    rintro later ⟨packable, rfl, known, expressionHolds⟩
    exact ⟨packable, by rw [nodeOption], by rwa [typesOption_some], by rwa [nodesOption]⟩

end

/-- Packing an expression into a tracked table yields its tree, and a tracked table that knows its
types. -/
theorem adds_packTracked (limit : Nat) (expression : Expr) :
    Adds Tracked (Node.pack limit expression) fun node later =>
      expression.Packable limit 0 ∧ node = expression.node later.keyFor ∧
        ∀ type ∈ expression.types, later.Knows type := by
  have captures : ∀ part ∈ expression.nodes,
      part.IfConstant (Captures Tracked fun _ _ => True) := by
    intro part _
    cases part with
    | constant value type => exact (adds_pack true type).weaken fun _ _ found => ⟨found, trivial⟩
    | _ => trivial
  refine (adds_packAt lasts_tracked limit expression 0 captures).weaken ?_
  rintro node later ⟨packable, same, known, _⟩
  exact ⟨packable, same, known⟩

end Node

end PredicateWire
