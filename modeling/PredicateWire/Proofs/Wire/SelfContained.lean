/-
This file proves that packets are self-contained. Every key that a tree or the field
table of an entry speaks of is the key of one entry of the packet, and the key of a
node's type has the entry with the name of this type. This is so whatever was packed
into the table before, with or without success.

A packet is made of a whole table, and the table may have been used for other packets or
been left behind by a failure. It is tracked in any case, which means that its keys and
names are different and that the fields it has captured have keys of its own. The rest
is about the tree: its nodes are the trees of the nodes of the expression, one by one,
and each speaks of the keys of the types that its expression speaks of.
-/
import Mathlib.Data.List.Forall2
import Mathlib.Data.List.Nodup
import PredicateWire.Proofs.Table.Reached
import PredicateWire.Proofs.Wire.RoundTrip

namespace PredicateWire

/-! ### Keys of trees -/

/-- The keys of a reference to a method. -/
def MethodReference.keys (reference : MethodReference) : List TypeKey :=
  reference.declaringType :: (reference.parameters ++ reference.genericArguments)

/-- The keys of a reference to a constructor. -/
def ConstructorReference.keys (reference : ConstructorReference) : List TypeKey :=
  reference.declaringType :: reference.parameters

namespace Node

mutual

/-- Every node of a tree, in the order of the nodes of the expression that it stands for. -/
def nodes : Node → List Node
  | lambda header body parameters name tailCall =>
    lambda header body parameters name tailCall :: (nodes body ++ nodesAll parameters)
  | parameter header name byReference => [parameter header name byReference]
  | binary header left right conversion method =>
    binary header left right conversion method ::
      (nodes left ++ nodes right ++ nodesOption conversion)
  | member header target read => member header target read :: nodes target
  | constant header value => [constant header value]
  | call header target method arguments =>
    call header target method arguments :: (nodesOption target ++ nodesAll arguments)
  | construct header constructor arguments =>
    construct header constructor arguments :: nodesAll arguments
  | arrayInit header element elements => arrayInit header element elements :: nodesAll elements

/-- Every node of several trees. -/
def nodesAll : List Node → List Node
  | [] => []
  | node :: rest => nodes node ++ nodesAll rest

/-- Every node of a tree that may be absent. -/
def nodesOption : Option Node → List Node
  | none => []
  | some node => nodes node

end

/-- The keys that a node itself speaks of. -/
def ownKeys : Node → List TypeKey
  | lambda header _ _ _ _ => [header.resultType]
  | parameter header _ _ => [header.resultType]
  | binary header _ _ _ method => header.resultType :: method.toList.flatMap MethodReference.keys
  | member header _ read => [header.resultType, read.declaringType]
  | constant header _ => [header.resultType]
  | call header _ method _ => header.resultType :: method.keys
  | construct header constructor _ => header.resultType :: constructor.keys
  | arrayInit header element _ => [header.resultType, element]

/-- The keys that a tree speaks of. -/
def keys (node : Node) : List TypeKey :=
  node.nodes.flatMap ownKeys

end Node

/-! ### Trees of expressions -/

namespace Expr

variable {key : DataType → TypeKey}

theorem nodesAll_parameters (parameters : List Parameter) :
    Node.nodesAll (parameters.map (Parameter.node key)) =
      (parameters.map parameter).map (node key) := by
  induction parameters with
  | nil => rfl
  | cons first rest inductionHypothesis =>
    rw [List.map_cons, Node.nodesAll, inductionHypothesis]
    rfl

mutual

/-- The nodes of a tree are the trees of the nodes. -/
theorem nodes_node {limit : Nat} : ∀ {expression : Expr} {depth : Nat},
    expression.Packable limit depth →
      (expression.node key).nodes = expression.nodes.map (node key)
  | .lambda type parameters body name tailCall, _, ⟨_, _, bodyPackable⟩ => by
    rw [node, Node.nodes, nodes, List.map_cons, List.map_append, nodes_node bodyPackable,
      nodesAll_parameters, node]
  | .parameter referenced, _, _ => by
    rw [nodes, List.map_singleton, node, Parameter.node, Node.nodes]
  | .binary operator type left right method conversion, _,
      ⟨_, _, leftPackable, rightPackable, conversionPackable⟩ => by
    rw [node, Node.nodes, nodes, List.map_cons, List.map_append, List.map_append,
      nodes_node leftPackable, nodes_node rightPackable, nodes_nodeOption conversionPackable, node]
  | .member target read, _, ⟨_, _, targetPackable⟩ => by
    rw [node, Node.nodes, nodes, List.map_cons, nodes_node targetPackable, node]
  | .constant value type, _, _ => by
    rw [nodes, List.map_singleton, node, Node.nodes]
  | .call target method arguments, _, ⟨_, _, targetPackable, argumentsPackable⟩ => by
    rw [node, Node.nodes, nodes, List.map_cons, List.map_append, nodes_nodeOption targetPackable,
      nodes_nodeAll argumentsPackable, node]
  | .construct constructor arguments, _, ⟨_, argumentsPackable⟩ => by
    rw [node, Node.nodes, nodes, List.map_cons, nodes_nodeAll argumentsPackable, node]
  | .arrayInit type elements, _, ⟨_, _, elementsPackable⟩ => by
    rw [node, Node.nodes, nodes, List.map_cons, nodes_nodeAll elementsPackable, node]
  | .unary _ _ _, _, packable => packable.elim

theorem nodes_nodeAll {limit : Nat} : ∀ {expressions : List Expr} {depth : Nat},
    PackableAll limit expressions depth →
      Node.nodesAll (nodeAll key expressions) = (nodesAll expressions).map (node key)
  | [], _, _ => rfl
  | first :: rest, _, ⟨firstPackable, restPackable⟩ => by
    rw [nodeAll, Node.nodesAll, nodesAll, List.map_append, nodes_node firstPackable,
      nodes_nodeAll restPackable]

theorem nodes_nodeOption {limit : Nat} : ∀ {expression : Option Expr} {depth : Nat},
    PackableOption limit expression depth →
      Node.nodesOption (nodeOption key expression) = (nodesOption expression).map (node key)
  | none, _, _ => rfl
  | some expression, depth, packable => by
    rw [nodeOption, Node.nodesOption, nodesOption]
    exact nodes_node (show expression.Packable limit depth from packable)

end

theorem resultType_node {limit depth : Nat} {part : Expr} (admitted : part.Admitted limit depth) :
    (part.node key).header.resultType = key part.resultType := by
  cases part with
  | unary operator type operand => exact admitted.elim
  | _ => rfl

theorem resultType_mem_ownTypes (part : Expr) : part.resultType ∈ part.ownTypes := by
  cases part <;> exact .head _

/-- A node speaks of the keys of the types that its expression speaks of. -/
theorem mem_ownTypes_of_ownKeys {limit depth : Nat} {part : Expr}
    (admitted : part.Admitted limit depth) {spoken : TypeKey}
    (member : spoken ∈ (part.node key).ownKeys) : ∃ type ∈ part.ownTypes, key type = spoken := by
  have methodKeys : ∀ method : Method,
      (MethodReference.to key method).keys = method.types.map key := by
    intro method
    rw [MethodReference.keys, Method.types, List.map_cons, List.map_append]
    rfl
  have listed : ∀ {types : List DataType}, spoken ∈ types.map key →
      ∃ type ∈ types, key type = spoken := List.mem_map.mp
  cases part with
  | lambda type parameters body name tailCall => exact listed member
  | parameter referenced => exact listed member
  | binary operator type left right method conversion =>
    refine listed ?_
    cases method with
    | none => exact member
    | some method =>
      simp only [ownTypes, Option.toList_some, List.flatMap_singleton, List.map_cons,
        ← methodKeys method]
      simpa only [node, Node.ownKeys, Option.map_some, Option.toList_some,
        List.flatMap_singleton] using member
  | member target read => exact listed member
  | constant value type => exact listed member
  | call target method arguments =>
    refine listed ?_
    rw [ownTypes, List.map_cons, ← methodKeys method]
    exact member
  | construct constructor arguments =>
    rcases List.mem_cons.mp member with rfl | own
    · exact ⟨_, .head _, rfl⟩
    · exact listed own
  | arrayInit type elements =>
    obtain ⟨element, isArray⟩ := Option.isSome_iff_exists.mp admitted
    refine listed ?_
    rw [ownTypes, isArray]
    rw [node, isArray] at member
    exact member
  | unary operator type operand => exact admitted.elim

end Expr

/-! ### Self-contained packets -/

/-- Exactly one entry of a packet has a key. -/
def Packet.HasOnce (packet : Packet) (key : TypeKey) : Prop :=
  (packet.types.map TypeEntry.key).count key = 1

/-- A packet is self-contained. Its tree is a tree for the expression in which every key, like every
key of a captured field, is the key of exactly one entry; the key of every node's type has an entry
with the name of the type; and no two entries have one name. -/
structure Packet.SelfContained (packet : Packet) (expression : Expr) (node : Node) : Prop where
  payload : packet.payload = packet.encoding.encode node.written
  keys : ∀ key ∈ node.keys, packet.HasOnce key
  fields : ∀ entry ∈ packet.types, ∀ field ∈ entry.fields, packet.HasOnce field.key
  resultTypes : List.Forall₂ (fun part node => ∃ entry ∈ packet.types,
    entry.key = node.header.resultType ∧ entry.name = part.resultType.canonicalName)
      expression.nodes node.nodes
  names : (packet.types.map TypeEntry.name).Nodup

open Running TypeTable

theorem Packet.hasOnce_of_hasKey {table : TypeTable} (sound : table.Sound) {packet : Packet}
    (types : packet.types = table.entries) {key : TypeKey} (present : table.hasKey key = true) :
    packet.HasOnce key := by
  obtain ⟨entry, member, rfl⟩ := hasKey_iff.mp present
  rw [HasOnce, types]
  exact List.count_eq_one_of_mem sound.keys (List.mem_map_of_mem member)

/-- The packet of a tree in the keys of a sound table that knows its types is self-contained. -/
theorem Packet.selfContained_ofNode {table : TypeTable} (sound : table.Sound)
    {expression : Expr} {limit : Nat} (packable : expression.Packable limit 0)
    (known : ∀ type ∈ expression.types, table.Knows type) (encoding : Encoding) :
    (Packet.ofNode encoding (expression.node table.keyFor) table).SelfContained expression
      (expression.node table.keyFor) where
  payload := rfl
  keys := by
    intro key member
    rw [Node.keys, Expr.nodes_node packable] at member
    obtain ⟨node, nodeMember, own⟩ := List.mem_flatMap.mp member
    obtain ⟨part, partMember, rfl⟩ := List.mem_map.mp nodeMember
    obtain ⟨depth, admitted⟩ := packable.admitted part partMember
    obtain ⟨type, typeMember, rfl⟩ := Expr.mem_ownTypes_of_ownKeys admitted own
    have speaks : type ∈ expression.types := List.mem_flatMap.mpr ⟨part, partMember, typeMember⟩
    exact hasOnce_of_hasKey sound rfl (hasKey_of_keyOf? (keyOf?_of_knows (known type speaks)))
  fields := fun entry member field fieldMember =>
    hasOnce_of_hasKey sound rfl (sound.fields entry member field fieldMember)
  resultTypes := by
    rw [Expr.nodes_node packable, List.forall₂_map_right_iff, List.forall₂_same]
    intro part partMember
    obtain ⟨depth, admitted⟩ := packable.admitted part partMember
    have speaks : part.resultType ∈ expression.types :=
      List.mem_flatMap.mpr ⟨part, partMember, part.resultType_mem_ownTypes⟩
    rw [Expr.resultType_node admitted]
    exact exists_entry_of_keyOf? (keyOf?_of_knows (known _ speaks))
  names := sound.names

namespace Serializer

/-- Whatever was packed into a table before, the packet of an expression is self-contained. The
table may have been reached by any sequence of packing types, references, trees and expressions,
each of which may have failed; the packet holds all of its entries. -/
theorem selfContained_encode {catalog : Catalog} {source : Nat → UInt32} {table final : TypeTable}
    (reached : Reached catalog source table) {settings : Settings} {expression : Expr}
    {packet : Packet} (encoded : (encode settings expression).run table = (.ok packet, final)) :
    ∃ node, (Node.pack settings.maxDepth expression).run table = (.ok node, final) ∧
      packet.types = final.entries ∧ packet.SelfContained expression node := by
  unfold encode at encoded
  obtain ⟨node, middle, packed, encoded⟩ := run_bind_ok encoded
  cases encoded
  obtain ⟨tracked, _, fits⟩ :=
    (Node.adds_packTracked settings.maxDepth expression).keeps reached.tracked packed
  obtain ⟨packable, rfl, known⟩ := fits (Grows.refl _)
  exact ⟨_, packed, rfl, Packet.selfContained_ofNode tracked.toSound packable known settings.encoding⟩

/-- After an expression was too deep for one limit, it is packed under another one into the table
that the failure left behind, and the packet is self-contained. The table has the record of the
constant, the type of the predicate and what the two are made of. -/
theorem selfContained_encode_fuller :
    ∃ packet final node, ((encode { Settings.standard with maxDepth := 2 } Expr.fuller).run
        (TypeTable.empty Expr.gauges UInt32.ofNat)).1 = .error (.depthExceeded 2) ∧
      (encode Settings.standard Expr.fuller).run
        ((encode { Settings.standard with maxDepth := 2 } Expr.fuller).run
          (TypeTable.empty Expr.gauges UInt32.ofNat)).2 = (.ok packet, final) ∧
      packet.types.length = 4 ∧ packet.SelfContained Expr.fuller node := by
  have reached : Reached Expr.gauges UInt32.ofNat
      ((encode { Settings.standard with maxDepth := 2 } Expr.fuller).run
        (TypeTable.empty Expr.gauges UInt32.ofNat)).2 := .packet .empty _ _
  have refused : ((encode { Settings.standard with maxDepth := 2 } Expr.fuller).run
      (TypeTable.empty Expr.gauges UInt32.ofNat)).1 = .error (.depthExceeded 2) := rfl
  have succeeds : ((encode Settings.standard Expr.fuller).run
      ((encode { Settings.standard with maxDepth := 2 } Expr.fuller).run
        (TypeTable.empty Expr.gauges UInt32.ofNat)).2).1.toBool = true := by decide +kernel
  have four : ((encode Settings.standard Expr.fuller).run
      ((encode { Settings.standard with maxDepth := 2 } Expr.fuller).run
        (TypeTable.empty Expr.gauges UInt32.ofNat)).2).2.entries.length = 4 := by decide +kernel
  rcases ran : (encode Settings.standard Expr.fuller).run
      ((encode { Settings.standard with maxDepth := 2 } Expr.fuller).run
        (TypeTable.empty Expr.gauges UInt32.ofNat)).2 with ⟨outcome, final⟩
  rw [ran] at succeeds four
  cases outcome with
  | error error => cases succeeds
  | ok packet =>
    obtain ⟨node, _, types, contained⟩ := selfContained_encode reached ran
    exact ⟨packet, final, node, refused, rfl, types ▸ four, contained⟩

end Serializer

end PredicateWire
