/-
This file proves that the wire format loses nothing. A node is read from its document as
it was written, and a packet from its text and from its bytes. Constants are documents
in order, which is how documents are held once they are read. The types of a packet are
read through an outline, so the outline of a packet has to cover what a packet writes.

The format leaves things out: flags that are not set, lists that are empty, names and
methods that are absent. What is left out has to be told apart from what is written, and
so each of these members has a reader that knows what its absence means. The tree is a
text inside of the packet, encoded or as it is, and it is not looked into when the
packet is read. Nothing is assumed of keys, of names or of the tree, so packets that no
sender would make come through as well.
-/
import PredicateWire.Proofs.Json.Normal
import PredicateWire.Proofs.Json.Outlined
import PredicateWire.Proofs.Value.Literal
import PredicateWire.Proofs.Wire.NodeText
import PredicateWire.Wire.Packet

namespace PredicateWire

/-! ### Nodes -/

namespace Node

mutual

/-- The documents of the constants in a tree. -/
def constants : Node → List Json
  | lambda _ body parameters _ _ => constants body ++ constantsOfAll parameters
  | parameter _ _ _ => []
  | binary _ left right conversion _ =>
    constants left ++ (constants right ++ constantsOfOption conversion)
  | member _ target _ => constants target
  | constant _ value => [value]
  | call _ target _ arguments => constantsOfOption target ++ constantsOfAll arguments
  | construct _ _ arguments => constantsOfAll arguments
  | arrayInit _ _ elements => constantsOfAll elements

/-- The documents of the constants in several trees. -/
def constantsOfAll : List Node → List Json
  | [] => []
  | node :: rest => constants node ++ constantsOfAll rest

/-- The documents of the constants in a tree that may be absent. -/
def constantsOfOption : Option Node → List Json
  | none => []
  | some node => constants node

end

mutual

/-- A tree whose constants are in order has them in normal form. -/
theorem normalized_eq : ∀ {node : Node}, (∀ document ∈ node.constants, document.Ordered) →
    node.normalized = node
  | lambda .., ordered => by
    rw [constants, List.forall_mem_append] at ordered
    rw [normalized, normalized_eq ordered.1, normalizedAll_eq ordered.2]
  | parameter .., _ => by rw [normalized]
  | binary .., ordered => by
    rw [constants, List.forall_mem_append, List.forall_mem_append] at ordered
    rw [normalized, normalized_eq ordered.1, normalized_eq ordered.2.1,
      normalizedOption_eq ordered.2.2]
  | member .., ordered => by
    rw [constants] at ordered
    rw [normalized, normalized_eq ordered]
  | constant .., ordered => by
    rw [constants, List.forall_mem_singleton] at ordered
    rw [normalized, ordered.normalize_eq]
  | call .., ordered => by
    rw [constants, List.forall_mem_append] at ordered
    rw [normalized, normalizedOption_eq ordered.1, normalizedAll_eq ordered.2]
  | construct .., ordered => by
    rw [constants] at ordered
    rw [normalized, normalizedAll_eq ordered]
  | arrayInit .., ordered => by
    rw [constants] at ordered
    rw [normalized, normalizedAll_eq ordered]

theorem normalizedAll_eq : ∀ {nodes : List Node},
    (∀ document ∈ constantsOfAll nodes, document.Ordered) → normalizedAll nodes = nodes
  | [], _ => by rw [normalizedAll]
  | _ :: _, ordered => by
    rw [constantsOfAll, List.forall_mem_append] at ordered
    rw [normalizedAll, normalized_eq ordered.1, normalizedAll_eq ordered.2]

theorem normalizedOption_eq : ∀ {node? : Option Node},
    (∀ document ∈ constantsOfOption node?, document.Ordered) → normalizedOption node? = node?
  | none, _ => by rw [normalizedOption]
  | some _, ordered => by
    rw [constantsOfOption] at ordered
    rw [normalizedOption, normalized_eq ordered]

end

end Node

/-! ### Entries of type tables -/

theorem FieldEntry.ofJson?_toJson (field : FieldEntry) : ofJson? field.toJson = some field := by
  simp [ofJson?, toJson, Json.fields?, Json.declared?, Entries.get?, Json.required, Json.string?]

theorem TypeEntry.ofJson?_toJson (entry : TypeEntry) : ofJson? entry.toJson = some entry := by
  obtain ⟨key, name, structural, fields⟩ := entry
  have read := Json.listOf_map FieldEntry.ofJson?_toJson
  by_cases noFields : fields = [] <;> cases structural <;>
    simp [ofJson?, toJson, Json.fields?, Json.declared?, Json.flagMember, Json.listMember,
      Entries.get?, Json.required, Json.withDefault, Json.string?, Json.bool?, read, noFields]

section Outlines

open Json Outline

theorem FieldEntry.covers (field : FieldEntry) : Covers outline field.toJson :=
  .cons rfl (covers_string _) (.cons rfl (covers_string _) .nil)

theorem TypeEntry.covers (entry : TypeEntry) : Covers outline entry.toJson :=
  have named := .cons rfl (covers_string _) (.cons rfl (covers_string _) .nil)
  .append (.append named (.flagMember rfl _)) (.listMember rfl FieldEntry.covers _)

end Outlines

/-! ### Packets -/

theorem Encoding.ofJson?_word (encoding : Encoding) :
    ofJson? (.string encoding.word) = some encoding := by
  cases encoding <;> rfl

namespace Packet

theorem ofJson?_toJson (packet : Packet) : ofJson? packet.toJson = some packet := by
  have types := Json.listOf_map TypeEntry.ofJson?_toJson packet.types
  simp [ofJson?, toJson, Json.fields?, Json.declared?, Entries.get?, Json.required, Json.string?,
    TypeEntry.listToJson, types, Encoding.ofJson?_word]

open Json.Outline in
theorem covers (packet : Packet) : Covers outline packet.toJson := by
  refine .cons rfl (.list fun document member => ?_)
    (.cons rfl (covers_string _) (.cons rfl (covers_string _) .nil))
  obtain ⟨entry, _, rfl⟩ := List.mem_map.mp member
  exact entry.covers

theorem read_written (packet : Packet) : read packet.written = .ok packet := by
  rw [read, written, Json.Outline.read?_written packet.covers, Option.bind_some, ofJson?_toJson]

/-- The bytes of a text are its encoding, so no byte is stray. -/
theorem ofBytes_toBytes (packet : Packet) : ofBytes packet.toBytes = .ok packet := by
  have valid : String.fromUTF8? packet.written.toUTF8 = some packet.written :=
    dif_pos packet.written.isValidUTF8
  rw [ofBytes, toBytes, Json.textOfBytes, valid]
  exact read_written packet

end Packet

/-! ### The wire format -/

/-- Every node is read from its document, and every packet from its text and from its bytes. A
constant is a document as it is held once it is read, that is, in order. -/
theorem readsBack_wireFormat :
    (∀ node : Node, (∀ document ∈ node.constants, document.Ordered) →
      Node.ofJson? node.toJson = some node) ∧
    ∀ packet : Packet, Packet.read packet.written = .ok packet ∧
      Packet.ofBytes packet.toBytes = .ok packet := by
  refine ⟨fun node ordered => ?_, fun packet => ⟨packet.read_written, packet.ofBytes_toBytes⟩⟩
  rw [Node.ofJson?_toJson, Node.normalized_eq ordered]

/-- A call without a target whose kind is that of a lambda, applied to null and to an object. -/
def lambdaLikeCall : Node :=
  .call ⟨.lambda, ⟨"#00000001"⟩, true⟩ none ⟨⟨""⟩, "m", [], some 2, [⟨"k"⟩]⟩
    [.constant ⟨.constant, ⟨"k"⟩, false⟩ .null,
      .constant ⟨.call, ⟨"k"⟩, true⟩ (.object [("a", .array []), ("b", .null)])]

theorem readsBack_wireFormat_lambdaLikeCall :
    Node.ofJson? lambdaLikeCall.toJson = some lambdaLikeCall := by
  refine readsBack_wireFormat.1 lambdaLikeCall fun document member => ?_
  simp only [lambdaLikeCall, Node.constants, Node.constantsOfOption, Node.constantsOfAll,
    List.nil_append, List.append_nil, List.cons_append] at member
  rcases List.mem_cons.mp member with rfl | last
  · trivial
  cases List.mem_singleton.mp last
  exact ⟨List.pairwise_pair.mpr (by decide), trivial, trivial, trivial⟩

end PredicateWire
