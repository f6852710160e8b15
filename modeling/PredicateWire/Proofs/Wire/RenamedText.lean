/-
This file proves that a tree with renamed keys can be sent like the tree itself. The
keys of a tree are written as strings, and neither how deeply a document nests nor
whether it can be read back depends on its strings. So the text of the renamed tree
reads as the renamed tree exactly when the text of the tree reads as the tree.

Blanked documents carry the argument: a document and the document of the renamed tree
are the same once their strings are made empty, and both properties are those of the
blanked document. What is read is then the tree in normal form, and taking constants to
normal form does not touch keys. A tree that cannot be read back is outside of this, for
what its text is read as may depend on where a number stands, and not on the keys.
-/
import PredicateWire.Proofs.Base64
import PredicateWire.Proofs.Json.Levels
import PredicateWire.Proofs.Wire.Keyless
import PredicateWire.Proofs.Wire.NodeText
import PredicateWire.Proofs.Wire.Renaming

namespace PredicateWire

open Json

variable {rename : TypeKey → TypeKey}

namespace Node

mutual

theorem normalized_renameKeys : ∀ node : Node,
    (node.renameKeys rename).normalized = node.normalized.renameKeys rename
  | lambda header body parameters name tailCall => by
    simp only [renameKeys, normalized, normalized_renameKeys body,
      normalizedAll_renameAllKeys parameters]
  | parameter header name byReference => by simp only [renameKeys, normalized]
  | binary header left right conversion method => by
    simp only [renameKeys, normalized, normalized_renameKeys left, normalized_renameKeys right,
      normalizedOption_renameOptionKeys conversion]
  | member header target read => by
    simp only [renameKeys, normalized, normalized_renameKeys target]
  | constant header value => by simp only [renameKeys, normalized]
  | call header target method arguments => by
    simp only [renameKeys, normalized, normalizedOption_renameOptionKeys target,
      normalizedAll_renameAllKeys arguments]
  | construct header constructor arguments => by
    simp only [renameKeys, normalized, normalizedAll_renameAllKeys arguments]
  | arrayInit header element elements => by
    simp only [renameKeys, normalized, normalizedAll_renameAllKeys elements]

theorem normalizedAll_renameAllKeys : ∀ nodes : List Node,
    normalizedAll (renameAllKeys rename nodes) = renameAllKeys rename (normalizedAll nodes)
  | [] => rfl
  | node :: rest => by
    simp only [renameAllKeys, normalizedAll, normalized_renameKeys node,
      normalizedAll_renameAllKeys rest]

theorem normalizedOption_renameOptionKeys : ∀ node : Option Node,
    normalizedOption (renameOptionKeys rename node) =
      renameOptionKeys rename (normalizedOption node)
  | none => rfl
  | some node => by simp only [renameOptionKeys, normalizedOption, normalized_renameKeys node]

end

/-- The text of a tree with renamed keys is read as the tree with renamed keys, if the text of the
tree is read as a tree: the two documents differ in strings only, and strings are always read
back. -/
theorem read?_renameKeys {node : Node} (readable : node.toJson.Readable) :
    Node.read? (node.renameKeys rename).written =
      (Node.read? node.written).map (Node.renameKeys rename) := by
  have renamedReadable : (node.renameKeys rename).toJson.Readable := by
    refine (readable_blank _).mp ?_
    rw [blank_renameKeys]
    exact (readable_blank _).mpr readable
  have nesting : (node.renameKeys rename).toJson.nesting = node.toJson.nesting := by
    rw [← nesting_blank, blank_renameKeys, nesting_blank]
  unfold Node.read? written
  rw [read?_written_eq renamedReadable, read?_written_eq readable, nesting]
  split
  · rw [Option.bind_some, Option.bind_some, Node.ofJson?_toJson, Node.ofJson?_toJson,
      Option.map_some, normalized_renameKeys]
  · rfl

end Node

/-- The packet of a table and a tree with renamed keys is the packet with its keys renamed. -/
theorem Packet.keysRenamed_ofNode {node : Node} (readable : node.toJson.Readable)
    (encoding : Encoding) (table : TypeTable) :
    (Packet.ofNode encoding node table).KeysRenamed rename
      (Packet.ofNode encoding (node.renameKeys rename) (table.renameKeys rename)) where
  types := rfl
  tree := by
    unfold tree treeText ofNode
    rw [Encoding.decode_encode, Encoding.decode_encode]
    dsimp only [bind, Except.bind]
    rw [Node.read?_renameKeys readable]
    cases Node.read? node.written <;> rfl

end PredicateWire
