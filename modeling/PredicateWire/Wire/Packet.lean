/-
This file defines packets: a type table, the encoding of the node tree, and the tree
as text. `Packet.load` undoes the encoding and reads the tree. The writing of a
packet fixes the order of its members, and a packet may be read from text or bytes.
-/
import PredicateWire.Settings
import PredicateWire.Base64
import PredicateWire.Wire.Node
import PredicateWire.Json.Bytes
import PredicateWire.Json.Outline

namespace PredicateWire

/-- A packet: everything a receiver needs to rebuild an expression. -/
structure Packet where
  types : List TypeEntry
  encoding : Encoding
  payload : String
deriving DecidableEq

namespace Encoding

/-- Reads the word for an encoding. An object with the word as its only member, which is null,
will do as well. -/
def ofJson? : Json → Option Encoding
  | .string word => ofWord? word
  | .object [(word, .null)] => ofWord? word
  | _ => none

/-- A text under an encoding. -/
def encode (encoding : Encoding) (text : String) : String :=
  match encoding with
  | json => text
  | base64 => Base64.ofText text

/-- The text that an encoded text stands for. -/
def decode (encoding : Encoding) (payload : String) : Result String :=
  match encoding with
  | json => .ok payload
  | base64 =>
    match Base64.bytes? payload with
    | none => .error (.codec (.unreadable (some .base64)))
    | some bytes =>
      match String.fromUTF8? bytes with
      | some text => .ok text
      | none => .error (.codec (.unreadable (some .utf8)))

end Encoding

namespace Packet

/-! ### Texts of packets -/

/-- A packet as JSON. -/
def toJson (packet : Packet) : Json :=
  .object [("types", TypeEntry.listToJson packet.types), ("enc", .string packet.encoding.word),
    ("data", .string packet.payload)]

/-- The text of a packet. -/
def written (packet : Packet) : String :=
  packet.toJson.written

/-- The declared members of a packet. -/
def outline : Json.Outline :=
  .record [("types", .list TypeEntry.outline), ("enc", .whole), ("data", .whole)]

/-- Reads a packet. -/
def ofJson? (document : Json) : Option Packet := do
  match ← document.fields? ["types", "enc", "data"] with
  | [types, encoding, payload] => do
    let types ← Json.required (Json.listOf TypeEntry.ofJson?) types
    let encoding ← Json.required Encoding.ofJson? encoding
    let payload ← Json.required Json.string? payload
    return ⟨types, encoding, payload⟩
  | _ => none

/-- Reads the text of a packet. -/
def read (text : String) : Result Packet :=
  match (outline.read? text).bind ofJson? with
  | some packet => .ok packet
  | none => .error (.codec (.unreadable none))

/-- The bytes of a packet. -/
def toBytes (packet : Packet) : ByteArray :=
  packet.written.toUTF8

/-- Reads the bytes of a packet. -/
def ofBytes (bytes : ByteArray) : Result Packet :=
  read (Json.textOfBytes bytes)

/-! ### Trees of packets -/

/-- The text of the node tree. -/
def treeText (packet : Packet) : Result String :=
  packet.encoding.decode packet.payload

/-- The packet of a node tree and a type table. -/
def ofNode (encoding : Encoding) (node : Node) (table : TypeTable) : Packet :=
  ⟨table.entries, encoding, encoding.encode node.written⟩

/-- The node tree of a packet and a type table with its entries. -/
def load (packet : Packet) (catalog : Catalog) (source : Nat → UInt32) :
    Result (Node × TypeTable) := do
  let table ← TypeTable.ofEntries catalog source packet.types
  let text ← packet.treeText
  match Node.read? text with
  | some node => .ok (node, table)
  | none => .error (.codec (.unreadable (some .tree)))

/-- The packet with every type key in its table and its tree renamed. The tree may nest more
deeply than a receiver would read; one that cannot be read at all is left as it is. -/
def renameKeys (rename : TypeKey → TypeKey) (packet : Packet) : Packet :=
  let payload :=
    match packet.treeText with
    | .ok text =>
      match (Json.readWithin? text.length text).bind Node.ofJson? with
      | some node => packet.encoding.encode (node.renameKeys rename).written
      | none => packet.payload
    | .error _ => packet.payload
  { packet with types := packet.types.map (TypeEntry.renameKeys rename), payload := payload }

end Packet

end PredicateWire
