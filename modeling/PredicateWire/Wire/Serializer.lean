/-
This file puts the two ends of the wire together. A serializer has a catalog and
settings. What it sends speaks of types by fresh keys in a table of its own; what it
receives is rebuilt with fresh parameters, against its own catalog.
-/
import PredicateWire.Catalog.Library
import PredicateWire.Evaluation.Predicate
import PredicateWire.Wire.Packet
import PredicateWire.Wire.Rebuild

namespace PredicateWire

/-- One end of the wire. -/
structure Serializer where
  catalog : Catalog
  settings : Settings

namespace Serializer

/-- Packs an expression into a type table and makes a packet of both. -/
def encode (settings : Settings) (expression : Expr) : TableM Packet := do
  let node ← Node.pack settings.maxDepth expression
  return Packet.ofNode settings.encoding node (← get)

/-- The packet of an expression. Its keys come from the given source. -/
def serialize (serializer : Serializer) (source : Nat → UInt32) (expression : Expr) :
    Result Packet :=
  ((encode serializer.settings expression).run
    (TypeTable.empty serializer.catalog source)).1

/-- The expression of a packet. Its parameters belong to the given scope. -/
def deserializeExpr (serializer : Serializer) (scope : Nat) (packet : Packet) : Result Expr := do
  let (node, table) ← packet.load serializer.catalog fun _ => 0
  (node.rebuild.run (Rebuild.start table scope serializer.settings.maxDepth)).1

/-- The predicate of a packet. -/
def deserialize (serializer : Serializer) (scope : Nat) (packet : Packet) : Result Predicate := do
  let expression ← serializer.deserializeExpr scope packet
  Predicate.ofExpr serializer.settings.maxDepth expression

/-- The readable form of a serializer. -/
def text (serializer : Serializer) : String :=
  "ExpressionSerializer \x7b config: " ++ serializer.settings.text ++ ", .. \x7d"

/-- The serializer over the built-in library with standard settings. -/
def standard : Serializer :=
  ⟨Catalog.standard, Settings.standard⟩

end Serializer

/-- The packet of an expression over the built-in library. -/
def pack (source : Nat → UInt32) (expression : Expr) : Result Packet :=
  Serializer.standard.serialize source expression

/-- The predicate of a packet over the built-in library. Records that the library does not know
are built from the captured fields in the packet. -/
def unpack (scope : Nat) (packet : Packet) : Result Predicate :=
  Serializer.standard.deserialize scope packet

end PredicateWire
