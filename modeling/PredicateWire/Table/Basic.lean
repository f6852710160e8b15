/-
This file defines type tables and the sending side of their work. A table lives for
one packet. `TypeTable.pack` gives every type a key when it is met first, together
with the types that its instances are closed over, and captures the fields of
records on request, so that a receiver can build records it has never heard of.
`TypeTable.load` installs the entries of a packet. What happened before an operation
fails stays.
-/
import PredicateWire.Catalog.Basic
import PredicateWire.Table.Entry

namespace PredicateWire

/-- A type table: the entries in the order in which they came, the keys whose fields have been
captured, the types already found for keys, and the source of fresh keys with the number of draws
made from it. -/
structure TypeTable where
  catalog : Catalog
  entries : List TypeEntry
  captured : List TypeKey
  resolved : List (TypeKey × DataType)
  source : Nat → UInt32
  drawn : Nat

/-- Work on a type table that can fail. -/
abbrev TableM := ExceptT Error (StateM TypeTable)

namespace TypeTable

/-- The table without entries. -/
def empty (catalog : Catalog) (source : Nat → UInt32) : TypeTable :=
  ⟨catalog, [], [], [], source, 0⟩

/-! ### Lookup -/

/-- The number of entries. -/
def size (table : TypeTable) : Nat :=
  table.entries.length

/-- The entry of a key. -/
def entryOf? (table : TypeTable) (key : TypeKey) : Option TypeEntry :=
  table.entries.find? fun entry => entry.key == key

/-- The table has an entry for a key. -/
def hasKey (table : TypeTable) (key : TypeKey) : Bool :=
  (table.entryOf? key).isSome

/-- The key of the first entry with a canonical name. -/
def keyOf? (table : TypeTable) (name : String) : Option TypeKey :=
  (table.entries.find? fun entry => entry.name == name).map TypeEntry.key

/-- The type already found for a key. -/
def resolved? (table : TypeTable) (key : TypeKey) : Option DataType :=
  (table.resolved.find? fun entry => entry.1 == key).map Prod.snd

/-- The readable form of a table. -/
def text (table : TypeTable) : String :=
  "TypeRegistry \x7b types: " ++ toString table.size ++ ", .. \x7d"

/-! ### Changes -/

/-- Adds an entry. -/
def push (table : TypeTable) (entry : TypeEntry) : TypeTable :=
  { table with entries := table.entries ++ [entry] }

/-- Notes the type found for a key. -/
def remember (table : TypeTable) (key : TypeKey) (type : DataType) : TypeTable :=
  { table with resolved := (key, type) :: table.resolved }

/-- Notes that the fields of a key are captured. -/
def markCaptured (table : TypeTable) (key : TypeKey) : TypeTable :=
  { table with captured := key :: table.captured }

/-- Gives the entry of a key its captured fields. -/
def setFields (table : TypeTable) (key : TypeKey) (fields : List FieldEntry) : TypeTable :=
  { table with
    entries := table.entries.map fun entry =>
      if entry.key = key then { entry with structural := true, fields := fields } else entry }

/-! ### Fresh keys -/

/-- The number of draws after which the search for a fresh key is given up. -/
def greatestAttempts : Nat := 64

/-- Draws keys until one is not taken. -/
def drawKey : Nat → TableM TypeKey
  | 0 => throw (.keyCollision greatestAttempts)
  | attempts + 1 => do
    let table ← get
    let key := TypeKey.ofNumber (table.source table.drawn)
    set { table with drawn := table.drawn + 1 }
    if table.hasKey key then drawKey attempts else return key

/-! ### Packing -/

/-- The key of a type, with a new entry if its name has none. -/
def enter (type : DataType) : TableM TypeKey := do
  match (← get).keyOf? type.canonicalName with
  | some key => return key
  | none => do
    let key ← drawKey greatestAttempts
    modify fun table =>
      (table.push (TypeEntry.plain key type.canonicalName)).remember key type
    return key

/-- An argument type travels with the type that is closed over it: records because their fields
may be captured, and types that have arguments themselves. -/
def travels (type : DataType) : Bool :=
  type.isRecord || !type.arguments.isEmpty

/-- Captures the fields of a key, once. -/
def capture (key : TypeKey) (fields : TableM (List FieldEntry)) : TableM Unit := do
  if (← get).captured.contains key then return ()
  else
    modify fun table => table.markCaptured key
    let entries ← fields
    modify fun table => table.setFields key entries

mutual

/-- The key of a type. The types it is closed over are packed as well, and with `structural` set
the fields of records are captured. -/
def pack (structural : Bool) : DataType → TableM TypeKey
  | .array element => do
    let key ← enter (.array element)
    if travels element then
      let _ ← pack structural element
    return key
  | .generic name family arguments => do
    let key ← enter (.generic name family arguments)
    packArguments structural arguments
    if structural && family == .record then capture key (pure [])
    return key
  | .record name fields captured => do
    let key ← enter (.record name fields captured)
    if structural then capture key (packFields fields)
    return key
  | .primitive kind => enter (.primitive kind)
  | .object => enter .object
  | .holder name => enter (.holder name)
  | .parameter owner position => enter (.parameter owner position)

/-- Packs the argument types that have to travel. -/
def packArguments (structural : Bool) : List DataType → TableM Unit
  | [] => return ()
  | type :: rest => do
    if travels type then
      let _ ← pack structural type
    packArguments structural rest

/-- Packs the types of fields, capturing the records among them. -/
def packFields : List (Field DataType) → TableM (List FieldEntry)
  | [] => return []
  | ⟨name, type, _⟩ :: rest => do
    let key ← pack true type
    let tail ← packFields rest
    return ⟨name, key⟩ :: tail

end

/-! ### Loading -/

/-- Adds entries in order. The first one whose key is taken stops the work. -/
def loadEntries : List TypeEntry → TableM Unit
  | [] => return ()
  | entry :: rest => do
    if (← get).hasKey entry.key then throw (.codec (.duplicateKey entry.key.text))
    modify fun table => table.push entry
    loadEntries rest

/-- The first field key in the table that no entry has. -/
def danglingKey? (table : TypeTable) : Option TypeKey :=
  (table.entries.flatMap fun entry => entry.fields.map FieldEntry.key).find? fun key =>
    !table.hasKey key

/-- Installs the entries of a packet. Every field key has to be in the table. -/
def load (entries : List TypeEntry) : TableM Unit := do
  loadEntries entries
  match (← get).danglingKey? with
  | some key => throw (.unknownTypeKey key.text)
  | none => return ()

/-- A table with the entries of a packet. -/
def ofEntries (catalog : Catalog) (source : Nat → UInt32) (entries : List TypeEntry) :
    Result TypeTable :=
  match (load entries).run (empty catalog source) with
  | (.ok _, table) => .ok table
  | (.error error, _) => .error error

end TypeTable

end PredicateWire
