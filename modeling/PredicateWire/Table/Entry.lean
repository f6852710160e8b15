/-
This file defines the entries of a type table: the key under which a packet speaks
of a type, its canonical name and, if the entry is structural, its captured fields.
A generated key is a number sign and eight hexadecimal digits, but any text that a
packet brings will do.
-/
import PredicateWire.Json.Record
import PredicateWire.Json.Outline
import PredicateWire.Error

namespace PredicateWire

/-! ### Keys -/

/-- The name of a type within one packet. -/
structure TypeKey where
  text : String
deriving DecidableEq

namespace TypeKey

/-- The number of hexadecimal digits in a generated key. -/
def width : Nat := 8

/-- The generated key of a number. -/
def ofNumber (number : UInt32) : TypeKey :=
  let digits := (Nat.toDigits 16 number.toNat).map Char.toUpper
  ⟨String.ofList ('#' :: (List.replicate (width - digits.length) '0' ++ digits))⟩

/-- The key bears the mark of generated keys. -/
def isRegistered (key : TypeKey) : Bool :=
  key.text.toList.head? == some '#'

/-- A key as JSON. -/
def toJson (key : TypeKey) : Json :=
  .string key.text

/-- Reads a key. -/
def ofJson? (document : Json) : Option TypeKey :=
  document.string?.map TypeKey.mk

end TypeKey

/-! ### Entries -/

/-- A captured field. -/
structure FieldEntry where
  name : String
  key : TypeKey
deriving DecidableEq

/-- An entry of a type table. The fields count only if the entry is structural. -/
structure TypeEntry where
  key : TypeKey
  name : String
  structural : Bool
  fields : List FieldEntry
deriving DecidableEq

namespace FieldEntry

/-- A captured field as JSON. -/
def toJson (field : FieldEntry) : Json :=
  .object [("n", .string field.name), ("t", field.key.toJson)]

/-- The declared members of a captured field. -/
def outline : Json.Outline :=
  .ofNames ["n", "t"]

/-- Reads a captured field. -/
def ofJson? (document : Json) : Option FieldEntry := do
  match ← document.fields? ["n", "t"] with
  | [name, key] => do
    let name ← Json.required Json.string? name
    let key ← Json.required TypeKey.ofJson? key
    return ⟨name, key⟩
  | _ => none

/-- The field with its key renamed. -/
def renameKeys (rename : TypeKey → TypeKey) (field : FieldEntry) : FieldEntry :=
  { field with key := rename field.key }

end FieldEntry

namespace TypeEntry

/-- An entry without captured fields. -/
def plain (key : TypeKey) (name : String) : TypeEntry :=
  ⟨key, name, false, []⟩

/-- An entry as JSON. -/
def toJson (entry : TypeEntry) : Json :=
  .object ([("k", entry.key.toJson), ("n", .string entry.name)] ++
    Json.flagMember "s" entry.structural ++ Json.listMember "f" FieldEntry.toJson entry.fields)

/-- The declared members of an entry. -/
def outline : Json.Outline :=
  .record [("k", .whole), ("n", .whole), ("s", .whole), ("f", .list FieldEntry.outline)]

/-- Reads an entry. -/
def ofJson? (document : Json) : Option TypeEntry := do
  match ← document.fields? ["k", "n", "s", "f"] with
  | [key, name, structural, fields] => do
    let key ← Json.required TypeKey.ofJson? key
    let name ← Json.required Json.string? name
    let structural ← Json.withDefault false Json.bool? structural
    let fields ← Json.withDefault [] (Json.listOf FieldEntry.ofJson?) fields
    return ⟨key, name, structural, fields⟩
  | _ => none

/-- The entry with its keys renamed. -/
def renameKeys (rename : TypeKey → TypeKey) (entry : TypeEntry) : TypeEntry :=
  { entry with
    key := rename entry.key
    fields := entry.fields.map (FieldEntry.renameKeys rename) }

/-- The key that counts an entry: the generated key of its place, starting from one. Two tables
whose generated keys differ only by chance become equal when their keys are renamed so. -/
def placeKey (entries : List TypeEntry) (key : TypeKey) : TypeKey :=
  match entries.findIdx? fun entry => entry.key == key with
  | some place => TypeKey.ofNumber (UInt32.ofNat (place + 1))
  | none => key

/-- Several entries as JSON. -/
def listToJson (entries : List TypeEntry) : Json :=
  .array (entries.map toJson)

/-- Reads the text of one entry. -/
def read (text : String) : Result TypeEntry :=
  match (outline.read? text).bind ofJson? with
  | some entry => .ok entry
  | none => .error (.codec (.unreadable none))

/-- Reads the text of several entries. -/
def readList (text : String) : Result (List TypeEntry) :=
  match ((Json.Outline.list outline).read? text).bind (Json.listOf ofJson?) with
  | some entries => .ok entries
  | none => .error (.codec (.unreadable none))

end TypeEntry

end PredicateWire
