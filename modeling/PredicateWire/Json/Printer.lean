/-
This file writes JSON documents without blanks. Members stand in the order in which
the object has them.
-/
import PredicateWire.Json.Basic
import PredicateWire.Decimal.Shortest

namespace PredicateWire

namespace Json

/-- A hexadecimal digit. -/
def hexDigit (value : Nat) : Char :=
  Nat.digitChar value

/-- A character inside a JSON string. -/
def escaped (character : Char) : List Char :=
  if character = '\x22' then ['\\', '\x22']
  else if character = '\\' then ['\\', '\\']
  else if character = '\x08' then ['\\', 'b']
  else if character = '\x0c' then ['\\', 'f']
  else if character = '\n' then ['\\', 'n']
  else if character = '\r' then ['\\', 'r']
  else if character = '\t' then ['\\', 't']
  else if character.toNat < 32 then
    ['\\', 'u', '0', '0', hexDigit (character.toNat / 16), hexDigit (character.toNat % 16)]
  else [character]

/-- The written form of a JSON string. -/
def writtenString (text : String) : String :=
  "\"" ++ String.ofList (text.toList.flatMap escaped) ++ "\""

/-- Several texts with commas between them. -/
def commaJoined (parts : List String) : String :=
  ",".intercalate parts

mutual

/-- The written form of a document. -/
def written : Json → String
  | null => "null"
  | bool value => if value then "true" else "false"
  | integer value => toString value
  | double value => Decimal.document.text value
  | string value => writtenString value
  | array items => "[" ++ commaJoined (writtenItems items) ++ "]"
  | object members => "\x7b" ++ commaJoined (writtenMembers members) ++ "\x7d"

/-- The written forms of the items of an array. -/
def writtenItems : List Json → List String
  | [] => []
  | item :: rest => written item :: writtenItems rest

/-- The written forms of the members of an object. -/
def writtenMembers : List (String × Json) → List String
  | [] => []
  | (name, value) :: rest => (writtenString name ++ ":" ++ written value) :: writtenMembers rest

end

end Json

end PredicateWire
