/-
This file reads tags and directives. A tag is written in full between angle brackets,
or in short: a handle, for which a directive or the standard gives the beginning of
the tag, and the rest of it. Tags are sequences of bytes, because a percent sign and
two hexadecimal digits stand for any byte; a tag ends at its first null byte.
-/
import PredicateWire.Yaml.Cursor

namespace PredicateWire.Yaml

/-! ### Tags -/

/-- A tag, byte by byte. -/
abbrev Tag := List UInt8

namespace Tag

/-- The tag that is written with the characters of a text. -/
def ofText (text : String) : Tag :=
  text.toList.map fun character => UInt8.ofNat character.toNat

/-- The part of a tag that counts. -/
def untilNull (tag : Tag) : Tag :=
  tag.takeWhile (· != 0)

/-- The tag of what says only that it has no particular one. -/
def unspecific : Tag :=
  ofText "!"

/-- The tag of whole numbers. -/
def integer : Tag :=
  ofText "tag:yaml.org,2002:int"

/-- The name that a tag of the document's own gives: what follows the exclamation mark, or the mark
itself. Only valid text is a name. -/
def localName? : Tag → Option String
  | first :: rest =>
    if first = 0x21 then
      String.fromUTF8? (ByteArray.mk (if rest.isEmpty then [first] else rest).toArray)
    else none
  | [] => none

end Tag

/-- A tag as it is written: in full, or by a handle and the rest of the tag. -/
inductive WrittenTag
  | full (tag : Tag)
  | short (handle : List Char) (rest : Tag)

/-- A directive: the version of the format, or the beginning of the tags with a handle. -/
inductive Directive
  | version (major minor : Nat)
  | handle (handle : List Char) (beginning : Tag)

namespace WrittenTag

/-! ### Reading -/

/-- The characters of tags. Brackets and commas occur only in what has marked ends. -/
def isTagCharacter (marked : Bool) (character : Char) : Bool :=
  isNameCharacter character ||
    [';', '/', '?', ':', '@', '&', '=', '+', '$', '.', '%', '!', '~', '*', '\x27', '(',
      ')'].contains character ||
    (marked && [',', '[', ']'].contains character)

/-- The byte that an escape stands for. -/
def escapedByte? : Reading Nat := fun cursor =>
  match cursor.rest with
  | '%' :: digits => do
    let byte ← hexNumber? 2 0 digits
    return (byte, cursor.skip 3)
  | _ => none

/-- The number of bytes of a character, by the first of them. -/
def encodedLength? (byte : Nat) : Option Nat :=
  if byte < 0x80 then some 1
  else if byte < 0xC0 then none
  else if byte < 0xE0 then some 2
  else if byte < 0xF0 then some 3
  else if byte < 0xF8 then some 4
  else none

/-- So many bytes that continue a character. -/
def continuation? : Nat → Reading Tag
  | 0, cursor => some ([], cursor)
  | count + 1, cursor => do
    let (byte, cursor) ← escapedByte? cursor
    if 0x80 ≤ byte ∧ byte < 0xC0 then do
      let (bytes, cursor) ← continuation? count cursor
      return (UInt8.ofNat byte :: bytes, cursor)
    else none

/-- The bytes of a character that is written in escapes. -/
def escapedCharacter? : Reading Tag := fun cursor => do
  let (byte, cursor) ← escapedByte? cursor
  let length ← encodedLength? byte
  let (bytes, cursor) ← continuation? (length - 1) cursor
  return (UInt8.ofNat byte :: bytes, cursor)

/-- The bytes of a run of tag characters. -/
def run? (marked : Bool) : Nat → Reading Tag
  | 0, _ => none
  | fuel + 1, cursor =>
    match cursor.rest with
    | character :: _ =>
      if character = '%' then do
        let (bytes, cursor) ← escapedCharacter? cursor
        let (rest, cursor) ← run? marked fuel cursor
        return (bytes ++ rest, cursor)
      else if isTagCharacter marked character then do
        let (rest, cursor) ← run? marked fuel (cursor.skip 1)
        return (UInt8.ofNat character.toNat :: rest, cursor)
      else some ([], cursor)
    | [] => some ([], cursor)

/-- A run of tag characters that has at least one. -/
def someRun? (marked : Bool) : Reading Tag := fun cursor => do
  let (bytes, cursor) ← run? marked (cursor.rest.length + 1) cursor
  if bytes.isEmpty then none else return (bytes.untilNull, cursor)

/-- An exclamation mark, the name after it, and the exclamation mark after that if there is one. -/
def handle? : Reading (List Char) := fun cursor =>
  match cursor.rest with
  | '!' :: rest =>
    let name := rest.takeWhile isNameCharacter
    let ending := if (rest.dropWhile isNameCharacter).head? == some '!' then ['!'] else []
    let handle := '!' :: (name ++ ending)
    some (handle, cursor.skip handle.length)
  | _ => none

/-- A handle has a mark at both ends. -/
def isHandle (text : List Char) : Bool :=
  1 < text.length && text.getLast? == some '!'

/-- A tag without the check of what comes after it. -/
def unchecked? : Reading WrittenTag := fun cursor =>
  match cursor.rest with
  | '!' :: '<' :: _ => do
    let (tag, cursor) ← someRun? true (cursor.skip 2)
    if cursor.isAt '>' then return (full tag, cursor.skip 1) else none
  | _ => do
    let (beginning, cursor) ← handle? cursor
    if isHandle beginning then
      let (rest, cursor) ← someRun? false cursor
      return (short beginning rest, cursor)
    else
      let (rest, cursor) ← run? false (cursor.rest.length + 1) cursor
      let tag := (Tag.ofText (String.ofList beginning.tail) ++ rest).untilNull
      return (if tag.isEmpty then full Tag.unspecific else short ['!'] tag, cursor)

/-- A tag. It ends a word, or in brackets a comma may follow it. -/
def read? (bracketed : Bool) : Reading WrittenTag := fun cursor => do
  let (tag, cursor) ← unchecked? cursor
  if endsWord cursor.rest || (bracketed && cursor.isAt ',') then return (tag, cursor) else none

end WrittenTag

namespace Directive

/-! ### Directives -/

/-- A number of a version, which has at most nine digits. -/
def number? : Reading Nat := fun cursor =>
  let digits := cursor.rest.takeWhile isDigit
  if digits.isEmpty || 9 < digits.length then none
  else
    let value := digits.foldl (fun value digit => 10 * value + (digit.toNat - '0'.toNat)) 0
    some (value, cursor.skip digits.length)

/-- What follows the name of a version directive. -/
def version? : Reading Directive := fun cursor => do
  let (major, cursor) ← number? cursor.skipBlanks
  if cursor.isAt '.' then do
    let (minor, cursor) ← number? (cursor.skip 1)
    return (version major minor, cursor)
  else none

/-- What follows the name of a directive for a handle. The lone mark is a handle here as well. -/
def beginning? : Reading Directive := fun cursor => do
  let (name, cursor) ← WrittenTag.handle? cursor.skipBlanks
  if name == ['!'] || WrittenTag.isHandle name then
    if (cursor.rest.head?.map isBlank).getD false then do
      let (tag, cursor) ← WrittenTag.someRun? true cursor.skipBlanks
      if endsWord cursor.rest then return (handle name tag, cursor) else none
    else none
  else none

/-- A directive with the rest of its line, from after the percent sign. -/
def read? : Reading Directive := fun cursor => do
  let name := cursor.rest.takeWhile isNameCharacter
  let after := cursor.skip name.length
  let (directive, cursor) ←
    if !endsWord after.rest then none
    else if name == "YAML".toList then version? after
    else if name == "TAG".toList then beginning? after
    else none
  let cursor := cursor.skipBlanks.skipComment
  if endsLine cursor.rest then return (directive, cursor.skipBreak) else none

end Directive

end PredicateWire.Yaml
