/-
This file defines places in a YAML text. A cursor knows what is left of the text, how
many bytes of UTF-8 came before, its line, and how many characters of the line came
before, all counted from zero. A carriage return and a line feed after it are one line
break.
-/
import PredicateWire.Yaml.Character

namespace PredicateWire.Yaml

/-- A place in a text. -/
structure Cursor where
  rest : List Char
  offset : Nat
  line : Nat
  column : Nat

namespace Cursor

/-- The start of a text. -/
def start (text : List Char) : Cursor :=
  ⟨text, 0, 0, 0⟩

/-- The next character is a given one. -/
def isAt (cursor : Cursor) (character : Char) : Bool :=
  cursor.rest.head? == some character

/-- The number of bytes that characters take. -/
def byteCount (characters : List Char) : Nat :=
  characters.foldl (fun count character => count + character.utf8Size) 0

/-- The place after so many characters of this line. -/
def skip (cursor : Cursor) (count : Nat) : Cursor :=
  { cursor with
    rest := cursor.rest.drop count
    offset := cursor.offset + byteCount (cursor.rest.take count)
    column := cursor.column + count }

/-- The place after the characters of this line that have a property. -/
def skipWhile (cursor : Cursor) (property : Char → Bool) : Cursor :=
  cursor.skip (cursor.rest.takeWhile property).length

/-- The place after the blanks of this line. -/
def skipBlanks (cursor : Cursor) : Cursor :=
  cursor.skipWhile isBlank

/-- The end of this line, if a comment starts here. -/
def skipComment (cursor : Cursor) : Cursor :=
  if cursor.isAt '#' then cursor.skipWhile fun character => !isBreak character else cursor

/-- The place after the line break that comes next, if one does. -/
def skipBreak (cursor : Cursor) : Cursor :=
  match cursor.rest with
  | '\r' :: '\n' :: rest => ⟨rest, cursor.offset + 2, cursor.line + 1, 0⟩
  | character :: rest =>
    if isBreak character then ⟨rest, cursor.offset + character.utf8Size, cursor.line + 1, 0⟩
    else cursor
  | [] => cursor

/-- What the line break that comes next contributes to a scalar: a line feed, unless it is a
separator of lines or paragraphs. -/
def breakText (cursor : Cursor) : List Char :=
  match cursor.rest with
  | '\u2028' :: _ => ['\u2028']
  | '\u2029' :: _ => ['\u2029']
  | character :: _ => if isBreak character then ['\n'] else []
  | [] => []

/-- A line starts here with a character three times and nothing attached to it. -/
def isAtTriple (cursor : Cursor) (character : Char) : Bool :=
  cursor.column == 0 && [character, character, character].isPrefixOf cursor.rest &&
    endsWord (cursor.rest.drop 3)

/-- A document starts or ends here. -/
def isAtMarker (cursor : Cursor) : Bool :=
  cursor.isAtTriple '-' || cursor.isAtTriple '.'

end Cursor

/-- A way to read something from a place on. -/
abbrev Reading (Content : Type) := Cursor → Option (Content × Cursor)

end PredicateWire.Yaml
