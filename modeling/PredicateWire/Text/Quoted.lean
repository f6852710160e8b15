/-
This file quotes texts for messages. A character that has no visible form of its
own, or that would change how its neighbour looks, is written as an escape. The
quotation mark that encloses the text is escaped and the other one is not.
-/
import PredicateWire.Text.Printable

namespace PredicateWire.Text

/-- The brace that opens the code point of an escape. -/
def openBrace : String := "\x7b"

/-- The brace that closes the code point of an escape. -/
def closeBrace : String := "\x7d"

/-- An escape by code point. -/
def codeEscape (character : Char) : String :=
  "\\u" ++ openBrace ++ String.ofList (Nat.toDigits 16 character.toNat) ++ closeBrace

/-- A character inside the given quotation marks. -/
def quotedCharacter (mark character : Char) : String :=
  if character = '\x00' then "\\0"
  else if character = '\t' then "\\t"
  else if character = '\r' then "\\r"
  else if character = '\n' then "\\n"
  else if character = '\\' then "\\\\"
  else if character = mark then String.ofList ['\\', mark]
  else if extending.has character || invisible.has character then codeEscape character
  else String.singleton character

/-- A text in double quotation marks. -/
def quoted (text : String) : String :=
  "\"" ++ String.join (text.toList.map (quotedCharacter '\x22')) ++ "\""

/-- A character in single quotation marks. -/
def quotedChar (character : Char) : String :=
  "'" ++ quotedCharacter '\x27' character ++ "'"

end PredicateWire.Text
