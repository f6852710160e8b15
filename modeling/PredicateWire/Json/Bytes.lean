/-
This file turns bytes into text for the reader of JSON. Bytes that are valid UTF-8 are
the text they encode. A stray byte, which belongs to no character, is shown to the
reader as escapes of half surrogates: like them it is refused wherever a text is read,
and passed over inside what a record does not declare.
-/

namespace PredicateWire

namespace Json

/-- What stands for a stray byte. Of two second halves at most one can complete a pair. -/
def strayMark : List Char :=
  "\\udc00\\udc00".toList

/-- The characters of bytes from a place on. The flag says that a backslash that starts an escape
comes before; a stray byte completes no escape, and neither does the null character. -/
def charactersFrom (bytes : ByteArray) : Nat → Nat → Bool → List Char
  | 0, _, _ => []
  | fuel + 1, place, escaping =>
    if place < bytes.size then
      match bytes.utf8DecodeChar? place with
      | some character =>
        character ::
          charactersFrom bytes fuel (place + character.utf8Size) (character == '\\' && !escaping)
      | none =>
        (if escaping then ['\x00'] else strayMark) ++ charactersFrom bytes fuel (place + 1) false
    else []

/-- The text of bytes. -/
def textOfBytes (bytes : ByteArray) : String :=
  match String.fromUTF8? bytes with
  | some text => text
  | none => String.ofList (charactersFrom bytes bytes.size 0 false)

end Json

end PredicateWire
