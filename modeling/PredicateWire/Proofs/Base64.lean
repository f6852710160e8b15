/-
This file proves that the base64 form of a text stands for the text. The type table and
the tree of a packet travel as texts in one of two encodings, and every theorem about
what a receiver gets starts by decoding them, so the one fact that is needed elsewhere
is `Encoding.decode_encode`: whatever an encoding makes of a text is decoded to that
text.

The symbols come first, one for each number below 64. A group of four symbols stands for
three bytes, and a last group with fills for one or two, so reading back is an induction
on the bytes in steps of three. What is left is about texts: their bytes are valid
UTF-8, and a byte array is the same as the list of its bytes, which the library defines
by a loop.
-/
import PredicateWire.Wire.Packet

namespace PredicateWire

namespace Base64

/-! ### Symbols -/

/-- The symbol of a number below 64 is read as that number. -/
theorem value?_symbol {value : Nat} (small : value < 64) : value? (symbol value) = some value := by
  have all : ∀ value, value < 64 → value? (symbol value) = some value := by decide
  exact all value small

/-- No symbol of a number is the fill, so the end of a text in base64 can be told from its
inside. -/
theorem symbol_ne_fill {value : Nat} (small : value < 64) : symbol value ≠ '=' := by
  have all : ∀ value, value < 64 → symbol value ≠ '=' := by decide
  exact all value small

/-- A group whose last symbol is no fill is read on its own, and the rest of the text is read after
it: only the last group may be filled up. -/
theorem decode_group {first second third fourth : Char} (rest : List Char)
    (notFill : fourth ≠ '=') :
    decode (first :: second :: third :: fourth :: rest) = (do
      let a ← value? first
      let b ← value? second
      let c ← value? third
      let d ← value? fourth
      let group := a * 262144 + b * 4096 + c * 64 + d
      let bytes ← decode rest
      return (group / 65536).toUInt8 :: (group / 256 % 256).toUInt8 ::
        (group % 256).toUInt8 :: bytes) := by
  rw [decode]
  · intro _ filled _
    exact notFill filled
  · intro filled _
    exact notFill filled

theorem toUInt8_toNat (byte : UInt8) {number : Nat} (same : number = byte.toNat) :
    number.toUInt8 = byte := by
  rw [same]
  exact UInt8.ofNat_toNat

/-! ### Groups -/

/-- The symbols of any bytes are read as these bytes. The induction takes three bytes at a time, the
last group with one or two bytes being filled up. -/
theorem decode_encode (bytes : List UInt8) : decode (encode bytes) = some bytes := by
  induction bytes using encode.induct with
  | case1 first second third rest inductionHypothesis =>
    have firstBound := first.toNat_lt
    have secondBound := second.toNat_lt
    have thirdBound := third.toNat_lt
    rw [encode, decode_group _ (symbol_ne_fill (by omega)), value?_symbol (by omega),
      value?_symbol (by omega), value?_symbol (by omega), value?_symbol (by omega),
      inductionHypothesis]
    simp only [Option.pure_def, Option.bind_eq_bind, Option.bind_some]
    rw [toUInt8_toNat first (by omega), toUInt8_toNat second (by omega),
      toUInt8_toNat third (by omega)]
  | case2 first second =>
    have firstBound := first.toNat_lt
    have secondBound := second.toNat_lt
    have notFill : symbol ((first.toNat * 256 + second.toNat) % 16 * 4) ≠ '=' :=
      symbol_ne_fill (by omega)
    rw [encode, decode, value?_symbol (by omega), value?_symbol (by omega),
      value?_symbol (by omega)]
    · simp only [Option.bind_eq_bind, Option.bind_some]
      rw [if_pos (by omega), toUInt8_toNat first (by omega),
        toUInt8_toNat second (by omega)]
    · intro filled
      exact notFill filled
  | case3 first =>
    have firstBound := first.toNat_lt
    rw [encode, decode, value?_symbol (by omega), value?_symbol (by omega)]
    simp only [Option.bind_eq_bind, Option.bind_some]
    rw [if_pos (by omega), toUInt8_toNat first (by omega)]
  | case4 => rfl

/-! ### Texts -/

/-- The loop by which the library lists the bytes of an array, from the inside: what has been read
is reversed, and what follows a place is dropped. -/
theorem toList_loop (bytes : ByteArray) (place : Nat) (read : List UInt8) :
    ByteArray.toList.loop bytes place read = read.reverse ++ bytes.data.toList.drop place := by
  fun_induction ByteArray.toList.loop bytes place read with
  | case1 place read inside inductionHypothesis =>
    have bounded : place < bytes.data.toList.length := inside
    have item : bytes.get! place = bytes.data.toList[place] := by
      show bytes.data[place]! = _
      rw [getElem!_pos bytes.data place inside, Array.getElem_toList]
    rw [inductionHypothesis, List.drop_eq_getElem_cons bounded, item, List.reverse_cons,
      List.append_assoc, List.singleton_append]
  | case2 place read outside =>
    have bounded : bytes.data.toList.length ≤ place := Nat.le_of_not_lt outside
    rw [List.drop_eq_nil_of_le bounded, List.append_nil]

theorem toArray_toList (bytes : ByteArray) : (⟨bytes.toList.toArray⟩ : ByteArray) = bytes := by
  rw [ByteArray.toList, toList_loop]
  rfl

/-- The base64 form of a text is read as the bytes of the text. -/
theorem bytes?_ofText (text : String) : bytes? (ofText text) = some text.toUTF8 := by
  rw [bytes?, ofText, String.toList_ofList, decode_encode, Option.map_some, toArray_toList]

end Base64

/-- What an encoding has made of a text is decoded to the text, for both encodings of a packet. The
bytes that come out are the UTF-8 form of a text, so decoding them cannot fail. -/
theorem Encoding.decode_encode (encoding : Encoding) (text : String) :
    encoding.decode (encoding.encode text) = .ok text := by
  cases encoding with
  | json => rfl
  | base64 =>
    have valid : String.fromUTF8? text.toUTF8 = some text := dif_pos text.isValidUTF8
    simp only [encode, decode, Base64.bytes?_ofText, valid]

end PredicateWire
