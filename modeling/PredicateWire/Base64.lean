/-
This file writes bytes as base64 text and reads them back. Three bytes make four
characters of the standard alphabet. The last group is filled up with `=`, and
reading insists on the fill and on unused bits that are zero, so every sequence of
bytes has one text.
-/

namespace PredicateWire.Base64

/-! ### The alphabet -/

/-- The character that stands for a number below 64. -/
def symbol (value : Nat) : Char :=
  if value < 26 then Char.ofNat ('A'.toNat + value)
  else if value < 52 then Char.ofNat ('a'.toNat + (value - 26))
  else if value < 62 then Char.ofNat ('0'.toNat + (value - 52))
  else if value = 62 then '+'
  else '/'

/-- The number that a character stands for. -/
def value? (symbol : Char) : Option Nat :=
  if 'A' ≤ symbol ∧ symbol ≤ 'Z' then some (symbol.toNat - 'A'.toNat)
  else if 'a' ≤ symbol ∧ symbol ≤ 'z' then some (symbol.toNat - 'a'.toNat + 26)
  else if '0' ≤ symbol ∧ symbol ≤ '9' then some (symbol.toNat - '0'.toNat + 52)
  else if symbol = '+' then some 62
  else if symbol = '/' then some 63
  else none

/-! ### Groups -/

/-- The text of bytes. -/
def encode : List UInt8 → List Char
  | first :: second :: third :: rest =>
    let group := first.toNat * 65536 + second.toNat * 256 + third.toNat
    symbol (group / 262144) :: symbol (group / 4096 % 64) :: symbol (group / 64 % 64) ::
      symbol (group % 64) :: encode rest
  | [first, second] =>
    let group := first.toNat * 256 + second.toNat
    [symbol (group / 1024), symbol (group / 16 % 64), symbol (group % 16 * 4), '=']
  | [first] =>
    [symbol (first.toNat / 4), symbol (first.toNat % 4 * 16), '=', '=']
  | [] => []

/-- The bytes of a text. -/
def decode : List Char → Option (List UInt8)
  | [] => some []
  | [first, second, '=', '='] => do
    let a ← value? first
    let b ← value? second
    if b % 16 = 0 then some [(a * 4 + b / 16).toUInt8] else none
  | [first, second, third, '='] => do
    let a ← value? first
    let b ← value? second
    let c ← value? third
    let group := a * 1024 + b * 16 + c / 4
    if c % 4 = 0 then some [(group / 256).toUInt8, (group % 256).toUInt8] else none
  | first :: second :: third :: fourth :: rest => do
    let a ← value? first
    let b ← value? second
    let c ← value? third
    let d ← value? fourth
    let group := a * 262144 + b * 4096 + c * 64 + d
    let bytes ← decode rest
    return (group / 65536).toUInt8 :: (group / 256 % 256).toUInt8 ::
      (group % 256).toUInt8 :: bytes
  | _ => none

/-! ### Texts -/

/-- The base64 form of a text, by way of its UTF-8 bytes. -/
def ofText (text : String) : String :=
  String.ofList (encode text.toUTF8.toList)

/-- The bytes that a base64 form stands for. -/
def bytes? (text : String) : Option ByteArray :=
  (decode text.toList).map fun bytes => ⟨bytes.toArray⟩

end PredicateWire.Base64
