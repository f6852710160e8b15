/-
This file maps texts to upper and to lower case. The mapping is the one of the
standard for all scripts: a character may become several, and a capital sigma
becomes a final sigma at the end of a word. Both mappings keep the order of the
characters, and on ASCII letters they are the familiar ones.
-/
import PredicateWire.Text.CaseTable

namespace PredicateWire.Text

/-! ### Single characters -/

/-- The code point where a run of shifts takes a character. -/
def Shift.apply? (shift : Shift) (code : Nat) : Option Nat :=
  if shift.first ≤ code && code ≤ shift.last && (code - shift.first) % shift.stride = 0 then
    some ((code : Int) + shift.distance).toNat
  else none

/-- The characters that a character becomes under a case mapping, from the tables of the
mapping. -/
def mapped (sequences : Array (Nat × List Nat)) (shifts : Array Shift) (character : Char) :
    List Char :=
  match sequences.find? fun entry => entry.1 == character.toNat with
  | some entry => entry.2.map Char.ofNat
  | none =>
    match shifts.findSome? fun shift => shift.apply? character.toNat with
    | some code => [Char.ofNat code]
    | none => [character]

/-- The upper case of a character. -/
def upperOf (character : Char) : List Char :=
  if character.toNat < 128 then [character.toUpper]
  else mapped upperSequences upperShifts character

/-- The lower case of a character that is not a capital sigma. -/
def lowerOf (character : Char) : List Char :=
  if character.toNat < 128 then [character.toLower]
  else mapped lowerSequences lowerShifts character

/-! ### The capital sigma -/

/-- The first character that is not passed over is one with case. -/
def meetsCased (characters : List Char) : Bool :=
  match characters.dropWhile caseIgnorable.has with
  | character :: _ => cased.has character
  | [] => false

/-- The lower case of a capital sigma between the characters before it, nearest first, and the
characters after it: final exactly at the end of a word. -/
def lowerSigma (before after : List Char) : Char :=
  if meetsCased before && !meetsCased after then 'ς' else 'σ'

/-! ### Texts -/

/-- The lower case of the characters that follow `before`, which is given nearest first. -/
def lowerAfter (before : List Char) : List Char → List Char
  | [] => []
  | character :: rest =>
    let lowered := if character = 'Σ' then [lowerSigma before rest] else lowerOf character
    lowered ++ lowerAfter (character :: before) rest

/-- A text in upper case. -/
def toUpper (text : String) : String :=
  String.ofList (text.toList.flatMap upperOf)

/-- A text in lower case. -/
def toLower (text : String) : String :=
  String.ofList (lowerAfter [] text.toList)

/-- A text with its ASCII letters in lower case and everything else as it is. -/
def toLowerAscii (text : String) : String :=
  String.ofList (text.toList.map Char.toLower)

end PredicateWire.Text
