/-
This file defines sets of characters that are given by ranges of code points, and the
set of blank characters, which trimming removes from both ends of a text.
-/

namespace PredicateWire.Text

/-- A set of code points, as ranges with both ends included. -/
structure Ranges where
  spans : Array (Nat × Nat)

/-- The set has a character. -/
def Ranges.has (ranges : Ranges) (character : Char) : Bool :=
  ranges.spans.any fun span => span.1 ≤ character.toNat && character.toNat ≤ span.2

/-- The blank characters. -/
def blanks : Ranges := ⟨#[
    (9, 13), (32, 32), (133, 133), (160, 160), (5760, 5760), (8192, 8202), (8232, 8233),
    (8239, 8239), (8287, 8287), (12288, 12288)]⟩

/-- Removes the blanks at the front. -/
def dropBlanks (characters : List Char) : List Char :=
  characters.dropWhile blanks.has

/-- A text without the blanks at both ends. -/
def trim (text : String) : String :=
  String.ofList (dropBlanks (dropBlanks text.toList).reverse).reverse

end PredicateWire.Text
