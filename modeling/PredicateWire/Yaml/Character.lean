/-
This file sorts the characters of YAML: the ones that a text may hold at all, blanks
and line breaks, the characters of names, and the indicators that structure a
document.
-/

namespace PredicateWire.Yaml

/-- A text may hold tabs, line breaks and what can be printed. -/
def isAllowed (character : Char) : Bool :=
  let code := character.toNat
  code == 0x9 || code == 0xA || code == 0xD || (0x20 ≤ code && code ≤ 0x7E) || code == 0x85 ||
    (0xA0 ≤ code && code ≤ 0xD7FF) || (0xE000 ≤ code && code ≤ 0xFFFD) || 0x10000 ≤ code

/-- The blanks within a line. -/
def isBlank (character : Char) : Bool :=
  character == ' ' || character == '\t'

/-- The characters that end a line: besides the usual two, the next line control character and
the line and paragraph separators. -/
def isBreak (character : Char) : Bool :=
  character == '\n' || character == '\r' || character == '\u0085' || character == '\u2028' ||
    character == '\u2029'

/-- A line ends here. -/
def endsLine : List Char → Bool
  | [] => true
  | character :: _ => isBreak character

/-- A blank, or the end of the line, comes next. -/
def endsWord : List Char → Bool
  | [] => true
  | character :: _ => isBlank character || isBreak character

/-- The characters of names. -/
def isNameCharacter (character : Char) : Bool :=
  ('0' ≤ character && character ≤ '9') || ('A' ≤ character && character ≤ 'Z') ||
    ('a' ≤ character && character ≤ 'z') || character == '_' || character == '-'

/-- The characters that structure sequences and mappings in brackets. -/
def isStructural (character : Char) : Bool :=
  [',', '[', ']', '\x7b', '\x7d'].contains character

/-- The characters with which no plain scalar starts, except that three of them may come first
when they do not stand alone. -/
def isIndicator (character : Char) : Bool :=
  isStructural character ||
    ['-', '?', ':', '#', '&', '*', '!', '|', '>', '\x27', '\x22', '%', '@', '\x60'].contains
      character

/-- The decimal digits. -/
def isDigit (character : Char) : Bool :=
  '0' ≤ character && character ≤ '9'

/-- The value of a hexadecimal digit. -/
def hexValue? (digit : Char) : Option Nat :=
  if '0' ≤ digit ∧ digit ≤ '9' then some (digit.toNat - '0'.toNat)
  else if 'a' ≤ digit ∧ digit ≤ 'f' then some (digit.toNat - 'a'.toNat + 10)
  else if 'A' ≤ digit ∧ digit ≤ 'F' then some (digit.toNat - 'A'.toNat + 10)
  else none

/-- The number that exactly so many hexadecimal digits at the front of a text stand for. -/
def hexNumber? : Nat → Nat → List Char → Option Nat
  | 0, value, _ => some value
  | _ + 1, _, [] => none
  | count + 1, value, digit :: rest => do
    hexNumber? count (value * 16 + (← hexValue? digit)) rest

end PredicateWire.Yaml
