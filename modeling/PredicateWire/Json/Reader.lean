/-
This file reads JSON text. Reading goes down one level of nesting at a time and
refuses documents with 128 levels or more, so that no text can make it go deeper
than that. A whole number that fits 64 bits is read as such. Minus zero and every
other number is read as a double, and a number too large for one is refused, as is
half of a surrogate pair.

A double is not read as the nearest one. As many digits as fit 64 bits are gathered
into a significand, and the significand is multiplied or divided by a power of ten
in the arithmetic of doubles. Each of these steps rounds, so that about one in ten
of the doubles with seventeen digits comes back as one of its neighbours. What the
printer writes is therefore not always read as what was written: whether it is has
to be asked of each double.
-/
import PredicateWire.Json.Basic
import PredicateWire.Decimal.Shortest

namespace PredicateWire

namespace Json

/-- The greatest number of levels that a document may have. -/
def greatestNesting : Nat := 127

namespace Reader

/-! ### Blanks and fixed words -/

/-- The blanks of JSON. -/
def isBlank (character : Char) : Bool :=
  character == ' ' || character == '\n' || character == '\t' || character == '\r'

/-- The text from the first character that is no blank. -/
def skip (text : List Char) : List Char :=
  text.dropWhile isBlank

/-- The text after a fixed beginning. -/
def after? (word text : List Char) : Option (List Char) :=
  if word.isPrefixOf text then some (text.drop word.length) else none

/-! ### Strings -/

/-- The value of a hexadecimal digit. -/
def hexValue? (digit : Char) : Option Nat :=
  if '0' ≤ digit ∧ digit ≤ '9' then some (digit.toNat - '0'.toNat)
  else if 'a' ≤ digit ∧ digit ≤ 'f' then some (digit.toNat - 'a'.toNat + 10)
  else if 'A' ≤ digit ∧ digit ≤ 'F' then some (digit.toNat - 'A'.toNat + 10)
  else none

/-- Four hexadecimal digits and what follows them. -/
def hexUnit? : List Char → Option (Nat × List Char)
  | first :: second :: third :: fourth :: rest => do
    let a ← hexValue? first
    let b ← hexValue? second
    let c ← hexValue? third
    let d ← hexValue? fourth
    return (((a * 16 + b) * 16 + c) * 16 + d, rest)
  | _ => none

/-- The first unit of a surrogate pair. -/
def isHighSurrogate (unit : Nat) : Bool :=
  0xD800 ≤ unit && unit ≤ 0xDBFF

/-- The second unit of a surrogate pair. -/
def isLowSurrogate (unit : Nat) : Bool :=
  0xDC00 ≤ unit && unit ≤ 0xDFFF

/-- The character of an escape by code unit, from after its letter, and what follows. -/
def unitEscape? (text : List Char) : Option (Char × List Char) := do
  let (unit, rest) ← hexUnit? text
  if isHighSurrogate unit then
    match rest with
    | '\\' :: 'u' :: lowText => do
      let (low, rest) ← hexUnit? lowText
      if isLowSurrogate low then
        return (Char.ofNat (0x10000 + (unit - 0xD800) * 0x400 + (low - 0xDC00)), rest)
      else none
    | _ => none
  else if isLowSurrogate unit then none
  else return (Char.ofNat unit, rest)

/-- The character of an escape, from after the backslash, and what follows. -/
def escape? : List Char → Option (Char × List Char)
  | '\x22' :: rest => some ('\x22', rest)
  | '\\' :: rest => some ('\\', rest)
  | '/' :: rest => some ('/', rest)
  | 'b' :: rest => some ('\x08', rest)
  | 'f' :: rest => some ('\x0c', rest)
  | 'n' :: rest => some ('\n', rest)
  | 'r' :: rest => some ('\r', rest)
  | 't' :: rest => some ('\t', rest)
  | 'u' :: rest => unitEscape? rest
  | _ => none

/-- The rest of a string from after its opening quotation mark: the characters, added to those
already read (last one first), and what follows the closing mark. -/
def stringRest? : Nat → List Char → List Char → Option (String × List Char)
  | 0, _, _ => none
  | _ + 1, _, [] => none
  | fuel + 1, read, character :: rest =>
    if character = '\x22' then some (String.ofList read.reverse, rest)
    else if character = '\\' then
      match escape? rest with
      | some (meant, rest) => stringRest? fuel (meant :: read) rest
      | none => none
    else if character.toNat < 32 then none
    else stringRest? fuel (character :: read) rest

/-- A string from after its opening quotation mark. -/
def string? (text : List Char) : Option (String × List Char) :=
  stringRest? (text.length + 1) [] text

/-! ### Numbers -/

/-- The decimal digits. -/
def isDigit (character : Char) : Bool :=
  '0' ≤ character && character ≤ '9'

/-- The number that digits stand for. -/
def digitsValue (digits : List Char) : Nat :=
  digits.foldl (fun value digit => 10 * value + (digit.toNat - '0'.toNat)) 0

/-- The whole part of a number: a lone zero, or digits that start with another one. -/
def whole? (text : List Char) : Option (List Char × List Char) :=
  let digits := text.takeWhile isDigit
  match digits with
  | [] => none
  | '0' :: _ :: _ => none
  | _ => some (digits, text.dropWhile isDigit)

/-- The digits after a decimal point, if there is a point. -/
def fraction? : List Char → Option (List Char × List Char)
  | '.' :: text =>
    let digits := text.takeWhile isDigit
    if digits.isEmpty then none else some (digits, text.dropWhile isDigit)
  | text => some ([], text)

/-- The digits of an exponent, with its sign. -/
def exponentDigits? (negative : Bool) (text : List Char) : Option (Int × List Char) :=
  let digits := text.takeWhile isDigit
  if digits.isEmpty then none
  else
    let value : Int := digitsValue digits
    some (if negative then -value else value, text.dropWhile isDigit)

/-- The exponent, if there is one. -/
def exponent? : List Char → Option (Option Int × List Char)
  | mark :: text =>
    if mark = 'e' || mark = 'E' then do
      let (value, rest) ←
        match text with
        | '+' :: rest => exponentDigits? false rest
        | '-' :: rest => exponentDigits? true rest
        | rest => exponentDigits? false rest
      return (some value, rest)
    else some (none, mark :: text)
  | [] => some (none, [])

/-- The greatest significand of a number. -/
def greatestSignificand : Nat := 0xFFFFFFFFFFFFFFFF

/-- Appends digits to a significand until it would become too large. The digits from there on are
left over, even if a later one would fit again. -/
def gathered (significand : Nat) : List Char → Nat × List Char
  | [] => (significand, [])
  | digit :: rest =>
    let longer := 10 * significand + (digit.toNat - '0'.toNat)
    if longer ≤ greatestSignificand then gathered longer rest else (significand, digit :: rest)

/-- The greatest power of ten among the doubles is `10 ^ 308`. -/
def greatestPower : Nat := 308

/-- The double nearest to a power of ten. -/
def tenTo (power : Nat) : Float :=
  Float.ofScientific 1 false power

/-- A double divided by a power of ten, in two steps if it is not among the doubles. Two divisions
by the greatest power leave nothing of a number of 64 bits. -/
def lowered (number : Float) (power : Nat) : Float :=
  if power ≤ greatestPower then number / tenTo power
  else if power ≤ 2 * greatestPower then
    number / tenTo greatestPower / tenTo (power - greatestPower)
  else 0.0

/-- A double that is neither infinite nor no number. -/
def finite? (number : Float) : Option Float :=
  if Decimal.isFinite number then some number else none

/-- The double that is read for `significand * 10 ^ power`. The significand and the power are
rounded to doubles first, and their product or quotient is rounded again, so that it may be a
neighbour of the nearest double. There is none beyond the largest double. -/
def scaled? (significand : Nat) (power : Int) : Option Float :=
  let number := significand.toUInt64.toFloat
  match power with
  | .ofNat power =>
    if power ≤ greatestPower then finite? (number * tenTo power)
    else if significand = 0 then some 0.0 else none
  | .negSucc power => finite? (lowered number (power + 1))

/-- A number with its parts read: a whole number where the parts make one, else a double. Digits
that the significand has no room for count before the decimal point and are dropped after it. -/
def ofParts? (negative : Bool) (whole fraction : List Char) (exponent : Option Int) :
    Option Json :=
  let magnitude := digitsValue whole
  let isInteger :=
    fraction.isEmpty && exponent.isNone &&
      if negative then 0 < magnitude && magnitude ≤ 0x8000000000000000
      else magnitude < 0x10000000000000000
  if isInteger then some (.integer (if negative then -(magnitude : Int) else magnitude))
  else do
    let (leading, wholeLeft) := gathered 0 whole
    let (significand, fractionLeft) := gathered leading fraction
    let power : Int := exponent.getD 0 + wholeLeft.length + fractionLeft.length - fraction.length
    let number ← scaled? significand power
    return .double (if negative then -number else number)

/-- A number, from after its sign. -/
def unsigned? (negative : Bool) (text : List Char) : Option (Json × List Char) := do
  let (whole, text) ← whole? text
  let (fraction, text) ← fraction? text
  let (exponent, text) ← exponent? text
  let number ← ofParts? negative whole fraction exponent
  return (number, text)

/-! ### Documents -/

/-- A way to read something from the front of a text. -/
abbrev Reading (Content : Type) := List Char → Option (Content × List Char)

/-- The items of an array, the first of which starts here. How an item is read may depend on its
place. -/
def items? {Content : Type} (item : Nat → Reading Content) :
    Nat → Nat → List Content → List Char → Option (List Content × List Char)
  | 0, _, _, _ => none
  | fuel + 1, place, read, text => do
    let (value, text) ← item place text
    match skip text with
    | ',' :: rest => items? item fuel (place + 1) (value :: read) rest
    | ']' :: rest => some ((value :: read).reverse, rest)
    | _ => none

/-- The items of an array from after its opening bracket. -/
def arrayRest? {Content : Type} (item : Nat → Reading Content) : Reading (List Content) :=
  fun text =>
    match skip text with
    | ']' :: rest => some ([], rest)
    | start => items? item start.length 0 [] start

/-- A member of an object: a string, a colon and what belongs to the name. -/
def member? {Name Content : Type} (name : Reading Name) (item : Name → Reading Content) :
    Reading (Name × Content) := fun text =>
  match skip text with
  | '\x22' :: rest => do
    let (name, rest) ← name rest
    match skip rest with
    | ':' :: rest => do
      let (value, rest) ← item name rest
      return ((name, value), rest)
    | _ => none
  | _ => none

/-- The members of an object, the first of which starts here. -/
def members? {Content : Type} (member : Reading Content) :
    Nat → List Content → List Char → Option (List Content × List Char)
  | 0, _, _ => none
  | fuel + 1, read, text => do
    let (entry, text) ← member text
    match skip text with
    | ',' :: rest => members? member fuel (entry :: read) rest
    | '\x7d' :: rest => some ((entry :: read).reverse, rest)
    | _ => none

/-- The members of an object from after its opening brace. -/
def objectRest? {Content : Type} (member : Reading Content) : Reading (List Content) :=
  fun text =>
    match skip text with
    | '\x7d' :: rest => some ([], rest)
    | start => members? member start.length [] start

/-- A document that opens at most a given number of levels, and what follows it. -/
def document? : Nat → Reading Json
  | levels, text =>
    match skip text with
    | [] => none
    | first :: rest =>
      if first = 'n' then (after? ['u', 'l', 'l'] rest).map fun rest => (.null, rest)
      else if first = 't' then (after? ['r', 'u', 'e'] rest).map fun rest => (.bool true, rest)
      else if first = 'f' then
        (after? ['a', 'l', 's', 'e'] rest).map fun rest => (.bool false, rest)
      else if first = '\x22' then (string? rest).map fun (text, rest) => (.string text, rest)
      else if first = '-' then unsigned? true rest
      else if isDigit first then unsigned? false (first :: rest)
      else
        match levels with
        | 0 => none
        | levels + 1 =>
          if first = '[' then do
            let (items, rest) ← arrayRest? (fun _ => document? levels) rest
            return (.array items, rest)
          else if first = '\x7b' then do
            let (members, rest) ← objectRest? (member? string? fun _ => document? levels) rest
            return (.object members, rest)
          else none

end Reader

/-- Reads a text that holds one thing and nothing else. -/
def Reader.all? {Content : Type} (reading : Reading Content) (text : List Char) :
    Option Content :=
  match reading text with
  | some (content, rest) => if (skip rest).isEmpty then some content else none
  | none => none

/-- Reads a text that holds one document of at most a given number of levels and nothing
else. -/
def readWithin? (levels : Nat) (text : String) : Option Json :=
  Reader.all? (Reader.document? levels) text.toList

/-- Reads a text that holds one document and nothing else. -/
def read? (text : String) : Option Json :=
  readWithin? greatestNesting text

end Json

end PredicateWire
