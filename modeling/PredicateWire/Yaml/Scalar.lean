/-
This file reads the texts of scalars: plain ones, quoted ones, and blocks of lines.
Where a plain or quoted scalar runs over several lines it is folded: a single line
break becomes a blank, of several the first is dropped, and the blanks around them do
not count.
-/
import PredicateWire.Yaml.Cursor

namespace PredicateWire.Yaml

/-- How a scalar is written. -/
inductive Style
  | plain
  | quoted
  | literal
  | folded
deriving DecidableEq

/-! ### Folding -/

/-- What stands between two words of a scalar: blanks on one line, or line breaks. The first break
is apart from the others. -/
inductive Gap
  | blanks (text : List Char)
  | breaks (first more : List Char)

namespace Gap

/-- The gap holds a line break. -/
def isBroken : Gap → Bool
  | blanks _ => false
  | breaks _ _ => true

/-- What a gap contributes to the scalar. -/
def text : Gap → List Char
  | blanks text => text
  | breaks first more =>
    if first = ['\n'] then if more = [] then [' '] else more else first ++ more

/-- The rest of a gap. After a line break no tab may stand left of a given column. -/
def read? (least : Nat) : Nat → Gap → Reading Gap
  | 0, _, _ => none
  | fuel + 1, gap, cursor =>
    match cursor.rest with
    | character :: _ =>
      if isBlank character then
        match gap with
        | blanks text => read? least fuel (blanks (text ++ [character])) (cursor.skip 1)
        | breaks first more =>
          if character = '\t' && cursor.column < least then none
          else read? least fuel (breaks first more) (cursor.skip 1)
      else if isBreak character then
        match gap with
        | blanks _ => read? least fuel (breaks cursor.breakText []) cursor.skipBreak
        | breaks first more =>
          read? least fuel (breaks first (more ++ cursor.breakText)) cursor.skipBreak
      else some (gap, cursor)
    | [] => some (gap, cursor)

end Gap

/-! ### Plain scalars -/

namespace Plain

/-- A plain scalar can start here. A hyphen, a question mark or a colon may come first unless it
stands alone; in brackets only a hyphen may. -/
def starts (bracketed : Bool) : List Char → Bool
  | [] => false
  | character :: rest =>
    (!isBlank character && !isBreak character && !isIndicator character) ||
      (character == '-' && !(rest.head?.map isBlank).getD false) ||
      (!bracketed && (character == '?' || character == ':') && !endsWord rest)

/-- The word at the front of a text. In brackets a colon in front of another structuring character
is refused. -/
def word? (bracketed : Bool) : List Char → Option (List Char)
  | [] => some []
  | character :: rest =>
    if isBlank character || isBreak character then some []
    else if bracketed && character = ':' &&
        (rest.head?.map fun next => next == '?' || isStructural next).getD false then none
    else if character = ':' && endsWord rest then some []
    else if bracketed && isStructural character then some []
    else (word? bracketed rest).map (character :: ·)

/-- The words of a scalar after those already read, with the gap in front of them. Outside
brackets the scalar ends at a line that starts left of a given column. The flag says that it ends
after a line break. -/
def words? (bracketed : Bool) (least : Nat) :
    Nat → Gap → List Char → Reading (List Char × Bool)
  | 0, _, _, _ => none
  | fuel + 1, gap, read, cursor =>
    if cursor.isAtMarker || cursor.isAt '#' then some ((read, gap.isBroken), cursor)
    else do
      let word ← word? bracketed cursor.rest
      let cursor := cursor.skip word.length
      let (read, gap) :=
        if word.isEmpty then (read, gap) else (read ++ gap.text ++ word, .blanks [])
      if !cursor.rest.isEmpty && endsWord cursor.rest then do
        let (gap, cursor) ← gap.read? least (cursor.rest.length + 1) cursor
        if !bracketed && cursor.column < least then return ((read, gap.isBroken), cursor)
        else words? bracketed least fuel gap read cursor
      else return ((read, gap.isBroken), cursor)

/-- A plain scalar, and whether it ends after a line break. -/
def read? (bracketed : Bool) (least : Nat) : Reading (String × Bool) := fun cursor => do
  let ((text, isBroken), cursor) ←
    words? bracketed least (cursor.rest.length + 1) (.blanks []) [] cursor
  return ((String.ofList text, isBroken), cursor)

end Plain

/-! ### Quoted scalars -/

namespace Quoted

/-- The character that an escape of one letter stands for. -/
def letter? : Char → Option Char
  | '0' => some '\x00'
  | 'a' => some '\x07'
  | 'b' => some '\x08'
  | 't' => some '\t'
  | '\t' => some '\t'
  | 'n' => some '\n'
  | 'v' => some '\x0b'
  | 'f' => some '\x0c'
  | 'r' => some '\r'
  | 'e' => some '\x1b'
  | ' ' => some ' '
  | '\x22' => some '\x22'
  | '/' => some '/'
  | '\\' => some '\\'
  | 'N' => some '\u0085'
  | '_' => some '\u00a0'
  | 'L' => some '\u2028'
  | 'P' => some '\u2029'
  | _ => none

/-- The number of digits after an escape by number. -/
def digitCount? : Char → Option Nat
  | 'x' => some 2
  | 'u' => some 4
  | 'U' => some 8
  | _ => none

/-- The character that an escape stands for, from its backslash on. -/
def escape? : Reading Char := fun cursor =>
  match cursor.rest with
  | _ :: letter :: rest =>
    match letter? letter with
    | some character => some (character, cursor.skip 2)
    | none => do
      let count ← digitCount? letter
      let code ← hexNumber? count 0 rest
      if (0xD800 ≤ code ∧ code ≤ 0xDFFF) ∨ 0x10FFFF < code then none
      else return (Char.ofNat code, cursor.skip (2 + count))
  | _ => none

/-- The rest of a word, after the characters already read (last one first). The flag says that
it ends with an escaped line break. -/
def word? (mark : Char) : Nat → List Char → Reading (List Char × Bool)
  | 0, _, _ => none
  | fuel + 1, read, cursor =>
    match cursor.rest with
    | [] => some ((read.reverse, false), cursor)
    | character :: rest =>
      if isBlank character || isBreak character then some ((read.reverse, false), cursor)
      else if mark = '\x27' && character = mark && rest.head? = some mark then
        word? mark fuel (mark :: read) (cursor.skip 2)
      else if character = mark then some ((read.reverse, false), cursor)
      else if mark = '\x22' && character = '\\' then
        if !rest.isEmpty && endsLine rest then
          some ((read.reverse, true), (cursor.skip 1).skipBreak)
        else do
          let (meant, cursor) ← escape? cursor
          word? mark fuel (meant :: read) cursor
      else word? mark fuel (character :: read) (cursor.skip 1)

/-- The rest of a scalar after what is already read. -/
def words? (mark : Char) : Nat → List Char → Reading (List Char)
  | 0, _, _ => none
  | fuel + 1, read, cursor =>
    if cursor.isAtMarker || cursor.rest.isEmpty then none
    else do
      let ((word, isEscaped), cursor) ← word? mark (cursor.rest.length + 1) [] cursor
      if cursor.isAt mark then return (read ++ word, cursor.skip 1)
      else do
        let gap : Gap := if isEscaped then .breaks [] [] else .blanks []
        let (gap, cursor) ← gap.read? 0 (cursor.rest.length + 1) cursor
        words? mark fuel (read ++ word ++ gap.text) cursor

/-- A scalar between quotation marks. -/
def read? (mark : Char) : Reading String := fun cursor => do
  let (text, cursor) ← words? mark (cursor.rest.length + 1) [] (cursor.skip 1)
  return (String.ofList text, cursor)

end Quoted

/-! ### Blocks of lines -/

/-- What becomes of the line breaks at the end of a block: none is kept, the first, or all. -/
inductive Chomping
  | strip
  | clip
  | keep
deriving DecidableEq

namespace Block

/-- The sign that says what becomes of the last line breaks. -/
def sign? : List Char → Option Chomping
  | '+' :: _ => some .keep
  | '-' :: _ => some .strip
  | _ => none

/-- The digit that says by how much the lines are indented, which is not zero. -/
def indentation? : Reading (Option Nat) := fun cursor =>
  match cursor.rest with
  | digit :: _ =>
    if digit = '0' then none
    else if isDigit digit then some (some (digit.toNat - '0'.toNat), cursor.skip 1)
    else some (none, cursor)
  | [] => some (none, cursor)

/-- The sign and the digit of a block, in either order, from after its indicator, with the rest of
the line. -/
def header? : Reading (Chomping × Option Nat) := fun cursor => do
  let ((chomping, indentation), cursor) ←
    match sign? cursor.rest with
    | some chomping => do
      let (indentation, cursor) ← indentation? (cursor.skip 1)
      pure ((chomping, indentation), cursor)
    | none => do
      let (indentation, cursor) ← indentation? cursor
      match indentation, sign? cursor.rest with
      | some _, some chomping => pure ((chomping, indentation), cursor.skip 1)
      | _, _ => pure ((Chomping.clip, indentation), cursor)
  let cursor := cursor.skipBlanks.skipComment
  if endsLine cursor.rest then return ((chomping, indentation), cursor.skipBreak) else none

/-- The blanks that indent the line here: all of them as long as the indentation is not known,
else no more than it. -/
def indenting (indentation : Option Nat) (cursor : Cursor) : Nat :=
  let blanks := (cursor.rest.takeWhile (· == ' ')).length
  match indentation with
  | some column => min blanks (column - cursor.column)
  | none => blanks

/-- The line breaks in front of the next line that holds something, after those already read, and
the indentation of the block. If it is not known it is the greatest of the lines so far, but at
least a given one. A tab may not indent. -/
def breaks? (least : Nat) (indentation : Option Nat) :
    Nat → Nat → List Char → Reading (List Char × Nat)
  | 0, _, _, _ => none
  | fuel + 1, greatest, read, cursor =>
    let cursor := cursor.skip (indenting indentation cursor)
    let greatest := max greatest cursor.column
    let isIndenting := (indentation.map fun column => decide (cursor.column < column)).getD true
    if isIndenting && cursor.isAt '\t' then none
    else if !cursor.rest.isEmpty && endsLine cursor.rest then
      breaks? least indentation fuel greatest (read ++ cursor.breakText) cursor.skipBreak
    else some ((read, indentation.getD (max greatest (max least 1))), cursor)

/-- What stands between two lines of a block: the first line break and the others. In a folded
block a single break between lines that do not start with a blank becomes a blank, and of several
the first is dropped. -/
def between (style : Style) (first more : List Char) (startsBlank : Bool) : List Char :=
  if style = .folded && first = ['\n'] && !startsBlank then
    if more = [] then [' '] else more
  else first ++ more

/-- The lines of a block after what is already read, with the line breaks in front of them. The
flag says that the line before starts with a blank. The last line breaks are apart. -/
def lines? (style : Style) (indentation : Nat) :
    Nat → Bool → List Char → List Char → List Char →
      Reading (List Char × List Char × List Char)
  | 0, _, _, _, _, _ => none
  | fuel + 1, beforeBlank, first, more, read, cursor =>
    if cursor.column = indentation && !cursor.rest.isEmpty then do
      let startsBlank := (cursor.rest.head?.map isBlank).getD false
      let line := cursor.rest.takeWhile fun character => !isBreak character
      let read := read ++ between style first more (beforeBlank || startsBlank) ++ line
      let ending := cursor.skip line.length
      let ((more, _), cursor) ←
        breaks? 0 (some indentation) (ending.rest.length + 1) 0 [] ending.skipBreak
      lines? style indentation fuel startsBlank ending.breakText more read cursor
    else return ((read, first, more), cursor)

/-- A block of lines, from its indicator on, inside a collection whose content starts at a given
column. -/
def read? (style : Style) (least : Nat) : Reading String := fun cursor => do
  let ((chomping, indentation), cursor) ← header? (cursor.skip 1)
  let fixed := indentation.map fun columns => (least - 1) + columns
  let ((more, indentation), cursor) ← breaks? least fixed (cursor.rest.length + 1) 0 [] cursor
  let ((text, first, more), cursor) ←
    lines? style indentation (cursor.rest.length + 1) false [] more [] cursor
  let kept :=
    match chomping with
    | .strip => []
    | .clip => first
    | .keep => first ++ more
  return (String.ofList (text ++ kept), cursor)

end Block

end PredicateWire.Yaml
