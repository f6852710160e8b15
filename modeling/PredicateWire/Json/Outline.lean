/-
This file reads JSON records of which only some members matter. An outline declares
the members of a record, and of the records inside it. What a record does not declare
is passed over: it has to be shaped like a document, but its numbers may be too large
for a double, its texts may hold halves of surrogate pairs, and it may open any number
of levels.
-/
import PredicateWire.Json.Reader

namespace PredicateWire

namespace Json

/-- What is read of a document: all of it, the items of an array each by an outline, or the
declared members of a record, which is an object or an array of its fields in order. -/
inductive Outline
  | whole
  | list (items : Outline)
  | record (fields : List (String × Outline))

namespace Reader

/-! ### Passing over -/

/-- What follows an escape, from after the backslash. Its unit need not stand for a character. -/
def afterEscape? : List Char → Option (List Char)
  | 'u' :: rest => (hexUnit? rest).map Prod.snd
  | text => (escape? text).map Prod.snd

/-- What follows a string, from after its opening quotation mark. -/
def afterString? : Nat → List Char → Option (List Char)
  | 0, _ => none
  | _ + 1, [] => none
  | fuel + 1, character :: rest =>
    if character = '\x22' then some rest
    else if character = '\\' then
      match afterEscape? rest with
      | some rest => afterString? fuel rest
      | none => none
    else if character.toNat < 32 then none
    else afterString? fuel rest

/-- Passes over a string, from after its opening quotation mark. -/
def passString? : Reading Unit := fun text =>
  (afterString? (text.length + 1) text).map fun rest => ((), rest)

/-- Passes over a number, from after its sign. -/
def passUnsigned? : Reading Unit := fun text => do
  let (_, text) ← whole? text
  let (_, text) ← fraction? text
  let (_, text) ← exponent? text
  return ((), text)

/-- Passes over a document that opens at most a given number of levels. -/
def pass? : Nat → Reading Unit
  | levels, text =>
    match skip text with
    | [] => none
    | first :: rest =>
      if first = 'n' then (after? ['u', 'l', 'l'] rest).map fun rest => ((), rest)
      else if first = 't' then (after? ['r', 'u', 'e'] rest).map fun rest => ((), rest)
      else if first = 'f' then (after? ['a', 'l', 's', 'e'] rest).map fun rest => ((), rest)
      else if first = '\x22' then passString? rest
      else if first = '-' then passUnsigned? rest
      else if isDigit first then passUnsigned? (first :: rest)
      else
        match levels with
        | 0 => none
        | levels + 1 =>
          if first = '[' then
            (arrayRest? (fun _ => pass? levels) rest).map fun (_, rest) => ((), rest)
          else if first = '\x7b' then
            (objectRest? (member? passString? fun _ => pass? levels) rest).map
              fun (_, rest) => ((), rest)
          else none

/-- Passes over a document. A text opens no more levels than it has characters. -/
def passOver? : Reading Unit := fun text =>
  pass? text.length text

end Reader

namespace Outline

/-! ### Reading by an outline -/

open Reader

mutual

/-- Reads what an outline declares of a document. -/
def document? : Outline → Reading Json
  | whole => Reader.document? greatestNesting
  | list items => fun text =>
    match skip text with
    | '[' :: rest => do
      let (items, rest) ← arrayRest? (fun _ => document? items) rest
      return (.array items, rest)
    | text => Reader.document? greatestNesting text
  | record fields => fun text =>
    match skip text with
    | '[' :: rest => do
      let (items, rest) ← arrayRest? (field? fields) rest
      return (.array items, rest)
    | '\x7b' :: rest => do
      let (members, rest) ← objectRest? (member? Reader.string? (content? fields)) rest
      return (.object (members.filterMap fun (name, content) => content.map (name, ·)), rest)
    | text => Reader.document? greatestNesting text

/-- Reads the field at a place. -/
def field? : List (String × Outline) → Nat → Reading Json
  | [], _ => Reader.document? greatestNesting
  | (_, outline) :: _, 0 => document? outline
  | _ :: rest, place + 1 => field? rest place

/-- Reads what belongs to a name, or passes over it if the name is not declared. -/
def content? : List (String × Outline) → String → Reading (Option Json)
  | [], _ => fun text => (passOver? text).map fun (_, rest) => (none, rest)
  | (declared, outline) :: rest, name =>
    if declared = name then fun text =>
      (document? outline text).map fun (content, rest) => (some content, rest)
    else content? rest name

end

/-- Reads what an outline declares of a text that holds one document and nothing else. -/
def read? (outline : Outline) (text : String) : Option Json :=
  all? (document? outline) text.toList

/-- The outline of a record of which every declared member is read whole. -/
def ofNames (names : List String) : Outline :=
  record (names.map fun name => (name, whole))

end Outline

end Json

end PredicateWire
