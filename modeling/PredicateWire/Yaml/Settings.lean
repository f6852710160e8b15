/-
This file reads settings from YAML documents. A document is a mapping with the keys
`payload_encoding` and `max_depth`, each at most once; a key that is missing leaves
the standard setting, and keys that mean nothing here are passed over with what
belongs to them. An encoding is named by a text, or by a local tag on nothing.
-/
import PredicateWire.Settings
import PredicateWire.Yaml.Node

namespace PredicateWire

namespace Settings

open Yaml (Style Tag)

/-! ### Numbers -/

/-- The number that digits of a base stand for, within the bounds of depth limits. -/
def inBase? (base : Nat) (digits : List Char) : Option Nat :=
  if digits.isEmpty then none
  else do
    let values ← digits.mapM Yaml.hexValue?
    let number := values.foldl (fun number value => number * base + value) 0
    if (values.all fun value => value < base) && number ≤ greatestDepth then some number else none

/-- A number without a sign: digits of base ten that do not start with a needless zero, or digits
of another base after its mark. -/
def unsigned? : List Char → Option Nat
  | '0' :: 'x' :: digits => inBase? 16 digits
  | '0' :: 'o' :: digits => inBase? 8 digits
  | '0' :: 'b' :: digits => inBase? 2 digits
  | '0' :: _ :: _ => none
  | digits => inBase? 10 digits

/-- The depth limit that a text stands for. A plus sign may precede it. -/
def writtenDepth? (text : String) : Option Nat :=
  match text.toList with
  | '+' :: rest => unsigned? rest
  | characters => unsigned? characters

/-- A scalar is written so that it can be a number: plainly, or as a literal block that is tagged
as a whole number. -/
def mayBeNumber (style : Style) (tag : Option Tag) : Bool :=
  style == .plain || (style == .literal && tag == some Tag.integer)

/-- The depth limit that a node stands for. -/
def nodeDepth? : Yaml.Node → Option Nat
  | .scalar properties style text =>
    if mayBeNumber style properties.tag then writtenDepth? text else none
  | _ => none

/-! ### Encodings -/

/-- A scalar says that there is nothing. -/
def isNothing (style : Style) (text : String) : Bool :=
  style == .plain && ["", "null", "Null", "NULL", "~"].contains text

/-- The encoding that a node stands for. A local tag names it, and then nothing else may; any
other tag does not count. -/
def nodeEncoding? : Yaml.Node → Option Encoding
  | .scalar properties style text =>
    match properties.tag.bind Tag.localName? with
    | some name => if isNothing style text then Encoding.ofWord? name else none
    | none => Encoding.ofWord? text
  | _ => none

/-! ### Documents -/

/-- What the only member with a key holds. -/
def onlyMember? (members : List (String × Yaml.Node)) (key : String) : Option (Option Yaml.Node) :=
  match members.filter fun entry => entry.1 == key with
  | [] => some none
  | [entry] => some (some entry.2)
  | _ => none

/-- The members of a mapping, whose keys have to be scalars. -/
def textMembers? (document : Yaml.Node) (members : List (Yaml.Node × Yaml.Node)) :
    Option (List (String × Yaml.Node)) :=
  members.mapM fun (key, content) => do
    match ← document.meant? key with
    | .scalar _ _ name => return (name, content)
    | _ => none

/-- What the member with a key stands for, or the standard if there is none. -/
def setting? {Content : Type} (document : Yaml.Node) (members : List (String × Yaml.Node))
    (key : String) (read : Yaml.Node → Option Content) (default : Content) : Option Content := do
  match ← onlyMember? members key with
  | some content => (document.meant? content).bind read
  | none => return default

/-- The settings that a document stands for. A document that is absent changes nothing. -/
def ofDocument? (document : Yaml.Node) : Option Settings :=
  match document with
  | .mapping _ members => do
    let members ← textMembers? document members
    let encoding ← setting? document members "payload_encoding" nodeEncoding? standard.encoding
    let maxDepth ← setting? document members "max_depth" nodeDepth? standard.maxDepth
    return ⟨encoding, maxDepth⟩
  | .scalar _ .plain "" => some standard
  | _ => none

/-- The settings of a YAML text. -/
def ofYaml (text : String) : Result Settings :=
  match (Yaml.Node.ofText? text).bind ofDocument? with
  | some settings => validated settings
  | none => .error (.config .unreadable)

end Settings

end PredicateWire
