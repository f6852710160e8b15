/-
This file defines the settings of the wire: how a packet embeds its tree, and how
deep trees may nest. Settings come from defaults, overridden by the texts of two
environment variables; a depth limit of zero is refused.
-/
import PredicateWire.Error
import PredicateWire.Text.LetterCase

namespace PredicateWire

/-- How a packet embeds its node tree: as JSON text, or as the base64 form of that text. -/
inductive Encoding
  | json
  | base64
deriving DecidableEq

namespace Encoding

/-- The word for the encoding in packets. -/
def word : Encoding → String
  | json => "json"
  | base64 => "base64"

/-- The name of the encoding in messages. -/
def name : Encoding → String
  | json => "Json"
  | base64 => "Base64"

/-- The encoding that a word in a packet stands for. -/
def ofWord? (word : String) : Option Encoding :=
  if word = "json" then some json
  else if word = "base64" then some base64
  else none

/-- The encoding that a person means: blanks around the name and the case of its letters do not
count, and `b64` is base64 as well. -/
def parse (text : String) : Result Encoding :=
  let name := Text.toLowerAscii (Text.trim text)
  if name = "json" then .ok json
  else if name = "base64" || name = "b64" then .ok base64
  else .error (.config (.unknownEncoding name))

end Encoding

/-- The nesting of trees that is accepted unless settings say otherwise. -/
def defaultDepth : Nat := 48

/-- The settings of the wire. -/
structure Settings where
  encoding : Encoding
  maxDepth : Nat
deriving DecidableEq

namespace Settings

/-- The settings without any override. -/
def standard : Settings :=
  ⟨.base64, defaultDepth⟩

/-- Refuses settings that accept no tree. -/
def validated (settings : Settings) : Result Settings :=
  if settings.maxDepth = 0 then .error (.config .zeroDepth) else .ok settings

/-- The largest depth limit that settings can hold. -/
def greatestDepth : Nat := 0xFFFFFFFFFFFFFFFF

/-- The number that a run of decimal digits stands for, within the bounds of depth limits. -/
def digits? (characters : List Char) : Option Nat :=
  if characters.isEmpty || characters.any fun character => !character.isDigit then none
  else
    let value :=
      characters.foldl (fun value digit => 10 * value + (digit.toNat - '0'.toNat)) 0
    if value ≤ greatestDepth then some value else none

/-- The depth limit that a text stands for: decimal digits, which a plus sign may precede. -/
def depth? (text : String) : Option Nat :=
  match text.toList with
  | '+' :: rest => digits? rest
  | characters => digits? characters

/-- The standard settings, overridden by the texts of environment variables. -/
def ofEnvironment (payload depth : Option String) : Result Settings := do
  let encoding ←
    match payload with
    | some text => Encoding.parse text
    | none => .ok standard.encoding
  let maxDepth ←
    match depth with
    | some text =>
      match depth? (Text.trim text) with
      | some value => .ok value
      | none => .error (.config .depthNotInteger)
    | none => .ok standard.maxDepth
  validated ⟨encoding, maxDepth⟩

/-- The readable form of settings. -/
def text (settings : Settings) : String :=
  "WireConfig \x7b payload_encoding: " ++ settings.encoding.name ++
    ", max_depth: " ++ toString settings.maxDepth ++ " \x7d"

end Settings

end PredicateWire
