/-
This file turns constants into JSON and back. Writing goes by the value: a map is an
array of pairs, a record an object with its fields in order, and neither functions
nor doubles that are not finite can be written. Reading goes by the type; at the top
type and at a generic parameter everything is taken as it comes, whole numbers with
64 bits. Null reads as null at every type. `Value.fitsDepth` bounds the nesting of
what is written.
-/
import PredicateWire.Value.Basic
import PredicateWire.Json.Printer

namespace PredicateWire

namespace Value

/-! ### Writing -/

mutual

/-- The constant as JSON. -/
def literal : Value → Result Json
  | null => .ok .null
  | bool value => .ok (.bool value)
  | int32 value => .ok (.integer value.toInt)
  | int64 value => .ok (.integer value.toInt)
  | double value =>
    if Decimal.isFinite value then .ok (.double value)
    else .error (.codec (.nonFinite (Decimal.message.text value)))
  | char value => .ok (.string (String.singleton value))
  | string value => .ok (.string value)
  | array items => do
    let items ← literals items
    return .array items
  | map entries => do
    let pairs ← literalPairs entries
    return .array pairs
  | record fields => do
    let members ← literalFields fields
    return .object members
  | function _ => .error (.codec .functionValue)

/-- Several constants as JSON. The first that cannot be written decides. -/
def literals : List Value → Result (List Json)
  | [] => .ok []
  | item :: rest => do
    let head ← literal item
    let tail ← literals rest
    return head :: tail

/-- Map entries as JSON pairs. -/
def literalPairs : List (Value × Value) → Result (List Json)
  | [] => .ok []
  | (key, content) :: rest => do
    let key ← literal key
    let content ← literal content
    let tail ← literalPairs rest
    return .array [key, content] :: tail

/-- Fields as JSON members. -/
def literalFields : List (String × Value) → Result (List (String × Json))
  | [] => .ok []
  | (name, content) :: rest => do
    let content ← literal content
    let tail ← literalFields rest
    return (name, content) :: tail

end

/-! ### Nesting -/

mutual

/-- The value nests no deeper than a number of levels. An array or a record takes one level, a
map takes two. -/
def fitsDepth : Nat → Value → Bool
  | levels, array items => 0 < levels && fitsDepthAll (levels - 1) items
  | levels, record fields => 0 < levels && fitsDepthFields (levels - 1) fields
  | levels, map entries => 1 < levels && fitsDepthPairs (levels - 2) entries
  | _, _ => true

/-- Every one of several values nests no deeper. -/
def fitsDepthAll : Nat → List Value → Bool
  | _, [] => true
  | levels, item :: rest => fitsDepth levels item && fitsDepthAll levels rest

/-- Every content of several fields nests no deeper. -/
def fitsDepthFields : Nat → List (String × Value) → Bool
  | _, [] => true
  | levels, (_, content) :: rest => fitsDepth levels content && fitsDepthFields levels rest

/-- Every key and content of several map entries nests no deeper. -/
def fitsDepthPairs : Nat → List (Value × Value) → Bool
  | _, [] => true
  | levels, (key, content) :: rest =>
    fitsDepth levels key && fitsDepth levels content && fitsDepthPairs levels rest

end

/-! ### Reading -/

mutual

/-- Reads JSON for which no type says what it is. -/
def ofUntyped : Json → Value
  | .null => null
  | .bool value => bool value
  | .integer value =>
    if value < 0x8000000000000000 then int64 (Int64.ofInt value) else double (Float.ofInt value)
  | .double value => double value
  | .string value => string value
  | .array items => array (ofUntypedAll items)
  | .object members => ofFields (ofUntypedMembers members)

/-- Reads several JSON documents. -/
def ofUntypedAll : List Json → List Value
  | [] => []
  | item :: rest => ofUntyped item :: ofUntypedAll rest

/-- Reads the members of a JSON object. -/
def ofUntypedMembers : List (String × Json) → List (String × Value)
  | [] => []
  | (name, item) :: rest => (name, ofUntyped item) :: ofUntypedMembers rest

end

/-- The only character of a text. -/
def onlyCharacter? (text : String) : Option Char :=
  match text.toList with
  | [character] => some character
  | _ => none

/-- The 32-bit number that a whole number is. -/
def int32? (number : Int) : Option Int32 :=
  if -0x80000000 ≤ number ∧ number < 0x80000000 then some (Int32.ofInt number) else none

/-- Reads a JSON document at a primitive type. -/
def ofPrimitive? (kind : Primitive) (document : Json) : Option Value :=
  match kind with
  | .bool => document.bool?.map bool
  | .int32 => (document.integer?.bind int32?).map int32
  | .int64 => document.integer?.map fun number => int64 (Int64.ofInt number)
  | .double => document.double?.map double
  | .char => (document.string?.bind onlyCharacter?).map char
  | .string => document.string?.map string
  | .void => none

/-- The error for a document that does not fit a type. -/
def badLiteral (type : DataType) (document : Json) : Error :=
  .typeMismatch (.literal document.written type.canonicalName)

/-- Reads each item of an array by one reader. -/
def readItems (read : Json → Result Value) : List Json → Result (List Value)
  | [] => .ok []
  | item :: rest => do
    let head ← read item
    let tail ← readItems read rest
    return head :: tail

/-- Reads the pairs of a map by a reader of keys and one of contents. -/
def readPairs (refuse : Json → Error) (readKey readContent : Json → Result Value) :
    List Json → Result (List (Value × Value))
  | [] => .ok []
  | .array [key, content] :: rest => do
    let key ← readKey key
    let content ← readContent content
    let tail ← readPairs refuse readKey readContent rest
    return (key, content) :: tail
  | pair :: _ => .error (refuse pair)

/-- The first member that no field of a type declares. -/
def undeclared? (type : DataType) (members : List (String × Json)) : Option String :=
  (members.find? fun entry => (type.field? entry.1).isNone).map Prod.fst

/-- A record whose declared fields have been read, unless a member is not declared. -/
def recordOf (type : DataType) (members : List (String × Json))
    (fields : List (String × Value)) : Result Value :=
  match undeclared? type members with
  | some name => .error (.typeMismatch (.undeclaredField name type.canonicalName))
  | none => .ok (ofFields fields)

mutual

/-- Reads a JSON document in normal form at a type. -/
def ofLiteral : DataType → Json → Result Value
  | type, document =>
    match document with
    | .null => .ok null
    | document =>
      match type with
      | .primitive kind =>
        match ofPrimitive? kind document with
        | some value => .ok value
        | none => .error (badLiteral (.primitive kind) document)
      | .object => .ok (ofUntyped document)
      | .parameter _ _ => .ok (ofUntyped document)
      | .record name fields captured =>
        match document with
        | .object members => do
          let contents ← readFields members fields
          recordOf (.record name fields captured) members contents
        | document => .error (badLiteral (.record name fields captured) document)
      | .array element =>
        match document with
        | .array items => do
          let items ← readItems (ofLiteral element) items
          return array items
        | document => .error (badLiteral (.array element) document)
      | .holder name => .error (.codec (.undecodableType (DataType.holder name).canonicalName))
      | .generic name .function arguments =>
        .error (.codec (.undecodableType (DataType.generic name .function arguments).canonicalName))
      | .generic name .record arguments =>
        match document with
        | .object members => recordOf (.generic name .record arguments) members []
        | document => .error (badLiteral (.generic name .record arguments) document)
      | .generic name .sequence arguments =>
        match document with
        | .array items => do
          let items ← readItems (readerAt arguments 0) items
          return array items
        | document => .error (badLiteral (.generic name .sequence arguments) document)
      | .generic name .map arguments =>
        match document with
        | .array pairs => do
          let entries ←
            readPairs (badLiteral (.generic name .map arguments)) (readerAt arguments 0)
              (readerAt arguments 1) pairs
          return map entries
        | document => .error (badLiteral (.generic name .map arguments) document)

/-- The reader of the generic argument at a place. Without an argument everything is taken as it
comes. -/
def readerAt : List DataType → Nat → Json → Result Value
  | type :: _, 0, document => ofLiteral type document
  | _ :: rest, place + 1, document => readerAt rest place document
  | [], _, document => .ok (ofUntyped document)

/-- Reads the declared fields of a record. A field without a member is null. -/
def readFields (members : List (String × Json)) :
    List (Field DataType) → Result (List (String × Value))
  | [] => .ok []
  | ⟨name, type, _⟩ :: rest => do
    let content ←
      match Entries.get? members name with
      | some document => ofLiteral type document
      | none => .ok null
    let tail ← readFields members rest
    return (name, content) :: tail

end

end Value

end PredicateWire
