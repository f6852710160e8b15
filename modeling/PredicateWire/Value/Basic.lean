/-
This file gives the views of values: what kind of value one is, the truth value,
number, text or items it holds, its fields and map entries. It also says when two
values are equal. `Value.equals` tells numbers of different types apart, and
`Value.looselyEquals` compares numbers by what they stand for; `Value.compare?`
orders numbers, texts and characters.
-/
import PredicateWire.Expr.Basic
import PredicateWire.Entries

namespace PredicateWire

namespace Value

/-! ### Building -/

/-- A record with the given fields, of which the last one with a name counts. -/
def ofFields (fields : List (String × Value)) : Value :=
  record (Entries.ofList fields)

mutual

/-- Plain data as a value. -/
def ofDatum : Datum → Value
  | .null => null
  | .bool value => bool value
  | .int32 value => int32 value
  | .int64 value => int64 value
  | .double value => double value
  | .char value => char value
  | .string value => string value
  | .array items => array (ofData items)
  | .map entries => map (ofDataPairs entries)
  | .record fields => record (ofDataFields fields)

/-- Several data as values. -/
def ofData : List Datum → List Value
  | [] => []
  | item :: rest => ofDatum item :: ofData rest

/-- Pairs of data as pairs of values. -/
def ofDataPairs : List (Datum × Datum) → List (Value × Value)
  | [] => []
  | (key, content) :: rest => (ofDatum key, ofDatum content) :: ofDataPairs rest

/-- Fields of data as fields of values. -/
def ofDataFields : List (String × Datum) → List (String × Value)
  | [] => []
  | (name, content) :: rest => (name, ofDatum content) :: ofDataFields rest

end

mutual

/-- The plain data that a value is, if no function occurs in it. -/
def datum? : Value → Option Datum
  | null => some .null
  | bool value => some (.bool value)
  | int32 value => some (.int32 value)
  | int64 value => some (.int64 value)
  | double value => some (.double value)
  | char value => some (.char value)
  | string value => some (.string value)
  | array items => (data? items).map .array
  | map entries => (dataPairs? entries).map .map
  | record fields => (dataFields? fields).map .record
  | function _ => none

/-- The plain data that several values are. -/
def data? : List Value → Option (List Datum)
  | [] => some []
  | item :: rest =>
    match datum? item, data? rest with
    | some head, some tail => some (head :: tail)
    | _, _ => none

/-- The plain data that pairs of values are. -/
def dataPairs? : List (Value × Value) → Option (List (Datum × Datum))
  | [] => some []
  | (key, content) :: rest =>
    match datum? key, datum? content, dataPairs? rest with
    | some key, some content, some tail => some ((key, content) :: tail)
    | _, _, _ => none

/-- The plain data that fields of values are. -/
def dataFields? : List (String × Value) → Option (List (String × Datum))
  | [] => some []
  | (name, content) :: rest =>
    match datum? content, dataFields? rest with
    | some content, some tail => some ((name, content) :: tail)
    | _, _ => none

end

/-! ### Views -/

/-- The value is null. -/
def isNull : Value → Bool
  | null => true
  | _ => false

/-- The truth value. -/
def bool? : Value → Option Bool
  | bool value => some value
  | _ => none

/-- The whole number of either width. -/
def integer? : Value → Option Int
  | int32 value => some value.toInt
  | int64 value => some value.toInt
  | _ => none

/-- The number of any kind, as a double. -/
def double? : Value → Option Float
  | int32 value => some (Float.ofInt value.toInt)
  | int64 value => some (Float.ofInt value.toInt)
  | double value => some value
  | _ => none

/-- The text. -/
def string? : Value → Option String
  | string value => some value
  | _ => none

/-- The items. -/
def array? : Value → Option (List Value)
  | array items => some items
  | _ => none

/-- The function. -/
def function? : Value → Option Closure
  | function closure => some closure
  | _ => none

/-- The content of a field of a record. -/
def field? (value : Value) (name : String) : Option Value :=
  match value with
  | record fields => Entries.get? fields name
  | _ => none

/-- The name of the kind of value, as messages show it. -/
def kindName : Value → String
  | null => "null"
  | bool _ => "bool"
  | int32 _ => "i32"
  | int64 _ => "i64"
  | double _ => "f64"
  | char _ => "char"
  | string _ => "string"
  | array _ => "array"
  | map _ => "map"
  | record _ => "struct"
  | function _ => "function"

/-! ### Equality -/

mutual

/-- Two values are equal. Numbers of different kinds are not, a double that is no number equals
nothing, and functions are equal when one evaluation made both. -/
def equals : Value → Value → Bool
  | null, null => true
  | bool left, bool right => left == right
  | int32 left, int32 right => left == right
  | int64 left, int64 right => left == right
  | double left, double right => left == right
  | char left, char right => left == right
  | string left, string right => left == right
  | array left, array right => equalsAll left right
  | map left, map right => equalsPairs left right
  | record left, record right => equalsFields left right
  | function left, function right => left.origin == right.origin
  | _, _ => false

/-- Two lists of values are equal place by place. -/
def equalsAll : List Value → List Value → Bool
  | [], [] => true
  | left :: leftRest, right :: rightRest => equals left right && equalsAll leftRest rightRest
  | _, _ => false

/-- Two lists of map entries are equal place by place. -/
def equalsPairs : List (Value × Value) → List (Value × Value) → Bool
  | [], [] => true
  | (leftKey, left) :: leftRest, (rightKey, right) :: rightRest =>
    equals leftKey rightKey && equals left right && equalsPairs leftRest rightRest
  | _, _ => false

/-- Two lists of fields are equal place by place. -/
def equalsFields : List (String × Value) → List (String × Value) → Bool
  | [], [] => true
  | (leftName, left) :: leftRest, (rightName, right) :: rightRest =>
    leftName == rightName && equals left right && equalsFields leftRest rightRest
  | _, _ => false

end

/-- Two optional doubles are there and are equal as numbers. -/
def doublesAgree : Option Float → Option Float → Bool
  | some left, some right => left == right
  | _, _ => false

mutual

/-- Two values are equal when numbers are compared by what they stand for. The comparison is one
of doubles as soon as one side is a double. Only arrays are looked into; everything else is
compared by `equals`. -/
def looselyEquals : Value → Value → Bool
  | double left, right => doublesAgree (some left) right.double?
  | left, double right => doublesAgree left.double? (some right)
  | int32 left, int64 right => left.toInt == right.toInt
  | int64 left, int32 right => left.toInt == right.toInt
  | array left, array right => looselyEqualsAll left right
  | left, right => equals left right

/-- Two lists of values are loosely equal place by place. -/
def looselyEqualsAll : List Value → List Value → Bool
  | [], [] => true
  | left :: leftRest, right :: rightRest =>
    looselyEquals left right && looselyEqualsAll leftRest rightRest
  | _, _ => false

end

/-- The content of the first entry of a map whose key is loosely equal to the one asked for. -/
def contentOf? (value key : Value) : Option Value :=
  match value with
  | map entries => (entries.find? fun entry => entry.1.looselyEquals key).map Prod.snd
  | _ => none

/-! ### Order -/

/-- The order of two doubles. A double that is no number has none. -/
def compareDoubles? (left right : Float) : Option Ordering :=
  if left < right then some .lt
  else if left == right then some .eq
  else if right < left then some .gt
  else none

/-- The order of two values: of whole numbers, of numbers of which one is a double, of texts and
of characters. -/
def compare? (left right : Value) : Option Ordering :=
  match left, right with
  | string left, string right => some (compareOfLessAndEq left right)
  | char left, char right => some (compareOfLessAndEq left right)
  | left, right =>
    match left.integer?, right.integer? with
    | some left, some right => some (compareOfLessAndEq left right)
    | _, _ =>
      match left.double?, right.double? with
      | some left, some right => compareDoubles? left right
      | _, _ => none

end Value

end PredicateWire
