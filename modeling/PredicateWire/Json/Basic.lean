/-
This file defines JSON documents as trees. An object keeps its members in the order
in which they were written, repeated names included, because records are written in
a fixed order and a record with a repeated field is refused. A constant has a normal
form, `Json.normalize`, in which the members of every object are in order and of
several members with one name the last one counts.
-/
import PredicateWire.Entries

namespace PredicateWire

/-- A JSON document. Whole numbers are the ones of at most 64 bits, all others are doubles. -/
inductive Json
  | null
  | bool (value : Bool)
  | integer (value : Int)
  | double (value : Float)
  | string (value : String)
  | array (items : List Json)
  | object (members : List (String × Json))

namespace Json

/-! ### Equality -/

mutual

/-- Two documents agree. Doubles agree as numbers, so a double that is no number agrees with
nothing. -/
def agrees : Json → Json → Bool
  | null, null => true
  | bool left, bool right => left == right
  | integer left, integer right => left == right
  | double left, double right => left == right
  | string left, string right => left == right
  | array left, array right => agreesAll left right
  | object left, object right => agreesMembers left right
  | _, _ => false

/-- Two lists of documents agree place by place. -/
def agreesAll : List Json → List Json → Bool
  | [], [] => true
  | left :: leftRest, right :: rightRest => agrees left right && agreesAll leftRest rightRest
  | _, _ => false

/-- Two lists of members agree place by place. -/
def agreesMembers : List (String × Json) → List (String × Json) → Bool
  | [], [] => true
  | (leftName, left) :: leftRest, (rightName, right) :: rightRest =>
    leftName == rightName && agrees left right && agreesMembers leftRest rightRest
  | _, _ => false

end

/-! ### The normal form of constants -/

mutual

/-- The document with the members of every object in order, each name once. -/
def normalize : Json → Json
  | array items => array (normalizeAll items)
  | object members => object (Entries.ofList (normalizeMembers members))
  | null => null
  | bool value => bool value
  | integer value => integer value
  | double value => double value
  | string value => string value

/-- The normal forms of several documents. -/
def normalizeAll : List Json → List Json
  | [] => []
  | item :: rest => normalize item :: normalizeAll rest

/-- Members with the normal forms of their documents. -/
def normalizeMembers : List (String × Json) → List (String × Json)
  | [] => []
  | (name, value) :: rest => (name, normalize value) :: normalizeMembers rest

end

/-! ### Views -/

/-- The truth value of a document that is one. -/
def bool? : Json → Option Bool
  | bool value => some value
  | _ => none

/-- The text of a document that is one. -/
def string? : Json → Option String
  | string value => some value
  | _ => none

/-- The items of a document that is an array. -/
def array? : Json → Option (List Json)
  | array items => some items
  | _ => none

/-- The members of a document that is an object. -/
def object? : Json → Option (List (String × Json))
  | object members => some members
  | _ => none

/-- The whole number of a document that is one and fits 64 bits with a sign. -/
def integer? : Json → Option Int
  | integer value => if value < 0x8000000000000000 then some value else none
  | _ => none

/-- The number of a document that is one, as a double. -/
def double? : Json → Option Float
  | integer value => some (Float.ofInt value)
  | double value => some value
  | _ => none

/-- The count of a document that is a whole number without a sign. -/
def count? : Json → Option Nat
  | integer value => if 0 ≤ value then some value.toNat else none
  | _ => none

end Json

end PredicateWire
