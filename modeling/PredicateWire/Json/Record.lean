/-
This file reads records out of JSON documents. A record is an object, or an array of
its fields in their declared order in which fields at the end may be left out.
Members that the record does not declare are passed over, a declared one that occurs
twice is refused. What an absent field means is up to its reader: it may be
required, have a default, or be optional, and only an optional field may be null.
-/
import PredicateWire.Json.Basic

namespace PredicateWire

namespace Json

/-- What the declared fields of a record hold, in declared order. -/
def declared? {Content : Type} (names : List String) (members : List (String × Content)) :
    Option (List (Option Content)) :=
  if names.any fun name => 1 < members.countP fun entry => entry.1 == name then none
  else some (names.map (Entries.get? members))

/-- What the declared fields of a record hold, where the record may also be an array. -/
def fields? (names : List String) : Json → Option (List (Option Json))
  | object members => declared? names members
  | array items =>
    if items.length ≤ names.length then
      some (items.map some ++ List.replicate (names.length - items.length) none)
    else none
  | _ => none

/-- A field that has to be there. -/
def required {Source Content : Type} (read : Source → Option Content) :
    Option Source → Option Content
  | some source => read source
  | none => none

/-- A field that is something of its own when it is absent. -/
def withDefault {Source Content : Type} (default : Content) (read : Source → Option Content) :
    Option Source → Option Content
  | some source => read source
  | none => some default

/-- A field that may be absent or null. -/
def optional {Content : Type} (read : Json → Option Content) :
    Option Json → Option (Option Content)
  | some null => some none
  | some source => (read source).map some
  | none => some none

/-- Reads an array item by item. -/
def listOf {Content : Type} (read : Json → Option Content) : Json → Option (List Content)
  | array items => items.mapM read
  | _ => none

/-- A member that is left out unless a flag is set. -/
def flagMember (name : String) (flag : Bool) : List (String × Json) :=
  if flag then [(name, bool true)] else []

/-- A member that is left out when there is nothing to write. -/
def optionalMember {Content : Type} (name : String) (write : Content → Json) :
    Option Content → List (String × Json)
  | some content => [(name, write content)]
  | none => []

/-- A member that is left out when a list is empty. -/
def listMember {Content : Type} (name : String) (write : Content → Json) (contents : List Content) :
    List (String × Json) :=
  if contents.isEmpty then [] else [(name, array (contents.map write))]

end Json

end PredicateWire
