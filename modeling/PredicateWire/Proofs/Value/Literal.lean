/-
This file says which constants conform to a type and proves that these are read back
from their literals. Null conforms to every type, and nothing else conforms where a
literal does not say what it stands for: at the top type, at a generic parameter and at
the type of a function.

A literal has no types in it. A whole number of 32 bits is written as one of 64 bits is,
a character as a text, a map as a list of pairs, and only the declared type says how to
read them. So constants that conform are read back at their type, and for a sender that
is all there is to know about them. A receiver that has its records from captured fields
reads at another type, to which the constant conforms as well.
-/
import PredicateWire.Proofs.Value.Typed

namespace PredicateWire

namespace Value

/-- A constant conforms to a type. A record has exactly the declared fields, each with a content
that conforms to the type of the field. -/
inductive Conforms : DataType → Value → Prop
  | null (type : DataType) : Conforms type .null
  | bool (value : Bool) : Conforms .bool (.bool value)
  | int32 (value : Int32) : Conforms .int32 (.int32 value)
  | int64 (value : Int64) : Conforms .int64 (.int64 value)
  | double (value : Float) : Conforms .double (.double value)
  | char (value : Char) : Conforms .char (.char value)
  | string (value : String) : Conforms .string (.string value)
  | array {element : DataType} {items : List Value}
    (each : ∀ item ∈ items, Conforms element item) : Conforms (.array element) (.array items)
  | sequence {name : String} {element : DataType} {others : List DataType} {items : List Value}
    (each : ∀ item ∈ items, Conforms element item) :
    Conforms (.generic name .sequence (element :: others)) (.array items)
  | map {name : String} {key content : DataType} {others : List DataType}
    {entries : List (Value × Value)} (keys : ∀ entry ∈ entries, Conforms key entry.1)
    (contents : ∀ entry ∈ entries, Conforms content entry.2) :
    Conforms (.generic name .map (key :: content :: others)) (.map entries)
  | record {name : String} {fields : List (Field DataType)} {captured : Bool}
    {contents : List (String × Value)} (ordered : Entries.Ordered contents)
    (declared : ∀ entry ∈ contents, ∃ field ∈ fields, field.name = entry.1)
    (present : ∀ field ∈ fields, (Entries.get? contents field.name).isSome = true)
    (each : ∀ field ∈ fields, ∀ content, Entries.get? contents field.name = some content →
      Conforms field.type content) :
    Conforms (.record name fields captured) (.record contents)
  | genericRecord {name : String} {arguments : List DataType} :
    Conforms (.generic name .record arguments) (.record [])

/-- A type admits what conforms to it, if it can be written. -/
theorem Conforms.admits {type : DataType} {value : Value} (conforms : Conforms type value)
    (hasLiteral : value.HasLiteral) : type.Admits Field.Declared value := by
  induction conforms with
  | null type => exact .null type
  | bool value => exact .bool value
  | int32 value => exact .int32 value
  | int64 value => exact .int64 value
  | double value => exact .double ((hasLiteral_double value).mp hasLiteral)
  | char value => exact .char value
  | string value => exact .string value
  | array each inductionHypothesis =>
    rw [hasLiteral_array] at hasLiteral
    exact .array fun item member => inductionHypothesis item member (hasLiteral item member)
  | sequence each inductionHypothesis =>
    rw [hasLiteral_array] at hasLiteral
    exact .sequence fun item member => inductionHypothesis item member (hasLiteral item member)
  | map keys contents keysHypothesis contentsHypothesis =>
    rw [hasLiteral_map] at hasLiteral
    exact .map
      (fun entry member => keysHypothesis entry member (hasLiteral entry member).1)
      fun entry member => contentsHypothesis entry member (hasLiteral entry member).2
  | record ordered declared present each inductionHypothesis =>
    rw [hasLiteral_record] at hasLiteral
    exact .record ordered declared present fun field member content found =>
      inductionHypothesis field member content found
        (hasLiteral (field.name, content) (Entries.mem_of_get? found))
  | genericRecord => exact .genericRecord

/-- A constant that conforms to a type is read back at the type. -/
theorem Conforms.ofLiteral {type : DataType} {value : Value} (conforms : Conforms type value)
    {document : Json} (written : value.literal = .ok document) :
    ofLiteral type document.normalize = .ok value := by
  obtain ⟨ordered, read⟩ :=
    readBack_of_admits (conforms.admits (hasLiteral_of_written written)) written
  rw [ordered.normalize_eq, read]

/-- What conforms to a type conforms to it when its records are captured. -/
theorem Conforms.synthesized {type : DataType} {value : Value} (conforms : Conforms type value) :
    Conforms type.synthesized value := by
  induction conforms with
  | null type => exact .null _
  | bool value => exact .bool value
  | int32 value => exact .int32 value
  | int64 value => exact .int64 value
  | double value => exact .double value
  | char value => exact .char value
  | string value => exact .string value
  | array each inductionHypothesis =>
    rw [DataType.synthesized]
    exact .array inductionHypothesis
  | sequence each inductionHypothesis =>
    rw [DataType.synthesized, DataType.synthesizedAll]
    exact .sequence inductionHypothesis
  | map keys contents keysHypothesis contentsHypothesis =>
    rw [DataType.synthesized, DataType.synthesizedAll, DataType.synthesizedAll]
    exact .map keysHypothesis contentsHypothesis
  | record ordered declared present each inductionHypothesis =>
    rw [DataType.synthesized, DataType.synthesizedFields_eq_map]
    refine .record ordered (fun entry member => ?_) (List.forall_mem_map.mpr present)
      (List.forall_mem_map.mpr inductionHypothesis)
    obtain ⟨field, fieldMember, named⟩ := declared entry member
    exact ⟨_, List.mem_map_of_mem fieldMember, named⟩
  | genericRecord =>
    rw [DataType.synthesized]
    exact .genericRecord

end Value

end PredicateWire
