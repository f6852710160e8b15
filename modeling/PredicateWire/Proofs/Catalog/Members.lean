/-
This file says what a catalog finds under the name of a member. It looks for a field of
the type first and then for a registered property of the base name, which it carries
over to the type; so a field hides a property of the same name, and a property that was
registered for a generic definition is found at every instance of it.

What is found goes by the name and belongs to the type (`declaringType_of_member?`).
Therefore it is found again when it is looked for at the type that it says it belongs
to, and this is what a receiver does with the reference that a packet makes to it. The
two places are kept apart in one equivalence, which all other proofs about members start
from.
-/
import PredicateWire.Catalog.Basic

namespace PredicateWire

/-- A field that is found is a field of the type and has the name. -/
theorem DataType.field?_eq_some {type : DataType} {name : String} {field : Field DataType}
    (found : type.field? name = some field) : field ∈ type.fields ∧ field.name = name := by
  have tested := List.find?_some found
  exact ⟨List.mem_of_find?_eq_some found, eq_of_beq tested⟩

namespace Catalog

variable {catalog : Catalog} {type : DataType} {name : String}

/-- A property that is found has been registered for the base name and has the name. -/
theorem property?_eq_some {typeName : String} {property : Member}
    (found : catalog.property? typeName name = some property) :
    property ∈ catalog.properties ∧ property.declaringType.baseName = typeName ∧
      property.name = name := by
  have tested := List.find?_some found
  rw [Bool.and_eq_true, beq_iff_eq, beq_iff_eq] at tested
  exact ⟨List.mem_of_find?_eq_some found, tested⟩

/-- A name stands for the field of a type that has this name, public or not. Only where there is
none does it stand for a property: a field hides the property of its name. -/
theorem member?_eq_some_iff {read : Member} :
    catalog.member? type name = some read ↔
      (∃ field, type.field? name = some field ∧ Member.ofField type field = read) ∨
        (type.field? name = none ∧ ∃ property,
          catalog.property? type.baseName name = some property ∧
            property.closeOver type = read) := by
  unfold member?
  cases type.field? name with
  | some field => simp
  | none => simp

/-- A member that is found says that it belongs to the type at which it was found, and has the
name. -/
theorem declaringType_of_member? {read : Member}
    (found : catalog.member? type name = some read) :
    read.declaringType = type ∧ read.name = name := by
  rcases member?_eq_some_iff.mp found with ⟨_, isField, rfl⟩ | ⟨-, _, isProperty, rfl⟩
  · exact ⟨rfl, (DataType.field?_eq_some isField).2⟩
  · exact ⟨rfl, (property?_eq_some isProperty).2.2⟩

/-- A member that is found is found again at the type that it says it belongs to. -/
theorem member?_self {read : Member} (found : catalog.member? type name = some read) :
    catalog.member? read.declaringType read.name = some read := by
  obtain ⟨sameType, sameName⟩ := declaringType_of_member? found
  rw [sameType, sameName]
  exact found

end Catalog

end PredicateWire
