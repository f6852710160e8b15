/-
This file says which values inhabit a type. Null inhabits every type, and every value
the top type. A function inhabits its type when each call of it on inhabitants of the
types of its parameters that yields something yields an inhabitant of the type of its
result, whatever the budget of nested calls. Where one name stands for one type, a value
that inhabits a type inhabits every type that accepts it.

To inhabit is weaker than to belong. It allows for null, and a function need not answer
at all, so it is the right notion for expressions whose evaluation may fail: nothing is
said about whether there is a value, only about which value there is.
-/
import Mathlib.Data.List.Nodup
import PredicateWire.Proofs.Types.Parts
import PredicateWire.Proofs.Value.Belonging
import PredicateWire.Proofs.Value.Literal

namespace PredicateWire

/-- What is yielded, if anything is, is as wanted. -/
abbrev Returns {Fault Content : Type} (wanted : Content → Prop) (outcome : Except Fault Content) :
    Prop :=
  Meets wanted (fun _ => True) outcome

theorem returns_ok {Fault Content : Type} {wanted : Content → Prop} {content : Content}
    (holds : wanted content) : Returns wanted (.ok content : Except Fault Content) :=
  holds

namespace Value

/-! ### Inhabitants of types -/

mutual

/-- A value inhabits a type. A record has exactly the declared fields, with contents that inhabit
their types; an array or a map inhabits its type part by part. -/
def Inhabits : DataType → Value → Prop
  | .primitive kind, value => value = null ∨ value.primitive? = some kind
  | .object, _ => True
  | .record _ fields _, value => value = null ∨ ∃ contents, value = record contents ∧
      Entries.Ordered contents ∧ (∀ entry ∈ contents, ∃ field ∈ fields, field.name = entry.1) ∧
        FieldsInhabit fields contents
  | .array element, value => value = null ∨ ∃ items, value = array items ∧
      ∀ item ∈ items, Inhabits element item
  | .generic _ .sequence arguments, value => value = null ∨ ∃ items, value = array items ∧
      ∀ item ∈ items, FirstInhabits arguments item
  | .generic _ .map arguments, value => value = null ∨ ∃ entries, value = map entries ∧
      ∀ entry ∈ entries, FirstInhabits arguments entry.1 ∧ SecondInhabits arguments entry.2
  | .generic _ .function arguments, value => value = null ∨ ∃ closure, value = function closure ∧
      ∀ budget address, Replies arguments fun values =>
        Closure.callAt budget address closure values
  | .generic _ .record _, value => value = null ∨ value = record []
  | .holder _, value => value = null
  | .parameter _ _, value => value = null

/-- A record has contents for fields, each an inhabitant of the type of the field. -/
def FieldsInhabit : List (Field DataType) → List (String × Value) → Prop
  | [], _ => True
  | ⟨name, type, _⟩ :: rest, contents =>
    (∃ content, Entries.get? contents name = some content ∧ Inhabits type content) ∧
      FieldsInhabit rest contents

/-- A value inhabits the first of several types. -/
def FirstInhabits : List DataType → Value → Prop
  | type :: _, value => Inhabits type value
  | [], _ => False

/-- A value inhabits the second of several types. -/
def SecondInhabits : List DataType → Value → Prop
  | _ :: rest, value => FirstInhabits rest value
  | [], _ => False

/-- Calls on inhabitants of all types but the last one return inhabitants of the last one. -/
def Replies : List DataType → (List Value → Outcome Value) → Prop
  | [], _ => True
  | [result], call => Returns (Inhabits result) (call [])
  | argument :: rest, call =>
    ∀ value, Inhabits argument value → Replies rest fun values => call (value :: values)

end

variable {type element target source : DataType} {value : Value}

theorem inhabits_null (type : DataType) : Inhabits type null := by
  cases type with
  | generic name family arguments => cases family <;> exact .inl rfl
  | object => trivial
  | holder => rfl
  | parameter => rfl
  | _ => exact .inl rfl

theorem eq_null_of_isNull (absent : value.isNull = true) : value = null := by
  cases value <;> first | rfl | cases absent

/-- The contents of a record inhabit its fields when each field has a content of its type. -/
theorem fieldsInhabit_iff {fields : List (Field DataType)} {contents : List (String × Value)} :
    FieldsInhabit fields contents ↔ ∀ field ∈ fields,
      ∃ content, Entries.get? contents field.name = some content ∧ Inhabits field.type content := by
  induction fields with
  | nil => simp [FieldsInhabit]
  | cons field rest inductionHypothesis =>
    rw [FieldsInhabit, inductionHypothesis, List.forall_mem_cons]

/-- What inhabits a primitive type and is there belongs to it. -/
theorem Inhabits.belongs {kind : Primitive} (inhabits : Inhabits (.primitive kind) value)
    (present : value.isNull = false) : Belongs (.primitive kind) value := by
  rcases inhabits with rfl | simple
  · cases present
  · exact simple

/-- What belongs to a primitive type inhabits it. -/
theorem Belongs.inhabits {kind : Primitive} (belongs : Belongs (.primitive kind) value) :
    Inhabits (.primitive kind) value :=
  .inr belongs

/-- A value of an array or sequence type has items that inhabit the element type. -/
theorem Inhabits.items (inhabits : Inhabits type value) (known : type.element? = some element) :
    value = null ∨ ∃ items, value = array items ∧ ∀ item ∈ items, Inhabits element item := by
  cases type with
  | array =>
    cases known
    exact inhabits
  | generic name family arguments =>
    cases family with
    | sequence =>
      cases arguments with
      | nil => cases known
      | cons first others =>
        cases known
        exact inhabits
    | _ => cases known
  | _ => cases known

end Value

/-! ### Types that accept others -/

namespace DataType

/-- One name stands for one type among the parts of types. -/
def Coherent (types : List DataType) : Prop :=
  ∀ type ∈ types, ∀ part ∈ type.parts, ∀ otherType ∈ types, ∀ other ∈ otherType.parts,
    part.canonicalName = other.canonicalName → part = other

/-- Types are coherent if their parts are among types with different names. -/
theorem coherent_of_nodup {types : List DataType} (known : List DataType)
    (listed : ∀ type ∈ types, type.parts ⊆ known) (distinct : (known.map canonicalName).Nodup) :
    Coherent types :=
  fun type member _ within otherType otherMember _ otherWithin =>
    List.inj_on_of_nodup_map distinct (listed type member within)
      (listed otherType otherMember otherWithin)

/-- The element type is one of the arguments, those of an array included. -/
theorem mem_arguments_of_element? {type element : DataType}
    (known : type.element? = some element) : element ∈ type.arguments := by
  cases type with
  | array =>
    cases known
    exact .head _
  | generic name family arguments =>
    cases family with
    | sequence => exact List.mem_of_mem_head? known
    | _ => cases known
  | _ => cases known

/-- The parts of an argument are parts of the type. -/
theorem parts_of_mem_arguments {type argument part : DataType} (member : argument ∈ type.arguments)
    (within : part ∈ argument.parts) : part ∈ type.parts := by
  cases type with
  | array =>
    rw [List.mem_singleton.mp member] at within
    exact List.mem_cons_of_mem _ within
  | generic name family arguments => exact parts_argument member within
  | _ => cases member

end DataType

/-- A value inhabits every type that accepts a type that it inhabits, where one name stands for one
type. -/
theorem Value.Inhabits.of_accepts {target source : DataType} {value : Value}
    (closed : target.isClosed = true) (sourceClosed : source.isClosed = true)
    (coherent : ∀ part ∈ target.parts, ∀ other ∈ source.parts,
      part.canonicalName = other.canonicalName → part = other)
    (accepted : target.accepts source = true) (inhabits : Inhabits source value) :
    Inhabits target value := by
  rcases DataType.accepts_cases closed sourceClosed accepted with
    rfl | same | ⟨expected, others, element, rfl, known, inner⟩
  · trivial
  · rw [coherent _ target.mem_parts_self _ source.mem_parts_self same]
    exact inhabits
  · have member := DataType.mem_arguments_of_element? known
    rcases inhabits.items known with rfl | ⟨items, rfl, each⟩
    · exact inhabits_null _
    · refine .inr ⟨items, rfl, fun item itemMember => ?_⟩
      refine of_accepts (DataType.closed_of_mem_arguments closed (.head _))
        (DataType.closed_of_mem_arguments sourceClosed member)
        (fun part within other otherWithin => ?_) inner (each item itemMember)
      exact coherent part (DataType.parts_argument (.head _) within) other
        (DataType.parts_of_mem_arguments member otherWithin)
termination_by target

end PredicateWire
