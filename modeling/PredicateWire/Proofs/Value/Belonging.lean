/-
This file says which values belong to a type. Null belongs to none. A function belongs
to its type when every call of it on values of the parameter types settles on a value of
the type of the result. A value that belongs to a type belongs to every type that
accepts it.

To belong is what evaluation is proved to keep to, so it says nothing about values that
cannot come out of an evaluation of built expressions: a record has exactly the declared
fields, and an array belongs to a sequence type by its items. Functions make the
definition recursive in the type and not in the value, since what a call returns is not
a part of the function.
-/
import PredicateWire.Proofs.Catalog.Denoted
import PredicateWire.Proofs.Evaluation.Settling
import PredicateWire.Types.Assignability

namespace PredicateWire

namespace Value

/-! ### Values without null -/

/-- There is no null in the value. What a function has captured is not looked at. -/
inductive Whole : Value → Prop
  | bool (value : Bool) : Whole (.bool value)
  | int32 (value : Int32) : Whole (.int32 value)
  | int64 (value : Int64) : Whole (.int64 value)
  | double (value : Float) : Whole (.double value)
  | char (value : Char) : Whole (.char value)
  | string (value : String) : Whole (.string value)
  | array {items : List Value} (each : ∀ item ∈ items, Whole item) : Whole (.array items)
  | map {entries : List (Value × Value)} (keys : ∀ entry ∈ entries, Whole entry.1)
    (contents : ∀ entry ∈ entries, Whole entry.2) : Whole (.map entries)
  | record {fields : List (String × Value)} (each : ∀ field ∈ fields, Whole field.2) :
    Whole (.record fields)
  | function (closure : Closure) : Whole (.function closure)

theorem Whole.isNull {value : Value} (whole : value.Whole) : value.isNull = false := by
  cases whole <;> rfl

/-- The primitive kind of a simple value. -/
def primitive? : Value → Option Primitive
  | bool _ => some .bool
  | int32 _ => some .int32
  | int64 _ => some .int64
  | double _ => some .double
  | char _ => some .char
  | string _ => some .string
  | _ => none

/-! ### Values of a type -/

mutual

/-- A value belongs to a type. Everything without null belongs to the top type. A record has exactly
the declared fields, with contents that belong to their types. -/
def Belongs : DataType → Value → Prop
  | .primitive kind, value => value.primitive? = some kind
  | .object, value => value.Whole
  | .record _ fields _, value => ∃ contents, value = record contents ∧
      Entries.Ordered contents ∧ (∀ entry ∈ contents, ∃ field ∈ fields, field.name = entry.1) ∧
        FieldsBelong fields contents
  | .array element, value => ∃ items, value = array items ∧ ∀ item ∈ items, Belongs element item
  | .generic _ .sequence arguments, value => ∃ items, value = array items ∧
      ItemsBelong arguments items
  | .generic _ .map arguments, value => ∃ entries, value = map entries ∧
      EntriesBelong arguments entries
  | .generic _ .function arguments, value => ∃ closure, value = function closure ∧
      ∀ address, Answers arguments fun values budget =>
        Closure.callAt budget address closure values
  | .generic _ .record _, _ => False
  | .holder _, _ => False
  | .parameter _ _, _ => False

/-- A record has contents for fields, each of the type of the field. -/
def FieldsBelong : List (Field DataType) → List (String × Value) → Prop
  | [], _ => True
  | ⟨name, type, _⟩ :: rest, contents =>
    (∃ content, Entries.get? contents name = some content ∧ Belongs type content) ∧
      FieldsBelong rest contents

/-- Items belong to the only argument of a sequence type. -/
def ItemsBelong : List DataType → List Value → Prop
  | [element], items => ∀ item ∈ items, Belongs element item
  | _, _ => False

/-- Keys and contents belong to the two arguments of a map type. -/
def EntriesBelong : List DataType → List (Value × Value) → Prop
  | [key, content], entries =>
    (∀ entry ∈ entries, Belongs key entry.1) ∧ ∀ entry ∈ entries, Belongs content entry.2
  | _, _ => False

/-- Calls on values of all types but the last one settle on values of the last one. -/
def Answers : List DataType → (List Value → Nat → Outcome Value) → Prop
  | [], _ => False
  | [result], call => Settles (Belongs result) (call [])
  | argument :: rest, call =>
    ∀ value, Belongs argument value → Answers rest fun values => call (value :: values)

end

/-- The contents of a record belong to its fields when each field has a content of its type. -/
theorem fieldsBelong_iff {fields : List (Field DataType)} {contents : List (String × Value)} :
    FieldsBelong fields contents ↔ ∀ field ∈ fields,
      ∃ content, Entries.get? contents field.name = some content ∧ Belongs field.type content := by
  induction fields with
  | nil => simp [FieldsBelong]
  | cons field rest inductionHypothesis =>
    rw [FieldsBelong, inductionHypothesis, List.forall_mem_cons]

mutual

/-- There is no null in a value of a type. -/
theorem Belongs.whole : ∀ {type : DataType} {value : Value}, Belongs type value → value.Whole
  | .primitive kind, value, belongs => by
    rw [Belongs] at belongs
    cases value with
    | bool value => exact .bool value
    | int32 value => exact .int32 value
    | int64 value => exact .int64 value
    | double value => exact .double value
    | char value => exact .char value
    | string value => exact .string value
    | _ => cases belongs
  | .object, value, belongs => belongs
  | .record name fields captured, value, belongs => by
    rw [Belongs] at belongs
    obtain ⟨contents, rfl, ordered, declared, each⟩ := belongs
    refine .record fun entry member => ?_
    obtain ⟨field, fieldMember, named⟩ := declared entry member
    obtain ⟨content, found, whole⟩ := FieldsBelong.whole each field fieldMember
    rw [named, ordered.get?_of_mem member] at found
    cases found
    exact whole
  | .array element, value, belongs => by
    rw [Belongs] at belongs
    obtain ⟨items, rfl, each⟩ := belongs
    exact .array fun item member => (each item member).whole
  | .generic name .sequence arguments, value, belongs => by
    rw [Belongs] at belongs
    obtain ⟨items, rfl, each⟩ := belongs
    exact .array (ItemsBelong.whole each)
  | .generic name .map arguments, value, belongs => by
    rw [Belongs] at belongs
    obtain ⟨entries, rfl, each⟩ := belongs
    exact .map (EntriesBelong.whole each).1 (EntriesBelong.whole each).2
  | .generic name .function arguments, value, belongs => by
    rw [Belongs] at belongs
    obtain ⟨closure, rfl, _⟩ := belongs
    exact .function closure
  | .generic _ .record _, _, belongs | .holder _, _, belongs | .parameter _ _, _, belongs =>
    False.elim belongs

theorem FieldsBelong.whole : ∀ {fields : List (Field DataType)} {contents : List (String × Value)},
    FieldsBelong fields contents → ∀ field ∈ fields,
      ∃ content, Entries.get? contents field.name = some content ∧ content.Whole
  | [], contents, _ => List.forall_mem_nil _
  | ⟨name, type, isPublic⟩ :: rest, contents, belong => by
    rw [FieldsBelong] at belong
    obtain ⟨⟨content, found, belongs⟩, others⟩ := belong
    exact List.forall_mem_cons.mpr ⟨⟨content, found, belongs.whole⟩, FieldsBelong.whole others⟩

theorem ItemsBelong.whole : ∀ {arguments : List DataType} {items : List Value},
    ItemsBelong arguments items → ∀ item ∈ items, item.Whole
  | [element], items, belong => by
    rw [ItemsBelong] at belong
    exact fun item member => (belong item member).whole
  | [], _, belong | _ :: _ :: _, _, belong => False.elim belong

theorem EntriesBelong.whole : ∀ {arguments : List DataType} {entries : List (Value × Value)},
    EntriesBelong arguments entries →
      (∀ entry ∈ entries, entry.1.Whole) ∧ ∀ entry ∈ entries, entry.2.Whole
  | [key, content], entries, belong => by
    rw [EntriesBelong] at belong
    exact ⟨fun entry member => (belong.1 entry member).whole,
      fun entry member => (belong.2 entry member).whole⟩
  | [], _, belong | [_], _, belong | _ :: _ :: _ :: _, _, belong => False.elim belong

end

end Value

/-! ### Types that accept others -/

/-- Why a closed type accepts another one: it is the top type, the names agree, or it is the general
sequence type and accepts element by element. -/
theorem DataType.accepts_cases {target source : DataType} (closed : target.isClosed = true)
    (sourceClosed : source.isClosed = true) (accepted : target.accepts source = true) :
    target = .object ∨ target.canonicalName = source.canonicalName ∨
      ∃ expected others element, target = .generic sequenceName .sequence (expected :: others) ∧
        source.element? = some element ∧ expected.accepts element = true := by
  have notParameter : ∀ {type : DataType}, type.isClosed = true → type.isParameter = false := by
    intro type closed
    cases type <;> first | rfl | cases closed
  unfold accepts at accepted
  rw [notParameter closed, notParameter sourceClosed, Bool.or_false,
    if_neg Bool.false_ne_true] at accepted
  have elementwise : ∀ {arguments : List DataType} {element : DataType},
      accepts.acceptsFirst arguments element = true → source.element? = some element →
        ∃ expected others element, DataType.generic sequenceName .sequence arguments =
            .generic sequenceName .sequence (expected :: others) ∧
          source.element? = some element ∧ expected.accepts element = true := by
    intro arguments element first known
    unfold accepts.acceptsFirst at first
    split at first
    · exact ⟨_, _, element, rfl, known, first⟩
    · cases first
  split at accepted
  · exact .inl rfl
  · split at accepted
    · rename_i named
      rw [eq_of_beq named]
      exact .inr (.inr (elementwise accepted rfl))
    · exact .inr (.inl (eq_of_beq accepted))
  · split at accepted
    · rename_i named
      rw [eq_of_beq named]
      split at accepted
      · exact .inr (.inr (elementwise accepted rfl))
      · cases accepted
    · exact .inr (.inl (eq_of_beq accepted))
  · exact .inr (.inl (eq_of_beq accepted))

section

open Catalog

variable {specs : List RecordSpec}

/-- The general sequence type, like every sequence type of the library, has one argument. -/
theorem single_of_sequence {name : String} {arguments : List DataType}
    (denotes : (withRecords specs).Denotes (.generic name .sequence arguments)) :
    ∃ element, arguments = [element] ∧ (withRecords specs).Denotes element := by
  cases denotes.made with
  | generic defined each =>
    have one : ∀ definition ∈ Library.definitions, definition.2.1 = .sequence →
        definition.2.2 = 1 := by decide
    obtain ⟨element, rfl⟩ := List.length_eq_one_iff.mp (one _ defined rfl)
    exact ⟨element, rfl, each element (.head _)⟩

/-- A value of an array or sequence type has items of the element type. -/
theorem Value.Belongs.items {type element : DataType} {value : Value}
    (denotes : (withRecords specs).Denotes type) (known : type.element? = some element)
    (belongs : Belongs type value) : (withRecords specs).Denotes element ∧
      ∃ items, value = .array items ∧ ∀ item ∈ items, Belongs element item := by
  cases type with
  | array element =>
    cases known
    cases denotes.made with
    | array elementDenotes => exact ⟨elementDenotes, belongs⟩
  | generic name family arguments =>
    cases family with
    | sequence =>
      obtain ⟨only, rfl, elementDenotes⟩ := single_of_sequence denotes
      cases known
      exact ⟨elementDenotes, belongs⟩
    | _ => cases known
  | _ => cases known

/-- A value belongs to every type that accepts its type. -/
theorem Value.Belongs.of_accepts {target source : DataType} {value : Value}
    (denotes : (withRecords specs).Denotes target)
    (sourceDenotes : (withRecords specs).Denotes source) (accepted : target.accepts source = true)
    (belongs : Belongs source value) : Belongs target value := by
  rcases DataType.accepts_cases denotes.1 sourceDenotes.1 accepted with
    rfl | same | ⟨expected, others, element, rfl, known, inner⟩
  · exact belongs.whole
  · rw [denotes.ext sourceDenotes same]
    exact belongs
  · obtain ⟨_, single, expectedDenotes⟩ := single_of_sequence denotes
    cases single
    obtain ⟨elementDenotes, items, rfl, each⟩ := belongs.items sourceDenotes known
    exact ⟨items, rfl, fun item member =>
      of_accepts expectedDenotes elementDenotes inner (each item member)⟩
termination_by target

end

end PredicateWire
