/-
This file proves that accepting is a preorder of types that values respect. This holds
in every domain of closed types in which one name stands for one type and every sequence
type has an element type: elsewhere two records that go by one name accept each other,
and an open type accepts everything.

A type accepts another because it is the top type, because their names agree, or because
it is the general sequence type and accepts the elements of the other. Transitivity is
by recursion on the type in the middle, whose elements are what two sequences are
compared through. Whether a value inhabits what accepts its type is proved along the
same cases, item by item.
-/
import PredicateWire.Proofs.Value.Inhabiting

namespace PredicateWire

namespace DataType

/-- A domain of types: they are closed, the types that they are closed over belong to it, every
sequence type has an element type, and one name stands for one type. -/
structure Domain (holds : DataType → Prop) : Prop where
  closed : ∀ {type}, holds type → type.isClosed = true
  arguments : ∀ {type}, holds type → ∀ argument ∈ type.arguments, holds argument
  elements : ∀ {name arguments}, holds (generic name .sequence arguments) → arguments ≠ []
  names : ∀ {type other}, holds type → holds other →
    type.canonicalName = other.canonicalName → type = other

/-! ### Why a type accepts another -/

theorem accepts_object (source : DataType) : object.accepts source = true := by
  unfold accepts
  split <;> rfl

/-- The general sequence type accepts arrays and sequences whose elements its own element type
accepts. -/
theorem accepts_sequence {expected source element : DataType} {others : List DataType}
    (known : source.element? = some element) (accepted : expected.accepts element = true) :
    (generic sequenceName .sequence (expected :: others)).accepts source = true := by
  cases source with
  | array =>
    cases known
    simp [accepts, accepts.acceptsFirst, accepted]
  | generic name family arguments =>
    cases family with
    | sequence =>
      cases arguments with
      | nil => cases known
      | cons first rest =>
        cases known
        simp [accepts, accepts.acceptsFirst, accepted]
    | _ => cases known
  | _ => cases known

namespace Domain

variable {holds : DataType → Prop} (domain : Domain holds)

include domain

/-- The element type of a type of a domain belongs to it. -/
theorem element {type element : DataType} (member : holds type)
    (known : type.element? = some element) : holds element :=
  domain.arguments member element (mem_arguments_of_element? known)

/-- Every type accepts itself. The general sequence type goes by its elements to see this, all
others by their names. -/
theorem accepts_self : ∀ type : DataType, holds type → type.accepts type = true
  | .generic name .sequence arguments, member => by
    by_cases general : name = sequenceName
    · subst general
      obtain ⟨first, others, rfl⟩ := List.exists_cons_of_ne_nil (domain.elements member)
      have inner := domain.arguments member first (.head _)
      exact accepts_sequence rfl (accepts_self first inner)
    · simp [accepts, isParameter, general]
  | .object, _ => accepts_object _
  | .parameter owner position, _ => rfl
  | .generic name .map arguments, _ | .generic name .function arguments, _
  | .generic name .record arguments, _ | .primitive kind, _ | .record name fields captured, _
  | .array element, _ | .holder name, _ => by simp [accepts, isParameter]

/-- What accepts a type accepts all that this type accepts. -/
theorem accepts_trans {first second third : DataType} (firstMember : holds first)
    (secondMember : holds second) (thirdMember : holds third)
    (accepted : first.accepts second = true) (further : second.accepts third = true) :
    first.accepts third = true := by
  rcases accepts_cases (domain.closed firstMember) (domain.closed secondMember) accepted with
    rfl | same | ⟨expected, others, middle, rfl, known, inner⟩
  · exact accepts_object third
  · rw [domain.names firstMember secondMember same]
    exact further
  rcases accepts_cases (domain.closed secondMember) (domain.closed thirdMember) further with
    rfl | same | ⟨actual, rest, last, rfl, knownThird, innerThird⟩
  · cases known
  · rw [← domain.names secondMember thirdMember same]
    exact accepted
  · cases known
    have expectedMember := domain.arguments firstMember expected (.head _)
    exact accepts_sequence knownThird (accepts_trans expectedMember
      (domain.element secondMember rfl) (domain.element thirdMember knownThird) inner innerThird)
termination_by first

/-- A value inhabits every type that accepts a type that it inhabits. -/
theorem inhabits_of_accepts {target source : DataType} {value : Value} (targetMember : holds target)
    (sourceMember : holds source) (accepted : target.accepts source = true)
    (inhabits : Value.Inhabits source value) : Value.Inhabits target value := by
  rcases accepts_cases (domain.closed targetMember) (domain.closed sourceMember) accepted with
    rfl | same | ⟨expected, others, element, rfl, known, inner⟩
  · trivial
  · rw [domain.names targetMember sourceMember same]
    exact inhabits
  · rcases inhabits.items known with rfl | ⟨items, rfl, each⟩
    · exact Value.inhabits_null _
    · have expectedMember := domain.arguments targetMember expected (.head _)
      exact .inr ⟨items, rfl, fun item member => inhabits_of_accepts expectedMember
        (domain.element sourceMember known) inner (each item member)⟩
termination_by target

end Domain

/-- Accepting is a preorder on every domain of types, and a value that inhabits a type inhabits
every type that accepts it. -/
theorem accepts_preorder {holds : DataType → Prop} (domain : Domain holds) :
    (∀ type, holds type → type.accepts type = true) ∧
    (∀ first second third, holds first → holds second → holds third →
      first.accepts second = true → second.accepts third = true → first.accepts third = true) ∧
    ∀ target source, holds target → holds source → target.accepts source = true →
      ∀ value, Value.Inhabits source value → Value.Inhabits target value :=
  ⟨domain.accepts_self,
    fun _ _ _ firstMember secondMember thirdMember =>
      domain.accepts_trans firstMember secondMember thirdMember,
    fun _ _ targetMember sourceMember accepted _ =>
      domain.inhabits_of_accepts targetMember sourceMember accepted⟩

/-- Lists of integers. -/
def integerList : DataType :=
  .generic listName .sequence [.int32]

/-- Sequences of sequences of anything. -/
def nestedSequence : DataType :=
  .generic sequenceName .sequence [.generic sequenceName .sequence [.object]]

/-- Sequences of lists of integers. -/
def listSequence : DataType :=
  .generic sequenceName .sequence [integerList]

/-- The types that an array of lists and the two sequence types above it are made of. -/
def listDomain : List DataType :=
  [.object, .int32, .generic sequenceName .sequence [.object], integerList, nestedSequence,
    listSequence, .array integerList]

/-- An array of lists stands where sequences of lists do, and so where sequences of sequences do:
its lists, one of which is null, are sequences of anything. -/
theorem accepts_preorder_lists :
    Domain (· ∈ listDomain) ∧ nestedSequence.accepts nestedSequence = true ∧
      nestedSequence.accepts listSequence = true ∧
      listSequence.accepts (.array integerList) = true ∧
      nestedSequence.accepts (.array integerList) = true ∧
      Value.Inhabits (.array integerList) (.array [.array [.int32 1], .null]) ∧
      Value.Inhabits nestedSequence (.array [.array [.int32 1], .null]) := by
  have distinct : (listDomain.map canonicalName).Nodup := by decide +kernel
  have closed : ∀ type ∈ listDomain, type.isClosed = true := by decide
  have arguments : ∀ type ∈ listDomain, ∀ argument ∈ type.arguments, argument ∈ listDomain := by
    simp [listDomain, integerList, nestedSequence, listSequence, DataType.arguments]
  have elements : ∀ type ∈ listDomain, type.arguments ≠ [] ∨
      ∀ name arguments, type ≠ .generic name .sequence arguments := by
    simp [listDomain, integerList, nestedSequence, listSequence, DataType.arguments]
  have domain : Domain (· ∈ listDomain) := {
    closed := closed _
    arguments := arguments _
    elements := fun {name arguments} member =>
      (elements _ member).resolve_right fun other => other name arguments rfl
    names := fun member otherMember => List.inj_on_of_nodup_map distinct member otherMember }
  have outer : nestedSequence ∈ listDomain := by simp [listDomain]
  have middle : listSequence ∈ listDomain := by simp [listDomain]
  have inner : .array integerList ∈ listDomain := by simp [listDomain]
  have first : nestedSequence.accepts listSequence = true := by decide +kernel
  have second : listSequence.accepts (.array integerList) = true := by decide +kernel
  have accepted : nestedSequence.accepts (.array integerList) = true :=
    (accepts_preorder domain).2.1 _ _ _ outer middle inner first second
  have inhabits : Value.Inhabits (.array integerList) (.array [.array [.int32 1], .null]) := by
    refine .inr ⟨_, rfl, List.forall_mem_cons.mpr ⟨.inr ⟨_, rfl, ?_⟩, ?_⟩⟩
    · exact List.forall_mem_singleton.mpr (.inr rfl)
    · exact List.forall_mem_singleton.mpr (Value.inhabits_null _)
  exact ⟨domain, (accepts_preorder domain).1 _ outer, first, second, accepted, inhabits,
    (accepts_preorder domain).2.2 _ _ outer inner accepted _ inhabits⟩

end DataType

end PredicateWire
