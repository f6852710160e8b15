/-
This file proves what filling in generic parameters does: nothing to a closed type, and
done twice what it would do at once, if the second filling completes what the first one
put in. The shape of a type stays what it was, so that a definition is found again by
the parameter types of everything it was closed to.

Both facts are needed for references to generic methods. A reference holds the types of
the closed method, and a receiver looks among its open definitions for those that have
such a shape. When it has found one it closes it again, with the arguments in the
reference, and gets the method that was sent. Arguments that are left out are the
parameters themselves, and so a filling may be shorter than the list of parameters.
-/
import PredicateWire.Types.Assignability

namespace PredicateWire

namespace DataType

/-! ### Closed types -/

mutual

/-- No generic parameter occurs in the type. -/
def isClosed : DataType → Bool
  | parameter _ _ => false
  | array element => isClosed element
  | generic _ _ arguments => areClosed arguments
  | record _ fields _ => fieldsAreClosed fields
  | primitive _ => true
  | object => true
  | holder _ => true

/-- No generic parameter occurs in any of several types. -/
def areClosed : List DataType → Bool
  | [] => true
  | type :: rest => isClosed type && areClosed rest

/-- No generic parameter occurs in the types of fields. -/
def fieldsAreClosed : List (Field DataType) → Bool
  | [] => true
  | ⟨_, type, _⟩ :: rest => isClosed type && fieldsAreClosed rest

end

theorem areClosed_iff {types : List DataType} :
    areClosed types = true ↔ ∀ type ∈ types, type.isClosed = true := by
  induction types with
  | nil => simp [areClosed]
  | cons type rest inductionHypothesis =>
    rw [areClosed, Bool.and_eq_true, inductionHypothesis, List.forall_mem_cons]

theorem fieldsAreClosed_iff {fields : List (Field DataType)} :
    fieldsAreClosed fields = true ↔ ∀ field ∈ fields, field.type.isClosed = true := by
  induction fields with
  | nil => simp [fieldsAreClosed]
  | cons field rest inductionHypothesis =>
    rw [fieldsAreClosed, Bool.and_eq_true, inductionHypothesis, List.forall_mem_cons]

/-- The arguments of a closed type are closed. -/
theorem closed_of_mem_arguments {type argument : DataType} (closed : type.isClosed = true)
    (member : argument ∈ type.arguments) : argument.isClosed = true := by
  cases type with
  | array element =>
    rw [arguments, List.mem_singleton] at member
    rw [member, ← closed, isClosed]
  | generic name family types =>
    rw [isClosed] at closed
    exact areClosed_iff.mp closed argument member
  | _ => cases member

section

variable (typeArguments methodArguments : List DataType)

mutual

/-- Filling in parameters of a closed type changes nothing. -/
theorem substitute_of_closed : ∀ {type : DataType}, type.isClosed = true →
    type.substitute typeArguments methodArguments = type
  | .parameter _ _, closed => by cases closed
  | .array element, closed => by
    rw [isClosed] at closed
    rw [substitute, substitute_of_closed closed]
  | .generic name family arguments, closed => by
    rw [isClosed] at closed
    rw [substitute, substituteAll_of_closed closed]
  | .record _ _ _, _ => rfl
  | .primitive _, _ => rfl
  | .object, _ => rfl
  | .holder _, _ => rfl

theorem substituteAll_of_closed : ∀ {types : List DataType}, areClosed types = true →
    substituteAll typeArguments methodArguments types = types
  | [], _ => rfl
  | type :: rest, closed => by
    rw [areClosed, Bool.and_eq_true] at closed
    rw [substituteAll, substitute_of_closed closed.1, substituteAll_of_closed closed.2]

end

end

/-! ### Filling in twice -/

/-- Filling in completes an earlier filling: what that put in for a parameter, or left there,
becomes what is to be put in for the parameter. -/
structure Completes (typeArguments methodArguments earlierTypes earlierMethods : List DataType) :
    Prop where
  types : ∀ position, (earlierTypes.getD position (parameter .type position)).substitute
    typeArguments methodArguments = typeArguments.getD position (parameter .type position)
  methods : ∀ position, (earlierMethods.getD position (parameter .method position)).substitute
    typeArguments methodArguments = methodArguments.getD position (parameter .method position)

section

variable {typeArguments methodArguments earlierTypes earlierMethods : List DataType}

mutual

/-- A filling that completes an earlier one does at once what both do in turn. Closing a definition
that has been carried over, and carrying over one that has been closed, are two fillings of this
kind. -/
theorem substitute_substitute
    (completes : Completes typeArguments methodArguments earlierTypes earlierMethods) :
    ∀ type : DataType,
      (type.substitute earlierTypes earlierMethods).substitute typeArguments methodArguments =
        type.substitute typeArguments methodArguments
  | .parameter .type position => by
    rw [substitute, completes.types, substitute]
  | .parameter .method position => by
    rw [substitute, completes.methods, substitute]
  | .array element => by
    rw [substitute, substitute, substitute_substitute completes element, substitute]
  | .generic name family arguments => by
    rw [substitute, substitute, substituteAll_substituteAll completes arguments, substitute]
  | .record _ _ _ => rfl
  | .primitive _ => rfl
  | .object => rfl
  | .holder _ => rfl

theorem substituteAll_substituteAll
    (completes : Completes typeArguments methodArguments earlierTypes earlierMethods) :
    ∀ types : List DataType,
      substituteAll typeArguments methodArguments
        (substituteAll earlierTypes earlierMethods types) =
          substituteAll typeArguments methodArguments types
  | [] => rfl
  | type :: rest => by
    rw [substituteAll, substituteAll, substitute_substitute completes type,
      substituteAll_substituteAll completes rest, substituteAll]

end

end

theorem substitute_getD {arguments typeArguments methodArguments : List DataType}
    (closed : ∀ argument ∈ arguments, argument.isClosed = true) {position : Nat}
    {standing : DataType}
    (kept : standing.substitute typeArguments methodArguments = arguments.getD position standing) :
    (arguments.getD position standing).substitute typeArguments methodArguments =
      arguments.getD position standing := by
  rw [List.getD_eq_getElem?_getD] at kept ⊢
  cases found : arguments[position]? with
  | none =>
    rw [found] at kept
    exact kept
  | some argument => exact substitute_of_closed _ _ (closed _ (List.mem_of_getElem? found))

/-- Filling in method parameters completes the filling in of closed type parameters. -/
theorem completes_types {typeArguments : List DataType}
    (closed : ∀ argument ∈ typeArguments, argument.isClosed = true)
    (methodArguments : List DataType) :
    Completes typeArguments methodArguments typeArguments [] :=
  ⟨fun _ => substitute_getD closed (by rw [substitute]), fun _ => by rw [List.getD_nil, substitute]⟩

/-- Filling in type parameters completes the filling in of closed method parameters, while the
type parameters stand for themselves. -/
theorem completes_methods {own methodArguments : List DataType}
    (standing : ∀ position, own.getD position (parameter .type position) = parameter .type position)
    (closed : ∀ argument ∈ methodArguments, argument.isClosed = true)
    (typeArguments : List DataType) :
    Completes typeArguments methodArguments own methodArguments :=
  ⟨fun position => by rw [standing, substitute],
    fun _ => substitute_getD closed (by rw [substitute])⟩

/-! ### Shapes -/

section

variable (typeArguments methodArguments : List DataType)

theorem length_substituteAll (types : List DataType) :
    (substituteAll typeArguments methodArguments types).length = types.length := by
  rw [substituteAll_eq_map, List.length_map]

/-- A type has the shape of everything that its parameters can be filled to. -/
theorem shapeMatches_substitute : ∀ type : DataType,
    shapeMatches type (type.substitute typeArguments methodArguments) = true
  | .parameter owner position => by simp [shapeMatches, isParameter]
  | .array element => by
    rw [substitute, shapeMatches]
    exact shapeMatches_substitute element
  | .generic name family arguments => by
    simp [substitute, shapeMatches, baseName, DataType.arguments, length_substituteAll]
  | .record _ _ _ => by simp [substitute, shapeMatches]
  | .primitive _ => by simp [substitute, shapeMatches]
  | .object => by simp [substitute, shapeMatches]
  | .holder _ => by simp [substitute, shapeMatches]

theorem shapesMatch_substitute (types : List DataType) :
    shapesMatch types (types.map (substitute typeArguments methodArguments)) = true := by
  rw [shapesMatch, List.length_map, beq_self_eq_true, Bool.true_and, List.all_eq_true]
  intro pair member
  induction types with
  | nil => cases member
  | cons type rest inductionHypothesis =>
    rw [List.map_cons, List.zip_cons_cons] at member
    rcases List.mem_cons.mp member with rfl | later
    · exact shapeMatches_substitute typeArguments methodArguments type
    · exact inductionHypothesis later

end

end DataType

end PredicateWire
