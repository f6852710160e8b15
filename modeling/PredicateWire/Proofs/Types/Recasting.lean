/-
This file is about changes to types that their names do not show. Such a change keeps
how a type is put together: parameters stay in place, and base names and the number of
arguments stay what they are. So canonical names and shapes are kept, and it does not
matter whether parameters are filled in before or after.

Two changes are used. A receiver that builds records from captured fields has other
records than the sender, and overloads are chosen by shapes that do not look at families
or fields at all. The change that goes furthest leaves only the `skeleton` of a type.
What holds of all changes is proved once, from four equations, and the recursion over
types is in the lemmas about the change and not in those about its instances.
-/
import PredicateWire.Types.Assignability

namespace PredicateWire

namespace DataType

/-- The type is no parameter and is not made of other types, except for fields. -/
def isPlain : DataType → Bool
  | primitive _ | object | record _ _ _ | holder _ => true
  | array _ | parameter _ _ | generic _ _ _ => false

/-- A change to types that their names do not show. -/
structure Recasts (recast : DataType → DataType) (family : Family → Family) : Prop where
  array : ∀ element, recast (.array element) = .array (recast element)
  generic : ∀ name kind arguments,
    recast (.generic name kind arguments) = .generic name (family kind) (arguments.map recast)
  parameter : ∀ owner position, recast (.parameter owner position) = .parameter owner position
  plain : ∀ type, type.isPlain = true →
    (recast type).isPlain = true ∧ (recast type).baseName = type.baseName

section

variable {type : DataType}

theorem arguments_of_isPlain (plain : type.isPlain = true) : type.arguments = [] := by
  cases type <;> first | rfl | cases plain

theorem isParameter_of_isPlain (plain : type.isPlain = true) : type.isParameter = false := by
  cases type <;> first | rfl | cases plain

theorem isTypeParameter_of_isPlain (plain : type.isPlain = true) :
    type.isTypeParameter = false := by
  cases type <;> first | rfl | cases plain

theorem canonicalName_of_isPlain (plain : type.isPlain = true) :
    type.canonicalName = type.baseName := by
  cases type <;> first | rfl | cases plain

/-- There is nothing to fill in in a plain type. -/
theorem substitute_of_isPlain (plain : type.isPlain = true)
    (typeArguments methodArguments : List DataType) :
    type.substitute typeArguments methodArguments = type := by
  cases type <;> first | rfl | cases plain

/-- A type that is no array has the shapes that agree with it in base name and number of
arguments. -/
theorem shapeMatches_of_not_array {expected : DataType}
    (other : ∀ element, type ≠ .array element) : shapeMatches expected type =
      (expected.isParameter || type.isParameter ||
        (expected.baseName == type.baseName &&
          expected.arguments.length == type.arguments.length)) := by
  unfold shapeMatches
  split
  · rename_i element
    exact absurd rfl (other element)
  · rfl

end

namespace Recasts

variable {recast : DataType → DataType} {family : Family → Family}

theorem baseName (recasts : Recasts recast family) (type : DataType) :
    (recast type).baseName = type.baseName := by
  cases type with
  | array element => rw [recasts.array]; rfl
  | generic name kind arguments => rw [recasts.generic]; rfl
  | parameter owner position => rw [recasts.parameter]
  | _ => exact (recasts.plain _ rfl).2

theorem arguments (recasts : Recasts recast family) (type : DataType) :
    (recast type).arguments = type.arguments.map recast := by
  cases type with
  | array element => rw [recasts.array]; rfl
  | generic name kind arguments => rw [recasts.generic]; rfl
  | parameter owner position => rw [recasts.parameter]; rfl
  | _ => exact arguments_of_isPlain (recasts.plain _ rfl).1

/-- What is a parameter stays one, and nothing else becomes one. -/
theorem isParameter (recasts : Recasts recast family) (type : DataType) :
    (recast type).isParameter = type.isParameter := by
  cases type with
  | array element => rw [recasts.array]; rfl
  | generic name kind arguments => rw [recasts.generic]; rfl
  | parameter owner position => rw [recasts.parameter]
  | _ => exact isParameter_of_isPlain (recasts.plain _ rfl).1

theorem isTypeParameter (recasts : Recasts recast family) (type : DataType) :
    (recast type).isTypeParameter = type.isTypeParameter := by
  cases type with
  | array element => rw [recasts.array]; rfl
  | generic name kind arguments => rw [recasts.generic]; rfl
  | parameter owner position => rw [recasts.parameter]
  | _ => exact isTypeParameter_of_isPlain (recasts.plain _ rfl).1

theorem canonicalName_of_plain (recasts : Recasts recast family) {type : DataType}
    (plain : type.isPlain = true) : (recast type).canonicalName = type.canonicalName := by
  obtain ⟨recastPlain, named⟩ := recasts.plain type plain
  rw [canonicalName_of_isPlain recastPlain, canonicalName_of_isPlain plain, named]

mutual

/-- A type goes by the same name when it has been changed. -/
theorem canonicalName (recasts : Recasts recast family) : ∀ type : DataType,
    (recast type).canonicalName = type.canonicalName
  | .array element => by
    rw [recasts.array, DataType.canonicalName, DataType.canonicalName,
      canonicalName recasts element]
  | .generic name kind arguments => by
    have same : (arguments.map recast).all DataType.isTypeParameter =
        arguments.all DataType.isTypeParameter := by
      rw [List.all_map]
      exact congrArg arguments.all (funext recasts.isTypeParameter)
    rw [recasts.generic, DataType.canonicalName, DataType.canonicalName, same,
      bracketedNames recasts arguments]
  | .parameter owner position => by rw [recasts.parameter]
  | .record _ _ _ => recasts.canonicalName_of_plain rfl
  | .primitive _ => recasts.canonicalName_of_plain rfl
  | .object => recasts.canonicalName_of_plain rfl
  | .holder _ => recasts.canonicalName_of_plain rfl

theorem bracketedNames (recasts : Recasts recast family) : ∀ types : List DataType,
    DataType.bracketedNames (types.map recast) = DataType.bracketedNames types
  | [] => rfl
  | type :: rest => by
    rw [List.map_cons, DataType.bracketedNames, DataType.bracketedNames,
      canonicalName recasts type, bracketedNames recasts rest]

end

/-- An argument that is missing leaves the parameter in place, before the change and after it. -/
theorem getD (recasts : Recasts recast family) (arguments : List DataType) (owner : ParameterOwner)
    (position : Nat) : recast (arguments.getD position (.parameter owner position)) =
      (arguments.map recast).getD position (.parameter owner position) := by
  rw [List.getD_eq_getElem?_getD, List.getD_eq_getElem?_getD, List.getElem?_map]
  cases arguments[position]? with
  | none => exact recasts.parameter owner position
  | some argument => rfl

theorem substitute_of_plain (recasts : Recasts recast family) {type : DataType}
    (plain : type.isPlain = true) (typeArguments methodArguments : List DataType) :
    recast (type.substitute typeArguments methodArguments) =
      (recast type).substitute (typeArguments.map recast) (methodArguments.map recast) := by
  rw [substitute_of_isPlain plain, substitute_of_isPlain (recasts.plain type plain).1]

mutual

/-- Changing a type and filling in its parameters can be done in either order. -/
theorem substitute (recasts : Recasts recast family)
    (typeArguments methodArguments : List DataType) : ∀ type : DataType,
    recast (type.substitute typeArguments methodArguments) =
      (recast type).substitute (typeArguments.map recast) (methodArguments.map recast)
  | .parameter .type position => by
    rw [recasts.parameter, DataType.substitute, DataType.substitute, recasts.getD]
  | .parameter .method position => by
    rw [recasts.parameter, DataType.substitute, DataType.substitute, recasts.getD]
  | .array element => by
    rw [recasts.array, DataType.substitute, DataType.substitute, recasts.array,
      substitute recasts typeArguments methodArguments element]
  | .generic name kind arguments => by
    rw [recasts.generic, DataType.substitute, DataType.substitute, recasts.generic,
      substituteAll recasts typeArguments methodArguments arguments]
  | .record _ _ _ => recasts.substitute_of_plain rfl _ _
  | .primitive _ => recasts.substitute_of_plain rfl _ _
  | .object => recasts.substitute_of_plain rfl _ _
  | .holder _ => recasts.substitute_of_plain rfl _ _

theorem substituteAll (recasts : Recasts recast family)
    (typeArguments methodArguments : List DataType) : ∀ types : List DataType,
    (DataType.substituteAll typeArguments methodArguments types).map recast =
      DataType.substituteAll (typeArguments.map recast) (methodArguments.map recast)
        (types.map recast)
  | [] => rfl
  | type :: rest => by
    rw [List.map_cons, DataType.substituteAll, DataType.substituteAll, List.map_cons,
      substitute recasts typeArguments methodArguments type,
      substituteAll recasts typeArguments methodArguments rest]

end

theorem not_array (recasts : Recasts recast family) {type : DataType}
    (other : ∀ element, type ≠ .array element) : ∀ element, recast type ≠ .array element := by
  have plain : type.isPlain = true → ∀ element, recast type ≠ .array element := by
    intro plain element same
    have recastPlain := (recasts.plain type plain).1
    rw [same] at recastPlain
    cases recastPlain
  cases type with
  | array inner => exact absurd rfl (other inner)
  | generic name kind arguments => rw [recasts.generic]; exact fun _ same => nomatch same
  | parameter owner position => rw [recasts.parameter]; exact fun _ same => nomatch same
  | _ => exact plain rfl

/-- Types that are no arrays have the same shapes before and after. -/
theorem shapeMatches_of_not_array (recasts : Recasts recast family) {actual : DataType}
    (other : ∀ element, actual ≠ .array element) (expected : DataType) :
    DataType.shapeMatches expected (recast actual) = DataType.shapeMatches expected actual := by
  rw [DataType.shapeMatches_of_not_array (recasts.not_array other),
    DataType.shapeMatches_of_not_array other, recasts.isParameter, recasts.baseName,
    recasts.arguments, List.length_map]

/-- A type has the shapes that it has when it has been changed. -/
theorem shapeMatches (recasts : Recasts recast family) (expected actual : DataType) :
    DataType.shapeMatches expected (recast actual) = DataType.shapeMatches expected actual := by
  induction expected, actual using DataType.shapeMatches.induct with
  | case1 expected actual inductionHypothesis =>
    rw [recasts.array, DataType.shapeMatches, DataType.shapeMatches, inductionHypothesis]
  | case2 expected actual different =>
    by_cases isArray : ∃ element, actual = .array element
    · obtain ⟨element, rfl⟩ := isArray
      rw [recasts.array]
      cases expected with
      | array other => exact absurd rfl (different other element rfl)
      | _ =>
        simp [DataType.shapeMatches, DataType.baseName, DataType.arguments, DataType.isParameter]
    · exact recasts.shapeMatches_of_not_array (fun element same => isArray ⟨element, same⟩) expected

/-- Several types have the shapes that they have when they have been changed. -/
theorem shapesMatch (recasts : Recasts recast family) (expected actual : List DataType) :
    DataType.shapesMatch expected (actual.map recast) = DataType.shapesMatch expected actual := by
  rw [DataType.shapesMatch, DataType.shapesMatch, List.length_map, List.zip_map_right,
    List.all_map]
  congr 1
  exact congrArg _ (funext fun pair => recasts.shapeMatches pair.1 pair.2)

end Recasts

/-! ### Skeletons -/

mutual

/-- What is left of a type when only names and arguments count. -/
def skeleton : DataType → DataType
  | primitive kind => holder kind.typeName
  | object => holder objectName
  | record name _ _ => holder name
  | holder name => holder name
  | parameter owner position => parameter owner position
  | array element => array (skeleton element)
  | generic name _ arguments => generic name .record (skeletonAll arguments)

/-- What is left of several types. -/
def skeletonAll : List DataType → List DataType
  | [] => []
  | type :: rest => skeleton type :: skeletonAll rest

end

theorem skeletonAll_eq_map (types : List DataType) : skeletonAll types = types.map skeleton := by
  induction types with
  | nil => rfl
  | cons type rest inductionHypothesis => rw [skeletonAll, inductionHypothesis, List.map_cons]

theorem recasts_skeleton : Recasts skeleton fun _ => .record where
  array := fun _ => rfl
  generic := fun name kind arguments => by rw [skeleton, skeletonAll_eq_map]
  parameter := fun _ _ => rfl
  plain := fun type plain => by cases type <;> first | exact ⟨rfl, rfl⟩ | cases plain

end DataType

end PredicateWire
