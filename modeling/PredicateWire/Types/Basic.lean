/-
This file defines the types that expressions, values and catalogs speak about, and
the canonical names under which the two ends of a wire know them. A generic
definition carries its own parameters as arguments, an instance carries the types
it was closed over, and two types are the same type when their canonical names
agree. `DataType.substitute` fills in parameters and `DataType.instantiate` closes
a definition.
-/
import PredicateWire.Error

namespace PredicateWire

/-! ### Parts of types -/

/-- The types of simple values. -/
inductive Primitive
  | bool
  | int32
  | int64
  | double
  | char
  | string
  | void
deriving DecidableEq

/-- The declaration that a generic parameter belongs to. -/
inductive ParameterOwner
  | type
  | method
deriving DecidableEq

/-- What the instances of a named generic type are. -/
inductive Family
  | sequence
  | map
  | function
  | record
deriving DecidableEq

/-- A field of a record type. Fields that are not public never leave a process. -/
structure Field (Carrier : Type) where
  name : String
  type : Carrier
  isPublic : Bool
deriving DecidableEq

namespace Primitive

/-- Every primitive type. -/
def all : List Primitive :=
  [bool, int32, int64, double, char, string, void]

/-- The name of a primitive type. -/
def typeName : Primitive → String
  | bool => "sys.Boolean"
  | int32 => "sys.Int32"
  | int64 => "sys.Int64"
  | double => "sys.Double"
  | char => "sys.Char"
  | string => "sys.String"
  | void => "sys.Void"

/-- The place of a numeric type in the order of promotion. -/
def numericRank? : Primitive → Option Nat
  | int32 => some 0
  | int64 => some 1
  | double => some 2
  | _ => none

/-- The types of numbers. -/
def isNumeric (kind : Primitive) : Bool :=
  kind.numericRank?.isSome

/-- The types of whole numbers. -/
def isInteger : Primitive → Bool
  | int32 | int64 => true
  | _ => false

/-- The numeric type in which two numbers of these types meet: the later one in the order of
promotion. -/
def promoted? (left right : Primitive) : Option Primitive :=
  match left.numericRank?, right.numericRank? with
  | some leftRank, some rightRank => some (if rightRank ≤ leftRank then left else right)
  | _, _ => none

end Primitive

/-! ### Types -/

/-- A type. A record that was `captured` came with its field table from another process. -/
inductive DataType
  | primitive (kind : Primitive)
  | object
  | record (name : String) (fields : List (Field DataType)) (captured : Bool)
  | array (element : DataType)
  | holder (name : String)
  | parameter (owner : ParameterOwner) (position : Nat)
  | generic (name : String) (family : Family) (arguments : List DataType)

namespace DataType

/-- The top type. -/
def objectName : String := "sys.Object"

/-- The base name that all array types share. -/
def arrayName : String := "sys.Array"

/-- The sequence type that accepts every array and sequence with fitting elements. -/
def sequenceName : String := "sys.collections.Sequence`1"

/-- The name of the list definition. -/
def listName : String := "sys.collections.List`1"

/-- The name of the dictionary definition. -/
def dictionaryName : String := "sys.collections.Dictionary`2"

/-- The holder of the sequence operations. -/
def enumerableName : String := "sys.linq.Enumerable"

/-- The definition of the types of lambdas with a number of parameters, up to two. -/
def functionName? : Nat → Option String
  | 0 => some "sys.Func`1"
  | 1 => some "sys.Func`2"
  | 2 => some "sys.Func`3"
  | _ => none

/-- The type of truth values. -/
abbrev bool : DataType := primitive .bool

/-- The type of 32-bit integers. -/
abbrev int32 : DataType := primitive .int32

/-- The type of 64-bit integers. -/
abbrev int64 : DataType := primitive .int64

/-- The type of doubles. -/
abbrev double : DataType := primitive .double

/-- The type of characters. -/
abbrev char : DataType := primitive .char

/-- The type of texts. -/
abbrev string : DataType := primitive .string

/-- The name of a generic parameter: `!` for a type's own, `!!` for a method's. -/
def parameterName : ParameterOwner → Nat → String
  | .type, position => "!" ++ toString position
  | .method, position => "!!" ++ toString position

/-- The name without arguments. -/
def baseName : DataType → String
  | primitive kind => kind.typeName
  | object => objectName
  | record name _ _ => name
  | array _ => arrayName
  | holder name => name
  | parameter owner position => parameterName owner position
  | generic name _ _ => name

/-- The generic arguments. The element of an array counts as one. -/
def arguments : DataType → List DataType
  | array element => [element]
  | generic _ _ arguments => arguments
  | _ => []

/-- The fields of a record. -/
def fields : DataType → List (Field DataType)
  | record _ fields _ => fields
  | _ => []

/-- The first field that goes by a name. -/
def field? (type : DataType) (name : String) : Option (Field DataType) :=
  type.fields.find? fun field => field.name == name

/-- A record whose field table came from another process. -/
def isCaptured : DataType → Bool
  | record _ _ captured => captured
  | _ => false

/-- The primitive kind, if the type is primitive. -/
def primitive? : DataType → Option Primitive
  | primitive kind => some kind
  | _ => none

/-- The type of truth values. -/
def isBool (type : DataType) : Bool :=
  type.primitive? == some .bool

/-- The types of records. -/
def isRecord : DataType → Bool
  | record _ _ _ => true
  | generic _ .record _ => true
  | _ => false

/-- An unbound generic parameter. -/
def isParameter : DataType → Bool
  | parameter _ _ => true
  | _ => false

/-- An unbound parameter of a generic type. -/
def isTypeParameter : DataType → Bool
  | parameter .type _ => true
  | _ => false

/-- A named generic type that stands open over its own parameters. -/
def isGenericDefinition : DataType → Bool
  | generic _ _ arguments => !arguments.isEmpty && arguments.all isTypeParameter
  | _ => false

/-- The element type of arrays and sequences. -/
def element? : DataType → Option DataType
  | array element => some element
  | generic _ .sequence arguments => arguments.head?
  | _ => none

/-- A generic definition with a number of parameters. -/
def definition (name : String) (family : Family) (arity : Nat) : DataType :=
  generic name family ((List.range arity).map (parameter .type))

/-! ### Canonical names -/

mutual

/-- The full name of a type: `elem[]` for an array, `base[[a],[b]]` for a generic instance, and
the base name otherwise. -/
def canonicalName : DataType → String
  | primitive kind => kind.typeName
  | object => objectName
  | record name _ _ => name
  | array element => element.canonicalName ++ "[]"
  | holder name => name
  | parameter owner position => parameterName owner position
  | generic name _ arguments =>
    if arguments.all isTypeParameter then name
    else name ++ "[" ++ commaSeparated (bracketedNames arguments) ++ "]"

/-- The canonical names of types, each in brackets. -/
def bracketedNames : List DataType → List String
  | [] => []
  | type :: rest => ("[" ++ type.canonicalName ++ "]") :: bracketedNames rest

end

/-! ### Filling in parameters -/

mutual

/-- Replaces generic parameters by arguments. A parameter without an argument stays in place. -/
def substitute (typeArguments methodArguments : List DataType) : DataType → DataType
  | parameter .type position => typeArguments.getD position (parameter .type position)
  | parameter .method position => methodArguments.getD position (parameter .method position)
  | array element => array (substitute typeArguments methodArguments element)
  | generic name family arguments =>
    generic name family (substituteAll typeArguments methodArguments arguments)
  | primitive kind => primitive kind
  | object => object
  | record name fields captured => record name fields captured
  | holder name => holder name

/-- Replaces generic parameters in each of several types. -/
def substituteAll (typeArguments methodArguments : List DataType) :
    List DataType → List DataType
  | [] => []
  | type :: rest =>
    substitute typeArguments methodArguments type ::
      substituteAll typeArguments methodArguments rest

end

/-- Closes a generic definition over arguments, one for each of its parameters. -/
def instantiate (type : DataType) (arguments : List DataType) : Result DataType :=
  if !type.isGenericDefinition then
    .error (.typeMismatch (.notGenericType type.canonicalName))
  else if arguments.length ≠ type.arguments.length then
    .error (.typeMismatch
      (.typeArgumentCount type.baseName type.arguments.length arguments.length))
  else .ok (type.substitute arguments [])

/-! ### Small facts -/

theorem bracketedNames_eq_map (types : List DataType) :
    bracketedNames types = types.map fun type => "[" ++ type.canonicalName ++ "]" := by
  induction types with
  | nil => rfl
  | cons head rest inductionHypothesis => simp [bracketedNames, inductionHypothesis]

theorem substituteAll_eq_map (typeArguments methodArguments types : List DataType) :
    substituteAll typeArguments methodArguments types =
      types.map (substitute typeArguments methodArguments) := by
  induction types with
  | nil => rfl
  | cons head rest inductionHypothesis => simp [substituteAll, inductionHypothesis]

end DataType

end PredicateWire
