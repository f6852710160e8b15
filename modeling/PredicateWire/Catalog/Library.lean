/-
This file sets up the built-in library: the primitive types, the top type, the types
of lambdas, sequences, lists and dictionaries, the sequence operations, which are
static and generic over the element type, and the members of texts, lists and
dictionaries.
-/
import PredicateWire.Catalog.Basic

namespace PredicateWire

namespace Library

/-! ### Types -/

/-- The first own parameter of a generic type. -/
def firstParameter : DataType := .parameter .type 0

/-- The second own parameter of a generic type. -/
def secondParameter : DataType := .parameter .type 1

/-- The element type over which the sequence operations are generic. -/
def elementParameter : DataType := .parameter .method 0

/-- The type of lambdas with a number of parameters, as a definition. -/
def functionDefinition (name : String) (parameters : Nat) : DataType :=
  DataType.definition name .function (parameters + 1)

/-- The definition of sequences. -/
def sequence : DataType := DataType.definition DataType.sequenceName .sequence 1

/-- The definition of lists. -/
def list : DataType := DataType.definition DataType.listName .sequence 1

/-- The definition of dictionaries. -/
def dictionary : DataType := DataType.definition DataType.dictionaryName .map 2

/-- The holder of the sequence operations. -/
def enumerable : DataType := .holder DataType.enumerableName

/-- Every type of the library. -/
def types : List DataType :=
  Primitive.all.map .primitive ++
    [.object, functionDefinition "sys.Func`1" 0, functionDefinition "sys.Func`2" 1,
      functionDefinition "sys.Func`3" 2, sequence, list, dictionary, enumerable]

/-! ### Methods -/

/-- Sequences of the element type. -/
def elements : DataType := sequence.substitute [elementParameter] []

/-- Predicates on the element type. -/
def elementPredicate : DataType :=
  (functionDefinition "sys.Func`2" 1).substitute [elementParameter, .bool] []

/-- A sequence operation. -/
def operation (name : String) (parameters : List DataType) (returnType : DataType)
    (body : Native) : Method :=
  Method.staticMethod enumerable name parameters returnType 1 body

/-- The sequence operations. -/
def operations : List Method :=
  [operation "Contains" [elements, elementParameter] .bool .sequenceContains,
    operation "Any" [elements] .bool .sequenceAny,
    operation "Any" [elements, elementPredicate] .bool .sequenceAnyWhere,
    operation "First" [elements] elementParameter (.sequenceEnd .first),
    operation "Last" [elements] elementParameter (.sequenceEnd .last),
    operation "Count" [elements] .int32 .sequenceCount]

/-- A test of one text against another. -/
def textTest (test : TextTest) : Method :=
  Method.instanceMethod .string test.name [.string] .bool (.textTest test)

/-- A case mapping of texts. -/
def textCase (case : LetterCase) : Method :=
  Method.instanceMethod .string case.name [] .string (.textCase case)

/-- The methods of texts. -/
def textMethods : List Method :=
  [textTest .startsWith, textTest .endsWith, textTest .contains, textCase .upper, textCase .lower]

/-- The methods of lists. -/
def listMethods : List Method :=
  [Method.instanceMethod list "Contains" [firstParameter] .bool .listContains,
    Method.instanceMethod list "get_Item" [.int32] firstParameter .listItem]

/-- The methods of dictionaries. -/
def dictionaryMethods : List Method :=
  [Method.instanceMethod dictionary "get_Item" [firstParameter] secondParameter .dictionaryItem,
    Method.instanceMethod dictionary "ContainsKey" [firstParameter] .bool .dictionaryContainsKey]

/-! ### Properties -/

/-- The properties of the library. -/
def properties : List Member :=
  [⟨.string, "Length", .int32, .property .textLength⟩,
    ⟨list, "Count", .int32, .property .listCount⟩,
    ⟨dictionary, "Count", .int32, .property .dictionaryCount⟩]

end Library

/-- The catalog that holds the built-in library and nothing else. -/
def Catalog.standard : Catalog :=
  let typed := Library.types.foldl registerType empty
  let methods :=
    Library.operations ++ Library.textMethods ++ Library.listMethods ++ Library.dictionaryMethods
  let equipped := methods.foldl registerMethod typed
  Library.properties.foldl registerProperty equipped

end PredicateWire
