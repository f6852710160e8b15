/-
This file describes record types together with what belongs to them. A positional
constructor assigns the fields that it names, in order, and leaves the others null;
one that names an unknown field takes a value of any type there and fails when it
is called.
-/
import PredicateWire.Catalog.Basic

namespace PredicateWire

/-- A method of a record type, before the type exists. -/
structure RecordMethod where
  name : String
  parameters : List DataType
  returnType : DataType
  body : Native

/-- A record type with its constructors, each as the list of the fields it assigns, and its
methods. -/
structure RecordSpec where
  name : String
  fields : List (Field DataType)
  constructors : List (List String)
  methods : List RecordMethod

namespace RecordSpec

/-- The type described. -/
def type (spec : RecordSpec) : DataType :=
  .record spec.name spec.fields false

/-- The type that a positional constructor expects for a field. -/
def parameterType (spec : RecordSpec) (name : String) : DataType :=
  match spec.type.field? name with
  | some field => field.type
  | none => .object

/-- The positional constructor that assigns the named fields. -/
def positional (spec : RecordSpec) (names : List String) : Constructor :=
  ⟨spec.type, names.map spec.parameterType,
    .assemble spec.name (spec.fields.map Field.name) names⟩

/-- A method of the type described. -/
def method (spec : RecordSpec) (described : RecordMethod) : Method :=
  Method.instanceMethod spec.type described.name described.parameters described.returnType
    described.body

end RecordSpec

/-- Registers a record type, then its constructors, then its methods. -/
def Catalog.registerRecord (catalog : Catalog) (spec : RecordSpec) : Catalog :=
  let typed := catalog.registerType spec.type
  let constructed :=
    spec.constructors.foldl
      (fun catalog names => catalog.registerConstructor (spec.positional names)) typed
  spec.methods.foldl (fun catalog described => catalog.registerMethod (spec.method described))
    constructed

end PredicateWire
