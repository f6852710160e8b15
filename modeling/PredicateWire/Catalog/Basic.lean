/-
This file defines catalogs: the types that a process can name, with their methods,
constructors and properties. Everything is filed under the base name of the type it
belongs to. Registering a type or a property again replaces it, and overloads of a
method or a constructor add up in the order of registration.
-/
import PredicateWire.Symbols.Basic
import PredicateWire.Entries

namespace PredicateWire

/-- The types that a process knows, and what belongs to them. -/
structure Catalog where
  types : List (String × DataType)
  methods : List Method
  constructors : List Constructor
  properties : List Member

namespace Catalog

/-- The catalog without any type. -/
def empty : Catalog :=
  ⟨[], [], [], []⟩

/-! ### Registration -/

/-- Files a type under its base name, in place of any earlier one. -/
def registerType (catalog : Catalog) (type : DataType) : Catalog :=
  { catalog with
    types := catalog.types.filter (fun entry => entry.1 != type.baseName) ++
      [(type.baseName, type)] }

/-- Adds a method to its declaring type. -/
def registerMethod (catalog : Catalog) (method : Method) : Catalog :=
  { catalog with methods := catalog.methods ++ [method] }

/-- Adds a constructor to its declaring type. -/
def registerConstructor (catalog : Catalog) (constructor : Constructor) : Catalog :=
  { catalog with constructors := catalog.constructors ++ [constructor] }

/-- Adds a property to its declaring type. The latest one of a name counts. -/
def registerProperty (catalog : Catalog) (property : Member) : Catalog :=
  { catalog with properties := property :: catalog.properties }

/-! ### Lookup -/

/-- The number of registered types. -/
def size (catalog : Catalog) : Nat :=
  catalog.types.length

/-- The type filed under a base name. -/
def findType? (catalog : Catalog) (name : String) : Option DataType :=
  Entries.get? catalog.types name

/-- The overloads of a method, in the order of registration. -/
def overloads (catalog : Catalog) (typeName name : String) : List Method :=
  catalog.methods.filter fun method =>
    method.declaringType.baseName == typeName && method.name == name

/-- The constructors of a type, in the order of registration. -/
def constructorsOf (catalog : Catalog) (typeName : String) : List Constructor :=
  catalog.constructors.filter fun constructor =>
    constructor.declaringType.baseName == typeName

/-- The property of a type that goes by a name. -/
def property? (catalog : Catalog) (typeName name : String) : Option Member :=
  catalog.properties.find? fun property =>
    property.declaringType.baseName == typeName && property.name == name

/-- The member of a type that goes by a name: a field if there is one, else a property carried
over to the type. -/
def member? (catalog : Catalog) (type : DataType) (name : String) : Option Member :=
  match type.field? name with
  | some field => some (Member.ofField type field)
  | none => (catalog.property? type.baseName name).map fun property => property.closeOver type

end Catalog

end PredicateWire
