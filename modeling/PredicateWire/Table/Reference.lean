/-
This file describes methods, constructors and members by type keys, so that a packet
can speak of them. A reference is resolved in the receiver's catalog: by declaring
type and name, and among overloads by the shape of the parameter list, which has to
single out one of them. Open generic methods and private fields have no reference.
-/
import PredicateWire.Table.Resolve
import PredicateWire.Types.Assignability

namespace PredicateWire

/-! ### References -/

/-- A reference to a method. A generic method carries its arity and its arguments. -/
structure MethodReference where
  declaringType : TypeKey
  name : String
  parameters : List TypeKey
  genericArity : Option Nat
  genericArguments : List TypeKey
deriving DecidableEq

/-- A reference to a constructor. -/
structure ConstructorReference where
  declaringType : TypeKey
  parameters : List TypeKey
deriving DecidableEq

/-- A reference to a property or a public field. -/
structure MemberReference where
  declaringType : TypeKey
  name : String
deriving DecidableEq

namespace TypeTable

/-- The keys of several types. -/
def packAll (types : List DataType) : TableM (List TypeKey) :=
  types.mapM (pack false)

/-- The types of several keys. -/
def resolveAll (keys : List TypeKey) : TableM (List DataType) :=
  keys.mapM resolve

/-- The only one of several candidates. -/
def only {Candidate : Type} (typeName name : String) (parameters : List DataType) :
    List Candidate → TableM Candidate
  | [candidate] => return candidate
  | candidates =>
    throw (.symbolNotFound
      (.unresolvedCall typeName name (parameters.map DataType.canonicalName) candidates.length))

/-- The outcome of an operation that leaves the table alone. -/
def lift {Content : Type} : Result Content → TableM Content
  | .ok content => return content
  | .error error => throw error

end TypeTable

/-! ### Methods -/

namespace MethodReference

/-- Refers to a method that is not open. -/
def pack (method : Method) : TableM MethodReference := do
  if method.isGenericDefinition then
    throw (.unsupportedShape (.openGenericMethod method.signature))
  let declaringType ← TypeTable.pack false method.declaringType
  let parameters ← TypeTable.packAll method.parameters
  let arguments ← TypeTable.packAll method.genericArguments
  return ⟨declaringType, method.name, parameters,
    if method.isGeneric then some method.genericArity else none, arguments⟩

/-- A method has the arity of a reference and parameters of its shapes. -/
def fits (arity : Nat) (parameters : List DataType) (method : Method) : Bool :=
  method.genericArity == arity && DataType.shapesMatch method.parameters parameters

/-- Finds the method, carried over to its declaring type and closed over its arguments. -/
def resolve (reference : MethodReference) : TableM Method := do
  let declaring ← TypeTable.resolve reference.declaringType
  let parameters ← TypeTable.resolveAll reference.parameters
  let arity := reference.genericArity.getD 0
  let catalog := (← get).catalog
  let candidates :=
    (catalog.overloads declaring.baseName reference.name).filter (fits arity parameters)
  let definition ←
    TypeTable.only declaring.canonicalName reference.name parameters candidates
  let method := definition.closeOver declaring
  if arity = 0 then return method
  else do
    let arguments ← TypeTable.resolveAll reference.genericArguments
    TypeTable.lift (method.makeGeneric arguments)

/-- The reference as JSON. -/
def toJson (reference : MethodReference) : Json :=
  .object ([("d", reference.declaringType.toJson), ("n", .string reference.name)] ++
    Json.listMember "p" TypeKey.toJson reference.parameters ++
    Json.optionalMember "g" (fun arity : Nat => .integer arity) reference.genericArity ++
    Json.listMember "a" TypeKey.toJson reference.genericArguments)

/-- Reads a reference. -/
def ofJson? (document : Json) : Option MethodReference := do
  match ← document.fields? ["d", "n", "p", "g", "a"] with
  | [declaringType, name, parameters, arity, arguments] => do
    let declaringType ← Json.required TypeKey.ofJson? declaringType
    let name ← Json.required Json.string? name
    let parameters ← Json.withDefault [] (Json.listOf TypeKey.ofJson?) parameters
    let arity ← Json.optional Json.count? arity
    let arguments ← Json.withDefault [] (Json.listOf TypeKey.ofJson?) arguments
    return ⟨declaringType, name, parameters, arity, arguments⟩
  | _ => none

/-- Reads the text of a reference. -/
def read? (text : String) : Option MethodReference :=
  ((Json.Outline.ofNames ["d", "n", "p", "g", "a"]).read? text).bind ofJson?

/-- The reference with its keys renamed. -/
def renameKeys (rename : TypeKey → TypeKey) (reference : MethodReference) : MethodReference :=
  { reference with
    declaringType := rename reference.declaringType
    parameters := reference.parameters.map rename
    genericArguments := reference.genericArguments.map rename }

end MethodReference

/-! ### Constructors -/

namespace ConstructorReference

/-- Refers to a constructor. -/
def pack (constructor : Constructor) : TableM ConstructorReference := do
  let declaringType ← TypeTable.pack false constructor.declaringType
  let parameters ← TypeTable.packAll constructor.parameters
  return ⟨declaringType, parameters⟩

/-- Finds the constructor. -/
def resolve (reference : ConstructorReference) : TableM Constructor := do
  let declaring ← TypeTable.resolve reference.declaringType
  let parameters ← TypeTable.resolveAll reference.parameters
  let catalog := (← get).catalog
  let candidates := (catalog.constructorsOf declaring.baseName).filter fun constructor =>
    DataType.shapesMatch constructor.parameters parameters
  TypeTable.only declaring.canonicalName "new" parameters candidates

/-- The reference as JSON. -/
def toJson (reference : ConstructorReference) : Json :=
  .object ([("d", reference.declaringType.toJson)] ++
    Json.listMember "p" TypeKey.toJson reference.parameters)

/-- Reads a reference. -/
def ofJson? (document : Json) : Option ConstructorReference := do
  match ← document.fields? ["d", "p"] with
  | [declaringType, parameters] => do
    let declaringType ← Json.required TypeKey.ofJson? declaringType
    let parameters ← Json.withDefault [] (Json.listOf TypeKey.ofJson?) parameters
    return ⟨declaringType, parameters⟩
  | _ => none

/-- Reads the text of a reference. -/
def read? (text : String) : Option ConstructorReference :=
  ((Json.Outline.ofNames ["d", "p"]).read? text).bind ofJson?

/-- The reference with its keys renamed. -/
def renameKeys (rename : TypeKey → TypeKey) (reference : ConstructorReference) :
    ConstructorReference :=
  ⟨rename reference.declaringType, reference.parameters.map rename⟩

end ConstructorReference

/-! ### Members -/

namespace MemberReference

/-- Refers to a member that is not private. -/
def pack (member : Member) : TableM MemberReference := do
  if !member.isPublic then
    throw (.privateAccess member.declaringType.canonicalName member.name)
  let declaringType ← TypeTable.pack false member.declaringType
  return ⟨declaringType, member.name⟩

/-- Finds the member. -/
def resolve (reference : MemberReference) : TableM Member := do
  let declaring ← TypeTable.resolve reference.declaringType
  match (← get).catalog.member? declaring reference.name with
  | some member => return member
  | none =>
    throw (.symbolNotFound (.unknownMember declaring.canonicalName reference.name))

/-- The reference as JSON. -/
def toJson (reference : MemberReference) : Json :=
  .object [("d", reference.declaringType.toJson), ("n", .string reference.name)]

/-- Reads a reference. -/
def ofJson? (document : Json) : Option MemberReference := do
  match ← document.fields? ["d", "n"] with
  | [declaringType, name] => do
    let declaringType ← Json.required TypeKey.ofJson? declaringType
    let name ← Json.required Json.string? name
    return ⟨declaringType, name⟩
  | _ => none

/-- Reads the text of a reference. -/
def read? (text : String) : Option MemberReference :=
  ((Json.Outline.ofNames ["d", "n"]).read? text).bind ofJson?

/-- The reference with its key renamed. -/
def renameKeys (rename : TypeKey → TypeKey) (reference : MemberReference) : MemberReference :=
  { reference with declaringType := rename reference.declaringType }

end MemberReference

end PredicateWire
