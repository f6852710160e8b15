/-
This file rebuilds expressions from node trees. Every key and every reference is
resolved on the way. Parameter nodes with the same name and the same type are one
parameter throughout, so that the uses of a parameter meet its declaration. A tree
deeper than the limit is refused, and so is a node whose kind does not go with what
it is made of.
-/
import PredicateWire.Wire.Pack

namespace PredicateWire

/-- The state of rebuilding: the type table, the parameters made so far (first one first), the
scope that they belong to, and the depth limit. -/
structure Rebuild where
  table : TypeTable
  parameters : List Parameter
  scope : Nat
  limit : Nat

/-- Work on a state of rebuilding that can fail. -/
abbrev RebuildM := ExceptT Error (StateM Rebuild)

namespace Rebuild

/-- A state without parameters. -/
def start (table : TypeTable) (scope limit : Nat) : Rebuild :=
  ⟨table, [], scope, limit⟩

/-- Does work on the type table. -/
def onTable {Content : Type} (work : TableM Content) : RebuildM Content :=
  ExceptT.mk fun rebuild =>
    let (outcome, table) := work.run rebuild.table
    (outcome, { rebuild with table := table })

/-- The parameter of a name and a type that has been made already. -/
def parameter? (rebuild : Rebuild) (type : DataType) (name : String) : Option Parameter :=
  rebuild.parameters.find? fun made =>
    made.type.canonicalName == type.canonicalName && made.name == name

/-- The parameter of a name and a type. It is made when it is asked for first, and only then it
matters whether it is passed by reference. -/
def parameter (type : DataType) (name : String) (byReference : Bool) : RebuildM Parameter := do
  let rebuild ← get
  match rebuild.parameter? type name with
  | some made => return made
  | none => do
    let made : Parameter :=
      ⟨⟨rebuild.scope, rebuild.parameters.length⟩, name, type, byReference⟩
    set { rebuild with parameters := rebuild.parameters ++ [made] }
    return made

/-- The parameter that a rebuilt entry of a parameter list is. -/
def declaredParameter : Expr → RebuildM Parameter
  | .parameter referenced => return referenced
  | other => throw (.typeMismatch (.parameterNode other.kind))

/-- Refuses a conversion that is not a lambda. -/
def checkConversion : Option Expr → RebuildM Unit
  | none => return ()
  | some (.lambda _ _ _ _ _) => return ()
  | some other => throw (.typeMismatch (.conversionNode other.kind))

/-- Refuses an array initialiser whose declared type is not an array type. -/
def checkArray (declared element : DataType) : RebuildM Unit :=
  match declared with
  | .array _ => return ()
  | _ =>
    throw (.typeMismatch (.initializerType element.canonicalName declared.canonicalName))

/-- Resolves a reference to a method that may be absent. -/
def method? : Option MethodReference → RebuildM (Option Method)
  | none => return none
  | some reference => do
    let method ← onTable reference.resolve
    return some method

end Rebuild

namespace Node

/-- What has to hold of a node before it is rebuilt, and the type of its value. -/
def enter (node : Node) (depth : Nat) : RebuildM DataType := do
  let limit := (← get).limit
  if limit < depth then throw (.depthExceeded limit)
  if !node.tag.fits node.header.kind then throw (.codec (.payloadKind node.header.kind))
  Rebuild.onTable (TypeTable.resolve node.header.resultType)

mutual

/-- Rebuilds a node that stands at a depth of a tree. -/
def rebuildAt : Node → Nat → RebuildM Expr
  | lambda header body parameters name tailCall, depth => do
    let type ← enter (lambda header body parameters name tailCall) depth
    let parameters ← rebuildParameters parameters (depth + 1)
    let body ← rebuildAt body (depth + 1)
    return .lambda type parameters body name tailCall
  | parameter header name byReference, depth => do
    let type ← enter (parameter header name byReference) depth
    let made ← Rebuild.parameter type name byReference
    return .parameter made
  | binary header left right conversion method, depth => do
    let type ← enter (binary header left right conversion method) depth
    match header.kind.binaryOperator? with
    | none => throw (.codec (.payloadKind header.kind))
    | some operator => do
      let conversion ← rebuildOption conversion (depth + 1)
      Rebuild.checkConversion conversion
      let left ← rebuildAt left (depth + 1)
      let right ← rebuildAt right (depth + 1)
      let method ← Rebuild.method? method
      return .binary operator type left right method conversion
  | member header target read, depth => do
    let _ ← enter (member header target read) depth
    let target ← rebuildAt target (depth + 1)
    let read ← Rebuild.onTable read.resolve
    return .member target read
  | constant header document, depth => do
    let type ← enter (constant header document) depth
    let value ← Rebuild.onTable (TypeTable.lift (Value.ofLiteral type document))
    return .constant value type
  | call header target method arguments, depth => do
    let _ ← enter (call header target method arguments) depth
    let target ← rebuildOption target (depth + 1)
    let method ← Rebuild.onTable method.resolve
    let arguments ← rebuildAll arguments (depth + 1)
    return .call target method arguments
  | construct header constructor arguments, depth => do
    let _ ← enter (construct header constructor arguments) depth
    let constructor ← Rebuild.onTable constructor.resolve
    let arguments ← rebuildAll arguments (depth + 1)
    return .construct constructor arguments
  | arrayInit header element elements, depth => do
    let type ← enter (arrayInit header element elements) depth
    let element ← Rebuild.onTable (TypeTable.resolve element)
    Rebuild.checkArray type element
    let elements ← rebuildAll elements (depth + 1)
    return .arrayInit type elements

/-- Rebuilds several nodes. -/
def rebuildAll : List Node → Nat → RebuildM (List Expr)
  | [], _ => return []
  | node :: rest, depth => do
    let expression ← rebuildAt node depth
    let expressions ← rebuildAll rest depth
    return expression :: expressions

/-- Rebuilds the parameter list of a lambda. -/
def rebuildParameters : List Node → Nat → RebuildM (List Parameter)
  | [], _ => return []
  | node :: rest, depth => do
    let expression ← rebuildAt node depth
    let declared ← Rebuild.declaredParameter expression
    let parameters ← rebuildParameters rest depth
    return declared :: parameters

/-- Rebuilds a node that may be absent. -/
def rebuildOption : Option Node → Nat → RebuildM (Option Expr)
  | none, _ => return none
  | some node, depth => do
    let expression ← rebuildAt node depth
    return some expression

end

/-- Rebuilds the expression of a tree. -/
def rebuild (node : Node) : RebuildM Expr :=
  rebuildAt node 0

end Node

end PredicateWire
