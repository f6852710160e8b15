/-
This file packs expressions into node trees. Every type that a tree speaks of gets a
key in the type table, and the types of constants are packed with their captured
fields. Trees nest no deeper than a limit, the nesting of constants included.
Operators with one operand, open generic methods, private fields and array
initialisers of other than array type have no packed form.
-/
import PredicateWire.Expr.Basic
import PredicateWire.Value.Literal
import PredicateWire.Wire.Node

namespace PredicateWire

namespace Node

/-- Packs a reference to a parameter. -/
def packParameter (limit depth : Nat) (referenced : Parameter) : TableM Node := do
  if limit < depth then throw (.depthExceeded limit)
  let resultType ← TypeTable.pack false referenced.type
  return parameter ⟨.parameter, resultType, false⟩ referenced.name referenced.byReference

/-- Packs a reference to a method that may be absent. -/
def packMethod? : Option Method → TableM (Option MethodReference)
  | none => return none
  | some method => do
    let reference ← MethodReference.pack method
    return some reference

mutual

/-- Packs an expression that stands at a depth of a tree. -/
def packAt (limit : Nat) : Expr → Nat → TableM Node
  | expression, depth => do
    if limit < depth then throw (.depthExceeded limit)
    match expression with
    | .lambda type parameters body name tailCall => do
      let resultType ← TypeTable.pack false type
      let body ← packAt limit body (depth + 1)
      let parameters ← parameters.mapM (packParameter limit (depth + 1))
      return lambda ⟨.lambda, resultType, false⟩ body parameters name tailCall
    | .parameter referenced => packParameter limit depth referenced
    | .binary operator type left right method conversion => do
      let resultType ← TypeTable.pack false type
      let left ← packAt limit left (depth + 1)
      let right ← packAt limit right (depth + 1)
      let conversion ← packOption limit conversion (depth + 1)
      let method ← packMethod? method
      return binary ⟨.binary operator, resultType, false⟩ left right conversion method
    | .member target read => do
      let reference ← MemberReference.pack read
      let resultType ← TypeTable.pack false read.memberType
      let target ← packAt limit target (depth + 1)
      return member ⟨.memberAccess, resultType, false⟩ target reference
    | .constant value type => do
      if !value.fitsDepth (limit - depth) then throw (.depthExceeded limit)
      let resultType ← TypeTable.pack true type
      let document ← TypeTable.lift value.literal
      return constant ⟨.constant, resultType, false⟩ document
    | .call target method arguments => do
      let resultType ← TypeTable.pack false method.returnType
      let target ← packOption limit target (depth + 1)
      let reference ← MethodReference.pack method
      let arguments ← packAll limit arguments (depth + 1)
      return call ⟨.call, resultType, false⟩ target reference arguments
    | .construct constructor arguments => do
      let resultType ← TypeTable.pack false constructor.declaringType
      let reference ← ConstructorReference.pack constructor
      let arguments ← packAll limit arguments (depth + 1)
      return construct ⟨.construct, resultType, false⟩ reference arguments
    | .arrayInit type elements => do
      match type.element? with
      | none => throw (.unsupportedShape (.initializerOfNonArray type.canonicalName))
      | some element => do
        let resultType ← TypeTable.pack false type
        let element ← TypeTable.pack false element
        let elements ← packAll limit elements (depth + 1)
        return arrayInit ⟨.arrayInit, resultType, false⟩ element elements
    | .unary operator _ _ => throw (.unsupportedShape (.unaryOperator operator))

/-- Packs several expressions. -/
def packAll (limit : Nat) : List Expr → Nat → TableM (List Node)
  | [], _ => return []
  | expression :: rest, depth => do
    let node ← packAt limit expression depth
    let nodes ← packAll limit rest depth
    return node :: nodes

/-- Packs an expression that may be absent. -/
def packOption (limit : Nat) : Option Expr → Nat → TableM (Option Node)
  | none, _ => return none
  | some expression, depth => do
    let node ← packAt limit expression depth
    return some node

end

/-- Packs an expression into a tree that nests no deeper than a limit. -/
def pack (limit : Nat) (expression : Expr) : TableM Node :=
  packAt limit expression 0

end Node

end PredicateWire
