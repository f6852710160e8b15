/-
This file says which types can stand in for which. `DataType.accepts` decides
whether a value of one type can be passed where another is expected, and
`DataType.shapeMatches` compares the parameter lists of overloads, where the
identity of generic arguments does not count.
-/
import PredicateWire.Types.Basic

namespace PredicateWire

namespace DataType

/-- A value of type `source` can be passed where `target` is expected: at the top type, at a
generic parameter, at the general sequence type if the elements fit, and otherwise only at a
type of the same canonical name. -/
def accepts (target source : DataType) : Bool :=
  if target.isParameter || source.isParameter then true
  else
    match target, source with
    | object, _ => true
    | generic name .sequence arguments, array element =>
      if name == sequenceName then acceptsFirst arguments element
      else (generic name .sequence arguments).canonicalName == (array element).canonicalName
    | generic name .sequence arguments, generic sourceName .sequence sourceArguments =>
      if name == sequenceName then
        match sourceArguments with
        | element :: _ => acceptsFirst arguments element
        | [] => false
      else
        (generic name .sequence arguments).canonicalName ==
          (generic sourceName .sequence sourceArguments).canonicalName
    | target, source => target.canonicalName == source.canonicalName
where
  /-- The first of several types exists and accepts the source. -/
  acceptsFirst : List DataType → DataType → Bool
    | expected :: _, source => accepts expected source
    | [], _ => false

/-- Two parameter types have the same shape: a generic parameter matches anything, arrays match
by element, and other types by base name and number of arguments. -/
def shapeMatches : DataType → DataType → Bool
  | array expected, array actual => shapeMatches expected actual
  | expected, actual =>
    expected.isParameter || actual.isParameter ||
      (expected.baseName == actual.baseName &&
        expected.arguments.length == actual.arguments.length)

/-- Two parameter lists have the same length and, place by place, the same shape. -/
def shapesMatch (expected actual : List DataType) : Bool :=
  expected.length == actual.length &&
    (expected.zip actual).all fun pair => shapeMatches pair.1 pair.2

end DataType

end PredicateWire
