/-
This file writes what a type is for messages: a primitive with its kind, a generic
parameter with its owner and position, and everything else as one word.
-/
import PredicateWire.Types.Basic

namespace PredicateWire

/-- The name of a primitive kind. -/
def Primitive.kindName : Primitive → String
  | bool => "Bool"
  | int32 => "I32"
  | int64 => "I64"
  | double => "F64"
  | char => "Char"
  | string => "String"
  | void => "Void"

/-- The name of an owner of generic parameters. -/
def ParameterOwner.name : ParameterOwner → String
  | type => "Type"
  | method => "Method"

/-- The name of a family of generic types. -/
def Family.name : Family → String
  | sequence => "Sequence"
  | map => "Map"
  | function => "Function"
  | record => "Struct"

/-- The text of what a type is. -/
def DataType.kindText : DataType → String
  | primitive kind => "Primitive(" ++ kind.kindName ++ ")"
  | object => "Object"
  | record _ _ _ => "Struct"
  | array _ => "Array"
  | holder _ => "Static"
  | parameter owner position =>
    "GenericParameter \x7b owner: " ++ owner.name ++ ", position: " ++ toString position ++ " \x7d"
  | generic _ family _ => family.name

end PredicateWire
