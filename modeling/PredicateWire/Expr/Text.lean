/-
This file writes methods, constructors, members and parameters for messages: what a
symbol is called and how it is called, without its body.
-/
import PredicateWire.Expr.Basic
import PredicateWire.Text.Quoted

namespace PredicateWire

/-- A truth value as a word. -/
def truthWord (value : Bool) : String :=
  if value then "true" else "false"

/-- The text of a method. -/
def Method.text (method : Method) : String :=
  "MethodInfo \x7b signature: " ++ Text.quoted method.signature ++
    ", is_static: " ++ truthWord method.isStatic ++ ", .. \x7d"

/-- The text of a constructor. -/
def Constructor.text (constructor : Constructor) : String :=
  "ConstructorInfo \x7b signature: " ++ Text.quoted constructor.signature ++ ", .. \x7d"

/-- The text of where the value of a member comes from. -/
def Storage.text : Storage → String
  | field true => "Field(Public)"
  | field false => "Field(Private)"
  | property _ => "Property"

/-- The text of a parameter. -/
def Parameter.text (parameter : Parameter) : String :=
  "Parameter(" ++ parameter.name ++ ": " ++ parameter.type.canonicalName ++ ")"

end PredicateWire
