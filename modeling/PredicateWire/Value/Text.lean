/-
This file writes values for messages. Every value is shown with its kind, so that
numbers of different kinds are told apart: `I32(5)`, `F64(1.0)`, `String("zzz")`. A
function shows how many parameters it has and how many bindings it keeps.
-/
import PredicateWire.Value.Basic
import PredicateWire.Decimal.Shortest
import PredicateWire.Text.Quoted

namespace PredicateWire

/-- The text of a function value. -/
def Closure.text (closure : Closure) : String :=
  "Closure \x7b arity: " ++ toString closure.arity ++
    ", captured: " ++ toString closure.bindings.length ++ ", .. \x7d"

namespace Value

/-- Several texts with a comma and a blank between them. -/
def spaced (parts : List String) : String :=
  ", ".intercalate parts

mutual

/-- The text of a value. -/
def text : Value → String
  | null => "Null"
  | bool value => "Bool(" ++ (if value then "true" else "false") ++ ")"
  | int32 value => "I32(" ++ toString value.toInt ++ ")"
  | int64 value => "I64(" ++ toString value.toInt ++ ")"
  | double value => "F64(" ++ Decimal.message.text value ++ ")"
  | char value => "Char(" ++ Text.quotedChar value ++ ")"
  | string value => "String(" ++ Text.quoted value ++ ")"
  | array items => "Array([" ++ spaced (texts items) ++ "])"
  | map entries => "Map([" ++ spaced (pairTexts entries) ++ "])"
  | record fields => "Struct(\x7b" ++ spaced (fieldTexts fields) ++ "\x7d)"
  | function closure => "Function(" ++ closure.text ++ ")"

/-- The texts of several values. -/
def texts : List Value → List String
  | [] => []
  | item :: rest => text item :: texts rest

/-- The texts of map entries. -/
def pairTexts : List (Value × Value) → List String
  | [] => []
  | (key, content) :: rest => ("(" ++ text key ++ ", " ++ text content ++ ")") :: pairTexts rest

/-- The texts of fields. -/
def fieldTexts : List (String × Value) → List String
  | [] => []
  | (name, content) :: rest => (Text.quoted name ++ ": " ++ text content) :: fieldTexts rest

end

end Value

end PredicateWire
