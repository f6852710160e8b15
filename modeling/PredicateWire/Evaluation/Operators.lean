/-
This file gives the operators their meaning on values. Whole numbers are computed
exactly: with the width of 32 bits if both operands have it and with 64 bits
otherwise, and a result that does not fit is an error. As soon as one operand is a
double, the computation is one of doubles. Null makes an arithmetic result null and
a comparison false.
-/
import PredicateWire.Value.Basic
import PredicateWire.Decimal.Remainder

namespace PredicateWire

/-! ### Whole numbers -/

/-- The 32-bit number that a whole number is, unless it does not fit. -/
def checkedInt32 (number : Int) : Result Int32 :=
  if -0x80000000 ≤ number ∧ number < 0x80000000 then .ok (Int32.ofInt number)
  else .error (.evaluation .overflow)

/-- The 64-bit number that a whole number is, unless it does not fit. -/
def checkedInt64 (number : Int) : Result Int64 :=
  if -0x8000000000000000 ≤ number ∧ number < 0x8000000000000000 then .ok (Int64.ofInt number)
  else .error (.evaluation .overflow)

namespace BinaryOperator

/-- The exact result of an arithmetic operator on whole numbers. Division truncates, the
remainder has the sign of the dividend, and neither is defined for zero. -/
def exact (operator : BinaryOperator) (left right : Int) : Result Int :=
  match operator with
  | add => .ok (left + right)
  | subtract => .ok (left - right)
  | multiply => .ok (left * right)
  | divide =>
    if right = 0 then .error (.evaluation .divisionByZero) else .ok (Int.tdiv left right)
  | _ =>
    if right = 0 then .error (.evaluation .divisionByZero) else .ok (Int.tmod left right)

/-- The result of an arithmetic operator on doubles. -/
def onDoubles (operator : BinaryOperator) (left right : Float) : Float :=
  match operator with
  | add => left + right
  | subtract => left - right
  | multiply => left * right
  | divide => left / right
  | _ => Decimal.remainder left right

/-- The error of an operator that is not defined for two kinds of values. -/
def undefinedFor (operator : BinaryOperator) (left right : Value) : Error :=
  .typeMismatch (.operatorUndefined operator left.kindName right.kindName)

/-- An arithmetic operator on whole numbers of 64 bits. The remainder of a division that
overflows is an overflow as well. -/
def onInt64 (operator : BinaryOperator) (left right : Int) : Result Int64 := do
  if operator = modulo ∧ right = -1 then
    let _ ← checkedInt64 (-left)
  let number ← operator.exact left right
  checkedInt64 number

/-- An arithmetic operator on values. Addition also joins texts. -/
def arithmetic (operator : BinaryOperator) (left right : Value) : Result Value :=
  match left, right with
  | .null, _ => .ok .null
  | _, .null => .ok .null
  | .string left, .string right =>
    if operator = add then .ok (.string (left ++ right))
    else .error (operator.undefinedFor (.string left) (.string right))
  | .int32 left, .int32 right => do
    let number ← operator.exact left.toInt right.toInt
    let fitting ← checkedInt32 number
    return .int32 fitting
  | left, right =>
    match left.integer?, right.integer? with
    | some leftNumber, some rightNumber => do
      let fitting ← operator.onInt64 leftNumber rightNumber
      return .int64 fitting
    | _, _ =>
      match left.double?, right.double? with
      | some leftNumber, some rightNumber =>
        .ok (.double (operator.onDoubles leftNumber rightNumber))
      | _, _ => .error (operator.undefinedFor left right)

/-! ### Comparison -/

/-- An ordering operator agrees with how two operands are ordered. -/
def holdsFor (operator : BinaryOperator) (ordering : Ordering) : Bool :=
  match operator with
  | lessThan => ordering == .lt
  | lessThanOrEqual => ordering != .gt
  | greaterThan => ordering == .gt
  | _ => ordering != .lt

/-- An ordering operator on values. Null is not ordered with anything. -/
def comparison (operator : BinaryOperator) (left right : Value) : Result Value :=
  if left.isNull || right.isNull then .ok (.bool false)
  else
    match left.compare? right with
    | some ordering => .ok (.bool (operator.holdsFor ordering))
    | none => .error (.typeMismatch (.incomparable left.kindName right.kindName))

/-! ### Logic -/

/-- A logical operator on truth values. -/
def onBools (operator : BinaryOperator) (left right : Bool) : Bool :=
  match operator with
  | and | andAlso => left && right
  | or | orElse => left || right
  | _ => left ^^ right

/-- A logical operator on 32-bit numbers, bit by bit. -/
def onBits32? (operator : BinaryOperator) (left right : Int32) : Option Int32 :=
  match operator with
  | and => some (left &&& right)
  | or => some (left ||| right)
  | exclusiveOr => some (left ^^^ right)
  | _ => none

/-- A logical operator on 64-bit numbers, bit by bit. -/
def onBits64? (operator : BinaryOperator) (left right : Int64) : Option Int64 :=
  match operator with
  | and => some (left &&& right)
  | or => some (left ||| right)
  | exclusiveOr => some (left ^^^ right)
  | _ => none

/-- A logical operator on values. -/
def logical (operator : BinaryOperator) (left right : Value) : Result Value :=
  match left, right with
  | .bool left, .bool right => .ok (.bool (operator.onBools left right))
  | .int32 left, .int32 right =>
    match operator.onBits32? left right with
    | some bits => .ok (.int32 bits)
    | none => .error (operator.undefinedFor (.int32 left) (.int32 right))
  | left, right =>
    match left.integer?, right.integer? with
    | some leftNumber, some rightNumber =>
      match operator.onBits64? (Int64.ofInt leftNumber) (Int64.ofInt rightNumber) with
      | some bits => .ok (.int64 bits)
      | none => .error (operator.undefinedFor left right)
    | _, _ => .error (operator.undefinedFor left right)

/-! ### Indexing -/

/-- The item at a place, unless the place is out of range. -/
def itemAt (items : List Value) (index : Int) : Result Value :=
  match if index < 0 then none else items[index.toNat]? with
  | some item => .ok item
  | none => .error (.evaluation (.indexOutOfRange index))

/-- The item of an array at a place. -/
def indexed (array position : Value) : Result Value :=
  match array with
  | .array items =>
    match position.integer? with
    | some index => itemAt items index
    | none => .error (.typeMismatch .arrayIndex)
  | .null => .error (.evaluation .nullArray)
  | other => .error (.typeMismatch (.notIndexable other.kindName))

/-! ### All operators -/

/-- The built-in meaning of an operator on two values. -/
def apply (operator : BinaryOperator) (left right : Value) : Result Value :=
  match operator with
  | equal => .ok (.bool (left.looselyEquals right))
  | notEqual => .ok (.bool (!left.looselyEquals right))
  | lessThan | lessThanOrEqual | greaterThan | greaterThanOrEqual =>
    operator.comparison left right
  | andAlso | orElse | and | or | exclusiveOr => operator.logical left right
  | arrayIndex => indexed left right
  | coalesce => .ok (if left.isNull then right else left)
  | add | subtract | multiply | divide | modulo => operator.arithmetic left right

end BinaryOperator

namespace UnaryOperator

/-- The error of an operator that is not defined for a kind of value. -/
def undefinedFor (operator : UnaryOperator) (operand : Value) : Error :=
  .typeMismatch (.unaryUndefined operator operand.kindName)

/-- The meaning of an operator on a value. Null stays null. -/
def apply (operator : UnaryOperator) (operand : Value) : Result Value :=
  match operator, operand with
  | _, .null => .ok .null
  | not, .bool value => .ok (.bool !value)
  | not, .int32 value => .ok (.int32 (~~~value))
  | not, .int64 value => .ok (.int64 (~~~value))
  | negate, .int32 value => do
    let number ← checkedInt32 (-value.toInt)
    return .int32 number
  | negate, .int64 value => do
    let number ← checkedInt64 (-value.toInt)
    return .int64 number
  | negate, .double value => .ok (.double (-value))
  | operator, operand => .error (operator.undefinedFor operand)

end UnaryOperator

end PredicateWire
