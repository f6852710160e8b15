/-
This file lists the operators of predicate expressions and the kinds of expression
nodes. Every kind has a number, which is what a packet carries, and a name, which
is what messages show. A binary node has no kind of its own: it carries the kind
of its operator. `NodeKind.ofNumber?_number` says that the numbers identify the
kinds.
-/

namespace PredicateWire

/-! ### Operators -/

/-- The operators with two operands. -/
inductive BinaryOperator
  | add
  | subtract
  | multiply
  | divide
  | modulo
  | and
  | or
  | exclusiveOr
  | andAlso
  | orElse
  | equal
  | notEqual
  | lessThan
  | lessThanOrEqual
  | greaterThan
  | greaterThanOrEqual
  | arrayIndex
  | coalesce
deriving DecidableEq

/-- The operators with one operand. They are evaluated, and no packet carries them. -/
inductive UnaryOperator
  | not
  | negate
deriving DecidableEq

namespace BinaryOperator

/-- Every binary operator, in the order of the numbers. -/
def all : List BinaryOperator :=
  [add, subtract, multiply, divide, modulo, and, or, exclusiveOr, andAlso, orElse, equal,
    notEqual, lessThan, lessThanOrEqual, greaterThan, greaterThanOrEqual, arrayIndex, coalesce]

/-- The name that messages show. -/
def name : BinaryOperator → String
  | add => "Add"
  | subtract => "Subtract"
  | multiply => "Multiply"
  | divide => "Divide"
  | modulo => "Modulo"
  | and => "And"
  | or => "Or"
  | exclusiveOr => "ExclusiveOr"
  | andAlso => "AndAlso"
  | orElse => "OrElse"
  | equal => "Equal"
  | notEqual => "NotEqual"
  | lessThan => "LessThan"
  | lessThanOrEqual => "LessThanOrEqual"
  | greaterThan => "GreaterThan"
  | greaterThanOrEqual => "GreaterThanOrEqual"
  | arrayIndex => "ArrayIndex"
  | coalesce => "Coalesce"

/-- The number of the operator on the wire. -/
def number : BinaryOperator → Nat
  | add => 0
  | subtract => 1
  | multiply => 2
  | divide => 3
  | modulo => 4
  | and => 5
  | or => 6
  | exclusiveOr => 7
  | andAlso => 8
  | orElse => 9
  | equal => 10
  | notEqual => 11
  | lessThan => 12
  | lessThanOrEqual => 13
  | greaterThan => 14
  | greaterThanOrEqual => 15
  | arrayIndex => 16
  | coalesce => 17

/-- The operator that goes by a name. -/
def ofName? (name : String) : Option BinaryOperator :=
  all.find? fun operator => operator.name == name

/-- The operators whose result says how the operands are ordered or whether they agree. -/
def isComparison : BinaryOperator → Bool
  | equal | notEqual | lessThan | lessThanOrEqual | greaterThan | greaterThanOrEqual => true
  | _ => false

/-- The operators that compute a number. -/
def isArithmetic : BinaryOperator → Bool
  | add | subtract | multiply | divide | modulo => true
  | _ => false

end BinaryOperator

namespace UnaryOperator

/-- The name that messages show. -/
def name : UnaryOperator → String
  | not => "Not"
  | negate => "Negate"

/-- The number of the operator's node kind. -/
def number : UnaryOperator → Nat
  | not => 30
  | negate => 31

/-- The operator that goes by a name. -/
def ofName? (name : String) : Option UnaryOperator :=
  [not, negate].find? fun operator => operator.name == name

end UnaryOperator

/-! ### Node kinds -/

/-- What an expression node is. -/
inductive NodeKind
  | binary (operator : BinaryOperator)
  | lambda
  | parameter
  | constant
  | memberAccess
  | call
  | construct
  | arrayInit
  | unary (operator : UnaryOperator)
deriving DecidableEq

namespace NodeKind

/-- Every node kind, in the order of the numbers. -/
def all : List NodeKind :=
  BinaryOperator.all.map binary ++
    [lambda, parameter, constant, memberAccess, call, construct, arrayInit,
      unary .not, unary .negate]

/-- The name that messages show. -/
def name : NodeKind → String
  | binary operator => operator.name
  | lambda => "Lambda"
  | parameter => "Parameter"
  | constant => "Constant"
  | memberAccess => "MemberAccess"
  | call => "Call"
  | construct => "New"
  | arrayInit => "NewArrayInit"
  | unary operator => operator.name

/-- The number that a packet carries. -/
def number : NodeKind → Nat
  | binary operator => operator.number
  | lambda => 20
  | parameter => 21
  | constant => 22
  | memberAccess => 23
  | call => 24
  | construct => 25
  | arrayInit => 26
  | unary operator => operator.number

/-- The kind with a number, if there is one. -/
def ofNumber? (number : Nat) : Option NodeKind :=
  all.find? fun kind => kind.number == number

/-- The operator of a binary node. -/
def binaryOperator? : NodeKind → Option BinaryOperator
  | binary operator => some operator
  | _ => none

theorem ofNumber?_number (kind : NodeKind) : ofNumber? kind.number = some kind := by
  rcases kind with operator | _ | _ | _ | _ | _ | _ | _ | operator
  case binary => cases operator <;> rfl
  case unary => cases operator <;> rfl
  all_goals rfl

end NodeKind

end PredicateWire
