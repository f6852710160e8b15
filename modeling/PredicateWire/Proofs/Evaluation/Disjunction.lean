/-
This file proves that a search with a predicate is a disjunction that stops early. The
answers of the predicate are asked for in order, and the first one that is not false
decides: true makes the whole true, an error is passed on, and what is no truth value is
a mismatch. Each answer is the outcome of the body of a lambda with its parameter bound
to an item on top of the bindings in force where the lambda stands, at depth one
whatever the depth of the search is. Bodies may search in turn, with lambdas of their
own.

The equation is stated for every handle of the library's search, closed over whatever
type and carried over to whatever instance, since all of them run one body
(`HandleOf.searches`). The disjunction itself is a function on lists of outcomes that
knows nothing of evaluation, so that its laws, such as that nothing after a deciding
answer counts, are proved for it alone.
-/
import PredicateWire.Catalog.Library
import PredicateWire.Proofs.Catalog.Handles
import PredicateWire.Proofs.Evaluation.Stack

namespace PredicateWire

/-! ### Disjunctions -/

namespace Outcome

/-- What an answer decides. An answer of false leaves it to the answers after it. -/
def decision? : Outcome Value → Option (Outcome Value)
  | .ok (.bool false) => none
  | .ok (.bool true) => some (.ok (.bool true))
  | .ok other => some (mismatch (.predicateAnswer "Any" other.kindName))
  | .error halt => some (.error halt)

/-- The disjunction of answers in order: what the first one that decides makes it, and false if
none does. -/
def disjunction (answers : List (Outcome Value)) : Outcome Value :=
  (answers.findSome? decision?).getD (.ok (.bool false))

/-- An answer leaves it to the answers after it just when it is false. -/
theorem decision?_eq_none {answer : Outcome Value} :
    answer.decision? = none ↔ answer = .ok (.bool false) := by
  constructor
  · intro undecided
    unfold decision? at undecided
    split at undecided
    · rfl
    all_goals cases undecided
  · rintro rfl
    rfl

theorem disjunction_false_cons (answers : List (Outcome Value)) :
    disjunction (.ok (.bool false) :: answers) = disjunction answers := by
  rw [disjunction, List.findSome?_cons]
  rfl

theorem disjunction_cons {answer decided : Outcome Value}
    (decides : answer.decision? = some decided) (answers : List (Outcome Value)) :
    disjunction (answer :: answers) = decided := by
  rw [disjunction, List.findSome?_cons, decides]
  rfl

/-- What comes after an answer that decides has no influence. -/
theorem disjunction_append {answer : Outcome Value} (decides : answer ≠ .ok (.bool false))
    (before after others : List (Outcome Value)) :
    disjunction (before ++ answer :: after) = disjunction (before ++ answer :: others) := by
  obtain ⟨decided, same⟩ := Option.ne_none_iff_exists'.mp (mt decision?_eq_none.mp decides)
  induction before with
  | nil => rw [List.nil_append, List.nil_append, disjunction_cons same, disjunction_cons same]
  | cons earlier before inductionHypothesis =>
    rw [List.cons_append, List.cons_append]
    cases earlierDecides : earlier.decision? with
    | some outcome => rw [disjunction_cons earlierDecides, disjunction_cons earlierDecides]
    | none =>
      cases decision?_eq_none.mp earlierDecides
      rw [disjunction_false_cons, disjunction_false_cons, inductionHypothesis]

end Outcome

open Outcome (disjunction)

/-! ### Searches -/

namespace Native

/-- A search is the disjunction of the answers of its predicate. -/
theorem anyWhere_eq_disjunction (call : Caller) (predicate : Closure) (number : Nat)
    (items : List Value) :
    (do return Value.bool (← anyWhere call predicate number items) : Outcome Value) =
      disjunction (items.mapIdx fun place item => call (number + place) predicate [item]) := by
  induction items generalizing number with
  | nil => rfl
  | cons item rest inductionHypothesis =>
    -- The calls of one search are numbered, so the rest of it starts one number later.
    have later : (rest.mapIdx fun place item => call (number + 1 + place) predicate [item]) =
        rest.mapIdx fun place item => call (number + (place + 1)) predicate [item] := by
      simp only [Nat.add_assoc, Nat.add_comm 1]
    rw [anyWhere, List.mapIdx_cons, Nat.add_zero]
    cases call number predicate [item] with
    | error halt => exact (Outcome.disjunction_cons rfl _).symm
    | ok answer =>
      cases answer with
      | bool holds =>
        cases holds with
        | true => exact (Outcome.disjunction_cons rfl _).symm
        | false => rw [Outcome.disjunction_false_cons, ← later, ← inductionHypothesis]; rfl
      | _ => exact (Outcome.disjunction_cons rfl _).symm

end Native

/-- The search with a predicate. -/
def Library.search : Method :=
  operation "Any" [elements, elementPredicate] .bool .sequenceAnyWhere

/-- The library has two searches for sequences, one of them with a predicate. -/
theorem Library.overloads_any : Catalog.standard.overloads DataType.enumerableName "Any" =
    [operation "Any" [elements] .bool .sequenceAny, search] :=
  rfl

/-- Every handle of the search runs its body on two arguments. -/
theorem Method.HandleOf.searches {definition method : Method} (handle : definition.HandleOf method)
    (overload : definition ∈ Catalog.standard.overloads DataType.enumerableName "Any")
    (two : definition.parameters.length = 2) :
    method.isStatic = true ∧ method.parameters.length = 2 ∧ method.body = .sequenceAnyWhere := by
  rw [Library.overloads_any] at overload
  simp only [List.mem_cons, List.not_mem_nil, or_false] at overload
  rcases overload with rfl | rfl
  · cases two
  · cases handle with
    | itself | carried => exact ⟨rfl, rfl, rfl⟩
    | closed made | carriedFirst _ made | closedFirst _ _ made =>
      obtain ⟨_, _, rfl⟩ := Method.makeGeneric_eq_ok.mp made
      exact ⟨rfl, rfl, rfl⟩

namespace Expr

/-- The answers of a lambda with one parameter for items: its body, evaluated one level down with
the parameter bound to one item after another, each time at an address of its own. -/
def answers (budget limit : Nat) (bindings : Bindings) (parameter : Parameter) (body : Expr)
    (address : Address) (items : List Value) : List (Outcome Value) :=
  items.mapIdx fun number item =>
    body.evaluateAt (Closure.callAt budget) limit ((parameter, item) :: bindings) 1
      (address.call number)

section

variable {method : Method} {budget limit depth : Nat} {bindings : Bindings} {address : Address}
  {source : Expr} {items : List Value} (type : DataType) (parameter : Parameter) (body : Expr)
  (name : Option String) (tailCall : Bool)

/-- A call of a search evaluates to the disjunction of the answers of its lambda, from left to
right, after its source has been evaluated. -/
theorem evaluateAt_anyWhere (isStatic : method.isStatic = true) (two : method.parameters.length = 2)
    (search : method.body = .sequenceAnyWhere)
    (yields : source.evaluateAt (Closure.callAt (budget + 1)) limit bindings (depth + 1)
      (address.operand 1) = .ok (.array items)) :
    (call none method [source, lambda type [parameter] body name tailCall]).evaluateAt
        (Closure.callAt (budget + 1)) limit bindings depth address =
      disjunction (answers budget limit bindings parameter body address items) := by
  -- The source stands as deep as the lambda, which cannot be too deep either.
  have within : ¬limit < depth + 1 := by
    intro deep
    unfold evaluateAt at yields
    rw [if_pos deep] at yields
    cases yields
  have shallow : ¬limit < depth := by omega
  let closure : Closure := .mk (address.operand 2) [parameter] body bindings limit
  have arguments : evaluateAll (Closure.callAt (budget + 1)) limit
      [source, lambda type [parameter] body name tailCall] bindings (depth + 1) address 1 =
        .ok [.array items, .function closure] := by
    rw [evaluateAll, evaluateAll, evaluateAll, yields, evaluateAt, if_neg within]
    rfl
  have invoked : ∀ caller : Caller, method.invoke caller none [.array items, .function closure] =
      (do return Value.bool (← Native.anyWhere caller closure 0 items)) := by
    intro caller
    rw [Method.invoke, if_neg (by rw [two]; exact fun differs => differs rfl), isStatic, search]
    rfl
  rw [evaluateAt, if_neg shallow, evaluateTarget, arguments]
  show method.invoke _ none _ = _
  rw [invoked, Native.anyWhere_eq_disjunction]
  simp only [Nat.zero_add]
  rfl

end

/-! ### A search within a search -/

/-- Searches numbers with a predicate. -/
def anyNumber (numbers : List Int32) (parameter : Parameter) (body : Expr) : Expr :=
  call none (Library.search.filled [.int32])
    [constant (.array (numbers.map .int32)) (.generic DataType.sequenceName .sequence [.int32]),
      lambda (.generic "sys.Func`2" .function [.int32, .bool]) [parameter] body none false]

/-- One of two numbers is below a limit after it is divided. -/
def anyQuotientBelow (limit divisor number : Parameter) : Expr :=
  anyNumber [7, 4] number
    (binary .lessThan .bool
      (binary .divide .int32 (parameter number) (parameter divisor) none none) (parameter limit)
      none none)

end Expr

end PredicateWire
