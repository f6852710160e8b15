/-
This file says what binds a reference. A variable is bound by the innermost lambda
around it that declares it, and which lambda that is depends on how variables are told
apart: evaluation tells them apart by identity, the wire by their names and the names of
their types. So the test is an argument here. The scoping of an expression lists its
references in the order in which they stand, each with its binder. A binder is a place
in the tree and not a parameter, so that two expressions without a common parameter can
be compared. Two facts carry the comparisons. The lists for two tests have the same
length, which lets an equation between them be taken apart at every node; and the
binders in force at a place are all different, and stand above it.
-/
import PredicateWire.Proofs.Expr.Parts

namespace PredicateWire

/-! ### Scoping -/

/-- What binds a variable: a lambda, given by its place in the tree, and one of its parameters. -/
structure Binder where
  lambda : Address
  place : Nat
deriving DecidableEq

/-- The variables in force at a place in a tree with their binders, innermost first. -/
abbrev Enclosing := List (Parameter × Binder)

namespace Enclosing

/-- The variables in force inside a lambda, whose last parameter is innermost. -/
def declare (path : Address) (place : Nat) : List Parameter → Enclosing → Enclosing
  | [], outer => outer
  | parameter :: rest, outer => declare path (place + 1) rest ((parameter, ⟨path, place⟩) :: outer)

/-- What binds a reference, when variables are told apart by `same`. -/
def binder? (same : Parameter → Parameter → Bool) (enclosing : Enclosing)
    (referenced : Parameter) : Option Binder :=
  (enclosing.find? fun entry => same entry.1 referenced).map Prod.snd

/-- The variables in force after all parameters have been replaced. -/
def rename (made : Parameter → Parameter) (enclosing : Enclosing) : Enclosing :=
  enclosing.map fun entry => (made entry.1, entry.2)

end Enclosing

namespace Expr

section

variable (same : Parameter → Parameter → Bool)

mutual

/-- The references in an expression, in order: where each stands, and what binds it. -/
def scopingIn : Expr → Enclosing → Address → List (Address × Option Binder)
  | lambda _ parameters body _ _, enclosing, path =>
    scopingIn body (enclosing.declare path 0 parameters) (0 :: path)
  | parameter referenced, enclosing, path => [(path, enclosing.binder? same referenced)]
  | binary _ _ left right _ conversion, enclosing, path =>
    scopingIn left enclosing (0 :: path) ++ scopingIn right enclosing (1 :: path) ++
      scopingOption conversion enclosing (2 :: path)
  | member target _, enclosing, path => scopingIn target enclosing (0 :: path)
  | constant _ _, _, _ => []
  | call target _ arguments, enclosing, path =>
    scopingOption target enclosing (0 :: path) ++ scopingAll arguments enclosing path 1
  | construct _ arguments, enclosing, path => scopingAll arguments enclosing path 0
  | arrayInit _ elements, enclosing, path => scopingAll elements enclosing path 0
  | unary _ _ operand, enclosing, path => scopingIn operand enclosing (0 :: path)

/-- The references in several expressions that stand below one place. -/
def scopingAll : List Expr → Enclosing → Address → Nat → List (Address × Option Binder)
  | [], _, _, _ => []
  | expression :: rest, enclosing, path, place =>
    scopingIn expression enclosing (place :: path) ++ scopingAll rest enclosing path (place + 1)

/-- The references in an expression that may be absent. -/
def scopingOption : Option Expr → Enclosing → Address → List (Address × Option Binder)
  | none, _, _ => []
  | some expression, enclosing, path => scopingIn expression enclosing path

end

/-- The references in a whole expression, and what binds them. -/
def scoping (expression : Expr) : List (Address × Option Binder) :=
  scopingIn same expression [] []

end

end Expr

section

variable {same other : Parameter → Parameter → Bool} {sent : List Parameter}

theorem Enclosing.binder?_congr
    (agree : ∀ first ∈ sent, ∀ second ∈ sent, same first second = other first second)
    {enclosing : Enclosing} (within : ∀ entry ∈ enclosing, entry.1 ∈ sent) {referenced : Parameter}
    (member : referenced ∈ sent) :
    enclosing.binder? same referenced = enclosing.binder? other referenced := by
  induction enclosing with
  | nil => rfl
  | cons entry outer inductionHypothesis =>
    rw [List.forall_mem_cons] at within
    have rest := inductionHypothesis within.2
    unfold binder? at rest ⊢
    rw [List.find?_cons, List.find?_cons, agree entry.1 within.1 referenced member]
    cases other entry.1 referenced with
    | true => rfl
    | false => exact rest

theorem Enclosing.mem_declare {path : Address} {parameters : List Parameter} {place : Nat}
    {outer : Enclosing} {entry : Parameter × Binder}
    (member : entry ∈ outer.declare path place parameters) :
    entry.1 ∈ parameters ∨ entry ∈ outer := by
  induction parameters generalizing place outer with
  | nil => exact .inr member
  | cons parameter rest inductionHypothesis =>
    rcases inductionHypothesis member with inRest | inOuter
    · exact .inl (List.mem_cons_of_mem _ inRest)
    · rcases List.mem_cons.mp inOuter with rfl | inOuter
      · exact .inl List.mem_cons_self
      · exact .inr inOuter

namespace Expr

mutual

/-- References are bound in the same places when the same of their parameters are told apart. -/
theorem scopingIn_congr
    (agree : ∀ first ∈ sent, ∀ second ∈ sent, same first second = other first second) :
    ∀ (expression : Expr) {enclosing : Enclosing} (path : Address),
      (∀ parameter ∈ expression.parameters, parameter ∈ sent) →
      (∀ entry ∈ enclosing, entry.1 ∈ sent) →
        scopingIn same expression enclosing path = scopingIn other expression enclosing path
  | .lambda type parameters body name tailCall, enclosing, path, members, within => by
    rw [parameters_lambda, List.forall_mem_append] at members
    rw [scopingIn, scopingIn]
    refine scopingIn_congr agree body _ members.1 fun entry member => ?_
    rcases Enclosing.mem_declare member with declared | outer
    · exact members.2 _ declared
    · exact within entry outer
  | .parameter referenced, enclosing, path, members, within => by
    rw [parameters_parameter, List.forall_mem_singleton] at members
    rw [scopingIn, scopingIn, Enclosing.binder?_congr agree within members]
  | .binary operator type left right method conversion, enclosing, path, members, within => by
    rw [parameters_binary, List.forall_mem_append, List.forall_mem_append] at members
    rw [scopingIn, scopingIn, scopingIn_congr agree left _ members.1.1 within,
      scopingIn_congr agree right _ members.1.2 within,
      scopingOption_congr agree conversion _ members.2 within]
  | .member target read, enclosing, path, members, within => by
    rw [parameters_member] at members
    rw [scopingIn, scopingIn, scopingIn_congr agree target _ members within]
  | .constant value type, enclosing, path, _, _ => rfl
  | .call target method arguments, enclosing, path, members, within => by
    rw [parameters_call, List.forall_mem_append] at members
    rw [scopingIn, scopingIn, scopingOption_congr agree target _ members.1 within,
      scopingAll_congr agree arguments _ _ members.2 within]
  | .construct constructor arguments, enclosing, path, members, within => by
    rw [parameters_construct] at members
    rw [scopingIn, scopingIn, scopingAll_congr agree arguments _ _ members within]
  | .arrayInit type elements, enclosing, path, members, within => by
    rw [parameters_arrayInit] at members
    rw [scopingIn, scopingIn, scopingAll_congr agree elements _ _ members within]
  | .unary operator type operand, enclosing, path, members, within => by
    rw [parameters_unary] at members
    rw [scopingIn, scopingIn, scopingIn_congr agree operand _ members within]

theorem scopingAll_congr
    (agree : ∀ first ∈ sent, ∀ second ∈ sent, same first second = other first second) :
    ∀ (expressions : List Expr) {enclosing : Enclosing} (path : Address) (place : Nat),
      (∀ parameter ∈ parametersAll expressions, parameter ∈ sent) →
      (∀ entry ∈ enclosing, entry.1 ∈ sent) →
        scopingAll same expressions enclosing path place =
          scopingAll other expressions enclosing path place
  | [], _, _, _, _, _ => rfl
  | first :: rest, enclosing, path, place, members, within => by
    rw [parametersAll_cons, List.forall_mem_append] at members
    rw [scopingAll, scopingAll, scopingIn_congr agree first _ members.1 within,
      scopingAll_congr agree rest _ _ members.2 within]

theorem scopingOption_congr
    (agree : ∀ first ∈ sent, ∀ second ∈ sent, same first second = other first second) :
    ∀ (expression : Option Expr) {enclosing : Enclosing} (path : Address),
      (∀ parameter ∈ parametersOption expression, parameter ∈ sent) →
      (∀ entry ∈ enclosing, entry.1 ∈ sent) →
        scopingOption same expression enclosing path =
          scopingOption other expression enclosing path
  | none, _, _, _, _ => rfl
  | some expression, enclosing, path, members, within => by
    rw [scopingOption, scopingOption]
    exact scopingIn_congr agree expression _ members within

end

end Expr

end

namespace Expr

section

variable {same other : Parameter → Parameter → Bool}

mutual

theorem length_scopingIn : ∀ (expression : Expr) (enclosing : Enclosing) (path : Address),
    (scopingIn same expression enclosing path).length =
      (scopingIn other expression enclosing path).length
  | .lambda _ _ body _ _, _, _ => by rw [scopingIn, scopingIn, length_scopingIn body]
  | .parameter _, _, _ => rfl
  | .binary _ _ left right _ conversion, _, _ => by
    rw [scopingIn, scopingIn, List.length_append, List.length_append, List.length_append,
      List.length_append, length_scopingIn left, length_scopingIn right,
      length_scopingOption conversion]
  | .member target _, _, _ => by rw [scopingIn, scopingIn, length_scopingIn target]
  | .constant _ _, _, _ => rfl
  | .call target _ arguments, _, _ => by
    rw [scopingIn, scopingIn, List.length_append, List.length_append,
      length_scopingOption target, length_scopingAll arguments]
  | .construct _ arguments, _, _ => by rw [scopingIn, scopingIn, length_scopingAll arguments]
  | .arrayInit _ elements, _, _ => by rw [scopingIn, scopingIn, length_scopingAll elements]
  | .unary _ _ operand, _, _ => by rw [scopingIn, scopingIn, length_scopingIn operand]

theorem length_scopingAll : ∀ (expressions : List Expr) (enclosing : Enclosing) (path : Address)
    (place : Nat), (scopingAll same expressions enclosing path place).length =
      (scopingAll other expressions enclosing path place).length
  | [], _, _, _ => rfl
  | first :: rest, _, _, _ => by
    rw [scopingAll, scopingAll, List.length_append, List.length_append, length_scopingIn first,
      length_scopingAll rest]

theorem length_scopingOption : ∀ (expression : Option Expr) (enclosing : Enclosing)
    (path : Address), (scopingOption same expression enclosing path).length =
      (scopingOption other expression enclosing path).length
  | none, _, _ => rfl
  | some expression, _, _ => by rw [scopingOption, scopingOption, length_scopingIn expression]

end

end

end Expr

/-! ### Places of binders -/

namespace Enclosing

/-- The variables in force at a place above which all their binders stand. -/
structure Placed (enclosing : Enclosing) (path : Address) : Prop where
  apart : (enclosing.map Prod.snd).Nodup
  above : ∀ entry ∈ enclosing, entry.2.lambda.length < path.length

theorem placed_declare_from {path : Address} {parameters : List Parameter} {place : Nat}
    {outer : Enclosing} (apart : (outer.map Prod.snd).Nodup)
    (before : ∀ entry ∈ outer, entry.2.lambda.length < path.length ∨
      entry.2.lambda = path ∧ entry.2.place < place) (step : Nat) :
    (outer.declare path place parameters).Placed (step :: path) := by
  induction parameters generalizing place outer with
  | nil =>
    refine ⟨apart, fun entry member => ?_⟩
    rcases before entry member with above | ⟨here, _⟩
    · exact Nat.lt_succ_of_lt above
    · rw [here]
      exact Nat.lt_succ_self _
  | cons parameter rest inductionHypothesis =>
    refine inductionHypothesis ?_ ?_
    · rw [List.map_cons, List.nodup_cons]
      refine ⟨fun declared => ?_, apart⟩
      obtain ⟨entry, member, same⟩ := List.mem_map.mp declared
      rcases before entry member with above | ⟨_, earlier⟩ <;> rw [same] at *
      · exact Nat.lt_irrefl _ above
      · exact Nat.lt_irrefl _ earlier
    · rw [List.forall_mem_cons]
      refine ⟨.inr ⟨rfl, Nat.lt_succ_self _⟩, fun entry member => ?_⟩
      exact (before entry member).imp_right fun here => ⟨here.1, Nat.lt_succ_of_lt here.2⟩

theorem Placed.declare {enclosing : Enclosing} {path : Address} (placed : enclosing.Placed path)
    (parameters : List Parameter) (step : Nat) :
    (enclosing.declare path 0 parameters).Placed (step :: path) :=
  placed_declare_from placed.apart (fun entry member => .inl (placed.above entry member)) step

theorem Placed.below {enclosing : Enclosing} {path : Address} (placed : enclosing.Placed path)
    (step : Nat) : enclosing.Placed (step :: path) :=
  ⟨placed.apart, fun entry member => Nat.lt_succ_of_lt (placed.above entry member)⟩

theorem binder?_mem {same : Parameter → Parameter → Bool} {enclosing : Enclosing}
    {referenced : Parameter} {binder : Binder}
    (bound : enclosing.binder? same referenced = some binder) :
    binder ∈ enclosing.map Prod.snd := by
  obtain ⟨entry, found, rfl⟩ := Option.map_eq_some_iff.mp bound
  exact List.mem_map_of_mem (List.mem_of_find?_eq_some found)

end Enclosing

end PredicateWire
