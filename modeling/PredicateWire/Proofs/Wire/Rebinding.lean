/-
This file follows the references of an expression over the wire. What comes out has
parameters of its own, so it cannot be asked which parameter a reference refers to; what
can be compared is the lambda that binds it. The receiver makes one parameter for all
parameters that are alike on the wire, and `Joins` collects what follows from that: what
was made is one parameter exactly where namesakes were sent, and it has kept their name.
From this alone, by recursion on the expression that was sent, every reference is bound
in what comes out by the lambda that binds it when namesakes count as one. Nothing else
about the receiver is used, so this holds for every catalog and every image of the
types.
-/
import PredicateWire.Proofs.Expr.Scoping
import PredicateWire.Proofs.Wire.Delivery

namespace PredicateWire

/-! ### Namesakes -/

/-- The parameters are one on the wire: they have the same name and the same type name. -/
def Parameter.namesake (left right : Parameter) : Bool :=
  left.type.canonicalName == right.type.canonicalName && left.name == right.name

theorem Parameter.namesake_iff {left right : Parameter} :
    left.namesake right = true ↔ left.Alike right := by
  rw [Parameter.namesake, Bool.and_eq_true, beq_iff_eq, beq_iff_eq, Parameter.Alike]

/-! ### Scoping of what comes out -/

/-- What is made for parameters is one variable where they were one on the wire. It keeps their
names, and it has the images of their types. -/
structure Joins (image : DataType → DataType) (sent : List Parameter)
    (made : Parameter → Parameter) : Prop where
  names : ∀ parameter ∈ sent, (made parameter).name = parameter.name
  types : ∀ parameter ∈ sent, (made parameter).type = image parameter.type
  same : ∀ first ∈ sent, ∀ second ∈ sent,
    (made first).sameAs (made second) = first.namesake second

/-- If type names stand for one type each, what is made for parameters keeps their types. -/
theorem Interns.joins {image : DataType → DataType} {sent : List Parameter}
    {made : Parameter → Parameter} (interns : Interns image sent made)
    (coherent : ∀ first ∈ sent, ∀ second ∈ sent,
      first.type.canonicalName = second.type.canonicalName → first.type = second.type) :
    Joins image sent made := by
  refine ⟨fun parameter member => ?_, fun parameter member => ?_,
    fun first firstMember second secondMember => ?_⟩
  · obtain ⟨first, _, alike, name, _⟩ := interns.like parameter member
    exact name.trans alike.2
  · obtain ⟨first, firstMember, alike, _, type, _⟩ := interns.like parameter member
    rw [type, coherent first firstMember parameter member alike.1]
  · rw [Bool.eq_iff_iff, Parameter.namesake_iff]
    constructor
    · exact interns.apart first firstMember second secondMember
    · intro alike
      rw [interns.joined first firstMember second secondMember alike]
      exact beq_self_eq_true _

namespace Enclosing

variable {image : DataType → DataType} {made : Parameter → Parameter} {sent : List Parameter}

theorem rename_declare (path : Address) (parameters : List Parameter) (place : Nat)
    (outer : Enclosing) : (outer.declare path place parameters).rename made =
      (outer.rename made).declare path place (parameters.map made) := by
  induction parameters generalizing place outer with
  | nil => rfl
  | cons parameter rest inductionHypothesis => exact inductionHypothesis (place + 1) _

/-- A renamed reference is bound where the reference is bound when namesakes are one. The enclosing
lambdas are searched from the inside out on both sides. -/
theorem binder?_rename (joins : Joins image sent made) {enclosing : Enclosing}
    (within : ∀ entry ∈ enclosing, entry.1 ∈ sent) {referenced : Parameter}
    (member : referenced ∈ sent) :
    (enclosing.rename made).binder? Parameter.sameAs (made referenced) =
      enclosing.binder? Parameter.namesake referenced := by
  induction enclosing with
  | nil => rfl
  | cons entry outer inductionHypothesis =>
    rw [List.forall_mem_cons] at within
    have tested := joins.same entry.1 within.1 referenced member
    have rest := inductionHypothesis within.2
    unfold binder? rename at rest ⊢
    rw [List.map_cons, List.find?_cons, List.find?_cons]
    dsimp only
    rw [tested]
    cases entry.1.namesake referenced with
    | true => rfl
    | false => exact rest

end Enclosing

namespace Expr

variable {catalog : Catalog} {image : DataType → DataType} {made : Parameter → Parameter}
  {sent : List Parameter}

mutual

/-- References in a received expression are bound where they are bound when namesakes are one, place
by place and from whatever lambdas enclose them. -/
theorem scopingIn_received (joins : Joins image sent made) : ∀ {expression result : Expr},
    expression.received catalog image made = .ok result → ∀ {enclosing : Enclosing} (path : Address),
      (∀ node ∈ expression.nodes, node.isUnary = false) →
      (∀ parameter ∈ expression.parameters, parameter ∈ sent) →
      (∀ entry ∈ enclosing, entry.1 ∈ sent) →
        scopingIn Parameter.sameAs result (enclosing.rename made) path =
          scopingIn Parameter.namesake expression enclosing path
  | .lambda type parameters body name tailCall, result, succeeds, enclosing, path, paired,
      members, within => by
    obtain ⟨inner, bodyReceived, rfl⟩ := received_lambda succeeds
    rw [nodes, List.forall_mem_cons, List.forall_mem_append] at paired
    rw [parameters_lambda, List.forall_mem_append] at members
    rw [scopingIn, scopingIn, ← Enclosing.rename_declare]
    refine scopingIn_received joins bodyReceived _ paired.2.1 members.1 fun entry member => ?_
    rcases Enclosing.mem_declare member with declared | outer
    · exact members.2 _ declared
    · exact within entry outer
  | .parameter referenced, result, succeeds, enclosing, path, _, members, within => by
    cases received_parameter succeeds
    rw [parameters_parameter, List.forall_mem_singleton] at members
    rw [scopingIn, scopingIn, Enclosing.binder?_rename joins within members]
  | .binary operator type left right method conversion, result, succeeds, enclosing, path, paired,
      members, within => by
    obtain ⟨first, second, handle, converter, leftReceived, rightReceived, _, conversionReceived,
      rfl⟩ := received_binary succeeds
    rw [nodes, List.forall_mem_cons, List.forall_mem_append, List.forall_mem_append] at paired
    rw [parameters_binary, List.forall_mem_append, List.forall_mem_append] at members
    rw [scopingIn, scopingIn, scopingIn_received joins leftReceived _ paired.2.1.1 members.1.1 within,
      scopingIn_received joins rightReceived _ paired.2.1.2 members.1.2 within,
      scopingOption_received joins conversionReceived _ paired.2.2 members.2 within]
  | .member target read, result, succeeds, enclosing, path, paired, members, within => by
    obtain ⟨inner, handle, targetReceived, _, rfl⟩ := received_member succeeds
    rw [nodes, List.forall_mem_cons] at paired
    rw [parameters_member] at members
    rw [scopingIn, scopingIn, scopingIn_received joins targetReceived _ paired.2 members within]
  | .constant value type, result, succeeds, enclosing, path, _, _, _ => by
    obtain ⟨content, _, rfl⟩ := received_constant succeeds
    rw [scopingIn, scopingIn]
  | .call target method arguments, result, succeeds, enclosing, path, paired, members, within => by
    obtain ⟨inner, handle, others, targetReceived, _, argumentsReceived, rfl⟩ :=
      received_call succeeds
    rw [nodes, List.forall_mem_cons, List.forall_mem_append] at paired
    rw [parameters_call, List.forall_mem_append] at members
    rw [scopingIn, scopingIn,
      scopingOption_received joins targetReceived _ paired.2.1 members.1 within,
      scopingAll_received joins argumentsReceived _ _ paired.2.2 members.2 within]
  | .construct constructor arguments, result, succeeds, enclosing, path, paired, members,
      within => by
    obtain ⟨handle, others, _, argumentsReceived, rfl⟩ := received_construct succeeds
    rw [nodes, List.forall_mem_cons] at paired
    rw [parameters_construct] at members
    rw [scopingIn, scopingIn,
      scopingAll_received joins argumentsReceived _ _ paired.2 members within]
  | .arrayInit type elements, result, succeeds, enclosing, path, paired, members, within => by
    obtain ⟨others, elementsReceived, rfl⟩ := received_arrayInit succeeds
    rw [nodes, List.forall_mem_cons] at paired
    rw [parameters_arrayInit] at members
    rw [scopingIn, scopingIn,
      scopingAll_received joins elementsReceived _ _ paired.2 members within]
  | .unary operator type operand, result, succeeds, enclosing, path, paired, _, _ => by
    rw [nodes, List.forall_mem_cons] at paired
    cases paired.1

theorem scopingAll_received (joins : Joins image sent made) : ∀ {expressions results : List Expr},
    receivedAll catalog image made expressions = .ok results →
      ∀ {enclosing : Enclosing} (path : Address) (place : Nat),
      (∀ node ∈ nodesAll expressions, node.isUnary = false) →
      (∀ parameter ∈ parametersAll expressions, parameter ∈ sent) →
      (∀ entry ∈ enclosing, entry.1 ∈ sent) →
        scopingAll Parameter.sameAs results (enclosing.rename made) path place =
          scopingAll Parameter.namesake expressions enclosing path place
  | [], results, succeeds, enclosing, path, place, _, _, _ => by
    cases receivedAll_nil succeeds
    rw [scopingAll, scopingAll]
  | first :: rest, results, succeeds, enclosing, path, place, paired, members, within => by
    obtain ⟨head, tail, firstReceived, restReceived, rfl⟩ := receivedAll_cons succeeds
    rw [nodesAll, List.forall_mem_append] at paired
    rw [parametersAll_cons, List.forall_mem_append] at members
    rw [scopingAll, scopingAll, scopingIn_received joins firstReceived _ paired.1 members.1 within,
      scopingAll_received joins restReceived _ _ paired.2 members.2 within]

theorem scopingOption_received (joins : Joins image sent made) : ∀ {expression result : Option Expr},
    receivedOption catalog image made expression = .ok result →
      ∀ {enclosing : Enclosing} (path : Address),
      (∀ node ∈ nodesOption expression, node.isUnary = false) →
      (∀ parameter ∈ parametersOption expression, parameter ∈ sent) →
      (∀ entry ∈ enclosing, entry.1 ∈ sent) →
        scopingOption Parameter.sameAs result (enclosing.rename made) path =
          scopingOption Parameter.namesake expression enclosing path
  | none, result, succeeds, enclosing, path, _, _, _ => by
    cases receivedOption_none succeeds
    rw [scopingOption, scopingOption]
  | some expression, result, succeeds, enclosing, path, paired, members, within => by
    obtain ⟨inner, innerReceived, rfl⟩ := receivedOption_some succeeds
    rw [scopingOption, scopingOption]
    exact scopingIn_received joins innerReceived _ paired members within

end

end Expr

end PredicateWire
