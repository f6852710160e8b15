/-
This file proves that an expression whose references stay where they are computes after
the wire what it computed before. The two expressions have no parameter in common, so
neither can be evaluated in the environment of the other; they are compared under the
pairs of parameters that the same lambda declares. Both find a reference at the same
position then, which asks for more than one binder in common: a namesake further in
would be found first. But the binders in force are all different. So where the scopings
of an expression by identity and by namesakes agree on a reference, no namesake stands
in between (`Enclosing.sameBinder_of_uncaptured`). The rest is a recursion on the
expression that takes what its nodes hold as a hypothesis (`Expr.Kept`), and the answer
of the predicate as a whole.
-/
import PredicateWire.Proofs.Evaluation.Simulation
import PredicateWire.Proofs.Wire.Rebinding

namespace PredicateWire

/-! ### References that stay where they are -/

namespace Enclosing

/-- The variables in force with what was made for them. -/
def pairs (made : Parameter → Parameter) (enclosing : Enclosing) : ScopePairs :=
  enclosing.map fun entry => (entry.1, made entry.1)

theorem pairs_declare (made : Parameter → Parameter) (path : Address)
    (parameters : List Parameter) (place : Nat) (outer : Enclosing) :
    (outer.declare path place parameters).pairs made =
      (outer.pairs made).declare parameters (parameters.map made) := by
  induction parameters generalizing place outer with
  | nil => rfl
  | cons parameter rest inductionHypothesis =>
    rw [declare, inductionHypothesis]
    simp [ScopePairs.declare, pairs]

/-- A reference that is bound by the same parameter whether namesakes are one or not has the same
binder as what was made for it. -/
theorem sameBinder_of_uncaptured {image : DataType → DataType}
    {made : Parameter → Parameter} {sent : List Parameter} (joins : Joins image sent made)
    {enclosing : Enclosing} (apart : (enclosing.map Prod.snd).Nodup)
    (within : ∀ entry ∈ enclosing, entry.1 ∈ sent) {referenced : Parameter}
    (member : referenced ∈ sent)
    (uncaptured : enclosing.binder? Parameter.namesake referenced =
      enclosing.binder? Parameter.sameAs referenced) :
    (enclosing.pairs made).SameBinder referenced (made referenced) := by
  induction enclosing with
  | nil => trivial
  | cons entry outer inductionHypothesis =>
    rw [List.map_cons, List.nodup_cons] at apart
    rw [List.forall_mem_cons] at within
    have tested := joins.same entry.1 within.1 referenced member
    unfold binder? at uncaptured
    rw [List.find?_cons, List.find?_cons] at uncaptured
    rw [pairs, List.map_cons, ScopePairs.SameBinder, tested]
    cases shared : entry.1.sameAs referenced <;> cases alike : entry.1.namesake referenced <;>
      simp only [shared, alike] at uncaptured
    case false.false => exact ⟨rfl, inductionHypothesis apart.2 within.2 uncaptured⟩
    case false.true => exact absurd (binder?_mem uncaptured.symm) apart.1
    case true.false => exact absurd (binder?_mem uncaptured) apart.1
    case true.true => rfl

end Enclosing

namespace Expr

/-- What a node itself holds is received, if it is received, as something that does the same and
yields the image of the type. -/
def Kept (catalog : Catalog) (image : DataType → DataType) : Expr → Prop
  | binary _ _ _ _ method _ => ∀ implementation ∈ method, ∀ handle,
      catalog.receivedMethod image implementation = .ok handle → implementation.Agrees handle
  | member _ read => ∀ handle, catalog.receivedMember image read = .ok handle →
      read.Agrees handle ∧ handle.memberType = image read.memberType
  | constant value type => ∀ content,
      Value.ofLiteral (image type) value.document.normalize = .ok content → content = value
  | call _ method _ => ∀ handle, catalog.receivedMethod image method = .ok handle →
      method.Agrees handle ∧ handle.returnType = image method.returnType
  | construct constructor _ => ∀ handle,
      catalog.receivedConstructor image constructor = .ok handle →
        constructor.Agrees handle ∧ handle.declaringType = image constructor.declaringType
  | unary _ _ _ => False
  | _ => True

variable {catalog : Catalog} {image : DataType → DataType} {made : Parameter → Parameter}
  {sent : List Parameter}

theorem receivedMethod?_agree {type : DataType} {operator : BinaryOperator} {left right : Expr}
    {method handle : Option Method} {conversion : Option Expr}
    (kept : Kept catalog image (binary operator type left right method conversion))
    (received : catalog.receivedMethod? image method = .ok handle) :
    Method.Agree? method handle := by
  cases method with
  | none =>
    cases received
    rfl
  | some method =>
    rw [Catalog.receivedMethod?] at received
    obtain ⟨found, methodReceived, received⟩ := bind_eq_ok received
    cases received
    exact ⟨found, rfl, kept method rfl found methodReceived⟩

mutual

/-- An expression whose references stay where they are computes what it computed, if its nodes
hold what they held. -/
theorem similar_received (joins : Joins image sent made) : ∀ {expression result : Expr},
    expression.received catalog image made = .ok result → ∀ {enclosing : Enclosing} {path : Address},
      (∀ node ∈ expression.nodes, Kept catalog image node) →
      (∀ parameter ∈ expression.parameters, parameter ∈ sent) →
      (∀ entry ∈ enclosing, entry.1 ∈ sent) → enclosing.Placed path →
      scopingIn Parameter.namesake expression enclosing path =
        scopingIn Parameter.sameAs expression enclosing path →
        Similar (enclosing.pairs made) expression result
  | .lambda type parameters body name tailCall, result, succeeds, enclosing, path, kept,
      members, within, placed, uncaptured => by
    obtain ⟨inner, bodyReceived, rfl⟩ := received_lambda succeeds
    rw [nodes, List.forall_mem_cons, List.forall_mem_append] at kept
    rw [parameters_lambda, List.forall_mem_append] at members
    rw [scopingIn, scopingIn] at uncaptured
    refine ⟨_, _, inner, _, _, rfl, (List.length_map made).symm, ?_⟩
    rw [← Enclosing.pairs_declare made path parameters 0]
    refine similar_received joins bodyReceived kept.2.1 members.1 (fun entry member => ?_)
      (placed.declare parameters 0) uncaptured
    rcases Enclosing.mem_declare member with declared | outer
    · exact members.2 _ declared
    · exact within entry outer
  | .parameter referenced, result, succeeds, enclosing, path, _, members, within, placed,
      uncaptured => by
    cases received_parameter succeeds
    rw [parameters_parameter, List.forall_mem_singleton] at members
    rw [scopingIn, scopingIn] at uncaptured
    refine ⟨_, rfl, ?_, (joins.names referenced members).symm⟩
    refine Enclosing.sameBinder_of_uncaptured joins placed.apart within members ?_
    exact congrArg Prod.snd (List.head_eq_of_cons_eq uncaptured)
  | .binary operator type left right method conversion, result, succeeds, enclosing, path, kept,
      members, within, placed, uncaptured => by
    obtain ⟨first, second, handle, converter, leftReceived, rightReceived, methodReceived,
      conversionReceived, rfl⟩ := received_binary succeeds
    rw [nodes, List.forall_mem_cons, List.forall_mem_append, List.forall_mem_append] at kept
    rw [parameters_binary, List.forall_mem_append, List.forall_mem_append] at members
    rw [scopingIn, scopingIn] at uncaptured
    obtain ⟨operands, conversions⟩ := List.append_inj' uncaptured (length_scopingOption _ _ _)
    obtain ⟨lefts, rights⟩ := List.append_inj' operands (length_scopingIn _ _ _)
    exact ⟨_, first, second, handle, converter, rfl,
      similar_received joins leftReceived kept.2.1.1 members.1.1 within (placed.below 0) lefts,
      similar_received joins rightReceived kept.2.1.2 members.1.2 within (placed.below 1) rights,
      receivedMethod?_agree kept.1 methodReceived,
      similar_receivedOption joins conversionReceived kept.2.2 members.2 within (placed.below 2)
        conversions⟩
  | .member target read, result, succeeds, enclosing, path, kept, members, within, placed,
      uncaptured => by
    obtain ⟨inner, handle, targetReceived, readReceived, rfl⟩ := received_member succeeds
    rw [nodes, List.forall_mem_cons] at kept
    rw [parameters_member] at members
    rw [scopingIn, scopingIn] at uncaptured
    exact ⟨inner, handle, rfl, similar_received joins targetReceived kept.2 members within
      (placed.below 0) uncaptured, (kept.1 handle readReceived).1⟩
  | .constant value type, result, succeeds, enclosing, path, kept, _, _, _, _ => by
    obtain ⟨content, valueReceived, rfl⟩ := received_constant succeeds
    rw [nodes, List.forall_mem_singleton] at kept
    rw [kept content valueReceived]
    exact ⟨_, rfl⟩
  | .call target method arguments, result, succeeds, enclosing, path, kept, members, within,
      placed, uncaptured => by
    obtain ⟨inner, handle, others, targetReceived, methodReceived, argumentsReceived, rfl⟩ :=
      received_call succeeds
    rw [nodes, List.forall_mem_cons, List.forall_mem_append] at kept
    rw [parameters_call, List.forall_mem_append] at members
    rw [scopingIn, scopingIn] at uncaptured
    obtain ⟨targets, rests⟩ := List.append_inj uncaptured (length_scopingOption _ _ _)
    exact ⟨inner, handle, others, rfl,
      similar_receivedOption joins targetReceived kept.2.1 members.1 within (placed.below 0)
        targets,
      (kept.1 handle methodReceived).1,
      similar_receivedAll joins argumentsReceived kept.2.2 members.2 within placed rests⟩
  | .construct constructor arguments, result, succeeds, enclosing, path, kept, members, within,
      placed, uncaptured => by
    obtain ⟨handle, others, constructorReceived, argumentsReceived, rfl⟩ :=
      received_construct succeeds
    rw [nodes, List.forall_mem_cons] at kept
    rw [parameters_construct] at members
    rw [scopingIn, scopingIn] at uncaptured
    exact ⟨handle, others, rfl, (kept.1 handle constructorReceived).1,
      similar_receivedAll joins argumentsReceived kept.2 members within placed uncaptured⟩
  | .arrayInit type elements, result, succeeds, enclosing, path, kept, members, within, placed,
      uncaptured => by
    obtain ⟨others, elementsReceived, rfl⟩ := received_arrayInit succeeds
    rw [nodes, List.forall_mem_cons] at kept
    rw [parameters_arrayInit] at members
    rw [scopingIn, scopingIn] at uncaptured
    exact ⟨_, others, rfl,
      similar_receivedAll joins elementsReceived kept.2 members within placed uncaptured⟩
  | .unary operator type operand, result, succeeds, enclosing, path, kept, _, _, _, _ => by
    rw [nodes, List.forall_mem_cons] at kept
    exact kept.1.elim

theorem similar_receivedAll (joins : Joins image sent made) : ∀ {expressions results : List Expr},
    receivedAll catalog image made expressions = .ok results →
      ∀ {enclosing : Enclosing} {path : Address} {place : Nat},
      (∀ node ∈ nodesAll expressions, Kept catalog image node) →
      (∀ parameter ∈ parametersAll expressions, parameter ∈ sent) →
      (∀ entry ∈ enclosing, entry.1 ∈ sent) → enclosing.Placed path →
      scopingAll Parameter.namesake expressions enclosing path place =
        scopingAll Parameter.sameAs expressions enclosing path place →
        SimilarAll (enclosing.pairs made) expressions results
  | [], results, succeeds, enclosing, path, place, _, _, _, _, _ => receivedAll_nil succeeds
  | first :: rest, results, succeeds, enclosing, path, place, kept, members, within, placed,
      uncaptured => by
    obtain ⟨head, tail, firstReceived, restReceived, rfl⟩ := receivedAll_cons succeeds
    rw [nodesAll, List.forall_mem_append] at kept
    rw [parametersAll_cons, List.forall_mem_append] at members
    rw [scopingAll, scopingAll] at uncaptured
    obtain ⟨firsts, rests⟩ := List.append_inj uncaptured (length_scopingIn _ _ _)
    exact ⟨head, tail, rfl,
      similar_received joins firstReceived kept.1 members.1 within (placed.below place) firsts,
      similar_receivedAll joins restReceived kept.2 members.2 within placed rests⟩

theorem similar_receivedOption (joins : Joins image sent made) : ∀ {expression result : Option Expr},
    receivedOption catalog image made expression = .ok result →
      ∀ {enclosing : Enclosing} {path : Address},
      (∀ node ∈ nodesOption expression, Kept catalog image node) →
      (∀ parameter ∈ parametersOption expression, parameter ∈ sent) →
      (∀ entry ∈ enclosing, entry.1 ∈ sent) → enclosing.Placed path →
      scopingOption Parameter.namesake expression enclosing path =
        scopingOption Parameter.sameAs expression enclosing path →
        SimilarOption (enclosing.pairs made) expression result
  | none, result, succeeds, enclosing, path, _, _, _, _, _ => receivedOption_none succeeds
  | some expression, result, succeeds, enclosing, path, kept, members, within, placed,
      uncaptured => by
    obtain ⟨inner, innerReceived, rfl⟩ := receivedOption_some succeeds
    rw [scopingOption, scopingOption] at uncaptured
    exact ⟨inner, rfl, similar_received joins innerReceived kept members within placed uncaptured⟩

end

/-- A received expression has the image of the type of the sent one. -/
theorem resultType_received (joins : Joins image sent made) : ∀ {expression result : Expr},
    expression.received catalog image made = .ok result → Kept catalog image expression →
      (∀ parameter ∈ expression.parameters, parameter ∈ sent) →
        result.resultType = image expression.resultType
  | .lambda type parameters body name tailCall, result, succeeds, _, _ => by
    obtain ⟨inner, _, rfl⟩ := received_lambda succeeds
    rfl
  | .parameter referenced, result, succeeds, _, members => by
    cases received_parameter succeeds
    rw [parameters_parameter, List.forall_mem_singleton] at members
    exact joins.types referenced members
  | .binary operator type left right method conversion, result, succeeds, _, _ => by
    obtain ⟨_, _, _, _, _, _, _, _, rfl⟩ := received_binary succeeds
    rfl
  | .member target read, result, succeeds, kept, _ => by
    obtain ⟨_, handle, _, readReceived, rfl⟩ := received_member succeeds
    exact (kept handle readReceived).2
  | .constant value type, result, succeeds, _, _ => by
    obtain ⟨_, _, rfl⟩ := received_constant succeeds
    rfl
  | .call target method arguments, result, succeeds, kept, _ => by
    obtain ⟨_, handle, _, _, methodReceived, _, rfl⟩ := received_call succeeds
    exact (kept handle methodReceived).2
  | .construct constructor arguments, result, succeeds, kept, _ => by
    obtain ⟨handle, _, constructorReceived, _, rfl⟩ := received_construct succeeds
    exact (kept handle constructorReceived).2
  | .arrayInit type elements, result, succeeds, _, _ => by
    obtain ⟨_, _, rfl⟩ := received_arrayInit succeeds
    rfl
  | .unary operator type operand, result, succeeds, kept, _ => kept.elim

end Expr

/-! ### Predicates that come through -/

namespace Predicate

/-- An expression that is compiled to a predicate is a lambda with one parameter and a truth value
for a body. -/
theorem ofExpr_eq_ok {limit : Nat} {expression : Expr} {predicate : Predicate}
    (compiled : ofExpr limit expression = .ok predicate) :
    ∃ type parameter body name tailCall,
      expression = .lambda type [parameter] body name tailCall ∧ body.resultType.isBool = true ∧
        predicate.lambda = ⟨type, [parameter], body, limit⟩ ∧ predicate.parameter = parameter := by
  unfold ofExpr at compiled
  obtain ⟨lambda, shaped, compiled⟩ := bind_eq_ok compiled
  cases expression with
  | lambda type parameters body name tailCall =>
    cases shaped
    dsimp only at compiled
    split at compiled
    · split at compiled
      · rename_i parameter _ returns
        cases compiled
        exact ⟨type, parameter, body, name, tailCall, rfl, returns, rfl, rfl⟩
      · cases compiled
    · cases compiled
  | _ => cases shaped

/-- A lambda with one parameter and a truth value for a body is compiled to a predicate. -/
theorem exists_ofExpr (limit : Nat) (type : DataType) (parameter : Parameter) {body : Expr}
    (returns : body.resultType.isBool = true) (name : Option String) (tailCall : Bool) :
    ∃ predicate, ofExpr limit (.lambda type [parameter] body name tailCall) = .ok predicate ∧
      predicate.lambda = ⟨type, [parameter], body, limit⟩ ∧ predicate.parameter = parameter := by
  refine ⟨⟨⟨type, [parameter], body, limit⟩, parameter, rfl, returns⟩, ?_, rfl, rfl⟩
  show (if returns : body.resultType.isBool = true then _ else _) = _
  rw [dif_pos returns]

/-- What is received for a predicate is one as well. If references stay where they are, it answers
like the one that was sent. -/
theorem call_received {catalog : Catalog} {image : DataType → DataType}
    {made : Parameter → Parameter} {expression rebuilt : Expr}
    (joins : Joins image expression.parameters made)
    (received : expression.received catalog image made = .ok rebuilt)
    (kept : ∀ node ∈ expression.nodes, node.Kept catalog image)
    (bools : ∀ type : DataType, type.isBool = true → (image type).isBool = true)
    {limit : Nat} {before : Predicate} (compiled : ofExpr limit expression = .ok before) :
    ∃ after, ofExpr limit rebuilt = .ok after ∧
      (expression.scoping Parameter.namesake = expression.scoping Parameter.sameAs →
        ∀ budget input address, after.call budget input address = before.call budget input address) := by
  obtain ⟨type, parameter, body, name, tailCall, rfl, returns, lambdaBefore, parameterBefore⟩ :=
    ofExpr_eq_ok compiled
  have whole := received
  obtain ⟨inner, bodyReceived, rfl⟩ := Expr.received_lambda received
  have members : ∀ referenced ∈ body.parameters, referenced ∈
      (Expr.lambda type [parameter] body name tailCall).parameters := by
    intro referenced member
    rw [Expr.parameters_lambda]
    exact List.mem_append_left _ member
  have bodyKept : body.Kept catalog image :=
    kept body (List.mem_cons_of_mem _ (List.mem_append_left _ (Expr.mem_nodes_self body)))
  have returned : inner.resultType.isBool = true := by
    rw [Expr.resultType_received joins bodyReceived bodyKept members]
    exact bools _ returns
  obtain ⟨after, compiledAfter, lambdaAfter, parameterAfter⟩ :=
    exists_ofExpr limit (image type) (made parameter) returned name tailCall
  refine ⟨after, compiledAfter, fun uncaptured budget input address => ?_⟩
  have placed : Enclosing.Placed [] [] := ⟨List.nodup_nil, fun _ member => nomatch member⟩
  obtain ⟨_, _, _, _, _, same, _, similar⟩ := Expr.similar_received joins whole kept
    (fun _ member => member) (fun _ (member : _ ∈ ([] : Enclosing)) => nomatch member) placed
    uncaptured
  cases same
  refine (Similar.call_eq ⟨?_, ?_⟩ budget input address).symm
  · rw [lambdaBefore, lambdaAfter]
  · rw [lambdaBefore, lambdaAfter, parameterBefore, parameterAfter]
    exact similar

end Predicate

end PredicateWire
