/-
This file proves that similar expressions evaluate alike. Similar expressions are the
same but for the handles of their variables and for what no answer depends on. From
bindings that cannot be told apart they yield values that cannot be told apart, or they
stop for the same reason, whatever the budget and the limit of the depth are.

An expression and its evaluation call functions, and these carry expressions of their
own. A function is therefore alike to another when what it binds and its body are, and
the calls that bodies make are alike by induction on the budget: `Expr.evaluateAt_agree`
is the step, with the calls of the smaller budget as a hypothesis, and
`Closure.callAt_agree` the induction. For predicates it follows that similar ones give
the same answer for every input.
-/
import PredicateWire.Evaluation.Predicate
import PredicateWire.Proofs.Evaluation.Binary
import PredicateWire.Proofs.Evaluation.Bodies

namespace PredicateWire

open Value

/-- Two ways to call functions at addresses get alike values from alike functions. -/
def AddressedCaller.Agrees (left right : AddressedCaller) : Prop :=
  ∀ (address : Address) {first second : Closure} {arguments others : List Value},
    AlikeClosures first second → AlikeAll arguments others →
      Agree Alike (left address first arguments) (right address second others)

theorem AddressedCaller.Agrees.within {left right : AddressedCaller} (agrees : left.Agrees right)
    (address : Address) : (left.within address).Agrees (right.within address) :=
  fun number _ _ _ _ closures arguments => agrees (address.call number) closures arguments

/-! ### Bindings -/

namespace Bindings

variable {first second : Bindings}

/-- References that are bound in the same place have alike values. -/
theorem get?_alike (bindings : AlikeBindings first second) {left right : Parameter}
    (binder : (scope first second).SameBinder left right) :
    Option.Rel Alike (first.get? left) (second.get? right) := by
  induction first generalizing second with
  | nil =>
    cases bindings
    exact .none
  | cons binding rest inductionHypothesis =>
    obtain ⟨parameter, value⟩ := binding
    obtain ⟨counterpart, other, others, rfl, alike, rests⟩ := bindings
    unfold get? at inductionHypothesis ⊢
    rw [List.find?_cons, List.find?_cons]
    change if parameter.sameAs left then counterpart.sameAs right = true
      else counterpart.sameAs right = false ∧ (scope rest others).SameBinder left right at binder
    by_cases same : parameter.sameAs left = true
    · rw [if_pos same] at binder
      simp only [same, binder]
      exact .some alike
    · rw [if_neg same] at binder
      simp only [Bool.not_eq_true] at same
      simp only [same, binder.1]
      exact inductionHypothesis rests binder.2

/-- Bindings on top of others are alike when both parts are. -/
theorem append_alike {inner counterpart : Bindings} (inners : AlikeBindings inner counterpart)
    (outers : AlikeBindings first second) :
    AlikeBindings (inner ++ first) (counterpart ++ second) := by
  induction inner generalizing counterpart with
  | nil =>
    cases inners
    exact outers
  | cons binding rest inductionHypothesis =>
    obtain ⟨_, _, _, rfl, alike, rests⟩ := inners
    exact ⟨_, _, _, rfl, alike, inductionHypothesis rests⟩

theorem reverse_alike (bindings : AlikeBindings first second) :
    AlikeBindings first.reverse second.reverse := by
  induction first generalizing second with
  | nil =>
    cases bindings
    rfl
  | cons binding rest inductionHypothesis =>
    obtain ⟨_, _, _, rfl, alike, rests⟩ := bindings
    rw [List.reverse_cons, List.reverse_cons]
    exact append_alike (inductionHypothesis rests) ⟨_, _, _, rfl, alike, rfl⟩

/-- Parameters of the same number, bound to alike arguments, make alike bindings. The parameters
themselves may differ, for they are matched by their places. -/
theorem zip_alike {parameters others : List Parameter} (lengths : parameters.length = others.length)
    {arguments counterparts : List Value} (alike : AlikeAll arguments counterparts) :
    AlikeBindings (parameters.zip arguments) (others.zip counterparts) := by
  induction parameters generalizing others arguments counterparts with
  | nil =>
    cases List.length_eq_zero_iff.mp lengths.symm
    rfl
  | cons parameter rest inductionHypothesis =>
    obtain ⟨other, tail, rfl⟩ := List.exists_cons_of_length_eq_add_one lengths.symm
    cases arguments with
    | nil =>
      cases alike
      rfl
    | cons argument remaining =>
      obtain ⟨_, _, rfl, arguments, rests⟩ := alike
      exact ⟨_, _, _, rfl, arguments,
        inductionHypothesis (Nat.succ.inj lengths) rests⟩

/-- A lambda's parameters bind alike arguments on top of alike bindings. -/
theorem extend_alike (bindings : AlikeBindings first second) {parameters others : List Parameter}
    (lengths : parameters.length = others.length) {arguments counterparts : List Value}
    (alike : AlikeAll arguments counterparts) :
    AlikeBindings (first.extend parameters arguments) (second.extend others counterparts) :=
  append_alike (reverse_alike (zip_alike lengths alike)) bindings

/-- The scope inside a lambda whose parameters are all bound: those of the two lambdas are paired by
their places and stand in front of the pairs outside. -/
theorem scope_extend (first second : Bindings) {parameters others : List Parameter}
    (lengths : parameters.length = others.length) {arguments counterparts : List Value}
    (enough : arguments.length = parameters.length)
    (counterpartsEnough : counterparts.length = others.length) :
    scope (first.extend parameters arguments) (second.extend others counterparts) =
      (scope first second).declare parameters others := by
  unfold scope extend ScopePairs.declare
  rw [List.map_append, List.map_append, List.map_reverse, List.map_reverse,
    List.map_fst_zip (Nat.le_of_eq enough.symm),
    List.map_fst_zip (Nat.le_of_eq counterpartsEnough.symm),
    List.zip_append (by rw [List.length_reverse, List.length_reverse, lengths])]
  unfold List.zip
  rw [List.reverse_zipWith lengths]

end Bindings

/-! ### Evaluation -/

/-- Alike values are the same truth value, or neither is one and the mismatch is the same. -/
theorem truth_agree {left right : Value} (alike : Alike left right) : truth left = truth right :=
  Superficial.eq ⟨fun _ _ => rfl, fun _ _ => rfl, fun _ _ => rfl, fun _ _ => rfl⟩ alike

theorem truth_result {left right : Value} (alike : Alike left right) :
    Agree Alike (do return .bool (← truth left)) (do return .bool (← truth right)) := by
  rw [truth_agree alike]
  cases truth right <;> rfl

/-- A function's arguments are checked alike, and afterwards there are enough of them, on both
sides. From there on parameters and arguments can be paired without leaving any out. -/
theorem checkArity_agree {parameters others : List Parameter}
    (lengths : parameters.length = others.length) {first second : List Value}
    (arguments : AlikeAll first second) :
    Agree (fun _ _ => first.length = parameters.length ∧ second.length = others.length)
      (checkArity parameters first) (checkArity others second) := by
  have same : first.length = second.length := (alikeAll_iff.mp arguments).length_eq
  unfold checkArity
  rw [← lengths, ← same]
  split
  · exact ⟨‹_›, ‹_›⟩
  · rfl

namespace BinaryOperator

/-- Whether an operator looks at both operands depends on whether it has a method, not on which
one. -/
theorem Eager.of_agree? {operator : BinaryOperator} {method handle : Option Method}
    (eager : operator.Eager method) (methods : Method.Agree? method handle) :
    operator.Eager handle := by
  cases method with
  | none =>
    cases methods
    exact eager
  | some method =>
    obtain ⟨handle, rfl, _⟩ := methods
    exact eager_of_method eager.coalesce handle

/-- An operator makes alike values of alike operands. Its methods need only agree on what they
run. -/
theorem combine_agree {call other : Caller} (calls : call.Agrees other)
    (operator : BinaryOperator) {method handle : Option Method}
    (methods : Method.Agree? method handle) {left right first second : Value}
    (lefts : Alike left first) (rights : Alike right second) :
    Agree Alike (operator.combine method call left right)
      (operator.combine handle other first second) := by
  cases method with
  | none =>
    cases methods
    exact (operator.apply_agree lefts rights).ofResult
  | some method =>
    obtain ⟨handle, rfl, agrees⟩ := methods
    exact Method.invoke_agree calls agrees .none ⟨_, _, rfl, lefts, _, _, rfl, rights, rfl⟩

end BinaryOperator

namespace Expr

/-- Similar expressions are of one kind, so a failure names the same kind of node. -/
theorem Similar.kind_eq {scope : ScopePairs} {left right : Expr}
    (similar : Similar scope left right) : left.kind = right.kind := by
  cases left with
  | lambda =>
    obtain ⟨_, _, _, _, _, rfl, _⟩ := similar
    rfl
  | binary =>
    obtain ⟨_, _, _, _, _, rfl, _⟩ := similar
    rfl
  | call =>
    obtain ⟨_, _, _, rfl, _⟩ := similar
    rfl
  | member | construct | arrayInit | unary =>
    obtain ⟨_, _, rfl, _⟩ := similar
    rfl
  | parameter =>
    obtain ⟨_, rfl, _⟩ := similar
    rfl
  | constant =>
    obtain ⟨_, rfl⟩ := similar
    rfl

variable {call other : AddressedCaller} {limit : Nat}

mutual

/-- Similar expressions evaluate alike, provided that the functions that are called in the course of
it are called alike. The scope of the bindings says which variable of one expression is which of the
other. -/
theorem evaluateAt_agree (calls : call.Agrees other) :
    ∀ {left right : Expr} {first second : Bindings} (depth : Nat) (address : Address),
      Similar (Bindings.scope first second) left right → AlikeBindings first second →
        Agree Alike (left.evaluateAt call limit first depth address)
          (right.evaluateAt other limit second depth address)
  | left, right, first, second, depth, address, similar, bindings => by
    by_cases deep : limit < depth
    · unfold evaluateAt
      rw [if_pos deep, if_pos deep]
      rfl
    · cases left with
      | lambda type parameters body name tailCall =>
        obtain ⟨_, others, inner, _, _, rfl, lengths, bodies⟩ := similar
        rw [evaluateAt, evaluateAt, if_neg deep, if_neg deep]
        exact ⟨_, rfl, _, _, _, rfl, lengths, bindings, bodies⟩
      | parameter referenced =>
        obtain ⟨counterpart, rfl, binder, names⟩ := similar
        rw [evaluateAt, evaluateAt, if_neg deep, if_neg deep]
        have found := Bindings.get?_alike bindings binder
        generalize first.get? referenced = value, second.get? counterpart = another at found
        cases found with
        | none => rw [names]; rfl
        | some alike => exact alike
      | binary operator type left right method conversion =>
        obtain ⟨_, source, counterpart, handle, converter, rfl, leftSimilar, rightSimilar,
          methods, conversions⟩ := similar
        have lefts := evaluateAt_agree calls (depth + 1) (address.operand 0) leftSimilar bindings
        have rights := evaluateAt_agree calls (depth + 1) (address.operand 1) rightSimilar bindings
        cases operator, method using BinaryOperator.evaluation_cases with
        | andAlso =>
          cases methods
          rw [evaluateAt, evaluateAt, if_neg deep, if_neg deep]
          refine lefts.bind fun _ _ alike => ?_
          rw [truth_agree alike]
          refine .bind (.of_eq rfl) fun holds _ same => ?_
          cases same
          cases holds with
          | false => rfl
          | true => exact rights.bind fun _ _ alike => truth_result alike
        | orElse =>
          cases methods
          rw [evaluateAt, evaluateAt, if_neg deep, if_neg deep]
          refine lefts.bind fun _ _ alike => ?_
          rw [truth_agree alike]
          refine .bind (.of_eq rfl) fun holds _ same => ?_
          cases same
          cases holds with
          | true => rfl
          | false => exact rights.bind fun _ _ alike => truth_result alike
        | coalesce method =>
          rw [evaluateAt, evaluateAt, if_neg deep, if_neg deep]
          refine lefts.bind fun value another alike => ?_
          rw [alike.isNull_eq]
          split
          · exact rights
          · cases conversion with
            | none =>
              cases conversions
              exact alike
            | some converted =>
              obtain ⟨converter, rfl, similar⟩ := conversions
              have kinds := similar.kind_eq
              cases converted with
              | lambda type parameters body name tailCall =>
                obtain ⟨_, others, inner, _, _, rfl, lengths, bodies⟩ := similar
                have arguments : AlikeAll [value] [another] := ⟨_, _, rfl, alike, rfl⟩
                refine (checkArity_agree lengths arguments).bind fun _ _ enough => ?_
                refine evaluateAt_agree calls _ _ ?_
                  (Bindings.extend_alike bindings lengths arguments)
                rwa [Bindings.scope_extend first second lengths enough.1 enough.2]
              | _ => cases converter <;> first | rfl | cases kinds
        | eager operator method eager =>
          rw [evaluateAt_eager eager, evaluateAt_eager (eager.of_agree? methods), if_neg deep,
            if_neg deep]
          exact lefts.bind fun _ _ lefts => rights.bind fun _ _ rights =>
            operator.combine_agree (calls.within address) methods lefts rights
      | member target read =>
        obtain ⟨source, handle, rfl, sources, agrees⟩ := similar
        rw [evaluateAt, evaluateAt, if_neg deep, if_neg deep]
        exact (evaluateAt_agree calls _ _ sources bindings).bind fun _ _ targets =>
          Member.read_agree (calls.within address) agrees targets
      | constant value type =>
        obtain ⟨_, rfl⟩ := similar
        rw [evaluateAt, evaluateAt, if_neg deep]
        exact alike_refl value
      | call target method arguments =>
        obtain ⟨source, handle, others, rfl, sources, agrees, rests⟩ := similar
        rw [evaluateAt, evaluateAt, if_neg deep, if_neg deep]
        refine (evaluateTarget_agree calls _ _ sources bindings).bind fun _ _ targets => ?_
        refine (evaluateAll_agree calls _ _ _ rests bindings).bind fun _ _ arguments => ?_
        exact Method.invoke_agree (calls.within address) agrees targets arguments
      | construct constructor arguments =>
        obtain ⟨handle, others, rfl, agrees, rests⟩ := similar
        rw [evaluateAt, evaluateAt, if_neg deep, if_neg deep]
        refine (evaluateAll_agree calls _ _ _ rests bindings).bind fun _ _ arguments => ?_
        exact Constructor.invoke_agree (calls.within address) agrees arguments
      | arrayInit type elements =>
        obtain ⟨_, others, rfl, rests⟩ := similar
        rw [evaluateAt, evaluateAt, if_neg deep, if_neg deep]
        exact (evaluateAll_agree calls _ _ _ rests bindings).bind fun _ _ items => ⟨_, rfl, items⟩
      | unary operator type operand =>
        obtain ⟨_, source, rfl, sources⟩ := similar
        rw [evaluateAt, evaluateAt, if_neg deep, if_neg deep]
        exact (evaluateAt_agree calls _ _ sources bindings).bind fun _ _ operands =>
          (operator.apply_agree operands).ofResult

theorem evaluateTarget_agree (calls : call.Agrees other) :
    ∀ {left right : Option Expr} {first second : Bindings} (depth : Nat) (address : Address),
      SimilarOption (Bindings.scope first second) left right → AlikeBindings first second →
        Agree (Option.Rel Alike) (evaluateTarget call limit left first depth address)
          (evaluateTarget other limit right second depth address)
  | none, _, _, _, _, _, similar, _ => by
    cases similar
    rw [evaluateTarget, evaluateTarget]
    exact .none
  | some expression, _, _, _, depth, address, similar, bindings => by
    obtain ⟨_, rfl, alike⟩ := similar
    rw [evaluateTarget, evaluateTarget]
    exact (evaluateAt_agree calls _ _ alike bindings).bind fun _ _ values => .some values

theorem evaluateAll_agree (calls : call.Agrees other) :
    ∀ {left right : List Expr} {first second : Bindings} (depth : Nat) (address : Address)
      (place : Nat), SimilarAll (Bindings.scope first second) left right →
      AlikeBindings first second →
        Agree AlikeAll (evaluateAll call limit left first depth address place)
          (evaluateAll other limit right second depth address place)
  | [], _, _, _, _, _, _, similar, _ => by
    cases similar
    rw [evaluateAll, evaluateAll]
    rfl
  | expression :: rest, _, _, _, depth, address, place, similar, bindings => by
    obtain ⟨_, _, rfl, alike, rests⟩ := similar
    rw [evaluateAll, evaluateAll]
    refine (evaluateAt_agree calls _ _ alike bindings).bind fun _ _ values => ?_
    refine (evaluateAll_agree calls _ _ _ rests bindings).bind fun _ _ others => ?_
    exact ⟨_, _, rfl, values, others⟩

end

end Expr

/-! ### Calls -/

/-- A lambda applied to alike arguments on top of alike bindings. The parameters need not have the
same handles, since the body of each refers to its own. -/
theorem applyLambda_agree {call other : AddressedCaller} (calls : call.Agrees other) (limit : Nat)
    {parameters others : List Parameter} (lengths : parameters.length = others.length)
    {body inner : Expr} {first second : Bindings} (bindings : AlikeBindings first second)
    (bodies : Expr.Similar ((Bindings.scope first second).declare parameters others) body inner)
    {arguments counterparts : List Value} (alike : AlikeAll arguments counterparts)
    (address : Address) :
    Agree Alike (applyLambda call limit parameters body first arguments address)
      (applyLambda other limit others inner second counterparts address) := by
  unfold applyLambda
  refine (checkArity_agree lengths alike).bind fun _ _ enough => ?_
  refine Expr.evaluateAt_agree calls _ _ ?_ (Bindings.extend_alike bindings lengths alike)
  rwa [Bindings.scope_extend first second lengths enough.1 enough.2]

/-- Calls of functions are alike under every budget: without any budget both are exhausted, and with
more of it the bodies evaluate alike by the calls of the budget before. -/
theorem Closure.callAt_agree (budget : Nat) :
    AddressedCaller.Agrees (Closure.callAt budget) (Closure.callAt budget) := by
  induction budget with
  | zero =>
    intro address first second arguments others closures alike
    rfl
  | succ budget inductionHypothesis =>
    intro address first second arguments others closures alike
    cases first with
    | mk origin parameters body bindings limit =>
      rw [AlikeClosures] at closures
      obtain ⟨counterparts, inner, outer, rfl, lengths, bound, bodies⟩ := closures
      exact applyLambda_agree inductionHypothesis limit lengths bound bodies alike address

/-! ### Predicates -/

namespace Predicate

/-- Two predicates run under one limit, and their bodies compute the same from their arguments. -/
structure Similar (left right : Predicate) : Prop where
  limit : left.lambda.limit = right.lambda.limit
  body : Expr.Similar [(left.parameter, right.parameter)] left.lambda.body right.lambda.body

/-- Similar predicates give the same answer for every input, or stop for the same reason. An answer
is a truth value, so that alike answers are equal. -/
theorem Similar.call_eq {left right : Predicate} (similar : Similar left right) (budget : Nat)
    (input : Value) (address : Address) :
    left.call budget input address = right.call budget input address := by
  have lengths : [left.parameter].length = [right.parameter].length := rfl
  have bindings : AlikeBindings [] [] := rfl
  have inputs : AlikeAll [input] [input] := ⟨_, _, rfl, alike_refl input, rfl⟩
  have results : Agree Alike (left.lambda.invoke budget [input] address)
      (right.lambda.invoke budget [input] address) := by
    unfold CompiledLambda.invoke
    rw [similar.limit, left.parameters_eq, right.parameters_eq]
    exact applyLambda_agree (Closure.callAt_agree budget) _ lengths bindings similar.body
      inputs address
  refine Agree.eq (results.bind fun answer another alike => .of_eq ?_)
  apply Superficial.eq _ alike
  exact ⟨fun _ _ => rfl, fun _ _ => rfl, fun _ _ => rfl, fun _ _ => rfl⟩

end Predicate

end PredicateWire
