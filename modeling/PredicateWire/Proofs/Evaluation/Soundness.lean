/-
This file proves that expressions put together with builders evaluate as their types
say. Wherever the free parameters are bound to values of their types, evaluation comes
to an end with a value of the type of the expression, or it fails at run time or because
of its depth. It does not stop because something has a wrong type or cannot be found,
and it does not run on forever: from some budget of nested calls on, there is an
outcome.

Termination and types are proved together, in one predicate on expressions. Each kind of
node settles when its parts do, and functions carry the bindings that they need along
and answer calls from there, so that a lambda in an argument is no harder than a
constant. What builders check is turned into what a node needs by `Built.sound`. The
records of a library may take names of built-in types, but for the three whose members
are found by name; the last section shows what happens otherwise.
-/
import PredicateWire.Proofs.Evaluation.Invocation

namespace PredicateWire

open Value

/-! ### Bindings -/

/-- A parameter that a lambda declares is bound to its argument, any other one stays as it is. -/
theorem Bindings.get?_extend {parameters : List Parameter} {arguments : List Value}
    (lengths : parameters.length = arguments.length) (bindings : Bindings) (other : Parameter) :
    (∃ binding ∈ parameters.zip arguments, binding.1.sameAs other = true ∧
        (bindings.extend parameters arguments).get? other = some binding.2) ∨
      (parameters.all fun declared => !declared.sameAs other) = true ∧
        (bindings.extend parameters arguments).get? other = bindings.get? other := by
  unfold get? extend
  rw [List.find?_append]
  cases found : (parameters.zip arguments).reverse.find? fun binding => binding.1.sameAs other with
  | some binding =>
    have tested := List.find?_some found
    exact .inl ⟨binding, List.mem_reverse.mp (List.mem_of_find?_eq_some found), tested, rfl⟩
  | none =>
    refine .inr ⟨List.all_eq_true.mpr fun declared declares => ?_, rfl⟩
    rw [← List.map_fst_zip (Nat.le_of_eq lengths)] at declares
    obtain ⟨binding, bindingMember, rfl⟩ := List.mem_map.mp declares
    have differs := List.find?_eq_none.mp found binding (List.mem_reverse.mpr bindingMember)
    rwa [Bool.not_eq_true, ← Bool.not_eq_true'] at differs

/-- Parameters are bound to values of their types. -/
def Bindings.Fit (bindings : Bindings) (parameters : List Parameter) : Prop :=
  ∀ referenced ∈ parameters, ∃ value,
    bindings.get? referenced = some value ∧ Belongs referenced.type value

/-- What a lambda declares is bound to the arguments, and everything else stays as it is bound. One
variable must go by one handle in the body, since a reference by another handle to the same variable
would be given the type of that handle. -/
theorem Bindings.Fit.extend {bindings : Bindings} {parameters referenced : List Parameter}
    {arguments : List Value}
    (bound : bindings.Fit (referenced.filter fun other =>
      parameters.all fun declared => !declared.sameAs other))
    (given : List.Forall₂ Belongs (parameters.map Parameter.type) arguments)
    (handles : ∀ declared ∈ parameters, ∀ other ∈ referenced,
      declared.sameAs other = true → declared = other) :
    (bindings.extend parameters arguments).Fit referenced := by
  intro other member
  obtain ⟨lengths, paired⟩ := List.forall₂_iff_zip.mp (List.forall₂_map_left_iff.mp given)
  rcases get?_extend lengths bindings other with
    ⟨binding, bindingMember, tested, held⟩ | ⟨undeclared, kept⟩
  · have same := handles binding.1 (List.of_mem_zip bindingMember).1 other member tested
    exact ⟨binding.2, held, same ▸ paired bindingMember⟩
  · rw [kept]
    exact bound other (List.mem_filter.mpr ⟨member, undeclared⟩)

/-! ### Functions -/

/-- A function of several arguments answers calls when it does so for every first argument. -/
theorem answers_cons {argument : DataType} {rest : List DataType}
    {call : List Value → Nat → Outcome Value} (more : rest ≠ [])
    (each : ∀ value, Belongs argument value → Answers rest fun values => call (value :: values)) :
    Answers (argument :: rest) call := by
  cases rest with
  | nil => exact absurd rfl more
  | cons => exact each

/-- What settles for all values of the types of the parameters answers calls. The list of types has
that of the result at its end, as the arguments of a function type have. -/
theorem answers_of_settles {types : List DataType} {result : DataType}
    {call : List Value → Nat → Outcome Value}
    (settles : ∀ values,
      List.Forall₂ Belongs types values → Settles (Belongs result) (call values)) :
    Answers (types ++ [result]) call := by
  induction types generalizing call with
  | nil => exact settles [] .nil
  | cons type rest inductionHypothesis =>
    refine answers_cons (List.append_ne_nil_of_right_ne_nil rest (List.cons_ne_nil _ _))
      fun value belongs => ?_
    exact inductionHypothesis fun values given => settles (value :: values) (.cons belongs given)

/-! ### Sound expressions -/

/-- Wherever the free parameters are bound to values of their types, the expression settles on a
value of its type. -/
def Expr.Sound (expression : Expr) : Prop :=
  ∀ (limit : Nat) {bindings : Bindings}, bindings.Fit expression.free →
    ∀ (depth : Nat) (address : Address), Settles (Belongs expression.resultType) fun budget =>
      expression.evaluateAt (Closure.callAt budget) limit bindings depth address

theorem settles_within {Content : Type} {wanted : Content → Prop} {run : Nat → Outcome Content}
    (settles : Settles wanted run) (limit depth : Nat) :
    Settles wanted fun budget =>
      if limit < depth then Outcome.fail (.depthExceeded limit) else run budget := by
  by_cases deep : limit < depth
  · simp only [if_pos deep]
    exact settles_of_lands (.inr rfl)
  · simp only [if_neg deep]
    exact settles

namespace Expr

/-- Several sound expressions settle on values of their types, one after another and from one budget
on that is enough for all of them. -/
theorem settles_evaluateAll {expressions : List Expr}
    (each : ∀ expression ∈ expressions, expression.Sound) (limit : Nat) {bindings : Bindings}
    (bound : bindings.Fit (freeAll expressions)) (depth : Nat) (address : Address) (place : Nat) :
    Settles (List.Forall₂ Belongs (expressions.map resultType)) fun budget =>
      evaluateAll (Closure.callAt budget) limit expressions bindings depth address place := by
  induction expressions generalizing place with
  | nil =>
    simp only [evaluateAll]
    exact settles_ok .nil
  | cons expression rest inductionHypothesis =>
    rw [List.forall_mem_cons] at each
    rw [freeAll] at bound
    simp only [evaluateAll]
    refine settles_bind (each.1 limit (fun referenced member =>
      bound referenced (List.mem_append_left _ member)) depth (address.operand place))
      fun value belongs => ?_
    refine settles_bind (inductionHypothesis each.2 (fun referenced member =>
      bound referenced (List.mem_append_right _ member)) (place + 1)) fun values others => ?_
    exact settles_ok (.cons belongs others)

/-- The calls that a step makes, for each budget. -/
abbrev callsAt (address : Address) (budget : Nat) : Caller :=
  AddressedCaller.within (Closure.callAt budget) address

/-- A reference settles on what its parameter is bound to. -/
theorem Sound.parameter (referenced : Parameter) : (Expr.parameter referenced).Sound := by
  intro limit bindings bound depth address
  rw [free] at bound
  obtain ⟨value, found, belongs⟩ := bound referenced (.head _)
  simp only [evaluateAt, found]
  exact settles_within (settles_ok belongs) limit depth

theorem Sound.constant {value : Value} {type : DataType} (belongs : Belongs type value) :
    (Expr.constant value type).Sound := by
  intro limit bindings bound depth address
  simp only [evaluateAt]
  exact settles_within (settles_ok belongs) limit depth

/-- A member settles when its target does and reading it does for values of the target's type. -/
theorem Sound.member {target : Expr} {read : Member} (source : target.Sound)
    (reads : ∀ {value : Value} (calls : Nat → Caller), Belongs target.resultType value →
      Settles (Belongs read.memberType) fun budget => read.read (calls budget) value) :
    (member target read).Sound := by
  intro limit bindings bound depth address
  rw [free] at bound
  simp only [evaluateAt]
  refine settles_within (settles_bind (source limit bound (depth + 1) (address.operand 0))
    fun value belongs => ?_) limit depth
  exact reads (callsAt address) belongs

/-- The value of a truth value is there. -/
theorem settles_truth {value : Value} (belongs : Belongs .bool value) :
    Settles (fun _ => True) fun _ => truth value := by
  obtain ⟨answer, rfl⟩ := exists_bool (belongs_primitive.mp belongs)
  exact settles_ok trivial

/-- What a logical operator answers with when it looks at its right operand is a truth value. -/
theorem settles_answer {run : Nat → Outcome Value} (operand : Settles (Belongs .bool) run) :
    Settles (Belongs .bool) fun budget => do
      let value ← run budget
      return .bool (← truth value) :=
  settles_bind operand fun _ belongs =>
    settles_bind (settles_truth belongs) fun _ _ => settles_ok rfl

/-- An operator without a method is sound when it is defined for the types of its operands. -/
theorem Sound.binary {operator : BinaryOperator} {type : DataType} {left right : Expr}
    (first : left.Sound) (second : right.Sound)
    (typed : operator.resultType left.resultType right.resultType = .ok type)
    (ordered : operator.isOrdering = true →
      left.resultType ≠ .double ∧ right.resultType ≠ .double) :
    (binary operator type left right none none).Sound := by
  intro limit bindings bound depth address
  rw [free, freeOption, List.append_nil] at bound
  have lefts := first limit (fun referenced member =>
    bound referenced (List.mem_append_left _ member)) (depth + 1) (address.operand 0)
  have rights := second limit (fun referenced member =>
    bound referenced (List.mem_append_right _ member)) (depth + 1) (address.operand 1)
  cases operator with
  | andAlso =>
    obtain ⟨leftTruth, rightTruth, rfl⟩ := BinaryOperator.truths_of_resultType (.inl rfl) typed
    rw [leftTruth] at lefts
    rw [rightTruth] at rights
    simp only [evaluateAt]
    refine settles_within (settles_bind lefts fun value belongs =>
      settles_bind (settles_truth belongs) fun holds _ => ?_) limit depth
    cases holds with
    | true => exact settles_answer rights
    | false => exact settles_ok rfl
  | orElse =>
    obtain ⟨leftTruth, rightTruth, rfl⟩ := BinaryOperator.truths_of_resultType (.inr rfl) typed
    rw [leftTruth] at lefts
    rw [rightTruth] at rights
    simp only [evaluateAt]
    refine settles_within (settles_bind lefts fun value belongs =>
      settles_bind (settles_truth belongs) fun holds _ => ?_) limit depth
    cases holds with
    | true => exact settles_ok rfl
    | false => exact settles_answer rights
  | coalesce =>
    simp only [evaluateAt]
    refine settles_within (settles_bind lefts fun value belongs => ?_) limit depth
    simp only [belongs.whole.isNull, Bool.false_eq_true, if_false]
    obtain rfl := BinaryOperator.eq_left_of_coalesce typed
    exact settles_ok belongs
  | _ =>
    simp only [evaluateAt]
    refine settles_within (settles_bind lefts fun value belongs => settles_bind rights
      fun other otherBelongs => ?_) limit depth
    exact settles_of_lands (lands_ofResult
      (BinaryOperator.computes_apply runtime_isPermitted typed ordered belongs otherBelongs))

/-- A unary operator is sound for operands of a type that it accepts. -/
theorem Sound.unary {operator : UnaryOperator} {operand : Expr} (part : operand.Sound)
    (accepted : operator.acceptsType operand.resultType = true) :
    (unary operator operand.resultType operand).Sound := by
  intro limit bindings bound depth address
  rw [free] at bound
  simp only [evaluateAt]
  refine settles_within (settles_bind (part limit bound (depth + 1) (address.operand 0))
    fun value belongs => ?_) limit depth
  exact settles_of_lands (lands_ofResult
    (UnaryOperator.computes_apply runtime_isPermitted accepted belongs))

/-- A constructor is sound for arguments of which it makes a value of its type. -/
theorem Sound.construct {constructor : Constructor} {arguments : List Expr}
    (parts : ∀ argument ∈ arguments, argument.Sound)
    (constructs : ∀ {values : List Value} (calls : Nat → Caller),
      List.Forall₂ Belongs (arguments.map resultType) values →
        Settles (Belongs constructor.declaringType) fun budget =>
          constructor.invoke (calls budget) values) :
    (construct constructor arguments).Sound := by
  intro limit bindings bound depth address
  rw [free] at bound
  simp only [evaluateAt]
  have given := settles_evaluateAll parts limit bound (depth + 1) address 0
  refine settles_within (settles_bind given fun values belong => ?_) limit depth
  exact constructs (callsAt address) belong

/-- An array is sound if the values of its elements belong to the type of its items. -/
theorem Sound.arrayInit {element : DataType} {elements : List Expr}
    (parts : ∀ item ∈ elements, item.Sound)
    (gathers : ∀ {values : List Value}, List.Forall₂ Belongs (elements.map resultType) values →
      ∀ value ∈ values, Belongs element value) :
    (arrayInit (.array element) elements).Sound := by
  intro limit bindings bound depth address
  rw [free] at bound
  simp only [evaluateAt]
  have given := settles_evaluateAll parts limit bound (depth + 1) address 0
  refine settles_within (settles_bind given fun values belong => ?_) limit depth
  exact settles_ok ⟨values, rfl, gathers belong⟩

theorem Sound.callStatic {method : Method} {arguments : List Expr}
    (parts : ∀ argument ∈ arguments, argument.Sound)
    (invokes : ∀ {values : List Value} (address : Address),
      List.Forall₂ Belongs (arguments.map resultType) values →
        Settles (Belongs method.returnType) fun budget =>
          method.invoke (callsAt address budget) none values) :
    (call none method arguments).Sound := by
  intro limit bindings bound depth address
  rw [free, freeOption, List.nil_append] at bound
  simp only [evaluateAt, evaluateTarget]
  have given := settles_evaluateAll parts limit bound (depth + 1) address 1
  refine settles_within (settles_bind given fun values belong => ?_) limit depth
  exact invokes address belong

/-- A call on a target is sound if the method settles for values of the types of target and
arguments. -/
theorem Sound.callOn {target : Expr} {method : Method} {arguments : List Expr}
    (source : target.Sound) (parts : ∀ argument ∈ arguments, argument.Sound)
    (invokes : ∀ {value : Value} {values : List Value} (calls : Nat → Caller),
      Belongs target.resultType value → List.Forall₂ Belongs (arguments.map resultType) values →
        Settles (Belongs method.returnType) fun budget =>
          method.invoke (calls budget) (some value) values) :
    (call (some target) method arguments).Sound := by
  intro limit bindings bound depth address
  rw [free, freeOption] at bound
  have targets := source limit (fun referenced member =>
    bound referenced (List.mem_append_left _ member)) (depth + 1) (address.operand 0)
  have given := settles_evaluateAll parts limit (fun referenced member =>
    bound referenced (List.mem_append_right _ member)) (depth + 1) address 1
  simp only [evaluateAt, evaluateTarget, bind_assoc, pure_bind]
  refine settles_within (settles_bind targets fun value belongs => settles_bind given
    fun values belong => ?_) limit depth
  exact invokes (callsAt address) belongs belong

/-- A lambda with a sound body yields a function of its type. It is there without an evaluation of
the body, and what has to be seen is that it answers calls, with the bindings that it carries. -/
theorem Sound.lambda {base : String} {parameters : List Parameter} {body : Expr}
    {name : Option String} {tailCall : Bool} (inner : body.Sound)
    (handles : ∀ declared ∈ parameters, ∀ other ∈ body.free,
      declared.sameAs other = true → declared = other) :
    (lambda (.generic base .function (parameters.map Parameter.type ++ [body.resultType]))
      parameters body name tailCall).Sound := by
  intro limit bindings bound depth address
  rw [free] at bound
  simp only [evaluateAt]
  refine settles_within (settles_ok ⟨_, rfl, fun caller => ?_⟩) limit depth
  refine answers_of_settles fun arguments given => settles_callAt ?_
  have arity : checkArity parameters arguments = .ok () :=
    if_pos (given.length_eq.symm.trans (List.length_map _))
  show Settles _ fun budget => checkArity parameters arguments >>= fun _ =>
    body.evaluateAt (Closure.callAt budget) limit (bindings.extend parameters arguments) 1 caller
  rw [arity]
  exact inner limit (bound.extend given handles) 1 caller

end Expr

/-! ### Built expressions -/

namespace Expr

/-- What the types of operands do not settle is left out of a node: no method implements the
operator, no conversion is applied, and no doubles are ordered. -/
def Covered : Expr → Prop
  | binary operator _ left right method conversion => method = none ∧ conversion = none ∧
      (operator.isOrdering = true → left.resultType ≠ .double ∧ right.resultType ≠ .double)
  | _ => True

/-- The types of an expression are closed and those that the library with records has under their
names, its constants belong to their types, and it refers to one variable by one handle. -/
structure Fits (specs : List RecordSpec) (expression : Expr) : Prop where
  covered : ∀ node ∈ expression.nodes, node.Covered
  types : ∀ type ∈ expression.types, (Catalog.withRecords specs).Denotes type
  constants : ∀ constant ∈ expression.constants, Belongs constant.2 constant.1
  handles : ∀ first ∈ expression.parameters, ∀ second ∈ expression.parameters,
    first.sameAs second = true → first = second

variable {specs : List RecordSpec}

/-- What holds of every node of an expression holds of every node of a part. -/
theorem Fits.part {expression part : Expr} (fits : expression.Fits specs)
    (within : part.nodes ⊆ expression.nodes) : part.Fits specs := by
  have parameters : part.parameters ⊆ expression.parameters := List.filterMap_subset _ within
  refine ⟨fun node member => fits.covered node (within member), fun type member => ?_,
    fun constant member => fits.constants constant (List.filterMap_subset _ within member),
    fun first firstMember second secondMember =>
      fits.handles first (parameters firstMember) second (parameters secondMember)⟩
  obtain ⟨node, nodeMember, own⟩ := List.mem_flatMap.mp member
  exact fits.types type (List.mem_flatMap.mpr ⟨node, within nodeMember, own⟩)

theorem Fits.parts {expression : Expr} {parts : List Expr} (fits : expression.Fits specs)
    (within : nodesAll parts ⊆ expression.nodes) : ∀ part ∈ parts, part.Fits specs :=
  fun part member => fits.part fun _ inside => within (mem_nodesAll.mpr ⟨part, member, inside⟩)

/-- The type of an expression is one of its types, so the library has it under its name. -/
theorem Fits.denotes {expression : Expr} (fits : expression.Fits specs) :
    (Catalog.withRecords specs).Denotes expression.resultType :=
  fits.types _ expression.resultType_mem_types

theorem Fits.denote_parameters {target : Option Expr} {method : Method} {arguments : List Expr}
    (fits : (call target method arguments).Fits specs) :
    ∀ type ∈ method.parameters, (Catalog.withRecords specs).Denotes type :=
  fun type member => fits.types type (by simp [Method.types, member])

/-- Values of the types of arguments belong to the types of the parameters that accept them. -/
theorem belong_of_fit {parameters : List DataType} {arguments : List Expr} {values : List Value}
    (accepted : argumentsFit parameters arguments = true)
    (denote : ∀ type ∈ parameters, (Catalog.withRecords specs).Denotes type)
    (fit : ∀ argument ∈ arguments, argument.Fits specs)
    (belong : List.Forall₂ Belongs (arguments.map resultType) values) :
    List.Forall₂ Belongs parameters values := by
  rw [argumentsFit, Bool.and_eq_true, beq_iff_eq, List.all_eq_true] at accepted
  have accepts : List.Forall₂ (fun parameter argument =>
      parameter.accepts (resultType argument) = true) parameters arguments :=
    List.forall₂_iff_zip.mpr ⟨accepted.1, fun member => accepted.2 _ member⟩
  clear accepted
  induction accepts generalizing values with
  | nil =>
    cases belong
    exact .nil
  | cons first _ inductionHypothesis =>
    rw [List.forall_mem_cons] at denote fit
    cases belong with
    | cons belongs others =>
      exact .cons (belongs.of_accepts denote.1 fit.1.denotes first)
        (inductionHypothesis denote.2 fit.2 others)

/-- A member that is found for the type of a target can be read from the values of this type. -/
theorem settles_read {type : DataType} {name : String} {read : Member}
    (spared : ∀ spec ∈ specs, spec.name ∉ Library.memberHolders)
    (denotes : (Catalog.withRecords specs).Denotes type)
    (found : (Catalog.withRecords specs).member? type name = some read) {value : Value}
    (calls : Nat → Caller) (belongs : Belongs type value) :
    Settles (Belongs read.memberType) fun budget => read.read (calls budget) value := by
  rcases Catalog.member?_eq_some_iff.mp found with ⟨_, isField, rfl⟩ | ⟨-, _, isProperty, rfl⟩
  · exact settles_field isField belongs calls
  · obtain ⟨member, base, -⟩ := Catalog.property?_eq_some isProperty
    rw [(Catalog.methods_withRecords specs).2] at member
    exact Library.settles_property denotes spared member base belongs

/-- The type of a lambda is the function type of the types of its parameters and of its body. -/
theorem exists_functionType {arity : Nat} {name : String} {types : List DataType} {type : DataType}
    (named : DataType.functionName? arity = some name)
    (made : genericType (Catalog.withRecords specs) name types = .ok type) :
    type = .generic name .function types := by
  unfold genericType at made
  split at made
  · obtain ⟨family, defined, rfl⟩ := Catalog.generic_of_instantiate ‹_› made
    have functions : ∀ definition ∈ Library.definitions, definition.1 = "sys.Func`1" ∨
        definition.1 = "sys.Func`2" ∨ definition.1 = "sys.Func`3" →
          definition.2.1 = .function := by decide
    have plain : name = "sys.Func`1" ∨ name = "sys.Func`2" ∨ name = "sys.Func`3" := by
      unfold DataType.functionName? at named
      split at named <;> cases named <;> decide
    obtain rfl : family = .function := functions _ defined plain
    rfl
  · cases made

/-- Every expression that builders put together is sound. The induction follows the builders, and
each builder has checked what the rule for its node asks for. -/
theorem Built.sound (plain : ∀ spec ∈ specs, spec.IsPlain)
    (spared : ∀ spec ∈ specs, spec.name ∉ Library.memberHolders) {expression : Expr}
    (built : Built (Catalog.withRecords specs) expression) (fits : expression.Fits specs) :
    expression.Sound := by
  have library : (Catalog.withRecords specs).methods = Catalog.standard.methods :=
    Catalog.methods_withRecords_of_plain fun spec member => (plain spec member).methods
  induction built with
  | parameter referenced => exact .parameter referenced
  | constant value type => exact .constant (fits.constants (value, type) (.head _))
  | member source made inductionHypothesis =>
    obtain ⟨read, found, rfl⟩ := memberOf_eq_ok made
    have target := fits.part (List.subset_cons_self _ _)
    exact (inductionHypothesis target).member fun calls belongs =>
      settles_read spared target.denotes found calls belongs
  | callOn source parts made sourceHypothesis partsHypothesis =>
    obtain ⟨definition, member, base, _, own, _, accepted, rfl⟩ := callOn_eq_ok made
    rw [library] at member
    have target := fits.part fun _ within => .tail _ (List.mem_append_left _ within)
    have each := fits.parts fun _ within => .tail _ (List.mem_append_right _ within)
    refine (sourceHypothesis target).callOn
      (fun argument member => partsHypothesis argument member (each argument member))
      fun calls belongs belong => ?_
    exact Library.settles_memberMethod target.denotes spared member own base belongs
      (belong_of_fit accepted fits.denote_parameters each belong)
  | callStatic parts made partsHypothesis =>
    obtain ⟨method, member, _, _, shared, plainMethod, _, rfl⟩ := callStatic_eq_ok made
    rw [library] at member
    cases plainMethod.symm.trans (Library.genericArity_of_static member shared)
  | callGeneric parts made partsHypothesis =>
    obtain ⟨definition, member, method, _, _, shared, makes, accepted, rfl⟩ :=
      callGeneric_eq_ok made
    rw [library] at member
    have each := fits.parts fun _ within => .tail _ (List.mem_append_right _ within)
    refine .callStatic
      (fun argument member => partsHypothesis argument member (each argument member))
      fun address belong => ?_
    exact Library.settles_operation (Library.operation_of_static member shared) makes
      (belong_of_fit accepted fits.denote_parameters each belong) address
  | new parts made partsHypothesis =>
    obtain ⟨constructor, member, _, accepted, rfl⟩ := new_eq_ok made
    obtain ⟨spec, specMember, names, namesMember, rfl⟩ :=
      Catalog.mem_constructors_withRecords _ member
    have each := fits.parts fun _ within => .tail _ within
    have denote : ∀ type ∈ (spec.positional names).parameters,
        (Catalog.withRecords specs).Denotes type := fun type member =>
      fits.types type (by simp [Constructor.types, member])
    refine .construct
      (fun argument member => partsHypothesis argument member (each argument member))
      fun calls belong => ?_
    exact (plain spec specMember).settles_positional namesMember
      (belong_of_fit accepted denote each belong) calls
  | @newArray element elements result parts made partsHypothesis =>
    obtain ⟨accepted, rfl⟩ := newArray_eq_ok made
    have each := fits.parts fun _ within => .tail _ within
    refine .arrayInit (fun item member => partsHypothesis item member (each item member))
      fun belong value member => ?_
    have denotes : (Catalog.withRecords specs).Denotes element :=
      fits.types _ (by simp [DataType.element?])
    obtain ⟨lengths, paired⟩ := List.forall₂_iff_zip.mp (List.forall₂_map_left_iff.mp belong)
    rw [← List.map_snd_zip (Nat.le_of_eq lengths.symm)] at member
    obtain ⟨⟨item, _⟩, pairMember, rfl⟩ := List.mem_map.mp member
    have itemMember := (List.of_mem_zip pairMember).1
    exact (paired pairMember).of_accepts denotes (each item itemMember).denotes
      (accepted item itemMember)
  | binary first second made firstHypothesis secondHypothesis =>
    obtain ⟨type, typed, rfl⟩ := binaryOf_eq_ok made
    obtain ⟨-, -, ordered⟩ := fits.covered _ (.head _)
    have left := fits.part fun _ within =>
      .tail _ (List.mem_append_left _ (List.mem_append_left _ within))
    have right := fits.part fun _ within =>
      .tail _ (List.mem_append_left _ (List.mem_append_right _ within))
    exact (firstHypothesis left).binary (secondHypothesis right) typed ordered
  | binaryWith first second offers made firstHypothesis secondHypothesis =>
    obtain ⟨_, _, rfl⟩ := binaryWith_eq_ok made
    obtain ⟨none, -⟩ := fits.covered _ (.head _)
    cases none
  | coalesce first second third made firstHypothesis secondHypothesis thirdHypothesis =>
    obtain ⟨type, rfl, shape⟩ := coalesceOf_eq_ok made
    obtain ⟨-, rfl, ordered⟩ := fits.covered _ (.head _)
    have typed := shape.resolve_right (by rintro ⟨_, _, _, _, _, given, _⟩; cases given)
    have left := fits.part fun _ within =>
      .tail _ (List.mem_append_left _ (List.mem_append_left _ within))
    have right := fits.part fun _ within =>
      .tail _ (List.mem_append_left _ (List.mem_append_right _ within))
    exact (firstHypothesis left).binary (secondHypothesis right) typed.2 ordered
  | unary part made inductionHypothesis =>
    obtain ⟨accepted, rfl⟩ := unaryOf_eq_ok made
    exact (inductionHypothesis (fits.part (List.subset_cons_self _ _))).unary accepted
  | lambda inner made inductionHypothesis =>
    obtain ⟨name, type, named, typed, rfl⟩ := lambdaOf_eq_ok made
    obtain rfl := exists_functionType named typed
    have body := fits.part fun _ within => .tail _ (List.mem_append_left _ within)
    refine (inductionHypothesis body).lambda fun declared declares other member => ?_
    refine fits.handles declared ?_ other ?_
    · rw [parameters_lambda]
      exact List.mem_append_right _ declares
    · rw [parameters_lambda]
      exact List.mem_append_left _ (free_subset _ member)

/-- What builders put together evaluates as its type says. The records have fields with names of
their own, constructors for all fields and no methods, and none of them takes the name of texts,
lists or dictionaries. Where the free parameters are bound to values of their types, evaluation
comes, from some budget of nested calls on, to a value of the type of the expression without null,
or it fails at run time or because of its depth. -/
theorem evaluate_sound (plain : ∀ spec ∈ specs, spec.IsPlain)
    (spared : ∀ spec ∈ specs, spec.name ∉ Library.memberHolders) {expression : Expr}
    (built : Built (Catalog.withRecords specs) expression) (fits : expression.Fits specs)
    {bindings : Bindings} (bound : bindings.Fit expression.free) (limit : Nat) (address : Address) :
    Settles (fun value => value.Whole ∧ value.Belongs expression.resultType) fun budget =>
      expression.evaluate budget limit bindings address :=
  (built.sound plain spared fits limit bound 0 address).weaken fun _ belongs =>
    ⟨belongs.whole, belongs⟩

end Expr

/-! ### A search in a record -/

/-- A record of several counts. -/
def RecordSpec.tally : RecordSpec :=
  ⟨"Tally", [⟨"Counts", .array .int32, true⟩], [["Counts"]], []⟩

/-- Tallies. -/
def Parameter.tally : Parameter :=
  ⟨⟨0, 0⟩, "tally", RecordSpec.tally.type, false⟩

/-- Counts. -/
def Parameter.count : Parameter :=
  ⟨⟨0, 1⟩, "count", .int32, false⟩

namespace Expr

/-- The type of predicates on counts. -/
def countPredicate : DataType := .generic "sys.Func`2" .function [.int32, .bool]

/-- The type of sequences of counts. -/
def countSequence : DataType := .generic DataType.sequenceName .sequence [.int32]

/-- The counts of a tally. -/
def tallyCounts : Expr :=
  member (parameter .tally) ⟨RecordSpec.tally.type, "Counts", .array .int32, .field true⟩

/-- A count is below a bound. -/
def isBelow (bound : Int32) : Expr :=
  lambda countPredicate [.count]
    (binary .lessThan .bool (parameter .count) (int32 bound) none none) none false

/-- One of the counts of a tally is below a bound. -/
def anyBelow (bound : Int32) : Expr :=
  call none ⟨Library.enumerable, "Any", [countSequence, countPredicate], .bool, true, 1, [.int32],
    .sequenceAnyWhere⟩ [tallyCounts, isBelow bound]

theorem built_anyBelow (bound : Int32) :
    Built (Catalog.withRecords [RecordSpec.tally]) (anyBelow bound) := by
  have counts : memberOf (Catalog.withRecords [RecordSpec.tally]) (parameter .tally) "Counts" =
      .ok tallyCounts := rfl
  have compared : binaryOf .lessThan (parameter .count) (int32 bound) = .ok _ := rfl
  have test : lambdaOf (Catalog.withRecords [RecordSpec.tally])
      (binary .lessThan .bool (parameter .count) (int32 bound) none none) [.count] =
        .ok (isBelow bound) := rfl
  have made : callGeneric (Catalog.withRecords [RecordSpec.tally]) DataType.enumerableName "Any"
      [.int32] [tallyCounts, isBelow bound] = .ok (anyBelow bound) := rfl
  exact .callGeneric (List.forall_mem_cons.mpr ⟨.member (.parameter _) counts,
    List.forall_mem_singleton.mpr
      (.lambda (.binary (.parameter _) (.constant _ _) compared) test)⟩) made

theorem denotes_of_tally {type : DataType} (listed : type ∈ [DataType.bool, .int32, .array .int32,
      RecordSpec.tally.type, Library.enumerable, countSequence, countPredicate]) :
    (Catalog.withRecords [RecordSpec.tally]).Denotes type := by
  have number : (Catalog.withRecords [RecordSpec.tally]).Denotes .int32 :=
    Catalog.denotes_of_findType? rfl rfl
  have truth : (Catalog.withRecords [RecordSpec.tally]).Denotes .bool :=
    Catalog.denotes_of_findType? rfl rfl
  simp only [List.mem_cons, List.not_mem_nil, or_false] at listed
  rcases listed with rfl | rfl | rfl | rfl | rfl | rfl | rfl
  · exact truth
  · exact number
  · exact number.array (.primitive _) rfl
  · exact Catalog.denotes_of_findType? rfl rfl
  · exact Catalog.denotes_of_findType? rfl rfl
  · exact Catalog.denotes_generic (by decide) rfl rfl
      (List.forall_mem_singleton.mpr (.primitive _)) (List.forall_mem_singleton.mpr number)
  · exact Catalog.denotes_generic (by decide) rfl rfl
      (List.forall_mem_cons.mpr ⟨.primitive _, List.forall_mem_singleton.mpr (.primitive _)⟩)
      (List.forall_mem_cons.mpr ⟨number, List.forall_mem_singleton.mpr truth⟩)

theorem fits_anyBelow (bound : Int32) : (anyBelow bound).Fits [RecordSpec.tally] where
  covered := by
    simp [anyBelow, tallyCounts, isBelow, int32, nodes, nodesAll, nodesOption, Covered, resultType,
      Parameter.count]
  types := by
    have listed : (anyBelow bound).types = [.bool, Library.enumerable, countSequence,
        countPredicate, .int32, .array .int32, RecordSpec.tally.type, RecordSpec.tally.type,
        countPredicate, .bool, .int32, .int32, .int32] := rfl
    rw [listed]
    exact fun type member => denotes_of_tally (by simp at member ⊢; tauto)
  constants := by
    have listed : (anyBelow bound).constants = [(.int32 bound, .int32)] := rfl
    rw [listed, List.forall_mem_singleton]
    exact rfl
  handles := by
    have listed : (anyBelow bound).parameters = [.tally, .count, .count] := rfl
    rw [listed]
    simp [Parameter.tally, Parameter.count, Parameter.sameAs]

/-- A search in a record comes to an end with a truth value. -/
theorem evaluate_sound_anyBelow :
    Settles (fun value => value.Whole ∧ value.Belongs .bool) fun budget =>
      (anyBelow 3).evaluate budget 48
        [(.tally, .record [("Counts", .array [.int32 7, .int32 2])])] [] := by
  have named : ∀ spec ∈ [RecordSpec.tally], spec.name ∉ Library.memberHolders := by decide
  have plain : RecordSpec.tally.IsPlain :=
    ⟨List.nodup_singleton _, List.forall_mem_singleton.mpr (.refl _), rfl⟩
  have numbers : Belongs (.array .int32) (.array [.int32 7, .int32 2]) :=
    ⟨_, rfl, List.forall_mem_cons.mpr ⟨rfl, List.forall_mem_singleton.mpr rfl⟩⟩
  have record : Belongs RecordSpec.tally.type (.record [("Counts", .array [.int32 7, .int32 2])]) :=
    ⟨_, rfl, List.pairwise_singleton _ _, List.forall_mem_singleton.mpr ⟨_, .head _, rfl⟩,
      ⟨_, rfl, numbers⟩, trivial⟩
  exact evaluate_sound (List.forall_mem_singleton.mpr plain) named (built_anyBelow 3)
    (fits_anyBelow 3) (List.forall_mem_singleton.mpr ⟨_, rfl, record⟩) 48 []

end Expr

/-! ### A record that takes the name of texts -/

/-- A record without fields that takes the name of texts, and the place of their type. -/
def RecordSpec.pseudoText : RecordSpec :=
  ⟨Primitive.string.typeName, [], [[]], []⟩

/-- Records that go by the name of texts. -/
def Parameter.pseudoText : Parameter :=
  ⟨⟨0, 0⟩, "text", RecordSpec.pseudoText.type, false⟩

namespace Expr

/-- The length of what goes by the name of texts. -/
def pseudoLength : Expr :=
  member (parameter .pseudoText)
    ⟨RecordSpec.pseudoText.type, "Length", .int32, .property .textLength⟩

/-- Texts leave their members to a record that takes their name, and the members refuse it. -/
theorem evaluate_pseudoLength :
    RecordSpec.pseudoText.IsPlain ∧
      Built (Catalog.withRecords [RecordSpec.pseudoText]) pseudoLength ∧
      pseudoLength.Fits [RecordSpec.pseudoText] ∧
      Bindings.Fit [(.pseudoText, .record [])] pseudoLength.free ∧
      ∀ budget address, pseudoLength.evaluate budget 48 [(.pseudoText, .record [])] address =
        Outcome.mismatch (.nonStringTarget "Length") := by
  have made : memberOf (Catalog.withRecords [RecordSpec.pseudoText]) (parameter .pseudoText)
      "Length" = .ok pseudoLength := rfl
  have record : Belongs RecordSpec.pseudoText.type (.record []) :=
    ⟨_, rfl, .nil, List.forall_mem_nil _, trivial⟩
  have denotes : ∀ type ∈ [DataType.int32, RecordSpec.pseudoText.type, RecordSpec.pseudoText.type],
      (Catalog.withRecords [RecordSpec.pseudoText]).Denotes type := by
    simp only [List.forall_mem_cons]
    exact ⟨Catalog.denotes_of_findType? rfl rfl, Catalog.denotes_of_findType? rfl rfl,
      Catalog.denotes_of_findType? rfl rfl, List.forall_mem_nil _⟩
  refine ⟨⟨.nil, List.forall_mem_singleton.mpr (.refl _), rfl⟩, .member (.parameter _) made,
    ⟨?_, denotes, List.forall_mem_nil _, ?_⟩, List.forall_mem_singleton.mpr ⟨_, rfl, record⟩,
    fun _ _ => rfl⟩
  · exact List.forall_mem_cons.mpr ⟨trivial, List.forall_mem_singleton.mpr trivial⟩
  · exact List.forall_mem_singleton.mpr (List.forall_mem_singleton.mpr fun _ => rfl)

end Expr

end PredicateWire
