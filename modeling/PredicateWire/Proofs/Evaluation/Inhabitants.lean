/-
This file proves that expressions over the library evaluate to inhabitants of their types,
null included. It says nothing about whether evaluation comes to an end: only that what it
yields inhabits the type of the expression, wherever the parameters are bound to inhabitants
of theirs. Each kind of node returns inhabitants when its parts do, and a function carries
the bindings along that it needs to do the same. No conversion may be applied, since its
parameter is not checked against its operand, and no method may implement an operator, since
one operator does not ask it.
-/
import PredicateWire.Proofs.Evaluation.OperatorRules
import PredicateWire.Proofs.Evaluation.Soundness

namespace PredicateWire

open Value

/-! ### What bodies return -/

/-- A method returns what its body returns, if it does not fail before. -/
theorem Method.returns_invoke {method : Method} {call : Caller} {target : Option Value}
    {arguments : List Value} {wanted : Value → Prop}
    (body : Returns wanted (method.body.run call target arguments)) :
    Returns wanted (method.invoke call target arguments) := by
  unfold invoke
  split
  · trivial
  · split
    · trivial
    · exact body

namespace Native

theorem returns_counted (count : Nat) : Returns (Inhabits .int32) (counted count) := by
  unfold counted
  split
  · exact .inr rfl
  · trivial

/-- The items that a body works on are those of the array that is given first. -/
theorem returns_itemsOf {method : String} {values : List Value} {wanted : Value → Prop}
    (each : ∀ {items rest}, values = .array items :: rest → ∀ item ∈ items, wanted item) :
    Returns (fun items => ∀ item ∈ items, wanted item) (itemsOf method values) := by
  unfold itemsOf
  split
  · exact each rfl
  · trivial
  · trivial
  · trivial

/-- The entries that a body works on are those of the map that is its target. -/
theorem returns_entriesOf {method : String} {target : Option Value}
    {wanted : Value × Value → Prop}
    (each : ∀ {entries}, target = some (.map entries) → ∀ entry ∈ entries, wanted entry) :
    Returns (fun entries => ∀ entry ∈ entries, wanted entry) (entriesOf method target) := by
  unfold entriesOf
  split
  · exact each rfl
  · trivial

/-- What is found at an end of a list is one of its items. -/
theorem returns_endOf {which : SequenceEnd} {items : List Value} {wanted : Value → Prop}
    (each : ∀ item ∈ items, wanted item) :
    Returns wanted (match endOf which items with
      | some item => .ok item
      | none => Outcome.fault (.emptySequence which.name)) := by
  split
  · exact each _ (mem_of_endOf ‹_›)
  · trivial

/-- What is found under a key is the content of one of the entries. -/
theorem returns_contentOf {entries : List (Value × Value)} {wanted : Value → Prop}
    (each : ∀ entry ∈ entries, wanted entry.2) (key : Value) :
    Returns wanted (match (Value.map entries).contentOf? key with
      | some content => .ok content
      | none => Outcome.fault (.keyNotFound key.text)) := by
  split
  · obtain ⟨entry, first, rfl⟩ := Option.map_eq_some_iff.mp ‹_›
    exact each entry (List.mem_of_find?_eq_some first)
  · trivial

end Native

/-- A result that is as wanted is so as an outcome of evaluation. -/
theorem returns_ofResult {Content : Type} {wanted : Content → Prop} {result : Result Content}
    (meets : Returns wanted result) : Returns wanted (Outcome.ofResult result) := by
  cases result with
  | ok content => exact meets
  | error error => trivial

/-! ### Arguments of types -/

namespace Value

variable {type fallback : DataType} {arguments : List DataType} {value : Value}

/-- The items of an array inhabit the first argument of its type, if this is not the top type. -/
theorem Inhabits.first {items : List Value} (inhabits : Inhabits type (.array items))
    (special : type.baseName ≠ DataType.objectName) :
    ∀ item ∈ items, FirstInhabits type.arguments item := by
  cases type with
  | object => exact absurd rfl special
  | array =>
    obtain ⟨_, same, each⟩ := inhabits.resolve_left nofun
    cases same
    exact each
  | generic name family arguments =>
    cases family with
    | sequence =>
      obtain ⟨_, same, each⟩ := inhabits.resolve_left nofun
      cases same
      exact each
    | map | function =>
      obtain ⟨_, same, _⟩ := inhabits.resolve_left nofun
      cases same
    | record => cases inhabits.resolve_left nofun
  | record =>
    obtain ⟨_, same, _⟩ := inhabits.resolve_left nofun
    cases same
  | primitive => cases inhabits.resolve_left nofun
  | holder => cases inhabits
  | parameter => cases inhabits

/-- The contents of a map inhabit the second argument of its type, if this is not the top
type. -/
theorem Inhabits.second {entries : List (Value × Value)} (inhabits : Inhabits type (.map entries))
    (special : type.baseName ≠ DataType.objectName) :
    ∀ entry ∈ entries, SecondInhabits type.arguments entry.2 := by
  cases type with
  | object => exact absurd rfl special
  | generic name family arguments =>
    cases family with
    | map =>
      obtain ⟨_, same, each⟩ := inhabits.resolve_left nofun
      cases same
      exact fun entry member => (each entry member).2
    | sequence | function =>
      obtain ⟨_, same, _⟩ := inhabits.resolve_left nofun
      cases same
    | record => cases inhabits.resolve_left nofun
  | array | record =>
    obtain ⟨_, same, _⟩ := inhabits.resolve_left nofun
    cases same
  | primitive => cases inhabits.resolve_left nofun
  | holder => cases inhabits
  | parameter => cases inhabits

/-- What inhabits the first of several types inhabits it under whatever fallback. -/
theorem FirstInhabits.getD (inhabits : FirstInhabits arguments value) :
    Inhabits (arguments.getD 0 fallback) value := by
  cases arguments with
  | nil => cases inhabits
  | cons => exact inhabits

/-- What inhabits the second of several types inhabits it under whatever fallback. -/
theorem SecondInhabits.getD (inhabits : SecondInhabits arguments value) :
    Inhabits (arguments.getD 1 fallback) value := by
  cases arguments with
  | nil => cases inhabits
  | cons _ rest =>
    show Inhabits (rest.getD 0 fallback) value
    exact FirstInhabits.getD inhabits

end Value

/-! ### The library -/

namespace Library

variable {definition method : Method} {type : DataType} {target : Value} {arguments : List Value}

/-- An operation on sequences returns values of the type of its result. -/
theorem returns_operation {types : List DataType} (member : definition ∈ operations)
    (made : definition.makeGeneric types = .ok method)
    (given : List.Forall₂ Inhabits method.parameters arguments) (call : Caller) :
    Returns (Inhabits method.returnType) (method.invoke call none arguments) := by
  obtain ⟨_, lengths, rfl⟩ := Method.makeGeneric_eq_ok.mp made
  rw [(shape_of_operation member).2] at lengths
  obtain ⟨element, rfl⟩ := List.length_eq_one_iff.mp lengths
  refine Method.returns_invoke ?_
  -- Only the ends of a sequence return what they are given.
  have items : ∀ {items rest}, arguments = .array items :: rest →
      List.Forall₂ Inhabits [.generic DataType.sequenceName .sequence [element]] arguments →
        ∀ item ∈ items, Inhabits element item := by
    rintro items rest rfl (_ | ⟨inhabits, _⟩)
    exact inhabits.first (show DataType.sequenceName ≠ DataType.objectName by decide)
  simp only [operations, List.mem_cons, List.not_mem_nil, or_false] at member
  rcases member with rfl | rfl | rfl | rfl | rfl | rfl
  · exact (meets_true _).bind fun _ _ => .inr rfl
  · exact (meets_true _).bind fun _ _ => .inr rfl
  · exact (meets_true _).bind fun _ _ => (meets_true _).bind fun _ _ =>
      (meets_true _).bind fun _ _ => .inr rfl
  · exact (Native.returns_itemsOf fun same => items same given).bind fun _ each =>
      Native.returns_endOf each
  · exact (Native.returns_itemsOf fun same => items same given).bind fun _ each =>
      Native.returns_endOf each
  · exact (meets_true _).bind fun _ _ => Native.returns_counted _

/-- A method of texts, lists or dictionaries, carried over to the type of its target, returns values
of the type of its result. -/
theorem returns_memberMethod (member : definition ∈ Catalog.standard.methods)
    (own : definition.isStatic = false)
    (named : definition.declaringType.baseName = type.baseName) (inhabits : Inhabits type target)
    (call : Caller) : Returns (Inhabits (definition.closeOver type).returnType)
      ((definition.closeOver type).invoke call (some target) arguments) := by
  refine Method.returns_invoke ?_
  rcases member_of_own member own with
    ⟨member, declared⟩ | ⟨member, declared⟩ | ⟨member, declared⟩ <;>
    rw [declared] at named
  · simp only [textMethods, List.mem_cons, List.not_mem_nil, or_false] at member
    rcases member with rfl | rfl | rfl | rfl | rfl
    · exact (meets_true _).bind fun _ _ => (meets_true _).bind fun _ _ => .inr rfl
    · exact (meets_true _).bind fun _ _ => (meets_true _).bind fun _ _ => .inr rfl
    · exact (meets_true _).bind fun _ _ => (meets_true _).bind fun _ _ => .inr rfl
    · exact (meets_true _).bind fun _ _ => .inr rfl
    · exact (meets_true _).bind fun _ _ => .inr rfl
  · have special : type.baseName ≠ DataType.objectName := named ▸ by decide
    simp only [listMethods, List.mem_cons, List.not_mem_nil, or_false] at member
    rcases member with rfl | rfl
    · exact (meets_true _).bind fun _ _ => .inr rfl
    · have items : Returns (fun items => ∀ item ∈ items, FirstInhabits type.arguments item)
          (Native.itemsOf "get_Item" [target]) := by
        refine Native.returns_itemsOf fun same => ?_
        cases same
        exact inhabits.first special
      refine items.bind fun items each => ?_
      split
      · exact returns_ofResult (BinaryOperator.meets_itemAt (fun _ => trivial)
          (fun item member => (each item member).getD) _)
      · trivial
  · have special : type.baseName ≠ DataType.objectName := named ▸ by decide
    simp only [dictionaryMethods, List.mem_cons, List.not_mem_nil, or_false] at member
    rcases member with rfl | rfl
    · have entries : Returns (fun entries => ∀ entry ∈ entries,
          SecondInhabits type.arguments entry.2) (Native.entriesOf "get_Item" (some target)) := by
        refine Native.returns_entriesOf fun same => ?_
        cases same
        exact inhabits.second special
      exact entries.bind fun entries each =>
        Native.returns_contentOf (fun entry member => (each entry member).getD) _
    · exact (meets_true _).bind fun _ _ => .inr rfl

/-- A property of texts, lists or dictionaries is a count. -/
theorem returns_property {property : Member} (member : property ∈ Catalog.standard.properties)
    (call : Caller) : Returns (Inhabits (property.closeOver type).memberType)
      ((property.closeOver type).read call target) := by
  have listed : Catalog.standard.properties = properties.reverse := rfl
  rw [listed, List.mem_reverse, properties] at member
  simp only [List.mem_cons, List.not_mem_nil, or_false] at member
  unfold Member.read
  split
  · trivial
  · rcases member with rfl | rfl | rfl <;>
      exact (meets_true _).bind fun _ _ => Native.returns_counted _

end Library

/-- A field of a record holds a value of its type. -/
theorem returns_field {type : DataType} {name : String} {field : Field DataType} {target : Value}
    (found : type.field? name = some field) (inhabits : Inhabits type target) (call : Caller) :
    Returns (Inhabits field.type) ((Member.ofField type field).read call target) := by
  cases type with
  | record _ fields _ =>
    rcases inhabits with rfl | ⟨contents, rfl, -, -, each⟩
    · trivial
    · obtain ⟨content, held, contentInhabits⟩ :=
        fieldsInhabit_iff.mp each field (DataType.field?_eq_some found).1
      show Returns (Inhabits field.type) (.ok ((Entries.get? contents field.name).getD .null))
      rw [held]
      exact contentInhabits
  | _ => cases found

/-- A member that is found for the type of a target returns values of its type. -/
theorem returns_read {type : DataType} {name : String} {read : Member} {target : Value}
    (found : Catalog.standard.member? type name = some read) (inhabits : Inhabits type target)
    (call : Caller) : Returns (Inhabits read.memberType) (read.read call target) := by
  rcases Catalog.member?_eq_some_iff.mp found with ⟨_, isField, rfl⟩ | ⟨-, _, isProperty, rfl⟩
  · exact returns_field isField inhabits call
  · exact Library.returns_property (Catalog.property?_eq_some isProperty).1 call

/-! ### Bindings and functions -/

/-- What parameters are bound to inhabits their types. -/
def Bindings.Inhabit (bindings : Bindings) (parameters : List Parameter) : Prop :=
  ∀ referenced ∈ parameters, ∀ value, bindings.get? referenced = some value →
    Inhabits referenced.type value

/-- What a lambda declares is bound to the arguments, and everything else stays as it is bound. -/
theorem Bindings.Inhabit.extend {bindings : Bindings} {parameters referenced : List Parameter}
    {arguments : List Value}
    (bound : bindings.Inhabit (referenced.filter fun other =>
      parameters.all fun declared => !declared.sameAs other))
    (given : List.Forall₂ Inhabits (parameters.map Parameter.type) arguments)
    (handles : ∀ declared ∈ parameters, ∀ other ∈ referenced,
      declared.sameAs other = true → declared = other) :
    (bindings.extend parameters arguments).Inhabit referenced := by
  intro other member value held
  obtain ⟨lengths, paired⟩ := List.forall₂_iff_zip.mp (List.forall₂_map_left_iff.mp given)
  rcases get?_extend lengths bindings other with
    ⟨binding, bindingMember, tested, found⟩ | ⟨undeclared, kept⟩
  · cases found.symm.trans held
    have same := handles binding.1 (List.of_mem_zip bindingMember).1 other member tested
    exact same ▸ paired bindingMember
  · exact bound other (List.mem_filter.mpr ⟨member, undeclared⟩) value (kept.symm.trans held)

/-- A function replies to calls if, for each inhabitant of its first parameter type, the rest of it
does. -/
theorem replies_cons {argument : DataType} {rest : List DataType}
    {call : List Value → Outcome Value} (more : rest ≠ [])
    (each : ∀ value, Inhabits argument value → Replies rest fun values => call (value :: values)) :
    Replies (argument :: rest) call := by
  cases rest with
  | nil => exact absurd rfl more
  | cons => exact each

/-- What returns inhabitants for all inhabitants of the types of the parameters replies to
calls. -/
theorem replies_of_returns {types : List DataType} {result : DataType}
    {call : List Value → Outcome Value}
    (returns : ∀ values, List.Forall₂ Inhabits types values →
      Returns (Inhabits result) (call values)) : Replies (types ++ [result]) call := by
  induction types generalizing call with
  | nil => exact returns [] .nil
  | cons type rest inductionHypothesis =>
    refine replies_cons (List.append_ne_nil_of_right_ne_nil rest (List.cons_ne_nil _ _))
      fun value inhabits => ?_
    exact inductionHypothesis fun values given => returns (value :: values) (.cons inhabits given)

/-! ### Expressions -/

/-- Wherever the free parameters are bound to inhabitants of their types, the expression returns
nothing but inhabitants of its own. -/
def Expr.Faithful (expression : Expr) : Prop :=
  ∀ (budget limit : Nat) {bindings : Bindings}, bindings.Inhabit expression.free →
    ∀ (depth : Nat) (address : Address), Returns (Inhabits expression.resultType)
      (expression.evaluateAt (Closure.callAt budget) limit bindings depth address)

/-- A depth that is refused returns nothing, so it may be left out of account. -/
theorem returns_within {Content : Type} {wanted : Content → Prop} {outcome : Outcome Content}
    (returns : Returns wanted outcome) (limit depth : Nat) :
    Returns wanted (if limit < depth then Outcome.fail (.depthExceeded limit) else outcome) := by
  split
  · trivial
  · exact returns

theorem Bindings.Inhabit.mono {bindings : Bindings} {parameters others : List Parameter}
    (bound : bindings.Inhabit parameters) (fewer : others ⊆ parameters) :
    bindings.Inhabit others :=
  fun referenced member => bound referenced (fewer member)

namespace Expr

/-- The values of several faithful expressions inhabit the types of the expressions, one by one. -/
theorem returns_evaluateAll {expressions : List Expr}
    (each : ∀ expression ∈ expressions, expression.Faithful) (budget limit : Nat)
    {bindings : Bindings} (bound : bindings.Inhabit (freeAll expressions)) (depth : Nat)
    (address : Address) (place : Nat) :
    Returns (List.Forall₂ Inhabits (expressions.map resultType))
      (evaluateAll (Closure.callAt budget) limit expressions bindings depth address place) := by
  induction expressions generalizing place with
  | nil =>
    simp only [evaluateAll]
    exact .nil
  | cons expression rest inductionHypothesis =>
    rw [List.forall_mem_cons] at each
    rw [freeAll] at bound
    simp only [evaluateAll]
    refine (each.1 budget limit (bound.mono (List.subset_append_left _ _)) depth
      (address.operand place)).bind fun value inhabits => ?_
    refine (inductionHypothesis each.2 (bound.mono (List.subset_append_right _ _))
      (place + 1)).bind fun values others => ?_
    exact .cons inhabits others

theorem Faithful.parameter (referenced : Parameter) : (Expr.parameter referenced).Faithful := by
  intro budget limit bindings bound depth address
  rw [free] at bound
  simp only [evaluateAt]
  refine returns_within ?_ limit depth
  split
  · exact bound referenced (.head _) _ ‹_›
  · trivial

theorem Faithful.constant {value : Value} {type : DataType} (inhabits : Inhabits type value) :
    (Expr.constant value type).Faithful := by
  intro budget limit bindings bound depth address
  simp only [evaluateAt]
  exact returns_within (returns_ok inhabits) limit depth

/-- A member returns inhabitants of its type if reading it does so for inhabitants of the target's
type. -/
theorem Faithful.member {target : Expr} {read : Member} (source : target.Faithful)
    (reads : ∀ {value : Value} (call : Caller), Inhabits target.resultType value →
      Returns (Inhabits read.memberType) (read.read call value)) :
    (member target read).Faithful := by
  intro budget limit bindings bound depth address
  rw [free] at bound
  simp only [evaluateAt]
  exact returns_within ((source budget limit bound (depth + 1) (address.operand 0)).bind
    fun value inhabits => reads _ inhabits) limit depth

/-- An operator without a method returns values of the type that it is defined to have. The
fallback of a coalescing operator has to inhabit the type of what it stands in for. -/
theorem Faithful.binary {operator : BinaryOperator} {type : DataType} {left right : Expr}
    (first : left.Faithful) (second : right.Faithful)
    (typed : operator.resultType left.resultType right.resultType = .ok type)
    (fallback : operator = .coalesce → ∀ value, Inhabits right.resultType value →
      Inhabits left.resultType value) :
    (binary operator type left right none none).Faithful := by
  intro budget limit bindings bound depth address
  rw [free, freeOption, List.append_nil] at bound
  have lefts := first budget limit (bound.mono (List.subset_append_left _ _)) (depth + 1)
    (address.operand 0)
  have rights := second budget limit (bound.mono (List.subset_append_right _ _)) (depth + 1)
    (address.operand 1)
  cases operator with
  | andAlso =>
    obtain ⟨-, -, rfl⟩ := BinaryOperator.truths_of_resultType (.inl rfl) typed
    simp only [evaluateAt]
    refine returns_within (lefts.bind fun value _ => (meets_true _).bind fun holds _ => ?_)
      limit depth
    cases holds with
    | true => exact rights.bind fun _ _ => (meets_true _).bind fun _ _ => .inr rfl
    | false => exact .inr rfl
  | orElse =>
    obtain ⟨-, -, rfl⟩ := BinaryOperator.truths_of_resultType (.inr rfl) typed
    simp only [evaluateAt]
    refine returns_within (lefts.bind fun value _ => (meets_true _).bind fun holds _ => ?_)
      limit depth
    cases holds with
    | true => exact .inr rfl
    | false => exact rights.bind fun _ _ => (meets_true _).bind fun _ _ => .inr rfl
  | coalesce =>
    obtain rfl := BinaryOperator.eq_left_of_coalesce typed
    simp only [evaluateAt]
    refine returns_within (lefts.bind fun value inhabits => ?_) limit depth
    split
    · exact rights.weaken (fallback rfl) fun _ => id
    · exact inhabits
  | _ =>
    simp only [evaluateAt]
    exact returns_within (lefts.bind fun value inhabits => rights.bind fun other otherInhabits =>
      returns_ofResult (BinaryOperator.returns_apply typed nofun inhabits otherInhabits))
      limit depth

theorem Faithful.unary {operator : UnaryOperator} {operand : Expr} (part : operand.Faithful)
    (accepted : operator.acceptsType operand.resultType = true) :
    (unary operator operand.resultType operand).Faithful := by
  intro budget limit bindings bound depth address
  rw [free] at bound
  simp only [evaluateAt]
  exact returns_within ((part budget limit bound (depth + 1) (address.operand 0)).bind
    fun value inhabits => returns_ofResult (UnaryOperator.returns_apply accepted inhabits))
    limit depth

theorem Faithful.arrayInit {element : DataType} {elements : List Expr}
    (parts : ∀ item ∈ elements, item.Faithful)
    (gathers : ∀ {values : List Value}, List.Forall₂ Inhabits (elements.map resultType) values →
      ∀ value ∈ values, Inhabits element value) :
    (arrayInit (.array element) elements).Faithful := by
  intro budget limit bindings bound depth address
  rw [free] at bound
  simp only [evaluateAt]
  exact returns_within ((returns_evaluateAll parts budget limit bound (depth + 1) address 0).bind
    fun values inhabit => returns_ok (.inr ⟨values, rfl, gathers inhabit⟩)) limit depth

theorem Faithful.callStatic {method : Method} {arguments : List Expr}
    (parts : ∀ argument ∈ arguments, argument.Faithful)
    (invokes : ∀ {values : List Value} (call : Caller),
      List.Forall₂ Inhabits (arguments.map resultType) values →
        Returns (Inhabits method.returnType) (method.invoke call none values)) :
    (call none method arguments).Faithful := by
  intro budget limit bindings bound depth address
  rw [free, freeOption, List.nil_append] at bound
  simp only [evaluateAt, evaluateTarget]
  exact returns_within ((returns_evaluateAll parts budget limit bound (depth + 1) address 1).bind
    fun values inhabit => invokes _ inhabit) limit depth

/-- A call returns inhabitants of the return type if the method does so for inhabitants of the type
of its target, whatever the arguments are. -/
theorem Faithful.callOn {target : Expr} {method : Method} {arguments : List Expr}
    (source : target.Faithful) (parts : ∀ argument ∈ arguments, argument.Faithful)
    (invokes : ∀ {value : Value} {values : List Value} (call : Caller),
      Inhabits target.resultType value →
        Returns (Inhabits method.returnType) (method.invoke call (some value) values)) :
    (call (some target) method arguments).Faithful := by
  intro budget limit bindings bound depth address
  rw [free, freeOption] at bound
  simp only [evaluateAt, evaluateTarget, bind_assoc, pure_bind]
  exact returns_within ((source budget limit (bound.mono (List.subset_append_left _ _)) (depth + 1)
    (address.operand 0)).bind fun value inhabits =>
      (returns_evaluateAll parts budget limit (bound.mono (List.subset_append_right _ _))
        (depth + 1) address 1).bind fun values _ => invokes _ inhabits) limit depth

/-- A lambda yields a function of its type, which carries the bindings along. Whether a later call
yields an inhabitant of the result type is then a matter of the body, from the bindings at this
place. -/
theorem Faithful.lambda {base : String} {parameters : List Parameter} {body : Expr}
    {name : Option String} {tailCall : Bool} (inner : body.Faithful)
    (handles : ∀ declared ∈ parameters, ∀ other ∈ body.free,
      declared.sameAs other = true → declared = other) :
    (lambda (.generic base .function (parameters.map Parameter.type ++ [body.resultType]))
      parameters body name tailCall).Faithful := by
  intro budget limit bindings bound depth address
  rw [free] at bound
  simp only [evaluateAt]
  refine returns_within (returns_ok (.inr ⟨_, rfl, fun laterBudget caller => ?_⟩)) limit depth
  refine replies_of_returns fun arguments given => ?_
  cases laterBudget with
  | zero => trivial
  | succ fewer =>
    exact (meets_true _).bind fun _ _ => inner fewer limit (bound.extend given handles) 1 caller

/-! ### Built expressions -/

/-- No method implements an operator in a node, and no conversion is applied. -/
def Unaided : Expr → Prop
  | binary _ _ _ _ method conversion => method = none ∧ conversion = none
  | _ => True

/-- The types of an expression are closed and told apart by their names, its constants inhabit
their types, and it refers to one variable by one handle. -/
structure Regular (expression : Expr) : Prop where
  closed : ∀ type ∈ expression.types, type.isClosed = true
  coherent : DataType.Coherent expression.types
  constants : ∀ constant ∈ expression.constants, Inhabits constant.2 constant.1
  handles : ∀ first ∈ expression.parameters, ∀ second ∈ expression.parameters,
    first.sameAs second = true → first = second

theorem types_subset {expression part : Expr} (within : part.nodes ⊆ expression.nodes) :
    part.types ⊆ expression.types := by
  intro type member
  obtain ⟨node, nodeMember, own⟩ := List.mem_flatMap.mp member
  exact List.mem_flatMap.mpr ⟨node, within nodeMember, own⟩

theorem Regular.part {expression part : Expr} (regular : expression.Regular)
    (within : part.nodes ⊆ expression.nodes) : part.Regular := by
  have types := types_subset within
  have parameters : part.parameters ⊆ expression.parameters := List.filterMap_subset _ within
  exact ⟨fun type member => regular.closed type (types member),
    fun type member part within other otherMember =>
      regular.coherent type (types member) part within other (types otherMember),
    fun constant member => regular.constants constant (List.filterMap_subset _ within member),
    fun first firstMember second secondMember =>
      regular.handles first (parameters firstMember) second (parameters secondMember)⟩

/-- Values pass from one type of an expression to another one that accepts it. -/
theorem Regular.passes {expression : Expr} (regular : expression.Regular) {target source : DataType}
    (targetMember : target ∈ expression.types) (sourceMember : source ∈ expression.types)
    (accepted : target.accepts source = true) :
    ∀ value, Inhabits source value → Inhabits target value :=
  fun _ inhabits => inhabits.of_accepts (regular.closed _ targetMember)
    (regular.closed _ sourceMember)
    (fun part within => regular.coherent _ targetMember part within _ sourceMember) accepted

/-- The expression is regular, and no method or conversion takes part in it. -/
structure Checked (expression : Expr) : Prop extends expression.Regular where
  unaided : ∀ node ∈ expression.nodes, node.Unaided

theorem Checked.part {expression part : Expr} (checked : expression.Checked)
    (within : part.nodes ⊆ expression.nodes) : part.Checked :=
  ⟨checked.toRegular.part within, fun node member => checked.unaided node (within member)⟩

theorem Checked.parts {expression : Expr} {parts : List Expr} (checked : expression.Checked)
    (within : nodesAll parts ⊆ expression.nodes) : ∀ part ∈ parts, part.Checked :=
  fun part member => checked.part fun _ inside => within (mem_nodesAll.mpr ⟨part, member, inside⟩)

/-- Inhabitants of the types of arguments inhabit the types of the parameters that
accept them. -/
theorem inhabit_of_fit {parameters : List DataType} {arguments : List Expr} {values : List Value}
    (accepted : argumentsFit parameters arguments = true)
    (passes : ∀ parameter ∈ parameters, ∀ argument ∈ arguments,
      parameter.accepts argument.resultType = true →
        ∀ value, Inhabits argument.resultType value → Inhabits parameter value)
    (inhabit : List.Forall₂ Inhabits (arguments.map resultType) values) :
    List.Forall₂ Inhabits parameters values := by
  rw [argumentsFit, Bool.and_eq_true, beq_iff_eq, List.all_eq_true] at accepted
  have each : List.Forall₂ (fun parameter argument => ∀ value,
      Inhabits (resultType argument) value → Inhabits parameter value) parameters arguments :=
    List.forall₂_iff_zip.mpr ⟨accepted.1, fun member => passes _ (List.of_mem_zip member).1 _
      (List.of_mem_zip member).2 (accepted.2 _ member)⟩
  clear accepted passes
  induction each generalizing values with
  | nil =>
    cases inhabit
    exact .nil
  | cons first _ inductionHypothesis =>
    cases inhabit with
    | cons inhabits others => exact .cons (first _ inhabits) (inductionHypothesis others)

theorem resultType_mem_typesAll {expressions : List Expr} {expression : Expr}
    (member : expression ∈ expressions) : expression.resultType ∈ typesAll expressions := by
  obtain ⟨node, nodeMember, own⟩ := List.mem_flatMap.mp expression.resultType_mem_types
  exact List.mem_flatMap.mpr ⟨node, mem_nodesAll.mpr ⟨expression, member, nodeMember⟩, own⟩

/-- The fallback of a coalescing operator inhabits the type of what it stands in for, since the
builder has compared the two types, and equal names are equal types here. -/
theorem Regular.passes_fallback {operator : BinaryOperator} {type result : DataType}
    {left right : Expr} {method : Option Method} {conversion : Option Expr}
    (regular : (binary operator type left right method conversion).Regular)
    (typed : BinaryOperator.coalesce.resultType left.resultType right.resultType = .ok result) :
    ∀ value, Inhabits right.resultType value → Inhabits left.resultType value := by
  dsimp only [BinaryOperator.resultType] at typed
  split at typed
  · exact regular.passes (by simp [left.resultType_mem_types])
      (by simp [right.resultType_mem_types]) ‹_›
  · cases typed

/-- Every expression over the library that builders put together returns inhabitants of its type
only, if it is checked: its types are closed and have names of their own, its constants inhabit the
types they claim, one variable goes by one handle, and no method or conversion takes part in an
operator. -/
theorem Built.faithful {expression : Expr} (built : Built Catalog.standard expression)
    (checked : expression.Checked) : expression.Faithful := by
  induction built with
  | parameter referenced => exact .parameter referenced
  | constant value type => exact .constant (checked.constants (value, type) (.head _))
  | member source made inductionHypothesis =>
    obtain ⟨read, found, rfl⟩ := memberOf_eq_ok made
    exact (inductionHypothesis (checked.part (List.subset_cons_self _ _))).member
      fun call inhabits => returns_read found inhabits call
  | callOn source parts made sourceHypothesis partsHypothesis =>
    obtain ⟨definition, member, base, _, own, _, _, rfl⟩ := callOn_eq_ok made
    have target := checked.part fun _ within => .tail _ (List.mem_append_left _ within)
    have each := checked.parts fun _ within => .tail _ (List.mem_append_right _ within)
    exact (sourceHypothesis target).callOn
      (fun argument member => partsHypothesis argument member (each argument member))
      fun call inhabits => Library.returns_memberMethod member own base inhabits call
  | callStatic parts made partsHypothesis =>
    obtain ⟨method, member, _, _, shared, plainMethod, _, rfl⟩ := callStatic_eq_ok made
    cases plainMethod.symm.trans (Library.genericArity_of_static member shared)
  | callGeneric parts made partsHypothesis =>
    obtain ⟨definition, member, method, _, _, shared, makes, accepted, rfl⟩ :=
      callGeneric_eq_ok made
    have each := checked.parts fun _ within => .tail _ (List.mem_append_right _ within)
    refine .callStatic
      (fun argument member => partsHypothesis argument member (each argument member))
      fun call inhabit => ?_
    refine Library.returns_operation (Library.operation_of_static member shared) makes
      (inhabit_of_fit accepted (fun parameter parameterMember argument argumentMember fits => ?_)
        inhabit) call
    refine checked.passes (by simp [Method.types, parameterMember]) ?_ fits
    rw [types_call]
    exact .tail _ (List.mem_append_right _ (List.mem_append_right _
      (resultType_mem_typesAll argumentMember)))
  | new parts made partsHypothesis =>
    obtain ⟨constructor, member, _, _, _⟩ := new_eq_ok made
    cases (show constructor ∈ [] from member)
  | @newArray element elements result parts made partsHypothesis =>
    obtain ⟨accepted, rfl⟩ := newArray_eq_ok made
    have each := checked.parts fun _ within => .tail _ within
    refine .arrayInit (fun item member => partsHypothesis item member (each item member))
      fun inhabit => ?_
    obtain ⟨lengths, paired⟩ := List.forall₂_iff_zip.mp (List.forall₂_map_left_iff.mp inhabit)
    refine forall_mem_of_forall₂ (List.forall₂_iff_zip.mpr ⟨lengths, fun pairMember => ?_⟩)
    have member := (List.of_mem_zip pairMember).1
    refine checked.passes (by simp [DataType.element?]) ?_ (accepted _ member) _
      (paired pairMember)
    rw [types_arrayInit]
    exact .tail _ (List.mem_append_right _ (resultType_mem_typesAll member))
  | binary first second made firstHypothesis secondHypothesis =>
    obtain ⟨type, typed, rfl⟩ := binaryOf_eq_ok made
    have left := checked.part fun _ within =>
      .tail _ (List.mem_append_left _ (List.mem_append_left _ within))
    have right := checked.part fun _ within =>
      .tail _ (List.mem_append_left _ (List.mem_append_right _ within))
    refine (firstHypothesis left).binary (secondHypothesis right) typed ?_
    rintro rfl
    exact checked.passes_fallback typed
  | binaryWith first second offers made firstHypothesis secondHypothesis =>
    obtain ⟨_, _, rfl⟩ := binaryWith_eq_ok made
    obtain ⟨none, -⟩ := checked.unaided _ (.head _)
    cases none
  | coalesce first second third made firstHypothesis secondHypothesis thirdHypothesis =>
    obtain ⟨type, rfl, shape⟩ := coalesceOf_eq_ok made
    obtain ⟨-, rfl⟩ := checked.unaided _ (.head _)
    obtain ⟨-, typed⟩ := shape.resolve_right (by rintro ⟨_, _, _, _, _, given, _⟩; cases given)
    have left := checked.part fun _ within =>
      .tail _ (List.mem_append_left _ (List.mem_append_left _ within))
    have right := checked.part fun _ within =>
      .tail _ (List.mem_append_left _ (List.mem_append_right _ within))
    exact (firstHypothesis left).binary (secondHypothesis right) typed fun _ =>
      checked.passes_fallback typed
  | unary part made inductionHypothesis =>
    obtain ⟨accepted, rfl⟩ := unaryOf_eq_ok made
    exact (inductionHypothesis (checked.part (List.subset_cons_self _ _))).unary accepted
  | lambda inner made inductionHypothesis =>
    obtain ⟨name, type, named, typed, rfl⟩ := lambdaOf_eq_ok made
    have typed : genericType (Catalog.withRecords []) name _ = .ok type := typed
    obtain rfl := exists_functionType named typed
    have body := checked.part fun _ within => .tail _ (List.mem_append_left _ within)
    refine (inductionHypothesis body).lambda fun declared declares other member => ?_
    refine checked.handles declared ?_ other ?_
    · rw [parameters_lambda]
      exact List.mem_append_right _ declares
    · rw [parameters_lambda]
      exact List.mem_append_left _ (free_subset _ member)

end Expr

end PredicateWire
