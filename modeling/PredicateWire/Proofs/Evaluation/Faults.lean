/-
This file says what evaluation can stop with. Failures at run time and type mismatches
are always to be expected. Apart from these, a body stops only because it names a field
that its record does not have, and an expression that has enough levels for its depth
limit does not stop because of depth. A function value carries its own limit and starts
again at depth one, so a value is steady when the bodies of all functions in it run
within their limits. Operators and bodies only pass on what they are given, and a call
of a steady function has a steady result by induction on the budget.
-/
import PredicateWire.Evaluation.Predicate
import PredicateWire.Proofs.Evaluation.Binary
import PredicateWire.Proofs.Evaluation.Computing
import PredicateWire.Proofs.Expr.Parts
import PredicateWire.Proofs.Value.Plain

namespace PredicateWire

/-! ### Levels -/

namespace Expr

mutual

/-- The number of levels that evaluation goes down, the expression itself included. The parameters
that a lambda declares are not evaluated. -/
def levels : Expr → Nat
  | lambda _ _ body _ _ => levels body + 1
  | parameter _ => 1
  | binary _ _ left right _ conversion =>
    max (max (levels left) (levels right)) (levelsOption conversion) + 1
  | member target _ => levels target + 1
  | constant _ _ => 1
  | call target _ arguments => max (levelsOption target) (levelsAll arguments) + 1
  | construct _ arguments => levelsAll arguments + 1
  | arrayInit _ elements => levelsAll elements + 1
  | unary _ _ operand => levels operand + 1

/-- The greatest number of levels of several expressions. -/
def levelsAll : List Expr → Nat
  | [] => 0
  | expression :: rest => max (levels expression) (levelsAll rest)

/-- The number of levels of an expression that may be absent. -/
def levelsOption : Option Expr → Nat
  | none => 0
  | some expression => levels expression

end

end Expr

/-! ### Errors that are expected -/

/-- A choice of errors that are to be expected. Failures at run time and type mismatches always
are. -/
structure Expectation where
  expects : Error → Prop
  runtime : ∀ fault, expects (.evaluation fault)
  mismatch : ∀ fault, expects (.typeMismatch fault)

/-- An evaluation stopped with an error that is expected, or for want of budget. -/
def Halt.Among (expected : Expectation) : Halt → Prop
  | .failed error => expected.expects error
  | .exhausted => True

/-- An evaluation yields what is wanted, or stops as expected. -/
abbrev Stops {Content : Type} (expected : Expectation) (wanted : Content → Prop)
    (outcome : Outcome Content) : Prop :=
  Meets wanted (Halt.Among expected) outcome

/-- The error that a body fails with because it names a field that its record does not have. -/
def Native.Misnames : Native → Error → Prop
  | assemble typeName fields names, error =>
    ∃ name ∈ names, name ∉ fields ∧ error = .symbolNotFound (.unknownMember typeName name)
  | _, _ => False

/-- What a body fails with because of the fields that it names is expected. -/
def Native.Within (expected : Expectation) (native : Native) : Prop :=
  ∀ error, native.Misnames error → expected.expects error

/-- The bodies that a node runs fail as expected, and the value of a constant is plain. -/
def Expr.Steady (expected : Expectation) : Expr → Prop
  | binary _ _ _ _ method _ => ∀ handle ∈ method, handle.body.Within expected
  | member _ read => ∀ getter, read.storage = .property getter → getter.Within expected
  | constant value _ => value.Plain
  | call _ method _ => method.body.Within expected
  | construct constructor _ => constructor.body.Within expected
  | _ => True

/-- The body of a lambda can be evaluated within a limit, and its nodes are steady. -/
structure Expr.RunsWithin (expected : Expectation) (limit : Nat) (body : Expr) : Prop where
  levels : body.levels ≤ limit
  steady : ∀ node ∈ body.nodes, node.Steady expected

/-- The bodies of all functions in a value can be evaluated within their limits. -/
inductive Value.Steady (expected : Expectation) : Value → Prop
  | null : Steady expected .null
  | bool (value : Bool) : Steady expected (.bool value)
  | int32 (value : Int32) : Steady expected (.int32 value)
  | int64 (value : Int64) : Steady expected (.int64 value)
  | double (value : Float) : Steady expected (.double value)
  | char (value : Char) : Steady expected (.char value)
  | string (value : String) : Steady expected (.string value)
  | array {items : List Value} (each : ∀ item ∈ items, Steady expected item) :
    Steady expected (.array items)
  | map {entries : List (Value × Value)} (keys : ∀ entry ∈ entries, Steady expected entry.1)
    (contents : ∀ entry ∈ entries, Steady expected entry.2) : Steady expected (.map entries)
  | record {fields : List (String × Value)} (each : ∀ field ∈ fields, Steady expected field.2) :
    Steady expected (.record fields)
  | function {closure : Closure} (runs : closure.body.RunsWithin expected closure.limit)
    (bindings : ∀ binding ∈ closure.bindings, Steady expected binding.2) :
    Steady expected (.function closure)

/-- A plain value has no functions in it, so it is steady. -/
theorem Value.Plain.steady {expected : Expectation} {value : Value} (plain : value.Plain) :
    value.Steady expected := by
  induction plain with
  | null => exact .null
  | bool value => exact .bool value
  | int32 value => exact .int32 value
  | int64 value => exact .int64 value
  | double value => exact .double value
  | char value => exact .char value
  | string value => exact .string value
  | array _ inductionHypothesis => exact .array inductionHypothesis
  | map _ _ keys contents => exact .map keys contents
  | record _ inductionHypothesis => exact .record inductionHypothesis

theorem Expectation.fault {Content : Type} (expected : Expectation) {wanted : Content → Prop}
    (fault : EvaluationFault) : Stops expected wanted (Outcome.fault fault) :=
  expected.runtime fault

theorem Expectation.refuse {Content : Type} (expected : Expectation) {wanted : Content → Prop}
    (fault : Mismatch) : Stops expected wanted (Outcome.mismatch fault) :=
  expected.mismatch fault

/-- A result that is as wanted or fails as expected does so as an outcome of evaluation. -/
theorem stops_ofResult {Content : Type} {expected : Expectation} {wanted : Content → Prop}
    {result : Result Content} (meets : Meets wanted expected.expects result) :
    Stops expected wanted (Outcome.ofResult result) := by
  cases result with
  | ok content => exact meets
  | error error => exact meets

variable {expected : Expectation}

/-! ### Operators -/

namespace BinaryOperator

/-- The result of an operator is steady, unless the operator refuses its operands. -/
abbrev Yields (expected : Expectation) (result : Result Value) : Prop :=
  Meets (Value.Steady expected) expected.expects result

variable (operator : BinaryOperator) {left right : Value}

theorem yields_undefined (left right : Value) :
    Yields expected (.error (operator.undefinedFor left right)) :=
  expected.mismatch _

theorem yields_arithmetic (left right : Value) :
    Yields expected (operator.arithmetic left right) := by
  unfold arithmetic
  split
  · exact .null
  · exact .null
  · split
    · exact .string _
    · exact operator.yields_undefined _ _
  · exact (operator.meets_exact expected.runtime _ _).bind fun number _ =>
      (meets_checkedInt32 expected.runtime number).bind fun fitting _ => .int32 fitting
  · split
    · exact (operator.meets_onInt64 expected.runtime _ _).bind fun fitting _ => .int64 fitting
    · split
      · exact .double _
      · exact operator.yields_undefined _ _

theorem yields_comparison (left right : Value) :
    Yields expected (operator.comparison left right) := by
  unfold comparison
  split
  · exact .bool _
  · split
    · exact .bool _
    · exact expected.mismatch _

theorem yields_logical (left right : Value) : Yields expected (operator.logical left right) := by
  unfold logical
  split
  · exact .bool _
  · split
    · exact .int32 _
    · exact operator.yields_undefined _ _
  · split
    · split
      · exact .int64 _
      · exact operator.yields_undefined _ _
    · exact operator.yields_undefined _ _

/-- The item at an index is as steady as the array it is taken from. -/
theorem yields_indexed (first : left.Steady expected) (position : Value) :
    Yields expected (indexed left position) := by
  unfold indexed
  split
  · cases first with
    | array each =>
      split
      · exact meets_itemAt expected.runtime each _
      · exact expected.mismatch _
  · exact expected.runtime _
  · exact expected.mismatch _

/-- An operator on steady values has a steady result. -/
theorem yields_apply (first : left.Steady expected) (second : right.Steady expected) :
    Yields expected (operator.apply left right) := by
  cases operator with
  | equal | notEqual => exact .bool _
  | lessThan | lessThanOrEqual | greaterThan | greaterThanOrEqual => exact yields_comparison _ _ _
  | andAlso | orElse | and | or | exclusiveOr => exact yields_logical _ _ _
  | arrayIndex => exact yields_indexed first right
  | coalesce =>
    show Yields expected (.ok (if left.isNull then right else left))
    split
    · exact second
    · exact first
  | add | subtract | multiply | divide | modulo => exact yields_arithmetic _ _ _

end BinaryOperator

theorem UnaryOperator.yields_apply (operator : UnaryOperator) (operand : Value) :
    BinaryOperator.Yields expected (operator.apply operand) := by
  unfold UnaryOperator.apply
  split
  · exact .null
  · exact .bool _
  · exact .int32 _
  · exact .int64 _
  · exact (meets_checkedInt32 expected.runtime _).bind fun number _ => .int32 number
  · exact (meets_checkedInt64 expected.runtime _).bind fun number _ => .int64 number
  · exact .double _
  · exact expected.mismatch _

/-! ### Bodies -/

/-- Calls of steady functions on steady arguments yield steady values or stop as expected. -/
def Caller.Steady (expected : Expectation) (call : Caller) : Prop :=
  ∀ (number : Nat) {closure : Closure} {arguments : List Value},
    (Value.function closure).Steady expected → (∀ argument ∈ arguments, argument.Steady expected) →
      Stops expected (Value.Steady expected) (call number closure arguments)

namespace Native

variable {arguments : List Value} {target : Option Value} {call : Caller} (method : String)

/-- The items that a body works on are those of a steady array. -/
theorem stops_itemsOf (steady : ∀ argument ∈ arguments, argument.Steady expected) :
    Stops expected (fun items => ∀ item ∈ items, item.Steady expected)
      (itemsOf method arguments) := by
  unfold itemsOf
  split
  · rename_i items rest
    cases steady (.array items) (.head _) with
    | array each => exact each
  · exact expected.fault _
  · exact expected.refuse _
  · exact expected.fault _

theorem stops_predicateOf (steady : ∀ argument ∈ arguments, argument.Steady expected) :
    Stops expected (fun closure => (Value.function closure).Steady expected)
      (predicateOf method arguments) := by
  unfold predicateOf
  split
  · exact steady _ (.tail _ (.head _))
  · exact expected.refuse _
  · exact expected.fault _

theorem stops_textTarget (target : Option Value) :
    Stops expected (fun _ => True) (textTarget method target) := by
  unfold textTarget
  split
  · trivial
  · exact expected.refuse _

theorem stops_textArgument (arguments : List Value) :
    Stops expected (fun _ => True) (textArgument method arguments) := by
  unfold textArgument
  split
  · trivial
  · exact expected.refuse _

theorem stops_entriesOf (steady : ∀ value ∈ target, value.Steady expected) :
    Stops expected (fun entries => ∀ entry ∈ entries, entry.2.Steady expected)
      (entriesOf method target) := by
  unfold entriesOf
  split
  · rename_i entries
    cases steady (.map entries) rfl with
    | map _ contents => exact contents
  · exact expected.refuse _

theorem steady_argumentAt (steady : ∀ argument ∈ arguments, argument.Steady expected)
    (position : Nat) : (argumentAt arguments position).Steady expected := by
  rw [argumentAt, List.getD_eq_getElem?_getD]
  cases found : arguments[position]? with
  | none => exact .null
  | some argument => exact steady argument (List.mem_of_getElem? found)

theorem stops_counted (count : Nat) : Stops expected (Value.Steady expected) (counted count) := by
  unfold counted
  split
  · exact .int32 _
  · exact expected.fault _

/-- A search asks a steady predicate about steady items and passes on what stops it. -/
theorem stops_anyWhere (calls : call.Steady expected) {predicate : Closure}
    (steady : (Value.function predicate).Steady expected) {items : List Value}
    (each : ∀ item ∈ items, item.Steady expected) (number : Nat) :
    Stops expected (fun _ => True) (anyWhere call predicate number items) := by
  induction items generalizing number with
  | nil => trivial
  | cons item rest inductionHypothesis =>
    rw [List.forall_mem_cons] at each
    unfold anyWhere
    refine (calls number steady ?_).bind fun answer _ => ?_
    · exact List.forall_mem_singleton.mpr each.1
    · split
      · trivial
      · exact inductionHypothesis each.2 (number + 1)
      · exact expected.refuse _

/-- Assigning the arguments of a constructor to its fields one by one fails as expected, where it is
expected that a field which the record does not have is missing. -/
theorem stops_assign (typeName : String) {fields assigned : List (String × Value)}
    (each : ∀ field ∈ fields, field.2.Steady expected)
    (given : ∀ field ∈ assigned, field.2.Steady expected)
    (missing : ∀ field ∈ assigned, Entries.get? fields field.1 = none →
      expected.expects (.symbolNotFound (.unknownMember typeName field.1))) :
    Stops expected (fun fields => ∀ field ∈ fields, field.2.Steady expected)
      (assign typeName fields assigned) := by
  induction assigned generalizing fields with
  | nil => exact each
  | cons first rest inductionHypothesis =>
    obtain ⟨name, content⟩ := first
    rw [List.forall_mem_cons] at given missing
    unfold assign
    split
    · refine inductionHypothesis (fun field member => ?_) given.2 fun field member absent => ?_
      · rcases Entries.mem_insert member with rfl | earlier
        · exact given.1
        · exact each field earlier
      · rw [Entries.get?_insert] at absent
        split at absent
        · cases absent
        · exact missing.2 field member absent
    · rename_i unknown
      refine missing.1 (Entries.get?_eq_none.mpr fun field member same => unknown ?_)
      exact List.any_eq_true.mpr ⟨field, member, beq_iff_eq.mpr same⟩

theorem steady_field? {value content : Value} {name : String} (steady : value.Steady expected)
    (found : value.field? name = some content) : content.Steady expected := by
  unfold Value.field? at found
  split at found
  · cases steady with
    | record each => exact each _ (Entries.mem_of_get? found)
  · cases found

/-- Scripts yield what they are given, or what a steady function returns for it. -/
theorem stops_runScript (calls : call.Steady expected) (script : Script)
    (targetSteady : ∀ value ∈ target, value.Steady expected)
    (steady : ∀ argument ∈ arguments, argument.Steady expected) :
    Stops expected (Value.Steady expected) (runScript call script target arguments) := by
  cases script with
  | answer datum => exact (Value.plain_ofDatum datum).steady
  | argument position => exact steady_argumentAt steady position
  | fail text => exact expected.fault _
  | field name =>
    show ((target.bind fun value => value.field? name).getD .null).Steady expected
    cases found : target.bind fun value => value.field? name with
    | none => exact .null
    | some content =>
      obtain ⟨value, held, read⟩ := Option.bind_eq_some_iff.mp found
      exact steady_field? (targetSteady value held) read
  | apply position =>
    unfold runScript
    dsimp only
    split
    · rename_i closure found
      exact calls 0 (steady _ (List.mem_of_getElem? found)) fun argument member =>
        steady argument (List.mem_of_mem_drop member)
    · exact expected.fault _
  | gather =>
    refine .array fun item member => ?_
    rcases List.mem_append.mp member with own | given
    · exact targetSteady item (Option.mem_toList.mp own)
    · exact steady item given

/-- A body on steady values has a steady result, or it stops as expected. The calls that it makes
are given to it, and they are assumed to do the same. -/
theorem stops_run (calls : call.Steady expected) (native : Native)
    (within : native.Within expected)
    (targetSteady : ∀ value ∈ target, value.Steady expected)
    (steady : ∀ argument ∈ arguments, argument.Steady expected) :
    Stops expected (Value.Steady expected) (native.run call target arguments) := by
  have own : ∀ argument ∈ target.toList, argument.Steady expected := fun argument member =>
    targetSteady argument (Option.mem_toList.mp member)
  cases native with
  | sequenceContains => exact (stops_itemsOf _ steady).bind fun _ _ => .bool _
  | sequenceAny => exact (stops_itemsOf _ steady).bind fun _ _ => .bool _
  | sequenceAnyWhere =>
    exact (stops_itemsOf _ steady).bind fun _ each =>
      (stops_predicateOf _ steady).bind fun _ predicate =>
        (stops_anyWhere calls predicate each 0).bind fun _ _ => .bool _
  | sequenceEnd which =>
    refine (stops_itemsOf _ steady).bind fun items each => ?_
    split
    · exact each _ (mem_of_endOf ‹_›)
    · exact expected.fault _
  | sequenceCount => exact (stops_itemsOf _ steady).bind fun _ _ => stops_counted _
  | textTest test =>
    exact (stops_textTarget _ target).bind fun _ _ =>
      (stops_textArgument _ arguments).bind fun _ _ => .bool _
  | textCase case => exact (stops_textTarget _ target).bind fun _ _ => .string _
  | textLength => exact (stops_textTarget _ target).bind fun _ _ => stops_counted _
  | listContains => exact (stops_itemsOf _ own).bind fun _ _ => .bool _
  | listItem =>
    refine (stops_itemsOf _ own).bind fun items each => ?_
    split
    · exact stops_ofResult (BinaryOperator.meets_itemAt expected.runtime each _)
    · exact expected.refuse _
  | listCount => exact (stops_itemsOf _ own).bind fun _ _ => stops_counted _
  | dictionaryItem =>
    refine (stops_entriesOf _ targetSteady).bind fun entries each => ?_
    dsimp only
    split
    · rename_i content found
      obtain ⟨entry, first, rfl⟩ := Option.map_eq_some_iff.mp found
      exact each entry (List.mem_of_find?_eq_some first)
    · exact expected.fault _
  | dictionaryContainsKey => exact (stops_entriesOf _ targetSteady).bind fun _ _ => .bool _
  | dictionaryCount => exact (stops_entriesOf _ targetSteady).bind fun _ _ => stops_counted _
  | assemble typeName fields names =>
    refine (stops_assign typeName (fun field member => ?_) (fun field member => ?_)
      fun field member absent => ?_).bind fun _ each => .record each
    · obtain ⟨_, _, rfl⟩ := List.mem_map.mp (Entries.mem_ofList member)
      exact .null
    · exact steady field.2 (List.of_mem_zip member).2
    · refine within _ ⟨field.1, (List.of_mem_zip member).1, fun declared => ?_, rfl⟩
      rw [Entries.get?_ofList, Entries.get?_eq_none] at absent
      exact absent _ (List.mem_reverse.mpr (List.mem_map_of_mem declared)) rfl
  | script written => exact stops_runScript calls written targetSteady steady

end Native

/-- A method fails as its body does, or because it is given the wrong number of arguments. -/
theorem Method.stops_invoke {call : Caller} (calls : call.Steady expected) (method : Method)
    (within : method.body.Within expected) {target : Option Value} {arguments : List Value}
    (targetSteady : ∀ value ∈ target, value.Steady expected)
    (steady : ∀ argument ∈ arguments, argument.Steady expected) :
    Stops expected (Value.Steady expected) (method.invoke call target arguments) := by
  unfold Method.invoke
  split
  · exact expected.fault _
  · split
    · exact expected.fault _
    · exact Native.stops_run calls method.body within targetSteady steady

/-- A constructor fails as its body does, or because it is given the wrong number of arguments. -/
theorem Constructor.stops_invoke {call : Caller} (calls : call.Steady expected)
    (constructor : Constructor) (within : constructor.body.Within expected) {arguments : List Value}
    (steady : ∀ argument ∈ arguments, argument.Steady expected) :
    Stops expected (Value.Steady expected) (constructor.invoke call arguments) := by
  unfold Constructor.invoke
  split
  · exact expected.fault _
  · exact Native.stops_run calls constructor.body within (fun _ none => nomatch none) steady

/-- Reading a field of a steady record has a steady result; a property fails as its getter does. -/
theorem Member.stops_read {call : Caller} (calls : call.Steady expected) (member : Member)
    (within : ∀ getter, member.storage = .property getter → getter.Within expected)
    {target : Value} (steady : target.Steady expected) :
    Stops expected (Value.Steady expected) (member.read call target) := by
  unfold Member.read
  split
  · exact expected.fault _
  · split
    · split
      · rename_i fields _
        cases steady with
        | record each =>
          show ((Entries.get? fields member.name).getD .null).Steady expected
          cases found : Entries.get? fields member.name with
          | none => exact .null
          | some content => exact each _ (Entries.mem_of_get? found)
      · exact expected.refuse _
    · rename_i getter stored
      refine Native.stops_run calls getter (within getter stored) (fun value held => ?_)
        fun _ member => nomatch member
      cases held
      exact steady

/-! ### Evaluation -/

/-- Calls of steady functions at addresses yield steady values or stop as expected. -/
def AddressedCaller.Steady (expected : Expectation) (call : AddressedCaller) : Prop :=
  ∀ (address : Address) {closure : Closure} {arguments : List Value},
    (Value.function closure).Steady expected → (∀ argument ∈ arguments, argument.Steady expected) →
      Stops expected (Value.Steady expected) (call address closure arguments)

/-- A caller that is steady at all addresses is so below one of them. -/
theorem AddressedCaller.Steady.within {call : AddressedCaller} (calls : call.Steady expected)
    (address : Address) : (call.within address).Steady expected :=
  fun number _ _ closure arguments => calls (address.call number) closure arguments

/-- Everything that is bound is steady. -/
def Bindings.Steady (expected : Expectation) (bindings : Bindings) : Prop :=
  ∀ binding ∈ bindings, binding.2.Steady expected

theorem Bindings.Steady.extend {bindings : Bindings} (steady : bindings.Steady expected)
    (parameters : List Parameter) {arguments : List Value}
    (given : ∀ argument ∈ arguments, argument.Steady expected) :
    (bindings.extend parameters arguments).Steady expected := by
  intro binding member
  rcases List.mem_append.mp member with own | outer
  · exact given _ (List.of_mem_zip (List.mem_reverse.mp own)).2
  · exact steady binding outer

theorem stops_truth (value : Value) : Stops expected (fun _ => True) (truth value) := by
  unfold truth
  split
  · trivial
  · exact expected.refuse _

theorem stops_checkArity (parameters : List Parameter) (arguments : List Value) :
    Stops expected (fun _ => True) (checkArity parameters arguments) := by
  unfold checkArity
  split
  · trivial
  · exact expected.fault _

/-- Combining steady values has a steady result, by the operator or by the method that implements
it. -/
theorem BinaryOperator.stops_combine {call : Caller} (calls : call.Steady expected)
    (operator : BinaryOperator) (method : Option Method)
    (within : ∀ handle ∈ method, handle.body.Within expected) {left right : Value}
    (leftSteady : left.Steady expected) (rightSteady : right.Steady expected) :
    Stops expected (Value.Steady expected) (operator.combine method call left right) := by
  cases method with
  | none => exact stops_ofResult (operator.yields_apply leftSteady rightSteady)
  | some method =>
    refine method.stops_invoke calls (within method rfl) (fun _ none => nomatch none) ?_
    exact List.forall_mem_cons.mpr ⟨leftSteady, List.forall_mem_singleton.mpr rightSteady⟩

namespace Expr

variable {call : AddressedCaller} {limit : Nat} {bindings : Bindings}

mutual

/-- An expression that fits below a depth evaluates to a steady value, or stops as expected. It fits
when the depth and its levels together do not exceed the limit by more than one, which is what each
level of evaluation passes on to the next. -/
theorem stops_evaluateAt (calls : call.Steady expected) :
    ∀ (expression : Expr) {bindings : Bindings} (depth : Nat) (address : Address),
      depth + expression.levels ≤ limit + 1 →
      (∀ node ∈ expression.nodes, node.Steady expected) → bindings.Steady expected →
        Stops expected (Value.Steady expected)
          (expression.evaluateAt call limit bindings depth address)
  | .lambda type parameters body name tailCall, bindings, depth, address, fits, nodesSteady,
      steady => by
    rw [levels] at fits
    rw [nodes, List.forall_mem_cons, List.forall_mem_append] at nodesSteady
    rw [evaluateAt, if_neg (by omega)]
    exact .function ⟨by show body.levels ≤ limit; omega, nodesSteady.2.1⟩ steady
  | .parameter referenced, bindings, depth, address, fits, nodesSteady, steady => by
    rw [levels] at fits
    rw [evaluateAt, if_neg (by omega)]
    split
    · rename_i value found
      obtain ⟨binding, first, rfl⟩ := Option.map_eq_some_iff.mp found
      exact steady binding (List.mem_of_find?_eq_some first)
    · exact expected.fault _
  | .binary operator type left right method conversion, bindings, depth, address, fits, nodesSteady,
      steady => by
    rw [levels] at fits
    rw [nodes, List.forall_mem_cons, List.forall_mem_append, List.forall_mem_append] at nodesSteady
    obtain ⟨within, ⟨leftSteady, rightSteady⟩, conversionSteady⟩ := nodesSteady
    have lefts := stops_evaluateAt calls left (depth + 1) (address.operand 0) (by omega) leftSteady
      steady
    have rights := stops_evaluateAt calls right (depth + 1) (address.operand 1) (by omega)
      rightSteady steady
    have answers : ∀ value : Value,
        Stops expected (Value.Steady expected) (do return .bool (← truth value)) :=
      fun value => (stops_truth value).bind fun _ _ => .bool _
    have deep : ¬limit < depth := by omega
    cases operator, method using BinaryOperator.evaluation_cases with
    | andAlso =>
      rw [evaluateAt, if_neg deep]
      refine lefts.bind fun value _ => (stops_truth value).bind fun holds _ => ?_
      split
      · exact rights.bind fun value _ => answers value
      · exact .bool _
    | orElse =>
      rw [evaluateAt, if_neg deep]
      refine lefts.bind fun value _ => (stops_truth value).bind fun holds _ => ?_
      split
      · exact .bool _
      · exact rights.bind fun value _ => answers value
    | coalesce method =>
      rw [evaluateAt, if_neg deep]
      refine lefts.bind fun value valueSteady => ?_
      split
      · exact rights
      · split
        · rename_i type parameters body name tailCall
          rw [levelsOption, levels] at fits
          rw [nodesOption, nodes, List.forall_mem_cons, List.forall_mem_append] at conversionSteady
          refine (stops_checkArity parameters [value]).bind fun _ _ => ?_
          exact stops_evaluateAt calls body (depth + 2) _ (by omega) conversionSteady.2.1
            (steady.extend parameters (List.forall_mem_singleton.mpr valueSteady))
        · exact expected.refuse _
        · exact valueSteady
    | eager operator method eager =>
      rw [evaluateAt_eager eager, if_neg deep]
      exact lefts.bind fun _ leftSteady => rights.bind fun _ rightSteady =>
        operator.stops_combine (calls.within address) method within leftSteady rightSteady
  | .member target read, bindings, depth, address, fits, nodesSteady, steady => by
    rw [levels] at fits
    rw [nodes, List.forall_mem_cons] at nodesSteady
    rw [evaluateAt, if_neg (by omega)]
    exact (stops_evaluateAt calls target (depth + 1) _ (by omega) nodesSteady.2 steady).bind
      fun _ value => read.stops_read (calls.within address) nodesSteady.1 value
  | .constant value type, bindings, depth, address, fits, nodesSteady, steady => by
    rw [levels] at fits
    rw [evaluateAt, if_neg (by omega)]
    exact Value.Plain.steady (nodesSteady _ (.head _))
  | .call target method arguments, bindings, depth, address, fits, nodesSteady, steady => by
    rw [levels] at fits
    rw [nodes, List.forall_mem_cons, List.forall_mem_append] at nodesSteady
    rw [evaluateAt, if_neg (by omega)]
    refine (stops_evaluateTarget calls target (depth + 1) _ (by omega) nodesSteady.2.1 steady).bind
      fun _ targetSteady => ?_
    refine (stops_evaluateAll calls arguments (depth + 1) _ _ (by omega) nodesSteady.2.2
      steady).bind fun _ given => ?_
    exact method.stops_invoke (calls.within address) nodesSteady.1 targetSteady given
  | .construct constructor arguments, bindings, depth, address, fits, nodesSteady, steady => by
    rw [levels] at fits
    rw [nodes, List.forall_mem_cons] at nodesSteady
    rw [evaluateAt, if_neg (by omega)]
    exact (stops_evaluateAll calls arguments (depth + 1) _ _ (by omega) nodesSteady.2 steady).bind
      fun _ given => constructor.stops_invoke (calls.within address) nodesSteady.1 given
  | .arrayInit type elements, bindings, depth, address, fits, nodesSteady, steady => by
    rw [levels] at fits
    rw [nodes, List.forall_mem_cons] at nodesSteady
    rw [evaluateAt, if_neg (by omega)]
    exact (stops_evaluateAll calls elements (depth + 1) _ _ (by omega) nodesSteady.2 steady).bind
      fun _ items => .array items
  | .unary operator type operand, bindings, depth, address, fits, nodesSteady, steady => by
    rw [levels] at fits
    rw [nodes, List.forall_mem_cons] at nodesSteady
    rw [evaluateAt, if_neg (by omega)]
    exact (stops_evaluateAt calls operand (depth + 1) _ (by omega) nodesSteady.2 steady).bind
      fun value _ => stops_ofResult (operator.yields_apply value)

theorem stops_evaluateTarget (calls : call.Steady expected) :
    ∀ (target : Option Expr) {bindings : Bindings} (depth : Nat) (address : Address),
      depth + levelsOption target ≤ limit + 1 →
      (∀ node ∈ nodesOption target, node.Steady expected) → bindings.Steady expected →
        Stops expected (fun value => ∀ held ∈ value, held.Steady expected)
          (evaluateTarget call limit target bindings depth address)
  | none, _, _, _, _, _, _ => by
    rw [evaluateTarget]
    exact fun _ none => nomatch none
  | some target, bindings, depth, address, fits, nodesSteady, steady => by
    rw [levelsOption] at fits
    rw [nodesOption] at nodesSteady
    rw [evaluateTarget]
    refine (stops_evaluateAt calls target depth address fits nodesSteady steady).bind
      fun value valueSteady held same => ?_
    cases same
    exact valueSteady

theorem stops_evaluateAll (calls : call.Steady expected) :
    ∀ (expressions : List Expr) {bindings : Bindings} (depth : Nat) (address : Address)
      (place : Nat), depth + levelsAll expressions ≤ limit + 1 →
      (∀ node ∈ nodesAll expressions, node.Steady expected) → bindings.Steady expected →
        Stops expected (fun values => ∀ value ∈ values, value.Steady expected)
          (evaluateAll call limit expressions bindings depth address place)
  | [], _, _, _, _, _, _, _ => by
    rw [evaluateAll]
    exact fun _ member => nomatch member
  | expression :: rest, bindings, depth, address, place, fits, nodesSteady, steady => by
    rw [levelsAll] at fits
    rw [nodesAll, List.forall_mem_append] at nodesSteady
    rw [evaluateAll]
    refine (stops_evaluateAt calls expression depth _ (by omega) nodesSteady.1 steady).bind
      fun value valueSteady => ?_
    refine (stops_evaluateAll calls rest depth address _ (by omega) nodesSteady.2 steady).bind
      fun values others => ?_
    exact List.forall_mem_cons.mpr ⟨valueSteady, others⟩

end

end Expr


/-! ### Calls -/

/-- A lambda whose body runs within a limit yields a steady value or stops as expected. -/
theorem stops_applyLambda {call : AddressedCaller} (calls : call.Steady expected) {limit : Nat}
    {parameters : List Parameter} {body : Expr} {bindings : Bindings} {arguments : List Value}
    (runs : body.RunsWithin expected limit) (steady : bindings.Steady expected)
    (given : ∀ argument ∈ arguments, argument.Steady expected) (address : Address) :
    Stops expected (Value.Steady expected)
      (applyLambda call limit parameters body bindings arguments address) := by
  have fits := runs.levels
  unfold applyLambda
  exact (stops_checkArity parameters arguments).bind fun _ _ =>
    body.stops_evaluateAt calls 1 address (by omega) runs.steady (steady.extend parameters given)

/-- Calls of steady functions yield steady values or stop as expected, whatever the budget. -/
theorem Closure.steady_callAt (budget : Nat) :
    AddressedCaller.Steady expected (Closure.callAt budget) := by
  induction budget with
  | zero => exact fun _ _ _ _ _ => trivial
  | succ budget inductionHypothesis =>
    intro address closure arguments steady given
    cases steady with
    | function runs bindings =>
      exact stops_applyLambda inductionHypothesis runs bindings given address

/-- A predicate whose body runs within its limit stops as expected, if it does not answer. -/
theorem Predicate.stops_call {predicate : Predicate}
    (runs : predicate.lambda.body.RunsWithin expected predicate.lambda.limit) {input : Value}
    (plain : input.Plain) (budget : Nat) (address : Address) :
    Stops expected (fun _ => True) (predicate.call budget input address) := by
  have unbound : Bindings.Steady expected [] := fun _ member => by cases member
  have answered : Stops expected (Value.Steady expected)
      (predicate.lambda.invoke budget [input] address) :=
    stops_applyLambda (Closure.steady_callAt budget) runs unbound
      (List.forall_mem_singleton.mpr plain.steady) address
  refine answered.bind fun answer _ => ?_
  split
  · trivial
  · exact expected.refuse _

end PredicateWire
