/-
This file says what the conversion of a coalescing operator is applied to. It is a value
that inhabits the type of the left operand, for the left operand is evaluated first and
the conversion is applied to whatever it yields, unless that is null. Nothing makes sure
that the parameter of the conversion has a type that accepts the type of the left
operand. Where it does, the node has a value of its own type
(`Expr.evaluateAt_conversion`). Where it does not, the node is accepted all the same and
may have any other value: `Expr.evaluate_misconverted` converts a number by a function
on texts.

The positive half is about expressions that are built over the library and regular,
which is to say that their types are closed, their constants inhabit the types they
claim and one variable goes by one handle; no method and no other conversion takes part
in the operands. The conversion is not called as a function: its body is evaluated in
place, two levels below the node.
-/
import PredicateWire.Proofs.Evaluation.Inhabitants

namespace PredicateWire

open Value

namespace Expr

/-- A lambda is put together from its body. -/
theorem Built.body {catalog : Catalog} {type : DataType} {parameters : List Parameter} {body : Expr}
    {name : Option String} {tailCall : Bool}
    (built : Built catalog (Expr.lambda type parameters body name tailCall)) :
    Built catalog body := by
  generalize same : Expr.lambda type parameters body name tailCall = expression at built
  cases built with
  | lambda inner made =>
    obtain ⟨_, _, _, _, rfl⟩ := lambdaOf_eq_ok made
    cases same
    exact inner
  | parameter | constant => cases same
  | member _ made =>
    obtain ⟨_, _, rfl⟩ := memberOf_eq_ok made
    cases same
  | callOn _ _ made =>
    obtain ⟨_, _, _, _, _, _, _, rfl⟩ := callOn_eq_ok made
    cases same
  | callStatic _ made =>
    obtain ⟨_, _, _, _, _, _, _, rfl⟩ := callStatic_eq_ok made
    cases same
  | callGeneric _ made =>
    obtain ⟨_, _, _, _, _, _, _, _, rfl⟩ := callGeneric_eq_ok made
    cases same
  | new _ made =>
    obtain ⟨_, _, _, _, rfl⟩ := new_eq_ok made
    cases same
  | newArray _ made =>
    obtain ⟨_, rfl⟩ := newArray_eq_ok made
    cases same
  | binary _ _ made =>
    obtain ⟨_, _, rfl⟩ := binaryOf_eq_ok made
    cases same
  | binaryWith _ _ _ made =>
    obtain ⟨_, _, rfl⟩ := binaryWith_eq_ok made
    cases same
  | coalesce _ _ _ made =>
    obtain ⟨_, rfl, _⟩ := coalesceOf_eq_ok made
    cases same
  | unary _ made =>
    obtain ⟨_, rfl⟩ := unaryOf_eq_ok made
    cases same

section

variable {left right body node : Expr} {type function : DataType} {parameter : Parameter}
  {name : Option String} {tailCall : Bool}

/-- A node with a conversion evaluates its left operand, and then the right one or the conversion
with the value of the left one. -/
theorem evaluateAt_coalesce (call : AddressedCaller) (limit : Nat) (bindings : Bindings)
    (depth : Nat) (address : Address) :
    (binary .coalesce type left right none
        (some (lambda function [parameter] body name tailCall))).evaluateAt call limit bindings
          depth address =
      (if limit < depth then Outcome.fail (.depthExceeded limit)
      else left.evaluateAt call limit bindings (depth + 1) (address.operand 0) >>= fun value =>
        if value.isNull then right.evaluateAt call limit bindings (depth + 1) (address.operand 1)
        else body.evaluateAt call limit (bindings.extend [parameter] [value]) (depth + 2)
          (address.operand 2)) := by
  simp only [evaluateAt]
  rfl

end

/-- A node with a conversion, over the library, evaluates its left operand first. What the
conversion is applied to inhabits the type of this operand. It inhabits the type of the parameter,
and the node has a value of its own type, if the one type accepts the other; the node has so as
well where the left operand is null and nothing is converted. -/
theorem evaluateAt_conversion {left right converter node : Expr}
    (first : Built Catalog.standard left) (second : Built Catalog.standard right)
    (third : Built Catalog.standard converter)
    (made : coalesceOf left right (some converter) = .ok node) (regular : node.Regular)
    (unaided : ∀ part ∈ left.nodes ++ right.nodes ++ converter.nodes, part.Unaided)
    (budget limit : Nat) {bindings : Bindings} (bound : bindings.Inhabit node.free) (depth : Nat)
    (address : Address) :
    let evaluated := fun expression bindings depth address =>
      evaluateAt (Closure.callAt budget) limit expression bindings depth address
    let source := evaluated left bindings (depth + 1) (address.operand 0)
    ∃ function parameter body name tailCall,
      converter = lambda function [parameter] body name tailCall ∧
      evaluated node bindings depth address =
        (if limit < depth then Outcome.fail (.depthExceeded limit)
        else source >>= fun value =>
          if value.isNull then evaluated right bindings (depth + 1) (address.operand 1)
          else evaluated body (bindings.extend [parameter] [value]) (depth + 2)
            (address.operand 2)) ∧
      Returns (Inhabits left.resultType) source ∧
      (parameter.type.accepts left.resultType = true →
        Returns (Inhabits parameter.type) source) ∧
      (parameter.type.accepts left.resultType = true ∨ source = .ok .null →
        Returns (Inhabits node.resultType) (evaluated node bindings depth address)) := by
  intro evaluated source
  obtain ⟨type, rfl, shape⟩ := coalesceOf_eq_ok made
  obtain ⟨function, parameter, body, name, tailCall, same, rfl, fallback⟩ :=
    shape.resolve_left fun none => nomatch none.1
  cases same
  rw [List.forall_mem_append, List.forall_mem_append] at unaided
  rw [free, freeOption, free] at bound
  have leftChecked : left.Checked := ⟨regular.part fun _ within =>
    .tail _ (List.mem_append_left _ (List.mem_append_left _ within)), unaided.1.1⟩
  have rightChecked : right.Checked := ⟨regular.part fun _ within =>
    .tail _ (List.mem_append_left _ (List.mem_append_right _ within)), unaided.1.2⟩
  have bodyChecked : body.Checked := ⟨regular.part fun _ within =>
    .tail _ (List.mem_append_right _ (.tail _ (List.mem_append_left _ within))),
    fun node member => unaided.2 node (.tail _ (List.mem_append_left _ member))⟩
  have lefts : Returns (Inhabits left.resultType) source :=
    first.faithful leftChecked budget limit
      (bound.mono fun _ member => List.mem_append_left _ (List.mem_append_left _ member)) _ _
  have rights : Returns (Inhabits body.resultType) (evaluated right bindings (depth + 1)
      (address.operand 1)) :=
    (second.faithful rightChecked budget limit (bound.mono fun _ member =>
      List.mem_append_left _ (List.mem_append_right _ member)) _ _).weaken
      (regular.passes (by simp) (by simp [right.resultType_mem_types]) fallback) fun _ => id
  have passes (accepted : parameter.type.accepts left.resultType = true) :
      ∀ value, Inhabits left.resultType value → Inhabits parameter.type value :=
    regular.passes (by simp) (by simp [left.resultType_mem_types]) accepted
  refine ⟨function, parameter, body, name, tailCall, rfl, evaluateAt_coalesce _ _ _ _ _, lefts,
    fun accepted => lefts.weaken (passes accepted) fun _ => id, ?_⟩
  show _ → Returns (Inhabits body.resultType) (evaluateAt _ _ (binary _ _ _ _ _ _) _ _ _)
  rw [evaluateAt_coalesce]
  rintro (accepted | absent)
  · refine returns_within (lefts.bind fun value inhabits => ?_) limit depth
    split
    · exact rights
    · refine third.body.faithful bodyChecked budget limit (Bindings.Inhabit.extend
        (bound.mono fun _ member => List.mem_append_right _ member)
        (.cons (passes accepted value inhabits) .nil) fun declared declares other member => ?_) _ _
      refine regular.handles declared ?_ other ?_
      · rw [List.mem_singleton.mp declares]
        simp
      · simp [free_subset _ member]
  · refine returns_within ?_ limit depth
    show Returns _ (source >>= _)
    rw [absent]
    exact rights

end Expr

/-! ### Conversions of texts -/

/-- A text that a conversion is applied to. -/
def Parameter.word : Parameter :=
  ⟨⟨0, 0⟩, "word", .string, false⟩

/-- A text from outside. -/
def Parameter.heard : Parameter :=
  ⟨⟨0, 1⟩, "heard", .string, false⟩

namespace Expr

/-- The type of functions from texts to texts. -/
def textFunction : DataType := .generic "sys.Func`2" .function [.string, .string]

/-- Functions that turn a text into one in upper case. -/
def toUpper : Expr :=
  lambda textFunction [.word]
    (call (some (parameter .word)) ⟨.string, "ToUpper", [], .string, false, 0, [], .textCase .upper⟩
      []) none false

/-- A text in upper case, or a text that is used if there is none. -/
def shouted : Expr :=
  binary .coalesce .string (parameter .heard) (string "NONE") none (some toUpper)

/-- The function to upper case can be put together over the library. -/
theorem built_toUpper : Built Catalog.standard toUpper := by
  have upper : callOn Catalog.standard (parameter .word) "ToUpper" [] = .ok _ := rfl
  have made : lambdaOf Catalog.standard
      (call (some (parameter .word))
        ⟨.string, "ToUpper", [], .string, false, 0, [], .textCase .upper⟩ []) [.word] =
          .ok toUpper := rfl
  exact .lambda (.callOn (.parameter _) (List.forall_mem_nil _) upper) made

/-- The types of the example are closed and told apart by their names, and its constants are
texts. -/
theorem regular_shouted : shouted.Regular := by
  have types : shouted.types = [.string, .string, .string, textFunction, .string, .string, .string,
    .string] := rfl
  have parameters : shouted.parameters = [.heard, .word, .word] := rfl
  refine ⟨?_, DataType.coherent_of_nodup [.string, textFunction] ?_ (by decide), ?_, ?_⟩
  · rw [types]
    decide
  · rw [types]
    simp [textFunction, DataType.parts, DataType.partsAll]
  · have constants : shouted.constants = [(.string "NONE", .string)] := rfl
    rw [constants, List.forall_mem_singleton]
    exact .inr rfl
  · rw [parameters]
    simp [Parameter.word, Parameter.heard, Parameter.sameAs]

/-- A text that is there is converted to a text. -/
theorem evaluateAt_conversion_shouted :
    shouted.evaluate 1 48 [(.heard, .string "bbb")] [] = .ok (.string "BBB") ∧
      Returns (Inhabits shouted.resultType)
        (shouted.evaluate 1 48 [(.heard, .string "bbb")] []) := by
  have made : coalesceOf (parameter .heard) (string "NONE") (some toUpper) = .ok shouted := rfl
  have unaided : ∀ part ∈ (parameter .heard).nodes ++ (string "NONE").nodes ++ toUpper.nodes,
      part.Unaided := by
    simp [toUpper, string, nodes, nodesOption, nodesAll, Unaided]
  have bound : Bindings.Inhabit [(.heard, .string "bbb")] shouted.free := by
    have free : shouted.free = [.heard] := rfl
    rw [free]
    simp [Bindings.Inhabit, Bindings.get?, Parameter.sameAs, Parameter.heard, Inhabits, primitive?]
  obtain ⟨function, parameter, body, name, tailCall, same, -, -, -, returns⟩ :=
    evaluateAt_conversion (.parameter .heard) (.constant _ _) built_toUpper made regular_shouted
      unaided 1 48 bound 0 []
  cases same
  exact ⟨rfl, returns (.inl rfl)⟩

/-- A function that yields the text that it is given. -/
def repeated : Expr :=
  lambda textFunction [.word] (parameter .word) none false

/-- A number, converted as if it were a text. -/
def misconverted : Expr :=
  binary .coalesce .string (int32 5) (string "") none (some repeated)

/-- A conversion that takes texts is accepted for a number. It is applied to the number, and the
node has the number as its value, though it has the type of texts. -/
theorem evaluate_misconverted :
    Built Catalog.standard (int32 5) ∧ Built Catalog.standard (string "") ∧
      Built Catalog.standard repeated ∧
      coalesceOf (int32 5) (string "") (some repeated) = .ok misconverted ∧
      misconverted.Regular ∧
      (∀ part ∈ (int32 5).nodes ++ (string "").nodes ++ repeated.nodes, part.Unaided) ∧
      Bindings.Inhabit [] misconverted.free ∧
      (∀ budget address, misconverted.evaluate budget 48 [] address = .ok (.int32 5)) ∧
      ¬Inhabits Parameter.word.type (.int32 5) ∧
      ¬Inhabits misconverted.resultType (.int32 5) := by
  have made : lambdaOf Catalog.standard (parameter .word) [.word] = .ok repeated := rfl
  have number : ¬Inhabits .string (.int32 5) := by simp [Inhabits, primitive?]
  have types : misconverted.types =
      [.string, .int32, .string, textFunction, .string, .string] := rfl
  have parameters : misconverted.parameters = [.word, .word] := rfl
  have constants : misconverted.constants = [(.int32 5, .int32), (.string "", .string)] := rfl
  refine ⟨.constant _ _, .constant _ _, .lambda (.parameter _) made, rfl,
    ⟨?_, DataType.coherent_of_nodup [.string, .int32, textFunction] ?_ (by decide), ?_, ?_⟩, ?_, ?_,
    fun _ _ => rfl, number, number⟩
  · rw [types]
    decide
  · rw [types]
    simp [textFunction, DataType.parts, DataType.partsAll]
  · rw [constants, List.forall_mem_cons, List.forall_mem_singleton]
    exact ⟨.inr rfl, .inr rfl⟩
  · rw [parameters]
    simp [Parameter.word]
  · simp [repeated, int32, string, nodes, Unaided]
  · have free : misconverted.free = [] := rfl
    rw [free]
    intro parameter member
    cases member

end Expr

end PredicateWire
