/-
This file collects the expressions that can be put together with builders, and proves
where their handles come from. A builder checks the types of its operands and picks
members, methods and constructors from the catalog; what it yields, and under which
conditions it succeeds, is said once for each builder. `Expr.Built` closes the builders
off: an expression is built if it comes from them alone.

An expression need not be built. A method that implements an operator is handed over by
the caller, and a constant may claim any type. What a built expression guarantees is
that each of its nodes holds something that the catalog offers (`Built.offered`):
members and constructors of the catalog, methods that it has or that were closed from
it, lambdas for conversions. With this, packing and receiving such an expression is
about the catalog only.
-/
import PredicateWire.Expr.Construction
import PredicateWire.Proofs.Catalog.Handles
import PredicateWire.Proofs.Catalog.Members

namespace PredicateWire

namespace Expr

/-! ### What builders yield -/

section

variable {catalog : Catalog} {target left right result : Expr} {arguments : List Expr}

/-- Reading a member succeeds if the catalog has one of that name for the type of the target. -/
theorem memberOf_eq_ok {name : String} (made : memberOf catalog target name = .ok result) :
    ∃ read, catalog.member? target.resultType name = some read ∧ result = member target read := by
  unfold memberOf at made
  split at made
  · cases made
    exact ⟨_, ‹_›, rfl⟩
  · cases made

/-- The overload that is selected is a candidate whose parameters fit the arguments. -/
theorem selectOverload_eq_ok {call : String} {candidates : List Method} {method : Method}
    (selected : selectOverload call candidates arguments = .ok method) :
    method ∈ candidates ∧ argumentsFit method.parameters arguments = true := by
  unfold selectOverload at selected
  split at selected
  · rename_i found first
    cases selected
    have fits := List.find?_some first
    exact ⟨List.mem_of_find?_eq_some first, fits⟩
  · cases selected

/-- A call on a target is of an overload without parameters of its own type, carried over to the
type of the target. -/
theorem callOn_eq_ok {name : String} (made : callOn catalog target name arguments = .ok result) :
    ∃ definition ∈ catalog.methods,
      definition.declaringType.baseName = target.resultType.baseName ∧ definition.name = name ∧
        definition.isStatic = false ∧ definition.genericArity = 0 ∧
          argumentsFit (definition.closeOver target.resultType).parameters arguments = true ∧
            result = call (some target) (definition.closeOver target.resultType) arguments := by
  unfold callOn at made
  obtain ⟨method, selected, made⟩ := bind_eq_ok made
  cases made
  obtain ⟨candidate, fits⟩ := selectOverload_eq_ok selected
  obtain ⟨definition, member, rfl⟩ := List.mem_map.mp candidate
  simp only [Catalog.overloads, List.mem_filter, Bool.and_eq_true, beq_iff_eq, Bool.not_eq_true',
    Method.isGeneric, decide_eq_false_iff_not, Nat.not_lt, Nat.le_zero] at member
  obtain ⟨⟨member, base, named⟩, instanceMethod, plain⟩ := member
  exact ⟨definition, member, base, named, instanceMethod, plain, fits, rfl⟩

/-- A static call is of an overload of the named type that is not generic and whose parameters
accept the arguments. It has no target. -/
theorem callStatic_eq_ok {typeName name : String}
    (made : callStatic catalog typeName name arguments = .ok result) :
    ∃ method ∈ catalog.methods, method.declaringType.baseName = typeName ∧ method.name = name ∧
      method.isStatic = true ∧ method.genericArity = 0 ∧
        argumentsFit method.parameters arguments = true ∧ result = call none method arguments := by
  unfold callStatic at made
  obtain ⟨method, selected, made⟩ := bind_eq_ok made
  cases made
  obtain ⟨member, fits⟩ := selectOverload_eq_ok selected
  simp only [Catalog.overloads, List.mem_filter, Bool.and_eq_true, beq_iff_eq, Bool.not_eq_true',
    Method.isGeneric, decide_eq_false_iff_not, Nat.not_lt, Nat.le_zero] at member
  obtain ⟨⟨member, base, named⟩, isStatic, plain⟩ := member
  exact ⟨method, member, base, named, isStatic, plain, fits, rfl⟩

/-- Whatever is among the results comes from one of the items. -/
theorem mapM_mem {First Second : Type} {each : First → Result Second} {items : List First}
    {results : List Second} (succeeds : items.mapM each = .ok results) {content : Second}
    (member : content ∈ results) : ∃ item ∈ items, each item = .ok content := by
  induction items generalizing results with
  | nil =>
    cases succeeds
    cases member
  | cons item rest inductionHypothesis =>
    rw [List.mapM_cons] at succeeds
    obtain ⟨head, first, succeeds⟩ := bind_eq_ok succeeds
    obtain ⟨tail, others, succeeds⟩ := bind_eq_ok succeeds
    cases succeeds
    rcases List.mem_cons.mp member with rfl | later
    · exact ⟨item, List.mem_cons_self, first⟩
    · obtain ⟨found, foundMember, same⟩ := inductionHypothesis others later
      exact ⟨found, List.mem_cons_of_mem _ foundMember, same⟩

/-- A generic call is of a static definition that has been closed over the type arguments. -/
theorem callGeneric_eq_ok {typeName name : String} {typeArguments : List DataType}
    (made : callGeneric catalog typeName name typeArguments arguments = .ok result) :
    ∃ definition ∈ catalog.methods, ∃ method, definition.declaringType.baseName = typeName ∧
      definition.name = name ∧ definition.isStatic = true ∧
        definition.makeGeneric typeArguments = .ok method ∧
          argumentsFit method.parameters arguments = true ∧ result = call none method arguments := by
  unfold callGeneric at made
  obtain ⟨candidates, closed, made⟩ := bind_eq_ok made
  obtain ⟨method, selected, made⟩ := bind_eq_ok made
  cases made
  obtain ⟨candidate, fits⟩ := selectOverload_eq_ok selected
  obtain ⟨definition, member, makes⟩ := mapM_mem closed candidate
  simp only [Catalog.overloads, List.mem_filter, Bool.and_eq_true, beq_iff_eq] at member
  obtain ⟨⟨member, base, named⟩, ⟨isStatic, _⟩, _⟩ := member
  exact ⟨definition, member, method, base, named, isStatic, makes, fits, rfl⟩

/-- A new object is made by a constructor of the type whose parameters fit the arguments. -/
theorem new_eq_ok {type : DataType} (made : new catalog type arguments = .ok result) :
    ∃ constructor ∈ catalog.constructors, constructor.declaringType.baseName = type.baseName ∧
      argumentsFit constructor.parameters arguments = true ∧
        result = construct constructor arguments := by
  unfold new at made
  split at made
  · rename_i constructor first
    cases made
    have member := List.mem_of_find?_eq_some first
    rw [Catalog.constructorsOf, List.mem_filter, beq_iff_eq] at member
    have fits := List.find?_some first
    exact ⟨constructor, member.1, member.2, fits, rfl⟩
  · cases made

theorem newArray_eq_ok {element : DataType} {elements : List Expr}
    (made : newArray element elements = .ok result) :
    (∀ item ∈ elements, element.accepts item.resultType = true) ∧
      result = arrayInit (.array element) elements := by
  unfold newArray at made
  split at made
  · cases made
  · rename_i none
    cases made
    refine ⟨fun item member => ?_, rfl⟩
    have accepted := List.find?_eq_none.mp none item member
    rwa [Bool.not_eq_true, Bool.not_eq_false'] at accepted

theorem binaryOf_eq_ok {operator : BinaryOperator}
    (made : binaryOf operator left right = .ok result) :
    ∃ type, operator.resultType left.resultType right.resultType = .ok type ∧
      result = binary operator type left right none none := by
  unfold binaryOf at made
  obtain ⟨type, typed, made⟩ := bind_eq_ok made
  cases made
  exact ⟨type, typed, rfl⟩

theorem binaryWith_eq_ok {operator : BinaryOperator} {method : Method}
    (made : binaryWith operator left right method = .ok result) : method.isStatic = true ∧
      argumentsFit method.parameters [left, right] = true ∧
        result = binary operator method.returnType left right (some method) none := by
  unfold binaryWith at made
  split at made
  · cases made
  · rename_i shaped
    split at made
    · cases made
    · rename_i fits
      cases made
      rw [Bool.not_eq_true, Bool.not_eq_false'] at fits
      simp only [Bool.or_eq_true, Bool.not_eq_true', not_or, Bool.not_eq_false] at shaped
      exact ⟨shaped.1, fits, rfl⟩

/-- A coalescing node either has no conversion and the type that the rules for the operator give, or
a lambda with one parameter for a conversion. In the latter case the type is that of the body, which
has to accept the fallback; nothing is asked of the left operand and the parameter. -/
theorem coalesceOf_eq_ok {conversion : Option Expr}
    (made : coalesceOf left right conversion = .ok result) : ∃ type,
      result = binary .coalesce type left right none conversion ∧
        ((conversion = none ∧
            BinaryOperator.coalesce.resultType left.resultType right.resultType = .ok type) ∨
          ∃ function parameter body name tailCall, conversion =
            some (lambda function [parameter] body name tailCall) ∧ type = body.resultType ∧
              body.resultType.accepts right.resultType = true) := by
  unfold coalesceOf at made
  split at made
  · obtain ⟨type, typed, made⟩ := bind_eq_ok made
    cases made
    exact ⟨type, rfl, .inl ⟨rfl, typed⟩⟩
  · split at made <;> cases made
    exact ⟨_, rfl, .inr ⟨_, _, _, _, _, rfl, rfl, ‹_›⟩⟩
  · cases made

theorem unaryOf_eq_ok {operator : UnaryOperator} {operand : Expr}
    (made : unaryOf operator operand = .ok result) :
    operator.acceptsType operand.resultType = true ∧
      result = unary operator operand.resultType operand := by
  unfold unaryOf at made
  split at made <;> cases made
  exact ⟨‹_›, rfl⟩

/-- A lambda has the function type for its number of parameters, as the catalog has it. -/
theorem lambdaOf_eq_ok {body : Expr} {parameters : List Parameter}
    (made : lambdaOf catalog body parameters = .ok result) :
    ∃ name type, DataType.functionName? parameters.length = some name ∧
      genericType catalog name (parameters.map Parameter.type ++ [body.resultType]) = .ok type ∧
        result = lambda type parameters body none false := by
  unfold lambdaOf at made
  split at made
  · cases made
  · obtain ⟨type, typed, made⟩ := bind_eq_ok made
    cases made
    exact ⟨_, type, ‹_›, typed, rfl⟩

end

/-! ### Built expressions -/

/-- An expression that has been put together with builders over a catalog. The methods that
implement operators are handed over by the caller, who has them from the catalog. The remaining
builders, `fieldOf`, `containsItem` and `itemOf`, are put together from these. -/
inductive Built (catalog : Catalog) : Expr → Prop
  | parameter (referenced : Parameter) : Built catalog (ofParameter referenced)
  | constant (value : Value) (type : DataType) : Built catalog (constant value type)
  | member {target result : Expr} {name : String} (source : Built catalog target)
    (made : memberOf catalog target name = .ok result) : Built catalog result
  | callOn {target result : Expr} {name : String} {arguments : List Expr}
    (source : Built catalog target) (parts : ∀ argument ∈ arguments, Built catalog argument)
    (made : callOn catalog target name arguments = .ok result) : Built catalog result
  | callStatic {typeName name : String} {arguments : List Expr} {result : Expr}
    (parts : ∀ argument ∈ arguments, Built catalog argument)
    (made : callStatic catalog typeName name arguments = .ok result) : Built catalog result
  | callGeneric {typeName name : String} {typeArguments : List DataType} {arguments : List Expr}
    {result : Expr} (parts : ∀ argument ∈ arguments, Built catalog argument)
    (made : callGeneric catalog typeName name typeArguments arguments = .ok result) :
    Built catalog result
  | new {type : DataType} {arguments : List Expr} {result : Expr}
    (parts : ∀ argument ∈ arguments, Built catalog argument)
    (made : new catalog type arguments = .ok result) : Built catalog result
  | newArray {element : DataType} {elements : List Expr} {result : Expr}
    (parts : ∀ item ∈ elements, Built catalog item)
    (made : newArray element elements = .ok result) : Built catalog result
  | binary {operator : BinaryOperator} {left right result : Expr} (first : Built catalog left)
    (second : Built catalog right) (made : binaryOf operator left right = .ok result) :
    Built catalog result
  | binaryWith {operator : BinaryOperator} {left right result : Expr} {method : Method}
    (first : Built catalog left) (second : Built catalog right) (offers : catalog.Offers method)
    (made : binaryWith operator left right method = .ok result) : Built catalog result
  | coalesce {left right result : Expr} {conversion : Option Expr} (first : Built catalog left)
    (second : Built catalog right) (third : ∀ converter ∈ conversion, Built catalog converter)
    (made : coalesceOf left right conversion = .ok result) : Built catalog result
  | unary {operator : UnaryOperator} {operand result : Expr} (part : Built catalog operand)
    (made : unaryOf operator operand = .ok result) : Built catalog result
  | lambda {body result : Expr} {parameters : List Parameter} (inner : Built catalog body)
    (made : lambdaOf catalog body parameters = .ok result) : Built catalog result

/-! ### Where handles come from -/

/-- What a node itself holds comes from the catalog, and conversions are lambdas. -/
def Offered (catalog : Catalog) : Expr → Prop
  | binary _ type _ _ method conversion =>
    (∀ implementation ∈ method,
      catalog.Offers implementation ∧ implementation.returnType = type) ∧
        ∀ converter ∈ conversion, converter.isLambda = true
  | member _ read => catalog.member? read.declaringType read.name = some read
  | call _ method _ => catalog.Offers method
  | construct constructor _ => constructor ∈ catalog.constructors
  | arrayInit type _ => ∃ element, type = .array element
  | _ => True

/-- The nodes of several expressions hold what the catalog offers if those of each expression do. -/
theorem forall_nodesAll {catalog : Catalog} {expressions : List Expr}
    (each : ∀ expression ∈ expressions, ∀ node ∈ expression.nodes, Offered catalog node) :
    ∀ node ∈ nodesAll expressions, Offered catalog node := by
  intro node member
  obtain ⟨expression, expressionMember, within⟩ := mem_nodesAll.mp member
  exact each expression expressionMember node within

/-- Every node of a built expression holds what the catalog offers. -/
theorem Built.offered {catalog : Catalog} {expression : Expr} (built : Built catalog expression) :
    ∀ node ∈ expression.nodes, Offered catalog node := by
  induction built with
  | parameter referenced =>
    intro node member
    cases List.mem_singleton.mp member
    trivial
  | constant value type =>
    intro node member
    cases List.mem_singleton.mp member
    trivial
  | member source made inductionHypothesis =>
    obtain ⟨read, found, rfl⟩ := memberOf_eq_ok made
    rw [nodes, List.forall_mem_cons]
    exact ⟨Catalog.member?_self found, inductionHypothesis⟩
  | callOn source parts made sourceHypothesis partsHypothesis =>
    obtain ⟨definition, member, base, _, _, plain, _, rfl⟩ := callOn_eq_ok made
    rw [nodes, List.forall_mem_cons, List.forall_mem_append]
    exact ⟨.open (.carried member (absurd plain) base), sourceHypothesis,
      forall_nodesAll partsHypothesis⟩
  | callStatic parts made partsHypothesis =>
    obtain ⟨method, member, _, _, _, plain, _, rfl⟩ := callStatic_eq_ok made
    rw [nodes, List.forall_mem_cons]
    exact ⟨.open (.definition member (absurd plain)), forall_nodesAll partsHypothesis⟩
  | callGeneric parts made partsHypothesis =>
    obtain ⟨definition, member, method, _, _, _, makes, _, rfl⟩ := callGeneric_eq_ok made
    have unclosed := (Method.isGenericDefinition_iff.mp (Method.makeGeneric_eq_ok.mp makes).1).2
    rw [nodes, List.forall_mem_cons]
    exact ⟨.closed (.definition member fun _ => unclosed) makes, forall_nodesAll partsHypothesis⟩
  | new parts made partsHypothesis =>
    obtain ⟨constructor, member, _, _, rfl⟩ := new_eq_ok made
    rw [nodes, List.forall_mem_cons]
    exact ⟨member, forall_nodesAll partsHypothesis⟩
  | newArray parts made partsHypothesis =>
    obtain ⟨_, rfl⟩ := newArray_eq_ok made
    rw [nodes, List.forall_mem_cons]
    exact ⟨⟨_, rfl⟩, forall_nodesAll partsHypothesis⟩
  | binary first second made firstHypothesis secondHypothesis =>
    obtain ⟨type, _, rfl⟩ := binaryOf_eq_ok made
    rw [nodes, List.forall_mem_cons, nodesOption, List.append_nil, List.forall_mem_append]
    exact ⟨⟨nofun, nofun⟩, firstHypothesis, secondHypothesis⟩
  | binaryWith first second offers made firstHypothesis secondHypothesis =>
    obtain ⟨_, _, rfl⟩ := binaryWith_eq_ok made
    rw [nodes, List.forall_mem_cons, nodesOption, List.append_nil, List.forall_mem_append]
    refine ⟨⟨fun implementation present => ?_, nofun⟩, firstHypothesis, secondHypothesis⟩
    cases present
    exact ⟨offers, rfl⟩
  | coalesce first second third made firstHypothesis secondHypothesis thirdHypothesis =>
    obtain ⟨type, rfl, shape⟩ := coalesceOf_eq_ok made
    rw [nodes, List.forall_mem_cons, List.forall_mem_append, List.forall_mem_append]
    refine ⟨⟨nofun, ?_⟩, ⟨firstHypothesis, secondHypothesis⟩, ?_⟩
    · rcases shape with ⟨rfl, _⟩ | ⟨_, _, _, _, _, rfl, _⟩
      · exact nofun
      · intro converter present
        cases present
        rfl
    · rcases shape with ⟨rfl, _⟩ | ⟨_, _, _, _, _, rfl, _⟩
      · exact nofun
      · exact thirdHypothesis _ rfl
  | unary part made inductionHypothesis =>
    obtain ⟨_, rfl⟩ := unaryOf_eq_ok made
    rw [nodes, List.forall_mem_cons]
    exact ⟨trivial, inductionHypothesis⟩
  | lambda inner made inductionHypothesis =>
    obtain ⟨_, _, _, _, rfl⟩ := lambdaOf_eq_ok made
    rw [nodes, List.forall_mem_cons, List.forall_mem_append]
    refine ⟨trivial, inductionHypothesis, fun node member => ?_⟩
    obtain ⟨parameter, _, rfl⟩ := List.mem_map.mp member
    trivial

end Expr

end PredicateWire
