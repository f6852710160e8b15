/-
This file proves the round trip between two ends that know the same catalog. What comes
out is the expression that went in, with other parameters in place of its own: different
ones for different ones, and like the old ones in everything but identity. What has to
hold of the expression is collected in `Portable`; what is lost beyond it is lost to the
reader of documents, which gives up on deep ones and takes some doubles for a neighbour.

The depth of a document is not a condition but part of the statement: a packet is
received exactly if its document nests no more than 127 levels deep, and under a depth
limit of 62 this is always so. That a larger limit is not enough is shown by a
conjunction that is packed and refused. A predicate with members, a method, a
constructor and a record shows that the conditions can be met together.
-/
import PredicateWire.Catalog.RecordSpec
import PredicateWire.Proofs.Catalog.Handles
import PredicateWire.Proofs.Json.Levels
import PredicateWire.Proofs.Value.Literal
import PredicateWire.Proofs.Wire.Delivery

namespace PredicateWire

namespace Expr

/-! ### Nodes that are received as they are -/

/-- What a node itself holds is received as it is. -/
def Restored (catalog : Catalog) : Expr → Prop
  | binary _ _ _ _ method conversion =>
    (∀ implementation ∈ method, catalog.receivedMethod id implementation = .ok implementation) ∧
      ∀ converter ∈ conversion, converter.isLambda = true
  | member _ read => catalog.receivedMember id read = .ok read
  | constant value type => Value.ofLiteral type value.document.normalize = .ok value
  | call _ method _ => catalog.receivedMethod id method = .ok method
  | construct constructor _ => catalog.receivedConstructor id constructor = .ok constructor
  | arrayInit type _ => ∃ element, type = .array element
  | unary _ _ _ => False
  | _ => True

section

variable {catalog : Catalog} {made : Parameter → Parameter}

theorem checkedConversion_rename {conversion : Option Expr}
    (lambdas : ∀ converter ∈ conversion, converter.isLambda = true) :
    checkedConversion (renameOption made conversion) = .ok () := by
  cases conversion with
  | none => rfl
  | some converter =>
    have isLambda := lambdas converter rfl
    cases converter with
    | lambda => rfl
    | _ => cases isLambda

theorem receivedMethod?_self {method : Option Method} (restored : ∀ implementation ∈ method,
    catalog.receivedMethod id implementation = .ok implementation) :
    catalog.receivedMethod? id method = .ok method := by
  cases method with
  | none => rfl
  | some method =>
    rw [Catalog.receivedMethod?, restored method rfl]
    rfl

mutual

/-- An expression whose nodes are received as they are is received with other parameters, and
otherwise as it is. -/
theorem received_rename : ∀ {expression : Expr},
    (∀ node ∈ expression.nodes, node.Restored catalog) →
      expression.received catalog id made = .ok (expression.rename made)
  | .lambda type parameters body name tailCall, restored => by
    rw [nodes, List.forall_mem_cons, List.forall_mem_append] at restored
    rw [received, received_rename restored.2.1, rename]
    rfl
  | .parameter referenced, _ => by rw [received, rename]
  | .binary operator type left right method conversion, restored => by
    rw [nodes, List.forall_mem_cons, List.forall_mem_append, List.forall_mem_append] at restored
    obtain ⟨⟨methodRestored, lambdas⟩, ⟨leftRestored, rightRestored⟩, conversionRestored⟩ := restored
    rw [received, receivedOption_rename conversionRestored, received_rename leftRestored,
      received_rename rightRestored, receivedMethod?_self methodRestored, rename]
    simp only [bind, Except.bind, checkedConversion_rename lambdas]
    rfl
  | .member target read, restored => by
    rw [nodes, List.forall_mem_cons] at restored
    rw [received, received_rename restored.2, restored.1, rename]
    rfl
  | .constant value type, restored => by
    have readBack : Value.ofLiteral type value.document.normalize = .ok value :=
      restored _ (List.mem_singleton_self _)
    rw [received, id, readBack, rename]
    rfl
  | .call target method arguments, restored => by
    rw [nodes, List.forall_mem_cons, List.forall_mem_append] at restored
    have handle : catalog.receivedMethod id method = .ok method := restored.1
    rw [received, receivedOption_rename restored.2.1, handle, receivedAll_rename restored.2.2,
      rename]
    rfl
  | .construct constructor arguments, restored => by
    rw [nodes, List.forall_mem_cons] at restored
    have handle : catalog.receivedConstructor id constructor = .ok constructor := restored.1
    rw [received, handle, receivedAll_rename restored.2, rename]
    rfl
  | .arrayInit type elements, restored => by
    rw [nodes, List.forall_mem_cons] at restored
    obtain ⟨element, rfl⟩ := restored.1
    rw [received, receivedAll_rename restored.2, rename]
    rfl
  | .unary operator type operand, restored => by
    rw [nodes, List.forall_mem_cons] at restored
    exact restored.1.elim

theorem receivedAll_rename : ∀ {expressions : List Expr},
    (∀ node ∈ nodesAll expressions, node.Restored catalog) →
      receivedAll catalog id made expressions = .ok (renameAll made expressions)
  | [], _ => by rw [receivedAll, renameAll]
  | first :: rest, restored => by
    rw [nodesAll, List.forall_mem_append] at restored
    rw [receivedAll, received_rename restored.1, receivedAll_rename restored.2, renameAll]
    rfl

theorem receivedOption_rename : ∀ {expression : Option Expr},
    (∀ node ∈ nodesOption expression, node.Restored catalog) →
      receivedOption catalog id made expression = .ok (renameOption made expression)
  | none, _ => by rw [receivedOption, renameOption]
  | some expression, restored => by
    rw [receivedOption, received_rename restored, renameOption]
    rfl

end

end

/-! ### Expressions that come through -/

/-- Conversions are lambdas, and array initialisers have an array type. -/
def Shaped : Expr → Prop
  | binary _ _ _ _ _ conversion => ∀ converter ∈ conversion, converter.isLambda = true
  | arrayInit type _ => ∃ element, type = .array element
  | _ => True

/-- What an expression needs to come through to a receiver with the same catalog. Parameters are
told apart by name and type name as well as by identity, the catalog finds every type under its
name and every handle by what a packet says of it, and constants conform to their types. -/
structure Portable (catalog : Catalog) (expression : Expr) : Prop where
  handles : ∀ first ∈ expression.parameters, ∀ second ∈ expression.parameters,
    first.sameAs second = true → first = second
  apart : ∀ first ∈ expression.parameters, ∀ second ∈ expression.parameters,
    first.Alike second → first = second
  types : ∀ type ∈ expression.types,
    type.isClosed = true ∧ catalog.typeNamed type.canonicalName = .ok type
  members : ∀ read ∈ expression.members, catalog.member? read.declaringType read.name = some read
  methods : ∀ method ∈ expression.methods, catalog.Offers method ∧ catalog.Singles method ∧
    method.returnType.isClosed = true ∧ method.genericArity < 2 ^ 64
  constructors : ∀ constructor ∈ expression.constructors,
    constructor ∈ catalog.constructors ∧ catalog.SinglesConstructor constructor
  constants : ∀ constant ∈ expression.constants, Value.Conforms constant.2 constant.1
  shapes : ∀ node ∈ expression.nodes, node.Shaped

section

variable {catalog : Catalog} {expression node : Expr}

theorem ownTypes_subset (member : node ∈ expression.nodes) :
    ∀ type ∈ node.ownTypes, type ∈ expression.types :=
  fun _ own => List.mem_flatMap.mpr ⟨node, member, own⟩

theorem ownMethods_subset (member : node ∈ expression.nodes) :
    ∀ method ∈ node.ownMethods, method ∈ expression.methods :=
  fun _ own => List.mem_flatMap.mpr ⟨node, member, own⟩

/-- The method of a node is received as it is, if it is closed. The catalog has the types of the
method under their names and no other overload with parameters of their shapes. -/
theorem Portable.received_method (portable : Portable catalog expression)
    (member : node ∈ expression.nodes) {method : Method} (own : method ∈ node.ownMethods)
    (types : ∀ type ∈ method.types, type ∈ node.ownTypes)
    (notOpen : method.isGenericDefinition = false) :
    catalog.receivedMethod id method = .ok method := by
  obtain ⟨offers, singles, returnType, _⟩ :=
    portable.methods method (ownMethods_subset member method own)
  exact offers.received (fun type typeMember =>
    (portable.types type (ownTypes_subset member type (types type typeMember))).1) returnType
      notOpen singles

/-- Every node of an expression that comes through is received as it is. -/
theorem Portable.restored (portable : Portable catalog expression) {limit depth : Nat}
    (packable : expression.Packable limit depth) (member : node ∈ expression.nodes) :
    node.Restored catalog := by
  obtain ⟨below, admitted⟩ := packable.admitted node member
  have shaped := portable.shapes node member
  cases node with
  | lambda => trivial
  | parameter => trivial
  | binary operator type left right method conversion =>
    refine ⟨fun implementation present => ?_, shaped⟩
    cases present
    refine portable.received_method member (.head _) (fun type typeMember => ?_) (admitted _ rfl)
    simpa [ownTypes] using .inr typeMember
  | member target read =>
    have found := portable.members read (List.mem_filterMap.mpr ⟨_, member, rfl⟩)
    simp only [Restored, Catalog.receivedMember, Catalog.memberFor, id_eq, found]
  | constant value type =>
    have conforms := portable.constants (value, type) (List.mem_filterMap.mpr ⟨_, member, rfl⟩)
    exact conforms.ofLiteral admitted.2
  | call target method arguments =>
    exact portable.received_method member (.head _) (fun _ => .tail _) admitted
  | construct constructor arguments =>
    obtain ⟨offered, singles⟩ :=
      portable.constructors constructor (List.mem_filterMap.mpr ⟨_, member, rfl⟩)
    exact Catalog.received_of_mem_constructors offered (fun type typeMember =>
      (portable.types type (ownTypes_subset member type (.tail _ typeMember))).1) singles
  | arrayInit type elements => exact shaped
  | unary => exact admitted

/-- Every node of an expression that comes through can be written and read back, provided that its
doubles are. The arity of its methods is below 64 bits by the conditions on methods. -/
theorem Portable.writable (portable : Portable catalog expression)
    (doubles : ∀ constant ∈ expression.constants, ∀ number ∈ constant.1.doubles,
      Json.ReadsBack number) (member : node ∈ expression.nodes) : node.Writable := by
  cases node with
  | binary operator type left right method conversion =>
    intro implementation present
    cases present
    exact (portable.methods _ (ownMethods_subset member _ (.head _))).2.2.2
  | constant value type => exact doubles (value, type) (List.mem_filterMap.mpr ⟨_, member, rfl⟩)
  | call target method arguments =>
    exact (portable.methods _ (ownMethods_subset member _ (.head _))).2.2.2
  | _ => trivial

end

end Expr

namespace Serializer

open TypeTable

/-- A packet whose document nests too deeply is refused. Its nodes have to be writable, for
otherwise the text could be unreadable for another reason, or be read in another way. -/
theorem refused_of_deep {serializer : Serializer} {source : Nat → UInt32} {scope : Nat}
    {expression : Expr} {packet : Packet} (writable : ∀ node ∈ expression.nodes, node.Writable)
    (sent : serializer.serialize source expression = .ok packet)
    (deep : Json.greatestNesting < expression.documentNesting) :
    serializer.deserializeExpr scope packet = .error (.codec (.unreadable (some .tree))) := by
  obtain ⟨table, carries, rfl⟩ := exists_carries sent
  have read := Json.read?_written_eq (Expr.readable_node table.keyFor expression writable)
  rw [Expr.nesting_node_eq, if_neg (Nat.not_le_of_gt deep)] at read
  exact serializer.deserializeExpr_unreadable carries.sound serializer.settings.encoding read scope

/-- A packet whose document is not too deep is deserialized by its sender to the expression with
other parameters, if its nodes are received as they are. That they are may depend on the checks of
packing, since these are what makes constants have documents and methods closed. -/
theorem deserializeExpr_restored {serializer : Serializer} {source : Nat → UInt32} (scope : Nat)
    {expression : Expr} {packet : Packet} (types : ∀ type ∈ expression.types,
      serializer.catalog.typeNamed type.canonicalName = .ok type)
    (writable : ∀ node ∈ expression.nodes, node.Writable)
    (restored : expression.Packable serializer.settings.maxDepth 0 →
      ∀ node ∈ expression.nodes, node.Restored serializer.catalog)
    (sent : serializer.serialize source expression = .ok packet)
    (shallow : expression.documentNesting ≤ Json.greatestNesting) :
    ∃ made : Parameter → Parameter,
      serializer.deserializeExpr scope packet = .ok (expression.rename made) ∧
        Interns id expression.parameters made := by
  obtain ⟨table, carries, rfl⟩ := exists_carries sent
  have read := Json.read?_written_eq (Expr.readable_node table.keyFor expression writable)
  rw [Expr.nesting_node_eq, if_pos shallow] at read
  have receives : ∀ type ∈ expression.types,
      (table.loaded serializer.catalog).Receives id type := fun type member =>
    ⟨carries.known type member, Received.of_empty (typeNamed_eq_ok.mp (types type member)) rfl⟩
  obtain ⟨made, delivered, interns⟩ := deserializeExpr_ofNode serializer
    carries.sound carries.packable receives (fun _ _ => rfl) read
      serializer.settings.encoding scope
  have received : expression.received serializer.catalog id made = .ok (expression.rename made) :=
    Expr.received_rename (restored carries.packable)
  exact ⟨made, delivered.trans received, interns _ received⟩

/-- A packet is deserialized by its sender to the expression with other parameters in place of its
own. They have the names, types and flags of the old ones, and they are different where the old ones
are. This is so if and only if the document of the expression nests no more than 127 levels deep, as
it always does under a depth limit of 62. The doubles among the constants have to be read back from
their texts, for the reader of documents takes some of them for a neighbour. -/
theorem deserializeExpr_serialize {serializer : Serializer} {source : Nat → UInt32} (scope : Nat)
    {expression : Expr} {packet : Packet} (portable : expression.Portable serializer.catalog)
    (doubles : ∀ constant ∈ expression.constants, ∀ number ∈ constant.1.doubles,
      Json.ReadsBack number)
    (sent : serializer.serialize source expression = .ok packet) :
    (serializer.settings.maxDepth ≤ 62 → expression.documentNesting ≤ Json.greatestNesting) ∧
    (expression.documentNesting ≤ Json.greatestNesting → ∃ made : Parameter → Parameter,
      serializer.deserializeExpr scope packet = .ok (expression.rename made) ∧
      (∀ parameter ∈ expression.parameters, (made parameter).name = parameter.name ∧
        (made parameter).type = parameter.type ∧
        (made parameter).byReference = parameter.byReference) ∧
      ∀ first ∈ expression.parameters, ∀ second ∈ expression.parameters,
        (made first).sameAs (made second) = first.sameAs second) ∧
    (Json.greatestNesting < expression.documentNesting → serializer.deserializeExpr scope packet =
      .error (.codec (.unreadable (some .tree)))) := by
  refine ⟨fun limited => ?_, fun shallow => ?_,
    refused_of_deep (fun _ => portable.writable doubles) sent⟩
  · obtain ⟨table, carries, rfl⟩ := exists_carries sent
    have bound := Expr.documentNesting_le carries.packable
    have greatest : Json.greatestNesting = 127 := rfl
    omega
  · obtain ⟨made, delivered, interned⟩ := deserializeExpr_restored scope
      (fun type member => (portable.types type member).2) (fun _ => portable.writable doubles)
      (fun packable _ => portable.restored packable) sent shallow
    refine ⟨made, delivered, fun parameter member => ?_,
      fun first firstMember second secondMember => ?_⟩
    · obtain ⟨first, firstMember, alike, name, type, flag⟩ := interned.like parameter member
      rw [portable.apart first firstMember parameter member alike] at name type flag
      exact ⟨name, type, flag⟩
    · rw [Bool.eq_iff_iff]
      constructor
      · intro same
        have alike := interned.apart first firstMember second secondMember same
        rw [portable.apart first firstMember second secondMember alike]
        exact beq_self_eq_true _
      · intro same
        rw [portable.handles first firstMember second secondMember same]
        exact beq_self_eq_true _

end Serializer

/-! ### An expression of many kinds of nodes -/

namespace Expr

/-- A record with a constructor and a method. -/
def gauge : RecordSpec :=
  ⟨"Gauge", [⟨"Level", .double, true⟩], [["Level"]],
    [⟨"Capped", [.double], .double, .script (.argument 0)⟩]⟩

/-- The gauge that a predicate is asked about. -/
def askedGauge : Parameter :=
  ⟨⟨0, 0⟩, "gauge", gauge.type, false⟩

/-- The level of a gauge. -/
def levelOf (target : Expr) : Expr :=
  member target ⟨gauge.type, "Level", .double, .field true⟩

/-- The method of gauges. -/
def capped : Method :=
  .instanceMethod gauge.type "Capped" [.double] .double (.script (.argument 0))

/-- A gauge that is half full. -/
def halfFull : Value :=
  .record [("Level", .double 0.5)]

/-- Is a gauge made from the capped level of the given one more than half full? -/
def fuller : Expr :=
  lambda (.generic "sys.Func`2" .function [gauge.type, .bool]) [askedGauge]
    (binary .lessThan .bool (levelOf (constant halfFull gauge.type))
      (levelOf (construct (gauge.positional ["Level"])
        [call (some (parameter askedGauge)) capped [levelOf (parameter askedGauge)]]))
      none none) none false

/-- The built-in library and gauges. -/
def gauges : Catalog :=
  Catalog.standard.registerRecord gauge

theorem types_fuller : ∀ type ∈ fuller.types,
    type ∈ [.generic "sys.Func`2" .function [gauge.type, .bool], .bool, .double, gauge.type] := by
  have types : fuller.types = [.generic "sys.Func`2" .function [gauge.type, .bool], .bool, .double,
    gauge.type, gauge.type, .double, gauge.type, gauge.type, .double, .double, gauge.type, .double,
    gauge.type, .double, gauge.type, gauge.type, gauge.type] := rfl
  rw [types]
  simp

theorem constants_fuller : fuller.constants = [(halfFull, gauge.type)] := rfl

theorem parameters_fuller : fuller.parameters = [askedGauge, askedGauge, askedGauge] := rfl

theorem typeNamed_gauges : ∀ type ∈ [.generic "sys.Func`2" .function [gauge.type, .bool], .bool,
    .double, gauge.type], type.isClosed = true ∧
      gauges.typeNamed type.canonicalName = .ok type := by
  have known : ∀ {type : DataType}, gauges.findType? type.canonicalName = some type →
      gauges.typeNamed type.canonicalName = .ok type :=
    fun found => TypeTable.typeNamed_eq_ok.mpr (.known found)
  have parsed : TypeName.parse "sys.Func`2[[Gauge],[sys.Boolean]]" =
      .ok (.generic "sys.Func`2" ["Gauge", "sys.Boolean"]) := by decide +kernel
  have function : gauges.typeNamed "sys.Func`2[[Gauge],[sys.Boolean]]" =
      .ok (.generic "sys.Func`2" .function [gauge.type, .bool]) := by
    refine TypeTable.typeNamed_eq_ok.mpr (.generic (by decide +kernel) parsed
      (rfl : _ = some (Library.functionDefinition "sys.Func`2" 1))
      (rfl : _ = [gauge.type, DataType.bool].length) ?_ rfl)
    simp only [List.zip_cons_cons, List.zip_nil_left, List.forall_mem_cons]
    exact ⟨.known rfl, .known rfl, List.forall_mem_nil _⟩
  simp only [List.forall_mem_cons]
  exact ⟨⟨rfl, function⟩, ⟨rfl, known rfl⟩, ⟨rfl, known rfl⟩, ⟨rfl, known rfl⟩,
    List.forall_mem_nil _⟩

theorem portable_fuller : fuller.Portable gauges where
  handles := by
    rw [parameters_fuller]
    simp
  apart := by
    rw [parameters_fuller]
    simp
  types := fun type member => typeNamed_gauges type (types_fuller type member)
  members := by
    have members : fuller.members = [⟨gauge.type, "Level", .double, .field true⟩,
      ⟨gauge.type, "Level", .double, .field true⟩, ⟨gauge.type, "Level", .double, .field true⟩] :=
        rfl
    rw [members]
    simp only [List.forall_mem_cons]
    exact ⟨rfl, rfl, rfl, List.forall_mem_nil _⟩
  methods := by
    have methods : fuller.methods = [capped] := rfl
    rw [methods, List.forall_mem_singleton]
    exact ⟨.open (.definition (List.mem_append_right _ (List.mem_singleton_self _))
        fun generic => absurd rfl generic),
      (by decide +kernel : List.length _ ≤ 1), rfl, by decide⟩
  constructors := by
    have constructors : fuller.constructors = [gauge.positional ["Level"]] := rfl
    rw [constructors, List.forall_mem_singleton]
    exact ⟨List.mem_append_right _ (List.mem_singleton_self _),
      (by decide +kernel : List.length _ ≤ 1)⟩
  constants := by
    rw [constants_fuller, List.forall_mem_singleton]
    refine .record (List.pairwise_singleton _ _) ?_ ?_ ?_
    · simp [gauge]
    · simp [gauge, Entries.get?]
    · simp only [gauge, List.forall_mem_singleton]
      intro content found
      cases found
      exact .double 0.5
  shapes := by
    simp [fuller, levelOf, nodes, nodesOption, nodesAll, Shaped]

end Expr

namespace Serializer

/-- One end of the wire that knows gauges. -/
def gauging : Serializer :=
  ⟨Expr.gauges, Settings.standard⟩

theorem serialize_fuller : ∃ packet, gauging.serialize UInt32.ofNat Expr.fuller = .ok packet := by
  have succeeds : (gauging.serialize UInt32.ofNat Expr.fuller).toBool = true := by decide +kernel
  cases sent : gauging.serialize UInt32.ofNat Expr.fuller with
  | ok packet => exact ⟨packet, rfl⟩
  | error error =>
    rw [sent] at succeeds
    cases succeeds

/-- A predicate with members, a method, a constructor and a record for a constant comes through. -/
theorem deserializeExpr_serialize_fuller :
    Expr.fuller.Portable Expr.gauges ∧
    ∃ packet, gauging.serialize UInt32.ofNat Expr.fuller = .ok packet ∧
      ∃ made : Parameter → Parameter,
        gauging.deserializeExpr 1 packet = .ok (Expr.fuller.rename made) ∧
          (made Expr.askedGauge).name = "gauge" ∧ (made Expr.askedGauge).type = Expr.gauge.type := by
  have doubles : ∀ constant ∈ Expr.fuller.constants, ∀ number ∈ constant.1.doubles,
      Json.ReadsBack number := by
    rw [Expr.constants_fuller, List.forall_mem_singleton]
    decide +kernel
  obtain ⟨packet, sent⟩ := serialize_fuller
  have whole := deserializeExpr_serialize 1 Expr.portable_fuller doubles sent
  obtain ⟨made, rebuilt, like, _⟩ := whole.2.1 (whole.1 (by decide))
  obtain ⟨name, type, _⟩ := like Expr.askedGauge (by
    rw [Expr.parameters_fuller]
    exact .head _)
  exact ⟨Expr.portable_fuller, packet, sent, made, rebuilt, name, type⟩

end Serializer

/-! ### A deep expression -/

namespace Expr

/-- The conjunction of a truth value with itself, over and over. -/
def conjunction (truth : Parameter) : Nat → Expr
  | 0 => parameter truth
  | times + 1 => binary .andAlso .bool (parameter truth) (conjunction truth times) none none

/-- A truth value that a predicate may be asked about. -/
def asked : Parameter :=
  ⟨⟨0, 0⟩, "asked", .bool, false⟩

theorem nodes_conjunction (truth : Parameter) (times : Nat) :
    ∀ node ∈ (conjunction truth times).nodes, node = parameter truth ∨
      ∃ fewer, node = conjunction truth (fewer + 1) := by
  induction times with
  | zero =>
    intro node member
    rw [conjunction, nodes] at member
    exact .inl (List.mem_singleton.mp member)
  | succ times inductionHypothesis =>
    intro node member
    rw [conjunction, nodes] at member
    simp only [nodes, nodesOption, List.append_nil, List.mem_cons, List.singleton_append] at member
    rcases member with rfl | rfl | below
    · exact .inr ⟨times, rfl⟩
    · exact .inl rfl
    · exact inductionHypothesis node below

theorem documentNesting_conjunction (truth : Parameter) (times : Nat) :
    (conjunction truth times).documentNesting = times + 1 := by
  induction times with
  | zero =>
    simp [documentNesting, conjunction, node, Parameter.node, Node.toJson, Json.nesting,
      nestingMembers_headMembers]
  | succ times inductionHypothesis =>
    unfold documentNesting at inductionHypothesis
    simp [documentNesting, conjunction, node, nodeOption, Parameter.node, Node.toJson,
      Node.optionToJson, Json.optionalMember, Json.nesting, nestingMembers_headMembers,
      inductionHypothesis]

theorem constants_conjunction (truth : Parameter) (times : Nat) :
    (conjunction truth times).constants = [] := by
  refine List.filterMap_eq_nil_iff.mpr fun node member => ?_
  rcases nodes_conjunction truth times node member with rfl | ⟨fewer, rfl⟩ <;> rfl

theorem portable_conjunction (times : Nat) :
    (conjunction asked times).Portable Catalog.standard := by
  have parameters : ∀ referenced ∈ (conjunction asked times).parameters, referenced = asked := by
    intro referenced member
    obtain ⟨node, nodeMember, refers⟩ := List.mem_filterMap.mp member
    rcases nodes_conjunction asked times node nodeMember with rfl | ⟨fewer, rfl⟩
    · exact (Option.some.inj refers).symm
    · cases refers
  have one : ∀ first ∈ (conjunction asked times).parameters,
      ∀ second ∈ (conjunction asked times).parameters, first = second :=
    fun first firstMember second secondMember =>
      (parameters first firstMember).trans (parameters second secondMember).symm
  refine ⟨fun first firstMember second secondMember _ => one first firstMember second secondMember,
    fun first firstMember second secondMember _ => one first firstMember second secondMember,
    fun type member => ?_, fun read member => ?_, fun method member => ?_,
    fun constructor member => ?_, fun constant member => ?_, fun node member => ?_⟩
  · obtain ⟨node, nodeMember, own⟩ := List.mem_flatMap.mp member
    have boolean : type = .bool := by
      rcases nodes_conjunction asked times node nodeMember with rfl | ⟨fewer, rfl⟩
      · exact List.mem_singleton.mp own
      · exact List.mem_singleton.mp own
    rw [boolean]
    exact ⟨rfl, TypeTable.typeNamed_eq_ok.mpr (.known rfl)⟩
  · obtain ⟨node, nodeMember, own⟩ := List.mem_filterMap.mp member
    rcases nodes_conjunction asked times node nodeMember with rfl | ⟨fewer, rfl⟩ <;> cases own
  · obtain ⟨node, nodeMember, own⟩ := List.mem_flatMap.mp member
    rcases nodes_conjunction asked times node nodeMember with rfl | ⟨fewer, rfl⟩ <;> cases own
  · obtain ⟨node, nodeMember, own⟩ := List.mem_filterMap.mp member
    rcases nodes_conjunction asked times node nodeMember with rfl | ⟨fewer, rfl⟩ <;> cases own
  · rw [constants_conjunction] at member
    cases member
  · rcases nodes_conjunction asked times node member with rfl | ⟨fewer, rfl⟩
    · trivial
    · exact fun _ absurd => nomatch absurd

/-- Once truth values have a key, their type is packed with no change to the table. -/
theorem pack_bool {table : TypeTable} {key : TypeKey}
    (known : table.keyOf? "sys.Boolean" = some key) :
    (TypeTable.pack false .bool).run table = (.ok key, table) := by
  unfold TypeTable.pack TypeTable.enter
  rw [Running.run_bind, Running.run_get]
  have named : table.keyOf? DataType.bool.canonicalName = some key := known
  dsimp only
  rw [named]
  rfl

/-- A conjunction is packed if it is within the depth limit. All nodes have the type of truth
values, so that the first of them draws a key and the table stays as it is from there on. -/
theorem packAt_conjunction {limit : Nat} (times depth : Nat) (shallow : depth + times ≤ limit)
    {table after : TypeTable} {key : TypeKey}
    (packed : (TypeTable.pack false .bool).run table = (.ok key, after))
    (known : after.keyOf? "sys.Boolean" = some key) :
    (Node.packAt limit (conjunction asked times) depth).run table =
      (.ok ((conjunction asked times).node fun _ => key), after) := by
  have passes : ∀ {below : Nat} {start : TypeTable}, below ≤ limit →
      (TypeTable.pack false .bool).run start = (.ok key, after) →
      (Node.packAt limit (parameter asked) below).run start =
        (.ok ((parameter asked).node fun _ => key), after) := by
    intro below start within packed
    unfold Node.packAt Node.packParameter
    simp only [Nat.not_lt.mpr within, if_false, asked, Running.run_bind, packed, Running.run_pure]
    rfl
  induction times generalizing depth table with
  | zero => exact passes shallow packed
  | succ times inductionHypothesis =>
    have right := inductionHypothesis (depth + 1) (by omega) (pack_bool known)
    rw [conjunction]
    unfold Node.packAt
    simp only [Nat.not_lt.mpr (show depth ≤ limit by omega), if_false, Running.run_bind, packed,
      passes (show depth + 1 ≤ limit by omega) (pack_bool known), right]
    rfl

end Expr

namespace Serializer

/-- One end of the wire with the built-in library and a depth limit. -/
def limited (maxDepth : Nat) : Serializer :=
  ⟨Catalog.standard, { Settings.standard with maxDepth := maxDepth }⟩

theorem serialize_conjunction {limit times : Nat} (shallow : times ≤ limit) :
    ∃ packet, (limited limit).serialize (fun _ => 0) (Expr.conjunction Expr.asked times) =
      .ok packet := by
  obtain ⟨key, after, packed, known⟩ : ∃ key after,
      (TypeTable.pack false .bool).run (TypeTable.empty Catalog.standard fun _ => 0) =
        (.ok key, after) ∧ after.keyOf? "sys.Boolean" = some key := ⟨_, _, rfl, rfl⟩
  have tree := Expr.packAt_conjunction times 0 (Nat.zero_add times ▸ shallow) packed known
  have ran : (encode (limited limit).settings (Expr.conjunction Expr.asked times)).run
      (TypeTable.empty Catalog.standard fun _ => 0) =
        (.ok (.ofNode (limited limit).settings.encoding
          ((Expr.conjunction Expr.asked times).node fun _ => key) after), after) := by
    unfold encode Node.pack
    rw [Running.run_bind, show (limited limit).settings.maxDepth = limit from rfl, tree]
    rfl
  exact ⟨_, congrArg Prod.fst ran⟩

/-- Under a depth limit of 200 a portable expression can be packed whose packet is refused, because
its document nests 128 levels deep. -/
theorem deserializeExpr_serialize_deep :
    (Expr.conjunction Expr.asked 127).Portable Catalog.standard ∧
    (Expr.conjunction Expr.asked 127).constants = [] ∧
    ∃ packet,
      (limited 200).serialize (fun _ => 0) (Expr.conjunction Expr.asked 127) = .ok packet ∧
      (limited 200).deserializeExpr 1 packet = .error (.codec (.unreadable (some .tree))) := by
  obtain ⟨packet, sent⟩ := serialize_conjunction (show 127 ≤ 200 by decide)
  have portable := Expr.portable_conjunction 127
  have constants := Expr.constants_conjunction Expr.asked 127
  refine ⟨portable, constants, packet, sent, refused_of_deep (fun _ => ?_) sent ?_⟩
  · exact portable.writable fun constant member => nomatch constants ▸ member
  · rw [Expr.documentNesting_conjunction]
    decide

end Serializer

end PredicateWire
