/-
This file follows an expression from one end of the wire to the other. What was sent is
the tree of the expression in the keys of a sound table; what comes out is what is
received for the expression, where parameters with the same name and the same type name
have become one.

The two ends need not have the same catalog. A receiver may take a name for another type
than the sender, and so the types of the expression are followed through an `image`: the
identity between ends with one catalog, or the type with captured records at a receiver
that knows the library only. What becomes of parameters is described by `Interns`,
without mentioning the session that makes them. The text of the tree may also be read as
that of another tree, because of its doubles, and the results ask for the tree that it
is read as.
-/
import PredicateWire.Proofs.Base64
import PredicateWire.Proofs.Wire.Levels
import PredicateWire.Proofs.Wire.Rebuilding
import PredicateWire.Proofs.Table.Names
import PredicateWire.Wire.Serializer

namespace PredicateWire

open Running TypeTable

/-! ### Sending -/

/-- A table in whose keys an expression is sent: it is sound, and it knows the types of an
expression that passes the checks of packing. -/
structure Carries (serializer : Serializer) (expression : Expr) (table : TypeTable) : Prop where
  sound : table.Sound
  packable : expression.Packable serializer.settings.maxDepth 0
  known : ∀ type ∈ expression.types, table.Knows type

/-- A packet holds the tree of the expression in the keys of a table that carries it, and this
table has what packing the types of constants gives it. -/
theorem Serializer.exists_table {serializer : Serializer} {source : Nat → UInt32}
    {expression : Expr} {packet : Packet} {kept : TypeTable → Prop}
    {holds : DataType → TypeTable → Prop} (lasts : Lasts kept)
    (start : kept (TypeTable.empty serializer.catalog source))
    (captures : ∀ node ∈ expression.nodes, node.IfConstant (Captures kept holds))
    (sent : serializer.serialize source expression = .ok packet) :
    ∃ table, Carries serializer expression table ∧
      (∀ node ∈ expression.nodes, node.IfConstant fun type => holds type table) ∧
      packet = .ofNode serializer.settings.encoding (expression.node table.keyFor) table := by
  rcases ran : (encode serializer.settings expression).run
      (TypeTable.empty serializer.catalog source) with ⟨outcome, table⟩
  have same : outcome = .ok packet := by
    rw [← sent, serialize, ran]
  subst same
  unfold encode at ran
  obtain ⟨node, table, packRan, ran⟩ := run_bind_ok ran
  cases ran
  have adds := Node.adds_packAt lasts serializer.settings.maxDepth expression 0 captures
  obtain ⟨final, _, fits⟩ := adds.keeps start packRan
  obtain ⟨packable, rfl, known, held⟩ := fits (Grows.refl _)
  exact ⟨_, ⟨(lasts.tracked final).toSound, packable, known⟩, held, rfl⟩

/-- A packet holds the tree of the expression in the keys of a table that carries it. So everything
about packets can be read off the expression and a sound table. -/
theorem Serializer.exists_carries {serializer : Serializer} {source : Nat → UInt32}
    {expression : Expr} {packet : Packet}
    (sent : serializer.serialize source expression = .ok packet) :
    ∃ table, Carries serializer expression table ∧ packet =
      .ofNode serializer.settings.encoding (expression.node table.keyFor) table := by
  have captures : ∀ node ∈ expression.nodes,
      node.IfConstant (Captures Tracked fun _ _ => True) := by
    intro node _
    cases node with
    | constant value type => exact (adds_pack true type).weaken fun _ _ found => ⟨found, trivial⟩
    | _ => trivial
  obtain ⟨table, carries, _, same⟩ :=
    exists_table lasts_tracked (tracked_empty serializer.catalog source) captures sent
  exact ⟨table, carries, same⟩

/-! ### Loading -/

/-- The table that a packet gives its receiver. -/
def TypeTable.loaded (table : TypeTable) (catalog : Catalog) : TypeTable :=
  { TypeTable.empty catalog fun _ => 0 with entries := table.entries }

/-- A packet loads the tree that its text is read as, with constants in normal form. This is the
tree that was sent unless a double in it is read as another one. -/
theorem Packet.load_ofNode {table : TypeTable} (sound : table.Sound) (encoding : Encoding)
    {sent node : Node} (readable : Json.read? sent.written = some node.toJson)
    (catalog : Catalog) : (Packet.ofNode encoding sent table).load catalog (fun _ => 0) =
      .ok (node.normalized, table.loaded catalog) := by
  have tree : Node.read? sent.written = some node.normalized := by
    rw [Node.read?, readable, Option.bind_some, Node.ofJson?_toJson]
  unfold Packet.load Packet.treeText Packet.ofNode
  rw [ofEntries_sound sound, Encoding.decode_encode]
  dsimp only [bind, Except.bind]
  rw [tree]
  rfl

/-- A packet whose text cannot be read loads nothing. -/
theorem Packet.load_unreadable {table : TypeTable} (sound : table.Sound) (encoding : Encoding)
    {node : Node} (unreadable : Json.read? node.written = none) (catalog : Catalog) :
    (Packet.ofNode encoding node table).load catalog (fun _ => 0) =
      .error (.codec (.unreadable (some .tree))) := by
  unfold Packet.load Packet.treeText Packet.ofNode
  rw [ofEntries_sound sound, Encoding.decode_encode]
  dsimp only [bind, Except.bind]
  rw [Node.read?, unreadable, Option.bind_none]

/-- Nobody receives a packet whose text cannot be read. The reader refuses it before a single key is
looked for, whatever the receiver's catalog is. -/
theorem Serializer.deserializeExpr_unreadable (receiver : Serializer) {table : TypeTable}
    (sound : table.Sound) (encoding : Encoding) {node : Node}
    (unreadable : Json.read? node.written = none) (scope : Nat) :
    receiver.deserializeExpr scope (Packet.ofNode encoding node table) =
      .error (.codec (.unreadable (some .tree))) := by
  unfold deserializeExpr
  rw [Packet.load_unreadable sound encoding unreadable]
  rfl

/-! ### What becomes of parameters -/

/-- Parameters with the same name and the same type name, which are one on the wire. -/
def Parameter.Alike (left right : Parameter) : Prop :=
  left.type.canonicalName = right.type.canonicalName ∧ left.name = right.name

/-- What is made for the parameters of an expression: one parameter for all that are alike, made
like one of them, and with an identity of its own. -/
structure Interns (image : DataType → DataType) (sent : List Parameter)
    (made : Parameter → Parameter) : Prop where
  like : ∀ parameter ∈ sent, ∃ first ∈ sent, first.Alike parameter ∧
    (made parameter).name = first.name ∧ (made parameter).type = image first.type ∧
      (made parameter).byReference = first.byReference
  joined : ∀ first ∈ sent, ∀ second ∈ sent, first.Alike second → made first = made second
  apart : ∀ first ∈ sent, ∀ second ∈ sent, (made first).sameAs (made second) = true →
    first.Alike second

namespace Expr

section

variable {catalog : Catalog} {image : DataType → DataType} {made : Parameter → Parameter}

/-! ### What has been received -/

theorem received_lambda {type : DataType} {parameters : List Parameter} {body result : Expr}
    {name : Option String} {tailCall : Bool} (succeeds :
      (lambda type parameters body name tailCall).received catalog image made = .ok result) :
    ∃ inner, body.received catalog image made = .ok inner ∧
      result = lambda (image type) (parameters.map made) inner name tailCall := by
  rw [received] at succeeds
  obtain ⟨inner, bodyReceived, succeeds⟩ := bind_eq_ok succeeds
  cases succeeds
  exact ⟨inner, bodyReceived, rfl⟩

theorem received_parameter {referenced : Parameter} {result : Expr}
    (succeeds : (parameter referenced).received catalog image made = .ok result) :
    result = parameter (made referenced) := by
  rw [received] at succeeds
  cases succeeds
  rfl

theorem received_binary {operator : BinaryOperator} {type : DataType} {left right result : Expr}
    {method : Option Method} {conversion : Option Expr} (succeeds :
      (binary operator type left right method conversion).received catalog image made =
        .ok result) :
    ∃ first second handle converter, left.received catalog image made = .ok first ∧
      right.received catalog image made = .ok second ∧
      catalog.receivedMethod? image method = .ok handle ∧
      receivedOption catalog image made conversion = .ok converter ∧
      result = binary operator (image type) first second handle converter := by
  rw [received] at succeeds
  obtain ⟨converter, conversionReceived, succeeds⟩ := bind_eq_ok succeeds
  obtain ⟨_, _, succeeds⟩ := bind_eq_ok succeeds
  obtain ⟨first, leftReceived, succeeds⟩ := bind_eq_ok succeeds
  obtain ⟨second, rightReceived, succeeds⟩ := bind_eq_ok succeeds
  obtain ⟨handle, methodReceived, succeeds⟩ := bind_eq_ok succeeds
  cases succeeds
  exact ⟨first, second, handle, converter, leftReceived, rightReceived, methodReceived,
    conversionReceived, rfl⟩

theorem received_member {target result : Expr} {read : Member}
    (succeeds : (member target read).received catalog image made = .ok result) :
    ∃ inner handle, target.received catalog image made = .ok inner ∧
      catalog.receivedMember image read = .ok handle ∧ result = member inner handle := by
  rw [received] at succeeds
  obtain ⟨inner, targetReceived, succeeds⟩ := bind_eq_ok succeeds
  obtain ⟨handle, readReceived, succeeds⟩ := bind_eq_ok succeeds
  cases succeeds
  exact ⟨inner, handle, targetReceived, readReceived, rfl⟩

theorem received_constant {value : Value} {type : DataType} {result : Expr}
    (succeeds : (constant value type).received catalog image made = .ok result) :
    ∃ content, Value.ofLiteral (image type) value.document.normalize = .ok content ∧
      result = constant content (image type) := by
  rw [received] at succeeds
  obtain ⟨content, valueReceived, succeeds⟩ := bind_eq_ok succeeds
  cases succeeds
  exact ⟨content, valueReceived, rfl⟩

theorem received_call {target : Option Expr} {method : Method} {arguments : List Expr}
    {result : Expr}
    (succeeds : (call target method arguments).received catalog image made = .ok result) :
    ∃ inner handle others, receivedOption catalog image made target = .ok inner ∧
      catalog.receivedMethod image method = .ok handle ∧
      receivedAll catalog image made arguments = .ok others ∧
      result = call inner handle others := by
  rw [received] at succeeds
  obtain ⟨inner, targetReceived, succeeds⟩ := bind_eq_ok succeeds
  obtain ⟨handle, methodReceived, succeeds⟩ := bind_eq_ok succeeds
  obtain ⟨others, argumentsReceived, succeeds⟩ := bind_eq_ok succeeds
  cases succeeds
  exact ⟨inner, handle, others, targetReceived, methodReceived, argumentsReceived, rfl⟩

theorem received_construct {constructor : Constructor} {arguments : List Expr} {result : Expr}
    (succeeds : (construct constructor arguments).received catalog image made = .ok result) :
    ∃ handle others, catalog.receivedConstructor image constructor = .ok handle ∧
      receivedAll catalog image made arguments = .ok others ∧
      result = construct handle others := by
  rw [received] at succeeds
  obtain ⟨handle, constructorReceived, succeeds⟩ := bind_eq_ok succeeds
  obtain ⟨others, argumentsReceived, succeeds⟩ := bind_eq_ok succeeds
  cases succeeds
  exact ⟨handle, others, constructorReceived, argumentsReceived, rfl⟩

theorem received_arrayInit {type : DataType} {elements : List Expr} {result : Expr}
    (succeeds : (arrayInit type elements).received catalog image made = .ok result) :
    ∃ others, receivedAll catalog image made elements = .ok others ∧
      result = arrayInit (image type) others := by
  rw [received] at succeeds
  obtain ⟨_, _, succeeds⟩ := bind_eq_ok succeeds
  obtain ⟨others, elementsReceived, succeeds⟩ := bind_eq_ok succeeds
  cases succeeds
  exact ⟨others, elementsReceived, rfl⟩

theorem receivedAll_nil {results : List Expr}
    (succeeds : receivedAll catalog image made [] = .ok results) : results = [] := by
  rw [receivedAll] at succeeds
  cases succeeds
  rfl

theorem receivedAll_cons {first : Expr} {rest results : List Expr}
    (succeeds : receivedAll catalog image made (first :: rest) = .ok results) :
    ∃ head tail, first.received catalog image made = .ok head ∧
      receivedAll catalog image made rest = .ok tail ∧ results = head :: tail := by
  rw [receivedAll] at succeeds
  obtain ⟨head, firstReceived, succeeds⟩ := bind_eq_ok succeeds
  obtain ⟨tail, restReceived, succeeds⟩ := bind_eq_ok succeeds
  cases succeeds
  exact ⟨head, tail, firstReceived, restReceived, rfl⟩

theorem receivedOption_none {result : Option Expr}
    (succeeds : receivedOption catalog image made none = .ok result) : result = none := by
  rw [receivedOption] at succeeds
  cases succeeds
  rfl

theorem receivedOption_some {expression : Expr} {result : Option Expr}
    (succeeds : receivedOption catalog image made (some expression) = .ok result) :
    ∃ inner, expression.received catalog image made = .ok inner ∧ result = some inner := by
  rw [receivedOption] at succeeds
  obtain ⟨inner, innerReceived, succeeds⟩ := bind_eq_ok succeeds
  cases succeeds
  exact ⟨inner, innerReceived, rfl⟩

/-! ### What arrives -/

/-- Something is received for what a node itself holds. -/
def Arrives (catalog : Catalog) (image : DataType → DataType) : Expr → Prop
  | binary _ _ _ _ method conversion =>
    (∀ implementation ∈ method, ∃ handle,
      catalog.receivedMethod image implementation = .ok handle) ∧
        ∀ converter ∈ conversion, converter.isLambda = true
  | member _ read => ∃ handle, catalog.receivedMember image read = .ok handle
  | constant value type => ∃ content,
      Value.ofLiteral (image type) value.document.normalize = .ok content
  | call _ method _ => ∃ handle, catalog.receivedMethod image method = .ok handle
  | construct constructor _ => ∃ handle,
      catalog.receivedConstructor image constructor = .ok handle
  | arrayInit type _ => checkedArray (image type) (image (type.element?.getD type)) = .ok ()
  | _ => True

theorem exists_receivedMethod? {method : Option Method} (arrives : ∀ implementation ∈ method,
    ∃ handle, catalog.receivedMethod image implementation = .ok handle) :
    ∃ handle, catalog.receivedMethod? image method = .ok handle := by
  cases method with
  | none => exact ⟨none, rfl⟩
  | some method =>
    obtain ⟨handle, received⟩ := arrives method rfl
    refine ⟨some handle, ?_⟩
    rw [Catalog.receivedMethod?, received]
    rfl

theorem checkedConversion_received {conversion converter : Option Expr}
    (lambdas : ∀ function ∈ conversion, function.isLambda = true)
    (received : receivedOption catalog image made conversion = .ok converter) :
    checkedConversion converter = .ok () := by
  cases conversion with
  | none =>
    rw [receivedOption] at received
    cases received
    rfl
  | some function =>
    have isLambda := lambdas function rfl
    cases function with
    | lambda type parameters body name tailCall =>
      rw [receivedOption] at received
      obtain ⟨inner, bodyReceived, received⟩ := bind_eq_ok received
      cases received
      obtain ⟨_, _, rfl⟩ := received_lambda bodyReceived
      rfl
    | _ => cases isLambda

mutual

/-- An expression is received if something is received for every node. Whether it is depends on the
catalog and the image of types alone, and not on what has been made for parameters. -/
theorem exists_received : ∀ {expression : Expr},
    (∀ node ∈ expression.nodes, node.Arrives catalog image) →
      ∃ result, expression.received catalog image made = .ok result
  | .lambda type parameters body name tailCall, arrives => by
    rw [nodes, List.forall_mem_cons, List.forall_mem_append] at arrives
    obtain ⟨inner, bodyReceived⟩ := exists_received arrives.2.1
    exact ⟨_, by rw [received, bodyReceived]; rfl⟩
  | .parameter referenced, _ => ⟨_, by rw [received]⟩
  | .binary operator type left right method conversion, arrives => by
    rw [nodes, List.forall_mem_cons, List.forall_mem_append, List.forall_mem_append] at arrives
    obtain ⟨⟨methodArrives, lambdas⟩, ⟨leftArrives, rightArrives⟩, conversionArrives⟩ := arrives
    obtain ⟨first, leftReceived⟩ := exists_received leftArrives
    obtain ⟨second, rightReceived⟩ := exists_received rightArrives
    obtain ⟨handle, methodReceived⟩ := exists_receivedMethod? methodArrives
    obtain ⟨converter, conversionReceived⟩ := exists_receivedOption conversionArrives
    refine ⟨binary operator (image type) first second handle converter, ?_⟩
    rw [received, conversionReceived, leftReceived, rightReceived, methodReceived]
    simp only [bind, Except.bind, checkedConversion_received lambdas conversionReceived]
    rfl
  | .member target read, arrives => by
    rw [nodes, List.forall_mem_cons] at arrives
    obtain ⟨inner, targetReceived⟩ := exists_received arrives.2
    obtain ⟨handle, readReceived⟩ := arrives.1
    exact ⟨_, by rw [received, targetReceived, readReceived]; rfl⟩
  | .constant value type, arrives => by
    obtain ⟨content, valueReceived⟩ := arrives _ (List.mem_singleton_self _)
    exact ⟨_, by rw [received, valueReceived]; rfl⟩
  | .call target method arguments, arrives => by
    rw [nodes, List.forall_mem_cons, List.forall_mem_append] at arrives
    obtain ⟨⟨handle, methodReceived⟩, targetArrives, argumentsArrive⟩ := arrives
    obtain ⟨inner, targetReceived⟩ := exists_receivedOption targetArrives
    obtain ⟨others, argumentsReceived⟩ := exists_receivedAll argumentsArrive
    exact ⟨_, by rw [received, targetReceived, methodReceived, argumentsReceived]; rfl⟩
  | .construct constructor arguments, arrives => by
    rw [nodes, List.forall_mem_cons] at arrives
    obtain ⟨⟨handle, constructorReceived⟩, argumentsArrive⟩ := arrives
    obtain ⟨others, argumentsReceived⟩ := exists_receivedAll argumentsArrive
    exact ⟨_, by rw [received, constructorReceived, argumentsReceived]; rfl⟩
  | .arrayInit type elements, arrives => by
    rw [nodes, List.forall_mem_cons] at arrives
    have isArray : checkedArray (image type) (image (type.element?.getD type)) = .ok () :=
      arrives.1
    obtain ⟨others, elementsReceived⟩ := exists_receivedAll arrives.2
    exact ⟨_, by rw [received, isArray, elementsReceived]; rfl⟩
  | .unary operator type operand, arrives => by
    rw [nodes, List.forall_mem_cons] at arrives
    rw [received]
    exact exists_received arrives.2

theorem exists_receivedAll : ∀ {expressions : List Expr},
    (∀ node ∈ nodesAll expressions, node.Arrives catalog image) →
      ∃ results, receivedAll catalog image made expressions = .ok results
  | [], _ => ⟨[], by rw [receivedAll]⟩
  | first :: rest, arrives => by
    rw [nodesAll, List.forall_mem_append] at arrives
    obtain ⟨head, firstReceived⟩ := exists_received arrives.1
    obtain ⟨tail, restReceived⟩ := exists_receivedAll arrives.2
    exact ⟨head :: tail, by rw [receivedAll, firstReceived, restReceived]; rfl⟩

theorem exists_receivedOption : ∀ {expression : Option Expr},
    (∀ node ∈ nodesOption expression, node.Arrives catalog image) →
      ∃ result, receivedOption catalog image made expression = .ok result
  | none, _ => ⟨none, by rw [receivedOption]⟩
  | some expression, arrives => by
    rw [nodesOption] at arrives
    obtain ⟨inner, expressionReceived⟩ := exists_received arrives
    exact ⟨some inner, by rw [receivedOption, expressionReceived]; rfl⟩

end

mutual

/-- The parameters of a received expression are the ones that were made. -/
theorem parameters_received : ∀ {expression result : Expr},
    expression.received catalog image made = .ok result →
      result.parameters = expression.parameters.map made
  | .lambda type parameters body name tailCall, result, succeeds => by
    obtain ⟨inner, bodyReceived, rfl⟩ := received_lambda succeeds
    rw [parameters_lambda, parameters_lambda, parameters_received bodyReceived, List.map_append]
  | .parameter referenced, result, succeeds => by
    cases received_parameter succeeds
    rw [parameters_parameter, parameters_parameter, List.map_singleton]
  | .binary operator type left right method conversion, result, succeeds => by
    obtain ⟨first, second, handle, converter, leftReceived, rightReceived, _, conversionReceived,
      rfl⟩ := received_binary succeeds
    rw [parameters_binary, parameters_binary, parameters_received leftReceived,
      parameters_received rightReceived, parameters_receivedOption conversionReceived,
      List.map_append, List.map_append]
  | .member target read, result, succeeds => by
    obtain ⟨inner, handle, targetReceived, _, rfl⟩ := received_member succeeds
    rw [parameters_member, parameters_member, parameters_received targetReceived]
  | .constant value type, result, succeeds => by
    obtain ⟨content, _, rfl⟩ := received_constant succeeds
    rw [parameters_constant, parameters_constant, List.map_nil]
  | .call target method arguments, result, succeeds => by
    obtain ⟨inner, handle, others, targetReceived, _, argumentsReceived, rfl⟩ :=
      received_call succeeds
    rw [parameters_call, parameters_call, parameters_receivedOption targetReceived,
      parameters_receivedAll argumentsReceived, List.map_append]
  | .construct constructor arguments, result, succeeds => by
    obtain ⟨handle, others, _, argumentsReceived, rfl⟩ := received_construct succeeds
    rw [parameters_construct, parameters_construct, parameters_receivedAll argumentsReceived]
  | .arrayInit type elements, result, succeeds => by
    obtain ⟨others, elementsReceived, rfl⟩ := received_arrayInit succeeds
    rw [parameters_arrayInit, parameters_arrayInit, parameters_receivedAll elementsReceived]
  | .unary operator type operand, result, succeeds => by
    rw [received] at succeeds
    rw [parameters_unary, parameters_received succeeds]

theorem parameters_receivedAll : ∀ {expressions results : List Expr},
    receivedAll catalog image made expressions = .ok results →
      parametersAll results = (parametersAll expressions).map made
  | [], results, succeeds => by
    cases receivedAll_nil succeeds
    rfl
  | first :: rest, results, succeeds => by
    obtain ⟨head, tail, firstReceived, restReceived, rfl⟩ := receivedAll_cons succeeds
    rw [parametersAll_cons, parametersAll_cons, parameters_received firstReceived,
      parameters_receivedAll restReceived, List.map_append]

theorem parameters_receivedOption : ∀ {expression result : Option Expr},
    receivedOption catalog image made expression = .ok result →
      parametersOption result = (parametersOption expression).map made
  | none, result, succeeds => by
    cases receivedOption_none succeeds
    rfl
  | some expression, result, succeeds => by
    obtain ⟨inner, innerReceived, rfl⟩ := receivedOption_some succeeds
    rw [parametersOption_some, parametersOption_some, parameters_received innerReceived]

end

end

end Expr

/-! ### Receiving -/

open PredicateWire.Expr

/-- A parameter that has been made is found in the list of all, since otherwise a later list could
have something else in its place. -/
theorem Parameter.find?_of_slots {image : DataType → DataType} {made sent : List Parameter}
    (fixed : ∀ later, made <+: later → sent.map (slot image made) = sent.map (slot image later))
    {parameter : Parameter} (member : parameter ∈ sent) :
    ∃ found, made.find? (fun candidate =>
      candidate.type.canonicalName == (image parameter.type).canonicalName &&
        candidate.name == parameter.name) = some found := by
  cases first : made.find? fun candidate =>
      candidate.type.canonicalName == (image parameter.type).canonicalName &&
        candidate.name == parameter.name with
  | some found => exact ⟨found, rfl⟩
  | none =>
    -- A parameter that is not there could still be made, and then something else would come out.
    let other : Parameter :=
      ⟨parameter.identity, parameter.name, image parameter.type, !parameter.byReference⟩
    have same := List.map_inj_left.mp (fixed (made ++ [other]) (List.prefix_append _ _)) _ member
    have found : [other].find? (fun candidate =>
        candidate.type.canonicalName == (image parameter.type).canonicalName &&
          candidate.name == parameter.name) = some other := by
      simp [other]
    rw [slot, slot, first, List.find?_append, first, Option.none_or, found] at same
    have flags : parameter.byReference = !parameter.byReference :=
      congrArg Parameter.byReference same
    cases shown : parameter.byReference <;> rw [shown] at flags <;> cases flags

/-- What is made for a parameter is one of all that have been made, with the same names. -/
theorem Parameter.exists_slot {image : DataType → DataType} {made sent : List Parameter}
    (fixed : ∀ later, made <+: later → sent.map (slot image made) = sent.map (slot image later))
    {parameter : Parameter} (member : parameter ∈ sent) :
    ∃ one ∈ made, made.find? (fun candidate =>
        candidate.type.canonicalName == (image parameter.type).canonicalName &&
          candidate.name == parameter.name) = some one ∧
      parameter.slot image made = one ∧
        one.type.canonicalName = (image parameter.type).canonicalName ∧
          one.name = parameter.name := by
  obtain ⟨one, first⟩ := find?_of_slots fixed member
  have tested := List.find?_some first
  simp only [Bool.and_eq_true, beq_iff_eq] at tested
  exact ⟨one, List.mem_of_find?_eq_some first, first,
    Reception.slot_of_find List.prefix_rfl first, tested⟩

/-- Parameters that are alike have become one, and others have not, once all of them have been
made. -/
theorem Reception.Holds.interns {reception : Reception} {final : Rebuild}
    (holds : reception.Holds final)
    (named : ∀ parameter ∈ reception.sent,
      (reception.image parameter.type).canonicalName = parameter.type.canonicalName)
    (fixed : ∀ later, final.parameters <+: later →
      reception.sent.map (Parameter.slot reception.image final.parameters) =
        reception.sent.map (Parameter.slot reception.image later)) :
    Interns reception.image reception.sent
      (Parameter.slot reception.image final.parameters) where
  like := by
    intro parameter member
    obtain ⟨one, oneMember, _, slot, typeName, name⟩ := Parameter.exists_slot fixed member
    obtain ⟨first, firstMember, nameLike, typeLike, flagLike⟩ := holds.made one oneMember
    rw [slot]
    refine ⟨first, firstMember, ⟨?_, nameLike.symm.trans name⟩, nameLike, typeLike, flagLike⟩
    rwa [typeLike, named first firstMember, named parameter member] at typeName
  joined := by
    intro first firstMember second secondMember alike
    obtain ⟨one, _, firstFound, firstSlot, _⟩ := Parameter.exists_slot fixed firstMember
    obtain ⟨other, _, secondFound, secondSlot, _⟩ := Parameter.exists_slot fixed secondMember
    rw [named first firstMember, alike.1, ← named second secondMember, alike.2, secondFound]
      at firstFound
    rw [firstSlot, secondSlot, Option.some.inj firstFound]
  apart := by
    intro first firstMember second secondMember same
    obtain ⟨one, oneMember, _, firstSlot, oneType, oneName⟩ :=
      Parameter.exists_slot fixed firstMember
    obtain ⟨other, otherMember, _, secondSlot, otherType, otherName⟩ :=
      Parameter.exists_slot fixed secondMember
    rw [firstSlot, secondSlot] at same
    -- What has been made at one place has one identity, and at another place another one.
    obtain ⟨onePlace, oneAt⟩ := List.mem_iff_getElem?.mp oneMember
    obtain ⟨otherPlace, otherAt⟩ := List.mem_iff_getElem?.mp otherMember
    have identities : one.identity = other.identity := eq_of_beq same
    rw [holds.places oneAt, holds.places otherAt] at identities
    cases identities
    cases oneAt.symm.trans otherAt
    rw [named first firstMember] at oneType
    rw [named second secondMember] at otherType
    exact ⟨oneType.symm.trans otherType, oneName.symm.trans otherName⟩

/-- What is deserialized is what is received for the expression whose tree the text is read as,
whatever types names are received as. If that is anything, parameters that are alike have become
one. The names of types have to be kept by the image, since variables are told apart by them. -/
theorem Serializer.deserializeExpr_ofNode (receiver : Serializer) {table : TypeTable}
    (sound : table.Sound) {expression : Expr}
    (packable : expression.Packable receiver.settings.maxDepth 0) {image : DataType → DataType}
    (receives : ∀ type ∈ expression.types, Receives (table.loaded receiver.catalog) image type)
    (named : ∀ type ∈ expression.types, (image type).canonicalName = type.canonicalName)
    {sent : Node} (readable : Json.read? sent.written =
      some (expression.node table.keyFor).toJson) (encoding : Encoding) (scope : Nat) :
    ∃ made, receiver.deserializeExpr scope (.ofNode encoding sent table) =
        expression.received receiver.catalog image made ∧
      ∀ result, expression.received receiver.catalog image made = .ok result →
        Interns image expression.parameters made := by
  let reception : Reception :=
    ⟨table.loaded receiver.catalog, image, receiver.settings.maxDepth, scope, expression.parameters⟩
  have baseSound : reception.base.Sound := sound.congr _ rfl
  have accepts : reception.Accepts expression.types expression.parameters :=
    ⟨receives, fun _ member => member⟩
  have yields := Reception.yields_rebuildAt baseSound expression 0 packable accepts
  have start : reception.Holds
      (Rebuild.start (table.loaded receiver.catalog) scope receiver.settings.maxDepth) :=
    ⟨⟨[], rfl, fun _ member => nomatch member⟩, rfl, rfl, fun _ member => (nomatch member),
      fun placed => nomatch placed⟩
  rcases ran : ((expression.node table.keyFor).normalized.rebuildAt 0).run
      (Rebuild.start (table.loaded receiver.catalog) scope receiver.settings.maxDepth)
    with ⟨outcome, final⟩
  obtain ⟨holds, _, fits⟩ := yields.run start ran
  refine ⟨Parameter.slot image final.parameters, ?_, fun result succeeds => ?_⟩
  · unfold deserializeExpr
    rw [Packet.load_ofNode sound encoding readable]
    show ((expression.node table.keyFor).normalized.rebuildAt 0 |>.run _).1 = _
    rw [ran]
    exact fits List.prefix_rfl
  · have settled : outcome = .ok result := (fits List.prefix_rfl).trans succeeds
    exact holds.interns (fun parameter member => named _ (type_mem_types member)) fun later grown =>
      (parameters_received succeeds).symm.trans
        (parameters_received ((fits grown).symm.trans settled))

end PredicateWire
