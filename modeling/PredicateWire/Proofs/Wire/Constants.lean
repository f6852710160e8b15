/-
This file proves that every constant of a received expression keeps to the type that the
packet declares for it, whoever made the packet. The documents of constants come out of
the text of the tree, so they are in range, and the reader of literals is the only way
from such a document to a constant.

A packet may be forged, and so nothing is assumed of its tree but that it was read from
some text. Being in range is followed from the text to the nodes, through the reader
that takes every member as all that it can be, and then through rebuilding, where it is
what a constant is read from. What the reader of literals makes of it was proved before,
for any document in range and any type.
-/
import PredicateWire.Proofs.Value.Decoded
import PredicateWire.Proofs.Wire.Format
import PredicateWire.Proofs.Wire.Scoping
import PredicateWire.Proofs.Wire.Sources

namespace PredicateWire

/-! ### Documents in trees -/

namespace Node

/-- The constants of a tree are in range. -/
abbrev InRange (node : Node) : Prop :=
  ∀ document ∈ node.constants, document.InRange

/-- A member is in range, whatever it is read as. -/
structure Part.InRange (part : Part) : Prop where
  document : part.document.InRange
  node : ∀ node ∈ part.node?, node.InRange
  nodes : ∀ nodes ∈ part.nodes?, ∀ document ∈ constantsOfAll nodes, document.InRange

section

variable {part? : Option Part} (within : ∀ part ∈ part?, part.InRange)

include within

theorem inRange_node? {node : Node} (read : Json.required Part.node? part? = some node) :
    node.InRange := by
  cases part? with
  | none => cases read
  | some part => exact (within part rfl).node node read

theorem inRange_nodes? {nodes : List Node}
    (read : Json.withDefault [] Part.nodes? part? = some nodes) :
    ∀ document ∈ constantsOfAll nodes, document.InRange := by
  cases part? with
  | none =>
    cases read
    exact List.forall_mem_nil _
  | some part => exact (within part rfl).nodes nodes read

theorem inRange_optionalNode {node? : Option Node} (read : Part.optionalNode part? = some node?) :
    ∀ document ∈ constantsOfOption node?, document.InRange := by
  cases part? with
  | none =>
    cases read
    exact List.forall_mem_nil _
  | some part =>
    unfold Part.optionalNode at read
    dsimp only at read
    split at read
    · cases read
      exact List.forall_mem_nil _
    · obtain ⟨node, found, rfl⟩ := Option.map_eq_some_iff.mp read
      exact (within part rfl).node node found

end

/-- A node that is put together from members in range is in range. -/
theorem inRange_assemble? {header : NodeHeader} {tag : NodeTag} {parts : List (Option Part)}
    {node : Node} (within : ∀ part? ∈ parts, ∀ part ∈ part?, part.InRange)
    (made : assemble? header tag parts = some node) : node.InRange := by
  unfold assemble? at made
  split at made
  · obtain ⟨body, bodyRead, made⟩ := Option.bind_eq_some_iff.mp made
    obtain ⟨parameters, parametersRead, made⟩ := Option.bind_eq_some_iff.mp made
    obtain ⟨name, _, made⟩ := Option.bind_eq_some_iff.mp made
    obtain ⟨tailCall, _, made⟩ := Option.bind_eq_some_iff.mp made
    cases made
    have bodyWithin := inRange_node? (within _ (.head _)) bodyRead
    have parametersWithin := inRange_nodes? (within _ (.tail _ (.head _))) parametersRead
    exact List.forall_mem_append.mpr ⟨bodyWithin, parametersWithin⟩
  · obtain ⟨name, _, made⟩ := Option.bind_eq_some_iff.mp made
    obtain ⟨byReference, _, made⟩ := Option.bind_eq_some_iff.mp made
    cases made
    exact List.forall_mem_nil _
  · obtain ⟨left, leftRead, made⟩ := Option.bind_eq_some_iff.mp made
    obtain ⟨right, rightRead, made⟩ := Option.bind_eq_some_iff.mp made
    obtain ⟨conversion, conversionRead, made⟩ := Option.bind_eq_some_iff.mp made
    obtain ⟨method, _, made⟩ := Option.bind_eq_some_iff.mp made
    cases made
    have leftWithin := inRange_node? (within _ (.head _)) leftRead
    have rightWithin := inRange_node? (within _ (.tail _ (.head _))) rightRead
    have conversionWithin :=
      inRange_optionalNode (within _ (.tail _ (.tail _ (.head _)))) conversionRead
    exact List.forall_mem_append.mpr
      ⟨leftWithin, List.forall_mem_append.mpr ⟨rightWithin, conversionWithin⟩⟩
  · obtain ⟨target, targetRead, made⟩ := Option.bind_eq_some_iff.mp made
    obtain ⟨read, _, made⟩ := Option.bind_eq_some_iff.mp made
    cases made
    have targetWithin := inRange_node? (within _ (.head _)) targetRead
    exact targetWithin
  · rename_i value
    obtain ⟨document, read, made⟩ := Option.bind_eq_some_iff.mp made
    cases made
    cases value with
    | none => cases read
    | some part =>
      cases read
      exact List.forall_mem_singleton.mpr (within _ (.head _) part rfl).document.normalize
  · obtain ⟨target, targetRead, made⟩ := Option.bind_eq_some_iff.mp made
    obtain ⟨method, _, made⟩ := Option.bind_eq_some_iff.mp made
    obtain ⟨arguments, argumentsRead, made⟩ := Option.bind_eq_some_iff.mp made
    cases made
    have targetWithin := inRange_optionalNode (within _ (.head _)) targetRead
    have argumentsWithin := inRange_nodes? (within _ (.tail _ (.tail _ (.head _)))) argumentsRead
    exact List.forall_mem_append.mpr ⟨targetWithin, argumentsWithin⟩
  · obtain ⟨constructor, _, made⟩ := Option.bind_eq_some_iff.mp made
    obtain ⟨arguments, argumentsRead, made⟩ := Option.bind_eq_some_iff.mp made
    cases made
    exact inRange_nodes? (within _ (.tail _ (.head _))) argumentsRead
  · obtain ⟨element, _, made⟩ := Option.bind_eq_some_iff.mp made
    obtain ⟨elements, elementsRead, made⟩ := Option.bind_eq_some_iff.mp made
    cases made
    exact inRange_nodes? (within _ (.tail _ (.head _))) elementsRead
  · cases made

/-- Members in range make a node in range. -/
theorem inRange_ofParts? {parts : List (String × Part)} {node : Node}
    (within : ∀ entry ∈ parts, entry.2.InRange) (made : ofParts? parts = some node) :
    node.InRange := by
  obtain ⟨header, _, made⟩ := Option.bind_eq_some_iff.mp made
  obtain ⟨tag, _, made⟩ := Option.bind_eq_some_iff.mp made
  obtain ⟨members, declared, made⟩ := Option.bind_eq_some_iff.mp made
  refine inRange_assemble? (fun part? member part found => ?_) made
  unfold Json.declared? at declared
  split at declared
  · cases declared
  · cases declared
    obtain ⟨name, _, got⟩ := List.mem_map.mp member
    exact within (name, part) (Entries.mem_of_get? (got.trans found))

theorem node?_partOf (document : Json) : (partOf document).node? = ofJson? document := by
  cases document <;> rfl

theorem inRange_listOfJson? {items : List Json} (within : ∀ item ∈ items, (partOf item).InRange)
    {nodes : List Node} (read : listOfJson? items = some nodes) :
    ∀ document ∈ constantsOfAll nodes, document.InRange := by
  induction items generalizing nodes with
  | nil =>
    cases read
    exact List.forall_mem_nil _
  | cons item rest inductionHypothesis =>
    rw [List.forall_mem_cons] at within
    rw [listOfJson?] at read
    split at read
    · rename_i node others first tail
      cases read
      rw [← node?_partOf] at first
      exact List.forall_mem_append.mpr
        ⟨within.1.node node first, inductionHypothesis within.2 tail⟩
    · cases read

/-- A document in range is in range whatever it is read as. -/
theorem inRange_partOf {document : Json} (within : document.InRange) :
    (partOf document).InRange := by
  induction within with
  | null => exact ⟨.null, (nomatch ·, ·), (nomatch ·, ·)⟩
  | bool value => exact ⟨.bool value, (nomatch ·, ·), (nomatch ·, ·)⟩
  | integer least greatest => exact ⟨.integer least greatest, (nomatch ·, ·), (nomatch ·, ·)⟩
  | double finite => exact ⟨.double finite, (nomatch ·, ·), (nomatch ·, ·)⟩
  | string value => exact ⟨.string value, (nomatch ·, ·), (nomatch ·, ·)⟩
  | array each inductionHypothesis =>
    exact ⟨.array each, (nomatch ·, ·), fun nodes => inRange_listOfJson? inductionHypothesis⟩
  | object each inductionHypothesis =>
    refine ⟨.object each, fun node read => inRange_ofParts? ?_ read, (nomatch ·, ·)⟩
    rw [partsOf_eq_map]
    exact List.forall_mem_map.mpr inductionHypothesis

/-- The constants of a tree that is read from a text are in range. -/
theorem inRange_read? {text : String} {node : Node} (read : read? text = some node) :
    node.InRange := by
  obtain ⟨document, documentRead, made⟩ := Option.bind_eq_some_iff.mp read
  rw [← node?_partOf] at made
  exact (inRange_partOf (Json.inRange_read? documentRead)).node node made

end Node

/-! ### Rebuilding -/

/-- The type of a constant admits its value. Other nodes have no constant to look at. -/
def Expr.Typed (node : Expr) : Prop :=
  ∀ constant ∈ node.ownConstant?, constant.2.Admits Field.IsLast constant.1

/-- Nothing is asked of work whose outcome does not matter. -/
theorem promises_any {State Content : Type} (work : ExceptT Error (StateM State) Content) :
    Promises (fun _ => True) work (fun _ => True) fun _ => True :=
  ⟨fun _ _ => ⟨trivial, meets_true _⟩⟩

theorem promises_onTable_lift {Content : Type} {outcome : Result Content} {wanted : Content → Prop}
    (meets : Meets wanted (fun _ => True) outcome) :
    Promises (fun _ => True) (Rebuild.onTable (TypeTable.lift outcome)) wanted fun _ => True := by
  refine ⟨fun _ ran => ⟨trivial, ?_⟩⟩
  cases outcome <;> cases ran <;> exact meets

namespace Node

mutual

/-- The constants of an expression that is rebuilt from a tree in range are admitted by their
types. -/
theorem typed_rebuildAt : ∀ {node : Node} (depth : Nat), node.InRange →
    Promises (fun _ => True) (rebuildAt node depth)
      (fun expression => ∀ part ∈ expression.nodes, part.Typed) fun _ => True
  | lambda header body parameters name tailCall, depth, within => by
    have bodyWithin := (List.forall_mem_append.mp within).1
    unfold rebuildAt
    refine promises_bind (promises_any _) fun type _ => ?_
    -- Parameters hold no constants, so it does not matter how they are rebuilt.
    refine promises_bind (promises_any _) fun declared _ => ?_
    refine promises_bind (typed_rebuildAt (depth + 1) bodyWithin) fun inner typed =>
      promises_pure ?_
    rw [Expr.nodes, List.forall_mem_cons, List.forall_mem_append]
    refine ⟨(nomatch ·, ·), typed, fun node member => ?_⟩
    obtain ⟨_, _, rfl⟩ := List.mem_map.mp member
    exact (nomatch ·, ·)
  | parameter header name byReference, depth, within => by
    unfold rebuildAt
    refine promises_bind (promises_any _) fun type _ => ?_
    refine promises_bind (promises_any _) fun made _ => promises_pure ?_
    rw [Expr.nodes, List.forall_mem_singleton]
    exact (nomatch ·, ·)
  | binary header left right conversion method, depth, within => by
    obtain ⟨leftWithin, others⟩ := List.forall_mem_append.mp within
    obtain ⟨rightWithin, conversionWithin⟩ := List.forall_mem_append.mp others
    unfold rebuildAt
    refine promises_bind (promises_any _) fun type _ => ?_
    split
    · exact promises_throw trivial
    · refine promises_bind (typed_rebuildOption (depth + 1) conversionWithin) fun converter
        converted => ?_
      refine promises_bind (promises_any _) fun _ _ => ?_
      refine promises_bind (typed_rebuildAt (depth + 1) leftWithin) fun first lefts => ?_
      refine promises_bind (typed_rebuildAt (depth + 1) rightWithin) fun second rights => ?_
      refine promises_bind (promises_any _) fun handle _ => promises_pure ?_
      rw [Expr.nodes, List.forall_mem_cons, List.forall_mem_append, List.forall_mem_append]
      exact ⟨(nomatch ·, ·), ⟨lefts, rights⟩, converted⟩
  | member header target read, depth, within => by
    unfold rebuildAt
    refine promises_bind (promises_any _) fun type _ => ?_
    refine promises_bind (typed_rebuildAt (depth + 1) within) fun source typed => ?_
    refine promises_bind (promises_any _) fun handle _ => promises_pure ?_
    rw [Expr.nodes, List.forall_mem_cons]
    exact ⟨(nomatch ·, ·), typed⟩
  | constant header document, depth, within => by
    have documentWithin := List.forall_mem_singleton.mp within
    unfold rebuildAt
    refine promises_bind (promises_any _) fun type _ => ?_
    refine promises_bind (promises_onTable_lift (Value.meets_ofLiteral type documentWithin))
      fun value admitted => promises_pure ?_
    rw [Expr.nodes, List.forall_mem_singleton]
    intro constant same
    cases same
    exact admitted
  | call header target method arguments, depth, within => by
    obtain ⟨targetWithin, argumentsWithin⟩ := List.forall_mem_append.mp within
    unfold rebuildAt
    refine promises_bind (promises_any _) fun type _ => ?_
    refine promises_bind (typed_rebuildOption (depth + 1) targetWithin) fun source targets => ?_
    refine promises_bind (promises_any _) fun handle _ => ?_
    refine promises_bind (typed_rebuildAll (depth + 1) argumentsWithin) fun others rests =>
      promises_pure ?_
    rw [Expr.nodes, List.forall_mem_cons, List.forall_mem_append]
    exact ⟨(nomatch ·, ·), targets, rests⟩
  | construct header constructor arguments, depth, within => by
    unfold rebuildAt
    refine promises_bind (promises_any _) fun type _ => ?_
    refine promises_bind (promises_any _) fun handle _ => ?_
    refine promises_bind (typed_rebuildAll (depth + 1) within) fun others rests =>
      promises_pure ?_
    rw [Expr.nodes, List.forall_mem_cons]
    exact ⟨(nomatch ·, ·), rests⟩
  | arrayInit header element elements, depth, within => by
    unfold rebuildAt
    refine promises_bind (promises_any _) fun type _ => ?_
    refine promises_bind (promises_any _) fun item _ => ?_
    refine promises_bind (promises_any _) fun _ _ => ?_
    refine promises_bind (typed_rebuildAll (depth + 1) within) fun others rests =>
      promises_pure ?_
    rw [Expr.nodes, List.forall_mem_cons]
    exact ⟨(nomatch ·, ·), rests⟩

theorem typed_rebuildAll : ∀ {members : List Node} (depth : Nat),
    (∀ document ∈ constantsOfAll members, document.InRange) →
      Promises (fun _ => True) (rebuildAll members depth)
        (fun expressions => ∀ part ∈ Expr.nodesAll expressions, part.Typed) fun _ => True
  | [], depth, _ => by
    unfold rebuildAll
    exact promises_pure (List.forall_mem_nil _)
  | node :: rest, depth, within => by
    obtain ⟨nodeWithin, restWithin⟩ := List.forall_mem_append.mp within
    unfold rebuildAll
    refine promises_bind (typed_rebuildAt depth nodeWithin) fun expression typed => ?_
    refine promises_bind (typed_rebuildAll depth restWithin) fun others rests => promises_pure ?_
    rw [Expr.nodesAll, List.forall_mem_append]
    exact ⟨typed, rests⟩

theorem typed_rebuildOption : ∀ {node? : Option Node} (depth : Nat),
    (∀ document ∈ constantsOfOption node?, document.InRange) →
      Promises (fun _ => True) (rebuildOption node? depth)
        (fun expression => ∀ part ∈ Expr.nodesOption expression, part.Typed) fun _ => True
  | none, depth, _ => by
    unfold rebuildOption
    exact promises_pure (List.forall_mem_nil _)
  | some node, depth, within => by
    unfold rebuildOption
    exact promises_bind (typed_rebuildAt depth within) fun expression typed => promises_pure typed

end

end Node

/-! ### Receiving -/

/-- The constants of a received expression keep to the types that are declared for them, whatever
the packet is and wherever it comes from. -/
theorem Serializer.wellTyped_deserializeExpr {serializer : Serializer} {scope : Nat}
    {packet : Packet} {expression : Expr}
    (received : serializer.deserializeExpr scope packet = .ok expression) :
    ∀ constant ∈ expression.constants, Value.WellTyped constant.2 constant.1 := by
  obtain ⟨_, node, _, _, read, _, ran⟩ := exists_rebuild received
  have typed := ((Node.typed_rebuildAt 0 (Node.inRange_read? read)).run trivial ran).2
  intro constant member
  obtain ⟨part, partMember, own⟩ := List.mem_filterMap.mp member
  exact Value.wellTyped_of_admits (typed part partMember constant own)

namespace Value

/-- Whatever is read from a document in range keeps to its type, and so does every constant of a
received expression. Missing members are null, numbers and characters are the ones in the document,
and at a type without values there is nothing but null. -/
theorem wellTyped_ofLiteral :
    (∀ (type : DataType) (document : Json) (value : Value), document.InRange →
      ofLiteral type document = .ok value → WellTyped type value) ∧
    (∀ (name : String) (fields : List (Field DataType)) (captured : Bool)
      (members : List (String × Json)) (value : Value), (Json.object members).InRange →
        ofLiteral (.record name fields captured) (.object members) = .ok value →
          ∀ field ∈ fields, Entries.get? members field.name = none →
            value.field? field.name = some .null) ∧
    (∀ (document : Json) (value : Int32), ofLiteral .int32 document = .ok (.int32 value) →
      document = .integer value.toInt) ∧
    (∀ (document : Json) (value : Char), ofLiteral .char document = .ok (.char value) →
      document = .string (String.singleton value)) ∧
    (∀ (type : DataType) (document : Json), Valueless type → document ≠ .null →
      ∃ error, ofLiteral type document = .error error) ∧
    ∀ (serializer : Serializer) (scope : Nat) (packet : Packet) (expression : Expr),
      serializer.deserializeExpr scope packet = .ok expression →
        ∀ constant ∈ expression.constants, WellTyped constant.2 constant.1 := by
  refine ⟨fun type document value => wellTyped_of_read,
    fun name fields captured members value within read field member missing => ?_,
    fun document value => ofLiteral_int32, fun document value => ofLiteral_char,
    fun type document valueless => valueless.refuses,
    fun serializer scope packet expression => Serializer.wellTyped_deserializeExpr⟩
  cases within with
  | object within => exact field?_missing within read member missing

/-- A shelf without counts. In the note stand a number that is too large for 64 bits with a sign,
and a record that nothing declares. -/
def forgedMembers : List (String × Json) :=
  [("Note", .array [.integer 0xFFFFFFFFFFFFFFFF, .object [("Any", .null)]])]

/-- What the shelf is read as. -/
def forgedStock : Value :=
  .record [("Counts", .null),
    ("Note", .array [.double (Float.ofInt 0xFFFFFFFFFFFFFFFF), .record [("Any", .null)]])]

theorem wellTyped_ofLiteral_shelf :
    (Json.object forgedMembers).InRange ∧
      ofLiteral shelf (.object forgedMembers) = .ok forgedStock ∧ WellTyped shelf forgedStock ∧
      forgedStock.field? "Counts" = some .null ∧
      (ofLiteral .int32 (.integer (-1)) = .ok (.int32 (-1)) ∧
        Json.integer (-1) = .integer (-1 : Int32).toInt) ∧
      (ofLiteral .char (.string "x") = .ok (.char 'x') ∧
        Json.string "x" = .string (String.singleton 'x')) ∧
      (∃ error, ofLiteral (.holder "sys.Math") (.bool true) = .error error) ∧
      ∃ packet one, Serializer.standard.deserializeExpr 1 packet = .ok (Expr.shadow one one one) ∧
        ∀ constant ∈ (Expr.shadow one one one).constants, WellTyped constant.2 constant.1 := by
  obtain ⟨reads, missing, whole, single, refuses, receives⟩ := wellTyped_ofLiteral
  have within : (Json.object forgedMembers).InRange := by
    refine .object (List.forall_mem_singleton.mpr (.array (List.forall_mem_cons.mpr ⟨?_, ?_⟩)))
    · exact .integer (by decide) (by decide)
    · exact List.forall_mem_singleton.mpr (.object (List.forall_mem_singleton.mpr .null))
  have read : ofLiteral shelf (.object forgedMembers) = .ok forgedStock := rfl
  have number : ofLiteral .int32 (.integer (-1)) = .ok (.int32 (-1)) := rfl
  have character : ofLiteral .char (.string "x") = .ok (.char 'x') := rfl
  obtain ⟨packet, sent⟩ := Serializer.serialize_shadow (.inr rfl)
  obtain ⟨one, came⟩ := Serializer.deserializeExpr_shadow (.inr rfl) sent
  exact ⟨within, read, reads shelf _ _ within read,
    missing _ _ _ _ _ within read ⟨"Counts", _, true⟩ (.head _) rfl,
    ⟨number, whole _ _ number⟩, ⟨character, single _ _ character⟩,
    refuses _ _ (.holder _) (nomatch ·), packet, one, came, receives _ _ _ _ came⟩

/-- A record type that declares one name twice. -/
def twice : DataType :=
  .record "demo.Twice" [⟨"a", .int32, true⟩, ⟨"a", .int64, true⟩] false

/-- What is read for a name that is declared twice fits the last field of the name only. -/
theorem ofLiteral_twice :
    (Json.object [("a", .integer 5)]).InRange ∧
      ofLiteral twice (.object [("a", .integer 5)]) = .ok (.record [("a", .int64 5)]) ∧
      ¬twice.Admits Field.Declared (.record [("a", .int64 5)]) := by
  refine ⟨.object (List.forall_mem_singleton.mpr (.integer (by decide) (by decide))), rfl, ?_⟩
  intro admits
  cases admits with
  | record ordered declared present each =>
    cases each ⟨"a", .int32, true⟩ (.head _) (.int64 5) rfl

end Value

end PredicateWire
