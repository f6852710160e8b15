/-
This file proves that predicates over records come through to a receiver that knows the
library only. The receiver builds every record from the fields that were captured with a
constant, under the same name; everything else that it needs it finds in the library.
What it gets answers like the predicate that was sent.

A condition on doubles cannot be avoided. The reader of documents rounds more than once,
and about one in ten of the doubles with seventeen digits is read as one of its
neighbours, so a predicate that holds such a constant may answer otherwise at the
receiver. The last section has one that does. Everything up to the reading of the text
is proved without this condition, for whatever tree the text is read as.
-/
import PredicateWire.Proofs.Catalog.Captured
import PredicateWire.Proofs.Table.Capture
import PredicateWire.Proofs.Wire.Scoping

namespace PredicateWire

namespace Expr

/-! ### Predicates that can do without a catalog -/

/-- A type occurs in an expression, possibly inside another type. -/
def Contains (expression : Expr) (part : DataType) : Prop :=
  ∃ type ∈ expression.types, part ∈ type.parts

/-- What an expression over records needs to come through to a receiver that does not know them.
Parameters are told apart by name and type name as well as by identity, a type name stands for one
type, every record occurs in the type of a constant, nothing but fields is used of records, and
constants conform to their types. Whether doubles are read back is not part of it. -/
structure Transferable (specs : List RecordSpec) (expression : Expr) : Prop where
  handles : ∀ first ∈ expression.parameters, ∀ second ∈ expression.parameters,
    first.sameAs second = true → first = second
  apart : ∀ first ∈ expression.parameters, ∀ second ∈ expression.parameters,
    first.Alike second → first = second
  ordinary : ∀ type ∈ expression.types, type.Ordinary
  coherent : ∀ {first second}, expression.Contains first → expression.Contains second →
    first.canonicalName = second.canonicalName → first = second
  captured : ∀ {part}, expression.Contains part → part.isRecord = true →
    ∃ constant ∈ expression.constants, part ∈ constant.2.parts
  methods : ∀ method ∈ expression.methods, ∀ spec ∈ specs,
    method.declaringType.baseName ≠ spec.name
  constructors : expression.constructors = []
  constants : ∀ constant ∈ expression.constants, Value.Conforms constant.2 constant.1

/-! ### Nodes that are received with captured records -/

/-- What a node itself holds is received as it is, with captured records in its types. -/
def Synthesized : Expr → Prop
  | binary _ _ _ _ method conversion =>
    (∀ implementation ∈ method, Catalog.standard.receivedMethod DataType.synthesized
      implementation = .ok implementation.synthesized) ∧
        ∀ converter ∈ conversion, converter.isLambda = true
  | member _ read =>
    Catalog.standard.receivedMember DataType.synthesized read = .ok read.synthesized
  | constant value type => Value.ofLiteral type.synthesized value.document.normalize = .ok value
  | call _ method _ =>
    Catalog.standard.receivedMethod DataType.synthesized method = .ok method.synthesized
  | construct _ _ => False
  | arrayInit type _ => ∃ element, type = .array element
  | unary _ _ _ => False
  | _ => True

theorem Synthesized.arrives {node : Expr} (synthesized : node.Synthesized) :
    node.Arrives Catalog.standard DataType.synthesized := by
  cases node with
  | binary operator type left right method conversion =>
    exact ⟨fun implementation present => ⟨_, synthesized.1 implementation present⟩, synthesized.2⟩
  | member target read => exact ⟨_, synthesized⟩
  | constant value type => exact ⟨_, synthesized⟩
  | call target method arguments => exact ⟨_, synthesized⟩
  | construct => exact synthesized.elim
  | arrayInit type elements =>
    obtain ⟨element, rfl⟩ := synthesized
    rfl
  | _ => trivial

theorem Synthesized.kept {node : Expr} (synthesized : node.Synthesized) :
    node.Kept Catalog.standard DataType.synthesized := by
  cases node with
  | binary operator type left right method conversion =>
    intro implementation present handle received
    cases (synthesized.1 implementation present).symm.trans received
    exact implementation.agrees_synthesized
  | member target read =>
    intro handle received
    cases Except.ok.inj ((Eq.symm synthesized).trans received)
    exact ⟨read.agrees_synthesized, rfl⟩
  | constant value type =>
    intro content received
    exact (Except.ok.inj ((Eq.symm synthesized).trans received)).symm
  | call target method arguments =>
    intro handle received
    cases Except.ok.inj ((Eq.symm synthesized).trans received)
    exact ⟨method.agrees_synthesized, rfl⟩
  | construct => exact synthesized.elim
  | unary => exact synthesized
  | _ => trivial

section

variable {specs : List RecordSpec} {expression : Expr}

theorem Transferable.world (transferable : expression.Transferable specs) :
    TypeTable.World expression.Contains where
  ordinary := by
    rintro part ⟨type, member, within⟩
    exact (transferable.ordinary type member).parts part within
  parts := by
    rintro part ⟨type, member, within⟩ inner innerWithin
    exact ⟨type, member, DataType.parts_trans within innerWithin⟩
  same := transferable.coherent

theorem Transferable.told_apart (transferable : expression.Transferable specs) :
    ∀ first ∈ expression.parameters, ∀ second ∈ expression.parameters,
      first.namesake second = first.sameAs second := by
  intro first firstMember second secondMember
  rw [Bool.eq_iff_iff, Parameter.namesake_iff]
  constructor
  · intro alike
    rw [transferable.apart first firstMember second secondMember alike]
    exact beq_self_eq_true _
  · intro same
    rw [transferable.handles first firstMember second secondMember same]
    exact ⟨rfl, rfl⟩

/-- Every node of a predicate that can do without a catalog is received with captured records. -/
theorem Transferable.synthesized (transferable : expression.Transferable specs)
    (built : expression.Built (Catalog.withRecords specs)) {limit : Nat}
    (packable : expression.Packable limit 0) {node : Expr} (member : node ∈ expression.nodes) :
    node.Synthesized := by
  obtain ⟨depth, admitted⟩ := packable.admitted node member
  have offered := built.offered node member
  have closed : ∀ type ∈ node.ownTypes, type.isClosed = true := fun type own =>
    (transferable.ordinary type (ownTypes_subset member type own)).isClosed
  have foreign : ∀ method ∈ node.ownMethods, ∀ spec ∈ specs,
      method.declaringType.baseName ≠ spec.name := fun method own =>
    transferable.methods method (ownMethods_subset member method own)
  cases node with
  | binary operator type left right method conversion =>
    refine ⟨fun implementation present => ?_, offered.2⟩
    cases present
    obtain ⟨offers, rfl⟩ := offered.1 implementation rfl
    simp only [ownTypes, List.forall_mem_cons, Option.toList_some, List.flatMap_singleton] at closed
    exact Catalog.receivedMethod_synthesized offers closed.2 closed.1 (admitted _ rfl)
      (foreign implementation (.head _))
  | member target read => exact Catalog.receivedMember_synthesized offered
  | constant value type =>
    have conforms := transferable.constants (value, type) (List.mem_filterMap.mpr ⟨_, member, rfl⟩)
    exact conforms.synthesized.ofLiteral admitted.2
  | call target method arguments =>
    rw [ownTypes, List.forall_mem_cons] at closed
    exact Catalog.receivedMethod_synthesized offered closed.2 closed.1 admitted
      (foreign method (.head _))
  | construct constructor arguments =>
    have present : constructor ∈ expression.constructors :=
      List.mem_filterMap.mpr ⟨_, member, rfl⟩
    rw [transferable.constructors] at present
    cases present
  | arrayInit type elements => exact offered
  | unary => exact admitted
  | _ => trivial

end

end Expr

open TypeTable

/-- The table that a predicate is sent with gives a receiver that knows the library only every type
in it, with captured records. -/
theorem Expr.Transferable.exists_table {specs : List RecordSpec} {expression : Expr}
    (transferable : expression.Transferable specs) {source : Nat → UInt32} {packet : Packet}
    (sent : pack source expression = .ok packet) :
    ∃ table, Carries Serializer.standard expression table ∧
      (∀ type ∈ expression.types,
        (table.loaded Catalog.standard).Receives DataType.synthesized type) ∧
      packet = .ofNode Serializer.standard.settings.encoding (expression.node table.keyFor)
        table := by
  have captures : ∀ node ∈ expression.nodes, node.IfConstant
      (Captures (Capturing expression.Contains []) fun type table => table.HoldsAll type) := by
    intro node member
    cases node with
    | constant value type =>
      refine captures_pack transferable.world type ?_ fun _ _ _ _ => List.not_mem_nil
      exact ⟨type, ownTypes_subset member type (.head _), DataType.mem_parts_self type⟩
    | _ => trivial
  obtain ⟨table, carries, held, same⟩ := Serializer.exists_table lasts_capturing
    (capturing_empty Serializer.standard.catalog source) captures sent
  refine ⟨table, carries, fun type member => ⟨carries.known type member, ?_⟩, same⟩
  have holds : table.HoldsAll type := by
    intro name fields captured within
    obtain ⟨constant, constantMember, inner⟩ := transferable.captured ⟨type, member, within⟩ rfl
    obtain ⟨node, nodeMember, own⟩ := List.mem_filterMap.mp constantMember
    cases node with
    | constant value declared =>
      cases own
      exact held _ nodeMember name fields captured inner
    | _ => cases own
  have loadedSound : (table.loaded Catalog.standard).Sound := carries.sound.congr _ rfl
  have loaded : (table.loaded Catalog.standard).HoldsAll type := fun name fields captured within =>
    ⟨(holds name fields captured within).known, (holds name fields captured within).entry⟩
  exact received_synthesized loadedSound rfl (transferable.ordinary type member).buildable loaded

/-- A predicate over records that uses nothing but their fields is unpacked by a receiver that
knows the library only, from any tree whose text is read as the tree of the predicate. What is
unpacked answers every input like the predicate. -/
theorem Expr.Transferable.unpack_ofNode {specs : List RecordSpec} {expression : Expr}
    {before : Predicate} (transferable : expression.Transferable specs)
    (built : expression.Built (Catalog.withRecords specs)) {table : TypeTable}
    (sound : table.Sound) (packable : expression.Packable Serializer.standard.settings.maxDepth 0)
    (receives : ∀ type ∈ expression.types,
      (table.loaded Catalog.standard).Receives DataType.synthesized type) {sent : Node}
    (readable : Json.read? sent.written = some (expression.node table.keyFor).toJson)
    (compiled : Predicate.ofExpr Settings.standard.maxDepth expression = .ok before)
    (encoding : Encoding) (scope : Nat) :
    ∃ after, unpack scope (.ofNode encoding sent table) = .ok after ∧
      ∀ budget input address,
        after.call budget input address = before.call budget input address := by
  obtain ⟨made, delivered, interns⟩ := Serializer.deserializeExpr_ofNode Serializer.standard
    sound packable receives (fun type _ => DataType.canonicalName_synthesized type) readable
    encoding scope
  have synthesized : ∀ node ∈ expression.nodes, node.Synthesized := fun node member =>
    transferable.synthesized built packable member
  obtain ⟨rebuilt, received⟩ : ∃ rebuilt, expression.received Serializer.standard.catalog
      DataType.synthesized made = .ok rebuilt :=
    Expr.exists_received fun node member => (synthesized node member).arrives
  have joins := (interns rebuilt received).joins fun first firstMember second secondMember =>
    transferable.coherent
      ⟨_, Expr.type_mem_types firstMember, DataType.mem_parts_self _⟩
      ⟨_, Expr.type_mem_types secondMember, DataType.mem_parts_self _⟩
  obtain ⟨after, compiledAfter, answers⟩ := Predicate.call_received joins received
    (fun node member => (synthesized node member).kept)
    (fun type isBool => (DataType.isBool_synthesized type).trans isBool) compiled
  refine ⟨after, ?_, answers ?_⟩
  · unfold unpack Serializer.deserialize
    rw [delivered, received]
    exact compiledAfter
  · exact Expr.scopingIn_congr transferable.told_apart expression [] (fun _ member => member)
      fun _ (member : _ ∈ ([] : Enclosing)) => nomatch member

/-- A predicate over records that uses nothing but their fields is unpacked by a receiver that knows
the library only, and answers every input like the one that was packed. The text of every double
among its constants has to be read back as this double, since the reader of documents takes some
doubles for a neighbour. The answers agree under every budget of calls, also where both exhaust it,
and they are the same errors where they are errors. -/
theorem unpack_pack {specs : List RecordSpec} {expression : Expr} {source : Nat → UInt32}
    {scope : Nat} {packet : Packet} {before : Predicate}
    (built : expression.Built (Catalog.withRecords specs))
    (transferable : expression.Transferable specs)
    (doubles : ∀ constant ∈ expression.constants, ∀ number ∈ constant.1.doubles,
      Json.ReadsBack number)
    (compiled : Predicate.ofExpr Settings.standard.maxDepth expression = .ok before)
    (sent : pack source expression = .ok packet) :
    ∃ after, unpack scope packet = .ok after ∧ ∀ budget input address,
      after.call budget input address = before.call budget input address := by
  obtain ⟨table, carries, receives, rfl⟩ := transferable.exists_table sent
  have writable : ∀ node ∈ expression.nodes, node.Writable := fun node member =>
    (built.offered node member).writable (Catalog.arity_withRecords specs) fun constant own =>
      doubles constant (List.mem_filterMap.mpr ⟨node, member, own⟩)
  have read := Json.read?_written_eq (Expr.readable_node table.keyFor expression writable)
  have shallow : expression.documentNesting ≤ Json.greatestNesting :=
    (Expr.documentNesting_le carries.packable).trans (by decide)
  rw [Expr.nesting_node_eq, if_pos shallow] at read
  exact transferable.unpack_ofNode built carries.sound carries.packable receives read compiled
    Serializer.standard.settings.encoding scope

/-! ### A record inside an array of another -/

namespace Expr

/-- A record with two fields. -/
def point : RecordSpec :=
  ⟨"Point", [⟨"Height", .double, true⟩, ⟨"Seen", .bool, true⟩], [], []⟩

/-- A record that holds an array of the other one. -/
def path : RecordSpec :=
  ⟨"Path", [⟨"Points", .array point.type, true⟩], [], []⟩

/-- A point that has been seen. -/
def seenAt (height : Float) : Value :=
  .record [("Height", .double height), ("Seen", .bool true)]

/-- A path with one point. -/
def shortPath : Value :=
  .record [("Points", .array [seenAt 0.5])]

/-- The point that a predicate is asked about. -/
def askedPoint : Parameter :=
  ⟨⟨0, 0⟩, "point", point.type, false⟩

/-- The first point of the short path. -/
def firstPoint : Expr :=
  binary .arrayIndex point.type (member (constant shortPath path.type)
    ⟨path.type, "Points", .array point.type, .field true⟩) (int32 0) none none

/-- How high is a point? -/
def heightOf (target : Expr) : Expr :=
  member target ⟨point.type, "Height", .double, .field true⟩

/-- Has a point been seen? -/
def seen (target : Expr) : Expr :=
  member target ⟨point.type, "Seen", .bool, .field true⟩

/-- Has the point been seen, and is it higher than the first point of the short path? The type of
points is packed before its fields are captured, which they are as part of the path. -/
def aboveFirst : Expr :=
  lambda (.generic "sys.Func`2" .function [point.type, .bool]) [askedPoint]
    (binary .andAlso .bool (seen (parameter askedPoint))
      (binary .lessThan .bool (heightOf firstPoint) (heightOf (parameter askedPoint)) none none)
      none none) none false

theorem built_aboveFirst : aboveFirst.Built (Catalog.withRecords [point, path]) := by
  have points : memberOf (Catalog.withRecords [point, path]) (constant shortPath path.type)
      "Points" = .ok (member (constant shortPath path.type)
        ⟨path.type, "Points", .array point.type, .field true⟩) := rfl
  have first : binaryOf .arrayIndex (member (constant shortPath path.type)
      ⟨path.type, "Points", .array point.type, .field true⟩) (int32 0) = .ok firstPoint := rfl
  have firstHeight : memberOf (Catalog.withRecords [point, path]) firstPoint "Height" =
      .ok (heightOf firstPoint) := rfl
  have ownHeight : memberOf (Catalog.withRecords [point, path]) (parameter askedPoint) "Height" =
      .ok (heightOf (parameter askedPoint)) := rfl
  have ownSeen : memberOf (Catalog.withRecords [point, path]) (parameter askedPoint) "Seen" =
      .ok (seen (parameter askedPoint)) := rfl
  have above : binaryOf .lessThan (heightOf firstPoint) (heightOf (parameter askedPoint)) =
      .ok (binary .lessThan .bool (heightOf firstPoint) (heightOf (parameter askedPoint))
        none none) := rfl
  have both : binaryOf .andAlso (seen (parameter askedPoint)) (binary .lessThan .bool
      (heightOf firstPoint) (heightOf (parameter askedPoint)) none none) =
        .ok (binary .andAlso .bool (seen (parameter askedPoint)) (binary .lessThan .bool
          (heightOf firstPoint) (heightOf (parameter askedPoint)) none none) none none) := rfl
  have whole : lambdaOf (Catalog.withRecords [point, path]) (binary .andAlso .bool
      (seen (parameter askedPoint)) (binary .lessThan .bool (heightOf firstPoint)
        (heightOf (parameter askedPoint)) none none) none none) [askedPoint] =
          .ok aboveFirst := rfl
  have height := Built.member (.binary (.member (.constant _ _) points) (.constant _ _) first)
    firstHeight
  exact .lambda (.binary (.member (.parameter askedPoint) ownSeen)
    (.binary height (.member (.parameter askedPoint) ownHeight) above) both) whole

/-- Every type that occurs in the predicate. -/
def typesAboveFirst : List DataType :=
  [.generic "sys.Func`2" .function [point.type, .bool], .bool, point.type, .array point.type,
    path.type, .int32, .double]

theorem types_aboveFirst : ∀ type ∈ aboveFirst.types, type ∈ typesAboveFirst := by
  have types : aboveFirst.types = [.generic "sys.Func`2" .function [point.type, .bool], .bool,
    .bool, point.type, point.type, .bool, .double, point.type, point.type, .array point.type,
    path.type, path.type, .int32, .double, point.type, point.type, point.type] := rfl
  rw [types]
  simp [typesAboveFirst]

theorem ordinary_aboveFirst : ∀ type ∈ typesAboveFirst, type.Ordinary := by
  have plainPoint : DataType.PlainName point.name :=
    ⟨by decide, by simp [point, TypeName.isReserved], by decide +kernel⟩
  have plainPath : DataType.PlainName path.name :=
    ⟨by decide, by simp [path, TypeName.isReserved], by decide +kernel⟩
  have ordinaryPoint : point.type.Ordinary :=
    .record plainPoint (List.forall_mem_cons.mpr
      ⟨.primitive .double, List.forall_mem_singleton.mpr (.primitive .bool)⟩)
  simp only [typesAboveFirst, List.forall_mem_cons]
  exact ⟨.generic (by decide) (by simp [ordinaryPoint, DataType.Ordinary.primitive]),
    .primitive .bool, ordinaryPoint, .array ordinaryPoint,
    .record plainPath (List.forall_mem_singleton.mpr (.array ordinaryPoint)), .primitive .int32,
    .primitive .double, List.forall_mem_nil _⟩

theorem contains_aboveFirst {part : DataType} (contains : aboveFirst.Contains part) :
    part ∈ typesAboveFirst := by
  obtain ⟨type, member, within⟩ := contains
  have parts : ∀ type ∈ typesAboveFirst, ∀ part ∈ type.parts, part ∈ typesAboveFirst := by
    simp [typesAboveFirst, DataType.parts, DataType.partsAll, DataType.partsFields, point, path,
      RecordSpec.type]
  exact parts type (types_aboveFirst type member) part within

theorem constants_aboveFirst :
    aboveFirst.constants = [(shortPath, path.type), (.int32 0, .int32)] := rfl

theorem parameters_aboveFirst :
    aboveFirst.parameters = [askedPoint, askedPoint, askedPoint] := rfl

theorem conforms_seenAt (height : Float) : Value.Conforms point.type (seenAt height) := by
  have ordered : ("Height" : String) < "Seen" := by decide +kernel
  refine .record (List.pairwise_cons.mpr ⟨List.forall_mem_singleton.mpr ordered,
    List.pairwise_singleton _ _⟩) ?_ ?_ ?_
  · simp [point]
  · simp [point, Entries.get?]
  · simp only [point, List.forall_mem_cons]
    refine ⟨fun content found => ?_, fun content found => ?_, List.forall_mem_nil _⟩
    · cases found
      exact .double height
    · cases found
      exact .bool true

theorem transferable_aboveFirst : aboveFirst.Transferable [point, path] where
  handles := by
    rw [parameters_aboveFirst]
    simp
  apart := by
    rw [parameters_aboveFirst]
    simp
  ordinary := fun type member => ordinary_aboveFirst type (types_aboveFirst type member)
  coherent := by
    have nodup : (typesAboveFirst.map DataType.canonicalName).Nodup := by decide +kernel
    intro first second firstContained secondContained same
    exact TypeTable.eq_of_nodup_map nodup (contains_aboveFirst firstContained)
      (contains_aboveFirst secondContained) same
  captured := by
    have records : ∀ type ∈ typesAboveFirst, type.isRecord = true → type ∈ path.type.parts := by
      simp [typesAboveFirst, DataType.isRecord, DataType.parts, DataType.partsFields, point, path,
        RecordSpec.type]
    intro part contained isRecord
    rw [constants_aboveFirst]
    exact ⟨_, .head _, records part (contains_aboveFirst contained) isRecord⟩
  methods := by
    have methods : aboveFirst.methods = [] := rfl
    rw [methods]
    exact List.forall_mem_nil _
  constructors := rfl
  constants := by
    have whole : Value.Conforms path.type shortPath := by
      refine .record (List.pairwise_singleton _ _) ?_ ?_ ?_
      · simp [path]
      · simp [path, Entries.get?]
      · simp only [path, List.forall_mem_singleton]
        intro content found
        cases found
        exact .array (List.forall_mem_singleton.mpr (conforms_seenAt 0.5))
    rw [constants_aboveFirst, List.forall_mem_cons, List.forall_mem_singleton]
    exact ⟨whole, .int32 0⟩

theorem pack_aboveFirst : ∃ packet, pack UInt32.ofNat aboveFirst = .ok packet := by
  have succeeds : (pack UInt32.ofNat aboveFirst).toBool = true := by decide +kernel
  cases sent : pack UInt32.ofNat aboveFirst with
  | ok packet => exact ⟨packet, rfl⟩
  | error error =>
    rw [sent] at succeeds
    cases succeeds

end Expr

/-- The predicate about points comes through, although the fields of a point are captured only as
part of a path. The height in the path is a double that is read back. -/
theorem unpack_pack_aboveFirst :
    ∃ packet before after, pack UInt32.ofNat Expr.aboveFirst = .ok packet ∧
      Predicate.ofExpr 48 Expr.aboveFirst = .ok before ∧ unpack 1 packet = .ok after ∧
      (∀ budget address, after.call budget (Expr.seenAt 1.0) address = .ok true) ∧
      ∀ budget address, after.call budget (Expr.seenAt 0.25) address = .ok false := by
  obtain ⟨packet, sent⟩ := Expr.pack_aboveFirst
  have returns : (Expr.binary .andAlso .bool (Expr.seen (.parameter Expr.askedPoint))
      (.binary .lessThan .bool (Expr.heightOf Expr.firstPoint)
        (Expr.heightOf (.parameter Expr.askedPoint)) none none) none none).resultType.isBool =
          true := rfl
  obtain ⟨before, compiled, lambda, _⟩ := Predicate.exists_ofExpr 48
    (.generic "sys.Func`2" .function [Expr.point.type, .bool]) Expr.askedPoint returns none false
  obtain ⟨after, unpacked, same⟩ := unpack_pack Expr.built_aboveFirst Expr.transferable_aboveFirst
    (by
      rw [Expr.constants_aboveFirst]
      exact List.forall_mem_cons.mpr ⟨by decide +kernel,
        List.forall_mem_singleton.mpr (List.forall_mem_nil _)⟩)
    compiled sent
  refine ⟨packet, before, after, sent, compiled, unpacked, fun budget address => ?_,
    fun budget address => ?_⟩
  · rw [same, Predicate.call, CompiledLambda.invoke, lambda]
    rfl
  · rw [same, Predicate.call, CompiledLambda.invoke, lambda]
    rfl

/-! ### A double that is read as another one -/

theorem Value.document_double {number : Float} (finite : Decimal.isFinite number = true) :
    (double number).document = .double number := by
  rw [document, literal, if_pos finite]

namespace Expr

/-- The score that a predicate is asked about. -/
def askedScore : Parameter :=
  ⟨⟨0, 0⟩, "score", .double, false⟩

/-- Is the score a given number? -/
def scoreIs (number : Float) : Expr :=
  lambda (.generic "sys.Func`2" .function [.double, .bool]) [askedScore]
    (binary .equal .bool (parameter askedScore) (constant (.double number) .double) none none)
    none false

theorem built_scoreIs (number : Float) : (scoreIs number).Built (Catalog.withRecords []) := by
  have same : binaryOf .equal (parameter askedScore) (constant (.double number) .double) =
      .ok (binary .equal .bool (parameter askedScore) (constant (.double number) .double)
        none none) := rfl
  have whole : lambdaOf (Catalog.withRecords []) (binary .equal .bool (parameter askedScore)
      (constant (.double number) .double) none none) [askedScore] = .ok (scoreIs number) := rfl
  exact .lambda (.binary (.parameter askedScore) (.constant _ _) same) whole

theorem types_scoreIs (number : Float) : (scoreIs number).types =
    [.generic "sys.Func`2" .function [.double, .bool], .bool, .double, .double, .double] := rfl

theorem contains_scoreIs {number : Float} {part : DataType}
    (contains : (scoreIs number).Contains part) :
    part ∈ [.generic "sys.Func`2" .function [.double, .bool], .double, DataType.bool] := by
  obtain ⟨type, member, within⟩ := contains
  rw [types_scoreIs] at member
  have parts : ∀ type ∈ [.generic "sys.Func`2" .function [.double, .bool], .bool, .double, .double,
      DataType.double], ∀ part ∈ type.parts,
        part ∈ [.generic "sys.Func`2" .function [.double, .bool], .double, DataType.bool] := by
    simp [DataType.parts, DataType.partsAll]
  exact parts type member part within

theorem transferable_scoreIs (number : Float) : (scoreIs number).Transferable [] where
  handles := by
    rw [show (scoreIs number).parameters = [askedScore, askedScore] from rfl]
    simp
  apart := by
    rw [show (scoreIs number).parameters = [askedScore, askedScore] from rfl]
    simp
  ordinary := by
    rw [types_scoreIs]
    simp only [List.forall_mem_cons]
    exact ⟨.generic (by decide) (by simp [DataType.Ordinary.primitive]), .primitive .bool,
      .primitive .double, .primitive .double, .primitive .double, List.forall_mem_nil _⟩
  coherent := by
    have nodup : ([.generic "sys.Func`2" .function [.double, .bool], .double,
      DataType.bool].map DataType.canonicalName).Nodup := by decide +kernel
    intro first second firstContained secondContained same
    exact TypeTable.eq_of_nodup_map nodup (contains_scoreIs firstContained)
      (contains_scoreIs secondContained) same
  captured := by
    intro part contained isRecord
    have plain : ∀ type ∈ [.generic "sys.Func`2" .function [.double, .bool], .double,
        DataType.bool], type.isRecord = false := by decide
    rw [plain part (contains_scoreIs contained)] at isRecord
    cases isRecord
  methods := by
    rw [show (scoreIs number).methods = [] from rfl]
    exact List.forall_mem_nil _
  constructors := rfl
  constants := List.forall_mem_singleton.mpr (.double number)

theorem call_scoreIs (number : Float) : ∃ predicate,
    Predicate.ofExpr Settings.standard.maxDepth (scoreIs number) = .ok predicate ∧
      ∀ budget score address,
        predicate.call budget (.double score) address = .ok (score == number) := by
  obtain ⟨predicate, compiled, lambda, _⟩ := Predicate.exists_ofExpr Settings.standard.maxDepth
    (.generic "sys.Func`2" .function [.double, .bool]) askedScore
      (rfl : (binary .equal .bool (parameter askedScore) (constant (.double number) .double)
        none none).resultType.isBool = true) none false
  refine ⟨predicate, compiled, fun budget score address => ?_⟩
  rw [Predicate.call, CompiledLambda.invoke, lambda]
  rfl

theorem packable_scoreIs {number : Float} (finite : Decimal.isFinite number = true) :
    (scoreIs number).Packable Serializer.standard.settings.maxDepth 0 := by
  have written : (Value.double number).literal = .ok (Value.double number).document := by
    rw [Value.document_double finite, Value.literal, if_pos finite]
  have depth : ∀ below, below ≤ 2 → below ≤ Serializer.standard.settings.maxDepth :=
    fun below small => Nat.le_trans small (by decide)
  have constantPackable : (constant (.double number) .double).Packable
      Serializer.standard.settings.maxDepth 2 := ⟨depth 2 (by decide), rfl, written⟩
  exact ⟨depth 0 (by decide), fun _ => by decide, depth 1 (by decide),
    fun _ absent => absurd absent (Option.not_mem_none _), depth 2 (by decide),
    constantPackable, trivial⟩

/-- The text of a predicate about a number is read as the predicate about the double that the text
of the number is read as. -/
theorem read?_scoreIs {number result : Float} (finite : Decimal.isFinite number = true)
    (resultFinite : Decimal.isFinite result = true) (reads : Json.ReadsAs number result)
    (key : DataType → TypeKey) : Json.read? ((scoreIs number).node key).written =
      some ((scoreIs result).node key).toJson := by
  have readable : Json.ReadableAs (fun _ => result) ((scoreIs number).node key).toJson := by
    simp only [scoreIs, node, nodeOption, Node.toJson, Node.optionToJson, Json.optionalMember,
      Option.map_none, Json.ReadableAs, Json.ReadableMembersAs, Json.readableMembers_append,
      readableMembers_headMembers, readableAll_parameters, Json.readableMembers_flagMember,
      Value.document_double finite, true_and, and_true]
    exact ⟨(readableAll_parameters key [askedScore]).1, reads⟩
  have shallow : Json.nesting ((scoreIs number).node key).toJson ≤ Json.greatestNesting := by
    rw [nesting_node_eq]
    exact (documentNesting_le (packable_scoreIs finite)).trans (by decide)
  have recast : Json.recast (fun _ => result) ((scoreIs number).node key).toJson =
      ((scoreIs result).node key).toJson := by
    simp only [scoreIs, node, Node.toJson, Value.document_double finite,
      Value.document_double resultFinite]
    rfl
  rw [← recast]
  exact Json.read?_recast shallow readable

end Expr

/-- A predicate about a number is unpacked as the predicate about the double that the text of the
number is read as. -/
theorem unpack_scoreIs {number result : Float} (finite : Decimal.isFinite number = true)
    (resultFinite : Decimal.isFinite result = true) (reads : Json.ReadsAs number result)
    {source : Nat → UInt32} {packet : Packet}
    (sent : pack source (Expr.scoreIs number) = .ok packet) (scope : Nat) :
    ∃ after, unpack scope packet = .ok after ∧ ∀ budget score address,
      after.call budget (.double score) address = .ok (score == result) := by
  obtain ⟨table, carries, receives, rfl⟩ := (Expr.transferable_scoreIs number).exists_table sent
  obtain ⟨before, compiled, answers⟩ := Expr.call_scoreIs result
  obtain ⟨after, unpacked, same⟩ := (Expr.transferable_scoreIs result).unpack_ofNode
    (Expr.built_scoreIs result) carries.sound (Expr.packable_scoreIs resultFinite) receives
    (Expr.read?_scoreIs finite resultFinite reads table.keyFor) compiled
    Serializer.standard.settings.encoding scope
  exact ⟨after, unpacked, fun budget score address =>
    (same budget (.double score) address).trans (answers budget score address)⟩

/-- The text of `0.9452706955539223` is read as the next double. A predicate that asks whether a
score is this number meets every condition but that its double is read back, and it answers
otherwise once it has been packed and unpacked. -/
theorem unpack_pack_neighbour :
    (Expr.scoreIs 0.9452706955539223).Built (Catalog.withRecords []) ∧
    (Expr.scoreIs 0.9452706955539223).Transferable [] ∧
    ∃ packet before after, pack UInt32.ofNat (Expr.scoreIs 0.9452706955539223) = .ok packet ∧
      Predicate.ofExpr Settings.standard.maxDepth (Expr.scoreIs 0.9452706955539223) =
        .ok before ∧
      unpack 1 packet = .ok after ∧ ∀ budget address,
        before.call budget (.double 0.9452706955539223) address = .ok true ∧
        after.call budget (.double 0.9452706955539223) address = .ok false := by
  have succeeds : (pack UInt32.ofNat (Expr.scoreIs 0.9452706955539223)).toBool = true := by
    decide +kernel
  have reads : Json.ReadsAs 0.9452706955539223 0.9452706955539224 := by decide +kernel
  have same : ((0.9452706955539223 : Float) == 0.9452706955539223) = true := by decide +kernel
  have differs : ((0.9452706955539223 : Float) == 0.9452706955539224) = false := by
    decide +kernel
  cases sent : pack UInt32.ofNat (Expr.scoreIs 0.9452706955539223) with
  | error error =>
    rw [sent] at succeeds
    cases succeeds
  | ok packet =>
    obtain ⟨before, compiled, answers⟩ := Expr.call_scoreIs 0.9452706955539223
    obtain ⟨after, unpacked, others⟩ :=
      unpack_scoreIs (by decide +kernel) (by decide +kernel) reads sent 1
    refine ⟨Expr.built_scoreIs _, Expr.transferable_scoreIs _, packet, before, after, rfl,
      compiled, unpacked, fun budget address => ⟨?_, ?_⟩⟩
    · rw [answers, same]
    · rw [others, differs]

end PredicateWire
