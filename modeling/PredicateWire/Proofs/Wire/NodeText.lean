/-
This file proves that the document of a node tree is read as that tree, with the
constants in normal form. A node is an object whose members have different names, so
each member is found by its name, and the reader of a member finds there what the writer
put there.

The reader does not know in advance what it is reading. It takes the content of a member
as a document, as a node and as a list of nodes at once, and decides when it has seen
the tag, which may stand anywhere among the members. Members that every node has do not
disturb those of its tag (`Node.ofParts?_headMembers`), and so one case for each tag is
left. Constants are the only part that changes: the reader holds their objects as sorted
maps.
-/
import PredicateWire.Wire.Node

namespace PredicateWire

namespace Json

/-! ### Lists of things that are read back -/

/-- What is written by a function that a reader inverts is read back, one by one. -/
theorem mapM_some {Source Content : Type} {read : Source → Option Content}
    {write : Content → Source} (inverse : ∀ content, read (write content) = some content)
    (contents : List Content) : (contents.map write).mapM read = some contents := by
  induction contents with
  | nil => rfl
  | cons first rest inductionHypothesis =>
    rw [List.map_cons, List.mapM_cons, inverse, inductionHypothesis]
    rfl

theorem listOf_map {Content : Type} {read : Json → Option Content} {write : Content → Json}
    (inverse : ∀ content, read (write content) = some content) (contents : List Content) :
    listOf read (.array (contents.map write)) = some contents :=
  mapM_some inverse contents

/-! ### Members next to others -/

/-- Whether members are declared once, and what they hold, depends on the members of these names
only. -/
theorem declared?_congr {Content : Type} {names : List String}
    {members others : List (String × Content)}
    (counts : ∀ name ∈ names, members.countP (fun entry => entry.1 == name) =
      others.countP fun entry => entry.1 == name)
    (contents : ∀ name ∈ names, Entries.get? members name = Entries.get? others name) :
    declared? names members = declared? names others := by
  have repeated : (names.any fun name => 1 < members.countP fun entry => entry.1 == name) =
      names.any fun name => 1 < others.countP fun entry => entry.1 == name := by
    rw [Bool.eq_iff_iff, List.any_eq_true, List.any_eq_true]
    exact exists_congr fun name => and_congr_right fun member => by rw [counts name member]
  unfold declared?
  rw [repeated, List.map_congr_left contents]

theorem declared?_append_left {Content : Type} {names : List String}
    {left right : List (String × Content)} (apart : ∀ entry ∈ right, entry.1 ∉ names) :
    declared? names (left ++ right) = declared? names left := by
  have different : ∀ name ∈ names, ∀ entry ∈ right, ¬(entry.1 == name) = true :=
    fun name member entry entryMember same => apart entry entryMember (eq_of_beq same ▸ member)
  refine declared?_congr (fun name member => ?_) fun name member => ?_
  · rw [List.countP_append, List.countP_eq_zero.mpr (different name member), Nat.add_zero]
  · rw [Entries.get?, List.find?_append, List.find?_eq_none.mpr (different name member),
      Option.or_none, Entries.get?]

theorem declared?_append_right {Content : Type} {names : List String}
    {left right : List (String × Content)} (apart : ∀ entry ∈ left, entry.1 ∉ names) :
    declared? names (left ++ right) = declared? names right := by
  have different : ∀ name ∈ names, ∀ entry ∈ left, ¬(entry.1 == name) = true :=
    fun name member entry entryMember same => apart entry entryMember (eq_of_beq same ▸ member)
  refine declared?_congr (fun name member => ?_) fun name member => ?_
  · rw [List.countP_append, List.countP_eq_zero.mpr (different name member), Nat.zero_add]
  · rw [Entries.get?, List.find?_append, List.find?_eq_none.mpr (different name member),
      Option.none_or, Entries.get?]

theorem optional_none {Content : Type} (read : Json → Option Content) :
    optional read none = some none := rfl

end Json

@[simp]
theorem TypeKey.ofJson?_toJson (key : TypeKey) : ofJson? key.toJson = some key := rfl

/-! ### References -/

theorem MethodReference.ofJson?_toJson (reference : MethodReference) :
    ofJson? reference.toJson = some reference := by
  obtain ⟨declaringType, name, parameters, arity, arguments⟩ := reference
  have keys := Json.listOf_map TypeKey.ofJson?_toJson
  by_cases noParameters : parameters = [] <;> by_cases noArguments : arguments = [] <;>
    cases arity <;>
    simp [ofJson?, toJson, Json.fields?, Json.declared?, Json.listMember, Json.optionalMember,
      Entries.get?, Json.required, Json.withDefault, Json.optional, Json.string?, Json.count?, keys,
      noParameters, noArguments]

/-- A reference is written as an object, so it is not taken for an absent one. -/
theorem MethodReference.optional_toJson (reference : MethodReference) :
    Json.optional ofJson? (some reference.toJson) = some (some reference) := by
  show (ofJson? reference.toJson).map some = _
  rw [ofJson?_toJson]
  rfl

theorem ConstructorReference.ofJson?_toJson (reference : ConstructorReference) :
    ofJson? reference.toJson = some reference := by
  obtain ⟨declaringType, parameters⟩ := reference
  have keys := Json.listOf_map TypeKey.ofJson?_toJson
  by_cases noParameters : parameters = [] <;>
    simp [ofJson?, toJson, Json.fields?, Json.declared?, Json.listMember, Entries.get?,
      Json.required, Json.withDefault, keys, noParameters]

theorem MemberReference.ofJson?_toJson (reference : MemberReference) :
    ofJson? reference.toJson = some reference := by
  simp [ofJson?, toJson, Json.fields?, Json.declared?, Entries.get?, Json.required, Json.string?]

namespace Node

/-! ### Constants in normal form -/

mutual

/-- The tree with the documents of its constants in normal form. -/
def normalized : Node → Node
  | lambda header body parameters name tailCall =>
    lambda header (normalized body) (normalizedAll parameters) name tailCall
  | parameter header name byReference => parameter header name byReference
  | binary header left right conversion method =>
    binary header (normalized left) (normalized right) (normalizedOption conversion) method
  | member header target read => member header (normalized target) read
  | constant header value => constant header value.normalize
  | call header target method arguments =>
    call header (normalizedOption target) method (normalizedAll arguments)
  | construct header constructor arguments =>
    construct header constructor (normalizedAll arguments)
  | arrayInit header element elements => arrayInit header element (normalizedAll elements)

/-- Several trees with constants in normal form. -/
def normalizedAll : List Node → List Node
  | [] => []
  | node :: rest => normalized node :: normalizedAll rest

/-- A tree that may be absent, with constants in normal form. -/
def normalizedOption : Option Node → Option Node
  | none => none
  | some node => some (normalized node)

end

/-! ### Reading nodes -/

/-- The content of a member as all that it can be. -/
def partOf (document : Json) : Part :=
  match document with
  | .array items => ⟨.array items, none, listOfJson? items⟩
  | document => ⟨document, ofJson? document, none⟩

theorem partsOf_eq_map (members : List (String × Json)) :
    partsOf members = members.map fun entry => (entry.1, partOf entry.2) := by
  induction members with
  | nil => rw [partsOf, List.map_nil]
  | cons entry rest inductionHypothesis =>
    obtain ⟨name, document⟩ := entry
    cases document <;> rw [partsOf, inductionHypothesis] <;> first | rfl | simp

/-- A node is written as an object. -/
theorem toJson_object (node : Node) : ∃ members, node.toJson = .object members := by
  cases node <;> exact ⟨_, by rw [toJson]⟩

theorem node?_partOf_toJson (node : Node) : (partOf node.toJson).node? = ofJson? node.toJson := by
  obtain ⟨members, written⟩ := toJson_object node
  rw [written]
  rfl

theorem nodes?_partOf_array (items : List Json) :
    (partOf (.array items)).nodes? = listOfJson? items := rfl

theorem document_partOf (document : Json) : (partOf document).document = document := by
  cases document <;> rfl

theorem kindOf?_number (kind : NodeKind) : kindOf? (.integer kind.number) = some kind := by
  simp [kindOf?, Json.count?, NodeKind.ofNumber?_number]

theorem ofJson?_text (tag : NodeTag) : NodeTag.ofJson? (.string tag.text) = some tag := by
  cases tag <;> rfl

/-- The members that every node has do not disturb those of its tag, nor the other way round. -/
theorem ofParts?_headMembers (header : NodeHeader) (tag : NodeTag)
    {members : List (String × Json)}
    (apart : ∀ entry ∈ members, entry.1 ∉ ["n", "t", "cr"] ∧ entry.1 ∉ ["$"]) :
    ofParts? (partsOf (headMembers header tag ++ members)) =
      (Json.declared? tag.memberNames (partsOf members)).bind (assemble? header tag) := by
  have common : ∀ entry ∈ partsOf (headMembers header tag), entry.1 ∉ tag.memberNames := by
    obtain ⟨kind, resultType, canReduce⟩ := header
    cases canReduce <;> cases tag <;>
      simp [partsOf_eq_map, headMembers, Json.flagMember, NodeTag.memberNames]
  have split : partsOf (headMembers header tag ++ members) =
      partsOf (headMembers header tag) ++ partsOf members := by
    rw [partsOf_eq_map, partsOf_eq_map, partsOf_eq_map, List.map_append]
  have head : headerOf? (partsOf (headMembers header tag) ++ partsOf members) = some header := by
    rw [headerOf?, Json.declared?_append_left]
    · obtain ⟨kind, resultType, canReduce⟩ := header
      cases canReduce <;>
        simp [partsOf_eq_map, headMembers, Json.flagMember, Json.declared?, Entries.get?,
          Json.required, Json.withDefault, document_partOf, kindOf?_number, Json.bool?]
    · intro entry member
      rw [partsOf_eq_map] at member
      obtain ⟨source, sourceMember, rfl⟩ := List.mem_map.mp member
      exact (apart source sourceMember).1
  have read : tagOf? (partsOf (headMembers header tag) ++ partsOf members) = some tag := by
    rw [tagOf?, Json.declared?_append_left]
    · obtain ⟨kind, resultType, canReduce⟩ := header
      cases canReduce <;>
        simp [partsOf_eq_map, headMembers, Json.flagMember, Json.declared?, Entries.get?,
          Json.required, document_partOf, ofJson?_text]
    · intro entry member
      rw [partsOf_eq_map] at member
      obtain ⟨source, sourceMember, rfl⟩ := List.mem_map.mp member
      exact (apart source sourceMember).2
  rw [ofParts?, split, head, Option.bind_eq_bind, Option.bind_some, read, Option.bind_eq_bind,
    Option.bind_some, Json.declared?_append_right common]
  rfl

mutual

/-- A tree is read from its document, with its constants in normal form. -/
theorem ofJson?_toJson : ∀ node : Node, ofJson? node.toJson = some node.normalized
  | lambda header body parameters name tailCall => by
    have bodyRead := ofJson?_toJson body
    have parametersRead := listOfJson?_listToJson parameters
    rw [toJson, ofJson?, List.append_assoc, List.append_assoc, ofParts?_headMembers]
    · cases name <;> cases tailCall <;>
        simp [partsOf_eq_map, NodeTag.memberNames, Json.flagMember, Json.optionalMember,
          Json.declared?, Entries.get?, assemble?, Json.required, Json.withDefault, Json.optional,
          document_partOf, node?_partOf_toJson, nodes?_partOf_array, Json.string?, Json.bool?,
          bodyRead, parametersRead, normalized]
    · cases name <;> cases tailCall <;> simp [Json.flagMember, Json.optionalMember]
  | parameter header name byReference => by
    rw [toJson, ofJson?, List.append_assoc, ofParts?_headMembers]
    · cases byReference <;>
        simp [partsOf_eq_map, NodeTag.memberNames, Json.flagMember, Json.declared?, Entries.get?,
          assemble?, Json.required, Json.withDefault, document_partOf, Json.string?, Json.bool?,
          normalized]
    · cases byReference <;> simp [Json.flagMember]
  | binary header left right conversion method => by
    have leftRead := ofJson?_toJson left
    have rightRead := ofJson?_toJson right
    have conversionRead := optionalNode_toJson conversion
    rw [toJson, ofJson?, List.append_assoc, List.append_assoc, ofParts?_headMembers]
    · cases conversion <;> cases method <;>
        simp only [Option.map_none, Option.map_some] at conversionRead <;>
        simp [partsOf_eq_map, NodeTag.memberNames, optionToJson, Json.optionalMember,
          Json.declared?, Entries.get?, assemble?, Json.required, document_partOf,
          node?_partOf_toJson, leftRead, rightRead, normalized, conversionRead,
          MethodReference.optional_toJson, Json.optional_none]
    · cases conversion <;> cases method <;> simp [optionToJson, Json.optionalMember]
  | member header target read => by
    have targetRead := ofJson?_toJson target
    rw [toJson, ofJson?, ofParts?_headMembers]
    · simp [partsOf_eq_map, NodeTag.memberNames, Json.declared?, Entries.get?, assemble?,
        Json.required, document_partOf, node?_partOf_toJson, targetRead,
        MemberReference.ofJson?_toJson, normalized]
    · simp
  | constant header value => by
    rw [toJson, ofJson?, ofParts?_headMembers]
    · simp [partsOf_eq_map, NodeTag.memberNames, Json.declared?, Entries.get?, assemble?,
        Json.required, document_partOf, normalized]
    · simp
  | call header target method arguments => by
    have targetRead := optionalNode_toJson target
    have argumentsRead := listOfJson?_listToJson arguments
    rw [toJson, ofJson?, List.append_assoc, ofParts?_headMembers]
    · cases target <;>
        simp only [Option.map_none, Option.map_some] at targetRead <;>
        simp [partsOf_eq_map, NodeTag.memberNames, optionToJson, Json.declared?, Entries.get?,
          assemble?, Json.required, Json.withDefault, document_partOf, nodes?_partOf_array,
          argumentsRead, MethodReference.ofJson?_toJson, normalized, targetRead]
    · cases target <;> simp [optionToJson]
  | construct header constructor arguments => by
    have argumentsRead := listOfJson?_listToJson arguments
    rw [toJson, ofJson?, ofParts?_headMembers]
    · simp [partsOf_eq_map, NodeTag.memberNames, Json.declared?, Entries.get?, assemble?,
        Json.required, Json.withDefault, document_partOf, nodes?_partOf_array, argumentsRead,
        ConstructorReference.ofJson?_toJson, normalized]
    · simp
  | arrayInit header element elements => by
    have elementsRead := listOfJson?_listToJson elements
    rw [toJson, ofJson?, ofParts?_headMembers]
    · simp [partsOf_eq_map, NodeTag.memberNames, Json.declared?, Entries.get?, assemble?,
        Json.required, Json.withDefault, document_partOf, nodes?_partOf_array, elementsRead,
        normalized]
    · simp

theorem listOfJson?_listToJson :
    ∀ nodes : List Node, listOfJson? (listToJson nodes) = some (normalizedAll nodes)
  | [] => rfl
  | node :: rest => by
    rw [listToJson, listOfJson?, ofJson?_toJson node, listOfJson?_listToJson rest, normalizedAll]

/-- A part that was written for a node is the node. -/
theorem optionalNode_toJson : ∀ node? : Option Node,
    Part.optionalNode (node?.map fun node => partOf node.toJson) = some (normalizedOption node?)
  | none => rfl
  | some node => by
    have read := ofJson?_toJson node
    obtain ⟨members, written⟩ := toJson_object node
    rw [written] at read
    rw [Option.map_some, written, normalizedOption]
    show (ofJson? (.object members)).map some = _
    rw [read]
    rfl

end

end Node

end PredicateWire
