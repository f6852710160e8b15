/-
This file tells the keys of a tree apart from everything else in it. A tree is packed
with keys that the table chooses, so two packets of one expression are different trees,
and no fact about the shape of a packet can be read off the expression as it stands.
Renaming keys is the remedy: `Expr.renameKeys_node` says that renaming the keys of the
tree of an expression gives its tree in the other keys, and when all keys are renamed to
one, nothing of them is left (`Expr.keyless_node`).

Keys are strings of the document, and nothing that is measured on a document depends on
what its strings are. A document whose strings are made empty nests as before and is
read back on the same condition. Both facts are proved here once, so that the levels of
a packet are those of the expression, whatever keys the table has drawn
(`Node.nesting_keyless`).
-/
import PredicateWire.Proofs.Json.Text
import PredicateWire.Proofs.Wire.Packing

namespace PredicateWire

/-! ### Documents without their strings -/

namespace Json

mutual

/-- The document with every string in it, names of members apart, made empty. -/
def blank : Json → Json
  | string _ => string ""
  | array items => array (blankAll items)
  | object members => object (blankMembers members)
  | null => null
  | bool value => bool value
  | integer value => integer value
  | double value => double value

/-- Several documents with empty strings. -/
def blankAll : List Json → List Json
  | [] => []
  | item :: rest => blank item :: blankAll rest

/-- Several members with empty strings. -/
def blankMembers : List (String × Json) → List (String × Json)
  | [] => []
  | (name, value) :: rest => (name, blank value) :: blankMembers rest

end

mutual

/-- Strings open no levels, so the document nests as before. -/
theorem nesting_blank : ∀ document : Json, document.blank.nesting = document.nesting
  | array items => by rw [blank, nesting, nesting, nestingAll_blankAll]
  | object members => by rw [blank, nesting, nesting, nestingMembers_blankMembers]
  | null | bool _ | integer _ | double _ | string _ => by rw [blank] <;> rfl

theorem nestingAll_blankAll : ∀ items : List Json, nestingAll (blankAll items) = nestingAll items
  | [] => rfl
  | item :: rest => by
    rw [blankAll, nestingAll, nestingAll, nesting_blank, nestingAll_blankAll]

theorem nestingMembers_blankMembers : ∀ members : List (String × Json),
    nestingMembers (blankMembers members) = nestingMembers members
  | [] => rfl
  | (name, value) :: rest => by
    rw [blankMembers, nestingMembers, nestingMembers, nesting_blank, nestingMembers_blankMembers]

end

mutual

/-- A string is read back whatever it is, so the blanked document is readable when the document
is. -/
theorem readable_blank {image : Float → Float} : ∀ document : Json,
    document.blank.ReadableAs image ↔ document.ReadableAs image
  | array items => by rw [blank, ReadableAs, ReadableAs, readableAll_blankAll]
  | object members => by rw [blank, ReadableAs, ReadableAs, readableMembers_blankMembers]
  | string _ => by rw [blank, ReadableAs, ReadableAs]
  | null | bool _ | integer _ | double _ => by rw [blank]

theorem readableAll_blankAll {image : Float → Float} : ∀ items : List Json,
    ReadableAllAs image (blankAll items) ↔ ReadableAllAs image items
  | [] => Iff.rfl
  | item :: rest => by
    rw [blankAll, ReadableAllAs, ReadableAllAs, readable_blank, readableAll_blankAll]

theorem readableMembers_blankMembers {image : Float → Float} : ∀ members : List (String × Json),
    ReadableMembersAs image (blankMembers members) ↔ ReadableMembersAs image members
  | [] => Iff.rfl
  | (name, value) :: rest => by
    rw [blankMembers, ReadableMembersAs, ReadableMembersAs, readable_blank,
      readableMembers_blankMembers]

end

theorem blankMembers_append (first second : List (String × Json)) :
    blankMembers (first ++ second) = blankMembers first ++ blankMembers second := by
  induction first with
  | nil => rfl
  | cons entry rest inductionHypothesis =>
    rw [List.cons_append, blankMembers, blankMembers, inductionHypothesis, List.cons_append]

end Json

open Json

/-! ### Renamed trees as documents -/

variable {rename : TypeKey → TypeKey}

/-- A list of keys is a list of strings, and with renamed keys it is one of the same length. -/
theorem blankMembers_keys (name : String) (keys : List TypeKey) :
    blankMembers (listMember name TypeKey.toJson (keys.map rename)) =
      blankMembers (listMember name TypeKey.toJson keys) := by
  have items : blankAll ((keys.map rename).map TypeKey.toJson) =
      blankAll (keys.map TypeKey.toJson) := by
    induction keys with
    | nil => rfl
    | cons key rest inductionHypothesis =>
      rw [List.map_cons, List.map_cons, List.map_cons, blankAll, blankAll, inductionHypothesis]
      rfl
  unfold listMember
  rw [List.isEmpty_map]
  split
  · rfl
  · simp only [blankMembers, blank, items]

/-- References to methods hold keys in three places, all of them strings of the document. -/
theorem MethodReference.blank_renameKeys (reference : MethodReference) :
    (reference.renameKeys rename).toJson.blank = reference.toJson.blank := by
  unfold toJson renameKeys
  simp only [blank, blankMembers_append, blankMembers_keys]
  rfl

theorem ConstructorReference.blank_renameKeys (reference : ConstructorReference) :
    (reference.renameKeys rename).toJson.blank = reference.toJson.blank := by
  unfold toJson renameKeys
  simp only [blank, blankMembers_append, blankMembers_keys]
  rfl

theorem MemberReference.blank_renameKeys (reference : MemberReference) :
    (reference.renameKeys rename).toJson.blank = reference.toJson.blank := rfl

namespace Node

theorem blankMembers_headMembers (header : NodeHeader) (tag : NodeTag) :
    blankMembers (headMembers (renameHeader rename header) tag) =
      blankMembers (headMembers header tag) := rfl

mutual

/-- A tree and the tree with renamed keys differ, as documents, only in strings. -/
theorem blank_renameKeys : ∀ node : Node, (node.renameKeys rename).toJson.blank = node.toJson.blank
  | lambda header body parameters name tailCall => by
    rw [renameKeys, toJson, toJson]
    simp only [blank, blankMembers_append, blankMembers, blankMembers_headMembers,
      blank_renameKeys body, blankAll_renameAllKeys parameters]
  | parameter header name byReference => by
    rw [renameKeys, toJson, toJson]
    simp only [blank, blankMembers_append, blankMembers_headMembers]
  | binary header left right conversion method => by
    have reference : blankMembers (optionalMember "m" MethodReference.toJson
        (method.map (MethodReference.renameKeys rename))) =
          blankMembers (optionalMember "m" MethodReference.toJson method) := by
      cases method with
      | none => rfl
      | some method =>
        simp only [Option.map_some, optionalMember, blankMembers, method.blank_renameKeys]
    rw [renameKeys, toJson, toJson]
    simp only [blank, blankMembers_append, blankMembers, blankMembers_headMembers,
      blank_renameKeys left, blank_renameKeys right, blankMembers_renameOptionKeys conversion,
      reference]
  | member header target read => by
    rw [renameKeys, toJson, toJson]
    simp only [blank, blankMembers_append, blankMembers, blankMembers_headMembers,
      blank_renameKeys target, read.blank_renameKeys]
  | constant header value => by
    rw [renameKeys, toJson, toJson]
    simp only [blank, blankMembers_append, blankMembers_headMembers]
  | call header target method arguments => by
    rw [renameKeys, toJson, toJson]
    simp only [blank, blankMembers_append, blankMembers, blankMembers_headMembers,
      blankMembers_renameOptionKeys target, method.blank_renameKeys,
      blankAll_renameAllKeys arguments]
  | construct header constructor arguments => by
    rw [renameKeys, toJson, toJson]
    simp only [blank, blankMembers_append, blankMembers, blankMembers_headMembers,
      constructor.blank_renameKeys, blankAll_renameAllKeys arguments]
  | arrayInit header element elements => by
    have key : (rename element).toJson.blank = element.toJson.blank := rfl
    rw [renameKeys, toJson, toJson]
    simp only [blank, blankMembers_append, blankMembers, blankMembers_headMembers, key,
      blankAll_renameAllKeys elements]

theorem blankAll_renameAllKeys : ∀ nodes : List Node,
    blankAll (listToJson (renameAllKeys rename nodes)) = blankAll (listToJson nodes)
  | [] => rfl
  | node :: rest => by
    rw [renameAllKeys, listToJson, listToJson, blankAll, blankAll, blank_renameKeys,
      blankAll_renameAllKeys]

theorem blankMembers_renameOptionKeys {name : String} : ∀ node : Option Node,
    blankMembers (optionToJson name (renameOptionKeys rename node)) =
      blankMembers (optionToJson name node)
  | none => rfl
  | some node => by
    simp only [renameOptionKeys, optionToJson, blankMembers, blank_renameKeys node]

end

end Node

/-! ### Trees with renamed keys -/

section

variable {key twinKey : DataType → TypeKey}

/-- A renaming that takes one choice of keys to another takes lists of keys to each other. -/
theorem map_renamed {types : List DataType}
    (renames : ∀ type ∈ types, rename (key type) = twinKey type) :
    (types.map key).map rename = types.map twinKey := by
  rw [List.map_map]
  exact List.map_congr_left renames

/-- The reference to a method, with renamed keys, is the reference in the other keys. Only the types
that the method mentions have to be renamed. -/
theorem MethodReference.renameKeys_to {method : Method}
    (renames : ∀ type ∈ method.types, rename (key type) = twinKey type) :
    (MethodReference.to key method).renameKeys rename = .to twinKey method := by
  rw [Method.types, List.forall_mem_cons, List.forall_mem_append] at renames
  rw [renameKeys, MethodReference.to, MethodReference.to, renames.1, map_renamed renames.2.1,
    map_renamed renames.2.2]

theorem ConstructorReference.renameKeys_to {constructor : Constructor}
    (renames : ∀ type ∈ constructor.types, rename (key type) = twinKey type) :
    (ConstructorReference.to key constructor).renameKeys rename = .to twinKey constructor := by
  rw [Constructor.types, List.forall_mem_cons] at renames
  rw [renameKeys, ConstructorReference.to, ConstructorReference.to, renames.1,
    map_renamed renames.2]

namespace Expr

theorem renameKeys_parameters {parameters : List Parameter}
    (renames : ∀ type ∈ parameters.map Parameter.type, rename (key type) = twinKey type) :
    Node.renameAllKeys rename (parameters.map (Parameter.node key)) =
      parameters.map (Parameter.node twinKey) := by
  induction parameters with
  | nil => rfl
  | cons first rest inductionHypothesis =>
    rw [List.map_cons, List.forall_mem_cons] at renames
    rw [List.map_cons, Node.renameAllKeys, inductionHypothesis renames.2, Parameter.node,
      Node.renameKeys, Node.renameHeader, renames.1]
    rfl

mutual

/-- The tree of an expression, with its keys renamed, is the tree in the other keys. -/
theorem renameKeys_node : ∀ expression : Expr,
    (∀ type ∈ expression.types, rename (key type) = twinKey type) →
      (expression.node key).renameKeys rename = expression.node twinKey
  | lambda type parameters body name tailCall, renames => by
    rw [types_lambda, List.forall_mem_cons, List.forall_mem_append] at renames
    rw [node, node, Node.renameKeys, Node.renameHeader, renames.1, renameKeys_node body renames.2.1,
      renameKeys_parameters renames.2.2]
  | parameter referenced, renames => by
    rw [types_parameter, List.forall_mem_singleton] at renames
    rw [node, node, Parameter.node, Parameter.node, Node.renameKeys, Node.renameHeader, renames]
  | binary operator type left right method conversion, renames => by
    simp only [types_binary, List.forall_mem_cons, List.forall_mem_append] at renames
    have reference : (method.map (MethodReference.to key)).map (MethodReference.renameKeys rename) =
        method.map (MethodReference.to twinKey) := by
      cases method with
      | none => rfl
      | some method =>
        have own := renames.2.1
        simp only [Option.toList_some, List.flatMap_singleton] at own
        rw [Option.map_some, Option.map_some, Option.map_some, MethodReference.renameKeys_to own]
    rw [node, node, Node.renameKeys, Node.renameHeader, renames.1,
      renameKeys_node left renames.2.2.1.1, renameKeys_node right renames.2.2.1.2,
      renameKeys_nodeOption conversion renames.2.2.2, reference]
  | member target read, renames => by
    simp only [types_member, List.forall_mem_cons] at renames
    rw [node, node, Node.renameKeys, Node.renameHeader, MemberReference.renameKeys,
      MemberReference.to, MemberReference.to, renames.1, renames.2.1,
      renameKeys_node target renames.2.2]
  | constant value type, renames => by
    rw [types_constant, List.forall_mem_singleton] at renames
    rw [node, node, Node.renameKeys, Node.renameHeader, renames]
  | call target method arguments, renames => by
    simp only [types_call, List.forall_mem_cons, List.forall_mem_append] at renames
    rw [node, node, Node.renameKeys, Node.renameHeader, renames.1,
      renameKeys_nodeOption target renames.2.2.1, MethodReference.renameKeys_to renames.2.1,
      renameKeys_nodeAll arguments renames.2.2.2]
  | construct constructor arguments, renames => by
    rw [types_construct, List.forall_mem_append] at renames
    rw [node, node, Node.renameKeys, Node.renameHeader,
      ConstructorReference.renameKeys_to renames.1, renames.1 _ (.head _),
      renameKeys_nodeAll arguments renames.2]
  | arrayInit type elements, renames => by
    rw [types_arrayInit, List.forall_mem_cons, List.forall_mem_append] at renames
    have element : rename (key (type.element?.getD type)) = twinKey (type.element?.getD type) := by
      cases isArray : type.element? with
      | none => exact renames.1
      | some element => exact renames.2.1 element (by rw [isArray]; exact .head _)
    rw [node, node, Node.renameKeys, Node.renameHeader, renames.1, element,
      renameKeys_nodeAll elements renames.2.2]
  | unary operator type operand, renames => by
    rw [types_unary, List.forall_mem_cons] at renames
    rw [node, node, renameKeys_node operand renames.2]

theorem renameKeys_nodeAll : ∀ expressions : List Expr,
    (∀ type ∈ typesAll expressions, rename (key type) = twinKey type) →
      Node.renameAllKeys rename (nodeAll key expressions) = nodeAll twinKey expressions
  | [], _ => rfl
  | first :: rest, renames => by
    rw [typesAll_cons, List.forall_mem_append] at renames
    rw [nodeAll, nodeAll, Node.renameAllKeys, renameKeys_node first renames.1,
      renameKeys_nodeAll rest renames.2]

theorem renameKeys_nodeOption : ∀ expression : Option Expr,
    (∀ type ∈ typesOption expression, rename (key type) = twinKey type) →
      Node.renameOptionKeys rename (nodeOption key expression) = nodeOption twinKey expression
  | none, _ => rfl
  | some expression, renames => by
    rw [typesOption_some] at renames
    rw [nodeOption, nodeOption, Node.renameOptionKeys, renameKeys_node expression renames]

end

end Expr

end

/-! ### Trees without keys -/

/-- The key that stands for every key where keys do not matter. -/
def TypeKey.blank : TypeKey :=
  ⟨""⟩

/-- The tree of an expression with the blank key for every type. -/
def Expr.keyless (expression : Expr) : Node :=
  expression.node fun _ => .blank

namespace Node

/-- A tree with all of its keys blanked. -/
def keyless (node : Node) : Node :=
  node.renameKeys fun _ => .blank

end Node

/-- Without its keys, the tree of an expression is the same in all keys. -/
theorem Expr.keyless_node {key : DataType → TypeKey} (expression : Expr) :
    (expression.node key).keyless = expression.keyless :=
  renameKeys_node expression fun _ _ => rfl

/-- A tree without its keys opens the levels of the tree. -/
theorem Node.nesting_keyless (node : Node) : nesting node.keyless.toJson = nesting node.toJson := by
  rw [← nesting_blank, Node.keyless, blank_renameKeys, nesting_blank]

end PredicateWire
