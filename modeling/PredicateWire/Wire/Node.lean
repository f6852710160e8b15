/-
This file defines the nodes of packed trees and their JSON form. A node says what kind
it is, which type its value has and, by a tag, what it is made of. The kind and the
tag are independent here: that they match is checked when the tree is rebuilt. A
node is always written as an object; flags that are not set and absent parts are left
out, and lists of nodes are written even when they are empty.
-/
import PredicateWire.Operator
import PredicateWire.Table.Reference
import PredicateWire.Json.Printer

namespace PredicateWire

/-- The part that every node has. -/
structure NodeHeader where
  kind : NodeKind
  resultType : TypeKey
  canReduce : Bool
deriving DecidableEq

/-- A node of a packed tree. -/
inductive Node
  | lambda (header : NodeHeader) (body : Node) (parameters : List Node) (name : Option String)
      (tailCall : Bool)
  | parameter (header : NodeHeader) (name : String) (byReference : Bool)
  | binary (header : NodeHeader) (left right : Node) (conversion : Option Node)
      (method : Option MethodReference)
  | member (header : NodeHeader) (target : Node) (read : MemberReference)
  | constant (header : NodeHeader) (value : Json)
  | call (header : NodeHeader) (target : Option Node) (method : MethodReference)
      (arguments : List Node)
  | construct (header : NodeHeader) (constructor : ConstructorReference) (arguments : List Node)
  | arrayInit (header : NodeHeader) (element : TypeKey) (elements : List Node)

/-- What nodes can be made of, in the order in which the tags are counted. -/
inductive NodeTag
  | lambda
  | parameter
  | binary
  | member
  | constant
  | call
  | construct
  | arrayInit
deriving DecidableEq

namespace NodeTag

/-- Every tag, in the order in which they are counted. -/
def all : List NodeTag :=
  [lambda, parameter, binary, member, constant, call, construct, arrayInit]

/-- The written form of a tag. -/
def text : NodeTag → String
  | lambda => "L"
  | parameter => "P"
  | binary => "B"
  | member => "M"
  | constant => "C"
  | call => "X"
  | construct => "N"
  | arrayInit => "A"

/-- Reads a tag: by its text or by its place among the tags. -/
def ofJson? : Json → Option NodeTag
  | .string text => all.find? fun tag => tag.text == text
  | .integer place => if place < 0 then none else all[place.toNat]?
  | _ => none

/-- The names of the members that go with a tag. -/
def memberNames : NodeTag → List String
  | lambda => ["b", "p", "nm", "tc"]
  | parameter => ["nm", "br"]
  | binary => ["l", "r", "c", "m"]
  | member => ["e", "m"]
  | constant => ["v"]
  | call => ["e", "m", "a"]
  | construct => ["m", "a"]
  | arrayInit => ["et", "a"]

/-- Nodes of a kind can be made of what the tag says. -/
def fits : NodeTag → NodeKind → Bool
  | lambda, .lambda => true
  | parameter, .parameter => true
  | binary, .binary _ => true
  | member, .memberAccess => true
  | constant, .constant => true
  | call, .call => true
  | construct, .construct => true
  | arrayInit, .arrayInit => true
  | _, _ => false

end NodeTag

namespace Node

/-- The part that every node has. -/
def header : Node → NodeHeader
  | lambda header _ _ _ _ => header
  | parameter header _ _ => header
  | binary header _ _ _ _ => header
  | member header _ _ => header
  | constant header _ => header
  | call header _ _ _ => header
  | construct header _ _ => header
  | arrayInit header _ _ => header

/-- What a node is made of. -/
def tag : Node → NodeTag
  | lambda _ _ _ _ _ => .lambda
  | parameter _ _ _ => .parameter
  | binary _ _ _ _ _ => .binary
  | member _ _ _ => .member
  | constant _ _ => .constant
  | call _ _ _ _ => .call
  | construct _ _ _ => .construct
  | arrayInit _ _ _ => .arrayInit

/-! ### Writing -/

/-- The members that every node has, and the tag. -/
def headMembers (header : NodeHeader) (tag : NodeTag) : List (String × Json) :=
  [("n", .integer header.kind.number), ("t", header.resultType.toJson)] ++
    Json.flagMember "cr" header.canReduce ++ [("$", .string tag.text)]

mutual

/-- A node as JSON. -/
def toJson : Node → Json
  | lambda header body parameters name tailCall =>
    .object (headMembers header .lambda ++
      [("b", toJson body), ("p", .array (listToJson parameters))] ++
      Json.optionalMember "nm" Json.string name ++ Json.flagMember "tc" tailCall)
  | parameter header name byReference =>
    .object (headMembers header .parameter ++ [("nm", .string name)] ++
      Json.flagMember "br" byReference)
  | binary header left right conversion method =>
    .object (headMembers header .binary ++ [("l", toJson left), ("r", toJson right)] ++
      optionToJson "c" conversion ++
      Json.optionalMember "m" MethodReference.toJson method)
  | member header target read =>
    .object (headMembers header .member ++ [("e", toJson target), ("m", read.toJson)])
  | constant header value => .object (headMembers header .constant ++ [("v", value)])
  | call header target method arguments =>
    .object (headMembers header .call ++ optionToJson "e" target ++
      [("m", method.toJson), ("a", .array (listToJson arguments))])
  | construct header constructor arguments =>
    .object (headMembers header .construct ++
      [("m", constructor.toJson), ("a", .array (listToJson arguments))])
  | arrayInit header element elements =>
    .object (headMembers header .arrayInit ++
      [("et", element.toJson), ("a", .array (listToJson elements))])

/-- Several nodes as JSON. -/
def listToJson : List Node → List Json
  | [] => []
  | node :: rest => toJson node :: listToJson rest

/-- A member that is left out when there is no node. -/
def optionToJson (name : String) : Option Node → List (String × Json)
  | none => []
  | some node => [(name, toJson node)]

end

/-! ### Reading -/

/-- The content of a member, together with what it is as a node and as a list of nodes. -/
structure Part where
  document : Json
  node? : Option Node
  nodes? : Option (List Node)

/-- A member that is a node or may be absent or null. -/
def Part.optionalNode : Option Part → Option (Option Node)
  | none => some none
  | some part =>
    match part.document with
    | .null => some none
    | _ => part.node?.map some

/-- A kind by its number. -/
def kindOf? (document : Json) : Option NodeKind :=
  document.count?.bind NodeKind.ofNumber?

/-- Reads the part that every node has. -/
def headerOf? (parts : List (String × Part)) : Option NodeHeader := do
  match ← Json.declared? ["n", "t", "cr"] parts with
  | [kind, resultType, canReduce] => do
    let kind ← Json.required (fun part : Part => kindOf? part.document) kind
    let resultType ← Json.required (fun part : Part => TypeKey.ofJson? part.document) resultType
    let canReduce ← Json.withDefault false (fun part : Part => part.document.bool?) canReduce
    return ⟨kind, resultType, canReduce⟩
  | _ => none

/-- Reads the tag of a node. -/
def tagOf? (parts : List (String × Part)) : Option NodeTag := do
  match ← Json.declared? ["$"] parts with
  | [tag] => Json.required (fun part : Part => NodeTag.ofJson? part.document) tag
  | _ => none

/-- Puts a node together from its header and the members that go with its tag. -/
def assemble? (header : NodeHeader) (tag : NodeTag) (parts : List (Option Part)) :
    Option Node := do
  match tag, parts with
  | .lambda, [body, parameters, name, tailCall] => do
    let body ← Json.required Part.node? body
    let parameters ← Json.withDefault [] Part.nodes? parameters
    let name ← Json.optional Json.string? (name.map Part.document)
    let tailCall ← Json.withDefault false (fun part : Part => part.document.bool?) tailCall
    return lambda header body parameters name tailCall
  | .parameter, [name, byReference] => do
    let name ← Json.required (fun part : Part => part.document.string?) name
    let byReference ← Json.withDefault false (fun part : Part => part.document.bool?) byReference
    return parameter header name byReference
  | .binary, [left, right, conversion, method] => do
    let left ← Json.required Part.node? left
    let right ← Json.required Part.node? right
    let conversion ← Part.optionalNode conversion
    let method ← Json.optional MethodReference.ofJson? (method.map Part.document)
    return binary header left right conversion method
  | .member, [target, read] => do
    let target ← Json.required Part.node? target
    let read ← Json.required (fun part : Part => MemberReference.ofJson? part.document) read
    return member header target read
  | .constant, [value] => do
    let value ← Json.required (fun part : Part => some part.document.normalize) value
    return constant header value
  | .call, [target, method, arguments] => do
    let target ← Part.optionalNode target
    let method ← Json.required (fun part : Part => MethodReference.ofJson? part.document) method
    let arguments ← Json.withDefault [] Part.nodes? arguments
    return call header target method arguments
  | .construct, [constructor, arguments] => do
    let constructor ←
      Json.required (fun part : Part => ConstructorReference.ofJson? part.document) constructor
    let arguments ← Json.withDefault [] Part.nodes? arguments
    return construct header constructor arguments
  | .arrayInit, [element, elements] => do
    let element ← Json.required (fun part : Part => TypeKey.ofJson? part.document) element
    let elements ← Json.withDefault [] Part.nodes? elements
    return arrayInit header element elements
  | _, _ => none

/-- Puts a node together from the members of its object. -/
def ofParts? (parts : List (String × Part)) : Option Node := do
  let header ← headerOf? parts
  let tag ← tagOf? parts
  let members ← Json.declared? tag.memberNames parts
  assemble? header tag members

mutual

/-- Reads a node. -/
def ofJson? : Json → Option Node
  | .object members => ofParts? (partsOf members)
  | _ => none

/-- Reads several nodes. -/
def listOfJson? : List Json → Option (List Node)
  | [] => some []
  | item :: rest =>
    match ofJson? item, listOfJson? rest with
    | some node, some nodes => some (node :: nodes)
    | _, _ => none

/-- Reads every member as all that it can be. -/
def partsOf : List (String × Json) → List (String × Part)
  | [] => []
  | (name, .array items) :: rest =>
    (name, ⟨.array items, none, listOfJson? items⟩) :: partsOf rest
  | (name, document) :: rest => (name, ⟨document, ofJson? document, none⟩) :: partsOf rest

end

/-! ### Renaming keys -/

/-- The header with its key renamed. -/
def renameHeader (rename : TypeKey → TypeKey) (header : NodeHeader) : NodeHeader :=
  { header with resultType := rename header.resultType }

mutual

/-- The node with every type key in it renamed. -/
def renameKeys (rename : TypeKey → TypeKey) : Node → Node
  | lambda header body parameters name tailCall =>
    lambda (renameHeader rename header) (renameKeys rename body)
      (renameAllKeys rename parameters) name tailCall
  | parameter header name byReference =>
    parameter (renameHeader rename header) name byReference
  | binary header left right conversion method =>
    binary (renameHeader rename header) (renameKeys rename left) (renameKeys rename right)
      (renameOptionKeys rename conversion) (method.map (MethodReference.renameKeys rename))
  | member header target read =>
    member (renameHeader rename header) (renameKeys rename target) (read.renameKeys rename)
  | constant header value => constant (renameHeader rename header) value
  | call header target method arguments =>
    call (renameHeader rename header) (renameOptionKeys rename target)
      (method.renameKeys rename) (renameAllKeys rename arguments)
  | construct header constructor arguments =>
    construct (renameHeader rename header) (constructor.renameKeys rename)
      (renameAllKeys rename arguments)
  | arrayInit header element elements =>
    arrayInit (renameHeader rename header) (rename element) (renameAllKeys rename elements)

/-- Several nodes with every type key in them renamed. -/
def renameAllKeys (rename : TypeKey → TypeKey) : List Node → List Node
  | [] => []
  | node :: rest => renameKeys rename node :: renameAllKeys rename rest

/-- A node that may be absent, with every type key in it renamed. -/
def renameOptionKeys (rename : TypeKey → TypeKey) : Option Node → Option Node
  | none => none
  | some node => some (renameKeys rename node)

end

/-! ### Equality -/

mutual

/-- Two nodes agree, with doubles in constants compared as numbers. -/
def agrees : Node → Node → Bool
  | lambda header body parameters name tailCall,
      lambda otherHeader otherBody otherParameters otherName otherTailCall =>
    header == otherHeader && agrees body otherBody && agreesAll parameters otherParameters &&
      name == otherName && tailCall == otherTailCall
  | parameter header name byReference, parameter otherHeader otherName otherByReference =>
    header == otherHeader && name == otherName && byReference == otherByReference
  | binary header left right conversion method,
      binary otherHeader otherLeft otherRight otherConversion otherMethod =>
    header == otherHeader && agrees left otherLeft && agrees right otherRight &&
      agreesOption conversion otherConversion && method == otherMethod
  | member header target read, member otherHeader otherTarget otherRead =>
    header == otherHeader && agrees target otherTarget && read == otherRead
  | constant header value, constant otherHeader otherValue =>
    header == otherHeader && value.agrees otherValue
  | call header target method arguments,
      call otherHeader otherTarget otherMethod otherArguments =>
    header == otherHeader && agreesOption target otherTarget && method == otherMethod &&
      agreesAll arguments otherArguments
  | construct header constructor arguments,
      construct otherHeader otherConstructor otherArguments =>
    header == otherHeader && constructor == otherConstructor &&
      agreesAll arguments otherArguments
  | arrayInit header element elements, arrayInit otherHeader otherElement otherElements =>
    header == otherHeader && element == otherElement && agreesAll elements otherElements
  | _, _ => false

/-- Two lists of nodes agree place by place. -/
def agreesAll : List Node → List Node → Bool
  | [], [] => true
  | left :: leftRest, right :: rightRest => agrees left right && agreesAll leftRest rightRest
  | _, _ => false

/-- Two nodes that may be absent agree. -/
def agreesOption : Option Node → Option Node → Bool
  | none, none => true
  | some left, some right => agrees left right
  | _, _ => false

end

/-! ### Texts -/

/-- The text of a tree. -/
def written (node : Node) : String :=
  node.toJson.written

/-- Reads the text of a tree. -/
def read? (text : String) : Option Node :=
  (Json.read? text).bind ofJson?

end Node

end PredicateWire
