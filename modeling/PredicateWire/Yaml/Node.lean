/-
This file defines YAML documents as trees and builds them from tokens. A node may
carry an anchor, to which aliases refer, and a tag. Anchors are numbered as they
occur: an anchor gets the count of the different names before it as its number, also
when its name occurs again, and of the nodes with one number the last is meant. A text
holds at most one document.
-/
import PredicateWire.Yaml.Token

namespace PredicateWire.Yaml

/-- What a node carries besides its content. -/
structure Properties where
  anchor : Option Nat
  tag : Option Tag

namespace Properties

/-- The properties of a node without any. -/
def none : Properties :=
  ⟨.none, .none⟩

/-- A node has no properties. -/
def isEmpty (properties : Properties) : Bool :=
  properties.anchor.isNone && properties.tag.isNone

end Properties

/-- A node. An alias stands for the node with an anchor. -/
inductive Node
  | alias (anchor : Nat)
  | scalar (properties : Properties) (style : Style) (text : String)
  | sequence (properties : Properties) (items : List Node)
  | mapping (properties : Properties) (members : List (Node × Node))

namespace Node

/-- The scalar that stands where nothing is written. -/
def absent : Node :=
  scalar Properties.none .plain ""

/-- The anchor of a node. -/
def anchor? : Node → Option Nat
  | .alias _ => none
  | .scalar properties _ _ => properties.anchor
  | .sequence properties _ => properties.anchor
  | .mapping properties _ => properties.anchor

/-! ### Aliases -/

mutual

/-- A node and the nodes inside it, in the order in which they are written. -/
def preorder : Node → List Node
  | .sequence properties items => .sequence properties items :: preorderAll items
  | .mapping properties members => .mapping properties members :: preorderMembers members
  | .alias anchor => [.alias anchor]
  | .scalar properties style text => [.scalar properties style text]

/-- Several nodes and the nodes inside them. -/
def preorderAll : List Node → List Node
  | [] => []
  | item :: rest => preorder item ++ preorderAll rest

/-- The keys and contents of members and the nodes inside them. -/
def preorderMembers : List (Node × Node) → List Node
  | [] => []
  | (key, content) :: rest => preorder key ++ preorder content ++ preorderMembers rest

end

/-- The node that an alias in a document stands for; any other node stands for itself. -/
def meant? (document : Node) : Node → Option Node
  | .alias anchor => (document.preorder.filter fun node => node.anchor? == some anchor).getLast?
  | node => some node

end Node

/-! ### Building -/

/-- What is left to build from: the tokens, the numbers of the anchors so far, and the beginnings
of the tags with a handle. -/
structure Remainder where
  tokens : List Token
  anchors : List (String × Nat)
  handles : List (List Char × Tag)

/-- A step of building. -/
abbrev Building := StateT Remainder Option

namespace Building

/-- The next token. -/
def peek : Building (Option Token) := do
  return (← get).tokens.head?

/-- Goes past the next token. -/
def skip : Building Unit :=
  modify fun remainder => { remainder with tokens := remainder.tokens.tail }

/-- Numbers an anchor. -/
def declare (name : String) : Building Nat := do
  let anchors := (← get).anchors
  let others := anchors.filter fun entry => entry.1 != name
  modify fun remainder => { remainder with anchors := (name, anchors.length) :: others }
  return anchors.length

/-- The number of the anchor that an alias names. -/
def numberOf (name : String) : Building Nat := do
  match (← get).anchors.find? fun entry => entry.1 == name with
  | some entry => return entry.2
  | none => failure

/-- The tag that is written. -/
def tagOf : WrittenTag → Building Tag
  | .full tag => return tag
  | .short handle rest => do
    match (← get).handles.find? fun entry => entry.1 == handle with
    | some entry => return entry.2 ++ rest
    | none => failure

/-- The anchor that comes next, if one does. -/
def anchor : Building (Option Nat) := do
  match ← peek with
  | some (.anchor name) => do
    skip
    return some (← declare name)
  | _ => return none

/-- The tag that comes next, if one does. -/
def tag : Building (Option Tag) := do
  match ← peek with
  | some (.tag written) => do
    skip
    return some (← tagOf written)
  | _ => return none

/-- An anchor and a tag, in either order, if there are any. -/
def properties : Building Properties := do
  match ← anchor with
  | some number => return ⟨some number, ← tag⟩
  | none => do
    match ← tag with
    | some tag => return ⟨← anchor, some tag⟩
    | none => return Properties.none

/-- The node that has properties but no content. -/
def bare (properties : Properties) : Building Node :=
  if properties.isEmpty then failure
  else return .scalar properties .plain ""

/-- Something, or nothing in front of certain tokens. -/
def unlessAt (ends : Token → Bool) (node : Building Node) : Building Node := do
  if ((← peek).map ends).getD false then return Node.absent else node

/-- What follows a token, or nothing if the token does not come next. -/
def after (isToken : Token → Bool) (node : Building Node) : Building Node := do
  if ((← peek).map isToken).getD false then do
    skip
    node
  else return Node.absent

/-- Goes past a comma, except in front of the first part of brackets. -/
def comma (isFirst : Bool) : Building Unit := do
  if !isFirst then
    match ← peek with
    | some .comma => skip
    | _ => failure

/-- The tokens that end an item of a block. -/
def endsItem : Token → Bool
  | .item | .blockEnd => true
  | _ => false

/-- The tokens that end a part of a mapping by lines. -/
def endsPart : Token → Bool
  | .key | .value | .blockEnd => true
  | _ => false

/-- The tokens that end an item of a sequence that is indented like the mapping around it. -/
def endsOuterItem : Token → Bool
  | .item | .key | .value | .blockEnd => true
  | _ => false

/-- The tokens that end a part of brackets. -/
def endsBracketPart (closing : Token → Bool) : Token → Bool
  | .comma => true
  | token => closing token

/-- A colon. -/
def isValue : Token → Bool
  | .value => true
  | _ => false

/-- The closing bracket of a sequence. -/
def isSequenceEnd : Token → Bool
  | .sequenceEnd => true
  | _ => false

/-- The closing bracket of a mapping. -/
def isMappingEnd : Token → Bool
  | .mappingEnd => true
  | _ => false

mutual

/-- A node. Outside brackets it may be a block, and inside a mapping by lines also a sequence
that is indented like the mapping. -/
def node (isBlock isMember : Bool) : Nat → Building Node
  | 0 => failure
  | fuel + 1 => do
    match ← peek with
    | some (.alias name) => do
      skip
      return .alias (← numberOf name)
    | _ => do
      let properties ← properties
      match ← peek with
      | some .item =>
        if isMember then return .sequence properties (← outerItems fuel) else bare properties
      | some (.scalar style text) => do
        skip
        return .scalar properties style text
      | some .sequenceStart => do
        skip
        return .sequence properties (← bracketItems true fuel)
      | some .mappingStart => do
        skip
        return .mapping properties (← bracketMembers true fuel)
      | some .blockSequence =>
        if isBlock then do
          skip
          return .sequence properties (← blockItems fuel)
        else bare properties
      | some .blockMapping =>
        if isBlock then do
          skip
          return .mapping properties (← blockMembers fuel)
        else bare properties
      | _ => bare properties

/-- The items of a sequence by lines. -/
def blockItems : Nat → Building (List Node)
  | 0 => failure
  | fuel + 1 => do
    match ← peek with
    | some .item => do
      skip
      let item ← unlessAt endsItem (node true false fuel)
      return item :: (← blockItems fuel)
    | some .blockEnd => do
      skip
      return []
    | _ => failure

/-- The items of a sequence that is indented like the mapping around it. -/
def outerItems : Nat → Building (List Node)
  | 0 => failure
  | fuel + 1 => do
    match ← peek with
    | some .item => do
      skip
      let item ← unlessAt endsOuterItem (node true false fuel)
      return item :: (← outerItems fuel)
    | _ => return []

/-- The members of a mapping by lines. -/
def blockMembers : Nat → Building (List (Node × Node))
  | 0 => failure
  | fuel + 1 => do
    match ← peek with
    | some .key => do
      skip
      let key ← unlessAt endsPart (node true true fuel)
      let content ← after isValue (unlessAt endsPart (node true true fuel))
      return (key, content) :: (← blockMembers fuel)
    | some .blockEnd => do
      skip
      return []
    | _ => failure

/-- The items of a sequence in brackets. A pair is a mapping of its own; where its key is missing,
the token there is passed over. -/
def bracketItems (isFirst : Bool) : Nat → Building (List Node)
  | 0 => failure
  | fuel + 1 => do
    match ← peek with
    | some .sequenceEnd => do
      skip
      return []
    | _ => do
      comma isFirst
      match ← peek with
      | some .key => do
        skip
        let ends := endsBracketPart isSequenceEnd
        let key ←
          match ← peek with
          | some token =>
            if isValue token || ends token then do
              skip
              pure Node.absent
            else node false false fuel
          | none => failure
        let content ← after isValue (unlessAt ends (node false false fuel))
        return .mapping Properties.none [(key, content)] :: (← bracketItems false fuel)
      | some .sequenceEnd => do
        skip
        return []
      | _ => do
        let item ← node false false fuel
        return item :: (← bracketItems false fuel)

/-- The members of a mapping in brackets. What has neither question mark nor colon is a key without
content. -/
def bracketMembers (isFirst : Bool) : Nat → Building (List (Node × Node))
  | 0 => failure
  | fuel + 1 => do
    match ← peek with
    | some .mappingEnd => do
      skip
      return []
    | _ => do
      comma isFirst
      match ← peek with
      | some .key => do
        skip
        let ends := endsBracketPart isMappingEnd
        let key ← unlessAt (fun token => isValue token || ends token) (node false false fuel)
        let content ← after isValue (unlessAt ends (node false false fuel))
        return (key, content) :: (← bracketMembers false fuel)
      | some .mappingEnd => do
        skip
        return []
      | _ => do
        let key ← node false false fuel
        return (key, Node.absent) :: (← bracketMembers false fuel)

end

/-! ### Documents -/

/-- The beginnings of tags that need no directive. -/
def standardHandles : List (List Char × Tag) :=
  [(['!'], Tag.ofText "!"), (['!', '!'], Tag.ofText "tag:yaml.org,2002:")]

/-- The directives of a document. The version is given at most once and is 1.1 or 1.2, and no
handle is given twice. The flag says that the version is given. -/
def directives : Nat → Bool → List (List Char × Tag) → Building (List (List Char × Tag))
  | 0, _, _ => failure
  | fuel + 1, hasVersion, handles => do
    match ← peek with
    | some (.directive (.version major minor)) =>
      if hasVersion || major != 1 || (minor != 1 && minor != 2) then failure
      else do
        skip
        directives fuel true handles
    | some (.directive (.handle handle beginning)) =>
      if handles.any fun entry => entry.1 == handle then failure
      else do
        skip
        directives fuel hasVersion (handles ++ [(handle, beginning)])
    | _ => return handles

/-- The tokens that stand in front of a document. -/
def startsDocument : Token → Bool
  | .directive _ | .documentStart => true
  | _ => false

/-- The tokens in front of which a document that has started may be empty. -/
def endsDocument : Token → Bool
  | .directive _ | .documentStart | .documentEnd => true
  | _ => false

/-- The only document of a text. Nothing follows it but marks of its end. -/
def document (fuel : Nat) : Building Node := do
  let first ← peek
  let root ←
    if first.isNone then pure Node.absent
    else if (first.map startsDocument).getD false then do
      let handles ← directives fuel false []
      modify fun remainder => { remainder with handles := handles ++ standardHandles }
      match ← peek with
      | some .documentStart => skip
      | _ => failure
      if (← peek).isNone then pure Node.absent else unlessAt endsDocument (node true false fuel)
    else node true false fuel
  let isEnd : Token → Bool
    | .documentEnd => true
    | _ => false
  if (← get).tokens.all isEnd then return root else failure

end Building

/-- The document that tokens stand for. A token takes part in at most three steps of building. -/
def Node.ofTokens? (tokens : List Token) : Option Node :=
  let fuel := 4 * (tokens.length + 1)
  ((Building.document fuel).run ⟨tokens, [], Building.standardHandles⟩).map Prod.fst

/-- The document of a text. -/
def Node.ofText? (text : String) : Option Node :=
  (Token.ofText? text).bind Node.ofTokens?

end PredicateWire.Yaml
