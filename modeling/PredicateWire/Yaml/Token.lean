/-
This file cuts a YAML text into tokens. Outside brackets the layout of the lines is
made explicit: a token opens a sequence or a mapping whose entries are indented more
deeply than what surrounds it, and another closes it when a line is indented less. A
key is known as such only at the colon after it, so the token in front of a key is
put in afterwards; for that a key has to stand on one line with its colon, and not
too far from it.
-/
import PredicateWire.Yaml.Scalar
import PredicateWire.Yaml.Tag

namespace PredicateWire.Yaml

/-- A token. The first ones structure the text by lines, the next ones in brackets. -/
inductive Token
  | directive (directive : Directive)
  | documentStart
  | documentEnd
  | blockSequence
  | blockMapping
  | blockEnd
  | item
  | sequenceStart
  | sequenceEnd
  | mappingStart
  | mappingEnd
  | comma
  | key
  | value
  | anchor (name : String)
  | alias (name : String)
  | tag (tag : WrittenTag)
  | scalar (style : Style) (text : String)

/-- A place where a key may have started: the number of tokens before it, and its cursor. A key is
required where nothing else can start an entry of the mapping around it. -/
structure PossibleKey where
  place : Nat
  cursor : Cursor
  isRequired : Bool

/-- How far a text is cut: the tokens, last one first; the columns of the open blocks, innermost
first; the possible key inside the innermost brackets and those around each open bracket; and
whether a key may start here. -/
structure Layout where
  cursor : Cursor
  tokens : List Token
  blocks : List Nat
  possibleKey : Option PossibleKey
  outerKeys : List (Option PossibleKey)
  keyAllowed : Bool

namespace Layout

/-- The start of a text. -/
def start (text : List Char) : Layout :=
  ⟨Cursor.start text, [], [], none, [], true⟩

/-- Brackets are open. -/
def isBracketed (layout : Layout) : Bool :=
  !layout.outerKeys.isEmpty

/-- The leftmost column that belongs to the innermost block. -/
def least (layout : Layout) : Nat :=
  match layout.blocks with
  | column :: _ => column + 1
  | [] => 0

/-- Adds a token. -/
def push (layout : Layout) (token : Token) : Layout :=
  { layout with tokens := token :: layout.tokens }

/-- Puts a token in front of those after a place. -/
def insert (layout : Layout) (place : Nat) (token : Token) : Layout :=
  let newer := layout.tokens.length - place
  { layout with tokens := layout.tokens.take newer ++ token :: layout.tokens.drop newer }

/-! ### Blocks -/

/-- Opens a block at a column and a place, unless one is open there or brackets are. -/
def openBlock (layout : Layout) (column place : Nat) (token : Token) : Layout :=
  if layout.isBracketed || column < layout.least then layout
  else { layout.insert place token with blocks := column :: layout.blocks }

/-- Opens a block here, unless one is open at this column or brackets are. -/
def openBlockHere (layout : Layout) (token : Token) : Layout :=
  layout.openBlock layout.cursor.column layout.tokens.length token

/-- Closes the blocks with a property. Brackets keep blocks open. -/
def closeBlocks (layout : Layout) (closes : Nat → Bool) : Layout :=
  if layout.isBracketed then layout
  else
    let closed := layout.blocks.takeWhile closes
    { layout with
      tokens := closed.map (fun _ => Token.blockEnd) ++ layout.tokens
      blocks := layout.blocks.dropWhile closes }

/-- Closes the blocks to the right of the next token. -/
def closeDeeper (layout : Layout) : Layout :=
  layout.closeBlocks fun column => layout.cursor.column < column

/-- Closes all blocks. -/
def closeAll (layout : Layout) : Layout :=
  layout.closeBlocks fun _ => true

/-! ### Keys -/

/-- The greatest number of bytes between the start of a key and its colon. -/
def greatestKeyLength : Nat := 1024

/-- A possible key that can no longer be one is given up. A required one has to be one. -/
def PossibleKey.renewed? (cursor : Cursor) :
    Option PossibleKey → Option (Option PossibleKey)
  | some key =>
    if key.cursor.line < cursor.line || key.cursor.offset + greatestKeyLength < cursor.offset then
      if key.isRequired then none else some none
    else some (some key)
  | none => some none

/-- Gives up the possible keys that are too far away. -/
def renewKeys? (layout : Layout) : Option Layout := do
  let possibleKey ← PossibleKey.renewed? layout.cursor layout.possibleKey
  let outerKeys ← layout.outerKeys.mapM (PossibleKey.renewed? layout.cursor)
  return { layout with possibleKey, outerKeys }

/-- Gives up the possible key, which must not be required. -/
def dropKey? (layout : Layout) : Option Layout :=
  if (layout.possibleKey.map PossibleKey.isRequired).getD false then none
  else some { layout with possibleKey := none }

/-- Marks a possible key here, where one may start. -/
def markKey? (layout : Layout) : Option Layout :=
  if layout.keyAllowed then do
    let isRequired :=
      !layout.isBracketed && layout.blocks.head? == some layout.cursor.column
    let dropped ← layout.dropKey?
    return { dropped with
      possibleKey := some ⟨layout.tokens.length, layout.cursor, isRequired⟩ }
  else some layout

/-! ### Between tokens -/

/-- The layout with the cursor at the next token. A new line outside brackets may start with a
key, and there no tab may indent it. -/
def toToken : Nat → Layout → Layout
  | 0, layout => layout
  | fuel + 1, layout =>
    let cursor := layout.cursor
    let cursor :=
      if cursor.column == 0 && cursor.isAt '\ufeff' then cursor.skip 1 else cursor
    let allowsTabs := layout.isBracketed || !layout.keyAllowed
    let cursor := cursor.skipWhile fun character =>
      character == ' ' || (allowsTabs && character == '\t')
    let cursor := cursor.skipComment
    if !cursor.rest.isEmpty && endsLine cursor.rest then
      toToken fuel
        { layout with
          cursor := cursor.skipBreak, keyAllowed := layout.keyAllowed || !layout.isBracketed }
    else { layout with cursor }

/-! ### Tokens -/

/-- Adds a token of so many characters. -/
def take (layout : Layout) (count : Nat) (token : Token) : Layout :=
  { layout.push token with cursor := layout.cursor.skip count }

/-- Adds what is read as a token. -/
def read? {Content : Type} (layout : Layout) (reading : Reading Content)
    (token : Content → Token) : Option Layout := do
  let (content, cursor) ← reading layout.cursor
  return { layout.push (token content) with cursor }

/-- A directive, or a marker of documents, closes all blocks. -/
def betweenDocuments? (layout : Layout) : Option Layout := do
  let layout ← layout.closeAll.dropKey?
  return { layout with keyAllowed := false }

/-- An opening bracket, which may itself be part of a key. -/
def openBracket? (layout : Layout) (token : Token) : Option Layout := do
  let layout ← layout.markKey?
  let inner :=
    { layout with
      possibleKey := none
      outerKeys := layout.possibleKey :: layout.outerKeys
      keyAllowed := true }
  return inner.take 1 token

/-- A closing bracket. -/
def closeBracket? (layout : Layout) (token : Token) : Option Layout := do
  let layout ← layout.dropKey?
  let outer :=
    match layout.outerKeys with
    | key :: rest => { layout with possibleKey := key, outerKeys := rest, keyAllowed := false }
    | [] => { layout with keyAllowed := false }
  return outer.take 1 token

/-- A comma. -/
def comma? (layout : Layout) : Option Layout := do
  let layout ← layout.dropKey?
  return { layout with keyAllowed := true }.take 1 .comma

/-- A hyphen in front of an item. -/
def item? (layout : Layout) : Option Layout :=
  if !layout.isBracketed && !layout.keyAllowed then none
  else do
    let layout ← (layout.openBlockHere .blockSequence).dropKey?
    return { layout with keyAllowed := true }.take 1 .item

/-- A question mark in front of a key. -/
def key? (layout : Layout) : Option Layout :=
  if !layout.isBracketed && !layout.keyAllowed then none
  else do
    let layout ← (layout.openBlockHere .blockMapping).dropKey?
    return { layout with keyAllowed := !layout.isBracketed }.take 1 .key

/-- A colon. What started as a possible key is one now. -/
def value? (layout : Layout) : Option Layout :=
  match layout.possibleKey with
  | some key =>
    let marked :=
      (layout.insert key.place .key).openBlock key.cursor.column key.place .blockMapping
    some ({ marked with possibleKey := none, keyAllowed := false }.take 1 .value)
  | none =>
    if !layout.isBracketed && !layout.keyAllowed then none
    else
      let opened := layout.openBlockHere .blockMapping
      some ({ opened with keyAllowed := !layout.isBracketed }.take 1 .value)

/-- What may itself be a key, or start one. -/
def keyPart? {Content : Type} (layout : Layout) (reading : Reading Content)
    (token : Content → Token) : Option Layout := do
  let layout ← layout.markKey?
  { layout with keyAllowed := false }.read? reading token

/-- A plain scalar. A key may follow one that ends after a line break. -/
def plain? (layout : Layout) : Option Layout := do
  let marked ← layout.markKey?
  let ((text, isBroken), cursor) ←
    Plain.read? layout.isBracketed layout.least layout.cursor
  return { marked.push (.scalar .plain text) with cursor, keyAllowed := isBroken }

/-- A block of lines, which is no key. -/
def block? (layout : Layout) (style : Style) : Option Layout := do
  let layout ← layout.dropKey?
  { layout with keyAllowed := true }.read? (Block.read? style layout.least) (.scalar style)

/-- A name from after its indicator. Only some characters may follow it. -/
def name? : Reading String := fun cursor =>
  let name := cursor.rest.takeWhile isNameCharacter
  let after := cursor.skip name.length
  let isEnded :=
    endsWord after.rest ||
      (after.rest.head?.map
        ['?', ':', ',', ']', '\x7d', '%', '@', '\x60'].contains).getD false
  if !name.isEmpty && isEnded then some (String.ofList name, after) else none

/-- The next token, which starts at the cursor. -/
def next? (layout : Layout) : Option Layout :=
  let cursor := layout.cursor
  let isAlone := endsWord (cursor.rest.drop 1)
  if cursor.column == 0 && cursor.isAt '%' then do
    let layout ← layout.betweenDocuments?
    layout.read? (fun cursor => Directive.read? (cursor.skip 1)) .directive
  else if cursor.isAtTriple '-' then do
    return (← layout.betweenDocuments?).take 3 .documentStart
  else if cursor.isAtTriple '.' then do
    return (← layout.betweenDocuments?).take 3 .documentEnd
  else if cursor.isAt '[' then layout.openBracket? .sequenceStart
  else if cursor.isAt '\x7b' then layout.openBracket? .mappingStart
  else if cursor.isAt ']' then layout.closeBracket? .sequenceEnd
  else if cursor.isAt '\x7d' then layout.closeBracket? .mappingEnd
  else if cursor.isAt ',' then layout.comma?
  else if cursor.isAt '-' && isAlone then layout.item?
  else if cursor.isAt '?' && (layout.isBracketed || isAlone) then layout.key?
  else if cursor.isAt ':' && (layout.isBracketed || isAlone) then layout.value?
  else if cursor.isAt '*' then layout.keyPart? (fun cursor => name? (cursor.skip 1)) .alias
  else if cursor.isAt '&' then layout.keyPart? (fun cursor => name? (cursor.skip 1)) .anchor
  else if cursor.isAt '!' then layout.keyPart? (WrittenTag.read? layout.isBracketed) .tag
  else if cursor.isAt '|' && !layout.isBracketed then layout.block? .literal
  else if cursor.isAt '>' && !layout.isBracketed then layout.block? .folded
  else if cursor.isAt '\x27' then layout.keyPart? (Quoted.read? '\x27') (.scalar .quoted)
  else if cursor.isAt '\x22' then layout.keyPart? (Quoted.read? '\x22') (.scalar .quoted)
  else if Plain.starts layout.isBracketed cursor.rest then layout.plain?
  else none

/-- The layout of the whole text. Every token takes at least one character. -/
def finish? : Nat → Layout → Option Layout
  | 0, _ => none
  | fuel + 1, layout => do
    let layout ← (toToken (layout.cursor.rest.length + 1) layout).renewKeys?
    if layout.cursor.rest.isEmpty then layout.closeAll.dropKey?
    else finish? fuel (← layout.closeDeeper.next?)

end Layout

/-- The tokens of a text. -/
def Token.ofText? (text : String) : Option (List Token) :=
  let characters := text.toList
  if characters.all isAllowed then do
    let layout ← (Layout.start characters).finish? (characters.length + 1)
    return layout.tokens.reverse
  else none

end PredicateWire.Yaml
