/-
This file gives the bodies of methods, constructors and properties their meaning. A
body gets a target, if there is one, and arguments, and it may call a function that
it was given; the calls of one body are numbered, so that every one of them has an
address of its own.
-/
import PredicateWire.Evaluation.Outcome
import PredicateWire.Evaluation.Operators
import PredicateWire.Value.Text
import PredicateWire.Text.LetterCase

namespace PredicateWire

/-- A way to call functions: the number of the call, the function and its arguments. -/
abbrev Caller := Nat → Closure → List Value → Outcome Value

namespace Native

/-! ### Arguments -/

/-- The items of the first of several values. -/
def itemsOf (method : String) : List Value → Outcome (List Value)
  | .array items :: _ => .ok items
  | .null :: _ => Outcome.fault (.nullSource method)
  | other :: _ => Outcome.mismatch (.expectedSequence method other.kindName)
  | [] => Outcome.fault (.missingSource method)

/-- The function that is the second of several values. -/
def predicateOf (method : String) (arguments : List Value) : Outcome Closure :=
  match arguments with
  | _ :: .function closure :: _ => .ok closure
  | _ :: other :: _ => Outcome.mismatch (.expectedPredicate method other.kindName)
  | _ => Outcome.fault (.missingPredicate method)

/-- The text that a method is called on. -/
def textTarget (method : String) (target : Option Value) : Outcome String :=
  match target.bind Value.string? with
  | some text => .ok text
  | none => Outcome.mismatch (.nonStringTarget method)

/-- The text that a method is called with. -/
def textArgument (method : String) (arguments : List Value) : Outcome String :=
  match arguments.head?.bind Value.string? with
  | some text => .ok text
  | none => Outcome.mismatch (.nonStringArgument method)

/-- The entries of the map that a method is called on. -/
def entriesOf (method : String) (target : Option Value) : Outcome (List (Value × Value)) :=
  match target with
  | some (.map entries) => .ok entries
  | _ => Outcome.mismatch (.nonDictionaryTarget method)

/-- An argument, which is null when it is missing. -/
def argumentAt (arguments : List Value) (position : Nat) : Value :=
  arguments.getD position .null

/-! ### Results -/

/-- A count as a 32-bit number. -/
def counted (count : Nat) : Outcome Value :=
  if count < 0x80000000 then .ok (.int32 (Int32.ofNat count))
  else Outcome.fault (.countOverflow count)

/-- One of several values is loosely equal to another. -/
def containsLoosely (items : List Value) (needle : Value) : Bool :=
  items.any fun item => item.looselyEquals needle

/-- A predicate holds for one of several items, which are tried in order until one is found. -/
def anyWhere (call : Caller) (predicate : Closure) : Nat → List Value → Outcome Bool
  | _, [] => .ok false
  | number, item :: rest => do
    match ← call number predicate [item] with
    | .bool true => .ok true
    | .bool false => anyWhere call predicate (number + 1) rest
    | other => Outcome.mismatch (.predicateAnswer "Any" other.kindName)

/-- An end of a sequence. -/
def endOf (which : SequenceEnd) (items : List Value) : Option Value :=
  match which with
  | .first => items.head?
  | .last => items.getLast?

/-- Characters occur within others, one after another. -/
def occursIn (part : List Char) : List Char → Bool
  | [] => part.isEmpty
  | character :: rest => part.isPrefixOf (character :: rest) || occursIn part rest

/-- The test of one text against another. -/
def testText (test : TextTest) (text part : String) : Bool :=
  match test with
  | .startsWith => part.toList.isPrefixOf text.toList
  | .endsWith => part.toList.isSuffixOf text.toList
  | .contains => occursIn part.toList text.toList

/-- A text in one of the cases. -/
def mapCase (case : LetterCase) (text : String) : String :=
  match case with
  | .upper => Text.toUpper text
  | .lower => Text.toLower text

/-- Assigns values to named fields of a record, each of which it has to have. -/
def assign (typeName : String) :
    List (String × Value) → List (String × Value) → Outcome (List (String × Value))
  | fields, [] => .ok fields
  | fields, (name, content) :: rest =>
    if fields.any fun field => field.1 == name then
      assign typeName (Entries.insert name content fields) rest
    else Outcome.fail (.symbolNotFound (.unknownMember typeName name))

/-! ### Bodies -/

/-- Runs a script. -/
def runScript (call : Caller) (script : Script) (target : Option Value)
    (arguments : List Value) : Outcome Value :=
  match script with
  | .answer datum => .ok (Value.ofDatum datum)
  | .argument position => .ok (argumentAt arguments position)
  | .fail text => Outcome.fault (.raised text)
  | .field name => .ok ((target.bind fun value => value.field? name).getD .null)
  | .apply position =>
    match arguments[position]? with
    | some (.function closure) => call 0 closure (arguments.drop 1)
    | _ => Outcome.fault (.raised "not a function")
  | .gather => .ok (.array (target.toList ++ arguments))

/-- Runs a body on a target and arguments. -/
def run (call : Caller) (native : Native) (target : Option Value) (arguments : List Value) :
    Outcome Value :=
  match native with
  | sequenceContains => do
    let items ← itemsOf "Contains" arguments
    return .bool (containsLoosely items (argumentAt arguments 1))
  | sequenceAny => do
    let items ← itemsOf "Any" arguments
    return .bool !items.isEmpty
  | sequenceAnyWhere => do
    let items ← itemsOf "Any" arguments
    let predicate ← predicateOf "Any" arguments
    let found ← anyWhere call predicate 0 items
    return .bool found
  | sequenceEnd which => do
    let items ← itemsOf which.name arguments
    match endOf which items with
    | some item => .ok item
    | none => Outcome.fault (.emptySequence which.name)
  | sequenceCount => do
    let items ← itemsOf "Count" arguments
    counted items.length
  | textTest test => do
    let text ← textTarget test.name target
    let part ← textArgument test.name arguments
    return .bool (testText test text part)
  | textCase case => do
    let text ← textTarget case.name target
    return .string (mapCase case text)
  | textLength => do
    let text ← textTarget "Length" target
    counted text.length
  | listContains => do
    let items ← itemsOf "Contains" target.toList
    return .bool (containsLoosely items (argumentAt arguments 0))
  | listItem => do
    let items ← itemsOf "get_Item" target.toList
    match arguments.head?.bind Value.integer? with
    | some index => Outcome.ofResult (BinaryOperator.itemAt items index)
    | none => Outcome.mismatch .listIndex
  | listCount => do
    let items ← itemsOf "Count" target.toList
    counted items.length
  | dictionaryItem => do
    let entries ← entriesOf "get_Item" target
    let needle := argumentAt arguments 0
    match (Value.map entries).contentOf? needle with
    | some content => .ok content
    | none => Outcome.fault (.keyNotFound needle.text)
  | dictionaryContainsKey => do
    let entries ← entriesOf "ContainsKey" target
    return .bool (containsLoosely (entries.map Prod.fst) (argumentAt arguments 0))
  | dictionaryCount => do
    let entries ← entriesOf "Count" target
    counted entries.length
  | assemble typeName fields names => do
    let blank := Entries.ofList (fields.map fun field => (field, Value.null))
    let assigned ← assign typeName blank (names.zip arguments)
    return .record assigned
  | script written => runScript call written target arguments

end Native

/-! ### Invocation -/

/-- Invokes a method on a target, if it has one, and arguments. The number of arguments has to
be the declared one, and an instance method needs a target that is not null. -/
def Method.invoke (call : Caller) (method : Method) (target : Option Value)
    (arguments : List Value) : Outcome Value :=
  if arguments.length ≠ method.parameters.length then
    Outcome.fault
      (.argumentCount method.signature method.parameters.length arguments.length)
  else if !method.isStatic && (target.getD .null).isNull then
    Outcome.fault (.nullTarget method.signature)
  else method.body.run call target arguments

/-- Invokes a constructor on arguments. -/
def Constructor.invoke (call : Caller) (constructor : Constructor) (arguments : List Value) :
    Outcome Value :=
  if arguments.length ≠ constructor.parameters.length then
    Outcome.fault
      (.argumentCount constructor.signature constructor.parameters.length arguments.length)
  else constructor.body.run call none arguments

/-- Reads a member of a value. A field that a record does not hold is null. -/
def Member.read (call : Caller) (member : Member) (target : Value) : Outcome Value :=
  if target.isNull then
    Outcome.fault (.nullReference member.declaringType.canonicalName member.name)
  else
    match member.storage with
    | .field _ =>
      match target with
      | .record fields => .ok ((Entries.get? fields member.name).getD .null)
      | other => Outcome.mismatch (.fieldOfValue member.name other.kindName)
    | .property getter => getter.run call (some target) []

end PredicateWire
