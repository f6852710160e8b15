/-
This file lists everything that can go wrong, by cause. The eleven kinds of error
are the constructors of `Error`; the cause within a kind is a type of its own.
`Error.message` is the only place where the wording of an error stands.
-/
import PredicateWire.Operator

namespace PredicateWire

/-- A comma-separated list. -/
def commaSeparated (parts : List String) : String :=
  ",".intercalate parts

/-! ### Causes -/

/-- Why an expression has no wire form or cannot be built. -/
inductive ShapeFault
  | openGenericMethod (signature : String)
  | initializerOfNonArray (typeName : String)
  | unaryOperator (operator : UnaryOperator)
  | lambdaArity (count : Nat)
deriving DecidableEq

/-- A type, method, constructor or member that is not there, or not there once. -/
inductive SymbolFault
  | unknownType (name : String)
  | selfReference (name : String)
  | unknownMember (typeName name : String)
  | notAField (name : String)
  | noFittingOverload (call : String) (argumentTypes : List String)
  | noFittingConstructor (typeName : String) (count : Nat)
  | unresolvedCall (typeName name : String) (parameterTypes : List String) (candidates : Nat)
deriving DecidableEq

/-- Why a text is not a canonical type name. -/
inductive NameFault
  | emptyName
  | missingElement
  | strayBrackets
  | missingArity
  | invalidArity
  | openArguments
  | unbalanced
  | argumentCount (declared found : Nat)
deriving DecidableEq

/-- A type, an operand or a value that is not what its place asks for. -/
inductive Mismatch
  | notGenericType (typeName : String)
  | typeArgumentCount (typeName : String) (expected found : Nat)
  | notGenericMethod (signature : String)
  | methodArgumentCount (signature : String) (expected found : Nat)
  | operatorUndefined (operator : BinaryOperator) (left right : String)
  | unaryUndefined (operator : UnaryOperator) (operand : String)
  | operatorMethodShape (signature : String)
  | operatorMethodOperands (signature : String)
  | initializerElement (actual element : String)
  | initializerType (element declared : String)
  | coalesceFallback (fallback converted : String)
  | conversionShape
  | conversionNode (kind : NodeKind)
  | conversionValue
  | parameterNode (kind : NodeKind)
  | literal (text typeName : String)
  | undeclaredField (name typeName : String)
  | fieldOfValue (name kind : String)
  | expectedBool (kind : String)
  | incomparable (left right : String)
  | notIndexable (kind : String)
  | arrayIndex
  | listIndex
  | expectedSequence (method kind : String)
  | expectedPredicate (method kind : String)
  | predicateAnswer (method kind : String)
  | nonStringTarget (method : String)
  | nonStringArgument (method : String)
  | nonDictionaryTarget (method : String)
  | predicateResult (kind : String)
  | expectedLambda (kind : NodeKind)
  | predicateArity (count : Nat)
  | predicateType (typeName : String)
deriving DecidableEq

/-- A failure at run time that no typing rules out. -/
inductive EvaluationFault
  | argumentCount (signature : String) (expected found : Nat)
  | lambdaArgumentCount (expected found : Nat)
  | nullTarget (signature : String)
  | nullReference (typeName name : String)
  | unboundParameter (name : String)
  | overflow
  | divisionByZero
  | nullArray
  | indexOutOfRange (index : Int)
  | nullSource (method : String)
  | missingSource (method : String)
  | missingPredicate (method : String)
  | emptySequence (method : String)
  | countOverflow (count : Nat)
  | keyNotFound (key : String)
  | raised (text : String)
deriving DecidableEq

/-- The part of a document that could not be read. -/
inductive Stage
  | base64
  | utf8
  | tree
deriving DecidableEq

/-- Why a document could not be written or read. -/
inductive CodecFault
  | duplicateKey (key : String)
  | payloadKind (kind : NodeKind)
  | unknownNodeKind (number : Nat)
  | nonFinite (text : String)
  | functionValue
  | undecodableType (typeName : String)
  | unreadable (stage : Option Stage)
deriving DecidableEq

/-- Why settings were refused. -/
inductive ConfigFault
  | unknownEncoding (name : String)
  | zeroDepth
  | depthNotInteger
  | unreadable
deriving DecidableEq

/-- An error, by kind. -/
inductive Error
  | unsupportedShape (fault : ShapeFault)
  | privateAccess (typeName member : String)
  | keyCollision (attempts : Nat)
  | symbolNotFound (fault : SymbolFault)
  | malformedName (name : String) (fault : NameFault)
  | unknownTypeKey (key : String)
  | typeMismatch (fault : Mismatch)
  | evaluation (fault : EvaluationFault)
  | depthExceeded (limit : Nat)
  | codec (fault : CodecFault)
  | config (fault : ConfigFault)
deriving DecidableEq

/-- The kinds of error, without their causes. -/
inductive ErrorKind
  | unsupportedShape
  | privateAccess
  | keyCollision
  | symbolNotFound
  | malformedName
  | unknownTypeKey
  | typeMismatch
  | evaluation
  | depthExceeded
  | codec
  | config
deriving DecidableEq

/-! ### Wording -/

namespace ShapeFault

/-- The wording of the cause. -/
def text : ShapeFault → String
  | openGenericMethod signature => "open generic method " ++ signature
  | initializerOfNonArray typeName => "array initializer of non-array type " ++ typeName
  | unaryOperator operator => operator.name ++ " has no wire mapping"
  | lambdaArity count => "lambda with " ++ toString count ++ " parameters"

end ShapeFault

namespace SymbolFault

/-- The wording of the cause. -/
def text : SymbolFault → String
  | unknownType name => "type " ++ name
  | selfReference name => "type " ++ name ++ " refers to itself"
  | unknownMember typeName name => typeName ++ "." ++ name
  | notAField name => "field " ++ name
  | noFittingOverload call argumentTypes => call ++ "(" ++ commaSeparated argumentTypes ++ ")"
  | noFittingConstructor typeName count => typeName ++ "::new/" ++ toString count
  | unresolvedCall typeName name parameterTypes candidates =>
    typeName ++ "." ++ name ++ "(" ++ commaSeparated parameterTypes ++ ")" ++
      if candidates = 0 then "" else " (" ++ toString candidates ++ " overloads match)"

end SymbolFault

namespace NameFault

/-- The wording of the cause. -/
def text : NameFault → String
  | emptyName => "empty name"
  | missingElement => "array without element type"
  | strayBrackets => "brackets on a non-generic name"
  | missingArity => "missing generic arity"
  | invalidArity => "invalid generic arity"
  | openArguments => "generic arguments must be enclosed in brackets"
  | unbalanced => "unbalanced brackets or separators"
  | argumentCount declared found =>
    "declares " ++ toString declared ++ " type arguments, found " ++ toString found

end NameFault

namespace Mismatch

/-- The wording of a count of type arguments that is not the declared one. -/
def argumentCountText (subject : String) (expected found : Nat) : String :=
  subject ++ " expects " ++ toString expected ++ " type arguments, got " ++ toString found

/-- The wording of the cause. -/
def text : Mismatch → String
  | notGenericType typeName => typeName ++ " is not a generic type definition"
  | typeArgumentCount typeName expected found => argumentCountText typeName expected found
  | notGenericMethod signature => signature ++ " is not a generic method definition"
  | methodArgumentCount signature expected found => argumentCountText signature expected found
  | operatorUndefined operator left right =>
    operator.name ++ " not defined for " ++ left ++ " and " ++ right
  | unaryUndefined operator operand => operator.name ++ " applied to " ++ operand
  | operatorMethodShape signature =>
    "operator method " ++ signature ++ " must be static with two parameters"
  | operatorMethodOperands signature => "operands do not fit " ++ signature
  | initializerElement actual element =>
    actual ++ " element in " ++ element ++ "[] initializer"
  | initializerType element declared =>
    "array initializer of " ++ element ++ " declared as " ++ declared
  | coalesceFallback fallback converted =>
    "coalesce fallback " ++ fallback ++ " does not fit " ++ converted
  | conversionShape => "coalesce conversion must be a one-parameter lambda"
  | conversionNode kind =>
    "coalesce conversion is a " ++ kind.name ++ " node, expected a lambda"
  | conversionValue => "coalesce conversion is not a lambda"
  | parameterNode kind => "lambda parameter list holds a " ++ kind.name ++ " node"
  | literal text typeName => "literal " ++ text ++ " is not a valid " ++ typeName
  | undeclaredField name typeName => "field " ++ name ++ " is not declared on " ++ typeName
  | fieldOfValue name kind => "field " ++ name ++ " read from " ++ kind ++ " value"
  | expectedBool kind => "expected bool, got " ++ kind
  | incomparable left right => "cannot compare " ++ left ++ " with " ++ right
  | notIndexable kind => "cannot index " ++ kind
  | arrayIndex => "array index must be an integer"
  | listIndex => "get_Item expects an integer index"
  | expectedSequence method kind => method ++ ": expected a sequence, got " ++ kind
  | expectedPredicate method kind => method ++ ": expected a predicate, got " ++ kind
  | predicateAnswer method kind => method ++ ": predicate returned " ++ kind
  | nonStringTarget method => method ++ " called on a non-string target"
  | nonStringArgument method => method ++ " expects a string argument"
  | nonDictionaryTarget method => method ++ " called on a non-dictionary target"
  | predicateResult kind => "predicate returned " ++ kind
  | expectedLambda kind => "expected a lambda, got " ++ kind.name ++ " node"
  | predicateArity count =>
    "predicate takes one argument, lambda declares " ++ toString count
  | predicateType typeName =>
    "predicate must return sys.Boolean, lambda returns " ++ typeName

end Mismatch

namespace EvaluationFault

/-- The wording of the cause. -/
def text : EvaluationFault → String
  | argumentCount signature expected found =>
    signature ++ " takes " ++ toString expected ++ " arguments, got " ++ toString found
  | lambdaArgumentCount expected found =>
    "lambda takes " ++ toString expected ++ " arguments, got " ++ toString found
  | nullTarget signature => "null target calling " ++ signature
  | nullReference typeName name => "null reference reading " ++ typeName ++ "." ++ name
  | unboundParameter name => "unbound parameter " ++ name
  | overflow => "arithmetic overflow"
  | divisionByZero => "division by zero"
  | nullArray => "indexing a null array"
  | indexOutOfRange index => "index " ++ toString index ++ " out of range"
  | nullSource method => method ++ ": source is null"
  | missingSource method => method ++ ": missing source"
  | missingPredicate method => method ++ ": missing predicate"
  | emptySequence method => method ++ ": sequence contains no elements"
  | countOverflow count => "count " ++ toString count ++ " overflows Int32"
  | keyNotFound key => "key " ++ key ++ " not found"
  | raised text => text

end EvaluationFault

namespace Stage

/-- The name of the stage. -/
def name : Stage → String
  | base64 => "base64"
  | utf8 => "utf-8"
  | tree => "node tree"

end Stage

namespace CodecFault

/-- The wording of the cause. A document that could not be read is described by its stage. -/
def text : CodecFault → String
  | duplicateKey key => "duplicate type key " ++ key
  | payloadKind kind => "node type " ++ kind.name ++ " does not match its payload"
  | unknownNodeKind number => "unknown node type " ++ toString number
  | nonFinite text => "non-finite double " ++ text
  | functionValue => "function values have no literal form"
  | undecodableType typeName => "constants of type " ++ typeName ++ " cannot be decoded"
  | unreadable (some stage) => stage.name ++ ": unreadable"
  | unreadable none => "unreadable document"

end CodecFault

namespace ConfigFault

/-- The wording of the cause. -/
def text : ConfigFault → String
  | unknownEncoding name => "unknown payload encoding '" ++ name ++ "'"
  | zeroDepth => "max_depth must be at least 1"
  | depthNotInteger => "HDDS_EXPR_MAX_DEPTH must be an integer"
  | unreadable => "unreadable document"

end ConfigFault

namespace ErrorKind

/-- The name of the kind. -/
def name : ErrorKind → String
  | unsupportedShape => "UnsupportedExpressionShape"
  | privateAccess => "PrivateAccessDenied"
  | keyCollision => "KeyCollision"
  | symbolNotFound => "SymbolNotFound"
  | malformedName => "MalformedGenericSignature"
  | unknownTypeKey => "UnknownTypeKey"
  | typeMismatch => "TypeMismatch"
  | evaluation => "Evaluation"
  | depthExceeded => "DepthExceeded"
  | codec => "Codec"
  | config => "Config"

end ErrorKind

namespace Error

/-- The kind of an error. -/
def kind : Error → ErrorKind
  | unsupportedShape _ => .unsupportedShape
  | privateAccess _ _ => .privateAccess
  | keyCollision _ => .keyCollision
  | symbolNotFound _ => .symbolNotFound
  | malformedName _ _ => .malformedName
  | unknownTypeKey _ => .unknownTypeKey
  | typeMismatch _ => .typeMismatch
  | evaluation _ => .evaluation
  | depthExceeded _ => .depthExceeded
  | codec _ => .codec
  | config _ => .config

/-- The full wording of an error. -/
def message : Error → String
  | unsupportedShape fault => "Unsupported expression shape: " ++ fault.text
  | privateAccess typeName member =>
    "Member access to non-public field is not allowed: " ++ typeName ++ "." ++ member
  | keyCollision attempts => "Type key collision after " ++ toString attempts ++ " attempts"
  | symbolNotFound fault => "Symbol not found: " ++ fault.text
  | malformedName name fault => "Malformed generic type name: " ++ name ++ ": " ++ fault.text
  | unknownTypeKey key => "Type key not present in table: " ++ key
  | typeMismatch fault => "Type mismatch: " ++ fault.text
  | evaluation fault => "Evaluation failed: " ++ fault.text
  | depthExceeded limit => "Expression tree deeper than " ++ toString limit ++ " levels"
  | codec fault => "Codec error: " ++ fault.text
  | config fault => "Configuration error: " ++ fault.text

end Error

/-- The result of an operation that can fail. -/
abbrev Result := Except Error

end PredicateWire
