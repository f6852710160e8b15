/-
This file says when two expressions compute the same from inside two scopes, and when
two values cannot be told apart. After the wire an expression has other parameters, and
handles that were looked up anew in another catalog, so the two sides are equal in
nothing but what they do. Variables count only by what binds them: a scope pairs the
variables of both sides, and a reference is answered alike when both sides find it at
the same position. Handles count only by what they do. Types and the identities of
parameters do not count at all.

Values need a relation of their own because of functions, which hold an expression and
the bindings it was made in. Two functions are alike when one evaluation made both,
their bindings are alike and their bodies are similar in the scopes of these bindings.
Everything here is a recursion on the left side, so that proofs can follow it.
-/
import Mathlib.Data.List.Forall2
import PredicateWire.Evaluation.Natives

namespace PredicateWire

/-! ### Handles that do the same -/

/-- Two methods take the same arguments, go by the same signature and have the same body. -/
structure Method.Agrees (left right : Method) : Prop where
  parameters : left.parameters.length = right.parameters.length
  isStatic : left.isStatic = right.isStatic
  signature : left.signature = right.signature
  body : left.body = right.body

/-- Two constructors take the same arguments, go by the same signature and have the same body. -/
structure Constructor.Agrees (left right : Constructor) : Prop where
  parameters : left.parameters.length = right.parameters.length
  signature : left.signature = right.signature
  body : left.body = right.body

/-- Two ways to get the value of a member agree. It does not matter whether a field is public. -/
def Storage.Agrees : Storage → Storage → Prop
  | .field _, .field _ => True
  | .property getter, .property other => getter = other
  | _, _ => False

/-- Two members go by the same names and are read in the same way. -/
structure Member.Agrees (left right : Member) : Prop where
  declaringType : left.declaringType.canonicalName = right.declaringType.canonicalName
  name : left.name = right.name
  storage : left.storage.Agrees right.storage

theorem Method.Agrees.refl (method : Method) : method.Agrees method :=
  ⟨rfl, rfl, rfl, rfl⟩

theorem Constructor.Agrees.refl (constructor : Constructor) : constructor.Agrees constructor :=
  ⟨rfl, rfl, rfl⟩

theorem Member.Agrees.refl (read : Member) : read.Agrees read := by
  refine ⟨rfl, rfl, ?_⟩
  cases read.storage with
  | field isPublic => trivial
  | property getter => rfl

/-- Two methods are both absent or agree. -/
def Method.Agree? : Option Method → Option Method → Prop
  | none, right => right = none
  | some left, right => ∃ other, right = some other ∧ left.Agrees other

/-! ### Similar expressions -/

/-- Parameters of one scope with their counterparts in another, innermost first. -/
abbrev ScopePairs := List (Parameter × Parameter)

/-- The pairs of a lambda's parameters, of which the last one is innermost. -/
def ScopePairs.declare (left right : List Parameter) (scope : ScopePairs) : ScopePairs :=
  (left.zip right).reverse ++ scope

/-- Two references are bound in the same place, or both nowhere. -/
def ScopePairs.SameBinder : ScopePairs → Parameter → Parameter → Prop
  | [], _, _ => True
  | (first, second) :: outer, left, right =>
    if first.sameAs left then second.sameAs right = true
    else second.sameAs right = false ∧ SameBinder outer left right

namespace Expr

mutual

/-- The second expression computes in its scope what the first one computes in its own. -/
def Similar : ScopePairs → Expr → Expr → Prop
  | scope, lambda _ parameters body _ _, right =>
    ∃ type others inner name tailCall, right = lambda type others inner name tailCall ∧
      parameters.length = others.length ∧ Similar (scope.declare parameters others) body inner
  | scope, parameter referenced, right =>
    ∃ other, right = parameter other ∧ scope.SameBinder referenced other ∧
      referenced.name = other.name
  | scope, binary operator _ left right method conversion, other =>
    ∃ type first second handle converter,
      other = binary operator type first second handle converter ∧ Similar scope left first ∧
        Similar scope right second ∧ Method.Agree? method handle ∧
          SimilarOption scope conversion converter
  | scope, member target read, right =>
    ∃ source handle, right = member source handle ∧ Similar scope target source ∧
      read.Agrees handle
  | _, constant value _, right => ∃ type, right = constant value type
  | scope, call target method arguments, right =>
    ∃ source handle others, right = call source handle others ∧
      SimilarOption scope target source ∧ method.Agrees handle ∧
        SimilarAll scope arguments others
  | scope, construct constructor arguments, right =>
    ∃ handle others, right = construct handle others ∧ constructor.Agrees handle ∧
      SimilarAll scope arguments others
  | scope, arrayInit _ elements, right =>
    ∃ type others, right = arrayInit type others ∧ SimilarAll scope elements others
  | scope, unary operator _ operand, right =>
    ∃ type source, right = unary operator type source ∧ Similar scope operand source
termination_by structural _ left => left

/-- Several expressions compute the same, one by one. -/
def SimilarAll : ScopePairs → List Expr → List Expr → Prop
  | _, [], right => right = []
  | scope, expression :: rest, right =>
    ∃ other others, right = other :: others ∧ Similar scope expression other ∧
      SimilarAll scope rest others
termination_by structural _ left => left

/-- Two expressions are both absent or compute the same. -/
def SimilarOption : ScopePairs → Option Expr → Option Expr → Prop
  | _, none, right => right = none
  | scope, some expression, right => ∃ other, right = some other ∧ Similar scope expression other
termination_by structural _ left => left

end

end Expr

/-- A scope in which every variable is its own counterpart. -/
def ScopePairs.Diagonal (scope : ScopePairs) : Prop :=
  ∀ pair ∈ scope, pair.1 = pair.2

namespace ScopePairs

/-- In a diagonal scope a reference is bound where it is bound. -/
theorem Diagonal.sameBinder {scope : ScopePairs} (diagonal : scope.Diagonal)
    (referenced : Parameter) : scope.SameBinder referenced referenced := by
  induction scope with
  | nil => trivial
  | cons pair outer inductionHypothesis =>
    obtain ⟨first, second⟩ := pair
    cases (diagonal _ List.mem_cons_self : first = second)
    rw [SameBinder]
    split
    · assumption
    · exact ⟨Bool.not_eq_true _ ▸ ‹_›,
        inductionHypothesis fun pair member => diagonal pair (List.mem_cons_of_mem _ member)⟩

theorem diagonal_zip (parameters : List Parameter) : Diagonal (parameters.zip parameters) := by
  induction parameters with
  | nil =>
    intro pair member
    cases member
  | cons parameter rest inductionHypothesis =>
    intro pair member
    rcases List.mem_cons.mp member with rfl | later
    · rfl
    · exact inductionHypothesis pair later

/-- A scope stays diagonal when the same parameters are declared on both sides. -/
theorem Diagonal.declare {scope : ScopePairs} (diagonal : scope.Diagonal)
    (parameters : List Parameter) : (scope.declare parameters parameters).Diagonal := by
  intro pair member
  rcases List.mem_append.mp member with own | outer
  · exact diagonal_zip parameters pair (List.mem_reverse.mp own)
  · exact diagonal pair outer

end ScopePairs

theorem Method.agree?_refl : ∀ method : Option Method, Method.Agree? method method
  | none => rfl
  | some method => ⟨method, rfl, .refl method⟩

namespace Expr

mutual

/-- An expression computes what it computes. -/
theorem similar_refl : ∀ (expression : Expr) {scope : ScopePairs}, scope.Diagonal →
    Similar scope expression expression
  | lambda type parameters body name tailCall, _, diagonal =>
    ⟨type, parameters, body, name, tailCall, rfl, rfl,
      similar_refl body (diagonal.declare parameters)⟩
  | parameter referenced, _, diagonal => ⟨referenced, rfl, diagonal.sameBinder referenced, rfl⟩
  | binary _ type left right method conversion, _, diagonal =>
    ⟨type, left, right, method, conversion, rfl, similar_refl left diagonal,
      similar_refl right diagonal, Method.agree?_refl method, similarOption_refl conversion diagonal⟩
  | member target read, _, diagonal =>
    ⟨target, read, rfl, similar_refl target diagonal, .refl read⟩
  | constant _ type, _, _ => ⟨type, rfl⟩
  | call target method arguments, _, diagonal =>
    ⟨target, method, arguments, rfl, similarOption_refl target diagonal, .refl method,
      similarAll_refl arguments diagonal⟩
  | construct constructor arguments, _, diagonal =>
    ⟨constructor, arguments, rfl, .refl constructor, similarAll_refl arguments diagonal⟩
  | arrayInit type elements, _, diagonal =>
    ⟨type, elements, rfl, similarAll_refl elements diagonal⟩
  | unary _ type operand, _, diagonal => ⟨type, operand, rfl, similar_refl operand diagonal⟩

theorem similarAll_refl : ∀ (expressions : List Expr) {scope : ScopePairs}, scope.Diagonal →
    SimilarAll scope expressions expressions
  | [], _, _ => rfl
  | expression :: rest, _, diagonal =>
    ⟨expression, rest, rfl, similar_refl expression diagonal, similarAll_refl rest diagonal⟩

theorem similarOption_refl : ∀ (expression : Option Expr) {scope : ScopePairs}, scope.Diagonal →
    SimilarOption scope expression expression
  | none, _, _ => rfl
  | some expression, _, diagonal => ⟨expression, rfl, similar_refl expression diagonal⟩

end

end Expr

/-! ### Values that cannot be told apart -/

namespace Bindings

/-- The scope in which two lists of bindings are in force. -/
def scope (left right : Bindings) : ScopePairs :=
  (left.map Prod.fst).zip (right.map Prod.fst)

end Bindings

namespace Value

mutual

/-- Two values cannot be told apart. -/
def Alike : Value → Value → Prop
  | array items, right => ∃ others, right = array others ∧ AlikeAll items others
  | map entries, right => ∃ others, right = map others ∧ AlikePairs entries others
  | record fields, right => ∃ others, right = record others ∧ AlikeFields fields others
  | function closure, right => ∃ other, right = function other ∧ AlikeClosures closure other
  | null, right => right = null
  | bool value, right => right = bool value
  | int32 value, right => right = int32 value
  | int64 value, right => right = int64 value
  | double value, right => right = double value
  | char value, right => right = char value
  | string value, right => right = string value
termination_by structural left => left

/-- Several values cannot be told apart, one by one. -/
def AlikeAll : List Value → List Value → Prop
  | [], right => right = []
  | value :: rest, right => ∃ other others, right = other :: others ∧ Alike value other ∧
      AlikeAll rest others
termination_by structural left => left

/-- The entries of two maps cannot be told apart. -/
def AlikePairs : List (Value × Value) → List (Value × Value) → Prop
  | [], right => right = []
  | (key, content) :: rest, right => ∃ otherKey other others, right = (otherKey, other) :: others ∧
      Alike key otherKey ∧ Alike content other ∧ AlikePairs rest others
termination_by structural left => left

/-- The fields of two records have the same names and contents that cannot be told apart. -/
def AlikeFields : List (String × Value) → List (String × Value) → Prop
  | [], right => right = []
  | (name, content) :: rest, right => ∃ other others, right = (name, other) :: others ∧
      Alike content other ∧ AlikeFields rest others
termination_by structural left => left

/-- Two functions were made by one evaluation, and their bodies compute the same from alike
bindings. -/
def AlikeClosures : Closure → Closure → Prop
  | .mk origin parameters body bindings limit, right =>
    ∃ others inner outer, right = .mk origin others inner outer limit ∧
      parameters.length = others.length ∧ AlikeBindings bindings outer ∧
        Expr.Similar ((Bindings.scope bindings outer).declare parameters others) body inner
termination_by structural left => left

/-- Two lists of bindings bind alike values, one by one. -/
def AlikeBindings : List (Parameter × Value) → List (Parameter × Value) → Prop
  | [], right => right = []
  | (_, value) :: rest, right => ∃ parameter other others, right = (parameter, other) :: others ∧
      Alike value other ∧ AlikeBindings rest others
termination_by structural left => left

end

/-! ### Lists of values -/

/-- Lists of values cannot be told apart if their values cannot, one by one. -/
theorem alikeAll_iff {left right : List Value} :
    AlikeAll left right ↔ List.Forall₂ Alike left right := by
  induction left generalizing right with
  | nil =>
    constructor
    · rintro rfl
      exact .nil
    · rintro ⟨⟩
      rfl
  | cons value rest inductionHypothesis =>
    constructor
    · rintro ⟨other, others, rfl, alike, rests⟩
      exact .cons alike (inductionHypothesis.mp rests)
    · rintro (_ | ⟨alike, rests⟩)
      exact ⟨_, _, rfl, alike, inductionHypothesis.mpr rests⟩

theorem alikePairs_iff {left right : List (Value × Value)} : AlikePairs left right ↔
    List.Forall₂ (fun first second => Alike first.1 second.1 ∧ Alike first.2 second.2)
      left right := by
  induction left generalizing right with
  | nil =>
    constructor
    · rintro rfl
      exact .nil
    · rintro ⟨⟩
      rfl
  | cons entry rest inductionHypothesis =>
    obtain ⟨key, content⟩ := entry
    constructor
    · rintro ⟨otherKey, other, others, rfl, keys, contents, rests⟩
      exact .cons ⟨keys, contents⟩ (inductionHypothesis.mp rests)
    · rintro (_ | ⟨alike, rests⟩)
      exact ⟨_, _, _, rfl, alike.1, alike.2, inductionHypothesis.mpr rests⟩

mutual

/-- A value cannot be told apart from itself. -/
theorem alike_refl : ∀ value : Value, Alike value value
  | .null | .bool _ | .int32 _ | .int64 _ | .double _ | .char _ | .string _ => rfl
  | .array items => ⟨items, rfl, alikeAll_refl items⟩
  | .map entries => ⟨entries, rfl, alikePairs_refl entries⟩
  | .record fields => ⟨fields, rfl, alikeFields_refl fields⟩
  | .function closure => ⟨closure, rfl, alikeClosures_refl closure⟩

theorem alikeAll_refl : ∀ items : List Value, AlikeAll items items
  | [] => rfl
  | item :: rest => ⟨item, rest, rfl, alike_refl item, alikeAll_refl rest⟩

theorem alikePairs_refl : ∀ entries : List (Value × Value), AlikePairs entries entries
  | [] => rfl
  | (key, content) :: rest =>
    ⟨key, content, rest, rfl, alike_refl key, alike_refl content, alikePairs_refl rest⟩

theorem alikeFields_refl : ∀ fields : List (String × Value), AlikeFields fields fields
  | [] => rfl
  | (_, content) :: rest => ⟨content, rest, rfl, alike_refl content, alikeFields_refl rest⟩

theorem alikeClosures_refl : ∀ closure : Closure, AlikeClosures closure closure
  | .mk _ parameters body bindings _ =>
    ⟨parameters, body, bindings, rfl, rfl, alikeBindings_refl bindings,
      Expr.similar_refl body ((ScopePairs.diagonal_zip _).declare parameters)⟩

theorem alikeBindings_refl : ∀ bindings : List (Parameter × Value), AlikeBindings bindings bindings
  | [] => rfl
  | (parameter, value) :: rest =>
    ⟨parameter, value, rest, rfl, alike_refl value, alikeBindings_refl rest⟩

end

end Value

end PredicateWire
