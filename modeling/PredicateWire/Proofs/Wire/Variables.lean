/-
This file follows the parameters through a session of rebuilding. A parameter node that
is rebuilt mentions a type, a name and a flag, and it gets the parameter that the first
mention of this name and of the name of this type has made. So two parameters of the
results are one variable exactly if their nodes mentioned the same names, however many
trees were rebuilt in between, and whether these were rebuilt to the end or not.

The mentions of a tree are defined by recursion on the tree, along with rebuilding it,
since a tree that is not rebuilt to the end mentions only what was reached. Everything
that a session does to its parameters is then a function of its mentions (`enrolAll`),
and what is to be proved about sessions is proved about lists of mentions.
-/
import Mathlib.Data.Finset.Card
import Mathlib.Data.List.Forall2
import PredicateWire.Proofs.Contracts
import PredicateWire.Proofs.Expr.Parts
import PredicateWire.Wire.Rebuild

namespace PredicateWire

/-! ### Mentions -/

/-- What a parameter node says of its parameter, with the type that its key stands for. -/
structure Mention where
  type : DataType
  name : String
  byReference : Bool

/-- What variables are told apart by: the name of the type, and the name. -/
def Mention.names (mention : Mention) : String × String :=
  (mention.type.canonicalName, mention.name)

/-- What the variable of a parameter is told apart by. -/
def Parameter.names (parameter : Parameter) : String × String :=
  (parameter.type.canonicalName, parameter.name)

namespace Rebuild

/-- The mentions in what follows on a piece of work. A failure is followed by nothing. -/
def following {Content : Type} (work : RebuildM Content)
    (next : Content → Rebuild → List Mention) (start : Rebuild) : List Mention :=
  match work.run start with
  | (.ok content, middle) => next content middle
  | (.error _, _) => []

/-- The mentions in a piece of work, and then those in what follows on it. -/
def andFollowing {Content : Type} (work : RebuildM Content) (own : Rebuild → List Mention)
    (next : Content → Rebuild → List Mention) (start : Rebuild) : List Mention :=
  own start ++ following work next start

end Rebuild

namespace Node

open Rebuild

mutual

/-- What the parameter nodes mention that are rebuilt from a node, in this order. -/
def mentionsAt : Node → Nat → Rebuild → List Mention
  | lambda header body parameters name tailCall, depth =>
    following (enter (lambda header body parameters name tailCall) depth) fun _ =>
      andFollowing (rebuildParameters parameters (depth + 1))
        (mentionsParameters parameters (depth + 1)) fun _ =>
          mentionsAt body (depth + 1)
  | parameter header name byReference, depth =>
    following (enter (parameter header name byReference) depth) fun type _ =>
      [⟨type, name, byReference⟩]
  | binary header left right conversion method, depth =>
    following (enter (binary header left right conversion method) depth) fun _ =>
      match header.kind.binaryOperator? with
      | none => fun _ => []
      | some _ =>
        andFollowing (rebuildOption conversion (depth + 1))
          (mentionsOption conversion (depth + 1)) fun converter =>
            following (checkConversion converter) fun _ =>
              andFollowing (rebuildAt left (depth + 1)) (mentionsAt left (depth + 1)) fun _ =>
                mentionsAt right (depth + 1)
  | member header target read, depth =>
    following (enter (member header target read) depth) fun _ => mentionsAt target (depth + 1)
  | constant _ _, _ => fun _ => []
  | call header target method arguments, depth =>
    following (enter (call header target method arguments) depth) fun _ =>
      andFollowing (rebuildOption target (depth + 1)) (mentionsOption target (depth + 1)) fun _ =>
        following (onTable method.resolve) fun _ => mentionsAll arguments (depth + 1)
  | construct header constructor arguments, depth =>
    following (enter (construct header constructor arguments) depth) fun _ =>
      following (onTable constructor.resolve) fun _ => mentionsAll arguments (depth + 1)
  | arrayInit header element elements, depth =>
    following (enter (arrayInit header element elements) depth) fun type =>
      following (onTable (TypeTable.resolve element)) fun element =>
        following (checkArray type element) fun _ => mentionsAll elements (depth + 1)

/-- What is mentioned where several nodes are rebuilt. -/
def mentionsAll : List Node → Nat → Rebuild → List Mention
  | [], _ => fun _ => []
  | node :: rest, depth =>
    andFollowing (rebuildAt node depth) (mentionsAt node depth) fun _ => mentionsAll rest depth

/-- What is mentioned where the parameter list of a lambda is rebuilt. -/
def mentionsParameters : List Node → Nat → Rebuild → List Mention
  | [], _ => fun _ => []
  | node :: rest, depth =>
    andFollowing (rebuildAt node depth) (mentionsAt node depth) fun expression =>
      following (declaredParameter expression) fun _ => mentionsParameters rest depth

/-- What is mentioned where a node is rebuilt that may be absent. -/
def mentionsOption : Option Node → Nat → Rebuild → List Mention
  | none, _ => fun _ => []
  | some node, depth => mentionsAt node depth

end

end Node

namespace Expr

mutual

/-- The parameters of an expression, in the order in which their nodes are rebuilt. -/
def handles : Expr → List Parameter
  | lambda _ parameters body _ _ => parameters ++ handles body
  | parameter referenced => [referenced]
  | binary _ _ left right _ conversion =>
    handlesOption conversion ++ (handles left ++ handles right)
  | member target _ => handles target
  | constant _ _ => []
  | call target _ arguments => handlesOption target ++ handlesAll arguments
  | construct _ arguments => handlesAll arguments
  | arrayInit _ elements => handlesAll elements
  | unary _ _ operand => handles operand

/-- The parameters of several expressions, in this order. -/
def handlesAll : List Expr → List Parameter
  | [] => []
  | expression :: rest => handles expression ++ handlesAll rest

/-- The parameters of an expression that may be absent, in this order. -/
def handlesOption : Option Expr → List Parameter
  | none => []
  | some expression => handles expression

end

mutual

/-- The order does not matter for which parameters there are. -/
theorem handles_perm : ∀ expression : Expr, expression.handles.Perm expression.parameters
  | .lambda type parameters body name tailCall => by
    rw [handles, parameters_lambda]
    exact List.perm_append_comm.trans ((handles_perm body).append_right parameters)
  | .parameter referenced => by
    rw [handles, parameters_parameter]
  | .binary operator type left right method conversion => by
    rw [handles, parameters_binary]
    exact List.perm_append_comm.trans
      (((handles_perm left).append (handles_perm right)).append (handlesOption_perm conversion))
  | .member target read => by
    rw [handles, parameters_member]
    exact handles_perm target
  | .constant value type => by
    rw [handles, parameters_constant]
  | .call target method arguments => by
    rw [handles, parameters_call]
    exact (handlesOption_perm target).append (handlesAll_perm arguments)
  | .construct constructor arguments => by
    rw [handles, parameters_construct]
    exact handlesAll_perm arguments
  | .arrayInit type elements => by
    rw [handles, parameters_arrayInit]
    exact handlesAll_perm elements
  | .unary operator type operand => by
    rw [handles, parameters_unary]
    exact handles_perm operand

theorem handlesAll_perm : ∀ expressions : List Expr,
    (handlesAll expressions).Perm (parametersAll expressions)
  | [] => .refl _
  | expression :: rest => by
    rw [handlesAll, parametersAll_cons]
    exact (handles_perm expression).append (handlesAll_perm rest)

theorem handlesOption_perm : ∀ expression : Option Expr,
    (handlesOption expression).Perm (parametersOption expression)
  | none => .refl _
  | some expression => by
    rw [handlesOption, parametersOption_some]
    exact handles_perm expression

end

end Expr

/-! ### Parameters made for mentions -/

namespace Rebuild

/-- The parameters that there are after a mention: one more, unless there is one of its names. -/
def enrol (scope : Nat) (made : List Parameter) (mention : Mention) : List Parameter :=
  if (made.find? fun parameter => parameter.names == mention.names).isSome then made
  else made ++ [⟨⟨scope, made.length⟩, mention.name, mention.type, mention.byReference⟩]

/-- The parameters that there are after several mentions. -/
def enrolAll (scope : Nat) : List Parameter → List Mention → List Parameter :=
  List.foldl (enrol scope)

/-- A mention gets the first parameter of its names. -/
def Gets (made : List Parameter) (parameter : Parameter) (mention : Mention) : Prop :=
  (made.find? fun other => other.names == mention.names) = some parameter

section

variable {scope : Nat} {made grown : List Parameter} {parameter : Parameter} {mention : Mention}

theorem enrolAll_append (first second : List Mention) :
    enrolAll scope made (first ++ second) = enrolAll scope (enrolAll scope made first) second :=
  List.foldl_append

theorem prefix_enrol : made <+: enrol scope made mention := by
  unfold enrol
  split
  · exact List.prefix_rfl
  · exact List.prefix_append _ _

theorem prefix_enrolAll (mentions : List Mention) : made <+: enrolAll scope made mentions := by
  induction mentions generalizing made with
  | nil => exact List.prefix_rfl
  | cons mention rest inductionHypothesis => exact prefix_enrol.trans inductionHypothesis

/-- What a mention gets it gets again, whatever is made later. -/
theorem Gets.grow (gets : Gets made parameter mention) (grows : made <+: grown) :
    Gets grown parameter mention := by
  obtain ⟨more, rfl⟩ := grows
  rw [Gets, List.find?_append, show made.find? _ = some parameter from gets]
  rfl

theorem Gets.names (gets : Gets made parameter mention) : parameter.names = mention.names := by
  have tested := List.find?_some gets
  exact eq_of_beq tested

end

/-- The parameters are those that mentions make, in order: told apart by their places, one for each
pair of names, and each as its first mention wants it. -/
structure Made (scope : Nat) (made : List Parameter) (mentions : List Mention) : Prop where
  places : ∀ {place : Nat} {parameter : Parameter}, made[place]? = some parameter →
    parameter.identity = ⟨scope, place⟩
  distinct : (made.map Parameter.names).Nodup
  mentioned : ∀ names, names ∈ made.map Parameter.names ↔ names ∈ mentions.map Mention.names
  first : ∀ {parameter mention}, Gets made parameter mention →
    (mentions.find? fun other => other.names == mention.names).map Mention.byReference =
      some parameter.byReference

theorem made_nil (scope : Nat) : Made scope [] [] :=
  ⟨nofun, .nil, fun _ => .rfl, nofun⟩

section

variable {scope : Nat} {made : List Parameter} {mentions : List Mention} {mention : Mention}

/-- The names of a parameter have been mentioned before. -/
theorem Made.find?_isSome (holds : Made scope made mentions)
    (known : mention.names ∈ made.map Parameter.names) :
    (mentions.find? fun other => other.names == mention.names).isSome = true := by
  obtain ⟨other, member, same⟩ := List.mem_map.mp ((holds.mentioned _).mp known)
  exact List.find?_isSome.mpr ⟨other, member, beq_iff_eq.mpr same⟩

theorem find?_names_isSome : (made.find? fun parameter =>
    parameter.names == mention.names).isSome = true ↔ mention.names ∈ made.map Parameter.names := by
  simp [List.mem_map]

/-- A mention of names that have a parameter leaves things as they are. -/
theorem Made.again (holds : Made scope made mentions)
    (known : mention.names ∈ made.map Parameter.names) :
    Made scope made (mentions ++ [mention]) := by
  refine ⟨holds.places, holds.distinct, fun names => ?_, fun {parameter other} gets => ?_⟩
  · rw [holds.mentioned, List.map_append, List.mem_append, List.map_singleton, List.mem_singleton]
    exact ⟨.inl, fun either => either.elim id fun same => same ▸ (holds.mentioned _).mp known⟩
  · rw [List.find?_append, Option.or_of_isSome, holds.first gets]
    refine holds.find?_isSome ?_
    rw [← gets.names]
    exact List.mem_map_of_mem (List.mem_of_find?_eq_some gets)

/-- No mention has had names that no parameter has. -/
theorem Made.find?_eq_none (holds : Made scope made mentions)
    (absent : (made.find? fun parameter => parameter.names == mention.names) = none) :
    (mentions.find? fun other => other.names == mention.names) = none := by
  rw [← Option.not_isSome_iff_eq_none, List.find?_isSome]
  rintro ⟨earlier, member, same⟩
  have mentioned := (holds.mentioned _).mpr (List.mem_map_of_mem member)
  rw [eq_of_beq same, ← find?_names_isSome, absent] at mentioned
  cases mentioned

/-- A mention of new names makes a parameter at the end of the list, with the next place and the
flag of this mention, which is the first one of its names. -/
theorem Made.append (holds : Made scope made mentions)
    (new : mention.names ∉ made.map Parameter.names) :
    Made scope
      (made ++ [⟨⟨scope, made.length⟩, mention.name, mention.type, mention.byReference⟩])
      (mentions ++ [mention]) := by
  refine ⟨fun {place parameter} placed => ?_, ?_, fun names => ?_,
    fun {parameter other} gets => ?_⟩
  · rcases Nat.lt_or_ge place made.length with before | beyond
    · rw [List.getElem?_append_left before] at placed
      exact holds.places placed
    · rw [List.getElem?_append_right beyond, List.getElem?_singleton] at placed
      split at placed
      · cases placed
        have last : place = made.length := by omega
        rw [last]
      · cases placed
  · rw [List.map_append, List.nodup_append]
    refine ⟨holds.distinct, List.nodup_singleton _, fun names member other single => ?_⟩
    rw [List.map_singleton, List.mem_singleton] at single
    rw [single]
    rintro rfl
    exact new member
  · rw [List.map_append, List.map_append, List.mem_append, List.mem_append, holds.mentioned,
      List.map_singleton, List.map_singleton]
    rfl
  · rw [Gets, List.find?_append] at gets
    rw [List.find?_append]
    cases found : made.find? fun parameter => parameter.names == other.names with
    | some earlier =>
      rw [found] at gets
      cases gets
      have known : other.names ∈ made.map Parameter.names := by
        rw [← find?_names_isSome, found]
        rfl
      rw [Option.or_of_isSome (holds.find?_isSome known)]
      exact holds.first found
    | none =>
      rw [found, Option.none_or, List.find?_singleton] at gets
      rw [holds.find?_eq_none found, Option.none_or, List.find?_singleton]
      split at gets
      · rename_i same
        cases gets
        rw [if_pos (show (mention.names == other.names) = true from same)]
        rfl
      · cases gets

theorem Made.enrol (holds : Made scope made mentions) (mention : Mention) :
    Made scope (enrol scope made mention) (mentions ++ [mention]) := by
  unfold Rebuild.enrol
  by_cases known : mention.names ∈ made.map Parameter.names
  · rw [if_pos (find?_names_isSome.mpr known)]
    exact holds.again known
  · rw [if_neg (mt find?_names_isSome.mp known)]
    exact holds.append known

theorem Made.enrolAll (holds : Made scope made mentions) (more : List Mention) :
    Made scope (enrolAll scope made more) (mentions ++ more) := by
  induction more generalizing made mentions with
  | nil =>
    rw [List.append_nil]
    exact holds
  | cons mention rest inductionHypothesis =>
    rw [List.append_cons]
    exact inductionHypothesis (holds.enrol mention)

end

/-! ### Work that mentions parameters -/

/-- Work makes the parameters of its mentions, and nothing else. What it yields uses the parameters
that its mentions get, after those that were in use before. -/
structure Records {Content : Type} (before : List Parameter) (work : RebuildM Content)
    (mentions : Rebuild → List Mention) (uses : Content → List Parameter) : Prop where
  run : ∀ {past start outcome final}, List.Forall₂ (Gets start.parameters) before past →
    work.run start = (outcome, final) →
      final.scope = start.scope ∧
      final.parameters = enrolAll start.scope start.parameters (mentions start) ∧
      ∀ content, outcome = .ok content →
        List.Forall₂ (Gets final.parameters) (uses content) (past ++ mentions start)

/-- Work makes no parameters. -/
def Quiet {Content : Type} (work : RebuildM Content) : Prop :=
  ∀ scope made, Promises (fun rebuild => rebuild.scope = scope ∧ rebuild.parameters = made) work
    (fun _ => True) fun _ => True

section

open Running

variable {First Second : Type} {before : List Parameter} {work : RebuildM First}
  {next : First → RebuildM Second} {mentions : Rebuild → List Mention}
  {uses : First → List Parameter} {others : Second → List Parameter}

theorem records_pure {content : First} (same : uses content = before) :
    Records before (pure content) (fun _ => []) uses := by
  refine ⟨fun {past start outcome final} gets ran => ?_⟩
  cases ran
  refine ⟨rfl, rfl, fun content yields => ?_⟩
  cases yields
  rw [same, List.append_nil]
  exact gets

theorem records_throw {error : Error} : Records before (throw error) (fun _ => []) uses := by
  refine ⟨fun {past start outcome final} gets ran => ?_⟩
  cases ran
  exact ⟨rfl, rfl, nofun⟩

/-- What follows on work counts on the parameters that are in use then. -/
theorem records_bind {nextMentions : First → Rebuild → List Mention}
    (first : Records before work mentions uses)
    (second : ∀ content, Records (uses content) (next content) (nextMentions content) others) :
    Records before (work >>= next) (andFollowing work mentions nextMentions) others := by
  refine ⟨fun {past start outcome final} gets ran => ?_⟩
  rw [run_bind] at ran
  rcases workRan : work.run start with ⟨content | content, middle⟩ <;> rw [workRan] at ran
  · cases ran
    obtain ⟨scope, made, -⟩ := first.run gets workRan
    rw [andFollowing, following, workRan, List.append_nil]
    exact ⟨scope, made, nofun⟩
  · obtain ⟨scope, made, used⟩ := first.run gets workRan
    obtain ⟨lastScope, lastMade, lastUsed⟩ := (second content).run (used content rfl) ran
    rw [andFollowing, following, workRan]
    refine ⟨lastScope.trans scope, ?_, ?_⟩
    · rw [lastMade, scope, made, enrolAll_append]
    · rw [← List.append_assoc]
      exact lastUsed

theorem Quiet.records (quiet : Quiet work) :
    Records before work (fun _ => []) fun _ => before := by
  refine ⟨fun {past start outcome final} gets ran => ?_⟩
  obtain ⟨⟨scope, made⟩, -⟩ := (quiet _ _).run ⟨rfl, rfl⟩ ran
  refine ⟨scope, made, fun _ _ => ?_⟩
  rw [made, List.append_nil]
  exact gets

/-- Where the first part makes no parameters, the mentions are those of the second part. -/
theorem records_following {nextMentions : First → Rebuild → List Mention} (quiet : Quiet work)
    (second : ∀ content, Records before (next content) (nextMentions content) others) :
    Records before (work >>= next) (following work nextMentions) others :=
  records_bind quiet.records second

/-- Where the second part mentions nothing, the mentions are those of the first part. -/
theorem records_last (first : Records before work mentions uses)
    (second : ∀ content, Records (uses content) (next content) (fun _ => []) others) :
    Records before (work >>= next) mentions others := by
  have nothing : andFollowing work mentions (fun _ _ => []) = mentions := by
    funext start
    rw [andFollowing, following]
    split <;> exact List.append_nil _
  rw [← nothing]
  exact records_bind first second

/-! ### Work on the table, and checks -/

theorem quiet_onTable {Content : Type} (work : TableM Content) : Quiet (onTable work) := by
  refine fun scope made => ⟨fun good ran => ?_⟩
  cases ran
  exact ⟨good, meets_true _⟩

theorem quiet_enter (node : Node) (depth : Nat) : Quiet (node.enter depth) := by
  refine fun scope made => promises_get fun state _ => ?_
  refine promises_check (fun _ => trivial) fun _ => ?_
  exact promises_check (fun _ => trivial) fun _ => quiet_onTable _ scope made

theorem quiet_checkConversion (conversion : Option Expr) : Quiet (checkConversion conversion) := by
  intro scope made
  unfold checkConversion
  split
  · exact promises_pure trivial
  · exact promises_pure trivial
  · exact promises_throw trivial

theorem quiet_checkArray (declared element : DataType) : Quiet (checkArray declared element) := by
  intro scope made
  unfold checkArray
  split
  · exact promises_pure trivial
  · exact promises_throw trivial

theorem quiet_method? (reference : Option MethodReference) : Quiet (method? reference) := by
  intro scope made
  cases reference with
  | none => exact promises_pure trivial
  | some reference =>
    exact promises_bind (quiet_onTable _ scope made) fun _ _ => promises_pure trivial

/-- An entry of a parameter list is the only parameter that is used in it. -/
theorem records_declaredParameter (before : List Parameter) (expression : Expr) :
    Records (before ++ expression.handles) (declaredParameter expression) (fun _ => [])
      fun declared => before ++ [declared] := by
  cases expression with
  | parameter referenced => exact records_pure rfl
  | _ => exact records_throw

/-- The parameter that is asked for is the one that the mention gets. -/
theorem records_parameter (before : List Parameter) (mention : Mention) :
    Records before (parameter mention.type mention.name mention.byReference)
      (fun _ => [mention]) fun made => before ++ [made] := by
  refine ⟨fun {past start outcome final} gets ran => ?_⟩
  unfold parameter at ran
  simp only [run_bind, run_get] at ran
  split at ran
  · rename_i found present
    cases ran
    have known : Gets start.parameters found mention := present
    have kept : enrol start.scope start.parameters mention = start.parameters := by
      rw [enrol, known, Option.isSome_some, if_pos rfl]
    refine ⟨rfl, kept.symm, fun content yields => ?_⟩
    cases yields
    exact List.rel_append gets (.cons known .nil)
  · rename_i absent
    cases ran
    have unknown : (start.parameters.find? fun made => made.names == mention.names) = none := absent
    refine ⟨rfl, ?_, fun content yields => ?_⟩
    · show _ = enrol start.scope start.parameters mention
      rw [enrol, unknown, Option.isSome_none, if_neg Bool.false_ne_true]
    · cases yields
      have grows := List.prefix_append start.parameters
        [⟨⟨start.scope, start.parameters.length⟩, mention.name, mention.type, mention.byReference⟩]
      refine List.rel_append (gets.imp fun _ _ got => got.grow grows) (.cons ?_ .nil)
      rw [Gets, List.find?_append, unknown, Option.none_or]
      exact List.find?_cons_of_pos (beq_self_eq_true mention.names)

end

/-! ### Rebuilding -/

end Rebuild

namespace Node

open Rebuild

mutual

/-- Rebuilding a node makes the parameters that the node mentions, and the result uses those that
its mentions get. -/
theorem records_rebuildAt : ∀ (node : Node) (depth : Nat) (before : List Parameter),
    Records before (rebuildAt node depth) (mentionsAt node depth) fun result =>
      before ++ result.handles
  | .lambda header body parameters name tailCall, depth, before => by
    rw [rebuildAt, mentionsAt]
    refine records_following (quiet_enter _ depth) fun type => ?_
    refine records_bind (records_rebuildParameters parameters (depth + 1) before) fun declared => ?_
    refine records_last (records_rebuildAt body (depth + 1) (before ++ declared)) fun body => ?_
    exact records_pure (List.append_assoc _ _ _).symm
  | .parameter header name byReference, depth, before => by
    rw [rebuildAt, mentionsAt]
    refine records_following (quiet_enter _ depth) fun type => ?_
    refine records_last (records_parameter before ⟨type, name, byReference⟩) fun made => ?_
    exact records_pure rfl
  | .binary header left right conversion method, depth, before => by
    rw [rebuildAt, mentionsAt]
    refine records_following (quiet_enter _ depth) fun type => ?_
    cases header.kind.binaryOperator? with
    | none => exact records_throw
    | some operator =>
      refine records_bind (records_rebuildOption conversion (depth + 1) before) fun converter => ?_
      refine records_following (quiet_checkConversion converter) fun _ => ?_
      refine records_bind (records_rebuildAt left (depth + 1) _) fun left => ?_
      refine records_last (records_rebuildAt right (depth + 1) _) fun right => ?_
      refine records_last (quiet_method? method).records fun method => ?_
      refine records_pure ?_
      simp only [Expr.handles, List.append_assoc]
  | .member header target read, depth, before => by
    rw [rebuildAt, mentionsAt]
    refine records_following (quiet_enter _ depth) fun _ => ?_
    refine records_last (records_rebuildAt target (depth + 1) before) fun target => ?_
    exact records_last (quiet_onTable _).records fun read => records_pure rfl
  | .constant header document, depth, before => by
    rw [rebuildAt, mentionsAt]
    refine records_last (quiet_enter _ depth).records fun type => ?_
    exact records_last (quiet_onTable _).records fun value => records_pure (List.append_nil _)
  | .call header target method arguments, depth, before => by
    rw [rebuildAt, mentionsAt]
    refine records_following (quiet_enter _ depth) fun _ => ?_
    refine records_bind (records_rebuildOption target (depth + 1) before) fun target => ?_
    refine records_following (quiet_onTable _) fun method => ?_
    refine records_last (records_rebuildAll arguments (depth + 1) _) fun arguments => ?_
    exact records_pure (List.append_assoc _ _ _).symm
  | .construct header constructor arguments, depth, before => by
    rw [rebuildAt, mentionsAt]
    refine records_following (quiet_enter _ depth) fun _ => ?_
    refine records_following (quiet_onTable _) fun constructor => ?_
    exact records_last (records_rebuildAll arguments (depth + 1) before) fun arguments =>
      records_pure rfl
  | .arrayInit header element elements, depth, before => by
    rw [rebuildAt, mentionsAt]
    refine records_following (quiet_enter _ depth) fun type => ?_
    refine records_following (quiet_onTable _) fun element => ?_
    refine records_following (quiet_checkArray type element) fun _ => ?_
    exact records_last (records_rebuildAll elements (depth + 1) before) fun elements =>
      records_pure rfl

theorem records_rebuildAll : ∀ (nodes : List Node) (depth : Nat) (before : List Parameter),
    Records before (rebuildAll nodes depth) (mentionsAll nodes depth) fun results =>
      before ++ Expr.handlesAll results
  | [], depth, before => by
    rw [rebuildAll, mentionsAll]
    exact records_pure (List.append_nil _)
  | node :: rest, depth, before => by
    rw [rebuildAll, mentionsAll]
    refine records_bind (records_rebuildAt node depth before) fun result => ?_
    refine records_last (records_rebuildAll rest depth _) fun results => ?_
    exact records_pure (List.append_assoc _ _ _).symm

theorem records_rebuildParameters : ∀ (nodes : List Node) (depth : Nat) (before : List Parameter),
    Records before (rebuildParameters nodes depth) (mentionsParameters nodes depth) fun declared =>
      before ++ declared
  | [], depth, before => by
    rw [rebuildParameters, mentionsParameters]
    exact records_pure (List.append_nil _)
  | node :: rest, depth, before => by
    rw [rebuildParameters, mentionsParameters]
    refine records_bind (records_rebuildAt node depth before) fun result => ?_
    refine records_bind (records_declaredParameter before result) fun declared => ?_
    refine records_last (records_rebuildParameters rest depth _) fun others => ?_
    exact records_pure (List.append_cons _ _ _)

theorem records_rebuildOption : ∀ (node : Option Node) (depth : Nat) (before : List Parameter),
    Records before (rebuildOption node depth) (mentionsOption node depth) fun result =>
      before ++ Expr.handlesOption result
  | none, depth, before => by
    rw [rebuildOption, mentionsOption]
    exact records_pure (List.append_nil _)
  | some node, depth, before => by
    rw [rebuildOption, mentionsOption]
    exact records_last (records_rebuildAt node depth before) fun result => records_pure rfl

end

end Node

namespace Rebuild

/-! ### Sessions -/

/-- Rebuilds trees one after the other. The next one starts from where the last one ended, be it
with a failure. Each answer stands beside what its tree mentioned. -/
def session : List Node → Rebuild → List (Result Expr × List Mention) × Rebuild
  | [], start => ([], start)
  | node :: rest, start =>
    let (answer, middle) := node.rebuild.run start
    let (answers, final) := session rest middle
    ((answer, node.mentionsAt 0 start) :: answers, final)

/-- What was mentioned in a session, in order. -/
def mentioned (answers : List (Result Expr × List Mention)) : List Mention :=
  answers.flatMap Prod.snd

/-- The parameters of the results of a session. -/
def resulting (answers : List (Result Expr × List Mention)) : List Parameter :=
  answers.flatMap fun answer =>
    match answer.1 with
    | .ok result => result.parameters
    | .error _ => []

theorem mem_resulting {answers : List (Result Expr × List Mention)} {parameter : Parameter} :
    parameter ∈ resulting answers ↔
      ∃ result mentions, (.ok result, mentions) ∈ answers ∧ parameter ∈ result.parameters := by
  rw [resulting, List.mem_flatMap]
  constructor
  · rintro ⟨⟨result | result, mentions⟩, answered, member⟩
    · cases member
    · exact ⟨result, mentions, answered, member⟩
  · rintro ⟨result, mentions, answered, member⟩
    exact ⟨_, answered, member⟩

theorem exists_of_forall₂ {made handles : List Parameter} {mentions : List Mention}
    {parameter : Parameter} (each : List.Forall₂ (Gets made) handles mentions)
    (member : parameter ∈ handles) : ∃ mention, Gets made parameter mention := by
  induction each with
  | nil => cases member
  | cons got _ inductionHypothesis =>
    rcases List.mem_cons.mp member with rfl | later
    · exact ⟨_, got⟩
    · exact inductionHypothesis later

/-- A session makes the parameters that its trees mention, and the results use those that their
mentions get. -/
theorem records_session (nodes : List Node) {start final : Rebuild}
    {answers : List (Result Expr × List Mention)} (ran : session nodes start = (answers, final)) :
    final.scope = start.scope ∧
      final.parameters = enrolAll start.scope start.parameters (mentioned answers) ∧
      ∀ result mentions, (.ok result, mentions) ∈ answers →
        List.Forall₂ (Gets final.parameters) result.handles mentions := by
  induction nodes generalizing start answers with
  | nil =>
    cases ran
    exact ⟨rfl, rfl, nofun⟩
  | cons node rest inductionHypothesis =>
    rcases rebuilt : node.rebuild.run start with ⟨answer, middle⟩
    rcases others : session rest middle with ⟨later, last⟩
    simp only [session, rebuilt, others] at ran
    cases ran
    obtain ⟨scope, made, used⟩ := (Node.records_rebuildAt node 0 []).run .nil rebuilt
    obtain ⟨lastScope, lastMade, lastUsed⟩ := inductionHypothesis others
    have grows : middle.parameters <+: final.parameters := lastMade ▸ prefix_enrolAll _
    refine ⟨lastScope.trans scope, ?_, fun result mentions member => ?_⟩
    · rw [lastMade, scope, made, ← enrolAll_append]
      rfl
    · rcases List.mem_cons.mp member with same | later
      · cases same
        exact (used _ rfl).imp fun _ _ got => got.grow grows
      · exact lastUsed result mentions later

theorem session_append (nodes more : List Node) (start : Rebuild) :
    (session (nodes ++ more) start).2 = (session more (session nodes start).2).2 := by
  induction nodes generalizing start with
  | nil => rfl
  | cons node rest inductionHypothesis => exact inductionHypothesis _

section

variable {scope : Nat} {made : List Parameter} {mentions : List Mention}
  {parameter other : Parameter} {mention : Mention}

/-- Parameters that mentions get are told apart by their names. -/
theorem Made.sameAs_iff (holds : Made scope made mentions) (member : parameter ∈ made)
    (otherMember : other ∈ made) :
    parameter.sameAs other = true ↔ parameter.names = other.names := by
  obtain ⟨place, placed⟩ := List.mem_iff_getElem?.mp member
  obtain ⟨otherPlace, otherPlaced⟩ := List.mem_iff_getElem?.mp otherMember
  rw [Parameter.sameAs, beq_iff_eq, holds.places placed, holds.places otherPlaced]
  constructor
  · intro same
    cases same
    rw [Option.some.inj (placed.symm.trans otherPlaced)]
  · intro same
    have named : (made.map Parameter.names)[place]? = (made.map Parameter.names)[otherPlace]? := by
      rw [List.getElem?_map, List.getElem?_map, placed, otherPlaced, Option.map_some,
        Option.map_some, same]
    have bound : place < (made.map Parameter.names).length := by
      rw [List.length_map]
      exact (List.getElem?_eq_some_iff.mp placed).1
    rw [(List.getElem?_inj bound holds.distinct).mp named]

theorem Made.length_eq (holds : Made scope made mentions) :
    made.length = (mentions.map Mention.names).toFinset.card := by
  have same : (made.map Parameter.names).toFinset = (mentions.map Mention.names).toFinset := by
    ext names
    rw [List.mem_toFinset, List.mem_toFinset, holds.mentioned]
  rw [← same, List.toFinset_card_of_nodup holds.distinct, List.length_map]

end

/-- Every parameter of a result stands for a mention of its own names. Two parameters of results
are one variable just when they have the same name and their types do, and a parameter is passed
by reference as its names were mentioned first. There are as many parameters as pairs of names
that were mentioned, also by trees that were not rebuilt to the end, and they stay. -/
theorem session_parameters (table : TypeTable) (scope limit : Nat) (nodes more : List Node) :
    let (answers, final) := session nodes (start table scope limit)
    (∀ result mentions, (.ok result, mentions) ∈ answers →
      result.parameters.Perm result.handles ∧
        result.handles.map Parameter.names = mentions.map Mention.names) ∧
    (∀ first ∈ resulting answers, ∀ second ∈ resulting answers,
      first.sameAs second = true ↔
        first.type.canonicalName = second.type.canonicalName ∧ first.name = second.name) ∧
    (∀ parameter ∈ resulting answers,
      ((mentioned answers).find? fun mention => mention.names == parameter.names).map
        Mention.byReference = some parameter.byReference) ∧
    final.parameters.length = ((mentioned answers).map Mention.names).toFinset.card ∧
    final.parameters <+: (session (nodes ++ more) (start table scope limit)).2.parameters := by
  rcases ran : session nodes (start table scope limit) with ⟨answers, final⟩
  obtain ⟨scopeKept, made, used⟩ := records_session nodes ran
  have holds : Made scope final.parameters (mentioned answers) := by
    rw [made]
    exact (made_nil scope).enrolAll (mentioned answers)
  have gets : ∀ parameter ∈ resulting answers,
      ∃ mention, Gets final.parameters parameter mention := by
    intro parameter member
    obtain ⟨result, mentions, answered, inResult⟩ := mem_resulting.mp member
    have handled := result.handles_perm.mem_iff.mpr inResult
    exact exists_of_forall₂ (used result mentions answered) handled
  refine ⟨fun result mentions answered => ⟨result.handles_perm.symm, ?_⟩, ?_, ?_, ?_, ?_⟩
  · rw [← List.forall₂_eq_eq_eq, List.forall₂_map_left_iff, List.forall₂_map_right_iff]
    exact (used result mentions answered).imp fun _ _ got => got.names
  · intro first firstMember second secondMember
    obtain ⟨mention, got⟩ := gets first firstMember
    obtain ⟨otherMention, otherGot⟩ := gets second secondMember
    rw [holds.sameAs_iff (List.mem_of_find?_eq_some got) (List.mem_of_find?_eq_some otherGot)]
    exact Prod.mk_inj
  · intro parameter member
    obtain ⟨mention, got⟩ := gets parameter member
    rw [got.names]
    exact holds.first got
  · exact holds.length_eq
  · rw [session_append, ran]
    rcases further : session more final with ⟨others, last⟩
    rw [(records_session more further).2.1]
    exact prefix_enrolAll _

end Rebuild

end PredicateWire
