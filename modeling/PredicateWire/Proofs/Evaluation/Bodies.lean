/-
This file proves that operators and bodies do not look past what `Alike` keeps: from
values that cannot be told apart they compute values that cannot be told apart, or they
stop for the same reason. A body can look into its arguments in many ways. It compares
them, prints them, counts them, takes items out of them and calls functions among them,
and for each of these ways there is one lemma here.

Numbers, texts and the like are alike only if they are equal, and then the two
computations are the same. What is left are containers, where the relation is passed on
to the items, and functions. A function is never looked into; it is called, by a caller
that is taken to keep the relation (`Caller.Agrees`), and evaluation will later supply
one for each budget.
-/
import PredicateWire.Proofs.Evaluation.Views

namespace PredicateWire

/-! ### Outcomes that agree -/

/-- Two computations stop for the same reason, or yield related results. -/
def Agree {Fault First Second : Type} (related : First → Second → Prop) :
    Except Fault First → Except Fault Second → Prop
  | .ok left, .ok right => related left right
  | .error left, .error right => left = right
  | _, _ => False

namespace Agree

variable {Fault First Second Third Fourth : Type} {related : First → Second → Prop}

theorem of_eq {left right : Except Fault First} (same : left = right) : Agree Eq left right := by
  subst same
  cases left <;> rfl

/-- Computations that agree up to equality are equal. -/
theorem eq {left right : Except Fault First} (agree : Agree Eq left right) : left = right := by
  cases left <;> cases right <;> first | exact congrArg _ agree | cases agree

/-- Two computations in two steps agree if their first steps do, and their second steps do for
related results. -/
theorem bind {following : Third → Fourth → Prop} {left : Except Fault First}
    {right : Except Fault Second} {next : First → Except Fault Third}
    {after : Second → Except Fault Fourth} (agree : Agree related left right)
    (follow : ∀ first second, related first second → Agree following (next first) (after second)) :
    Agree following (left >>= next) (right >>= after) := by
  cases left <;> cases right <;>
    first
      | exact agree
      | exact follow _ _ agree
      | cases agree

/-- Results that agree still do as outcomes of an evaluation. -/
theorem ofResult {left : Result First} {right : Result Second} (agree : Agree related left right) :
    Agree related (Outcome.ofResult left) (Outcome.ofResult right) := by
  cases left <;> cases right <;>
    first
      | exact congrArg Halt.failed agree
      | exact agree

theorem refl (outcome : Except Fault Value) : Agree Value.Alike outcome outcome := by
  cases outcome with
  | ok value => exact Value.alike_refl value
  | error fault => rfl

end Agree

open Value

/-! ### Operators -/

section Operators

variable {left right other another : Value}

/-- Arithmetic needs numbers and texts, and those are alike only if they are equal. -/
theorem BinaryOperator.arithmetic_agree (operator : BinaryOperator) (first : Alike left other)
    (second : Alike right another) :
    operator.arithmetic left right = operator.arithmetic other another := by
  refine Superficial.eq₂ (fun right => ?_) (fun left => ?_) first second
  · constructor <;> intros <;> cases right <;> rfl
  · constructor <;> intros <;> cases left <;> rfl

theorem BinaryOperator.comparison_agree (operator : BinaryOperator) (first : Alike left other)
    (second : Alike right another) :
    operator.comparison left right = operator.comparison other another := by
  unfold BinaryOperator.comparison
  rw [first.isNull_eq, second.isNull_eq, first.compare?_eq second, first.kindName_eq,
    second.kindName_eq]

theorem BinaryOperator.logical_agree (operator : BinaryOperator) (first : Alike left other)
    (second : Alike right another) :
    operator.logical left right = operator.logical other another := by
  refine Superficial.eq₂ (fun right => ?_) (fun left => ?_) first second
  · constructor <;> intros <;> cases right <;> rfl
  · constructor <;> intros <;> cases left <;> rfl

theorem BinaryOperator.itemAt_agree {first second : List Value} (items : AlikeAll first second)
    (index : Int) :
    Agree Alike (BinaryOperator.itemAt first index) (BinaryOperator.itemAt second index) := by
  unfold BinaryOperator.itemAt
  by_cases negative : index < 0
  · rw [if_pos negative, if_pos negative]
    rfl
  · rw [if_neg negative, if_neg negative]
    have found := items.getElem?_alike index.toNat
    generalize first[index.toNat]? = item, second[index.toNat]? = counterpart at found
    cases found with
    | none => rfl
    | some alike => exact alike

theorem BinaryOperator.indexed_agree (first : Alike left other) (second : Alike right another) :
    Agree Alike (BinaryOperator.indexed left right) (BinaryOperator.indexed other another) := by
  cases left with
  | array items =>
    obtain ⟨others, rfl, items⟩ := first
    simp only [BinaryOperator.indexed, second.integer?_eq]
    cases another.integer? with
    | none => rfl
    | some index => exact BinaryOperator.itemAt_agree items index
  | map _ | record _ | function _ =>
    obtain ⟨_, rfl, _⟩ := first
    rfl
  | _ =>
    cases first
    rfl

/-- An operator computes the same from operands that cannot be told apart, up to items of theirs. -/
theorem BinaryOperator.apply_agree (operator : BinaryOperator) (first : Alike left other)
    (second : Alike right another) :
    Agree Alike (operator.apply left right) (operator.apply other another) := by
  cases operator with
  | equal | notEqual =>
    simp only [BinaryOperator.apply, first.looselyEquals_eq second]
    rfl
  | lessThan | lessThanOrEqual | greaterThan | greaterThanOrEqual =>
    simp only [BinaryOperator.apply, BinaryOperator.comparison_agree _ first second]
    exact .refl _
  | andAlso | orElse | and | or | exclusiveOr =>
    simp only [BinaryOperator.apply, BinaryOperator.logical_agree _ first second]
    exact .refl _
  | arrayIndex => exact BinaryOperator.indexed_agree first second
  | coalesce =>
    simp only [BinaryOperator.apply, first.isNull_eq]
    split
    · exact second
    · exact first
  | add | subtract | multiply | divide | modulo =>
    simp only [BinaryOperator.apply, BinaryOperator.arithmetic_agree _ first second]
    exact .refl _

theorem UnaryOperator.apply_agree (operator : UnaryOperator) (alike : Alike left other) :
    Agree Alike (operator.apply left) (operator.apply other) := by
  have same : operator.apply left = operator.apply other := by
    refine Superficial.eq ?_ alike
    constructor <;> intros <;> cases operator <;> rfl
  rw [same]
  exact .refl _

end Operators

/-! ### Arguments of bodies -/

/-- Two ways to call functions get alike values from alike functions and arguments. -/
def Caller.Agrees (left right : Caller) : Prop :=
  ∀ (number : Nat) {first second : Closure} {arguments others : List Value},
    AlikeClosures first second → AlikeAll arguments others →
      Agree Alike (left number first arguments) (right number second others)

namespace Native

variable {first second : List Value} {target source : Option Value} (method : String)

theorem itemsOf_agree (items : AlikeAll first second) :
    Agree AlikeAll (itemsOf method first) (itemsOf method second) := by
  cases first with
  | nil =>
    cases items
    rfl
  | cons item rest =>
    obtain ⟨other, others, rfl, alike, _⟩ := items
    cases item with
    | array items =>
      obtain ⟨others, rfl, alike⟩ := alike
      exact alike
    | map _ | record _ | function _ =>
      obtain ⟨_, rfl, _⟩ := alike
      rfl
    | _ =>
      cases alike
      rfl

theorem predicateOf_agree (arguments : AlikeAll first second) :
    Agree AlikeClosures (predicateOf method first) (predicateOf method second) := by
  match first with
  | [] =>
    cases arguments
    rfl
  | [_] =>
    obtain ⟨_, _, rfl, _, rests⟩ := arguments
    cases rests
    rfl
  | _ :: predicate :: _ =>
    obtain ⟨_, _, rfl, _, _, _, rfl, alike, _⟩ := arguments
    cases predicate with
    | function closure =>
      obtain ⟨other, rfl, closures⟩ := alike
      exact closures
    | array _ | map _ | record _ =>
      obtain ⟨_, rfl, _⟩ := alike
      rfl
    | _ =>
      cases alike
      rfl

theorem textTarget_agree (targets : Option.Rel Alike target source) :
    textTarget method target = textTarget method source := by
  cases targets with
  | none => rfl
  | some alike =>
    unfold textTarget
    rw [Option.bind_some, Option.bind_some, alike.string?_eq]

theorem textArgument_agree (arguments : AlikeAll first second) :
    textArgument method first = textArgument method second := by
  cases first with
  | nil =>
    cases arguments
    rfl
  | cons argument rest =>
    obtain ⟨_, _, rfl, alike, _⟩ := arguments
    unfold textArgument
    rw [List.head?_cons, List.head?_cons, Option.bind_some, Option.bind_some, alike.string?_eq]

/-- The entries of maps that cannot be told apart are alike. -/
theorem entriesOf_agree (targets : Option.Rel Alike target source) :
    Agree AlikePairs (entriesOf method target) (entriesOf method source) := by
  cases targets with
  | none => rfl
  | @some value _ alike =>
    cases value with
    | map entries =>
      obtain ⟨others, rfl, entries⟩ := alike
      exact entries
    | array _ | record _ | function _ =>
      obtain ⟨_, rfl, _⟩ := alike
      rfl
    | _ =>
      cases alike
      rfl

theorem argumentAt_alike (arguments : AlikeAll first second) (position : Nat) :
    Alike (argumentAt first position) (argumentAt second position) := by
  unfold argumentAt
  rw [List.getD_eq_getElem?_getD, List.getD_eq_getElem?_getD]
  have found := arguments.getElem?_alike position
  generalize first[position]? = argument, second[position]? = other at found
  cases found with
  | none => rfl
  | some alike => exact alike

theorem toList_alike (targets : Option.Rel Alike target source) :
    AlikeAll target.toList source.toList := by
  cases targets with
  | none => rfl
  | some alike => exact ⟨_, _, rfl, alike, rfl⟩

/-! ### Results of bodies -/

/-- Whether an item is among others does not depend on what cannot be told apart. -/
theorem containsLoosely_agree {needle wanted : Value} (items : AlikeAll first second)
    (needles : Alike needle wanted) :
    containsLoosely first needle = containsLoosely second wanted := by
  induction first generalizing second with
  | nil =>
    cases items
    rfl
  | cons item rest inductionHypothesis =>
    obtain ⟨_, _, rfl, alike, rests⟩ := items
    show (item.looselyEquals needle || containsLoosely rest needle) = _
    rw [alike.looselyEquals_eq needles, inductionHypothesis rests]
    rfl

/-- Alike predicates find an item among alike items at the same place, or fail at the same place. -/
theorem anyWhere_agree {call other : Caller} (calls : call.Agrees other)
    {predicate counterpart : Closure} (predicates : AlikeClosures predicate counterpart)
    (items : AlikeAll first second) (number : Nat) :
    anyWhere call predicate number first = anyWhere other counterpart number second := by
  induction first generalizing second number with
  | nil =>
    cases items
    rfl
  | cons item rest inductionHypothesis =>
    obtain ⟨_, _, rfl, alike, rests⟩ := items
    refine Agree.eq (Agree.bind (calls number predicates ⟨_, _, rfl, alike, rfl⟩) ?_)
    intro answer another answers
    cases answer with
    | bool found =>
      cases answers
      cases found with
      | true => rfl
      | false => exact .of_eq (inductionHypothesis rests (number + 1))
    | array _ | map _ | record _ | function _ =>
      obtain ⟨_, rfl, _⟩ := answers
      rfl
    | _ =>
      cases answers
      rfl

theorem getLast?_alike (items : AlikeAll first second) :
    Option.Rel Alike first.getLast? second.getLast? := by
  have lengths : first.length = second.length := (alikeAll_iff.mp items).length_eq
  rw [List.getLast?_eq_getElem?, List.getLast?_eq_getElem?, lengths]
  exact items.getElem?_alike _

theorem endOf_alike (which : SequenceEnd) (items : AlikeAll first second) :
    Option.Rel Alike (endOf which first) (endOf which second) := by
  cases which with
  | first =>
    unfold endOf
    rw [List.head?_eq_getElem?, List.head?_eq_getElem?]
    exact items.getElem?_alike 0
  | last => exact getLast?_alike items

theorem counted_agree {left right : Nat} (same : left = right) :
    Agree Alike (counted left) (counted right) := by
  subst same
  unfold counted
  split <;> rfl

theorem insert_alike {fields others : List (String × Value)} (alike : AlikeFields fields others)
    (name : String) {content other : Value} (contents : Alike content other) :
    AlikeFields (Entries.insert name content fields) (Entries.insert name other others) := by
  induction fields generalizing others with
  | nil =>
    cases alike
    exact ⟨_, _, rfl, contents, rfl⟩
  | cons field rest inductionHypothesis =>
    obtain ⟨own, held⟩ := field
    obtain ⟨counterpart, rests, rfl, helds, restsAlike⟩ := alike
    rw [Entries.insert, Entries.insert]
    by_cases same : name = own
    · rw [if_pos same, if_pos same]
      exact ⟨_, _, rfl, contents, restsAlike⟩
    · rw [if_neg same, if_neg same]
      by_cases before : name < own
      · rw [if_pos before, if_pos before]
        exact ⟨_, _, rfl, contents, _, _, rfl, helds, restsAlike⟩
      · rw [if_neg before, if_neg before]
        exact ⟨_, _, rfl, helds, inductionHypothesis restsAlike⟩

theorem names_alike {fields others : List (String × Value)} (alike : AlikeFields fields others) :
    fields.map Prod.fst = others.map Prod.fst := by
  induction fields generalizing others with
  | nil =>
    cases alike
    rfl
  | cons field rest inductionHypothesis =>
    obtain ⟨_, rests, rfl, _, restsAlike⟩ := alike
    rw [List.map_cons, List.map_cons, inductionHypothesis restsAlike]

/-- Assigning alike contents to alike records fails for both or yields alike records. -/
theorem assign_agree (typeName : String) {fields others assigned counterpart : List (String × Value)}
    (alike : AlikeFields fields others) (assignments : AlikeFields assigned counterpart) :
    Agree AlikeFields (assign typeName fields assigned) (assign typeName others counterpart) := by
  induction assigned generalizing fields others counterpart with
  | nil =>
    cases assignments
    exact alike
  | cons assignment rest inductionHypothesis =>
    obtain ⟨name, content⟩ := assignment
    obtain ⟨other, rests, rfl, contents, restsAlike⟩ := assignments
    have declared : (fields.any fun field => field.1 == name) =
        others.any fun field => field.1 == name := by
      show fields.any ((· == name) ∘ Prod.fst) = others.any ((· == name) ∘ Prod.fst)
      rw [← List.any_map, ← List.any_map, names_alike alike]
    rw [assign, assign, declared]
    split
    · exact inductionHypothesis (insert_alike alike name contents) restsAlike
    · rfl

theorem keys_alike {entries others : List (Value × Value)} (alike : AlikePairs entries others) :
    AlikeAll (entries.map Prod.fst) (others.map Prod.fst) := by
  induction entries generalizing others with
  | nil =>
    cases alike
    rfl
  | cons entry rest inductionHypothesis =>
    obtain ⟨_, _, _, rfl, keys, _, restsAlike⟩ := alike
    exact ⟨_, _, rfl, keys, inductionHypothesis restsAlike⟩

theorem zip_alike (names : List String) (contents : AlikeAll first second) :
    AlikeFields (names.zip first) (names.zip second) := by
  induction names generalizing first second with
  | nil => rfl
  | cons name rest inductionHypothesis =>
    cases first with
    | nil =>
      cases contents
      rfl
    | cons content others =>
      obtain ⟨_, _, rfl, alike, rests⟩ := contents
      exact ⟨_, _, rfl, alike, inductionHypothesis rests⟩

theorem append_alike {left right other another : List Value} (first : AlikeAll left other)
    (second : AlikeAll right another) : AlikeAll (left ++ right) (other ++ another) := by
  rw [alikeAll_iff] at first second ⊢
  exact List.rel_append first second

theorem drop_alike (count : Nat) (items : AlikeAll first second) :
    AlikeAll (first.drop count) (second.drop count) := by
  rw [alikeAll_iff] at items ⊢
  exact List.forall₂_drop count items

/-! ### Bodies -/

variable {call other : Caller}

/-- Scripts keep values alike: they yield one of their arguments, a field or what a function
returns. -/
theorem runScript_agree (calls : call.Agrees other) (script : Script)
    (targets : Option.Rel Alike target source) (arguments : AlikeAll first second) :
    Agree Alike (runScript call script target first) (runScript other script source second) := by
  cases script with
  | answer datum => exact alike_refl (Value.ofDatum datum)
  | argument position => exact argumentAt_alike arguments position
  | fail text => rfl
  | field name =>
    cases targets with
    | none => rfl
    | @some value _ alike =>
      cases value with
      | record fields =>
        obtain ⟨others, rfl, fields⟩ := alike
        have found := fields.get?_alike name
        simp only [runScript, Option.bind_some, Value.field?]
        generalize Entries.get? _ name = content, Entries.get? others name = another at found
        cases found with
        | none => rfl
        | some alike => exact alike
      | array _ | map _ | function _ =>
        obtain ⟨_, rfl, _⟩ := alike
        rfl
      | _ =>
        cases alike
        rfl
  | apply position =>
    have found := arguments.getElem?_alike position
    simp only [runScript]
    generalize first[position]? = argument, second[position]? = another at found
    cases found with
    | none => rfl
    | @some value _ alike =>
      cases value with
      | function closure =>
        obtain ⟨_, rfl, closures⟩ := alike
        exact calls 0 closures (drop_alike 1 arguments)
      | array _ | map _ | record _ =>
        obtain ⟨_, rfl, _⟩ := alike
        rfl
      | _ =>
        cases alike
        rfl
  | gather => exact ⟨_, rfl, append_alike (toList_alike targets) arguments⟩

/-- Bodies yield alike values from alike targets and arguments. -/
theorem run_agree (calls : call.Agrees other) (native : Native)
    (targets : Option.Rel Alike target source) (arguments : AlikeAll first second) :
    Agree Alike (native.run call target first) (native.run other source second) := by
  cases native with
  | sequenceContains =>
    refine (itemsOf_agree "Contains" arguments).bind fun items others alike => ?_
    rw [containsLoosely_agree alike (argumentAt_alike arguments 1)]
    rfl
  | sequenceAny =>
    refine (itemsOf_agree "Any" arguments).bind fun items others alike => ?_
    cases items with
    | nil =>
      cases alike
      rfl
    | cons item rest =>
      obtain ⟨_, _, rfl, _⟩ := alike
      rfl
  | sequenceAnyWhere =>
    refine (itemsOf_agree "Any" arguments).bind fun items others alike => ?_
    refine (predicateOf_agree "Any" arguments).bind fun predicate counterpart predicates => ?_
    rw [anyWhere_agree calls predicates alike 0]
    exact Agree.bind (.of_eq rfl) fun found _ same => congrArg Value.bool same.symm
  | sequenceEnd which =>
    refine (itemsOf_agree which.name arguments).bind fun items others alike => ?_
    have found := endOf_alike which alike
    generalize endOf which items = item, endOf which others = another at found
    cases found with
    | none => rfl
    | some alike => exact alike
  | sequenceCount =>
    refine (itemsOf_agree "Count" arguments).bind fun items others alike => ?_
    exact counted_agree (alikeAll_iff.mp alike).length_eq
  | textTest test =>
    simp only [run]
    rw [textTarget_agree test.name targets, textArgument_agree test.name arguments]
    refine .bind (.of_eq rfl) fun text _ same => ?_
    cases same
    refine .bind (.of_eq rfl) fun part _ same => ?_
    cases same
    rfl
  | textCase case =>
    simp only [run]
    rw [textTarget_agree case.name targets]
    refine .bind (.of_eq rfl) fun text _ same => ?_
    cases same
    rfl
  | textLength =>
    simp only [run]
    rw [textTarget_agree "Length" targets]
    refine .bind (.of_eq rfl) fun text _ same => ?_
    exact counted_agree (congrArg String.length same)
  | listContains =>
    refine (itemsOf_agree "Contains" (toList_alike targets)).bind fun items others alike => ?_
    rw [containsLoosely_agree alike (argumentAt_alike arguments 0)]
    rfl
  | listItem =>
    refine (itemsOf_agree "get_Item" (toList_alike targets)).bind fun items others alike => ?_
    have indexes : first.head?.bind Value.integer? = second.head?.bind Value.integer? := by
      cases first with
      | nil =>
        cases arguments
        rfl
      | cons index rest =>
        obtain ⟨_, _, rfl, alike, _⟩ := arguments
        rw [List.head?_cons, List.head?_cons, Option.bind_some, Option.bind_some,
          alike.integer?_eq]
    simp only [indexes]
    cases second.head?.bind Value.integer? with
    | none => rfl
    | some index => exact (BinaryOperator.itemAt_agree alike index).ofResult
  | listCount =>
    refine (itemsOf_agree "Count" (toList_alike targets)).bind fun items others alike => ?_
    exact counted_agree (alikeAll_iff.mp alike).length_eq
  | dictionaryItem =>
    refine (entriesOf_agree "get_Item" targets).bind fun entries others alike => ?_
    have needles := argumentAt_alike arguments 0
    have found := AlikePairs.contentOf?_alike alike needles
    simp only [needles.text_eq]
    generalize (Value.map entries).contentOf? _ = content,
      (Value.map others).contentOf? _ = another at found
    cases found with
    | none => rfl
    | some alike => exact alike
  | dictionaryContainsKey =>
    refine (entriesOf_agree "ContainsKey" targets).bind fun entries others alike => ?_
    rw [containsLoosely_agree (keys_alike alike) (argumentAt_alike arguments 0)]
    rfl
  | dictionaryCount =>
    refine (entriesOf_agree "Count" targets).bind fun entries others alike => ?_
    exact counted_agree (alikePairs_iff.mp alike).length_eq
  | assemble typeName fields names =>
    exact (assign_agree typeName (alikeFields_refl _) (zip_alike names arguments)).bind
      fun assigned others alike => ⟨_, rfl, alike⟩
  | script written => exact runScript_agree calls written targets arguments

end Native

/-! ### Handles -/

section Handles

variable {call other : Caller} (calls : call.Agrees other)

include calls

/-- Methods that agree yield alike values from alike targets and arguments. They check the arguments
for their number and the target for its presence, and both agree in that. -/
theorem Method.invoke_agree {method handle : Method} (agrees : method.Agrees handle)
    {target source : Option Value} (targets : Option.Rel Alike target source)
    {first second : List Value} (arguments : AlikeAll first second) :
    Agree Alike (method.invoke call target first) (handle.invoke other source second) := by
  have lengths : first.length = second.length := (alikeAll_iff.mp arguments).length_eq
  have nulls : (target.getD .null).isNull = (source.getD .null).isNull := by
    cases targets with
    | none => rfl
    | some alike => exact alike.isNull_eq
  unfold Method.invoke
  rw [lengths, agrees.parameters, agrees.signature, agrees.isStatic, agrees.body, nulls]
  split
  · rfl
  · split
    · rfl
    · exact Native.run_agree calls handle.body targets arguments

theorem Constructor.invoke_agree {constructor handle : Constructor}
    (agrees : constructor.Agrees handle) {first second : List Value}
    (arguments : AlikeAll first second) :
    Agree Alike (constructor.invoke call first) (handle.invoke other second) := by
  have lengths : first.length = second.length := (alikeAll_iff.mp arguments).length_eq
  unfold Constructor.invoke
  rw [lengths, agrees.parameters, agrees.signature, agrees.body]
  split
  · rfl
  · exact Native.run_agree calls handle.body .none arguments

/-- Members that agree yield alike values from alike targets, as fields and as properties. -/
theorem Member.read_agree {read handle : Member} (agrees : read.Agrees handle)
    {target source : Value} (targets : Alike target source) :
    Agree Alike (read.read call target) (handle.read other source) := by
  obtain ⟨declaring, name, storage⟩ := agrees
  unfold Member.read
  rw [targets.isNull_eq, declaring, name]
  split
  · rfl
  · revert storage
    cases read.storage <;> cases handle.storage <;> intro storage
    case field.field =>
      cases target with
      | record fields =>
        obtain ⟨others, rfl, fields⟩ := targets
        have found := fields.get?_alike handle.name
        show Alike ((Entries.get? _ _).getD _) ((Entries.get? _ _).getD _)
        generalize Entries.get? _ handle.name = content,
          Entries.get? others handle.name = another at found ⊢
        cases found with
        | none => rfl
        | some alike => exact alike
      | array _ | map _ | function _ =>
        obtain ⟨_, rfl, _⟩ := targets
        rfl
      | _ =>
        cases targets
        rfl
    case property.property =>
      cases storage
      exact Native.run_agree calls _ (.some targets) (show AlikeAll [] [] from rfl)
    all_goals exact storage.elim

end Handles

end PredicateWire
