/-
This file proves that values that cannot be told apart look the same: they are of one
kind, have one text, are equal to the same values and ordered in the same way. Alike
values differ at most inside functions, in the bodies and bindings that these carry. No
operation looks at those except by calling the function, so whatever else an operation
asks a value about has the same answer for both.

Many operations only ask for the outermost form of a value. They are `Superficial`, and
for them one lemma is enough, with no cases of their own. Texts, the two equalities and
the order go down into values and are proved by recursion along with the values. Maps
are searched by equality, and so alike keys find alike contents.
-/
import PredicateWire.Proofs.Entries
import PredicateWire.Proofs.Evaluation.Alike
import PredicateWire.Proofs.Value.Equality

namespace PredicateWire

namespace Value

variable {left right other another : Value}

/-! ### What kind of value it is -/

/-- A view of values that tells collections and functions from other values, but does not look into
them. -/
structure Superficial {View : Type} (view : Value → View) : Prop where
  arrays : ∀ items others, view (array items) = view (array others)
  maps : ∀ entries others, view (map entries) = view (map others)
  records : ∀ fields others, view (record fields) = view (record others)
  functions : ∀ closure origin, view (function closure) = view (function origin)

/-- Values that cannot be told apart look the same from outside: they are equal, or both are
collections or both functions, and then the view does not tell which. -/
theorem Superficial.eq {View : Type} {view : Value → View} (superficial : Superficial view)
    (alike : Alike left other) : view left = view other := by
  cases left with
  | array items =>
    obtain ⟨others, rfl, _⟩ := alike
    exact superficial.arrays items others
  | map entries =>
    obtain ⟨others, rfl, _⟩ := alike
    exact superficial.maps entries others
  | record fields =>
    obtain ⟨others, rfl, _⟩ := alike
    exact superficial.records fields others
  | function closure =>
    obtain ⟨origin, rfl, _⟩ := alike
    exact superficial.functions closure origin
  | _ => rw [show other = _ from alike]

/-- So do two of them, if neither is looked into. Each argument is changed by itself, with the other
one held fixed. -/
theorem Superficial.eq₂ {View : Type} {view : Value → Value → View}
    (lefts : ∀ right, Superficial fun left => view left right)
    (rights : ∀ left, Superficial (view left)) (first : Alike left other)
    (second : Alike right another) : view left right = view other another :=
  ((lefts right).eq first).trans ((rights other).eq second)

theorem Alike.kindName_eq (alike : Alike left other) : left.kindName = other.kindName :=
  Superficial.eq ⟨fun _ _ => rfl, fun _ _ => rfl, fun _ _ => rfl, fun _ _ => rfl⟩ alike

theorem Alike.isNull_eq (alike : Alike left other) : left.isNull = other.isNull :=
  Superficial.eq ⟨fun _ _ => rfl, fun _ _ => rfl, fun _ _ => rfl, fun _ _ => rfl⟩ alike

theorem Alike.integer?_eq (alike : Alike left other) : left.integer? = other.integer? :=
  Superficial.eq ⟨fun _ _ => rfl, fun _ _ => rfl, fun _ _ => rfl, fun _ _ => rfl⟩ alike

theorem Alike.string?_eq (alike : Alike left other) : left.string? = other.string? :=
  Superficial.eq ⟨fun _ _ => rfl, fun _ _ => rfl, fun _ _ => rfl, fun _ _ => rfl⟩ alike

/-! ### Functions -/

theorem AlikeBindings.length_eq {first second : Bindings} (alike : AlikeBindings first second) :
    first.length = second.length := by
  induction first generalizing second with
  | nil => rw [show second = [] from alike]
  | cons binding rest inductionHypothesis =>
    obtain ⟨parameter, content, others, rfl, _, rests⟩ := alike
    rw [List.length_cons, List.length_cons, inductionHypothesis rests]

/-- Alike functions come from the same place of the tree. -/
theorem AlikeClosures.origin_eq {first second : Closure} (alike : AlikeClosures first second) :
    first.origin = second.origin := by
  cases first with
  | mk origin parameters body bindings limit =>
    rw [AlikeClosures] at alike
    obtain ⟨_, _, _, rfl, _⟩ := alike
    rfl

theorem AlikeClosures.text_eq {first second : Closure} (alike : AlikeClosures first second) :
    first.text = second.text := by
  cases first with
  | mk origin parameters body bindings limit =>
    rw [AlikeClosures] at alike
    obtain ⟨others, inner, outer, rfl, lengths, bound, _⟩ := alike
    unfold Closure.text Closure.arity Closure.parameters Closure.bindings
    rw [lengths, bound.length_eq]

/-! ### Texts -/

mutual

/-- Alike values have one text: that of a function says how many arguments it takes and how many
bindings it carries, and nothing about its body. -/
theorem Alike.text_eq : ∀ {left other : Value}, Alike left other → left.text = other.text
  | .array items, _, alike => by
    obtain ⟨others, rfl, items⟩ := alike
    rw [text, text, items.texts_eq]
  | .map entries, _, alike => by
    obtain ⟨others, rfl, entries⟩ := alike
    rw [text, text, entries.pairTexts_eq]
  | .record fields, _, alike => by
    obtain ⟨others, rfl, fields⟩ := alike
    rw [text, text, fields.fieldTexts_eq]
  | .function closure, _, alike => by
    obtain ⟨other, rfl, closures⟩ := alike
    rw [text, text, AlikeClosures.text_eq closures]
  | .null, _, alike | .bool _, _, alike | .int32 _, _, alike | .int64 _, _, alike
  | .double _, _, alike | .char _, _, alike | .string _, _, alike => by
    cases alike
    rfl

theorem AlikeAll.texts_eq : ∀ {left other : List Value}, AlikeAll left other →
    texts left = texts other
  | [], _, alike => by
    cases alike
    rfl
  | value :: rest, _, alike => by
    obtain ⟨other, others, rfl, alike, rests⟩ := alike
    rw [texts, texts, alike.text_eq, rests.texts_eq]

theorem AlikePairs.pairTexts_eq : ∀ {left other : List (Value × Value)}, AlikePairs left other →
    pairTexts left = pairTexts other
  | [], _, alike => by
    cases alike
    rfl
  | (key, content) :: rest, _, alike => by
    obtain ⟨otherKey, other, others, rfl, keys, contents, rests⟩ := alike
    rw [pairTexts, pairTexts, keys.text_eq, contents.text_eq, rests.pairTexts_eq]

theorem AlikeFields.fieldTexts_eq : ∀ {left other : List (String × Value)},
    AlikeFields left other → fieldTexts left = fieldTexts other
  | [], _, alike => by
    cases alike
    rfl
  | (name, content) :: rest, _, alike => by
    obtain ⟨other, others, rfl, contents, rests⟩ := alike
    rw [fieldTexts, fieldTexts, contents.text_eq, rests.fieldTexts_eq]

end

/-! ### Equality -/

/-- Values of different kinds are compared without looking into them. -/
theorem Alike.equals_eq_of_kindName_ne (first : Alike left other) (second : Alike right another)
    (different : left.kindName ≠ right.kindName) : left.equals right = other.equals another := by
  rw [equals_of_kindName_ne different, equals_of_kindName_ne]
  rwa [← first.kindName_eq, ← second.kindName_eq]

mutual

theorem Alike.equals_eq : ∀ {left other right another : Value}, Alike left other →
    Alike right another → left.equals right = other.equals another
  | .array items, _, right, _, first, second => by
    cases right with
    | array rights =>
      obtain ⟨others, rfl, items⟩ := first
      obtain ⟨others, rfl, rights⟩ := second
      rw [equals, equals, items.equalsAll_eq rights]
    | _ => exact first.equals_eq_of_kindName_ne second (by simp [kindName])
  | .map entries, _, right, _, first, second => by
    cases right with
    | map rights =>
      obtain ⟨others, rfl, entries⟩ := first
      obtain ⟨others, rfl, rights⟩ := second
      rw [equals, equals, entries.equalsPairs_eq rights]
    | _ => exact first.equals_eq_of_kindName_ne second (by simp [kindName])
  | .record fields, _, right, _, first, second => by
    cases right with
    | record rights =>
      obtain ⟨others, rfl, fields⟩ := first
      obtain ⟨others, rfl, rights⟩ := second
      rw [equals, equals, fields.equalsFields_eq rights]
    | _ => exact first.equals_eq_of_kindName_ne second (by simp [kindName])
  | .function closure, _, right, _, first, second => by
    cases right with
    | function other =>
      obtain ⟨_, rfl, closures⟩ := first
      obtain ⟨_, rfl, rights⟩ := second
      rw [equals, equals, AlikeClosures.origin_eq closures, AlikeClosures.origin_eq rights]
    | _ => exact first.equals_eq_of_kindName_ne second (by simp [kindName])
  | .null, _, right, _, first, second | .bool _, _, right, _, first, second
  | .int32 _, _, right, _, first, second | .int64 _, _, right, _, first, second
  | .double _, _, right, _, first, second | .char _, _, right, _, first, second
  | .string _, _, right, _, first, second => by
    cases first
    cases right with
    | array _ | map _ | record _ | function _ =>
      exact Alike.equals_eq_of_kindName_ne rfl second (by simp [kindName])
    | _ =>
      cases second
      rfl

theorem AlikeAll.equalsAll_eq : ∀ {left other right another : List Value}, AlikeAll left other →
    AlikeAll right another → equalsAll left right = equalsAll other another
  | [], _, right, _, first, second => by
    cases first
    cases right with
    | nil =>
      cases second
      rfl
    | cons value rest =>
      obtain ⟨_, _, rfl, _⟩ := second
      simp only [equalsAll]
  | value :: rest, _, right, _, first, second => by
    obtain ⟨_, _, rfl, alike, rests⟩ := first
    cases right with
    | nil =>
      cases second
      simp only [equalsAll]
    | cons value rest =>
      obtain ⟨_, _, rfl, rightAlike, rightRests⟩ := second
      rw [equalsAll, equalsAll, alike.equals_eq rightAlike, rests.equalsAll_eq rightRests]

theorem AlikePairs.equalsPairs_eq : ∀ {left other right another : List (Value × Value)},
    AlikePairs left other → AlikePairs right another →
      equalsPairs left right = equalsPairs other another
  | [], _, right, _, first, second => by
    cases first
    cases right with
    | nil =>
      cases second
      rfl
    | cons entry rest =>
      obtain ⟨_, _, _, rfl, _⟩ := second
      simp only [equalsPairs]
  | (key, content) :: rest, _, right, _, first, second => by
    obtain ⟨_, _, _, rfl, keys, contents, rests⟩ := first
    cases right with
    | nil =>
      cases second
      simp only [equalsPairs]
    | cons entry rest =>
      obtain ⟨_, _, _, rfl, rightKeys, rightContents, rightRests⟩ := second
      rw [equalsPairs, equalsPairs, keys.equals_eq rightKeys, contents.equals_eq rightContents,
        rests.equalsPairs_eq rightRests]

theorem AlikeFields.equalsFields_eq : ∀ {left other right another : List (String × Value)},
    AlikeFields left other → AlikeFields right another →
      equalsFields left right = equalsFields other another
  | [], _, right, _, first, second => by
    cases first
    cases right with
    | nil =>
      cases second
      rfl
    | cons field rest =>
      obtain ⟨_, _, rfl, _⟩ := second
      simp only [equalsFields]
  | (name, content) :: rest, _, right, _, first, second => by
    obtain ⟨_, _, rfl, contents, rests⟩ := first
    cases right with
    | nil =>
      cases second
      simp only [equalsFields]
    | cons field rest =>
      obtain ⟨_, _, rfl, rightContents, rightRests⟩ := second
      rw [equalsFields, equalsFields, contents.equals_eq rightContents,
        rests.equalsFields_eq rightRests]

end

/-! ### Equality of numbers by what they stand for -/

mutual

/-- The same of the equality that compares numbers by what they stand for. -/
theorem Alike.looselyEquals_eq : ∀ {left other right another : Value}, Alike left other →
    Alike right another → left.looselyEquals right = other.looselyEquals another
  | .array items, _, right, _, first, second => by
    cases right with
    | array rights =>
      obtain ⟨others, rfl, items⟩ := first
      obtain ⟨others, rfl, rights⟩ := second
      rw [looselyEquals, looselyEquals, items.looselyEqualsAll_eq rights]
    | map _ | record _ | function _ =>
      have equal := first.equals_eq second
      obtain ⟨others, rfl, _⟩ := first
      obtain ⟨others, rfl, _⟩ := second
      simpa only [looselyEquals] using equal
    | _ =>
      have equal := first.equals_eq second
      obtain ⟨others, rfl, _⟩ := first
      cases second
      first
        | simpa only [looselyEquals] using equal
        | simp only [looselyEquals, double?]
  | .map _, _, right, _, first, second | .record _, _, right, _, first, second
  | .function _, _, right, _, first, second => by
    have equal := first.equals_eq second
    obtain ⟨others, rfl, _⟩ := first
    cases right with
    | array _ | map _ | record _ | function _ =>
      obtain ⟨others, rfl, _⟩ := second
      simpa only [looselyEquals] using equal
    | _ =>
      cases second
      first
        | simpa only [looselyEquals] using equal
        | simp only [looselyEquals, double?]
  | .null, _, right, _, first, second | .bool _, _, right, _, first, second
  | .int32 _, _, right, _, first, second | .int64 _, _, right, _, first, second
  | .double _, _, right, _, first, second | .char _, _, right, _, first, second
  | .string _, _, right, _, first, second => by
    have equal := first.equals_eq second
    cases first
    cases right with
    | array _ | map _ | record _ | function _ =>
      obtain ⟨others, rfl, _⟩ := second
      first
        | simpa only [looselyEquals] using equal
        | simp only [looselyEquals, double?]
    | _ =>
      cases second
      rfl

theorem AlikeAll.looselyEqualsAll_eq : ∀ {left other right another : List Value},
    AlikeAll left other → AlikeAll right another →
      looselyEqualsAll left right = looselyEqualsAll other another
  | [], _, right, _, first, second => by
    cases first
    cases right with
    | nil =>
      cases second
      rfl
    | cons value rest =>
      obtain ⟨_, _, rfl, _⟩ := second
      simp only [looselyEqualsAll]
  | value :: rest, _, right, _, first, second => by
    obtain ⟨_, _, rfl, alike, rests⟩ := first
    cases right with
    | nil =>
      cases second
      simp only [looselyEqualsAll]
    | cons value rest =>
      obtain ⟨_, _, rfl, rightAlike, rightRests⟩ := second
      rw [looselyEqualsAll, looselyEqualsAll, alike.looselyEquals_eq rightAlike,
        rests.looselyEqualsAll_eq rightRests]

end

/-- An alike key finds alike content in an alike map. -/
theorem AlikePairs.contentOf?_alike {first second : List (Value × Value)} {key wanted : Value}
    (entries : AlikePairs first second) (keys : Alike key wanted) :
    Option.Rel Alike ((map first).contentOf? key) ((map second).contentOf? wanted) := by
  induction first generalizing second with
  | nil =>
    cases entries
    exact .none
  | cons entry rest inductionHypothesis =>
    obtain ⟨own, content⟩ := entry
    obtain ⟨otherOwn, other, others, rfl, owns, contents, rests⟩ := entries
    simp only [contentOf?] at inductionHypothesis ⊢
    rw [List.find?_cons, List.find?_cons, ← owns.looselyEquals_eq keys]
    cases own.looselyEquals key with
    | true => exact .some contents
    | false => exact inductionHypothesis rests

/-! ### Order -/

/-- Alike values stand in one order to others, and there is none for the same values. -/
theorem Alike.compare?_eq (first : Alike left other) (second : Alike right another) :
    left.compare? right = other.compare? another := by
  refine Superficial.eq₂ (fun right => ?_) (fun left => ?_) first second
  · constructor <;> intros <;> cases right <;> rfl
  · constructor <;> intros <;> cases left <;> rfl

/-! ### Items and fields -/

/-- Alike lists hold alike items at every place. -/
theorem AlikeAll.getElem?_alike {first second : List Value} (items : AlikeAll first second)
    (place : Nat) : Option.Rel Alike first[place]? second[place]? := by
  induction first generalizing second place with
  | nil =>
    cases items
    exact .none
  | cons item rest inductionHypothesis =>
    obtain ⟨other, others, rfl, alike, rests⟩ := items
    cases place with
    | zero => exact .some alike
    | succ place => exact inductionHypothesis rests place

/-- Alike records have alike contents under every name. -/
theorem AlikeFields.get?_alike {first second : List (String × Value)}
    (fields : AlikeFields first second) (name : String) :
    Option.Rel Alike (Entries.get? first name) (Entries.get? second name) := by
  induction first generalizing second with
  | nil =>
    cases fields
    exact .none
  | cons field rest inductionHypothesis =>
    obtain ⟨own, content⟩ := field
    obtain ⟨other, others, rfl, contents, rests⟩ := fields
    rw [Entries.get?_cons, Entries.get?_cons]
    split
    · exact .some contents
    · exact inductionHypothesis rests

end Value

end PredicateWire
