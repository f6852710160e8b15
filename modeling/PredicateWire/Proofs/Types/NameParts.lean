/-
This file proves that a name that can be taken apart was put together from its parts:
nothing stands between the brackets of a name but the names of the parts and commas. So
a name says everything about the names in it, whatever characters these have.

An invariant of the reader carries the proof. At every point it has read a complete list
of arguments with their commas, an argument too much by a comma, or a list with one more
argument begun (`TypeName.ArgumentState.Has`), and each character extends the text
accordingly. At the end of the list only the second is left. Searches use the result for
their measure: the names of the parts are shorter than the name.
-/
import PredicateWire.Proofs.Types.NameText

namespace PredicateWire

namespace TypeName

/-! ### Argument lists -/

/-- Complete arguments, last one first, as they have been read: each with a comma behind it. -/
def listed (complete : List (List Char)) : List Char :=
  complete.reverse.flatMap fun argument => bracketed argument ++ [',']

/-- An argument more is one more in brackets, with a comma behind it. -/
theorem listed_cons (argument : List Char) (complete : List (List Char)) :
    listed (argument :: complete) = listed complete ++ (bracketed argument ++ [',']) := by
  rw [listed, List.reverse_cons, List.flatMap_append, List.flatMap_singleton]
  rfl

/-- The text that has been read of an argument list: up to a comma, up to the end of an argument, or
up to somewhere inside an argument. -/
inductive ArgumentState.Has : ArgumentState → List Char → Prop
  | before {current : List Char} {complete : List (List Char)} :
    Has ⟨0, current, false, complete⟩ (listed complete)
  | behind {current : List Char} {complete : List (List Char)} {text : List Char}
    (ends : text ++ [','] = listed complete) : Has ⟨0, current, true, complete⟩ text
  | inside {depth : Nat} {current : List Char} {complete : List (List Char)} :
    Has ⟨depth + 1, current, false, complete⟩ (listed complete ++ '[' :: current.reverse)

/-- One character further has one character more. -/
theorem ArgumentState.Has.step {state next : ArgumentState} {character : Char} {text : List Char}
    (has : state.Has text) (stepped : state.step character = some next) :
    next.Has (text ++ [character]) := by
  cases has with
  | @before current complete =>
    by_cases opening : character = '['
    · subst opening
      cases stepped
      exact .inside
    · simp [ArgumentState.step, opening] at stepped
  | @behind current complete text ends =>
    by_cases comma : character = ','
    · subst comma
      cases stepped
      rw [ends]
      exact .before
    · simp [ArgumentState.step, comma] at stepped
  | @inside depth current complete =>
    have further : ∀ deeper : Nat,
        (ArgumentState.mk (deeper + 1) (character :: current) false complete).Has
          (listed complete ++ '[' :: current.reverse ++ [character]) := by
      intro deeper
      have inner : (ArgumentState.mk (deeper + 1) (character :: current) false complete).Has
        (listed complete ++ '[' :: (character :: current).reverse) := .inside
      rwa [List.reverse_cons, ← List.cons_append, ← List.append_assoc] at inner
    unfold ArgumentState.step at stepped
    dsimp only at stepped
    split at stepped
    · rw [if_neg (Nat.succ_ne_zero depth)] at stepped
      cases stepped
      exact further (depth + 1)
    · split at stepped
      · rename_i closing
        subst closing
        cases depth with
        | zero =>
          dsimp only at stepped
          split at stepped <;> cases stepped
          refine .behind ?_
          rw [listed_cons, bracketed]
          simp
        | succ outer =>
          cases stepped
          exact further outer
      · rw [if_neg (Nat.succ_ne_zero depth)] at stepped
        cases stepped
        exact further depth

theorem ArgumentState.Has.run {state final : ArgumentState} {characters text : List Char}
    (has : state.Has text) (run : state.run characters = some final) :
    final.Has (text ++ characters) := by
  induction characters generalizing state text with
  | nil =>
    cases run
    rwa [List.append_nil]
  | cons character rest inductionHypothesis =>
    unfold ArgumentState.run at run
    split at run
    · rename_i next stepped
      rw [List.append_cons]
      exact inductionHypothesis (has.step stepped) run
    · cases run

/-- Arguments with commas behind them are arguments with commas between them, and one more comma. -/
theorem listed_reverse {arguments : List (List Char)} (present : arguments ≠ []) :
    listed arguments.reverse = [','].intercalate (arguments.map bracketed) ++ [','] := by
  rw [listed, List.reverse_reverse]
  induction arguments with
  | nil => exact absurd rfl present
  | cons first rest inductionHypothesis =>
    cases rest with
    | nil => simp
    | cons second others =>
      rw [List.flatMap_cons, inductionHypothesis (List.cons_ne_nil _ _), ← List.append_assoc]
      simp only [List.map_cons, List.intercalate_cons_cons]

/-- What is split into arguments is these arguments with commas between them. -/
theorem list_of_splitArguments {characters : List Char} {arguments : List (List Char)}
    (divided : splitArguments characters = some arguments) :
    arguments ≠ [] ∧ characters = [','].intercalate (arguments.map bracketed) := by
  unfold splitArguments at divided
  split at divided
  · rename_i final run
    have start : ArgumentState.Has ⟨0, [], false, []⟩ [] := .before
    have has := start.run run
    split at divided
    · rename_i ended
      cases divided
      cases has with
      | before => cases ended
      | inside => cases ended
      | @behind current complete text ends =>
        have present : complete.reverse ≠ [] := by
          intro empty
          rw [List.reverse_eq_nil_iff.mp empty] at ends
          exact List.append_ne_nil_of_right_ne_nil _ (List.cons_ne_nil _ _) ends
        refine ⟨present, ?_⟩
        rw [← List.reverse_reverse complete, listed_reverse present] at ends
        exact List.append_cancel_right ends
    · cases divided
  · cases divided

/-! ### Names -/

theorem bracketed_of_unbracket? {characters inner : List Char}
    (enclosed : unbracket? characters = some inner) : characters = bracketed inner := by
  unfold unbracket? at enclosed
  split at enclosed
  · split at enclosed
    · rename_i rest inner reversed
      cases enclosed
      rw [bracketed, ← List.reverse_cons, ← reversed, List.reverse_reverse]
    · cases enclosed
  · cases enclosed

/-- A name that ends in brackets is what stands before them with brackets behind it. -/
theorem name_of_arrayElement? {name : String} {element : List Char}
    (stripped : arrayElement? name.toList = some element) :
    name = String.ofList element ++ "[]" := by
  unfold arrayElement? at stripped
  split at stripped
  · rename_i rest reversed
    cases stripped
    rw [← String.toList_inj, String.toList_append, String.toList_ofList]
    rw [← List.reverse_inj, reversed, List.reverse_append, List.reverse_reverse]
    rfl
  · cases stripped

end TypeName

end PredicateWire
