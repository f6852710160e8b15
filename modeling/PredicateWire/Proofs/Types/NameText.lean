/-
This file proves that names are taken apart as they were put together: plain names stay
whole, the name of an array gives its element's name, and the name of an instance its
base and the names of its arguments. An argument may be any text whose brackets are
balanced, because the list of arguments is read by counting brackets.

To be balanced is defined by what the reader does, from every state inside an argument,
and not by a count. In this form it is immediate that texts can be put one after another
and into brackets, and the names of types are built in no other way. That the definition
agrees with matching brackets is left to the grammar of names.
-/
import Mathlib.Data.List.Basic
import Mathlib.Data.List.TakeWhile
import PredicateWire.Types.Name

namespace PredicateWire

namespace TypeName

/-! ### Balanced text -/

/-- Text that, inside an argument, is read as part of it and leaves as many brackets open. -/
def Balanced (text : List Char) : Prop :=
  ∀ (state : ArgumentState) (rest : List Char), state.depth ≠ 0 →
    state.run (text ++ rest) =
      ArgumentState.run { state with current := text.reverse ++ state.current } rest

/-- The reader goes on from the state that the first character leads to. -/
theorem run_cons {state next : ArgumentState} {character : Char} {rest : List Char}
    (stepped : state.step character = some next) :
    state.run (character :: rest) = next.run rest := by
  rw [ArgumentState.run, stepped]

theorem balanced_nil : Balanced [] :=
  fun _ _ _ => rfl

theorem balanced_append {first second : List Char} (firstBalanced : Balanced first)
    (secondBalanced : Balanced second) : Balanced (first ++ second) := by
  intro state rest inside
  rw [List.append_assoc, firstBalanced state _ inside, List.reverse_append, List.append_assoc]
  exact secondBalanced _ rest inside

/-- A character that is no bracket is read as part of an argument. -/
theorem balanced_singleton {character : Char} (notOpening : character ≠ '[')
    (notClosing : character ≠ ']') : Balanced [character] := by
  intro state rest inside
  refine run_cons ?_
  unfold ArgumentState.step
  rw [if_neg notOpening, if_neg notClosing, if_neg inside]
  rfl

/-- Balanced text in brackets. -/
def bracketed (text : List Char) : List Char :=
  '[' :: (text ++ [']'])

theorem balanced_bracketed {text : List Char} (balanced : Balanced text) :
    Balanced (bracketed text) := by
  intro state rest inside
  obtain ⟨depth, current, needsComma, complete⟩ := state
  have opened : (ArgumentState.mk depth current needsComma complete).step '[' =
      some ⟨depth + 1, '[' :: current, needsComma, complete⟩ := by
    rw [ArgumentState.step, if_pos rfl, if_neg inside]
  obtain ⟨outer, rfl⟩ := Nat.exists_eq_succ_of_ne_zero inside
  have closed : (ArgumentState.mk (outer + 2) (text.reverse ++ '[' :: current) needsComma
        complete).step ']' =
      some ⟨outer + 1, ']' :: (text.reverse ++ '[' :: current), needsComma, complete⟩ := rfl
  rw [bracketed, List.cons_append, run_cons opened, List.append_assoc,
    balanced _ _ (Nat.succ_ne_zero _), List.singleton_append, run_cons closed]
  simp

theorem balanced_of_forall {text : List Char} (plain : ∀ character ∈ text,
    character ≠ '[' ∧ character ≠ ']') : Balanced text := by
  induction text with
  | nil => exact balanced_nil
  | cons character rest inductionHypothesis =>
    rw [List.forall_mem_cons] at plain
    exact balanced_append (balanced_singleton plain.1.1 plain.1.2) (inductionHypothesis plain.2)

theorem balanced_of_unreserved {text : List Char}
    (unreserved : ∀ character ∈ text, isReserved character = false) : Balanced text := by
  refine balanced_of_forall fun character member => ?_
  have plain := unreserved character member
  simp only [isReserved, Bool.or_eq_false_iff, beq_eq_false_iff_ne] at plain
  exact plain.1

/-- Several balanced texts in brackets are balanced together with the commas between them. -/
theorem balanced_list {arguments : List (List Char)}
    (balanced : ∀ argument ∈ arguments, Balanced argument) :
    Balanced ([','].intercalate (arguments.map bracketed)) := by
  induction arguments with
  | nil => exact balanced_nil
  | cons first rest inductionHypothesis =>
    rw [List.forall_mem_cons] at balanced
    cases rest with
    | nil => simpa using balanced_bracketed balanced.1
    | cons second rest =>
      rw [List.map_cons, List.map_cons, List.intercalate_cons_cons]
      exact balanced_append (balanced_append (balanced_bracketed balanced.1)
        (balanced_singleton (by decide) (by decide))) (inductionHypothesis balanced.2)

/-! ### Argument lists -/

/-- Text in brackets is one more argument. -/
theorem run_bracketed {text : List Char} (balanced : Balanced text) (some : text ≠ [])
    (current : List Char) (complete : List (List Char)) (rest : List Char) :
    ArgumentState.run ⟨0, current, false, complete⟩ (bracketed text ++ rest) =
      ArgumentState.run ⟨0, [], true, text :: complete⟩ rest := by
  have closed : (ArgumentState.mk 1 text.reverse false complete).step ']' =
      .some ⟨0, [], true, text :: complete⟩ := by
    have filled : text.reverse.isEmpty = false := by
      rw [List.isEmpty_reverse, List.isEmpty_eq_false_iff]
      exact some
    simp [ArgumentState.step, filled]
  have opened : (ArgumentState.mk 0 current false complete).step '[' =
      .some ⟨1, [], false, complete⟩ := rfl
  rw [bracketed, List.cons_append, run_cons opened, List.append_assoc, balanced _ _ Nat.one_ne_zero]
  dsimp only
  rw [List.append_nil, List.singleton_append, run_cons closed]

/-- Arguments with commas between them are read one by one. -/
theorem run_arguments {first : List Char} {others : List (List Char)}
    (balanced : ∀ argument ∈ first :: others, Balanced argument ∧ argument ≠ [])
    (current : List Char) (complete : List (List Char)) :
    ArgumentState.run ⟨0, current, false, complete⟩
        ([','].intercalate ((first :: others).map bracketed)) =
      some ⟨0, [], true, (first :: others).reverse ++ complete⟩ := by
  induction others generalizing first current complete with
  | nil =>
    rw [List.forall_mem_singleton] at balanced
    have single := run_bracketed balanced.1 balanced.2 current complete []
    rw [List.append_nil] at single
    rw [List.map_singleton, List.intercalate_singleton]
    exact single
  | cons second rest inductionHypothesis =>
    rw [List.forall_mem_cons] at balanced
    have separated : (ArgumentState.mk 0 [] true (first :: complete)).step ',' =
        some ⟨0, [], false, first :: complete⟩ := rfl
    rw [List.map_cons, List.map_cons, List.intercalate_cons_cons, List.append_assoc,
      run_bracketed balanced.1.1 balanced.1.2, List.singleton_append, run_cons separated]
    rw [← List.map_cons, inductionHypothesis balanced.2, List.reverse_cons (a := first)]
    simp

/-- A list of balanced arguments is split into these. -/
theorem splitArguments_list {arguments : List (List Char)} (present : arguments ≠ [])
    (balanced : ∀ argument ∈ arguments, Balanced argument ∧ argument ≠ []) :
    splitArguments ([','].intercalate (arguments.map bracketed)) = some arguments := by
  cases arguments with
  | nil => exact absurd rfl present
  | cons first others =>
    rw [splitArguments, run_arguments balanced]
    simp

/-! ### Names -/

theorem parse_of_ofCharacters {name : String} {parsed : TypeName}
    (read : ofCharacters name.toList = .ok parsed) : parse name = .ok parsed := by
  rw [parse, read]

/-- A name that cannot be taken apart is malformed. -/
theorem malformed_of_parse {name : String} {error : Error} (refused : parse name = .error error) :
    ∃ fault, error = .malformedName name fault := by
  unfold parse at refused
  split at refused
  · cases refused
  · cases refused
    exact ⟨_, rfl⟩

theorem arrayElement?_brackets (element : String) :
    arrayElement? (element ++ "[]").toList = some element.toList := by
  rw [String.toList_append, arrayElement?, List.reverse_append]
  show some element.toList.reverse.reverse = _
  rw [List.reverse_reverse]

/-- A text that does not end with a closing bracket is not the name of an array. -/
theorem arrayElement?_eq_none {characters : List Char}
    (unclosed : characters.getLast? ≠ some ']') : arrayElement? characters = none := by
  unfold arrayElement?
  split
  · rename_i rest reversed
    refine absurd ?_ unclosed
    rw [← List.head?_reverse, reversed, List.head?_cons]
  · rfl

/-- A text without brackets and commas is not the name of an array. -/
theorem arrayElement?_plain {characters : List Char}
    (unreserved : ∀ character ∈ characters, isReserved character = false) :
    arrayElement? characters = none :=
  arrayElement?_eq_none fun last => nomatch unreserved ']' (List.mem_of_getLast? last)

/-- A name without brackets, commas and backticks is plain. -/
theorem parse_plain {name : String} (present : name ≠ "")
    (plain : ∀ character ∈ name.toList, isReserved character = false ∧ character ≠ '\x60') :
    parse name = .ok (.plain name) := by
  refine parse_of_ofCharacters ?_
  have notEmpty : name.toList.isEmpty = false := by
    rw [List.isEmpty_eq_false_iff]
    exact fun empty => present (String.toList_eq_nil_iff.mp empty)
  have notArray := arrayElement?_plain fun character member => (plain character member).1
  have noTick : name.toList.dropWhile (· != '\x60') = [] :=
    List.dropWhile_eq_nil_iff.mpr fun character member => bne_iff_ne.mpr (plain character member).2
  have unreserved : name.toList.any isReserved = false := by
    rw [List.any_eq_false]
    intro character member
    rw [(plain character member).1]
    exact Bool.false_ne_true
  rw [ofCharacters, notEmpty, if_neg Bool.false_ne_true, notArray]
  dsimp only
  rw [noTick, unreserved]
  dsimp only
  rw [if_neg Bool.false_ne_true, String.ofList_toList]

/-- A name with brackets behind it is the name of an array. -/
theorem parse_array {element : String} (present : element ≠ "") :
    parse (element ++ "[]") = .ok (.array element) := by
  refine parse_of_ofCharacters ?_
  have notEmpty : element.toList.isEmpty = false := by
    rw [List.isEmpty_eq_false_iff]
    exact fun empty => present (String.toList_eq_nil_iff.mp empty)
  have filled : (element ++ "[]").toList.isEmpty = false := by
    rw [String.toList_append]
    exact List.isEmpty_eq_false_iff.mpr (List.append_ne_nil_of_right_ne_nil _ (by decide))
  rw [ofCharacters, filled, if_neg Bool.false_ne_true, arrayElement?_brackets]
  dsimp only
  rw [notEmpty, if_neg Bool.false_ne_true, String.ofList_toList]

/-- The base of an instance: a head, a backtick and the decimal digits of the number of
arguments. -/
structure Base (name : String) (head digits : List Char) : Prop where
  text : name.toList = head ++ '\x60' :: digits
  noTick : ∀ character ∈ head, character ≠ '\x60'
  present : digits ≠ []
  decimal : ∀ digit ∈ digits, isDigit digit = true
  bounded : digitsValue digits ≤ greatestArity

/-- The base of an instance has a backtick at least. -/
theorem Base.name_ne_empty {name : String} {head digits : List Char}
    (base : Base name head digits) : name ≠ "" := by
  intro empty
  have text := base.text
  rw [empty] at text
  exact List.append_ne_nil_of_right_ne_nil _ (List.cons_ne_nil _ _) text.symm

theorem isReserved_of_isDigit {character : Char} (digit : isDigit character = true) :
    isReserved character = false := by
  simp only [isReserved, Bool.or_eq_false_iff, beq_eq_false_iff_ne]
  refine ⟨⟨?_, ?_⟩, ?_⟩ <;> rintro rfl <;> cases digit

/-- The name of a definition ends with a digit, so it is not the name of an array. -/
theorem Base.arrayElement?_eq_none {name : String} {head digits : List Char}
    (base : Base name head digits) : arrayElement? name.toList = none := by
  refine TypeName.arrayElement?_eq_none fun last => ?_
  rw [base.text, List.append_cons, List.getLast?_append_of_ne_nil _ base.present] at last
  cases base.decimal _ (List.mem_of_getLast? last)

/-- A text with a backtick is read from the backtick on, unless it ends in brackets. -/
theorem ofCharacters_tick {head afterTick : List Char}
    (noTick : ∀ character ∈ head, character ≠ '\x60')
    (notArray : arrayElement? (head ++ '\x60' :: afterTick) = none) :
    ofCharacters (head ++ '\x60' :: afterTick) = ofArity head afterTick := by
  have filled : (head ++ '\x60' :: afterTick).isEmpty = false :=
    List.isEmpty_eq_false_iff.mpr (List.append_ne_nil_of_right_ne_nil _ (List.cons_ne_nil _ _))
  have beforeTick : ∀ character ∈ head, (character != '\x60') = true :=
    fun character member => bne_iff_ne.mpr (noTick character member)
  rw [ofCharacters, filled, if_neg Bool.false_ne_true, notArray]
  dsimp only
  rw [List.dropWhile_append_of_pos beforeTick, List.dropWhile_cons_of_neg (by decide),
    List.takeWhile_append_of_pos beforeTick, List.takeWhile_cons_of_neg (by decide),
    List.append_nil]

/-- The name of a definition is plain. -/
theorem parse_definition {name : String} {head digits : List Char} (base : Base name head digits) :
    parse name = .ok (.plain name) := by
  refine parse_of_ofCharacters ?_
  have notArray := base.arrayElement?_eq_none
  have taken : digits.takeWhile isDigit = digits := List.takeWhile_eq_self_iff.mpr base.decimal
  have dropped : digits.dropWhile isDigit = [] := List.dropWhile_eq_nil_iff.mpr base.decimal
  rw [base.text] at notArray ⊢
  rw [ofCharacters_tick base.noTick notArray]
  unfold ofArity
  dsimp only
  rw [taken, dropped, List.isEmpty_eq_false_iff.mpr base.present, if_neg Bool.false_ne_true,
    if_neg (Nat.not_lt.mpr base.bounded), List.isEmpty_nil, if_pos rfl, ← base.text,
    String.ofList_toList]

theorem unbracket?_bracketed (text : List Char) : unbracket? (bracketed text) = some text := by
  simp [bracketed, unbracket?]

/-- Digits and as many arguments in brackets make an instance. -/
theorem ofArity_list {head digits : List Char} {arguments : List (List Char)}
    (present : digits ≠ []) (decimal : ∀ digit ∈ digits, isDigit digit = true)
    (bounded : digitsValue digits ≤ greatestArity)
    (arity : arguments.length = digitsValue digits) (some : arguments ≠ [])
    (balanced : ∀ argument ∈ arguments, Balanced argument ∧ argument ≠ []) :
    ofArity head (digits ++ bracketed ([','].intercalate (arguments.map bracketed))) =
      .ok (.generic (String.ofList (head ++ '\x60' :: digits)) (arguments.map String.ofList)) := by
  have taken : ∀ tail : List Char, (digits ++ '[' :: tail).takeWhile isDigit = digits := by
    intro tail
    rw [List.takeWhile_append_of_pos decimal, List.takeWhile_cons_of_neg (by decide),
      List.append_nil]
  have dropped : ∀ tail : List Char, (digits ++ '[' :: tail).dropWhile isDigit = '[' :: tail := by
    intro tail
    rw [List.dropWhile_append_of_pos decimal, List.dropWhile_cons_of_neg (by decide)]
  have filled : digits.isEmpty = false := List.isEmpty_eq_false_iff.mpr present
  have split := splitArguments_list some balanced
  unfold ofArity
  dsimp only
  rw [show bracketed ([','].intercalate (arguments.map bracketed)) =
    '[' :: ([','].intercalate (arguments.map bracketed) ++ [']']) from rfl, taken, dropped,
    filled, if_neg Bool.false_ne_true, if_neg (Nat.not_lt.mpr bounded), List.isEmpty_cons,
    if_neg Bool.false_ne_true]
  rw [show '[' :: ([','].intercalate (arguments.map bracketed) ++ [']']) =
    bracketed ([','].intercalate (arguments.map bracketed)) from rfl, unbracket?_bracketed]
  dsimp only
  rw [split]
  dsimp only
  rw [if_pos arity]

theorem exists_closing {arguments : List (List Char)} (present : arguments ≠ []) :
    ∃ before, [','].intercalate (arguments.map bracketed) = before ++ [']'] := by
  induction arguments with
  | nil => exact absurd rfl present
  | cons first rest inductionHypothesis =>
    cases rest with
    | nil => exact ⟨'[' :: first, by simp [bracketed]⟩
    | cons second rest =>
      obtain ⟨before, ends⟩ := inductionHypothesis (List.cons_ne_nil _ _)
      refine ⟨bracketed first ++ [','] ++ before, ?_⟩
      rw [List.map_cons, List.map_cons, List.intercalate_cons_cons, ← List.map_cons, ends,
        List.append_assoc _ before]

/-- The name of an instance with arguments of given names. -/
def instanceName (base : String) (arguments : List String) : String :=
  base ++ "[" ++ commaSeparated (arguments.map fun argument => "[" ++ argument ++ "]") ++ "]"

theorem toList_instanceName (base : String) (arguments : List String) :
    (instanceName base arguments).toList = base.toList ++
      bracketed ([','].intercalate ((arguments.map String.toList).map bracketed)) := by
  have inner : (arguments.map fun argument => "[" ++ argument ++ "]").map String.toList =
      (arguments.map String.toList).map bracketed := by
    rw [List.map_map, List.map_map]
    refine List.map_congr_left fun argument _ => ?_
    simp [bracketed]
  rw [instanceName, commaSeparated]
  simp only [String.toList_append, String.toList_intercalate, inner]
  simp [bracketed]

theorem bracket_instanceName (base : String) (arguments : List String) :
    ']' ∈ (instanceName base arguments).toList := by
  rw [instanceName, String.toList_append]
  exact List.mem_append_right _ (by decide)

/-- A name that can be put between brackets and taken out again: its brackets are balanced, and it
has characters. -/
abbrev Nestable (name : String) : Prop :=
  Balanced name.toList ∧ name ≠ ""

theorem nestable_instanceName {base : String} {arguments : List String}
    (balanced : Balanced base.toList) (each : ∀ argument ∈ arguments, Nestable argument) :
    Nestable (instanceName base arguments) := by
  constructor
  · rw [toList_instanceName]
    refine balanced_append balanced (balanced_bracketed (balanced_list fun text member => ?_))
    obtain ⟨argument, argumentMember, rfl⟩ := List.mem_map.mp member
    exact (each argument argumentMember).1
  · intro empty
    rw [instanceName, String.append_eq_empty_iff] at empty
    exact absurd empty.2 (by decide)

/-- The name of an instance gives its base and the names of its arguments. The base ends with the
number of arguments, and this is compared with how many there are. -/
theorem parse_generic {name : String} {head digits : List Char} (base : Base name head digits)
    {arguments : List String} (arity : arguments.length = digitsValue digits)
    (some : arguments ≠ [])
    (balanced : ∀ argument ∈ arguments, Nestable argument) :
    parse (instanceName name arguments) = .ok (.generic name arguments) := by
  let parts := arguments.map String.toList
  have partsSome : parts ≠ [] := fun empty => some (List.map_eq_nil_iff.mp empty)
  have partsBalanced : ∀ part ∈ parts, Balanced part ∧ part ≠ [] := by
    intro part member
    obtain ⟨argument, argumentMember, rfl⟩ := List.mem_map.mp member
    obtain ⟨isBalanced, filled⟩ := balanced argument argumentMember
    exact ⟨isBalanced, fun empty => filled (String.toList_eq_nil_iff.mp empty)⟩
  have text : (instanceName name arguments).toList =
      head ++ '\x60' :: (digits ++ bracketed ([','].intercalate (parts.map bracketed))) := by
    rw [toList_instanceName, base.text, List.append_assoc, List.cons_append]
  refine parse_of_ofCharacters ?_
  rw [text]
  obtain ⟨before, ends⟩ := exists_closing partsSome
  have notArray : arrayElement? (head ++ '\x60' ::
      (digits ++ bracketed ([','].intercalate (parts.map bracketed)))) = none := by
    rw [ends]
    simp [bracketed, arrayElement?]
  rw [ofCharacters_tick base.noTick notArray]
  rw [ofArity_list base.present base.decimal base.bounded (by rw [List.length_map, arity])
    partsSome partsBalanced, ← base.text, String.ofList_toList, List.map_map]
  simp

end TypeName

end PredicateWire
