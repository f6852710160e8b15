/-
This file gives the grammar of canonical names and proves that reading a name follows
it: a name is read exactly if the grammar spells it, the grammar says what it is read
as, and every other text is refused as a malformed name. The reader of argument lists
counts open brackets. The grammar asks instead that the brackets of every argument
match, and the two agree because what has been read inside an argument opens as many
brackets as are counted.

Nothing is asked of the text. A name comes out of a packet that anyone may have written,
so the interesting half is that what is read has been spelled: that no text with stray
commas, empty arguments or another number of arguments than its base declares gets
through (`TypeName.spells_of_parse`).
-/
import PredicateWire.Proofs.Types.NameParts

namespace PredicateWire

namespace TypeName

/-! ### Brackets -/

/-- Text inside a number of open brackets that leaves a number of them open. None of its beginnings
closes more brackets than are open. -/
structure Opens (start final : Nat) (text : List Char) : Prop where
  within : ∀ before, before <+: text → before.count ']' ≤ start + before.count '['
  ends : start + text.count '[' = final + text.count ']'

/-- The brackets of a text match. -/
abbrev Matched (text : List Char) : Prop :=
  Opens 0 0 text

/-- No text leaves as many brackets open as there were. -/
theorem opens_nil (start : Nat) : Opens start start [] := by
  refine ⟨fun before shorter => ?_, rfl⟩
  rw [List.prefix_nil.mp shorter]
  exact Nat.zero_le _

/-- A text that ends inside one more bracket or one less when a character has been read at its end. -/
theorem Opens.concat {start middle final : Nat} {text : List Char} (opens : Opens start middle text)
    {character : Char}
    (counted : middle + [character].count '[' = final + [character].count ']') :
    Opens start final (text ++ [character]) := by
  have ends := opens.ends
  refine ⟨fun before shorter => ?_, ?_⟩
  · rcases List.prefix_concat_iff.mp shorter with rfl | earlier
    · rw [List.count_append, List.count_append]
      omega
    · exact opens.within before earlier
  · rw [List.count_append, List.count_append]
    omega

/-- What follows the first character of a text is inside one more bracket or one less. -/
theorem Opens.tail {start middle final : Nat} {character : Char} {rest : List Char}
    (opens : Opens start final (character :: rest))
    (counted : start + [character].count '[' = middle + [character].count ']') :
    Opens middle final rest := by
  have split : ∀ (bracket : Char) (text : List Char),
      (character :: text).count bracket = [character].count bracket + text.count bracket := by
    intro bracket text
    rw [← List.singleton_append, List.count_append]
  refine ⟨fun before shorter => ?_, ?_⟩
  · have within := opens.within (character :: before) ((List.prefix_cons_inj character).mpr shorter)
    rw [split ']' before, split '[' before] at within
    omega
  · have ends := opens.ends
    rw [split '[' rest, split ']' rest] at ends
    omega

/-- Inside an argument, text is read as part of it, and the brackets that it leaves open are
counted. -/
theorem Opens.run {start final : Nat} {text : List Char} (opens : Opens start final text)
    (outer : Nat) (current : List Char) (needsComma : Bool) (complete : List (List Char))
    (rest : List Char) :
    ArgumentState.run ⟨outer + 1 + start, current, needsComma, complete⟩ (text ++ rest) =
      ArgumentState.run ⟨outer + 1 + final, text.reverse ++ current, needsComma, complete⟩ rest := by
  induction text generalizing start current with
  | nil =>
    have same : start = final := opens.ends
    rw [same]
    rfl
  | cons character text inductionHypothesis =>
    have inside : outer + 1 + start ≠ 0 := by omega
    rw [List.cons_append, List.reverse_cons, List.append_assoc, List.singleton_append]
    by_cases opening : character = '['
    · subst opening
      have stepped : (ArgumentState.mk (outer + 1 + start) current needsComma complete).step '[' =
          some ⟨outer + 1 + (start + 1), '[' :: current, needsComma, complete⟩ := by
        rw [ArgumentState.step, if_pos rfl, if_neg inside]
        rfl
      rw [run_cons stepped]
      exact inductionHypothesis (opens.tail (by simp)) _
    by_cases closing : character = ']'
    · subst closing
      have someOpen : 1 ≤ start := by simpa using opens.within [']'] ⟨text, rfl⟩
      obtain ⟨inner, rfl⟩ := Nat.exists_eq_succ_of_ne_zero (Nat.ne_of_gt someOpen)
      have stepped :
          (ArgumentState.mk (outer + 1 + (inner + 1)) current needsComma complete).step ']' =
            some ⟨outer + 1 + inner, ']' :: current, needsComma, complete⟩ := by
        rw [show outer + 1 + (inner + 1) = outer + inner + 2 by omega,
          show outer + 1 + inner = outer + inner + 1 by omega]
        rfl
      rw [run_cons stepped]
      exact inductionHypothesis (opens.tail (by simp)) _
    · have stepped :
          (ArgumentState.mk (outer + 1 + start) current needsComma complete).step character =
            some ⟨outer + 1 + start, character :: current, needsComma, complete⟩ := by
        rw [ArgumentState.step, if_neg opening, if_neg closing, if_neg inside]
      rw [run_cons stepped]
      exact inductionHypothesis (opens.tail (by simp [opening, closing])) _

/-- Text whose brackets match is read as part of an argument. -/
theorem Opens.balanced {text : List Char} (matched : Matched text) : Balanced text := by
  rintro ⟨depth, current, needsComma, complete⟩ rest inside
  obtain ⟨outer, rfl⟩ := Nat.exists_eq_succ_of_ne_zero inside
  exact matched.run outer current needsComma complete rest

/-! ### Argument lists -/

/-- The brackets of every complete argument match, none of them is empty, and the current argument
opens all brackets but the one around it. -/
structure ArgumentState.Nested (state : ArgumentState) : Prop where
  complete : ∀ argument ∈ state.complete, Matched argument ∧ argument ≠ []
  current : ∀ inner, state.depth = inner + 1 → Opens 0 inner state.current.reverse

/-- One character further the brackets of every argument still match. -/
theorem ArgumentState.Nested.step {state next : ArgumentState} {character : Char}
    (nested : state.Nested) (stepped : state.step character = some next) : next.Nested := by
  obtain ⟨depth, current, needsComma, complete⟩ := state
  obtain ⟨completeNested, currentOpens⟩ := nested
  unfold ArgumentState.step at stepped
  dsimp only at stepped completeNested currentOpens
  split at stepped
  · rename_i opening
    subst opening
    split at stepped
    · split at stepped <;> cases stepped
      refine ⟨completeNested, fun inner same => ?_⟩
      obtain rfl : inner = 0 := by simpa using same.symm
      exact opens_nil 0
    · rename_i inside
      cases stepped
      refine ⟨completeNested, fun inner same => ?_⟩
      obtain ⟨outer, rfl⟩ := Nat.exists_eq_succ_of_ne_zero inside
      obtain rfl : inner = outer + 1 := by simpa using same.symm
      rw [List.reverse_cons]
      exact (currentOpens outer rfl).concat (by simp)
  split at stepped
  · rename_i closing
    subst closing
    split at stepped
    · cases stepped
    · split at stepped
      · cases stepped
      · rename_i filled
        cases stepped
        refine ⟨List.forall_mem_cons.mpr ⟨⟨currentOpens 0 rfl, fun empty => filled ?_⟩,
          completeNested⟩, fun inner same => nomatch same⟩
        rw [List.isEmpty_iff]
        exact List.reverse_eq_nil_iff.mp empty
    · rename_i outer
      cases stepped
      refine ⟨completeNested, fun inner same => ?_⟩
      obtain rfl : inner = outer := by simpa using same.symm
      rw [List.reverse_cons]
      exact (currentOpens (inner + 1) rfl).concat (by simp)
  · rename_i notOpening notClosing
    split at stepped
    · rename_i outside
      split at stepped <;> cases stepped
      exact ⟨completeNested, fun inner same => nomatch outside.symm.trans same⟩
    · cases stepped
      refine ⟨completeNested, fun inner same => ?_⟩
      rw [List.reverse_cons]
      exact (currentOpens inner same).concat (by simp [notOpening, notClosing])

/-- So they do after any text that can be read. -/
theorem ArgumentState.Nested.run {state final : ArgumentState} {characters : List Char}
    (nested : state.Nested) (run : state.run characters = some final) : final.Nested := by
  induction characters generalizing state with
  | nil =>
    cases run
    exact nested
  | cons character rest inductionHypothesis =>
    unfold ArgumentState.run at run
    split at run
    · rename_i next stepped
      exact inductionHypothesis (nested.step stepped) run
    · cases run

/-- An argument list is split exactly into arguments with commas between them. None of them is
empty, and the brackets of each match. -/
theorem splitArguments_eq_some_iff {characters : List Char} {arguments : List (List Char)} :
    splitArguments characters = some arguments ↔
      arguments ≠ [] ∧ characters = [','].intercalate (arguments.map bracketed) ∧
        ∀ argument ∈ arguments, Matched argument ∧ argument ≠ [] := by
  constructor
  · intro divided
    obtain ⟨present, same⟩ := list_of_splitArguments divided
    refine ⟨present, same, ?_⟩
    unfold splitArguments at divided
    split at divided
    · rename_i final run
      have start : ArgumentState.Nested ⟨0, [], false, []⟩ :=
        ⟨List.forall_mem_nil _, fun inner same => nomatch same⟩
      have nested := start.run run
      split at divided
      · cases divided
        exact fun argument member => nested.complete argument (List.mem_reverse.mp member)
      · cases divided
    · cases divided
  · rintro ⟨present, rfl, each⟩
    exact splitArguments_list present fun argument member =>
      ⟨(each argument member).1.balanced, (each argument member).2⟩

/-! ### The grammar -/

/-- The names of the grammar, each with the structure that it spells out: names without brackets,
commas and backticks, definitions, arrays, and instances of definitions. -/
inductive Spells : String → TypeName → Prop
  | simple {name : String} (present : name ≠ "")
    (plain : ∀ character ∈ name.toList, isReserved character = false ∧ character ≠ '\x60') :
    Spells name (.plain name)
  | definition {name : String} {head digits : List Char} (base : Base name head digits) :
    Spells name (.plain name)
  | array {element : String} (present : element ≠ "") : Spells (element ++ "[]") (.array element)
  | generic {base : String} {head digits : List Char} {arguments : List String}
    (named : Base base head digits) (arity : digitsValue digits = arguments.length)
    (present : arguments ≠ [])
    (each : ∀ argument ∈ arguments, Matched argument.toList ∧ argument ≠ "") :
    Spells (instanceName base arguments) (.generic base arguments)

/-- The text of a name, put together from its parts. -/
def text : TypeName → String
  | plain name => name
  | array element => element ++ "[]"
  | generic base arguments => instanceName base arguments

/-- A name is spelled out by its own text. -/
theorem Spells.text {name : String} {parsed : TypeName} (spells : Spells name parsed) :
    parsed.text = name := by
  cases spells <;> rfl

/-- What is read from the backtick on is a definition, or an instance with as many arguments as the
digits say. -/
theorem spells_of_ofArity {head afterTick : List Char} {parsed : TypeName}
    (noTick : ∀ character ∈ head, character ≠ '\x60') (read : ofArity head afterTick = .ok parsed) :
    Spells (String.ofList (head ++ '\x60' :: afterTick)) parsed := by
  have digits := (List.takeWhile_append_dropWhile (p := isDigit) (l := afterTick)).symm
  unfold ofArity at read
  simp only at read
  split at read
  · cases read
  rename_i filled
  split at read
  · cases read
  rename_i bounded
  have base : Base (String.ofList (head ++ '\x60' :: afterTick.takeWhile isDigit)) head
      (afterTick.takeWhile isDigit) :=
    { text := String.toList_ofList
      noTick := noTick
      present := fun empty => filled (List.isEmpty_iff.mpr empty)
      decimal := fun digit member => List.mem_takeWhile_imp member
      bounded := Nat.not_lt.mp bounded }
  split at read
  · rename_i ended
    cases read
    rw [List.isEmpty_iff.mp ended, List.append_nil] at digits
    rw [← digits] at base ⊢
    exact .definition base
  split at read
  · cases read
  rename_i inner enclosed
  split at read
  · cases read
  rename_i parts divided
  split at read
  · rename_i counted
    cases read
    obtain ⟨present, same, each⟩ := splitArguments_eq_some_iff.mp divided
    have names : (parts.map String.ofList).map String.toList = parts := by simp
    have whole : String.ofList (head ++ '\x60' :: afterTick) =
        instanceName (String.ofList (head ++ '\x60' :: afterTick.takeWhile isDigit))
          (parts.map String.ofList) := by
      rw [← String.toList_inj, toList_instanceName, names, String.toList_ofList,
        String.toList_ofList, ← same, ← bracketed_of_unbracket? enclosed, List.append_assoc,
        List.cons_append, ← digits]
    rw [whole]
    refine .generic base (by rw [List.length_map, counted])
      (fun empty => present (List.map_eq_nil_iff.mp empty)) fun argument member => ?_
    obtain ⟨part, partMember, rfl⟩ := List.mem_map.mp member
    rw [String.toList_ofList]
    refine ⟨(each part partMember).1, fun empty => (each part partMember).2 ?_⟩
    rw [← String.toList_ofList (l := part), empty]
    rfl
  · cases read

theorem spells_of_parse {name : String} {parsed : TypeName} (read : parse name = .ok parsed) :
    Spells name parsed := by
  have taken := ofCharacters_of_parse read
  unfold ofCharacters at taken
  split at taken
  · cases taken
  rename_i filled
  split at taken
  · rename_i characters stripped
    split at taken
    · cases taken
    · rename_i some
      cases taken
      rw [name_of_arrayElement? stripped]
      refine .array fun empty => some ?_
      rw [List.isEmpty_iff, ← String.toList_ofList (l := characters), empty]
      rfl
  split at taken
  · rename_i noTick
    split at taken
    · cases taken
    · rename_i unreserved
      cases taken
      rw [String.ofList_toList]
      refine .simple (fun empty => filled ?_) fun character member => ⟨?_, ?_⟩
      · rw [empty]
        rfl
      · rw [List.any_eq_true, not_exists] at unreserved
        exact Bool.eq_false_iff.mpr fun reserved => unreserved character ⟨member, reserved⟩
      · exact bne_iff_ne.mp (List.dropWhile_eq_nil_iff.mp noTick character member)
  · rename_i tick afterTick dropped
    have ticked : tick = '\x60' := by
      have refused := List.head?_dropWhile_not (· != '\x60') name.toList
      rw [dropped] at refused
      simpa using refused
    have whole : name.toList = name.toList.takeWhile (· != '\x60') ++ '\x60' :: afterTick := by
      rw [ticked] at dropped
      rw [← dropped, List.takeWhile_append_dropWhile]
    have spells := spells_of_ofArity
      (fun character member => by simpa using List.mem_takeWhile_imp member) taken
    rwa [← whole, String.ofList_toList] at spells

/-- A name is read exactly as what the grammar spells. -/
theorem parse_eq_ok_iff {name : String} {parsed : TypeName} :
    parse name = .ok parsed ↔ Spells name parsed := by
  refine ⟨spells_of_parse, fun spells => ?_⟩
  cases spells with
  | simple present plain => exact parse_plain present plain
  | definition base => exact parse_definition base
  | array present => exact parse_array present
  | generic named arity present each =>
    exact parse_generic named arity.symm present fun argument member =>
      ⟨(each argument member).1.balanced, (each argument member).2⟩

/-- The grammar spells out arrays by their elements. -/
theorem spells_array {name element : String} :
    Spells name (.array element) ↔ name = element ++ "[]" ∧ element ≠ "" := by
  constructor
  · rintro ⟨⟩
    exact ⟨rfl, ‹_›⟩
  · rintro ⟨rfl, present⟩
    exact .array present

/-- The grammar spells out instances by their bases and arguments. -/
theorem spells_generic {name base : String} {arguments : List String} :
    Spells name (.generic base arguments) ↔
      name = instanceName base arguments ∧
        (∃ head digits, Base base head digits ∧ digitsValue digits = arguments.length) ∧
        1 ≤ arguments.length ∧ ∀ argument ∈ arguments, Matched argument.toList ∧ argument ≠ "" := by
  constructor
  · intro spells
    cases spells with
    | generic named arity present each =>
      exact ⟨rfl, ⟨_, _, named, arity⟩, List.length_pos_iff.mpr present, each⟩
  · rintro ⟨rfl, ⟨head, digits, named, arity⟩, counted, each⟩
    exact .generic named arity (List.length_pos_iff.mp counted) each

/-- The grammar spells out plain names as they are, and none of these ends in brackets. -/
theorem spells_plain {name plain : String} :
    Spells name (.plain plain) ↔
      plain = name ∧ name ≠ "" ∧ (∀ element, name ≠ element ++ "[]") ∧
        ((∀ character ∈ name.toList, isReserved character = false ∧ character ≠ '\x60') ∨
          ∃ head digits, Base name head digits) := by
  have notArray : arrayElement? name.toList = none → ∀ element, name ≠ element ++ "[]" := by
    rintro none element rfl
    cases (arrayElement?_brackets element).symm.trans none
  constructor
  · intro spells
    cases spells with
    | simple present plain =>
      exact ⟨rfl, present, notArray (arrayElement?_plain fun character member =>
        (plain character member).1), .inl plain⟩
    | definition base =>
      exact ⟨rfl, base.name_ne_empty, notArray base.arrayElement?_eq_none, .inr ⟨_, _, base⟩⟩
  · rintro ⟨rfl, present, -, plain | ⟨head, digits, base⟩⟩
    · exact .simple present plain
    · exact .definition base

/-- Reading a name follows the grammar and loses nothing. It gives an array for an element with
brackets behind it, an instance for the name of a definition with as many arguments as it declares
behind it, each not empty and with matching brackets, and a plain name for the name of a definition
and for a name without brackets, commas and backticks. All other names are malformed, and what is
read has the name as its text. -/
theorem parse_grammar (name : String) :
    (∀ element, parse name = .ok (.array element) ↔ name = element ++ "[]" ∧ element ≠ "") ∧
    (∀ base arguments, parse name = .ok (.generic base arguments) ↔
      name = instanceName base arguments ∧
        (∃ head digits, Base base head digits ∧
          digitsValue digits = (generic base arguments).arity) ∧
        1 ≤ (generic base arguments).arity ∧
        ∀ argument ∈ arguments, Matched argument.toList ∧ argument ≠ "") ∧
    (∀ plain, parse name = .ok (.plain plain) ↔
      plain = name ∧ name ≠ "" ∧ (∀ element, name ≠ element ++ "[]") ∧
        ((∀ character ∈ name.toList, isReserved character = false ∧ character ≠ '\x60') ∨
          ∃ head digits, Base name head digits)) ∧
    ((∃ parsed, parse name = .ok parsed) ∨
      ∃ fault, parse name = .error (.malformedName name fault)) ∧
    ∀ parsed, parse name = .ok parsed → parsed.text = name := by
  refine ⟨fun element => parse_eq_ok_iff.trans spells_array,
    fun base arguments => parse_eq_ok_iff.trans spells_generic,
    fun plain => parse_eq_ok_iff.trans spells_plain, ?_,
    fun parsed read => (spells_of_parse read).text⟩
  cases read : parse name with
  | ok parsed => exact .inl ⟨parsed, rfl⟩
  | error error =>
    obtain ⟨fault, rfl⟩ := malformed_of_parse read
    exact .inr ⟨fault, rfl⟩

/-- A name that is taken apart into the name of an element is this name with brackets behind it. -/
theorem array_of_parse {name element : String} (parsed : parse name = .ok (.array element)) :
    name = element ++ "[]" :=
  (spells_of_parse parsed).text.symm

/-- A name that is taken apart into a base and the names of arguments is the name of this
instance. -/
theorem generic_of_parse {name base : String} {arguments : List String}
    (parsed : parse name = .ok (.generic base arguments)) :
    arguments ≠ [] ∧ name = instanceName base arguments := by
  cases spells_of_parse parsed with
  | generic _ _ present _ => exact ⟨present, rfl⟩

end TypeName

end PredicateWire
