/-
This file reads canonical type names. A name is plain, or the name of an array
`elem[]`, or the name of a generic instance `base[[a],[b]]` whose base ends in a
backtick and the number of arguments. Only the outermost structure is read:
element and argument names come back as they stand, so that a reader can look
each of them up before taking it apart.
-/
import PredicateWire.Error

namespace PredicateWire

/-- The outermost structure of a canonical type name. A generic definition without arguments is
a plain name. -/
inductive TypeName
  | plain (name : String)
  | array (element : String)
  | generic (base : String) (arguments : List String)
deriving DecidableEq

namespace TypeName

/-! ### Digits -/

/-- The decimal digits. -/
def isDigit (character : Char) : Bool :=
  '0'.val ≤ character.val && character.val ≤ '9'.val

/-- The number that a run of decimal digits stands for. -/
def digitsValue (digits : List Char) : Nat :=
  digits.foldl (fun value digit => 10 * value + (digit.toNat - '0'.toNat)) 0

/-- The largest number of arguments that a name can declare. -/
def greatestArity : Nat := 0xFFFFFFFFFFFFFFFF

/-! ### Argument lists -/

/-- The part of an argument list that has been read: how many brackets are open, the characters
of the current argument, last one first, whether a comma has to come next, and the arguments that
are complete, last one first. -/
structure ArgumentState where
  depth : Nat
  current : List Char
  needsComma : Bool
  complete : List (List Char)

/-- One character further into an argument list. At depth zero only brackets and separating
commas may stand, and no argument is empty. -/
def ArgumentState.step (state : ArgumentState) (character : Char) : Option ArgumentState :=
  if character = '[' then
    if state.depth = 0 then
      if state.needsComma then none else some { state with depth := 1, current := [] }
    else some { state with depth := state.depth + 1, current := character :: state.current }
  else if character = ']' then
    match state.depth with
    | 0 => none
    | 1 =>
      if state.current.isEmpty then none
      else
        some { depth := 0, current := [], needsComma := true,
               complete := state.current.reverse :: state.complete }
    | depth + 2 =>
      some { state with depth := depth + 1, current := character :: state.current }
  else if state.depth = 0 then
    if character = ',' && state.needsComma then some { state with needsComma := false } else none
  else some { state with current := character :: state.current }

/-- Reads characters one after another until one of them is refused. -/
def ArgumentState.run (state : ArgumentState) : List Char → Option ArgumentState
  | [] => some state
  | character :: rest =>
    match state.step character with
    | some next => next.run rest
    | none => none

/-- Splits `[a],[b[[c]]]` into `a` and `b[[c]]`. There is at least one argument, and exactly one
comma stands between two of them. -/
def splitArguments (characters : List Char) : Option (List (List Char)) :=
  match ArgumentState.run ⟨0, [], false, []⟩ characters with
  | some state => if state.depth = 0 && state.needsComma then some state.complete.reverse else none
  | none => none

/-! ### Names -/

/-- What stands before the final `[]`, if the text ends so. -/
def arrayElement? (characters : List Char) : Option (List Char) :=
  match characters.reverse with
  | ']' :: '[' :: rest => some rest.reverse
  | _ => none

/-- What stands inside a pair of enclosing brackets. -/
def unbracket? : List Char → Option (List Char)
  | '[' :: rest =>
    match rest.reverse with
    | ']' :: inner => some inner.reverse
    | _ => none
  | _ => none

/-- The characters that a plain name cannot have. -/
def isReserved (character : Char) : Bool :=
  character == '[' || character == ']' || character == ','

/-- The part of a name after its first backtick, together with everything up to the end of the
declared number of arguments. -/
def ofArity (head afterTick : List Char) : Except NameFault TypeName :=
  let digits := afterTick.takeWhile isDigit
  let tail := afterTick.dropWhile isDigit
  let base := head ++ '\x60' :: digits
  if digits.isEmpty then .error .missingArity
  else if greatestArity < digitsValue digits then .error .invalidArity
  else if tail.isEmpty then .ok (.plain (String.ofList base))
  else
    match unbracket? tail with
    | none => .error .openArguments
    | some inner =>
      match splitArguments inner with
      | none => .error .unbalanced
      | some arguments =>
        if arguments.length = digitsValue digits then
          .ok (.generic (String.ofList base) (arguments.map String.ofList))
        else .error (.argumentCount (digitsValue digits) arguments.length)

/-- Reads the characters of a name. -/
def ofCharacters (characters : List Char) : Except NameFault TypeName :=
  if characters.isEmpty then .error .emptyName
  else
    match arrayElement? characters with
    | some element =>
      if element.isEmpty then .error .missingElement
      else .ok (.array (String.ofList element))
    | none =>
      match characters.dropWhile (· != '\x60') with
      | [] =>
        if characters.any isReserved then .error .strayBrackets
        else .ok (.plain (String.ofList characters))
      | _ :: afterTick => ofArity (characters.takeWhile (· != '\x60')) afterTick

/-- Reads a canonical type name. -/
def parse (name : String) : Result TypeName :=
  match ofCharacters name.toList with
  | .ok parsed => .ok parsed
  | .error fault => .error (.malformedName name fault)

/-- The number of arguments that a name declares. -/
def arity : TypeName → Nat
  | plain _ => 0
  | array _ => 0
  | generic _ arguments => arguments.length

/-! ### Lengths -/

theorem length_of_arrayElement? {characters element : List Char}
    (found : arrayElement? characters = some element) :
    element.length + 2 = characters.length := by
  unfold arrayElement? at found
  split at found
  · rename_i rest reversed
    have counted := congrArg List.length reversed
    simp only [List.length_reverse, List.length_cons] at counted
    cases found
    simp [counted]
  · cases found

theorem length_of_unbracket? {characters inner : List Char}
    (found : unbracket? characters = some inner) :
    inner.length + 2 = characters.length := by
  unfold unbracket? at found
  split at found
  · split at found
    · rename_i rest inner' reversed
      have counted := congrArg List.length reversed
      simp only [List.length_reverse, List.length_cons] at counted
      cases found
      simp [counted]
    · cases found
  · cases found

/-- Nothing read so far is longer than a bound. -/
def ArgumentState.Within (state : ArgumentState) (bound : Nat) : Prop :=
  state.current.length ≤ bound ∧ ∀ argument ∈ state.complete, argument.length ≤ bound

theorem ArgumentState.within_step {state next : ArgumentState} {character : Char} {bound : Nat}
    (within : state.Within bound) (stepped : state.step character = some next) :
    next.Within (bound + 1) := by
  obtain ⟨current, complete⟩ := within
  have later : ∀ argument ∈ state.complete, argument.length ≤ bound + 1 :=
    fun argument member => Nat.le_succ_of_le (complete argument member)
  unfold ArgumentState.step at stepped
  split at stepped
  · split at stepped
    · split at stepped
      · cases stepped
      · cases stepped
        exact ⟨Nat.zero_le _, later⟩
    · cases stepped
      exact ⟨Nat.succ_le_succ current, later⟩
  · split at stepped
    · split at stepped
      · cases stepped
      · split at stepped
        · cases stepped
        · cases stepped
          refine ⟨Nat.zero_le _, fun argument member => ?_⟩
          rcases List.mem_cons.mp member with rfl | earlier
          · rw [List.length_reverse]
            exact Nat.le_succ_of_le current
          · exact later argument earlier
      · cases stepped
        exact ⟨Nat.succ_le_succ current, later⟩
    · split at stepped
      · split at stepped
        · cases stepped
          exact ⟨Nat.le_succ_of_le current, later⟩
        · cases stepped
      · cases stepped
        exact ⟨Nat.succ_le_succ current, later⟩

theorem ArgumentState.within_run {state next : ArgumentState} {characters : List Char}
    {bound : Nat} (within : state.Within bound) (run : state.run characters = some next) :
    next.Within (bound + characters.length) := by
  induction characters generalizing state bound with
  | nil => cases run; exact within
  | cons character rest inductionHypothesis =>
    unfold ArgumentState.run at run
    split at run
    · rename_i middle stepped
      have reached := inductionHypothesis (within_step within stepped) run
      rw [List.length_cons, Nat.add_comm rest.length 1, ← Nat.add_assoc]
      exact reached
    · cases run

theorem length_le_of_splitArguments {characters : List Char} {arguments : List (List Char)}
    (split : splitArguments characters = some arguments) :
    ∀ argument ∈ arguments, argument.length ≤ characters.length := by
  unfold splitArguments at split
  split at split
  · rename_i state run
    have within : state.Within (0 + characters.length) :=
      ArgumentState.within_run ⟨by simp, by simp⟩ run
    split at split
    · cases split
      intro argument member
      have bounded := within.2 argument (List.mem_reverse.mp member)
      omega
    · cases split
  · cases split

theorem length_dropWhile_le (test : Char → Bool) (characters : List Char) :
    (characters.dropWhile test).length ≤ characters.length :=
  (List.dropWhile_sublist test).length_le

theorem length_of_ofArity {head afterTick : List Char} {base : String}
    {arguments : List String} (read : ofArity head afterTick = .ok (.generic base arguments)) :
    ∀ argument ∈ arguments, argument.length + 2 ≤ afterTick.length := by
  unfold ofArity at read
  simp only at read
  split at read
  · cases read
  split at read
  · cases read
  split at read
  · cases read
  split at read
  · cases read
  rename_i unbracketed
  split at read
  · cases read
  rename_i divided
  split at read
  · cases read
    intro argument member
    obtain ⟨part, partMember, rfl⟩ := List.mem_map.mp member
    have bounded := length_le_of_splitArguments divided part partMember
    have enclosed := length_of_unbracket? unbracketed
    have dropped := length_dropWhile_le isDigit afterTick
    rw [String.length_ofList]
    omega
  · cases read

theorem ofCharacters_of_parse {name : String} {parsed : TypeName}
    (read : parse name = .ok parsed) : ofCharacters name.toList = .ok parsed := by
  unfold parse at read
  split at read
  · rename_i taken
    cases read
    exact taken
  · cases read

theorem length_lt_of_parse_array {name element : String}
    (read : parse name = .ok (.array element)) : element.length < name.length := by
  have taken := ofCharacters_of_parse read
  unfold ofCharacters at taken
  split at taken
  · cases taken
  split at taken
  · rename_i stripped
    split at taken
    · cases taken
    · cases taken
      have counted := length_of_arrayElement? stripped
      rw [String.length_toList] at counted
      rw [String.length_ofList]
      omega
  · split at taken
    · split at taken <;> cases taken
    · unfold ofArity at taken
      simp only at taken
      repeat' split at taken
      all_goals cases taken

theorem length_lt_of_parse_generic {name base : String} {arguments : List String}
    (read : parse name = .ok (.generic base arguments)) :
    ∀ argument ∈ arguments, argument.length < name.length := by
  have taken := ofCharacters_of_parse read
  unfold ofCharacters at taken
  split at taken
  · cases taken
  split at taken
  · split at taken <;> cases taken
  · split at taken
    · split at taken <;> cases taken
    · rename_i afterTick found
      intro argument member
      have bounded := length_of_ofArity taken argument member
      have dropped := length_dropWhile_le (· != '\x60') name.toList
      rw [found, List.length_cons, String.length_toList] at dropped
      omega

end TypeName

end PredicateWire
