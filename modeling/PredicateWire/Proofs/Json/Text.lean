/-
This file proves that the reader of JSON reads what the printer writes. A document can
be read back when its whole numbers fit 64 bits and each of its doubles is read back
from its own text, and it has to open no more levels than the reader goes down. The
condition on doubles is not always met: the reader makes a double of at most twenty
digits and a power of ten and rounds more than once, so the text of a double may be read
as one of its neighbours. What is read is then the document with other doubles, and that
is what is proved first, with the condition that everything is read back as a case of
it.

The main result, `Json.Reader.document?_written`, leaves room for what follows the
document, so that the induction goes through for items and members; `Json.read?_written`
is the case in which nothing follows.
-/
import Mathlib.Algebra.Group.Int.Defs
import Mathlib.Algebra.Group.Nat.Defs
import Mathlib.Data.List.TakeWhile
import PredicateWire.Json.Printer
import PredicateWire.Json.Reader

namespace PredicateWire

namespace Json

/-! ### Levels and readable documents -/

mutual

/-- The number of levels that a document opens. -/
def nesting : Json → Nat
  | array items => nestingAll items + 1
  | object members => nestingMembers members + 1
  | null => 0
  | bool _ => 0
  | integer _ => 0
  | double _ => 0
  | string _ => 0

/-- The greatest number of levels that one of several documents opens. -/
def nestingAll : List Json → Nat
  | [] => 0
  | item :: rest => max (nesting item) (nestingAll rest)

/-- The greatest number of levels that one of several members opens. -/
def nestingMembers : List (String × Json) → Nat
  | [] => 0
  | (_, value) :: rest => max (nesting value) (nestingMembers rest)

end

/-! ### Doubles in documents -/

/-- The double that a text holds, if it holds nothing else. -/
def readDouble? (text : String) : Option Float :=
  match Reader.document? 0 text.toList with
  | some (double number, []) => some number
  | _ => none

theorem readDouble?_eq_some {text : String} {number : Float} : readDouble? text = some number ↔
    Reader.document? 0 text.toList = some (double number, []) := by
  unfold readDouble?
  split
  · rename_i found read
    rw [read]
    simp
  · rename_i other
    constructor
    · nofun
    · intro read
      exact absurd read (other number)

/-- The text of a double, read to its end, yields a double. It need not be the same one, since the
reader rounds more than once. -/
def ReadsAs (number result : Float) : Prop :=
  Reader.document? 0 (written (double number)).toList = some (double result, [])

instance (number result : Float) : Decidable (ReadsAs number result) :=
  decidable_of_iff _ readDouble?_eq_some

/-- The text of a double, read to its end, yields the double. -/
def ReadsBack (number : Float) : Prop :=
  ReadsAs number number

instance (number : Float) : Decidable (ReadsBack number) :=
  inferInstanceAs (Decidable (ReadsAs number number))

mutual

/-- A document with other doubles in place of its own. -/
def recast (image : Float → Float) : Json → Json
  | array items => array (recastAll image items)
  | object members => object (recastMembers image members)
  | double value => double (image value)
  | null => null
  | bool value => bool value
  | integer value => integer value
  | string value => string value

/-- Several documents with other doubles in place of their own. -/
def recastAll (image : Float → Float) : List Json → List Json
  | [] => []
  | item :: rest => recast image item :: recastAll image rest

/-- Several members with other doubles in place of their own. -/
def recastMembers (image : Float → Float) : List (String × Json) → List (String × Json)
  | [] => []
  | (name, value) :: rest => (name, recast image value) :: recastMembers image rest

end

theorem recastAll_eq_map (image : Float → Float) (items : List Json) :
    recastAll image items = items.map (recast image) := by
  induction items with
  | nil => rfl
  | cons item rest inductionHypothesis => rw [recastAll, inductionHypothesis, List.map_cons]

theorem recastMembers_eq_map (image : Float → Float) (members : List (String × Json)) :
    recastMembers image members = members.map fun entry => (entry.1, recast image entry.2) := by
  induction members with
  | nil => rfl
  | cons entry rest inductionHypothesis =>
    rw [recastMembers, inductionHypothesis, List.map_cons]

mutual

/-- A document whose doubles stay as they are stays as it is. -/
theorem recast_id : ∀ document : Json, recast id document = document
  | array items => by rw [recast, recastAll_id items]
  | object members => by rw [recast, recastMembers_id members]
  | null | bool _ | integer _ | double _ | string _ => by rw [recast] <;> rfl

theorem recastAll_id : ∀ items : List Json, recastAll id items = items
  | [] => rfl
  | item :: rest => by rw [recastAll, recast_id item, recastAll_id rest]

theorem recastMembers_id : ∀ members : List (String × Json), recastMembers id members = members
  | [] => rfl
  | (name, value) :: rest => by rw [recastMembers, recast_id value, recastMembers_id rest]

end

mutual

/-- The whole numbers of a document fit 64 bits, and each of its doubles is read as its image. -/
def ReadableAs (image : Float → Float) : Json → Prop
  | array items => ReadableAllAs image items
  | object members => ReadableMembersAs image members
  | integer value => -(2 ^ 63) ≤ value ∧ value < 2 ^ 64
  | double value => ReadsAs value (image value)
  | null => True
  | bool _ => True
  | string _ => True

/-- Each of several documents is readable. -/
def ReadableAllAs (image : Float → Float) : List Json → Prop
  | [] => True
  | item :: rest => ReadableAs image item ∧ ReadableAllAs image rest

/-- Each of several members is readable. -/
def ReadableMembersAs (image : Float → Float) : List (String × Json) → Prop
  | [] => True
  | (_, value) :: rest => ReadableAs image value ∧ ReadableMembersAs image rest

end

/-- The whole numbers of a document fit 64 bits, and its doubles are read back. -/
abbrev Readable : Json → Prop :=
  ReadableAs id

namespace Reader

/-! ### What may follow a document -/

/-- A text that may follow a document: nothing, or what ends an item or a member. -/
def Delimited (text : List Char) : Prop :=
  ∀ first ∈ text.head?, first = ',' ∨ first = ']' ∨ first = '\x7d'

theorem delimited_nil : Delimited [] := by
  intro first member
  cases member

theorem delimited_cons {first : Char} (rest : List Char)
    (mark : first = ',' ∨ first = ']' ∨ first = '\x7d') : Delimited (first :: rest) := by
  intro other member
  cases member
  exact mark

theorem skip_cons {first : Char} (rest : List Char) (solid : isBlank first = false) :
    skip (first :: rest) = first :: rest := by
  rw [skip, List.dropWhile_cons, solid]
  rfl

theorem skip_skip (text : List Char) : skip (skip text) = skip text := by
  induction text with
  | nil => rfl
  | cons first rest inductionHypothesis =>
    cases blank : isBlank first with
    | false => rw [skip_cons rest blank, skip_cons rest blank]
    | true =>
      have dropped : skip (first :: rest) = skip rest := by
        rw [skip, List.dropWhile_cons, if_pos blank]
        rfl
      rw [dropped, inductionHypothesis]

/-- Blanks are skipped up to the first character that is none, so nothing behind it matters. -/
theorem skip_append {text : List Char} (solid : skip text ≠ []) (rest : List Char) :
    skip (text ++ rest) = skip text ++ rest := by
  induction text with
  | nil => exact absurd rfl solid
  | cons first tail inductionHypothesis =>
    cases blank : isBlank first with
    | false => rw [List.cons_append, skip_cons _ blank, skip_cons _ blank, List.cons_append]
    | true =>
      have dropped : ∀ more, skip (first :: more) = skip more := fun more => by
        rw [skip, List.dropWhile_cons, if_pos blank]
        rfl
      rw [dropped] at solid
      rw [List.cons_append, dropped, dropped, inductionHypothesis solid]

/-! ### Strings -/

theorem hexValue?_hexDigit {value : Nat} (small : value < 16) :
    hexValue? (hexDigit value) = some value := by
  have all : ∀ value, value < 16 → hexValue? (hexDigit value) = some value := by decide
  exact all value small

/-- A control character is written with four hexadecimal digits, and these are read back. -/
theorem escape?_unit {character : Char} (control : character.toNat < 32) (rest : List Char) :
    escape? ('u' :: '0' :: '0' :: hexDigit (character.toNat / 16) ::
      hexDigit (character.toNat % 16) :: rest) = some (character, rest) := by
  have zero : hexValue? '0' = some 0 := by decide
  have unit : ((0 * 16 + 0) * 16 + character.toNat / 16) * 16 + character.toNat % 16 =
      character.toNat := by omega
  have read : hexUnit? ('0' :: '0' :: hexDigit (character.toNat / 16) ::
      hexDigit (character.toNat % 16) :: rest) = some (character.toNat, rest) := by
    simp only [hexUnit?, zero, hexValue?_hexDigit (show character.toNat / 16 < 16 by omega),
      hexValue?_hexDigit (show character.toNat % 16 < 16 by omega), Option.bind_eq_bind,
      Option.bind_some, Option.pure_def, unit]
  have high : isHighSurrogate character.toNat = false := by
    simp only [isHighSurrogate, Bool.and_eq_false_iff, decide_eq_false_iff_not]
    omega
  have low : isLowSurrogate character.toNat = false := by
    simp only [isLowSurrogate, Bool.and_eq_false_iff, decide_eq_false_iff_not]
    omega
  simp only [escape?, unitEscape?, read, high, low, Option.bind_eq_bind, Option.bind_some,
    Bool.false_eq_true, if_false, Option.pure_def, Char.ofNat_toNat]

/-- One written character is read back, whatever follows it. -/
theorem stringRest?_escaped (character : Char) (fuel : Nat) (read rest : List Char) :
    stringRest? (fuel + 1) read (escaped character ++ rest) =
      stringRest? fuel (character :: read) rest := by
  by_cases quote : character = '\x22'
  · subst quote; rfl
  by_cases slash : character = '\\'
  · subst slash; rfl
  by_cases back : character = '\x08'
  · subst back; rfl
  by_cases feed : character = '\x0c'
  · subst feed; rfl
  by_cases line : character = '\n'
  · subst line; rfl
  by_cases turn : character = '\r'
  · subst turn; rfl
  by_cases tab : character = '\t'
  · subst tab; rfl
  by_cases control : character.toNat < 32
  · simp only [escaped, if_neg quote, if_neg slash, if_neg back, if_neg feed, if_neg line,
      if_neg turn, if_neg tab, if_pos control, List.cons_append, List.nil_append]
    rw [stringRest?, if_neg (by decide), if_pos rfl, escape?_unit control]
  · simp only [escaped, if_neg quote, if_neg slash, if_neg back, if_neg feed, if_neg line,
      if_neg turn, if_neg tab, if_neg control, List.cons_append, List.nil_append]
    rw [stringRest?, if_neg quote, if_neg slash, if_neg control]

/-- Characters are read back up to the closing quotation mark. The fuel bounds their number, and the
length of the remaining text is enough of it. -/
theorem stringRest?_written (characters read rest : List Char) {fuel : Nat}
    (enough : characters.length < fuel) :
    stringRest? fuel read (characters.flatMap escaped ++ '\x22' :: rest) =
      some (String.ofList (read.reverse ++ characters), rest) := by
  induction characters generalizing read fuel with
  | nil =>
    obtain ⟨fuel, rfl⟩ : ∃ less, fuel = less + 1 := ⟨fuel - 1, by simp at enough; omega⟩
    rw [List.flatMap_nil, List.nil_append, stringRest?, if_pos rfl, List.append_nil]
  | cons character characters inductionHypothesis =>
    obtain ⟨fuel, rfl⟩ : ∃ less, fuel = less + 1 := ⟨fuel - 1, by simp at enough; omega⟩
    rw [List.flatMap_cons, List.append_assoc, stringRest?_escaped,
      inductionHypothesis (character :: read) (by simp at enough; omega), List.reverse_cons,
      List.append_assoc, List.singleton_append]

theorem length_le_flatMap_escaped (characters : List Char) :
    characters.length ≤ (characters.flatMap escaped).length := by
  induction characters with
  | nil => exact Nat.le_refl 0
  | cons character rest inductionHypothesis =>
    have some : 1 ≤ (escaped character).length := by
      unfold escaped
      repeat' split
      all_goals simp
    rw [List.flatMap_cons, List.length_append, List.length_cons]
    omega

/-- A string is read back from in front of whatever follows it. -/
theorem string?_written (text : String) (rest : List Char) :
    string? (text.toList.flatMap escaped ++ '\x22' :: rest) = some (text, rest) := by
  have longer := length_le_flatMap_escaped text.toList
  rw [string?, stringRest?_written text.toList [] rest
    (by rw [List.length_append, List.length_cons]; omega), List.reverse_nil, List.nil_append,
    String.ofList_toList]

theorem toList_writtenString (text : String) :
    (writtenString text).toList = '\x22' :: (text.toList.flatMap escaped ++ ['\x22']) := by
  simp [writtenString]

/-! ### Numbers -/

/-- A delimiter ends every run of characters that it does not belong to. -/
def Ends (test : Char → Bool) (text : List Char) : Prop :=
  ∀ first ∈ text.head?, test first = false

theorem Delimited.ends_isDigit {text : List Char} (delimited : Delimited text) :
    Ends isDigit text := by
  intro first member
  rcases delimited first member with rfl | rfl | rfl <;> decide

theorem takeWhile_append {test : Char → Bool} {rest : List Char} (ends : Ends test rest)
    (text : List Char) : (text ++ rest).takeWhile test = text.takeWhile test := by
  induction text with
  | nil =>
    cases rest with
    | nil => rfl
    | cons first rest => simp [ends first rfl]
  | cons first text inductionHypothesis =>
    rw [List.cons_append, List.takeWhile_cons, List.takeWhile_cons, inductionHypothesis]

theorem dropWhile_append {test : Char → Bool} {rest : List Char} (ends : Ends test rest)
    (text : List Char) : (text ++ rest).dropWhile test = text.dropWhile test ++ rest := by
  induction text with
  | nil =>
    cases rest with
    | nil => rfl
    | cons first rest => simp [ends first rfl]
  | cons first text inductionHypothesis =>
    rw [List.cons_append, List.dropWhile_cons, List.dropWhile_cons, inductionHypothesis]
    split <;> rfl

/-- The digits in front of a point are read the same way in front of a text that starts with no
digit. -/
theorem whole?_append {text digits left rest : List Char} (ends : Ends isDigit rest)
    (read : whole? text = some (digits, left)) :
    whole? (text ++ rest) = some (digits, left ++ rest) := by
  unfold whole? at read ⊢
  simp only at read ⊢
  rw [takeWhile_append ends, dropWhile_append ends]
  split at read
  · cases read
  · cases read
  · cases read
    rfl

/-- So are the digits behind the point, if there are any. -/
theorem fraction?_append {text digits left rest : List Char} (delimited : Delimited rest)
    (read : fraction? text = some (digits, left)) :
    fraction? (text ++ rest) = some (digits, left ++ rest) := by
  have ends := delimited.ends_isDigit
  unfold fraction? at read
  split at read
  · rename_i tail
    rw [List.cons_append, fraction?]
    simp only at read ⊢
    rw [takeWhile_append ends, dropWhile_append ends]
    split at read
    · cases read
    · cases read
      rename_i some
      rw [if_neg some]
  · rename_i other
    cases read
    cases text with
    | cons first text =>
      unfold fraction?
      split
      · rename_i found
        cases found
        exact absurd rfl (other _)
      · rfl
    | nil =>
      cases rest with
      | nil => rfl
      | cons first rest => rcases delimited first rfl with rfl | rfl | rfl <;> rfl

theorem exponentDigits?_append {negative : Bool} {text left rest : List Char} {value : Int}
    (ends : Ends isDigit rest) (read : exponentDigits? negative text = some (value, left)) :
    exponentDigits? negative (text ++ rest) = some (value, left ++ rest) := by
  unfold exponentDigits? at read ⊢
  simp only at read ⊢
  rw [takeWhile_append ends, dropWhile_append ends]
  split at read
  · cases read
  · cases read
    rename_i some
    rw [if_neg some]

theorem exponent?_append {text left rest : List Char} {value : Option Int}
    (delimited : Delimited rest) (read : exponent? text = some (value, left)) :
    exponent? (text ++ rest) = some (value, left ++ rest) := by
  have ends := delimited.ends_isDigit
  cases text with
  | nil =>
    cases read
    cases rest with
    | nil => rfl
    | cons first rest => rcases delimited first rfl with rfl | rfl | rfl <;> rfl
  | cons mark text =>
    rw [List.cons_append]
    unfold exponent? at read ⊢
    simp only at read ⊢
    split at read
    case isFalse unmarked =>
      cases read
      rw [if_neg unmarked]
      rfl
    case isTrue marked =>
      rw [if_pos marked]
      have signed : ∀ {negative : Bool} {digits : List Char},
          ((exponentDigits? negative digits).bind fun part => some (some part.1, part.2)) =
            some (value, left) →
          ((exponentDigits? negative (digits ++ rest)).bind fun part =>
            some (some part.1, part.2)) = some (value, left ++ rest) := by
        intro negative digits read
        obtain ⟨⟨number, after⟩, taken, result⟩ := Option.bind_eq_some_iff.mp read
        cases result
        rw [exponentDigits?_append ends taken]
        rfl
      cases text with
      | nil => cases read
      | cons sign text =>
        rw [List.cons_append]
        split at read
        · rename_i plus
          cases plus
          exact signed read
        · rename_i minus
          cases minus
          exact signed read
        · rename_i noPlus noMinus
          have appended := signed read
          split
          · rename_i plus
            cases plus
            exact absurd rfl (noPlus text)
          · rename_i minus
            cases minus
            exact absurd rfl (noMinus text)
          · exact appended

/-- A number is read the same way in front of a delimiter: all of its parts end there. -/
theorem unsigned?_append {negative : Bool} {text left rest : List Char} {number : Json}
    (delimited : Delimited rest) (read : unsigned? negative text = some (number, left)) :
    unsigned? negative (text ++ rest) = some (number, left ++ rest) := by
  unfold unsigned? at read ⊢
  obtain ⟨⟨whole, afterWhole⟩, wholeRead, read⟩ := Option.bind_eq_some_iff.mp read
  obtain ⟨⟨fraction, afterFraction⟩, fractionRead, read⟩ := Option.bind_eq_some_iff.mp read
  obtain ⟨⟨exponent, afterExponent⟩, exponentRead, read⟩ := Option.bind_eq_some_iff.mp read
  obtain ⟨made, parts, result⟩ := Option.bind_eq_some_iff.mp read
  cases result
  simp only [whole?_append delimited.ends_isDigit wholeRead, Option.bind_eq_bind,
    Option.bind_some, fraction?_append delimited fractionRead,
    exponent?_append delimited exponentRead]
  rw [parts, Option.bind_some]
  rfl

/-- A number is read where its text starts, whatever follows that does not belong to it. -/
theorem document?_double_append {text rest : List Char} {number : Float} (levels : Nat)
    (delimited : Delimited rest) (read : document? 0 text = some (.double number, [])) :
    document? levels (text ++ rest) = some (.double number, rest) := by
  unfold document? at read
  split at read
  · cases read
  rename_i first tail skipped
  have appended : skip (text ++ rest) = first :: (tail ++ rest) := by
    rw [skip_append (by rw [skipped]; exact List.cons_ne_nil _ _), skipped, List.cons_append]
  unfold document?
  rw [appended]
  simp only
  split at read
  case isTrue => obtain ⟨_, _, other⟩ := Option.map_eq_some_iff.mp read; cases other
  split at read
  case isTrue => obtain ⟨_, _, other⟩ := Option.map_eq_some_iff.mp read; cases other
  split at read
  case isTrue => obtain ⟨_, _, other⟩ := Option.map_eq_some_iff.mp read; cases other
  split at read
  case isTrue => obtain ⟨_, _, other⟩ := Option.map_eq_some_iff.mp read; cases other
  rename_i notNull notTrue notFalse notString
  rw [if_neg notNull, if_neg notTrue, if_neg notFalse, if_neg notString]
  split at read
  case isTrue minus =>
    rw [if_pos minus]
    exact unsigned?_append delimited read
  rename_i notMinus
  split at read
  case isTrue digit =>
    rw [if_neg notMinus, if_pos digit]
    exact unsigned?_append delimited read
  cases read

/-! ### Whole numbers -/

theorem isDigit_of_mem_toDigits {number : Nat} {digit : Char}
    (member : digit ∈ Nat.toDigits 10 number) : isDigit digit = true := by
  have decimal := Nat.isDigit_of_mem_toDigits (by decide) (by decide) member
  rw [Char.isDigit, Bool.and_eq_true, decide_eq_true_iff, decide_eq_true_iff] at decimal
  rw [isDigit, Bool.and_eq_true, decide_eq_true_iff, decide_eq_true_iff]
  exact decimal

/-- Only zero is written with a leading zero. -/
theorem toDigits_head_zero (number : Nat) (leading : (Nat.toDigits 10 number).head? = some '0') :
    number = 0 := by
  induction number using Nat.strongRecOn with
  | ind number inductionHypothesis =>
    by_cases small : number < 10
    · have all : ∀ number, number < 10 → (Nat.toDigits 10 number).head? = some '0' →
          number = 0 := by decide
      exact all number small leading
    · rw [Nat.toDigits_of_base_le (by decide) (by omega),
        List.head?_append] at leading
      obtain ⟨first, digits, written⟩ :=
        List.exists_cons_of_ne_nil (Nat.toDigits_ne_nil (b := 10) (n := number / 10))
      rw [written] at leading
      have quotient := inductionHypothesis (number / 10) (by omega) (by rw [written]; exact leading)
      omega

/-- Decimal digits are read to their end as the digits of a whole number. -/
theorem whole?_toDigits (number : Nat) :
    whole? (Nat.toDigits 10 number) = some (Nat.toDigits 10 number, []) := by
  have all : ∀ digit ∈ Nat.toDigits 10 number, isDigit digit = true :=
    fun _ member => isDigit_of_mem_toDigits member
  have taken : (Nat.toDigits 10 number).takeWhile isDigit = Nat.toDigits 10 number :=
    List.takeWhile_eq_self_iff.mpr all
  have dropped : (Nat.toDigits 10 number).dropWhile isDigit = [] :=
    List.dropWhile_eq_nil_iff.mpr all
  unfold whole?
  simp only
  rw [taken, dropped]
  split
  · rename_i none
    exact absurd none Nat.toDigits_ne_nil
  · rename_i leading
    have zero := toDigits_head_zero number (by rw [leading]; rfl)
    rw [zero] at leading
    cases leading
  · rfl

/-- A whole number of 64 bits is read back from its digits. Negative numbers have to be in the range
of those with a sign, and the others in the range of those without one. -/
theorem unsigned?_toDigits {negative : Bool} {number : Nat}
    (fits : if negative then 0 < number ∧ number ≤ 2 ^ 63 else number < 2 ^ 64) :
    unsigned? negative (Nat.toDigits 10 number) =
      some (.integer (if negative then -(number : Int) else number), []) := by
  have value : digitsValue (Nat.toDigits 10 number) = number := Nat.ofDigitChars_ten_toDigits
  unfold unsigned? ofParts?
  simp only [whole?_toDigits, Option.bind_eq_bind, Option.bind_some, fraction?, exponent?, value]
  rw [if_pos]
  · rfl
  · cases negative
    · simpa using fits
    · simpa using fits

/-! ### Items and members -/

/-- Texts that a comma precedes, one after another. -/
def continued (texts : List (List Char)) : List Char :=
  texts.flatMap fun text => ',' :: text

theorem toList_commaJoined (first : String) (rest : List String) :
    (commaJoined (first :: rest)).toList = first.toList ++ continued (rest.map String.toList) := by
  unfold commaJoined continued
  induction rest generalizing first with
  | nil => simp
  | cons second rest inductionHypothesis =>
    rw [String.intercalate_cons_cons, String.toList_append, String.toList_append,
      inductionHypothesis, List.map_cons, List.flatMap_cons]
    simp

theorem length_le_continued (texts : List (List Char)) :
    texts.length ≤ (continued texts).length := by
  induction texts with
  | nil => exact Nat.le_refl 0
  | cons text rest inductionHypothesis =>
    unfold continued at inductionHypothesis ⊢
    rw [List.flatMap_cons, List.length_append, List.length_cons, List.length_cons]
    omega

/-- A reading takes the text of something from in front of whatever may follow. -/
def Takes {Content : Type} (reading : Reading Content) (part : List Char × Content) : Prop :=
  ∀ rest, Delimited rest → reading (part.1 ++ rest) = some (part.2, rest)

/-- Behind an item comes a comma or the closing mark. -/
theorem delimited_continued (texts : List (List Char)) {mark : Char} (rest : List Char)
    (closing : mark = ']' ∨ mark = '\x7d') : Delimited (continued texts ++ mark :: rest) := by
  cases texts with
  | nil => exact delimited_cons rest (.inr closing)
  | cons text texts => exact delimited_cons _ (.inl rfl)

/-- Items are read one after another up to the closing bracket, if each is taken from in front of
whatever may follow it. -/
theorem items?_continued {Content : Type} {reading : Nat → Reading Content}
    {first : List Char × Content} {parts : List (List Char × Content)}
    (takes : ∀ part ∈ first :: parts, ∀ place, Takes (reading place) part) {fuel : Nat}
    (place : Nat) (read : List Content) (rest : List Char) (enough : parts.length < fuel) :
    items? reading fuel place read
        (first.1 ++ (continued (parts.map Prod.fst) ++ ']' :: rest)) =
      some (read.reverse ++ first.2 :: parts.map Prod.snd, rest) := by
  induction parts generalizing first fuel place read with
  | nil =>
    obtain ⟨fuel, rfl⟩ : ∃ less, fuel = less + 1 := ⟨fuel - 1, by omega⟩
    have taken := takes first (List.mem_cons_self ..) place (']' :: rest)
      (delimited_cons rest (.inr (.inl rfl)))
    simp only [items?, List.map_nil, continued, List.flatMap_nil, List.nil_append, taken,
      Option.bind_eq_bind, Option.bind_some, skip_cons rest (show isBlank ']' = false by decide),
      List.reverse_cons]
  | cons second parts inductionHypothesis =>
    obtain ⟨fuel, rfl⟩ : ∃ less, fuel = less + 1 := ⟨fuel - 1, by omega⟩
    have taken := takes first (List.mem_cons_self ..) place _
      (delimited_continued ((second :: parts).map Prod.fst) rest (.inl rfl))
    have remaining := inductionHypothesis (fun part member => takes part (.tail _ member))
      (place + 1) (first.2 :: read) (by simp at enough; omega)
    rw [items?, taken, Option.bind_eq_bind, Option.bind_some]
    simp only [List.map_cons, continued, List.flatMap_cons, List.cons_append, List.append_assoc,
      skip_cons _ (show isBlank ',' = false by decide)]
    simp only [continued] at remaining
    rw [remaining, List.reverse_cons, List.append_assoc, List.singleton_append]

theorem members?_continued {Content : Type} {reading : Reading Content}
    {first : List Char × Content} {parts : List (List Char × Content)}
    (takes : ∀ part ∈ first :: parts, Takes reading part) {fuel : Nat} (read : List Content)
    (rest : List Char) (enough : parts.length < fuel) :
    members? reading fuel read
        (first.1 ++ (continued (parts.map Prod.fst) ++ '\x7d' :: rest)) =
      some (read.reverse ++ first.2 :: parts.map Prod.snd, rest) := by
  induction parts generalizing first fuel read with
  | nil =>
    obtain ⟨fuel, rfl⟩ : ∃ less, fuel = less + 1 := ⟨fuel - 1, by omega⟩
    have taken := takes first (List.mem_cons_self ..) ('\x7d' :: rest)
      (delimited_cons rest (.inr (.inr rfl)))
    simp only [members?, List.map_nil, continued, List.flatMap_nil, List.nil_append, taken,
      Option.bind_eq_bind, Option.bind_some,
      skip_cons rest (show isBlank '\x7d' = false by decide), List.reverse_cons]
  | cons second parts inductionHypothesis =>
    obtain ⟨fuel, rfl⟩ : ∃ less, fuel = less + 1 := ⟨fuel - 1, by omega⟩
    have taken := takes first (List.mem_cons_self ..) _
      (delimited_continued ((second :: parts).map Prod.fst) rest (.inr rfl))
    have remaining := inductionHypothesis (fun part member => takes part (.tail _ member))
      (first.2 :: read) (by simp at enough; omega)
    rw [members?, taken, Option.bind_eq_bind, Option.bind_some]
    simp only [List.map_cons, continued, List.flatMap_cons, List.cons_append, List.append_assoc,
      skip_cons _ (show isBlank ',' = false by decide)]
    simp only [continued] at remaining
    rw [remaining, List.reverse_cons, List.append_assoc, List.singleton_append]

/-! ### Documents -/

theorem document?_skip (levels : Nat) (text : List Char) :
    document? levels (skip text) = document? levels text := by
  unfold document?
  rw [skip_skip]

/-- No document starts with a closing bracket. -/
theorem document?_bracket (levels : Nat) {text rest : List Char}
    (closing : skip text = ']' :: rest) : document? levels text = none := by
  unfold document?
  rw [closing]
  cases levels <;> rfl

/-- A reading that blanks in front do not disturb, and that finds nothing in a blank text and
nothing where an array ends. -/
structure Anchored {Content : Type} (reading : Reading Content) : Prop where
  skips : ∀ text, reading (skip text) = reading text
  blank : reading [] = none
  bracket : ∀ rest, reading (']' :: rest) = none

theorem anchored_document? (levels : Nat) : Anchored (document? levels) where
  skips := document?_skip levels
  blank := by unfold document?; rfl
  bracket := fun rest =>
    document?_bracket levels (skip_cons rest (show isBlank ']' = false by decide))

theorem Anchored.skip_ne_nil {Content : Type} {reading : Reading Content}
    (anchored : Anchored reading) {text : List Char} {result : Content × List Char}
    (read : reading text = some result) : skip text ≠ [] := by
  intro blank
  rw [← anchored.skips, blank, anchored.blank] at read
  cases read

theorem Anchored.items?_skip {Content : Type} {reading : Reading Content}
    (anchored : Anchored reading) (fuel place : Nat) (read : List Content) (text : List Char) :
    items? (fun _ => reading) fuel place read (skip text) =
      items? (fun _ => reading) fuel place read text := by
  cases fuel with
  | zero => rfl
  | succ fuel => rw [items?, items?, anchored.skips]

/-- The text of a document, with what is made of the document. -/
def itemPart {Content : Type} (image : Json → Content) (item : Json) : List Char × Content :=
  ((written item).toList, image item)

/-- A member with its text, and with what is made of its document. -/
def memberPart {Content : Type} (image : Json → Content) (entry : String × Json) :
    List Char × (String × Content) :=
  ((writtenString entry.1 ++ ":" ++ written entry.2).toList, (entry.1, image entry.2))

theorem snd_comp_itemPart {Content : Type} (image : Json → Content) :
    Prod.snd ∘ itemPart image = image := rfl

theorem arrayRest?_joined {Content : Type} {reading : Reading Content}
    (anchored : Anchored reading) (image : Json → Content) {items : List Json}
    (takes : ∀ item ∈ items, Takes reading (itemPart image item)) (rest : List Char) :
    arrayRest? (fun _ => reading) ((commaJoined (items.map written)).toList ++ ']' :: rest) =
      some (items.map image, rest) := by
  cases items with
  | nil => rfl
  | cons first items =>
    have split : (commaJoined ((first :: items).map written)).toList =
        (itemPart image first).1 ++ continued ((items.map (itemPart image)).map Prod.fst) := by
      rw [List.map_cons, toList_commaJoined, List.map_map, List.map_map]
      rfl
    have parts : ∀ part ∈ itemPart image first :: items.map (itemPart image),
        Takes reading part := by
      intro part member
      rw [← List.map_cons] at member
      obtain ⟨item, itemMember, rfl⟩ := List.mem_map.mp member
      exact takes item itemMember
    have solid := anchored.skip_ne_nil (takes first (List.mem_cons_self ..) [] delimited_nil)
    rw [List.append_nil] at solid
    have read := takes first (List.mem_cons_self ..) _
      (delimited_continued ((items.map (itemPart image)).map Prod.fst) rest (.inl rfl))
    rw [split, List.append_assoc]
    unfold arrayRest?
    split
    · rename_i closing
      rw [← anchored.skips, closing, anchored.bracket] at read
      cases read
    · rw [anchored.items?_skip, items?_continued (fun part member _ => parts part member),
        List.map_map, snd_comp_itemPart, List.reverse_nil, List.nil_append]
      · rfl
      · have longer := length_le_continued ((items.map (itemPart image)).map Prod.fst)
        rw [List.length_map] at longer
        rw [skip_append solid, List.length_append, List.length_append, List.length_cons]
        omega

/-- A member is taken if its value is: its name and the colon are read by every reader. -/
theorem takes_member {Content : Type} (reading : String → Reading Content)
    (image : Json → Content) {entry : String × Json}
    (takes : Takes (reading entry.1) ((written entry.2).toList, image entry.2)) :
    Takes (member? string? reading) (memberPart image entry) := by
  intro rest delimited
  have value := takes rest delimited
  have text : (memberPart image entry).1 ++ rest =
      '\x22' :: (entry.1.toList.flatMap escaped ++
        '\x22' :: ':' :: ((written entry.2).toList ++ rest)) := by
    simp [memberPart, toList_writtenString]
  rw [text, member?, skip_cons _ (show isBlank '\x22' = false by decide)]
  simp only [string?_written, Option.bind_eq_bind, Option.bind_some,
    skip_cons _ (show isBlank ':' = false by decide), value]
  rfl

/-- What belongs to a name may be read in a way of its own, and something else than the document
that was written may be made of it. -/
theorem objectRest?_joined {Content : Type} (reading : String → Reading Content)
    (image : Json → Content) {members : List (String × Json)}
    (takes : ∀ entry ∈ members,
      Takes (reading entry.1) ((written entry.2).toList, image entry.2))
    (rest : List Char) :
    objectRest? (member? string? reading)
        ((commaJoined (members.map fun entry =>
          writtenString entry.1 ++ ":" ++ written entry.2)).toList ++ '\x7d' :: rest) =
      some (members.map fun entry => (entry.1, image entry.2), rest) := by
  cases members with
  | nil =>
    have empty : (commaJoined []).toList = [] := by simp [commaJoined]
    rw [List.map_nil, empty, List.nil_append]
    rfl
  | cons first members =>
    have split : (commaJoined ((first :: members).map fun entry =>
          writtenString entry.1 ++ ":" ++ written entry.2)).toList =
        (memberPart image first).1 ++
          continued ((members.map (memberPart image)).map Prod.fst) := by
      rw [List.map_cons, toList_commaJoined, List.map_map, List.map_map]
      simp only [memberPart, Function.comp_def]
    have parts : ∀ part ∈ memberPart image first :: members.map (memberPart image),
        Takes (member? string? reading) part := by
      intro part member
      rw [← List.map_cons] at member
      obtain ⟨entry, entryMember, rfl⟩ := List.mem_map.mp member
      exact takes_member reading image (takes entry entryMember)
    obtain ⟨start, quoted⟩ : ∃ start, (memberPart image first).1 = '\x22' :: start := by
      simp only [memberPart, String.toList_append, toList_writtenString, List.cons_append]
      exact ⟨_, rfl⟩
    have solid : ∀ more, skip ((memberPart image first).1 ++ more) =
        (memberPart image first).1 ++ more := by
      intro more
      rw [quoted, List.cons_append, skip_cons _ (show isBlank '\x22' = false by decide)]
    rw [split, List.append_assoc]
    unfold objectRest?
    rw [solid]
    split
    · rename_i closing
      rw [quoted] at closing
      cases closing
    · rw [members?_continued parts, List.map_map, List.reverse_nil, List.nil_append]
      · rfl
      · have longer := length_le_continued ((members.map (memberPart image)).map Prod.fst)
        rw [List.length_map] at longer
        rw [quoted, List.length_append, List.length_append, List.length_cons, List.length_cons]
        omega

theorem writtenItems_eq_map (items : List Json) : writtenItems items = items.map written := by
  induction items with
  | nil => rfl
  | cons item rest inductionHypothesis => rw [writtenItems, inductionHypothesis, List.map_cons]

theorem writtenMembers_eq_map (members : List (String × Json)) :
    writtenMembers members =
      members.map fun entry => writtenString entry.1 ++ ":" ++ written entry.2 := by
  induction members with
  | nil => rfl
  | cons entry rest inductionHypothesis =>
    rw [writtenMembers, inductionHypothesis, List.map_cons]

/-- A digit starts a number. -/
theorem document?_digit (levels : Nat) {first : Char} {rest : List Char}
    (digit : isDigit first = true) :
    document? levels (first :: rest) = unsigned? false (first :: rest) := by
  have other : ∀ mark : Char, isDigit mark = false → first ≠ mark := by
    intro mark plain same
    rw [same, plain] at digit
    cases digit
  have solid : isBlank first = false := by
    simp only [isBlank, Bool.or_eq_false_iff, beq_eq_false_iff_ne]
    exact ⟨⟨⟨other _ (by decide), other _ (by decide)⟩, other _ (by decide)⟩, other _ (by decide)⟩
  unfold document?
  rw [skip_cons _ solid]
  simp only [if_neg (other 'n' (by decide)), if_neg (other 't' (by decide)),
    if_neg (other 'f' (by decide)), if_neg (other '\x22' (by decide)),
    if_neg (other '-' (by decide)), digit, if_true]

/-- A whole number that fits 64 bits is read back. -/
theorem takes_integer {value : Int} (low : -(2 ^ 63) ≤ value) (high : value < 2 ^ 64)
    (image : Float → Float) (levels : Nat) :
    Takes (document? levels) (itemPart (recast image) (.integer value)) := by
  intro rest delimited
  cases value with
  | ofNat number =>
    have text : (itemPart (recast image) (.integer (.ofNat number))).1 = Nat.toDigits 10 number :=
      Nat.toList_repr
    have fits : if false then 0 < number ∧ number ≤ 2 ^ 63 else number < 2 ^ 64 := by
      simp at high ⊢
      omega
    have read := unsigned?_append delimited (unsigned?_toDigits fits)
    obtain ⟨first, digits, leading⟩ :=
      List.exists_cons_of_ne_nil (Nat.toDigits_ne_nil (b := 10) (n := number))
    have digit : isDigit first = true :=
      isDigit_of_mem_toDigits (by rw [leading]; exact List.mem_cons_self ..)
    rw [text]
    rw [leading, List.cons_append] at read ⊢
    exact (document?_digit levels digit).trans read
  | negSucc number =>
    have text : (itemPart (recast image) (.integer (.negSucc number))).1 =
        '-' :: Nat.toDigits 10 (number + 1) := by
      show ("-" ++ Nat.repr (number + 1)).toList = _
      rw [String.toList_append, Nat.toList_repr]
      rfl
    have fits : if true then 0 < number + 1 ∧ number + 1 ≤ 2 ^ 63 else number + 1 < 2 ^ 64 := by
      simp
      omega
    have read := unsigned?_append delimited (unsigned?_toDigits fits)
    rw [text, List.cons_append]
    unfold document?
    rw [skip_cons _ (show isBlank '-' = false by decide)]
    exact read

mutual

/-- A readable document is read from in front of whatever may follow it, by a reader that goes down
far enough. What is read is the document with each double as its own text is read. -/
theorem document?_written (image : Float → Float) : ∀ (document : Json) {levels : Nat},
    nesting document ≤ levels → ReadableAs image document →
      Takes (document? levels) (itemPart (recast image) document)
  | .null, levels, _, _ => by
    intro rest delimited
    show document? levels (['n', 'u', 'l', 'l'] ++ rest) = _
    unfold document?
    rfl
  | .bool value, levels, _, _ => by
    intro rest delimited
    cases value
    · show document? levels (['f', 'a', 'l', 's', 'e'] ++ rest) = _
      unfold document?
      rfl
    · show document? levels (['t', 'r', 'u', 'e'] ++ rest) = _
      unfold document?
      rfl
  | .integer value, levels, _, readable => takes_integer readable.1 readable.2 image levels
  | .double value, levels, _, readable =>
    fun _ delimited => document?_double_append levels delimited readable
  | .string value, levels, _, _ => by
    intro rest delimited
    have text : (itemPart (recast image) (.string value)).1 ++ rest =
        '\x22' :: (value.toList.flatMap escaped ++ '\x22' :: rest) := by
      simp [itemPart, written, toList_writtenString]
    rw [text]
    unfold document?
    rw [skip_cons _ (show isBlank '\x22' = false by decide)]
    simp only [string?_written]
    rfl
  | .array items, levels, nested, readable => by
    intro rest delimited
    obtain ⟨levels, rfl⟩ : ∃ less, levels = less + 1 :=
      ⟨levels - 1, by unfold nesting at nested; omega⟩
    have takes := documents?_written image items (Nat.le_of_succ_le_succ nested) readable
    have text : (itemPart (recast image) (.array items)).1 ++ rest =
        '[' :: ((commaJoined (items.map written)).toList ++ ']' :: rest) := by
      simp [itemPart, written, writtenItems_eq_map]
    rw [text]
    unfold document?
    rw [skip_cons _ (show isBlank '[' = false by decide)]
    simp only [arrayRest?_joined (anchored_document? levels) (recast image) takes]
    rw [← recastAll_eq_map]
    rfl
  | .object members, levels, nested, readable => by
    intro rest delimited
    obtain ⟨levels, rfl⟩ : ∃ less, levels = less + 1 :=
      ⟨levels - 1, by unfold nesting at nested; omega⟩
    have takes := members?_written image members (Nat.le_of_succ_le_succ nested) readable
    have text : (itemPart (recast image) (.object members)).1 ++ rest =
        '\x7b' :: ((commaJoined (members.map fun entry =>
          writtenString entry.1 ++ ":" ++ written entry.2)).toList ++ '\x7d' :: rest) := by
      simp [itemPart, written, writtenMembers_eq_map]
    rw [text]
    unfold document?
    rw [skip_cons _ (show isBlank '\x7b' = false by decide)]
    simp only [objectRest?_joined (fun _ => document? levels) (recast image) takes rest]
    rw [← recastMembers_eq_map]
    rfl

/-- Each of several readable documents is read. -/
theorem documents?_written (image : Float → Float) : ∀ (items : List Json) {levels : Nat},
    nestingAll items ≤ levels → ReadableAllAs image items →
      ∀ item ∈ items, Takes (document? levels) (itemPart (recast image) item)
  | [], _, _, _, _, member => nomatch member
  | first :: rest, levels, nested, readable, item, member => by
    unfold nestingAll at nested
    rcases List.mem_cons.mp member with same | later
    · rw [same]
      exact document?_written image first (by omega) readable.1
    · exact documents?_written image rest (by omega) readable.2 item later

/-- Each of several readable members is read. -/
theorem members?_written (image : Float → Float) : ∀ (members : List (String × Json))
    {levels : Nat}, nestingMembers members ≤ levels → ReadableMembersAs image members →
      ∀ entry ∈ members, Takes (document? levels) (itemPart (recast image) entry.2)
  | [], _, _, _, _, member => nomatch member
  | (name, value) :: rest, levels, nested, readable, entry, member => by
    unfold nestingMembers at nested
    rcases List.mem_cons.mp member with same | later
    · rw [same]
      exact document?_written image value (by omega) readable.1
    · exact members?_written image rest (by omega) readable.2 entry later

end

/-- A document whose doubles are read back is read as itself. -/
theorem document?_readable {document : Json} {levels : Nat} (nested : nesting document ≤ levels)
    (readable : Readable document) : Takes (document? levels) (itemPart id document) := by
  have taken := document?_written id document nested readable
  rw [itemPart, recast_id] at taken
  exact taken

end Reader

/-- Reading a document that was written yields it, with each double as its own text is read. -/
theorem read?_recast {image : Float → Float} {document : Json}
    (nested : nesting document ≤ greatestNesting) (readable : ReadableAs image document) :
    read? (written document) = some (recast image document) := by
  have taken := Reader.document?_written image document nested readable [] Reader.delimited_nil
  rw [List.append_nil] at taken
  rw [read?, readWithin?, Reader.all?]
  simp only [Reader.itemPart] at taken
  rw [taken]
  rfl

/-- Reading a document that was written yields it, if its doubles are read back. -/
theorem read?_written {document : Json} (nested : nesting document ≤ greatestNesting)
    (readable : Readable document) : read? (written document) = some document :=
  (read?_recast nested readable).trans (congrArg some (recast_id document))

end Json

end PredicateWire
