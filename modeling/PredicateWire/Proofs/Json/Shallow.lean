/-
This file proves that a reader that goes down as far as a document nests reads from the
text of the document what any reader reads that goes down further. The obvious proof
would read the document back twice, but not every document is read back: a double may be
read as a neighbour of what it was, and a forged number may not be read at all. Nothing
can be said then about what a reader yields, only that two readers yield the same.

No number has to be read back for this. The text of a number has no brackets, so
whatever a reader makes of it, it makes at every level. Where it stops inside such a
text no reader goes on, since neither a comma nor a closing mark comes next. Arrays and
objects are read part by part, by one recursion for both
(`Json.Reader.agree_bracketed`), and the levels are those of the parts.
-/
import PredicateWire.Proofs.Json.Levels

namespace PredicateWire

namespace Json

namespace Reader

/-! ### Plain characters -/

/-- The characters of numbers and of fixed words. -/
def isPlain (character : Char) : Bool :=
  character.isAlphanum || character == '.' || character == '+' || character == '-'

theorem ne_of_isPlain {character mark : Char} (plain : isPlain character = true)
    (special : isPlain mark = false) : character ≠ mark := by
  rintro rfl
  cases plain.symm.trans special

theorem isBlank_of_isPlain {character : Char} (plain : isPlain character = true) :
    isBlank character = false := by
  have other : ∀ mark : Char, isPlain mark = false → (character == mark) = false :=
    fun mark special => beq_false_of_ne (ne_of_isPlain plain special)
  rw [isBlank, other ' ' (by decide), other '\n' (by decide), other '\t' (by decide),
    other '\r' (by decide)]
  rfl

/-- A text of plain characters. -/
def PlainText (text : List Char) : Prop :=
  ∀ character ∈ text, isPlain character = true

instance (text : List Char) : Decidable (PlainText text) :=
  List.decidableBAll (fun character => isPlain character = true) text

@[simp]
theorem plainText_append {first second : List Char} :
    PlainText (first ++ second) ↔ PlainText first ∧ PlainText second :=
  List.forall_mem_append

@[simp]
theorem plainText_cons {first : Char} {rest : List Char} :
    PlainText (first :: rest) ↔ isPlain first = true ∧ PlainText rest :=
  List.forall_mem_cons

theorem PlainText.take {text : List Char} (plain : PlainText text) (count : Nat) :
    PlainText (text.take count) :=
  fun character member => plain character (List.mem_of_mem_take member)

theorem PlainText.drop {text : List Char} (plain : PlainText text) (count : Nat) :
    PlainText (text.drop count) :=
  fun character member => plain character (List.mem_of_mem_drop member)

theorem plainText_zeros (count : Nat) : PlainText (List.replicate count '0') := by
  intro character member
  rw [List.eq_of_mem_replicate member]
  rfl

theorem plainText_toDigits (number : Nat) : PlainText (Nat.toDigits 10 number) := by
  intro digit member
  have decimal := Nat.isDigit_of_mem_toDigits (by decide) (by decide) member
  rw [isPlain, Char.isAlphanum, decimal, Bool.or_true]
  rfl

/-- The text of a whole number consists of digits and perhaps a sign. -/
theorem plainText_toString (number : Int) : PlainText (toString number).toList := by
  cases number with
  | ofNat number =>
    show PlainText (Nat.repr number).toList
    rw [Nat.toList_repr]
    exact plainText_toDigits number
  | negSucc number =>
    show PlainText ("-" ++ Nat.repr (number + 1)).toList
    rw [String.toList_append, Nat.toList_repr]
    exact plainText_append.mpr ⟨by decide, plainText_toDigits _⟩

/-- Digits with a point among them or zeros around them are plain. -/
theorem plainText_positional {digits : List Char} (plain : PlainText digits) (exponent : Int) :
    PlainText (Decimal.positional digits exponent).toList := by
  have padded : ∀ count, PlainText (digits ++ List.replicate count '0') :=
    fun count => plainText_append.mpr ⟨plain, plainText_zeros count⟩
  have zeros : ∀ count, PlainText (List.replicate count '0' ++ digits) :=
    fun count => plainText_append.mpr ⟨plainText_zeros count, plain⟩
  unfold Decimal.positional
  split
  · rw [String.toList_append, plainText_append]
    exact ⟨by decide, (String.toList_ofList (l := _)).symm ▸ zeros _⟩
  · simp only [String.toList_append, String.toList_ofList, plainText_append]
    refine ⟨⟨(padded _).take _, by decide⟩, ?_⟩
    split
    · decide
    · rw [String.toList_ofList]
      exact (padded _).drop _

theorem plainText_scientific (layout : Decimal.Layout) {digits : List Char}
    (plain : PlainText digits) (exponent : Int) :
    PlainText (layout.scientific digits exponent).toList := by
  simp only [Decimal.Layout.scientific, String.toList_append, String.toList_ofList,
    plainText_append]
  refine ⟨⟨⟨⟨plain.take 1, ?_⟩, by decide⟩, ?_⟩, plainText_toString exponent⟩
  · split
    · decide
    · rw [String.toList_append, plainText_append]
      exact ⟨by decide, (String.toList_ofList (l := _)).symm ▸ plain.drop 1⟩
  · split <;> decide

/-- The text of a double is plain, whatever the double is. -/
theorem plainText_double (layout : Decimal.Layout) (number : Float) :
    PlainText (layout.text number).toList := by
  have sign : PlainText (if Decimal.isNegative number then "-" else "").toList := by
    split <;> decide
  unfold Decimal.Layout.text
  dsimp only
  split
  · rw [String.toList_append, plainText_append]
    exact ⟨sign, by decide⟩
  · rename_i value _
    rw [String.toList_append, plainText_append]
    refine ⟨sign, ?_⟩
    unfold Decimal.Layout.binaryText
    dsimp only
    split
    · exact plainText_positional (plainText_toDigits _) _
    · exact plainText_scientific layout (plainText_toDigits _) _
  · rw [String.toList_append, plainText_append]
    exact ⟨sign, by decide⟩
  · decide

/-! ### What a reading leaves -/

/-- What is left of a text, when some of its plain characters may not have been read. -/
def Trails (rest left : List Char) : Prop :=
  ∃ plain, left = plain ++ rest ∧ PlainText plain

section

variable {rest text left : List Char}

/-- What has been read so far may grow by one character, as long as it is not the delimiter. -/
theorem Trails.tail {first : Char} (trails : Trails rest (first :: text))
    (delimited : Delimited rest) (other : first ≠ ',' ∧ first ≠ ']' ∧ first ≠ '\x7d') :
    Trails rest text := by
  obtain ⟨plain, same, all⟩ := trails
  cases plain with
  | nil =>
    rcases delimited first (by rw [← show first :: text = rest from same]; rfl) with
      mark | mark | mark
    · exact absurd mark other.1
    · exact absurd mark other.2.1
    · exact absurd mark other.2.2
  | cons read plain =>
    obtain ⟨_, same⟩ := List.cons.inj same
    exact ⟨plain, same, (plainText_cons.mp all).2⟩

theorem Trails.dropWhile_isDigit (trails : Trails rest text) (delimited : Delimited rest) :
    Trails rest (text.dropWhile isDigit) := by
  induction text with
  | nil => exact trails
  | cons first text inductionHypothesis =>
    rw [List.dropWhile_cons]
    split
    · rename_i digit
      refine inductionHypothesis (trails.tail delimited ⟨?_, ?_, ?_⟩) <;>
        · rintro rfl
          cases digit
    · exact trails

theorem Trails.whole? (trails : Trails rest text) (delimited : Delimited rest) {digits : List Char}
    (read : Reader.whole? text = some (digits, left)) : Trails rest left := by
  unfold Reader.whole? at read
  dsimp only at read
  split at read
  · cases read
  · cases read
  · cases read
    exact trails.dropWhile_isDigit delimited

theorem Trails.fraction? (trails : Trails rest text) (delimited : Delimited rest)
    {digits : List Char} (read : Reader.fraction? text = some (digits, left)) :
    Trails rest left := by
  unfold Reader.fraction? at read
  split at read
  · dsimp only at read
    split at read
    · cases read
    · cases read
      exact (trails.tail delimited (by decide)).dropWhile_isDigit delimited
  · cases read
    exact trails

theorem Trails.exponentDigits? (trails : Trails rest text) (delimited : Delimited rest)
    {negative : Bool} {value : Int}
    (read : Reader.exponentDigits? negative text = some (value, left)) : Trails rest left := by
  unfold Reader.exponentDigits? at read
  dsimp only at read
  split at read
  · cases read
  · cases read
    exact trails.dropWhile_isDigit delimited

theorem Trails.exponent? (trails : Trails rest text) (delimited : Delimited rest)
    {value : Option Int} (read : Reader.exponent? text = some (value, left)) :
    Trails rest left := by
  unfold Reader.exponent? at read
  split at read
  · rename_i mark text
    split at read
    · rename_i marked
      have signed : Trails rest text := trails.tail delimited (by
        rw [Bool.or_eq_true, decide_eq_true_iff, decide_eq_true_iff] at marked
        rcases marked with rfl | rfl <;> decide)
      have digits : ∀ {negative : Bool} {text : List Char}, Trails rest text →
          ((Reader.exponentDigits? negative text).bind fun part => some (some part.1, part.2)) =
            some (value, left) → Trails rest left := by
        intro negative text trails read
        obtain ⟨⟨number, after⟩, taken, result⟩ := Option.bind_eq_some_iff.mp read
        cases result
        exact trails.exponentDigits? delimited taken
      dsimp only at read
      split at read
      · exact digits (signed.tail delimited (by decide)) read
      · exact digits (signed.tail delimited (by decide)) read
      · exact digits signed read
    · cases read
      exact trails
  · cases read
    exact trails

/-- Whatever is read as a number stops before the delimiter or at it. -/
theorem Trails.unsigned? (trails : Trails rest text) (delimited : Delimited rest) {negative : Bool}
    {number : Json} (read : Reader.unsigned? negative text = some (number, left)) :
    Trails rest left := by
  simp only [Reader.unsigned?, Option.bind_eq_bind, Option.bind_eq_some_iff] at read
  obtain ⟨⟨whole, _⟩, wholeRead, ⟨fraction, _⟩, fractionRead, ⟨exponent, _⟩, exponentRead, made, _,
    read⟩ := read
  cases read
  exact ((trails.whole? delimited wholeRead).fraction? delimited fractionRead).exponent? delimited
    exponentRead

theorem Trails.after? (trails : Trails rest text) (delimited : Delimited rest) {word : List Char}
    (plain : PlainText word) (read : Reader.after? word text = some left) : Trails rest left := by
  unfold Reader.after? at read
  split at read
  · rename_i starts
    cases read
    induction word generalizing text with
    | nil => exact trails
    | cons first word inductionHypothesis =>
      cases text with
      | nil => cases starts
      | cons read text =>
        rw [List.isPrefixOf_cons_cons, Bool.and_eq_true, beq_iff_eq] at starts
        obtain ⟨rfl, starts⟩ := starts
        obtain ⟨mark, others⟩ := plainText_cons.mp plain
        refine inductionHypothesis (trails.tail delimited ?_) others starts
        exact ⟨ne_of_isPlain mark (by decide), ne_of_isPlain mark (by decide),
          ne_of_isPlain mark (by decide)⟩
  · cases read

end

/-- A reading has left what follows, or a text that nothing goes on from. -/
def Leaves (rest left : List Char) : Prop :=
  left = rest ∨ ∃ first more, left = first :: more ∧ isPlain first = true

/-- What is left is all that follows, or it goes on in the middle of the number. -/
theorem Trails.leaves {rest left : List Char} (trails : Trails rest left) : Leaves rest left := by
  obtain ⟨plain, rfl, all⟩ := trails
  cases plain with
  | nil => exact .inl rfl
  | cons first plain => exact .inr ⟨first, plain ++ rest, rfl, all first (.head _)⟩

/-! ### Readings that agree on a text -/

/-- Two readings do the same with a text, whatever may follow it. -/
structure Agree {Content : Type} (far near : Reading Content) (text : List Char) : Prop where
  same : ∀ {rest}, Delimited rest → far (text ++ rest) = near (text ++ rest)
  leaves : ∀ {rest content left}, Delimited rest → near (text ++ rest) = some (content, left) →
    Leaves rest left

/-- Only an opening bracket makes a difference to how far a reader goes down. -/
theorem document?_flat {first : Char} (rest : List Char) (solid : isBlank first = false)
    (other : first ≠ '[' ∧ first ≠ '\x7b') (levels : Nat) :
    document? levels (first :: rest) = document? 0 (first :: rest) := by
  unfold document?
  rw [skip_cons rest solid]
  cases levels with
  | zero => rfl
  | succ levels =>
    dsimp only
    rw [if_neg other.1, if_neg other.2]

theorem document?_delimited {rest : List Char} (delimited : Delimited rest) (levels : Nat) :
    document? levels rest = none := by
  cases rest with
  | nil =>
    unfold document?
    rfl
  | cons first rest =>
    rcases delimited first rfl with rfl | rfl | rfl <;>
      rw [document?_flat rest (by decide) (by decide)] <;>
      · unfold document?
        rfl

/-- Readers make the same of a plain text at every level. -/
theorem agree_plain {text : List Char} (plain : PlainText text) (far near : Nat) :
    Agree (document? far) (document? near) text := by
  cases text with
  | nil =>
    refine ⟨fun delimited => ?_, fun delimited read => ?_⟩
    · rw [List.nil_append, document?_delimited delimited, document?_delimited delimited]
    · rw [List.nil_append, document?_delimited delimited] at read
      cases read
  | cons first text =>
    obtain ⟨mark, others⟩ := plainText_cons.mp plain
    have solid := isBlank_of_isPlain mark
    have flat := fun (rest : List Char) (levels : Nat) => document?_flat rest solid
      ⟨ne_of_isPlain mark (by decide), ne_of_isPlain mark (by decide)⟩ levels
    refine ⟨fun {rest} _ => ?_, fun {rest content left} delimited read => ?_⟩
    · rw [List.cons_append, flat, flat _ near]
    · have trails : Trails rest (text ++ rest) := ⟨text, rfl, others⟩
      rw [List.cons_append, flat] at read
      unfold document? at read
      rw [skip_cons _ solid] at read
      dsimp only at read
      rw [if_neg (ne_of_isPlain mark (show isPlain '\x22' = false by decide))] at read
      have fixed : ∀ {word : List Char} {document : Json}, PlainText word →
          (after? word (text ++ rest)).map (fun rest => (document, rest)) = some (content, left) →
            Leaves rest left := by
        intro word document all read
        obtain ⟨after, taken, made⟩ := Option.map_eq_some_iff.mp read
        cases made
        exact (trails.after? delimited all taken).leaves
      have whole : Trails rest (first :: (text ++ rest)) := ⟨first :: text, rfl, plain⟩
      revert read
      refine ite_elim (fixed (by decide)) (ite_elim (fixed (by decide))
        (ite_elim (fixed (by decide)) (ite_elim ?_ (ite_elim ?_ fun read => nomatch read))))
      · exact fun read => (trails.unsigned? delimited read).leaves
      · exact fun read => (whole.unsigned? delimited read).leaves

theorem agree_string (value : String) (far near : Nat) :
    Agree (document? far) (document? near) (writtenString value).toList := by
  have read : ∀ (rest : List Char) (levels : Nat),
      document? levels ((writtenString value).toList ++ rest) = some (.string value, rest) := by
    intro rest levels
    rw [toList_writtenString, List.cons_append, List.append_assoc, List.singleton_append]
    unfold document?
    rw [skip_cons _ (show isBlank '\x22' = false by decide)]
    simp only [string?_written]
    rfl
  refine ⟨fun _ => by rw [read, read], fun _ taken => ?_⟩
  rw [read] at taken
  cases taken
  exact .inl rfl

/-! ### Items and members -/

section

variable {Content : Type}

/-- Reads what stands between commas up to a closing mark, the first of it from here. -/
def listed? (closing : Char) (reading : Reading Content) :
    Nat → List Content → List Char → Option (List Content × List Char)
  | 0, _, _ => none
  | fuel + 1, read, text =>
    (reading text).bind fun (value, left) =>
      match skip left with
      | [] => none
      | mark :: rest =>
        if mark = ',' then listed? closing reading fuel (value :: read) rest
        else if mark = closing then some ((value :: read).reverse, rest)
        else none

/-- Reads what stands between commas from after an opening mark. -/
def listedRest? (closing : Char) (reading : Reading Content) : Reading (List Content) :=
  fun text =>
    match skip text with
    | [] => none
    | mark :: rest =>
      if mark = closing then some ([], rest)
      else listed? closing reading (rest.length + 1) [] (mark :: rest)

/-- The items of an array are read as what stands between commas, if all are read in one way. -/
theorem items?_eq_listed? (reading : Reading Content) (fuel place : Nat) (read : List Content)
    (text : List Char) :
    items? (fun _ => reading) fuel place read text = listed? ']' reading fuel read text := by
  induction fuel generalizing place read text with
  | zero => rfl
  | succ fuel inductionHypothesis =>
    rw [items?, listed?, Option.bind_eq_bind]
    refine Option.bind_congr fun result _ => ?_
    obtain ⟨value, left⟩ := result
    dsimp only
    cases skip left with
    | nil => rfl
    | cons mark rest =>
      dsimp only
      split <;> simp_all

/-- So are the members of an object, up to another closing mark. -/
theorem members?_eq_listed? (reading : Reading Content) (fuel : Nat) (read : List Content)
    (text : List Char) :
    members? reading fuel read text = listed? '\x7d' reading fuel read text := by
  induction fuel generalizing read text with
  | zero => rfl
  | succ fuel inductionHypothesis =>
    rw [members?, listed?, Option.bind_eq_bind]
    refine Option.bind_congr fun result _ => ?_
    obtain ⟨value, left⟩ := result
    dsimp only
    cases skip left with
    | nil => rfl
    | cons mark rest =>
      dsimp only
      split <;> simp_all

theorem arrayRest?_eq_listedRest? (reading : Reading Content) :
    arrayRest? (fun _ => reading) = listedRest? ']' reading := by
  funext text
  unfold arrayRest? listedRest?
  simp only [items?_eq_listed?]
  cases skip text with
  | nil => rfl
  | cons mark rest =>
    dsimp only
    split <;> simp_all

theorem objectRest?_eq_listedRest? (reading : Reading Content) :
    objectRest? reading = listedRest? '\x7d' reading := by
  funext text
  unfold objectRest? listedRest?
  simp only [members?_eq_listed?]
  cases skip text with
  | nil => rfl
  | cons mark rest =>
    dsimp only
    split <;> simp_all

variable {far near : Reading Content} {closing : Char}

/-- Where readings agree on the parts of a text, they agree on all of it, and if they get to its end
they leave what follows the closing mark. -/
theorem agree_listed? (closes : closing = ']' ∨ closing = '\x7d') {first : List Char}
    {texts : List (List Char)} (agree : ∀ text ∈ first :: texts, Agree far near text) (fuel : Nat)
    (read : List Content) (rest : List Char) :
    listed? closing far fuel read (first ++ (continued texts ++ closing :: rest)) =
        listed? closing near fuel read (first ++ (continued texts ++ closing :: rest)) ∧
      ∀ {values left},
        listed? closing near fuel read (first ++ (continued texts ++ closing :: rest)) =
          some (values, left) → left = rest := by
  induction fuel generalizing first texts read with
  | zero => exact ⟨rfl, fun done => by cases done⟩
  | succ fuel inductionHypothesis =>
    have delimited := delimited_continued texts rest closes
    have head := agree first (.head _)
    rw [listed?, listed?, head.same delimited]
    cases taken : near (first ++ (continued texts ++ closing :: rest)) with
    | none => exact ⟨rfl, fun done => by cases done⟩
    | some result =>
      obtain ⟨value, left⟩ := result
      simp only [Option.bind_some]
      rcases head.leaves delimited taken with rfl | ⟨mark, more, rfl, plain⟩
      · cases texts with
        | nil =>
          have solid : isBlank closing = false := by rcases closes with rfl | rfl <;> decide
          have other : closing ≠ ',' := by rcases closes with rfl | rfl <;> decide
          rw [show continued [] ++ closing :: rest = closing :: rest from rfl, skip_cons rest solid]
          simp only [if_neg other, if_pos]
          exact ⟨trivial, fun done => by cases done; rfl⟩
        | cons second texts =>
          have split : continued (second :: texts) ++ closing :: rest =
              ',' :: (second ++ (continued texts ++ closing :: rest)) := by
            simp [continued]
          rw [split, skip_cons _ (show isBlank ',' = false by decide)]
          exact inductionHypothesis (fun text member => agree text (.tail _ member)) (value :: read)
      -- Inside the text of a number nothing goes on.
      · rw [skip_cons more (isBlank_of_isPlain plain)]
        have comma := ne_of_isPlain plain (show isPlain ',' = false by decide)
        have other : mark ≠ closing := by
          rcases closes with rfl | rfl <;> exact ne_of_isPlain plain (by decide)
        simp only [if_neg comma, if_neg other]
        exact ⟨trivial, fun done => by cases done⟩

/-- Several texts with commas between them. -/
def joined : List (List Char) → List Char
  | [] => []
  | first :: rest => first ++ continued rest

theorem toList_commaJoined_eq_joined (parts : List String) :
    (commaJoined parts).toList = joined (parts.map String.toList) := by
  cases parts with
  | nil => simp [commaJoined, joined]
  | cons first rest => exact toList_commaJoined first rest

/-- A text does not start with a blank or a closing mark. -/
def Opens (closing : Char) (text : List Char) : Prop :=
  ∀ first ∈ text.head?, isBlank first = false ∧ first ≠ closing

/-- Joined texts open as the first of them does, and with none of them nothing opens. -/
theorem opens_joined (closes : closing = ']' ∨ closing = '\x7d') {texts : List (List Char)}
    (opens : ∀ text ∈ texts, Opens closing text) : Opens closing (joined texts) := by
  intro mark member
  cases texts with
  | nil => cases member
  | cons first texts =>
    cases first with
    | nil =>
      cases texts with
      | nil => cases member
      | cons second texts =>
        cases member
        rcases closes with rfl | rfl <;> decide
    | cons other first =>
      cases member
      exact opens _ (.head _) _ rfl

/-- What follows an opening mark is read alike where the parts are, in particular where there are
none. -/
theorem agree_listedRest? (closes : closing = ']' ∨ closing = '\x7d') {texts : List (List Char)}
    (opens : ∀ text ∈ texts, Opens closing text) (agree : ∀ text ∈ texts, Agree far near text)
    (rest : List Char) :
    listedRest? closing far (joined texts ++ closing :: rest) =
        listedRest? closing near (joined texts ++ closing :: rest) ∧
      ∀ {values left}, listedRest? closing near (joined texts ++ closing :: rest) =
        some (values, left) → left = rest := by
  unfold listedRest?
  cases start : joined texts with
  | nil =>
    have solid : isBlank closing = false := by rcases closes with rfl | rfl <;> decide
    rw [List.nil_append, skip_cons rest solid]
    simp only [if_pos]
    exact ⟨trivial, fun done => by cases done; rfl⟩
  | cons mark more =>
    obtain ⟨solid, other⟩ := opens_joined closes opens mark (by rw [start]; rfl)
    obtain ⟨first, others, rfl⟩ : ∃ first others, texts = first :: others :=
      List.exists_cons_of_ne_nil fun none => by rw [none] at start; cases start
    have whole : mark :: (more ++ closing :: rest) =
        first ++ (continued others ++ closing :: rest) := by
      rw [← List.cons_append, ← start, joined, List.append_assoc]
    rw [List.cons_append, skip_cons _ solid]
    simp only [if_neg other]
    rw [whole]
    exact agree_listed? closes agree _ [] rest

/-- Readings agree on a list in brackets if they go about it by readings that agree on its parts. -/
theorem agree_bracketed {opening : Char} (closes : closing = ']' ∨ closing = '\x7d')
    {further nearer : Reading Json} {whole : List Content → Json}
    (goes : ∀ text, further (opening :: text) =
      (listedRest? closing far text).bind fun (parts, rest) => some (whole parts, rest))
    (goesNear : ∀ text, nearer (opening :: text) =
      (listedRest? closing near text).bind fun (parts, rest) => some (whole parts, rest))
    {texts : List (List Char)} (opens : ∀ text ∈ texts, Opens closing text)
    (agree : ∀ text ∈ texts, Agree far near text) :
    Agree further nearer (opening :: (joined texts ++ [closing])) := by
  have split : ∀ rest, opening :: (joined texts ++ [closing]) ++ rest =
      opening :: (joined texts ++ closing :: rest) := fun rest => by simp
  refine ⟨fun {rest} _ => ?_, fun {rest content left} _ read => .inl ?_⟩
  · rw [split, goes, goesNear, (agree_listedRest? closes opens agree rest).1]
  · rw [split, goesNear] at read
    obtain ⟨⟨parts, after⟩, taken, made⟩ := Option.bind_eq_some_iff.mp read
    cases made
    exact (agree_listedRest? closes opens agree rest).2 taken

end

/-! ### Documents -/

/-- An array is read as a list between brackets, with one level less for its items. -/
theorem document?_array (levels : Nat) (text : List Char) :
    document? (levels + 1) ('[' :: text) =
      (listedRest? ']' (document? levels) text).bind fun (items, rest) =>
        some (.array items, rest) := by
  unfold document?
  rw [skip_cons _ (show isBlank '[' = false by decide), ← arrayRest?_eq_listedRest?]
  rfl

/-- An object is read as a list between braces, with one level less for its values. -/
theorem document?_object (levels : Nat) (text : List Char) :
    document? (levels + 1) ('\x7b' :: text) =
      (listedRest? '\x7d' (member? string? fun _ => document? levels) text).bind
        fun (members, rest) => some (.object members, rest) := by
  unfold document?
  rw [skip_cons _ (show isBlank '\x7b' = false by decide), ← objectRest?_eq_listedRest?]
  rfl

/-- A plain text starts with no blank and no bracket. -/
theorem PlainText.opens {text : List Char} (plain : PlainText text) : Opens ']' text := by
  intro first member
  have mark := plain first (List.mem_of_mem_head? member)
  exact ⟨isBlank_of_isPlain mark, ne_of_isPlain mark (by decide)⟩

/-- No document starts with a blank or with the end of an array. -/
theorem opens_written (document : Json) : Opens ']' (written document).toList := by
  cases document with
  | null => exact PlainText.opens (by decide)
  | bool value => exact PlainText.opens (by cases value <;> decide)
  | integer value => exact (plainText_toString value).opens
  | double value => exact (plainText_double _ value).opens
  | string value =>
    rw [written, toList_writtenString]
    rintro _ ⟨⟩
    decide
  | array items =>
    rw [written, String.toList_append, String.toList_append]
    rintro _ ⟨⟩
    decide
  | object members =>
    rw [written, String.toList_append, String.toList_append]
    rintro _ ⟨⟩
    decide

/-- Readings of values that agree make readings of members that agree. -/
theorem agree_member? {far near : Reading Json} (name : String) {value : Json}
    (agree : Agree far near (written value).toList) :
    Agree (member? string? fun _ => far) (member? string? fun _ => near)
      (writtenString name ++ ":" ++ written value).toList := by
  have start : ∀ (reading : Reading Json) (rest : List Char),
      member? string? (fun _ => reading)
          ((writtenString name ++ ":" ++ written value).toList ++ rest) =
        (reading ((written value).toList ++ rest)).bind fun result =>
          some ((name, result.1), result.2) := by
    intro reading rest
    have text : (writtenString name ++ ":" ++ written value).toList ++ rest =
        '\x22' :: (name.toList.flatMap escaped ++
          '\x22' :: ':' :: ((written value).toList ++ rest)) := by
      simp [toList_writtenString]
    rw [text, member?, skip_cons _ (show isBlank '\x22' = false by decide)]
    simp only [string?_written, Option.bind_eq_bind, Option.bind_some,
      skip_cons _ (show isBlank ':' = false by decide)]
    rfl
  refine ⟨fun delimited => ?_, fun delimited read => ?_⟩
  · rw [start, start, agree.same delimited]
  · rw [start, Option.bind_eq_some_iff] at read
    obtain ⟨⟨content, left⟩, taken, made⟩ := read
    cases made
    exact agree.leaves delimited taken

mutual

/-- Readers that go down as far as a document nests agree on its text. -/
theorem agree_written : ∀ (document : Json) {near far : Nat}, nesting document ≤ near →
    near ≤ far → Agree (document? far) (document? near) (written document).toList
  | .null, near, far, _, _ => agree_plain (by decide) far near
  | .bool value, near, far, _, _ => agree_plain (by cases value <;> decide) far near
  | .integer value, near, far, _, _ => agree_plain (plainText_toString value) far near
  | .double value, near, far, _, _ => agree_plain (plainText_double _ value) far near
  | .string value, near, far, _, _ => agree_string value far near
  | .array items, near, far, nested, deeper => by
    obtain ⟨near, rfl⟩ : ∃ less, near = less + 1 := ⟨near - 1, by unfold nesting at nested; omega⟩
    obtain ⟨far, rfl⟩ : ∃ less, far = less + 1 := ⟨far - 1, by omega⟩
    have agree := agree_items items (Nat.le_of_succ_le_succ nested) (Nat.le_of_succ_le_succ deeper)
    have text : (written (.array items)).toList =
        '[' :: (joined (items.map fun item => (written item).toList) ++ [']']) := by
      simp [written, writtenItems_eq_map, toList_commaJoined_eq_joined, Function.comp_def]
    rw [text]
    exact agree_bracketed (.inl rfl) (document?_array far) (document?_array near)
      (List.forall_mem_map.mpr fun item _ => opens_written item) (List.forall_mem_map.mpr agree)
  | .object members, near, far, nested, deeper => by
    obtain ⟨near, rfl⟩ : ∃ less, near = less + 1 := ⟨near - 1, by unfold nesting at nested; omega⟩
    obtain ⟨far, rfl⟩ : ∃ less, far = less + 1 := ⟨far - 1, by omega⟩
    have agree := agree_members members (Nat.le_of_succ_le_succ nested)
      (Nat.le_of_succ_le_succ deeper)
    have text : (written (.object members)).toList = '\x7b' ::
        (joined (members.map fun entry => (writtenString entry.1 ++ ":" ++ written entry.2).toList) ++
          ['\x7d']) := by
      simp [written, writtenMembers_eq_map, toList_commaJoined_eq_joined, Function.comp_def]
    rw [text]
    refine agree_bracketed (.inr rfl) (document?_object far) (document?_object near)
      (List.forall_mem_map.mpr fun entry _ => ?_)
      (List.forall_mem_map.mpr fun entry member => agree_member? entry.1 (agree entry member))
    rw [String.toList_append, String.toList_append, toList_writtenString]
    rintro _ ⟨⟩
    decide

theorem agree_items : ∀ (items : List Json) {near far : Nat}, nestingAll items ≤ near →
    near ≤ far → ∀ item ∈ items, Agree (document? far) (document? near) (written item).toList
  | [], _, _, _, _, _, member => nomatch member
  | first :: rest, near, far, nested, deeper, item, member => by
    unfold nestingAll at nested
    rcases List.mem_cons.mp member with same | later
    · rw [same]
      exact agree_written first (by omega) deeper
    · exact agree_items rest (by omega) deeper item later

theorem agree_members : ∀ (members : List (String × Json)) {near far : Nat},
    nestingMembers members ≤ near → near ≤ far → ∀ entry ∈ members,
      Agree (document? far) (document? near) (written entry.2).toList
  | [], _, _, _, _, _, member => nomatch member
  | (name, value) :: rest, near, far, nested, deeper, entry, member => by
    unfold nestingMembers at nested
    rcases List.mem_cons.mp member with same | later
    · rw [same]
      exact agree_written value (by omega) deeper
    · exact agree_members rest (by omega) deeper entry later

end

end Reader

/-- No reader that goes down further than a document nests reads its text in another way. -/
theorem readWithin?_written {document : Json} {near far : Nat} (nested : nesting document ≤ near)
    (deeper : near ≤ far) :
    readWithin? far (written document) = readWithin? near (written document) := by
  have same := (Reader.agree_written document nested deeper).same Reader.delimited_nil
  rw [List.append_nil] at same
  rw [readWithin?, readWithin?, Reader.all?, Reader.all?, same]

end Json

end PredicateWire
