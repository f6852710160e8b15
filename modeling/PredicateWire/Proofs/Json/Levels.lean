/-
This file proves what the number of levels means to a reader of documents. A reader that
goes down further reads nothing else than before, and what it reads nests no deeper than
it goes. A document that was written is therefore read back if it nests no deeper than
the reader goes, and not read at all if it does (`Json.read?_written_eq`).

The second fact is an instance of something more general, and it is proved in this form:
what is read has every property that leaves have and that arrays and objects have if
their parts do, with one level less (`Json.Reader.document?_reads`). The property may
depend on the level, and that is how levels are counted here; the range of the numbers
that are read is another such property, and typed nodes are a third one.
-/
import PredicateWire.Proofs.Json.Text

namespace PredicateWire

namespace Json

namespace Reader

/-! ### Going down further -/

section

variable {Content : Type}

/-- A reading reads at least what another one reads. -/
def Extends (further reading : Reading Content) : Prop :=
  ∀ {text result}, reading text = some result → further text = some result

/-- Items are read by the further reader if they are read at all, since it reads each of them. -/
theorem items?_extends {further reading : Nat → Reading Content}
    (extends_ : ∀ place, Extends (further place) (reading place)) {fuel place : Nat}
    {read : List Content} {text : List Char} {result : List Content × List Char}
    (done : items? reading fuel place read text = some result) :
    items? further fuel place read text = some result := by
  induction fuel generalizing place read text with
  | zero => cases done
  | succ fuel inductionHypothesis =>
    rw [items?, Option.bind_eq_bind, Option.bind_eq_some_iff] at done
    obtain ⟨⟨value, left⟩, first, done⟩ := done
    rw [items?, extends_ place first, Option.bind_eq_bind, Option.bind_some]
    dsimp only at done ⊢
    split at done
    · exact inductionHypothesis done
    · exact done
    · cases done

theorem arrayRest?_extends {further reading : Nat → Reading Content}
    (extends_ : ∀ place, Extends (further place) (reading place)) :
    Extends (arrayRest? further) (arrayRest? reading) := by
  intro text result done
  unfold arrayRest? at done ⊢
  split at done
  · exact done
  · exact items?_extends extends_ done

/-- A member is a name, which every reader reads alike, and a value. -/
theorem member?_extends {Name : Type} {name : Reading Name} {further reading : Name → Reading Content}
    (extends_ : ∀ name, Extends (further name) (reading name)) :
    Extends (member? name further) (member? name reading) := by
  intro text result done
  unfold member? at done ⊢
  split at done
  · rw [Option.bind_eq_bind, Option.bind_eq_some_iff] at done
    obtain ⟨⟨found, left⟩, named, done⟩ := done
    rw [named, Option.bind_eq_bind, Option.bind_some]
    dsimp only at done ⊢
    split at done
    · rw [Option.bind_eq_bind, Option.bind_eq_some_iff] at done
      obtain ⟨⟨value, left⟩, read, done⟩ := done
      rw [extends_ found read, Option.bind_eq_bind, Option.bind_some]
      exact done
    · cases done
  · cases done

theorem members?_extends {further reading : Reading Content} (extends_ : Extends further reading)
    {fuel : Nat} {read : List Content} {text : List Char} {result : List Content × List Char}
    (done : members? reading fuel read text = some result) :
    members? further fuel read text = some result := by
  induction fuel generalizing read text with
  | zero => cases done
  | succ fuel inductionHypothesis =>
    rw [members?, Option.bind_eq_bind, Option.bind_eq_some_iff] at done
    obtain ⟨⟨value, left⟩, first, done⟩ := done
    rw [members?, extends_ first, Option.bind_eq_bind, Option.bind_some]
    dsimp only at done ⊢
    split at done
    · exact inductionHypothesis done
    · exact done
    · cases done

theorem objectRest?_extends {further reading : Reading Content}
    (extends_ : Extends further reading) : Extends (objectRest? further) (objectRest? reading) := by
  intro text result done
  unfold objectRest? at done ⊢
  split at done
  · exact done
  · exact members?_extends extends_ done

end

/-- A conditional has another outcome only if its second branch has. -/
theorem ite_of_ite {Content : Type} {condition : Prop} [Decidable condition]
    {first second other result : Content} (otherwise : second = result → other = result) :
    (if condition then first else second) = result →
      (if condition then first else other) = result := by
  split
  · exact id
  · exact otherwise

/-- A reader that goes down further reads at least as much. -/
theorem document?_extends {levels further : Nat} (deeper : levels ≤ further) :
    Extends (document? further) (document? levels) := by
  induction levels generalizing further with
  | zero =>
    intro text result
    unfold document?
    cases skip text with
    | nil => exact id
    | cons first rest =>
      dsimp only
      iterate 6 refine ite_of_ite ?_
      exact fun done => nomatch done
  | succ levels inductionHypothesis =>
    obtain ⟨further, rfl⟩ : ∃ less, further = less + 1 := ⟨further - 1, by omega⟩
    have inner : Extends (document? further) (document? levels) :=
      inductionHypothesis (Nat.le_of_succ_le_succ deeper)
    intro text result
    unfold document?
    cases skip text with
    | nil => exact id
    | cons first rest =>
      dsimp only
      iterate 6 refine ite_of_ite ?_
      split
      · intro done
        rw [Option.bind_eq_bind, Option.bind_eq_some_iff] at done
        obtain ⟨⟨items, left⟩, read, done⟩ := done
        rw [arrayRest?_extends (fun _ => inner) read]
        exact done
      · split
        · intro done
          rw [Option.bind_eq_bind, Option.bind_eq_some_iff] at done
          obtain ⟨⟨members, left⟩, read, done⟩ := done
          rw [objectRest?_extends (member?_extends fun _ => inner) read]
          exact done
        · exact id

/-! ### What is read -/

section

variable {Content : Type} {holds : Content → Prop}

/-- Whatever a reading reads has a property. -/
def Reads (holds : Content → Prop) (reading : Reading Content) : Prop :=
  ∀ {text value rest}, reading text = some (value, rest) → holds value

/-- Items have a property if each of them has it, those that were read before included. -/
theorem items?_reads {reading : Nat → Reading Content}
    (reads : ∀ place, Reads holds (reading place)) {fuel place : Nat} {read : List Content}
    (earlier : ∀ value ∈ read, holds value) {text rest : List Char} {values : List Content}
    (done : items? reading fuel place read text = some (values, rest)) :
    ∀ value ∈ values, holds value := by
  induction fuel generalizing place read text with
  | zero => cases done
  | succ fuel inductionHypothesis =>
    rw [items?, Option.bind_eq_bind, Option.bind_eq_some_iff] at done
    obtain ⟨⟨value, left⟩, first, done⟩ := done
    have all : ∀ other ∈ value :: read, holds other :=
      List.forall_mem_cons.mpr ⟨reads place first, earlier⟩
    dsimp only at done
    split at done
    · exact inductionHypothesis all done
    · cases done
      exact fun other member => all other (List.mem_reverse.mp member)
    · cases done

/-- The items of an array have a property that its readings establish. -/
theorem arrayRest?_reads {reading : Nat → Reading Content}
    (reads : ∀ place, Reads holds (reading place)) :
    Reads (fun values => ∀ value ∈ values, holds value) (arrayRest? reading) := by
  intro text values rest done
  unfold arrayRest? at done
  split at done
  · cases done
    intro value member
    cases member
  · exact items?_reads reads (List.forall_mem_nil _) done

theorem member?_reads {Name : Type} {name : Reading Name} {reading : Name → Reading Content}
    (reads : ∀ name, Reads holds (reading name)) :
    Reads (fun entry => holds entry.2) (member? name reading) := by
  intro text entry rest done
  unfold member? at done
  split at done
  · rw [Option.bind_eq_bind, Option.bind_eq_some_iff] at done
    obtain ⟨⟨found, left⟩, _, done⟩ := done
    dsimp only at done
    split at done
    · rw [Option.bind_eq_bind, Option.bind_eq_some_iff] at done
      obtain ⟨⟨value, left⟩, read, done⟩ := done
      cases done
      exact reads found read
    · cases done
  · cases done

theorem members?_reads {reading : Reading Content} (reads : Reads holds reading) {fuel : Nat}
    {read : List Content} (earlier : ∀ value ∈ read, holds value) {text rest : List Char}
    {values : List Content} (done : members? reading fuel read text = some (values, rest)) :
    ∀ value ∈ values, holds value := by
  induction fuel generalizing read text with
  | zero => cases done
  | succ fuel inductionHypothesis =>
    rw [members?, Option.bind_eq_bind, Option.bind_eq_some_iff] at done
    obtain ⟨⟨value, left⟩, first, done⟩ := done
    have all : ∀ other ∈ value :: read, holds other :=
      List.forall_mem_cons.mpr ⟨reads first, earlier⟩
    dsimp only at done
    split at done
    · exact inductionHypothesis all done
    · cases done
      exact fun other member => all other (List.mem_reverse.mp member)
    · cases done

/-- The values of an object have a property that its readings establish. Its names may be
anything. -/
theorem objectRest?_reads {reading : Reading Content} (reads : Reads holds reading) :
    Reads (fun values => ∀ value ∈ values, holds value) (objectRest? reading) := by
  intro text values rest done
  unfold objectRest? at done
  split at done
  · cases done
    intro value member
    cases member
  · exact members?_reads reads (List.forall_mem_nil _) done

end

theorem ite_elim {Content : Type} {condition : Prop} [Decidable condition]
    {first second result : Content} {holds : Prop} (yes : first = result → holds)
    (no : second = result → holds) : (if condition then first else second) = result → holds := by
  split
  · exact yes
  · exact no

/-- What is made of every content has a property, so what is made of what was read has it. -/
theorem map_elim {First : Type} {reading : Option First} {make : First → Json × List Char}
    {holds : Json → Prop} (leaf : ∀ content, holds (make content).1) {document : Json}
    {rest : List Char} : reading.map make = some (document, rest) → holds document := by
  intro done
  obtain ⟨first, _, made⟩ := Option.map_eq_some_iff.mp done
  have same : (make first).1 = document := congrArg Prod.fst made
  exact same ▸ leaf first

/-- A number has a property that every number has that its parts can make. -/
theorem unsigned?_reads {holds : Json → Prop} {negative : Bool}
    (number : ∀ {whole fraction exponent document},
      ofParts? negative whole fraction exponent = some document → holds document) :
    Reads holds (unsigned? negative) := by
  intro text document rest done
  simp only [unsigned?, Option.bind_eq_bind, Option.bind_eq_some_iff] at done
  obtain ⟨⟨whole, _⟩, _, ⟨fraction, _⟩, _, ⟨exponent, _⟩, _, made, parts, done⟩ := done
  cases done
  exact number parts

/-- Whatever is read has a property that leaves have, and that arrays and objects have if what they
hold has it with one level less. -/
theorem document?_reads (holds : Nat → Json → Prop) (null : ∀ levels, holds levels .null)
    (bool : ∀ levels value, holds levels (.bool value))
    (string : ∀ levels text, holds levels (.string text))
    (number : ∀ levels negative, Reads (holds levels) (unsigned? negative))
    (array : ∀ levels items, (∀ item ∈ items, holds levels item) →
      holds (levels + 1) (.array items))
    (object : ∀ levels members, (∀ entry ∈ members, holds levels entry.2) →
      holds (levels + 1) (.object members)) (levels : Nat) :
    Reads (holds levels) (document? levels) := by
  induction levels using Nat.strongRecOn with
  | ind levels inductionHypothesis =>
    intro text document left
    unfold document?
    cases skip text with
    | nil => exact fun done => nomatch done
    | cons first rest =>
      dsimp only
      refine ite_elim (map_elim fun _ => null levels) ?_
      refine ite_elim (map_elim fun _ => bool levels true) ?_
      refine ite_elim (map_elim fun _ => bool levels false) ?_
      refine ite_elim (map_elim fun found => string levels found.1) ?_
      refine ite_elim (number levels true) (ite_elim (number levels false) ?_)
      cases levels with
      | zero => exact fun done => nomatch done
      | succ levels =>
        have inner : Reads (holds levels) (document? levels) :=
          inductionHypothesis levels (Nat.lt_succ_self levels)
        refine ite_elim (fun done => ?_) (ite_elim (fun done => ?_) fun done => nomatch done)
        · rw [Option.bind_eq_bind, Option.bind_eq_some_iff] at done
          obtain ⟨⟨items, left⟩, read, done⟩ := done
          cases done
          exact array levels items (arrayRest?_reads (fun _ => inner) read)
        · rw [Option.bind_eq_bind, Option.bind_eq_some_iff] at done
          obtain ⟨⟨members, left⟩, read, done⟩ := done
          cases done
          exact object levels members (objectRest?_reads (member?_reads fun _ => inner) read)

/-! ### Levels of what is read -/

/-- Several documents nest as deep as the deepest of them. -/
theorem nestingAll_le {items : List Json} {levels : Nat}
    (each : ∀ item ∈ items, nesting item ≤ levels) : nestingAll items ≤ levels := by
  induction items with
  | nil => exact Nat.zero_le levels
  | cons item rest inductionHypothesis =>
    rw [List.forall_mem_cons] at each
    exact Nat.max_le.mpr ⟨each.1, inductionHypothesis each.2⟩

theorem nestingMembers_le {members : List (String × Json)} {levels : Nat}
    (each : ∀ entry ∈ members, nesting entry.2 ≤ levels) : nestingMembers members ≤ levels := by
  induction members with
  | nil => exact Nat.zero_le levels
  | cons entry rest inductionHypothesis =>
    rw [List.forall_mem_cons] at each
    exact Nat.max_le.mpr ⟨each.1, inductionHypothesis each.2⟩

/-- A number opens no level. -/
theorem nesting_ofParts? {negative : Bool} {whole fraction : List Char} {exponent : Option Int}
    {document : Json} :
    ofParts? negative whole fraction exponent = some document → nesting document = 0 := by
  refine ite_elim (fun parts => ?_) fun parts => ?_
  · cases parts
    rfl
  · rw [Option.bind_eq_bind, Option.bind_eq_some_iff] at parts
    obtain ⟨number, _, parts⟩ := parts
    cases parts
    rfl

/-- What is read nests no deeper than the reader goes. -/
theorem nesting_document? (levels : Nat) :
    Reads (fun document => nesting document ≤ levels) (document? levels) :=
  document?_reads (fun levels document => nesting document ≤ levels)
    (fun levels => Nat.zero_le levels) (fun levels _ => Nat.zero_le levels)
    (fun levels _ => Nat.zero_le levels)
    (fun levels _ => unsigned?_reads fun made =>
      Nat.le_trans (Nat.le_of_eq (nesting_ofParts? made)) (Nat.zero_le levels))
    (fun _ _ each => Nat.succ_le_succ (nestingAll_le each))
    (fun _ _ each => Nat.succ_le_succ (nestingMembers_le each)) levels

end Reader

/-- Reading a document that was written yields the document, unless it nests too deeply: then it
yields nothing. -/
theorem read?_written_eq {document : Json} (readable : Readable document) :
    read? (written document) =
      if nesting document ≤ greatestNesting then some document else none := by
  split
  · rename_i shallow
    exact read?_written shallow readable
  · rename_i deep
    have taken := Reader.document?_readable (Nat.le_refl _) readable [] Reader.delimited_nil
    rw [List.append_nil] at taken
    rw [read?, readWithin?, Reader.all?]
    cases done : Reader.document? greatestNesting (written document).toList with
    | none => rfl
    | some result =>
      have further := Reader.document?_extends (Nat.le_of_not_le deep) done
      cases taken.symm.trans further
      exact absurd (Reader.nesting_document? _ done) deep

end Json

end PredicateWire
