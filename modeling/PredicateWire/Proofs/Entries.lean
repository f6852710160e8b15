/-
This file proves that entries in order are determined by what their names name. Entries
stand for records, for the members of a document and for tables by name. Some of them
are lists in which a name may come up twice and the place of an entry matters, and
others are ordered by name with each name once; the reader of documents and the reader
of records turn the former into the latter by entering one entry after another.

Two ordered lists are equal once they name the same (`Ordered.ext`). So nothing has to
be said about the order in which the fields of a record were read: entering them yields
the record if they say what it says and leave none of its names out (`ofList_eq`).
-/
import PredicateWire.Entries

namespace PredicateWire.Entries

variable {Content : Type}

/-- Entries stand in the order of their names, each name once. -/
def Ordered (entries : List (String × Content)) : Prop :=
  entries.Pairwise fun earlier later => earlier.1 < later.1

theorem get?_cons (entry : String × Content) (rest : List (String × Content)) (name : String) :
    get? (entry :: rest) name = if entry.1 = name then some entry.2 else get? rest name := by
  unfold get?
  rw [List.find?_cons]
  by_cases same : entry.1 = name
  · rw [if_pos same, same, beq_self_eq_true]
    rfl
  · rw [if_neg same, beq_false_of_ne same]

/-- A name is looked up in the first of two lists of entries before it is in the second. -/
theorem get?_append (first second : List (String × Content)) (name : String) :
    get? (first ++ second) name = (get? first name).or (get? second name) := by
  unfold get?
  rw [List.find?_append]
  cases first.find? fun entry => entry.1 == name <;> rfl

/-- What is found under a name is the content of an entry. -/
theorem mem_of_get? {entries : List (String × Content)} {name : String} {content : Content}
    (found : get? entries name = some content) : (name, content) ∈ entries := by
  obtain ⟨entry, first, rfl⟩ := Option.map_eq_some_iff.mp found
  have tested := List.find?_some first
  have named : entry.1 = name := eq_of_beq tested
  exact named ▸ List.mem_of_find?_eq_some first

/-- Nothing is found under a name just when no entry has it. -/
theorem get?_eq_none {entries : List (String × Content)} {name : String} :
    get? entries name = none ↔ ∀ entry ∈ entries, entry.1 ≠ name := by
  simp [get?]

/-- Leaving out a name leaves the others as they are. -/
theorem get?_filter_ne (entries : List (String × Content)) (left name : String) :
    get? (entries.filter fun entry => entry.1 != left) name =
      if left = name then none else get? entries name := by
  by_cases same : left = name
  · subst same
    rw [if_pos rfl, get?_eq_none]
    intro entry member
    exact bne_iff_ne.mp (List.mem_filter.mp member).2
  · rw [if_neg same]
    unfold get?
    rw [List.find?_filter]
    congr 2
    funext entry
    by_cases tested : entry.1 = name
    · simp [tested, Ne.symm same]
    · simp [tested]

/-- What an entry in order names is found under its name. -/
theorem Ordered.get?_of_mem {entries : List (String × Content)} (ordered : Ordered entries)
    {entry : String × Content} (member : entry ∈ entries) :
    get? entries entry.1 = some entry.2 := by
  induction ordered with
  | nil => cases member
  | @cons first rest before _ inductionHypothesis =>
    rw [get?_cons]
    rcases List.mem_cons.mp member with rfl | later
    · rw [if_pos rfl]
    · rw [if_neg fun same => String.lt_irrefl _ (same ▸ before entry later),
        inductionHypothesis later]

/-- Entries in order that name the same are the same. -/
theorem Ordered.ext {left right : List (String × Content)} (leftOrdered : Ordered left)
    (rightOrdered : Ordered right) (same : ∀ name, get? left name = get? right name) :
    left = right := by
  induction leftOrdered generalizing right with
  | nil =>
    cases right with
    | nil => rfl
    | cons first rest =>
      have found := same first.1
      rw [get?_cons, if_pos rfl] at found
      cases found
  | @cons first rest before restOrdered inductionHypothesis =>
    cases rightOrdered with
    | nil =>
      have found := same first.1
      rw [get?_cons, if_pos rfl] at found
      cases found
    | @cons second others below othersOrdered =>
      have found : ∀ name, get? (first :: rest) name = get? (second :: others) name := same
      -- Neither first name can be missing on the other side, so neither comes before the other.
      have names : first.1 = second.1 := by
        refine String.le_antisymm (fun less => ?_) (fun less => ?_)
        · have absent : get? (first :: rest) second.1 = none := by
            refine get?_eq_none.mpr fun entry member => ?_
            rcases List.mem_cons.mp member with rfl | later
            · exact fun equal => String.lt_irrefl _ (equal ▸ less)
            · exact fun equal => String.lt_irrefl _ (String.lt_trans less (equal ▸ before entry later))
          rw [found, get?_cons, if_pos rfl] at absent
          cases absent
        · have absent : get? (second :: others) first.1 = none := by
            refine get?_eq_none.mpr fun entry member => ?_
            rcases List.mem_cons.mp member with rfl | later
            · exact fun equal => String.lt_irrefl _ (equal ▸ less)
            · exact fun equal => String.lt_irrefl _ (String.lt_trans less (equal ▸ below entry later))
          rw [← found, get?_cons, if_pos rfl] at absent
          cases absent
      have contents : first.2 = second.2 := by
        have head := found first.1
        rw [get?_cons, get?_cons, if_pos rfl, if_pos names.symm] at head
        exact Option.some.inj head
      have tails : rest = others := by
        refine inductionHypothesis othersOrdered fun name => ?_
        by_cases atHead : first.1 = name
        · have restAbsent : get? rest name = none := get?_eq_none.mpr fun entry member equal =>
            String.lt_irrefl _ (atHead ▸ equal ▸ before entry member)
          have othersAbsent : get? others name = none := get?_eq_none.mpr fun entry member equal =>
            String.lt_irrefl _ (atHead ▸ names ▸ equal ▸ below entry member)
          rw [restAbsent, othersAbsent]
        · have later := found name
          rwa [get?_cons, get?_cons, if_neg atHead, if_neg (names ▸ atHead)] at later
      rw [tails, Prod.ext names contents]

/-! ### Entering -/

theorem mem_insert {name : String} {content : Content} {entries : List (String × Content)}
    {entry : String × Content} (member : entry ∈ insert name content entries) :
    entry = (name, content) ∨ entry ∈ entries := by
  induction entries with
  | nil => exact .inl (List.mem_singleton.mp member)
  | cons first rest inductionHypothesis =>
    rw [insert] at member
    split at member
    · rcases List.mem_cons.mp member with same | later
      · exact .inl same
      · exact .inr (.tail _ later)
    · split at member
      · rcases List.mem_cons.mp member with same | later
        · exact .inl same
        · exact .inr later
      · rcases List.mem_cons.mp member with rfl | later
        · exact .inr (.head _)
        · exact (inductionHypothesis later).imp id (.tail _)

/-- Entering keeps the order: an entry with the name is replaced where it stands, and a new one goes
before the first greater name. -/
theorem ordered_insert {name : String} {content : Content} {entries : List (String × Content)}
    (ordered : Ordered entries) : Ordered (insert name content entries) := by
  induction ordered with
  | nil => exact List.pairwise_singleton _ _
  | @cons first rest before restOrdered inductionHypothesis =>
    rw [insert]
    split
    · rename_i same
      exact .cons (fun entry member => same ▸ before entry member) restOrdered
    · rename_i different
      split
      · rename_i less
        refine .cons (fun entry member => ?_) (.cons before restOrdered)
        rcases List.mem_cons.mp member with rfl | later
        · exact less
        · exact String.lt_trans less (before entry later)
      · rename_i notLess
        refine .cons (fun entry member => ?_) inductionHypothesis
        rcases mem_insert member with rfl | later
        · have atMost : first.1 ≤ name := notLess
          rcases String.le_total name first.1 with least | _
          · exact absurd (String.le_antisymm least atMost) different
          · by_cases greater : first.1 < name
            · exact greater
            · exact absurd (String.le_antisymm greater atMost) different
        · exact before entry later

/-- What has been entered is found under its name, and nothing else changes. -/
theorem get?_insert {name : String} {content : Content} {entries : List (String × Content)}
    (other : String) : get? (insert name content entries) other =
      if name = other then some content else get? entries other := by
  induction entries with
  | nil => rw [insert, get?_cons]
  | cons first rest inductionHypothesis =>
    rw [insert]
    split
    · rename_i same
      rw [get?_cons, get?_cons]
      by_cases asked : name = other
      · rw [if_pos asked, if_pos asked]
      · rw [if_neg asked, if_neg asked, if_neg (same ▸ asked)]
    · rename_i different
      split
      · rw [get?_cons]
      · rw [get?_cons, inductionHypothesis, get?_cons]
        by_cases asked : name = other
        · rw [if_pos asked, if_pos asked, if_neg (asked ▸ Ne.symm different)]
        · rw [if_neg asked, if_neg asked]

/-! ### Lists of entries -/

/-- Entries that are entered one after another are in order, whatever order they came in. -/
theorem ordered_ofList (entries : List (String × Content)) : Ordered (ofList entries) := by
  have folded : ∀ sorted : List (String × Content), Ordered sorted →
      Ordered (entries.foldl (fun sorted entry => insert entry.1 entry.2 sorted) sorted) := by
    induction entries with
    | nil => exact fun _ => id
    | cons entry rest inductionHypothesis =>
      exact fun sorted ordered => inductionHypothesis _ (ordered_insert ordered)
  exact folded [] .nil

/-- Of several entries with one name the last one counts. -/
theorem get?_ofList (entries : List (String × Content)) (name : String) :
    get? (ofList entries) name = get? entries.reverse name := by
  have folded : ∀ sorted : List (String × Content),
      get? (entries.foldl (fun sorted entry => insert entry.1 entry.2 sorted) sorted) name =
        (get? entries.reverse name).or (get? sorted name) := by
    induction entries with
    | nil => exact fun _ => rfl
    | cons entry rest inductionHypothesis =>
      intro sorted
      rw [List.foldl_cons, inductionHypothesis, get?_insert, List.reverse_cons, get?_append,
        get?_cons]
      cases get? rest.reverse name with
      | some _ => rfl
      | none =>
        rw [Option.none_or, Option.none_or]
        split <;> rfl
  rw [ofList, folded, show get? ([] : List (String × Content)) name = none from rfl, Option.or_none]

theorem mem_ofList {entries : List (String × Content)} {entry : String × Content}
    (member : entry ∈ ofList entries) : entry ∈ entries := by
  have found := (ordered_ofList entries).get?_of_mem member
  rw [get?_ofList] at found
  exact List.mem_reverse.mp (mem_of_get? found)

/-- Entries that only say what the names of entries in order name, and leave out none of them, are
those entries in order. -/
theorem ofList_eq {entries sorted : List (String × Content)} (ordered : Ordered sorted)
    (agree : ∀ entry ∈ entries, get? sorted entry.1 = some entry.2)
    (complete : ∀ entry ∈ sorted, ∃ other ∈ entries, other.1 = entry.1) :
    ofList entries = sorted := by
  refine (ordered_ofList entries).ext ordered fun name => ?_
  rw [get?_ofList]
  cases found : get? entries.reverse name with
  | some content => exact (agree _ (List.mem_reverse.mp (mem_of_get? found))).symm
  | none =>
    refine (get?_eq_none.mpr fun entry member named => ?_).symm
    obtain ⟨other, otherMember, same⟩ := complete entry member
    exact get?_eq_none.mp found other (List.mem_reverse.mpr otherMember) (same.trans named)

/-- Entries that are in order stay as they are. -/
theorem ofList_of_ordered {entries : List (String × Content)} (ordered : Ordered entries) :
    ofList entries = entries :=
  ofList_eq ordered (fun _ member => ordered.get?_of_mem member)
    fun entry member => ⟨entry, member, rfl⟩

end PredicateWire.Entries
