/-
This file proves that an outline reads back what it covers. It covers a record whose
members it declares, each with a document that the outline of the member covers; what it
would pass over does not occur. A packet is read by an outline because a record of the
format may hold members that the reader does not know. They are skipped, at whatever
depth, and they cost no level of nesting, so the reading of known members is not that of
a whole document.

The main result, `Json.Outline.read?_written`, is the counterpart of
`Json.read?_written` for the documents of a fixed format. It asks of documents that are
read whole that they nest no deeper than the reader goes and that their numbers can be
read back, and it asks nothing of the levels above them, which the outline opens by
itself.
-/
import PredicateWire.Json.Outline
import PredicateWire.Json.Record
import PredicateWire.Proofs.Entries
import PredicateWire.Proofs.Json.Text

namespace PredicateWire

namespace Json

namespace Outline

open Reader

/-- An outline declares everything that a document holds, down to documents that are read whole
and can be read back. -/
inductive Covers : Outline → Json → Prop
  | whole {document : Json} (nested : nesting document ≤ greatestNesting)
    (readable : Readable document) : Covers whole document
  | list {items : Outline} {documents : List Json}
    (each : ∀ document ∈ documents, Covers items document) : Covers (list items) (.array documents)
  | record {fields : List (String × Outline)} {members : List (String × Json)}
    (declared : ∀ entry ∈ members, (Entries.get? fields entry.1).isSome = true)
    (each : ∀ entry ∈ members, ∀ outline, Entries.get? fields entry.1 = some outline →
      Covers outline entry.2) :
    Covers (record fields) (.object members)

/-- A string is covered where it is read whole. -/
theorem covers_string (text : String) : Covers whole (.string text) :=
  .whole (Nat.zero_le _) trivial

section Members

variable {fields : List (String × Outline)} {members others : List (String × Json)}

theorem Covers.nil : Covers (.record fields) (.object []) :=
  .record (List.forall_mem_nil _) (List.forall_mem_nil _)

/-- A member may be put in front if its name is declared and its document covered. -/
theorem Covers.cons {name : String} {outline : Outline} {document : Json}
    (declared : Entries.get? fields name = some outline) (first : Covers outline document)
    (rest : Covers (.record fields) (.object members)) :
    Covers (.record fields) (.object ((name, document) :: members)) := by
  cases rest with
  | record restDeclared restEach =>
    refine .record (List.forall_mem_cons.mpr ⟨?_, restDeclared⟩)
      (List.forall_mem_cons.mpr ⟨fun other found => ?_, restEach⟩)
    · rw [declared]
      rfl
    · cases declared.symm.trans found
      exact first

theorem Covers.append (left : Covers (.record fields) (.object members))
    (right : Covers (.record fields) (.object others)) :
    Covers (.record fields) (.object (members ++ others)) := by
  cases left with
  | record leftDeclared leftEach =>
    cases right with
    | record rightDeclared rightEach =>
      exact .record (List.forall_mem_append.mpr ⟨leftDeclared, rightDeclared⟩)
        (List.forall_mem_append.mpr ⟨leftEach, rightEach⟩)

/-- A flag is written as a member of its own or not at all, and it is covered in both cases. -/
theorem Covers.flagMember {name : String} (declared : Entries.get? fields name = some .whole)
    (flag : Bool) : Covers (.record fields) (.object (Json.flagMember name flag)) := by
  cases flag
  · exact .nil
  · exact .cons declared (.whole (Nat.zero_le _) trivial) .nil

/-- A list is written as a member of its own or, if it is empty, not at all. -/
theorem Covers.listMember {Content : Type} {name : String} {items : Outline}
    {write : Content → Json} (declared : Entries.get? fields name = some (.list items))
    (each : ∀ content, Covers items (write content)) (contents : List Content) :
    Covers (.record fields) (.object (Json.listMember name write contents)) := by
  unfold Json.listMember
  split
  · exact .nil
  · refine .cons declared (.list fun document member => ?_) .nil
    obtain ⟨content, _, rfl⟩ := List.mem_map.mp member
    exact each content

end Members

/-! ### Readings of outlines -/

/-- Outlines skip blanks in front, find nothing in a blank text and nothing where an array ends. -/
theorem anchored_document? (outline : Outline) : Anchored outline.document? := by
  have bracket (rest : List Char) : skip (']' :: rest) = ']' :: rest :=
    skip_cons rest (show isBlank ']' = false by decide)
  cases outline with
  | whole =>
    unfold Outline.document?
    exact Reader.anchored_document? greatestNesting
  | list _ | record _ =>
    refine ⟨fun text => ?_, ?_, fun rest => ?_⟩
    · simp only [Outline.document?, skip_skip]
    · unfold Outline.document?
      exact (Reader.anchored_document? greatestNesting).blank
    · simp only [Outline.document?, bracket]
      exact (Reader.anchored_document? greatestNesting).bracket rest

/-- What belongs to a declared name is read by the outline that it is declared with. -/
theorem content?_declared {fields : List (String × Outline)} {name : String} {outline : Outline}
    (declared : Entries.get? fields name = some outline) (text : List Char) :
    content? fields name text =
      (outline.document? text).map fun (content, rest) => (some content, rest) := by
  induction fields with
  | nil => cases declared
  | cons first rest inductionHypothesis =>
    rw [Entries.get?_cons] at declared
    rw [content?]
    split at declared
    · rename_i same
      cases declared
      rw [if_pos same]
    · rename_i different
      rw [if_neg different]
      exact inductionHypothesis declared

/-- A document that an outline covers is read back from in front of whatever may follow it. -/
theorem Covers.takes {outline : Outline} {document : Json} (covers : Covers outline document) :
    Takes outline.document? (itemPart id document) := by
  induction covers with
  | whole nested readable =>
    unfold Outline.document?
    exact document?_readable nested readable
  | @list items documents _ takes =>
    intro rest delimited
    have text : (itemPart id (.array documents)).1 ++ rest =
        '[' :: ((commaJoined (documents.map written)).toList ++ ']' :: rest) := by
      simp [itemPart, written, writtenItems_eq_map]
    rw [text]
    unfold Outline.document?
    simp only [skip_cons _ (show isBlank '[' = false by decide),
      arrayRest?_joined (anchored_document? items) id takes, List.map_id]
    rfl
  | @record fields members declared _ takes =>
    intro rest delimited
    have text : (itemPart id (.object members)).1 ++ rest =
        '\x7b' :: ((commaJoined (members.map fun entry =>
          writtenString entry.1 ++ ":" ++ written entry.2)).toList ++ '\x7d' :: rest) := by
      simp [itemPart, written, writtenMembers_eq_map]
    have contents : ∀ entry ∈ members,
        Takes (content? fields entry.1) ((written entry.2).toList, some entry.2) := by
      intro entry member others delimited
      obtain ⟨outline, found⟩ := Option.isSome_iff_exists.mp (declared entry member)
      have taken := takes entry member outline found others delimited
      simp only [itemPart] at taken
      rw [content?_declared found, taken]
      rfl
    rw [text]
    unfold Outline.document?
    simp only [skip_cons _ (show isBlank '\x7b' = false by decide),
      objectRest?_joined (content? fields) some contents, Option.bind_eq_bind, Option.bind_some,
      List.filterMap_map]
    exact congrArg (fun kept => some (Json.object kept, rest)) List.filterMap_some

/-- Reading a document that an outline covers yields all of it. -/
theorem read?_written {outline : Outline} {document : Json} (covers : Covers outline document) :
    outline.read? (Json.written document) = some document := by
  have taken := covers.takes [] delimited_nil
  rw [List.append_nil] at taken
  simp only [itemPart] at taken
  rw [read?, all?, taken]
  rfl

end Outline

end Json

end PredicateWire
