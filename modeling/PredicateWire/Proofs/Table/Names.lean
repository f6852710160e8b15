/-
This file proves that the types that a catalog finds for names are the ones that the
rules give to the names when there is no table, and that every table over the catalog
gives these names the same types. A catalog looks for a name as a table without entries
does, and so the rules for tables are all that is needed. A table can only add types for
other names: its entries are asked where the catalog knows nothing, and they cannot
contradict it.

Receivers resolve keys, and senders and builders name types. Both sides mean the same
because `typeNamed_eq_ok` and `Received.of_empty` translate what a catalog finds into
what a table of a packet receives.
-/
import PredicateWire.Proofs.Table.Search

namespace PredicateWire

namespace TypeTable

open Running

/-- A table that has no entries. -/
theorem tracked_empty (catalog : Catalog) (source : Nat → UInt32) :
    (empty catalog source).Tracked := by
  refine ⟨⟨.nil, .nil, ?_⟩, ?_⟩ <;> intro entry member <;> cases member

/-- What a search by name finds without a table is what the rules say. -/
theorem received_of_searchName {catalog : Catalog} {source : Nat → UInt32} {active : List TypeKey}
    {name : String} {type : DataType} {found noted : Found}
    (ran : (searchName (empty catalog source) active name).run found = (.ok (some type), noted)) :
    Received (empty catalog source) name type := by
  induction length : name.length using Nat.strongRecOn generalizing name type found noted with
  | ind size inductionHypothesis =>
    have nested : ∀ {part : String} {type : DataType} {found noted : Found},
        part.length < size →
        (searchNested (empty catalog source) active part).run found = (.ok type, noted) →
          Received (empty catalog source) part type := by
      intro part type found noted shorter ran
      rw [searchNested] at ran
      obtain ⟨outcome, middle, partRan, ran⟩ := run_bind_ok ran
      split at ran
      · cases ran
        exact inductionHypothesis _ shorter partRan rfl
      · cases ran
    subst length
    rw [searchName_eq] at ran
    split at ran
    · rename_i known
      cases ran
      exact .known known
    · rename_i unknown
      split at ran
      · cases ran
      · cases ran
      · rename_i element parsed
        obtain ⟨outcome, middle, elementRan, ran⟩ := run_bind_ok ran
        cases ran
        exact .array unknown parsed
          (nested (TypeName.length_lt_of_parse_array parsed) elementRan)
      · rename_i base arguments parsed
        split at ran
        · cases ran
        · rename_i definition known
          obtain ⟨types, middle, argumentsRan, ran⟩ := run_bind_ok ran
          split at ran
          · rename_i instantiated
            cases ran
            obtain ⟨lengths, each⟩ := run_mapM_ok argumentsRan
            refine .generic unknown parsed known lengths (fun pair member => ?_) instantiated
            obtain ⟨before, after, partRan⟩ := each pair member
            exact nested (TypeName.length_lt_of_parse_generic parsed _ (List.of_mem_zip member).1)
              partRan
          · cases ran

/-- The rules for a catalog alone hold in every table over it. -/
theorem Received.of_empty {catalog : Catalog} {source : Nat → UInt32} {name : String}
    {type : DataType} (received : Received (empty catalog source) name type) {table : TypeTable}
    (same : table.catalog = catalog) : Received table name type := by
  subst same
  induction received with
  | known found => exact .known found
  | array unknown parsed _ inductionHypothesis => exact .array unknown parsed inductionHypothesis
  | generic unknown parsed found lengths _ instantiated inductionHypothesis =>
    exact .generic unknown parsed found lengths inductionHypothesis instantiated
  | captured _ _ held => cases held

/-- The type of a name in a catalog is the one that the rules say without a table. -/
theorem typeNamed_eq_ok {catalog : Catalog} {name : String} {type : DataType} :
    catalog.typeNamed name = .ok type ↔ Received (empty catalog fun _ => 0) name type := by
  have run : ∀ outcome noted,
      (searchName (empty catalog fun _ => 0) [] name).run [] = (outcome, noted) →
        ((resolveName name).run (empty catalog fun _ => 0)).1 = outcome := by
    intro outcome noted ran
    show (match (searchName (empty catalog fun _ => 0) [] name).run [] with
      | (outcome, noted) => (outcome, { empty catalog (fun _ => 0) with resolved := noted })).1 = _
    rw [ran]
  constructor
  · intro named
    rcases ran : (searchName (empty catalog fun _ => 0) [] name).run [] with ⟨outcome, noted⟩
    rw [Catalog.typeNamed, run outcome noted ran] at named
    split at named
    · rename_i found
      cases named
      exact received_of_searchName ran
    · cases named
    · cases named
  · intro received
    have idle : InProgress (empty catalog fun _ => 0) name [] := fun _ member => nomatch member
    have faithful : Faithful (empty catalog fun _ => 0) [] := fun _ member => nomatch member
    obtain ⟨noted, ran, _⟩ :=
      ((received.found (tracked_empty catalog _).toSound).nested idle).run faithful
    rw [searchNested] at ran
    obtain ⟨outcome, middle, nameRan, ran⟩ := run_bind_ok ran
    split at ran
    · cases ran
      rw [Catalog.typeNamed, run _ _ nameRan]
    · cases ran

end TypeTable

end PredicateWire
