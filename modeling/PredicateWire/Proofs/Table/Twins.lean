/-
This file compares two senders that draw their keys from different sources. Their tables
stay twins: one is the other with its keys renamed, no two of them to the same key. What
packing does depends on names and on which keys are equal, so twins take every step
together. Only a sender that finds no fresh key may stop on its own.

The renaming is not known in advance. It grows with the tables: when both get a new
entry for one name, their new keys are swapped into it (`renameAlso`), which keeps it
injective even where a key that one sender draws late was drawn early by the other. Keys
that have been yielded before are `Paired` through the names that they stand for, so
that they are renamed to each other by whichever renaming there is in the end.
-/
import Mathlib.Logic.Equiv.Basic
import PredicateWire.Proofs.Table.Reached
import PredicateWire.Proofs.Table.Renaming

namespace PredicateWire

/-- Errors of two senders correspond when they are the same. Running out of fresh keys is excused. -/
def Tolerance.collisions {State : Type} : Tolerance State where
  excused := fun error => error.kind = .keyCollision
  faults := fun error other _ _ =>
    error = other ∨ error.kind = .keyCollision ∨ other.kind = .keyCollision
  excusedLeft := fun collides => .inr (.inl collides)
  excusedRight := fun collides => .inr (.inr collides)

namespace TypeTable

open Running

/-! ### Twin tables -/

/-- A table is tracked, its captured keys are its own, and another table is the table with its keys
renamed. -/
structure TwinBy (rename : TypeKey → TypeKey) (table twin : TypeTable) : Prop where
  injective : Function.Injective rename
  tracked : table.Tracked
  twinTracked : twin.Tracked
  present : ∀ key ∈ table.captured, table.hasKey key = true
  entries : twin.entries = table.entries.map (TypeEntry.renameKeys rename)
  captured : twin.captured = table.captured.map rename

/-- Two tables differ only by a renaming of keys. -/
def Twin (table twin : TypeTable) : Prop :=
  ∃ rename, TwinBy rename table twin

/-- Two keys stand for one name in two tables. -/
def Paired (key other : TypeKey) (table twin : TypeTable) : Prop :=
  ∃ name, table.keyOf? name = some key ∧ twin.keyOf? name = some other

/-- Keys of one name stay so while their tables grow. -/
theorem Paired.grows {key other : TypeKey} {table twin later twinLater : TypeTable}
    (paired : Paired key other table twin) (grows : table.Grows later)
    (twinGrows : twin.Grows twinLater) : Paired key other later twinLater := by
  obtain ⟨name, found, twinFound⟩ := paired
  exact ⟨name, grows.keyOf? found, twinGrows.keyOf? twinFound⟩

namespace TwinBy

variable {rename : TypeKey → TypeKey} {table twin : TypeTable}

theorem keyOf? (twins : TwinBy rename table twin) (name : String) :
    twin.keyOf? name = (table.keyOf? name).map rename := by
  rw [← keyOf?_renameKeys]
  unfold TypeTable.keyOf?
  rw [twins.entries]
  rfl

theorem hasKey (twins : TwinBy rename table twin) (key : TypeKey) :
    twin.hasKey (rename key) = table.hasKey key := by
  rw [← hasKey_renameKeys twins.injective key]
  unfold TypeTable.hasKey entryOf?
  rw [twins.entries]
  rfl

/-- A key that is paired with another one is renamed to it. -/
theorem rename_eq (twins : TwinBy rename table twin) {key other : TypeKey}
    (paired : Paired key other table twin) : rename key = other := by
  obtain ⟨name, found, twinFound⟩ := paired
  rw [twins.keyOf?, found] at twinFound
  exact Option.some.inj twinFound

end TwinBy

/-- Tables without entries are twins, whatever their catalogs and sources are. -/
theorem twin_empty (catalog twinCatalog : Catalog) (source twinSource : Nat → UInt32) :
    Twin (empty catalog source) (empty twinCatalog twinSource) :=
  ⟨id, Function.injective_id, tracked_empty _ _, tracked_empty _ _, List.forall_mem_nil _, rfl, rfl⟩

/-! ### Work on twin tables -/

/-- Two pieces of work on twin tables correspond, and end in twin tables. -/
abbrev Parallel {First Second : Type} (work : TableM First) (twin : TableM Second) : Prop :=
  Mirrors Tolerance.collisions Twin work twin fun _ _ => Twin

/-- Two pieces of work on twin tables correspond, end in twin tables, and yield keys of one name. -/
abbrev YieldsPaired (work twin : TableM TypeKey) : Prop :=
  Mirrors Tolerance.collisions Twin work twin fun key other table twinTable =>
    Twin table twinTable ∧ Paired key other table twinTable

section

variable {First Second Third Fourth : Type}

theorem parallel_pure (first : First) (second : Second) : Parallel (pure first) (pure second) :=
  mirrors_pure id

/-- Two senders that fail with the same error fail alike. -/
theorem parallel_throw (error : Error) :
    Parallel (throw error : TableM First) (throw error : TableM Second) :=
  mirrors_throw fun _ => .inl rfl

/-- Work in two parts keeps twins if both parts do. -/
theorem parallel_bind {work : TableM First} {twin : TableM Second} {next : First → TableM Third}
    {twinNext : Second → TableM Fourth} (firsts : Parallel work twin)
    (seconds : ∀ first second, Parallel (next first) (twinNext second)) :
    Parallel (work >>= next) (twin >>= twinNext) :=
  mirrors_bind firsts seconds

/-- The keys that are yielded need not be looked at. -/
theorem YieldsPaired.parallel {work twin : TableM TypeKey} (yields : YieldsPaired work twin) :
    Parallel work twin :=
  yields.weaken id And.left

/-- A check that does not depend on keys stops both senders or neither. -/
theorem parallel_check {condition : Prop} [Decidable condition] {error : Error}
    {next : PUnit → TableM First} {twinNext : PUnit → TableM Second}
    (passed : Parallel (next ⟨⟩) (twinNext ⟨⟩)) :
    Parallel (if condition then throw error >>= next else next ⟨⟩)
      (if condition then throw error >>= twinNext else twinNext ⟨⟩) := by
  split
  · exact ⟨fun _ => .inl rfl⟩
  · exact passed

/-- Keys that are paired stay so during work that only adds to tables. Two keys that were yielded
early are thus still of one name when the tree that holds them is complete. -/
theorem keeping_paired {work : TableM First} {twin : TableM Second}
    {after : First → Second → TypeTable → TypeTable → Prop}
    {fits : First → TypeTable → Prop} {twinFits : Second → TypeTable → Prop}
    (mirrors : Mirrors Tolerance.collisions Twin work twin after) (adds : Adds Tracked work fits)
    (twinAdds : Adds Tracked twin twinFits) (key other : TypeKey) :
    Mirrors Tolerance.collisions
      (fun table twinTable => Twin table twinTable ∧ Paired key other table twinTable) work twin
      fun first second table twinTable =>
        after first second table twinTable ∧ Paired key other table twinTable := by
  refine ⟨fun {table twinTable} ⟨twins, paired⟩ => ?_⟩
  have runs := mirrors.run twins
  obtain ⟨rename, twins⟩ := twins
  revert runs
  rcases ran : work.run table with ⟨error | first, final⟩ <;>
    rcases twinRan : twin.run twinTable with ⟨fault | second, twinFinal⟩ <;> intro runs
  · exact runs
  · exact runs
  · exact runs
  · exact ⟨runs, paired.grows (adds.keeps twins.tracked ran).2.1
      (twinAdds.keeps twins.twinTracked twinRan).2.1⟩

end

/-! ### Fresh keys -/

/-- The search for a fresh key fails only when it is given up. -/
theorem drawKey_fails {attempts : Nat} {table final : TypeTable} {error : Error}
    (ran : (drawKey attempts).run table = (.error error, final)) : error.kind = .keyCollision := by
  induction attempts generalizing table with
  | zero => cases ran; rfl
  | succ attempts inductionHypothesis =>
    unfold drawKey at ran
    simp only [run_bind, run_get, run_set] at ran
    split at ran
    · exact inductionHypothesis ran
    · cases ran

/-- A renaming that takes a key to another one. Both keys may have their places already, so they are
swapped in. -/
def renameAlso (rename : TypeKey → TypeKey) (key other : TypeKey) : TypeKey → TypeKey :=
  Equiv.swap (rename key) other ∘ rename

/-- Twin tables with one new entry each, under fresh keys, are twins again. The renaming is changed
for the new keys only, and since both are fresh no entry notices. -/
theorem TwinBy.push {rename : TypeKey → TypeKey} {table twin changed twinChanged : TypeTable}
    (twins : TwinBy rename table twin) {key other : TypeKey} {name : String}
    (unnamed : table.keyOf? name = none) (fresh : table.hasKey key = false)
    (twinFresh : twin.hasKey other = false)
    (entries : changed.entries = table.entries ++ [.plain key name])
    (captured : changed.captured = table.captured)
    (twinEntries : twinChanged.entries = twin.entries ++ [.plain other name])
    (twinCaptured : twinChanged.captured = twin.captured) : Twin changed twinChanged := by
  have twinUnnamed : twin.keyOf? name = none := by rw [twins.keyOf?, unnamed, Option.map_none]
  have same : ∀ old, table.hasKey old = true → renameAlso rename key other old = rename old := by
    intro old present
    refine Equiv.swap_apply_of_ne_of_ne (fun clash => ?_) fun clash => ?_
    · rw [twins.injective clash, fresh] at present
      cases present
    · rw [← twins.hasKey, clash, twinFresh] at present
      cases present
  have renamed : ∀ entry ∈ table.entries,
      entry.renameKeys (renameAlso rename key other) = entry.renameKeys rename := by
    intro entry member
    have fields : entry.fields.map (FieldEntry.renameKeys (renameAlso rename key other)) =
        entry.fields.map (FieldEntry.renameKeys rename) := by
      refine List.map_congr_left fun field fieldMember => ?_
      rw [FieldEntry.renameKeys, FieldEntry.renameKeys,
        same _ (twins.tracked.fields entry member field fieldMember)]
    rw [TypeEntry.renameKeys, TypeEntry.renameKeys, fields,
      same _ (hasKey_iff.mpr ⟨entry, member, rfl⟩)]
  refine ⟨renameAlso rename key other, (Equiv.injective _).comp twins.injective,
    tracked_append twins.tracked entries captured fresh unnamed,
    tracked_append twins.twinTracked twinEntries twinCaptured twinFresh twinUnnamed, ?_, ?_, ?_⟩
  · intro old member
    exact (hasKey_append entries).mpr (.inl (twins.present old (captured ▸ member)))
  · have swapped : renameAlso rename key other key = other := Equiv.swap_apply_left _ _
    have last : (TypeEntry.plain key name).renameKeys (renameAlso rename key other) =
        .plain other name := by
      rw [TypeEntry.renameKeys, TypeEntry.plain, swapped]
      rfl
    rw [twinEntries, entries, List.map_append, List.map_singleton, last, twins.entries,
      List.map_congr_left renamed]
  · rw [twinCaptured, captured, twins.captured]
    exact List.map_congr_left fun old member => (same old (twins.present old member)).symm

/-- Entering a type gives twin tables keys of one name. -/
theorem paired_enter (type : DataType) : YieldsPaired (enter type) (enter type) := by
  refine ⟨fun {table twin} twins => ?_⟩
  obtain ⟨rename, twins⟩ := twins
  unfold enter
  simp only [run_bind, run_get]
  cases named : table.keyOf? type.canonicalName with
  | some key =>
    have twinNamed : twin.keyOf? type.canonicalName = some (rename key) := by
      rw [twins.keyOf?, named, Option.map_some]
    rw [twinNamed]
    exact ⟨⟨rename, twins⟩, type.canonicalName, named, twinNamed⟩
  | none =>
    have twinUnnamed : twin.keyOf? type.canonicalName = none := by
      rw [twins.keyOf?, named, Option.map_none]
    rw [twinUnnamed]
    simp only [run_bind, run_modify, run_pure]
    rcases ran : (drawKey greatestAttempts).run table with ⟨error | key, middle⟩ <;>
      rcases twinRan : (drawKey greatestAttempts).run twin with ⟨fault | other, twinMiddle⟩
    · exact .inr (.inl (drawKey_fails ran))
    · exact drawKey_fails ran
    · exact drawKey_fails twinRan
    · obtain ⟨fresh, drawn, rfl⟩ := drawKey_run ran
      obtain ⟨twinFresh, twinDrawn, rfl⟩ := drawKey_run twinRan
      exact ⟨twins.push named fresh twinFresh rfl rfl rfl rfl, type.canonicalName,
        keyOf?_append_self rfl named, keyOf?_append_self rfl twinUnnamed⟩

/-! ### Captured fields -/

/-- Captured fields have one name and keys of one name, place by place. -/
def FieldsPaired (fields others : List FieldEntry) (table twin : TypeTable) : Prop :=
  List.Forall₂ (fun field other => field.name = other.name ∧ Paired field.key other.key table twin)
    fields others

theorem TwinBy.rename_fields {rename : TypeKey → TypeKey} {table twin : TypeTable}
    (twins : TwinBy rename table twin) {fields others : List FieldEntry}
    (paired : FieldsPaired fields others table twin) :
    fields.map (FieldEntry.renameKeys rename) = others := by
  induction paired with
  | nil => rfl
  | @cons field other _ _ same _ inductionHypothesis =>
    rw [List.map_cons, inductionHypothesis, FieldEntry.renameKeys, twins.rename_eq same.2, same.1]

/-- Twin tables stay twins when paired keys are marked as captured. -/
theorem TwinBy.markCaptured {rename : TypeKey → TypeKey} {table twin : TypeTable}
    (twins : TwinBy rename table twin) {key other : TypeKey} (paired : Paired key other table twin) :
    TwinBy rename (table.markCaptured key) (twin.markCaptured other) where
  injective := twins.injective
  tracked := twins.tracked.markCaptured key
  twinTracked := twins.twinTracked.markCaptured other
  present := by
    obtain ⟨name, found, _⟩ := paired
    exact List.forall_mem_cons.mpr ⟨hasKey_of_keyOf? found, twins.present⟩
  entries := twins.entries
  captured := by
    rw [TypeTable.markCaptured, TypeTable.markCaptured, List.map_cons, twins.rename_eq paired,
      twins.captured]

/-- Twin tables stay twins when paired keys get paired fields: the renaming takes the fields of the
one to those of the other, and all other entries are as before. -/
theorem TwinBy.setFields {rename : TypeKey → TypeKey} {table twin : TypeTable}
    (twins : TwinBy rename table twin) {key other : TypeKey} (paired : Paired key other table twin)
    {fields others : List FieldEntry} (fieldsPaired : FieldsPaired fields others table twin)
    (tracked : (table.setFields key fields).Tracked)
    (twinTracked : (twin.setFields other others).Tracked) :
    TwinBy rename (table.setFields key fields) (twin.setFields other others) where
  injective := twins.injective
  tracked := tracked
  twinTracked := twinTracked
  present := by
    intro marked member
    rw [hasKey_setFields]
    exact twins.present marked member
  entries := by
    rw [TypeTable.setFields, TypeTable.setFields, twins.entries, List.map_map, List.map_map,
      ← twins.rename_eq paired, ← twins.rename_fields fieldsPaired]
    refine List.map_congr_left fun entry _ => ?_
    have moves : (entry.renameKeys rename).key = rename key ↔ entry.key = key :=
      twins.injective.eq_iff
    rw [Function.comp_apply, Function.comp_apply]
    by_cases same : entry.key = key
    · rw [if_pos same, if_pos (moves.mpr same)]
      rfl
    · rw [if_neg same, if_neg (mt moves.mp same)]
  captured := twins.captured

/-- Capturing the fields of paired keys keeps tables twins and the keys paired. A key is captured in
one of the tables exactly if the other one is in its twin, so both capture or neither does. -/
theorem paired_capture {key other : TypeKey} {fields twinFields : TableM (List FieldEntry)}
    {fits : List FieldEntry → TypeTable → Prop} (adds : Adds Tracked fields fits)
    (twinAdds : Adds Tracked twinFields fits)
    (present : ∀ entries later, fits entries later →
      ∀ field ∈ entries, later.hasKey field.key = true)
    (mirrors : Mirrors Tolerance.collisions Twin fields twinFields fun entries others table twin =>
      Twin table twin ∧ FieldsPaired entries others table twin) :
    Mirrors Tolerance.collisions (fun table twin => Twin table twin ∧ Paired key other table twin)
      (capture key fields) (capture other twinFields)
      fun _ _ table twin => Twin table twin ∧ Paired key other table twin := by
  refine ⟨fun {table twin} ⟨twins, paired⟩ => ?_⟩
  obtain ⟨rename, twins⟩ := twins
  have contained : twin.captured.contains other = table.captured.contains key := by
    rw [twins.captured, ← twins.rename_eq paired, contains_rename twins.injective]
  have finalTracked : ∀ {content final}, (capture key fields).run table = (.ok content, final) →
      final.Tracked := fun ran => ((adds_capture key adds present).keeps twins.tracked ran).1
  have twinFinalTracked : ∀ {content final}, (capture other twinFields).run twin =
      (.ok content, final) → final.Tracked := fun ran =>
    ((adds_capture other twinAdds present).keeps twins.twinTracked ran).1
  revert finalTracked twinFinalTracked
  unfold capture
  simp only [run_bind, run_get, contained]
  split
  · exact fun _ _ => ⟨⟨rename, twins⟩, paired⟩
  · simp only [run_bind, run_modify]
    have marked : Paired key other (table.markCaptured key) (twin.markCaptured other) := paired
    have runs := (keeping_paired mirrors adds twinAdds key other).run
      ⟨⟨rename, twins.markCaptured paired⟩, marked⟩
    revert runs
    rcases fields.run (table.markCaptured key) with ⟨error | entries, middle⟩ <;>
      rcases twinFields.run (twin.markCaptured other) with ⟨fault | others, twinMiddle⟩ <;>
      intro runs finalTracked twinFinalTracked
    · exact runs
    · exact runs
    · exact runs
    · obtain ⟨⟨⟨renamed, middleTwins⟩, fieldsPaired⟩, middlePaired⟩ := runs
      refine ⟨⟨renamed, middleTwins.setFields middlePaired fieldsPaired (finalTracked rfl)
        (twinFinalTracked rfl)⟩, ?_⟩
      obtain ⟨name, found, twinFound⟩ := middlePaired
      exact ⟨name, keyOf?_setFields.trans found, keyOf?_setFields.trans twinFound⟩

/-! ### Packing types -/

mutual

/-- Packing a type gives twin tables keys of one name. -/
theorem paired_pack (structural : Bool) : ∀ type : DataType,
    YieldsPaired (pack structural type) (pack structural type)
  | .array element => by
    unfold pack
    refine mirrors_bind (paired_enter _) fun key other => ?_
    split
    · have packed := keeping_paired (paired_pack structural element).parallel
        (adds_pack structural element) (adds_pack structural element) key other
      exact mirrors_bind packed fun _ _ => mirrors_pure id
    · exact mirrors_pure id
  | .generic name family arguments => by
    unfold pack
    refine mirrors_bind (paired_enter _) fun key other => ?_
    have packed := keeping_paired (parallel_packArguments structural arguments)
      (adds_packArguments structural arguments) (adds_packArguments structural arguments) key other
    refine mirrors_bind packed fun _ _ => ?_
    split
    · have nothing : Adds Tracked (pure []) fun (entries : List FieldEntry) _ => entries = [] :=
        adds_pure _ fun _ => rfl
      refine mirrors_bind (paired_capture nothing nothing ?_ ?_) fun _ _ => mirrors_pure id
      · rintro _ _ rfl _ member
        cases member
      · exact mirrors_pure fun twins => ⟨twins, .nil⟩
    · exact mirrors_pure id
  | .record name fields captured => by
    unfold pack
    refine mirrors_bind (paired_enter _) fun key other => ?_
    split
    · exact mirrors_bind (paired_capture (adds_packFields fields) (adds_packFields fields)
        hasKey_of_known (paired_packFields fields)) fun _ _ => mirrors_pure id
    · exact mirrors_pure id
  | .primitive kind => by
    unfold pack
    exact paired_enter _
  | .object => by
    unfold pack
    exact paired_enter _
  | .holder name => by
    unfold pack
    exact paired_enter _
  | .parameter owner position => by
    unfold pack
    exact paired_enter _

/-- Packing the arguments of a type keeps tables twins. -/
theorem parallel_packArguments (structural : Bool) : ∀ types : List DataType,
    Parallel (packArguments structural types) (packArguments structural types)
  | [] => by
    unfold packArguments
    exact parallel_pure _ _
  | type :: rest => by
    unfold packArguments
    split
    · exact parallel_bind (paired_pack structural type).parallel fun _ _ =>
        parallel_packArguments structural rest
    · exact parallel_packArguments structural rest

/-- Packing fields gives twin tables paired fields. -/
theorem paired_packFields : ∀ fields : List (Field DataType),
    Mirrors Tolerance.collisions Twin (packFields fields) (packFields fields)
      fun entries others table twin => Twin table twin ∧ FieldsPaired entries others table twin
  | [] => by
    unfold packFields
    exact mirrors_pure fun twins => ⟨twins, .nil⟩
  | ⟨name, type, isPublic⟩ :: rest => by
    unfold packFields
    refine mirrors_bind (paired_pack true type) fun key other => ?_
    have packed := keeping_paired (paired_packFields rest) (adds_packFields rest)
      (adds_packFields rest) key other
    refine mirrors_bind packed fun entries others => ?_
    exact mirrors_pure fun ⟨⟨twins, rests⟩, paired⟩ => ⟨twins, .cons ⟨rfl, paired⟩ rests⟩

end

end TypeTable

end PredicateWire
