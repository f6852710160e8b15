/-
This file proves that failing does not spoil a type table. Packing can fail in the
middle, when no fresh key is found or a private member is met: types that were entered
stay, and a key may count as captured although its entry has no fields yet. The keys and
names of a table stay different all the same, and so every table that is reached by
packing is tracked.

What a success does is known from `Adds`; here it is supplemented by what a failure
leaves. `Reached` is the history of a sender, who may pack types, references, trees and
expressions in any order and go on after a failure. Its tables are those that a packet
is made of, and the theorems about packets ask for nothing more of them.
-/
import PredicateWire.Proofs.Table.Names
import PredicateWire.Proofs.Wire.Keeping

namespace PredicateWire

namespace TypeTable

open Running

/-! ### Work that fails -/

/-- Drawing keys changes nothing but the number of draws, whether or not a fresh key is found. -/
theorem drawKey_state (attempts : Nat) (table : TypeTable) :
    ∃ drawn, ((drawKey attempts).run table).2 = { table with drawn := drawn } := by
  induction attempts generalizing table with
  | zero => exact ⟨table.drawn, rfl⟩
  | succ attempts inductionHypothesis =>
    unfold drawKey
    simp only [run_bind, run_get, run_set]
    split
    · obtain ⟨drawn, same⟩ := inductionHypothesis { table with drawn := table.drawn + 1 }
      exact ⟨drawn, same⟩
    · exact ⟨_, rfl⟩

/-- Work whose successes add to tables keeps them tracked if its failures do. What a success does is
known already, and so only failures are left to be looked at. -/
theorem Adds.promises {Content : Type} {work : TableM Content} {fits : Content → TypeTable → Prop}
    (adds : Adds Tracked work fits)
    (fails : ∀ {table error final}, table.Tracked → work.run table = (.error error, final) →
      final.Tracked) :
    Promises Tracked work (fun _ => True) fun _ => True := by
  refine ⟨fun {table outcome final} tracked ran => ⟨?_, meets_true _⟩⟩
  cases outcome with
  | ok content => exact (adds.keeps tracked ran).1
  | error error => exact fails tracked ran

/-- Entering a type keeps a table tracked, also when no fresh key is found. -/
theorem tracked_enter (type : DataType) :
    Promises Tracked (enter type) (fun _ => True) fun _ => True := by
  refine (adds_enter lasts_tracked type).promises fun {table error final} tracked ran => ?_
  unfold enter at ran
  simp only [run_bind, run_get] at ran
  split at ran
  · cases ran
  · simp only [run_bind, run_modify, run_pure] at ran
    split at ran
    · cases ran
    · rename_i error middle drawRan
      cases ran
      obtain ⟨drawn, same⟩ := drawKey_state greatestAttempts table
      rw [drawRan] at same
      cases same
      exact tracked.congr rfl fun _ => id

/-- A failure while fields are packed leaves a key that counts as captured, without fields. The
table is tracked all the same, since it is only asked that keys with fields are captured. -/
theorem tracked_capture (key : TypeKey) {fields : TableM (List FieldEntry)}
    {fits : List FieldEntry → TypeTable → Prop} (adds : Adds Tracked fields fits)
    (present : ∀ entries later, fits entries later →
      ∀ field ∈ entries, later.hasKey field.key = true)
    (keeps : Promises Tracked fields (fun _ => True) fun _ => True) :
    Promises Tracked (capture key fields) (fun _ => True) fun _ => True := by
  refine (adds_capture key adds present).promises fun {table error final} tracked ran => ?_
  unfold capture at ran
  simp only [run_bind, run_get] at ran
  split at ran
  · cases ran
  · simp only [run_bind, run_modify] at ran
    split at ran
    · cases ran
    · rename_i error middle fieldsRan
      cases ran
      exact (keeps.run (tracked.markCaptured key) fieldsRan).1

/-! ### Packing types -/

mutual

/-- Packing a type keeps a table tracked, in success and in failure. -/
theorem tracked_pack (structural : Bool) : ∀ type : DataType,
    Promises Tracked (pack structural type) (fun _ => True) fun _ => True
  | .array element => by
    unfold pack
    refine promises_bind (tracked_enter _) fun key _ => ?_
    split
    · exact promises_bind (tracked_pack structural element) fun _ _ => promises_pure trivial
    · exact promises_pure trivial
  | .generic name family arguments => by
    unfold pack
    refine promises_bind (tracked_enter _) fun key _ => ?_
    refine promises_bind (tracked_packArguments structural arguments) fun _ _ => ?_
    split
    · have nothing : Adds Tracked (pure []) fun (entries : List FieldEntry) _ => entries = [] :=
        adds_pure _ fun _ => rfl
      refine promises_bind (tracked_capture key nothing ?_ (promises_pure trivial))
        fun _ _ => promises_pure trivial
      rintro _ _ rfl _ member
      cases member
    · exact promises_pure trivial
  | .record name fields captured => by
    unfold pack
    refine promises_bind (tracked_enter _) fun key _ => ?_
    split
    · exact promises_bind (tracked_capture key (adds_packFields fields) hasKey_of_known
        (tracked_packFields fields)) fun _ _ => promises_pure trivial
    · exact promises_pure trivial
  | .primitive kind => by
    unfold pack
    exact tracked_enter _
  | .object => by
    unfold pack
    exact tracked_enter _
  | .holder name => by
    unfold pack
    exact tracked_enter _
  | .parameter owner position => by
    unfold pack
    exact tracked_enter _

theorem tracked_packArguments (structural : Bool) : ∀ types : List DataType,
    Promises Tracked (packArguments structural types) (fun _ => True) fun _ => True
  | [] => by
    unfold packArguments
    exact promises_pure trivial
  | type :: rest => by
    unfold packArguments
    split
    · exact promises_bind (tracked_pack structural type) fun _ _ =>
        tracked_packArguments structural rest
    · exact tracked_packArguments structural rest

theorem tracked_packFields : ∀ fields : List (Field DataType),
    Promises Tracked (packFields fields) (fun _ => True) fun _ => True
  | [] => by
    unfold packFields
    exact promises_pure trivial
  | ⟨name, type, isPublic⟩ :: rest => by
    unfold packFields
    exact promises_bind (tracked_pack true type) fun _ _ =>
      promises_bind (tracked_packFields rest) fun _ _ => promises_pure trivial

end

theorem keptByPacking_tracked : KeptByPacking Tracked :=
  tracked_pack

/-! ### Tables that packing reaches -/

/-- A table that starts empty and is reached by packing types, references, trees and expressions,
each of which may have failed. -/
inductive Reached (catalog : Catalog) (source : Nat → UInt32) : TypeTable → Prop
  | empty : Reached catalog source (TypeTable.empty catalog source)
  | type {table : TypeTable} (reached : Reached catalog source table) (structural : Bool)
    (type : DataType) : Reached catalog source ((pack structural type).run table).2
  | method {table : TypeTable} (reached : Reached catalog source table) (method : Method) :
    Reached catalog source ((MethodReference.pack method).run table).2
  | constructor {table : TypeTable} (reached : Reached catalog source table)
    (constructor : Constructor) :
    Reached catalog source ((ConstructorReference.pack constructor).run table).2
  | member {table : TypeTable} (reached : Reached catalog source table) (read : Member) :
    Reached catalog source ((MemberReference.pack read).run table).2
  | tree {table : TypeTable} (reached : Reached catalog source table) (limit : Nat)
    (expression : Expr) : Reached catalog source ((Node.pack limit expression).run table).2
  | packet {table : TypeTable} (reached : Reached catalog source table) (settings : Settings)
    (expression : Expr) :
    Reached catalog source ((Serializer.encode settings expression).run table).2

/-- Whatever was packed before, with or without success, the table is tracked. -/
theorem Reached.tracked {catalog : Catalog} {source : Nat → UInt32} {table : TypeTable}
    (reached : Reached catalog source table) : table.Tracked := by
  induction reached with
  | empty => exact tracked_empty catalog source
  | type _ structural type tracked => exact ((tracked_pack structural type).run tracked rfl).1
  | method _ method tracked =>
    exact ((MethodReference.keeps_pack keptByPacking_tracked method).run tracked rfl).1
  | constructor _ constructor tracked =>
    exact ((ConstructorReference.keeps_pack keptByPacking_tracked constructor).run tracked rfl).1
  | member _ read tracked =>
    exact ((MemberReference.keeps_pack keptByPacking_tracked read).run tracked rfl).1
  | tree _ limit expression tracked =>
    exact ((Node.packAt_within keptByPacking_tracked expression 0).run tracked rfl).1
  | packet _ settings expression tracked =>
    exact ((Serializer.keeps_encode keptByPacking_tracked settings expression).run tracked rfl).1

end TypeTable

end PredicateWire
