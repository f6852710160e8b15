/-
This file gives contracts for work that can fail. An outcome meets a contract when what
it yields is as wanted or the fault it stops with is as expected (`Meets`). Work with a
state promises this from every state that has a property, and it keeps the property
whether or not it succeeds (`Promises`). Both halves matter here: a type table that an
operation has failed on is used again, and theorems about which errors can come up say
as much as those about results.

The rules follow the way work is put together, one rule for each of its forms, so that a
proof about an operation is a walk through its text. What the first step of two yields
may be used for the second; that is how the results of packing one part reach the next
part.
-/
import Mathlib.Data.List.Forall2
import PredicateWire.Proofs.Running

namespace PredicateWire

/-! ### Outcomes -/

/-- What an outcome yields is as wanted, and the fault it stops with is as expected. -/
def Meets {Fault Content : Type} (wanted : Content → Prop) (expected : Fault → Prop) :
    Except Fault Content → Prop
  | .ok content => wanted content
  | .error fault => expected fault

/-- Every outcome meets the contract that asks for nothing. -/
theorem meets_true {Fault Content : Type} (outcome : Except Fault Content) :
    Meets (fun _ => True) (fun _ => True) outcome := by
  cases outcome <;> trivial

namespace Meets

variable {Fault First Second : Type} {wanted fits : First → Prop} {expected fears : Fault → Prop}
  {outcome : Except Fault First}

theorem weaken (meets : Meets fits fears outcome) (wants : ∀ content, fits content → wanted content)
    (expects : ∀ fault, fears fault → expected fault) : Meets wanted expected outcome := by
  cases outcome with
  | ok content => exact wants content meets
  | error fault => exact expects fault meets

/-- Two steps meet a contract if the first one yields something that fits, and the second one meets
the contract for whatever fits. Faults of both steps must be expected. -/
theorem bind {next : First → Except Fault Second} {result : Second → Prop}
    (first : Meets fits expected outcome)
    (second : ∀ content, fits content → Meets result expected (next content)) :
    Meets result expected (outcome >>= next) := by
  cases outcome with
  | ok content => exact second content first
  | error fault => exact first

end Meets

/-- The error says that a tree nests too deeply. -/
def Error.IsDepth (error : Error) : Prop :=
  error.kind = .depthExceeded

/-! ### Work with a state -/

/-- Work keeps a property of states. From a state that has it, what the work yields is as wanted,
and the error it fails with is as expected. -/
structure Promises {State Content : Type} (kept : State → Prop)
    (work : ExceptT Error (StateM State) Content) (wanted : Content → Prop)
    (expected : Error → Prop) : Prop where
  run : ∀ {start outcome final}, kept start → work.run start = (outcome, final) →
    kept final ∧ Meets wanted expected outcome

section

open Running

variable {State First Second : Type} {kept : State → Prop} {expected : Error → Prop}

/-- Work that only yields keeps every promise about what it yields. -/
theorem promises_pure {content : First} {wanted : First → Prop} (holds : wanted content) :
    Promises kept (pure content) wanted expected := by
  refine ⟨fun good ran => ?_⟩
  cases ran
  exact ⟨good, holds⟩

/-- Work that only fails keeps every promise about the error it fails with. -/
theorem promises_throw {error : Error} {wanted : First → Prop} (holds : expected error) :
    Promises kept (throw error) wanted expected := by
  refine ⟨fun good ran => ?_⟩
  cases ran
  exact ⟨good, holds⟩

/-- Two pieces of work keep a promise if each does, and the second may count on what the first
one yields. -/
theorem promises_bind {work : ExceptT Error (StateM State) First}
    {next : First → ExceptT Error (StateM State) Second} {fits : First → Prop}
    {wanted : Second → Prop} (first : Promises kept work fits expected)
    (second : ∀ content, fits content → Promises kept (next content) wanted expected) :
    Promises kept (work >>= next) wanted expected := by
  refine ⟨fun {start outcome final} good ran => ?_⟩
  rw [run_bind] at ran
  rcases workRan : work.run start with ⟨content | content, middle⟩ <;> rw [workRan] at ran
  · cases ran
    exact first.run good workRan
  · obtain ⟨middleGood, fitting⟩ := first.run good workRan
    exact (second content fitting).run middleGood ran

/-- Work may look at the state that it starts from. -/
theorem promises_get {next : State → ExceptT Error (StateM State) First} {wanted : First → Prop}
    (each : ∀ state, kept state → Promises kept (next state) wanted expected) :
    Promises kept (get >>= next) wanted expected :=
  ⟨fun good ran => (each _ good).run good ran⟩

/-- A change of the state keeps the property if it does so from every state that has it. -/
theorem promises_modify {change : State → State} (keeps : ∀ state, kept state → kept (change state)) :
    Promises kept (modify change) (fun _ => True) expected := by
  refine ⟨fun good ran => ?_⟩
  cases ran
  exact ⟨keeps _ good, trivial⟩

/-- Work after a check may count on the check. The error of the check itself has to be an expected
one, but only in the case that the check is not passed. -/
theorem promises_check {condition : Prop} [Decidable condition] {error : Error}
    {next : PUnit → ExceptT Error (StateM State) First} {wanted : First → Prop}
    (refused : condition → expected error)
    (passed : ¬condition → Promises kept (next ⟨⟩) wanted expected) :
    Promises kept (if condition then throw error >>= next else next ⟨⟩) wanted expected := by
  split
  · rename_i holds
    exact ⟨fun good ran => by cases ran; exact ⟨good, refused holds⟩⟩
  · rename_i fails
    exact passed fails

/-- A promise implies every weaker one, about results and about errors alike. -/
theorem Promises.weaken {work : ExceptT Error (StateM State) First} {fits wanted : First → Prop}
    {fears : Error → Prop} (promises : Promises kept work fits fears)
    (wants : ∀ content, fits content → wanted content)
    (expects : ∀ error, fears error → expected error) : Promises kept work wanted expected :=
  ⟨fun good ran => ⟨(promises.run good ran).1, (promises.run good ran).2.weaken wants expects⟩⟩

/-- What each thing yields is as wanted of it. -/
theorem promises_mapM_each {work : First → ExceptT Error (StateM State) Second} {items : List First}
    {wanted : First → Second → Prop}
    (each : ∀ item ∈ items, Promises kept (work item) (wanted item) expected) :
    Promises kept (items.mapM work) (List.Forall₂ wanted items) expected := by
  induction items with
  | nil => exact promises_pure .nil
  | cons item rest inductionHypothesis =>
    rw [List.mapM_cons]
    refine promises_bind (each item (.head _)) fun result fitting => ?_
    refine promises_bind (inductionHypothesis fun other member => each other (.tail _ member))
      fun results rests => ?_
    exact promises_pure (.cons fitting rests)

/-- What holds of each result, whatever it is the result for, holds of all results. -/
theorem forall_mem_of_forall₂ {wanted : Second → Prop} {items : List First} {results : List Second}
    (fit : List.Forall₂ (fun _ => wanted) items results) : ∀ result ∈ results, wanted result := by
  induction fit with
  | nil => exact List.forall_mem_nil _
  | cons fitting _ inductionHypothesis =>
    exact List.forall_mem_cons.mpr ⟨fitting, inductionHypothesis⟩

/-- Work on several things promises of each result what the work on each thing promises of its
own. -/
theorem promises_mapM {work : First → ExceptT Error (StateM State) Second} {items : List First}
    {wanted : Second → Prop} (each : ∀ item ∈ items, Promises kept (work item) wanted expected) :
    Promises kept (items.mapM work) (fun results => ∀ result ∈ results, wanted result) expected :=
  (promises_mapM_each each).weaken (fun _ => forall_mem_of_forall₂) fun _ => id

end

end PredicateWire
