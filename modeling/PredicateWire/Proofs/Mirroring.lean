/-
This file compares two runs of work that can fail. Two pieces of work mirror each other
when from corresponding states both succeed, with corresponding results and states, or
both fail with corresponding errors. Some errors may be excused: one side may stop with
them whatever the other one does. This is for two senders that draw keys of their own,
of which one may run out of fresh ones.

Most comparisons are with a renamed copy, though, where the state on one side is the
image of the state on the other. Then the work is said to commute with that change of
states: results match, and failures are of the same kind, with no exception. Each form
of work has one rule, for mirroring and for commuting, so a simulation is proved along
the text of the operation.
-/
import Mathlib.Data.List.Forall2
import PredicateWire.Proofs.Running

namespace PredicateWire

/-! ### Corresponding outcomes -/

/-- Which failures of two runs correspond. An excused error corresponds to every other one. -/
structure Tolerance (State : Type) where
  excused : Error → Prop
  faults : Error → Error → State → State → Prop
  excusedLeft : ∀ {error other left right}, excused error → faults error other left right
  excusedRight : ∀ {error other left right}, excused other → faults error other left right

/-- Two outcomes correspond, together with the states in which they leave the work. -/
def Tolerance.Corresponds {State First Second : Type} (tolerance : Tolerance State)
    (after : First → Second → State → State → Prop) :
    Except Error First × State → Except Error Second × State → Prop
  | (.ok first, left), (.ok second, right) => after first second left right
  | (.error error, left), (.error other, right) => tolerance.faults error other left right
  | (.error error, _), (.ok _, _) => tolerance.excused error
  | (.ok _, _), (.error other, _) => tolerance.excused other

/-- From states that correspond before, the outcomes of two pieces of work correspond. -/
structure Mirrors {State First Second : Type} (tolerance : Tolerance State)
    (before : State → State → Prop) (work : ExceptT Error (StateM State) First)
    (twin : ExceptT Error (StateM State) Second)
    (after : First → Second → State → State → Prop) : Prop where
  run : ∀ {left right}, before left right →
    tolerance.Corresponds after (work.run left) (twin.run right)

section

open Running

variable {State First Second Third Fourth : Type} {tolerance : Tolerance State}
  {before : State → State → Prop} {work : ExceptT Error (StateM State) First}
  {twin : ExceptT Error (StateM State) Second} {middle after : First → Second → State → State → Prop}

/-- Two results correspond wherever the states they are yielded from do. -/
theorem mirrors_pure {first : First} {second : Second}
    (holds : ∀ {left right}, before left right → after first second left right) :
    Mirrors tolerance before (pure first) (pure second) after :=
  ⟨holds⟩

/-- Two failures correspond if their errors do, from all states that correspond. -/
theorem mirrors_throw {error other : Error}
    (holds : ∀ {left right}, before left right → tolerance.faults error other left right) :
    Mirrors tolerance before (throw error) (throw other) after :=
  ⟨holds⟩

/-- Work in two parts is mirrored part by part, where the second parts may count on what the first
ones yielded and on how the states are related afterwards. -/
theorem mirrors_bind {next : First → ExceptT Error (StateM State) Third}
    {twinNext : Second → ExceptT Error (StateM State) Fourth}
    {last : Third → Fourth → State → State → Prop} (firsts : Mirrors tolerance before work twin middle)
    (seconds : ∀ first second,
      Mirrors tolerance (middle first second) (next first) (twinNext second) last) :
    Mirrors tolerance before (work >>= next) (twin >>= twinNext) last := by
  refine ⟨fun {left right} holds => ?_⟩
  have parts := firsts.run holds
  rw [run_bind, run_bind]
  revert parts
  rcases work.run left with ⟨error | first, leftMiddle⟩ <;>
    rcases twin.run right with ⟨other | second, rightMiddle⟩ <;> intro parts
  · exact parts
  · -- Only the left side has failed, so its error is excused whatever the right side does next.
    dsimp only
    rcases (twinNext second).run rightMiddle with ⟨other | result, final⟩
    · exact tolerance.excusedLeft parts
    · exact parts
  · dsimp only
    rcases (next first).run leftMiddle with ⟨error | result, final⟩
    · exact tolerance.excusedRight parts
    · exact parts
  · exact (seconds first second).run parts

/-- Work may look at the state that it starts from. The other side sees the state that is related to
it, and what follows has to be mirrored for this pair. -/
theorem mirrors_get {next : State → ExceptT Error (StateM State) First}
    {twinNext : State → ExceptT Error (StateM State) Second}
    (each : ∀ left right, before left right → Mirrors tolerance
      (fun start other => start = left ∧ other = right ∧ before start other) (next left)
        (twinNext right) after) :
    Mirrors tolerance before (get >>= next) (get >>= twinNext) after :=
  ⟨fun holds => (each _ _ holds).run ⟨rfl, rfl, holds⟩⟩

theorem mirrors_modify {change twinChange : State → State}
    {after : PUnit → PUnit → State → State → Prop}
    (holds : ∀ {left right}, before left right → after ⟨⟩ ⟨⟩ (change left) (twinChange right)) :
    Mirrors tolerance before (modify change) (modify twinChange) after :=
  ⟨holds⟩

/-- Work that mirrors other work does so from fewer pairs of states, and with less said of what they
come to. -/
theorem Mirrors.weaken {earlier : State → State → Prop}
    (mirrors : Mirrors tolerance before work twin middle)
    (start : ∀ {left right}, earlier left right → before left right)
    (final : ∀ {first second left right}, middle first second left right →
      after first second left right) : Mirrors tolerance earlier work twin after := by
  refine ⟨fun {left right} holds => ?_⟩
  have runs := mirrors.run (start holds)
  revert runs
  rcases work.run left with ⟨error | first, leftMiddle⟩ <;>
    rcases twin.run right with ⟨other | second, rightMiddle⟩ <;> intro runs
  · exact runs
  · exact runs
  · exact runs
  · exact final runs

end

/-! ### Work that commutes with a change of states -/

/-- Two results correspond: both succeed with matching contents, or both fail with errors of one
kind. -/
def Result.Matches {First Second : Type} (matching : First → Second → Prop) :
    Result First → Result Second → Prop
  | .ok first, .ok second => matching first second
  | .error error, .error other => error.kind = other.kind
  | _, _ => False

/-- Errors correspond when they are of one kind, and no error is excused. -/
def Tolerance.kinds {State : Type} (image : State → State) : Tolerance State where
  excused := fun _ => False
  faults := fun error other left right => error.kind = other.kind ∧ right = image left
  excusedLeft := False.elim
  excusedRight := False.elim

/-- Work mirrors other work up to a change of states. -/
def Commutes {State First Second : Type} (image : State → State)
    (matching : First → Second → Prop) (work : ExceptT Error (StateM State) First)
    (twin : ExceptT Error (StateM State) Second) : Prop :=
  Mirrors (Tolerance.kinds image) (fun left right => right = image left) work twin
    fun first second left right => matching first second ∧ right = image left

section

open Running

variable {State First Second Third Fourth : Type} {image : State → State}
  {matching : First → Second → Prop} {work : ExceptT Error (StateM State) First}
  {twin : ExceptT Error (StateM State) Second}

/-- Work that only yields commutes with every change of states, if what is yielded matches. -/
theorem commutes_pure {first : First} {second : Second} (holds : matching first second) :
    Commutes image matching (pure first) (pure second) :=
  mirrors_pure fun same => ⟨holds, same⟩

/-- Work that only fails commutes with every change of states, if the errors are of one kind. -/
theorem commutes_throw {error other : Error} (kinds : error.kind = other.kind) :
    Commutes image matching (throw error) (throw other) :=
  mirrors_throw fun same => ⟨kinds, same⟩

/-- Work in two parts commutes part by part; the second parts need only do so for matching results
of the first. -/
theorem commutes_bind {next : First → ExceptT Error (StateM State) Third}
    {twinNext : Second → ExceptT Error (StateM State) Fourth} {last : Third → Fourth → Prop}
    (firsts : Commutes image matching work twin)
    (seconds : ∀ first second, matching first second →
      Commutes image last (next first) (twinNext second)) :
    Commutes image last (work >>= next) (twin >>= twinNext) :=
  mirrors_bind firsts fun first second => ⟨fun holds => (seconds first second holds.1).run holds.2⟩

/-- Work that looks at the state commutes if the twin does so for the image of whatever is seen. -/
theorem commutes_get {next : State → ExceptT Error (StateM State) First}
    {twinNext : State → ExceptT Error (StateM State) Second}
    (each : ∀ state, Commutes image matching (next state) (twinNext (image state))) :
    Commutes image matching (get >>= next) (get >>= twinNext) := by
  refine mirrors_get fun left right same => ⟨?_⟩
  subst same
  rintro _ _ ⟨rfl, rfl, _⟩
  exact (each _).run rfl

/-- A change of the state commutes with another one if they can be made in either order. -/
theorem commutes_modify {change twinChange : State → State}
    (commute : ∀ state, twinChange (image state) = image (change state)) :
    Commutes image (fun _ _ => True) (modify change) (modify twinChange) := by
  refine mirrors_modify fun {left right} same => ⟨trivial, ?_⟩
  rw [same, commute]

/-- Work after a check commutes if both sides make the same check. The two errors need only be of
one kind, since an error may name what is renamed. -/
theorem commutes_check {condition other : Prop} [Decidable condition] [Decidable other]
    (same : condition ↔ other) {error fault : Error} (kinds : error.kind = fault.kind)
    {next : PUnit → ExceptT Error (StateM State) First}
    {twinNext : PUnit → ExceptT Error (StateM State) Second}
    (passed : Commutes image matching (next ⟨⟩) (twinNext ⟨⟩)) :
    Commutes image matching (if condition then throw error >>= next else next ⟨⟩)
      (if other then throw fault >>= twinNext else twinNext ⟨⟩) := by
  by_cases refused : condition
  · rw [if_pos refused, if_pos (same.mp refused)]
    exact commutes_bind (commutes_throw kinds) fun _ _ (matched : False) => matched.elim
  · rw [if_neg refused, if_neg fun passes => refused (same.mpr passes)]
    exact passed

/-- Work on each of several things commutes with the same work on their images. -/
theorem commutes_mapM {Item Image : Type} {carry : Item → Image}
    {work : Item → ExceptT Error (StateM State) First}
    {twin : Image → ExceptT Error (StateM State) Second} {items : List Item}
    (each : ∀ item ∈ items, Commutes image matching (work item) (twin (carry item))) :
    Commutes image (List.Forall₂ matching) (items.mapM work) ((items.map carry).mapM twin) := by
  induction items with
  | nil => exact commutes_pure .nil
  | cons item rest inductionHypothesis =>
    rw [List.map_cons, List.mapM_cons, List.mapM_cons]
    refine commutes_bind (each item (.head _)) fun first second matched => ?_
    refine commutes_bind (inductionHypothesis fun other member => each other (.tail _ member))
      fun firsts seconds rests => ?_
    exact commutes_pure (.cons matched rests)

/-- The results of work that commutes match, and the state in which the twin ends is the image of
the one in which the work ends, after a failure as well. -/
theorem Commutes.outcome {start other : State} (commutes : Commutes image matching work twin)
    (same : other = image start) :
    Result.Matches matching (work.run start).1 (twin.run other).1 ∧
      (twin.run other).2 = image (work.run start).2 := by
  have runs := commutes.run same
  revert runs
  rcases work.run start with ⟨error | first, final⟩ <;>
    rcases twin.run other with ⟨fault | second, finalOther⟩ <;> intro runs
  · exact runs
  · exact runs.elim
  · exact runs.elim
  · exact runs

end

end PredicateWire
