/-
This file says what it means to run work that has a state and can fail, one step at a
time. Type tables, searches, rebuilding and evaluation on a stack are all such work, and
a failure leaves the state as it was when it happened: there is no rolling back, which
is why so many theorems here speak of the state after an error.

The equations are the definitions of the steps, with the name of a run on the left; simp
uses them to run an operation symbolically. The two lemmas at the end go the other way.
From a run that has succeeded they recover the runs of its parts, and that is how most
facts about a success are found out.
-/
import PredicateWire.Error

namespace PredicateWire

/-- What two steps yield, the second one yields from what the first one yields. -/
theorem bind_eq_ok {Fault First Second : Type} {first : Except Fault First}
    {next : First → Except Fault Second} {content : Second}
    (succeeds : first >>= next = .ok content) :
    ∃ middle, first = .ok middle ∧ next middle = .ok content := by
  cases first with
  | error error => cases succeeds
  | ok middle => exact ⟨middle, rfl, succeeds⟩

namespace Running

variable {Fault State First Second : Type} {start : State}

/-- Work in two parts runs the second part from where the first one ends, and not at all after a
failure. -/
theorem run_bind (work : ExceptT Fault (StateM State) First)
    (next : First → ExceptT Fault (StateM State) Second) :
    (work >>= next).run start =
      match work.run start with
      | (.ok content, middle) => (next content).run middle
      | (.error error, middle) => (.error error, middle) := by
  show (match work start with | (outcome, middle) => ExceptT.bindCont next outcome middle) = _
  rcases ran : work.run start with ⟨outcome | outcome, middle⟩ <;>
    rw [show work start = _ from ran] <;> rfl

@[simp]
theorem run_pure (content : First) :
    (pure content : ExceptT Fault (StateM State) First).run start = (.ok content, start) :=
  rfl

@[simp]
theorem run_throw (error : Fault) :
    (throw error : ExceptT Fault (StateM State) First).run start = (.error error, start) :=
  rfl

@[simp]
theorem run_get : (get : ExceptT Fault (StateM State) State).run start = (.ok start, start) := rfl

@[simp]
theorem run_set (changed : State) :
    (set changed : ExceptT Fault (StateM State) PUnit).run start = (.ok ⟨⟩, changed) :=
  rfl

@[simp]
theorem run_modify (change : State → State) :
    (modify change : ExceptT Fault (StateM State) PUnit).run start = (.ok ⟨⟩, change start) := rfl

/-- Work in two parts succeeds when both parts do. -/
theorem run_bind_ok {work : ExceptT Fault (StateM State) First}
    {next : First → ExceptT Fault (StateM State) Second} {result : Second} {final : State}
    (ran : (work >>= next).run start = (.ok result, final)) :
    ∃ content middle, work.run start = (.ok content, middle) ∧
      (next content).run middle = (.ok result, final) := by
  rw [run_bind] at ran
  split at ran
  · rename_i content middle first
    exact ⟨content, middle, first, ran⟩
  · cases ran

/-- Work on each of several things succeeds when all of it does. -/
theorem run_mapM_ok {work : First → ExceptT Fault (StateM State) Second} {items : List First}
    {results : List Second} {final : State}
    (ran : (items.mapM work).run start = (.ok results, final)) :
    items.length = results.length ∧ ∀ pair ∈ items.zip results,
      ∃ before after, (work pair.1).run before = (.ok pair.2, after) := by
  induction items generalizing start results with
  | nil =>
    cases ran
    exact ⟨rfl, fun _ member => nomatch member⟩
  | cons item rest inductionHypothesis =>
    rw [List.mapM_cons] at ran
    obtain ⟨result, middle, first, ran⟩ := run_bind_ok ran
    obtain ⟨results, last, others, ran⟩ := run_bind_ok ran
    cases ran
    obtain ⟨lengths, each⟩ := inductionHypothesis others
    refine ⟨congrArg Nat.succ lengths, fun pair member => ?_⟩
    rcases List.mem_cons.mp member with rfl | later
    · exact ⟨start, middle, first⟩
    · exact each pair later

end Running

end PredicateWire
