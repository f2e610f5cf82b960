import Mathlib.Init

/-! # Runs

The states that a partial step function reaches, through steps that meet a condition.
-/

namespace HomelabBuilder.Runs

variable {State Event : Type*} {next : State → Event → Option State}
  {meets : State → Event → Prop} {start state after : State}

inductive Reaches (next : State → Event → Option State) (meets : State → Event → Prop)
    (start : State) : State → Prop
  | nil : Reaches next meets start start
  | step {state after : State} {event : Event} : Reaches next meets start state →
      meets state event → next state event = some after → Reaches next meets start after

theorem Reaches.invariant {holds : State → Prop} (begins : holds start)
    (keeps : ∀ state event after, holds state → meets state event →
      next state event = some after → holds after)
    (run : Reaches next meets start state) : holds state := by
  induction run with
  | nil => exact begins
  | step earlier condition done induction => exact keeps _ _ _ induction condition done

theorem Reaches.mono {weaker : State → Event → Prop}
    (weakens : ∀ state event, meets state event → weaker state event)
    (run : Reaches next meets start state) : Reaches next weaker start state := by
  induction run with
  | nil => exact .nil
  | step earlier condition done induction => exact .step induction (weakens _ _ condition) done

/-! ## Running a list of events -/

/-- The state behind the events, if all of them are possible and meet the condition. -/
def follow (next : State → Event → Option State) (meets : State → Event → Bool) :
    State → List Event → Option State
  | state, [] => some state
  | state, event :: rest =>
      if meets state event then (next state event).bind fun after => follow next meets after rest
      else none

theorem reaches_of_follow {checks : State → Event → Bool} {events : List Event}
    (run : Reaches next (fun state event => checks state event = true) start state)
    (done : follow next checks state events = some after) :
    Reaches next (fun state event => checks state event = true) start after := by
  induction events generalizing state with
  | nil =>
      cases done
      exact run
  | cons event rest induction =>
      unfold follow at done
      split at done
      · rename_i condition
        rcases Option.bind_eq_some_iff.mp done with ⟨middle, stepped, remaining⟩
        exact induction (.step run condition stepped) remaining
      · cases done

end HomelabBuilder.Runs
