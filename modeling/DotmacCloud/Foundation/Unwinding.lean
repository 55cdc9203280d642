import Mathlib.Data.List.Basic

/-! # Noninterference by unwinding

A machine answers each event. An observer has a part of its state and some of its
events. If events the observer does not have leave the part alone, and the part alone
decides what its own events do, then whole runs show it nothing else.
-/

namespace DotmacCloud.Foundation.Unwinding

section Machine

variable {S E O : Type*} (step : S → E → S × O)

/-- The state after a run. -/
def finish (s : S) (events : List E) : S := events.foldl (fun s event => (step s event).1) s

/-- The answers to the events an observer has. -/
def answers (has : E → Bool) : S → List E → List O
  | _, [] => []
  | s, event :: events =>
      if has event then (step s event).2 :: answers has (step s event).1 events
      else answers has (step s event).1 events

/-- What every step keeps holds after every run. -/
theorem finish_keeps {keeps : S → Prop} (inductive_step : ∀ s event, keeps s → keeps (step s event).1)
    {s : S} (kept : keeps s) (events : List E) : keeps (finish step s events) := by
  induction events generalizing s with
  | nil => exact kept
  | cons event events ih => exact ih (inductive_step s event kept)

end Machine

section Observer

variable {S E O V F : Type*} {step : S → E → S × O} {keeps : S → Prop} {own : E → Option F}
  {part : S → V} {small : V → F → V × O}

/-- The machine `small` over the observer's part does what its own events do. -/
structure Unwinds (step : S → E → S × O) (keeps : S → Prop) (own : E → Option F) (part : S → V)
    (small : V → F → V × O) : Prop where
  kept : ∀ s event, keeps s → keeps (step s event).1
  silent : ∀ s event, keeps s → own event = none → part (step s event).1 = part s
  answered : ∀ s event mine, keeps s → own event = some mine →
    part (step s event).1 = (small (part s) mine).1 ∧ (step s event).2 = (small (part s) mine).2

/-- A run seen by the observer is a run of the small machine over its own events. -/
theorem Unwinds.run (unwinds : Unwinds step keeps own part small) {s : S} (holds : keeps s)
    (events : List E) :
    part (finish step s events) = finish small (part s) (events.filterMap own) ∧
      answers step (fun event => (own event).isSome) s events =
        answers small (fun _ => true) (part s) (events.filterMap own) := by
  induction events generalizing s with
  | nil => exact ⟨rfl, rfl⟩
  | cons event events ih =>
      obtain ⟨state, replies⟩ := ih (unwinds.kept s event holds)
      cases owned : own event with
      | none =>
          have still := unwinds.silent s event holds owned
          rw [still] at state replies
          rw [List.filterMap_cons_none owned]
          simp only [answers, owned, Option.isSome_none, Bool.false_eq_true, if_false]
          exact ⟨state, replies⟩
      | some mine =>
          obtain ⟨next, reply⟩ := unwinds.answered s event mine holds owned
          rw [next] at state replies
          rw [List.filterMap_cons_some owned]
          simp only [answers, owned, Option.isSome_some, if_true, reply, replies, and_true]
          exact state

/-- Two runs that agree on the observer's part and events look the same to it. -/
theorem Unwinds.noninterference (unwinds : Unwinds step keeps own part small) {s s' : S}
    (holds : keeps s) (holds' : keeps s') (agree : part s = part s') {events events' : List E}
    (same : events.filterMap own = events'.filterMap own) :
    part (finish step s events) = part (finish step s' events') ∧
      answers step (fun event => (own event).isSome) s events =
        answers step (fun event => (own event).isSome) s' events' := by
  obtain ⟨state, replies⟩ := unwinds.run holds events
  obtain ⟨state', replies'⟩ := unwinds.run holds' events'
  rw [state, state', replies, replies', agree, same]
  exact ⟨rfl, rfl⟩

end Observer

end DotmacCloud.Foundation.Unwinding
