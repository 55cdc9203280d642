import Mathlib

/-! # Progress of parties that wait for each other

Where every wait goes up a bounded rank there is no circle: from each party the waits
lead to one that waits for nobody. A step function whose steps all lower a measure, and
that is stuck in final states only, runs every state to a final one.
-/

namespace DotmacCloud.Foundation.Progress

section Waiting

variable {ι : Type*} {Waits : ι → ι → Prop} {rank : ι → Nat} {bound : Nat}

/-- Waits that go up a bounded rank lead to a party that waits for nobody. -/
theorem exists_unblocked (bounded : ∀ i j, Waits i j → rank i < bound)
    (rises : ∀ i j k, Waits i j → Waits j k → rank i < rank j) (i : ι) :
    ∃ j, Relation.ReflTransGen Waits i j ∧ ∀ k, ¬ Waits j k := by
  induction remaining : bound - rank i using Nat.strong_induction_on generalizing i with
  | _ remaining ih =>
      by_cases blocked : ∃ j, Waits i j
      · obtain ⟨j, waits⟩ := blocked
        by_cases further : ∃ k, Waits j k
        · obtain ⟨k, next⟩ := further
          have higher := rises i j k waits next
          have below := bounded j k next
          obtain ⟨last, chain, free⟩ := ih (bound - rank j) (by omega) j rfl
          exact ⟨last, .head waits chain, free⟩
        · exact ⟨j, .single waits, fun k next => further ⟨k, next⟩⟩
      · exact ⟨i, .refl, fun j waits => blocked ⟨j, waits⟩⟩

end Waiting

section Measure

variable {σ ε : Type*} {step : σ → ε → Option σ} {allowed : ε → Prop} {Keeps Final : σ → Prop}
  {measure : σ → Nat}

/-- The states the allowed events lead through, one after another. -/
inductive Runs (step : σ → ε → Option σ) (allowed : ε → Prop) : List ε → σ → σ → Prop where
  | done (s : σ) : Runs step allowed [] s s
  | next {event : ε} {rest : List ε} {s mid last : σ} (may : allowed event)
      (moved : step s event = some mid) (later : Runs step allowed rest mid last) :
      Runs step allowed (event :: rest) s last

/-- A run is no longer than what it takes from the measure. -/
theorem Runs.length_le (lowers : ∀ s event s', Keeps s → allowed event → step s event = some s' →
      Keeps s' ∧ measure s' < measure s) {events : List ε} {s last : σ}
    (runs : Runs step allowed events s last) (keeps : Keeps s) :
    Keeps last ∧ events.length + measure last ≤ measure s := by
  induction runs with
  | done s => exact ⟨keeps, by simp⟩
  | next may moved later ih =>
      obtain ⟨kept, lower⟩ := lowers _ _ _ keeps may moved
      obtain ⟨ended, bound⟩ := ih kept
      refine ⟨ended, ?_⟩
      rw [List.length_cons]
      omega

/-- Steps that lower a measure, and are stuck only at the end, reach the end. -/
theorem finishes (lowers : ∀ s event s', Keeps s → allowed event → step s event = some s' →
      Keeps s' ∧ measure s' < measure s)
    (progress : ∀ s, Keeps s → ¬ Final s → ∃ event s', allowed event ∧ step s event = some s')
    (s : σ) (keeps : Keeps s) : ∃ events last, Runs step allowed events s last ∧ Final last := by
  induction remaining : measure s using Nat.strong_induction_on generalizing s with
  | _ remaining ih =>
      by_cases final : Final s
      · exact ⟨[], s, .done s, final⟩
      · obtain ⟨event, mid, may, moved⟩ := progress s keeps final
        obtain ⟨kept, lower⟩ := lowers s event mid keeps may moved
        obtain ⟨events, last, runs, ended⟩ := ih (measure mid) (remaining ▸ lower) mid kept rfl
        exact ⟨event :: events, last, .next may moved runs, ended⟩

end Measure

section Order

variable {α : Type*} [DecidableEq α]

/-- What comes earlier in a list comes earlier in every longer one without repetition. -/
theorem idxOf_lt_of_sublist {front back l : List α} {x y : α} (inside : (front ++ y :: back).Sublist l)
    (once : l.Nodup) (member : x ∈ front) : l.idxOf x < l.idxOf y := by
  obtain ⟨before, after, rfl, left, right⟩ := List.append_sublist_iff.mp inside
  have here : x ∈ before := left.subset member
  have there : y ∈ after := right.subset List.mem_cons_self
  have apart : y ∉ before := fun early => (List.nodup_append.mp once).2.2 y early y there rfl
  rw [List.idxOf_append_of_mem here, List.idxOf_append_of_notMem apart]
  have inBefore := List.idxOf_lt_length_iff.mpr here
  omega

end Order

end DotmacCloud.Foundation.Progress
