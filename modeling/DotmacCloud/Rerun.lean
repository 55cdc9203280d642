import DotmacCloud.Paging

/-! # Running a drain again

After a drain of the whole queue only its refusals are offered. A second drain refuses
each of them again, at whatever time it is run, and every append of it replays: nothing
is written.
-/

namespace DotmacCloud

open Foundation

section Rerun

variable {Digest : Type} [DecidableEq Digest] {kernel : Kernel Digest} {t : UUID} {terms : Terms}
  {accepts : AcceptRatedObligationV1 → Bool} {db db' : TenantState Digest}

/-- A drain answers each output by its verdict. -/
theorem applyOutputs_outcomes (fixed : FixedVerdict t terms accepts)
    {outputs : List RatedObligationOutputV1} {outcomes : List ReceiptOutcome}
    (returned : applyOutputs kernel ⟨t⟩ (.scoped t) terms outputs db = .ok (outcomes, db')) :
    outcomes = outputs.map (fun output =>
      if refuses t terms accepts output = true then .refused else .applied) := by
  induction outputs generalizing db outcomes with
  | nil =>
      cases returned
      rfl
  | cons output rest ih =>
      obtain ⟨outcome, next, others, handed, ran, rfl⟩ := applyOutputs_cons_eq_ok.mp returned
      rw [ih ran, List.map_cons]
      congr 1
      have verdict := handed.refused_iff fixed
      cases outcome with
      | refused => exact (if_pos (verdict.mpr rfl)).symm
      | applied => exact (if_neg (fun refused => nomatch verdict.mp refused)).symm

/-- What a drain of the whole queue leaves offered is what it refused. -/
theorem offered_after_whole (fixed : FixedVerdict t terms accepts)
    (distinct : (db.offered.map RatedObligationOutputV1.occurrenceId).Nodup)
    (walks : Walks kernel t terms db db.offered db') :
    db'.offered = db.offered.filter (refuses t terms accepts) := by
  have whole : Walks kernel t terms db (db.offered.take db.offered.length) db' := by
    rwa [List.take_length]
  rw [offered_walked fixed distinct whole, Paging.offered, List.take_length, List.drop_length,
    List.append_nil]

/-- A drain of the whole queue run again, at any time, refuses exactly what the first
    one refused and leaves the state the first one left. -/
theorem rerun_changes_nothing (kernel : Kernel Digest) (t : UUID) (terms : Terms)
    (accepts : AcceptRatedObligationV1 → Bool) (fixed : FixedVerdict t terms accepts)
    (db db' : TenantState Digest)
    (distinct : (db.offered.map RatedObligationOutputV1.occurrenceId).Nodup)
    (limit limit' : Nat) (covers : db.offered.length ≤ limit) (covers' : db.offered.length ≤ limit')
    (outcomes : List ReceiptOutcome) (returned : db.drain kernel t terms limit = .ok (outcomes, db'))
    (instant : Int) :
    outcomes.length = db.offered.length ∧
    db'.offered = ((db.offered.zip outcomes).filter (fun entry => entry.2 = .refused)).map Prod.fst ∧
    db'.drain kernel t { terms with observedAt := .aware instant } limit' =
      .ok (db'.offered.map (fun _ => .refused), db') := by
  have page : db.unacknowledgedOutputs limit = db.offered := List.take_of_length_le covers
  rw [TenantState.drain, drainRatedObligations, page] at returned
  have answered := applyOutputs_outcomes fixed returned
  have left := offered_after_whole fixed distinct ⟨outcomes, returned⟩
  refine ⟨?_, ?_, ?_⟩
  · rw [answered, List.length_map]
  · rw [left, answered, ← List.map_prod_left_eq_zip, List.filter_map, List.map_map]
    have kept : (fun entry : RatedObligationOutputV1 × ReceiptOutcome =>
        decide (entry.2 = .refused)) ∘ (fun output => (output,
          if refuses t terms accepts output = true then ReceiptOutcome.refused else .applied)) =
        refuses t terms accepts := by
      funext output
      by_cases refused : refuses t terms accepts output = true <;> simp [refused]
    rw [kept]
    exact (List.map_id _).symm
  · have short : db'.offered.length ≤ limit' := by
      rw [left]
      exact (List.length_filter_le _ _).trans covers'
    have again : db'.unacknowledgedOutputs limit' = db'.offered := List.take_of_length_le short
    rw [TenantState.drain, drainRatedObligations, again]
    apply applyOutputs_idle
    intro output member
    rw [left] at member
    exact Walks.again_asOf fixed ⟨outcomes, returned⟩ (.refl db') (List.mem_of_mem_filter member)
      (List.of_mem_filter member) instant

end Rerun

/-- One refusal and one charge, drained twice a day apart. -/
theorem rerun_halfLinked :
    ∃ outcomes, ∃ db' : TenantState Payload,
      (drainHistory plainKernel 1 twoCharges).drain plainKernel 1 halfLinked 2 = .ok (outcomes, db') ∧
      db'.drain plainKernel 1 { halfLinked with observedAt := .aware 172800 } 2 =
        .ok (db'.offered.map (fun _ => .refused), db') := by
  obtain ⟨outcomes, db', ran⟩ := twoCharges_drained
  exact ⟨outcomes, db', ran, (rerun_changes_nothing plainKernel 1 halfLinked (fun _ => true)
    (halfLinked_fixed _) _ db' twoCharges_distinct 2 2 twoCharges_covered twoCharges_covered
    outcomes ran 172800).2.2⟩

end DotmacCloud
