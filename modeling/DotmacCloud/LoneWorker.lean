import DotmacCloud.Isolation

/-! # A drain on its own

A drain that nothing interrupts is a run of the concurrent system: its worker takes
the statements of `drainRatedObligations` one by one and commits what the drain
returns. Every history of drains is therefore among the interleavings.
-/

namespace DotmacCloud

open Foundation AtMostOnce AdapterReceiptRow

section LoneWorker

variable {Digest : Type} [DecidableEq Digest] {kernel : Kernel Digest} {t : UUID}

/-- No transaction is open. -/
def System.Quiet (s : System Digest) : Prop := ∀ i w, ¬ s.Live i w

/-- One transaction is open. -/
structure System.Lone (s : System Digest) (i : Nat) (w : Worker Digest) : Prop where
  live : s.Live i w
  only : ∀ j v, s.Live j v → j = i

omit [DecidableEq Digest] in
theorem System.Lone.put {s : System Digest} {i : Nat} {w : Worker Digest} (lone : s.Lone i w)
    (w' : Worker Digest) : (s.put i w').Lone i w' := by
  obtain ⟨inside, -⟩ := List.getElem?_eq_some_iff.mp lone.live
  refine ⟨List.getElem?_set_self inside, ?_⟩
  intro j v other
  rcases System.live_put lone.live other with ⟨same, -⟩ | ⟨-, known⟩
  · exact same
  · exact lone.only j v known

omit [DecidableEq Digest] in
theorem System.Quiet.begin {s : System Digest} (quiet : s.Quiet) (todo : List Delivery) :
    (s.begin todo).Lone s.workers.length ⟨.ready, todo, .empty⟩ := by
  refine ⟨by simp [System.Live, System.begin], ?_⟩
  intro j v other
  rcases System.live_begin other with known | ⟨-, beyond⟩
  · exact absurd known (quiet j v)
  · obtain ⟨inside, -⟩ := List.getElem?_eq_some_iff.mp other
    simp only [System.begin, List.length_append, List.length_singleton] at inside
    omega

theorem System.Lone.free {s : System Digest} {i : Nat} {w : Worker Digest} (lone : s.Lone i w)
    (key : RecordKey Digest) : s.busy i key = false := by
  rw [Bool.eq_false_iff]
  intro held
  obtain ⟨⟨place, j⟩, inside, wrote⟩ := List.any_eq_true.mp held
  cases place with
  | none => simp at wrote
  | some v =>
      have live : s.Live j v := List.mem_zipIdx_iff_getElem?.mp inside
      simp [lone.only j v live] at wrote

theorem System.Lone.step {s : System Digest} {i : Nat} {w : Worker Digest} (lone : s.Lone i w) :
    s.step kernel t (.advance i) = s.advance kernel t i w := by
  have live : s.workers[i]? = some (some w) := lone.live
  simp only [System.step, live]

/-- The lone worker's append is the append of its view. -/
theorem System.Lone.append {s : System Digest} {i : Nat} {phase next : Phase} {todo : List Delivery}
    {writes view : TenantState Digest} (lone : s.Lone i ⟨phase, todo, writes⟩)
    (seen : s.committed.join writes = view) {delivery : Delivery} {fact : SourceFact}
    {outcome : ReceiptOutcome} (stage : phase.Stage delivery fact outcome next) {tables : Tables Digest}
    (appended : appendReceipt kernel (.scoped t) view.tables fact outcome delivery.terms.observedAt =
      .ok tables) :
    s.step kernel t (.advance i) =
      some (s.put i ⟨next, todo, s.committed.since { view with tables }⟩) := by
  subst seen
  rw [lone.step]
  cases stage <;>
    simp only [System.advance, System.record, lone.free, Bool.false_eq_true, if_false, appended]

theorem System.Lone.acknowledge {s : System Digest} {i : Nat} {todo : List Delivery}
    {writes view : TenantState Digest} {delivery : Delivery}
    (lone : s.Lone i ⟨.recorded delivery, todo, writes⟩) (seen : s.committed.join writes = view) :
    s.step kernel t (.advance i) = some (s.put i ⟨.ready, todo, s.committed.since { view with
      acknowledgements :=
        view.acknowledgeOutput delivery.output.occurrenceId delivery.terms.observedAt }⟩) := by
  subst seen
  rw [lone.step]
  simp only [System.advance]

/-- A worker's statements for one output amount to its hand-off. -/
theorem System.Lone.handOff {s : System Digest} {i : Nat} {terms : Terms}
    {output : RatedObligationOutputV1} {rest : List Delivery} {writes next : TenantState Digest}
    (reached : s.Reachable kernel t) (lone : s.Lone i ⟨.ready, ⟨terms, output⟩ :: rest, writes⟩)
    {outcome : ReceiptOutcome}
    (handed : HandedOff kernel ⟨t⟩ (.scoped t) terms (s.committed.join writes) output outcome next) :
    ∃ s' : System Digest, s'.Reachable kernel t ∧ s'.committed = s.committed ∧
      s'.Lone i ⟨.ready, rest, s.committed.since next⟩ := by
  have whole : s.committed.Extends next := (s.committed.extends_join writes).trans handed.extends
  cases handed with
  | refused prepared refusal appended =>
      rename_i fact command tables
      let waiting : Worker Digest := ⟨.refusing ⟨terms, output⟩ fact, rest, writes⟩
      have first : s.step kernel t (.advance i) = some (s.put i waiting) := by
        rw [lone.step]
        cases command with
        | none => simp only [System.advance, prepared, waiting]
        | some command => simp only [System.advance, prepared, refusal command rfl, waiting]
      have second := (lone.put waiting).append rfl (.refusing ⟨terms, output⟩ fact) appended
      exact ⟨_, .next (.next reached trivial first) trivial second, rfl, (lone.put waiting).put _⟩
  | applied prepared charged appended =>
      rename_i fact command tables obligations
      let charge : TenantState Digest := { s.committed.join writes with obligations }
      let receipt : TenantState Digest := { charge with tables }
      let waiting : Worker Digest := ⟨.charged ⟨terms, output⟩ fact, rest, s.committed.since charge⟩
      let settled : Worker Digest := ⟨.recorded ⟨terms, output⟩, rest, s.committed.since receipt⟩
      have first : s.step kernel t (.advance i) = some (s.put i waiting) := by
        rw [lone.step]
        simp only [System.advance, prepared, charged, waiting, charge]
      have charge_seen : s.committed.join (s.committed.since charge) = charge :=
        TenantState.join_since ⟨List.prefix_append _ _, List.prefix_append _ _, whole.obligations,
          List.prefix_append _ _, List.prefix_append _ _⟩
      have second := (lone.put waiting).append charge_seen (.charged ⟨terms, output⟩ fact) appended
      have receipt_seen : s.committed.join (s.committed.since receipt) = receipt :=
        TenantState.join_since ⟨List.prefix_append _ _, List.prefix_append _ _, whole.obligations,
          whole.receipts, whole.records⟩
      have third : ((s.put i waiting).put i settled).step kernel t (.advance i) = _ :=
        ((lone.put waiting).put settled).acknowledge receipt_seen
      exact ⟨_, .next (.next (.next reached trivial first) trivial second) trivial third, rfl,
        ((lone.put waiting).put settled).put _⟩

/-- The worker runs its list as the loop of the drain does. -/
theorem System.Lone.applyOutputs {s : System Digest} {i : Nat} {terms : Terms}
    {outputs : List RatedObligationOutputV1} {writes db' : TenantState Digest}
    {outcomes : List ReceiptOutcome} (reached : s.Reachable kernel t)
    (lone : s.Lone i ⟨.ready, outputs.map (fun output => ⟨terms, output⟩), writes⟩)
    (returned : DotmacCloud.applyOutputs kernel ⟨t⟩ (.scoped t) terms outputs (s.committed.join writes) =
      .ok (outcomes, db')) :
    ∃ (s' : System Digest) (final : TenantState Digest), s'.Reachable kernel t ∧
      s'.committed = s.committed ∧ s'.Lone i ⟨.ready, [], final⟩ ∧ s.committed.join final = db' := by
  induction outputs generalizing s writes outcomes with
  | nil =>
      cases returned
      exact ⟨s, writes, reached, rfl, lone, rfl⟩
  | cons output rest ih =>
      obtain ⟨outcome, next, others, handed, ran, -⟩ := applyOutputs_cons_eq_ok.mp returned
      obtain ⟨later, laterReached, committed, laterLone⟩ := System.Lone.handOff reached lone handed
      have seen : later.committed.join (s.committed.since next) = next := by
        rw [committed]
        exact TenantState.join_since ((s.committed.extends_join writes).trans handed.extends)
      rw [← seen] at ran
      obtain ⟨s', final, finalReached, kept, finalLone, view⟩ := ih laterReached laterLone ran
      rw [committed] at kept view
      exact ⟨s', final, finalReached, kept, finalLone, view⟩

/-- A drain that returns can be run by one worker and committed. -/
theorem System.Quiet.drain {s : System Digest} (reached : s.Reachable kernel t) (quiet : s.Quiet)
    {terms : Terms} {limit : Nat} {outcomes : List ReceiptOutcome} {db' : TenantState Digest}
    (returned : s.committed.drain kernel t terms limit = .ok (outcomes, db')) :
    ∃ s' : System Digest, s'.Reachable kernel t ∧ s'.Quiet ∧ s'.committed = db' := by
  let page := (s.committed.unacknowledgedOutputs limit).map (fun output => (⟨terms, output⟩ : Delivery))
  have begun : s.step kernel t (.drain terms limit) = some (s.begin page) := rfl
  rw [TenantState.drain, drainRatedObligations] at returned
  have empty : s.committed = (s.begin page).committed.join .empty := (s.committed.join_empty).symm
  obtain ⟨last, writes, lastReached, committed, lone, view⟩ :=
    System.Lone.applyOutputs (.next reached trivial begun) (quiet.begin page) (by
      rw [← empty]
      exact returned)
  have live : last.workers[s.workers.length]? = some (some ⟨.ready, [], writes⟩) := lone.live
  have ended : last.step kernel t (.commit s.workers.length) =
      some { last.drop s.workers.length with committed := last.committed.join writes } := by
    simp only [System.step, live]
  refine ⟨_, .next lastReached trivial ended, ?_, ?_⟩
  · intro j v other
    obtain ⟨differ, known⟩ := System.live_drop (s := last) other
    exact differ (lone.only j v known)
  · rw [← view, ← committed]

/-- Every state of a history of drains is a committed state of some interleaving. -/
theorem drainHistory_reachable (events : List DrainEvent) :
    ∃ s : System Digest, s.Reachable kernel t ∧ s.Quiet ∧
      s.committed = drainHistory kernel t events := by
  induction events using List.reverseRecOn with
  | nil =>
      refine ⟨.empty, .start, ?_, rfl⟩
      intro i w live
      simp [System.Live, System.empty] at live
  | append_singleton events event ih =>
      obtain ⟨s, reached, quiet, same⟩ := ih
      rw [drainHistory_append, ← same, List.foldl_cons, List.foldl_nil]
      cases event with
      | emit output =>
          have moved : s.step kernel t (.emit output) =
              some { s with committed := s.committed.emit output } := rfl
          exact ⟨_, .next reached trivial moved, quiet, rfl⟩
      | drain terms limit commits =>
          simp only [TenantState.next]
          split
          · rename_i outcomes db' returned
            split
            · exact System.Quiet.drain reached quiet returned
            · exact ⟨s, reached, quiet, rfl⟩
          · exact ⟨s, reached, quiet, rfl⟩

end LoneWorker

end DotmacCloud
