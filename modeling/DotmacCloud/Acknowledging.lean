import DotmacCloud.Consistency

/-! # What an acknowledgement hides

The acknowledgement names an occurrence and reaches every generation of it that is
recorded when it runs. It hides only applied generations where every other one still
offered was applied too, or comes next in the same transaction and is not refused there.
-/

namespace DotmacCloud

open Foundation AtMostOnce AdapterReceiptRow

section Acknowledging

variable {Digest : Type} [DecidableEq Digest] {kernel : Kernel Digest} {t : UUID}

/-- An acknowledgement about to run reaches no generation that was not applied and that
    the transaction does not still have to run; and nothing it reached is about to be
    refused. -/
def System.acknowledgesApplied (t : UUID) (s : System Digest) : Event → Bool
  | .advance i =>
      match s.workers[i]? with
      | some (some w) =>
          match w.phase with
          | .recorded delivery => ∀ output ∈ (s.committed.join w.writes).offered,
              output.occurrenceId = delivery.output.occurrenceId →
                output.version = delivery.output.version ∨
                  HasReceipt t (s.committed.join w.writes).tables.receipts output.version .applied ∨
                  ∃ later ∈ w.todo, later.output.version = output.version
          | .refusing delivery _ => ¬ w.writes.acknowledged delivery.output.version ∨
              HasReceipt t (s.committed.join w.writes).tables.receipts delivery.output.version .applied
          | _ => true
      | _ => true
  | _ => true

/-- Every acknowledged version has its own applied receipt. -/
def AcknowledgedApplied (t : UUID) (acknowledgements : List Acknowledgement)
    (rows : List AdapterReceiptRow) : Prop :=
  ∀ entry ∈ acknowledgements, HasReceipt t rows entry.version .applied

/-- The versions a transaction is handing over, or has still to. -/
def Worker.Ahead (w : Worker Digest) (version : FactVersion) : Prop :=
  (∃ later ∈ w.todo, later.output.version = version) ∨
    ∃ delivery fact outcome next, w.phase.Stage delivery fact outcome next ∧ delivery.output.version = version

/-- Every acknowledged version has its own applied receipt, or is still ahead. -/
def Worker.AcknowledgesAhead (t : UUID) (base : TenantState Digest) (w : Worker Digest) : Prop :=
  ∀ entry ∈ w.writes.acknowledgements,
    HasReceipt t (base.join w.writes).tables.receipts entry.version .applied ∨ w.Ahead entry.version

omit [DecidableEq Digest] in
theorem Worker.AcknowledgesAhead.mono {base base' : TenantState Digest} {w : Worker Digest}
    (ahead : w.AcknowledgesAhead t base) (kept : ∀ row ∈ base.tables.receipts, row ∈ base'.tables.receipts) :
    w.AcknowledgesAhead t base' := by
  intro entry member
  refine (ahead entry member).imp_left (fun has => has.mono ?_)
  intro row inside
  rcases List.mem_append.mp inside with old | own
  · exact List.mem_append_left _ (kept row old)
  · exact List.mem_append_right _ own

omit [DecidableEq Digest] in
/-- A transaction between two statements takes the next call off its list. -/
theorem Worker.AcknowledgesAhead.taken {base : TenantState Digest} {w w' : Worker Digest}
    (ahead : w.AcknowledgesAhead t base) (idle : w.phase = .ready) {delivery : Delivery} {rest : List Delivery}
    (queued : w.todo = delivery :: rest) (left : w'.todo = rest) {fact : SourceFact} {outcome : ReceiptOutcome}
    {next : Phase} (stage : w'.phase.Stage delivery fact outcome next)
    (acknowledgements : w'.writes.acknowledgements = w.writes.acknowledgements)
    (tables : w'.writes.tables = w.writes.tables) : w'.AcknowledgesAhead t base := by
  intro entry member
  rw [acknowledgements] at member
  simp only [TenantState.join, tables]
  rcases ahead entry member with has | ⟨later, inside, same⟩ | ⟨_, _, _, _, staged, -⟩
  · exact .inl has
  · rw [queued] at inside
    rcases List.mem_cons.mp inside with rfl | behind
    · exact .inr (.inr ⟨later, fact, outcome, next, stage, same⟩)
    · exact .inr (.inl ⟨later, left ▸ behind, same⟩)
  · rw [idle] at staged
    cases staged

omit [DecidableEq Digest] in
/-- A transaction that got the answer of a staged receipt: what was in flight is applied. -/
theorem Worker.AcknowledgesAhead.answered {base : TenantState Digest} {w w' : Worker Digest}
    (ahead : w.AcknowledgesAhead t base) {delivery : Delivery} {fact : SourceFact} {outcome : ReceiptOutcome}
    {next : Phase} (stage : w.phase.Stage delivery fact outcome next) (left : w'.todo = w.todo)
    (acknowledgements : w'.writes.acknowledgements = w.writes.acknowledgements)
    (kept : ∀ row ∈ (base.join w.writes).tables.receipts, row ∈ (base.join w'.writes).tables.receipts)
    (landed : w.writes.acknowledged delivery.output.version →
      HasReceipt t (base.join w'.writes).tables.receipts delivery.output.version .applied) :
    w'.AcknowledgesAhead t base := by
  intro entry member
  rw [acknowledgements] at member
  rcases ahead entry member with has | ⟨later, inside, same⟩ | ⟨flying, fact', outcome', next', staged, same⟩
  · exact .inl (has.mono kept)
  · exact .inr (.inl ⟨later, left ▸ inside, same⟩)
  · have one : flying = delivery := by
      rcases stage.cases with ⟨here, -, -⟩ | ⟨here, -, -⟩ <;> rw [here] at staged <;> cases staged <;> rfl
    subst one
    rw [← same]
    exact .inl (landed ⟨entry, member, same.symm⟩)

theorem Worker.Moves.acknowledgesAhead {s : System Digest} {i : Nat} {w w' : Worker Digest}
    (live : s.Live i w) (guarded : (s.committed.join w.writes).tables.Guarded kernel)
    (consistent : w.Consistent t s.committed) (met : s.acknowledgesApplied t (.advance i) = true)
    (ahead : w.AcknowledgesAhead t s.committed) (moves : Worker.Moves kernel t s.committed w w') :
    w'.AcknowledgesAhead t s.committed := by
  have found : s.workers[i]? = some (some w) := live
  -- a refusal of an acknowledged version does not run; an applied receipt is there then
  have answers : ∀ {delivery fact outcome next} {rows : List AdapterReceiptRow},
      w.phase.Stage delivery fact outcome next →
      (∀ row ∈ (s.committed.join w.writes).tables.receipts, row ∈ rows) →
      HasReceipt t rows delivery.output.version outcome → w.writes.acknowledged delivery.output.version →
      HasReceipt t rows delivery.output.version .applied := by
    intro delivery fact outcome next rows stage kept here acknowledged
    rcases stage.cases with ⟨phase, -, -⟩ | ⟨-, rfl, -⟩
    · simp only [System.acknowledgesApplied, found, phase, decide_eq_true_eq] at met
      rcases met with unacknowledged | has
      · exact absurd acknowledged unacknowledged
      · exact has.mono kept
    · exact here
  cases moves with
  | refusing idle queued made =>
      exact ahead.taken idle queued rfl (.refusing _ _) rfl rfl
  | charged idle queued made names accepted grown recorded =>
      exact ahead.taken idle queued rfl (.charged _ _) rfl rfl
  | appended stage row_for key unspent =>
      rename_i delivery fact outcome next row name
      have row_for := row_for (consistent.fact _ _ _ _ stage)
      have kept : ∀ known ∈ (s.committed.join w.writes).tables.receipts,
          known ∈ s.committed.tables.receipts ++ (w.writes.tables.receipts ++ [row]) := by
        intro known member
        rw [← List.append_assoc]
        exact List.mem_append_left _ member
      have here : row ∈ s.committed.tables.receipts ++ (w.writes.tables.receipts ++ [row]) := by simp
      exact ahead.answered stage rfl rfl kept (answers stage kept (row_for.hasReceipt here))
  | replayed stage row_for spent =>
      have here := replayed_row guarded (row_for (consistent.fact _ _ _ _ stage)) spent
      exact ahead.answered stage rfl rfl (fun _ => id) (answers stage (fun _ => id) here)
  | acknowledged settled =>
      intro entry member
      rcases List.mem_append.mp member with own | new
      · rcases ahead entry own with has | ⟨later, inside, same⟩ | ⟨_, _, _, _, staged, -⟩
        · exact .inl has
        · exact .inr (.inl ⟨later, inside, same⟩)
        · rw [settled] at staged
          cases staged
      · obtain ⟨output, inside, rfl⟩ := List.mem_map.mp new
        obtain ⟨offered, occurrence⟩ := List.mem_filter.mp inside
        simp only [System.acknowledgesApplied, found, settled, decide_eq_true_eq] at met
        rcases met output offered (of_decide_eq_true occurrence) with same | has | later
        · simp only [same]
          exact .inl (consistent.settled _ settled)
        · exact .inl has
        · exact .inr (.inl later)

theorem acknowledged_inductive :
    Inductive kernel t (fun s event => s.acknowledgesApplied t event = true)
      (fun base => AcknowledgedApplied t base.acknowledgements base.tables.receipts)
      (fun base w => w.AcknowledgesAhead t base) where
  start := fun _ member => absurd member List.not_mem_nil
  emit := by
    intro base output applied
    simpa only [emit_acknowledgements, emit_tables] using applied
  emitOpen := by
    intro base output w ahead
    apply ahead.mono
    simp only [emit_tables, imp_self, implies_true]
  begin := fun _ _ _ _ _ _ member => absurd member List.not_mem_nil
  advance := by
    intro s i w w' reached met live ahead moves
    exact moves.acknowledgesAhead live ((reaches_isolated reached).views i w live)
      (((consistent_inductive _).holds reached).2 i w live) met ahead
  commit := by
    intro base writes committed ahead entry member
    rcases List.mem_append.mp member with old | own
    · exact (committed entry old).mono (fun row inside => List.mem_append_left _ inside)
    · rcases ahead entry own with has | ⟨later, inside, -⟩ | ⟨_, _, _, _, staged, -⟩
      · exact has
      · cases inside
      · cases staged
  commitOpen := fun base writes w ahead => ahead.mono (fun row member => List.mem_append_left _ member)

/-- In every run in which each acknowledgement reaches only generations that were applied
    or come next in its transaction, where none of them is refused, an output stops being
    offered only with an applied receipt of its own version. -/
theorem acknowledgement_hides_applied (kernel : Kernel Digest) (t : UUID) (s : System Digest)
    (reached : s.Reaches kernel t (fun s event => s.acknowledgesApplied t event = true))
    (output : RatedObligationOutputV1) (emitted : output ∈ s.committed.outputs)
    (hidden : output ∉ s.committed.offered) :
    HasReceipt t s.committed.tables.receipts output.version .applied := by
  have acknowledged : s.committed.acknowledged output.version := by
    simpa [TenantState.offered, emitted] using hidden
  obtain ⟨entry, member, same⟩ := acknowledged
  rw [← same]
  exact (acknowledged_inductive.holds reached).1 entry member

end Acknowledging

/-! ## A refused generation hidden by the next one -/

/-- No account is linked for the first generation. -/
def linkedLate : Terms where
  billing := recordingBilling
  taxFor := fun _ => .ok noTax
  resolveBillingAccount := fun _ output =>
    .ok (if output.generation = 1 then none else some 9)
  observedAt := .aware 86400

/-- Two generations, both applied by one drain; the first one's acknowledgement reaches
    the second before it is applied. -/
def bothGenerations : List Event :=
  [.emit (monthlyCharge 7 1), .emit (monthlyCharge 7 2),
    .drain (linkedTo (some 9) recordingBilling) 100,
    .advance 0, .advance 0, .advance 0, .advance 0, .advance 0, .advance 0, .commit 0]

theorem acknowledgement_hides_applied_drain :
    ∃ s, System.run plainKernel 1 (System.acknowledgesApplied 1) bothGenerations .empty = some s ∧
      s.committed.offered = [] ∧
      ∀ output ∈ [monthlyCharge 7 1, monthlyCharge 7 2],
        HasReceipt 1 s.committed.tables.receipts output.version .applied := by
  have returns : (System.run plainKernel 1 (System.acknowledgesApplied 1) bothGenerations .empty).map (fun s =>
      (s.committed.outputs, s.committed.offered)) = some ([monthlyCharge 7 1, monthlyCharge 7 2], []) := by
    decide +kernel
  obtain ⟨s, ran, result⟩ := Option.map_eq_some_iff.mp returns
  obtain ⟨outputs, none⟩ := Prod.mk.inj result
  have reached := System.Reaches.run (fun _ _ _ passed => passed) .start ran
  refine ⟨s, ran, none, ?_⟩
  intro output emitted
  apply acknowledgement_hides_applied plainKernel 1 s reached output
  · rw [outputs]
    exact emitted
  · rw [none]
    exact List.not_mem_nil

/-- One drain refuses the first generation and applies the second; afterwards neither
    is offered, and the first has no applied receipt. -/
theorem acknowledgement_hides_refused :
    ((System.run plainKernel 1 (fun _ _ => true)
      [.emit (monthlyCharge 7 1), .emit (monthlyCharge 7 2),
        .drain linkedLate 100, .advance 0, .advance 0, .advance 0, .advance 0, .advance 0, .commit 0]
      .empty).map (fun s => decide (
        monthlyCharge 7 1 ∈ s.committed.outputs ∧
        monthlyCharge 7 1 ∉ s.committed.offered ∧
        ¬ HasReceipt 1 s.committed.tables.receipts
          (monthlyCharge 7 1).version .applied))) = some true := by
  decide +kernel

end DotmacCloud
