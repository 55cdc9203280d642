import DotmacCloud.Isolation

/-! # Effect, receipt and acknowledgement agree

Inside an open transaction the three may run ahead of each other by one statement: a
charge whose receipt is still to be appended is remembered by the worker's phase.
Between transactions they agree.
-/

namespace DotmacCloud

open Foundation AtMostOnce AdapterReceiptRow

/-! ## Receipts and obligations over a suffix -/

theorem hasReceipt_append {t : UUID} {a b : List AdapterReceiptRow} {version : FactVersion}
    {outcome : ReceiptOutcome} :
    HasReceipt t (a ++ b) version outcome ↔ HasReceipt t a version outcome ∨ HasReceipt t b version outcome := by
  simp only [HasReceipt, List.mem_append, or_and_right, exists_or]

theorem holds_append {a b : List AcceptRatedObligationV1} {version : FactVersion} :
    Holds (a ++ b) version ↔ Holds a version ∨ Holds b version := by
  simp only [Holds, List.mem_append, or_and_right, exists_or]

theorem holds_singleton {command : AcceptRatedObligationV1} {version known : FactVersion}
    (names : command.sourceFact = known.sourceFact) : Holds [command] version ↔ version = known := by
  simp only [Holds, List.mem_singleton, exists_eq_left, names]
  constructor
  · exact fun same => (FactVersion.sourceFact_injective same).symm
  · exact fun same => congrArg FactVersion.sourceFact same.symm

theorem RowFor.hasReceipt_iff {t : UUID} {output : RatedObligationOutputV1} {outcome known : ReceiptOutcome}
    {row : AdapterReceiptRow} (row_for : RowFor t output known row) {version : FactVersion} :
    HasReceipt t [row] version outcome ↔ version = output.version ∧ outcome = known := by
  simp only [HasReceipt, List.mem_singleton, exists_eq_left, row_for.exact, row_for.outcome]
  constructor
  · rintro ⟨exact, outcome⟩
    exact ⟨(FactVersion.exactFact_injective exact).symm, (ReceiptOutcome.value_injective outcome).symm⟩
  · rintro ⟨rfl, rfl⟩
    exact ⟨rfl, rfl⟩

section Consistency

variable {Digest : Type} [DecidableEq Digest] {kernel : Kernel Digest} {t : UUID}

/-- Some generation of the occurrence was applied. -/
def AppliedOccurrence (t : UUID) (rows : List AdapterReceiptRow) (occurrenceId : UUID) : Prop :=
  ∃ generation, HasReceipt t rows ⟨occurrenceId, generation⟩ .applied

theorem AppliedOccurrence.mono {rows rows' : List AdapterReceiptRow} {occurrenceId : UUID}
    (applied : AppliedOccurrence t rows occurrenceId) (kept : ∀ row ∈ rows, row ∈ rows') :
    AppliedOccurrence t rows' occurrenceId := by
  obtain ⟨generation, has⟩ := applied
  exact ⟨generation, has.mono kept⟩

/-- What the three stores say of each other once nothing is in flight. -/
structure TenantState.Consistent (t : UUID) (db : TenantState Digest) : Prop where
  charged : ∀ version, HasReceipt t db.tables.receipts version .applied → Holds db.obligations version
  receipted : ∀ version, Holds db.obligations version → HasReceipt t db.tables.receipts version .applied
  acknowledged : ∀ entry ∈ db.acknowledgements,
    AppliedOccurrence t db.tables.receipts entry.version.occurrenceId

/-- A worker's own writes, over what is committed. -/
structure Worker.Consistent (t : UUID) (base : TenantState Digest) (w : Worker Digest) : Prop where
  fact : ∀ delivery fact outcome next, w.phase.Stage delivery fact outcome next →
    factOf delivery.output = .ok fact
  charged : ∀ version, HasReceipt t w.writes.tables.receipts version .applied →
    Holds (base.join w.writes).obligations version
  receipted : ∀ version, Holds w.writes.obligations version →
    HasReceipt t (base.join w.writes).tables.receipts version .applied ∨
      ∃ delivery fact, w.phase = .charged delivery fact ∧ version = delivery.output.version
  inFlight : ∀ delivery fact, w.phase = .charged delivery fact →
    Holds (base.join w.writes).obligations delivery.output.version
  settled : ∀ delivery, w.phase = .recorded delivery →
    HasReceipt t (base.join w.writes).tables.receipts delivery.output.version .applied
  acknowledged : ∀ entry ∈ w.writes.acknowledgements,
    AppliedOccurrence t (base.join w.writes).tables.receipts entry.version.occurrenceId

omit [DecidableEq Digest] in
/-- A consistent worker stays so over any base that holds at least as much. -/
theorem Worker.Consistent.mono {base base' : TenantState Digest} {w : Worker Digest}
    (consistent : w.Consistent t base)
    (rows : ∀ row ∈ base.tables.receipts, row ∈ base'.tables.receipts)
    (obligations : ∀ obligation ∈ base.obligations, obligation ∈ base'.obligations) :
    w.Consistent t base' := by
  have keptRows : ∀ row ∈ (base.join w.writes).tables.receipts,
      row ∈ (base'.join w.writes).tables.receipts := by
    intro row member
    rcases List.mem_append.mp member with old | own
    · exact List.mem_append_left _ (rows row old)
    · exact List.mem_append_right _ own
  have keptObligations : ∀ obligation ∈ (base.join w.writes).obligations,
      obligation ∈ (base'.join w.writes).obligations := by
    intro obligation member
    rcases List.mem_append.mp member with old | own
    · exact List.mem_append_left _ (obligations obligation old)
    · exact List.mem_append_right _ own
  refine ⟨consistent.fact, ?_, ?_, ?_, ?_, ?_⟩
  · intro version has
    exact (consistent.charged version has).mono keptObligations
  · intro version holds
    rcases consistent.receipted version holds with has | flight
    · exact .inl (has.mono keptRows)
    · exact .inr flight
  · intro delivery fact phase
    exact (consistent.inFlight delivery fact phase).mono keptObligations
  · intro delivery phase
    exact (consistent.settled delivery phase).mono keptRows
  · intro entry member
    exact (consistent.acknowledged entry member).mono keptRows

/-- The row a replay found in the view. -/
theorem replayed_row {base : TenantState Digest} {w : Worker Digest}
    (guarded : (base.join w.writes).tables.Guarded kernel) {output : RatedObligationOutputV1}
    {outcome : ReceiptOutcome} {row : AdapterReceiptRow} (row_for : RowFor t output outcome row)
    (spent : stored (base.join w.writes).tables.records (rowKey kernel row) = some (rowPrint kernel row)) :
    HasReceipt t (base.join w.writes).tables.receipts output.version outcome := by
  obtain ⟨known, member, key, print⟩ := guarded.mirrors.row_of_stored spent
  exact ⟨known, member, ((rowKey_eq_iff kernel).mp key).trans row_for.exact,
    ((rowPrint_eq_iff kernel).mp print).2.trans row_for.outcome⟩

omit [DecidableEq Digest] in
/-- A worker whose staged receipt stands in its view goes on consistently. -/
theorem Worker.Consistent.staged {base : TenantState Digest} {w : Worker Digest}
    (consistent : w.Consistent t base) {delivery : Delivery} {fact : SourceFact}
    {outcome : ReceiptOutcome} {next : Phase} (stage : w.phase.Stage delivery fact outcome next)
    {tables : Tables Digest}
    (kept : ∀ row ∈ base.tables.receipts ++ w.writes.tables.receipts,
      row ∈ base.tables.receipts ++ tables.receipts)
    (here : HasReceipt t (base.tables.receipts ++ tables.receipts) delivery.output.version outcome)
    (charged : ∀ version, HasReceipt t tables.receipts version .applied →
      Holds (base.obligations ++ w.writes.obligations) version) :
    Worker.Consistent t base { w with phase := next, writes := { w.writes with tables } } := by
  refine ⟨?_, charged, ?_, ?_, ?_, fun entry member => (consistent.acknowledged entry member).mono kept⟩
  · intro delivery' fact' outcome' next' stage'
    rcases stage.cases with ⟨-, -, rfl⟩ | ⟨-, -, rfl⟩ <;> cases stage'
  · intro version holds
    rcases consistent.receipted version holds with has | ⟨flying, fact', phase, rfl⟩
    · exact .inl (has.mono kept)
    -- the charge in flight is the one this receipt is of
    · rcases stage.cases with ⟨same, -, -⟩ | ⟨same, rfl, -⟩
      · cases phase.symm.trans same
      · cases phase.symm.trans same
        exact .inl here
  · intro delivery' fact' phase
    rcases stage.cases with ⟨-, -, rfl⟩ | ⟨-, -, rfl⟩ <;> cases phase
  · intro delivery' phase
    rcases stage.cases with ⟨-, -, rfl⟩ | ⟨-, rfl, rfl⟩ <;> cases phase
    exact here

theorem Worker.Consistent.moves {base : TenantState Digest} {w w' : Worker Digest}
    (guarded : (base.join w.writes).tables.Guarded kernel) (consistent : w.Consistent t base)
    (moves : Worker.Moves kernel t base w w') : w'.Consistent t base := by
  have phaseReady : w.phase = .ready → ∀ version, Holds w.writes.obligations version →
      HasReceipt t (base.join w.writes).tables.receipts version .applied := by
    intro idle version holds
    rcases consistent.receipted version holds with has | ⟨delivery, fact, phase, -⟩
    · exact has
    · rw [idle] at phase
      cases phase
  cases moves with
  | refusing idle queued made =>
      refine ⟨?_, consistent.charged, fun version holds => .inl (phaseReady idle version holds), ?_, ?_,
        consistent.acknowledged⟩
      · intro delivery fact outcome next stage
        cases stage
        exact made
      · intro delivery fact phase
        cases phase
      · intro delivery phase
        cases phase
  | charged idle queued made names accepted grown recorded =>
      rename_i delivery rest fact command obligations more
      refine ⟨?_, ?_, ?_, ?_, ?_, consistent.acknowledged⟩
      · intro delivery fact outcome next stage
        cases stage
        exact made
      · intro version has
        refine (consistent.charged version has).mono ?_
        intro obligation member
        simp only [TenantState.join, ← List.append_assoc]
        exact List.mem_append_left _ member
      · intro version holds
        rcases holds_append.mp holds with own | new
        · exact .inl (phaseReady idle version own)
        · rcases recorded with rfl | ⟨rfl, -⟩
          · exact .inr ⟨delivery, fact, rfl, (holds_singleton names).mp new⟩
          · obtain ⟨_, impossible, _⟩ := new
            cases impossible
      · intro known fact' phase
        cases phase
        simp only [TenantState.join, ← List.append_assoc]
        rcases recorded with rfl | ⟨rfl, held⟩
        · exact holds_append.mpr (.inr ((holds_singleton names).mpr rfl))
        · exact holds_append.mpr (.inl held)
      · intro known phase
        cases phase
  | appended stage row_for key unspent =>
      rename_i delivery fact outcome next row name
      have row_for := row_for (consistent.fact _ _ _ _ stage)
      apply consistent.staged stage
      · intro known member
        rw [← List.append_assoc]
        exact List.mem_append_left _ member
      · exact row_for.hasReceipt (by simp)
      · intro version has
        rcases hasReceipt_append.mp has with own | new
        · exact consistent.charged version own
        · obtain ⟨rfl, rfl⟩ := row_for.hasReceipt_iff.mp new
          rcases stage.cases with ⟨-, impossible, -⟩ | ⟨phase, -, -⟩
          · cases impossible
          · exact consistent.inFlight delivery fact phase
  | replayed stage row_for spent =>
      have here := replayed_row guarded (row_for (consistent.fact _ _ _ _ stage)) spent
      exact consistent.staged stage (fun known member => member) here consistent.charged
  | acknowledged settled =>
      rename_i delivery
      refine ⟨?_, consistent.charged, ?_, ?_, ?_, ?_⟩
      · intro delivery' fact' outcome' next' stage'
        cases stage'
      · intro version holds
        rcases consistent.receipted version holds with has | ⟨flying, fact', phase, -⟩
        · exact .inl has
        · rw [settled] at phase
          cases phase
      · intro delivery' fact' phase
        cases phase
      · intro delivery' phase
        cases phase
      · intro entry member
        rcases List.mem_append.mp member with own | new
        · exact consistent.acknowledged entry own
        · obtain ⟨output, inside, rfl⟩ := List.mem_map.mp new
          have occurrence : output.occurrenceId = delivery.output.occurrenceId := by
            simpa using List.of_mem_filter inside
          refine ⟨delivery.output.generation, ?_⟩
          simp only [RatedObligationOutputV1.version, occurrence]
          exact consistent.settled delivery settled

theorem consistent_inductive (meets : System Digest → Event → Prop) :
    Inductive kernel t meets (TenantState.Consistent t) (fun base w => w.Consistent t base) where
  start := by
    refine ⟨?_, ?_, ?_⟩
    · rintro version ⟨row, member, -⟩
      cases member
    · rintro version ⟨obligation, member, -⟩
      cases member
    · intro entry member
      cases member
  emit := by
    intro base output consistent
    refine ⟨?_, ?_, ?_⟩
    · simpa only [emit_tables, emit_obligations] using consistent.charged
    · simpa only [emit_tables, emit_obligations] using consistent.receipted
    · simpa only [emit_tables, emit_acknowledgements] using consistent.acknowledged
  emitOpen := by
    intro base output w consistent
    apply consistent.mono
    · simp only [emit_tables, imp_self, implies_true]
    · simp only [emit_obligations, imp_self, implies_true]
  begin := by
    intro s event todo _ _
    refine ⟨?_, ?_, ?_, ?_, ?_, ?_⟩
    · intro delivery fact outcome next stage
      cases stage
    · rintro version ⟨row, member, -⟩
      cases member
    · rintro version ⟨obligation, member, -⟩
      cases member
    · intro delivery fact phase
      cases phase
    · intro delivery phase
      cases phase
    · intro entry member
      cases member
  advance := by
    intro s i w w' reached _ live consistent moves
    exact consistent.moves ((reaches_isolated reached).views i w live) moves
  commit := by
    intro base writes committed consistent
    refine ⟨?_, ?_, ?_⟩
    · intro version has
      rcases hasReceipt_append.mp has with old | own
      · exact holds_append.mpr (.inl (committed.charged version old))
      · exact consistent.charged version own
    · intro version holds
      rcases holds_append.mp holds with old | own
      · exact hasReceipt_append.mpr (.inl (committed.receipted version old))
      · rcases consistent.receipted version own with has | ⟨delivery, fact, phase, -⟩
        · exact has
        · cases phase
    · intro entry member
      rcases List.mem_append.mp member with old | own
      · exact (committed.acknowledged entry old).mono (fun row inside => List.mem_append_left _ inside)
      · exact consistent.acknowledged entry own
  commitOpen := by
    intro base writes w consistent
    exact consistent.mono (fun row member => List.mem_append_left _ member)
      (fun obligation member => List.mem_append_left _ member)

omit [DecidableEq Digest] in
/-- A guarded table holds at most one row under an exact fact. -/
theorem receipts_at_most_one {tables : Tables Digest} (guarded : tables.Guarded kernel)
    (identity : ExactFact) :
    (tables.receipts.filter (fun row => row.exactFact = identity)).length ≤ 1 := by
  have distinct := List.nodup_iff_count_le_one.mp (exactFacts_distinct guarded) identity
  rw [List.count_eq_countP, List.countP_map, List.countP_eq_length_filter] at distinct
  simpa only [Function.comp_def, beq_eq_decide] using distinct

omit [DecidableEq Digest] in
/-- A version has one receipt, so one outcome. -/
theorem outcome_unique {tables : Tables Digest} (guarded : tables.Guarded kernel) {version : FactVersion}
    {outcome other : ReceiptOutcome} (has : HasReceipt t tables.receipts version outcome)
    (known : HasReceipt t tables.receipts version other) : outcome = other := by
  obtain ⟨row, member, same, answer⟩ := has
  obtain ⟨row', member', same', answer'⟩ := known
  have equal : row = row' :=
    guarded.unique member member' ((rowKey_eq_iff kernel).mpr (same.trans same'.symm))
  rw [equal, answer'] at answer
  exact (ReceiptOutcome.value_injective answer).symm

omit [DecidableEq Digest] in
/-- A refused version is charged nothing: its one receipt is the refusal. -/
theorem TenantState.Consistent.uncharged {db : TenantState Digest} (consistent : db.Consistent t)
    (guarded : db.tables.Guarded kernel) {version : FactVersion}
    (refused : HasReceipt t db.tables.receipts version .refused) : ¬ Holds db.obligations version := by
  intro holds
  exact absurd (outcome_unique guarded refused (consistent.receipted version holds)) (by decide)

/-- In every committed state, whatever the interleaving: one receipt for each version;
    an applied one exactly where Billing holds its obligation, so none beside a
    refusal; and no acknowledgement of an occurrence nothing of which was applied. -/
theorem committed_consistent (kernel : Kernel Digest) (t : UUID) (s : System Digest)
    (reached : s.Reachable kernel t) :
    (∀ version : FactVersion, (s.committed.tables.receipts.filter
      (fun row => row.exactFact = version.exactFact t)).length ≤ 1) ∧
    (∀ version, HasReceipt t s.committed.tables.receipts version .applied ↔
      Holds s.committed.obligations version) ∧
    (∀ version, HasReceipt t s.committed.tables.receipts version .refused →
      ¬ Holds s.committed.obligations version) ∧
    (∀ version, s.committed.acknowledged version →
      ∃ generation, HasReceipt t s.committed.tables.receipts
        ⟨version.occurrenceId, generation⟩ .applied) := by
  have guarded := (reaches_isolated reached).committed
  obtain ⟨consistent, -⟩ := (consistent_inductive _).holds reached
  refine ⟨fun version => receipts_at_most_one guarded _, ?_, ?_, ?_⟩
  · exact fun version => ⟨consistent.charged version, consistent.receipted version⟩
  · exact fun version => consistent.uncharged guarded
  · rintro version ⟨entry, member, rfl⟩
    exact consistent.acknowledged entry member

end Consistency

/-- A drain applies one charge, while another transaction refuses a second one and takes
    the first again, after it was committed: its append replays. -/
def staleDelivery : List Event :=
  let linked := linkedTo (some 9) recordingBilling
  [.emit (monthlyCharge 7 1), .emit (monthlyCharge 8 1), .drain linked 1,
    .deliver [⟨linkedTo none recordingBilling, monthlyCharge 8 1⟩, ⟨linked, monthlyCharge 7 1⟩],
    .advance 0, .advance 1, .advance 0, .advance 1, .advance 0, .commit 0,
    .advance 1, .advance 1, .advance 1, .commit 1]

theorem committed_consistent_one_drain :
    ∃ s, System.run plainKernel 1 (fun _ _ => true) staleDelivery .empty = some s ∧
      Holds s.committed.obligations (monthlyCharge 7 1).version ∧
      ¬ Holds s.committed.obligations (monthlyCharge 8 1).version ∧
      (∀ version : FactVersion, (s.committed.tables.receipts.filter
        (fun row => row.exactFact = version.exactFact 1)).length ≤ 1) ∧
      ∃ generation, HasReceipt 1 s.committed.tables.receipts
        ⟨(monthlyCharge 7 1).version.occurrenceId, generation⟩ .applied := by
  have returns : (System.run plainKernel 1 (fun _ _ => true) staleDelivery .empty).map (fun s =>
      decide (HasReceipt 1 s.committed.tables.receipts (monthlyCharge 7 1).version .applied ∧
        HasReceipt 1 s.committed.tables.receipts (monthlyCharge 8 1).version .refused ∧
        s.committed.acknowledged (monthlyCharge 7 1).version)) = some true := by decide +kernel
  obtain ⟨s, ran, result⟩ := Option.map_eq_some_iff.mp returns
  obtain ⟨applied, refused, acknowledged⟩ := of_decide_eq_true result
  have reached : s.Reachable plainKernel 1 := System.Reaches.run (fun _ _ _ _ => trivial) .start ran
  obtain ⟨once, charged, uncharged, occurrences⟩ := committed_consistent plainKernel 1 s reached
  exact ⟨s, ran, (charged _).mp applied, uncharged _ refused, once, occurrences _ acknowledged⟩

end DotmacCloud
