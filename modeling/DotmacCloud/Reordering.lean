import DotmacCloud.Foundation.Reordering
import DotmacCloud.Paging
import DotmacCloud.Workers

/-! # The order of a batch

Hand-offs of different occurrences write apart, and none of them reads what another one
wrote. A batch therefore comes to the same, in whatever order it is handed over, as long
as the generations of one occurrence keep theirs.
-/

namespace DotmacCloud

open Foundation AtMostOnce AdapterReceiptRow Reordering

/-- Billing answers a command, and adds it, by what it holds of the same source fact. -/
def Billing.ByOwnFact (billing : Billing) (t : UUID) : Prop :=
  ∀ held held' command,
    held.filter (fun c => c.sourceFactId = command.sourceFactId) =
      held'.filter (fun c => c.sourceFactId = command.sourceFactId) →
    billing.accept ⟨t⟩ acceptedSourceKinds held' command =
      (billing.accept ⟨t⟩ acceptedSourceKinds held command).map (fun after => held' ++ after.drop held.length)

/-- The same outputs, and of each identity the same entries in the same order. -/
structure TenantState.SameLogs {Digest : Type} [DecidableEq Digest] (db db' : TenantState Digest) : Prop where
  outputs : db.outputs = db'.outputs
  acknowledgements : Alike (fun entry => entry.version.occurrenceId) db.acknowledgements db'.acknowledgements
  obligations : Alike AcceptRatedObligationV1.sourceFactId db.obligations db'.obligations
  receipts : Alike exactFact db.tables.receipts db'.tables.receipts
  records : Alike Entry.key db.tables.records db'.tables.records

section Batch

variable {Digest : Type} [DecidableEq Digest] {kernel : Kernel Digest} {t : UUID} {terms : Terms}

/-! ## What one hand-off writes and reads -/

/-- Writes about one output. -/
structure TenantState.Concerns (kernel : Kernel Digest) (t : UUID) (writes : TenantState Digest)
    (output : RatedObligationOutputV1) : Prop where
  outputs : writes.outputs = []
  acknowledgements : ∀ entry ∈ writes.acknowledgements, entry.version.occurrenceId = output.occurrenceId
  obligations : ∀ c ∈ writes.obligations, c.sourceFactId = output.occurrenceId.str
  receipts : ∀ row ∈ writes.tables.receipts, row.exactFact = output.version.exactFact t
  records : ∀ record ∈ writes.tables.records, ∃ row : AdapterReceiptRow,
    row.exactFact = output.version.exactFact t ∧ record.key = rowKey kernel row

/-- Two states that a hand-off of the output cannot tell apart. -/
structure TenantState.Shows (kernel : Kernel Digest) (t : UUID) (db state : TenantState Digest)
    (output : RatedObligationOutputV1) : Prop where
  offered : db.offered.filter (fun other => other.occurrenceId = output.occurrenceId) =
    state.offered.filter (fun other => other.occurrenceId = output.occurrenceId)
  obligations : db.obligations.filter (fun c => c.sourceFactId = output.occurrenceId.str) =
    state.obligations.filter (fun c => c.sourceFactId = output.occurrenceId.str)
  spent : ∀ row : AdapterReceiptRow, row.exactFact = output.version.exactFact t →
    stored db.tables.records (rowKey kernel row) = stored state.tables.records (rowKey kernel row)

/-- An append that returned adds the same to every table that has spent the same. -/
theorem append_elsewhere {tables tables' : Tables Digest} {receipt : AdapterReceipt}
    (returned : (SqlAlchemyReceiptLedger.scoped t).append kernel tables receipt = .ok tables') :
    ∃ added : Tables Digest,
      tables' = ⟨tables.receipts ++ added.receipts, tables.records ++ added.records⟩ ∧
      (∀ row ∈ added.receipts, row = fromReceipt t receipt) ∧
      (∀ record ∈ added.records, record.key = rowKey kernel (fromReceipt t receipt)) ∧
      ∀ other : Tables Digest, other.Guarded kernel →
        other.spent kernel t receipt = tables.spent kernel t receipt →
        (SqlAlchemyReceiptLedger.scoped t).append kernel other receipt =
          .ok ⟨other.receipts ++ added.receipts, other.records ++ added.records⟩ := by
  rcases append_cases returned with ⟨unspent, fits, rfl⟩ | ⟨spent, rfl⟩
  · refine ⟨⟨[fromReceipt t receipt], [recordOf kernel t receipt]⟩, rfl, ?_, ?_, ?_⟩
    · intro row member
      exact List.mem_singleton.mp member
    · intro record member
      rw [List.mem_singleton.mp member]
      rfl
    · intro other guarded same
      exact append_fresh guarded (same.trans unspent) fits
  · refine ⟨⟨[], []⟩, ?_, ?_, ?_, ?_⟩
    · simp only [List.append_nil]
    · intro row member
      cases member
    · intro record member
      cases member
    · intro other guarded same
      rw [append_spent _ (same.trans spent), if_pos rfl]
      simp only [List.append_nil]

theorem appendReceipt_elsewhere {tables tables' : Tables Digest} {output : RatedObligationOutputV1}
    {fact : SourceFact} (made : factOf output = .ok fact) {outcome : ReceiptOutcome} {observedAt : Datetime}
    (returned : appendReceipt kernel (.scoped t) tables fact outcome observedAt = .ok tables') :
    ∃ added : Tables Digest,
      tables' = ⟨tables.receipts ++ added.receipts, tables.records ++ added.records⟩ ∧
      (∀ row ∈ added.receipts, row.exactFact = output.version.exactFact t) ∧
      (∀ record ∈ added.records, ∃ row : AdapterReceiptRow,
        row.exactFact = output.version.exactFact t ∧ record.key = rowKey kernel row) ∧
      ∀ other : Tables Digest, other.Guarded kernel →
        (∀ row : AdapterReceiptRow, row.exactFact = output.version.exactFact t →
          stored tables.records (rowKey kernel row) = stored other.records (rowKey kernel row)) →
        appendReceipt kernel (.scoped t) other fact outcome observedAt =
          .ok ⟨other.receipts ++ added.receipts, other.records ++ added.records⟩ := by
  obtain ⟨instant, rfl, appended⟩ := appendReceipt_eq_ok returned
  obtain ⟨added, same, rows, records, elsewhere⟩ := append_elsewhere appended
  have exact := (rowFor_receiptOf made t outcome instant).exact
  refine ⟨added, same, ?_, ?_, ?_⟩
  · intro row member
    rw [rows row member]
    exact exact
  · intro record member
    exact ⟨_, exact, records record member⟩
  · intro other guarded spent
    rw [appendReceipt_aware]
    exact elsewhere other guarded (spent _ exact).symm

/-- A charge adds the same wherever Billing holds the same of the fact. -/
theorem Billing.ByOwnFact.charge (own : terms.billing.ByOwnFact t) {held held' : List AcceptRatedObligationV1}
    {command : AcceptRatedObligationV1}
    (same : held.filter (fun c => c.sourceFactId = command.sourceFactId) =
      held'.filter (fun c => c.sourceFactId = command.sourceFactId)) :
    DotmacCloud.charge ⟨t⟩ terms held' command = (DotmacCloud.charge ⟨t⟩ terms held command).map
      (fun answer => answer.map (fun after => held' ++ after.drop held.length)) := by
  simp only [DotmacCloud.charge, own held held' command same]
  cases terms.billing.accept ⟨t⟩ acceptedSourceKinds held command with
  | error e => cases e <;> rfl
  | ok after => rfl

/-- A hand-off writes about its own output, and the same in every state it cannot tell
    from this one. -/
theorem HandedOff.elsewhere {db next : TenantState Digest} {output : RatedObligationOutputV1}
    {outcome : ReceiptOutcome} (own : terms.billing.ByOwnFact t)
    (handed : HandedOff kernel ⟨t⟩ (.scoped t) terms db output outcome next) :
    ∃ writes : TenantState Digest, next = db.join writes ∧ writes.Concerns kernel t output ∧
      ∀ state : TenantState Digest, state.tables.Guarded kernel → db.Shows kernel t state output →
        HandedOff kernel ⟨t⟩ (.scoped t) terms state output outcome (state.join writes) := by
  cases handed with
  | refused prepared refusal appended =>
      rename_i fact command tables
      obtain ⟨added, rfl, rows, records, elsewhere⟩ := appendReceipt_elsewhere (prepare_fact prepared) appended
      refine ⟨⟨[], [], [], added⟩, ?_, ⟨rfl, ?_, ?_, rows, records⟩, ?_⟩
      · simp only [TenantState.join, List.append_nil]
      · intro entry member
        cases member
      · intro c member
        cases member
      · intro state guarded shows
        have left := HandedOff.refused prepared (fun c known => ?_) (elsewhere _ guarded shows.spent)
        · simpa only [TenantState.join, List.append_nil] using left
        · subst known
          have id : c.sourceFactId = output.occurrenceId.str := congrArg Prod.fst (prepare_command prepared)
          have charged : DotmacCloud.charge ⟨t⟩ terms state.obligations c = _ :=
            own.charge (id ▸ shows.obligations)
          rw [charged, refusal c rfl]
          rfl
  | applied prepared charged appended =>
      rename_i fact command tables obligations
      obtain ⟨added, rfl, rows, records, elsewhere⟩ := appendReceipt_elsewhere (prepare_fact prepared) appended
      have id : command.sourceFactId = output.occurrenceId.str := congrArg Prod.fst (prepare_command prepared)
      obtain ⟨more, rfl, only⟩ : ∃ more, obligations = db.obligations ++ more ∧ ∀ c ∈ more, c = command := by
        cases (charge_holds charged).1 with
        | inl added => exact ⟨[command], added, fun c member => List.mem_singleton.mp member⟩
        | inr kept => exact ⟨[], by rw [kept, List.append_nil], fun c member => absurd member List.not_mem_nil⟩
      refine ⟨⟨[], db.newlyAcknowledged output.occurrenceId terms.observedAt, more, added⟩, ?_,
        ⟨rfl, ?_, ?_, rows, records⟩, ?_⟩
      · simp only [TenantState.join, List.append_nil, TenantState.acknowledgeOutput]
      · intro entry member
        obtain ⟨other, inside, rfl⟩ := List.mem_map.mp member
        exact of_decide_eq_true (List.mem_filter.mp inside).2
      · intro c member
        rw [only c member]
        exact id
      · intro state guarded shows
        have accepted : charge ⟨t⟩ terms state.obligations command = .ok (some (state.obligations ++ more)) := by
          have answer : DotmacCloud.charge ⟨t⟩ terms state.obligations command = _ :=
            own.charge (id ▸ shows.obligations)
          rw [answer, charged]
          simp only [Except.map, Option.map_some, List.drop_left]
        have left := HandedOff.applied prepared accepted (elsewhere _ guarded shows.spent)
        simpa only [TenantState.join, List.append_nil, TenantState.acknowledgeOutput,
          TenantState.newlyAcknowledged, shows.offered] using left

/-! ## States alike -/

omit [DecidableEq Digest] in
theorem TenantState.acknowledged_iff_mem {db : TenantState Digest} {version : FactVersion} :
    db.acknowledged version ↔
      ∃ entry ∈ db.acknowledgements.filter (fun entry => entry.version.occurrenceId = version.occurrenceId),
        entry.version = version := by
  simp only [TenantState.acknowledged, List.mem_filter, decide_eq_true_eq]
  constructor
  · rintro ⟨entry, member, rfl⟩
    exact ⟨entry, ⟨member, rfl⟩, rfl⟩
  · rintro ⟨entry, ⟨member, -⟩, same⟩
    exact ⟨entry, member, same⟩

omit [DecidableEq Digest] in
/-- What is offered of an occurrence depends on what is acknowledged of it. -/
theorem TenantState.offered_of_occurrence {db state : TenantState Digest} {occurrenceId : UUID}
    (outputs : db.outputs = state.outputs)
    (acknowledgements : db.acknowledgements.filter (fun entry => entry.version.occurrenceId = occurrenceId) =
      state.acknowledgements.filter (fun entry => entry.version.occurrenceId = occurrenceId)) :
    db.offered.filter (fun other => other.occurrenceId = occurrenceId) =
      state.offered.filter (fun other => other.occurrenceId = occurrenceId) := by
  simp only [TenantState.offered, List.filter_filter, outputs]
  apply List.filter_congr
  intro other _
  by_cases same : other.occurrenceId = occurrenceId
  · subst same
    have known : db.acknowledged other.version ↔ state.acknowledged other.version := by
      rw [TenantState.acknowledged_iff_mem, TenantState.acknowledged_iff_mem]
      change (∃ entry ∈ db.acknowledgements.filter
          (fun entry => entry.version.occurrenceId = other.occurrenceId), _) ↔ _
      rw [acknowledgements]
      rfl
    simp only [known]
  · simp only [same, decide_false, Bool.false_and]

namespace TenantState.SameLogs

variable {db db' db'' : TenantState Digest}

protected theorem refl (db : TenantState Digest) : db.SameLogs db := ⟨rfl, .refl _, .refl _, .refl _, .refl _⟩

protected theorem trans (first : db.SameLogs db') (second : db'.SameLogs db'') : db.SameLogs db'' :=
  ⟨first.outputs.trans second.outputs, first.acknowledgements.trans second.acknowledgements,
    first.obligations.trans second.obligations, first.receipts.trans second.receipts,
    first.records.trans second.records⟩

theorem join (same : db.SameLogs db') (writes : TenantState Digest) :
    (db.join writes).SameLogs (db'.join writes) :=
  ⟨congrArg (· ++ writes.outputs) same.outputs, same.acknowledgements.append (.refl _),
    same.obligations.append (.refl _), same.receipts.append (.refl _), same.records.append (.refl _)⟩

theorem shows (same : db.SameLogs db') (output : RatedObligationOutputV1) : db.Shows kernel t db' output where
  offered := TenantState.offered_of_occurrence same.outputs (same.acknowledgements _)
  obligations := same.obligations _
  spent := by
    intro row _
    simp only [stored, same.records.find]

end TenantState.SameLogs

section Apart

variable {a b : RatedObligationOutputV1} (apart : a.occurrenceId ≠ b.occurrenceId)

include apart

/-- What is written about one occurrence is not seen from another one. -/
theorem TenantState.Concerns.shows {db writes : TenantState Digest} (concerns : writes.Concerns kernel t a) :
    (db.join writes).Shows kernel t db b where
  offered := by
    apply TenantState.offered_of_occurrence
    · simp only [TenantState.join, concerns.outputs, List.append_nil]
    · have none : writes.acknowledgements.filter
          (fun entry => entry.version.occurrenceId = b.occurrenceId) = [] := by
        rw [List.filter_eq_nil_iff]
        intro entry member same
        exact apart ((concerns.acknowledgements entry member).symm.trans (of_decide_eq_true same))
      simp only [TenantState.join, List.filter_append, none, List.append_nil]
  obligations := by
    have none : writes.obligations.filter (fun c => c.sourceFactId = b.occurrenceId.str) = [] := by
      rw [List.filter_eq_nil_iff]
      intro c member same
      exact apart (UUID.str_injective ((concerns.obligations c member).symm.trans (of_decide_eq_true same)))
    simp only [TenantState.join, List.filter_append, none, List.append_nil]
  spent := by
    intro row exact
    have none : writes.tables.records.find? (fun record => record.key = rowKey kernel row) = none := by
      rw [List.find?_eq_none]
      intro record member same
      obtain ⟨other, about, key⟩ := concerns.records record member
      have exacts := (rowKey_eq_iff kernel).mp (key.symm.trans (of_decide_eq_true same))
      have versions := FactVersion.exactFact_injective (about.symm.trans (exacts.trans exact))
      exact apart (congrArg FactVersion.occurrenceId versions)
    simp only [stored, TenantState.join, List.find?_append, none, Option.or_none]

/-- The writes of two occurrences, either way round. -/
theorem TenantState.Concerns.swap {db writes writes' : TenantState Digest}
    (first : writes.Concerns kernel t a) (second : writes'.Concerns kernel t b) :
    ((db.join writes).join writes').SameLogs ((db.join writes').join writes) := by
  have versions : a.version ≠ b.version := fun same => apart (congrArg FactVersion.occurrenceId same)
  refine ⟨?_, ?_, ?_, ?_, ?_⟩
  · simp only [TenantState.join, first.outputs, second.outputs]
  · simp only [TenantState.join, List.append_assoc]
    apply (Alike.refl _).append
    apply Alike.swap
    intro entry member entry' member' same
    rw [first.acknowledgements entry member, second.acknowledgements entry' member'] at same
    exact apart same
  · simp only [TenantState.join, List.append_assoc]
    apply (Alike.refl _).append
    apply Alike.swap
    intro c member c' member' same
    rw [first.obligations c member, second.obligations c' member'] at same
    exact apart (UUID.str_injective same)
  · simp only [TenantState.join, List.append_assoc]
    apply (Alike.refl _).append
    apply Alike.swap
    intro row member row' member' same
    rw [first.receipts row member, second.receipts row' member'] at same
    exact versions (FactVersion.exactFact_injective same)
  · simp only [TenantState.join, List.append_assoc]
    apply (Alike.refl _).append
    apply Alike.swap
    intro record member record' member' same
    obtain ⟨row, about, key⟩ := first.records record member
    obtain ⟨row', about', key'⟩ := second.records record' member'
    have exacts := (rowKey_eq_iff kernel).mp (key.symm.trans (same.trans key'))
    exact versions (FactVersion.exactFact_injective (about.symm.trans (exacts.trans about')))

end Apart

/-! ## The batch -/

theorem TenantState.Shows.symm {db state : TenantState Digest} {output : RatedObligationOutputV1}
    (shows : db.Shows kernel t state output) : state.Shows kernel t db output :=
  ⟨shows.offered.symm, shows.obligations.symm, fun row exact => (shows.spent row exact).symm⟩

theorem HandedOff.guarded {db next : TenantState Digest} {output : RatedObligationOutputV1}
    {outcome : ReceiptOutcome} (handed : HandedOff kernel ⟨t⟩ (.scoped t) terms db output outcome next)
    (guarded : db.tables.Guarded kernel) : next.tables.Guarded kernel := by
  obtain ⟨fact, instant, -, -, returned⟩ := handed.appended
  exact append_guarded guarded returned

/-- Hand-offs of different occurrences are independent. -/
theorem handOffs_independent (own : terms.billing.ByOwnFact t) :
    Independent (fun (db : TenantState Digest) output outcome next =>
        HandedOff kernel ⟨t⟩ (.scoped t) terms db output outcome next)
      RatedObligationOutputV1.occurrenceId (fun db => db.tables.Guarded kernel) TenantState.SameLogs where
  refl := .refl
  trans := .trans
  keeps := fun guarded handed => handed.guarded guarded
  alike := by
    intro db db' output outcome next guarded same handed
    obtain ⟨writes, rfl, -, elsewhere⟩ := handed.elsewhere own
    exact ⟨db'.join writes, elsewhere db' guarded (same.shows output), same.join writes⟩
  swaps := by
    intro db a b outcome outcome' next last guarded apart first second
    have kept := first.guarded guarded
    obtain ⟨writes, rfl, about, again⟩ := first.elsewhere own
    obtain ⟨writes', rfl, about', earlier⟩ := second.elsewhere own
    have front := earlier db guarded (about.shows apart)
    refine ⟨db.join writes', (db.join writes').join writes, front, ?_, about.swap apart about'⟩
    exact again _ (front.guarded guarded) (about'.shows apart.symm).symm

theorem applyOutputs_run {outputs : List RatedObligationOutputV1} {db db' : TenantState Digest}
    {outcomes : List ReceiptOutcome} :
    applyOutputs kernel ⟨t⟩ (.scoped t) terms outputs db = .ok (outcomes, db') ↔
      ∃ steps : List (RatedObligationOutputV1 × ReceiptOutcome), steps.map Prod.fst = outputs ∧
        steps.map Prod.snd = outcomes ∧ Run (fun (db : TenantState Digest) output outcome next =>
          HandedOff kernel ⟨t⟩ (.scoped t) terms db output outcome next) steps db db' := by
  induction outputs generalizing db outcomes with
  | nil =>
      constructor
      · intro returned
        cases returned
        exact ⟨[], rfl, rfl, .done _⟩
      · rintro ⟨steps, none, rfl, run⟩
        obtain rfl := List.map_eq_nil_iff.mp none
        cases run
        rfl
  | cons output rest ih =>
      rw [applyOutputs_cons_eq_ok]
      constructor
      · rintro ⟨outcome, next, others, handed, ran, rfl⟩
        obtain ⟨steps, rfl, rfl, run⟩ := ih.mp ran
        exact ⟨(output, outcome) :: steps, rfl, rfl, .next handed run⟩
      · rintro ⟨steps, inputs, rfl, run⟩
        cases run with
        | done => cases inputs
        | next handed later =>
            simp only [List.map_cons, List.cons.injEq] at inputs
            obtain ⟨rfl, inputs⟩ := inputs
            exact ⟨_, _, _, handed, ih.mpr ⟨_, inputs, rfl, later⟩, rfl⟩

/-- In every reachable state, a batch that returns also returns in any order that keeps
    the order of each occurrence's generations: each output is answered alike, and each
    occurrence leaves the same entries. -/
theorem batch_reordered (kernel : Kernel Digest) (t : UUID) (events : List DrainEvent) (terms : Terms)
    (own : terms.billing.ByOwnFact t) (outputs outputs' : List RatedObligationOutputV1)
    (alike : Alike RatedObligationOutputV1.occurrenceId outputs outputs')
    (outcomes : List ReceiptOutcome) (db : TenantState Digest)
    (returned : applyOutputs kernel ⟨t⟩ (.scoped t) terms outputs (drainHistory kernel t events) =
      .ok (outcomes, db)) :
    ∃ outcomes' db', applyOutputs kernel ⟨t⟩ (.scoped t) terms outputs' (drainHistory kernel t events) =
        .ok (outcomes', db') ∧
      Alike (fun answer => answer.1.occurrenceId) (outputs.zip outcomes) (outputs'.zip outcomes') ∧
      db.SameLogs db' := by
  obtain ⟨steps, rfl, rfl, run⟩ := applyOutputs_run.mp returned
  obtain ⟨steps', db', rfl, answers, run', same⟩ :=
    (handOffs_independent own).reordered run (drainHistory_sound kernel t events).guarded alike
  refine ⟨steps'.map Prod.snd, db', applyOutputs_run.mpr ⟨steps', rfl, rfl, run'⟩, ?_, same⟩
  simpa only [List.zip_map', List.map_id'] using answers

end Batch

theorem recordingBilling_byOwnFact (t : UUID) : recordingBilling.ByOwnFact t := by
  intro held held' command same
  have found : (∃ c ∈ held', c.sourceFact = command.sourceFact) ↔
      ∃ c ∈ held, c.sourceFact = command.sourceFact := by
    have own : ∀ obligations : List AcceptRatedObligationV1,
        (∃ c ∈ obligations, c.sourceFact = command.sourceFact) ↔
          ∃ c ∈ obligations.filter (fun c => c.sourceFactId = command.sourceFactId),
            c.sourceFact = command.sourceFact := by
      intro obligations
      constructor
      · rintro ⟨c, member, fact⟩
        exact ⟨c, List.mem_filter.mpr ⟨member, decide_eq_true (congrArg Prod.fst fact)⟩, fact⟩
      · rintro ⟨c, member, fact⟩
        exact ⟨c, List.mem_of_mem_filter member, fact⟩
    rw [own held', own held, same]
  simp only [recordingBilling, found]
  split_ifs <;> simp [Except.map]

/-- The second charge handed over before the first one, which has no account. -/
theorem batch_reordered_two_charges :
    ∃ outcomes outcomes' db db',
      applyOutputs plainKernel ⟨1⟩ (.scoped 1) halfLinked [monthlyCharge 7 1, monthlyCharge 8 1]
        (drainHistory plainKernel 1 twoCharges) = .ok (outcomes, db) ∧
      applyOutputs plainKernel ⟨1⟩ (.scoped 1) halfLinked [monthlyCharge 8 1, monthlyCharge 7 1]
        (drainHistory plainKernel 1 twoCharges) = .ok (outcomes', db') ∧ db.SameLogs db' := by
  have returns : (applyOutputs plainKernel ⟨1⟩ (.scoped 1) halfLinked [monthlyCharge 7 1, monthlyCharge 8 1]
      (drainHistory plainKernel 1 twoCharges)).toOption.isSome = true := by decide +kernel
  cases ran : applyOutputs plainKernel ⟨1⟩ (.scoped 1) halfLinked [monthlyCharge 7 1, monthlyCharge 8 1]
      (drainHistory plainKernel 1 twoCharges) with
  | error e =>
      rw [ran] at returns
      cases returns
  | ok result =>
      obtain ⟨outcomes, db⟩ := result
      have alike : Alike RatedObligationOutputV1.occurrenceId [monthlyCharge 7 1, monthlyCharge 8 1]
          [monthlyCharge 8 1, monthlyCharge 7 1] := by
        apply Alike.swap (l := [monthlyCharge 7 1]) (m := [monthlyCharge 8 1])
        intro a first b second
        rw [List.mem_singleton.mp first, List.mem_singleton.mp second]
        decide
      obtain ⟨outcomes', db', ran', -, same⟩ := batch_reordered plainKernel 1 twoCharges halfLinked
        (recordingBilling_byOwnFact 1) _ _ alike outcomes db ran
      exact ⟨outcomes, outcomes', db, db', rfl, ran', same⟩

end DotmacCloud
