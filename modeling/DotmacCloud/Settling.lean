import DotmacCloud.Paging
import DotmacCloud.Reconciling
import DotmacCloud.Repair

/-! # What drains settle for good

No later drain hands an acknowledged version off again. An acknowledgement covers every
generation of its occurrence, receipted or not, so a drain whose window cuts an
occurrence in two leaves the rest without a receipt for good. Where every committed
drain reads the whole queue, each acknowledged output has its own receipt, and
everything emitted before a drain stays settled after it.
-/

namespace DotmacCloud

open Foundation AtMostOnce AdapterReceiptRow

section Settling

variable {Digest : Type} [DecidableEq Digest] {kernel : Kernel Digest} {t : UUID} {terms : Terms}

/-! ## Acknowledged versions -/

/-- What is recorded of one version: its receipts and its charges. -/
def TenantState.recordedOf (t : UUID) (db : TenantState Digest) (version : FactVersion) :
    List AdapterReceiptRow × List AcceptRatedObligationV1 :=
  (db.tables.receipts.filter (fun row => row.exactFact = version.exactFact t),
    db.obligations.filter (fun obligation => obligation.sourceFact = version.sourceFact))

/-- A hand-off records nothing of another version. -/
theorem HandedOff.recordedOf {db db' : TenantState Digest} {output : RatedObligationOutputV1}
    {outcome : ReceiptOutcome} (handed : HandedOff kernel ⟨t⟩ (.scoped t) terms db output outcome db')
    {version : FactVersion} (other : output.version ≠ version) :
    db'.recordedOf t version = db.recordedOf t version := by
  obtain ⟨fact, instant, made, -, returned⟩ := handed.appended
  have apart : (fromReceipt t (receiptOf fact outcome instant)).exactFact ≠ version.exactFact t := by
    rw [(rowFor_receiptOf made t outcome instant).exact]
    exact fun same => other (FactVersion.exactFact_injective same)
  have receipts : db'.tables.receipts.filter (fun row => row.exactFact = version.exactFact t) =
      db.tables.receipts.filter (fun row => row.exactFact = version.exactFact t) := by
    rcases append_cases returned with ⟨-, -, same⟩ | ⟨-, same⟩
    · simp only [same, SqlAlchemyReceiptLedger.scoped_tenantId, List.filter_append, List.filter_singleton,
        decide_eq_false apart, cond_false, List.append_nil]
    · rw [same]
  have obligations : db'.obligations.filter (fun obligation => obligation.sourceFact = version.sourceFact) =
      db.obligations.filter (fun obligation => obligation.sourceFact = version.sourceFact) := by
    cases handed with
    | refused prepared refusal appended => rfl
    | applied prepared charged appended =>
        have named := prepare_command prepared
        rcases (charge_holds charged).1 with rfl | rfl
        · have away : _ ≠ version.sourceFact :=
            fun same => other (FactVersion.sourceFact_injective (named.symm.trans same))
          simp only [List.filter_append, List.filter_singleton, decide_eq_false away, cond_false,
            List.append_nil]
        · rfl
  exact Prod.ext receipts obligations

theorem TenantState.next_frozen {db : TenantState Digest} {version : FactVersion}
    (acknowledged : db.acknowledged version) (event : DrainEvent) :
    (db.next kernel t event).acknowledged version ∧
      (db.next kernel t event).recordedOf t version = db.recordedOf t version := by
  refine ⟨acknowledged_mono (TenantState.next_extends db event) acknowledged, ?_⟩
  cases event with
  | emit output =>
      simp only [TenantState.next, TenantState.recordedOf, emit_tables, emit_obligations]
  | drain terms limit commits =>
      simp only [TenantState.next]
      split
      · rename_i outcomes db' returned
        split
        · refine applyOutputs_keeps (fun later => later.recordedOf t version = db.recordedOf t version)
            ?_ rfl returned
          intro output listed middle outcome later before handed
          have offered := List.mem_of_mem_take listed
          have other : output.version ≠ version := by
            rintro rfl
            exact not_acknowledged_of_offered offered acknowledged
          rw [handed.recordedOf other, before]
        · rfl
      · rfl

/-- Once a version is acknowledged, no later drain touches it: its receipts and its
    charges stay exactly what they were, and it stays acknowledged. -/
theorem acknowledged_frozen (kernel : Kernel Digest) (t : UUID) (before after : List DrainEvent)
    (version : FactVersion) (acknowledged : (drainHistory kernel t before).acknowledged version) :
    (drainHistory kernel t (before ++ after)).acknowledged version ∧
      (drainHistory kernel t (before ++ after)).recordedOf t version =
        (drainHistory kernel t before).recordedOf t version := by
  induction after using List.reverseRecOn with
  | nil =>
      rw [List.append_nil]
      exact ⟨acknowledged, rfl⟩
  | append_singleton after event ih =>
      rw [← List.append_assoc, drainHistory_append, List.foldl_cons, List.foldl_nil]
      exact ⟨(TenantState.next_frozen ih.1 event).1, (TenantState.next_frozen ih.1 event).2.trans ih.2⟩

/-- Two generations of one charge, drained through a window of one. -/
def cutOccurrence : List DrainEvent :=
  [.emit (monthlyCharge 7 1), .emit (monthlyCharge 7 2),
    .drain (linkedTo (some 9) recordingBilling) 1 true]

/-- The second generation was acknowledged with the first: no later drain records it. -/
theorem acknowledged_frozen_cut :
    (drainHistory plainKernel 1 (cutOccurrence ++
      [.drain (linkedTo (some 9) recordingBilling) 100 true])).recordedOf 1 ⟨7, 2⟩ = ([], []) :=
  ((acknowledged_frozen plainKernel 1 cutOccurrence _ ⟨7, 2⟩ (by decide +kernel)).2).trans (by decide +kernel)

/-! ## Drains of the whole queue -/

/-- Every committed drain of the history read the whole queue. -/
def Covering (kernel : Kernel Digest) (t : UUID) (events : List DrainEvent) : Prop :=
  ∀ before terms limit after, events = before ++ .drain terms limit true :: after →
    (drainHistory kernel t before).offered.length ≤ limit

/-- Every acknowledged version has its own receipt. -/
def TenantState.Receipted (t : UUID) (db : TenantState Digest) : Prop :=
  ∀ version, db.acknowledged version → ∃ outcome, HasReceipt t db.tables.receipts version outcome

theorem Covering.before {events more : List DrainEvent} (covering : Covering kernel t (events ++ more)) :
    Covering kernel t events := by
  intro before terms limit after same
  apply covering before terms limit (after ++ more)
  rw [same, List.append_assoc, List.cons_append]

theorem Covering.nil : Covering kernel t [] := by
  intro before terms limit after same
  cases before <;> cases same

theorem Covering.snoc {events : List DrainEvent} {event : DrainEvent} (covering : Covering kernel t events)
    (covers : ∀ terms limit, event = .drain terms limit true →
      (drainHistory kernel t events).offered.length ≤ limit) : Covering kernel t (events ++ [event]) := by
  intro before terms limit after same
  rcases List.eq_nil_or_concat after with rfl | ⟨later, last, rfl⟩
  · obtain ⟨rfl, drains⟩ := List.append_inj' same rfl
    exact covers terms limit (List.singleton_inj.mp drains)
  · rw [List.concat_eq_append, ← List.cons_append, ← List.append_assoc] at same
    exact covering before terms limit later (List.append_inj' same rfl).1

/-- A drain acknowledges what was acknowledged before it or offered to it. -/
theorem applyOutputs_acknowledged {outputs : List RatedObligationOutputV1} {db db' : TenantState Digest}
    {outcomes : List ReceiptOutcome}
    (returned : applyOutputs kernel ⟨t⟩ (.scoped t) terms outputs db = .ok (outcomes, db'))
    {version : FactVersion} (acknowledged : db'.acknowledged version) :
    db.acknowledged version ∨ ∃ output ∈ db.offered, output.version = version := by
  let Keeps := fun later : TenantState Digest => (∀ output ∈ later.offered, output ∈ db.offered) ∧
    ∀ version, later.acknowledged version →
      db.acknowledged version ∨ ∃ output ∈ db.offered, output.version = version
  have kept : Keeps db' := by
    refine applyOutputs_keeps Keeps ?_ ⟨fun _ member => member, fun _ => .inl⟩ returned
    intro output _ middle outcome later before handed
    constructor
    · intro other member
      rw [handed.offered] at member
      exact before.1 other (List.mem_of_mem_filter member)
    · intro version acknowledged
      cases handed with
      | refused prepared refusal appended => exact before.2 version acknowledged
      | applied prepared charged appended =>
          rcases acknowledged_acknowledge.mp acknowledged with known | ⟨offered, inside, -, same⟩
          · exact before.2 version known
          · exact .inr ⟨offered, before.1 offered inside, same⟩
  exact kept.2 version acknowledged

/-- A drain that returned answered for every output it read. -/
theorem applyOutputs_answers {scope : TenantScope} {ledger : SqlAlchemyReceiptLedger}
    {outputs : List RatedObligationOutputV1} {db db' : TenantState Digest} {outcomes : List ReceiptOutcome}
    (returned : applyOutputs kernel scope ledger terms outputs db = .ok (outcomes, db'))
    {output : RatedObligationOutputV1} (member : output ∈ outputs) :
    ∃ outcome, (output, outcome) ∈ outputs.zip outcomes := by
  induction outputs generalizing db outcomes with
  | nil => cases member
  | cons first rest ih =>
      obtain ⟨outcome, next, others, -, ran, rfl⟩ := applyOutputs_cons_eq_ok.mp returned
      rcases List.mem_cons.mp member with rfl | later
      · exact ⟨outcome, List.mem_cons_self⟩
      · obtain ⟨other, answered⟩ := ih ran later
        exact ⟨other, List.mem_cons_of_mem _ answered⟩

/-- A drain of the whole queue leaves a receipt for everything emitted before it. -/
theorem drain_receipts {db db' : TenantState Digest} (sound : db.Sound kernel t)
    (receipted : db.Receipted t) {limit : Nat} (covers : db.offered.length ≤ limit)
    {outcomes : List ReceiptOutcome} (returned : db.drain kernel t terms limit = .ok (outcomes, db'))
    {output : RatedObligationOutputV1} (emitted : output ∈ db.outputs) :
    ∃ outcome, HasReceipt t db'.tables.receipts output.version outcome := by
  have ran : applyOutputs kernel ⟨t⟩ (.scoped t) terms (db.unacknowledgedOutputs limit) db =
      .ok (outcomes, db') := returned
  by_cases known : db.acknowledged output.version
  · obtain ⟨outcome, has⟩ := receipted _ known
    exact ⟨outcome, has.mono (fun row member => (applyOutputs_extends ran).receipts.mem member)⟩
  · have listed : output ∈ db.unacknowledgedOutputs limit := by
      rw [TenantState.unacknowledgedOutputs, List.take_of_length_le covers]
      exact List.mem_filter.mpr ⟨emitted, by simpa using known⟩
    obtain ⟨outcome, answered⟩ := applyOutputs_answers ran listed
    obtain ⟨fact, made, row, member, row_for⟩ :=
      applyOutputs_recorded sound unacknowledged_recorded ran answered
    exact ⟨outcome, row_for.hasReceipt member⟩

theorem Covering.receipted {events : List DrainEvent} (covering : Covering kernel t events) :
    (drainHistory kernel t events).Receipted t := by
  induction events using List.reverseRecOn with
  | nil =>
      rintro version ⟨entry, member, -⟩
      cases member
  | append_singleton events event ih =>
      have before := ih covering.before
      have sound := drainHistory_sound kernel t events
      rw [drainHistory_append, List.foldl_cons, List.foldl_nil]
      cases event with
      | emit output =>
          simpa only [TenantState.Receipted, TenantState.next, TenantState.acknowledged, emit_tables,
            emit_acknowledgements] using before
      | drain terms limit commits =>
          simp only [TenantState.next]
          split
          · rename_i outcomes db' returned
            split
            · rename_i committed
              subst committed
              have covers := covering events terms limit [] rfl
              intro version acknowledged
              rcases applyOutputs_acknowledged returned acknowledged with known | ⟨output, offered, rfl⟩
              · obtain ⟨outcome, has⟩ := before version known
                exact ⟨outcome, has.mono (fun row member => (applyOutputs_extends returned).receipts.mem member)⟩
              · exact drain_receipts sound before covers returned (List.mem_of_mem_filter offered)
            · exact before
          · exact before

omit [DecidableEq Digest] in
/-- A row of a history is the row of a receipt of an emitted output. -/
theorem TenantState.Sound.rowOf {db : TenantState Digest} (sound : db.Sound kernel t) :
    ∀ row ∈ db.tables.receipts, RowOf t db.outputs row := by
  intro row member
  obtain ⟨output, emitted, outcome, row_for⟩ := sound.recorded row member
  obtain ⟨receipt, built⟩ := sound.written row member
  have tenant : row.tenantId = t := congrArg ExactFact.tenantId row_for.exact
  rw [tenant] at built
  subst built
  have exact := row_for.exact
  simp only [AdapterReceiptRow.exactFact, fromReceipt, FactVersion.exactFact, ExactFact.mk.injEq,
    true_and] at exact
  obtain ⟨adapter, owner, ref, version⟩ := exact
  have key : FactKey.make sourceOwner output.occurrenceId.str = .ok receipt.fact.key := by
    have built := receipt.fact.key.make_eq
    rwa [owner, ref] at built
  have fact : SourceFact.make receipt.fact.key output.generation output.requestFingerprint =
      .ok receipt.fact := by
    have built := receipt.fact.make_eq
    have print : receipt.fact.fingerprint = output.requestFingerprint := row_for.print
    rwa [version, print] at built
  have made : factOf output = .ok receipt.fact := by
    simp only [factOf, key, bind, Except.bind]
    exact fact
  refine ⟨output, emitted, receipt.fact, receipt.outcome, receipt.observedAt, made, ?_⟩
  simp only [fromReceipt, receiptOf, adapter]

/-- A fact names the exact version it was made of. -/
theorem version_of_fact {a b : RatedObligationOutputV1} {fact : SourceFact} (made : factOf a = .ok fact)
    (made' : factOf b = .ok fact) : a.version = b.version := by
  obtain ⟨-, ref, version, -⟩ := factOf_eq_ok made
  obtain ⟨-, ref', version', -⟩ := factOf_eq_ok made'
  have occurrence : a.occurrenceId = b.occurrenceId := UUID.str_injective (ref.symm.trans ref')
  simp only [RatedObligationOutputV1.version, occurrence, version.symm.trans version']

/-- Where every committed drain reads the whole queue, whatever was emitted before one
    is settled by every reconciliation after it, whatever else is emitted or drained. -/
theorem covered_settles (kernel : Kernel Digest) (t : UUID) (before after : List DrainEvent) (terms : Terms)
    (limit : Nat) (outcomes : List ReceiptOutcome) (db' : TenantState Digest)
    (covering : Covering kernel t before)
    (covers : (drainHistory kernel t before).offered.length ≤ limit)
    (returned : (drainHistory kernel t before).drain kernel t terms limit = .ok (outcomes, db'))
    (orderBy : OrderBy) (published : List SourceFact) (keys : List FactKey)
    (emitted : ∀ fact ∈ published, ∃ output ∈ (drainHistory kernel t before).outputs,
      factOf output = .ok fact)
    (requested : ∀ fact ∈ published, fact.key ∈ keys) :
    ∃ received, (SqlAlchemyReceiptLedger.scoped t).receiptsFor orderBy
        (drainHistory kernel t (before ++ .drain terms limit true :: after)).tables.receipts adapterName keys =
        .ok received ∧
      (reconcile published received).converged = true := by
  have ended : drainHistory kernel t (before ++ .drain terms limit true :: after) =
      after.foldl (TenantState.next kernel t) db' := by
    rw [drainHistory_append, List.foldl_cons]
    simp only [TenantState.next, returned, if_true]
  have sound := drainHistory_sound kernel t (before ++ .drain terms limit true :: after)
  rw [ended] at sound ⊢
  have start := drainHistory_sound kernel t before
  have drained := applyOutputs_extends returned
  have later : db'.Extends (after.foldl (TenantState.next kernel t) db') := foldl_next_extends after db'
  have own : ofTenant t (after.foldl (TenantState.next kernel t) db').tables.receipts =
      (after.foldl (TenantState.next kernel t) db').tables.receipts := by
    apply ofTenant_own
    intro row member
    obtain ⟨output, -, fact, outcome, instant, -, rfl⟩ := sound.rowOf row member
    rfl
  obtain ⟨received, read, back⟩ := read_back own sound.rowOf orderBy keys
  have still : ∀ fact ∈ published, ∃ output ∈ (after.foldl (TenantState.next kernel t) db').outputs,
      factOf output = .ok fact := by
    intro fact listed
    obtain ⟨output, inside, made⟩ := emitted fact listed
    exact ⟨output, later.outputs.mem (drained.outputs.mem inside), made⟩
  refine ⟨received, read, (back.reports sound.rowOf sound.versions still requested).converged.mpr ?_⟩
  intro output _ fact listed made
  obtain ⟨known, inside, built⟩ := emitted fact listed
  have same : known.version = output.version := version_of_fact built made
  obtain ⟨outcome, has⟩ := drain_receipts start covering.receipted covers returned inside
  rw [same] at has
  exact ⟨output.generation, outcome, le_refl _, has.mono (fun row member => later.receipts.mem member)⟩

end Settling

/-- A drained charge that was revised, another one behind it, and a drain of the first of
    them that was rolled back. -/
def revisedHistory : List DrainEvent :=
  let terms := linkedTo (some 9) recordingBilling
  [.emit (monthlyCharge 7 1), .drain terms 100 true, .emit (monthlyCharge 7 2), .emit (monthlyCharge 8 1),
    .drain terms 1 false]

theorem revisedHistory_covering : Covering plainKernel 1 revisedHistory := by
  have emitted : ∀ {events output} , Covering plainKernel 1 events →
      Covering plainKernel 1 (events ++ [.emit output]) := by
    intro events output covering
    exact covering.snoc (fun _ _ drains => by cases drains)
  have drained : Covering plainKernel 1 ([] ++ [.emit (monthlyCharge 7 1)] ++
      [.drain (linkedTo (some 9) recordingBilling) 100 true]) := by
    apply (emitted .nil).snoc
    rintro terms limit ⟨⟩
    decide +kernel
  exact (emitted (emitted drained)).snoc (fun _ _ commits => by cases commits)

/-- The revision and the other charge are refused, and settled though one more is emitted. -/
theorem covered_settles_charge :
    ∃ revised second, factOf (monthlyCharge 7 2) = .ok revised ∧ factOf (monthlyCharge 8 1) = .ok second ∧
      ∃ received, (SqlAlchemyReceiptLedger.scoped 1).receiptsFor ⟨id, fun _ => List.Perm.refl _⟩
          (drainHistory plainKernel 1 (revisedHistory ++ .drain (linkedTo none recordingBilling) 100 true ::
            [.emit (monthlyCharge 9 1), .drain (linkedTo (some 9) recordingBilling) 0 true])).tables.receipts
          adapterName [revised.key, second.key] = .ok received ∧
        (reconcile [revised, second] received).converged = true := by
  obtain ⟨revised, made, -⟩ := (monthlyCharge_storable 7 2 (by decide) (by decide)).fact
  obtain ⟨second, made', -⟩ := (monthlyCharge_storable 8 1 (by decide) (by decide)).fact
  refine ⟨revised, second, made, made', ?_⟩
  have returns : ((drainHistory plainKernel 1 revisedHistory).drain plainKernel 1
      (linkedTo none recordingBilling) 100).toBool = true := by decide +kernel
  cases ran : (drainHistory plainKernel 1 revisedHistory).drain plainKernel 1
      (linkedTo none recordingBilling) 100 with
  | error e =>
      rw [ran] at returns
      cases returns
  | ok result =>
      have emitted : monthlyCharge 7 2 ∈ (drainHistory plainKernel 1 revisedHistory).outputs ∧
          monthlyCharge 8 1 ∈ (drainHistory plainKernel 1 revisedHistory).outputs := by decide +kernel
      refine covered_settles plainKernel 1 revisedHistory _ (linkedTo none recordingBilling) 100 result.1
        result.2 revisedHistory_covering (by decide +kernel) ran ⟨id, fun _ => List.Perm.refl _⟩
        [revised, second] [revised.key, second.key] ?_ (by simp)
      rw [List.forall_mem_cons, List.forall_mem_singleton]
      exact ⟨⟨_, emitted.1, made⟩, ⟨_, emitted.2, made'⟩⟩

end DotmacCloud
