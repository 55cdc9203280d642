import DotmacCloud.Handled

/-! # Repairing a refused output

The receipt's fingerprint covers the outcome, so a version that was refused once can
never be recorded as applied. A later drain in which everything is accepted therefore
commits exactly when no pending version carries a refusal; with one refusal in the
queue the whole drain raises, for every other output too.
-/

namespace DotmacCloud

open Foundation AtMostOnce AdapterReceiptRow

/-! ## What the receipt columns can hold -/

/-- The output's receipts can be built and fit their columns. -/
structure Storable (output : RatedObligationOutputV1) : Prop where
  positive : 1 ≤ output.generation
  bounded : output.generation ≤ 2147483647
  text : ¬ blank output.requestFingerprint
  short : output.requestFingerprint.length ≤ 255

theorem Storable.fact {output : RatedObligationOutputV1} (storable : Storable output) :
    ∃ fact, factOf output = .ok fact ∧
      ∀ outcome instant, (receiptOf fact outcome instant).WithinColumns := by
  have owner : ¬ blank sourceOwner := by decide
  let key : FactKey := ⟨sourceOwner, output.occurrenceId.str, owner, output.occurrenceId.str_not_blank⟩
  let fact : SourceFact :=
    ⟨key, output.generation, output.requestFingerprint, storable.positive, storable.text⟩
  refine ⟨fact, ?_, ?_⟩
  · have named : FactKey.make sourceOwner output.occurrenceId.str = .ok key := key.make_eq
    simp only [factOf, named, bind, Except.bind]
    exact fact.make_eq
  · intro outcome instant
    have adapterFits : adapterName.length ≤ 120 := by decide
    have ownerFits : sourceOwner.length ≤ 120 := by decide
    refine ⟨adapterFits, ownerFits, ?_, storable.bounded, storable.short⟩
    have length := output.occurrenceId.str_length
    simp only [receiptOf, fact, key]
    omega

section Repair

variable {Digest : Type} [DecidableEq Digest] {kernel : Kernel Digest} {t : UUID}

omit [DecidableEq Digest] in
/-- An output with a receipt of its exact version could be stored. -/
theorem storable_of_row {db : TenantState Digest} (sound : db.Sound kernel t)
    {output : RatedObligationOutputV1} {outcome : ReceiptOutcome} {row : AdapterReceiptRow}
    (member : row ∈ db.tables.receipts) (row_for : RowFor t output outcome row) {fact : SourceFact}
    (made : factOf output = .ok fact) : Storable output := by
  obtain ⟨-, -, version, print⟩ := factOf_eq_ok made
  obtain ⟨-, -, -, bounds, short, -⟩ := columnFault_eq_none.mp (sound.fit row member)
  have sameVersion : row.sourceVersion = output.generation :=
    congrArg ExactFact.sourceVersion row_for.exact
  rw [row_for.print] at short
  rw [sameVersion] at bounds
  refine ⟨version ▸ fact.positive, bounds.2, ?_, short⟩
  rw [← print]
  exact fact.fingerprintText

omit [DecidableEq Digest] in
/-- A row under the version of an emitted output was written for that output. -/
theorem TenantState.Sound.rowFor {db : TenantState Digest} (sound : db.Sound kernel t)
    {output : RatedObligationOutputV1} (emitted : output ∈ db.outputs) {row : AdapterReceiptRow}
    (member : row ∈ db.tables.receipts) (same : row.exactFact = output.version.exactFact t) :
    ∃ outcome, RowFor t output outcome row := by
  obtain ⟨other, inside, outcome, row_for⟩ := sound.recorded row member
  have version : other.version = output.version :=
    FactVersion.exactFact_injective (row_for.exact.symm.trans same)
  obtain rfl := List.inj_on_of_nodup_map sound.versions inside emitted version
  exact ⟨outcome, row_for⟩

/-! ## Appending an applied receipt -/

theorem appendReceipt_applied {db : TenantState Digest} (sound : db.Sound kernel t)
    {output : RatedObligationOutputV1} (emitted : output ∈ db.outputs) (storable : Storable output)
    (unrefused : ¬ HasReceipt t db.tables.receipts output.version .refused) (instant : Int)
    {fact : SourceFact} (made : factOf output = .ok fact) :
    ∃ tables, appendReceipt kernel (.scoped t) db.tables fact .applied (.aware instant) = .ok tables := by
  rw [appendReceipt_aware]
  have built := rowFor_receiptOf made t .applied instant
  cases spent : db.tables.spent kernel t (receiptOf fact .applied instant) with
  | none =>
      obtain ⟨known, same, fits⟩ := storable.fact
      rw [made] at same
      cases same
      exact ⟨_, append_fresh sound.guarded spent
        ((columnFault_none_iff t _).mpr (fits .applied instant))⟩
  | some print =>
      obtain ⟨row, member, key, -⟩ := sound.guarded.mirrors.row_of_stored spent
      rw [← rowKey_fromReceipt, rowKey_eq_iff] at key
      obtain ⟨outcome, row_for⟩ := sound.rowFor emitted member (key.trans built.exact)
      have outcome_applied : outcome = .applied := by
        cases outcome with
        | applied => rfl
        | refused => exact absurd (row_for.hasReceipt member) unrefused
      subst outcome_applied
      refine ⟨db.tables, (append_present sound.guarded member key).trans (if_pos ⟨?_, row_for.outcome⟩)⟩
      exact row_for.print.trans built.print.symm

theorem appendReceipt_conflict {db : TenantState Digest} (sound : db.Sound kernel t)
    {output : RatedObligationOutputV1}
    (refused : HasReceipt t db.tables.receipts output.version .refused) (instant : Int)
    {fact : SourceFact} (made : factOf output = .ok fact) :
    appendReceipt kernel (.scoped t) db.tables fact .applied (.aware instant) =
      .error .idempotencyConflict := by
  rw [appendReceipt_aware]
  have built := rowFor_receiptOf made t .applied instant
  obtain ⟨row, member, same, outcome⟩ := refused
  refine (append_present sound.guarded member (same.trans built.exact.symm)).trans (if_neg ?_)
  rintro ⟨-, applied⟩
  rw [outcome] at applied
  simp [receiptOf, ReceiptOutcome.value] at applied

/-! ## A drain in which everything is accepted -/

/-- Every output resolves to an account, translates and is accepted by Billing, one
    after another. -/
inductive Accepted (t : UUID) (terms : Terms) : List AcceptRatedObligationV1 →
    List RatedObligationOutputV1 → List AcceptRatedObligationV1 → Prop where
  | nil {held : List AcceptRatedObligationV1} : Accepted t terms held [] held
  | cons {held next held' : List AcceptRatedObligationV1} {output : RatedObligationOutputV1}
      {rest : List RatedObligationOutputV1} {tax : TaxOutcome} {account : UUID}
      {command : AcceptRatedObligationV1}
      (taxed : terms.taxFor output = .ok tax)
      (resolved : terms.resolveBillingAccount ⟨t⟩ output = .ok (some account))
      (translated : toCommand terms.billing.toContracts output ⟨t⟩ account tax = .ok command)
      (accepted : terms.billing.accept ⟨t⟩ acceptedSourceKinds held command = .ok next)
      (others : Accepted t terms next rest held') : Accepted t terms held (output :: rest) held'

omit [DecidableEq Digest] in
/-- The acknowledgement reaches the output it was written for. -/
theorem acknowledged_after {db : TenantState Digest} {output : RatedObligationOutputV1}
    (emitted : output ∈ db.outputs) (observedAt : Datetime) (obligations : List AcceptRatedObligationV1)
    (tables : Tables Digest) :
    ({ db with
        obligations, tables
        acknowledgements := db.acknowledgeOutput output.occurrenceId observedAt } :
      TenantState Digest).acknowledged output.version := by
  by_cases known : db.acknowledged output.version
  · obtain ⟨entry, member, same⟩ := known
    exact ⟨entry, List.mem_append_left _ member, same⟩
  · refine ⟨⟨output.version, observedAt⟩, List.mem_append_right _ ?_, rfl⟩
    apply List.mem_map_of_mem
    simp [TenantState.offered, emitted, known]

omit [DecidableEq Digest] in
theorem acknowledged_mono {db db' : TenantState Digest} (later : db.Extends db') {version : FactVersion}
    (known : db.acknowledged version) : db'.acknowledged version := by
  obtain ⟨entry, member, same⟩ := known
  exact ⟨entry, later.acknowledgements.mem member, same⟩

/-- Without a refusal in the queue, every output is applied. -/
theorem applyOutputs_applied {terms : Terms} {instant : Int} (aware : terms.observedAt = .aware instant)
    {outputs : List RatedObligationOutputV1} {held held' : List AcceptRatedObligationV1}
    (accepted : Accepted t terms held outputs held') {db : TenantState Digest}
    (sound : db.Sound kernel t) (start : db.obligations = held)
    (emitted : ∀ output ∈ outputs, output ∈ db.outputs) (storable : ∀ output ∈ outputs, Storable output)
    (unrefused : ∀ output ∈ outputs, ¬ HasReceipt t db.tables.receipts output.version .refused) :
    ∃ db', applyOutputs kernel ⟨t⟩ (.scoped t) terms outputs db =
        .ok (outputs.map (fun _ => .applied), db') ∧
      db'.obligations = held' ∧ ∀ output ∈ outputs, db'.acknowledged output.version := by
  induction accepted generalizing db with
  | nil => exact ⟨db, rfl, start, fun output member => absurd member List.not_mem_nil⟩
  | cons taxed resolved translated accepted others ih =>
      rename_i held next held' output rest tax account command
      have here := emitted output List.mem_cons_self
      obtain ⟨fact, made, -⟩ := (storable output List.mem_cons_self).fact
      obtain ⟨tables, appended⟩ := appendReceipt_applied sound here (storable output List.mem_cons_self)
        (unrefused output List.mem_cons_self) instant made
      rw [← aware] at appended
      rw [← start] at accepted
      have handed : HandedOff kernel ⟨t⟩ (.scoped t) terms db output .applied _ :=
        .applied (prepare_eq_ok.mpr ⟨tax, taxed, made, .translated resolved translated⟩)
          (charge_eq_some.mpr accepted) appended
      have known := acknowledged_after here terms.observedAt next tables
      obtain ⟨db', ran, obligations, acknowledged⟩ := ih (sound.handedOff here handed) rfl
        (fun other member => emitted other (List.mem_cons_of_mem _ member))
        (fun other member => storable other (List.mem_cons_of_mem _ member)) (by
          rintro other member ⟨row, inside, same, outcome⟩
          obtain ⟨instant', -, returned⟩ := appendReceipt_eq_ok appended
          -- The row written here is an applied one, so it refuses nothing.
          rcases append_cases returned with ⟨-, -, rfl⟩ | ⟨-, rfl⟩
          · rcases List.mem_append.mp inside with earlier | last
            · exact unrefused other (List.mem_cons_of_mem _ member) ⟨row, earlier, same, outcome⟩
            · obtain rfl := List.mem_singleton.mp last
              exact absurd outcome (by simp [fromReceipt, receiptOf, ReceiptOutcome.value])
          · exact unrefused other (List.mem_cons_of_mem _ member) ⟨row, inside, same, outcome⟩)
      refine ⟨db', ?_, obligations, ?_⟩
      · exact applyOutputs_cons_eq_ok.mpr ⟨_, _, _, handed, ran, rfl⟩
      · intro other member
        rcases List.mem_cons.mp member with rfl | later
        · exact acknowledged_mono (applyOutputs_extends ran) known
        · exact acknowledged other later

/-- One refusal in the queue raises the conflict, whatever else is pending. -/
theorem applyOutputs_conflict {terms : Terms} {instant : Int} (aware : terms.observedAt = .aware instant)
    {outputs : List RatedObligationOutputV1} {held held' : List AcceptRatedObligationV1}
    (accepted : Accepted t terms held outputs held') {db : TenantState Digest}
    (sound : db.Sound kernel t) (start : db.obligations = held)
    (emitted : ∀ output ∈ outputs, output ∈ db.outputs) (storable : ∀ output ∈ outputs, Storable output)
    {refused : RatedObligationOutputV1} (pending : refused ∈ outputs)
    (receipt : HasReceipt t db.tables.receipts refused.version .refused) :
    applyOutputs kernel ⟨t⟩ (.scoped t) terms outputs db = .error .idempotencyConflict := by
  induction accepted generalizing db with
  | nil => cases pending
  | cons taxed resolved translated accepted others ih =>
      rename_i held next held' output rest tax account command
      have here := emitted output List.mem_cons_self
      obtain ⟨fact, made, -⟩ := (storable output List.mem_cons_self).fact
      have prepared := prepare_eq_ok.mpr ⟨tax, taxed, made, .translated resolved translated⟩
      rw [← start] at accepted
      have charged := charge_eq_some.mpr accepted
      by_cases first : HasReceipt t db.tables.receipts output.version .refused
      · have conflict := appendReceipt_conflict sound first instant made
        rw [← aware] at conflict
        simp only [applyOutputs_cons, handOff, prepared, charged, settleFact, conflict, bind, Except.bind]
      · obtain ⟨tables, appended⟩ := appendReceipt_applied sound here
          (storable output List.mem_cons_self) first instant made
        rw [← aware] at appended
        have handed : HandedOff kernel ⟨t⟩ (.scoped t) terms db output .applied _ :=
          .applied prepared charged appended
        have later : refused ∈ rest := by
          rcases List.mem_cons.mp pending with rfl | later
          · exact absurd receipt first
          · exact later
        have raised := ih (sound.handedOff here handed) rfl
          (fun other member => emitted other (List.mem_cons_of_mem _ member))
          (fun other member => storable other (List.mem_cons_of_mem _ member)) later
          (receipt.mono (fun row member => handed.extends.receipts.mem member))
        simp only [applyOutputs_cons, handOff_eq_ok.mpr handed, raised, bind, Except.bind]

theorem applyOutputs_aware {terms : Terms} {outputs : List RatedObligationOutputV1}
    {db db' : TenantState Digest} {outcomes : List ReceiptOutcome} {output : RatedObligationOutputV1}
    (member : output ∈ outputs)
    (returned : applyOutputs kernel ⟨t⟩ (.scoped t) terms outputs db = .ok (outcomes, db')) :
    ∃ instant, terms.observedAt = .aware instant := by
  cases outputs with
  | nil => cases member
  | cons first rest =>
      obtain ⟨outcome, next, others, handed, -⟩ := applyOutputs_cons_eq_ok.mp returned
      obtain ⟨-, instant, -, aware, -⟩ := handed.appended
      exact ⟨instant, aware⟩

/-- In any reachable state, a drain that covers the queue and in which every pending
    output resolves, translates and is accepted commits them all exactly when none of
    them was refused before, and otherwise raises the conflict. -/
theorem repair_exact (kernel : Kernel Digest) (t : UUID) (events : List DrainEvent) (terms : Terms)
    (limit : Nat) (held' : List AcceptRatedObligationV1)
    (covers : (drainHistory kernel t events).offered.length ≤ limit)
    (accepted : Accepted t terms (drainHistory kernel t events).obligations
      (drainHistory kernel t events).offered held') :
    ((∃ db', (drainHistory kernel t events).drain kernel t terms limit =
          .ok ((drainHistory kernel t events).offered.map (fun _ => .applied), db') ∧
        db'.obligations = held' ∧
        ∀ output ∈ (drainHistory kernel t events).offered, db'.acknowledged output.version) ↔
      ∀ output ∈ (drainHistory kernel t events).offered,
        ¬ HasReceipt t (drainHistory kernel t events).tables.receipts output.version .refused ∧
          Storable output ∧ ∃ instant, terms.observedAt = .aware instant) ∧
    ((∃ output ∈ (drainHistory kernel t events).offered,
        HasReceipt t (drainHistory kernel t events).tables.receipts output.version .refused) →
      (∀ output ∈ (drainHistory kernel t events).offered, Storable output) →
      (∃ instant, terms.observedAt = .aware instant) →
      (drainHistory kernel t events).drain kernel t terms limit = .error .idempotencyConflict) := by
  have sound := drainHistory_sound kernel t events
  generalize drainHistory kernel t events = db at *
  have page : db.unacknowledgedOutputs limit = db.offered := List.take_of_length_le covers
  have emitted : ∀ output ∈ db.offered, output ∈ db.outputs :=
    fun output member => List.mem_of_mem_filter member
  simp only [TenantState.drain, drainRatedObligations, page]
  have conflict : ∀ instant, terms.observedAt = .aware instant →
      (∀ output ∈ db.offered, Storable output) →
      ∀ output ∈ db.offered, HasReceipt t db.tables.receipts output.version .refused →
        applyOutputs kernel ⟨t⟩ (.scoped t) terms db.offered db = .error .idempotencyConflict :=
    fun instant aware storable output member refused =>
      applyOutputs_conflict aware accepted sound rfl emitted storable member refused
  refine ⟨⟨?_, ?_⟩, ?_⟩
  · rintro ⟨db', returned, -, -⟩
    have storable : ∀ output ∈ db.offered, Storable output := by
      intro output member
      have answered : (output, ReceiptOutcome.applied) ∈
          db.offered.zip (db.offered.map (fun _ => ReceiptOutcome.applied)) := by
        rw [← List.map_prod_left_eq_zip]
        exact List.mem_map_of_mem member
      obtain ⟨fact, made, row, inside, row_for⟩ :=
        applyOutputs_recorded sound emitted returned answered
      exact storable_of_row (applyOutputs_sound sound emitted returned) inside row_for made
    intro output member
    obtain ⟨instant, aware⟩ := applyOutputs_aware member returned
    refine ⟨?_, storable output member, instant, aware⟩
    intro refused
    rw [conflict instant aware storable output member refused] at returned
    cases returned
  · intro ready
    cases queue : db.offered with
    | nil =>
        rw [queue] at accepted
        cases accepted
        exact ⟨db, rfl, rfl, fun output member => absurd member List.not_mem_nil⟩
    | cons first rest =>
        obtain ⟨-, -, instant, aware⟩ := ready first (by rw [queue]; exact List.mem_cons_self)
        rw [← queue]
        exact applyOutputs_applied aware accepted sound rfl emitted
          (fun output member => (ready output member).2.1) (fun output member => (ready output member).1)
  · rintro ⟨output, member, refused⟩ storable ⟨instant, aware⟩
    exact conflict instant aware storable output member refused

end Repair

/-! ## A linked account comes too late -/

/-- One monthly charge, refused because its subscription had no account. -/
def refusedHistory : List DrainEvent :=
  [.emit (monthlyCharge 7 1), .drain (linkedTo none recordingBilling) 100 true]

theorem monthlyCharge_storable (occurrenceId : UUID) (generation : Int) (positive : 1 ≤ generation)
    (bounded : generation ≤ 2147483647) : Storable (monthlyCharge occurrenceId generation) where
  positive := positive
  bounded := bounded
  text := by
    change ¬ blank "sha256:rated"
    decide
  short := by
    change "sha256:rated".length ≤ 255
    decide

theorem refusedHistory_offered :
    (drainHistory plainKernel 1 refusedHistory).offered = [monthlyCharge 7 1] := by decide +kernel

theorem refusedHistory_pending :
    monthlyCharge 7 1 ∈ (drainHistory plainKernel 1 refusedHistory).offered := by
  rw [refusedHistory_offered]
  exact List.mem_singleton_self _

theorem refusedHistory_covered :
    (drainHistory plainKernel 1 refusedHistory).offered.length ≤ 100 := by
  rw [refusedHistory_offered]
  decide

theorem refusedHistory_refused :
    HasReceipt 1 (drainHistory plainKernel 1 refusedHistory).tables.receipts
      (monthlyCharge 7 1).version .refused := by decide +kernel

theorem refusedHistory_accepted :
    Accepted 1 (linkedTo (some 9) recordingBilling)
      (drainHistory plainKernel 1 refusedHistory).obligations
      (drainHistory plainKernel 1 refusedHistory).offered
      [commandOf (monthlyCharge 7 1) ⟨1⟩ 9 noTax
        ⟨⟨false, 1000000, -2⟩, ⟨"NGN", 2⟩⟩ ⟨⟨false, 1000000, -2⟩, ⟨"NGN", 2⟩⟩
        ⟨.verified, .aware 0, .aware 2592000⟩] := by
  have held : (drainHistory plainKernel 1 refusedHistory).obligations = [] := by
    decide +kernel
  rw [held, refusedHistory_offered]
  exact .cons rfl rfl rfl rfl .nil

theorem repair_exact_linked :
    (drainHistory plainKernel 1 refusedHistory).drain plainKernel 1
      (linkedTo (some 9) recordingBilling) 100 = .error .idempotencyConflict :=
  (repair_exact plainKernel 1 refusedHistory
    (linkedTo (some 9) recordingBilling) 100 _ refusedHistory_covered
    refusedHistory_accepted).2 ⟨_, refusedHistory_pending, refusedHistory_refused⟩ (by
      rw [refusedHistory_offered]
      intro output member
      obtain rfl := List.mem_singleton.mp member
      exact monthlyCharge_storable 7 1 (by decide) (by decide)) ⟨86400, rfl⟩

/-- The refused output is still offered, its account is now linked and Billing would
    accept it; the drain raises instead of repairing it. -/
theorem repair_raises :
    monthlyCharge 7 1 ∈ (drainHistory plainKernel 1 refusedHistory).offered ∧
      HasReceipt 1 (drainHistory plainKernel 1 refusedHistory).tables.receipts
        (monthlyCharge 7 1).version .refused ∧
      (drainHistory plainKernel 1 refusedHistory).offered.length ≤ 100 ∧
      (∃ held', Accepted 1 (linkedTo (some 9) recordingBilling)
        (drainHistory plainKernel 1 refusedHistory).obligations
        (drainHistory plainKernel 1 refusedHistory).offered held') ∧
      (drainHistory plainKernel 1 refusedHistory).drain plainKernel 1
        (linkedTo (some 9) recordingBilling) 100 = .error .idempotencyConflict :=
  ⟨refusedHistory_pending, refusedHistory_refused, refusedHistory_covered,
    ⟨_, refusedHistory_accepted⟩, rfl⟩

end DotmacCloud
