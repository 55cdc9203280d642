import DotmacCloud.DrainHistory

/-! # Handled means reconciled

Once a committed drain returned an outcome for an output, some receipt of its exact
version and content stands in the table for good. Later generations only make the
newest receipt newer, so the published fact stays settled.
-/

namespace DotmacCloud

open Foundation AtMostOnce AdapterReceiptRow

section Handled

variable {Digest : Type} [DecidableEq Digest] {kernel : Kernel Digest} {t : UUID}

/-- Every output a drain answered for has its receipt when the drain returns. -/
theorem applyOutputs_recorded {scope : TenantScope} {terms : Terms}
    {outputs : List RatedObligationOutputV1} {db db' : TenantState Digest}
    {outcomes : List ReceiptOutcome} (sound : db.Sound kernel t)
    (recorded : ∀ output ∈ outputs, output ∈ db.outputs)
    (returned : applyOutputs kernel scope (.scoped t) terms outputs db = .ok (outcomes, db'))
    {output : RatedObligationOutputV1} {outcome : ReceiptOutcome}
    (answered : (output, outcome) ∈ outputs.zip outcomes) :
    ∃ fact, factOf output = .ok fact ∧ ∃ row ∈ db'.tables.receipts, RowFor t output outcome row := by
  induction outputs generalizing db outcomes with
  | nil => cases answered
  | cons first rest ih =>
      obtain ⟨outcome', next, others, step, ran, rfl⟩ := applyOutputs_cons_eq_ok.mp returned
      have inside := recorded first List.mem_cons_self
      rcases List.mem_cons.mp answered with here | there
      · cases here
        obtain ⟨fact, made, row, member, row_for⟩ := step.recorded sound.guarded
        exact ⟨fact, made, row, (applyOutputs_extends ran).receipts.mem member, row_for⟩
      · refine ih (sound.handedOff inside step) ?_ ran there
        intro other member
        rw [step.outputs_eq]
        exact recorded other (List.mem_cons_of_mem _ member)

omit [DecidableEq Digest] in
/-- A receipt of the exact version and content settles the fact, however many
    generations followed it. -/
theorem settled_of_recorded {db : TenantState Digest} (sound : db.Sound kernel t)
    {output : RatedObligationOutputV1} {outcome : ReceiptOutcome} {row : AdapterReceiptRow}
    (member : row ∈ db.tables.receipts) (row_for : RowFor t output outcome row) {fact : SourceFact}
    (made : factOf output = .ok fact) (orderBy : OrderBy) {published : List SourceFact}
    (listed : fact ∈ published) :
    ∃ received, (SqlAlchemyReceiptLedger.scoped t).receiptsFor orderBy db.tables.receipts adapterName
        (published.map (·.key)) = .ok received ∧
      CountsSettled (reconcile published received) fact := by
  obtain ⟨owner, ref, version, print⟩ := factOf_eq_ok made
  obtain ⟨receipt, built⟩ := sound.written row member
  have tenant : row.tenantId = t := congrArg ExactFact.tenantId row_for.exact
  rw [tenant] at built
  subst built
  have exact := row_for.exact
  simp only [AdapterReceiptRow.exactFact, fromReceipt, FactVersion.exactFact, ExactFact.mk.injEq,
    true_and] at exact
  obtain ⟨adapter, rowOwner, rowRef, rowVersion⟩ := exact
  have key : receipt.fact.key = fact.key :=
    FactKey.ext (rowOwner.trans owner.symm) (rowRef.trans ref.symm)
  have sameVersion : receipt.fact.sourceVersion = fact.sourceVersion := rowVersion.trans version.symm
  have samePrint : receipt.fact.fingerprint = fact.fingerprint := row_for.print.trans print.symm
  obtain ⟨received, read, content, -⟩ := receiptsFor_spec sound.written t orderBy adapterName_text
    (published.map (·.key))
  refine ⟨received, read, countsSettled_of_verdict listed ?_⟩
  have inside : receipt ∈ received := by
    rw [content, key]
    exact ⟨member, adapter, List.mem_map_of_mem listed⟩
  obtain ⟨newest, found⟩ := Newest.newest_isSome (fun known : AdapterReceipt => known.fact.key)
    (fun known => known.fact.sourceVersion) inside
  obtain ⟨held, heldKey, greatest⟩ := Newest.newest_spec found
  have latest : latestByKey received fact.key = some newest := by
    rw [← key]
    exact found
  rw [latest, factVerdict_settled_iff]
  have atLeast := greatest receipt inside rfl
  rcases lt_or_eq_of_le atLeast with newer | same
  · exact .inl (sameVersion ▸ newer)
  · -- An equally new receipt is the very one this hand-off left: versions are unique.
    have only : receipt = newest :=
      held_distinct sound.guarded (fun known inside => by
        have listed := (content known).mp inside
        exact ⟨listed.1, listed.2.1⟩) receipt inside newest held heldKey.symm same
    rw [← only]
    exact .inr ⟨sameVersion, samePrint⟩

/-- Whatever a committed drain handled is settled in every reconciliation after it. -/
theorem handled_settled (kernel : Kernel Digest) (t : UUID) (before after : List DrainEvent)
    (terms : Terms) (limit : Nat) (outcomes : List ReceiptOutcome) (db' : TenantState Digest)
    (returned : (drainHistory kernel t before).drain kernel t terms limit = .ok (outcomes, db'))
    (output : RatedObligationOutputV1) (outcome : ReceiptOutcome)
    (answered : (output, outcome) ∈
      ((drainHistory kernel t before).unacknowledgedOutputs limit).zip outcomes)
    (orderBy : OrderBy) :
    ∃ fact, factOf output = .ok fact ∧
      ∀ published : List SourceFact, fact ∈ published →
        ∃ received, (SqlAlchemyReceiptLedger.scoped t).receiptsFor orderBy
            (drainHistory kernel t (before ++ .drain terms limit true :: after)).tables.receipts
            adapterName (published.map (·.key)) = .ok received ∧
          CountsSettled (reconcile published received) fact := by
  have sound := drainHistory_sound kernel t before
  obtain ⟨fact, made, row, member, row_for⟩ :=
    applyOutputs_recorded sound unacknowledged_recorded returned answered
  refine ⟨fact, made, ?_⟩
  intro published listed
  have later := drainHistory_sound kernel t (before ++ .drain terms limit true :: after)
  have kept : row ∈ (drainHistory kernel t (before ++ .drain terms limit true :: after)).tables.receipts := by
    rw [drainHistory_append, List.foldl_cons]
    simp only [TenantState.next, returned, if_true]
    exact (foldl_next_extends after db').receipts.mem member
  exact settled_of_recorded later kept row_for made orderBy listed

end Handled

theorem handled_settled_refusal :
    ∃ fact, factOf (monthlyCharge 7 1) = .ok fact ∧
      ∀ published : List SourceFact, fact ∈ published →
        ∃ received, (SqlAlchemyReceiptLedger.scoped 1).receiptsFor
            ⟨id, fun _ => List.Perm.refl _⟩
            (drainHistory plainKernel 1 [.emit (monthlyCharge 7 1),
              .drain (linkedTo none recordingBilling) 100 true]).tables.receipts
            adapterName (published.map (·.key)) = .ok received ∧
          CountsSettled (reconcile published received) fact := by
  have answers : ((drainHistory plainKernel 1 [.emit (monthlyCharge 7 1)]).drain
      plainKernel 1 (linkedTo none recordingBilling) 100).toOption.map Prod.fst =
        some [.refused] := by decide +kernel
  have page : (drainHistory plainKernel 1
      [.emit (monthlyCharge 7 1)]).unacknowledgedOutputs 100 =
        [monthlyCharge 7 1] := by decide +kernel
  cases ran : (drainHistory plainKernel 1 [.emit (monthlyCharge 7 1)]).drain
      plainKernel 1 (linkedTo none recordingBilling) 100 with
  | error e =>
      rw [ran] at answers
      cases answers
  | ok result =>
      rw [ran] at answers
      have outcomes : result.1 = [.refused] := Option.some.inj answers
      refine handled_settled plainKernel 1 [.emit (monthlyCharge 7 1)] []
        (linkedTo none recordingBilling) 100 result.1 result.2 ran (monthlyCharge 7 1)
        .refused ?_ ⟨id, fun _ => List.Perm.refl _⟩
      rw [page, outcomes]
      exact List.mem_singleton_self _

end DotmacCloud
