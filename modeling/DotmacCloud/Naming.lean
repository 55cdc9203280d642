import DotmacCloud.HandOffEffects

/-! # One identity in three encodings

The receipt names a version of an output by its occurrence and its generation as a
number, the ledger key digests those two, and Billing's command renders the
generation as text. All three tell apart exactly the same versions. The service
reference joins a free text to a UUID, whose fixed width is what splits it again.
-/

namespace DotmacCloud

open Foundation Rendering

/-- What Billing identifies an accepted obligation by. -/
def AcceptRatedObligationV1.identity (command : AcceptRatedObligationV1) : String × String × String :=
  (command.sourceSystem, command.sourceFactId, command.sourceFactVersion)

section Encodings

variable {output output' : RatedObligationOutputV1}

theorem version_eq_iff :
    output.version = output'.version ↔
      output.occurrenceId = output'.occurrenceId ∧ output.generation = output'.generation := by
  simp only [RatedObligationOutputV1.version, FactVersion.mk.injEq]

/-- A returning translation names the version of its output. -/
theorem toCommand_identity {contracts : Contracts} {scope : TenantScope} {account : UUID}
    {tax : TaxOutcome} {command : AcceptRatedObligationV1}
    (returned : toCommand contracts output scope account tax = .ok command) :
    command.identity = (sourceOwner, output.version.sourceFact) := by
  obtain ⟨amount, -, -, rfl⟩ := toCommand_eq_ok returned
  rfl

theorem toCommand_serviceRef {contracts : Contracts} {scope : TenantScope} {account : UUID}
    {tax : TaxOutcome} {command : AcceptRatedObligationV1}
    (returned : toCommand contracts output scope account tax = .ok command) :
    command.serviceRef = output.sourceCode ++ ":" ++ output.sourceId.str := by
  obtain ⟨amount, -, -, rfl⟩ := toCommand_eq_ok returned
  rfl

theorem receipt_identity_iff {fact fact' : SourceFact} (made : factOf output = .ok fact)
    (made' : factOf output' = .ok fact') :
    (fact.key, fact.sourceVersion) = (fact'.key, fact'.sourceVersion) ↔
      output.version = output'.version := by
  obtain ⟨owner, ref, version, -⟩ := factOf_eq_ok made
  obtain ⟨owner', ref', version', -⟩ := factOf_eq_ok made'
  rw [version_eq_iff, Prod.mk.injEq, version, version']
  apply and_congr_left
  intro _
  constructor
  · intro sameKey
    apply UUID.str_injective
    rw [← ref, ← ref', sameKey]
  · intro sameOccurrence
    exact FactKey.ext (owner.trans owner'.symm) (by rw [ref, ref', sameOccurrence])

theorem ledger_key_iff {Digest : Type} (kernel : Kernel Digest) {fact fact' : SourceFact}
    {outcome outcome' : ReceiptOutcome} {observedAt observedAt' : Int} :
    identityKey kernel (receiptOf fact outcome observedAt) =
        identityKey kernel (receiptOf fact' outcome' observedAt') ↔
      (fact.key, fact.sourceVersion) = (fact'.key, fact'.sourceVersion) := by
  simp only [identityKey, receiptOf, kernel.injective.eq_iff, List.cons.injEq, Prod.mk.injEq,
    PayloadValue.text.injEq, PayloadValue.int.injEq, true_and, and_true]
  constructor
  · rintro ⟨owner, ref, version⟩
    exact ⟨FactKey.ext owner ref, version⟩
  · rintro ⟨key, version⟩
    exact ⟨by rw [key], by rw [key], version⟩

theorem command_identity_iff {contracts : Contracts} {scope scope' : TenantScope}
    {account account' : UUID} {tax tax' : TaxOutcome} {command command' : AcceptRatedObligationV1}
    (returned : toCommand contracts output scope account tax = .ok command)
    (returned' : toCommand contracts output' scope' account' tax' = .ok command') :
    command.identity = command'.identity ↔ output.version = output'.version := by
  rw [toCommand_identity returned, toCommand_identity returned', Prod.mk.injEq]
  constructor
  · rintro ⟨-, same⟩
    exact FactVersion.sourceFact_injective same
  · intro same
    exact ⟨rfl, by rw [same]⟩

theorem service_of_serviceRef {contracts : Contracts} {scope scope' : TenantScope}
    {account account' : UUID} {tax tax' : TaxOutcome} {command command' : AcceptRatedObligationV1}
    (returned : toCommand contracts output scope account tax = .ok command)
    (returned' : toCommand contracts output' scope' account' tax' = .ok command')
    (same : command.serviceRef = command'.serviceRef) :
    output.sourceCode = output'.sourceCode ∧ output.sourceId = output'.sourceId := by
  rw [toCommand_serviceRef returned, toCommand_serviceRef returned'] at same
  obtain ⟨codes, ids⟩ := append_injective_of_width
    (output.sourceId.str_length.trans output'.sourceId.str_length.symm) same
  exact ⟨(append_injective_of_width rfl codes).1, UUID.str_injective ids⟩

end Encodings

/-- Receipt, ledger key and Billing command name one output apart from another
    exactly when occurrence or generation differ, and a service reference names one
    service. -/
theorem identities_agree {Digest : Type} (kernel : Kernel Digest) {contracts : Contracts}
    {output output' : RatedObligationOutputV1} {scope scope' : TenantScope} {account account' : UUID}
    {tax tax' : TaxOutcome} {command command' : AcceptRatedObligationV1}
    (returned : toCommand contracts output scope account tax = .ok command)
    (returned' : toCommand contracts output' scope' account' tax' = .ok command') :
    (command.identity = command'.identity ↔
      output.occurrenceId = output'.occurrenceId ∧ output.generation = output'.generation) ∧
    (∀ fact fact', factOf output = .ok fact → factOf output' = .ok fact' →
      ((fact.key, fact.sourceVersion) = (fact'.key, fact'.sourceVersion) ↔
        output.occurrenceId = output'.occurrenceId ∧ output.generation = output'.generation) ∧
      ∀ outcome outcome' observedAt observedAt',
        (identityKey kernel (receiptOf fact outcome observedAt) =
            identityKey kernel (receiptOf fact' outcome' observedAt') ↔
          output.occurrenceId = output'.occurrenceId ∧ output.generation = output'.generation)) ∧
    (command.serviceRef = command'.serviceRef →
      output.sourceCode = output'.sourceCode ∧ output.sourceId = output'.sourceId) := by
  refine ⟨?_, ?_, service_of_serviceRef returned returned'⟩
  · rw [command_identity_iff returned returned', version_eq_iff]
  · intro fact fact' made made'
    have receipts := (receipt_identity_iff made made').trans version_eq_iff
    refine ⟨receipts, ?_⟩
    intro outcome outcome' observedAt observedAt'
    rw [ledger_key_iff, receipts]

/-- A re-rated charge is another fact, of the same service. -/
theorem rerated_charge_named_anew :
    ∃ command command',
      toCommand recordingBilling.toContracts (monthlyCharge 7 1) ⟨1⟩ 9 noTax = .ok command ∧
      toCommand recordingBilling.toContracts (monthlyCharge 7 2) ⟨1⟩ 9 noTax = .ok command' ∧
      command.identity ≠ command'.identity ∧ command.serviceRef = command'.serviceRef := by
  refine ⟨_, _, rfl, rfl, ?_, rfl⟩
  intro same
  have agree := @identities_agree Payload plainKernel recordingBilling.toContracts
    (monthlyCharge 7 1) (monthlyCharge 7 2) ⟨1⟩ ⟨1⟩ 9 9 noTax noTax _ _ rfl rfl
  exact absurd (agree.1.mp same).2 (by decide)

end DotmacCloud
