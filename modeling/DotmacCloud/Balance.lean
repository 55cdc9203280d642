import DotmacCloud.Foundation.Rounding
import DotmacCloud.HandOff

/-! # What a command charges

The amounts of a command in numbers. The rated amount and the tax are carried as they
are, and the total is their sum, rounded once under the default decimal context. Of
the tax evidence the adapter asks that it is there, or that its absence has a reason;
the snapshots' own amounts and currencies it does not read.
-/

namespace DotmacCloud

open Foundation Decimal

/-- How the tax of a command is backed: by snapshots, or by a zero that was explained. -/
def TaxOutcome.Backed (tax : TaxOutcome) : Prop :=
  tax.snapshots ≠ [] ∨
    (tax.snapshots = [] ∧ tax.amount.amount.toRat = 0 ∧
      ∃ reason, tax.notAssessedReason = some reason ∧ ¬ blank reason)

theorem isZero_iff (d : Decimal) : d.isZero ↔ d.toRat = 0 := by
  rw [← abs_eq_zero, abs_toRat, mul_eq_zero, or_iff_left (ten_zpow_pos _).ne']
  simp [isZero]

/-- Every tax outcome that can be built is backed. -/
theorem TaxOutcome.backed (tax : TaxOutcome) : tax.Backed := by
  by_cases evidence : tax.snapshots = []
  · have zero : tax.amount.amount.isZero := by
      by_contra nonzero
      exact tax.evidenced nonzero evidence
    have stated := tax.explained zero evidence
    refine .inr ⟨evidence, (isZero_iff _).mp zero, ?_⟩
    cases reason : tax.notAssessedReason with
    | none =>
        rw [reason] at stated
        exact absurd (by decide) stated
    | some text =>
        rw [reason] at stated
        exact ⟨text, rfl, stated⟩
  · exact .inl evidence

/-- A returning translation carries the rated amount and the tax, totals them in their
    one currency by one rounding of the exact sum, and hands on backed evidence. -/
theorem command_balances {contracts : Contracts} {output : RatedObligationOutputV1}
    {scope : TenantScope} {account : UUID} {tax : TaxOutcome} {command : AcceptRatedObligationV1}
    (returned : toCommand contracts output scope account tax = .ok command) :
    command.preTaxAmount = ⟨output.preTaxAmount.amount,
      ⟨output.preTaxAmount.currency, output.preTaxAmount.scale⟩⟩ ∧
    command.taxAmount = tax.amount ∧ command.taxSnapshots = tax.snapshots ∧
    command.taxAmount.currency = command.preTaxAmount.currency ∧
    command.totalAmount.currency = command.preTaxAmount.currency ∧
    Rounded defaultContext (command.preTaxAmount.amount.toRat + command.taxAmount.amount.toRat)
      command.totalAmount.amount ∧
    (Representable defaultContext
        (command.preTaxAmount.amount.toRat + command.taxAmount.amount.toRat) →
      command.totalAmount.amount.toRat =
        command.preTaxAmount.amount.toRat + command.taxAmount.amount.toRat) ∧
    tax.Backed := by
  obtain ⟨total, summed, currency, rfl⟩ := toCommand_eq_ok returned
  have rounded := add_rounded (by decide) summed
  refine ⟨?_, rfl, rfl, rfl, rfl, rounded, rounded.eq_of_representable, tax.backed⟩
  simp only [commandOf, currency]

/-- One naira of tax whose only snapshot is in another currency. -/
def foreignTax : TaxOutcome where
  amount := ⟨⟨false, 1, 0⟩, ⟨"NGN", 2⟩⟩
  snapshots := [{
    treatmentCode := "standard"
    jurisdictionCode := "NG"
    policyId := "vat"
    policyVersion := "1"
    rate := ⟨false, 75, -3⟩
    taxableBasis := ⟨⟨false, 1000000, -2⟩, ⟨"NGN", 2⟩⟩
    taxAmount := ⟨⟨false, 2, 0⟩, ⟨"USD", 2⟩⟩ }]
  notAssessedReason := none
  evidenced := by decide
  assessed := by decide
  explained := by decide

/-- A charge of twenty-nine digits. -/
def vastCharge : RatedObligationOutputV1 :=
  { monthlyCharge 7 1 with preTaxAmount := ⟨⟨false, 10 ^ 28, 0⟩, "NGN", 2⟩ }

/-- A command whose snapshot is in another currency than its tax, and one whose total
    lost a naira to rounding. -/
theorem command_unbacked_and_rounded :
    (∃ command, toCommand recordingBilling.toContracts (monthlyCharge 7 1) ⟨1⟩ 9 foreignTax =
        .ok command ∧
      ∃ snapshot ∈ command.taxSnapshots,
        snapshot.taxAmount.currency ≠ command.taxAmount.currency) ∧
    ∃ command, toCommand recordingBilling.toContracts vastCharge ⟨1⟩ 9 foreignTax = .ok command ∧
      command.totalAmount.amount.toRat ≠
        command.preTaxAmount.amount.toRat + command.taxAmount.amount.toRat := by
  refine ⟨⟨_, rfl, _, List.mem_singleton_self _, by decide⟩, ⟨_, rfl, ?_⟩⟩
  change toRat ⟨false, 10 ^ 27, 1⟩ ≠ toRat ⟨false, 10 ^ 28, 0⟩ + toRat ⟨false, 1, 0⟩
  norm_num [toRat, signed]

/-- Value added tax of 7.5 percent, with its snapshot. -/
def valueAddedTax : TaxOutcome where
  amount := ⟨⟨false, 75000, -2⟩, ⟨"NGN", 2⟩⟩
  snapshots := [{
    treatmentCode := "standard"
    jurisdictionCode := "NG"
    policyId := "vat"
    policyVersion := "1"
    rate := ⟨false, 75, -3⟩
    taxableBasis := ⟨⟨false, 1000000, -2⟩, ⟨"NGN", 2⟩⟩
    taxAmount := ⟨⟨false, 75000, -2⟩, ⟨"NGN", 2⟩⟩ }]
  notAssessedReason := none
  evidenced := by decide
  assessed := by decide
  explained := by decide

/-- A taxed monthly charge totals exactly, and hands its snapshot on. -/
theorem monthlyCharge_balances :
    ∃ command, toCommand recordingBilling.toContracts (monthlyCharge 7 1) ⟨1⟩ 9 valueAddedTax =
        .ok command ∧
      command.taxAmount.amount.toRat = 750 ∧ command.taxSnapshots = valueAddedTax.snapshots ∧
      command.totalAmount.currency = command.preTaxAmount.currency ∧
      command.totalAmount.amount.toRat =
        command.preTaxAmount.amount.toRat + command.taxAmount.amount.toRat := by
  refine ⟨_, rfl, ?_⟩
  have balanced := @command_balances recordingBilling.toContracts (monthlyCharge 7 1) ⟨1⟩ 9 valueAddedTax _ rfl
  obtain ⟨-, -, snapshots, -, currency, -, exact, -⟩ := balanced
  refine ⟨?_, snapshots, currency, ?_⟩
  · change toRat ⟨false, 75000, -2⟩ = 750
    norm_num [toRat, signed]
  · apply exact
    refine ⟨1075000, -2, by decide, by decide, ?_⟩
    change toRat ⟨false, 1000000, -2⟩ + toRat ⟨false, 75000, -2⟩ = _
    norm_num [toRat, signed]

end DotmacCloud
