import DotmacCloud.Foundation.Decimal
import DotmacCloud.Identifiers
import DotmacCloud.Receipts

/-! # A rated obligation as a Billing command

The vocabularies of the two owners and the only translation between them. What a
constructor of an owner refuses is the owner's decision, so the checks are
parameters; what the adapter carries, adds or refuses itself is written out.
-/

namespace DotmacCloud

open Foundation

/-! ## Money -/

structure Currency where
  code : String
  minorUnits : Int
  deriving DecidableEq, Repr

structure Money where
  amount : Decimal
  currency : Currency
  deriving DecidableEq, Repr

/-- An amount as Subscriptions publishes it. -/
structure ExactAmount where
  amount : Decimal
  currency : String
  scale : Int
  deriving DecidableEq, Repr

/-! ## The two contracts -/

/-- The fields of one rated obligation that the adapter reads. -/
structure RatedObligationOutputV1 where
  contractType : String
  occurrenceId : UUID
  emittedAt : Datetime
  generation : Int
  subscriptionContractId : UUID
  contractVersionId : UUID
  contractLineKey : UUID
  chargeModelCode : String
  sourceCode : String
  sourceId : UUID
  preTaxAmount : ExactAmount
  /-- The value of the `CollectionTiming` member. -/
  collectionTiming : String
  coverageStart : Datetime
  coverageEnd : Datetime
  offerVersionRef : String
  requestFingerprint : String
  deriving DecidableEq

structure AppliedTaxSnapshotV1 where
  treatmentCode : String
  jurisdictionCode : String
  policyId : String
  policyVersion : String
  rate : Decimal
  taxableBasis : Money
  taxAmount : Money
  deriving DecidableEq

inductive ServicePeriodStatus where
  | verified | unknownUnverified
  deriving DecidableEq, Repr

structure ServicePeriodEvidenceV1 where
  status : ServicePeriodStatus
  startsAt : Datetime
  endsAt : Datetime
  deriving DecidableEq, Repr

structure AcceptRatedObligationV1 where
  scope : TenantScope
  billingAccountId : UUID
  contractLineRef : String
  contractVersion : String
  chargeComponent : String
  sourceSystem : String
  sourceKind : String
  sourceFactId : String
  sourceFactVersion : String
  subjectRef : String
  serviceRef : String
  servicePeriod : ServicePeriodEvidenceV1
  collectionTiming : String
  preTaxAmount : Money
  taxAmount : Money
  totalAmount : Money
  ratedAt : Datetime
  priceVersionId : String
  taxSnapshots : List AppliedTaxSnapshotV1
  deriving DecidableEq

/-- What the constructors of the owners' types refuse. -/
structure Contracts where
  currency : Currency → Except Raised Unit
  money : Money → Except Raised Unit
  servicePeriod : ServicePeriodEvidenceV1 → Except Raised Unit
  command : AcceptRatedObligationV1 → Except Raised Unit

/-- Run a constructor's check and keep the value. -/
def construct {α : Type} (check : α → Except Raised Unit) (value : α) : Except Raised α := do
  check value
  return value

/-! ## The tax decision -/

/-- The tax decision the caller asserts; the three incoherent shapes cannot be
    built. -/
structure TaxOutcome where
  amount : Money
  snapshots : List AppliedTaxSnapshotV1
  notAssessedReason : Option String
  evidenced : ¬ amount.amount.isZero → snapshots ≠ []
  assessed : ¬ amount.amount.isZero → notAssessedReason = none
  explained : amount.amount.isZero → snapshots = [] → ¬ blank (notAssessedReason.getD "")
  deriving DecidableEq

/-- `TaxOutcome(..)` with the checks of its `__post_init__`, in their order. -/
def TaxOutcome.make (amount : Money) (snapshots : List AppliedTaxSnapshotV1)
    (notAssessedReason : Option String) : Except Raised TaxOutcome :=
  if evidence : ¬ amount.amount.isZero ∧ snapshots = [] then
    .error (.valueError "a non-zero tax amount requires applied tax snapshots")
  else if reason : ¬ amount.amount.isZero ∧ notAssessedReason ≠ none then
    .error (.valueError "not_assessed_reason contradicts a non-zero tax amount")
  else if silence : amount.amount.isZero ∧ snapshots = [] ∧ blank (notAssessedReason.getD "") then
    .error (.valueError ("zero tax must state why it was not assessed; Cloud composes no " ++
      "tax owner and an unexplained zero is not a decision"))
  else .ok {
    amount, snapshots, notAssessedReason
    evidenced := fun nonZero none => evidence ⟨nonZero, none⟩
    assessed := fun nonZero => Classical.byContradiction (fun stated => reason ⟨nonZero, stated⟩)
    explained := fun zero none silent => silence ⟨zero, none, silent⟩ }

/-! ## The adapter -/

def adapterName : String := "subscriptions-rated-obligation-to-billing"

def sourceOwner : String := "subscriptions"

def acceptedSourceKinds : List String := ["subscriptions.rated_obligation"]

section Translate

variable (contracts : Contracts)

/-- `_service_period`: the coverage window, not the billing window. -/
def servicePeriod (output : RatedObligationOutputV1) : Except Raised ServicePeriodEvidenceV1 :=
  construct contracts.servicePeriod ⟨.verified, output.coverageStart, output.coverageEnd⟩

/-- `_money` -/
def money (amount : Decimal) (currency : String) (scale : Int) : Except Raised Money := do
  let currency ← construct contracts.currency ⟨currency, scale⟩
  construct contracts.money ⟨amount, currency⟩

/-- The command of an output whose amounts and period are built. -/
def commandOf (output : RatedObligationOutputV1) (scope : TenantScope) (billingAccountId : UUID)
    (tax : TaxOutcome) (preTax total : Money) (period : ServicePeriodEvidenceV1) :
    AcceptRatedObligationV1 where
  scope := scope
  billingAccountId := billingAccountId
  -- The contract line is the billable thing: two lines are two obligations.
  contractLineRef := output.contractLineKey.str
  contractVersion := output.contractVersionId.str
  chargeComponent := output.chargeModelCode
  sourceSystem := sourceOwner
  sourceKind := output.contractType
  sourceFactId := output.occurrenceId.str
  sourceFactVersion := toString output.generation
  subjectRef := output.subscriptionContractId.str
  serviceRef := s!"{output.sourceCode}:{output.sourceId.str}"
  servicePeriod := period
  collectionTiming := output.collectionTiming
  preTaxAmount := preTax
  taxAmount := tax.amount
  totalAmount := total
  ratedAt := output.emittedAt
  priceVersionId := output.offerVersionRef
  taxSnapshots := tax.snapshots

def toCommand (output : RatedObligationOutputV1) (scope : TenantScope) (billingAccountId : UUID)
    (tax : TaxOutcome) : Except Raised AcceptRatedObligationV1 := do
  let preTax ← money contracts output.preTaxAmount.amount output.preTaxAmount.currency
    output.preTaxAmount.scale
  if tax.amount.currency ≠ preTax.currency then
    throw (.unmappableObligation "the supplied tax is in a different currency from the rated amount")
  else
    match Decimal.add Decimal.defaultContext preTax.amount tax.amount.amount with
    | none => throw .decimalOverflow
    | some amount => do
        let total ← construct contracts.money ⟨amount, preTax.currency⟩
        let period ← servicePeriod contracts output
        construct contracts.command (commandOf output scope billingAccountId tax preTax total period)

end Translate

/-- `_fact`: the receipt identity of one exact version of one output. The
    fingerprint is the publisher's own. -/
def factOf (output : RatedObligationOutputV1) : Except Raised SourceFact := do
  let key ← FactKey.make sourceOwner output.occurrenceId.str
  SourceFact.make key output.generation output.requestFingerprint

/-! ## What a translation carries -/

theorem construct_eq_ok {α : Type} {check : α → Except Raised Unit} {value built : α} :
    construct check value = .ok built ↔ check value = .ok () ∧ built = value := by
  simp only [construct, bind_eq_ok, pure, Except.pure, Except.ok.injEq]
  constructor
  · rintro ⟨_, passed, same⟩
    exact ⟨passed, same.symm⟩
  · rintro ⟨passed, same⟩
    exact ⟨(), passed, same.symm⟩

/-- Everything a returning translation carries: the fields of the output, the
    caller's tax, and the rounded sum in the rated currency. -/
theorem toCommand_eq_ok {contracts : Contracts} {output : RatedObligationOutputV1}
    {scope : TenantScope} {account : UUID} {tax : TaxOutcome} {command : AcceptRatedObligationV1}
    (returned : toCommand contracts output scope account tax = .ok command) :
    ∃ amount, Decimal.add Decimal.defaultContext output.preTaxAmount.amount tax.amount.amount =
        some amount ∧
      tax.amount.currency = ⟨output.preTaxAmount.currency, output.preTaxAmount.scale⟩ ∧
      command = commandOf output scope account tax
        ⟨output.preTaxAmount.amount, tax.amount.currency⟩ ⟨amount, tax.amount.currency⟩
        ⟨.verified, output.coverageStart, output.coverageEnd⟩ := by
  simp only [toCommand, money, bind_eq_ok, construct_eq_ok] at returned
  obtain ⟨preTax, ⟨currency, ⟨-, rfl⟩, -, rfl⟩, rest⟩ := returned
  split_ifs at rest with differs
  have same := not_not.mp differs
  rw [same]
  cases summed : Decimal.add Decimal.defaultContext output.preTaxAmount.amount tax.amount.amount with
  | none =>
      simp only [summed] at rest
      cases rest
  | some amount =>
      simp only [summed, bind_eq_ok, construct_eq_ok, servicePeriod] at rest
      obtain ⟨total, ⟨-, rfl⟩, period, ⟨-, rfl⟩, -, rfl⟩ := rest
      exact ⟨amount, rfl, rfl, rfl⟩

/-- The version of an output, as its receipt and as its command name it. -/
theorem factOf_eq_ok {output : RatedObligationOutputV1} {fact : SourceFact}
    (made : factOf output = .ok fact) :
    fact.key.sourceOwner = sourceOwner ∧ fact.key.sourceRef = output.occurrenceId.str ∧
      fact.sourceVersion = output.generation ∧ fact.fingerprint = output.requestFingerprint := by
  simp only [factOf, bind_eq_ok] at made
  obtain ⟨key, named, built⟩ := made
  obtain ⟨owner, ref⟩ := FactKey.of_make named
  obtain ⟨rfl, version, print⟩ := SourceFact.of_make built
  exact ⟨owner, ref, version, print⟩

end DotmacCloud
