import DotmacCloud.ReceiptStore
import DotmacCloud.Translation

/-! # The hand-off of one output, and the drain

The state is one tenant's: what Subscriptions recorded and has seen acknowledged,
what Billing holds, and the two tables of the receipt ledger. Billing itself is a
parameter. Every table only grows, so a transaction's own writes are a suffix.
-/

namespace DotmacCloud

open Foundation AdapterReceiptRow

/-! ## What Subscriptions and Billing hold -/

/-- An exact version of one occurrence: re-rating advances the generation. -/
structure FactVersion where
  occurrenceId : UUID
  generation : Int
  deriving DecidableEq

def RatedObligationOutputV1.version (output : RatedObligationOutputV1) : FactVersion :=
  ⟨output.occurrenceId, output.generation⟩

structure Acknowledgement where
  version : FactVersion
  acknowledgedAt : Datetime
  deriving DecidableEq

structure TenantState (Digest : Type) where
  outputs : List RatedObligationOutputV1
  acknowledgements : List Acknowledgement
  obligations : List AcceptRatedObligationV1
  tables : Tables Digest
  deriving DecidableEq

namespace TenantState

variable {Digest : Type}

def empty : TenantState Digest := ⟨[], [], [], Tables.empty⟩

def acknowledged (db : TenantState Digest) (version : FactVersion) : Prop :=
  ∃ entry ∈ db.acknowledgements, entry.version = version

instance (db : TenantState Digest) (version : FactVersion) : Decidable (db.acknowledged version) := by
  unfold acknowledged
  infer_instance

/-- The outputs still offered, in the order they were emitted. -/
def offered (db : TenantState Digest) : List RatedObligationOutputV1 :=
  db.outputs.filter (fun output => ¬ db.acknowledged output.version)

/-- `dotmac_subscriptions.service.unacknowledged_outputs` -/
def unacknowledgedOutputs (db : TenantState Digest) (limit : Nat) : List RatedObligationOutputV1 :=
  db.offered.take limit

/-- What an acknowledgement of the occurrence adds. No generation is passed, so every
    output recorded under it is acknowledged. -/
def newlyAcknowledged (db : TenantState Digest) (occurrenceId : UUID) (acknowledgedAt : Datetime) :
    List Acknowledgement :=
  (db.offered.filter (fun output => output.occurrenceId = occurrenceId)).map
    (fun output => ⟨output.version, acknowledgedAt⟩)

/-- `dotmac_subscriptions.service.acknowledge_output` -/
def acknowledgeOutput (db : TenantState Digest) (occurrenceId : UUID) (acknowledgedAt : Datetime) :
    List Acknowledgement :=
  db.acknowledgements ++ db.newlyAcknowledged occurrenceId acknowledgedAt

end TenantState

/-- What Billing identifies an obligation by, within one tenant. -/
def AcceptRatedObligationV1.sourceFact (command : AcceptRatedObligationV1) : String × String :=
  (command.sourceFactId, command.sourceFactVersion)

/-- `dotmac_billing`: its constructors, and `accept_rated_obligation` with what the
    adapter relies on. Nothing is written when it raises. -/
structure Billing extends Contracts where
  accept : TenantScope → List String → List AcceptRatedObligationV1 → AcceptRatedObligationV1 →
    Except Raised (List AcceptRatedObligationV1)
  /-- An accepted obligation is recorded, unless its source fact is already there. -/
  records : ∀ {scope kinds held command held'}, accept scope kinds held command = .ok held' →
    held' = held ++ [command] ∨
      held' = held ∧ ∃ obligation ∈ held, obligation.sourceFact = command.sourceFact

/-- What a caller brings to a hand-off besides the session. -/
structure Terms where
  billing : Billing
  taxFor : RatedObligationOutputV1 → Except Raised TaxOutcome
  resolveBillingAccount : TenantScope → RatedObligationOutputV1 → Except Raised (Option UUID)
  observedAt : Datetime

/-! ## The adapter -/

section Adapter

variable {Digest : Type} [DecidableEq Digest] (kernel : Kernel Digest)

/-- Append one receipt of this adapter. -/
def appendReceipt (ledger : SqlAlchemyReceiptLedger) (tables : Tables Digest) (fact : SourceFact)
    (outcome : ReceiptOutcome) (observedAt : Datetime) : Except Raised (Tables Digest) := do
  let receipt ← AdapterReceipt.make adapterName fact outcome observedAt
  ledger.append kernel tables receipt

def applyRatedObligation (db : TenantState Digest) (scope : TenantScope)
    (ledger : SqlAlchemyReceiptLedger) (terms : Terms) (output : RatedObligationOutputV1)
    (tax : TaxOutcome) : Except Raised (ReceiptOutcome × TenantState Digest) := do
  let fact ← factOf output
  let refuse : Except Raised (ReceiptOutcome × TenantState Digest) := do
    let tables ← appendReceipt kernel ledger db.tables fact .refused terms.observedAt
    return (.refused, { db with tables })
  match ← terms.resolveBillingAccount scope output with
  | none => refuse
  | some billingAccountId =>
      match toCommand terms.billing.toContracts output scope billingAccountId tax with
      | .error (.unmappableObligation _) => refuse
      | .error (.valueError _) => refuse
      | .error e => throw e
      | .ok command =>
          match terms.billing.accept scope acceptedSourceKinds db.obligations command with
          | .error .billingRuleViolation => refuse
          | .error e => throw e
          | .ok obligations => do
              let tables ← appendReceipt kernel ledger db.tables fact .applied terms.observedAt
              let db := { db with obligations, tables }
              return (.applied, { db with
                acknowledgements := db.acknowledgeOutput output.occurrenceId terms.observedAt })

/-- The loop of `drain_rated_obligations` over the outputs it read. -/
def applyOutputs (scope : TenantScope) (ledger : SqlAlchemyReceiptLedger) (terms : Terms) :
    List RatedObligationOutputV1 → TenantState Digest →
      Except Raised (List ReceiptOutcome × TenantState Digest)
  | [], db => .ok ([], db)
  | output :: rest, db => do
      let tax ← terms.taxFor output
      let (outcome, db) ← applyRatedObligation kernel db scope ledger terms output tax
      let (outcomes, db) ← applyOutputs scope ledger terms rest db
      return (outcome :: outcomes, db)

def drainRatedObligations (db : TenantState Digest) (scope : TenantScope)
    (ledger : SqlAlchemyReceiptLedger) (terms : Terms) (limit : Nat) :
    Except Raised (List ReceiptOutcome × TenantState Digest) :=
  applyOutputs kernel scope ledger terms (db.unacknowledgedOutputs limit) db

end Adapter

/-! ## The stages of one hand-off -/

section Stages

/-- What an output comes to before Billing sees it: a command, or a refusal. -/
def prepare (scope : TenantScope) (terms : Terms) (output : RatedObligationOutputV1) :
    Except Raised (SourceFact × Option AcceptRatedObligationV1) := do
  let tax ← terms.taxFor output
  let fact ← factOf output
  match ← terms.resolveBillingAccount scope output with
  | none => return (fact, none)
  | some billingAccountId =>
      match toCommand terms.billing.toContracts output scope billingAccountId tax with
      | .error (.unmappableObligation _) => return (fact, none)
      | .error (.valueError _) => return (fact, none)
      | .error e => throw e
      | .ok command => return (fact, some command)

/-- Billing's answer to a command: what it now holds, or its refusal. -/
def charge (scope : TenantScope) (terms : Terms) (obligations : List AcceptRatedObligationV1)
    (command : AcceptRatedObligationV1) : Except Raised (Option (List AcceptRatedObligationV1)) :=
  match terms.billing.accept scope acceptedSourceKinds obligations command with
  | .error .billingRuleViolation => .ok none
  | .error e => .error e
  | .ok obligations => .ok (some obligations)

variable {Digest : Type} [DecidableEq Digest] (kernel : Kernel Digest)

/-- A refused output leaves its receipt and nothing else. -/
def refuseFact (ledger : SqlAlchemyReceiptLedger) (terms : Terms) (db : TenantState Digest)
    (fact : SourceFact) : Except Raised (ReceiptOutcome × TenantState Digest) := do
  let tables ← appendReceipt kernel ledger db.tables fact .refused terms.observedAt
  return (.refused, { db with tables })

/-- The receipt and the acknowledgement of a charged output. -/
def settleFact (ledger : SqlAlchemyReceiptLedger) (terms : Terms) (db : TenantState Digest)
    (output : RatedObligationOutputV1) (fact : SourceFact) :
    Except Raised (ReceiptOutcome × TenantState Digest) := do
  let tables ← appendReceipt kernel ledger db.tables fact .applied terms.observedAt
  let db := { db with tables }
  return (.applied, { db with
    acknowledgements := db.acknowledgeOutput output.occurrenceId terms.observedAt })

/-- One turn of the drain, stage by stage. -/
def handOff (scope : TenantScope) (ledger : SqlAlchemyReceiptLedger) (terms : Terms)
    (db : TenantState Digest) (output : RatedObligationOutputV1) :
    Except Raised (ReceiptOutcome × TenantState Digest) := do
  let (fact, command) ← prepare scope terms output
  match command with
  | none => refuseFact kernel ledger terms db fact
  | some command =>
      match ← charge scope terms db.obligations command with
      | none => refuseFact kernel ledger terms db fact
      | some obligations => settleFact kernel ledger terms { db with obligations } output fact

/-- The stages are the turn of the loop: the tax, then the hand-off. -/
theorem handOff_eq (scope : TenantScope) (ledger : SqlAlchemyReceiptLedger) (terms : Terms)
    (db : TenantState Digest) (output : RatedObligationOutputV1) :
    (terms.taxFor output >>= applyRatedObligation kernel db scope ledger terms output) =
      handOff kernel scope ledger terms db output := by
  cases taxed : terms.taxFor output with
  | error e => simp only [handOff, prepare, taxed, bind, Except.bind]
  | ok tax =>
      cases made : factOf output with
      | error e => simp only [applyRatedObligation, handOff, prepare, taxed, made, bind, Except.bind]
      | ok fact =>
          cases resolved : terms.resolveBillingAccount scope output with
          | error e =>
              simp only [applyRatedObligation, handOff, prepare, taxed, made, resolved, bind, Except.bind]
          | ok account =>
              simp only [applyRatedObligation, handOff, prepare, taxed, made, resolved, bind, Except.bind,
                pure, Except.pure]
              cases account with
              | none => rfl
              | some account =>
                  simp only
                  cases toCommand terms.billing.toContracts output scope account tax with
                  | error e => cases e <;> rfl
                  | ok command =>
                      simp only [charge]
                      cases terms.billing.accept scope acceptedSourceKinds db.obligations command with
                      | error e => cases e <;> rfl
                      | ok obligations => rfl

/-- The drain takes one turn for each output. -/
theorem applyOutputs_cons (scope : TenantScope) (ledger : SqlAlchemyReceiptLedger) (terms : Terms)
    (output : RatedObligationOutputV1) (rest : List RatedObligationOutputV1) (db : TenantState Digest) :
    applyOutputs kernel scope ledger terms (output :: rest) db = (do
      let (outcome, db) ← handOff kernel scope ledger terms db output
      let (outcomes, db) ← applyOutputs kernel scope ledger terms rest db
      return (outcome :: outcomes, db)) := by
  rw [← handOff_eq]
  simp only [applyOutputs, bind_assoc]

end Stages

/-! ## The smallest tenant

A Billing that refuses nothing, one monthly charge, and a caller that asserts no
tax and links every subscription to the given account, or to none.
-/

def recordingBilling : Billing where
  currency := fun _ => .ok ()
  money := fun _ => .ok ()
  servicePeriod := fun _ => .ok ()
  command := fun _ => .ok ()
  accept := fun _ _ held command =>
    if ∃ obligation ∈ held, obligation.sourceFact = command.sourceFact then .ok held
    else .ok (held ++ [command])
  records := by
    intro scope kinds held command held' accepted
    split_ifs at accepted with found
    · exact .inr ⟨(Except.ok.inj accepted).symm, found⟩
    · exact .inl (Except.ok.inj accepted).symm

def monthlyCharge (occurrenceId : UUID) (generation : Int) : RatedObligationOutputV1 where
  contractType := "subscriptions.rated_obligation"
  occurrenceId := occurrenceId
  emittedAt := .aware 0
  generation := generation
  subscriptionContractId := 1
  contractVersionId := 2
  contractLineKey := 3
  chargeModelCode := "recurring.flat"
  sourceCode := "service"
  sourceId := 4
  preTaxAmount := ⟨⟨false, 1000000, -2⟩, "NGN", 2⟩
  collectionTiming := "advance"
  coverageStart := .aware 0
  coverageEnd := .aware 2592000
  offerVersionRef := "offer-v3"
  requestFingerprint := "sha256:rated"

def noTax : TaxOutcome where
  amount := ⟨⟨false, 0, -2⟩, ⟨"NGN", 2⟩⟩
  snapshots := []
  notAssessedReason := some "no tax owner is composed in this assembly"
  evidenced := by decide
  assessed := by decide
  explained := by decide

def linkedTo (account : Option UUID) (billing : Billing) : Terms where
  billing := billing
  taxFor := fun _ => .ok noTax
  resolveBillingAccount := fun _ _ => .ok account
  observedAt := .aware 86400

end DotmacCloud
