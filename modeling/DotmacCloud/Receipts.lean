import DotmacCloud.Foundation.Newest
import DotmacCloud.Python

/-! # Adapter receipts and cross-owner reconciliation

The receipt types carry the checks of their constructors as fields, so a blank
identity, a version below one or a naive observation time cannot be built. The
reconciliation is the source's two loops: the newest receipt of each key, then
one bucket for each published fact.
-/

namespace DotmacCloud

open Foundation

inductive ReceiptOutcome where
  | applied | refused
  deriving DecidableEq, Repr

namespace ReceiptOutcome

def value : ReceiptOutcome → String
  | .applied => "applied"
  | .refused => "refused"

/-- `ReceiptOutcome(text)` -/
def ofValue (text : String) : Except Raised ReceiptOutcome :=
  if text = "applied" then .ok .applied
  else if text = "refused" then .ok .refused
  else .error (.valueError s!"'{text}' is not a valid ReceiptOutcome")

theorem ofValue_value (outcome : ReceiptOutcome) : ofValue outcome.value = .ok outcome := by
  cases outcome <;> rfl

theorem value_injective {a b : ReceiptOutcome} (same : a.value = b.value) : a = b := by
  have read := ofValue_value a
  rw [same, ofValue_value b] at read
  exact (Except.ok.inj read).symm

end ReceiptOutcome

/-- The identity of a published fact, without its version or content. -/
structure FactKey where
  sourceOwner : String
  sourceRef : String
  ownerText : ¬ blank sourceOwner
  refText : ¬ blank sourceRef
  deriving DecidableEq

/-- One exact version of one fact published by one owner. -/
structure SourceFact where
  key : FactKey
  sourceVersion : Int
  fingerprint : String
  positive : 1 ≤ sourceVersion
  fingerprintText : ¬ blank fingerprint
  deriving DecidableEq

/-- Evidence that one adapter handled one exact fact version. The observation
    time is the instant of an aware datetime. -/
structure AdapterReceipt where
  adapter : String
  fact : SourceFact
  outcome : ReceiptOutcome
  observedAt : Int
  adapterText : ¬ blank adapter
  deriving DecidableEq

def FactKey.make (sourceOwner sourceRef : String) : Except Raised FactKey := do
  let owner ← requireText "source_owner" sourceOwner
  let ref ← requireText "source_ref" sourceRef
  return ⟨sourceOwner, sourceRef, owner.down, ref.down⟩

def SourceFact.make (key : FactKey) (sourceVersion : Int) (fingerprint : String) :
    Except Raised SourceFact := do
  if positive : 1 ≤ sourceVersion then
    let text ← requireText "fingerprint" fingerprint
    return ⟨key, sourceVersion, fingerprint, positive, text.down⟩
  else throw (.valueError "source_version must be positive")

def AdapterReceipt.make (adapter : String) (fact : SourceFact) (outcome : ReceiptOutcome)
    (observedAt : Datetime) : Except Raised AdapterReceipt := do
  let text ← requireText "adapter" adapter
  let instant ← requireAware "observed_at" observedAt
  return ⟨adapter, fact, outcome, instant, text.down⟩

theorem FactKey.make_eq (key : FactKey) : FactKey.make key.sourceOwner key.sourceRef = .ok key := by
  simp only [FactKey.make, requireText_of_text _ key.ownerText, requireText_of_text _ key.refText]
  rfl

theorem FactKey.of_make {owner ref : String} {key : FactKey}
    (made : FactKey.make owner ref = .ok key) : key.sourceOwner = owner ∧ key.sourceRef = ref := by
  simp only [FactKey.make, requireText] at made
  split at made
  · split at made
    · obtain rfl := Except.ok.inj made
      exact ⟨rfl, rfl⟩
    · cases made
  · cases made

theorem SourceFact.make_eq (fact : SourceFact) :
    SourceFact.make fact.key fact.sourceVersion fact.fingerprint = .ok fact := by
  simp only [SourceFact.make, dif_pos fact.positive, requireText_of_text _ fact.fingerprintText]
  rfl

theorem SourceFact.of_make {key : FactKey} {version : Int} {fingerprint : String} {fact : SourceFact}
    (made : SourceFact.make key version fingerprint = .ok fact) :
    fact.key = key ∧ fact.sourceVersion = version ∧ fact.fingerprint = fingerprint := by
  simp only [SourceFact.make, requireText] at made
  split at made
  · split at made
    · obtain rfl := Except.ok.inj made
      exact ⟨rfl, rfl, rfl⟩
    · cases made
  · cases made

theorem AdapterReceipt.make_eq (receipt : AdapterReceipt) :
    AdapterReceipt.make receipt.adapter receipt.fact receipt.outcome (.aware receipt.observedAt) =
      .ok receipt := by
  simp only [AdapterReceipt.make, requireText_of_text _ receipt.adapterText, requireAware]
  rfl

theorem FactKey.ext {a b : FactKey} (owner : a.sourceOwner = b.sourceOwner)
    (ref : a.sourceRef = b.sourceRef) : a = b := by
  cases a
  cases b
  simp_all

theorem SourceFact.ext {a b : SourceFact} (key : a.key = b.key)
    (version : a.sourceVersion = b.sourceVersion) (fingerprint : a.fingerprint = b.fingerprint) :
    a = b := by
  cases a
  cases b
  simp_all

/-- The generated order of the dataclass: the fields as a tuple. -/
def FactKey.le (a b : FactKey) : Bool :=
  if a.sourceOwner = b.sourceOwner then a.sourceRef ≤ b.sourceRef else a.sourceOwner ≤ b.sourceOwner

/-! ## Reconciliation -/

structure StaleFact where
  key : FactKey
  receivedVersion : Int
  publishedVersion : Int
  deriving DecidableEq

structure DivergentFact where
  key : FactKey
  sourceVersion : Int
  receivedFingerprint : String
  publishedFingerprint : String
  deriving DecidableEq

structure ReconciliationReport where
  settled : List FactKey
  missing : List SourceFact
  stale : List StaleFact
  divergent : List DivergentFact
  deriving DecidableEq

namespace ReconciliationReport

def converged (report : ReconciliationReport) : Bool :=
  report.missing.isEmpty && report.stale.isEmpty && report.divergent.isEmpty

def repairableByRedelivery (report : ReconciliationReport) : List SourceFact := report.missing

end ReconciliationReport

/-- `_latest_by_key` -/
def latestByKey (receipts : List AdapterReceipt) : FactKey → Option AdapterReceipt :=
  Newest.newest (fun receipt => receipt.fact.key) (fun receipt => receipt.fact.sourceVersion) receipts

/-- One turn of the loop over the published facts. -/
def classify (latest : FactKey → Option AdapterReceipt) (report : ReconciliationReport)
    (fact : SourceFact) : ReconciliationReport :=
  match latest fact.key with
  | none => { report with missing := report.missing ++ [fact] }
  | some receipt =>
      let acted := receipt.fact
      if acted.sourceVersion < fact.sourceVersion then
        { report with stale := report.stale ++ [⟨fact.key, acted.sourceVersion, fact.sourceVersion⟩] }
      else if acted.sourceVersion = fact.sourceVersion ∧ acted.fingerprint ≠ fact.fingerprint then
        { report with
          divergent := report.divergent ++
            [⟨fact.key, fact.sourceVersion, acted.fingerprint, fact.fingerprint⟩] }
      else { report with settled := report.settled ++ [fact.key] }

def reconcile (published : List SourceFact) (received : List AdapterReceipt) :
    ReconciliationReport :=
  let latest := latestByKey received
  let report := published.foldl (classify latest) ⟨[], [], [], []⟩
  { report with settled := report.settled.mergeSort FactKey.le }

end DotmacCloud
