import DotmacCloud.Identifiers
import DotmacCloud.Receipts

/-! # The receipt table

One row of `cloud_adapter_receipts` with the checks its migration declares: the
column types, the two check constraints, the unique constraint and the row
policy. The surrogate `id` is left out: it is drawn fresh for each row and no
query reads it back.
-/

namespace DotmacCloud

/-! ## The tenant policy -/

/-- `current_setting('app.current_tenant', true)`; `none` is NULL. -/
abbrev Setting := Option String

/-- `NULLIF(current_setting(..), '')::uuid`. A text that is no UUID admits no row
    either, since the cast refuses the statement. -/
def currentTenant : Setting → Option UUID
  | none => none
  | some text => if text = "" then none else UUID.parse text

/-- The USING and the WITH CHECK predicate of the policy. -/
def policyAdmits (setting : Setting) (tenantId : UUID) : Bool := currentTenant setting == some tenantId

@[simp] theorem currentTenant_none : currentTenant none = none := rfl

@[simp] theorem currentTenant_empty : currentTenant (some "") = none := by simp [currentTenant]

@[simp] theorem currentTenant_str (t : UUID) : currentTenant (some t.str) = some t := by
  simp only [currentTenant, if_neg t.str_ne_empty, UUID.parse_str]

theorem policyAdmits_str (t u : UUID) : policyAdmits (some t.str) u = true ↔ u = t := by
  simp only [policyAdmits, currentTenant_str, beq_iff_eq, Option.some.injEq]
  exact eq_comm

/-! ## Rows -/

structure AdapterReceiptRow where
  tenantId : UUID
  adapter : String
  sourceOwner : String
  sourceRef : String
  sourceVersion : Int
  fingerprint : String
  outcome : String
  observedAt : Int
  deriving DecidableEq

/-- The columns of `uq_cloud_receipt_exact_fact`. -/
structure ExactFact where
  tenantId : UUID
  adapter : String
  sourceOwner : String
  sourceRef : String
  sourceVersion : Int
  deriving DecidableEq

namespace AdapterReceiptRow

def exactFact (row : AdapterReceiptRow) : ExactFact :=
  ⟨row.tenantId, row.adapter, row.sourceOwner, row.sourceRef, row.sourceVersion⟩

def fromReceipt (tenantId : UUID) (receipt : AdapterReceipt) : AdapterReceiptRow where
  tenantId := tenantId
  adapter := receipt.adapter
  sourceOwner := receipt.fact.key.sourceOwner
  sourceRef := receipt.fact.key.sourceRef
  sourceVersion := receipt.fact.sourceVersion
  fingerprint := receipt.fact.fingerprint
  outcome := receipt.outcome.value
  observedAt := receipt.observedAt

def toReceipt (row : AdapterReceiptRow) : Except Raised AdapterReceipt := do
  let key ← FactKey.make row.sourceOwner row.sourceRef
  let fact ← SourceFact.make key row.sourceVersion row.fingerprint
  let outcome ← ReceiptOutcome.ofValue row.outcome
  AdapterReceipt.make row.adapter fact outcome (.aware row.observedAt)

theorem toReceipt_fromReceipt (t : UUID) (receipt : AdapterReceipt) :
    (fromReceipt t receipt).toReceipt = .ok receipt := by
  simp only [toReceipt, fromReceipt, FactKey.make_eq, ReceiptOutcome.ofValue_value, bind, Except.bind]
  rw [SourceFact.make_eq]
  exact AdapterReceipt.make_eq receipt

theorem fromReceipt_injective {t u : UUID} {a b : AdapterReceipt}
    (same : fromReceipt t a = fromReceipt u b) : a = b := by
  have read := toReceipt_fromReceipt t a
  rw [same, toReceipt_fromReceipt u b] at read
  exact (Except.ok.inj read).symm

/-- The first column that cannot hold its value: VARCHAR lengths and the signed
    32-bit INTEGER. -/
def columnFault (row : AdapterReceiptRow) : Option String :=
  if 120 < row.adapter.length then some "adapter"
  else if 120 < row.sourceOwner.length then some "source_owner"
  else if 255 < row.sourceRef.length then some "source_ref"
  else if row.sourceVersion < -2147483648 ∨ 2147483647 < row.sourceVersion then some "source_version"
  else if 255 < row.fingerprint.length then some "fingerprint"
  else if 16 < row.outcome.length then some "outcome"
  else none

end AdapterReceiptRow

open AdapterReceiptRow

/-- The values the columns can hold; the constructors bound the version below. -/
def AdapterReceipt.WithinColumns (receipt : AdapterReceipt) : Prop :=
  receipt.adapter.length ≤ 120 ∧ receipt.fact.key.sourceOwner.length ≤ 120 ∧
    receipt.fact.key.sourceRef.length ≤ 255 ∧ receipt.fact.sourceVersion ≤ 2147483647 ∧
    receipt.fact.fingerprint.length ≤ 255

instance (receipt : AdapterReceipt) : Decidable receipt.WithinColumns := by
  unfold AdapterReceipt.WithinColumns
  infer_instance

theorem columnFault_eq_none {row : AdapterReceiptRow} :
    row.columnFault = none ↔ row.adapter.length ≤ 120 ∧ row.sourceOwner.length ≤ 120 ∧
      row.sourceRef.length ≤ 255 ∧
      (-2147483648 ≤ row.sourceVersion ∧ row.sourceVersion ≤ 2147483647) ∧
      row.fingerprint.length ≤ 255 ∧ row.outcome.length ≤ 16 := by
  simp only [columnFault]
  split_ifs <;> simp only [false_iff, true_iff] <;> omega

theorem columnFault_none_iff (t : UUID) (receipt : AdapterReceipt) :
    (fromReceipt t receipt).columnFault = none ↔ receipt.WithinColumns := by
  have positive := receipt.fact.positive
  have outcome : receipt.outcome.value.length ≤ 16 := by
    cases receipt.outcome <;> decide
  rw [columnFault_eq_none]
  simp only [fromReceipt, AdapterReceipt.WithinColumns, outcome, and_true]
  omega

/-- INSERT under the session's setting. The policy is checked before the
    constraints of the table, so a refused tenant learns nothing of its rows. -/
def insertRow (setting : Setting) (rows : List AdapterReceiptRow) (row : AdapterReceiptRow) :
    Except Raised (List AdapterReceiptRow) :=
  match row.columnFault with
  | some column => .error (.dataError column)
  | none =>
      if ¬ policyAdmits setting row.tenantId then
        .error (.insufficientPrivilege "cloud_adapter_receipts_tenant_isolation")
      else if row.sourceVersion ≤ 0 then
        .error (.integrityError "ck_cloud_receipt_version_positive")
      else if row.outcome ≠ "applied" ∧ row.outcome ≠ "refused" then
        .error (.integrityError "ck_cloud_receipt_outcome")
      else if rows.any (fun other => other.exactFact == row.exactFact) then
        .error (.integrityError "uq_cloud_receipt_exact_fact")
      else .ok (rows ++ [row])

/-- SELECT: the policy hides every other row. -/
def visibleRows (setting : Setting) (rows : List AdapterReceiptRow) : List AdapterReceiptRow :=
  rows.filter (fun row => policyAdmits setting row.tenantId)

theorem insertRow_eq_ok {setting : Setting} {rows rows' : List AdapterReceiptRow}
    {row : AdapterReceiptRow} (inserted : insertRow setting rows row = .ok rows') :
    rows' = rows ++ [row] ∧ row.columnFault = none ∧ policyAdmits setting row.tenantId = true ∧
      ∀ other ∈ rows, other.exactFact ≠ row.exactFact := by
  simp only [insertRow] at inserted
  split at inserted
  · cases inserted
  · rename_i fits
    split_ifs at inserted with admitted positive outcome taken
    refine ⟨(Except.ok.inj inserted).symm, fits, by simpa using admitted, ?_⟩
    simpa using taken

/-- A receipt's row passes both check constraints, so only its columns, the policy
    and the unique constraint can refuse it. -/
theorem insertRow_fromReceipt {setting : Setting} {rows : List AdapterReceiptRow} {t : UUID}
    {receipt : AdapterReceipt} (fits : (fromReceipt t receipt).columnFault = none)
    (admitted : policyAdmits setting t = true)
    (fresh : ∀ other ∈ rows, other.exactFact ≠ (fromReceipt t receipt).exactFact) :
    insertRow setting rows (fromReceipt t receipt) = .ok (rows ++ [fromReceipt t receipt]) := by
  have positive : ¬ (fromReceipt t receipt).sourceVersion ≤ 0 := by
    have := receipt.fact.positive
    simp only [fromReceipt]
    omega
  have outcome : ¬ ((fromReceipt t receipt).outcome ≠ "applied" ∧
      (fromReceipt t receipt).outcome ≠ "refused") := by
    simp only [fromReceipt]
    cases receipt.outcome <;> simp [ReceiptOutcome.value]
  have free : ¬ rows.any (fun other => other.exactFact == (fromReceipt t receipt).exactFact) = true := by
    simpa using fresh
  have admitted' : ¬ ¬ policyAdmits setting (fromReceipt t receipt).tenantId = true := by
    simpa [fromReceipt] using admitted
  simp only [insertRow, fits, if_neg admitted', if_neg positive, if_neg outcome, if_neg free]

end DotmacCloud
