import DotmacCloud.Foundation.AtMostOnce
import DotmacCloud.Models

/-! # The durable receipt ledger

`append` spends one idempotency key for each exact hand-off and writes the
receipt row as the operation of that key. The kernel contributes two things: a
collision-free digest, and the at-most-once execution of `Foundation.AtMostOnce`.
-/

namespace DotmacCloud

open Foundation AtMostOnce AdapterReceiptRow

/-- A value of a fingerprinted mapping. -/
inductive PayloadValue where
  | text (s : String)
  | int (n : Int)
  deriving DecidableEq, Repr

abbrev Payload := List (String × PayloadValue)

/-- `dotmac_kernel.fingerprints`: the digest is opaque and never collides. -/
structure Kernel (Digest : Type) where
  fingerprintOf : Payload → Digest
  injective : Function.Injective fingerprintOf

/-- The mapping itself is a digest that never collides. -/
def plainKernel : Kernel Payload := ⟨id, Function.injective_id⟩

/-- The ledger is kept for each tenant and each operation family. -/
structure RecordKey (Digest : Type) where
  tenantId : UUID
  scope : String
  key : Digest
  deriving DecidableEq

abbrev IdempotencyRecord (Digest : Type) := Entry (RecordKey Digest) Digest

structure Tables (Digest : Type) where
  receipts : List AdapterReceiptRow
  records : List (IdempotencyRecord Digest)
  deriving DecidableEq

def Tables.empty {Digest : Type} : Tables Digest := ⟨[], []⟩

def receiptScope : String := "cloud.adapter_receipt"

section Keys

variable {Digest : Type} (kernel : Kernel Digest)

/-- `_identity_key` -/
def identityKey (receipt : AdapterReceipt) : Digest :=
  kernel.fingerprintOf [
    ("adapter", .text receipt.adapter),
    ("source_owner", .text receipt.fact.key.sourceOwner),
    ("source_ref", .text receipt.fact.key.sourceRef),
    ("source_version", .int receipt.fact.sourceVersion)]

/-- `_handled_fingerprint` -/
def handledFingerprint (receipt : AdapterReceipt) : Digest :=
  kernel.fingerprintOf [
    ("content", .text receipt.fact.fingerprint),
    ("outcome", .text receipt.outcome.value)]

/-- The key a row's receipt was appended under. -/
def rowKey (row : AdapterReceiptRow) : RecordKey Digest where
  tenantId := row.tenantId
  scope := receiptScope
  key := kernel.fingerprintOf [
    ("adapter", .text row.adapter),
    ("source_owner", .text row.sourceOwner),
    ("source_ref", .text row.sourceRef),
    ("source_version", .int row.sourceVersion)]

/-- The fingerprint a row's receipt was appended with. -/
def rowPrint (row : AdapterReceiptRow) : Digest :=
  kernel.fingerprintOf [("content", .text row.fingerprint), ("outcome", .text row.outcome)]

theorem rowKey_fromReceipt (t : UUID) (receipt : AdapterReceipt) :
    rowKey kernel (fromReceipt t receipt) = ⟨t, receiptScope, identityKey kernel receipt⟩ := rfl

theorem rowPrint_fromReceipt (t : UUID) (receipt : AdapterReceipt) :
    rowPrint kernel (fromReceipt t receipt) = handledFingerprint kernel receipt := rfl

/-- The digest and the unique constraint identify the same rows. -/
theorem rowKey_eq_iff {a b : AdapterReceiptRow} :
    rowKey kernel a = rowKey kernel b ↔ a.exactFact = b.exactFact := by
  simp only [rowKey, exactFact, RecordKey.mk.injEq, kernel.injective.eq_iff, ExactFact.mk.injEq,
    List.cons.injEq, Prod.mk.injEq, PayloadValue.text.injEq, PayloadValue.int.injEq, true_and,
    and_true]

theorem rowPrint_eq_iff {a b : AdapterReceiptRow} :
    rowPrint kernel a = rowPrint kernel b ↔ a.fingerprint = b.fingerprint ∧ a.outcome = b.outcome := by
  simp only [rowPrint, kernel.injective.eq_iff, List.cons.injEq, Prod.mk.injEq,
    PayloadValue.text.injEq, true_and, and_true]

end Keys

/-! ## The ledger -/

/-- A ledger bound to one session, whose transaction runs under `setting`. -/
structure SqlAlchemyReceiptLedger where
  setting : Setting
  tenantId : UUID
  deriving DecidableEq

/-- The ledger of a `tenant_session`. -/
def SqlAlchemyReceiptLedger.scoped (t : UUID) : SqlAlchemyReceiptLedger := ⟨some t.str, t⟩

@[simp] theorem SqlAlchemyReceiptLedger.scoped_tenantId (t : UUID) :
    (SqlAlchemyReceiptLedger.scoped t).tenantId = t := rfl

section Append

variable {Digest : Type} [DecidableEq Digest]

def SqlAlchemyReceiptLedger.append (ledger : SqlAlchemyReceiptLedger) (kernel : Kernel Digest)
    (tables : Tables Digest) (receipt : AdapterReceipt) : Except Raised (Tables Digest) :=
  let write := fun rows => insertRow ledger.setting rows (fromReceipt ledger.tenantId receipt)
  match executeOnce .idempotencyConflict tables.records
      ⟨ledger.tenantId, receiptScope, identityKey kernel receipt⟩
      s!"receipt:{receipt.adapter}" (handledFingerprint kernel receipt) write tables.receipts with
  | .ok (records, receipts) => .ok ⟨receipts, records⟩
  | .error e => .error e

/-- The order of a query's result under the database's collation. -/
structure OrderBy where
  sort : List AdapterReceiptRow → List AdapterReceiptRow
  perm : ∀ rows, (sort rows).Perm rows

def SqlAlchemyReceiptLedger.receiptsFor (ledger : SqlAlchemyReceiptLedger) (orderBy : OrderBy)
    (rows : List AdapterReceiptRow) (adapter : String) (keys : List FactKey) :
    Except Raised (List AdapterReceipt) :=
  if blank adapter then .error (.valueError "adapter must be a non-empty string")
  else
    let identities := (keys.map (fun key => (key.sourceOwner, key.sourceRef))).dedup
    if identities = [] then .ok []
    else
      let selected := (visibleRows ledger.setting rows).filter (fun row =>
        row.tenantId = ledger.tenantId ∧ row.adapter = adapter ∧
          (row.sourceOwner, row.sourceRef) ∈ identities)
      (orderBy.sort selected).mapM toReceipt

/-- The invariant of the two tables: one record for each row, under its key and
    with its fingerprint. -/
abbrev Tables.Guarded (kernel : Kernel Digest) (tables : Tables Digest) : Prop :=
  AtMostOnce.Guarded (rowKey kernel) (rowPrint kernel) tables.records tables.receipts

/-- The record of one receipt. -/
def recordOf (kernel : Kernel Digest) (t : UUID) (receipt : AdapterReceipt) :
    IdempotencyRecord Digest :=
  ⟨⟨t, receiptScope, identityKey kernel receipt⟩, s!"receipt:{receipt.adapter}",
    handledFingerprint kernel receipt⟩

/-- What the kernel holds under a receipt's key. -/
abbrev Tables.spent (kernel : Kernel Digest) (tables : Tables Digest) (t : UUID)
    (receipt : AdapterReceipt) : Option Digest :=
  stored tables.records ⟨t, receiptScope, identityKey kernel receipt⟩

variable {kernel : Kernel Digest} {tables tables' : Tables Digest} {receipt : AdapterReceipt}
  {ledger : SqlAlchemyReceiptLedger} {t : UUID}

/-- Everything a returning append can have done. -/
theorem append_cases (returned : ledger.append kernel tables receipt = .ok tables') :
    (tables.spent kernel ledger.tenantId receipt = none ∧
      (fromReceipt ledger.tenantId receipt).columnFault = none ∧
      tables' = ⟨tables.receipts ++ [fromReceipt ledger.tenantId receipt],
        tables.records ++ [recordOf kernel ledger.tenantId receipt]⟩) ∨
    (tables.spent kernel ledger.tenantId receipt = some (handledFingerprint kernel receipt) ∧
      tables' = tables) := by
  simp only [SqlAlchemyReceiptLedger.append] at returned
  split at returned
  · rename_i records receipts ran
    obtain rfl := Except.ok.inj returned
    rcases executeOnce_cases ran with ⟨unspent, wrote, rfl⟩ | ⟨spent, rfl, rfl⟩
    · obtain ⟨rfl, fits, -, -⟩ := insertRow_eq_ok wrote
      exact .inl ⟨unspent, fits, rfl⟩
    · exact .inr ⟨spent, rfl⟩
  · cases returned

variable (ledger) in
/-- An identity already present never writes: the append replays or is refused. -/
theorem append_spent {known : Digest}
    (spent : tables.spent kernel ledger.tenantId receipt = some known) :
    ledger.append kernel tables receipt =
      if known = handledFingerprint kernel receipt then .ok tables
      else .error .idempotencyConflict := by
  simp only [SqlAlchemyReceiptLedger.append, executeOnce_spent spent]
  by_cases same : known = handledFingerprint kernel receipt
  · simp only [if_pos same]
  · simp only [if_neg same]

omit [DecidableEq Digest] in
/-- The unique constraint holds of the rows the ledger wrote. -/
theorem exactFacts_distinct (guarded : tables.Guarded kernel) :
    (tables.receipts.map exactFact).Nodup := by
  have distinct := guarded.distinct
  rw [List.Nodup, List.pairwise_map] at distinct ⊢
  exact distinct.imp (fun apart same => apart ((rowKey_eq_iff kernel).mpr same))

theorem rows_absent (guarded : tables.Guarded kernel)
    (unspent : tables.spent kernel t receipt = none) :
    ∀ row ∈ tables.receipts, row.exactFact ≠ (fromReceipt t receipt).exactFact := by
  intro row member same
  have absent := guarded.mirrors.stored_none_iff.mp unspent row member
  rw [← rowKey_fromReceipt kernel t receipt] at absent
  exact absent ((rowKey_eq_iff kernel).mpr same)

/-- The kernel holds nothing under an identity without a row. -/
theorem unspent_of_absent (guarded : tables.Guarded kernel)
    (absent : ∀ row ∈ tables.receipts, row.exactFact ≠ (fromReceipt t receipt).exactFact) :
    tables.spent kernel t receipt = none := by
  apply guarded.mirrors.stored_none_iff.mpr
  intro row member same
  rw [← rowKey_fromReceipt kernel t receipt, rowKey_eq_iff] at same
  exact absent row member same

/-- A new identity within the column bounds is written with its record. -/
theorem append_fresh (guarded : tables.Guarded kernel)
    (unspent : tables.spent kernel t receipt = none)
    (fits : (fromReceipt t receipt).columnFault = none) :
    (SqlAlchemyReceiptLedger.scoped t).append kernel tables receipt =
      .ok ⟨tables.receipts ++ [fromReceipt t receipt],
        tables.records ++ [recordOf kernel t receipt]⟩ := by
  have inserted := insertRow_fromReceipt fits ((policyAdmits_str t t).mpr rfl)
    (rows_absent guarded unspent)
  simp only [SqlAlchemyReceiptLedger.append, SqlAlchemyReceiptLedger.scoped, recordOf,
    executeOnce_fresh (fun rows => insertRow (some t.str) rows (fromReceipt t receipt)) unspent inserted]

theorem append_fresh_unfit (unspent : tables.spent kernel t receipt = none) {column : String}
    (unfit : (fromReceipt t receipt).columnFault = some column) :
    (SqlAlchemyReceiptLedger.scoped t).append kernel tables receipt = .error (.dataError column) := by
  have refused : insertRow (some t.str) tables.receipts (fromReceipt t receipt) =
      .error (.dataError column) := by simp only [insertRow, unfit]
  simp only [SqlAlchemyReceiptLedger.append, SqlAlchemyReceiptLedger.scoped,
    executeOnce_fresh_error (fun rows => insertRow (some t.str) rows (fromReceipt t receipt)) unspent
      refused]

variable (ledger receipt) in
/-- An append replays, is refused, or writes its row and its record. -/
theorem append_eq (seen : Tables Digest) :
    ledger.append kernel seen receipt =
      match seen.spent kernel ledger.tenantId receipt with
      | some known =>
          if known = handledFingerprint kernel receipt then .ok seen else .error .idempotencyConflict
      | none =>
          match insertRow ledger.setting seen.receipts (fromReceipt ledger.tenantId receipt) with
          | .error e => .error e
          | .ok _ => .ok ⟨seen.receipts ++ [fromReceipt ledger.tenantId receipt],
              seen.records ++ [recordOf kernel ledger.tenantId receipt]⟩ := by
  cases spent : seen.spent kernel ledger.tenantId receipt with
  | some known => exact append_spent ledger spent
  | none =>
      simp only [SqlAlchemyReceiptLedger.append]
      cases inserted : insertRow ledger.setting seen.receipts (fromReceipt ledger.tenantId receipt) with
      | error e => simp only [executeOnce_fresh_error
          (fun rows => insertRow ledger.setting rows (fromReceipt ledger.tenantId receipt)) spent inserted]
      | ok rows =>
          obtain ⟨rfl, -⟩ := insertRow_eq_ok inserted
          simp only [executeOnce_fresh
            (fun rows => insertRow ledger.setting rows (fromReceipt ledger.tenantId receipt)) spent inserted]
          rfl

/-- The invariant the whole ledger rests on is kept by every append. -/
theorem append_guarded (guarded : tables.Guarded kernel)
    (returned : ledger.append kernel tables receipt = .ok tables') : tables'.Guarded kernel := by
  rcases append_cases returned with ⟨unspent, -, rfl⟩ | ⟨-, rfl⟩
  · exact guarded.snoc (fromReceipt ledger.tenantId receipt) _ unspent
  · exact guarded

/-- After an append returned, its exact content and outcome are on record. -/
theorem append_recorded (guarded : tables.Guarded kernel)
    (returned : ledger.append kernel tables receipt = .ok tables') :
    ∃ row ∈ tables'.receipts, row.exactFact = (fromReceipt ledger.tenantId receipt).exactFact ∧
      row.fingerprint = receipt.fact.fingerprint ∧ row.outcome = receipt.outcome.value := by
  rcases append_cases returned with ⟨-, -, rfl⟩ | ⟨spent, rfl⟩
  · exact ⟨_, List.mem_append_right _ (List.mem_singleton_self _), rfl, rfl, rfl⟩
  · obtain ⟨row, member, key, print⟩ := guarded.mirrors.row_of_stored spent
    rw [← rowKey_fromReceipt, rowKey_eq_iff] at key
    rw [← rowPrint_fromReceipt kernel ledger.tenantId, rowPrint_eq_iff] at print
    exact ⟨row, member, key, print⟩

theorem append_extends (returned : ledger.append kernel tables receipt = .ok tables') :
    tables.receipts <+: tables'.receipts ∧ tables.records <+: tables'.records := by
  rcases append_cases returned with ⟨-, -, rfl⟩ | ⟨-, rfl⟩
  · exact ⟨List.prefix_append _ _, List.prefix_append _ _⟩
  · exact ⟨List.prefix_refl _, List.prefix_refl _⟩

end Append

/-- The hand-off of one invoice to collections. -/
def invoiceReceipt : AdapterReceipt where
  adapter := "billing-exposure-to-collections"
  fact := ⟨⟨"billing", "invoice-1", by decide, by decide⟩, 1, "sha256:first", by decide, by decide⟩
  outcome := .applied
  observedAt := 0
  adapterText := by decide

/-- A receipt of another invoice. -/
def otherInvoice : AdapterReceipt :=
  { invoiceReceipt with
    fact := { invoiceReceipt.fact with key := ⟨"billing", "invoice-2", by decide, by decide⟩ } }

end DotmacCloud
