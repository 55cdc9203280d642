import DotmacCloud.ReceiptStore

/-! # The ledger as a write-once map

Appends run inside transactions; `working` is what the open transaction sees and
`committed` what survives it. The abstract map is read off the history alone: the
first receipt appended under an identity in a transaction that committed. The
tables agree with it after every history, and no append reaches the unique
constraint behind the ledger.
-/

namespace DotmacCloud

open Foundation AtMostOnce AdapterReceiptRow

inductive LedgerEvent where
  | append (tenantId : UUID) (receipt : AdapterReceipt)
  | commit
  | rollback

/-! ## The abstract map -/

/-- The receipts of committed transactions, and those of the open one. -/
structure Attempts where
  done : List (UUID × AdapterReceipt)
  pending : List (UUID × AdapterReceipt)

def Attempts.next (attempts : Attempts) : LedgerEvent → Attempts
  | .append t receipt => { attempts with pending := attempts.pending ++ [(t, receipt)] }
  | .commit => ⟨attempts.done ++ attempts.pending, []⟩
  | .rollback => ⟨attempts.done, []⟩

def attempts (events : List LedgerEvent) : Attempts := events.foldl Attempts.next ⟨[], []⟩

/-- The row of the first receipt under an identity. -/
def firstRow (receipts : List (UUID × AdapterReceipt)) (identity : ExactFact) :
    Option AdapterReceiptRow :=
  (receipts.map (fun entry => fromReceipt entry.1 entry.2)).find? (fun row => row.exactFact = identity)

/-! ## The tables -/

structure LedgerRun (Digest : Type) where
  committed : Tables Digest
  working : Tables Digest

section History

variable {Digest : Type} [DecidableEq Digest] (kernel : Kernel Digest)

/-- A refused append raises in its transaction and leaves the tables alone. The
    transaction may still end either way. -/
def LedgerRun.next (run : LedgerRun Digest) : LedgerEvent → LedgerRun Digest
  | .append t receipt =>
      match (SqlAlchemyReceiptLedger.scoped t).append kernel run.working receipt with
      | .ok tables => { run with working := tables }
      | .error _ => run
  | .commit => { run with committed := run.working }
  | .rollback => { run with working := run.committed }

def ledgerRun (events : List LedgerEvent) : LedgerRun Digest :=
  events.foldl (LedgerRun.next kernel) ⟨Tables.empty, Tables.empty⟩

/-- The receipts a history appends fit their columns. -/
def FitHistory (events : List LedgerEvent) : Prop :=
  ∀ t receipt, .append t receipt ∈ events → receipt.WithinColumns

theorem ledgerRun_snoc (events : List LedgerEvent) (event : LedgerEvent) :
    ledgerRun kernel (events ++ [event]) = (ledgerRun kernel events).next kernel event := by
  simp only [ledgerRun, List.foldl_append, List.foldl_cons, List.foldl_nil]

theorem attempts_snoc (events : List LedgerEvent) (event : LedgerEvent) :
    attempts (events ++ [event]) = (attempts events).next event := by
  simp only [attempts, List.foldl_append, List.foldl_cons, List.foldl_nil]

variable {kernel}

variable (kernel) in
theorem ledgerRun_guarded (events : List LedgerEvent) :
    (ledgerRun kernel events).committed.Guarded kernel ∧
      (ledgerRun kernel events).working.Guarded kernel := by
  induction events using List.reverseRecOn with
  | nil => exact ⟨Guarded.empty, Guarded.empty⟩
  | append_singleton events event ih =>
      rw [ledgerRun_snoc]
      cases event with
      | append t receipt =>
          simp only [LedgerRun.next]
          split
          · rename_i tables returned
            exact ⟨ih.1, append_guarded ih.2 returned⟩
          · exact ih
      | commit => exact ⟨ih.2, ih.2⟩
      | rollback => exact ⟨ih.1, ih.1⟩

/-- The table answers every identity as the map of `receipts` does. -/
def Answers (tables : Tables Digest) (receipts : List (UUID × AdapterReceipt)) : Prop :=
  ∀ identity, tables.receipts.find? (fun row => row.exactFact = identity) = firstRow receipts identity

theorem firstRow_snoc (receipts : List (UUID × AdapterReceipt)) (t : UUID) (receipt : AdapterReceipt)
    (identity : ExactFact) :
    firstRow (receipts ++ [(t, receipt)]) identity =
      (firstRow receipts identity).or
        (if (fromReceipt t receipt).exactFact = identity then some (fromReceipt t receipt) else none) := by
  by_cases same : (fromReceipt t receipt).exactFact = identity <;>
    simp [firstRow, List.find?_append, same]

/-- An append that cannot be refused for its columns keeps the agreement: a new
    identity is the map's first too, and an identity already answered stays so. -/
theorem answers_append {tables : Tables Digest} {receipts : List (UUID × AdapterReceipt)}
    (guarded : tables.Guarded kernel) (answers : Answers tables receipts) (t : UUID)
    {receipt : AdapterReceipt} (fits : receipt.WithinColumns) :
    Answers (match (SqlAlchemyReceiptLedger.scoped t).append kernel tables receipt with
      | .ok tables' => tables'
      | .error _ => tables) (receipts ++ [(t, receipt)]) := by
  intro identity
  rw [firstRow_snoc, ← answers identity]
  cases known : tables.spent kernel t receipt with
  | none =>
      rw [append_fresh guarded known ((columnFault_none_iff t receipt).mpr fits)]
      by_cases same : (fromReceipt t receipt).exactFact = identity <;>
        simp [List.find?_append, same]
  | some print =>
      obtain ⟨row, member, key, -⟩ := guarded.mirrors.row_of_stored known
      rw [← rowKey_fromReceipt, rowKey_eq_iff] at key
      have unchanged : (match (SqlAlchemyReceiptLedger.scoped t).append kernel tables receipt with
          | .ok tables' => tables'
          | .error _ => tables) = tables := by
        have decided := append_spent (.scoped t) known
        rw [decided]
        split_ifs <;> rfl
      rw [unchanged]
      by_cases same : (fromReceipt t receipt).exactFact = identity
      · subst same
        obtain ⟨first, found⟩ : ∃ first, tables.receipts.find?
            (fun other => other.exactFact = (fromReceipt t receipt).exactFact) = some first := by
          rw [← Option.isSome_iff_exists, List.find?_isSome]
          exact ⟨row, member, by simpa using key⟩
        rw [found, Option.some_or]
      · rw [if_neg same, Option.or_none]

theorem ledgerRun_answers (events : List LedgerEvent) (fit : FitHistory events) :
    Answers (ledgerRun kernel events).committed (attempts events).done ∧
      Answers (ledgerRun kernel events).working
        ((attempts events).done ++ (attempts events).pending) := by
  induction events using List.reverseRecOn with
  | nil => exact ⟨fun _ => rfl, fun _ => rfl⟩
  | append_singleton events event ih =>
      obtain ⟨committed, working⟩ := ih (fun t receipt member =>
        fit t receipt (List.mem_append_left _ member))
      rw [ledgerRun_snoc, attempts_snoc]
      cases event with
      | append t receipt =>
          have fits := fit t receipt (by simp)
          have next := answers_append (ledgerRun_guarded kernel events).2 working t fits
          rw [List.append_assoc] at next
          simp only [LedgerRun.next, Attempts.next]
          cases ran : (SqlAlchemyReceiptLedger.scoped t).append kernel
              (ledgerRun kernel events).working receipt with
          | ok tables =>
              simp only [ran] at next
              exact ⟨committed, next⟩
          | error e =>
              simp only [ran] at next
              exact ⟨committed, next⟩
      | commit =>
          refine ⟨working, ?_⟩
          simpa only [LedgerRun.next, Attempts.next, List.append_nil] using working
      | rollback =>
          refine ⟨committed, ?_⟩
          simpa only [LedgerRun.next, Attempts.next, List.append_nil] using committed

/-- What an append does under an identity the table already holds. -/
theorem append_present {tables : Tables Digest} (guarded : tables.Guarded kernel) {t : UUID}
    {receipt : AdapterReceipt} {row : AdapterReceiptRow} (member : row ∈ tables.receipts)
    (same : row.exactFact = (fromReceipt t receipt).exactFact) :
    (SqlAlchemyReceiptLedger.scoped t).append kernel tables receipt =
      if row.fingerprint = receipt.fact.fingerprint ∧ row.outcome = receipt.outcome.value then
        .ok tables
      else .error .idempotencyConflict := by
  have spent := guarded.stored_of_mem member
  rw [(rowKey_eq_iff kernel).mpr same, rowKey_fromReceipt] at spent
  have decided := append_spent (.scoped t) spent
  rw [decided, ← rowPrint_fromReceipt kernel t]
  simp only [rowPrint_eq_iff, fromReceipt]

/-- The kernel's decision comes first, so a row that would break the constraint is
    never offered to the table. -/
theorem append_never_breaks_constraint {tables : Tables Digest} (guarded : tables.Guarded kernel)
    (t : UUID) (receipt : AdapterReceipt) :
    (SqlAlchemyReceiptLedger.scoped t).append kernel tables receipt ≠
      .error (.integrityError "uq_cloud_receipt_exact_fact") := by
  cases known : tables.spent kernel t receipt with
  | none =>
      cases fits : (fromReceipt t receipt).columnFault with
      | none =>
          rw [append_fresh guarded known fits]
          simp
      | some column =>
          rw [append_fresh_unfit known fits]
          simp
  | some print =>
      have decided := append_spent (.scoped t) known
      rw [decided]
      split_ifs <;> simp

/-- The receipt table is the map from exact facts to the first receipt committed
    under them, held in step with the kernel's records; an append under a known
    identity replays or is refused and writes nothing. -/
theorem ledger_write_once (kernel : Kernel Digest) (events : List LedgerEvent)
    (fit : FitHistory events) :
    (∀ identity, (ledgerRun kernel events).committed.receipts.find?
        (fun row => row.exactFact = identity) = firstRow (attempts events).done identity) ∧
    ((ledgerRun kernel events).committed.receipts.map exactFact).Nodup ∧
    (∀ tables, tables = (ledgerRun kernel events).committed ∨
        tables = (ledgerRun kernel events).working →
      (tables.records.map (fun entry => (entry.key, entry.fingerprint)) =
          tables.receipts.map (fun row => (rowKey kernel row, rowPrint kernel row)) ∧
        (tables.records.map (fun entry => entry.key)).Nodup) ∧
      (∀ t receipt, ∀ row ∈ tables.receipts,
        row.exactFact = (fromReceipt t receipt).exactFact →
        (SqlAlchemyReceiptLedger.scoped t).append kernel tables receipt =
          if row.fingerprint = receipt.fact.fingerprint ∧ row.outcome = receipt.outcome.value then
            .ok tables
          else .error .idempotencyConflict) ∧
      (∀ t receipt, (SqlAlchemyReceiptLedger.scoped t).append kernel tables receipt ≠
        .error (.integrityError "uq_cloud_receipt_exact_fact"))) := by
  obtain ⟨committed, working⟩ := ledgerRun_guarded kernel events
  refine ⟨(ledgerRun_answers events fit).1, exactFacts_distinct committed, ?_⟩
  intro tables reached
  have guarded : tables.Guarded kernel := by
    rcases reached with rfl | rfl
    · exact committed
    · exact working
  refine ⟨⟨guarded.mirrors, ?_⟩, ?_, append_never_breaks_constraint guarded⟩
  · rw [guarded.mirrors.keys]
    exact guarded.distinct
  · intro t receipt row member same
    exact append_present guarded member same

end History

/-- The invoice's first receipt again, with the other outcome. -/
def refusedReceipt : AdapterReceipt := { invoiceReceipt with outcome := .refused }

/-- A receipt of a later version of the invoice. -/
def correctedReceipt : AdapterReceipt :=
  { invoiceReceipt with
    fact := { invoiceReceipt.fact with
      sourceVersion := 3
      fingerprint := "sha256:corrected"
      positive := by decide
      fingerprintText := by decide } }

/-- A conflicting append and a replay, an append that is rolled back, and a later version. -/
def invoiceHistory : List LedgerEvent := [
  .append 1 invoiceReceipt, .append 1 refusedReceipt, .commit,
  .append 2 refusedReceipt, .append 1 invoiceReceipt, .rollback,
  .append 1 invoiceReceipt, .append 1 correctedReceipt, .commit]

theorem invoiceHistory_fit : FitHistory invoiceHistory := by
  intro t receipt member
  simp only [invoiceHistory, List.mem_cons, LedgerEvent.append.injEq, List.not_mem_nil, or_false,
    reduceCtorEq, false_or] at member
  rcases member with ⟨-, rfl⟩ | ⟨-, rfl⟩ | ⟨-, rfl⟩ | ⟨-, rfl⟩ | ⟨-, rfl⟩ | ⟨-, rfl⟩ <;> decide

/-- The first receipt stands, replays, and refuses the other outcome; the rolled back one
    left nothing. -/
theorem ledger_write_once_invoice :
    (ledgerRun plainKernel invoiceHistory).committed.receipts =
        [fromReceipt 1 invoiceReceipt, fromReceipt 1 correctedReceipt] ∧
      (ledgerRun plainKernel invoiceHistory).committed.receipts.find?
        (fun row => row.exactFact = (fromReceipt 2 refusedReceipt).exactFact) = none ∧
      ((ledgerRun plainKernel invoiceHistory).committed.receipts.map exactFact).Nodup ∧
      (SqlAlchemyReceiptLedger.scoped 1).append plainKernel (ledgerRun plainKernel invoiceHistory).committed
        invoiceReceipt = .ok (ledgerRun plainKernel invoiceHistory).committed ∧
      (SqlAlchemyReceiptLedger.scoped 1).append plainKernel (ledgerRun plainKernel invoiceHistory).committed
        refusedReceipt = .error .idempotencyConflict := by
  have rows : (ledgerRun plainKernel invoiceHistory).committed.receipts =
      [fromReceipt 1 invoiceReceipt, fromReceipt 1 correctedReceipt] := by decide +kernel
  have member : fromReceipt 1 invoiceReceipt ∈ (ledgerRun plainKernel invoiceHistory).committed.receipts := by
    rw [rows]
    exact List.mem_cons_self
  obtain ⟨first, distinct, tables⟩ := ledger_write_once plainKernel invoiceHistory invoiceHistory_fit
  obtain ⟨-, present, -⟩ := tables _ (.inl rfl)
  refine ⟨rows, (first _).trans (by decide +kernel), distinct, ?_, ?_⟩
  · exact (present 1 invoiceReceipt _ member rfl).trans (if_pos ⟨rfl, rfl⟩)
  · exact (present 1 refusedReceipt _ member rfl).trans (if_neg (by decide))

end DotmacCloud
