import DotmacCloud.LedgerLookup

/-! # Storing a receipt and reading it back

The constructors of a receipt bound no text from above and no version; the columns
bound both. A new receipt is stored exactly when its columns hold it, and then a
lookup of its key returns it once. One they do not hold raises.
-/

namespace DotmacCloud

open Foundation AtMostOnce AdapterReceiptRow

section Storing

variable {Digest : Type} [DecidableEq Digest] {kernel : Kernel Digest} {tables : Tables Digest}
  {t : UUID} {receipt : AdapterReceipt}

omit [DecidableEq Digest] in
/-- A receipt whose row stands is the one receipt of its version that a lookup of
    its key returns. -/
theorem receiptsFor_once (guarded : tables.Guarded kernel) (written : Written tables.receipts)
    (orderBy : OrderBy) (member : fromReceipt t receipt ∈ tables.receipts) :
    ∃ received, (SqlAlchemyReceiptLedger.scoped t).receiptsFor orderBy tables.receipts receipt.adapter
        [receipt.fact.key] = .ok received ∧
      received.filter (fun other => other.fact.sourceVersion = receipt.fact.sourceVersion) =
        [receipt] := by
  obtain ⟨received, read, content, once⟩ :=
    receiptsFor_spec written t orderBy receipt.adapterText [receipt.fact.key]
  refine ⟨received, read, ?_⟩
  have rows : tables.receipts.Nodup := (exactFacts_distinct guarded).of_map
  have listed : receipt ∈ received :=
    (content receipt).mpr ⟨member, rfl, List.mem_singleton_self _⟩
  have distinct := held_distinct guarded (fun other inside =>
    And.intro ((content other).mp inside).1 ((content other).mp inside).2.1)
  apply List.perm_singleton.mp
  apply (List.perm_ext_iff_of_nodup ((once rows).filter _) (List.nodup_singleton receipt)).mpr
  intro other
  rw [List.mem_filter, decide_eq_true_eq, List.mem_singleton]
  constructor
  · rintro ⟨inside, version⟩
    have key := List.mem_singleton.mp ((content other).mp inside).2.2
    exact distinct other inside receipt listed key version
  · rintro rfl
    exact ⟨listed, rfl⟩

/-- A receipt new to the ledger is stored and read back when its columns hold it,
    and raises for one of them when they do not. -/
theorem receipt_stored_within_columns (events : List LedgerEvent) (orderBy : OrderBy)
    (reached : tables = (ledgerRun kernel events).committed ∨
      tables = (ledgerRun kernel events).working)
    (absent : ∀ row ∈ tables.receipts, row.exactFact ≠ (fromReceipt t receipt).exactFact) :
    (receipt.WithinColumns → ∃ tables',
      (SqlAlchemyReceiptLedger.scoped t).append kernel tables receipt = .ok tables' ∧
      ∃ received, (SqlAlchemyReceiptLedger.scoped t).receiptsFor orderBy tables'.receipts
          receipt.adapter [receipt.fact.key] = .ok received ∧
        received.filter (fun other => other.fact.sourceVersion = receipt.fact.sourceVersion) =
          [receipt]) ∧
    (¬ receipt.WithinColumns → ∃ column,
      (SqlAlchemyReceiptLedger.scoped t).append kernel tables receipt = .error (.dataError column)) := by
  have sound : tables.Guarded kernel ∧ Written tables.receipts := by
    rcases reached with rfl | rfl
    · exact ⟨(ledgerRun_guarded kernel events).1, (ledgerRun_written events).1⟩
    · exact ⟨(ledgerRun_guarded kernel events).2, (ledgerRun_written events).2⟩
  have unspent := unspent_of_absent sound.1 absent
  constructor
  · intro within
    have appended := append_fresh sound.1 unspent ((columnFault_none_iff t receipt).mpr within)
    refine ⟨_, appended, ?_⟩
    exact receiptsFor_once (append_guarded sound.1 appended) (append_written sound.2 appended) orderBy
      (List.mem_append_right _ (List.mem_singleton_self _))
  · intro beyond
    cases fault : (fromReceipt t receipt).columnFault with
    | none => exact absurd ((columnFault_none_iff t receipt).mp fault) beyond
    | some column => exact ⟨column, append_fresh_unfit unspent fault⟩

end Storing

/-- The invoice at the first version no INTEGER column holds. -/
def overflowingReceipt : AdapterReceipt :=
  { invoiceReceipt with
    fact := { invoiceReceipt.fact with sourceVersion := 2147483648, positive := by decide } }

/-- An empty ledger refuses a receipt its constructors accept. -/
theorem wellFormed_receipt_refused :
    (ledgerRun plainKernel []).committed.receipts = [] ∧
    AdapterReceipt.make overflowingReceipt.adapter overflowingReceipt.fact overflowingReceipt.outcome
      (.aware overflowingReceipt.observedAt) = .ok overflowingReceipt ∧
    (SqlAlchemyReceiptLedger.scoped 1).append plainKernel (ledgerRun plainKernel []).committed
      overflowingReceipt = .error (.dataError "source_version") := by
  refine ⟨rfl, AdapterReceipt.make_eq _, ?_⟩
  decide +kernel

/-- A version after the corrected one. -/
def reissuedReceipt : AdapterReceipt :=
  { invoiceReceipt with fact := { invoiceReceipt.fact with sourceVersion := 4, positive := by decide } }

/-- A ledger that holds two versions stores another one, and refuses the one past the column. -/
theorem invoice_stored :
    (∃ tables', (SqlAlchemyReceiptLedger.scoped 1).append plainKernel
        (ledgerRun plainKernel invoiceHistory).committed reissuedReceipt = .ok tables' ∧
      ∃ received, (SqlAlchemyReceiptLedger.scoped 1).receiptsFor ⟨List.reverse, List.reverse_perm⟩
          tables'.receipts reissuedReceipt.adapter [reissuedReceipt.fact.key] = .ok received ∧
        received.filter (fun other =>
          other.fact.sourceVersion = reissuedReceipt.fact.sourceVersion) = [reissuedReceipt]) ∧
    ∃ column, (SqlAlchemyReceiptLedger.scoped 1).append plainKernel
      (ledgerRun plainKernel invoiceHistory).committed overflowingReceipt = .error (.dataError column) :=
  ⟨(receipt_stored_within_columns invoiceHistory ⟨List.reverse, List.reverse_perm⟩ (.inl rfl)
      (by decide +kernel)).1 (by decide),
    (receipt_stored_within_columns invoiceHistory ⟨List.reverse, List.reverse_perm⟩ (.inl rfl)
      (by decide +kernel)).2 (by decide)⟩

end DotmacCloud
