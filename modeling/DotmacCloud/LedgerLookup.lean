import DotmacCloud.LedgerHistory
import DotmacCloud.Verdicts

/-! # Reading the ledger back for a reconciliation

A lookup returns the tenant's receipts of one adapter under the requested keys, in
an order the database chooses. Rows of other keys, adapters and tenants cannot
change a verdict, and neither can the order: the ledger holds one row for each
version of a key.
-/

namespace DotmacCloud

open Foundation AtMostOnce AdapterReceiptRow

/-- Every row of the table was built from a receipt. -/
def Written (rows : List AdapterReceiptRow) : Prop :=
  ∀ row ∈ rows, ∃ receipt, row = fromReceipt row.tenantId receipt

theorem Written.snoc {rows : List AdapterReceiptRow} (written : Written rows) (t : UUID)
    (receipt : AdapterReceipt) : Written (rows ++ [fromReceipt t receipt]) := by
  intro row member
  rcases List.mem_append.mp member with earlier | last
  · exact written row earlier
  · obtain rfl := List.mem_singleton.mp last
    exact ⟨receipt, rfl⟩

theorem Written.receipts {rows : List AdapterReceiptRow} (written : Written rows) {t : UUID}
    (owned : ∀ row ∈ rows, row.tenantId = t) :
    ∃ receipts : List AdapterReceipt, rows = receipts.map (fromReceipt t) := by
  induction rows with
  | nil => exact ⟨[], rfl⟩
  | cons row rest ih =>
      obtain ⟨receipts, same⟩ := ih (fun other member => written other (List.mem_cons_of_mem _ member))
        (fun other member => owned other (List.mem_cons_of_mem _ member))
      obtain ⟨receipt, built⟩ := written row List.mem_cons_self
      rw [owned row List.mem_cons_self] at built
      exact ⟨receipt :: receipts, by rw [List.map_cons, ← built, ← same]⟩

theorem mapM_toReceipt (t : UUID) (receipts : List AdapterReceipt) :
    (receipts.map (fromReceipt t)).mapM toReceipt = .ok receipts := by
  induction receipts with
  | nil => rfl
  | cons receipt rest ih =>
      simp only [List.map_cons, List.mapM_cons, toReceipt_fromReceipt, ih, bind, Except.bind, pure,
        Except.pure]

/-- A lookup returns exactly the tenant's receipts of this adapter under these keys,
    and none of them twice. -/
theorem receiptsFor_spec {rows : List AdapterReceiptRow} (written : Written rows) (t : UUID)
    (orderBy : OrderBy) {adapter : String} (text : ¬ blank adapter) (keys : List FactKey) :
    ∃ received, (SqlAlchemyReceiptLedger.scoped t).receiptsFor orderBy rows adapter keys =
        .ok received ∧
      (∀ receipt, receipt ∈ received ↔
        fromReceipt t receipt ∈ rows ∧ receipt.adapter = adapter ∧ receipt.fact.key ∈ keys) ∧
      (rows.Nodup → received.Nodup) := by
  let identities := (keys.map (fun key => (key.sourceOwner, key.sourceRef))).dedup
  have requested : ∀ key : FactKey, (key.sourceOwner, key.sourceRef) ∈ identities ↔ key ∈ keys := by
    intro key
    simp only [identities, List.mem_dedup, List.mem_map, Prod.mk.injEq]
    constructor
    · rintro ⟨other, member, owner, ref⟩
      rwa [← FactKey.ext owner ref]
    · exact fun member => ⟨key, member, rfl, rfl⟩
  let selected := (visibleRows (some t.str) rows).filter (fun row =>
    row.tenantId = t ∧ row.adapter = adapter ∧ (row.sourceOwner, row.sourceRef) ∈ identities)
  have inside : ∀ row, row ∈ orderBy.sort selected ↔ row ∈ rows ∧ row.tenantId = t ∧
      row.adapter = adapter ∧ (row.sourceOwner, row.sourceRef) ∈ identities := by
    intro row
    rw [(orderBy.perm selected).mem_iff]
    simp only [selected, visibleRows, List.mem_filter, decide_eq_true_eq, policyAdmits_str]
    tauto
  have sorted : Written (orderBy.sort selected) :=
    fun row member => written row ((inside row).mp member).1
  obtain ⟨received, same⟩ := sorted.receipts (fun row member => ((inside row).mp member).2.1)
  have content : ∀ receipt, receipt ∈ received ↔
      fromReceipt t receipt ∈ rows ∧ receipt.adapter = adapter ∧ receipt.fact.key ∈ keys := by
    intro receipt
    have mapped : receipt ∈ received ↔ fromReceipt t receipt ∈ orderBy.sort selected := by
      rw [same, List.mem_map]
      constructor
      · exact fun member => ⟨receipt, member, rfl⟩
      · rintro ⟨other, member, equal⟩
        rwa [← fromReceipt_injective equal]
    rw [mapped, inside]
    constructor
    · rintro ⟨member, -, owner, key⟩
      exact ⟨member, owner, (requested receipt.fact.key).mp key⟩
    · rintro ⟨member, owner, key⟩
      exact ⟨member, rfl, owner, (requested receipt.fact.key).mpr key⟩
  have once : rows.Nodup → received.Nodup := by
    intro distinct
    have kept : (orderBy.sort selected).Nodup :=
      (orderBy.perm selected).nodup_iff.mpr ((distinct.filter _).filter _)
    rw [same] at kept
    exact kept.of_map
  by_cases none : identities = []
  · refine ⟨[], ?_, ?_, fun _ => List.nodup_nil⟩
    · simp only [SqlAlchemyReceiptLedger.receiptsFor, if_neg text]
      exact if_pos none
    · intro receipt
      have absent : receipt.fact.key ∉ keys := by
        rw [← requested, none]
        exact List.not_mem_nil
      simp [absent]
  · refine ⟨received, ?_, content, once⟩
    simp only [SqlAlchemyReceiptLedger.receiptsFor, if_neg text]
    refine (if_neg none).trans ?_
    have read := mapM_toReceipt t received
    rw [← same] at read
    exact read

section Lookup

variable {Digest : Type} [DecidableEq Digest] {kernel : Kernel Digest} {tables tables' : Tables Digest}

theorem append_written {ledger : SqlAlchemyReceiptLedger} {receipt : AdapterReceipt}
    (written : Written tables.receipts)
    (returned : ledger.append kernel tables receipt = .ok tables') : Written tables'.receipts := by
  rcases append_cases returned with ⟨-, -, rfl⟩ | ⟨-, rfl⟩
  · exact written.snoc _ _
  · exact written

theorem ledgerRun_written (events : List LedgerEvent) :
    Written (ledgerRun kernel events).committed.receipts ∧
      Written (ledgerRun kernel events).working.receipts := by
  induction events using List.reverseRecOn with
  | nil =>
      have empty : Written [] := fun row member => absurd member List.not_mem_nil
      exact ⟨empty, empty⟩
  | append_singleton events event ih =>
      rw [ledgerRun_snoc]
      cases event with
      | append t receipt =>
          simp only [LedgerRun.next]
          split
          · rename_i tables returned
            exact ⟨ih.1, append_written ih.2 returned⟩
          · exact ih
      | commit => exact ⟨ih.2, ih.2⟩
      | rollback => exact ⟨ih.1, ih.1⟩

omit [DecidableEq Digest] in
/-- One tenant's receipts of one adapter never tie: the unique constraint leaves one
    row for each version of a key. -/
theorem held_distinct (guarded : tables.Guarded kernel) {t : UUID} {adapter : String}
    {held : List AdapterReceipt}
    (inside : ∀ receipt ∈ held, fromReceipt t receipt ∈ tables.receipts ∧ receipt.adapter = adapter) :
    Newest.Distinct (fun receipt => receipt.fact.key) (fun receipt => receipt.fact.sourceVersion)
      held := by
  intro a memberA b memberB (key : a.fact.key = b.fact.key) version
  obtain ⟨rowA, adapterA⟩ := inside a memberA
  obtain ⟨rowB, adapterB⟩ := inside b memberB
  have same : (fromReceipt t a).exactFact = (fromReceipt t b).exactFact := by
    simp only [exactFact, fromReceipt, ExactFact.mk.injEq, true_and]
    exact ⟨adapterA.trans adapterB.symm, by rw [key], by rw [key], version⟩
  exact fromReceipt_injective (guarded.unique rowA rowB ((rowKey_eq_iff kernel).mpr same))

/-- Reconciling against every receipt the adapter holds, in any order, gives the
    report of the restricted lookup. -/
theorem reconcile_lookup (events : List LedgerEvent) (t : UUID) (orderBy : OrderBy) (adapter : String)
    (published : List SourceFact) (keys : List FactKey) (held : List AdapterReceipt)
    (reached : tables = (ledgerRun kernel events).committed ∨
      tables = (ledgerRun kernel events).working)
    (text : ¬ blank adapter) (requested : ∀ fact ∈ published, fact.key ∈ keys)
    (all : (held.map (fromReceipt t)).Perm
      (tables.receipts.filter (fun row => row.tenantId = t ∧ row.adapter = adapter))) :
    ∃ received, (SqlAlchemyReceiptLedger.scoped t).receiptsFor orderBy tables.receipts adapter keys =
        .ok received ∧
      reconcile published held = reconcile published received := by
  have guarded : tables.Guarded kernel := by
    rcases reached with rfl | rfl
    · exact (ledgerRun_guarded kernel events).1
    · exact (ledgerRun_guarded kernel events).2
  have written : Written tables.receipts := by
    rcases reached with rfl | rfl
    · exact (ledgerRun_written events).1
    · exact (ledgerRun_written events).2
  have holds : ∀ receipt, receipt ∈ held ↔
      fromReceipt t receipt ∈ tables.receipts ∧ receipt.adapter = adapter := by
    intro receipt
    have mapped : receipt ∈ held ↔ fromReceipt t receipt ∈ held.map (fromReceipt t) := by
      rw [List.mem_map]
      constructor
      · exact fun member => ⟨receipt, member, rfl⟩
      · rintro ⟨other, member, equal⟩
        rwa [← fromReceipt_injective equal]
    rw [mapped, all.mem_iff]
    simp [List.mem_filter, fromReceipt]
  obtain ⟨received, read, content, -⟩ := receiptsFor_spec written t orderBy text keys
  refine ⟨received, read, reconcile_congr ?_⟩
  intro fact member
  apply Newest.newest_congr (held_distinct guarded (fun receipt inside => (holds receipt).mp inside))
  intro receipt key
  rw [holds, content]
  have asked : receipt.fact.key ∈ keys := by
    rw [key]
    exact requested fact member
  simp [asked]

end Lookup

/-- The invoice's receipt, by another adapter. -/
def exportedInvoice : AdapterReceipt :=
  { invoiceReceipt with adapter := "billing-to-ledger", adapterText := by decide }

/-- Two versions of one invoice, another invoice, another adapter and another tenant. -/
def billingHistory : List LedgerEvent :=
  invoiceHistory ++ [.append 1 otherInvoice, .append 1 exportedInvoice, .append 2 otherInvoice, .commit]

/-- The adapter's receipts in another order than the table's, and a database that returns
    its rows backwards: what one key needs is found, and the unhandled fact of the other is
    reported the same. -/
theorem reconcile_lookup_invoice :
    ∃ received, (SqlAlchemyReceiptLedger.scoped 1).receiptsFor ⟨List.reverse, List.reverse_perm⟩
        (ledgerRun plainKernel billingHistory).committed.receipts invoiceReceipt.adapter
        [correctedReceipt.fact.key, otherInvoice.fact.key] = .ok received ∧
      reconcile [correctedReceipt.fact, { otherInvoice.fact with sourceVersion := 4, positive := by decide }]
          [otherInvoice, correctedReceipt, invoiceReceipt] =
        reconcile [correctedReceipt.fact, { otherInvoice.fact with sourceVersion := 4, positive := by decide }]
          received := by
  apply reconcile_lookup billingHistory 1 _ _ _ _ _ (.inl rfl) (by decide)
  · simp
  · have rows : ([otherInvoice, correctedReceipt, invoiceReceipt].map (fromReceipt 1)).Perm
        ([invoiceReceipt, correctedReceipt, otherInvoice].map (fromReceipt 1)) :=
      (List.reverse_perm [invoiceReceipt, correctedReceipt, otherInvoice]).map _
    apply rows.trans
    apply List.Perm.of_eq
    decide +kernel

end DotmacCloud
