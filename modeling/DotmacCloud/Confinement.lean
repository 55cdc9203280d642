import DotmacCloud.TenantSessions

/-! # Sessions keep to their tenant

Whatever ledger a transaction builds and whatever rows it inserts, it writes under the
tenant it was opened for and under no other. A connection in the pool carries no
tenant, so a statement outside a session reads nothing.
-/

namespace DotmacCloud

open Foundation AtMostOnce AdapterReceiptRow

/-! ## What is one tenant's -/

section Tenant

variable {Digest : Type} {t : UUID}

/-- The rows of one tenant. -/
def ofTenant (t : UUID) (rows : List AdapterReceiptRow) : List AdapterReceiptRow :=
  rows.filter (fun row => row.tenantId = t)

/-- The kernel records of one tenant. -/
def recordsOf (t : UUID) (records : List (IdempotencyRecord Digest)) : List (IdempotencyRecord Digest) :=
  records.filter (fun record => record.key.tenantId = t)

theorem mem_ofTenant {rows : List AdapterReceiptRow} {row : AdapterReceiptRow} :
    row ∈ ofTenant t rows ↔ row ∈ rows ∧ row.tenantId = t := by
  simp only [ofTenant, List.mem_filter, decide_eq_true_eq]

theorem ofTenant_append (rows more : List AdapterReceiptRow) :
    ofTenant t (rows ++ more) = ofTenant t rows ++ ofTenant t more := by
  unfold ofTenant
  apply List.filter_append

theorem recordsOf_append (records more : List (IdempotencyRecord Digest)) :
    recordsOf t (records ++ more) = recordsOf t records ++ recordsOf t more := by
  unfold recordsOf
  apply List.filter_append

theorem ofTenant_ofTenant (rows : List AdapterReceiptRow) :
    ofTenant t (ofTenant t rows) = ofTenant t rows := by
  simp only [ofTenant, List.filter_filter, Bool.and_self]

theorem recordsOf_recordsOf (records : List (IdempotencyRecord Digest)) :
    recordsOf t (recordsOf t records) = recordsOf t records := by
  simp only [recordsOf, List.filter_filter, Bool.and_self]

theorem visibleRows_str (rows : List AdapterReceiptRow) :
    visibleRows (some t.str) rows = ofTenant t rows := by
  apply List.filter_congr
  intro row _
  rw [Bool.eq_iff_iff, policyAdmits_str, decide_eq_true_eq]

end Tenant

section Confinement

variable {Digest : Type}

/-! ## Transactions -/

/-- A transaction runs under its tenant and wrote nothing under any other. -/
structure Transaction.Confined (u : UUID) (tx : Transaction Digest) : Prop where
  setting : tx.setting = some u.str
  rows : ∀ row ∈ tx.writes.receipts, row.tenantId = u
  records : ∀ record ∈ tx.writes.records, record.key.tenantId = u

namespace Transaction.Confined

variable {t u : UUID} {tx : Transaction Digest}

theorem visible (confined : tx.Confined u) (records : List (IdempotencyRecord Digest)) :
    tx.records records = recordsOf u records := by
  apply List.filter_congr
  intro record _
  rw [confined.setting, Bool.eq_iff_iff, policyAdmits_str, decide_eq_true_eq]

theorem own_records (confined : tx.Confined u) : tx.records tx.writes.records = tx.writes.records := by
  rw [confined.visible, recordsOf, List.filter_eq_self]
  intro record member
  exact decide_eq_true (confined.records record member)

theorem other_rows (confined : tx.Confined u) (other : u ≠ t) : ofTenant t tx.writes.receipts = [] := by
  rw [ofTenant, List.filter_eq_nil_iff]
  intro row member
  rw [confined.rows row member, decide_eq_true_eq]
  exact other

theorem other_records (confined : tx.Confined u) (other : u ≠ t) : recordsOf t tx.writes.records = [] := by
  rw [recordsOf, List.filter_eq_nil_iff]
  intro record member
  rw [confined.records record member, decide_eq_true_eq]
  exact other

theorem after (confined : tx.Confined u) (error : Raised) : (tx.after error).Confined u :=
  ⟨confined.setting, confined.rows, confined.records⟩

theorem wrote (confined : tx.Confined u) {rows : List AdapterReceiptRow}
    {records : List (IdempotencyRecord Digest)} (rows_own : ∀ row ∈ rows, row.tenantId = u)
    (records_own : ∀ record ∈ records, record.key.tenantId = u) :
    Transaction.Confined u { tx with
      writes := ⟨tx.writes.receipts ++ rows, tx.writes.records ++ records⟩ } := by
  refine ⟨confined.setting, ?_, ?_⟩
  · intro row member
    rcases List.mem_append.mp member with known | new
    · exact confined.rows row known
    · exact rows_own row new
  · intro record member
    rcases List.mem_append.mp member with known | new
    · exact confined.records record known
    · exact records_own record new

end Transaction.Confined

section Written

variable [DecidableEq Digest] {kernel : Kernel Digest} {orderBy : OrderBy}

/-- A row is written under a tenant the policy admits, with a record of that tenant. -/
theorem append_admitted {ledger : SqlAlchemyReceiptLedger} {seen tables : Tables Digest}
    {receipt : AdapterReceipt} (returned : ledger.append kernel seen receipt = .ok tables) :
    tables = seen ∨
      policyAdmits ledger.setting ledger.tenantId = true ∧
        tables = ⟨seen.receipts ++ [fromReceipt ledger.tenantId receipt],
          seen.records ++ [recordOf kernel ledger.tenantId receipt]⟩ := by
  rw [append_eq] at returned
  cases spent : seen.spent kernel ledger.tenantId receipt with
  | some known =>
      simp only [spent] at returned
      split_ifs at returned with same
      exact .inl (Except.ok.inj returned).symm
  | none =>
      simp only [spent] at returned
      cases inserted : insertRow ledger.setting seen.receipts (fromReceipt ledger.tenantId receipt) with
      | error e =>
          rw [inserted] at returned
          cases returned
      | ok rows =>
          obtain ⟨-, -, admitted, -⟩ := insertRow_eq_ok inserted
          rw [inserted] at returned
          exact .inr ⟨admitted, (Except.ok.inj returned).symm⟩

/-- The policy's WITH CHECK and the tenant of the record's key keep every statement
    inside the session's tenant. -/
theorem Transaction.Confined.execute {u : UUID} {tx : Transaction Digest} (confined : tx.Confined u)
    (committed : Tables Digest) (inFlight : ExactFact → Bool) (statement : Statement) :
    (tx.execute kernel orderBy committed inFlight statement).1.Confined u := by
  cases statement with
  | append ledgerTenant receipt =>
      simp only [Transaction.execute]
      split_ifs with failed held
      · exact confined
      · exact confined
      · cases ran : (⟨tx.setting, ledgerTenant⟩ : SqlAlchemyReceiptLedger).append kernel
          (tx.seen committed) receipt with
        | error e => exact confined.after e
        | ok tables =>
            rcases append_admitted ran with rfl | ⟨admitted, rfl⟩
            · simp only [Transaction.seen, Transaction.rows, List.drop_left, confined.own_records]
              exact confined
            · have tenant : ledgerTenant = u := by
                rwa [confined.setting, policyAdmits_str] at admitted
              simp only [Transaction.seen, Transaction.rows, List.append_assoc, List.drop_left,
                confined.own_records]
              apply confined.wrote
              · intro row member
                rw [List.mem_singleton.mp member]
                exact tenant
              · intro record member
                rw [List.mem_singleton.mp member]
                exact tenant
  | receiptsFor ledgerTenant adapter keys =>
      simp only [Transaction.execute]
      split_ifs with failed
      · exact confined
      · split <;> exact confined
  | selectAll =>
      simp only [Transaction.execute]
      split_ifs <;> exact confined
  | insert row =>
      simp only [Transaction.execute]
      cases inserted : insertRow tx.setting (tx.rows committed) row with
      | error e =>
          split_ifs
          · exact confined
          · exact confined.after e
          · exact confined.after e
      | ok rows =>
          obtain ⟨rfl, -, admitted, -⟩ := insertRow_eq_ok inserted
          rw [confined.setting, policyAdmits_str] at admitted
          simp only [Transaction.rows, List.append_assoc, List.drop_left]
          split_ifs
          · exact confined
          · exact confined
          · refine ⟨confined.setting, ?_, confined.records⟩
            intro other member
            rcases List.mem_append.mp member with known | new
            · exact confined.rows other known
            · rw [List.mem_singleton.mp new]
              exact admitted

end Written

/-! ## The pool -/

namespace World

structure Confined (w : World Digest) : Prop where
  idle : ∀ setting ∈ w.idle, currentTenant setting = none
  transactions : ∀ entry ∈ w.transactions, entry.2.Confined entry.1.tenantId

variable {w : World Digest} {session : SessionId} {tx : Transaction Digest}

theorem find_mem (found : w.find session = some tx) : (session, tx) ∈ w.transactions := by
  simp only [find, Option.map_eq_some_iff] at found
  obtain ⟨entry, searched, rfl⟩ := found
  have named := List.find?_some searched
  simp only [decide_eq_true_eq] at named
  rw [← named]
  exact List.mem_of_find?_eq_some searched

theorem opened_confined (tables : Tables Digest) : (opened tables).Confined :=
  ⟨fun _ member => absurd member (List.not_mem_nil), fun _ member => absurd member (List.not_mem_nil)⟩

theorem Confined.found (confined : w.Confined) (found : w.find session = some tx) :
    tx.Confined session.tenantId := confined.transactions (session, tx) (find_mem found)

theorem residue_unset (residue : Residue) : currentTenant residue.setting = none := by
  cases residue
  · exact currentTenant_none
  · exact currentTenant_empty

theorem Confined.put (confined : w.Confined) (own : tx.Confined session.tenantId) :
    (w.put session tx).Confined := by
  refine ⟨confined.idle, ?_⟩
  intro entry member
  obtain ⟨earlier, known, rfl⟩ := List.mem_map.mp member
  split_ifs
  · exact own
  · exact confined.transactions earlier known

theorem Confined.close (confined : w.Confined) (residue : Residue) : (w.close session residue).Confined := by
  constructor
  · intro setting member
    rcases List.mem_append.mp member with known | new
    · exact confined.idle setting known
    · rw [List.mem_singleton.mp new]
      exact residue_unset residue
  · intro entry member
    exact confined.transactions entry (List.mem_of_mem_filter member)

/-- Whichever connection is borrowed, no tenant is set on it. -/
theorem Confined.borrowed (confined : w.Confined) (connection : Nat) :
    currentTenant (w.idle[connection]?.getD none) = none := by
  cases taken : w.idle[connection]? with
  | none => exact currentTenant_none
  | some setting => exact confined.idle setting (List.mem_of_getElem? taken)

variable [DecidableEq Digest] {kernel : Kernel Digest} {orderBy : OrderBy}

theorem Confined.step (confined : w.Confined) (event : PoolEvent) :
    (w.step kernel orderBy event).1.Confined := by
  cases event with
  | begin session connection =>
      simp only [World.step]
      cases w.find session with
      | some open_tx => exact confined
      | none =>
          constructor
          · intro setting member
            exact confined.idle setting (List.mem_of_mem_eraseIdx member)
          · intro entry member
            rcases List.mem_append.mp member with known | new
            · exact confined.transactions entry known
            · rw [List.mem_singleton.mp new]
              exact ⟨rfl, fun _ none_yet => absurd none_yet List.not_mem_nil,
                fun _ none_yet => absurd none_yet List.not_mem_nil⟩
  | execute session statement =>
      simp only [World.step]
      cases found : w.find session with
      | none => exact confined
      | some tx => exact confined.put ((confined.found found).execute _ _ statement)
  | commit session residue =>
      simp only [World.step]
      cases found : w.find session with
      | none => exact confined
      | some tx =>
          simp only
          split_ifs
          · exact confined.close residue
          · have closed : (w.close session residue).Confined := confined.close residue
            exact ⟨closed.idle, closed.transactions⟩
  | raise session residue =>
      simp only [World.step]
      cases found : w.find session with
      | none => exact confined
      | some tx => exact confined.close residue
  | outside connection =>
      constructor
      · intro setting member
        rcases List.mem_append.mp member with known | new
        · exact confined.idle setting (List.mem_of_mem_eraseIdx known)
        · rw [List.mem_singleton.mp new]
          exact confined.borrowed connection
      · exact confined.transactions

theorem Confined.run (confined : w.Confined) (events : List PoolEvent) :
    (w.run kernel orderBy events).Confined := by
  apply Unwinding.finish_keeps _ _ confined
  intro s event kept
  exact kept.step event

/-- The committed rows only grow, by the rows of a session that commits. -/
theorem Confined.written (confined : w.Confined) (event : PoolEvent) :
    ∃ rows, (w.step kernel orderBy event).1.committed.receipts = w.committed.receipts ++ rows ∧
      ∀ row ∈ rows, ∃ session residue, event = .commit session residue ∧
        row.tenantId = session.tenantId := by
  have nothing : ∀ next : World Digest, next.committed = w.committed →
      ∃ rows, next.committed.receipts = w.committed.receipts ++ rows ∧
        ∀ row ∈ rows, ∃ session residue, event = .commit session residue ∧
          row.tenantId = session.tenantId := by
    intro next same
    refine ⟨[], ?_, ?_⟩
    · rw [same, List.append_nil]
    · intro row member
      cases member
  cases event with
  | begin session connection =>
      simp only [World.step]
      cases w.find session <;> exact nothing _ rfl
  | execute session statement =>
      simp only [World.step]
      cases w.find session <;> exact nothing _ rfl
  | commit session residue =>
      simp only [World.step]
      cases found : w.find session with
      | none => exact nothing _ rfl
      | some tx =>
          simp only
          split_ifs
          · exact nothing _ rfl
          · refine ⟨tx.writes.receipts, rfl, ?_⟩
            intro row member
            exact ⟨session, residue, rfl, (confined.found found).rows row member⟩
  | raise session residue =>
      simp only [World.step]
      cases w.find session <;> exact nothing _ rfl
  | outside connection => exact nothing _ rfl

/-- Outside a session the policy admits no row. -/
theorem Confined.outside (confined : w.Confined) (connection : Nat) :
    (w.step kernel orderBy (.outside connection)).2 = .rows [] := by
  simp only [World.step, visibleRows, policyAdmits, confined.borrowed connection, Result.rows.injEq,
    List.filter_eq_nil_iff]
  intro row _ admitted
  cases admitted

end World

end Confinement

end DotmacCloud
