import DotmacCloud.Confinement

/-! # One tenant cannot tell what the others do

The part of the database and of the open transactions that belongs to one tenant
changes only by that tenant's own steps, and those depend on nothing but the part.
Which connection a session borrows, and what is left on it, is not part of it.
-/

namespace DotmacCloud

open Foundation AtMostOnce AdapterReceiptRow

section Noninterference

variable {Digest : Type} {t : UUID}

/-! ## What a session's statement depends on -/

/-- The unique constraint leads with the tenant. -/
theorem any_exactFact {rows : List AdapterReceiptRow} {row : AdapterReceiptRow}
    (tenant : row.tenantId = t) :
    rows.any (fun other => other.exactFact == row.exactFact) = true ↔
      ∃ other ∈ ofTenant t rows, other.exactFact = row.exactFact := by
  simp only [List.any_eq_true, beq_iff_eq]
  constructor
  · rintro ⟨other, member, equal⟩
    have led := (congrArg ExactFact.tenantId equal).trans tenant
    exact ⟨other, mem_ofTenant.mpr ⟨member, led⟩, equal⟩
  · rintro ⟨other, member, equal⟩
    exact ⟨other, (mem_ofTenant.mp member).1, equal⟩

/-- Whether an insert is refused depends on the session's own rows only. -/
theorem insertRow_congr {rows rows' : List AdapterReceiptRow}
    (same : ofTenant t rows = ofTenant t rows') (row : AdapterReceiptRow) :
    insertRow (some t.str) rows' row =
      (insertRow (some t.str) rows row).map (fun _ => rows' ++ [row]) := by
  cases fits : row.columnFault with
  | some column => simp only [insertRow, fits, Except.map]
  | none =>
      by_cases admitted : policyAdmits (some t.str) row.tenantId = true
      · have tenant := (policyAdmits_str t row.tenantId).mp admitted
        have taken : rows'.any (fun other => other.exactFact == row.exactFact) =
            rows.any (fun other => other.exactFact == row.exactFact) := by
          rw [Bool.eq_iff_iff, any_exactFact tenant, any_exactFact tenant, same]
        simp only [insertRow, fits, taken]
        split_ifs <;> rfl
      · simp only [insertRow, fits, if_pos admitted, Except.map]

theorem receiptsFor_congr (rows rows' : List AdapterReceiptRow)
    (same : ofTenant t rows = ofTenant t rows') (orderBy : OrderBy) (u : UUID) (adapter : String) (keys : List FactKey) :
    (⟨some t.str, u⟩ : SqlAlchemyReceiptLedger).receiptsFor orderBy rows adapter keys =
      (⟨some t.str, u⟩ : SqlAlchemyReceiptLedger).receiptsFor orderBy rows' adapter keys := by
  simp only [SqlAlchemyReceiptLedger.receiptsFor, visibleRows_str, same]

/-- The committed tables and the identities in flight agree on what belongs to `t`. -/
structure Agree (t : UUID) (committed committed' : Tables Digest) (inFlight inFlight' : ExactFact → Bool) :
    Prop where
  receipts : ofTenant t committed.receipts = ofTenant t committed'.receipts
  records : recordsOf t committed.records = recordsOf t committed'.records
  inFlight : ∀ identity : ExactFact, identity.tenantId = t → inFlight identity = inFlight' identity

section Statement

variable {tx : Transaction Digest} {committed committed' : Tables Digest}
  {inFlight inFlight' : ExactFact → Bool}

theorem Agree.rows (agree : Agree t committed committed' inFlight inFlight') :
    ofTenant t (tx.rows committed) = ofTenant t (tx.rows committed') := by
  simp only [ofTenant, Transaction.rows, List.filter_append]
  exact congrArg (· ++ _) agree.receipts

theorem Agree.seen_records (agree : Agree t committed committed' inFlight inFlight')
    (confined : tx.Confined t) : (tx.seen committed).records = (tx.seen committed').records := by
  simp only [Transaction.seen, confined.visible, agree.records]

variable [DecidableEq Digest] {kernel : Kernel Digest} {orderBy : OrderBy}

theorem Agree.append (agree : Agree t committed committed' inFlight inFlight') (confined : tx.Confined t)
    (ledgerTenant : UUID) (receipt : AdapterReceipt) :
    tx.execute kernel orderBy committed inFlight (.append ledgerTenant receipt) =
      tx.execute kernel orderBy committed' inFlight' (.append ledgerTenant receipt) := by
  have spent : (tx.seen committed).spent kernel ledgerTenant receipt =
      (tx.seen committed').spent kernel ledgerTenant receipt := by
    simp only [Tables.spent, agree.seen_records confined]
  have held : policyAdmits tx.setting ledgerTenant = true →
      inFlight (fromReceipt ledgerTenant receipt).exactFact =
        inFlight' (fromReceipt ledgerTenant receipt).exactFact := by
    intro admitted
    apply agree.inFlight
    rwa [confined.setting, policyAdmits_str] at admitted
  have waiting : ((tx.seen committed).spent kernel ledgerTenant receipt = none ∧
      policyAdmits tx.setting ledgerTenant = true ∧
        inFlight (fromReceipt ledgerTenant receipt).exactFact = true) ↔
      ((tx.seen committed').spent kernel ledgerTenant receipt = none ∧
        policyAdmits tx.setting ledgerTenant = true ∧
          inFlight' (fromReceipt ledgerTenant receipt).exactFact = true) := by
    rw [spent]
    exact and_congr_right (fun _ => and_congr_right (fun admitted => by rw [held admitted]))
  simp only [Transaction.execute, append_eq]
  by_cases failed : tx.failed = true
  · simp only [if_pos failed]
  · by_cases waits : (tx.seen committed').spent kernel ledgerTenant receipt = none ∧
        policyAdmits tx.setting ledgerTenant = true ∧
          inFlight' (fromReceipt ledgerTenant receipt).exactFact = true
    · simp only [if_neg failed, if_pos waits, if_pos (waiting.mpr waits)]
    · simp only [if_neg failed, if_neg waits, if_neg (mt waiting.mp waits)]
      rw [spent]
      cases (tx.seen committed').spent kernel ledgerTenant receipt with
      | some known =>
          by_cases same : known = handledFingerprint kernel receipt
          · simp only [if_pos same, Transaction.seen, Transaction.rows, List.drop_left]
          · simp only [if_neg same]
      | none =>
          have visible : ofTenant t (tx.seen committed').receipts = ofTenant t (tx.seen committed).receipts :=
            agree.rows.symm
          simp only [confined.setting, insertRow_congr visible]
          cases insertRow (some t.str) (tx.seen committed').receipts (fromReceipt ledgerTenant receipt) with
          | error e => rfl
          | ok rows =>
              simp only [Except.map, Transaction.seen, Transaction.rows, List.append_assoc, List.drop_left]

theorem Agree.receiptsFor (agree : Agree t committed committed' inFlight inFlight')
    (confined : tx.Confined t) (ledgerTenant : UUID) (adapter : String) (keys : List FactKey) :
    tx.execute kernel orderBy committed inFlight (.receiptsFor ledgerTenant adapter keys) =
      tx.execute kernel orderBy committed' inFlight' (.receiptsFor ledgerTenant adapter keys) := by
  have same := receiptsFor_congr (tx.rows committed) (tx.rows committed') agree.rows orderBy ledgerTenant
    adapter keys
  simp only [Transaction.execute, confined.setting, same]

theorem Agree.selectAll (agree : Agree t committed committed' inFlight inFlight')
    (confined : tx.Confined t) :
    tx.execute kernel orderBy committed inFlight .selectAll =
      tx.execute kernel orderBy committed' inFlight' .selectAll := by
  have visible : visibleRows tx.setting (tx.rows committed) =
      visibleRows tx.setting (tx.rows committed') := by
    rw [confined.setting, visibleRows_str, visibleRows_str, agree.rows]
  simp only [Transaction.execute, visible]

theorem Agree.insert (agree : Agree t committed committed' inFlight inFlight') (confined : tx.Confined t)
    (row : AdapterReceiptRow) :
    tx.execute kernel orderBy committed inFlight (.insert row) =
      tx.execute kernel orderBy committed' inFlight' (.insert row) := by
  have visible : ofTenant t (tx.rows committed') = ofTenant t (tx.rows committed) := agree.rows.symm
  simp only [Transaction.execute, confined.setting, insertRow_congr visible]
  cases inserted : insertRow (some t.str) (tx.rows committed') row with
  | error e => simp only [Except.map]
  | ok rows =>
      obtain ⟨rfl, -, admitted, -⟩ := insertRow_eq_ok inserted
      have held := agree.inFlight row.exactFact ((policyAdmits_str t row.tenantId).mp admitted)
      simp only [Except.map, held, Transaction.rows, List.append_assoc, List.drop_left]

theorem Agree.execute (agree : Agree t committed committed' inFlight inFlight') (confined : tx.Confined t)
    (statement : Statement) :
    tx.execute kernel orderBy committed inFlight statement =
      tx.execute kernel orderBy committed' inFlight' statement := by
  cases statement with
  | append ledgerTenant receipt => exact agree.append confined ledgerTenant receipt
  | receiptsFor ledgerTenant adapter keys => exact agree.receiptsFor confined ledgerTenant adapter keys
  | selectAll => exact agree.selectAll confined
  | insert row => exact agree.insert confined row

end Statement

/-! ## The part of one tenant -/

/-- What belongs to one tenant: its rows, its kernel records and its transactions. -/
def World.part (t : UUID) (w : World Digest) : World Digest where
  committed := ⟨ofTenant t w.committed.receipts, recordsOf t w.committed.records⟩
  idle := []
  transactions := w.transactions.filter (fun entry => entry.1.tenantId = t)

/-- A tenant's own event, without the connection it lands on and what is left there. -/
def PoolEvent.own (t : UUID) : PoolEvent → Option PoolEvent
  | .begin session _ => if session.tenantId = t then some (.begin session 0) else none
  | .execute session statement =>
      if session.tenantId = t then some (.execute session statement) else none
  | .commit session _ => if session.tenantId = t then some (.commit session .null) else none
  | .raise session _ => if session.tenantId = t then some (.raise session .null) else none
  | .outside _ => none

/-- One step over a tenant's part alone. -/
def World.partStep [DecidableEq Digest] (kernel : Kernel Digest) (orderBy : OrderBy) (t : UUID) (w : World Digest)
    (event : PoolEvent) : World Digest × Result :=
  let (next, result) := w.step kernel orderBy event
  (next.part t, result)

namespace World

variable {w : World Digest} {session : SessionId} {tx : Transaction Digest}

theorem part_part : (w.part t).part t = w.part t := by
  simp only [part, ofTenant_ofTenant, recordsOf_recordsOf, List.filter_filter, Bool.and_self]

theorem part_committed (w : World Digest) (tables : Tables Digest) :
    ({ w with committed := tables } : World Digest).part t =
      { w.part t with committed := ⟨ofTenant t tables.receipts, recordsOf t tables.records⟩ } := rfl

theorem find_part (mine : session.tenantId = t) : (w.part t).find session = w.find session := by
  simp only [find, part, List.find?_filter]
  congr 2
  funext entry
  by_cases named : entry.1 = session
  · simp [named, mine]
  · simp [named]

theorem part_put : (w.put session tx).part t = (w.part t).put session tx := by
  simp only [part, put, World.mk.injEq, true_and, List.filter_map]
  congr 1
  apply List.filter_congr
  intro entry _
  by_cases named : entry.1 = session
  · simp [named]
  · simp [named]

theorem part_put_other (other : session.tenantId ≠ t) : (w.put session tx).part t = w.part t := by
  have kept : ∀ entry ∈ (w.part t).transactions,
      (if entry.1 = session then (session, tx) else entry) = id entry := by
    intro entry member
    have tenant := of_decide_eq_true (List.mem_filter.mp member).2
    apply if_neg
    intro named
    exact other (named ▸ tenant)
  rw [part_put]
  simp only [put, List.map_congr_left kept, List.map_id]

theorem part_close (residue : Residue) :
    (w.close session residue).part t = ((w.part t).close session .null).part t := by
  simp only [part, close, ofTenant_ofTenant, recordsOf_recordsOf, List.filter_filter]
  congr 1
  apply List.filter_congr
  intro entry _
  cases decide (entry.1.tenantId = t) <;> simp

theorem part_close_other (other : session.tenantId ≠ t) (residue : Residue) :
    (w.close session residue).part t = w.part t := by
  simp only [part, close, List.filter_filter]
  congr 1
  apply List.filter_congr
  intro entry _
  by_cases tenant : entry.1.tenantId = t
  · have unnamed : entry.1 ≠ session := fun named => other (named ▸ tenant)
    simp [tenant, unnamed]
  · simp [tenant]

/-- Identities in flight under a tenant are its own sessions'. -/
theorem Confined.inFlight_part (confined : w.Confined) {identity : ExactFact}
    (tenant : identity.tenantId = t) :
    w.inFlight session identity = (w.part t).inFlight session identity := by
  simp only [inFlight, part, List.any_filter]
  rw [Bool.eq_iff_iff]
  simp only [List.any_eq_true, Bool.and_eq_true, decide_eq_true_eq]
  constructor
  · rintro ⟨entry, member, apart, row, written, named⟩
    have owned := (confined.transactions entry member).rows row written
    have mine : entry.1.tenantId = t := by
      rw [← owned, ← tenant, ← named]
      rfl
    exact ⟨entry, member, mine, apart, row, written, named⟩
  · rintro ⟨entry, member, -, held⟩
    exact ⟨entry, member, held⟩

theorem Confined.agree (confined : w.Confined) (session : SessionId) :
    Agree t w.committed (w.part t).committed (w.inFlight session) ((w.part t).inFlight session) :=
  ⟨(ofTenant_ofTenant _).symm, (recordsOf_recordsOf _).symm, fun _ tenant => confined.inFlight_part tenant⟩

variable [DecidableEq Digest] {kernel : Kernel Digest} {orderBy : OrderBy}

/-- Other tenants' steps leave the part alone. -/
theorem Confined.silent (confined : w.Confined) {event : PoolEvent} (other : event.own t = none) :
    (w.step kernel orderBy event).1.part t = w.part t := by
  cases event with
  | begin session connection =>
      have away : session.tenantId ≠ t := by simpa [PoolEvent.own] using other
      simp only [World.step]
      cases w.find session with
      | some known => rfl
      | none => simp [part, List.filter_append, away]
  | execute session statement =>
      have away : session.tenantId ≠ t := by simpa [PoolEvent.own] using other
      simp only [World.step]
      cases w.find session with
      | none => rfl
      | some tx => exact part_put_other away
  | commit session residue =>
      have away : session.tenantId ≠ t := by simpa [PoolEvent.own] using other
      simp only [World.step]
      cases found : w.find session with
      | none => rfl
      | some tx =>
          have closed : (w.close session residue).part t = w.part t := part_close_other away residue
          have own := confined.found found
          simp only
          split_ifs
          · exact closed
          · rw [part_committed, closed, ofTenant_append, recordsOf_append, own.other_rows away,
              own.other_records away, List.append_nil, List.append_nil]
            rfl
  | raise session residue =>
      have away : session.tenantId ≠ t := by simpa [PoolEvent.own] using other
      simp only [World.step]
      cases w.find session with
      | none => rfl
      | some tx => exact part_close_other away residue
  | outside connection => rfl

/-- A tenant's own step reads nothing but the part. -/
theorem Confined.answered (confined : w.Confined) {event mine : PoolEvent} (own : event.own t = some mine) :
    (w.step kernel orderBy event).1.part t = ((w.part t).partStep kernel orderBy t mine).1 ∧
      (w.step kernel orderBy event).2 = ((w.part t).partStep kernel orderBy t mine).2 := by
  cases event with
  | begin session connection =>
      obtain ⟨tenant, rfl⟩ : session.tenantId = t ∧ .begin session 0 = mine := by
        simpa [PoolEvent.own] using own
      simp only [World.step, partStep, find_part tenant]
      cases w.find session with
      | some known => exact ⟨part_part.symm, rfl⟩
      | none =>
          refine ⟨?_, rfl⟩
          simp [part, ofTenant_ofTenant, recordsOf_recordsOf, List.filter_append, tenant]
  | execute session statement =>
      obtain ⟨tenant, rfl⟩ : session.tenantId = t ∧ .execute session statement = mine := by
        simpa [PoolEvent.own] using own
      simp only [World.step, partStep, find_part tenant]
      cases found : w.find session with
      | none => exact ⟨part_part.symm, rfl⟩
      | some tx =>
          have same : tx.execute kernel orderBy w.committed (w.inFlight session) statement =
              tx.execute kernel orderBy (w.part t).committed ((w.part t).inFlight session) statement :=
            (confined.agree session).execute (tenant ▸ confined.found found) statement
          simp only [same, part_put, part_part, and_self]
  | commit session residue =>
      obtain ⟨tenant, rfl⟩ : session.tenantId = t ∧ .commit session .null = mine := by
        simpa [PoolEvent.own] using own
      simp only [World.step, partStep, find_part tenant]
      cases w.find session with
      | none => exact ⟨part_part.symm, rfl⟩
      | some tx =>
          simp only
          split_ifs
          · exact ⟨part_close residue, rfl⟩
          · refine ⟨?_, rfl⟩
            rw [part_committed, part_committed, part_close]
            simp only [part, ofTenant_append, recordsOf_append, ofTenant_ofTenant, recordsOf_recordsOf]
  | raise session residue =>
      obtain ⟨tenant, rfl⟩ : session.tenantId = t ∧ .raise session .null = mine := by
        simpa [PoolEvent.own] using own
      simp only [World.step, partStep, find_part tenant]
      cases w.find session with
      | none => exact ⟨part_part.symm, rfl⟩
      | some tx => exact ⟨part_close residue, rfl⟩
  | outside connection => cases own

theorem unwinds (kernel : Kernel Digest) (orderBy : OrderBy) (t : UUID) :
    Unwinding.Unwinds (World.step kernel orderBy) Confined (PoolEvent.own t) (part t)
      (partStep kernel orderBy t) where
  kept := fun _ event confined => confined.step event
  silent := fun _ _ confined other => confined.silent other
  answered := fun _ _ _ confined own => confined.answered own

/-- What a tenant's own events are answered. -/
abbrev answersTo (kernel : Kernel Digest) (orderBy : OrderBy) (t : UUID) (w : World Digest)
    (events : List PoolEvent) : List Result :=
  Unwinding.answers (World.step kernel orderBy) (fun event => (event.own t).isSome) w events

end World

/-- Two runs that agree on a tenant's events answer them alike and leave the tenant the
    same rows; every row written carries its session's tenant, and a statement outside
    the sessions reads none. -/
theorem tenant_noninterference [DecidableEq Digest] (kernel : Kernel Digest) (orderBy : OrderBy)
    (t : UUID) (before before' : Tables Digest) (events events' : List PoolEvent)
    (rows : ofTenant t before.receipts = ofTenant t before'.receipts)
    (records : recordsOf t before.records = recordsOf t before'.records)
    (own : events.filterMap (PoolEvent.own t) = events'.filterMap (PoolEvent.own t)) :
    (World.opened before).answersTo kernel orderBy t events =
        (World.opened before').answersTo kernel orderBy t events' ∧
      ofTenant t ((World.opened before).run kernel orderBy events).committed.receipts =
        ofTenant t ((World.opened before').run kernel orderBy events').committed.receipts ∧
      (∀ session tx, (session, tx) ∈ ((World.opened before).run kernel orderBy events).transactions →
        ∀ row ∈ tx.writes.receipts, row.tenantId = session.tenantId) ∧
      (∀ event, ∃ written,
        (((World.opened before).run kernel orderBy events).step kernel orderBy event).1.committed.receipts =
          ((World.opened before).run kernel orderBy events).committed.receipts ++ written ∧
        ∀ row ∈ written, ∃ session residue, event = .commit session residue ∧
          row.tenantId = session.tenantId) ∧
      ∀ connection,
        (((World.opened before).run kernel orderBy events).step kernel orderBy
          (.outside connection)).2 = .rows [] := by
  have agree : (World.opened before).part t = (World.opened before').part t := by
    simp only [World.opened, World.part, rows, records]
  obtain ⟨parts, answers⟩ := (World.unwinds kernel orderBy t).noninterference
    (World.opened_confined before) (World.opened_confined before') agree own
  have confined : ((World.opened before).run kernel orderBy events).Confined :=
    (World.opened_confined before).run events
  refine ⟨answers, ?_, ?_, confined.written, confined.outside⟩
  · exact congrArg (fun w : World Digest => w.committed.receipts) parts
  · intro session tx member
    exact (confined.transactions (session, tx) member).rows

end Noninterference

/-- One tenant hands an invoice off, reads its rows and forges a row of another. -/
private def ownSession (session : SessionId) (other : UUID) : List PoolEvent :=
  [.begin session 0, .execute session (.append session.tenantId invoiceReceipt),
    .execute session .selectAll, .commit session .empty,
    .begin session 0, .execute session (.insert (fromReceipt other invoiceReceipt)),
    .raise session .null]

/-- The other tenant refuses the same fact, and its connection is read without a session. -/
private def otherSession (session : SessionId) : List PoolEvent :=
  [.begin session 3,
    .execute session (.append session.tenantId { invoiceReceipt with outcome := .refused }),
    .commit session .null, .outside 0]

theorem tenant_noninterference_same_fact :
    (World.opened Tables.empty).answersTo plainKernel ⟨id, fun _ => List.Perm.refl _⟩ 1
        (otherSession ⟨2, 0⟩ ++ ownSession ⟨1, 0⟩ 2) =
      (World.opened Tables.empty).answersTo plainKernel ⟨id, fun _ => List.Perm.refl _⟩ 1
        (ownSession ⟨1, 0⟩ 2) :=
  (tenant_noninterference plainKernel ⟨id, fun _ => List.Perm.refl _⟩ 1 Tables.empty Tables.empty
    (otherSession ⟨2, 0⟩ ++ ownSession ⟨1, 0⟩ 2) (ownSession ⟨1, 0⟩ 2) rfl rfl rfl).1

end DotmacCloud
