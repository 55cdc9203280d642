import DotmacCloud.Noninterference
import DotmacCloud.SharedDatabase

/-! # One tenant's part of the shared database

Every statement of a session is a statement of the transaction its tenant's part shows,
or ends the session. A scope that names another tenant reads nothing and writes
nothing; a ledger of another tenant appends nothing.
-/

namespace DotmacCloud

open Foundation AtMostOnce AdapterReceiptRow

/-! ## One tenant's part -/

/-- The terms of a caller that links nothing. -/
def Terms.unlinked (terms : Terms) : Terms :=
  { terms with taxFor := fun _ => .ok noTax, resolveBillingAccount := fun _ _ => .ok none }

/-- A call as its session's tenant sees it. A foreign scope never charges: the call
    either ends the session or is refused. -/
def Call.delivery (t : UUID) (call : Call) : Delivery :=
  ⟨if call.scope.tenantId = t then call.terms else call.terms.unlinked, call.output⟩

def CallPhase.part (t : UUID) : CallPhase → Phase
  | .ready => .ready
  | .refusing call fact => .refusing (call.delivery t) fact
  | .charged call fact => .charged (call.delivery t) fact
  | .recorded call => .recorded (call.delivery t)

section Part

variable {Digest : Type}

def Session.part (t : UUID) (w : Session Digest) : Worker Digest :=
  ⟨w.phase.part t, w.todo.map (Call.delivery t), w.writes.of t⟩

/-- The places of other tenants' sessions stay, as transactions that ended. -/
def SharedSystem.part (t : UUID) (s : SharedSystem Digest) : System Digest where
  committed := s.committed.of t
  workers := s.sessions.map (fun place =>
    place.bind (fun w => if w.tenantId = t then some (w.part t) else none))

end Part

/-! ## Selecting a tenant's rows -/

section Rows

variable {α Digest : Type} {t u : UUID}

theorem owned_append (rows more : List (UUID × α)) :
    owned t (rows ++ more) = owned t rows ++ owned t more := by
  simp only [owned, List.filter_append, List.map_append]

theorem owned_tagged (rows : List α) : owned t (tagged t rows) = rows := by
  induction rows with
  | nil => rfl
  | cons row rest ih =>
      simp only [owned, tagged] at ih
      simp [owned, tagged, ih]

theorem owned_tagged_other (other : u ≠ t) (rows : List α) : owned t (tagged u rows) = [] := by
  simp [owned, tagged, other]

theorem readable_own (rows : List (UUID × α)) : readable (some t.str) t rows = owned t rows := by
  simp [readable, owned, policyAdmits_str]

theorem readable_other (other : u ≠ t) (rows : List (UUID × α)) :
    readable (some t.str) u rows = [] := by
  simp only [readable, List.map_eq_nil_iff, List.filter_eq_nil_iff, decide_eq_true_eq, policyAdmits_str]
  intro row _ both
  exact other (both.2 ▸ both.1)

namespace Database

variable {db base writes : Database Digest}

theorem of_join (base writes : Database Digest) :
    (base.join writes).of t = (base.of t).join (writes.of t) := by
  simp only [of, join, TenantState.join, owned_append, ofTenant_append, recordsOf_append]

theorem of_empty : (empty : Database Digest).of t = .empty := rfl

theorem of_emit (db : Database Digest) (output : RatedObligationOutputV1) :
    (db.emit t output).of t = (db.of t).emit output := by
  have tail : owned t (db.outputs ++ [(t, output)]) = owned t db.outputs ++ [output] := by
    rw [owned_append]
    exact congrArg _ (owned_tagged [output])
  by_cases newer : ∀ known ∈ owned t db.outputs, known.occurrenceId = output.occurrenceId →
      known.generation < output.generation
  · have shared : db.emit t output = { db with outputs := db.outputs ++ [(t, output)] } := if_pos newer
    have own : (db.of t).emit output = { db.of t with outputs := owned t db.outputs ++ [output] } :=
      if_pos newer
    rw [shared, own]
    simp only [of, tail]
  · have shared : db.emit t output = db := if_neg newer
    have own : (db.of t).emit output = db.of t := if_neg newer
    rw [shared, own]

theorem of_emit_other (other : u ≠ t) (db : Database Digest) (output : RatedObligationOutputV1) :
    (db.emit u output).of t = db.of t := by
  have tail : owned t (db.outputs ++ [(u, output)]) = owned t db.outputs := by
    rw [owned_append]
    exact (congrArg _ (owned_tagged_other other [output])).trans (List.append_nil _)
  simp only [emit]
  split_ifs
  · simp only [of, tail]
  · rfl

theorem records_str (db : Database Digest) : db.records (some t.str) = recordsOf t db.tables.records := by
  apply List.filter_congr
  intro record _
  rw [Bool.eq_iff_iff, policyAdmits_str, decide_eq_true_eq]

/-- What a session reads for its own tenant is the tenant's part. -/
theorem view_own (db : Database Digest) :
    db.view (some t.str) ⟨t⟩ = { db.of t with tables := ⟨db.tables.receipts, (db.of t).tables.records⟩ } := by
  simp only [view, of, readable_own, records_str]

end Database

end Rows

/-! ## Sessions keep to their tenant -/

/-- A call that charged was made for the session's own tenant. -/
def CallPhase.Own (t : UUID) : CallPhase → Prop
  | .charged call _ | .recorded call => call.scope.tenantId = t
  | _ => True

section Confinement

variable {Digest : Type} {t : UUID}

structure Session.Confined (w : Session Digest) : Prop where
  phase : w.phase.Own w.tenantId
  others : ∀ u, u ≠ w.tenantId → w.writes.of u = .empty

def SharedSystem.Confined (s : SharedSystem Digest) : Prop := ∀ i w, s.Live i w → w.Confined

namespace SharedSystem

variable {s : SharedSystem Digest} {i : Nat} {w w' : Session Digest}

theorem part_live (live : s.Live i w) (mine : w.tenantId = t) : (s.part t).Live i (w.part t) := by
  have known : s.sessions[i]? = some (some w) := live
  simp only [System.Live, part, List.getElem?_map, known, Option.map_some, Option.bind_some, if_pos mine]

theorem part_put (mine : w.tenantId = t) : (s.put i w).part t = (s.part t).put i (w.part t) := by
  simp only [part, put, System.put, List.map_set, Option.bind_some, if_pos mine]

theorem part_drop : (s.drop i).part t = (s.part t).drop i := by
  simp only [part, drop, System.drop, List.map_set, Option.bind_none]

/-- The place of another tenant's session is empty in the part. -/
theorem part_put_other (other : w.tenantId ≠ t) : (s.put i w).part t = (s.part t).drop i := by
  simp only [part, put, System.drop, List.map_set, Option.bind_some, if_neg other]

theorem part_begin (todo : List Call) :
    (s.begin t todo).part t = (s.part t).begin (todo.map (Call.delivery t)) := by
  simp only [part, begin, System.begin, List.map_append, List.map_singleton, Option.bind_some,
    if_true, Session.part, CallPhase.part, Database.of_empty]

theorem part_begin_other {u : UUID} (other : u ≠ t) (todo : List Call) :
    (s.begin u todo).part t = ((s.part t).begin []).drop (s.part t).workers.length := by
  simp only [part, begin, System.begin, System.drop, List.map_append, List.map_singleton, Option.bind_some,
    if_neg other, List.set_append_right _ _ (le_refl _), Nat.sub_self, List.set_cons_zero]

theorem live_put {j : Nat} (live : (s.put i w').Live j w) : w = w' ∨ s.Live j w := by
  simp only [Live, put, List.getElem?_set] at live
  split_ifs at live with same inside
  · left
    simpa using live.symm
  · exact .inr live

theorem live_drop {j : Nat} (live : (s.drop i).Live j w) : s.Live j w := by
  simp only [Live, drop, List.getElem?_set] at live
  split_ifs at live with same inside
  · cases live
  · exact live

theorem live_begin {j : Nat} {todo : List Call} (live : (s.begin t todo).Live j w) :
    w = ⟨t, .ready, todo, .empty⟩ ∨ s.Live j w := by
  simp only [Live, begin, List.getElem?_append] at live
  split_ifs at live with inside
  · exact .inr live
  · rw [List.getElem?_singleton] at live
    split_ifs at live
    left
    simpa using live.symm

theorem Confined.put (confined : s.Confined) (own : w.Confined) : (s.put i w).Confined := by
  intro j v live
  rcases live_put live with rfl | known
  · exact own
  · exact confined j v known

theorem Confined.drop (confined : s.Confined) : (s.drop i).Confined :=
  fun j v live => confined j v (live_drop live)

theorem Confined.begin (confined : s.Confined) (todo : List Call) : (s.begin t todo).Confined := by
  intro j v live
  rcases live_begin live with rfl | known
  · exact ⟨trivial, fun _ _ => rfl⟩
  · exact confined j v known

end SharedSystem

end Confinement

/-! ## The append under the policy -/

section Append

variable {Digest : Type} [DecidableEq Digest] {kernel : Kernel Digest} {t : UUID}

/-- The kernel shows a session no record of another tenant. -/
theorem stored_other {records : List (IdempotencyRecord Digest)} {key : RecordKey Digest}
    (other : key.tenantId ≠ t) : stored (recordsOf t records) key = none := by
  simp only [stored, Option.map_eq_none_iff, List.find?_eq_none, decide_eq_true_eq]
  intro record member same
  have mine : record.key.tenantId = t := by simpa [recordsOf] using (List.mem_filter.mp member).2
  exact other (same ▸ mine)

/-- A returning append of a session was made with the ledger of its own tenant, and is
    the append of that tenant's part: it adds the same rows and records. -/
theorem append_own {ledgerTenant : UUID} {receipts : List AdapterReceiptRow}
    {records : List (IdempotencyRecord Digest)} {tables : Tables Digest} {receipt : AdapterReceipt}
    (returned : (⟨some t.str, ledgerTenant⟩ : SqlAlchemyReceiptLedger).append kernel
      ⟨receipts, recordsOf t records⟩ receipt = .ok tables) :
    ledgerTenant = t ∧ ∃ rows more,
      tables = ⟨receipts ++ rows, recordsOf t records ++ more⟩ ∧
      (∀ row ∈ rows, row.tenantId = t) ∧ (∀ record ∈ more, record.key.tenantId = t) ∧
      (SqlAlchemyReceiptLedger.scoped t).append kernel ⟨ofTenant t receipts, recordsOf t records⟩ receipt =
        .ok ⟨ofTenant t receipts ++ rows, recordsOf t records ++ more⟩ := by
  rw [append_eq] at returned
  cases spent : Tables.spent kernel ⟨receipts, recordsOf t records⟩ ledgerTenant receipt with
  | some known =>
      simp only [spent] at returned
      split_ifs at returned with replay
      obtain rfl := Except.ok.inj returned
      have mine : ledgerTenant = t := by
        by_contra other
        have hidden : Tables.spent kernel ⟨receipts, recordsOf t records⟩ ledgerTenant receipt = none :=
          stored_other other
        rw [hidden] at spent
        cases spent
      subst mine
      refine ⟨rfl, [], [], by simp only [List.append_nil], ?_, ?_, ?_⟩
      · intro row member
        cases member
      · intro record member
        cases member
      · rw [append_spent _ spent, if_pos replay, List.append_nil, List.append_nil]
  | none =>
      simp only [spent] at returned
      cases inserted : insertRow (some t.str) receipts (fromReceipt ledgerTenant receipt) with
      | error e =>
          rw [inserted] at returned
          cases returned
      | ok rows =>
          obtain ⟨-, -, admitted, -⟩ := insertRow_eq_ok inserted
          have mine : ledgerTenant = t := (policyAdmits_str t ledgerTenant).mp admitted
          subst mine
          rw [inserted] at returned
          refine ⟨rfl, [fromReceipt ledgerTenant receipt], [recordOf kernel ledgerTenant receipt],
            (Except.ok.inj returned).symm, ?_, ?_, ?_⟩
          · intro row member
            rw [List.mem_singleton.mp member]
            rfl
          · intro record member
            rw [List.mem_singleton.mp member]
            rfl
          · have same : ofTenant ledgerTenant receipts = ofTenant ledgerTenant (ofTenant ledgerTenant receipts) :=
              (ofTenant_ofTenant receipts).symm
            have part := insertRow_congr same (fromReceipt ledgerTenant receipt)
            rw [inserted] at part
            rw [append_eq]
            simp only [SqlAlchemyReceiptLedger.scoped, spent, part, Except.map]

theorem appendReceipt_own {ledgerTenant : UUID} {receipts : List AdapterReceiptRow}
    {records : List (IdempotencyRecord Digest)} {tables : Tables Digest} {fact : SourceFact}
    {outcome : ReceiptOutcome} {observedAt : Datetime}
    (returned : appendReceipt kernel ⟨some t.str, ledgerTenant⟩ ⟨receipts, recordsOf t records⟩ fact outcome
      observedAt = .ok tables) :
    ledgerTenant = t ∧ ∃ rows more,
      tables = ⟨receipts ++ rows, recordsOf t records ++ more⟩ ∧
      (∀ row ∈ rows, row.tenantId = t) ∧ (∀ record ∈ more, record.key.tenantId = t) ∧
      appendReceipt kernel (.scoped t) ⟨ofTenant t receipts, recordsOf t records⟩ fact outcome observedAt =
        .ok ⟨ofTenant t receipts ++ rows, recordsOf t records ++ more⟩ := by
  obtain ⟨instant, rfl, appended⟩ := appendReceipt_eq_ok returned
  simp only [appendReceipt_aware]
  exact append_own appended

end Append

/-! ## A session's statements -/

section Statements

variable {Digest : Type} {t : UUID}

theorem ofTenant_own {rows : List AdapterReceiptRow} (own : ∀ row ∈ rows, row.tenantId = t) :
    ofTenant t rows = rows :=
  List.filter_eq_self.mpr (fun row member => decide_eq_true (own row member))

theorem recordsOf_own {records : List (IdempotencyRecord Digest)}
    (own : ∀ record ∈ records, record.key.tenantId = t) : recordsOf t records = records :=
  List.filter_eq_self.mpr (fun record member => decide_eq_true (own record member))

theorem ofTenant_none {u : UUID} {rows : List AdapterReceiptRow} (own : ∀ row ∈ rows, row.tenantId = u)
    (other : t ≠ u) : ofTenant t rows = [] := by
  simp only [ofTenant, List.filter_eq_nil_iff, decide_eq_true_eq]
  intro row member same
  exact other (same.symm.trans (own row member))

theorem recordsOf_none {u : UUID} {records : List (IdempotencyRecord Digest)}
    (own : ∀ record ∈ records, record.key.tenantId = u) (other : t ≠ u) : recordsOf t records = [] := by
  simp only [recordsOf, List.filter_eq_nil_iff, decide_eq_true_eq]
  intro record member same
  exact other (same.symm.trans (own record member))

theorem recordsOf_other {u : UUID} {records : List (IdempotencyRecord Digest)} (other : t ≠ u) :
    recordsOf t (recordsOf u records) = [] :=
  recordsOf_none (fun _ member => of_decide_eq_true (List.mem_filter.mp member).2) other

theorem Call.delivery_observedAt (call : Call) :
    (call.delivery t).terms.observedAt = call.terms.observedAt := by
  simp only [Call.delivery]
  split_ifs <;> rfl

variable [DecidableEq Digest] {kernel : Kernel Digest} {s s' : SharedSystem Digest} {i : Nat}
  {w : Session Digest}

/-- A key that a transaction of the part holds is held in the shared database. -/
theorem SharedSystem.busy_part {key : RecordKey Digest} (free : s.busy i key = false) :
    (s.part t).busy i key = false := by
  rw [Bool.eq_false_iff] at free ⊢
  intro held
  apply free
  obtain ⟨⟨place, j⟩, inside, wrote⟩ := List.any_eq_true.mp held
  have known := List.mem_zipIdx_iff_getElem?.mp inside
  simp only [part, List.getElem?_map, Option.map_eq_some_iff] at known
  obtain ⟨shared, there, same⟩ := known
  refine List.any_eq_true.mpr ⟨(shared, j), List.mem_zipIdx_iff_getElem?.mpr there, ?_⟩
  subst same
  cases shared with
  | none => simp at wrote
  | some v =>
      by_cases mine : v.tenantId = t
      · simp only [Option.bind_some, if_pos mine, Session.part, Bool.and_eq_true, bne_iff_ne,
          List.any_eq_true, decide_eq_true_eq] at wrote ⊢
        obtain ⟨apart, record, member, named⟩ := wrote
        exact ⟨apart, record, List.mem_of_mem_filter member, named⟩
      · simp [mine] at wrote

/-- One statement of a session: it ends, or it goes on within its tenant as the
    transaction of the part does. -/
def SharedSystem.Follows (kernel : Kernel Digest) (s : SharedSystem Digest) (i : Nat) (w : Session Digest)
    (s' : SharedSystem Digest) : Prop :=
  s' = s.drop i ∨ ∃ w' : Session Digest, s' = s.put i w' ∧ w'.tenantId = w.tenantId ∧ w'.Confined ∧
    (s.part w.tenantId).advance kernel w.tenantId i (w.part w.tenantId) =
      some ((s.part w.tenantId).put i (w'.part w.tenantId))

theorem SharedSystem.record_follows (confined : w.Confined) {call : Call} {fact : SourceFact}
    {outcome : ReceiptOutcome} {next : CallPhase} (own : next.Own w.tenantId)
    (staged : (s.part w.tenantId).advance kernel w.tenantId i (w.part w.tenantId) =
      (s.part w.tenantId).record kernel w.tenantId i (w.part w.tenantId) (call.delivery w.tenantId) fact
        outcome (next.part w.tenantId))
    (moved : s.record kernel i w call fact outcome next = some s') : s.Follows kernel i w s' := by
  simp only [SharedSystem.record] at moved
  split at moved
  · cases moved
  · rename_i free
    split at moved
    · cases moved
      exact .inl rfl
    · rename_i tables returned
      cases moved
      simp only [Session.setting, Database.view, Database.records_str] at returned
      obtain ⟨mine, rows, more, rfl, ownRows, ownRecords, part⟩ := appendReceipt_own returned
      have receipts : ((s.committed.join w.writes).tables.receipts ++ rows).drop
          s.committed.tables.receipts.length = w.writes.tables.receipts ++ rows := by
        simp only [Database.join, List.append_assoc, List.drop_left]
      have records : (recordsOf w.tenantId (s.committed.join w.writes).tables.records ++ more).drop
          (s.committed.records w.setting).length = recordsOf w.tenantId w.writes.tables.records ++ more := by
        simp only [Session.setting, Database.records_str, Database.join, recordsOf_append, List.append_assoc,
          List.drop_left]
      simp only [receipts, records]
      refine .inr ⟨_, rfl, rfl, ⟨own, ?_⟩, ?_⟩
      · intro u other
        have clean := confined.others u other
        simp only [Database.of, TenantState.empty, TenantState.mk.injEq, Tables.empty, Tables.mk.injEq] at clean ⊢
        simp only [clean, ofTenant_append, recordsOf_append, ofTenant_none ownRows other,
          recordsOf_none ownRecords other, recordsOf_other other, List.append_nil, and_self]
      · rw [staged]
        have unheld : s.busy i (System.factKey kernel w.tenantId fact) = false := by
          rw [mine] at free
          simpa only [Session.setting, policyAdmits_str, true_and, Bool.not_eq_true] using free
        have seen : (s.committed.join w.writes).of w.tenantId =
            (s.part w.tenantId).committed.join (w.part w.tenantId).writes := Database.of_join _ _
        have appended : appendReceipt kernel (.scoped w.tenantId)
            ((s.part w.tenantId).committed.join (w.part w.tenantId).writes).tables fact outcome
            (call.delivery w.tenantId).terms.observedAt = .ok
              ⟨((s.part w.tenantId).committed.join (w.part w.tenantId).writes).tables.receipts ++ rows,
                ((s.part w.tenantId).committed.join (w.part w.tenantId).writes).tables.records ++ more⟩ := by
          rw [← seen, Call.delivery_observedAt]
          exact part
        have same := since_join (s.part w.tenantId).committed (w.part w.tenantId).writes [] [] rows more
        simp only [List.append_nil] at same
        simp only [System.record, SharedSystem.busy_part unheld, Bool.false_eq_true, if_false, appended, same]
        simp only [Session.part, Database.of, ofTenant_append, recordsOf_append, ofTenant_own ownRows,
          recordsOf_own ownRecords, recordsOf_recordsOf]

theorem Call.prepare_own {call : Call} (mine : call.scope.tenantId = t) :
    prepare ⟨t⟩ (call.delivery t).terms (call.delivery t).output =
      prepare call.scope call.terms call.output := by
  subst mine
  simp only [Call.delivery, if_true]

theorem Call.charge_own {call : Call} (mine : call.scope.tenantId = t) (held : List AcceptRatedObligationV1)
    (command : AcceptRatedObligationV1) :
    charge ⟨t⟩ (call.delivery t).terms held command = charge call.scope call.terms held command := by
  subst mine
  simp only [Call.delivery, if_true]

theorem Call.prepare_foreign {call : Call} (other : call.scope.tenantId ≠ t) {fact : SourceFact}
    {command : Option AcceptRatedObligationV1}
    (prepared : prepare call.scope call.terms call.output = .ok (fact, command)) :
    prepare ⟨t⟩ (call.delivery t).terms (call.delivery t).output = .ok (fact, none) := by
  apply prepare_eq_ok.mpr
  simp only [Call.delivery, if_neg other]
  exact ⟨noTax, rfl, prepare_fact prepared, .unlinked rfl⟩

/-- What Billing holds after a charge, over what it held before. -/
theorem charge_grows {scope : TenantScope} {terms : Terms} {held obligations : List AcceptRatedObligationV1}
    {command : AcceptRatedObligationV1} (charged : charge scope terms held command = .ok (some obligations)) :
    ∃ more, obligations = held ++ more ∧ (held = [] → more ≠ []) := by
  rcases terms.billing.records (charge_eq_some.mp charged) with rfl | ⟨rfl, obligation, member, -⟩
  · exact ⟨[command], rfl, fun _ => List.cons_ne_nil _ _⟩
  · refine ⟨[], (List.append_nil _).symm, ?_⟩
    intro nothing
    rw [nothing] at member
    cases member

theorem SharedSystem.refusing_follows (confined : w.Confined) {call : Call} {rest : List Call}
    {fact : SourceFact}
    (moved : (s.part w.tenantId).advance kernel w.tenantId i (w.part w.tenantId) =
      some ((s.part w.tenantId).put i
        { w.part w.tenantId with
          phase := .refusing (call.delivery w.tenantId) fact
          todo := rest.map (Call.delivery w.tenantId) })) :
    s.Follows kernel i w (s.put i { w with phase := .refusing call fact, todo := rest }) :=
  .inr ⟨_, rfl, rfl, ⟨trivial, confined.others⟩, moved⟩

/-- A call for another tenant is refused or ends its session: Billing shows it nothing,
    and the policy keeps it from writing what it would charge. -/
theorem SharedSystem.foreign_follows (confined : w.Confined) (idle : w.phase = .ready) {call : Call}
    {rest : List Call} (queued : w.todo = call :: rest) (other : call.scope.tenantId ≠ w.tenantId)
    (moved : s.advance kernel i w = some s') : s.Follows kernel i w s' := by
  have hidden : readable w.setting call.scope.tenantId (s.committed.join w.writes).obligations = [] :=
    readable_other other _
  have refused : ∀ fact command, prepare call.scope call.terms call.output = .ok (fact, command) →
      s.Follows kernel i w (s.put i { w with phase := .refusing call fact, todo := rest }) := by
    intro fact command prepared
    apply refusing_follows confined
    simp only [System.advance, Session.part, idle, CallPhase.part, queued, List.map_cons,
      Call.prepare_foreign other prepared]
  simp only [SharedSystem.advance, idle, queued, Database.view, hidden] at moved
  split at moved
  · cases moved
    exact .inl rfl
  · rename_i fact prepared
    cases moved
    exact refused fact none prepared
  · rename_i fact command prepared
    split at moved
    · cases moved
      exact .inl rfl
    · cases moved
      exact refused fact (some command) prepared
    · rename_i obligations charged
      obtain ⟨more, rfl, written⟩ := charge_grows charged
      have denied : ¬ policyAdmits w.setting call.scope.tenantId = true := by
        rw [Session.setting, policyAdmits_str]
        exact other
      rw [if_pos ⟨by simpa using written rfl, denied⟩] at moved
      cases moved
      exact .inl rfl

theorem SharedSystem.own_follows (confined : w.Confined) (idle : w.phase = .ready) {call : Call}
    {rest : List Call} (queued : w.todo = call :: rest) (mine : call.scope.tenantId = w.tenantId)
    (moved : s.advance kernel i w = some s') : s.Follows kernel i w s' := by
  have seen : readable w.setting call.scope.tenantId (s.committed.join w.writes).obligations =
      ((s.part w.tenantId).committed.join (w.part w.tenantId).writes).obligations := by
    rw [mine]
    exact (readable_own _).trans (owned_append _ _)
  simp only [SharedSystem.advance, idle, queued, Database.view, seen] at moved
  split at moved
  · cases moved
    exact .inl rfl
  · rename_i fact prepared
    cases moved
    apply refusing_follows confined
    have same := (Call.prepare_own mine).trans prepared
    simp only [System.advance, Session.part, idle, CallPhase.part, queued, List.map_cons] at same ⊢
    simp only [same]
  · rename_i fact command prepared
    have same := (Call.prepare_own mine).trans prepared
    split at moved
    · cases moved
      exact .inl rfl
    · rename_i charged
      cases moved
      apply refusing_follows confined
      have answer := (Call.charge_own mine _ command).trans charged
      simp only [System.advance, Session.part, idle, CallPhase.part, queued, List.map_cons] at same answer ⊢
      simp only [same, answer]
    · rename_i obligations charged
      obtain ⟨more, rfl, -⟩ := charge_grows charged
      have admitted : policyAdmits w.setting call.scope.tenantId = true := by
        rw [Session.setting, policyAdmits_str]
        exact mine
      simp only [List.drop_left, admitted, not_true, and_false, if_false] at moved
      cases moved
      refine .inr ⟨_, rfl, rfl, ⟨mine, ?_⟩, ?_⟩
      · intro u other
        have clean := confined.others u other
        have apart : call.scope.tenantId ≠ u := fun same => other (same.symm.trans mine)
        simp only [Database.of, TenantState.empty, TenantState.mk.injEq] at clean ⊢
        simp only [clean, owned_append, owned_tagged_other apart, List.append_nil, and_self]
      · have answer := (Call.charge_own mine _ command).trans charged
        have writes := since_join (s.part w.tenantId).committed (w.part w.tenantId).writes [] more [] []
        simp only [List.append_nil] at writes
        simp only [System.advance, Session.part, idle, CallPhase.part, queued, List.map_cons] at same answer writes ⊢
        simp only [same, answer, writes]
        rw [mine]
        simp only [Database.of, owned_append, owned_tagged]

theorem SharedSystem.advance_follows (confined : w.Confined) (moved : s.advance kernel i w = some s') :
    s.Follows kernel i w s' := by
  cases phase : w.phase with
  | ready =>
      cases queued : w.todo with
      | nil => simp only [SharedSystem.advance, phase, queued, reduceCtorEq] at moved
      | cons call rest =>
          by_cases mine : call.scope.tenantId = w.tenantId
          · exact own_follows confined phase queued mine moved
          · exact foreign_follows confined phase queued mine moved
  | refusing call fact =>
      have next : CallPhase.Own w.tenantId .ready := trivial
      simp only [SharedSystem.advance, phase] at moved
      refine record_follows confined next ?_ moved
      simp only [System.advance, Session.part, phase, CallPhase.part]
  | charged call fact =>
      have next : CallPhase.Own w.tenantId (.recorded call) := by
        simpa only [phase, CallPhase.Own] using confined.phase
      simp only [SharedSystem.advance, phase] at moved
      refine record_follows confined next ?_ moved
      simp only [System.advance, Session.part, phase, CallPhase.part]
  | recorded call =>
      have mine : call.scope.tenantId = w.tenantId := by
        simpa only [phase, CallPhase.Own] using confined.phase
      have seen : ((s.committed.join w.writes).view w.setting call.scope).newlyAcknowledged
          call.output.occurrenceId call.terms.observedAt =
          ((s.part w.tenantId).committed.join (w.part w.tenantId).writes).newlyAcknowledged
            call.output.occurrenceId call.terms.observedAt := by
        have scope : call.scope = ⟨w.tenantId⟩ := congrArg TenantScope.mk mine
        have parts : (s.part w.tenantId).committed.join (w.part w.tenantId).writes =
            (s.committed.join w.writes).of w.tenantId := (Database.of_join _ _).symm
        rw [scope, parts, Session.setting, Database.view_own]
        rfl
      simp only [SharedSystem.advance, phase, seen] at moved
      cases moved
      refine .inr ⟨_, rfl, rfl, ⟨trivial, ?_⟩, ?_⟩
      · intro u other
        have clean := confined.others u other
        have apart : call.scope.tenantId ≠ u := fun same => other (same.symm.trans mine)
        simp only [Database.of, TenantState.empty, TenantState.mk.injEq] at clean ⊢
        simp only [clean, owned_append, owned_tagged_other apart, List.append_nil, and_self]
      · have writes := since_join (s.part w.tenantId).committed (w.part w.tenantId).writes
          (((s.part w.tenantId).committed.join (w.part w.tenantId).writes).newlyAcknowledged
            call.output.occurrenceId call.terms.observedAt) [] [] []
        simp only [List.append_nil] at writes
        have staged : (w.part w.tenantId).phase = .recorded (call.delivery w.tenantId) := by
          simp only [Session.part, phase, CallPhase.part]
        have output : (call.delivery w.tenantId).output = call.output := rfl
        simp only [System.advance, staged, TenantState.acknowledgeOutput, Call.delivery_observedAt, output,
          writes]
        rw [mine]
        simp only [Session.part, CallPhase.part, Database.of, owned_append, owned_tagged]

end Statements

end DotmacCloud
