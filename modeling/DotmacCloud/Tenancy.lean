import DotmacCloud.Consistency
import DotmacCloud.TenantPart

/-! # Each tenant's part is its own system

Whatever the sessions of the other tenants do, and whatever scopes and ledgers any
caller passes, the part of the shared database that belongs to one tenant moves as the
system of that tenant alone does.
-/

namespace DotmacCloud

open Foundation AtMostOnce AdapterReceiptRow

/-- A condition on the calls a transaction is opened with, where there are any. A drain
    reads its own. -/
def System.Opens {Digest : Type} (P : TenantState Digest → List Delivery → Prop) (s : System Digest) :
    Event → Prop
  | .deliver todo => todo ≠ [] → P s.committed todo
  | _ => True

/-- The same of the tenant's own sessions, in its part. -/
def SharedSystem.Opens {Digest : Type} (t : UUID) (P : TenantState Digest → List Delivery → Prop)
    (s : SharedSystem Digest) : SharedEvent → Prop
  | .deliver u todo => u = t → todo ≠ [] → P (s.committed.of t) (todo.map (Call.delivery t))
  | _ => True

/-! ## Whole runs -/

section Runs

variable {Digest : Type} [DecidableEq Digest] {kernel : Kernel Digest} {t : UUID}
  {P : TenantState Digest → List Delivery → Prop}

theorem SharedSystem.Confined.step {s s' : SharedSystem Digest} (confined : s.Confined) {event : SharedEvent}
    (moved : s.step kernel event = some s') : s'.Confined := by
  cases event with
  | emit u output =>
      cases moved
      exact confined
  | deliver u todo =>
      cases moved
      exact confined.begin todo
  | drain u terms scope ledgerTenant limit =>
      cases moved
      exact confined.begin _
  | advance i =>
      simp only [SharedSystem.step] at moved
      split at moved
      · rename_i w live
        rcases advance_follows (confined i w live) moved with rfl | ⟨w', rfl, -, own, -⟩
        · exact confined.drop
        · exact confined.put own
      · cases moved
  | commit i =>
      simp only [SharedSystem.step] at moved
      split at moved
      · cases moved
        exact fun j v live => confined j v (live_drop (s := s) live)
      · cases moved
  | rollback i =>
      cases moved
      exact confined.drop

theorem SharedSystem.Reaches.confined {meets : SharedSystem Digest → SharedEvent → Prop}
    {s : SharedSystem Digest} (reached : s.Reaches kernel meets) : s.Confined := by
  induction reached with
  | start =>
      intro i w live
      simp [SharedSystem.Live, SharedSystem.empty] at live
  | next reached met moved ih => exact ih.step moved

theorem System.Reaches.dropped {s : System Digest} (reached : s.Reaches kernel t (System.Opens P)) (i : Nat) :
    (s.drop i).Reaches kernel t (System.Opens P) := by
  have moved : s.step kernel t (.rollback i) = some (s.drop i) := rfl
  exact System.Reaches.next reached (by trivial) moved

theorem System.Reaches.begun {s : System Digest} (reached : s.Reaches kernel t (System.Opens P))
    {todo : List Delivery} (met : todo ≠ [] → P s.committed todo) : (s.begin todo).Reaches kernel t (System.Opens P) := by
  have moved : s.step kernel t (.deliver todo) = some (s.begin todo) := rfl
  refine System.Reaches.next reached ?_ moved
  exact met

/-- The session of another tenant takes a place in the part and leaves it at once. -/
theorem System.Reaches.place {s : System Digest} (reached : s.Reaches kernel t (System.Opens P)) :
    ((s.begin []).drop s.workers.length).Reaches kernel t (System.Opens P) :=
  (reached.begun (absurd rfl)).dropped _

variable {s s' : SharedSystem Digest}

omit [DecidableEq Digest] in
theorem SharedSystem.part_joined (writes : Database Digest) (i : Nat) :
    ({ s.drop i with committed := s.committed.join writes } : SharedSystem Digest).part t =
      { (s.drop i).part t with committed := (s.committed.of t).join (writes.of t) } := by
  simp only [part, Database.of_join]

omit [DecidableEq Digest] in
theorem SharedSystem.page_own (s : SharedSystem Digest) (terms : Terms) (ledgerTenant : UUID) (limit : Nat) :
    (s.page t terms ⟨t⟩ ledgerTenant limit).map (Call.delivery t) =
      ((s.part t).committed.unacknowledgedOutputs limit).map (fun output => ⟨terms, output⟩) := by
  simp only [page, Database.view_own, List.map_map]
  apply List.map_congr_left
  intro output _
  simp only [Function.comp_apply, Call.delivery, if_true]

omit [DecidableEq Digest] in
theorem SharedSystem.page_foreign (s : SharedSystem Digest) {scope : TenantScope}
    (other : scope.tenantId ≠ t) (terms : Terms) (ledgerTenant : UUID) (limit : Nat) :
    s.page t terms scope ledgerTenant limit = [] := by
  simp only [page, Database.view, TenantState.unacknowledgedOutputs, TenantState.offered,
    readable_other other, List.filter_nil, List.take_nil, List.map_nil]

/-- One step of the shared database, as the tenant's own system takes it. -/
theorem SharedSystem.Confined.part_step (confined : s.Confined) {event : SharedEvent}
    (met : s.Opens t P event) (moved : s.step kernel event = some s')
    (reached : (s.part t).Reaches kernel t (System.Opens P)) :
    (s'.part t).Reaches kernel t (System.Opens P) := by
  cases event with
  | emit u output =>
      cases moved
      by_cases mine : u = t
      · subst mine
        have own : (s.part u).step kernel u (.emit output) =
            some (SharedSystem.part u { s with committed := s.committed.emit u output }) := by
          simp only [System.step, part, Database.of_emit]
        exact System.Reaches.next reached (by trivial) own
      · simp only [part, Database.of_emit_other mine]
        exact reached
  | deliver u todo =>
      cases moved
      by_cases mine : u = t
      · subst mine
        rw [part_begin]
        exact reached.begun (fun some => met rfl (by simpa using some))
      · rw [part_begin_other mine]
        exact reached.place
  | drain u terms scope ledgerTenant limit =>
      cases moved
      by_cases mine : u = t
      · subst mine
        rw [part_begin]
        by_cases same : scope.tenantId = u
        · obtain rfl : scope = ⟨u⟩ := congrArg TenantScope.mk same
          rw [page_own]
          have own : (s.part u).step kernel u (.drain terms limit) = some ((s.part u).begin
              (((s.part u).committed.unacknowledgedOutputs limit).map (fun output => ⟨terms, output⟩))) := rfl
          exact System.Reaches.next reached (by trivial) own
        · rw [page_foreign s same]
          exact reached.begun (absurd rfl)
      · rw [part_begin_other mine]
        exact reached.place
  | advance i =>
      simp only [SharedSystem.step] at moved
      split at moved
      · rename_i w live
        rcases advance_follows (confined i w live) moved with rfl | ⟨w', rfl, tenant, -, part⟩
        · rw [part_drop]
          exact reached.dropped i
        · by_cases mine : w.tenantId = t
          · subst mine
            have inside : (s.part w.tenantId).workers[i]? = some (some (w.part w.tenantId)) :=
              part_live live rfl
            have own : (s.part w.tenantId).step kernel w.tenantId (.advance i) =
                some ((s.part w.tenantId).put i (w'.part w.tenantId)) := by
              simp only [System.step, inside, part]
            rw [part_put tenant]
            exact System.Reaches.next reached (by trivial) own
          · rw [part_put_other (tenant ▸ mine)]
            exact reached.dropped i
      · cases moved
  | commit i =>
      simp only [SharedSystem.step] at moved
      split at moved
      · rename_i u writes live
        cases moved
        by_cases mine : u = t
        · subst mine
          have inside : (s.part u).workers[i]? = some (some ⟨.ready, [], writes.of u⟩) := part_live live rfl
          have own : (s.part u).step kernel u (.commit i) = some { (s.part u).drop i with
              committed := (s.part u).committed.join (writes.of u) } := by
            simp only [System.step, inside]
          rw [part_joined, part_drop]
          exact System.Reaches.next reached (by trivial) own
        · have nothing : writes.of t = .empty := (confined i _ live).others t (Ne.symm mine)
          rw [part_joined, nothing, part_drop, TenantState.join_empty]
          exact reached.dropped i
      · cases moved
  | rollback i =>
      cases moved
      rw [part_drop]
      exact reached.dropped i

/-! ## The steps of the others -/

/-- A step of no session of the tenant, and no output of it. -/
def SharedSystem.Foreign (t : UUID) (s : SharedSystem Digest) : SharedEvent → Prop
  | .emit u _ | .deliver u _ | .drain u _ _ _ _ => u ≠ t
  | .advance i | .commit i | .rollback i => ∀ w, s.Live i w → w.tenantId ≠ t

/-- Nothing the tenant can see has changed. -/
structure System.Untouched (s s' : System Digest) : Prop where
  committed : s'.committed = s.committed
  live : ∀ i w, s'.Live i w ↔ s.Live i w

omit [DecidableEq Digest] in
theorem System.untouched_drop {s : System Digest} {i : Nat} (vacant : ∀ w, ¬ s.Live i w) :
    s.Untouched (s.drop i) := by
  refine ⟨rfl, ?_⟩
  intro j w
  constructor
  · exact fun live => (System.live_drop live).2
  · intro live
    have apart : i ≠ j := by
      rintro rfl
      exact vacant w live
    simp only [System.Live, System.drop, List.getElem?_set_ne apart]
    exact live

omit [DecidableEq Digest] in
theorem System.untouched_place (s : System Digest) :
    s.Untouched ((s.begin []).drop s.workers.length) := by
  refine ⟨rfl, ?_⟩
  intro j w
  constructor
  · intro live
    obtain ⟨apart, begun⟩ := System.live_drop live
    rcases System.live_begin begun with known | ⟨-, beyond⟩
    · exact known
    · obtain ⟨inside, -⟩ := List.getElem?_eq_some_iff.mp begun
      simp only [System.begin, List.length_append, List.length_singleton] at inside
      omega
  · intro live
    obtain ⟨inside, -⟩ := List.getElem?_eq_some_iff.mp live
    have apart : s.workers.length ≠ j := by omega
    simp only [System.Live, System.drop, System.begin, List.getElem?_set_ne apart,
      List.getElem?_append_left inside]
    exact live

omit [DecidableEq Digest] in
theorem SharedSystem.part_vacant {i : Nat} (away : ∀ w, s.Live i w → w.tenantId ≠ t) :
    ∀ w, ¬ (s.part t).Live i w := by
  intro w live
  simp only [System.Live, part, List.getElem?_map, Option.map_eq_some_iff, Option.bind_eq_some_iff] at live
  obtain ⟨place, here, v, rfl, same⟩ := live
  rw [if_neg (away v here)] at same
  cases same

theorem SharedSystem.Confined.untouched (confined : s.Confined) {event : SharedEvent}
    (moved : s.step kernel event = some s') (foreign : s.Foreign t event) :
    (s.part t).Untouched (s'.part t) := by
  cases event with
  | emit u output =>
      cases moved
      refine ⟨Database.of_emit_other foreign _ _, ?_⟩
      exact fun _ _ => Iff.rfl
  | deliver u todo =>
      cases moved
      rw [part_begin_other foreign]
      apply System.untouched_place
  | drain u terms scope ledgerTenant limit =>
      cases moved
      rw [part_begin_other foreign]
      apply System.untouched_place
  | advance i =>
      have vacant := System.untouched_drop (part_vacant foreign)
      simp only [SharedSystem.step] at moved
      split at moved
      · rename_i w live
        rcases advance_follows (confined i w live) moved with rfl | ⟨w', rfl, tenant, -, -⟩
        · rw [part_drop]
          exact vacant
        · rw [part_put_other (tenant ▸ foreign w live)]
          exact vacant
      · cases moved
  | commit i =>
      have vacant := System.untouched_drop (part_vacant foreign)
      simp only [SharedSystem.step] at moved
      split at moved
      · rename_i u writes live
        cases moved
        have nothing : writes.of t = .empty := (confined i _ live).others t (Ne.symm (foreign _ live))
        rw [part_joined, nothing, part_drop, TenantState.join_empty]
        exact vacant
      · cases moved
  | rollback i =>
      cases moved
      rw [part_drop]
      exact System.untouched_drop (part_vacant foreign)

theorem SharedSystem.Reaches.part (reached : s.Reaches kernel (SharedSystem.Opens t P)) :
    (s.part t).Reaches kernel t (System.Opens P) := by
  induction reached with
  | start => exact .start
  | next reached met moved ih => exact reached.confined.part_step met moved ih

theorem SharedSystem.Reaches.opens (reached : s.Reachable kernel) (t : UUID) :
    s.Reaches kernel (SharedSystem.Opens t (fun _ _ => True)) := by
  induction reached with
  | start => exact .start
  | @next s s' event reached met moved ih =>
      refine SharedSystem.Reaches.next ih ?_ moved
      cases event with
      | deliver u todo => exact fun _ _ => trivial
      | _ => trivial

/-! ## What the shared tables keep -/

/-- A receipt's exact fact leads with its tenant. -/
theorem hasReceipt_ofTenant {rows : List AdapterReceiptRow} {version : FactVersion} {outcome : ReceiptOutcome} :
    HasReceipt t (ofTenant t rows) version outcome ↔ HasReceipt t rows version outcome := by
  constructor
  · exact fun has => has.mono (fun row member => (mem_ofTenant.mp member).1)
  · rintro ⟨row, member, same, named⟩
    have mine : row.tenantId = t := congrArg ExactFact.tenantId same
    exact ⟨row, mem_ofTenant.mpr ⟨member, mine⟩, same, named⟩

omit [DecidableEq Digest] in
/-- What is written once for each tenant is written once. -/
theorem exactFacts_nodup {db : Database Digest} (guarded : ∀ t, (db.of t).tables.Guarded kernel) :
    (db.tables.receipts.map exactFact).Nodup := by
  rw [List.nodup_iff_count_le_one]
  intro identity
  have own := receipts_at_most_one (guarded identity.tenantId) identity
  have same : (db.of identity.tenantId).tables.receipts.filter (fun row => row.exactFact = identity) =
      db.tables.receipts.filter (fun row => row.exactFact = identity) := by
    simp only [Database.of, ofTenant, List.filter_filter]
    apply List.filter_congr
    intro row _
    by_cases named : row.exactFact = identity
    · have mine : row.tenantId = identity.tenantId := congrArg ExactFact.tenantId named
      simp [named, mine]
    · simp [named]
  rw [same] at own
  rw [List.count_eq_countP, List.countP_map, List.countP_eq_length_filter]
  simpa only [Function.comp_def, beq_eq_decide] using own

end Runs

/-- One tenant drains its charge while a session of the other passes its scope and
    its ledger. -/
def twoTenants : List SharedEvent :=
  let terms := linkedTo (some 9) recordingBilling
  [.emit 1 (monthlyCharge 7 1),
    .drain 2 terms ⟨1⟩ 1 100, .drain 1 terms ⟨1⟩ 1 100,
    .deliver 2 [⟨terms, ⟨1⟩, 1, monthlyCharge 7 1⟩], .advance 2,
    .advance 1, .advance 1, .advance 1, .commit 1, .commit 0]

private theorem twoTenants_runs : ∃ s, SharedSystem.run plainKernel twoTenants .empty = some s ∧
    HasReceipt 1 s.committed.tables.receipts (monthlyCharge 7 1).version .applied := by
  have returns : ((SharedSystem.run plainKernel twoTenants .empty).map (fun s =>
      decide (HasReceipt 1 s.committed.tables.receipts (monthlyCharge 7 1).version .applied))) =
        some true := by decide +kernel
  cases ran : SharedSystem.run plainKernel twoTenants .empty with
  | none =>
      rw [ran] at returns
      cases returns
  | some s =>
      rw [ran] at returns
      exact ⟨s, rfl, of_decide_eq_true (Option.some.inj returns)⟩

section Results

variable {Digest : Type} [DecidableEq Digest]

/-- The part of every state is reached by the tenant's own system, under the condition
    its own sessions met; and the other tenants' steps leave what it shows unchanged. -/
theorem tenant_refines (kernel : Kernel Digest) (t : UUID)
    (P : TenantState Digest → List Delivery → Prop) (s : SharedSystem Digest)
    (reached : s.Reaches kernel (SharedSystem.Opens t P)) :
    (s.part t).Reaches kernel t (System.Opens P) ∧
      ∀ event s', s.step kernel event = some s' → s.Foreign t event → (s.part t).Untouched (s'.part t) :=
  ⟨reached.part, fun _ _ moved foreign => reached.confined.untouched moved foreign⟩

/-- The tenant only drains; the other one's session takes calls of its own. -/
theorem tenant_refines_two_tenants :
    ∃ s, SharedSystem.run plainKernel twoTenants .empty = some s ∧
      (s.part 1).Reaches plainKernel 1 (System.Opens (fun _ todo => todo = [])) ∧
      HasReceipt 1 s.committed.tables.receipts (monthlyCharge 7 1).version .applied := by
  obtain ⟨s, ran, receipted⟩ := twoTenants_runs
  have reached : s.Reaches plainKernel (SharedSystem.Opens 1 (fun _ todo => todo = [])) := by
    refine SharedSystem.Reaches.run ?_ .start ran
    intro state event member
    have other : ∀ P : Prop, (2 : UUID) = 1 → P := fun P same => absurd same (by decide)
    fin_cases member
    all_goals first
      | exact other _
      | trivial
  exact ⟨s, ran, (tenant_refines plainKernel 1 (fun _ todo => todo = []) s reached).1, receipted⟩

/-- In every interleaving of sessions of any tenants, with any scopes and ledgers: no
    two receipts name one fact, and for each tenant an applied receipt stands exactly
    where Billing holds its obligation, none beside a refusal, and an acknowledgement
    only where a generation of its occurrence was applied. -/
theorem shared_consistent (kernel : Kernel Digest) (s : SharedSystem Digest) (reached : s.Reachable kernel) :
    (s.committed.tables.receipts.map exactFact).Nodup ∧
      ∀ t, (∀ version, HasReceipt t s.committed.tables.receipts version .applied ↔
          Holds (owned t s.committed.obligations) version) ∧
        (∀ version, HasReceipt t s.committed.tables.receipts version .refused →
          ¬ Holds (owned t s.committed.obligations) version) ∧
        ∀ entry ∈ owned t s.committed.acknowledgements,
          AppliedOccurrence t s.committed.tables.receipts entry.version.occurrenceId := by
  have parts := fun t => (reached.opens t).part
  have guarded := fun t => (reaches_isolated (parts t)).committed
  refine ⟨exactFacts_nodup guarded, ?_⟩
  intro t
  obtain ⟨consistent, -⟩ := (consistent_inductive _).holds (parts t)
  refine ⟨?_, ?_, ?_⟩
  · intro version
    rw [← hasReceipt_ofTenant]
    exact ⟨consistent.charged version, consistent.receipted version⟩
  · intro version refused
    exact consistent.uncharged (guarded t) (hasReceipt_ofTenant.mpr refused)
  · intro entry member
    obtain ⟨generation, has⟩ := consistent.acknowledged entry member
    exact ⟨generation, hasReceipt_ofTenant.mp has⟩

theorem shared_consistent_two_tenants :
    ∃ s, SharedSystem.run plainKernel twoTenants .empty = some s ∧
      Holds (owned 1 s.committed.obligations) (monthlyCharge 7 1).version := by
  obtain ⟨s, ran, receipted⟩ := twoTenants_runs
  have reached : s.Reachable plainKernel := SharedSystem.Reaches.run (fun _ _ _ => trivial) .start ran
  exact ⟨s, ran, (((shared_consistent plainKernel s reached).2 1).1 _).mp receipted⟩

end Results

end DotmacCloud
