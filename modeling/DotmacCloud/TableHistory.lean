import DotmacCloud.AppendOnly
import DotmacCloud.Tenancy

/-! # The sessions' receipts in the migrated table

Sessions interleave statement by statement; the table is written by transactions one
after another. What the shared database holds of receipts is what the table holds after
the transactions of the sessions that committed, in the order of their commits, and an
open session reads what a query of its own transaction would return there.
-/

namespace DotmacCloud

open Foundation AtMostOnce AdapterReceiptRow Migration

/-! ## What a session writes -/

section Writes

variable {Digest : Type} [DecidableEq Digest] {kernel : Kernel Digest}

theorem append_insertable {ledger : SqlAlchemyReceiptLedger} {tables tables' : Tables Digest}
    {receipt : AdapterReceipt} (returned : ledger.append kernel tables receipt = .ok tables') :
    ∃ rows, tables'.receipts = tables.receipts ++ rows ∧ ∀ row ∈ rows, row.Insertable ledger.setting := by
  rw [append_eq] at returned
  split at returned
  · split_ifs at returned
    obtain rfl := Except.ok.inj returned
    exact ⟨[], (List.append_nil _).symm, fun _ member => absurd member List.not_mem_nil⟩
  · split at returned
    · cases returned
    · rename_i rows inserted
      obtain rfl := Except.ok.inj returned
      refine ⟨_, rfl, ?_⟩
      intro row member
      rw [List.mem_singleton.mp member]
      exact (insertRow_eq_ok_iff.mp inserted).1

/-- Every receipt a session has written passes the checks of the row alone. -/
def Session.Inserted (w : Session Digest) : Prop :=
  ∀ row ∈ w.writes.tables.receipts, row.Insertable w.setting

/-- What one statement can do to the receipts of its session. -/
def SharedSystem.Inserts (s : SharedSystem Digest) (i : Nat) (w : Session Digest) (s' : SharedSystem Digest) :
    Prop :=
  s' = s.drop i ∨ ∃ w' : Session Digest, s' = s.put i w' ∧ w'.tenantId = w.tenantId ∧
    ∃ rows, w'.writes.tables.receipts = w.writes.tables.receipts ++ rows ∧
      ∀ row ∈ rows, row.Insertable w.setting

variable {s s' : SharedSystem Digest} {i : Nat} {w : Session Digest}

omit [DecidableEq Digest] in
theorem SharedSystem.inserts_nothing {w' : Session Digest} (tenant : w'.tenantId = w.tenantId)
    (same : w'.writes.tables = w.writes.tables) : s.Inserts i w (s.put i w') := by
  refine .inr ⟨w', rfl, tenant, [], ?_, fun _ member => absurd member List.not_mem_nil⟩
  rw [same, List.append_nil]

theorem SharedSystem.record_inserts {call : Call} {fact : SourceFact} {outcome : ReceiptOutcome}
    {next : CallPhase} (moved : s.record kernel i w call fact outcome next = some s') : s.Inserts i w s' := by
  simp only [SharedSystem.record] at moved
  split at moved
  · cases moved
  · split at moved
    · cases moved
      exact .inl rfl
    · rename_i tables returned
      cases moved
      obtain ⟨instant, -, appended⟩ := appendReceipt_eq_ok returned
      obtain ⟨rows, grown, insertable⟩ := append_insertable appended
      refine .inr ⟨_, rfl, rfl, rows, ?_, insertable⟩
      have joined : ((s.committed.join w.writes).view w.setting call.scope).tables.receipts =
          s.committed.tables.receipts ++ w.writes.tables.receipts := rfl
      simp only [grown, joined, List.append_assoc, List.drop_left]

theorem SharedSystem.advance_inserts (moved : s.advance kernel i w = some s') : s.Inserts i w s' := by
  simp only [SharedSystem.advance] at moved
  split at moved
  · split at moved
    · cases moved
    · split at moved
      · cases moved
        exact .inl rfl
      · cases moved
        exact inserts_nothing rfl rfl
      · split at moved
        · cases moved
          exact .inl rfl
        · cases moved
          exact inserts_nothing rfl rfl
        · split_ifs at moved
          · cases moved
            exact .inl rfl
          · cases moved
            exact inserts_nothing rfl rfl
  · exact record_inserts moved
  · exact record_inserts moved
  · cases moved
    exact inserts_nothing rfl rfl

/-- Every open session's receipts pass. -/
def SharedSystem.Inserted (s : SharedSystem Digest) : Prop := ∀ i w, s.Live i w → w.Inserted

/-- Only a commit changes the committed receipts. -/
theorem SharedSystem.step_receipts {event : SharedEvent} (apart : ∀ i, event ≠ .commit i)
    (moved : s.step kernel event = some s') : s'.committed.tables = s.committed.tables := by
  cases event with
  | emit t output =>
      cases moved
      simp only [Database.emit]
      split_ifs <;> rfl
  | deliver t todo =>
      cases moved
      rfl
  | drain t terms scope ledgerTenant limit =>
      cases moved
      rfl
  | advance i =>
      simp only [SharedSystem.step] at moved
      split at moved
      · rcases advance_inserts moved with rfl | ⟨w', rfl, -⟩
        · rfl
        · rfl
      · cases moved
  | commit i => exact absurd rfl (apart i)
  | rollback i =>
      cases moved
      rfl

omit [DecidableEq Digest] in
theorem SharedSystem.Inserted.begin (inserted : s.Inserted) (t : UUID) (todo : List Call) :
    (s.begin t todo).Inserted := by
  intro j v live
  rcases live_begin live with rfl | known
  · exact fun _ member => absurd member List.not_mem_nil
  · exact inserted j v known

theorem SharedSystem.Inserted.step (inserted : s.Inserted) {event : SharedEvent}
    (moved : s.step kernel event = some s') : s'.Inserted := by
  cases event with
  | emit t output =>
      cases moved
      exact inserted
  | deliver t todo =>
      cases moved
      exact inserted.begin t todo
  | drain t terms scope ledgerTenant limit =>
      cases moved
      exact inserted.begin t _
  | advance i =>
      simp only [SharedSystem.step] at moved
      split at moved
      · rename_i w live
        rcases advance_inserts moved with rfl | ⟨w', rfl, tenant, rows, grown, insertable⟩
        · exact fun j v known => inserted j v (live_drop known)
        · intro j v known
          rcases live_put known with rfl | earlier
          · intro row member
            rw [grown] at member
            have setting : v.setting = w.setting := by simp only [Session.setting, tenant]
            rw [setting]
            rcases List.mem_append.mp member with old | new
            · exact inserted i w live row old
            · exact insertable row new
          · exact inserted j v earlier
      · cases moved
  | commit i =>
      simp only [SharedSystem.step] at moved
      split at moved
      · cases moved
        exact fun j v live => inserted j v (live_drop (s := s) live)
      · cases moved
  | rollback i =>
      cases moved
      exact fun j v live => inserted j v (live_drop live)

theorem SharedSystem.Reaches.inserted {meets : SharedSystem Digest → SharedEvent → Prop}
    (reached : s.Reaches kernel meets) : s.Inserted := by
  induction reached with
  | start =>
      intro i w live
      simp [SharedSystem.Live, SharedSystem.empty] at live
  | next reached met moved ih => exact ih.step moved

/-- What a session sees names no fact twice, whoever committed meanwhile. -/
theorem SharedSystem.Reaches.view_distinct (reached : s.Reachable kernel) (live : s.Live i w) :
    ((s.committed.tables.receipts ++ w.writes.tables.receipts).map exactFact).Nodup := by
  have parts := fun t => (reached.opens t).part
  have isolated := fun t => reaches_isolated (parts t)
  have guarded : ∀ t, ((s.committed.join w.writes).of t).tables.Guarded kernel := by
    intro t
    rw [Database.of_join]
    by_cases mine : w.tenantId = t
    · exact (isolated t).views i _ (part_live live mine)
    · have nothing : w.writes.of t = .empty :=
        (reached.confined i w live).others t (Ne.symm mine)
      rw [nothing, TenantState.join_empty]
      exact (isolated t).committed
  exact exactFacts_nodup guarded

end Writes

/-! ## The transactions of the table -/

/-- The session's receipts as statements, with the surrogates drawn for them. -/
def Session.inserts {Digest : Type} (w : Session Digest) (ids : List UUID) : List Sql.Statement :=
  (ids.zip w.writes.tables.receipts).map (fun entry => .insert table (entry.2.storedValues entry.1))

/-- A run of the shared database, and beside it a database where each session's receipts
    are inserted in one transaction, as it commits. -/
inductive Replays {Digest : Type} [DecidableEq Digest] (kernel : Kernel Digest) (installed : Sql.Database) :
    SharedSystem Digest → Sql.Database → List UUID → Prop where
  | start : Replays kernel installed .empty installed []
  | committed {s s' : SharedSystem Digest} {db : Sql.Database} {drawn ids : List UUID} {i : Nat}
      {w : Session Digest} (replays : Replays kernel installed s db drawn) (live : s.Live i w)
      (moved : s.step kernel (.commit i) = some s') (fresh : (drawn ++ ids).Nodup)
      (each : ids.length = w.writes.tables.receipts.length) :
      Replays kernel installed s' (db.transact ⟨scopedTo w.tenantId, w.inserts ids, true⟩) (drawn ++ ids)
  | passed {s s' : SharedSystem Digest} {db : Sql.Database} {drawn : List UUID} {event : SharedEvent}
      (replays : Replays kernel installed s db drawn) (apart : ∀ i, event ≠ .commit i)
      (moved : s.step kernel event = some s') : Replays kernel installed s' db drawn

/-- The table holds the committed receipts; and in a transaction that inserts what an open
    session has written so far, a query returns what that session sees. -/
structure Carries {Digest : Type} (owner : String) (defaults : List (Sql.Grantee × Sql.Privilege))
    (s : SharedSystem Digest) (db : Sql.Database) (drawn : List UUID) : Prop where
  each : drawn.length = s.committed.tables.receipts.length
  held : db.table? table = some (holding owner defaults (drawn.zip s.committed.tables.receipts))
  seen : ∀ i w, s.Live i w → ∀ ids, (drawn ++ ids).Nodup → ids.length = w.writes.tables.receipts.length →
    ∃ (db' : Sql.Database) (shown : List Entry),
      db.executeAll (scopedTo w.tenantId) (w.inserts ids) = .ok db' ∧
      db'.query (scopedTo w.tenantId) table = .ok (shown.map (fun entry => entry.2.storedValues entry.1)) ∧
      shown.map Prod.snd = ofTenant w.tenantId (s.committed.tables.receipts ++ w.writes.tables.receipts)

section Replay

variable {owner : String} {defaults : List (Sql.Grantee × Sql.Privilege)}

/-- Receipts that pass, each apart from all before it, are inserted one after another. -/
theorem executeAll_inserts {db : Sql.Database} {session : Sql.Session} (online : OnlineRole session.role)
    {entries more : List Entry} (found : db.table? table = some (holding owner defaults entries))
    (distinct : Distinct (entries ++ more))
    (insertable : ∀ entry ∈ more, entry.2.Insertable (session.settings "app.current_tenant")) :
    ∃ db', db.executeAll session (more.map (fun entry => .insert table (entry.2.storedValues entry.1))) =
        .ok db' ∧ db'.table? table = some (holding owner defaults (entries ++ more)) := by
  induction more generalizing db entries with
  | nil => exact ⟨db, rfl, by rwa [List.append_nil]⟩
  | cons entry rest ih =>
      have front : (entries ++ [entry]) ++ rest = entries ++ entry :: rest := by simp
      have fresh : entry.1 ∉ entries.map Prod.fst := by
        have ids := distinct.ids
        rw [List.map_append, List.map_cons, List.nodup_append] at ids
        exact fun taken => ids.2.2 _ taken _ List.mem_cons_self rfl
      have unhandled : ∀ other ∈ entries.map Prod.snd, other.exactFact ≠ entry.2.exactFact := by
        have facts := distinct.facts
        rw [List.map_append, List.map_cons, List.nodup_append] at facts
        intro other member
        obtain ⟨known, inside, rfl⟩ := List.mem_map.mp member
        exact facts.2.2 _ (List.mem_map_of_mem inside) _ List.mem_cons_self
      have ran : db.execute session (.insert table (entry.2.storedValues entry.1)) =
          .ok (db.put (holding owner defaults (entries ++ [entry]))) := by
        apply (execute_insert_holding found online).mpr
        have passes := insertable entry List.mem_cons_self
        refine ⟨entry.1, entry.2, stored_storedValues entry.1 passes.fits, fresh, ?_, rfl⟩
        exact insertRow_eq_ok_iff.mpr ⟨passes, unhandled, rfl⟩
      have named : (holding owner defaults (entries ++ [entry])).name = table := rfl
      have now := Sql.Database.table?_put found named
      rw [List.map_cons, Sql.Database.executeAll_cons ran, ← front]
      apply ih now
      · rwa [front]
      · exact fun other member => insertable other (List.mem_cons_of_mem _ member)

theorem map_snd_zip {ids : List UUID} {rows : List AdapterReceiptRow} (each : ids.length = rows.length) :
    (ids.zip rows).map Prod.snd = rows := List.map_snd_zip (le_of_eq each.symm)

/-- Drawn surrogates beside receipts of distinct facts. -/
theorem distinct_zip {ids : List UUID} {rows : List AdapterReceiptRow} (each : ids.length = rows.length)
    (fresh : ids.Nodup) (facts : (rows.map exactFact).Nodup) : Distinct (ids.zip rows) where
  ids := by
    rwa [List.map_fst_zip (le_of_eq each)]
  facts := by
    have same : (ids.zip rows).map (fun entry => entry.2.exactFact) =
        ((ids.zip rows).map Prod.snd).map exactFact := by
      rw [List.map_map]
      rfl
    rw [same, map_snd_zip each]
    exact facts

variable {Digest : Type} [DecidableEq Digest] {kernel : Kernel Digest} {installed db : Sql.Database}
  {s : SharedSystem Digest} {drawn : List UUID}

theorem Replays.reachable (replays : Replays kernel installed s db drawn) : s.Reachable kernel := by
  induction replays with
  | start => exact .start
  | committed replays live moved fresh each ih => exact .next ih trivial moved
  | passed replays apart moved ih => exact .next ih trivial moved

theorem Replays.fresh (replays : Replays kernel installed s db drawn) : drawn.Nodup := by
  induction replays with
  | start => exact List.nodup_nil
  | committed replays live moved fresh each ih => exact fresh
  | passed replays apart moved ih => exact ih

/-- The inserts of an open session go through, over what is committed. -/
theorem Replays.inserts (replays : Replays kernel installed s db drawn)
    (enough : drawn.length = s.committed.tables.receipts.length)
    (held : db.table? table = some (holding owner defaults (drawn.zip s.committed.tables.receipts)))
    {i : Nat} {w : Session Digest} (live : s.Live i w) {ids : List UUID} (fresh : (drawn ++ ids).Nodup)
    (each : ids.length = w.writes.tables.receipts.length) :
    ∃ db', db.executeAll (scopedTo w.tenantId) (w.inserts ids) = .ok db' ∧
      db'.table? table = some (holding owner defaults
        ((drawn ++ ids).zip (s.committed.tables.receipts ++ w.writes.tables.receipts))) := by
  have facts := replays.reachable.view_distinct live
  have distinct : Distinct ((drawn ++ ids).zip (s.committed.tables.receipts ++ w.writes.tables.receipts)) := by
    apply distinct_zip _ fresh facts
    simp [enough, each]
  rw [List.zip_append enough] at distinct ⊢
  apply executeAll_inserts (scopedTo_online w.tenantId) held distinct
  intro entry member
  have written : entry.2 ∈ w.writes.tables.receipts := (List.of_mem_zip member).2
  exact replays.reachable.inserted i w live entry.2 written

theorem Replays.held (start : installed.table? table = some (holding owner defaults []))
    (replays : Replays kernel installed s db drawn) :
    drawn.length = s.committed.tables.receipts.length ∧
      db.table? table = some (holding owner defaults (drawn.zip s.committed.tables.receipts)) := by
  induction replays with
  | start => exact ⟨rfl, start⟩
  | @committed s s' db drawn ids i w replays live moved fresh each ih =>
      obtain ⟨enough, held⟩ := ih
      obtain ⟨db', ran, now⟩ := replays.inserts enough held live fresh each
      have left : db.transact ⟨scopedTo w.tenantId, w.inserts ids, true⟩ = db' := by
        simp only [Sql.Database.transact, ran, if_true]
      have joined : s'.committed.tables.receipts =
          s.committed.tables.receipts ++ w.writes.tables.receipts := by
        simp only [SharedSystem.step] at moved
        split at moved
        · rename_i here
          rw [live] at here
          cases here
          cases moved
          rfl
        · cases moved
      rw [left, joined]
      exact ⟨by simp [enough, each], now⟩
  | passed replays apart moved ih =>
      rw [SharedSystem.step_receipts apart moved]
      exact ih

theorem Replays.carries (start : installed.table? table = some (holding owner defaults []))
    (replays : Replays kernel installed s db drawn) : Carries owner defaults s db drawn := by
  obtain ⟨enough, held⟩ := replays.held start
  refine ⟨enough, held, ?_⟩
  intro i w live ids fresh each
  obtain ⟨db', ran, now⟩ := replays.inserts enough held live fresh each
  have setting : (scopedTo w.tenantId).settings "app.current_tenant" = some w.tenantId.str := rfl
  have casts : tenantCasts (some w.tenantId.str) = true :=
    tenantCasts_of_admits ((policyAdmits_str w.tenantId w.tenantId).mpr rfl)
  have returned := query_holding now (scopedTo_online w.tenantId)
  rw [setting, if_pos casts] at returned
  refine ⟨db', _, ran, returned, ?_⟩
  have every : (drawn ++ ids).length =
      (s.committed.tables.receipts ++ w.writes.tables.receipts).length := by simp [enough, each]
  have rows := map_snd_zip every
  rw [← visibleRows_str]
  conv_rhs => rw [← rows]
  simp only [visibleRows, List.filter_map]
  rfl

/-- Every run can be replayed, whatever surrogates its receipts are given. -/
theorem SharedSystem.Reaches.replays (reached : s.Reachable kernel) {ids : List UUID} (fresh : ids.Nodup)
    (each : ids.length = s.committed.tables.receipts.length) :
    ∃ db, Replays kernel installed s db ids := by
  induction reached generalizing ids with
  | start =>
      obtain rfl := List.length_eq_zero_iff.mp each
      exact ⟨installed, .start⟩
  | @next s s' event reached met moved ih =>
      by_cases commits : ∃ i, event = .commit i
      · obtain ⟨i, rfl⟩ := commits
        have ran := moved
        simp only [SharedSystem.step] at ran
        split at ran
        · rename_i t writes live
          obtain rfl := Option.some.inj ran
          have length : s.committed.tables.receipts.length + writes.tables.receipts.length = ids.length := by
            rw [each]
            exact List.length_append.symm
          have front : (ids.take s.committed.tables.receipts.length).Nodup :=
            fresh.sublist (List.take_sublist _ _)
          obtain ⟨db, replays⟩ := ih front (by simp; omega)
          rw [← List.take_append_drop s.committed.tables.receipts.length ids] at fresh ⊢
          exact ⟨_, .committed replays live moved fresh (by simp; omega)⟩
        · cases ran
      · have apart : ∀ i, event ≠ .commit i := fun i same => commits ⟨i, same⟩
        rw [SharedSystem.step_receipts apart moved] at each
        obtain ⟨db, replays⟩ := ih fresh each
        exact ⟨db, .passed replays apart moved⟩

end Replay

section Results

variable {Digest : Type} [DecidableEq Digest]

/-- The shared database over the migrated table: whatever the interleaving, its receipts
    are what the table holds once each committed session inserted its own in one
    transaction of the online role, in the order of the commits, all of which go through;
    every open session sees what its own transaction would; and every run can be replayed
    so. -/
theorem receipts_serialized (kernel : Kernel Digest) (base installed : Sql.Database) (migrator : Sql.Session)
    (upgraded : base.executeAll migrator upgrade = .ok installed) :
    (∀ (s : SharedSystem Digest) (db : Sql.Database) (drawn : List UUID),
      Replays kernel installed s db drawn → Carries migrator.role.name base.defaults s db drawn) ∧
    ∀ s : SharedSystem Digest, s.Reachable kernel → ∀ ids : List UUID, ids.Nodup →
      ids.length = s.committed.tables.receipts.length → ∃ db, Replays kernel installed s db ids := by
  have start := upgraded_holds upgraded
  constructor
  · intro s db drawn replays
    exact replays.carries start
  · intro s reached ids drawn each
    exact reached.replays drawn each

/-- Two tenants' charges, drained side by side and committed in the other order; and one
    more that the second tenant's open session has refused. -/
def twoCommits : List SharedEvent :=
  let terms := linkedTo (some 9) recordingBilling
  [.emit 1 (monthlyCharge 7 1), .emit 2 (monthlyCharge 8 1),
    .drain 1 terms ⟨1⟩ 1 100, .drain 2 terms ⟨2⟩ 2 100,
    .advance 0, .advance 1, .advance 0, .advance 1, .advance 0, .advance 1, .commit 1, .commit 0,
    .emit 2 (monthlyCharge 9 1), .drain 2 (linkedTo none recordingBilling) ⟨2⟩ 2 100, .advance 2, .advance 2]

/-- The open session sees its own tenant's committed receipt and its own. -/
theorem receipts_serialized_charge :
    ∃ (s : SharedSystem Payload) (db : Sql.Database) (w : Session Payload),
      SharedSystem.run plainKernel twoCommits .empty = some s ∧ s.committed.tables.receipts.length = 2 ∧
      db.table? table = some (holding "app_admin" kernelBase.defaults ([5, 6].zip s.committed.tables.receipts)) ∧
      s.Live 2 w ∧ w.tenantId = 2 ∧
      ∃ (db' : Sql.Database) (shown : List Entry), db.executeAll (scopedTo 2) (w.inserts [7]) = .ok db' ∧
        db'.query (scopedTo 2) table = .ok (shown.map (fun entry => entry.2.storedValues entry.1)) ∧
        shown.length = 2 := by
  have returns : (SharedSystem.run plainKernel twoCommits .empty).map (fun s =>
      (s.committed.tables.receipts.length, s.sessions[2]?.join.map (fun w =>
        (w.tenantId, w.writes.tables.receipts.length,
          (ofTenant 2 (s.committed.tables.receipts ++ w.writes.tables.receipts)).length)))) =
      some (2, some (2, 1, 2)) := by decide +kernel
  obtain ⟨s, ran, result⟩ := Option.map_eq_some_iff.mp returns
  obtain ⟨two, opened⟩ := Prod.mk.inj result
  obtain ⟨w, here, counts⟩ := Option.map_eq_some_iff.mp opened
  simp only [Prod.mk.injEq] at counts
  obtain ⟨tenant, one, both⟩ := counts
  have live : s.Live 2 w := Option.join_eq_some_iff.mp here
  have reached : s.Reachable plainKernel := SharedSystem.Reaches.run (fun _ _ _ => trivial) .start ran
  obtain ⟨carries, replayed⟩ := receipts_serialized plainKernel kernelBase _ migrator
    kernelBase_upgraded
  obtain ⟨db, replays⟩ := replayed s reached [5, 6] (by decide) two.symm
  obtain ⟨db', shown, wrote, queried, seen⟩ :=
    (carries s db [5, 6] replays).seen 2 w live [7] (by decide) one.symm
  rw [tenant] at wrote queried seen
  refine ⟨s, db, w, ran, two, (carries s db [5, 6] replays).held, live, tenant, db', shown, wrote, queried, ?_⟩
  rw [← both, ← seen, List.length_map]

end Results

end DotmacCloud
