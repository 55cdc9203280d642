import DotmacCloud.ReceiptTable

/-! # The migrated table is append-only

Whatever of the modelled statements the online role runs, in any transactions and each
under any settings, no receipt it ever wrote changes or goes away, and what it runs for
one tenant shows another nothing.
-/

namespace DotmacCloud

open Foundation AdapterReceiptRow

namespace Migration

variable {owner : String} {defaults : List (Sql.Grantee × Sql.Privilege)} {rows : List Sql.Row}

/-! ## Runs of the online role -/

/-- The online role may read the table and insert into it, whatever the default
    privileges were. -/
theorem migrated_restricted {role : Sql.Role} (online : OnlineRole role) (other : owner ≠ "app_user") :
    (migrated owner defaults rows).Restricted role where
  foreign := by
    have apart : role.name ≠ owner := by
      rw [online.name]
      exact other.symm
    simpa [Sql.Table.ownedBy, online.plain, migrated] using apart
  privileges := by
    intro privilege holds
    have apart : role.name ≠ owner := by
      rw [online.name]
      exact other.symm
    have granted : ∃ grant ∈ receiptGrants defaults, grant.2 = privilege ∧
        (grant.1 = .everyone ∨ grant.1 = appUser) := by
      simpa [Sql.Table.holds, Sql.Table.ownedBy, online.plain, online.name, apart, migrated, other.symm,
        appUser] using holds
    obtain ⟨⟨party, given⟩, listed, rfl, held⟩ := granted
    rw [receiptGrants, Sql.mem_bestow, Sql.mem_withdraw, Sql.mem_withdraw] at listed
    rcases listed with ⟨⟨-, nobody⟩, unchanging⟩ | ⟨-, bestowed⟩
    · rcases held with everyone | online
      · apply absurd _ nobody
        refine ⟨everyone, ?_⟩
        cases given <;> simp [everyPrivilege]
      · have kept : given ∉ changing := fun changes => unchanging ⟨online, changes⟩
        cases given <;> simp [changing] at kept ⊢
    · simpa using bestowed

/-- No two rows share their surrogate, or their exact fact. -/
structure Distinct (entries : List Entry) : Prop where
  ids : (entries.map Prod.fst).Nodup
  facts : (entries.map (fun entry => entry.2.exactFact)).Nodup

theorem Distinct.snoc {entries : List Entry} {id : UUID} {row : AdapterReceiptRow} (distinct : Distinct entries)
    (fresh : id ∉ entries.map Prod.fst)
    (unhandled : ∀ other ∈ entries.map Prod.snd, other.exactFact ≠ row.exactFact) :
    Distinct (entries ++ [(id, row)]) where
  ids := by
    rw [List.map_append, List.nodup_append]
    refine ⟨distinct.ids, List.nodup_singleton _, ?_⟩
    rintro known member _ single rfl
    rw [List.map_singleton, List.mem_singleton] at single
    have same : known = id := single
    exact fresh (same ▸ member)
  facts := by
    rw [List.map_append, List.nodup_append]
    refine ⟨distinct.facts, List.nodup_singleton _, ?_⟩
    rintro fact member _ single rfl
    obtain ⟨entry, inside, rfl⟩ := List.mem_map.mp member
    rw [List.map_singleton, List.mem_singleton] at single
    exact unhandled entry.2 (List.mem_map_of_mem inside) single

/-- A receipt table that grew holds what it held, and rows the model accepts behind it. -/
theorem holding_grows {sessions : Sql.Session → Prop}
    (online : ∀ session, sessions session → OnlineRole session.role)
    {entries : List Entry} (distinct : Distinct entries) {table' : Sql.Table}
    (grows : (holding owner defaults entries).Grows sessions table') :
    ∃ more, table' = holding owner defaults (entries ++ more) ∧ Distinct (entries ++ more) ∧
      ∀ entry ∈ more, ∃ session, sessions session ∧
        entry.2.Insertable (session.settings "app.current_tenant") := by
  induction grows with
  | refl =>
      refine ⟨[], ?_, ?_, fun _ member => absurd member List.not_mem_nil⟩
      · rw [List.append_nil]
      · rwa [List.append_nil]
  | tail _ inserts ih =>
      obtain ⟨more, rfl, apart, inserted⟩ := ih
      obtain ⟨session, row, one, ran⟩ := inserts
      obtain ⟨id, r, -, fresh, accepted, rfl⟩ := (insertRow_holding (online session one)).mp ran
      obtain ⟨insertable, unhandled, -⟩ := insertRow_eq_ok_iff.mp accepted
      refine ⟨more ++ [(id, r)], by rw [List.append_assoc], ?_, ?_⟩
      · rw [← List.append_assoc]
        exact apart.snoc fresh unhandled
      · intro entry member
        rcases List.mem_append.mp member with earlier | last
        · exact inserted entry earlier
        · rw [List.mem_singleton.mp last]
          exact ⟨session, one, insertable⟩

theorem holding_transact {db : Sql.Database} {entries : List Entry} (other : owner ≠ "app_user")
    (found : db.table? table = some (holding owner defaults entries)) (distinct : Distinct entries)
    {transactions : List Sql.Transaction} (online : ∀ tx ∈ transactions, OnlineRole tx.session.role) :
    ∃ more, (transactions.foldl Sql.Database.transact db).table? table =
        some (holding owner defaults (entries ++ more)) ∧ Distinct (entries ++ more) ∧
      ∀ entry ∈ more, ∃ tx ∈ transactions, entry.2.Insertable (tx.session.settings "app.current_tenant") := by
  obtain ⟨table', later, grows⟩ := Sql.Database.transact_restricted found
    (fun tx member => migrated_restricted (online tx member) other)
  obtain ⟨more, rfl, apart, inserted⟩ := holding_grows (by
    rintro session ⟨tx, member, rfl⟩
    exact online tx member) distinct grows
  refine ⟨more, later, apart, ?_⟩
  intro entry member
  obtain ⟨session, ⟨tx, inside, rfl⟩, insertable⟩ := inserted entry member
  exact ⟨tx, inside, insertable⟩

/-- Once the migration went through, whatever of the modelled statements the online role
    runs, in any transactions and each under any settings: the receipt table stays as it was
    defined and secured, every receipt stays as it was written, and each later one is the
    receipt of the tenant its transaction was scoped to, with an exact fact of its own. -/
theorem receipts_append_only (base db : Sql.Database) (migrator : Sql.Session)
    (upgraded : base.executeAll migrator upgrade = .ok db) (other : migrator.role.name ≠ "app_user")
    (before after : List Sql.Transaction) (online : ∀ tx ∈ before ++ after, OnlineRole tx.session.role) :
    ∃ entries more,
      (before.foldl Sql.Database.transact db).table? table =
        some (holding migrator.role.name base.defaults entries) ∧
      ((before ++ after).foldl Sql.Database.transact db).table? table =
        some (holding migrator.role.name base.defaults (entries ++ more)) ∧
      Distinct (entries ++ more) ∧
      ∀ entry ∈ more, ∃ tx ∈ after, entry.2.Insertable (tx.session.settings "app.current_tenant") := by
  have found := upgraded_holds upgraded
  obtain ⟨entries, now, distinct, -⟩ := holding_transact other found ⟨List.nodup_nil, List.nodup_nil⟩
    (fun tx member => online tx (List.mem_append_left _ member))
  rw [List.nil_append] at now distinct
  obtain ⟨more, later, apart, inserted⟩ := holding_transact other now distinct
    (fun tx member => online tx (List.mem_append_right _ member))
  refine ⟨entries, more, now, ?_, apart, inserted⟩
  rw [List.foldl_append]
  exact later

/-- A transaction that writes an invoice's receipt. -/
def writing (t id : UUID) : Sql.Transaction :=
  ⟨scopedTo t, [.insert table ((fromReceipt t invoiceReceipt).storedValues id)], true⟩

/-- A transaction that tries to delete every receipt. -/
def deleting (t : UUID) : Sql.Transaction := ⟨scopedTo t, [.delete table (fun _ => true)], true⟩

/-- The kernel's database with the migrated table. -/
def kernelInstalled : Sql.Database := kernelBase.add (migrated "app_admin" kernelBase.defaults [])

/-- The first value of each row. -/
def surrogates (db : Sql.Database) : Option (List (Option (Option Sql.Value))) :=
  (db.table? table).map (fun table => table.rows.map List.head?)

theorem surrogates_holding {db : Sql.Database} {entries : List Entry}
    (found : db.table? table = some (holding owner defaults entries)) :
    surrogates db = some (entries.map (fun entry => some (some (.uuid entry.1.int)))) := by
  simp [surrogates, found, holding_rows, AdapterReceiptRow.storedValues]

/-- Receipts of two tenants, and deletions of all before and between them. -/
theorem receipts_append_only_invoice :
    ∃ entries more,
      ([writing 1 5, deleting 1].foldl Sql.Database.transact kernelInstalled).table? table =
        some (holding "app_admin" kernelBase.defaults entries) ∧
      (([writing 1 5, deleting 1] ++ [deleting 2, writing 2 6]).foldl Sql.Database.transact
        kernelInstalled).table? table = some (holding "app_admin" kernelBase.defaults (entries ++ more)) ∧
      Distinct (entries ++ more) ∧ entries.length = 1 ∧ more.length = 1 ∧
      ∀ entry ∈ more, ∃ tx ∈ [deleting 2, writing 2 6],
        entry.2.Insertable (tx.session.settings "app.current_tenant") := by
  have online : ∀ tx ∈ [writing 1 5, deleting 1] ++ [deleting 2, writing 2 6],
      OnlineRole tx.session.role := by
    intro tx member
    fin_cases member
    · exact scopedTo_online 1
    · exact scopedTo_online 1
    · exact scopedTo_online 2
    · exact scopedTo_online 2
  obtain ⟨entries, more, now, later, distinct, inserted⟩ :=
    receipts_append_only kernelBase _ migrator kernelBase_upgraded (by decide) _ _ online
  have held : surrogates ([writing 1 5, deleting 1].foldl Sql.Database.transact kernelInstalled) =
      some [some (some (.uuid 5))] := by decide +kernel
  have grown : surrogates (([writing 1 5, deleting 1] ++ [deleting 2, writing 2 6]).foldl
      Sql.Database.transact kernelInstalled) = some [some (some (.uuid 5)), some (some (.uuid 6))] := by
    decide +kernel
  have first := congrArg List.length (Option.some.inj ((surrogates_holding now).symm.trans held))
  have both := congrArg List.length (Option.some.inj ((surrogates_holding later).symm.trans grown))
  simp only [List.length_map, List.length_append, List.length_cons, List.length_nil] at first both
  exact ⟨entries, more, now, later, distinct, first, by omega, inserted⟩

/-! ## What another tenant's statements show -/

theorem insertable_own {setting : Setting} {t : UUID} (current : currentTenant setting = some t)
    {row : AdapterReceiptRow} (insertable : row.Insertable setting) : row.tenantId = t := by
  have admitted := insertable.admitted
  rw [policyAdmits, current, beq_iff_eq, Option.some.injEq] at admitted
  exact admitted.symm

theorem insertable_foreign {setting : Setting} {t : UUID} (foreign : currentTenant setting ≠ some t)
    {row : AdapterReceiptRow} (insertable : row.Insertable setting) : row.tenantId ≠ t := by
  rintro rfl
  have admitted := insertable.admitted
  rw [policyAdmits, beq_iff_eq] at admitted
  exact foreign admitted

/-- Receipts of other tenants change no answer of a query. -/
theorem query_foreign {db db' : Sql.Database} {entries more : List Entry} {session : Sql.Session}
    (online : OnlineRole session.role) {t : UUID}
    (current : currentTenant (session.settings "app.current_tenant") = some t)
    (found : db.table? table = some (holding owner defaults entries))
    (found' : db'.table? table = some (holding owner defaults (entries ++ more)))
    (foreign : ∀ entry ∈ more, entry.2.tenantId ≠ t) : db'.query session table = db.query session table := by
  have hidden : more.filter (fun entry => policyAdmits (session.settings "app.current_tenant")
      entry.2.tenantId) = [] := by
    rw [List.filter_eq_nil_iff]
    intro entry member admitted
    rw [policyAdmits, current, beq_iff_eq, Option.some.injEq] at admitted
    exact foreign entry member admitted.symm
  rw [query_holding found online, query_holding found' online, List.filter_append, hidden, List.append_nil]

/-- An insert goes through exactly where what is stored of the row passes, under an own
    surrogate and an own exact fact. -/
theorem insert_goes_through {db : Sql.Database} {entries : List Entry} {session : Sql.Session}
    (online : OnlineRole session.role) (found : db.table? table = some (holding owner defaults entries))
    {row : Sql.Row} :
    (∃ db', db.execute session (.insert table row) = .ok db') ↔
      ∃ id r, definition.stored row = .ok (AdapterReceiptRow.storedValues id r) ∧
        r.Insertable (session.settings "app.current_tenant") ∧ id ∉ entries.map Prod.fst ∧
        ∀ other ∈ entries.map Prod.snd, other.exactFact ≠ r.exactFact := by
  constructor
  · rintro ⟨db', ran⟩
    obtain ⟨id, r, stores, fresh, accepted, -⟩ := (execute_insert_holding found online).mp ran
    obtain ⟨insertable, unhandled, -⟩ := insertRow_eq_ok_iff.mp accepted
    exact ⟨id, r, stores, insertable, fresh, unhandled⟩
  · rintro ⟨id, r, stores, insertable, fresh, unhandled⟩
    have accepted := insertRow_eq_ok_iff.mpr ⟨insertable, unhandled, rfl⟩
    exact ⟨_, (execute_insert_holding found online).mpr ⟨id, r, stores, fresh, accepted, rfl⟩⟩

/-- Receipts of other tenants refuse an insert only where they took its surrogate. -/
theorem insert_foreign {db db' : Sql.Database} {entries more : List Entry} {session : Sql.Session}
    (online : OnlineRole session.role) {t : UUID}
    (current : currentTenant (session.settings "app.current_tenant") = some t)
    (found : db.table? table = some (holding owner defaults entries))
    (found' : db'.table? table = some (holding owner defaults (entries ++ more)))
    (foreign : ∀ entry ∈ more, entry.2.tenantId ≠ t) (row : Sql.Row) :
    (∃ after, db'.execute session (.insert table row) = .ok after) ↔
      (∃ after, db.execute session (.insert table row) = .ok after) ∧
        ∀ entry ∈ more, row.head? ≠ some (some (.uuid entry.1.int)) := by
  rw [insert_goes_through online found', insert_goes_through online found]
  constructor
  · rintro ⟨id, r, stores, insertable, unused, unhandled⟩
    rw [List.map_append, List.mem_append, not_or] at unused
    rw [List.map_append, List.forall_mem_append] at unhandled
    refine ⟨⟨id, r, stores, insertable, unused.1, unhandled.1⟩, ?_⟩
    intro entry member same
    rw [stored_surrogate stores, Option.some.injEq, Option.some.injEq, Sql.Value.uuid.injEq] at same
    exact unused.2 (List.mem_map.mpr ⟨entry, member, (int_injective same).symm⟩)
  · rintro ⟨⟨id, r, stores, insertable, unused, unhandled⟩, free⟩
    refine ⟨id, r, stores, insertable, ?_, ?_⟩
    · rw [List.map_append, List.mem_append]
      rintro (before | since)
      · exact unused before
      · obtain ⟨entry, member, rfl⟩ := List.mem_map.mp since
        exact free entry member (stored_surrogate stores)
    · rw [List.map_append, List.forall_mem_append]
      refine ⟨unhandled, ?_⟩
      intro receipt member same
      obtain ⟨entry, inside, rfl⟩ := List.mem_map.mp member
      have mine : entry.2.tenantId = r.tenantId := congrArg ExactFact.tenantId same
      exact foreign entry inside (mine.trans (insertable_own current insertable))

/-- Whatever of the modelled statements the online role runs under the settings of other
    tenants, they can only have added receipts of those; a session of the tenant is answered
    every query as before, and an insert of it goes through where it did before, unless one
    of the added receipts took its surrogate. -/
theorem foreign_statements_invisible (base db : Sql.Database) (migrator : Sql.Session)
    (upgraded : base.executeAll migrator upgrade = .ok db) (other : migrator.role.name ≠ "app_user")
    (before after : List Sql.Transaction) (online : ∀ tx ∈ before ++ after, OnlineRole tx.session.role)
    (session : Sql.Session) (own : OnlineRole session.role) (t : UUID)
    (current : currentTenant (session.settings "app.current_tenant") = some t)
    (foreign : ∀ tx ∈ after, currentTenant (tx.session.settings "app.current_tenant") ≠ some t) :
    ∃ entries more,
      (before.foldl Sql.Database.transact db).table? table =
        some (holding migrator.role.name base.defaults entries) ∧
      ((before ++ after).foldl Sql.Database.transact db).table? table =
        some (holding migrator.role.name base.defaults (entries ++ more)) ∧
      (∀ entry ∈ more, entry.2.tenantId ≠ t ∧
        ∃ tx ∈ after, entry.2.Insertable (tx.session.settings "app.current_tenant")) ∧
      ((before ++ after).foldl Sql.Database.transact db).query session table =
        (before.foldl Sql.Database.transact db).query session table ∧
      ∀ row : Sql.Row,
        (∃ db', ((before ++ after).foldl Sql.Database.transact db).execute session
            (.insert table row) = .ok db') ↔
          (∃ db', (before.foldl Sql.Database.transact db).execute session (.insert table row) = .ok db') ∧
            ∀ entry ∈ more, row.head? ≠ some (some (.uuid entry.1.int)) := by
  have found := upgraded_holds upgraded
  obtain ⟨entries, now, distinct, -⟩ := holding_transact other found ⟨List.nodup_nil, List.nodup_nil⟩
    (fun tx member => online tx (List.mem_append_left _ member))
  rw [List.nil_append] at now distinct
  obtain ⟨more, later, -, inserted⟩ := holding_transact other now distinct
    (fun tx member => online tx (List.mem_append_right _ member))
  rw [← List.foldl_append] at later
  have apart : ∀ entry ∈ more, entry.2.tenantId ≠ t := by
    intro entry member
    obtain ⟨tx, inside, insertable⟩ := inserted entry member
    exact insertable_foreign (foreign tx inside) insertable
  exact ⟨entries, more, now, later, fun entry member => ⟨apart entry member, inserted entry member⟩,
    query_foreign own current now later apart, insert_foreign own current now later apart⟩

/-- Another tenant writes a receipt and tries to delete every one: the tenant's next insert
    goes through, but not under the surrogate of that receipt. -/
theorem foreign_statements_invisible_invoice :
    (([writing 1 5] ++ [writing 2 6, deleting 2]).foldl Sql.Database.transact kernelInstalled).query
        (scopedTo 1) table =
      ([writing 1 5].foldl Sql.Database.transact kernelInstalled).query (scopedTo 1) table ∧
    (∃ db', (([writing 1 5] ++ [writing 2 6, deleting 2]).foldl Sql.Database.transact
      kernelInstalled).execute (scopedTo 1) (.insert table ((padded 40).storedValues 7)) = .ok db') ∧
    ¬ ∃ db', (([writing 1 5] ++ [writing 2 6, deleting 2]).foldl Sql.Database.transact
      kernelInstalled).execute (scopedTo 1) (.insert table ((padded 40).storedValues 6)) = .ok db' := by
  have online : ∀ tx ∈ [writing 1 5] ++ [writing 2 6, deleting 2], OnlineRole tx.session.role := by
    intro tx member
    fin_cases member
    · exact scopedTo_online 1
    · exact scopedTo_online 2
    · exact scopedTo_online 2
  have second : currentTenant (some (UUID.str 2)) ≠ some 1 := by
    rw [currentTenant_str]
    decide
  obtain ⟨entries, more, now, later, -, same, inserts⟩ := foreign_statements_invisible kernelBase _ migrator
    kernelBase_upgraded (by decide) _ _ online (scopedTo 1) (scopedTo_online 1) 1 (currentTenant_str 1) (by
      intro tx member
      fin_cases member
      · exact second
      · exact second)
  have held : surrogates ([writing 1 5].foldl Sql.Database.transact kernelInstalled) =
      some [some (some (.uuid 5))] := by decide +kernel
  have grown : surrogates (([writing 1 5] ++ [writing 2 6, deleting 2]).foldl Sql.Database.transact
      kernelInstalled) = some [some (some (.uuid 5)), some (some (.uuid 6))] := by decide +kernel
  have first := Option.some.inj ((surrogates_holding now).symm.trans held)
  have added := Option.some.inj ((surrogates_holding later).symm.trans grown)
  rw [List.map_append, first, List.singleton_append, List.cons.injEq, and_iff_right rfl] at added
  have taken : ∀ value, (∃ entry ∈ more, value = some (some (Sql.Value.uuid entry.1.int))) ↔
      value = some (some (.uuid 6)) := by
    intro value
    have listed : value ∈ more.map (fun entry => some (some (Sql.Value.uuid entry.1.int))) ↔
        value = some (some (.uuid 6)) := by rw [added, List.mem_singleton]
    rw [← listed, List.mem_map]
    simp only [eq_comm]
  have accepted : (([writing 1 5].foldl Sql.Database.transact kernelInstalled).execute (scopedTo 1)
      (.insert table ((padded 40).storedValues 7))).isOk = true := by decide +kernel
  refine ⟨same, ?_, ?_⟩
  · apply (inserts _).mpr
    constructor
    · cases ran : ([writing 1 5].foldl Sql.Database.transact kernelInstalled).execute (scopedTo 1)
          (.insert table ((padded 40).storedValues 7)) with
      | ok db' => exact ⟨db', ran⟩
      | error e =>
          rw [ran] at accepted
          cases accepted
    · intro entry member drawn
      have six := (taken _).mp ⟨entry, member, drawn⟩
      exact absurd six (by decide)
  · intro goes
    obtain ⟨entry, member, drawn⟩ := (taken _).mpr (rfl : ((padded 40).storedValues 6).head? = _)
    exact ((inserts _).mp goes).2 entry member drawn

end Migration

end DotmacCloud
