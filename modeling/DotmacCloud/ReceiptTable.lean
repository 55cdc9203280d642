import DotmacCloud.Migration
import DotmacCloud.ReceiptStore

/-! # The receipt table as it was migrated

What `insertRow` and `visibleRows` say of the receipt table is what the migrated table
does for the online role.
-/

namespace DotmacCloud

open Foundation AdapterReceiptRow

/-- The online role neither is a superuser nor passes by row security. -/
structure OnlineRole (role : Sql.Role) : Prop where
  name : role.name = "app_user"
  plain : role.superuser = false
  secured : role.bypassesRowSecurity = false

/-- A row as the table stores it, with the surrogate drawn for it. -/
def AdapterReceiptRow.storedValues (id : UUID) (row : AdapterReceiptRow) : Sql.Row := [
  some (.uuid id.int),
  some (.uuid row.tenantId.int),
  some (.text row.adapter),
  some (.text row.sourceOwner),
  some (.text row.sourceRef),
  some (.int row.sourceVersion),
  some (.text row.fingerprint),
  some (.text row.outcome),
  some (.time row.observedAt)]

/-- The checks an insert makes of the row alone. -/
structure AdapterReceiptRow.Insertable (setting : Setting) (row : AdapterReceiptRow) : Prop where
  fits : row.columnFault = none
  admitted : policyAdmits setting row.tenantId = true
  positive : 0 < row.sourceVersion
  outcome : row.outcome = "applied" ∨ row.outcome = "refused"

theorem insertRow_eq_ok_iff {setting : Setting} {rows rows' : List AdapterReceiptRow} {row : AdapterReceiptRow} :
    insertRow setting rows row = .ok rows' ↔ AdapterReceiptRow.Insertable setting row ∧
      (∀ other ∈ rows, other.exactFact ≠ row.exactFact) ∧ rows' = rows ++ [row] := by
  constructor
  · intro inserted
    obtain ⟨rfl, fits, admitted, fresh⟩ := insertRow_eq_ok inserted
    simp only [insertRow, fits] at inserted
    split_ifs at inserted with positive outcome taken
    exact ⟨⟨fits, admitted, by omega, by tauto⟩, fresh, rfl⟩
  · rintro ⟨insertable, fresh, rfl⟩
    have free : ¬ rows.any (fun other => other.exactFact == row.exactFact) = true := by simpa using fresh
    have positive : ¬ row.sourceVersion ≤ 0 := by
      have := insertable.positive
      omega
    have outcome : ¬ (row.outcome ≠ "applied" ∧ row.outcome ≠ "refused") := by
      have := insertable.outcome
      tauto
    simp only [insertRow, insertable.fits, insertable.admitted, not_true_eq_false, if_false, if_neg positive,
      if_neg outcome, if_neg free]

namespace Migration

variable {owner : String} {defaults : List (Sql.Grantee × Sql.Privilege)} {rows : List Sql.Row}

theorem int_injective {a b : UUID} (same : a.int = b.int) : a = b := by
  cases a
  cases b
  simp only at same
  subst same
  rfl

theorem storedValues_injective {a b : AdapterReceiptRow} {i j : UUID}
    (same : a.storedValues i = b.storedValues j) : i = j ∧ a = b := by
  simp only [AdapterReceiptRow.storedValues, List.cons.injEq, Option.some.injEq, Sql.Value.uuid.injEq,
    Sql.Value.text.injEq, Sql.Value.int.injEq, Sql.Value.time.injEq, and_true] at same
  obtain ⟨id, tenant, adapter, sourceOwner, sourceRef, version, print, outcome, observed⟩ := same
  refine ⟨int_injective id, ?_⟩
  cases a
  cases b
  simp only at tenant adapter sourceOwner sourceRef version print outcome observed
  rw [int_injective tenant, adapter, sourceOwner, sourceRef, version, print, outcome, observed]

theorem view_tenant (id : UUID) (row : AdapterReceiptRow) :
    (migrated owner defaults rows).view (row.storedValues id) "tenant_id" = some (.uuid row.tenantId.int) := rfl

theorem tenantMatches_storedValues (settings : Sql.Settings) (id : UUID) (row : AdapterReceiptRow) :
    tenantMatches settings ((migrated owner defaults rows).view (row.storedValues id)) =
      policyAdmits (settings "app.current_tenant") row.tenantId := by
  rw [tenantMatches, view_tenant, policyAdmits]
  cases current : currentTenant (settings "app.current_tenant") with
  | none => rfl
  | some t =>
      by_cases same : t = row.tenantId
      · simp [same]
      · have apart : row.tenantId.int ≠ t.int := fun equal => same (int_injective equal).symm
        simp [same, apart]

/-! ## The rows that pass -/

theorem fits_uuid {value : Sql.Value} (fits : Sql.ColumnType.uuid.fits value = true) :
    ∃ u : UUID, value = .uuid u.int := by
  cases value with
  | uuid int =>
      have bounded : int < 16 ^ 32 := by
        have below : int < 2 ^ 128 := of_decide_eq_true fits
        norm_num at below ⊢
        exact below
      exact ⟨⟨int, bounded⟩, rfl⟩
  | text s => cases fits
  | int n => cases fits
  | time instant => cases fits

theorem fits_string {length : Nat} {value : Sql.Value}
    (fits : (Sql.ColumnType.string length).fits value = true) :
    ∃ s : String, value = .text s ∧ s.length ≤ length := by
  cases value with
  | text s => exact ⟨s, rfl, of_decide_eq_true fits⟩
  | uuid int => cases fits
  | int n => cases fits
  | time instant => cases fits

theorem fits_integer {value : Sql.Value} (fits : Sql.ColumnType.integer.fits value = true) :
    ∃ n : Int, value = .int n ∧ -2147483648 ≤ n ∧ n ≤ 2147483647 := by
  cases value with
  | int n => exact ⟨n, rfl, of_decide_eq_true fits⟩
  | uuid int => cases fits
  | text s => cases fits
  | time instant => cases fits

theorem fits_timestamp {value : Sql.Value} (fits : Sql.ColumnType.timestamp.fits value = true) :
    ∃ instant : Int, value = .time instant := by
  cases value with
  | time instant => exact ⟨instant, rfl⟩
  | uuid int => cases fits
  | text s => cases fits
  | int n => cases fits

/-- A row of nine values that are there and fit their columns. -/
theorem storedValues_of_fits {row : Sql.Row} (fits : definition.Fits row)
    (present : ∀ entry ∈ definition.columns.zip row, entry.2.isSome = true) :
    ∃ id r, row = AdapterReceiptRow.storedValues id r ∧ r.columnFault = none := by
  have values : ∀ entry ∈ definition.columns.zip row, ∃ value, entry.2 = some value ∧
      entry.1.type.fits value = true := by
    intro entry member
    obtain ⟨value, there⟩ := Option.isSome_iff_exists.mp (present entry member)
    exact ⟨value, there, fits.each entry member value there⟩
  match row, fits.width with
  | [a, b, c, d, e, f, g, h, i], _ =>
      simp only [definition, List.zip_cons_cons, List.forall_mem_cons] at values
      obtain ⟨⟨_, rfl, a⟩, ⟨_, rfl, b⟩, ⟨_, rfl, c⟩, ⟨_, rfl, d⟩, ⟨_, rfl, e⟩, ⟨_, rfl, f⟩, ⟨_, rfl, g⟩,
        ⟨_, rfl, h⟩, ⟨_, rfl, i⟩, -⟩ := values
      obtain ⟨id, rfl⟩ := fits_uuid a
      obtain ⟨tenantId, rfl⟩ := fits_uuid b
      obtain ⟨adapter, rfl, adapterFits⟩ := fits_string c
      obtain ⟨sourceOwner, rfl, ownerFits⟩ := fits_string d
      obtain ⟨sourceRef, rfl, refFits⟩ := fits_string e
      obtain ⟨sourceVersion, rfl, versionFits⟩ := fits_integer f
      obtain ⟨fingerprint, rfl, printFits⟩ := fits_string g
      obtain ⟨outcome, rfl, outcomeFits⟩ := fits_string h
      obtain ⟨observedAt, rfl⟩ := fits_timestamp i
      refine ⟨id, ⟨tenantId, adapter, sourceOwner, sourceRef, sourceVersion, fingerprint, outcome, observedAt⟩,
        rfl, ?_⟩
      exact columnFault_eq_none.mpr ⟨adapterFits, ownerFits, refFits, versionFits, printFits, outcomeFits⟩

theorem secured_online {role : Sql.Role} (online : OnlineRole role) :
    (migrated owner defaults rows).secured role = true := by
  simp [Sql.Table.secured, migrated, online.plain, online.secured]

theorem tenantCasts_of_admits {setting : Setting} {t : UUID} (admits : policyAdmits setting t = true) :
    tenantCasts setting = true := by
  have current : currentTenant setting = some t := by simpa [policyAdmits] using admits
  cases setting with
  | none => rfl
  | some text =>
      simp only [currentTenant] at current
      split_ifs at current with empty
      simp [tenantCasts, current]

theorem unevaluable_online {session : Sql.Session} (online : OnlineRole session.role) :
    (migrated owner defaults rows).unevaluable? session =
      if tenantCasts (session.settings "app.current_tenant") then none else some isolation := by
  rw [Sql.Table.unevaluable?, secured_online online, if_pos rfl]
  cases casts : tenantCasts (session.settings "app.current_tenant") with
  | false => simp [migrated, isolation, casts]
  | true => simp [migrated, isolation, casts]

theorem admitted_storedValues {session : Sql.Session} (online : OnlineRole session.role) (id : UUID)
    (row : AdapterReceiptRow) :
    (migrated owner defaults rows).admitted session (row.storedValues id) =
      policyAdmits (session.settings "app.current_tenant") row.tenantId := by
  have isolated : tenantMatches session.settings ((migrated owner defaults rows).view (row.storedValues id)) =
      policyAdmits (session.settings "app.current_tenant") row.tenantId :=
    tenantMatches_storedValues session.settings id row
  simp only [Sql.Table.admitted, secured_online online, Bool.not_true, Bool.false_or]
  simpa [migrated, isolation] using isolated

/-- The surrogate is stored as it was given. -/
theorem stored_surrogate {row : Sql.Row} {id : UUID} {r : AdapterReceiptRow}
    (stores : definition.stored row = .ok (r.storedValues id)) : row.head? = some (some (.uuid id.int)) := by
  unfold Sql.Definition.stored at stores
  split_ifs at stores with width
  cases row with
  | nil => exact absurd (fun equal => by cases equal) width
  | cons value row =>
      simp only [definition, List.zip_cons_cons, List.mapM_cons, bind, Except.bind] at stores
      split at stores
      · cases stores
      · rename_i first held
        split at stores
        · cases stores
        · obtain ⟨rfl, -⟩ := List.cons.inj (Except.ok.inj stores)
          rw [Sql.Column.stored_uuid rfl held, List.head?_cons]

theorem columns_notNull : ∀ column ∈ definition.columns, column.nullable = false := by decide

theorem fits_storedValues (id : UUID) {row : AdapterReceiptRow} (fault : row.columnFault = none) :
    definition.Fits (row.storedValues id) where
  width := rfl
  each := by
    obtain ⟨adapter, sourceOwner, sourceRef, sourceVersion, fingerprint, outcome⟩ :=
      columnFault_eq_none.mp fault
    have uuid : ∀ u : UUID, Sql.ColumnType.uuid.fits (.uuid u.int) = true := by
      intro u
      have bounded := u.bounded
      apply decide_eq_true
      norm_num at bounded ⊢
      exact bounded
    simp only [definition, AdapterReceiptRow.storedValues, List.zip_cons_cons, List.forall_mem_cons,
      Option.some.injEq, forall_eq']
    exact ⟨uuid id, uuid row.tenantId, decide_eq_true adapter, decide_eq_true sourceOwner,
      decide_eq_true sourceRef, decide_eq_true sourceVersion, decide_eq_true fingerprint,
      decide_eq_true outcome, rfl, by simp⟩

theorem storedValues_present (id : UUID) (row : AdapterReceiptRow) :
    ∀ value ∈ row.storedValues id, value.isSome = true := by
  simp [AdapterReceiptRow.storedValues]

/-- A receipt that fits is stored as it is. -/
theorem stored_storedValues (id : UUID) {row : AdapterReceiptRow} (fault : row.columnFault = none) :
    definition.stored (row.storedValues id) = .ok (row.storedValues id) :=
  Sql.Definition.stored_of_fits (fits_storedValues id fault)

/-- The rows the online role may insert are receipts that the model accepts but for the
    keys they share with others. -/
theorem passes_storedValues {session : Sql.Session} (online : OnlineRole session.role) (id : UUID)
    {r : AdapterReceiptRow} (fault : r.columnFault = none) :
    (migrated owner defaults rows).Passes session (r.storedValues id) ↔
      r.Insertable (session.settings "app.current_tenant") ∧
        ∀ key ∈ (migrated owner defaults rows).keys, ∀ other ∈ rows,
          (migrated owner defaults rows).clash key.2 other (r.storedValues id) = false := by
  constructor
  · intro passes
    refine ⟨⟨fault, ?_, ?_, ?_⟩, passes.apart⟩
    · rw [← admitted_storedValues online id r]
      exact passes.admitted
    · exact of_decide_eq_true (passes.checks versionPositive (by simp [migrated, definition]))
    · have known : (r.outcome == "applied" || r.outcome == "refused") = true :=
        passes.checks outcomeKnown (by simp [migrated, definition])
      simpa using known
  · rintro ⟨insertable, apart⟩
    refine ⟨?_, ?_, ?_, ?_, apart⟩
    · rw [unevaluable_online online, if_pos (tenantCasts_of_admits insertable.admitted)]
    · rw [admitted_storedValues online id r]
      exact insertable.admitted
    · intro entry member _
      exact storedValues_present id r entry.2 (List.of_mem_zip member).2
    · intro constraint member
      simp only [migrated, definition, List.mem_cons, List.not_mem_nil, or_false] at member
      rcases member with rfl | rfl
      · exact decide_eq_true insertable.positive
      · have known : (r.outcome == "applied" || r.outcome == "refused") = true := by
          simpa using insertable.outcome
        exact known

theorem clash_id (a b : AdapterReceiptRow) (i j : UUID) :
    (migrated owner defaults rows).clash ["id"] (a.storedValues i) (b.storedValues j) = true ↔ i = j := by
  have compared : (migrated owner defaults rows).clash ["id"] (a.storedValues i) (b.storedValues j) =
      ((some (Sql.Value.uuid i.int) == some (.uuid j.int) && true) && true) := rfl
  rw [compared]
  simp only [Bool.and_true, beq_iff_eq, Option.some.injEq, Sql.Value.uuid.injEq]
  constructor
  · exact int_injective
  · rintro rfl
    rfl

theorem clash_exactFact (a b : AdapterReceiptRow) (i j : UUID) :
    (migrated owner defaults rows).clash exactFactKey.2 (a.storedValues i) (b.storedValues j) = true ↔
      a.exactFact = b.exactFact := by
  have compared : (migrated owner defaults rows).clash exactFactKey.2 (a.storedValues i) (b.storedValues j) =
      ((some (Sql.Value.uuid a.tenantId.int) == some (.uuid b.tenantId.int) && true) &&
        ((some (Sql.Value.text a.adapter) == some (.text b.adapter) && true) &&
          ((some (Sql.Value.text a.sourceOwner) == some (.text b.sourceOwner) && true) &&
            ((some (Sql.Value.text a.sourceRef) == some (.text b.sourceRef) && true) &&
              ((some (Sql.Value.int a.sourceVersion) == some (.int b.sourceVersion) && true) && true))))) := rfl
  rw [compared]
  simp only [Bool.and_true, Bool.and_eq_true, beq_iff_eq, Option.some.injEq, Sql.Value.uuid.injEq,
    Sql.Value.text.injEq, Sql.Value.int.injEq, AdapterReceiptRow.exactFact, ExactFact.mk.injEq]
  constructor
  · rintro ⟨tenant, rest⟩
    exact ⟨int_injective tenant, rest⟩
  · rintro ⟨tenant, rest⟩
    exact ⟨congrArg UUID.int tenant, rest⟩

/-! ## The model's rows in the migrated table -/

/-- A row of the model with its surrogate. -/
abbrev Entry := UUID × AdapterReceiptRow

/-- The migrated table, holding these receipts. -/
def holding (owner : String) (defaults : List (Sql.Grantee × Sql.Privilege)) (entries : List Entry) :
    Sql.Table :=
  migrated owner defaults (entries.map (fun entry => entry.2.storedValues entry.1))

/-- The migration leaves the table empty. -/
theorem upgraded_holds {base db : Sql.Database} {migrator : Sql.Session}
    (upgraded : base.executeAll migrator upgrade = .ok db) :
    db.table? table = some (holding migrator.role.name base.defaults []) := by
  obtain ⟨installable, rfl⟩ := upgrade_eq_ok.mp upgraded
  have free : table ∉ base.relations := installable.free _ (by simp)
  exact Sql.Database.table?_add (free_name free)

theorem holding_rows (entries : List Entry) : (holding owner defaults entries).rows =
    entries.map (fun entry => entry.2.storedValues entry.1) := rfl

theorem insertRow_holding {session : Sql.Session} (online : OnlineRole session.role) {entries : List Entry}
    {row : Sql.Row} {table' : Sql.Table} :
    (holding owner defaults entries).insertRow session row = .ok table' ↔
      ∃ id r, definition.stored row = .ok (AdapterReceiptRow.storedValues id r) ∧
        id ∉ entries.map Prod.fst ∧
        insertRow (session.settings "app.current_tenant") (entries.map Prod.snd) r =
          .ok (entries.map Prod.snd ++ [r]) ∧
        table' = holding owner defaults (entries ++ [(id, r)]) := by
  have keyed : ∀ (id : UUID) (r : AdapterReceiptRow),
      (∀ key ∈ (holding owner defaults entries).keys, ∀ other ∈ (holding owner defaults entries).rows,
        (holding owner defaults entries).clash key.2 other (r.storedValues id) = false) ↔
      id ∉ entries.map Prod.fst ∧ ∀ other ∈ entries.map Prod.snd, other.exactFact ≠ r.exactFact := by
    intro id r
    have keys : (holding owner defaults entries).keys = [(table ++ "_pkey", ["id"]), exactFactKey] := rfl
    rw [keys, holding_rows]
    simp only [List.forall_mem_cons, List.forall_mem_map, List.not_mem_nil, false_implies, implies_true,
      and_true, Bool.eq_false_iff, ne_eq]
    constructor
    · rintro ⟨ids, facts⟩
      constructor
      · intro taken
        obtain ⟨entry, member, same⟩ := List.mem_map.mp taken
        exact ids entry member ((clash_id entry.2 r entry.1 id).mpr same)
      · intro entry member same
        exact facts entry member ((clash_exactFact entry.2 r entry.1 id).mpr same)
    · rintro ⟨ids, facts⟩
      constructor
      · intro entry member clash
        exact ids (List.mem_map.mpr ⟨entry, member, (clash_id entry.2 r entry.1 id).mp clash⟩)
      · intro entry member clash
        exact facts entry member ((clash_exactFact entry.2 r entry.1 id).mp clash)
  have grown : ∀ (id : UUID) (r : AdapterReceiptRow), ({ holding owner defaults entries with
      rows := (holding owner defaults entries).rows ++ [r.storedValues id] } : Sql.Table) =
        holding owner defaults (entries ++ [(id, r)]) := by
    intro id r
    simp only [holding, migrated, List.map_append, List.map_cons, List.map_nil]
  rw [Sql.Table.insertRow_eq_ok]
  constructor
  · rintro ⟨kept, stores, passes, rfl⟩
    have present : ∀ entry ∈ definition.columns.zip kept, entry.2.isSome = true := by
      intro entry member
      have required : (!entry.1.nullable) = true := by
        rw [columns_notNull _ (List.of_mem_zip member).1]
        rfl
      exact passes.notNull entry member (by simp [required])
    obtain ⟨id, r, rfl, fault⟩ := storedValues_of_fits (Sql.Definition.fits_of_stored stores) present
    obtain ⟨insertable, apart⟩ := (passes_storedValues online id fault).mp passes
    obtain ⟨fresh, facts⟩ := (keyed id r).mp apart
    exact ⟨id, r, stores, fresh, insertRow_eq_ok_iff.mpr ⟨insertable, facts, rfl⟩, grown id r⟩
  · rintro ⟨id, r, stores, fresh, inserted, rfl⟩
    obtain ⟨insertable, facts, -⟩ := insertRow_eq_ok_iff.mp inserted
    have passes := (passes_storedValues online id insertable.fits).mpr ⟨insertable, (keyed id r).mpr ⟨fresh, facts⟩⟩
    exact ⟨r.storedValues id, stores, passes, (grown id r).symm⟩

theorem visible_storedValues {session : Sql.Session} (online : OnlineRole session.role) (id : UUID)
    (row : AdapterReceiptRow) :
    (migrated owner defaults rows).visible session (row.storedValues id) =
      policyAdmits (session.settings "app.current_tenant") row.tenantId := by
  have isolated : tenantMatches session.settings ((migrated owner defaults rows).view (row.storedValues id)) =
      policyAdmits (session.settings "app.current_tenant") row.tenantId :=
    tenantMatches_storedValues session.settings id row
  simp only [Sql.Table.visible, secured_online online, Bool.not_true, Bool.false_or]
  simpa [migrated, isolation] using isolated

theorem holds_online {role : Sql.Role} (online : OnlineRole role) {privilege : Sql.Privilege}
    (given : privilege ∈ [Sql.Privilege.select, .insert]) :
    (migrated owner defaults rows).holds role privilege = true := by
  have granted : (appUser, privilege) ∈ receiptGrants defaults := Sql.mem_bestow.mpr (.inr ⟨rfl, given⟩)
  have found : (receiptGrants defaults).any (fun grant => grant.2 == privilege &&
      (grant.1 == .everyone || grant.1 == .role role.name)) = true := by
    rw [List.any_eq_true]
    refine ⟨_, granted, ?_⟩
    simp [appUser, online.name]
  simp only [Sql.Table.holds, migrated, found, Bool.or_true]

theorem query_holding {db : Sql.Database} {entries : List Entry} {session : Sql.Session}
    (found : db.table? table = some (holding owner defaults entries)) (online : OnlineRole session.role) :
    db.query session table =
      if tenantCasts (session.settings "app.current_tenant") then
        .ok ((entries.filter (fun entry => policyAdmits (session.settings "app.current_tenant")
          entry.2.tenantId)).map (fun entry => entry.2.storedValues entry.1))
      else .error (.setting policy) := by
  have reads : (holding owner defaults entries).holds session.role .select = true :=
    holds_online online (by simp)
  have faults : (holding owner defaults entries).unevaluable? session =
      if tenantCasts (session.settings "app.current_tenant") then none else some isolation :=
    unevaluable_online online
  have shown : entries.filter ((holding owner defaults entries).visible session ∘
      fun entry => entry.2.storedValues entry.1) = entries.filter (fun entry =>
        policyAdmits (session.settings "app.current_tenant") entry.2.tenantId) := by
    apply List.filter_congr
    intro entry _
    exact visible_storedValues online entry.1 entry.2
  simp only [Sql.Database.query, found, reads, if_true, Sql.Table.reading, faults, holding_rows,
    List.filter_map, shown]
  cases tenantCasts (session.settings "app.current_tenant") with
  | false => rfl
  | true => rfl

theorem execute_insert_holding {db db' : Sql.Database} {entries : List Entry} {session : Sql.Session}
    {row : Sql.Row} (found : db.table? table = some (holding owner defaults entries))
    (online : OnlineRole session.role) :
    db.execute session (.insert table row) = .ok db' ↔
      ∃ id r, definition.stored row = .ok (AdapterReceiptRow.storedValues id r) ∧
        id ∉ entries.map Prod.fst ∧
        insertRow (session.settings "app.current_tenant") (entries.map Prod.snd) r =
          .ok (entries.map Prod.snd ++ [r]) ∧
        db' = db.put (holding owner defaults (entries ++ [(id, r)])) := by
  have writes : [Sql.Privilege.insert].all ((holding owner defaults entries).holds session.role) = true := by
    simp only [List.all_cons, List.all_nil, Bool.and_true]
    exact holds_online online (by simp)
  simp only [Sql.Database.execute, Sql.Database.modify, found, writes, if_true]
  cases inserted : (holding owner defaults entries).insertRow session row with
  | error e =>
      simp only [Except.map, reduceCtorEq, false_iff]
      rintro ⟨id, r, stores, fresh, accepted, -⟩
      have again : (holding owner defaults entries).insertRow session row = .ok _ :=
        (insertRow_holding online).mpr ⟨id, r, stores, fresh, accepted, rfl⟩
      rw [inserted] at again
      cases again
  | ok table' =>
      obtain ⟨id, r, stores, fresh, accepted, rfl⟩ := (insertRow_holding online).mp inserted
      simp only [Except.map, Except.ok.injEq]
      constructor
      · rintro rfl
        exact ⟨id, r, stores, fresh, accepted, rfl⟩
      · rintro ⟨id', r', stores', -, -, rfl⟩
        rw [stores, Except.ok.injEq] at stores'
        obtain ⟨rfl, rfl⟩ := storedValues_injective stores'
        rfl

/-- The online role in a session of the tenant. -/
def scopedTo (t : UUID) : Sql.Session where
  role := ⟨"app_user", false, false, false⟩
  settings := fun name => if name = "app.current_tenant" then some t.str else none

theorem scopedTo_online (t : UUID) : OnlineRole (scopedTo t).role := ⟨rfl, rfl, rfl⟩

/-- An invoice's receipt, the adapter's name filled up with spaces. -/
def padded (length : Nat) : AdapterReceiptRow :=
  let adapter := invoiceReceipt.adapter.toList
  { fromReceipt 1 invoiceReceipt with
    adapter := String.ofList (adapter ++ List.replicate (length - adapter.length) ' ') }

end Migration

end DotmacCloud
