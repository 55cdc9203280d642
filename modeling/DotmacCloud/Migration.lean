import DotmacCloud.Foundation.Sql
import DotmacCloud.Models

/-! # The migration of the receipt table

Data, isolation and grants are created as one schema change. It goes through exactly
where the names are free and the online role exists, and its downgrade leaves nothing
of it.
-/

namespace DotmacCloud

open Foundation

namespace Migration

def table : String := "cloud_adapter_receipts"

def policy : String := "cloud_adapter_receipts_tenant_isolation"

def index : String × List String :=
  ("ix_cloud_receipt_reconciliation", ["tenant_id", "adapter", "source_owner", "source_ref"])

def exactFactKey : String × List String :=
  ("uq_cloud_receipt_exact_fact", ["tenant_id", "adapter", "source_owner", "source_ref", "source_version"])

/-- `source_version > 0` -/
def versionPositive : Sql.Constraint where
  name := "ck_cloud_receipt_version_positive"
  holds := fun view =>
    match view "source_version" with
    | some (.int n) => 0 < n
    | _ => true

/-- `outcome IN ('applied', 'refused')` -/
def outcomeKnown : Sql.Constraint where
  name := "ck_cloud_receipt_outcome"
  holds := fun view =>
    match view "outcome" with
    | some (.text s) => s == "applied" || s == "refused"
    | _ => true

def definition : Sql.Definition where
  name := table
  columns := [
    ⟨"id", .uuid, false⟩,
    ⟨"tenant_id", .uuid, false⟩,
    ⟨"adapter", .string 120, false⟩,
    ⟨"source_owner", .string 120, false⟩,
    ⟨"source_ref", .string 255, false⟩,
    ⟨"source_version", .integer, false⟩,
    ⟨"fingerprint", .string 255, false⟩,
    ⟨"outcome", .string 16, false⟩,
    ⟨"observed_at", .timestamp, false⟩]
  checks := [versionPositive, outcomeKnown]
  primaryKey := ["id"]
  uniques := [exactFactKey]

/-- Whether `NULLIF(current_setting('app.current_tenant', true), '')::uuid` can be cast. -/
def tenantCasts (setting : Setting) : Bool :=
  match setting with
  | none => true
  | some text => text == "" || (UUID.parse text).isSome

/-- `tenant_id = NULLIF(current_setting('app.current_tenant', true), '')::uuid` -/
def tenantMatches (settings : Sql.Settings) (view : Sql.View) : Bool :=
  match currentTenant (settings "app.current_tenant"), view "tenant_id" with
  | some t, some value => value == .uuid t.int
  | _, _ => false

def isolation : Sql.Policy where
  name := policy
  evaluates := fun settings => tenantCasts (settings "app.current_tenant")
  shows := tenantMatches
  admits := tenantMatches

def appUser : Sql.Grantee := .role "app_user"

def everyPrivilege : List Sql.Privilege :=
  [.select, .insert, .update, .delete, .truncate, .references, .trigger]

/-- What would change a receipt, or hang something on the table. -/
def changing : List Sql.Privilege := [.update, .delete, .truncate, .references, .trigger]

def upgrade : List Sql.Statement := [
  .createTable definition,
  .createIndex index.1 table index.2,
  .enableRowSecurity table,
  .forceRowSecurity table,
  .createPolicy table isolation,
  .revoke everyPrivilege table .everyone,
  .revoke changing table appUser,
  .grant [.select, .insert] table appUser]

def downgrade : List Sql.Statement := [.dropIndex index.1, .dropTable table]

/-! ## What it leaves -/

/-- The grants, from the default ones the table was created with. -/
def receiptGrants (defaults : List (Sql.Grantee × Sql.Privilege)) : List (Sql.Grantee × Sql.Privilege) :=
  Sql.bestow [.select, .insert] appUser
    (Sql.withdraw changing appUser (Sql.withdraw everyPrivilege .everyone defaults))

/-- The migrated table, with the rows it holds. -/
def migrated (owner : String) (defaults : List (Sql.Grantee × Sql.Privilege)) (rows : List Sql.Row) :
    Sql.Table where
  toDefinition := definition
  owner := owner
  indexes := [index]
  rowSecurity := true
  forced := true
  policies := [isolation]
  grants := receiptGrants defaults
  rows := rows

/-- Where the migration goes through. -/
structure Installable (db : Sql.Database) (session : Sql.Session) : Prop where
  creates : (session.role.superuser || session.role.creates) = true
  free : ∀ name ∈ [table, exactFactKey.1, index.1], name ∉ db.relations
  role : db.knows appUser = true

variable {db db' : Sql.Database} {session : Sql.Session}

theorem free_name (free : table ∉ db.relations) : ∀ known ∈ db.tables, known.name ≠ table := by
  intro known member same
  apply free
  rw [Sql.Database.relations, List.mem_flatMap]
  exact ⟨known, member, same ▸ List.mem_cons_self⟩

/-- The table as it was just created. -/
def created (owner : String) (defaults : List (Sql.Grantee × Sql.Privilege)) : Sql.Table :=
  ⟨definition, owner, [], false, false, [], defaults, []⟩

theorem createTable_eq_ok :
    db.execute session (.createTable definition) = .ok db' ↔
      (session.role.superuser || session.role.creates) = true ∧
        (table ∉ db.relations ∧ exactFactKey.1 ∉ db.relations) ∧
        db' = db.add (created session.role.name db.defaults) := by
  simp only [Sql.Database.execute]
  split_ifs with creates
  · split
    · rename_i taken found
      simp only [reduceCtorEq, false_iff]
      rintro ⟨-, ⟨freeTable, freeKey⟩, -⟩
      have inside := List.find?_some found
      have listed := List.mem_of_find?_eq_some found
      simp only [definition, List.map_cons, List.map_nil, List.mem_cons, List.not_mem_nil, or_false] at listed
      rcases listed with rfl | rfl
      · exact freeTable (by simpa using inside)
      · exact freeKey (by simpa using inside)
    · rename_i free
      have both : table ∉ db.relations ∧ exactFactKey.1 ∉ db.relations := by
        simpa [definition] using free
      simp only [creates, both, true_and, Except.ok.injEq, not_false_eq_true, created]
      exact eq_comm
  · simp only [false_iff]
    rintro ⟨may, -⟩
    exact creates may

theorem relations_created (owner : String) (defaults : List (Sql.Grantee × Sql.Privilege)) {name : String} :
    name ∈ (db.add (created owner defaults)).relations ↔
      name ∈ db.relations ∨ name = table ∨ name = exactFactKey.1 := by
  simp [Sql.Database.relations, Sql.Database.add, Sql.Table.relations, created, definition]

/-- After the table is created, the migration goes through exactly where the index and
    the role allow it. -/
theorem secure_eq_ok (free : table ∉ db.relations) :
    (db.add (created session.role.name db.defaults)).executeAll session upgrade.tail = .ok db' ↔
      (index.1 ∉ db.relations ∧ db.knows appUser = true) ∧
        db' = db.add (migrated session.role.name db.defaults []) := by
  have fresh := free_name free
  have owned : ∀ t : Sql.Table, t.owner = session.role.name → t.ownedBy session.role = true := by
    intro t same
    simp [Sql.Table.ownedBy, same]
  let start := created session.role.name db.defaults
  let indexed : Sql.Table := { start with indexes := [index] }
  let enabled : Sql.Table := { indexed with rowSecurity := true }
  let forced : Sql.Table := { enabled with forced := true }
  let isolated : Sql.Table := { forced with policies := [isolation] }
  let withdrawn : Sql.Table := { isolated with grants := Sql.withdraw everyPrivilege .everyone db.defaults }
  let revoked : Sql.Table := { withdrawn with grants := Sql.withdraw changing appUser withdrawn.grants }
  have named : (db.add start).relations.contains index.1 = db.relations.contains index.1 := by
    rw [Bool.eq_iff_iff, List.contains_iff_mem, List.contains_iff_mem, relations_created]
    simp [index, table, exactFactKey]
  simp only [upgrade, List.tail_cons]
  by_cases taken : index.1 ∈ db.relations
  · have raised : (db.add start).execute session (.createIndex index.1 table index.2) =
        .error (.duplicateRelation index.1) := by
      apply Sql.Database.alter_add_raises fresh (owned start rfl)
      rw [named, if_pos (List.contains_iff_mem.mpr taken)]
    rw [Sql.Database.executeAll_raises raised]
    simp [taken]
  have made : (db.add start).execute session (.createIndex index.1 table index.2) = .ok (db.add indexed) := by
    have changed : (if (db.add start).relations.contains index.1 then
        .error (Sql.Error.duplicateRelation index.1) else .ok indexed) = Except.ok indexed := by
      rw [named, if_neg (by simpa using taken)]
    exact Sql.Database.alter_add fresh (owned start rfl) changed rfl
  have switched : (db.add indexed).execute session (.enableRowSecurity table) = .ok (db.add enabled) :=
    Sql.Database.alter_add fresh (owned indexed rfl) rfl rfl
  have always : (db.add enabled).execute session (.forceRowSecurity table) = .ok (db.add forced) :=
    Sql.Database.alter_add fresh (owned enabled rfl) rfl rfl
  have isolates : (db.add forced).execute session (.createPolicy table isolation) = .ok (db.add isolated) :=
    Sql.Database.alter_add fresh (owned forced rfl) rfl rfl
  have withdraws : (db.add isolated).execute session (.revoke everyPrivilege table .everyone) =
      .ok (db.add withdrawn) := Sql.Database.regrant_add fresh (owned isolated rfl) rfl _
  rw [Sql.Database.executeAll_cons made, Sql.Database.executeAll_cons switched,
    Sql.Database.executeAll_cons always, Sql.Database.executeAll_cons isolates,
    Sql.Database.executeAll_cons withdraws]
  cases known : db.knows appUser with
  | false =>
      have raised : (db.add withdrawn).execute session (.revoke changing table appUser) =
          .error (.undefinedRole table) := Sql.Database.regrant_add_unknown fresh known _
      rw [Sql.Database.executeAll_raises raised]
      simp
  | true =>
      have revokes : (db.add withdrawn).execute session (.revoke changing table appUser) =
          .ok (db.add revoked) := Sql.Database.regrant_add fresh (owned withdrawn rfl) known _
      have grants : (db.add revoked).execute session (.grant [.select, .insert] table appUser) =
          .ok (db.add (migrated session.role.name db.defaults [])) :=
        Sql.Database.regrant_add fresh (owned revoked rfl) known _
      rw [Sql.Database.executeAll_cons revokes, Sql.Database.executeAll_cons grants]
      simp [taken, Sql.Database.executeAll, pure, Except.pure, eq_comm]

/-- The downgrade takes the table out again, whatever it holds by then. -/
theorem downgrade_restores (installable : Installable db session) (rows : List Sql.Row) :
    (db.add (migrated session.role.name db.defaults rows)).executeAll session downgrade = .ok db := by
  have freeTable : table ∉ db.relations := installable.free _ (by simp)
  have freeIndex : index.1 ∉ db.relations := installable.free _ (by simp)
  have fresh := free_name freeTable
  let full := migrated session.role.name db.defaults rows
  let bare : Sql.Table := { full with indexes := [] }
  have owned : ∀ t : Sql.Table, t.owner = session.role.name → t.ownedBy session.role = true := by
    intro t same
    simp [Sql.Table.ownedBy, same]
  have elsewhere : db.tables.find? (fun t => t.indexes.any (fun entry => entry.1 == index.1)) = none := by
    rw [List.find?_eq_none]
    intro known member indexed
    obtain ⟨entry, inside, same⟩ := List.any_eq_true.mp indexed
    apply freeIndex
    rw [Sql.Database.relations, List.mem_flatMap]
    refine ⟨known, member, ?_⟩
    have named : index.1 ∈ known.indexes.map Prod.fst :=
      List.mem_map.mpr ⟨entry, inside, by simpa using same⟩
    exact List.mem_append_right _ named
  have unindexed : (db.add full).execute session (.dropIndex index.1) = .ok (db.add bare) := by
    have here : (db.add full).tables.find? (fun t => t.indexes.any (fun entry => entry.1 == index.1)) =
        some full := by
      simp [Sql.Database.add, List.find?_append, elsewhere, full, migrated]
    simp only [Sql.Database.execute, here]
    exact Sql.Database.alter_add fresh (owned full rfl) rfl rfl
  have dropped : (db.add bare).execute session (.dropTable table) = .ok db := by
    have found : (db.add bare).table? table = some bare := Sql.Database.table?_add fresh
    have others : db.tables.filter (fun other => other.name != table) = db.tables := by
      rw [List.filter_eq_self]
      intro known member
      simpa using fresh known member
    have last : (bare.name != table) = false := by simp [bare, full, migrated, definition]
    simp only [Sql.Database.execute, found, owned bare rfl, if_true]
    simp [Sql.Database.add, List.filter_append, others, last]
  rw [downgrade, Sql.Database.executeAll_cons unindexed, Sql.Database.executeAll_cons dropped]
  rfl

theorem upgrade_eq_ok :
    db.executeAll session upgrade = .ok db' ↔
      Installable db session ∧ db' = db.add (migrated session.role.name db.defaults []) := by
  have split : upgrade = .createTable definition :: upgrade.tail := rfl
  rw [split, Sql.Database.executeAll_cons_eq_ok]
  constructor
  · rintro ⟨next, first, ran⟩
    obtain ⟨creates, ⟨freeTable, freeKey⟩, rfl⟩ := createTable_eq_ok.mp first
    obtain ⟨⟨freeIndex, role⟩, same⟩ := (secure_eq_ok freeTable).mp ran
    refine ⟨⟨creates, ?_, role⟩, same⟩
    simpa using ⟨freeTable, freeKey, freeIndex⟩
  · rintro ⟨installable, same⟩
    have freeTable : table ∉ db.relations := installable.free _ (by simp)
    have freeKey : exactFactKey.1 ∉ db.relations := installable.free _ (by simp)
    have freeIndex : index.1 ∉ db.relations := installable.free _ (by simp)
    exact ⟨_, createTable_eq_ok.mpr ⟨installable.creates, ⟨freeTable, freeKey⟩, rfl⟩,
      (secure_eq_ok freeTable).mpr ⟨⟨freeIndex, installable.role⟩, same⟩⟩

/-- The migration goes through exactly where its names are free, its role may create
    tables and the online role exists; it adds the one table and changes nothing else; and
    the downgrade gives the database back, whatever receipts were written. -/
theorem upgrade_exact (db : Sql.Database) (session : Sql.Session) :
    (∀ db', db.executeAll session upgrade = .ok db' ↔
      Installable db session ∧ db' = db.add (migrated session.role.name db.defaults [])) ∧
    ∀ db', db.executeAll session upgrade = .ok db' → ∀ rows : List Sql.Row,
      (db'.put (migrated session.role.name db.defaults rows)).executeAll session downgrade = .ok db := by
  constructor
  · intro db'
    exact upgrade_eq_ok
  · intro db' ran rows
    obtain ⟨installable, rfl⟩ := upgrade_eq_ok.mp ran
    have fresh := free_name (installable.free _ (by simp) : table ∉ db.relations)
    have filled : (db.add (migrated session.role.name db.defaults [])).put
        (migrated session.role.name db.defaults rows) = db.add (migrated session.role.name db.defaults rows) :=
      Sql.Database.put_add fresh rfl
    rw [filled]
    exact downgrade_restores installable rows

/-- A kernel that created the online role, with default privileges for it. -/
def kernelBase : Sql.Database where
  roles := ["app_user", "app_admin"]
  defaults := [(.role "app_user", .select), (.role "app_user", .delete), (.everyone, .select)]
  tables := []

def migrator : Sql.Session := ⟨⟨"app_admin", false, true, true⟩, fun _ => none⟩

theorem kernelBase_installable : Installable kernelBase migrator := by
  refine ⟨rfl, ?_, rfl⟩
  intro name _ taken
  exact absurd taken List.not_mem_nil

theorem kernelBase_upgraded : kernelBase.executeAll migrator upgrade =
    .ok (kernelBase.add (migrated "app_admin" kernelBase.defaults [])) :=
  upgrade_eq_ok.mpr ⟨kernelBase_installable, rfl⟩

/-- The downgrade after one receipt was written. -/
theorem upgrade_exact_kernelBase :
    ((kernelBase.add (migrated "app_admin" kernelBase.defaults [])).put
      (migrated "app_admin" kernelBase.defaults [[some (.uuid 5), some (.uuid 1),
        some (.text "billing-exposure-to-collections"), some (.text "billing"), some (.text "invoice-1"),
        some (.int 1), some (.text "sha256:first"), some (.text "applied"), some (.time 0)]])).executeAll
      migrator downgrade = .ok kernelBase :=
  (upgrade_exact kernelBase migrator).2 _ kernelBase_upgraded _

end Migration

end DotmacCloud
