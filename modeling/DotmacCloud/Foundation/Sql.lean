import Mathlib

/-! # Tables under constraints, privileges and row security

A database of tables, and fourteen kinds of statements that define and fill them. Every
statement is run by a role, under settings that stay for its transaction; it changes the
database or raises. A role that neither owns a table nor may do more than read and insert
can only add rows that pass what the table declares, whatever of these statements it runs.
What no client can send is not checked for here: a text with U+0000, an instant out of
the type's range.
-/

namespace DotmacCloud.Foundation.Sql

inductive Value where
  | uuid (int : Nat)
  | text (s : String)
  | int (n : Int)
  /-- Microseconds since 1970. -/
  | time (instant : Int)
  deriving DecidableEq, Repr

inductive ColumnType where
  | uuid
  | string (length : Nat)
  | integer
  | timestamp
  deriving DecidableEq, Repr

/-- Texts longer than the column, and integers past 32 bits, do not fit. -/
def ColumnType.fits : ColumnType → Value → Bool
  | .uuid, .uuid int => int < 2 ^ 128
  | .string length, .text s => s.length ≤ length
  | .integer, .int n => -2147483648 ≤ n ∧ n ≤ 2147483647
  | .timestamp, .time _ => true
  | _, _ => false

/-- What is stored of a value. A text too long is cut where all of the excess is spaces. -/
def ColumnType.store (type : ColumnType) (value : Value) : Option Value :=
  if type.fits value then some value
  else
    match type, value with
    | .string length, .text s =>
        if (s.toList.drop length).all (· == ' ') then some (.text (String.ofList (s.toList.take length)))
        else none
    | _, _ => none

structure Column where
  name : String
  type : ColumnType
  nullable : Bool
  deriving DecidableEq, Repr

/-- The values of a row in the order of the columns; `none` is NULL. -/
abbrev Row := List (Option Value)

/-- A row by the names of its columns. -/
abbrev View := String → Option Value

/-- `current_setting(name, true)` -/
abbrev Settings := String → Option String

structure Constraint where
  name : String
  holds : View → Bool

/-- A permissive policy for all statements. Settings its expressions cannot be evaluated
    under refuse every statement it applies to. -/
structure Policy where
  name : String
  evaluates : Settings → Bool
  shows : Settings → View → Bool
  admits : Settings → View → Bool

inductive Privilege where
  | select | insert | update | delete | truncate | references | trigger
  deriving DecidableEq, Repr

inductive Grantee where
  | everyone
  | role (name : String)
  deriving DecidableEq, Repr

structure Role where
  name : String
  superuser : Bool
  bypassesRowSecurity : Bool
  /-- CREATE on the schema. -/
  creates : Bool
  deriving DecidableEq, Repr

structure Session where
  role : Role
  settings : Settings

/-- What `CREATE TABLE` is given. -/
structure Definition where
  name : String
  columns : List Column
  checks : List Constraint
  primaryKey : List String
  uniques : List (String × List String)

inductive Error where
  | undefinedTable (name : String)
  | undefinedIndex (name : String)
  | undefinedRole (name : String)
  | duplicateRelation (name : String)
  | duplicatePolicy (name : String)
  | permissionDenied (table : String)
  | rowSecurity (table : String)
  | setting (policy : String)
  | data (column : String)
  | width
  | notNull (column : String)
  | check (constraint : String)
  | unique (constraint : String)
  deriving DecidableEq, Repr

def Column.stored (column : Column) : Option Value → Except Error (Option Value)
  | none => .ok none
  | some value =>
      match column.type.store value with
      | some kept => .ok (some kept)
      | none => .error (.data column.name)

/-- A row as the columns store it. -/
def Definition.stored (definition : Definition) (row : Row) : Except Error Row :=
  if row.length ≠ definition.columns.length then .error .width
  else (definition.columns.zip row).mapM (fun entry => entry.1.stored entry.2)

structure Table extends Definition where
  owner : String
  indexes : List (String × List String)
  rowSecurity : Bool
  forced : Bool
  policies : List Policy
  grants : List (Grantee × Privilege)
  rows : List Row

structure Database where
  roles : List String
  /-- `ALTER DEFAULT PRIVILEGES` -/
  defaults : List (Grantee × Privilege)
  tables : List Table

inductive Statement where
  | createTable (definition : Definition)
  | createIndex (name table : String) (columns : List String)
  | enableRowSecurity (table : String)
  | forceRowSecurity (table : String)
  | createPolicy (table : String) (policy : Policy)
  | revoke (privileges : List Privilege) (table : String) (grantee : Grantee)
  | grant (privileges : List Privilege) (table : String) (grantee : Grantee)
  | dropIndex (name : String)
  | dropTable (table : String)
  | select (table : String)
  | insert (table : String) (row : Row)
  | update (table : String) (chosen : View → Bool) (changed : Row → Row)
  | delete (table : String) (chosen : View → Bool)
  | truncate (table : String)

/-! ## What a column stores -/

theorem ColumnType.store_of_fits {type : ColumnType} {value : Value} (fits : type.fits value = true) :
    type.store value = some value := by
  unfold ColumnType.store
  rw [if_pos fits]

theorem ColumnType.fits_of_store {type : ColumnType} {value kept : Value} (stores : type.store value = some kept) :
    type.fits kept = true := by
  unfold ColumnType.store at stores
  split_ifs at stores with fits
  · obtain rfl := Option.some.inj stores
    exact fits
  · split at stores
    · split_ifs at stores
      obtain rfl := Option.some.inj stores
      simp [ColumnType.fits]
    · cases stores

/-- A row the columns hold as it is. -/
structure Definition.Fits (definition : Definition) (row : Row) : Prop where
  width : row.length = definition.columns.length
  each : ∀ entry ∈ definition.columns.zip row, ∀ value, entry.2 = some value → entry.1.type.fits value = true

theorem Column.fits_of_stored {column : Column} {value kept : Option Value}
    (stores : column.stored value = .ok kept) : ∀ v, kept = some v → column.type.fits v = true := by
  cases value with
  | none =>
      obtain rfl := Except.ok.inj stores
      rintro _ ⟨⟩
  | some v =>
      simp only [Column.stored] at stores
      split at stores
      · rename_i w fine
        obtain rfl := Except.ok.inj stores
        rintro _ ⟨⟩
        exact ColumnType.fits_of_store fine
      · cases stores

theorem Column.stored_uuid {column : Column} (typed : column.type = .uuid) {value kept : Option Value}
    (stores : column.stored value = .ok kept) : value = kept := by
  cases value with
  | none => exact Except.ok.inj stores
  | some v =>
      have same : ∀ w, ColumnType.uuid.store v = some w → v = w := by
        intro w held
        unfold ColumnType.store at held
        split_ifs at held
        exact Option.some.inj held
      simp only [Column.stored, typed] at stores
      split at stores
      · rename_i w held
        rw [same w held]
        exact Except.ok.inj stores
      · cases stores

theorem Column.stored_of_fits {column : Column} {value : Option Value}
    (fits : ∀ v, value = some v → column.type.fits v = true) : column.stored value = .ok value := by
  cases value with
  | none => rfl
  | some v => simp only [Column.stored, ColumnType.store_of_fits (fits v rfl)]

theorem Definition.stored_of_fits {definition : Definition} {row : Row} (fits : definition.Fits row) :
    definition.stored row = .ok row := by
  have kept : ∀ (columns : List Column) (row : Row), row.length = columns.length →
      (∀ entry ∈ columns.zip row, ∀ value, entry.2 = some value → entry.1.type.fits value = true) →
      (columns.zip row).mapM (fun entry => entry.1.stored entry.2) = .ok row := by
    intro columns
    induction columns with
    | nil =>
        intro row width _
        obtain rfl := List.length_eq_zero_iff.mp width
        rfl
    | cons column columns ih =>
        intro row width each
        cases row with
        | nil => cases width
        | cons value row =>
            rw [List.zip_cons_cons, List.forall_mem_cons] at each
            rw [List.zip_cons_cons, List.mapM_cons, Column.stored_of_fits each.1,
              ih row (Nat.succ.inj width) each.2]
            rfl
  rw [Definition.stored, if_neg (not_not.mpr fits.width)]
  exact kept _ row fits.width fits.each

theorem Definition.fits_of_stored {definition : Definition} {row kept : Row}
    (stores : definition.stored row = .ok kept) : definition.Fits kept := by
  have fine : ∀ (columns : List Column) (row kept : Row), row.length = columns.length →
      (columns.zip row).mapM (fun entry => entry.1.stored entry.2) = .ok kept →
      kept.length = columns.length ∧
        ∀ entry ∈ columns.zip kept, ∀ value, entry.2 = some value → entry.1.type.fits value = true := by
    intro columns
    induction columns with
    | nil =>
        intro row kept _ ran
        obtain rfl := Except.ok.inj ran
        exact ⟨rfl, fun _ member => absurd member List.not_mem_nil⟩
    | cons column columns ih =>
        intro row kept width ran
        cases row with
        | nil => cases width
        | cons value row =>
            rw [List.zip_cons_cons, List.mapM_cons] at ran
            simp only [bind, Except.bind] at ran
            split at ran
            · cases ran
            · rename_i first held
              split at ran
              · cases ran
              · rename_i rest others
                obtain rfl := Except.ok.inj ran
                obtain ⟨length, each⟩ := ih row rest (Nat.succ.inj width) others
                refine ⟨congrArg Nat.succ length, ?_⟩
                rw [List.zip_cons_cons, List.forall_mem_cons]
                exact ⟨Column.fits_of_stored held, each⟩
  unfold Definition.stored at stores
  split_ifs at stores with width
  obtain ⟨length, each⟩ := fine _ row kept (not_not.mp width) stores
  exact ⟨length, each⟩

/-- REVOKE on a list of grants. -/
def withdraw (privileges : List Privilege) (grantee : Grantee) (grants : List (Grantee × Privilege)) :
    List (Grantee × Privilege) :=
  grants.filter (fun grant => !(grant.1 == grantee && privileges.contains grant.2))

/-- GRANT on a list of grants. -/
def bestow (privileges : List Privilege) (grantee : Grantee) (grants : List (Grantee × Privilege)) :
    List (Grantee × Privilege) :=
  grants ++ (privileges.filter (fun privilege => !grants.contains (grantee, privilege))).map
    (fun privilege => (grantee, privilege))

theorem mem_withdraw {privileges : List Privilege} {grantee : Grantee} {grants : List (Grantee × Privilege)}
    {grant : Grantee × Privilege} :
    grant ∈ withdraw privileges grantee grants ↔
      grant ∈ grants ∧ ¬ (grant.1 = grantee ∧ grant.2 ∈ privileges) := by
  simp [withdraw, imp_iff_not_or]

theorem mem_bestow {privileges : List Privilege} {grantee : Grantee} {grants : List (Grantee × Privilege)}
    {grant : Grantee × Privilege} :
    grant ∈ bestow privileges grantee grants ↔ grant ∈ grants ∨ grant.1 = grantee ∧ grant.2 ∈ privileges := by
  obtain ⟨party, privilege⟩ := grant
  simp only [bestow, List.mem_append, List.mem_map, List.mem_filter, Prod.mk.injEq]
  constructor
  · rintro (kept | ⟨given, ⟨listed, -⟩, rfl, rfl⟩)
    · exact .inl kept
    · exact .inr ⟨rfl, listed⟩
  · rintro (kept | ⟨rfl, listed⟩)
    · exact .inl kept
    · by_cases held : (party, privilege) ∈ grants
      · exact .inl held
      · exact .inr ⟨privilege, ⟨listed, by simpa using held⟩, rfl, rfl⟩

/-! ## One table -/

namespace Table

/-- The names the table takes in the schema. The index of a primary key is left out: its
    name is chosen free. -/
def relations (table : Table) : List String :=
  table.name :: table.uniques.map Prod.fst ++ table.indexes.map Prod.fst

def view (table : Table) (row : Row) : View := fun column =>
  (((table.columns.map Column.name).zip row).lookup column).join

def ownedBy (table : Table) (role : Role) : Bool := role.superuser || role.name == table.owner

def holds (table : Table) (role : Role) (privilege : Privilege) : Bool :=
  table.ownedBy role ||
    table.grants.any (fun grant => grant.2 == privilege &&
      (grant.1 == .everyone || grant.1 == .role role.name))

/-- Whether the policies apply. -/
def secured (table : Table) (role : Role) : Bool :=
  table.rowSecurity && !(role.superuser || role.bypassesRowSecurity) &&
    (table.forced || role.name != table.owner)

/-- A policy that applies and cannot be evaluated. -/
def unevaluable? (table : Table) (session : Session) : Option Policy :=
  if table.secured session.role then table.policies.find? (fun policy => !policy.evaluates session.settings)
  else none

/-- A statement that reads rows under the policies. -/
def reading {α : Type} (table : Table) (session : Session) (result : Except Error α) : Except Error α :=
  match table.unevaluable? session with
  | some policy => .error (.setting policy.name)
  | none => result

def visible (table : Table) (session : Session) (row : Row) : Bool :=
  !table.secured session.role ||
    table.policies.any (fun policy => policy.shows session.settings (table.view row))

def admitted (table : Table) (session : Session) (row : Row) : Bool :=
  !table.secured session.role ||
    table.policies.any (fun policy => policy.admits session.settings (table.view row))

/-- Whether the columns tell two rows apart: NULL is equal to nothing. -/
def clash (table : Table) (columns : List String) (a b : Row) : Bool :=
  columns.all (fun column => table.view a column == table.view b column && (table.view a column).isSome)

/-- The unique constraints, the primary key among them. -/
def keys (table : Table) : List (String × List String) :=
  (table.name ++ "_pkey", table.primaryKey) :: table.uniques

/-- What a stored row has to pass, in the order it is checked. -/
def pass (table : Table) (session : Session) (row : Row) : Except Error Unit :=
  match table.unevaluable? session with
  | some policy => .error (.setting policy.name)
  | none =>
      if ¬ table.admitted session row then .error (.rowSecurity table.name)
      else
        match (table.columns.zip row).find? (fun entry =>
          (!entry.1.nullable || table.primaryKey.contains entry.1.name) && entry.2.isNone) with
        | some entry => .error (.notNull entry.1.name)
        | none =>
            match table.checks.find? (fun constraint => !constraint.holds (table.view row)) with
            | some constraint => .error (.check constraint.name)
            | none =>
                match table.keys.find? (fun key =>
                  table.rows.any (fun other => table.clash key.2 other row)) with
                | some key => .error (.unique key.1)
                | none => .ok ()

def insertRow (table : Table) (session : Session) (row : Row) : Except Error Table := do
  let kept ← table.stored row
  table.pass session kept
  return { table with rows := table.rows ++ [kept] }

/-- The rows that are chosen and shown change one by one, each against all others as
    they stand. -/
def updateRows (table : Table) (session : Session) (chosen : View → Bool) (changed : Row → Row)
    (done : List Row) : List Row → Except Error Table
  | [] => .ok { table with rows := done }
  | row :: rest =>
      if table.visible session row && chosen (table.view row) then do
        let kept ← table.stored (changed row)
        { table with rows := done ++ rest }.pass session kept
        updateRows table session chosen changed (done ++ [kept]) rest
      else updateRows table session chosen changed (done ++ [row]) rest

/-- What stays when the rows that are chosen and shown are deleted. -/
def deleteRows (table : Table) (session : Session) (chosen : View → Bool) : Table :=
  { table with rows := table.rows.filter (fun row => !(table.visible session row && chosen (table.view row))) }

end Table

/-! ## The database -/

namespace Database

def relations (db : Database) : List String := db.tables.flatMap Table.relations

def table? (db : Database) (name : String) : Option Table := db.tables.find? (fun table => table.name == name)

def put (db : Database) (table : Table) : Database :=
  { db with tables := db.tables.map (fun known => if known.name == table.name then table else known) }

def add (db : Database) (table : Table) : Database := { db with tables := db.tables ++ [table] }

/-- A change of the table's definition, by its owner. -/
def alter (db : Database) (session : Session) (name : String) (change : Table → Except Error Table) :
    Except Error Database :=
  match db.table? name with
  | none => .error (.undefinedTable name)
  | some table =>
      if table.ownedBy session.role then (change table).map db.put
      else .error (.permissionDenied name)

/-- A statement on the rows of a table, under its privileges. -/
def modify (db : Database) (session : Session) (name : String) (privileges : List Privilege)
    (change : Table → Except Error Table) : Except Error Database :=
  match db.table? name with
  | none => .error (.undefinedTable name)
  | some table =>
      if privileges.all (table.holds session.role) then (change table).map db.put
      else .error (.permissionDenied name)

def knows (db : Database) : Grantee → Bool
  | .everyone => true
  | .role name => db.roles.contains name

/-- A change of the table's grants. Whoever may not grant, but holds some privilege, is
    warned and changes nothing. -/
def regrant (db : Database) (session : Session) (name : String) (grantee : Grantee)
    (change : List (Grantee × Privilege) → List (Grantee × Privilege)) : Except Error Database :=
  match db.table? name with
  | none => .error (.undefinedTable name)
  | some table =>
      if ¬ db.knows grantee then .error (.undefinedRole name)
      else if table.ownedBy session.role then .ok (db.put { table with grants := change table.grants })
      else if table.grants.any (fun grant => grant.1 == .everyone || grant.1 == .role session.role.name) then
        .ok db
      else .error (.permissionDenied name)

/-- The rows a query of a whole table returns. -/
def query (db : Database) (session : Session) (name : String) : Except Error (List Row) :=
  match db.table? name with
  | none => .error (.undefinedTable name)
  | some table =>
      if table.holds session.role .select then
        table.reading session (.ok (table.rows.filter (table.visible session)))
      else .error (.permissionDenied name)

/-- The database after one statement. -/
def execute (db : Database) (session : Session) : Statement → Except Error Database
  | .createTable definition =>
      if ¬ (session.role.superuser || session.role.creates) then .error (.permissionDenied definition.name)
      else
        match (definition.name :: definition.uniques.map Prod.fst).find? (db.relations.contains ·) with
        | some taken => .error (.duplicateRelation taken)
        | none => .ok (db.add ⟨definition, session.role.name, [], false, false, [], db.defaults, []⟩)
  | .createIndex name table columns =>
      db.alter session table (fun table =>
        if db.relations.contains name then .error (.duplicateRelation name)
        else .ok { table with indexes := table.indexes ++ [(name, columns)] })
  | .enableRowSecurity table => db.alter session table (fun table => .ok { table with rowSecurity := true })
  | .forceRowSecurity table => db.alter session table (fun table => .ok { table with forced := true })
  | .createPolicy table policy =>
      db.alter session table (fun table =>
        if table.policies.any (fun known => known.name == policy.name) then
          .error (.duplicatePolicy policy.name)
        else .ok { table with policies := table.policies ++ [policy] })
  | .revoke privileges table grantee =>
      db.regrant session table grantee (withdraw privileges grantee)
  | .grant privileges table grantee =>
      db.regrant session table grantee (bestow privileges grantee)
  | .dropIndex name =>
      match db.tables.find? (fun table => table.indexes.any (fun entry => entry.1 == name)) with
      | none => .error (.undefinedIndex name)
      | some table =>
          db.alter session table.name (fun table =>
            .ok { table with indexes := table.indexes.filter (fun entry => entry.1 != name) })
  | .dropTable name =>
      match db.table? name with
      | none => .error (.undefinedTable name)
      | some table =>
          if table.ownedBy session.role then
            .ok { db with tables := db.tables.filter (fun other => other.name != name) }
          else .error (.permissionDenied name)
  | .select table => (db.query session table).map (fun _ => db)
  | .insert table row => db.modify session table [.insert] (fun table => table.insertRow session row)
  | .update table chosen changed =>
      db.modify session table [.select, .update] (fun table =>
        table.reading session (table.updateRows session chosen changed [] table.rows))
  | .delete table chosen =>
      db.modify session table [.select, .delete] (fun table =>
        table.reading session (.ok (table.deleteRows session chosen)))
  | .truncate table => db.modify session table [.truncate] (fun table => .ok { table with rows := [] })

/-- The statements of one transaction, one after another. -/
def executeAll (db : Database) (session : Session) (statements : List Statement) : Except Error Database :=
  statements.foldlM (fun db statement => db.execute session statement) db

end Database

/-- A transaction leaves all of its changes, or none. -/
structure Transaction where
  session : Session
  statements : List Statement
  commits : Bool

def Database.transact (db : Database) (transaction : Transaction) : Database :=
  match db.executeAll transaction.session transaction.statements with
  | .ok db' => if transaction.commits then db' else db
  | .error _ => db

/-! ## What a statement changes -/

namespace Database

variable {db db' : Database} {session : Session} {name other : String} {table : Table}

theorem table?_name (found : db.table? name = some table) : table.name = name := by
  simpa using List.find?_some found

theorem table?_put_other (apart : other ≠ name) {changed : Table} (same : changed.name = other) :
    (db.put changed).table? name = db.table? name := by
  subst same
  have blind : ∀ tables : List Table,
      (tables.map (fun known => if known.name == changed.name then changed else known)).find?
          (fun known => known.name == name) = tables.find? (fun known => known.name == name) := by
    intro tables
    induction tables with
    | nil => rfl
    | cons first rest ih =>
        rw [List.map_cons, List.find?_cons, List.find?_cons, ih]
        by_cases here : first.name = changed.name
        · have missed : (changed.name == name) = false := by simpa using apart
          simp [here, missed]
        · simp [here]
  exact blind db.tables

theorem table?_put (found : db.table? name = some table) {changed : Table} (same : changed.name = name) :
    (db.put changed).table? name = some changed := by
  subst same
  have reached : ∀ tables : List Table, tables.find? (fun known => known.name == changed.name) = some table →
      (tables.map (fun known => if known.name == changed.name then changed else known)).find?
          (fun known => known.name == changed.name) = some changed := by
    intro tables
    induction tables with
    | nil => simp
    | cons first rest ih =>
        intro inside
        rw [List.map_cons, List.find?_cons]
        by_cases here : first.name = changed.name
        · simp [here]
        · have missed : (first.name == changed.name) = false := by simpa using here
          rw [List.find?_cons, missed] at inside
          simp only [missed, Bool.false_eq_true, if_false]
          exact ih inside
  exact reached db.tables found

/-- An alteration by a role that does not own the table is one of another table. -/
theorem alter_other (found : db.table? name = some table) (foreign : table.ownedBy session.role = false)
    {change : Table → Except Error Table} (keeps : ∀ t t', change t = .ok t' → t'.name = t.name)
    (ran : db.alter session other change = .ok db') : db'.table? name = some table := by
  unfold alter at ran
  cases known : db.table? other with
  | none =>
      rw [known] at ran
      cases ran
  | some t =>
      rw [known] at ran
      simp only at ran
      split_ifs at ran with owned
      cases changed : change t with
      | error e =>
          rw [changed] at ran
          cases ran
      | ok t' =>
          rw [changed] at ran
          obtain rfl := Except.ok.inj ran
          have apart : other ≠ name := by
            rintro rfl
            rw [known] at found
            obtain rfl := Option.some.inj found
            rw [foreign] at owned
            cases owned
          rw [table?_put_other apart ((keeps t t' changed).trans (table?_name known))]
          exact found

theorem regrant_other (found : db.table? name = some table) (foreign : table.ownedBy session.role = false)
    {grantee : Grantee} {change : List (Grantee × Privilege) → List (Grantee × Privilege)}
    (ran : db.regrant session other grantee change = .ok db') : db'.table? name = some table := by
  unfold regrant at ran
  cases known : db.table? other with
  | none =>
      rw [known] at ran
      cases ran
  | some t =>
      rw [known] at ran
      simp only at ran
      split_ifs at ran with stranger owned warned
      · obtain rfl := Except.ok.inj ran
        have apart : other ≠ name := by
          rintro rfl
          rw [known] at found
          obtain rfl := Option.some.inj found
          rw [foreign] at owned
          cases owned
        refine (table?_put_other apart ?_).trans found
        exact (table?_name known : t.name = other)
      · obtain rfl := Except.ok.inj ran
        exact found

theorem createTable_other (found : db.table? name = some table) {definition : Definition}
    (ran : db.execute session (.createTable definition) = .ok db') : db'.table? name = some table := by
  simp only [execute] at ran
  split_ifs at ran
  split at ran
  · cases ran
  · obtain rfl := Except.ok.inj ran
    have inside : db.tables.find? (fun known => known.name == name) = some table := found
    simp only [table?, add, List.find?_append, inside, Option.some_or]

theorem dropTable_other (found : db.table? name = some table) (foreign : table.ownedBy session.role = false)
    (ran : db.execute session (.dropTable other) = .ok db') : db'.table? name = some table := by
  simp only [execute] at ran
  split at ran
  · cases ran
  · rename_i known here
    split_ifs at ran with owned
    obtain rfl := Except.ok.inj ran
    have apart : name ≠ other := by
      rintro rfl
      rw [here] at found
      obtain rfl := Option.some.inj found
      rw [foreign] at owned
      cases owned
    have kept : ∀ known : Table,
        decide ((known.name != other) = true ∧ (known.name == name) = true) = (known.name == name) := by
      intro known
      by_cases same : known.name = name
      · simp [same, apart]
      · simp [same]
    simp only [table?, List.find?_filter, kept]
    exact found

/-- A statement on rows leaves another table alone, or had the privileges for this one. -/
theorem modify_cases (found : db.table? name = some table) {privileges : List Privilege}
    {change : Table → Except Error Table} (keeps : ∀ t t', change t = .ok t' → t'.name = t.name)
    (ran : db.modify session other privileges change = .ok db') :
    db'.table? name = some table ∨ other = name ∧ privileges.all (table.holds session.role) = true ∧
      ∃ table', change table = .ok table' ∧ db'.table? name = some table' := by
  unfold modify at ran
  cases known : db.table? other with
  | none =>
      rw [known] at ran
      cases ran
  | some t =>
      rw [known] at ran
      simp only at ran
      split_ifs at ran with held
      cases changed : change t with
      | error e =>
          rw [changed] at ran
          cases ran
      | ok t' =>
          rw [changed] at ran
          obtain rfl := Except.ok.inj ran
          have named : t'.name = other := (keeps t t' changed).trans (table?_name known)
          by_cases same : other = name
          · subst same
            rw [known] at found
            obtain rfl := Option.some.inj found
            exact .inr ⟨rfl, held, t', changed, table?_put known named⟩
          · left
            rw [table?_put_other same named]
            exact found

theorem executeAll_cons_eq_ok {statement : Statement} {rest : List Statement} :
    db.executeAll session (statement :: rest) = .ok db' ↔
      ∃ next, db.execute session statement = .ok next ∧ next.executeAll session rest = .ok db' := by
  simp only [executeAll, List.foldlM_cons]
  cases first : db.execute session statement with
  | error e => simp [bind, Except.bind]
  | ok next => simp [bind, Except.bind]

theorem executeAll_cons {next : Database} {statement : Statement}
    (ran : db.execute session statement = .ok next) (rest : List Statement) :
    db.executeAll session (statement :: rest) = next.executeAll session rest := by
  simp only [executeAll, List.foldlM_cons, ran, bind, Except.bind]

theorem executeAll_raises {e : Error} {statement : Statement}
    (raised : db.execute session statement = .error e) (rest : List Statement) :
    db.executeAll session (statement :: rest) = .error e := by
  simp only [executeAll, List.foldlM_cons, raised, bind, Except.bind]

/-! ## The table that was added last -/

section Added

variable (fresh : ∀ known ∈ db.tables, known.name ≠ table.name)

include fresh

theorem table?_add : (db.add table).table? table.name = some table := by
  have none : db.tables.find? (fun known => known.name == table.name) = none := by
    rw [List.find?_eq_none]
    intro known member
    simpa using fresh known member
  simp [table?, add, List.find?_append, none]

theorem put_add {changed : Table} (same : changed.name = table.name) :
    (db.add table).put changed = db.add changed := by
  have untouched : db.tables.map (fun known => if known.name == changed.name then changed else known) =
      db.tables := by
    conv_rhs => rw [← List.map_id db.tables]
    apply List.map_congr_left
    intro known member
    have missed : (known.name == changed.name) = false := by simpa [same] using fresh known member
    simp only [missed, Bool.false_eq_true, if_false, id_eq]
  have hit : (table.name == changed.name) = true := by simp [same]
  simp only [put, add, List.map_append, untouched, List.map_cons, List.map_nil, hit, if_true]

theorem alter_add (owned : table.ownedBy session.role = true) {change : Table → Except Error Table}
    {changed : Table} (ran : change table = .ok changed) (same : changed.name = table.name) :
    (db.add table).alter session table.name change = .ok (db.add changed) := by
  simp only [alter, table?_add fresh, owned, if_true, ran, Except.map, put_add fresh same]

theorem alter_add_raises (owned : table.ownedBy session.role = true) {change : Table → Except Error Table}
    {e : Error} (raised : change table = .error e) :
    (db.add table).alter session table.name change = .error e := by
  simp only [alter, table?_add fresh, owned, if_true, raised, Except.map]

theorem regrant_add_unknown {grantee : Grantee} (unknown : db.knows grantee = false)
    (change : List (Grantee × Privilege) → List (Grantee × Privilege)) :
    (db.add table).regrant session table.name grantee change = .error (.undefinedRole table.name) := by
  have stays : (db.add table).knows grantee = false := unknown
  simp [regrant, table?_add fresh, stays]

theorem regrant_add (owned : table.ownedBy session.role = true) {grantee : Grantee}
    (known : db.knows grantee = true) (change : List (Grantee × Privilege) → List (Grantee × Privilege)) :
    (db.add table).regrant session table.name grantee change =
      .ok (db.add { table with grants := change table.grants }) := by
  have stays : (db.add table).knows grantee = true := known
  have changed : (db.add table).put { table with grants := change table.grants } =
      db.add { table with grants := change table.grants } := put_add fresh rfl
  simp only [regrant, table?_add fresh, stays, not_true_eq_false, if_false, owned, if_true, changed]

end Added

end Database

/-! ## A role that can only read and insert -/

/-- The role does not own the table, and may read it and insert at most. -/
structure Table.Restricted (table : Table) (role : Role) : Prop where
  foreign : table.ownedBy role = false
  privileges : ∀ privilege, table.holds role privilege = true → privilege = .select ∨ privilege = .insert

/-- What a row that passes satisfies. -/
structure Table.Passes (table : Table) (session : Session) (row : Row) : Prop where
  evaluable : table.unevaluable? session = none
  admitted : table.admitted session row = true
  notNull : ∀ entry ∈ table.columns.zip row,
    (!entry.1.nullable || table.primaryKey.contains entry.1.name) = true → entry.2.isSome = true
  checks : ∀ constraint ∈ table.checks, constraint.holds (table.view row) = true
  apart : ∀ key ∈ table.keys, ∀ other ∈ table.rows, table.clash key.2 other row = false

theorem Table.pass_eq_ok {table : Table} {session : Session} {row : Row} :
    table.pass session row = .ok () ↔ table.Passes session row := by
  unfold Table.pass
  constructor
  · intro passed
    split at passed
    · cases passed
    · rename_i evaluable
      split_ifs at passed with admitted
      split at passed
      · cases passed
      · rename_i notNull
        split at passed
        · cases passed
        · rename_i checks
          split at passed
          · cases passed
          · rename_i apart
            refine ⟨evaluable, admitted, ?_, ?_, by simpa using apart⟩
            · intro entry member required
              have fine := List.find?_eq_none.mp notNull entry member
              rw [required] at fine
              simpa [Option.isNone_iff_eq_none, Option.isSome_iff_ne_none] using fine
            · intro constraint member
              have fine := List.find?_eq_none.mp checks constraint member
              simpa using fine
  · intro passes
    have notNull : (table.columns.zip row).find? (fun entry =>
        (!entry.1.nullable || table.primaryKey.contains entry.1.name) && entry.2.isNone) = none := by
      rw [List.find?_eq_none]
      intro entry member missing
      rw [Bool.and_eq_true] at missing
      have present := passes.notNull entry member missing.1
      rw [Option.isNone_iff_eq_none.mp missing.2] at present
      cases present
    have checks : table.checks.find? (fun constraint => !constraint.holds (table.view row)) = none := by
      rw [List.find?_eq_none]
      intro constraint member broken
      rw [passes.checks constraint member] at broken
      cases broken
    have apart : table.keys.find? (fun key =>
        table.rows.any (fun other => table.clash key.2 other row)) = none := by
      simpa using passes.apart
    simp only [passes.evaluable, passes.admitted, not_true_eq_false, if_false, notNull, checks, apart]

theorem Table.insertRow_eq_ok {table table' : Table} {session : Session} {row : Row} :
    table.insertRow session row = .ok table' ↔
      ∃ kept, table.stored row = .ok kept ∧ table.Passes session kept ∧
        table' = { table with rows := table.rows ++ [kept] } := by
  unfold Table.insertRow
  cases stores : table.stored row with
  | error e => simp [bind, Except.bind]
  | ok kept =>
      simp only [bind, Except.bind, Except.ok.injEq, exists_eq_left']
      rw [← Table.pass_eq_ok]
      cases passed : table.pass session kept with
      | error e => simp
      | ok _ =>
          simp only [pure, Except.pure, Except.ok.injEq, true_and]
          exact eq_comm

theorem Table.reading_eq_ok {α : Type} {table : Table} {session : Session} {result : Except Error α}
    {value : α} :
    table.reading session result = .ok value ↔ table.unevaluable? session = none ∧ result = .ok value := by
  unfold Table.reading
  cases table.unevaluable? session with
  | none => simp
  | some policy => simp

theorem Table.updateRows_name {table table' : Table} {session : Session} {chosen : View → Bool}
    {changed : Row → Row} {done rest : List Row}
    (ran : table.updateRows session chosen changed done rest = .ok table') : table'.name = table.name := by
  induction rest generalizing done with
  | nil =>
      obtain rfl := Except.ok.inj ran
      rfl
  | cons row rest ih =>
      simp only [Table.updateRows] at ran
      split_ifs at ran with hit
      · simp only [bind, Except.bind] at ran
        split at ran
        · cases ran
        · split at ran
          · cases ran
          · exact ih ran
      · exact ih ran

/-- A restricted role changes no row by a statement that needs more than to read and insert. -/
theorem Database.modify_denied {db db' : Database} {session : Session} {name other : String} {table : Table}
    (found : db.table? name = some table) (restricted : table.Restricted session.role)
    {privileges : List Privilege} (privilege : Privilege) (listed : privilege ∈ privileges)
    (reads : privilege ≠ .select) (inserts : privilege ≠ .insert) {change : Table → Except Error Table}
    (keeps : ∀ t t', change t = .ok t' → t'.name = t.name)
    (ran : db.modify session other privileges change = .ok db') : db'.table? name = some table := by
  cases modify_cases found keeps ran with
  | inl kept => exact kept
  | inr here =>
      have holds := List.all_eq_true.mp here.2.1 privilege listed
      rcases restricted.privileges privilege holds with same | same
      · exact absurd same reads
      · exact absurd same inserts

/-- Whatever statement a restricted role runs, the table stays, or one row is inserted. -/
theorem Database.execute_restricted {db db' : Database} {session : Session} {name : String} {table : Table}
    {statement : Statement} (found : db.table? name = some table)
    (restricted : table.Restricted session.role) (ran : db.execute session statement = .ok db') :
    db'.table? name = some table ∨ ∃ row table', statement = .insert name row ∧
      table.insertRow session row = .ok table' ∧ db'.table? name = some table' := by
  cases statement with
  | createTable definition => exact .inl (createTable_other found ran)
  | createIndex index other columns =>
      left
      apply alter_other found restricted.foreign _ ran
      intro t t' changed
      split_ifs at changed
      obtain rfl := Except.ok.inj changed
      rfl
  | enableRowSecurity other =>
      left
      apply alter_other found restricted.foreign _ ran
      intro t t' changed
      obtain rfl := Except.ok.inj changed
      rfl
  | forceRowSecurity other =>
      left
      apply alter_other found restricted.foreign _ ran
      intro t t' changed
      obtain rfl := Except.ok.inj changed
      rfl
  | createPolicy other policy =>
      left
      apply alter_other found restricted.foreign _ ran
      intro t t' changed
      split_ifs at changed
      obtain rfl := Except.ok.inj changed
      rfl
  | revoke privileges other grantee => exact .inl (regrant_other found restricted.foreign ran)
  | grant privileges other grantee =>
      simp only [Database.execute] at ran
      exact .inl (regrant_other found restricted.foreign ran)
  | dropIndex index =>
      left
      simp only [Database.execute] at ran
      split at ran
      · cases ran
      · apply alter_other found restricted.foreign _ ran
        intro t t' changed
        obtain rfl := Except.ok.inj changed
        rfl
  | dropTable other => exact .inl (dropTable_other found restricted.foreign ran)
  | select other =>
      simp only [Database.execute] at ran
      cases returned : db.query session other with
      | error e =>
          rw [returned] at ran
          cases ran
      | ok rows =>
          rw [returned] at ran
          obtain rfl := Except.ok.inj ran
          exact .inl found
  | insert other row =>
      have keeps : ∀ t t' : Table, t.insertRow session row = .ok t' → t'.name = t.name := by
        intro t t' inserted
        obtain ⟨kept, -, -, rfl⟩ := Table.insertRow_eq_ok.mp inserted
        rfl
      cases modify_cases found keeps ran with
      | inl kept => exact .inl kept
      | inr here =>
          obtain ⟨rfl, -, table', inserted, now⟩ := here
          exact .inr ⟨row, table', rfl, inserted, now⟩
  | update other chosen changed =>
      left
      apply modify_denied found restricted .update (by simp) (by simp) (by simp) _ ran
      intro t t' updated
      exact Table.updateRows_name (Table.reading_eq_ok.mp updated).2
  | delete other chosen =>
      left
      apply modify_denied found restricted .delete (by simp) (by simp) (by simp) _ ran
      intro t t' deleted
      obtain rfl := Except.ok.inj (Table.reading_eq_ok.mp deleted).2
      rfl
  | truncate other =>
      left
      apply modify_denied found restricted .truncate (by simp) (by simp) (by simp) _ ran
      intro t t' emptied
      obtain rfl := Except.ok.inj emptied
      rfl

/-! ## Runs -/

/-- The table with more rows, each inserted under one of the sessions. -/
def Table.Grows (sessions : Session → Prop) : Table → Table → Prop :=
  Relation.ReflTransGen (fun table table' =>
    ∃ session row, sessions session ∧ table.insertRow session row = .ok table')

variable {sessions sessions' : Session → Prop} {table table' : Table}

theorem Table.Grows.mono (grows : table.Grows sessions table')
    (among : ∀ session, sessions session → sessions' session) :
    table.Grows sessions' table' := by
  induction grows with
  | refl => exact .refl
  | tail _ inserts ih =>
      obtain ⟨session, row, one, inserted⟩ := inserts
      exact ih.tail ⟨session, row, among session one, inserted⟩

/-- What every insertion keeps, a table that grew has kept. -/
theorem Table.Grows.keeps {Keeps : Table → Prop} (grows : table.Grows sessions table')
    (step : ∀ a b session row, Keeps a → sessions session → a.insertRow session row = .ok b → Keeps b)
    (start : Keeps table) : Keeps table' := by
  induction grows with
  | refl => exact start
  | tail _ inserts ih =>
      obtain ⟨session, row, one, inserted⟩ := inserts
      exact step _ _ session row ih one inserted

theorem Table.Restricted.grows {role : Role} (restricted : table.Restricted role)
    (grows : table.Grows sessions table') : table'.Restricted role := by
  apply grows.keeps _ restricted
  intro a b session row kept _ inserted
  obtain ⟨_, -, -, rfl⟩ := Table.insertRow_eq_ok.mp inserted
  exact ⟨kept.foreign, kept.privileges⟩

theorem Database.executeAll_restricted {db db' : Database} {session : Session} {name : String}
    {statements : List Statement} (found : db.table? name = some table)
    (restricted : table.Restricted session.role) (ran : db.executeAll session statements = .ok db') :
    ∃ table', db'.table? name = some table' ∧ table.Grows (· = session) table' := by
  induction statements generalizing db table with
  | nil =>
      obtain rfl := Except.ok.inj ran
      exact ⟨table, found, .refl⟩
  | cons statement rest ih =>
      obtain ⟨next, first, ran⟩ := Database.executeAll_cons_eq_ok.mp ran
      cases Database.execute_restricted found restricted first with
      | inl kept => exact ih kept restricted ran
      | inr inserted =>
          obtain ⟨row, middle, -, inserted, now⟩ := inserted
          have step : table.Grows (· = session) middle := .single ⟨session, row, rfl, inserted⟩
          obtain ⟨table', later, rows⟩ := ih now (restricted.grows step) ran
          exact ⟨table', later, step.trans rows⟩

/-- Transactions of restricted roles can only add rows, each inserted in one of them. -/
theorem Database.transact_restricted {db : Database} {name : String} {transactions : List Transaction}
    (found : db.table? name = some table) (restricted : ∀ tx ∈ transactions, table.Restricted tx.session.role) :
    ∃ table', (transactions.foldl Database.transact db).table? name = some table' ∧
      table.Grows (fun session => ∃ tx ∈ transactions, tx.session = session) table' := by
  induction transactions generalizing db table with
  | nil => exact ⟨table, found, .refl⟩
  | cons tx rest ih =>
      have first : ∃ middle, (db.transact tx).table? name = some middle ∧
          table.Grows (· = tx.session) middle := by
        unfold Database.transact
        split
        · rename_i db' ran
          split_ifs
          · exact Database.executeAll_restricted found (restricted tx List.mem_cons_self) ran
          · exact ⟨table, found, .refl⟩
        · exact ⟨table, found, .refl⟩
      obtain ⟨middle, now, front⟩ := first
      obtain ⟨table', later, back⟩ := ih now (fun other member =>
        (restricted other (List.mem_cons_of_mem _ member)).grows front)
      refine ⟨table', later, Relation.ReflTransGen.trans (front.mono ?_) (back.mono ?_)⟩
      · rintro session rfl
        exact ⟨tx, List.mem_cons_self, rfl⟩
      · rintro session ⟨other, member, rfl⟩
        exact ⟨other, List.mem_cons_of_mem _ member, rfl⟩

end DotmacCloud.Foundation.Sql
