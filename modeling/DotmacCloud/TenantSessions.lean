import DotmacCloud.Foundation.Unwinding
import DotmacCloud.ReceiptStore

/-! # Tenant sessions over one connection pool

`tenant_session` borrows a connection, opens a transaction, installs the tenant as a
transaction-local setting and gives the session to its caller; it commits on success
and rolls back on an exception. The connection goes back to the pool without the
setting. Every table of the database is under the row policy of that setting, the
kernel's ledger as well as the receipts.
-/

namespace DotmacCloud

open Foundation AtMostOnce AdapterReceiptRow

/-- One run of `tenant_session(tenant_id)`. -/
structure SessionId where
  tenantId : UUID
  number : Nat
  deriving DecidableEq

/-- What a caller does with its session. The ledger may be built for any tenant and
    the inserted row may name any. -/
inductive Statement where
  | append (ledgerTenant : UUID) (receipt : AdapterReceipt)
  | receiptsFor (ledgerTenant : UUID) (adapter : String) (keys : List FactKey)
  | selectAll
  | insert (row : AdapterReceiptRow)

/-- What a transaction-local setting leaves behind when its transaction ends. -/
inductive Residue where
  | null | empty
  deriving DecidableEq

def Residue.setting : Residue → Setting
  | .null => none
  | .empty => some ""

inductive PoolEvent where
  /-- Enter the block, on one of the idle connections or on a new one. -/
  | begin (session : SessionId) (connection : Nat)
  | execute (session : SessionId) (statement : Statement)
  /-- Leave the block normally. -/
  | commit (session : SessionId) (residue : Residue)
  /-- An exception leaves the block. -/
  | raise (session : SessionId) (residue : Residue)
  /-- An unfiltered select on an idle or a new connection, with no session. -/
  | outside (connection : Nat)

inductive Result where
  | ignored
  | begun
  | done
  /-- A transaction in flight holds the identity: the statement runs when it ended. -/
  | waits
  | raised (error : Raised)
  | receipts (found : List AdapterReceipt)
  | rows (found : List AdapterReceiptRow)
  | ended
  deriving DecidableEq

structure Transaction (Digest : Type) where
  /-- `current_setting('app.current_tenant', true)` inside the transaction. -/
  setting : Setting
  writes : Tables Digest
  failed : Bool

structure World (Digest : Type) where
  committed : Tables Digest
  /-- The setting as each idle connection shows it. -/
  idle : List Setting
  transactions : List (SessionId × Transaction Digest)

/-- A database error aborts the transaction; an error of the application does not. -/
def Raised.aborts : Raised → Bool
  | .dataError _ | .integrityError _ | .insufficientPrivilege _ => true
  | _ => false

/-- What every statement of an aborted transaction raises, and its commit. -/
def abortedTransaction : Raised := .fault "PendingRollbackError"

section Sessions

variable {Digest : Type} [DecidableEq Digest] (kernel : Kernel Digest) (orderBy : OrderBy)

namespace Transaction

/-- The rows a statement reads: what is committed, and the transaction's own. -/
def rows (tx : Transaction Digest) (committed : Tables Digest) : List AdapterReceiptRow :=
  committed.receipts ++ tx.writes.receipts

/-- The kernel records the policy shows it. -/
def records (tx : Transaction Digest) (entries : List (IdempotencyRecord Digest)) :
    List (IdempotencyRecord Digest) :=
  entries.filter (fun entry => policyAdmits tx.setting entry.key.tenantId)

def seen (tx : Transaction Digest) (committed : Tables Digest) : Tables Digest :=
  ⟨tx.rows committed, tx.records committed.records ++ tx.records tx.writes.records⟩

/-- The transaction after a statement raised. -/
def after (tx : Transaction Digest) (error : Raised) : Transaction Digest :=
  { tx with failed := tx.failed || error.aborts }

def execute (committed : Tables Digest) (inFlight : ExactFact → Bool) (tx : Transaction Digest) :
    Statement → Transaction Digest × Result
  | .append ledgerTenant receipt =>
      let seen := tx.seen committed
      if tx.failed then (tx, .raised abortedTransaction)
      else if seen.spent kernel ledgerTenant receipt = none ∧ policyAdmits tx.setting ledgerTenant ∧
          inFlight (fromReceipt ledgerTenant receipt).exactFact then (tx, .waits)
      else
        match (⟨tx.setting, ledgerTenant⟩ : SqlAlchemyReceiptLedger).append kernel seen receipt with
        | .error e => (tx.after e, .raised e)
        | .ok tables =>
            ({ tx with writes :=
                ⟨tables.receipts.drop committed.receipts.length,
                  tables.records.drop (tx.records committed.records).length⟩ }, .done)
  | .receiptsFor ledgerTenant adapter keys =>
      if tx.failed ∧ ¬ blank adapter ∧ keys ≠ [] then (tx, .raised abortedTransaction)
      else
        match (⟨tx.setting, ledgerTenant⟩ : SqlAlchemyReceiptLedger).receiptsFor orderBy
          (tx.rows committed) adapter keys with
        | .error e => (tx, .raised e)
        | .ok found => (tx, .receipts found)
  | .selectAll =>
      if tx.failed then (tx, .raised abortedTransaction)
      else (tx, .rows (visibleRows tx.setting (tx.rows committed)))
  | .insert row =>
      if tx.failed then (tx, .raised abortedTransaction)
      else
        match insertRow tx.setting (tx.rows committed) row with
        | .error e => (tx.after e, .raised e)
        | .ok rows =>
            if inFlight row.exactFact then (tx, .waits)
            else ({ tx with writes :=
              { tx.writes with receipts := rows.drop committed.receipts.length } }, .done)

end Transaction

namespace World

/-- A pool opened over tables that hold rows already. -/
def opened (tables : Tables Digest) : World Digest := ⟨tables, [], []⟩

def find (w : World Digest) (session : SessionId) : Option (Transaction Digest) :=
  (w.transactions.find? (fun entry => entry.1 = session)).map (·.2)

def put (w : World Digest) (session : SessionId) (tx : Transaction Digest) : World Digest :=
  { w with transactions :=
      w.transactions.map (fun entry => if entry.1 = session then (session, tx) else entry) }

/-- Another open transaction has written a row under this identity. -/
def inFlight (w : World Digest) (session : SessionId) (identity : ExactFact) : Bool :=
  w.transactions.any (fun entry => entry.1 ≠ session ∧
    entry.2.writes.receipts.any (fun row => row.exactFact = identity))

/-- The transaction ended; its connection goes back to the pool. -/
def close (w : World Digest) (session : SessionId) (residue : Residue) : World Digest :=
  { w with
    idle := w.idle ++ [residue.setting]
    transactions := w.transactions.filter (fun entry => entry.1 ≠ session) }

def step (w : World Digest) : PoolEvent → World Digest × Result
  | .begin session connection =>
      match w.find session with
      | some _ => (w, .ignored)
      | none =>
          ({ w with
            idle := w.idle.eraseIdx connection
            transactions := w.transactions ++
              [(session, ⟨some session.tenantId.str, Tables.empty, false⟩)] }, .begun)
  | .execute session statement =>
      match w.find session with
      | none => (w, .ignored)
      | some tx =>
          let (tx, result) := tx.execute kernel orderBy w.committed (w.inFlight session) statement
          (w.put session tx, result)
  | .commit session residue =>
      match w.find session with
      | none => (w, .ignored)
      | some tx =>
          if tx.failed then (w.close session residue, .raised abortedTransaction)
          else
            ({ w.close session residue with
              committed := ⟨w.committed.receipts ++ tx.writes.receipts,
                w.committed.records ++ tx.writes.records⟩ }, .ended)
  | .raise session residue =>
      match w.find session with
      | none => (w, .ignored)
      | some _ => (w.close session residue, .ended)
  | .outside connection =>
      let setting := w.idle[connection]?.getD none
      ({ w with idle := w.idle.eraseIdx connection ++ [setting] },
        .rows (visibleRows setting w.committed.receipts))

/-- The database after a run. -/
abbrev run (w : World Digest) (events : List PoolEvent) : World Digest :=
  Unwinding.finish (step kernel orderBy) w events

end World

end Sessions

end DotmacCloud
