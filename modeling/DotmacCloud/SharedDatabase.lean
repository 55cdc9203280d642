import DotmacCloud.Confinement
import DotmacCloud.Workers

/-! # One database for every tenant

The tables hold the rows of all tenants, each row under its own. A session runs under
the row policy of the tenant it was opened for, and its caller passes a scope and a
ledger with every call, which may name another one. The composed modules select by the
scope they are given, and the policy decides what that shows and what may be written.
-/

namespace DotmacCloud

open Foundation AtMostOnce AdapterReceiptRow

/-! ## Tables with a tenant column -/

section Owned

variable {α : Type}

/-- The rows of one tenant. -/
def owned (t : UUID) (rows : List (UUID × α)) : List α :=
  (rows.filter (fun row => row.1 = t)).map Prod.snd

/-- What a query for one tenant's rows reads under the policy. -/
def readable (setting : Setting) (tenantId : UUID) (rows : List (UUID × α)) : List α :=
  (rows.filter (fun row => policyAdmits setting row.1 ∧ row.1 = tenantId)).map Prod.snd

/-- Rows as they are written for one tenant. -/
def tagged (tenantId : UUID) (rows : List α) : List (UUID × α) := rows.map (fun row => (tenantId, row))

end Owned

structure Database (Digest : Type) where
  outputs : List (UUID × RatedObligationOutputV1)
  acknowledgements : List (UUID × Acknowledgement)
  obligations : List (UUID × AcceptRatedObligationV1)
  tables : Tables Digest

namespace Database

variable {Digest : Type}

def empty : Database Digest := ⟨[], [], [], Tables.empty⟩

def join (base writes : Database Digest) : Database Digest where
  outputs := base.outputs ++ writes.outputs
  acknowledgements := base.acknowledgements ++ writes.acknowledgements
  obligations := base.obligations ++ writes.obligations
  tables := ⟨base.tables.receipts ++ writes.tables.receipts, base.tables.records ++ writes.tables.records⟩

/-- What belongs to one tenant. -/
def of (db : Database Digest) (t : UUID) : TenantState Digest where
  outputs := owned t db.outputs
  acknowledgements := owned t db.acknowledgements
  obligations := owned t db.obligations
  tables := ⟨ofTenant t db.tables.receipts, recordsOf t db.tables.records⟩

/-- The kernel records the policy shows. -/
def records (setting : Setting) (db : Database Digest) : List (IdempotencyRecord Digest) :=
  db.tables.records.filter (fun record => policyAdmits setting record.key.tenantId)

/-- What a call for `scope` sees. The unique constraint of the receipts is over every
    row, whoever reads them. -/
def view (db : Database Digest) (setting : Setting) (scope : TenantScope) : TenantState Digest where
  outputs := readable setting scope.tenantId db.outputs
  acknowledgements := readable setting scope.tenantId db.acknowledgements
  obligations := readable setting scope.tenantId db.obligations
  tables := ⟨db.tables.receipts, db.records setting⟩

/-- Subscriptions commits one more output of a tenant. -/
def emit (db : Database Digest) (t : UUID) (output : RatedObligationOutputV1) : Database Digest :=
  if ∀ known ∈ owned t db.outputs, known.occurrenceId = output.occurrenceId →
      known.generation < output.generation then
    { db with outputs := db.outputs ++ [(t, output)] }
  else db

end Database

/-! ## Sessions -/

/-- One call of `apply_rated_obligation`, with all its caller passes. -/
structure Call where
  terms : Terms
  scope : TenantScope
  ledgerTenant : UUID
  output : RatedObligationOutputV1

/-- Where a session stands inside the call it is running. -/
inductive CallPhase where
  | ready
  | refusing (call : Call) (fact : SourceFact)
  | charged (call : Call) (fact : SourceFact)
  | recorded (call : Call)

/-- A `tenant_session(tenant_id)`: its calls left to run and its own writes. -/
structure Session (Digest : Type) where
  tenantId : UUID
  phase : CallPhase
  todo : List Call
  writes : Database Digest

def Session.setting {Digest : Type} (w : Session Digest) : Setting := some w.tenantId.str

structure SharedSystem (Digest : Type) where
  committed : Database Digest
  sessions : List (Option (Session Digest))

inductive SharedEvent where
  | emit (tenantId : UUID) (output : RatedObligationOutputV1)
  /-- A session that will run these calls. -/
  | deliver (tenantId : UUID) (todo : List Call)
  /-- A session that drains, for a scope and with a ledger. -/
  | drain (tenantId : UUID) (terms : Terms) (scope : TenantScope) (ledgerTenant : UUID) (limit : Nat)
  | advance (session : Nat)
  | commit (session : Nat)
  | rollback (session : Nat)

namespace SharedSystem

variable {Digest : Type} [DecidableEq Digest] (kernel : Kernel Digest)

def empty : SharedSystem Digest := ⟨.empty, []⟩

def Live (s : SharedSystem Digest) (i : Nat) (w : Session Digest) : Prop :=
  s.sessions[i]? = some (some w)

def begin (s : SharedSystem Digest) (tenantId : UUID) (todo : List Call) : SharedSystem Digest :=
  { s with sessions := s.sessions ++ [some ⟨tenantId, .ready, todo, .empty⟩] }

def drop (s : SharedSystem Digest) (i : Nat) : SharedSystem Digest :=
  { s with sessions := s.sessions.set i none }

def put (s : SharedSystem Digest) (i : Nat) (w : Session Digest) : SharedSystem Digest :=
  { s with sessions := s.sessions.set i (some w) }

/-- Another open session, of whichever tenant, has written a record under the key. -/
def busy (s : SharedSystem Digest) (i : Nat) (key : RecordKey Digest) : Bool :=
  s.sessions.zipIdx.any (fun entry => entry.2 != i &&
    match entry.1 with
    | none => false
    | some w => w.writes.tables.records.any (fun record => record.key = key))

/-- The calls of `drain_rated_obligations`, over the outputs it reads. -/
def page (s : SharedSystem Digest) (tenantId : UUID) (terms : Terms) (scope : TenantScope)
    (ledgerTenant : UUID) (limit : Nat) : List Call :=
  ((s.committed.view (some tenantId.str) scope).unacknowledgedOutputs limit).map
    (fun output => ⟨terms, scope, ledgerTenant, output⟩)

/-- The append of one receipt. It waits for a session that holds the identity, unless
    the policy refuses the ledger's tenant first. -/
def record (s : SharedSystem Digest) (i : Nat) (w : Session Digest) (call : Call) (fact : SourceFact)
    (outcome : ReceiptOutcome) (next : CallPhase) : Option (SharedSystem Digest) :=
  let view := (s.committed.join w.writes).view w.setting call.scope
  if policyAdmits w.setting call.ledgerTenant ∧
      s.busy i (System.factKey kernel call.ledgerTenant fact) then none
  else
    match appendReceipt kernel ⟨w.setting, call.ledgerTenant⟩ view.tables fact outcome
      call.terms.observedAt with
    | .error _ => some (s.drop i)
    | .ok tables => some (s.put i
        { w with
          phase := next
          writes := { w.writes with tables :=
            ⟨tables.receipts.drop s.committed.tables.receipts.length,
              tables.records.drop (s.committed.records w.setting).length⟩ } })

/-- The next statement of a session. -/
def advance (s : SharedSystem Digest) (i : Nat) (w : Session Digest) : Option (SharedSystem Digest) :=
  match w.phase with
  | .ready =>
      match w.todo with
      | [] => none
      | call :: rest =>
          let view := (s.committed.join w.writes).view w.setting call.scope
          match prepare call.scope call.terms call.output with
          | .error _ => some (s.drop i)
          | .ok (fact, none) => some (s.put i { w with phase := .refusing call fact, todo := rest })
          | .ok (fact, some command) =>
              match charge call.scope call.terms view.obligations command with
              | .error _ => some (s.drop i)
              | .ok none => some (s.put i { w with phase := .refusing call fact, todo := rest })
              | .ok (some obligations) =>
                  let more := obligations.drop view.obligations.length
                  -- WITH CHECK: the policy refuses a row of a tenant that is not the session's
                  if more ≠ [] ∧ ¬ policyAdmits w.setting call.scope.tenantId then some (s.drop i)
                  else some (s.put i
                    { w with
                      phase := .charged call fact
                      todo := rest
                      writes := { w.writes with obligations :=
                        w.writes.obligations ++ tagged call.scope.tenantId more } })
  | .refusing call fact => s.record kernel i w call fact .refused .ready
  | .charged call fact => s.record kernel i w call fact .applied (.recorded call)
  | .recorded call =>
      let view := (s.committed.join w.writes).view w.setting call.scope
      let acknowledged := tagged call.scope.tenantId
        (view.newlyAcknowledged call.output.occurrenceId call.terms.observedAt)
      some (s.put i
        { w with
          phase := .ready
          writes := { w.writes with
            acknowledgements := w.writes.acknowledgements ++ acknowledged } })

def step (s : SharedSystem Digest) : SharedEvent → Option (SharedSystem Digest)
  | .emit t output => some { s with committed := s.committed.emit t output }
  | .deliver t todo => some (s.begin t todo)
  | .drain t terms scope ledgerTenant limit => some (s.begin t (s.page t terms scope ledgerTenant limit))
  | .advance i =>
      match s.sessions[i]? with
      | some (some w) => s.advance kernel i w
      | _ => none
  | .commit i =>
      match s.sessions[i]? with
      | some (some ⟨_, .ready, [], writes⟩) =>
          some { s.drop i with committed := s.committed.join writes }
      | _ => none
  | .rollback i => some (s.drop i)

/-- The states reached by steps that all meet a condition. -/
inductive Reaches (meets : SharedSystem Digest → SharedEvent → Prop) : SharedSystem Digest → Prop where
  | start : Reaches meets .empty
  | next {s s' : SharedSystem Digest} {event : SharedEvent} (reached : Reaches meets s)
      (met : meets s event) (moved : s.step kernel event = some s') : Reaches meets s'

/-- Any interleaving of sessions of any tenants. -/
abbrev Reachable (s : SharedSystem Digest) : Prop := Reaches kernel (fun _ _ => True) s

/-- Run the events one after another. -/
def run : List SharedEvent → SharedSystem Digest → Option (SharedSystem Digest)
  | [], s => some s
  | event :: rest, s => (s.step kernel event).bind (run rest)

variable {kernel}

theorem Reaches.run {meets : SharedSystem Digest → SharedEvent → Prop} {events : List SharedEvent}
    (met : ∀ s, ∀ event ∈ events, meets s event) {s s' : SharedSystem Digest}
    (reached : Reaches kernel meets s) (ran : run kernel events s = some s') :
    Reaches kernel meets s' := by
  induction events generalizing s with
  | nil =>
      cases ran
      exact reached
  | cons event rest ih =>
      obtain ⟨next, moved, later⟩ := Option.bind_eq_some_iff.mp ran
      exact ih (fun s other member => met s other (List.mem_cons_of_mem _ member))
        (.next reached (met s event List.mem_cons_self) moved) later

end SharedSystem

end DotmacCloud
