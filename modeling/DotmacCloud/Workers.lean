import DotmacCloud.DrainHistory

/-! # Concurrent transactions of one tenant

Any number of workers hand outputs over at once. Each runs in its own transaction: it
sees what is committed and its own writes, and those become visible when it commits.
Its list of deliveries was read when it began and may be stale by the time it is
applied. One step is one statement against the database: Billing's acceptance, the
append of a receipt, or the acknowledgement. A step that raises ends the transaction
and rolls it back whole.
-/

namespace DotmacCloud

open Foundation AtMostOnce AdapterReceiptRow

/-- One call of `apply_rated_obligation`, on an output as it was read. -/
structure Delivery where
  terms : Terms
  output : RatedObligationOutputV1

/-- Where a worker stands inside the call it is running. -/
inductive Phase where
  | ready
  | refusing (delivery : Delivery) (fact : SourceFact)
  | charged (delivery : Delivery) (fact : SourceFact)
  | recorded (delivery : Delivery)

/-- An open transaction: the calls left to run and its own writes. -/
structure Worker (Digest : Type) where
  phase : Phase
  todo : List Delivery
  writes : TenantState Digest

/-- A worker's transaction has ended once its place is `none`. -/
structure System (Digest : Type) where
  committed : TenantState Digest
  workers : List (Option (Worker Digest))

section Writes

variable {Digest : Type}

/-- What a transaction sees: the committed state and its own writes behind it. -/
def TenantState.join (base writes : TenantState Digest) : TenantState Digest where
  outputs := base.outputs ++ writes.outputs
  acknowledgements := base.acknowledgements ++ writes.acknowledgements
  obligations := base.obligations ++ writes.obligations
  tables := ⟨base.tables.receipts ++ writes.tables.receipts, base.tables.records ++ writes.tables.records⟩

/-- The writes that lead from one state to a later one. -/
def TenantState.since (base view : TenantState Digest) : TenantState Digest where
  outputs := view.outputs.drop base.outputs.length
  acknowledgements := view.acknowledgements.drop base.acknowledgements.length
  obligations := view.obligations.drop base.obligations.length
  tables := ⟨view.tables.receipts.drop base.tables.receipts.length,
    view.tables.records.drop base.tables.records.length⟩

theorem TenantState.join_since {base view : TenantState Digest} (extend : base.Extends view) :
    base.join (base.since view) = view := by
  obtain ⟨⟨a, outputs⟩, ⟨b, acks⟩, ⟨c, obligations⟩, ⟨d, receipts⟩, ⟨e, records⟩⟩ := extend
  obtain ⟨_, _, _, _, _⟩ := view
  simp only at outputs acks obligations receipts records
  subst outputs acks obligations receipts records
  simp only [TenantState.join, TenantState.since, List.drop_left]

theorem TenantState.extends_join (base writes : TenantState Digest) : base.Extends (base.join writes) :=
  ⟨List.prefix_append _ _, List.prefix_append _ _, List.prefix_append _ _, List.prefix_append _ _,
    List.prefix_append _ _⟩

theorem TenantState.join_empty (base : TenantState Digest) : base.join .empty = base := by
  simp [TenantState.join, TenantState.empty, Tables.empty]

end Writes

/-! ## The steps -/

inductive Event where
  /-- Subscriptions commits one more output. -/
  | emit (output : RatedObligationOutputV1)
  /-- A transaction that will run these calls. -/
  | deliver (todo : List Delivery)
  /-- A drain, which reads its list when it begins. -/
  | drain (terms : Terms) (limit : Nat)
  /-- The next statement of a worker. -/
  | advance (worker : Nat)
  | commit (worker : Nat)
  | rollback (worker : Nat)

section Step

variable {Digest : Type} [DecidableEq Digest] (kernel : Kernel Digest) (t : UUID)

namespace System

def empty : System Digest := ⟨.empty, []⟩

/-- The worker whose transaction is open at this place. -/
def Live (s : System Digest) (i : Nat) (w : Worker Digest) : Prop := s.workers[i]? = some (some w)

def begin (s : System Digest) (todo : List Delivery) : System Digest :=
  { s with workers := s.workers ++ [some ⟨.ready, todo, .empty⟩] }

/-- The transaction at this place ended without a trace. -/
def drop (s : System Digest) (i : Nat) : System Digest :=
  { s with workers := s.workers.set i none }

def put (s : System Digest) (i : Nat) (w : Worker Digest) : System Digest :=
  { s with workers := s.workers.set i (some w) }

/-- The ledger key of one fact. -/
def factKey (fact : SourceFact) : RecordKey Digest :=
  ⟨t, receiptScope, identityKey kernel (receiptOf fact .applied 0)⟩

/-- Another open transaction has written a record under the key: an append waits
    until that transaction ends. -/
def busy (s : System Digest) (i : Nat) (key : RecordKey Digest) : Bool :=
  s.workers.zipIdx.any (fun entry => entry.2 != i &&
    match entry.1 with
    | none => false
    | some w => w.writes.tables.records.any (fun record => record.key = key))

/-- The append of one receipt, unless it waits. -/
def record (s : System Digest) (i : Nat) (w : Worker Digest) (delivery : Delivery) (fact : SourceFact)
    (outcome : ReceiptOutcome) (next : Phase) : Option (System Digest) :=
  let view := s.committed.join w.writes
  if s.busy i (factKey kernel t fact) then none
  else
    match appendReceipt kernel (.scoped t) view.tables fact outcome delivery.terms.observedAt with
    | .error _ => some (s.drop i)
    | .ok tables => some (s.put i
        { w with phase := next, writes := s.committed.since { view with tables } })

/-- The next statement of a worker. -/
def advance (s : System Digest) (i : Nat) (w : Worker Digest) : Option (System Digest) :=
  let view := s.committed.join w.writes
  match w.phase with
  | .ready =>
      match w.todo with
      | [] => none
      | delivery :: rest =>
          match prepare ⟨t⟩ delivery.terms delivery.output with
          | .error _ => some (s.drop i)
          | .ok (fact, none) => some (s.put i { w with phase := .refusing delivery fact, todo := rest })
          | .ok (fact, some command) =>
              match charge ⟨t⟩ delivery.terms view.obligations command with
              | .error _ => some (s.drop i)
              | .ok none => some (s.put i { w with phase := .refusing delivery fact, todo := rest })
              | .ok (some obligations) => some (s.put i
                  { w with
                    phase := .charged delivery fact
                    todo := rest
                    writes := s.committed.since { view with obligations } })
  | .refusing delivery fact => s.record kernel t i w delivery fact .refused .ready
  | .charged delivery fact => s.record kernel t i w delivery fact .applied (.recorded delivery)
  | .recorded delivery =>
      let acknowledgements :=
        view.acknowledgeOutput delivery.output.occurrenceId delivery.terms.observedAt
      some (s.put i
        { w with phase := .ready, writes := s.committed.since { view with acknowledgements } })

def step (s : System Digest) : Event → Option (System Digest)
  | .emit output => some { s with committed := s.committed.emit output }
  | .deliver todo => some (s.begin todo)
  | .drain terms limit =>
      some (s.begin ((s.committed.unacknowledgedOutputs limit).map (fun output => ⟨terms, output⟩)))
  | .advance i =>
      match s.workers[i]? with
      | some (some w) => s.advance kernel t i w
      | _ => none
  | .commit i =>
      match s.workers[i]? with
      | some (some ⟨.ready, [], writes⟩) =>
          some { s.drop i with committed := s.committed.join writes }
      | _ => none
  | .rollback i => some (s.drop i)

/-- The states reached by steps that all meet a condition. -/
inductive Reaches (meets : System Digest → Event → Prop) : System Digest → Prop where
  | start : Reaches meets .empty
  | next {s s' : System Digest} {event : Event} (reached : Reaches meets s) (met : meets s event)
      (moved : s.step kernel t event = some s') : Reaches meets s'

/-- Any interleaving. -/
abbrev Reachable (s : System Digest) : Prop := Reaches kernel t (fun _ _ => True) s

/-- Run the events, each only where it passes the check. -/
def run (check : System Digest → Event → Bool) : List Event → System Digest → Option (System Digest)
  | [], s => some s
  | event :: rest, s =>
      if check s event then (s.step kernel t event).bind (run check rest) else none

variable {kernel} {t}

theorem Reaches.run {meets : System Digest → Event → Prop} {check : System Digest → Event → Bool}
    {events : List Event} (met : ∀ s, ∀ event ∈ events, check s event = true → meets s event)
    {s s' : System Digest} (reached : Reaches kernel t meets s)
    (ran : run kernel t check events s = some s') : Reaches kernel t meets s' := by
  induction events generalizing s with
  | nil =>
      cases ran
      exact reached
  | cons event rest ih =>
      simp only [System.run] at ran
      split at ran
      · rename_i passed
        obtain ⟨next, moved, later⟩ := Option.bind_eq_some_iff.mp ran
        exact ih (fun s other member => met s other (List.mem_cons_of_mem _ member))
          (.next reached (met s event List.mem_cons_self passed) moved) later
      · cases ran

end System

/-! ## What a step can do -/

/-- The receipt a worker is about to append, and where it goes from there. -/
inductive Phase.Stage : Phase → Delivery → SourceFact → ReceiptOutcome → Phase → Prop where
  | refusing (delivery : Delivery) (fact : SourceFact) :
      Stage (.refusing delivery fact) delivery fact .refused .ready
  | charged (delivery : Delivery) (fact : SourceFact) :
      Stage (.charged delivery fact) delivery fact .applied (.recorded delivery)

theorem Phase.Stage.cases {phase next : Phase} {delivery : Delivery} {fact : SourceFact}
    {outcome : ReceiptOutcome} (stage : phase.Stage delivery fact outcome next) :
    phase = .refusing delivery fact ∧ outcome = .refused ∧ next = .ready ∨
      phase = .charged delivery fact ∧ outcome = .applied ∧ next = .recorded delivery := by
  cases stage with
  | refusing => exact .inl ⟨rfl, rfl, rfl⟩
  | charged => exact .inr ⟨rfl, rfl, rfl⟩

/-- One statement of a worker that returned, as the change of its own writes. -/
inductive Worker.Moves (base : TenantState Digest) (w : Worker Digest) : Worker Digest → Prop where
  | refusing {delivery : Delivery} {rest : List Delivery} {fact : SourceFact} (idle : w.phase = .ready)
      (queued : w.todo = delivery :: rest) (made : factOf delivery.output = .ok fact) :
      Moves base w { w with phase := .refusing delivery fact, todo := rest }
  | charged {delivery : Delivery} {rest : List Delivery} {fact : SourceFact}
      {command : AcceptRatedObligationV1} {obligations more : List AcceptRatedObligationV1}
      (idle : w.phase = .ready) (queued : w.todo = delivery :: rest)
      (made : factOf delivery.output = .ok fact)
      (names : command.sourceFact = delivery.output.version.sourceFact)
      (accepted : delivery.terms.billing.accept ⟨t⟩ acceptedSourceKinds
        (base.join w.writes).obligations command = .ok obligations)
      (grown : obligations = (base.join w.writes).obligations ++ more)
      (recorded : more = [command] ∨ more = [] ∧
        Holds (base.join w.writes).obligations delivery.output.version) :
      Moves base w
        { w with
          phase := .charged delivery fact
          todo := rest
          writes := { w.writes with obligations := w.writes.obligations ++ more } }
  | appended {delivery : Delivery} {fact : SourceFact} {outcome : ReceiptOutcome} {next : Phase}
      {row : AdapterReceiptRow} {name : String} (stage : w.phase.Stage delivery fact outcome next)
      (row_for : factOf delivery.output = .ok fact → RowFor t delivery.output outcome row)
      (key : rowKey kernel row = System.factKey kernel t fact)
      (unspent : stored (base.join w.writes).tables.records (rowKey kernel row) = none) :
      Moves base w
        { w with
          phase := next
          writes := { w.writes with tables :=
            ⟨w.writes.tables.receipts ++ [row],
              w.writes.tables.records ++ [⟨rowKey kernel row, name, rowPrint kernel row⟩]⟩ } }
  | replayed {delivery : Delivery} {fact : SourceFact} {outcome : ReceiptOutcome} {next : Phase}
      {row : AdapterReceiptRow} (stage : w.phase.Stage delivery fact outcome next)
      (row_for : factOf delivery.output = .ok fact → RowFor t delivery.output outcome row)
      (spent : stored (base.join w.writes).tables.records (rowKey kernel row) =
        some (rowPrint kernel row)) :
      Moves base w { w with phase := next }
  | acknowledged {delivery : Delivery} (settled : w.phase = .recorded delivery) :
      Moves base w
        { w with
          phase := .ready
          writes := { w.writes with
            acknowledgements := w.writes.acknowledgements ++ (base.join w.writes).newlyAcknowledged
              delivery.output.occurrenceId delivery.terms.observedAt } }

/-- Everything a step can have done. -/
inductive System.Moved (s : System Digest) : Event → System Digest → Prop where
  | emitted (output : RatedObligationOutputV1) :
      Moved s (.emit output) { s with committed := s.committed.emit output }
  | begun {event : Event} (todo : List Delivery)
      (source : event = .deliver todo ∨ ∃ terms limit, event = .drain terms limit ∧
        todo = (s.committed.unacknowledgedOutputs limit).map (fun output => ⟨terms, output⟩)) :
      Moved s event (s.begin todo)
  | dropped {event : Event} (i : Nat) : Moved s event (s.drop i)
  | advanced {i : Nat} {w w' : Worker Digest} (live : s.Live i w)
      (moves : Worker.Moves kernel t s.committed w w')
      (free : ∀ record ∈ w'.writes.tables.records, record ∈ w.writes.tables.records ∨
        s.busy i record.key = false) : Moved s (.advance i) (s.put i w')
  | committed {i : Nat} {writes : TenantState Digest} (live : s.Live i ⟨.ready, [], writes⟩) :
      Moved s (.commit i) { s.drop i with committed := s.committed.join writes }

variable {kernel} {t}

omit [DecidableEq Digest] in
theorem since_join (base writes : TenantState Digest) (acknowledgements : List Acknowledgement)
    (obligations : List AcceptRatedObligationV1) (rows : List AdapterReceiptRow)
    (records : List (IdempotencyRecord Digest)) :
    base.since ⟨(base.join writes).outputs, (base.join writes).acknowledgements ++ acknowledgements,
        (base.join writes).obligations ++ obligations,
        ⟨(base.join writes).tables.receipts ++ rows, (base.join writes).tables.records ++ records⟩⟩ =
      ⟨writes.outputs, writes.acknowledgements ++ acknowledgements, writes.obligations ++ obligations,
        ⟨writes.tables.receipts ++ rows, writes.tables.records ++ records⟩⟩ := by
  simp [TenantState.since, TenantState.join]

theorem record_cases {s s' : System Digest} {i : Nat} {w : Worker Digest} (live : s.Live i w)
    {delivery : Delivery} {fact : SourceFact} {outcome : ReceiptOutcome} {next : Phase}
    (stage : w.phase.Stage delivery fact outcome next)
    (moved : s.record kernel t i w delivery fact outcome next = some s') :
    s.Moved kernel t (.advance i) s' := by
  simp only [System.record] at moved
  split at moved
  · cases moved
  · rename_i free
    split at moved
    · cases moved
      exact .dropped i
    · rename_i tables returned
      cases moved
      obtain ⟨instant, -, appended⟩ := appendReceipt_eq_ok returned
      have row_for : factOf delivery.output = .ok fact →
          RowFor t delivery.output outcome (fromReceipt t (receiptOf fact outcome instant)) :=
        fun made => rowFor_receiptOf made t outcome instant
      rcases append_cases appended with ⟨unspent, -, rfl⟩ | ⟨spent, rfl⟩
      · have same := since_join s.committed w.writes [] []
          [fromReceipt t (receiptOf fact outcome instant)]
          [recordOf kernel t (receiptOf fact outcome instant)]
        simp only [List.append_nil] at same
        simp only [SqlAlchemyReceiptLedger.scoped_tenantId, same]
        refine .advanced live (.appended stage row_for rfl unspent) ?_
        intro record member
        rcases List.mem_append.mp member with earlier | last
        · exact .inl earlier
        · obtain rfl := List.mem_singleton.mp last
          exact .inr (Bool.eq_false_iff.mpr free)
      · have same := since_join s.committed w.writes [] [] [] []
        simp only [List.append_nil] at same
        simp only [same]
        exact .advanced live (.replayed stage row_for spent) (fun record member => .inl member)

theorem advance_cases {s s' : System Digest} {i : Nat} {w : Worker Digest} (live : s.Live i w)
    (moved : s.advance kernel t i w = some s') : s.Moved kernel t (.advance i) s' := by
  simp only [System.advance] at moved
  split at moved
  · rename_i idle
    split at moved
    · cases moved
    · rename_i delivery rest queued
      split at moved
      · cases moved
        exact .dropped i
      · rename_i fact prepared
        cases moved
        exact .advanced live (.refusing idle queued (prepare_fact prepared)) (fun _ => .inl)
      · rename_i fact command prepared
        split at moved
        · cases moved
          exact .dropped i
        · cases moved
          exact .advanced live (.refusing idle queued (prepare_fact prepared)) (fun _ => .inl)
        · rename_i obligations charged
          cases moved
          have accepted := charge_eq_some.mp charged
          have names := prepare_command prepared
          obtain ⟨more, rfl, recorded⟩ : ∃ more,
              obligations = (s.committed.join w.writes).obligations ++ more ∧
                (more = [command] ∨ more = [] ∧
                  Holds (s.committed.join w.writes).obligations delivery.output.version) := by
            rcases delivery.terms.billing.records accepted with rfl | ⟨rfl, obligation, member, equal⟩
            · exact ⟨[command], rfl, .inl rfl⟩
            · exact ⟨[], (List.append_nil _).symm, .inr ⟨rfl, obligation, member, equal.trans names⟩⟩
          have same := since_join s.committed w.writes [] more [] []
          simp only [List.append_nil] at same
          simp only [same]
          exact .advanced live (.charged idle queued (prepare_fact prepared) names accepted rfl recorded)
            (fun _ => .inl)
  · rename_i delivery fact phase
    exact record_cases live (by rw [phase]; exact .refusing delivery fact) moved
  · rename_i delivery fact phase
    exact record_cases live (by rw [phase]; exact .charged delivery fact) moved
  · rename_i delivery settled
    cases moved
    have same := since_join s.committed w.writes ((s.committed.join w.writes).newlyAcknowledged
      delivery.output.occurrenceId delivery.terms.observedAt) [] [] []
    simp only [List.append_nil] at same
    simp only [TenantState.acknowledgeOutput, same]
    exact .advanced live (.acknowledged settled) (fun _ => .inl)

theorem step_cases {s s' : System Digest} {event : Event} (moved : s.step kernel t event = some s') :
    s.Moved kernel t event s' := by
  cases event with
  | emit output =>
      cases moved
      exact .emitted output
  | deliver todo =>
      cases moved
      exact .begun todo (.inl rfl)
  | drain terms limit =>
      cases moved
      exact .begun _ (.inr ⟨terms, limit, rfl, rfl⟩)
  | advance i =>
      simp only [System.step] at moved
      split at moved
      · rename_i w live
        exact advance_cases live moved
      · cases moved
  | commit i =>
      simp only [System.step] at moved
      split at moved
      · rename_i writes live
        cases moved
        exact .committed live
      · cases moved
  | rollback i =>
      cases moved
      exact .dropped i

end Step

end DotmacCloud
