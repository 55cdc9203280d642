import DotmacCloud.Foundation.Progress
import DotmacCloud.LoneWorker
import DotmacCloud.Reconciling

/-! # Drains never wait in a circle

An append waits while another open transaction holds its identity. A drain takes its
outputs in the order they were emitted, so whoever holds the identity a worker waits
for stands further along that order. Some open transaction can therefore always go on,
and since every statement leaves less to do, all of them come to an end.
-/

namespace DotmacCloud

open Foundation AtMostOnce AdapterReceiptRow Progress

/-- A transaction takes its outputs in the order they were emitted, as a drain does. -/
def EmissionOrder {Digest : Type} (db : TenantState Digest) (todo : List Delivery) : Prop :=
  (todo.map Delivery.output).Sublist db.outputs

/-- The output whose receipt a worker is about to append. -/
def Phase.pending : Phase → List RatedObligationOutputV1
  | .refusing delivery _ | .charged delivery _ => [delivery.output]
  | _ => []

/-- The outputs whose receipts a worker has still to append, in its order. -/
def Worker.pending {Digest : Type} (w : Worker Digest) : List RatedObligationOutputV1 :=
  w.phase.pending ++ w.todo.map Delivery.output

/-- The statements a phase has left, its own call only. -/
def Phase.remaining : Phase → Nat
  | .ready => 0
  | .refusing _ _ | .recorded _ => 1
  | .charged _ _ => 2

/-- The statements a worker has left, its commit included. -/
def Worker.remaining {Digest : Type} (w : Worker Digest) : Nat :=
  1 + w.phase.remaining + 3 * w.todo.length

def System.remaining {Digest : Type} (s : System Digest) : Nat :=
  (s.workers.map (fun place => place.elim 0 Worker.remaining)).sum

section Progress

variable {Digest : Type} [DecidableEq Digest] {kernel : Kernel Digest} {t : UUID}

/-- A worker's outputs stand in emission order, those it holds an identity of before
    those it has still to append. -/
def Worker.InOrder (kernel : Kernel Digest) (t : UUID) (base : TenantState Digest) (w : Worker Digest) : Prop :=
  ∃ held : List RatedObligationOutputV1, (held ++ w.pending).Sublist base.outputs ∧
    ∀ record ∈ w.writes.tables.records, ∃ output ∈ held, ∃ fact, factOf output = .ok fact ∧
      record.key = System.factKey kernel t fact

theorem System.Reaches.emitted {s : System Digest} (reached : s.Reaches kernel t (System.Opens EmissionOrder)) :
    s.Reaches kernel t (System.Opens Emitted) := by
  induction reached with
  | start => exact .start
  | @next s s' event reached met moved ih =>
      refine System.Reaches.next ih ?_ moved
      cases event with
      | deliver todo =>
          intro some delivery member
          exact (met some).subset (List.mem_map_of_mem member)
      | _ => trivial

omit [DecidableEq Digest] in
theorem Worker.Stage.pending {w : Worker Digest} {delivery : Delivery} {fact : SourceFact}
    {outcome : ReceiptOutcome} {next : Phase} (stage : w.phase.Stage delivery fact outcome next) :
    w.pending = delivery.output :: w.todo.map Delivery.output ∧ next.pending = [] := by
  rcases stage.cases with ⟨same, -, rfl⟩ | ⟨same, -, rfl⟩ <;>
    simp only [Worker.pending, same, Phase.pending, List.singleton_append, and_self]

omit [DecidableEq Digest] in
theorem Worker.InOrder.mono {base base' : TenantState Digest} {w : Worker Digest}
    (ordered : w.InOrder kernel t base) (grown : base.outputs.Sublist base'.outputs) :
    w.InOrder kernel t base' := by
  obtain ⟨held, order, keys⟩ := ordered
  exact ⟨held, order.trans grown, keys⟩

omit [DecidableEq Digest] in
/-- A worker whose receipt is appended, or stood there, holds its identity from then on. -/
theorem Worker.InOrder.staged {base : TenantState Digest} {w : Worker Digest}
    (ordered : w.InOrder kernel t base) {delivery : Delivery} {fact : SourceFact} {outcome : ReceiptOutcome}
    {next : Phase} (stage : w.phase.Stage delivery fact outcome next) (made : factOf delivery.output = .ok fact)
    {tables : Tables Digest}
    (records : ∀ record ∈ tables.records, record ∈ w.writes.tables.records ∨
      record.key = System.factKey kernel t fact) :
    Worker.InOrder kernel t base { w with phase := next, writes := { w.writes with tables } } := by
  obtain ⟨held, order, keys⟩ := ordered
  obtain ⟨pending, after⟩ := Worker.Stage.pending stage
  refine ⟨held ++ [delivery.output], ?_, ?_⟩
  · simp only [Worker.pending, after, List.nil_append, List.append_assoc, List.singleton_append]
    rwa [pending] at order
  · intro record member
    rcases records record member with known | key
    · obtain ⟨output, inside, content⟩ := keys record known
      exact ⟨output, List.mem_append_left _ inside, content⟩
    · exact ⟨delivery.output, List.mem_append_right _ (List.mem_singleton_self _), fact, made, key⟩

theorem Worker.InOrder.moves {base : TenantState Digest} {w w' : Worker Digest}
    (ordered : w.InOrder kernel t base) (traced : w.Traced t base) (moves : Worker.Moves kernel t base w w') :
    w'.InOrder kernel t base := by
  cases moves with
  | refusing idle queued made =>
      obtain ⟨held, order, keys⟩ := ordered
      refine ⟨held, ?_, keys⟩
      simpa only [Worker.pending, idle, queued, Phase.pending, List.map_cons, List.nil_append,
        List.singleton_append] using order
  | charged idle queued made names accepted grown recorded =>
      obtain ⟨held, order, keys⟩ := ordered
      refine ⟨held, ?_, keys⟩
      simpa only [Worker.pending, idle, queued, Phase.pending, List.map_cons, List.nil_append,
        List.singleton_append] using order
  | appended stage row_for key unspent =>
      obtain ⟨-, made⟩ := traced.staged _ _ _ _ stage
      apply ordered.staged stage made
      intro record member
      rcases List.mem_append.mp member with known | new
      · exact .inl known
      · exact .inr (List.mem_singleton.mp new ▸ key)
  | replayed stage row_for spent =>
      obtain ⟨-, made⟩ := traced.staged _ _ _ _ stage
      exact ordered.staged stage made (fun record => .inl)
  | acknowledged settled =>
      obtain ⟨held, order, keys⟩ := ordered
      refine ⟨held, ?_, keys⟩
      simpa only [Worker.pending, settled, Phase.pending] using order

theorem inOrder_inductive :
    Inductive kernel t (System.Opens EmissionOrder) (fun _ => True) (fun base w => w.InOrder kernel t base) where
  start := trivial
  emit := fun _ _ _ => trivial
  emitOpen := by
    intro base output w ordered
    apply ordered.mono
    unfold TenantState.emit
    split
    · exact List.sublist_append_left _ _
    · exact List.Sublist.refl _
  begin := by
    intro s event todo met source
    refine ⟨[], ?_, fun _ member => absurd member List.not_mem_nil⟩
    rcases source with rfl | ⟨terms, limit, rfl, rfl⟩
    · cases todo with
      | nil => exact List.nil_sublist _
      | cons delivery rest => exact met (List.cons_ne_nil _ _)
    · simp only [List.nil_append, Worker.pending, Phase.pending, List.map_map, Function.comp_def, List.map_id']
      exact (List.take_sublist _ _).trans List.filter_sublist
  advance := by
    intro s i w w' reached _ live ordered moves
    obtain ⟨-, workers⟩ := traced_inductive.holds (System.Reaches.emitted reached)
    exact ordered.moves (workers i w live) moves
  commit := fun _ _ _ _ => trivial
  commitOpen := fun _ _ _ ordered => ordered.mono (List.sublist_append_left _ _)

/-! ## Waiting -/

/-- A worker waits for another one that holds the identity of its next receipt. -/
def System.Waits (kernel : Kernel Digest) (t : UUID) (s : System Digest) (i j : Nat) : Prop :=
  ∃ w v delivery fact outcome next, s.Live i w ∧ w.phase.Stage delivery fact outcome next ∧ s.Live j v ∧
    ∃ record ∈ v.writes.tables.records, record.key = System.factKey kernel t fact

/-- Where a worker's next receipt stands in the emission order. -/
def System.rank (s : System Digest) (i : Nat) : Nat :=
  (s.workers[i]?.join.bind (fun w => w.pending.head?)).elim 0 s.committed.outputs.idxOf

variable {s s' : System Digest} {i j : Nat} {w v : Worker Digest}

omit [DecidableEq Digest] in
theorem System.rank_live (live : s.Live i w) {output : RatedObligationOutputV1}
    {rest : List RatedObligationOutputV1} (pending : w.pending = output :: rest) :
    s.rank i = s.committed.outputs.idxOf output := by
  have known : s.workers[i]? = some (some w) := live
  simp only [rank, known, Option.join_some, Option.bind_some, pending, List.head?_cons, Option.elim_some]

omit [DecidableEq Digest] in
theorem System.Live.unique (live : s.Live i w) (other : s.Live i v) : w = v := by
  have same : some (some w) = some (some v) := live.symm.trans other
  simpa using same

omit [DecidableEq Digest] in
/-- The ledger key of a fact names the version it was made of. -/
theorem version_of_factKey {a b : RatedObligationOutputV1} {fact fact' : SourceFact}
    (made : factOf a = .ok fact) (made' : factOf b = .ok fact')
    (same : System.factKey kernel t fact = System.factKey kernel t fact') : a.version = b.version := by
  have exact := (rowKey_eq_iff kernel (a := fromReceipt t (receiptOf fact .applied 0))
    (b := fromReceipt t (receiptOf fact' .applied 0))).mp same
  rw [(rowFor_receiptOf made t .applied 0).exact, (rowFor_receiptOf made' t .applied 0).exact] at exact
  exact FactVersion.exactFact_injective exact

theorem System.waits_of_busy (live : s.Live i w) {delivery : Delivery} {fact : SourceFact}
    {outcome : ReceiptOutcome} {next : Phase} (stage : w.phase.Stage delivery fact outcome next)
    (held : s.busy i (System.factKey kernel t fact) = true) : ∃ j, s.Waits kernel t i j := by
  obtain ⟨⟨place, j⟩, inside, wrote⟩ := List.any_eq_true.mp held
  cases place with
  | none => simp at wrote
  | some v =>
      have other : s.Live j v := List.mem_zipIdx_iff_getElem?.mp inside
      simp only [Bool.and_eq_true, List.any_eq_true, decide_eq_true_eq] at wrote
      exact ⟨j, w, v, delivery, fact, outcome, next, live, stage, other, wrote.2⟩

theorem System.record_waits {delivery : Delivery} {fact : SourceFact} {outcome : ReceiptOutcome} {next : Phase}
    (stuck : s.record kernel t i w delivery fact outcome next = none) :
    s.busy i (System.factKey kernel t fact) = true := by
  simp only [System.record] at stuck
  split at stuck
  · assumption
  · split at stuck <;> cases stuck

/-- A worker that cannot take a statement has none left, or waits. -/
theorem System.advance_waits (live : s.Live i w) (stuck : s.advance kernel t i w = none) :
    w.phase = .ready ∧ w.todo = [] ∨ ∃ j, s.Waits kernel t i j := by
  simp only [System.advance] at stuck
  split at stuck
  · rename_i idle
    split at stuck
    · rename_i finished
      exact .inl ⟨idle, finished⟩
    · split at stuck
      · cases stuck
      · cases stuck
      · split at stuck <;> cases stuck
  · rename_i delivery fact phase
    exact .inr (waits_of_busy live (by rw [phase]; exact .refusing delivery fact) (record_waits stuck))
  · rename_i delivery fact phase
    exact .inr (waits_of_busy live (by rw [phase]; exact .charged delivery fact) (record_waits stuck))
  · cases stuck

theorem System.Waits.rises (reached : s.Reaches kernel t (System.Opens EmissionOrder)) {k : Nat}
    (first : s.Waits kernel t i j) (second : s.Waits kernel t j k) : s.rank i < s.rank j := by
  obtain ⟨traced, workers⟩ := traced_inductive.holds (System.Reaches.emitted reached)
  obtain ⟨-, ordered⟩ := inOrder_inductive.holds reached
  obtain ⟨w, v, delivery, fact, outcome, next, live, stage, other, record, member, key⟩ := first
  obtain ⟨v', -, delivery', fact', outcome', next', other', stage', -⟩ := second
  obtain rfl := System.Live.unique other other'
  obtain ⟨pending, -⟩ := Worker.Stage.pending stage
  obtain ⟨pending', -⟩ := Worker.Stage.pending stage'
  rw [rank_live live pending, rank_live other pending']
  obtain ⟨held, order, keys⟩ := ordered j v other
  obtain ⟨known, inside, knownFact, made, named⟩ := keys record member
  obtain ⟨emitted, built⟩ := (workers i w live).staged _ _ _ _ stage
  have same : known = delivery.output := by
    have before : known ∈ s.committed.outputs := order.subset (List.mem_append_left _ inside)
    apply List.inj_on_of_nodup_map traced.versions before emitted
    exact version_of_factKey made built (named.symm.trans key)
  rw [pending'] at order
  exact Progress.idxOf_lt_of_sublist order traced.versions.of_map (same ▸ inside)

theorem System.Waits.bounded (reached : s.Reaches kernel t (System.Opens EmissionOrder))
    (waits : s.Waits kernel t i j) : s.rank i < s.committed.outputs.length := by
  obtain ⟨-, workers⟩ := traced_inductive.holds (System.Reaches.emitted reached)
  obtain ⟨w, v, delivery, fact, outcome, next, live, stage, -⟩ := waits
  obtain ⟨pending, -⟩ := Worker.Stage.pending stage
  obtain ⟨emitted, -⟩ := (workers i w live).staged _ _ _ _ stage
  rw [rank_live live pending]
  exact List.idxOf_lt_length_iff.mpr emitted

/-- Where a transaction is open, one can take its next statement or commit. -/
theorem System.progress (reached : s.Reaches kernel t (System.Opens EmissionOrder)) (live : s.Live i w) :
    ∃ j s', s.step kernel t (.advance j) = some s' ∨ s.step kernel t (.commit j) = some s' := by
  obtain ⟨j, chain, free⟩ : ∃ j, Relation.ReflTransGen (s.Waits kernel t) i j ∧ ∀ k, ¬ s.Waits kernel t j k :=
    Progress.exists_unblocked (fun _ _ waits => waits.bounded reached)
      (fun _ _ _ first second => first.rises reached second) i
  obtain ⟨v, other⟩ : ∃ v, s.Live j v := by
    rcases Relation.ReflTransGen.cases_tail chain with rfl | ⟨k, -, waits⟩
    · exact ⟨w, live⟩
    · obtain ⟨-, v, -, -, -, -, -, -, other, -⟩ := waits
      exact ⟨v, other⟩
  have here : s.workers[j]? = some (some v) := other
  refine ⟨j, ?_⟩
  cases moved : s.advance kernel t j v with
  | some s' =>
      refine ⟨s', .inl ?_⟩
      simp only [System.step, here, moved]
  | none =>
      rcases advance_waits other moved with ⟨idle, finished⟩ | ⟨k, waits⟩
      · obtain ⟨phase, todo, writes⟩ := v
        simp only at idle finished
        subst idle finished
        have ended : s.step kernel t (.commit j) =
            some { s.drop j with committed := s.committed.join writes } := by
          simp only [System.step, here]
        exact ⟨_, .inr ended⟩
      · exact absurd waits (free k)

/-! ## What is left to do -/

/-- The weight of a place, as a transaction takes a step. -/
theorem sum_set {α : Type} (weight : α → Nat) {l : List α} {i : Nat} {a : α} (here : l[i]? = some a) (b : α) :
    ((l.set i b).map weight).sum + weight a = (l.map weight).sum + weight b := by
  induction l generalizing i with
  | nil => simp at here
  | cons first rest ih =>
      cases i with
      | zero =>
          obtain rfl : first = a := by simpa using here
          simp only [List.set_cons_zero, List.map_cons, List.sum_cons]
          omega
      | succ i =>
          have later := ih (i := i) (by simpa using here)
          simp only [List.set_cons_succ, List.map_cons, List.sum_cons]
          omega

omit [DecidableEq Digest] in
theorem System.remaining_put (live : s.Live i w) (w' : Worker Digest) :
    (s.put i w').remaining + w.remaining = s.remaining + w'.remaining :=
  sum_set (fun place => place.elim 0 Worker.remaining) live (some w')

omit [DecidableEq Digest] in
theorem System.remaining_drop (live : s.Live i w) : (s.drop i).remaining + w.remaining = s.remaining :=
  sum_set (fun place => place.elim 0 Worker.remaining) live none

omit [DecidableEq Digest] in
theorem Worker.remaining_pos (w : Worker Digest) : 0 < w.remaining := by
  unfold Worker.remaining
  omega

/-- A statement ends the transaction, or leaves it less to do. -/
theorem System.advance_lowers (moved : s.advance kernel t i w = some s') :
    s' = s.drop i ∨ ∃ w', s' = s.put i w' ∧ w'.remaining < w.remaining := by
  have records : ∀ delivery fact outcome next, w.phase.Stage delivery fact outcome next →
      s.record kernel t i w delivery fact outcome next = some s' →
      s' = s.drop i ∨ ∃ w', s' = s.put i w' ∧ w'.remaining < w.remaining := by
    intro delivery fact outcome next stage recorded
    simp only [System.record] at recorded
    split at recorded
    · cases recorded
    · split at recorded
      · cases recorded
        exact .inl rfl
      · cases recorded
        refine .inr ⟨_, rfl, ?_⟩
        rcases stage.cases with ⟨same, -, rfl⟩ | ⟨same, -, rfl⟩ <;>
          simp only [Worker.remaining, same, Phase.remaining] <;> omega
  simp only [System.advance] at moved
  split at moved
  · rename_i idle
    split at moved
    · cases moved
    · rename_i delivery rest queued
      split at moved
      · cases moved
        exact .inl rfl
      · cases moved
        refine .inr ⟨_, rfl, ?_⟩
        simp only [Worker.remaining, idle, queued, Phase.remaining, List.length_cons]
        omega
      · split at moved
        · cases moved
          exact .inl rfl
        · cases moved
          refine .inr ⟨_, rfl, ?_⟩
          simp only [Worker.remaining, idle, queued, Phase.remaining, List.length_cons]
          omega
        · cases moved
          refine .inr ⟨_, rfl, ?_⟩
          simp only [Worker.remaining, idle, queued, Phase.remaining, List.length_cons]
          omega
  · rename_i delivery fact phase
    exact records delivery fact _ _ (by rw [phase]; exact .refusing delivery fact) moved
  · rename_i delivery fact phase
    exact records delivery fact _ _ (by rw [phase]; exact .charged delivery fact) moved
  · rename_i delivery settled
    cases moved
    refine .inr ⟨_, rfl, ?_⟩
    simp only [Worker.remaining, settled, Phase.remaining]
    omega

/-- The steps of the transactions that are already open. -/
def Event.Finishing (event : Event) : Prop := ∃ i, event = .advance i ∨ event = .commit i

theorem System.Reaches.finishing (reached : s.Reaches kernel t (System.Opens EmissionOrder)) {event : Event}
    (finishing : event.Finishing) (moved : s.step kernel t event = some s') :
    s'.Reaches kernel t (System.Opens EmissionOrder) ∧ s'.remaining < s.remaining := by
  obtain ⟨i, rfl | rfl⟩ := finishing
  · refine ⟨System.Reaches.next reached (by trivial) moved, ?_⟩
    simp only [System.step] at moved
    split at moved
    · rename_i w live
      have positive := w.remaining_pos
      rcases advance_lowers moved with rfl | ⟨w', rfl, lower⟩
      · have dropped := System.remaining_drop live
        omega
      · have put := System.remaining_put live w'
        omega
    · cases moved
  · refine ⟨System.Reaches.next reached (by trivial) moved, ?_⟩
    simp only [System.step] at moved
    split at moved
    · rename_i writes live
      cases moved
      have dropped := System.remaining_drop live
      have positive := Worker.remaining_pos (⟨.ready, [], writes⟩ : Worker Digest)
      change (s.drop i).remaining < s.remaining
      omega
    · cases moved

/-- Transactions that take outputs in emission order never deadlock: whatever statements
    and commits are taken, there are at most as many as were left, and while one is
    open another step can be taken; so all of them can be brought to their end. -/
theorem drains_never_deadlock (kernel : Kernel Digest) (t : UUID) (s : System Digest)
    (reached : s.Reaches kernel t (System.Opens EmissionOrder)) :
    (∀ events last, Progress.Runs (System.step kernel t) Event.Finishing events s last →
      events.length + last.remaining ≤ s.remaining ∧
      (¬ last.Quiet → ∃ event next, event.Finishing ∧ last.step kernel t event = some next)) ∧
    ∃ events last, Progress.Runs (System.step kernel t) Event.Finishing events s last ∧ last.Quiet := by
  have lowers : ∀ s event s', System.Reaches kernel t (System.Opens EmissionOrder) s → event.Finishing →
      s.step kernel t event = some s' →
      System.Reaches kernel t (System.Opens EmissionOrder) s' ∧ s'.remaining < s.remaining :=
    fun s event s' reached finishing moved => reached.finishing finishing moved
  have progress : ∀ s, System.Reaches kernel t (System.Opens EmissionOrder) s → ¬ s.Quiet →
      ∃ event s', event.Finishing ∧ s.step kernel t event = some s' := by
    intro s reached busy
    obtain ⟨i, w, live⟩ : ∃ i w, s.Live i w := by
      by_contra none
      exact busy (fun i w live => none ⟨i, w, live⟩)
    obtain ⟨j, s', moved | moved⟩ := System.progress reached live
    · exact ⟨.advance j, s', ⟨j, .inl rfl⟩, moved⟩
    · exact ⟨.commit j, s', ⟨j, .inr rfl⟩, moved⟩
  constructor
  · intro events last runs
    obtain ⟨ended, bound⟩ := runs.length_le lowers reached
    exact ⟨bound, progress last ended⟩
  · exact Progress.finishes lowers progress s reached

end Progress

/-- Two drains of two charges; the second one waits for the first charge's receipt. -/
def twoDrains : List Event :=
  let terms := linkedTo (some 9) recordingBilling
  [.emit (monthlyCharge 7 1), .emit (monthlyCharge 8 1), .drain terms 100, .drain terms 100,
    .advance 0, .advance 1, .advance 0]

theorem drains_never_deadlock_two_drains :
    ∃ s, System.run plainKernel 1 (fun _ _ => true) twoDrains .empty = some s ∧
      (s.step plainKernel 1 (.advance 1)).isNone = true ∧
      ∃ events last, Progress.Runs (System.step plainKernel 1) Event.Finishing events s last ∧ last.Quiet := by
  have returns : ((System.run plainKernel 1 (fun _ _ => true) twoDrains .empty).map (fun s =>
      (s.step plainKernel 1 (.advance 1)).isNone)) = some true := by decide +kernel
  cases ran : System.run plainKernel 1 (fun _ _ => true) twoDrains .empty with
  | none =>
      rw [ran] at returns
      cases returns
  | some s =>
      rw [ran] at returns
      have reached : s.Reaches plainKernel 1 (System.Opens EmissionOrder) := by
        refine System.Reaches.run ?_ .start ran
        intro state event member _
        fin_cases member <;> trivial
      exact ⟨s, rfl, Option.some.inj returns, (drains_never_deadlock plainKernel 1 s reached).2⟩

/-- Two deliveries of the same charges in opposite orders, each with one receipt appended. -/
def crossedDeliveries : List Event :=
  let terms := linkedTo (some 9) recordingBilling
  let first : Delivery := ⟨terms, monthlyCharge 7 1⟩
  let second : Delivery := ⟨terms, monthlyCharge 8 1⟩
  [.deliver [first, second], .deliver [second, first],
    .advance 0, .advance 0, .advance 0, .advance 0, .advance 1, .advance 1, .advance 1, .advance 1]

/-- Out of emission order, two transactions can wait for each other. -/
example : (System.run plainKernel 1 (fun _ _ => true) crossedDeliveries .empty).map (fun s =>
    [Event.advance 0, .advance 1, .commit 0, .commit 1].all (fun event =>
      (s.step plainKernel 1 event).isNone)) = some true := by decide +kernel

end DotmacCloud
