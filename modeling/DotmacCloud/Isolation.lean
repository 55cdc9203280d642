import DotmacCloud.Workers

/-! # What every interleaving keeps

The committed tables and the view of each open transaction are guarded, and no two
open transactions have written a record under one key. Over that isolation, an
invariant of a worker and its committed state is checked once for each kind of step.
-/

namespace DotmacCloud

open Foundation AtMostOnce AdapterReceiptRow

section Isolation

variable {Digest : Type} [DecidableEq Digest] {kernel : Kernel Digest} {t : UUID}

namespace System

variable {s : System Digest} {i j : Nat} {w w' v : Worker Digest}

omit [DecidableEq Digest] in
theorem live_put (live : s.Live i w) (other : (s.put i w').Live j v) :
    j = i ∧ v = w' ∨ j ≠ i ∧ s.Live j v := by
  obtain ⟨inside, -⟩ := List.getElem?_eq_some_iff.mp live
  by_cases same : j = i
  · subst same
    simp only [Live, put, List.getElem?_set_self inside, Option.some.injEq] at other
    exact .inl ⟨rfl, other.symm⟩
  · simp only [Live, put, List.getElem?_set_ne (Ne.symm same)] at other
    exact .inr ⟨same, other⟩

omit [DecidableEq Digest] in
theorem live_drop (other : (s.drop i).Live j v) : j ≠ i ∧ s.Live j v := by
  by_cases same : j = i
  · subst same
    simp only [Live, drop, List.getElem?_set] at other
    split_ifs at other <;> simp at other
  · simp only [Live, drop, List.getElem?_set_ne (Ne.symm same)] at other
    exact ⟨same, other⟩

omit [DecidableEq Digest] in
theorem live_begin {todo : List Delivery} (other : (s.begin todo).Live j v) :
    s.Live j v ∨ v = ⟨.ready, todo, .empty⟩ ∧ s.workers.length ≤ j := by
  simp only [Live, begin, List.getElem?_append] at other
  split_ifs at other with inside
  · exact .inl other
  · right
    refine ⟨?_, not_lt.mp inside⟩
    rw [List.getElem?_singleton] at other
    split_ifs at other
    simpa using other.symm

theorem free_of_busy {key : RecordKey Digest} (free : s.busy i key = false) (apart : j ≠ i)
    (live : s.Live j v) : ∀ record ∈ v.writes.tables.records, record.key ≠ key := by
  intro record member same
  have inside : (some v, j) ∈ s.workers.zipIdx := List.mem_zipIdx_iff_getElem?.mpr live
  apply List.any_eq_false.mp free _ inside
  simp only [Bool.and_eq_true, bne_iff_ne, List.any_eq_true, decide_eq_true_eq]
  exact ⟨apart, record, member, same⟩

end System

/-! ## Isolation -/

structure System.Isolated (kernel : Kernel Digest) (s : System Digest) : Prop where
  committed : s.committed.tables.Guarded kernel
  views : ∀ i w, s.Live i w → (s.committed.join w.writes).tables.Guarded kernel
  apart : ∀ i j w v, i ≠ j → s.Live i w → s.Live j v →
    ∀ a ∈ w.writes.tables.records, ∀ b ∈ v.writes.tables.records, a.key ≠ b.key

omit [DecidableEq Digest] in
theorem emit_tables (base : TenantState Digest) (output : RatedObligationOutputV1) :
    (base.emit output).tables = base.tables := by
  unfold TenantState.emit
  split <;> rfl

omit [DecidableEq Digest] in
theorem emit_obligations (base : TenantState Digest) (output : RatedObligationOutputV1) :
    (base.emit output).obligations = base.obligations := by
  unfold TenantState.emit
  split <;> rfl

omit [DecidableEq Digest] in
theorem emit_acknowledgements (base : TenantState Digest) (output : RatedObligationOutputV1) :
    (base.emit output).acknowledgements = base.acknowledgements := by
  unfold TenantState.emit
  split <;> rfl

theorem Worker.Moves.guarded {base : TenantState Digest} {w w' : Worker Digest}
    (moves : Worker.Moves kernel t base w w')
    (guarded : (base.join w.writes).tables.Guarded kernel) :
    (base.join w'.writes).tables.Guarded kernel := by
  cases moves with
  | refusing idle queued made => exact guarded
  | charged idle queued made names accepted grown recorded => exact guarded
  | appended stage row_for key unspent =>
      rename_i delivery fact outcome next row name
      have grown := guarded.snoc row name unspent
      simpa only [TenantState.join, List.append_assoc] using grown
  | replayed stage row_for spent => exact guarded
  | acknowledged settled => exact guarded

theorem System.Isolated.step {s s' : System Digest} {event : Event} (isolated : s.Isolated kernel)
    (moved : s.Moved kernel t event s') : s'.Isolated kernel := by
  cases moved with
  | emitted output =>
      refine ⟨?_, ?_, isolated.apart⟩
      · simpa only [emit_tables] using isolated.committed
      · intro i w live
        simpa only [TenantState.join, emit_tables] using isolated.views i w live
  | begun todo source =>
      refine ⟨isolated.committed, ?_, ?_⟩
      · intro i w live
        rcases System.live_begin live with known | ⟨rfl, -⟩
        · exact isolated.views i w known
        · have view : s.committed.join .empty = s.committed := s.committed.join_empty
          change (s.committed.join .empty).tables.Guarded kernel
          rw [view]
          exact isolated.committed
      · intro i j w v differ liveI liveJ a memberA b memberB
        rcases System.live_begin liveI with knownI | ⟨rfl, -⟩
        · rcases System.live_begin liveJ with knownJ | ⟨rfl, -⟩
          · exact isolated.apart i j w v differ knownI knownJ a memberA b memberB
          · cases memberB
        · cases memberA
  | dropped i =>
      refine ⟨isolated.committed, ?_, ?_⟩
      · intro j v live
        exact isolated.views j v (System.live_drop live).2
      · intro j k v u differ liveJ liveK
        exact isolated.apart j k v u differ (System.live_drop liveJ).2 (System.live_drop liveK).2
  | advanced live moves free =>
      rename_i i w w'
      have own : ∀ j v, j ≠ i → s.Live j v → ∀ a ∈ w'.writes.tables.records,
          ∀ b ∈ v.writes.tables.records, a.key ≠ b.key := by
        intro j v differ liveJ a memberA b memberB
        rcases free a memberA with earlier | unheld
        · exact isolated.apart i j w v differ.symm live liveJ a earlier b memberB
        · exact (System.free_of_busy unheld differ liveJ b memberB).symm
      refine ⟨isolated.committed, ?_, ?_⟩
      · intro j v liveJ
        rcases System.live_put live liveJ with ⟨rfl, rfl⟩ | ⟨-, known⟩
        · exact moves.guarded (isolated.views _ w live)
        · exact isolated.views j v known
      · intro j k v u differ liveJ liveK a memberA b memberB
        rcases System.live_put live liveJ with ⟨rfl, rfl⟩ | ⟨apartJ, knownJ⟩
        · rcases System.live_put live liveK with ⟨rfl, rfl⟩ | ⟨apartK, knownK⟩
          · exact absurd rfl differ
          · exact own k u apartK knownK a memberA b memberB
        · rcases System.live_put live liveK with ⟨rfl, rfl⟩ | ⟨apartK, knownK⟩
          · exact (own j v apartJ knownJ b memberB a memberA).symm
          · exact isolated.apart j k v u differ knownJ knownK a memberA b memberB
  | committed live =>
      rename_i i writes
      refine ⟨isolated.views i _ live, ?_, ?_⟩
      · intro j v liveJ
        obtain ⟨differ, known⟩ := System.live_drop (s := s) liveJ
        exact isolated.committed.merge (isolated.views i _ live) (isolated.views j v known)
          (isolated.apart i j _ v differ.symm live known)
      · intro j k v u differ liveJ liveK
        exact isolated.apart j k v u differ (System.live_drop (s := s) liveJ).2
          (System.live_drop (s := s) liveK).2

theorem reaches_isolated {meets : System Digest → Event → Prop} {s : System Digest}
    (reached : System.Reaches kernel t meets s) : s.Isolated kernel := by
  induction reached with
  | start =>
      refine ⟨Guarded.empty, ?_, ?_⟩
      · intro i w live
        simp [System.Live, System.empty] at live
      · intro i j w v _ live
        simp [System.Live, System.empty] at live
  | next reached met moved ih => exact ih.step (step_cases moved)

/-! ## Invariants of a worker and its committed state -/

/-- An invariant of the committed state and of each worker over it, kept by every kind
    of step that meets the condition. -/
structure Inductive (kernel : Kernel Digest) (t : UUID) (meets : System Digest → Event → Prop)
    (Committed : TenantState Digest → Prop) (Open : TenantState Digest → Worker Digest → Prop) :
    Prop where
  start : Committed .empty
  emit : ∀ base output, Committed base → Committed (base.emit output)
  emitOpen : ∀ base output w, Open base w → Open (base.emit output) w
  begin : ∀ s event todo, meets s event → (event = .deliver todo ∨ ∃ terms limit,
      event = .drain terms limit ∧
      todo = (s.committed.unacknowledgedOutputs limit).map (fun output => ⟨terms, output⟩)) →
    Open s.committed ⟨.ready, todo, .empty⟩
  advance : ∀ s i w w', System.Reaches kernel t meets s → meets s (.advance i) → s.Live i w →
    Open s.committed w → Worker.Moves kernel t s.committed w w' → Open s.committed w'
  commit : ∀ base writes, Committed base → Open base ⟨.ready, [], writes⟩ →
    Committed (base.join writes)
  commitOpen : ∀ base writes w, Open base w → Open (base.join writes) w

theorem Inductive.holds {meets : System Digest → Event → Prop} {Committed : TenantState Digest → Prop}
    {Open : TenantState Digest → Worker Digest → Prop}
    (keeps : Inductive kernel t meets Committed Open) {s : System Digest}
    (reached : System.Reaches kernel t meets s) :
    Committed s.committed ∧ ∀ i w, s.Live i w → Open s.committed w := by
  induction reached with
  | start =>
      refine ⟨keeps.start, ?_⟩
      intro i w live
      simp [System.Live, System.empty] at live
  | next reached met moved ih =>
      rename_i before after event
      obtain ⟨committed, workers⟩ := ih
      cases step_cases moved with
      | emitted output =>
          exact ⟨keeps.emit _ output committed,
            fun i w live => keeps.emitOpen _ output w (workers i w live)⟩
      | begun todo source =>
          refine ⟨committed, ?_⟩
          intro i w live
          rcases System.live_begin live with known | ⟨rfl, -⟩
          · exact workers i w known
          · exact keeps.begin before event todo met source
      | dropped i => exact ⟨committed, fun j v live => workers j v (System.live_drop live).2⟩
      | advanced live moves free =>
          rename_i i w w'
          refine ⟨committed, ?_⟩
          intro j v liveJ
          rcases System.live_put live liveJ with ⟨rfl, rfl⟩ | ⟨-, known⟩
          · exact keeps.advance before _ w _ reached met live (workers _ w live) moves
          · exact workers j v known
      | committed live =>
          rename_i i writes
          refine ⟨keeps.commit _ writes committed (workers i _ live), ?_⟩
          intro j v liveJ
          exact keeps.commitOpen _ writes v (workers j v (System.live_drop liveJ).2)

end Isolation

end DotmacCloud
