import DotmacCloud.HandOffEffects
import DotmacCloud.LedgerLookup

/-! # Histories of drains

One tenant's committed state, over any sequence of emissions and drains. A drain
brings its own terms and limit, and ends in a commit or not; one that raises never
commits. `Sound` is what every such state satisfies.
-/

namespace DotmacCloud

open Foundation AtMostOnce AdapterReceiptRow

inductive DrainEvent where
  | emit (output : RatedObligationOutputV1)
  | drain (terms : Terms) (limit : Nat) (commits : Bool)

variable {Digest : Type}

/-- Re-rating an occurrence advances its generation. -/
def TenantState.emit (db : TenantState Digest) (output : RatedObligationOutputV1) :
    TenantState Digest :=
  if ∀ known ∈ db.outputs, known.occurrenceId = output.occurrenceId →
      known.generation < output.generation then
    { db with outputs := db.outputs ++ [output] }
  else db

variable [DecidableEq Digest] (kernel : Kernel Digest) (t : UUID)

/-- A drain of the tenant, in its own session. -/
def TenantState.drain (db : TenantState Digest) (terms : Terms) (limit : Nat) :
    Except Raised (List ReceiptOutcome × TenantState Digest) :=
  drainRatedObligations kernel db ⟨t⟩ (.scoped t) terms limit

def TenantState.next (db : TenantState Digest) : DrainEvent → TenantState Digest
  | .emit output => db.emit output
  | .drain terms limit commits =>
      match db.drain kernel t terms limit with
      | .ok (_, db') => if commits then db' else db
      | .error _ => db

def drainHistory (events : List DrainEvent) : TenantState Digest :=
  events.foldl (TenantState.next kernel t) TenantState.empty

theorem drainHistory_append (before after : List DrainEvent) :
    drainHistory kernel t (before ++ after) =
      after.foldl (TenantState.next kernel t) (drainHistory kernel t before) := by
  simp only [drainHistory, List.foldl_append]

/-! ## What every history keeps -/

/-- The invariant of one tenant's committed state: the ledger is guarded, versions
    are not emitted twice, and every receipt is about an emitted output. -/
structure TenantState.Sound (db : TenantState Digest) : Prop where
  guarded : db.tables.Guarded kernel
  versions : (db.outputs.map RatedObligationOutputV1.version).Nodup
  written : Written db.tables.receipts
  fit : ∀ row ∈ db.tables.receipts, row.columnFault = none
  recorded : ∀ row ∈ db.tables.receipts, ∃ output ∈ db.outputs, ∃ outcome, RowFor t output outcome row

variable {kernel} {t}

omit [DecidableEq Digest] in
theorem TenantState.Sound.empty : (TenantState.empty : TenantState Digest).Sound kernel t where
  guarded := Guarded.empty
  versions := List.nodup_nil
  written := fun _ member => absurd member List.not_mem_nil
  fit := fun _ member => absurd member List.not_mem_nil
  recorded := fun _ member => absurd member List.not_mem_nil

omit [DecidableEq Digest] in
theorem TenantState.Sound.emit {db : TenantState Digest} (sound : db.Sound kernel t)
    (output : RatedObligationOutputV1) : (db.emit output).Sound kernel t := by
  unfold TenantState.emit
  split
  · rename_i newer
    refine ⟨sound.guarded, ?_, sound.written, sound.fit, ?_⟩
    · rw [List.map_append, List.nodup_append]
      refine ⟨sound.versions, List.nodup_singleton _, ?_⟩
      intro version earlier other single same
      obtain ⟨known, member, rfl⟩ := List.mem_map.mp earlier
      obtain rfl := List.mem_singleton.mp single
      simp only [RatedObligationOutputV1.version, FactVersion.mk.injEq] at same
      have older := newer known member same.1
      omega
    · intro row member
      obtain ⟨known, inside, outcome, row_for⟩ := sound.recorded row member
      exact ⟨known, List.mem_append_left _ inside, outcome, row_for⟩
  · exact sound

theorem HandedOff.outputs_eq {scope : TenantScope} {ledger : SqlAlchemyReceiptLedger} {terms : Terms}
    {db db' : TenantState Digest} {output : RatedObligationOutputV1} {outcome : ReceiptOutcome}
    (handed : HandedOff kernel scope ledger terms db output outcome db') : db'.outputs = db.outputs := by
  cases handed <;> rfl

/-- A hand-off of an emitted output appends a receipt about it. -/
theorem TenantState.Sound.handedOff {db db' : TenantState Digest} (sound : db.Sound kernel t)
    {scope : TenantScope} {terms : Terms} {output : RatedObligationOutputV1}
    (emitted : output ∈ db.outputs) {outcome : ReceiptOutcome}
    (handed : HandedOff kernel scope (.scoped t) terms db output outcome db') : db'.Sound kernel t := by
  obtain ⟨fact, instant, made, -, returned⟩ := handed.appended
  refine ⟨append_guarded sound.guarded returned, ?_, append_written sound.written returned, ?_, ?_⟩
  · rw [handed.outputs_eq]
    exact sound.versions
  · intro row inside
    rcases append_cases returned with ⟨-, fits, same⟩ | ⟨-, same⟩
    · rw [same] at inside
      rcases List.mem_append.mp inside with earlier | last
      · exact sound.fit row earlier
      · obtain rfl := List.mem_singleton.mp last
        exact fits
    · rw [same] at inside
      exact sound.fit row inside
  · intro row inside
    rw [handed.outputs_eq]
    rcases handed.row inside with before | row_for
    · exact sound.recorded row before
    · exact ⟨output, emitted, outcome, row_for⟩

/-! ## Growth -/

/-- Everything a state holds stands in a later one, at the same place. -/
structure TenantState.Extends (db db' : TenantState Digest) : Prop where
  outputs : db.outputs <+: db'.outputs
  acknowledgements : db.acknowledgements <+: db'.acknowledgements
  obligations : db.obligations <+: db'.obligations
  receipts : db.tables.receipts <+: db'.tables.receipts
  records : db.tables.records <+: db'.tables.records

omit [DecidableEq Digest] in
theorem TenantState.Extends.refl (db : TenantState Digest) : db.Extends db :=
  ⟨List.prefix_refl _, List.prefix_refl _, List.prefix_refl _, List.prefix_refl _, List.prefix_refl _⟩

omit [DecidableEq Digest] in
theorem TenantState.Extends.trans {a b c : TenantState Digest} (first : a.Extends b)
    (second : b.Extends c) : a.Extends c :=
  ⟨first.outputs.trans second.outputs, first.acknowledgements.trans second.acknowledgements,
    first.obligations.trans second.obligations, first.receipts.trans second.receipts,
    first.records.trans second.records⟩

theorem HandedOff.extends {scope : TenantScope} {ledger : SqlAlchemyReceiptLedger} {terms : Terms}
    {db db' : TenantState Digest} {output : RatedObligationOutputV1} {outcome : ReceiptOutcome}
    (handed : HandedOff kernel scope ledger terms db output outcome db') : db.Extends db' := by
  obtain ⟨fact, instant, -, -, returned⟩ := handed.appended
  obtain ⟨receipts, records⟩ := append_extends returned
  cases handed with
  | refused prepared refusal appended =>
      exact ⟨List.prefix_refl _, List.prefix_refl _, List.prefix_refl _, receipts, records⟩
  | applied prepared charged appended =>
      refine ⟨List.prefix_refl _, List.prefix_append _ _, ?_, receipts, records⟩
      rcases (charge_holds charged).1 with rfl | rfl
      · exact List.prefix_append _ _
      · exact List.prefix_refl _

theorem applyOutputs_extends {scope : TenantScope} {ledger : SqlAlchemyReceiptLedger} {terms : Terms}
    {outputs : List RatedObligationOutputV1} {db db' : TenantState Digest}
    {outcomes : List ReceiptOutcome}
    (returned : applyOutputs kernel scope ledger terms outputs db = .ok (outcomes, db')) :
    db.Extends db' :=
  applyOutputs_keeps (fun later => db.Extends later)
    (fun _ _ _ _ _ before handed => before.trans handed.extends) (.refl db) returned

theorem applyOutputs_sound {scope : TenantScope} {terms : Terms} {db db' : TenantState Digest}
    (sound : db.Sound kernel t) {outputs : List RatedObligationOutputV1}
    (recorded : ∀ output ∈ outputs, output ∈ db.outputs) {outcomes : List ReceiptOutcome}
    (returned : applyOutputs kernel scope (.scoped t) terms outputs db = .ok (outcomes, db')) :
    db'.Sound kernel t := by
  have both : db'.Sound kernel t ∧ db'.outputs = db.outputs := by
    refine applyOutputs_keeps (fun later => later.Sound kernel t ∧ later.outputs = db.outputs)
      ?_ ⟨sound, rfl⟩ returned
    intro output member middle outcome later before handed
    have inside : output ∈ middle.outputs := by
      rw [before.2]
      exact recorded output member
    exact ⟨before.1.handedOff inside handed, handed.outputs_eq.trans before.2⟩
  exact both.1

omit [DecidableEq Digest] in
theorem unacknowledged_recorded {db : TenantState Digest} {limit : Nat} :
    ∀ output ∈ db.unacknowledgedOutputs limit, output ∈ db.outputs := by
  intro output member
  exact List.mem_of_mem_filter (List.mem_of_mem_take member)

theorem TenantState.next_sound {db : TenantState Digest} (sound : db.Sound kernel t)
    (event : DrainEvent) : (db.next kernel t event).Sound kernel t := by
  cases event with
  | emit output => exact sound.emit output
  | drain terms limit commits =>
      simp only [TenantState.next]
      split
      · rename_i outcomes db' returned
        split
        · exact applyOutputs_sound sound unacknowledged_recorded returned
        · exact sound
      · exact sound

theorem TenantState.next_extends (db : TenantState Digest) (event : DrainEvent) :
    db.Extends (db.next kernel t event) := by
  cases event with
  | emit output =>
      simp only [TenantState.next, TenantState.emit]
      split
      · exact { TenantState.Extends.refl db with outputs := List.prefix_append _ _ }
      · exact .refl db
  | drain terms limit commits =>
      simp only [TenantState.next]
      split
      · rename_i outcomes db' returned
        split
        · exact applyOutputs_extends returned
        · exact .refl db
      · exact .refl db

variable (kernel t) in
theorem drainHistory_sound (events : List DrainEvent) : (drainHistory kernel t events).Sound kernel t := by
  induction events using List.reverseRecOn with
  | nil => exact .empty
  | append_singleton events event ih =>
      rw [drainHistory_append]
      exact TenantState.next_sound ih event

theorem foldl_next_extends (events : List DrainEvent) (db : TenantState Digest) :
    db.Extends (events.foldl (TenantState.next kernel t) db) := by
  induction events generalizing db with
  | nil => exact .refl db
  | cons event rest ih => exact (TenantState.next_extends db event).trans (ih _)

end DotmacCloud
