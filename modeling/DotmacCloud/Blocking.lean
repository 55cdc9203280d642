import DotmacCloud.Consistency
import DotmacCloud.LoneWorker
import DotmacCloud.Repair

/-! # A refusal that comes to be charged blocks its queue

A refusal stands for good, and the output stays offered until another generation of its
occurrence is applied. As long as it is offered, once its caller's terms no longer refuse
it, every drain that reads it raises on its receipt, so nothing of the queue is handed off
again, whatever is emitted and however often it is drained.
-/

namespace DotmacCloud

open Foundation AtMostOnce AdapterReceiptRow

/-- The terms link and translate the output, and Billing does not refuse its command. -/
def NeverRefuses (t : UUID) (terms : Terms) (output : RatedObligationOutputV1) : Prop :=
  ∀ fact command, prepare ⟨t⟩ terms output = .ok (fact, command) →
    ∃ c, command = some c ∧ ∀ held, charge ⟨t⟩ terms held c ≠ .ok none

section Blocking

variable {Digest : Type} [DecidableEq Digest] {kernel : Kernel Digest} {t : UUID} {terms : Terms}

/-- A drain that returned handed each of its outputs off, in some later state. -/
theorem applyOutputs_turn {outputs : List RatedObligationOutputV1} {db db' : TenantState Digest}
    {outcomes : List ReceiptOutcome} (sound : db.Sound kernel t)
    (emitted : ∀ output ∈ outputs, output ∈ db.outputs)
    (returned : applyOutputs kernel ⟨t⟩ (.scoped t) terms outputs db = .ok (outcomes, db'))
    {output : RatedObligationOutputV1} (member : output ∈ outputs) :
    ∃ (mid : TenantState Digest) (outcome : ReceiptOutcome) (next : TenantState Digest),
      mid.Sound kernel t ∧ db.Extends mid ∧ HandedOff kernel ⟨t⟩ (.scoped t) terms mid output outcome next := by
  induction outputs generalizing db outcomes with
  | nil => cases member
  | cons first rest ih =>
      obtain ⟨outcome, next, others, handed, ran, -⟩ := applyOutputs_cons_eq_ok.mp returned
      rcases List.mem_cons.mp member with rfl | later
      · exact ⟨db, outcome, next, sound, .refl db, handed⟩
      · have still : ∀ other ∈ rest, other ∈ next.outputs := by
          intro other inside
          rw [handed.outputs_eq]
          exact emitted other (List.mem_cons_of_mem _ inside)
        obtain ⟨mid, answer, after, kept, grown, turn⟩ :=
          ih (sound.handedOff (emitted first List.mem_cons_self) handed) still ran later
        exact ⟨mid, answer, after, kept, handed.extends.trans grown, turn⟩

/-- Terms that do not refuse an output hand it off only where no refusal is on record. -/
theorem HandedOff.unrefused {db db' : TenantState Digest} (sound : db.Sound kernel t)
    {output : RatedObligationOutputV1} {outcome : ReceiptOutcome} (never : NeverRefuses t terms output)
    (handed : HandedOff kernel ⟨t⟩ (.scoped t) terms db output outcome db') :
    ¬ HasReceipt t db.tables.receipts output.version .refused := by
  intro refused
  cases handed with
  | refused prepared refusal appended =>
      obtain ⟨c, rfl, accepts⟩ := never _ _ prepared
      exact accepts _ (refusal c rfl)
  | applied prepared charged appended =>
      obtain ⟨instant, aware, -⟩ := appendReceipt_eq_ok appended
      have conflict := appendReceipt_conflict sound refused instant (prepare_fact prepared)
      rw [aware, conflict] at appended
      cases appended

/-- A drain that reads the refused version raises. -/
theorem TenantState.Sound.blocked {db : TenantState Digest} (sound : db.Sound kernel t)
    {output : RatedObligationOutputV1} (refused : HasReceipt t db.tables.receipts output.version .refused)
    (never : NeverRefuses t terms output) {limit : Nat} (read : output ∈ db.unacknowledgedOutputs limit) :
    ∃ e, db.drain kernel t terms limit = .error e := by
  cases ran : db.drain kernel t terms limit with
  | error e => exact ⟨e, rfl⟩
  | ok result =>
      obtain ⟨outcomes, db'⟩ := result
      obtain ⟨mid, outcome, next, kept, grown, handed⟩ :=
        applyOutputs_turn sound unacknowledged_recorded ran read
      exact absurd (refused.mono (fun row member => grown.receipts.mem member)) (handed.unrefused kept never)

end Blocking

end DotmacCloud
