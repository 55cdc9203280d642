import DotmacCloud.Consistency

/-! # How often a version is charged

Billing is asked before the receipt is appended and outside the ledger's own
operation, so the ledger does not guard the charge: an append that replays has
already been charged for. Where no append replays, the charges of a version are
counted by its receipts, and the ledger keeps those to one.
-/

namespace DotmacCloud

open Foundation AtMostOnce AdapterReceiptRow

/-- An effect with no duplicate suppression of its own. -/
def Billing.Charges (billing : Billing) : Prop :=
  ∀ scope kinds held command held', billing.accept scope kinds held command = .ok held' →
    held' = held ++ [command]

/-- The transaction's calls all charge through such a Billing. -/
def Event.Charging : Event → Prop
  | .deliver todo => ∀ delivery ∈ todo, delivery.terms.billing.Charges
  | .drain terms _ => terms.billing.Charges
  | _ => True

def chargesOf (obligations : List AcceptRatedObligationV1) (version : FactVersion) : Nat :=
  obligations.countP (fun obligation => obligation.sourceFact = version.sourceFact)

def receiptsOf (t : UUID) (rows : List AdapterReceiptRow) (version : FactVersion) : Nat :=
  rows.countP (fun row => row.exactFact = version.exactFact t)

theorem chargesOf_append (a b : List AcceptRatedObligationV1) (version : FactVersion) :
    chargesOf (a ++ b) version = chargesOf a version + chargesOf b version := List.countP_append

theorem receiptsOf_append (t : UUID) (a b : List AdapterReceiptRow) (version : FactVersion) :
    receiptsOf t (a ++ b) version = receiptsOf t a version + receiptsOf t b version := List.countP_append

theorem chargesOf_command {command : AcceptRatedObligationV1} {known : FactVersion}
    (names : command.sourceFact = known.sourceFact) (version : FactVersion) :
    chargesOf [command] version = if version = known then 1 else 0 := by
  have same : command.sourceFact = version.sourceFact ↔ version = known := by
    rw [names]
    constructor
    · exact fun equal => (FactVersion.sourceFact_injective equal).symm
    · exact fun equal => congrArg FactVersion.sourceFact equal.symm
  simp only [chargesOf, List.countP_singleton, same, decide_eq_true_eq]

theorem receiptsOf_row {t : UUID} {output : RatedObligationOutputV1} {outcome : ReceiptOutcome}
    {row : AdapterReceiptRow} (row_for : RowFor t output outcome row) (version : FactVersion) :
    receiptsOf t [row] version = if version = output.version then 1 else 0 := by
  have same : row.exactFact = version.exactFact t ↔ version = output.version := by
    rw [row_for.exact]
    constructor
    · exact fun equal => (FactVersion.exactFact_injective equal).symm
    · exact fun equal => congrArg (FactVersion.exactFact t) equal.symm
  simp only [receiptsOf, List.countP_singleton, same, decide_eq_true_eq]

section Charging

variable {Digest : Type} [DecidableEq Digest] {kernel : Kernel Digest} {t : UUID}

/-- A charged worker about to append finds no applied receipt of its version. -/
def System.appendsFresh (t : UUID) (s : System Digest) : Event → Bool
  | .advance i =>
      match s.workers[i]? with
      | some (some w) =>
          match w.phase with
          | .charged delivery _ =>
              ¬ HasReceipt t (s.committed.join w.writes).tables.receipts delivery.output.version .applied
          | _ => true
      | _ => true
  | _ => true

omit [DecidableEq Digest] in
theorem appendsFresh_charged {s : System Digest} {i : Nat} {w : Worker Digest} (live : s.Live i w)
    (fresh : s.appendsFresh t (.advance i) = true) {delivery : Delivery} {fact : SourceFact}
    (phase : w.phase = .charged delivery fact) :
    ¬ HasReceipt t (s.committed.join w.writes).tables.receipts delivery.output.version .applied := by
  have found : s.workers[i]? = some (some w) := live
  simpa only [System.appendsFresh, found, phase, decide_eq_true_eq] using fresh

/-- One while the charge of the version waits for its receipt. -/
def Phase.awaiting (phase : Phase) (version : FactVersion) : Nat :=
  match phase with
  | .charged delivery _ => if version = delivery.output.version then 1 else 0
  | _ => 0

/-- A worker's charges are counted by its receipts, but for the one in flight. -/
structure Worker.Counted (t : UUID) (w : Worker Digest) : Prop where
  charging : ∀ delivery ∈ w.todo, delivery.terms.billing.Charges
  counted : ∀ version, chargesOf w.writes.obligations version ≤
    receiptsOf t w.writes.tables.receipts version + w.phase.awaiting version

theorem Worker.Counted.moves {s : System Digest} {i : Nat} {w w' : Worker Digest} (live : s.Live i w)
    (guarded : (s.committed.join w.writes).tables.Guarded kernel)
    (consistent : w.Consistent t s.committed) (fresh : s.appendsFresh t (.advance i) = true)
    (counted : w.Counted t) (moves : Worker.Moves kernel t s.committed w w') : w'.Counted t := by
  cases moves with
  | refusing idle queued made =>
      refine ⟨fun delivery member => counted.charging delivery (by simp [queued, member]), ?_⟩
      intro version
      simpa only [idle, Phase.awaiting] using counted.counted version
  | charged idle queued made names accepted grown recorded =>
      rename_i delivery rest fact command obligations more
      refine ⟨fun other member => counted.charging other (by simp [queued, member]), ?_⟩
      have appended := counted.charging delivery (by simp [queued]) _ _ _ _ _ accepted
      have single : more = [command] := List.append_cancel_left (grown.symm.trans appended)
      subst single
      intro version
      have before := counted.counted version
      simp only [idle, Phase.awaiting] at before
      simp only [chargesOf_append, chargesOf_command names, Phase.awaiting]
      omega
  | appended stage row_for key unspent =>
      rename_i delivery fact outcome next row name
      refine ⟨counted.charging, ?_⟩
      intro version
      have before := counted.counted version
      simp only [receiptsOf_append, receiptsOf_row (row_for (consistent.fact _ _ _ _ stage))]
      rcases stage.cases with ⟨phase, -, rfl⟩ | ⟨phase, -, rfl⟩
      · simp only [phase, Phase.awaiting] at before ⊢
        omega
      · simp only [phase, Phase.awaiting] at before ⊢
        omega
  | replayed stage row_for spent =>
      rename_i delivery fact outcome next row
      refine ⟨counted.charging, ?_⟩
      intro version
      have before := counted.counted version
      have here := replayed_row guarded (row_for (consistent.fact _ _ _ _ stage)) spent
      rcases stage.cases with ⟨phase, -, rfl⟩ | ⟨phase, rfl, rfl⟩
      · simpa only [phase, Phase.awaiting] using before
      · -- The replay of an applied receipt is what the condition rules out.
        exact absurd here (appendsFresh_charged live fresh phase)
  | acknowledged settled =>
      refine ⟨counted.charging, ?_⟩
      intro version
      simpa only [settled, Phase.awaiting] using counted.counted version

theorem counted_inductive :
    Inductive kernel t (fun s event => event.Charging ∧ s.appendsFresh t event = true)
      (fun base => ∀ version, chargesOf base.obligations version ≤
        receiptsOf t base.tables.receipts version)
      (fun _ w => w.Counted t) where
  start := fun version => le_refl _
  emit := by
    intro base output counted
    simpa only [emit_obligations, emit_tables] using counted
  emitOpen := fun _ _ _ counted => counted
  begin := by
    intro s event todo met source
    refine ⟨?_, fun version => Nat.zero_le _⟩
    intro delivery member
    rcases source with rfl | ⟨terms, limit, rfl, rfl⟩
    · exact met.1 delivery member
    · obtain ⟨output, -, rfl⟩ := List.mem_map.mp member
      exact met.1
  advance := by
    intro s i w w' reached met live counted moves
    exact counted.moves live ((reaches_isolated reached).views i w live)
      (((consistent_inductive _).holds reached).2 i w live) met.2 moves
  commit := by
    intro base writes committed counted version
    have own := counted.counted version
    have old := committed version
    simp only [Phase.awaiting] at own
    simp only [TenantState.join, chargesOf_append, receiptsOf_append]
    omega
  commitOpen := fun _ _ _ counted => counted

/-- In every run in which no append of an applied receipt meets one of the same
    version, the effect of each version is committed at most once. -/
theorem charged_at_most_once (kernel : Kernel Digest) (t : UUID) (s : System Digest)
    (reached : s.Reaches kernel t (fun s event => event.Charging ∧ s.appendsFresh t event = true))
    (version : FactVersion) : chargesOf s.committed.obligations version ≤ 1 := by
  have counted := (counted_inductive.holds reached).1 version
  have single := receipts_at_most_one (reaches_isolated reached).committed (version.exactFact t)
  rw [← List.countP_eq_length_filter] at single
  exact le_trans counted single

end Charging

/-! ## Two drains that read the same output -/

def chargingBilling : Billing :=
  { recordingBilling with
    accept := fun _ _ held command => .ok (held ++ [command])
    records := by
      intro scope kinds held command held' accepted
      exact .inl (Except.ok.inj accepted).symm }

theorem chargingBilling_charges : chargingBilling.Charges := by
  intro scope kinds held command held' accepted
  exact (Except.ok.inj accepted).symm

/-- A drain and a second transaction charge one output each, side by side; a third one has
    charged the first of them too, and is rolled back. -/
def chargedOnce : List Event :=
  let terms := linkedTo (some 9) chargingBilling
  [.emit (monthlyCharge 7 1), .emit (monthlyCharge 8 1), .drain terms 1,
    .deliver [⟨terms, monthlyCharge 8 1⟩], .drain terms 100,
    .advance 0, .advance 1, .advance 2, .advance 0, .advance 1, .rollback 2, .advance 1, .advance 0,
    .commit 1, .commit 0]

theorem charged_at_most_once_drain :
    ∃ s, System.run plainKernel 1 (System.appendsFresh 1) chargedOnce .empty = some s ∧
      s.committed.obligations.length = 2 ∧
      ∀ version, chargesOf s.committed.obligations version ≤ 1 := by
  have returns : (System.run plainKernel 1 (System.appendsFresh 1) chargedOnce .empty).map (fun s =>
      s.committed.obligations.length) = some 2 := by decide +kernel
  obtain ⟨s, ran, both⟩ := Option.map_eq_some_iff.mp returns
  have delivers : ∀ delivery ∈ [(⟨linkedTo (some 9) chargingBilling, monthlyCharge 8 1⟩ : Delivery)],
      delivery.terms.billing.Charges := by
    intro delivery listed
    rw [List.mem_singleton.mp listed]
    exact chargingBilling_charges
  have charging : ∀ event ∈ chargedOnce, event.Charging := by
    simp only [chargedOnce, List.forall_mem_cons]
    exact ⟨trivial, trivial, chargingBilling_charges, delivers, chargingBilling_charges, trivial, trivial,
      trivial, trivial, trivial, trivial, trivial, trivial, trivial, trivial, by simp⟩
  have reached := System.Reaches.run
    (fun _ event member fresh => (⟨charging event member, fresh⟩ : _ ∧ _)) .start ran
  exact ⟨s, ran, both, charged_at_most_once plainKernel 1 s reached⟩

/-- Both drains read the output before either committed; both charge it, the second
    one's receipt replays, and both commit. -/
theorem charged_twice :
    chargingBilling.Charges ∧
    ((System.run plainKernel 1 (fun _ _ => true)
      [.emit (monthlyCharge 7 1),
        .drain (linkedTo (some 9) chargingBilling) 100,
        .drain (linkedTo (some 9) chargingBilling) 100,
        .advance 0, .advance 1, .advance 0, .advance 0, .commit 0, .advance 1, .advance 1, .commit 1]
      .empty).map (fun s => chargesOf s.committed.obligations
        (monthlyCharge 7 1).version)) = some 2 :=
  ⟨chargingBilling_charges, by decide +kernel⟩

end DotmacCloud
