import DotmacCloud.Redelivery
import DotmacCloud.Repair
import DotmacCloud.Tenancy

/-! # What a reconciliation of the emitted facts reports

Receipts are about emitted outputs, and an exact version is emitted once. So whatever
sessions ran, a tenant that reconciles what was emitted for it against its ledger never
reads a divergence: a fact is missing, stale or settled by which generations of its
occurrence have receipts.
-/

namespace DotmacCloud

open Foundation AtMostOnce AdapterReceiptRow

/-- Every output a transaction is opened with was emitted. -/
def Emitted {Digest : Type} (db : TenantState Digest) (todo : List Delivery) : Prop :=
  ∀ delivery ∈ todo, delivery.output ∈ db.outputs

/-- A row written for one of the outputs. -/
def RowOf (t : UUID) (outputs : List RatedObligationOutputV1) (row : AdapterReceiptRow) : Prop :=
  ∃ output ∈ outputs, ∃ fact outcome instant, factOf output = .ok fact ∧
    row = fromReceipt t (receiptOf fact outcome instant)

/-- Some generation of the occurrence has a receipt. -/
def ReceiptedOccurrence (t : UUID) (rows : List AdapterReceiptRow) (occurrenceId : UUID) : Prop :=
  ∃ generation outcome, HasReceipt t rows ⟨occurrenceId, generation⟩ outcome

/-- The output's own generation, or a later one, has a receipt. -/
def CaughtUp (t : UUID) (rows : List AdapterReceiptRow) (output : RatedObligationOutputV1) : Prop :=
  ∃ generation outcome, output.generation ≤ generation ∧
    HasReceipt t rows ⟨output.occurrenceId, generation⟩ outcome

theorem RowOf.mono {t : UUID} {outputs outputs' : List RatedObligationOutputV1} {row : AdapterReceiptRow}
    (rowOf : RowOf t outputs row) (kept : ∀ output ∈ outputs, output ∈ outputs') : RowOf t outputs' row := by
  obtain ⟨output, member, content⟩ := rowOf
  exact ⟨output, kept output member, content⟩

/-- The row of an outcome is the row of its receipt. -/
theorem RowFor.eq {t : UUID} {output : RatedObligationOutputV1} {outcome : ReceiptOutcome}
    {row : AdapterReceiptRow} {fact : SourceFact} (row_for : RowFor t output outcome row)
    (made : factOf output = .ok fact) : row = fromReceipt t (receiptOf fact outcome row.observedAt) := by
  have built := rowFor_receiptOf made t outcome row.observedAt
  have exact := row_for.exact.trans built.exact.symm
  have print := row_for.print.trans built.print.symm
  have answer := row_for.outcome.trans built.outcome.symm
  cases row
  simp only [AdapterReceiptRow.exactFact, ExactFact.mk.injEq] at exact print answer
  simp only [exact, print, answer]
  rfl

/-! ## Where the rows come from -/

section Traced

variable {Digest : Type} {t : UUID}

structure TenantState.Traced (t : UUID) (db : TenantState Digest) : Prop where
  versions : (db.outputs.map RatedObligationOutputV1.version).Nodup
  rows : ∀ row ∈ db.tables.receipts, RowOf t db.outputs row

structure Worker.Traced (t : UUID) (base : TenantState Digest) (w : Worker Digest) : Prop where
  silent : w.writes.outputs = []
  queued : Emitted base w.todo
  staged : ∀ delivery fact outcome next, w.phase.Stage delivery fact outcome next →
    delivery.output ∈ base.outputs ∧ factOf delivery.output = .ok fact
  rows : ∀ row ∈ w.writes.tables.receipts, RowOf t base.outputs row

theorem Worker.Traced.mono {base base' : TenantState Digest} {w : Worker Digest} (traced : w.Traced t base)
    (kept : ∀ output ∈ base.outputs, output ∈ base'.outputs) : w.Traced t base' where
  silent := traced.silent
  queued := fun delivery member => kept _ (traced.queued delivery member)
  staged := by
    intro delivery fact outcome next stage
    obtain ⟨emitted, made⟩ := traced.staged delivery fact outcome next stage
    exact ⟨kept _ emitted, made⟩
  rows := fun row member => (traced.rows row member).mono kept

theorem emit_outputs (base : TenantState Digest) (output : RatedObligationOutputV1) :
    ∀ known ∈ base.outputs, known ∈ (base.emit output).outputs := by
  intro known member
  unfold TenantState.emit
  split
  · exact List.mem_append_left _ member
  · exact member

theorem emit_versions {db : TenantState Digest} (kernel : Kernel Digest)
    (versions : (db.outputs.map RatedObligationOutputV1.version).Nodup) (output : RatedObligationOutputV1) :
    ((db.emit output).outputs.map RatedObligationOutputV1.version).Nodup := by
  let bare : TenantState Digest := { db with tables := .empty }
  have sound : bare.Sound kernel 0 := ⟨Guarded.empty, versions, fun _ member => absurd member List.not_mem_nil,
    fun _ member => absurd member List.not_mem_nil, fun _ member => absurd member List.not_mem_nil⟩
  have same : (db.emit output).outputs = (bare.emit output).outputs := by
    simp only [TenantState.emit, bare]
    split_ifs <;> rfl
  rw [same]
  exact (sound.emit output).versions

variable [DecidableEq Digest] {kernel : Kernel Digest}

theorem Worker.Traced.moves {base : TenantState Digest} {w w' : Worker Digest} (traced : w.Traced t base)
    (moves : Worker.Moves kernel t base w w') : w'.Traced t base := by
  cases moves with
  | refusing idle queued made =>
      rename_i delivery rest fact
      have inside := traced.queued
      rw [queued] at inside
      refine ⟨traced.silent, fun other member => inside other (List.mem_cons_of_mem _ member), ?_, traced.rows⟩
      intro delivery fact outcome next stage
      cases stage
      exact ⟨inside _ List.mem_cons_self, made⟩
  | charged idle queued made names accepted grown recorded =>
      have inside := traced.queued
      rw [queued] at inside
      refine ⟨traced.silent, fun other member => inside other (List.mem_cons_of_mem _ member), ?_, traced.rows⟩
      intro delivery fact outcome next stage
      cases stage
      exact ⟨inside _ List.mem_cons_self, made⟩
  | appended stage row_for key unspent =>
      obtain ⟨emitted, made⟩ := traced.staged _ _ _ _ stage
      refine ⟨traced.silent, traced.queued, ?_, ?_⟩
      · intro delivery fact outcome next later
        rcases stage.cases with ⟨-, -, rfl⟩ | ⟨-, -, rfl⟩ <;> cases later
      · intro row member
        rcases List.mem_append.mp member with old | new
        · exact traced.rows row old
        · obtain rfl := List.mem_singleton.mp new
          exact ⟨_, emitted, _, _, _, made, (row_for made).eq made⟩
  | replayed stage row_for spent =>
      refine ⟨traced.silent, traced.queued, ?_, traced.rows⟩
      intro delivery fact outcome next later
      rcases stage.cases with ⟨-, -, rfl⟩ | ⟨-, -, rfl⟩ <;> cases later
  | acknowledged settled =>
      refine ⟨traced.silent, traced.queued, ?_, traced.rows⟩
      intro delivery fact outcome next later
      cases later

theorem traced_inductive :
    Inductive kernel t (System.Opens Emitted) (TenantState.Traced t) (fun base w => w.Traced t base) where
  start := ⟨List.nodup_nil, fun _ member => absurd member List.not_mem_nil⟩
  emit := by
    intro base output traced
    refine ⟨emit_versions kernel traced.versions output, ?_⟩
    rw [emit_tables]
    exact fun row member => (traced.rows row member).mono (emit_outputs base output)
  emitOpen := fun base output w traced => traced.mono (emit_outputs base output)
  begin := by
    intro s event todo met source
    have read : Emitted s.committed todo := by
      rcases source with rfl | ⟨terms, limit, rfl, rfl⟩
      · exact fun delivery member => met (List.ne_nil_of_mem member) delivery member
      · intro delivery member
        obtain ⟨output, inside, rfl⟩ := List.mem_map.mp member
        exact unacknowledged_recorded output inside
    refine ⟨rfl, read, ?_, fun _ member => absurd member List.not_mem_nil⟩
    intro delivery fact outcome next stage
    cases stage
  advance := fun _ _ _ _ _ _ _ traced moves => traced.moves moves
  commit := by
    intro base writes traced opened
    have same : (base.join writes).outputs = base.outputs := by
      simp only [TenantState.join, show writes.outputs = [] from opened.silent, List.append_nil]
    refine ⟨by rw [same]; exact traced.versions, ?_⟩
    intro row member
    rw [same]
    rcases List.mem_append.mp member with old | own
    · exact traced.rows row old
    · exact opened.rows row own
  commitOpen := fun _ _ _ traced => traced.mono (fun _ member => List.mem_append_left _ member)

end Traced

/-! ## Reading the receipts back -/

section Lookup

variable {t : UUID} {outputs : List RatedObligationOutputV1} {rows : List AdapterReceiptRow}
  {received : List AdapterReceipt} {keys : List FactKey} {output : RatedObligationOutputV1}
  {fact : SourceFact}

theorem written_of_rowOf (rowOf : ∀ row ∈ rows, RowOf t outputs row) : Written rows := by
  intro row member
  obtain ⟨output, -, fact, outcome, instant, -, rfl⟩ := rowOf row member
  exact ⟨_, rfl⟩

/-- What a lookup of this adapter's receipts under the keys returned. -/
def ReadBack (t : UUID) (rows : List AdapterReceiptRow) (keys : List FactKey) (received : List AdapterReceipt) :
    Prop :=
  ∀ receipt, receipt ∈ received ↔
    fromReceipt t receipt ∈ rows ∧ receipt.adapter = adapterName ∧ receipt.fact.key ∈ keys

/-- A receipt under an output's key is about a generation of its occurrence, with the
    content that was emitted. -/
theorem ReadBack.emitted (read : ReadBack t rows keys received) (rowOf : ∀ row ∈ rows, RowOf t outputs row)
    (made : factOf output = .ok fact) {receipt : AdapterReceipt} (member : receipt ∈ received)
    (key : receipt.fact.key = fact.key) :
    ∃ known ∈ outputs, known.version = ⟨output.occurrenceId, receipt.fact.sourceVersion⟩ ∧
      receipt.fact.fingerprint = known.requestFingerprint ∧
      HasReceipt t rows ⟨output.occurrenceId, receipt.fact.sourceVersion⟩ receipt.outcome := by
  have inside := ((read receipt).mp member).1
  obtain ⟨known, emitted, knownFact, outcome, instant, built, same⟩ := rowOf _ inside
  obtain rfl := fromReceipt_injective same
  obtain ⟨-, ref, version, print⟩ := factOf_eq_ok built
  have occurrence : known.occurrenceId = output.occurrenceId := by
    apply UUID.str_injective
    rw [← ref, ← (factOf_eq_ok made).2.1]
    exact congrArg FactKey.sourceRef key
  have named : known.version = ⟨output.occurrenceId, knownFact.sourceVersion⟩ := by
    simp only [RatedObligationOutputV1.version, occurrence, version]
  refine ⟨known, emitted, named, print, ?_⟩
  have has := (rowFor_receiptOf built t outcome instant).hasReceipt inside
  rw [named] at has
  exact has

/-- Every receipt of the occurrence is read. -/
theorem ReadBack.listed (read : ReadBack t rows keys received) (rowOf : ∀ row ∈ rows, RowOf t outputs row)
    (made : factOf output = .ok fact) (asked : fact.key ∈ keys) {generation : Int} {outcome : ReceiptOutcome}
    (has : HasReceipt t rows ⟨output.occurrenceId, generation⟩ outcome) :
    ∃ receipt ∈ received, receipt.fact.key = fact.key ∧ receipt.fact.sourceVersion = generation := by
  obtain ⟨row, member, exact, -⟩ := has
  obtain ⟨known, -, knownFact, outcome', instant, built, rfl⟩ := rowOf row member
  have version := (rowFor_receiptOf built t outcome' instant).exact.symm.trans exact
  obtain ⟨occurrence, named⟩ := FactVersion.mk.inj (FactVersion.exactFact_injective version)
  obtain ⟨owner, ref, knownVersion, -⟩ := factOf_eq_ok built
  obtain ⟨owner', ref', -, -⟩ := factOf_eq_ok made
  have key : knownFact.key = fact.key := by
    apply FactKey.ext (owner.trans owner'.symm)
    rw [ref, ref', occurrence]
  refine ⟨receiptOf knownFact outcome' instant, ?_, key, knownVersion.trans named⟩
  rw [read]
  refine ⟨member, rfl, ?_⟩
  have same : (receiptOf knownFact outcome' instant).fact.key = fact.key := key
  rw [same]
  exact asked

theorem ReadBack.missing_iff (read : ReadBack t rows keys received) (rowOf : ∀ row ∈ rows, RowOf t outputs row)
    (made : factOf output = .ok fact) (asked : fact.key ∈ keys) :
    latestByKey received fact.key = none ↔ ¬ ReceiptedOccurrence t rows output.occurrenceId := by
  rw [latestByKey, Newest.newest_none_iff]
  constructor
  · rintro none ⟨generation, outcome, has⟩
    obtain ⟨receipt, member, key, -⟩ := read.listed rowOf made asked has
    exact none receipt member key
  · intro nothing receipt member key
    obtain ⟨-, -, -, -, has⟩ := read.emitted rowOf made member key
    exact nothing ⟨_, _, has⟩

/-- Content never disagrees: an exact version was emitted once. -/
theorem ReadBack.agrees (read : ReadBack t rows keys received) (rowOf : ∀ row ∈ rows, RowOf t outputs row)
    (versions : (outputs.map RatedObligationOutputV1.version).Nodup) (emitted : output ∈ outputs)
    (made : factOf output = .ok fact) {kept : AdapterReceipt} (found : latestByKey received fact.key = some kept)
    (version : kept.fact.sourceVersion = fact.sourceVersion) : kept.fact.fingerprint = fact.fingerprint := by
  obtain ⟨member, key, -⟩ := Newest.newest_spec found
  obtain ⟨known, inside, named, print, -⟩ := read.emitted rowOf made member key
  obtain ⟨-, -, generation, content⟩ := factOf_eq_ok made
  have same : known = output := by
    apply List.inj_on_of_nodup_map versions inside emitted
    rw [named, version, generation]
    rfl
  rw [print, same, content]

theorem ReadBack.settled_iff (read : ReadBack t rows keys received) (rowOf : ∀ row ∈ rows, RowOf t outputs row)
    (versions : (outputs.map RatedObligationOutputV1.version).Nodup) (emitted : output ∈ outputs)
    (made : factOf output = .ok fact) (asked : fact.key ∈ keys) :
    factVerdict fact (latestByKey received fact.key) = .settled ↔ CaughtUp t rows output := by
  have generation := (factOf_eq_ok made).2.2.1
  rw [factVerdict_eq_settled]
  constructor
  · rintro ⟨kept, found, answered⟩
    obtain ⟨member, key, -⟩ := Newest.newest_spec found
    obtain ⟨-, -, -, -, has⟩ := read.emitted rowOf made member key
    refine ⟨_, _, ?_, has⟩
    unfold Answered at answered
    omega
  · rintro ⟨later, outcome, atLeast, has⟩
    obtain ⟨receipt, member, key, version⟩ := read.listed rowOf made asked has
    obtain ⟨kept, found⟩ := Newest.newest_isSome (fun known : AdapterReceipt => known.fact.key)
      (fun known => known.fact.sourceVersion) member
    have bound := (Newest.newest_spec found).2.2 receipt member rfl
    simp only [key] at found
    refine ⟨kept, found, ?_⟩
    by_cases level : kept.fact.sourceVersion = fact.sourceVersion
    · exact .inr ⟨level, read.agrees rowOf versions emitted made found level⟩
    · left
      omega

/-! ## The report -/

/-- The report of a published list by which generations have receipts. -/
structure Reports (t : UUID) (rows : List AdapterReceiptRow) (outputs : List RatedObligationOutputV1)
    (published : List SourceFact) (report : ReconciliationReport) : Prop where
  agrees : report.divergent = []
  missing : ∀ output ∈ outputs, ∀ fact ∈ published, factOf output = .ok fact →
    (fact ∈ report.missing ↔ ¬ ReceiptedOccurrence t rows output.occurrenceId)
  stale : ∀ output ∈ outputs, ∀ fact ∈ published, factOf output = .ok fact →
    ((∃ entry ∈ report.stale, entry.key = fact.key ∧ entry.publishedVersion = fact.sourceVersion) ↔
      ReceiptedOccurrence t rows output.occurrenceId ∧ ¬ CaughtUp t rows output)
  converged : report.converged ↔ ∀ output ∈ outputs, ∀ fact ∈ published, factOf output = .ok fact →
    CaughtUp t rows output

theorem ReadBack.reports (read : ReadBack t rows keys received) (rowOf : ∀ row ∈ rows, RowOf t outputs row)
    (versions : (outputs.map RatedObligationOutputV1.version).Nodup) {published : List SourceFact}
    (emitted : ∀ fact ∈ published, ∃ output ∈ outputs, factOf output = .ok fact)
    (requested : ∀ fact ∈ published, fact.key ∈ keys) :
    Reports t rows outputs published (reconcile published received) where
  agrees := by
    rw [reconcile_eq]
    simp only [buckets, divergentEntry_factVerdict, List.filterMap_eq_nil_iff]
    intro fact listed
    obtain ⟨output, inside, made⟩ := emitted fact listed
    cases found : latestByKey received fact.key with
    | none => rfl
    | some kept =>
        rw [Option.bind_some, if_neg]
        rintro ⟨level, differs⟩
        exact differs (read.agrees rowOf versions inside made found level)
  missing := by
    intro output inside fact listed made
    rw [← read.missing_iff rowOf made (requested fact listed)]
    exact mem_repairable_iff listed
  stale := by
    intro output inside fact listed made
    have missing := read.missing_iff rowOf made (requested fact listed)
    have settled := read.settled_iff rowOf versions inside made (requested fact listed)
    rw [stale_entry_iff listed]
    constructor
    · rintro ⟨kept, found, older⟩
      constructor
      · by_contra nothing
        rw [missing.mpr nothing] at found
        cases found
      · intro caught
        obtain ⟨newest, same, answered⟩ := factVerdict_eq_settled.mp (settled.mpr caught)
        obtain rfl := Option.some.inj (found.symm.trans same)
        unfold Answered at answered
        omega
    · rintro ⟨known, behind⟩
      cases found : latestByKey received fact.key with
      | none => exact absurd known (missing.mp found)
      | some kept =>
          refine ⟨kept, rfl, ?_⟩
          by_contra notOlder
          apply behind
          refine settled.mp (factVerdict_eq_settled.mpr ⟨kept, found, ?_⟩)
          by_cases level : kept.fact.sourceVersion = fact.sourceVersion
          · exact .inr ⟨level, read.agrees rowOf versions inside made found level⟩
          · left
            omega
  converged := by
    rw [converged_iff]
    constructor
    · intro all output inside fact listed made
      exact (read.settled_iff rowOf versions inside made (requested fact listed)).mp (all fact listed)
    · intro all fact listed
      obtain ⟨output, inside, made⟩ := emitted fact listed
      exact (read.settled_iff rowOf versions inside made (requested fact listed)).mpr
        (all output inside fact listed made)

end Lookup

/-! ## In any interleaving -/

section Runs

variable {Digest : Type} [DecidableEq Digest]

/-- A session's lookup on the shared table reads the tenant's own rows. -/
theorem read_back {t : UUID} {rows shared : List AdapterReceiptRow} {outputs : List RatedObligationOutputV1}
    (own : ofTenant t shared = rows) (rowOf : ∀ row ∈ rows, RowOf t outputs row) (orderBy : OrderBy)
    (keys : List FactKey) :
    ∃ received, (SqlAlchemyReceiptLedger.scoped t).receiptsFor orderBy shared adapterName keys = .ok received ∧
      ReadBack t rows keys received := by
  have same : ofTenant t shared = ofTenant t rows := by rw [← own, ofTenant_ofTenant]
  obtain ⟨received, read, content, -⟩ := receiptsFor_spec (written_of_rowOf rowOf) t orderBy
    adapterName_text keys
  refine ⟨received, ?_, content⟩
  rw [← read]
  exact receiptsFor_congr shared rows same orderBy t adapterName keys

/-- Whatever sessions of whatever tenants did, a tenant that reconciles what was emitted
    for it reads no divergence; a fact is missing exactly where no generation of its
    occurrence has a receipt, so never once it is acknowledged; it is stale exactly
    where only older ones have; and the report converges exactly where each published
    output, or a later generation, has a receipt. -/
theorem emitted_reconciled (kernel : Kernel Digest) (s : SharedSystem Digest)
    (t : UUID) (reached : s.Reaches kernel (SharedSystem.Opens t Emitted)) (orderBy : OrderBy)
    (published : List SourceFact) (keys : List FactKey)
    (emitted : ∀ fact ∈ published, ∃ output ∈ owned t s.committed.outputs, factOf output = .ok fact)
    (requested : ∀ fact ∈ published, fact.key ∈ keys) :
    ∃ received, (SqlAlchemyReceiptLedger.scoped t).receiptsFor orderBy s.committed.tables.receipts
        adapterName keys = .ok received ∧
      Reports t (ofTenant t s.committed.tables.receipts) (owned t s.committed.outputs) published
        (reconcile published received) ∧
      ∀ entry ∈ owned t s.committed.acknowledgements, ∀ output ∈ owned t s.committed.outputs,
        entry.version = output.version → ∀ fact, factOf output = .ok fact →
          fact ∉ (reconcile published received).missing := by
  have part := reached.part
  obtain ⟨traced, -⟩ := traced_inductive.holds part
  obtain ⟨consistent, -⟩ := (consistent_inductive _).holds part
  obtain ⟨received, read, back⟩ := read_back rfl traced.rows orderBy keys
  have reports := back.reports traced.rows traced.versions emitted requested
  refine ⟨received, read, reports, ?_⟩
  intro entry acknowledged output inside same fact made missing
  have listed : fact ∈ published := by
    rw [reconcile_eq] at missing
    exact List.mem_of_mem_filter missing
  obtain ⟨generation, has⟩ := consistent.acknowledged entry acknowledged
  rw [same] at has
  exact (reports.missing output inside fact listed made).mp missing ⟨generation, _, has⟩

end Runs

/-- One of two charges is drained, and then revised; the other tenant's session charges
    the second one for its own tenant, where it was never emitted. -/
def twoBacklogs : List SharedEvent :=
  let terms := linkedTo (some 9) recordingBilling
  [.emit 1 (monthlyCharge 7 1), .emit 1 (monthlyCharge 8 1),
    .drain 1 terms ⟨1⟩ 1 1, .deliver 2 [⟨terms, ⟨2⟩, 2, monthlyCharge 8 1⟩],
    .advance 0, .advance 1, .advance 0, .advance 1, .advance 0, .advance 1, .commit 1, .commit 0,
    .emit 1 (monthlyCharge 7 2)]

theorem HasReceipt.named {t : UUID} {rows : List AdapterReceiptRow} {version : FactVersion}
    {outcome : ReceiptOutcome} (has : HasReceipt t rows version outcome) :
    (version.occurrenceId.str, version.generation) ∈ rows.map (fun row => (row.sourceRef, row.sourceVersion)) := by
  obtain ⟨row, member, exact, -⟩ := has
  simp only [AdapterReceiptRow.exactFact, FactVersion.exactFact, ExactFact.mk.injEq] at exact
  obtain ⟨-, -, -, ref, version⟩ := exact
  exact List.mem_map.mpr ⟨row, member, by rw [ref, version]⟩

/-- The revised charge is stale and the second one missing, whatever the other tenant has. -/
theorem emitted_reconciled_charge :
    ∃ s revised second, SharedSystem.run plainKernel twoBacklogs .empty = some s ∧
      factOf (monthlyCharge 7 2) = .ok revised ∧ factOf (monthlyCharge 8 1) = .ok second ∧
      ∃ received, (SqlAlchemyReceiptLedger.scoped 1).receiptsFor ⟨id, fun _ => List.Perm.refl _⟩
          s.committed.tables.receipts adapterName [revised.key, second.key] = .ok received ∧
        (reconcile [revised, second] received).divergent = [] ∧
        second ∈ (reconcile [revised, second] received).missing ∧
        ∃ entry ∈ (reconcile [revised, second] received).stale, entry.key = revised.key := by
  obtain ⟨revised, made, -⟩ := (monthlyCharge_storable 7 2 (by decide) (by decide)).fact
  obtain ⟨second, made', -⟩ := (monthlyCharge_storable 8 1 (by decide) (by decide)).fact
  have returns : (SharedSystem.run plainKernel twoBacklogs .empty).map (fun s =>
      (decide (monthlyCharge 7 2 ∈ owned 1 s.committed.outputs ∧ monthlyCharge 8 1 ∈ owned 1 s.committed.outputs),
        decide (HasReceipt 1 (ofTenant 1 s.committed.tables.receipts) (monthlyCharge 7 1).version .applied),
        (ofTenant 1 s.committed.tables.receipts).map (fun row => (row.sourceRef, row.sourceVersion)))) =
      some (true, true, [(UUID.str 7, 1)]) := by decide +kernel
  obtain ⟨s, ran, result⟩ := Option.map_eq_some_iff.mp returns
  simp only [Prod.mk.injEq, decide_eq_true_eq] at result
  obtain ⟨⟨inside, inside'⟩, applied, rows⟩ := result
  have reached : s.Reaches plainKernel (SharedSystem.Opens 1 Emitted) := by
    refine SharedSystem.Reaches.run ?_ .start ran
    intro state event member
    have other : ∀ P : Prop, (2 : UUID) = 1 → P := fun P same => absurd same (by decide)
    fin_cases member
    all_goals first
      | exact other _
      | trivial
  obtain ⟨received, read, reports, -⟩ := emitted_reconciled plainKernel s 1 reached
    ⟨id, fun _ => List.Perm.refl _⟩ [revised, second] [revised.key, second.key] (by
      rw [List.forall_mem_cons, List.forall_mem_singleton]
      exact ⟨⟨_, inside, made⟩, ⟨_, inside', made'⟩⟩) (by simp)
  have only : ∀ version outcome, HasReceipt 1 (ofTenant 1 s.committed.tables.receipts) version outcome →
      version = ⟨7, 1⟩ := by
    intro version outcome has
    have named := has.named
    rw [rows, List.mem_singleton, Prod.mk.injEq] at named
    obtain ⟨ref, generation⟩ := named
    cases version
    simp only at ref generation
    rw [UUID.str_injective ref, generation]
  refine ⟨s, revised, second, ran, made, made', received, read, reports.agrees, ?_, ?_⟩
  · apply (reports.missing _ inside' second (by simp) made').mpr
    rintro ⟨generation, outcome, has⟩
    have same : (8 : UUID) = 7 := congrArg FactVersion.occurrenceId (only _ _ has)
    exact absurd same (by decide)
  · obtain ⟨entry, listed, key, -⟩ := (reports.stale _ inside revised (by simp) made).mpr (by
      refine ⟨⟨1, .applied, applied⟩, ?_⟩
      rintro ⟨generation, outcome, later, has⟩
      have first : generation = 1 := congrArg FactVersion.generation (only _ _ has)
      subst first
      exact absurd later (by decide))
    exact ⟨entry, listed, key⟩

end DotmacCloud
