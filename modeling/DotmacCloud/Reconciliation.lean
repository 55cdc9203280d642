import DotmacCloud.Verdicts

/-! # What a reconciliation reports

The report read against a specification that names no loop: the newest receipt of
each key is a maximum over the received list, each published entry has the verdict
that receipt gives it, and the four buckets split the published list.
-/

namespace DotmacCloud

open Foundation

/-- What a published fact needs of the newest receipt of its key to be settled: a
    later version, or its own version and content. -/
def Answered (fact : SourceFact) (receipt : AdapterReceipt) : Prop :=
  fact.sourceVersion < receipt.fact.sourceVersion ∨
    (receipt.fact.sourceVersion = fact.sourceVersion ∧ receipt.fact.fingerprint = fact.fingerprint)

instance (fact : SourceFact) (receipt : AdapterReceipt) : Decidable (Answered fact receipt) :=
  inferInstanceAs (Decidable (_ ∨ _))

/-! ## The order of the settled keys -/

theorem FactKey.le_trans (a b c : FactKey) (first : FactKey.le a b) (second : FactKey.le b c) :
    FactKey.le a c := by
  unfold FactKey.le at *
  grind

theorem FactKey.le_total (a b : FactKey) : FactKey.le a b || FactKey.le b a := by
  unfold FactKey.le
  grind

/-! ## The buckets -/

section Buckets

variable {published : List SourceFact} {received : List AdapterReceipt}

theorem factVerdict_eq_missing {fact : SourceFact} {receipt : Option AdapterReceipt} :
    factVerdict fact receipt = .missing ↔ receipt = none := by
  cases receipt with
  | none => simp [factVerdict]
  | some receipt =>
      simp only [factVerdict, reduceCtorEq, iff_false]
      split_ifs <;> simp

theorem factVerdict_eq_settled {fact : SourceFact} {receipt : Option AdapterReceipt} :
    factVerdict fact receipt = .settled ↔ ∃ kept, receipt = some kept ∧ Answered fact kept := by
  cases receipt with
  | none => simp [factVerdict]
  | some receipt => simp [factVerdict_settled_iff, Answered]

theorem staleEntry_factVerdict (fact : SourceFact) (receipt : Option AdapterReceipt) :
    staleEntry fact (factVerdict fact receipt) = receipt.bind (fun kept =>
      if kept.fact.sourceVersion < fact.sourceVersion then
        some ⟨fact.key, kept.fact.sourceVersion, fact.sourceVersion⟩
      else none) := by
  cases receipt with
  | none => rfl
  | some kept =>
      simp only [factVerdict, Option.bind_some]
      split_ifs <;> rfl

theorem divergentEntry_factVerdict (fact : SourceFact) (receipt : Option AdapterReceipt) :
    divergentEntry fact (factVerdict fact receipt) = receipt.bind (fun kept =>
      if kept.fact.sourceVersion = fact.sourceVersion ∧ kept.fact.fingerprint ≠ fact.fingerprint then
        some ⟨fact.key, fact.sourceVersion, kept.fact.fingerprint, fact.fingerprint⟩
      else none) := by
  cases receipt with
  | none => rfl
  | some kept =>
      simp only [factVerdict, Option.bind_some]
      split_ifs with older differs differs
      · omega
      · rfl
      · rfl
      · rfl

/-- Every published entry lands in exactly one bucket. -/
theorem buckets_length (latest : FactKey → Option AdapterReceipt) (published : List SourceFact) :
    (buckets latest published).settled.length + (buckets latest published).missing.length +
      (buckets latest published).stale.length + (buckets latest published).divergent.length =
        published.length := by
  induction published with
  | nil => rfl
  | cons fact rest ih =>
      rw [buckets_cons]
      simp only [ReconciliationReport.join, List.length_append, List.length_cons]
      have single : (buckets latest [fact]).settled.length + (buckets latest [fact]).missing.length +
          (buckets latest [fact]).stale.length + (buckets latest [fact]).divergent.length = 1 := by
        cases decided : factVerdict fact (latest fact.key) <;>
          simp [buckets, decided, staleEntry, divergentEntry]
      omega

theorem converged_iff :
    (reconcile published received).converged ↔
      ∀ fact ∈ published, factVerdict fact (latestByKey received fact.key) = .settled := by
  rw [reconcile_eq]
  simp only [ReconciliationReport.converged, buckets, Bool.and_eq_true, List.isEmpty_iff,
    List.filter_eq_nil_iff, List.filterMap_eq_nil_iff, decide_eq_true_eq]
  constructor
  · rintro ⟨⟨noMissing, noStale⟩, noDivergent⟩ fact member
    have missing := noMissing fact member
    have stale := noStale fact member
    have divergent := noDivergent fact member
    cases decided : factVerdict fact (latestByKey received fact.key) with
    | missing => exact absurd decided missing
    | stale _ => simp [decided, staleEntry] at stale
    | divergent _ => simp [decided, divergentEntry] at divergent
    | settled => rfl
  · intro allSettled
    refine ⟨⟨?_, ?_⟩, ?_⟩
    · intro fact member
      simp [allSettled fact member]
    · intro fact member
      simp [allSettled fact member, staleEntry]
    · intro fact member
      simp [allSettled fact member, divergentEntry]

end Buckets

/-- Receipts of keys nobody publishes do not reach the report. -/
theorem reconcile_published (published : List SourceFact) (received : List AdapterReceipt) :
    reconcile published (received.filter (fun receipt =>
      receipt.fact.key ∈ published.map (·.key))) = reconcile published received := by
  apply reconcile_congr
  intro fact member
  simp only [latestByKey, Newest.newest_eq_argmax, List.filter_filter]
  congr 1
  apply List.filter_congr
  intro receipt _
  have listed : fact.key ∈ published.map (·.key) := List.mem_map_of_mem member
  grind

/-- The report of a published list, entry by entry and in its order, against the
    first received receipt of greatest version under each key. -/
theorem reconcile_exact (published : List SourceFact) (received : List AdapterReceipt) :
    let newest := fun key =>
      (received.filter (fun receipt => receipt.fact.key = key)).argmax
        (fun receipt => receipt.fact.sourceVersion)
    let report := reconcile published received
    report.missing = published.filter (fun fact => newest fact.key = none) ∧
    report.stale = published.filterMap (fun fact => (newest fact.key).bind (fun kept =>
      if kept.fact.sourceVersion < fact.sourceVersion then
        some ⟨fact.key, kept.fact.sourceVersion, fact.sourceVersion⟩
      else none)) ∧
    report.divergent = published.filterMap (fun fact => (newest fact.key).bind (fun kept =>
      if kept.fact.sourceVersion = fact.sourceVersion ∧ kept.fact.fingerprint ≠ fact.fingerprint then
        some ⟨fact.key, fact.sourceVersion, kept.fact.fingerprint, fact.fingerprint⟩
      else none)) ∧
    report.settled.Pairwise (fun a b => FactKey.le a b) ∧
    report.settled.Perm ((published.filter (fun fact =>
      (newest fact.key).any (fun kept => Answered fact kept))).map (·.key)) ∧
    report.settled.length + report.missing.length + report.stale.length + report.divergent.length =
      published.length ∧
    reconcile published (received.filter (fun receipt =>
      receipt.fact.key ∈ published.map (·.key))) = report ∧
    (report.converged ↔
      ∀ fact ∈ published, ∃ kept, newest fact.key = some kept ∧ Answered fact kept) := by
  intro newest report
  have latest : newest = latestByKey received := by
    funext key
    exact (Newest.newest_eq_argmax received key).symm
  have listed : report = _ := reconcile_eq published received
  rw [latest]
  refine ⟨?_, ?_, ?_, ?_, ?_, ?_, reconcile_published published received, ?_⟩
  · rw [listed]
    simp only [buckets, factVerdict_eq_missing]
  · rw [listed]
    simp only [buckets, staleEntry_factVerdict]
  · rw [listed]
    simp only [buckets, divergentEntry_factVerdict]
  · rw [listed]
    exact List.pairwise_mergeSort FactKey.le_trans FactKey.le_total _
  · rw [listed]
    refine (List.mergeSort_perm _ _).trans (List.Perm.of_eq ?_)
    simp only [buckets, factVerdict_eq_settled]
    congr 2
    funext fact
    cases latestByKey received fact.key <;> simp
  · rw [listed]
    simpa only [List.length_mergeSort] using buckets_length (latestByKey received) published
  · simpa only [factVerdict_eq_settled] using converged_iff

end DotmacCloud
