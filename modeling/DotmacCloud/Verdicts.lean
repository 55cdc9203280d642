import DotmacCloud.Receipts

/-! # Verdicts of a reconciliation

The loop over the published facts sorts each one by a verdict that depends only on
the newest receipt of its key. The report is therefore the published list filtered
four ways, and two received lists that keep the same newest receipt under every
published key give the same report.
-/

namespace DotmacCloud

inductive FactVerdict where
  | missing
  | stale (receivedVersion : Int)
  | divergent (receivedFingerprint : String)
  | settled
  deriving DecidableEq, Repr

/-- The verdict on one published fact, given the newest receipt of its key. -/
def factVerdict (fact : SourceFact) : Option AdapterReceipt → FactVerdict
  | none => .missing
  | some receipt =>
      if receipt.fact.sourceVersion < fact.sourceVersion then .stale receipt.fact.sourceVersion
      else if receipt.fact.sourceVersion = fact.sourceVersion ∧
          receipt.fact.fingerprint ≠ fact.fingerprint then .divergent receipt.fact.fingerprint
      else .settled

def staleEntry (fact : SourceFact) : FactVerdict → Option StaleFact
  | .stale received => some ⟨fact.key, received, fact.sourceVersion⟩
  | _ => none

def divergentEntry (fact : SourceFact) : FactVerdict → Option DivergentFact
  | .divergent received => some ⟨fact.key, fact.sourceVersion, received, fact.fingerprint⟩
  | _ => none

section Buckets

variable (latest : FactKey → Option AdapterReceipt)

/-- The four buckets of a published list. -/
def buckets (published : List SourceFact) : ReconciliationReport where
  settled := (published.filter (fun fact => factVerdict fact (latest fact.key) = .settled)).map (·.key)
  missing := published.filter (fun fact => factVerdict fact (latest fact.key) = .missing)
  stale := published.filterMap (fun fact => staleEntry fact (factVerdict fact (latest fact.key)))
  divergent := published.filterMap (fun fact => divergentEntry fact (factVerdict fact (latest fact.key)))

def ReconciliationReport.join (a b : ReconciliationReport) : ReconciliationReport :=
  ⟨a.settled ++ b.settled, a.missing ++ b.missing, a.stale ++ b.stale, a.divergent ++ b.divergent⟩

theorem classify_eq (report : ReconciliationReport) (fact : SourceFact) :
    classify latest report fact = report.join (buckets latest [fact]) := by
  cases found : latest fact.key with
  | none =>
      simp [classify, found, ReconciliationReport.join, buckets, factVerdict, staleEntry, divergentEntry]
  | some receipt =>
      simp only [classify, found]
      by_cases older : receipt.fact.sourceVersion < fact.sourceVersion
      · simp [older, found, ReconciliationReport.join, buckets, factVerdict, staleEntry, divergentEntry]
      · by_cases differs : receipt.fact.sourceVersion = fact.sourceVersion ∧
            receipt.fact.fingerprint ≠ fact.fingerprint
        · simp only [if_neg older, if_pos differs]
          simp [differs, found, ReconciliationReport.join, buckets, factVerdict, staleEntry,
            divergentEntry]
        · simp only [if_neg older, if_neg differs]
          simp [older, differs, found, ReconciliationReport.join, buckets, factVerdict, staleEntry,
            divergentEntry]

theorem buckets_cons (fact : SourceFact) (rest : List SourceFact) :
    buckets latest (fact :: rest) = (buckets latest [fact]).join (buckets latest rest) := by
  have split : fact :: rest = [fact] ++ rest := rfl
  simp only [split, buckets, ReconciliationReport.join, List.filter_append, List.filterMap_append,
    List.map_append]

theorem join_assoc (a b c : ReconciliationReport) : (a.join b).join c = a.join (b.join c) := by
  simp only [ReconciliationReport.join, List.append_assoc]

/-- The loop keeps what it has and adds the buckets of the rest. -/
theorem foldl_classify (published : List SourceFact) (report : ReconciliationReport) :
    published.foldl (classify latest) report = report.join (buckets latest published) := by
  induction published generalizing report with
  | nil => simp [buckets, ReconciliationReport.join]
  | cons fact rest ih =>
      rw [List.foldl_cons, ih, classify_eq, join_assoc, ← buckets_cons]

end Buckets

theorem reconcile_eq (published : List SourceFact) (received : List AdapterReceipt) :
    reconcile published received =
      { buckets (latestByKey received) published with
        settled := (buckets (latestByKey received) published).settled.mergeSort FactKey.le } := by
  simp only [reconcile, foldl_classify, ReconciliationReport.join, List.nil_append]

/-- The report depends on the received list only through the newest receipts of
    the published keys. -/
theorem reconcile_congr {published : List SourceFact} {received received' : List AdapterReceipt}
    (same : ∀ fact ∈ published, latestByKey received fact.key = latestByKey received' fact.key) :
    reconcile published received = reconcile published received' := by
  have agree : published.foldl (classify (latestByKey received)) ⟨[], [], [], []⟩ =
      published.foldl (classify (latestByKey received')) ⟨[], [], [], []⟩ := by
    apply List.foldl_ext
    intro report fact member
    simp only [classify, same fact member]
  simp only [reconcile, agree]

/-- What the report says about a published fact whose verdict is settled. -/
structure CountsSettled (report : ReconciliationReport) (fact : SourceFact) : Prop where
  settled : fact.key ∈ report.settled
  notMissing : fact ∉ report.missing
  notStale : ∀ entry ∈ report.stale, entry.key = fact.key →
    entry.publishedVersion ≠ fact.sourceVersion
  notDivergent : ∀ entry ∈ report.divergent, entry.key = fact.key →
    entry.sourceVersion = fact.sourceVersion → entry.publishedFingerprint ≠ fact.fingerprint
  notRedelivered : fact ∉ report.repairableByRedelivery

theorem factVerdict_settled_iff {fact : SourceFact} {receipt : AdapterReceipt} :
    factVerdict fact (some receipt) = .settled ↔
      fact.sourceVersion < receipt.fact.sourceVersion ∨
        (receipt.fact.sourceVersion = fact.sourceVersion ∧
          receipt.fact.fingerprint = fact.fingerprint) := by
  simp only [factVerdict]
  split_ifs with older differs
  · simp only [false_iff]
    omega
  · simp only [false_iff]
    rintro (newer | ⟨-, same⟩)
    · omega
    · exact differs.2 same
  · simp only [true_iff]
    by_cases version : receipt.fact.sourceVersion = fact.sourceVersion
    · exact .inr ⟨version, by simpa [version] using differs⟩
    · exact .inl (by omega)

theorem countsSettled_of_verdict {published : List SourceFact} {received : List AdapterReceipt}
    {fact : SourceFact} (member : fact ∈ published)
    (verdict : factVerdict fact (latestByKey received fact.key) = .settled) :
    CountsSettled (reconcile published received) fact := by
  have absent : fact ∉ (reconcile published received).missing := by
    simp [reconcile_eq, buckets, verdict]
  rw [reconcile_eq] at absent ⊢
  refine ⟨?_, absent, ?_, ?_, absent⟩
  · simp only [List.mem_mergeSort, buckets, List.mem_map, List.mem_filter]
    exact ⟨fact, ⟨member, by simpa using verdict⟩, rfl⟩
  · intro entry listed key version
    obtain ⟨other, -, made⟩ := List.mem_filterMap.mp listed
    cases found : latestByKey received fact.key with
    | none => simp [found, factVerdict] at verdict
    | some receipt =>
        cases decided : factVerdict other (latestByKey received other.key) with
        | stale known =>
            simp only [decided, staleEntry, Option.some.injEq] at made
            subst made
            simp only at key version
            rw [key, found] at decided
            rw [found, factVerdict_settled_iff] at verdict
            simp only [factVerdict] at decided
            split_ifs at decided
            omega
        | missing | divergent _ | settled => simp [decided, staleEntry] at made
  · intro entry listed key version print
    obtain ⟨other, -, made⟩ := List.mem_filterMap.mp listed
    cases found : latestByKey received fact.key with
    | none => simp [found, factVerdict] at verdict
    | some receipt =>
        cases decided : factVerdict other (latestByKey received other.key) with
        | divergent known =>
            simp only [decided, divergentEntry, Option.some.injEq] at made
            subst made
            simp only at key version print
            rw [key, found] at decided
            have same : other = fact := SourceFact.ext key version print
            rw [same, ← found, verdict] at decided
            cases decided
        | missing | stale _ | settled => simp [decided, divergentEntry] at made

end DotmacCloud
