import DotmacCloud.LaterReceipts

/-! # A pass of redeliveries

One receipt for each fact the report lists as missing or stale leaves neither, and no
more than the divergences behind; those no redelivery repairs. What a report says does
not depend on the order of the lists it is given.
-/

namespace DotmacCloud

open Foundation

section Newest

variable {received pass : List AdapterReceipt} {fact : SourceFact}

/-- Receipts of other keys change nothing. -/
theorem latestByKey_append_other {key : FactKey} (other : ∀ receipt ∈ pass, receipt.fact.key ≠ key) :
    latestByKey (received ++ pass) key = latestByKey received key := by
  have none : pass.filter (fun receipt => receipt.fact.key = key) = [] := by
    rw [List.filter_eq_nil_iff]
    intro receipt member same
    exact other receipt member (of_decide_eq_true same)
  simp only [latestByKey, Newest.newest_eq_argmax, List.filter_append, none, List.append_nil]

/-- Where everything received is older, a receipt of the fact becomes the newest. -/
theorem latestByKey_append_newer (older : ∀ receipt ∈ received, receipt.fact.key = fact.key →
      receipt.fact.sourceVersion < fact.sourceVersion)
    (about : ∀ receipt ∈ pass, receipt.fact.key = fact.key → receipt.fact = fact)
    (delivered : ∃ receipt ∈ pass, receipt.fact = fact) :
    ∃ kept, latestByKey (received ++ pass) fact.key = some kept ∧ kept.fact = fact := by
  obtain ⟨receipt, member, rfl⟩ := delivered
  obtain ⟨kept, found⟩ := Newest.newest_isSome (fun known : AdapterReceipt => known.fact.key)
    (fun known => known.fact.sourceVersion) (List.mem_append_right received member)
  obtain ⟨listed, key, greatest⟩ := Newest.newest_spec found
  refine ⟨kept, found, ?_⟩
  have atLeast := greatest receipt (List.mem_append_right _ member) rfl
  rcases List.mem_append.mp listed with old | new
  · have less := older kept old key
    omega
  · exact about kept new key

end Newest

section Pass

variable {published : List SourceFact} {received pass : List AdapterReceipt} {fact : SourceFact}

theorem mem_missing_iff (listed : fact ∈ published) :
    fact ∈ (reconcile published received).missing ↔ latestByKey received fact.key = none :=
  mem_repairable_iff listed

theorem stale_entry_iff (listed : fact ∈ published) :
    (∃ entry ∈ (reconcile published received).stale, entry.key = fact.key ∧
        entry.publishedVersion = fact.sourceVersion) ↔
      ∃ kept, latestByKey received fact.key = some kept ∧ kept.fact.sourceVersion < fact.sourceVersion := by
  rw [reconcile_eq]
  simp only [buckets, List.mem_filterMap, staleEntry_factVerdict]
  constructor
  · rintro ⟨entry, ⟨other, -, made⟩, key, version⟩
    obtain ⟨kept, found, older⟩ := Option.bind_eq_some_iff.mp made
    split_ifs at older with less
    obtain rfl := Option.some.inj older
    simp only at key version
    rw [key] at found
    exact ⟨kept, found, version ▸ less⟩
  · rintro ⟨kept, found, less⟩
    refine ⟨⟨fact.key, kept.fact.sourceVersion, fact.sourceVersion⟩, ⟨fact, listed, ?_⟩, rfl, rfl⟩
    rw [found, Option.bind_some, if_pos less]

/-- A fact the report lists as missing or as stale. -/
def ReconciliationReport.Lists (report : ReconciliationReport) (fact : SourceFact) : Prop :=
  fact ∈ report.missing ∨ ∃ entry ∈ report.stale, entry.key = fact.key ∧
    entry.publishedVersion = fact.sourceVersion

/-- Receipts of published facts, one at least for each fact the report lists and none
    for any other. -/
structure Redelivers (published : List SourceFact) (received pass : List AdapterReceipt) : Prop where
  about : ∀ receipt ∈ pass, receipt.fact ∈ published ∧ (reconcile published received).Lists receipt.fact
  covers : ∀ fact ∈ published, (reconcile published received).Lists fact → ∃ receipt ∈ pass, receipt.fact = fact

theorem lists_iff (listed : fact ∈ published) :
    (reconcile published received).Lists fact ↔
      ∀ receipt ∈ received, receipt.fact.key = fact.key → receipt.fact.sourceVersion < fact.sourceVersion := by
  rw [ReconciliationReport.Lists, mem_missing_iff listed, stale_entry_iff listed]
  constructor
  · rintro (none | ⟨kept, found, older⟩) receipt member key
    · exact absurd key (Newest.newest_none_iff.mp none receipt member)
    · exact lt_of_le_of_lt ((Newest.newest_spec found).2.2 receipt member key) older
  · intro older
    cases found : latestByKey received fact.key with
    | none => exact .inl rfl
    | some kept =>
        obtain ⟨member, key, -⟩ := Newest.newest_spec found
        exact .inr ⟨kept, rfl, older kept member key⟩

/-- What the pass makes of a published fact's verdict. -/
theorem Redelivers.verdict (redelivers : Redelivers published received pass)
    (once : (published.map (·.key)).Nodup) (listed : fact ∈ published) :
    factVerdict fact (latestByKey (received ++ pass) fact.key) =
      if (∀ receipt ∈ received, receipt.fact.key = fact.key → receipt.fact.sourceVersion < fact.sourceVersion)
      then .settled else factVerdict fact (latestByKey received fact.key) := by
  have same : ∀ receipt ∈ pass, receipt.fact.key = fact.key → receipt.fact = fact := by
    intro receipt member key
    exact List.inj_on_of_nodup_map once (redelivers.about receipt member).1 listed key
  split_ifs with older
  · obtain ⟨kept, found, about⟩ := latestByKey_append_newer older same
      (redelivers.covers fact listed ((lists_iff listed).mpr older))
    rw [found, ← about]
    exact factVerdict_self kept
  · rw [latestByKey_append_other]
    intro receipt member key
    have known := same receipt member key
    exact older ((lists_iff listed).mp (known ▸ (redelivers.about receipt member).2))

/-- A fact some received receipt has reached is not missing and not stale. -/
theorem reached_known (reached : ¬ ∀ receipt ∈ received, receipt.fact.key = fact.key →
      receipt.fact.sourceVersion < fact.sourceVersion) :
    ∃ kept, latestByKey received fact.key = some kept ∧ ¬ kept.fact.sourceVersion < fact.sourceVersion := by
  cases found : latestByKey received fact.key with
  | none =>
      exact absurd (fun receipt member key => absurd key (Newest.newest_none_iff.mp found receipt member)) reached
  | some kept =>
      refine ⟨kept, rfl, fun older => reached ?_⟩
      intro receipt member key
      exact lt_of_le_of_lt ((Newest.newest_spec found).2.2 receipt member key) older

theorem behind_not_divergent (behind : ∀ receipt ∈ received, receipt.fact.key = fact.key →
      receipt.fact.sourceVersion < fact.sourceVersion) :
    divergentEntry fact (factVerdict fact (latestByKey received fact.key)) = none := by
  rw [divergentEntry_factVerdict]
  cases found : latestByKey received fact.key with
  | none => rfl
  | some kept =>
      obtain ⟨member, key, -⟩ := Newest.newest_spec found
      have older := behind kept member key
      rw [Option.bind_some, if_neg]
      omega

/-- A pass of redeliveries leaves nothing missing and nothing stale, keeps the settled
    keys settled and the divergences as they are, and so converges exactly where there
    were none. -/
theorem repair_pass (published : List SourceFact) (received pass : List AdapterReceipt)
    (once : (published.map (·.key)).Nodup) (redelivers : Redelivers published received pass) :
    (reconcile published (received ++ pass)).missing = [] ∧
    (reconcile published (received ++ pass)).stale = [] ∧
    (reconcile published (received ++ pass)).divergent = (reconcile published received).divergent ∧
    (∀ key ∈ (reconcile published received).settled, key ∈ (reconcile published (received ++ pass)).settled) ∧
    ((reconcile published (received ++ pass)).converged ↔ (reconcile published received).divergent = []) := by
  have missing : (reconcile published (received ++ pass)).missing = [] := by
    rw [reconcile_eq]
    simp only [buckets, List.filter_eq_nil_iff, decide_eq_true_eq]
    intro fact listed missing
    rw [redelivers.verdict once listed] at missing
    split_ifs at missing with older
    obtain ⟨kept, found, -⟩ := reached_known older
    rw [found, factVerdict_eq_missing] at missing
    cases missing
  have stale : (reconcile published (received ++ pass)).stale = [] := by
    rw [reconcile_eq]
    simp only [buckets, List.filterMap_eq_nil_iff]
    intro fact listed
    rw [redelivers.verdict once listed]
    split_ifs with older
    · rfl
    · obtain ⟨kept, found, notOlder⟩ := reached_known older
      rw [found, staleEntry_factVerdict, Option.bind_some, if_neg notOlder]
  have divergent : (reconcile published (received ++ pass)).divergent =
      (reconcile published received).divergent := by
    rw [reconcile_eq, reconcile_eq]
    simp only [buckets]
    apply List.filterMap_congr
    intro fact listed
    rw [redelivers.verdict once listed]
    split_ifs with older
    · exact (behind_not_divergent older).symm
    · rfl
  refine ⟨missing, stale, divergent, ?_, ?_⟩
  · intro key settled
    rw [reconcile_eq] at settled ⊢
    simp only [List.mem_mergeSort, buckets, List.mem_map, List.mem_filter, decide_eq_true_eq] at settled ⊢
    obtain ⟨fact, ⟨listed, verdict⟩, rfl⟩ := settled
    refine ⟨fact, ⟨listed, ?_⟩, rfl⟩
    rw [redelivers.verdict once listed]
    split_ifs
    · rfl
    · exact verdict
  · simp only [ReconciliationReport.converged, missing, stale, divergent, List.isEmpty_nil, Bool.true_and,
      List.isEmpty_iff]

end Pass

/-- The invoice's second version, received at its first and then redelivered. -/
theorem repair_pass_revised :
    (reconcile [revisedInvoice] ([invoiceReceipt] ++ [{ invoiceReceipt with fact := revisedInvoice }])).converged ↔
      (reconcile [revisedInvoice] [invoiceReceipt]).divergent = [] := by
  have listed : (reconcile [revisedInvoice] [invoiceReceipt]).Lists revisedInvoice := by
    rw [lists_iff (List.mem_singleton_self _)]
    decide +kernel
  refine (repair_pass [revisedInvoice] [invoiceReceipt] [{ invoiceReceipt with fact := revisedInvoice }]
    (List.nodup_singleton _) ⟨?_, ?_⟩).2.2.2.2
  · intro receipt member
    rw [List.mem_singleton.mp member]
    exact ⟨List.mem_singleton_self _, listed⟩
  · intro fact member _
    rw [List.mem_singleton.mp member]
    exact ⟨_, List.mem_singleton_self _, rfl⟩

/-! ## The order of the lists -/

theorem FactKey.le_antisymm {a b : FactKey} (first : FactKey.le a b) (second : FactKey.le b a) : a = b := by
  unfold FactKey.le at first second
  apply FactKey.ext <;> grind

/-- Where no two receipts tie, the report says the same whatever order the lists come
    in: the settled keys are listed alike, and the other entries are the same ones. -/
theorem report_order_free (published published' : List SourceFact) (received received' : List AdapterReceipt)
    (facts : published.Perm published') (receipts : received.Perm received')
    (distinct : Newest.Distinct (fun receipt : AdapterReceipt => receipt.fact.key)
      (fun receipt => receipt.fact.sourceVersion) received) :
    (reconcile published received).settled = (reconcile published' received').settled ∧
    (reconcile published received).missing.Perm (reconcile published' received').missing ∧
    (reconcile published received).stale.Perm (reconcile published' received').stale ∧
    (reconcile published received).divergent.Perm (reconcile published' received').divergent ∧
    (reconcile published received).converged = (reconcile published' received').converged := by
  have latest : latestByKey received = latestByKey received' := by
    funext key
    exact Newest.newest_congr distinct (fun receipt _ => receipts.mem_iff)
  have missing := facts.filter (fun fact => factVerdict fact (latestByKey received fact.key) = .missing)
  have stale := facts.filterMap (fun fact =>
    staleEntry fact (factVerdict fact (latestByKey received fact.key)))
  have divergent := facts.filterMap (fun fact =>
    divergentEntry fact (factVerdict fact (latestByKey received fact.key)))
  have settled := (facts.filter (fun fact =>
    factVerdict fact (latestByKey received fact.key) = .settled)).map SourceFact.key
  rw [reconcile_eq, reconcile_eq, ← latest]
  refine ⟨?_, missing, stale, divergent, ?_⟩
  · have sorted : ∀ keys : List FactKey, (keys.mergeSort FactKey.le).Pairwise (fun a b => FactKey.le a b) :=
      fun keys => List.pairwise_mergeSort FactKey.le_trans FactKey.le_total keys
    exact List.Perm.eq_of_pairwise (fun _ _ _ _ => FactKey.le_antisymm) (sorted _) (sorted _)
      ((List.mergeSort_perm _ _).trans (settled.trans (List.mergeSort_perm _ _).symm))
  · simp only [ReconciliationReport.converged, buckets, missing.isEmpty_eq, stale.isEmpty_eq,
      divergent.isEmpty_eq]

theorem report_order_free_invoice :
    (reconcile [invoiceReceipt.fact, revisedInvoice]
        [invoiceReceipt, { invoiceReceipt with fact := revisedInvoice }]).settled =
      (reconcile [revisedInvoice, invoiceReceipt.fact]
        [{ invoiceReceipt with fact := revisedInvoice }, invoiceReceipt]).settled := by
  refine (report_order_free _ _ _ _ (List.Perm.swap _ _ _) (List.Perm.swap _ _ _) ?_).1
  intro a memberA b memberB _ version
  fin_cases memberA <;> fin_cases memberB
  · rfl
  · exact absurd version (by decide)
  · exact absurd version (by decide)
  · rfl

end DotmacCloud
