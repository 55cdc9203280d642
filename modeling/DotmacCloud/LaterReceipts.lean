import DotmacCloud.ReceiptStore
import DotmacCloud.Reconciliation

/-! # What later receipts do to a verdict

One more receipt of a fact settles it where the newest receipt is older or absent
and leaves it alone elsewhere. A divergent fact stays divergent until a newer
version of it is received. Where the received list holds no ties, receipts at any
position only move a verdict forward.
-/

namespace DotmacCloud

open Foundation

/-- The report holds a divergent entry for the fact. -/
def ReconciliationReport.Diverges (report : ReconciliationReport) (fact : SourceFact) : Prop :=
  ∃ entry ∈ report.divergent, entry.key = fact.key ∧ entry.sourceVersion = fact.sourceVersion ∧
    entry.publishedFingerprint = fact.fingerprint

section Entries

variable {published : List SourceFact} {received : List AdapterReceipt} {fact : SourceFact}

/-- Where keys are listed once, a settled key speaks for its one fact. -/
theorem mem_settled_iff (distinct : (published.map (·.key)).Nodup) (member : fact ∈ published) :
    fact.key ∈ (reconcile published received).settled ↔
      factVerdict fact (latestByKey received fact.key) = .settled := by
  rw [reconcile_eq]
  simp only [List.mem_mergeSort, buckets, List.mem_map, List.mem_filter, decide_eq_true_eq]
  constructor
  · rintro ⟨other, ⟨listed, settled⟩, sameKey⟩
    have same := List.inj_on_of_nodup_map distinct listed member sameKey
    rwa [same] at settled
  · intro settled
    exact ⟨fact, ⟨member, settled⟩, rfl⟩

theorem mem_repairable_iff (member : fact ∈ published) :
    fact ∈ (reconcile published received).repairableByRedelivery ↔
      latestByKey received fact.key = none := by
  rw [ReconciliationReport.repairableByRedelivery, reconcile_eq]
  simp only [buckets, List.mem_filter, member, true_and, decide_eq_true_eq, factVerdict_eq_missing]

theorem diverges_iff (member : fact ∈ published) :
    (reconcile published received).Diverges fact ↔
      ∃ kept, latestByKey received fact.key = some kept ∧
        kept.fact.sourceVersion = fact.sourceVersion ∧ kept.fact.fingerprint ≠ fact.fingerprint := by
  rw [reconcile_eq]
  simp only [ReconciliationReport.Diverges, buckets, List.mem_filterMap, divergentEntry_factVerdict]
  constructor
  · rintro ⟨entry, ⟨other, -, made⟩, sameKey, sameVersion, samePrint⟩
    obtain ⟨kept, found, differs⟩ := Option.bind_eq_some_iff.mp made
    split_ifs at differs with disagrees
    obtain rfl := Option.some.inj differs
    have same : other = fact := SourceFact.ext sameKey sameVersion samePrint
    subst same
    exact ⟨kept, found, disagrees⟩
  · rintro ⟨kept, found, disagrees⟩
    refine ⟨⟨fact.key, fact.sourceVersion, kept.fact.fingerprint, fact.fingerprint⟩,
      ⟨fact, member, ?_⟩, rfl, rfl, rfl⟩
    rw [found, Option.bind_some, if_pos disagrees]

end Entries

/-! ## Redelivery -/

/-- The newest receipt after one more receipt of the fact itself. -/
theorem latestByKey_again {received : List AdapterReceipt} {again : AdapterReceipt} :
    latestByKey (received ++ [again]) again.fact.key =
      match latestByKey received again.fact.key with
      | none => some again
      | some kept =>
          if kept.fact.sourceVersion < again.fact.sourceVersion then some again else some kept := by
  have step := @Newest.keepNewest_same _ _ _ (fun receipt => receipt.fact.key)
    (fun receipt => receipt.fact.sourceVersion) (latestByKey received) again
  rw [latestByKey, Newest.newest_snoc]
  refine step.trans ?_
  cases latestByKey received again.fact.key with
  | none => rfl
  | some kept => rfl

theorem factVerdict_self (receipt : AdapterReceipt) :
    factVerdict receipt.fact (some receipt) = .settled := by
  rw [factVerdict_settled_iff]
  exact .inr ⟨rfl, rfl⟩

/-- One more receipt of a fact settles it exactly when it has no receipt of its own
    version or a later one, or is settled already. -/
theorem settles_again_iff {received : List AdapterReceipt} (again : AdapterReceipt) :
    factVerdict again.fact (latestByKey (received ++ [again]) again.fact.key) = .settled ↔
      ∀ kept, latestByKey received again.fact.key = some kept →
        again.fact.sourceVersion ≤ kept.fact.sourceVersion → Answered again.fact kept := by
  rw [latestByKey_again]
  cases found : latestByKey received again.fact.key with
  | none => simp [factVerdict_self]
  | some kept =>
      simp only [Option.some.injEq, forall_eq']
      split
      · rename_i older
        simp only [factVerdict_self, true_iff]
        intro newer
        omega
      · rename_i notOlder
        rw [factVerdict_settled_iff]
        exact ⟨fun answered _ => answered, fun answered => answered (not_lt.mp notOlder)⟩

/-- The report promises a repair by redelivery exactly where there is one, unless
    the fact is stale: a redelivery settles that too, and the report leaves it out. -/
theorem redelivery_exact {published : List SourceFact} {received : List AdapterReceipt}
    {fact : SourceFact} {again : AdapterReceipt} (distinct : (published.map (·.key)).Nodup)
    (member : fact ∈ published) (delivered : again.fact = fact) :
    (fact ∈ (reconcile published received).repairableByRedelivery ↔
      fact.key ∉ (reconcile published received).settled ∧
        fact.key ∈ (reconcile published (received ++ [again])).settled) ↔
      (∀ receipt ∈ received, receipt.fact.key ≠ fact.key) ∨
        ∃ receipt ∈ received, receipt.fact.key = fact.key ∧
          fact.sourceVersion ≤ receipt.fact.sourceVersion := by
  subst delivered
  rw [mem_repairable_iff member, mem_settled_iff distinct member, mem_settled_iff distinct member,
    settles_again_iff, factVerdict_eq_settled]
  cases found : latestByKey received again.fact.key with
  | none =>
      have absent := Newest.newest_none_iff.mp found
      simp only [reduceCtorEq, false_and, exists_false, not_false_eq_true, true_and, false_implies,
        implies_true, true_iff]
      exact .inl absent
  | some kept =>
      obtain ⟨held, sameKey, greatest⟩ := Newest.newest_spec found
      have present : ¬ ∀ receipt ∈ received, receipt.fact.key ≠ again.fact.key :=
        fun absent => absent kept held sameKey
      have current : (∃ receipt ∈ received, receipt.fact.key = again.fact.key ∧
          again.fact.sourceVersion ≤ receipt.fact.sourceVersion) ↔
          again.fact.sourceVersion ≤ kept.fact.sourceVersion := by
        constructor
        · rintro ⟨receipt, listed, key, version⟩
          exact version.trans (greatest receipt listed key)
        · intro version
          exact ⟨kept, held, sameKey, version⟩
      rw [current, or_iff_right present]
      simp only [reduceCtorEq, Option.some.injEq, exists_eq_left', forall_eq', false_iff]
      constructor
      · intro unrepaired
        by_contra older
        apply unrepaired
        refine ⟨?_, fun notOlder => absurd notOlder older⟩
        unfold Answered
        omega
      · rintro notOlder ⟨open_, answered⟩
        exact open_ (answered notOlder)

/-- The invoice published again under the same version with other content. -/
def amendedInvoice : SourceFact :=
  { invoiceReceipt.fact with fingerprint := "sha256:amended", fingerprintText := by decide }

/-- The invoice's second version. -/
def revisedInvoice : SourceFact :=
  { invoiceReceipt.fact with sourceVersion := 2, positive := by decide }

/-- An invoice known at its first version when its second is published: one more
    delivery settles it and the report does not say so. -/
theorem stale_fact_left_out :
    revisedInvoice ∉
      (reconcile [revisedInvoice] [invoiceReceipt]).repairableByRedelivery ∧
    revisedInvoice.key ∉ (reconcile [revisedInvoice] [invoiceReceipt]).settled ∧
    revisedInvoice.key ∈ (reconcile [revisedInvoice]
      ([invoiceReceipt] ++ [{ invoiceReceipt with fact := revisedInvoice }])).settled := by
  decide +kernel

/-- Beside receipts of another invoice and of its own first version: a fact that is missing
    is promised and settled by its redelivery, one that diverges is neither. -/
theorem missing_fact_repairable :
    (revisedInvoice ∈ (reconcile [revisedInvoice] [otherInvoice]).repairableByRedelivery ↔
      revisedInvoice.key ∉ (reconcile [revisedInvoice] [otherInvoice]).settled ∧
        revisedInvoice.key ∈ (reconcile [revisedInvoice]
          ([otherInvoice] ++ [{ invoiceReceipt with fact := revisedInvoice }])).settled) ∧
    (amendedInvoice ∈ (reconcile [amendedInvoice, otherInvoice.fact]
        [otherInvoice, invoiceReceipt]).repairableByRedelivery ↔
      amendedInvoice.key ∉ (reconcile [amendedInvoice, otherInvoice.fact]
          [otherInvoice, invoiceReceipt]).settled ∧
        amendedInvoice.key ∈ (reconcile [amendedInvoice, otherInvoice.fact]
          ([otherInvoice, invoiceReceipt] ++ [{ invoiceReceipt with fact := amendedInvoice }])).settled) := by
  constructor
  · exact (redelivery_exact (by decide +kernel) (List.mem_singleton_self revisedInvoice) rfl).mpr
      (.inl (by decide))
  · have published : amendedInvoice ∈ [amendedInvoice, otherInvoice.fact] := List.mem_cons_self
    exact (redelivery_exact (by decide +kernel) published rfl).mpr
      (.inr ⟨invoiceReceipt, by decide, rfl, le_refl _⟩)

/-! ## Divergence -/

/-- A divergent fact stays divergent through exactly those later receipts that are
    not of a newer version of it. -/
theorem divergence_stands_iff {published published' : List SourceFact}
    {received later : List AdapterReceipt} {fact : SourceFact} (listed : fact ∈ published)
    (stillListed : fact ∈ published') (diverges : (reconcile published received).Diverges fact) :
    (reconcile published' (received ++ later)).Diverges fact ↔
      ∀ receipt ∈ later, receipt.fact.key = fact.key →
        receipt.fact.sourceVersion ≤ fact.sourceVersion := by
  rw [diverges_iff listed] at diverges
  rw [diverges_iff stillListed]
  obtain ⟨kept, found, sameVersion, differs⟩ := diverges
  constructor
  · rintro ⟨kept', found', sameVersion', -⟩ receipt member key
    have greatest := (Newest.newest_spec found').2.2 receipt (List.mem_append_right _ member) key
    exact sameVersion' ▸ greatest
  · intro notNewer
    have stands := Newest.newest_append_of_le found
      (fun receipt member key => sameVersion.symm ▸ notNewer receipt member key)
    exact ⟨kept, stands, sameVersion, differs⟩

/-- A receipt of the second version hides the disagreement about the first. -/
theorem newer_receipt_hides_divergence :
    (reconcile [amendedInvoice] [invoiceReceipt]).Diverges amendedInvoice ∧
    ¬ (reconcile [amendedInvoice]
      ([invoiceReceipt] ++ [{ invoiceReceipt with fact := revisedInvoice }])).Diverges
        amendedInvoice := by
  unfold ReconciliationReport.Diverges
  decide +kernel

theorem divergence_stands_after_replay :
    (reconcile [amendedInvoice] ([invoiceReceipt] ++ [invoiceReceipt])).Diverges amendedInvoice :=
  (divergence_stands_iff (List.mem_singleton_self _) (List.mem_singleton_self _)
    (by unfold ReconciliationReport.Diverges; decide +kernel)).mpr (by decide +kernel)

/-! ## Receipts anywhere in the list -/

section Growth

variable {received received' : List AdapterReceipt} {fact : SourceFact}

/-- Where there are no ties, more receipts keep the newest one or replace it by a
    newer version. -/
theorem latestByKey_grows (within : ∀ receipt ∈ received, receipt ∈ received')
    (distinct : Newest.Distinct (fun receipt => receipt.fact.key)
      (fun receipt => receipt.fact.sourceVersion) received')
    {key : FactKey} {kept : AdapterReceipt} (found : latestByKey received key = some kept) :
    ∃ kept', latestByKey received' key = some kept' ∧
      (kept' = kept ∨ kept.fact.sourceVersion < kept'.fact.sourceVersion) := by
  obtain ⟨kept', found', notOlder⟩ := Newest.newest_mono within found
  refine ⟨kept', found', ?_⟩
  obtain ⟨member, sameKey, -⟩ := Newest.newest_spec found
  obtain ⟨member', sameKey', -⟩ := Newest.newest_spec found'
  cases lt_or_eq_of_le notOlder with
  | inl newer => exact .inr newer
  | inr level =>
      have keys : kept'.fact.key = kept.fact.key := sameKey'.trans sameKey.symm
      exact .inl (distinct kept' member' kept (within kept member) keys level.symm)

theorem settled_stays (within : ∀ receipt ∈ received, receipt ∈ received')
    (distinct : Newest.Distinct (fun receipt => receipt.fact.key)
      (fun receipt => receipt.fact.sourceVersion) received')
    (settled : factVerdict fact (latestByKey received fact.key) = .settled) :
    factVerdict fact (latestByKey received' fact.key) = .settled := by
  rw [factVerdict_eq_settled] at settled ⊢
  obtain ⟨kept, found, answered⟩ := settled
  obtain ⟨kept', found', grown⟩ := latestByKey_grows within distinct found
  refine ⟨kept', found', ?_⟩
  cases grown with
  | inl same => exact same ▸ answered
  | inr newer =>
      unfold Answered at answered ⊢
      omega

theorem known_stays (within : ∀ receipt ∈ received, receipt ∈ received')
    (missing : factVerdict fact (latestByKey received' fact.key) = .missing) :
    factVerdict fact (latestByKey received fact.key) = .missing := by
  rw [factVerdict_eq_missing] at missing ⊢
  apply Newest.newest_none_iff.mpr
  intro receipt member
  exact Newest.newest_none_iff.mp missing receipt (within receipt member)

theorem latestByKey_of_stale {version : Int}
    (stale : factVerdict fact (latestByKey received fact.key) = .stale version) :
    ∃ kept, latestByKey received fact.key = some kept ∧ kept.fact.sourceVersion = version := by
  cases found : latestByKey received fact.key with
  | none => simp [found, factVerdict] at stale
  | some kept =>
      rw [found] at stale
      simp only [factVerdict] at stale
      split_ifs at stale
      exact ⟨kept, rfl, FactVerdict.stale.inj stale⟩

end Growth

/-- Receipts added anywhere reopen no entry: settled entries stay settled, known
    ones stay known, and a stale one catches up or stays where it is. -/
theorem more_receipts_never_reopen {published : List SourceFact}
    {received received' : List AdapterReceipt} (within : ∀ receipt ∈ received, receipt ∈ received')
    (distinct : Newest.Distinct (fun receipt => receipt.fact.key)
      (fun receipt => receipt.fact.sourceVersion) received') :
    (∀ fact ∈ published,
      let before := factVerdict fact (latestByKey received fact.key)
      let after := factVerdict fact (latestByKey received' fact.key)
      (before = .settled → after = .settled) ∧ (before ≠ .missing → after ≠ .missing) ∧
        ∀ version version', before = .stale version → after = .stale version' →
          version ≤ version') ∧
    (reconcile published received).settled.Subperm (reconcile published received').settled ∧
    (reconcile published received').missing.Sublist (reconcile published received).missing ∧
    ∀ entry ∈ (reconcile published received).stale, ∀ entry' ∈ (reconcile published received').stale,
      entry.key = entry'.key → entry.receivedVersion ≤ entry'.receivedVersion := by
  refine ⟨?_, ?_, ?_, ?_⟩
  · intro fact _ before after
    refine ⟨settled_stays within distinct, fun known lost => known (known_stays within lost), ?_⟩
    intro version version' stale stale'
    obtain ⟨kept, found, rfl⟩ := latestByKey_of_stale stale
    obtain ⟨kept', found', rfl⟩ := latestByKey_of_stale stale'
    obtain ⟨newest, foundNewest, notOlder⟩ := Newest.newest_mono within found
    obtain rfl := Option.some.inj (found'.symm.trans foundNewest)
    exact notOlder
  · rw [reconcile_eq, reconcile_eq]
    refine (List.mergeSort_perm _ _).subperm.trans (List.Subperm.trans ?_
      (List.mergeSort_perm _ _).symm.subperm)
    apply List.Sublist.subperm
    apply List.Sublist.map
    apply List.monotone_filter_right
    intro fact settled
    exact decide_eq_true (settled_stays within distinct (of_decide_eq_true settled))
  · rw [reconcile_eq, reconcile_eq]
    apply List.monotone_filter_right
    intro fact missing
    exact decide_eq_true (known_stays within (of_decide_eq_true missing))
  · rw [reconcile_eq, reconcile_eq]
    simp only [buckets, List.mem_filterMap, staleEntry_factVerdict, Option.bind_eq_some_iff]
    rintro entry ⟨fact, -, kept, found, made⟩ entry' ⟨fact', -, kept', found', made'⟩ sameKey
    split_ifs at made made'
    obtain rfl := Option.some.inj made
    obtain rfl := Option.some.inj made'
    obtain ⟨newest, foundNewest, notOlder⟩ := Newest.newest_mono within found
    have keys : fact.key = fact'.key := sameKey
    rw [keys] at foundNewest
    obtain rfl := Option.some.inj (found'.symm.trans foundNewest)
    exact notOlder

/-- A late copy of the first version next to a receipt of the second. -/
theorem late_copy_never_reopens :
    (reconcile [revisedInvoice] [{ invoiceReceipt with fact := revisedInvoice }]).settled.Subperm
      (reconcile [revisedInvoice]
        [invoiceReceipt, { invoiceReceipt with fact := revisedInvoice }]).settled :=
  (more_receipts_never_reopen (by decide +kernel) (by unfold Newest.Distinct; decide +kernel)).2.1

end DotmacCloud
