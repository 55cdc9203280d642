import Mathlib

/-! # The newest entry of each key

A left fold that keeps, for each key, the entry with the greatest version and the
earlier one on a tie. Where no two entries share key and version there are no
ties, and the order of the entries does not matter.
-/

namespace DotmacCloud.Foundation.Newest

variable {α κ : Type} [DecidableEq κ] (keyOf : α → κ) (versionOf : α → Int)

def keepNewest (latest : κ → Option α) (entry : α) : κ → Option α :=
  match latest (keyOf entry) with
  | none => Function.update latest (keyOf entry) (some entry)
  | some current =>
      if versionOf entry > versionOf current then
        Function.update latest (keyOf entry) (some entry)
      else latest

def newest (entries : List α) : κ → Option α :=
  entries.foldl (keepNewest keyOf versionOf) (fun _ => none)

/-- No two entries share key and version. -/
def Distinct (entries : List α) : Prop :=
  ∀ a ∈ entries, ∀ b ∈ entries, keyOf a = keyOf b → versionOf a = versionOf b → a = b

variable {keyOf versionOf}

theorem keepNewest_other {latest : κ → Option α} {entry : α} {key : κ}
    (other : keyOf entry ≠ key) : keepNewest keyOf versionOf latest entry key = latest key := by
  have apart : key ≠ keyOf entry := Ne.symm other
  simp only [keepNewest]
  cases latest (keyOf entry) with
  | none => simp only [Function.update_of_ne apart]
  | some current =>
      simp only
      split
      · simp only [Function.update_of_ne apart]
      · rfl

theorem keepNewest_same {latest : κ → Option α} {entry : α} :
    keepNewest keyOf versionOf latest entry (keyOf entry) =
      match latest (keyOf entry) with
      | none => some entry
      | some current => if versionOf entry > versionOf current then some entry else some current := by
  simp only [keepNewest]
  cases known : latest (keyOf entry) with
  | none => simp only [Function.update_self]
  | some current =>
      simp only
      split
      · simp only [Function.update_self]
      · exact known

theorem newest_snoc (entries : List α) (entry : α) :
    newest keyOf versionOf (entries ++ [entry]) =
      keepNewest keyOf versionOf (newest keyOf versionOf entries) entry := by
  simp only [newest, List.foldl_append, List.foldl_cons, List.foldl_nil]

/-- The fold keeps, of the entries under a key, the first one with the greatest version. -/
theorem newest_eq_argmax (entries : List α) (key : κ) :
    newest keyOf versionOf entries key =
      (entries.filter (fun entry => keyOf entry = key)).argmax versionOf := by
  induction entries using List.reverseRecOn with
  | nil => rfl
  | append_singleton entries entry ih =>
      rw [newest_snoc, List.filter_append]
      by_cases same : keyOf entry = key
      · subst same
        rw [keepNewest_same, ih, List.filter_singleton, decide_eq_true rfl, cond_true,
          List.argmax_concat]
        cases (entries.filter (fun other => keyOf other = keyOf entry)).argmax versionOf with
        | none => rfl
        | some current => rfl
      · rw [keepNewest_other same, ih, List.filter_singleton, decide_eq_false same, cond_false,
          List.append_nil]

theorem newest_none_iff {entries : List α} {key : κ} :
    newest keyOf versionOf entries key = none ↔ ∀ entry ∈ entries, keyOf entry ≠ key := by
  rw [newest_eq_argmax, List.argmax_eq_none, List.filter_eq_nil_iff]
  simp only [decide_eq_true_eq, ne_eq]

/-- The kept entry is one of the list's, under its key, and no other is newer. -/
theorem newest_spec {entries : List α} {key : κ} {kept : α}
    (found : newest keyOf versionOf entries key = some kept) :
    kept ∈ entries ∧ keyOf kept = key ∧
      ∀ entry ∈ entries, keyOf entry = key → versionOf entry ≤ versionOf kept := by
  rw [newest_eq_argmax] at found
  have listed := List.mem_filter.mp (List.argmax_mem found)
  refine ⟨listed.1, of_decide_eq_true listed.2, ?_⟩
  intro entry member sameKey
  exact List.le_of_mem_argmax (List.mem_filter.mpr ⟨member, decide_eq_true sameKey⟩) found

variable (keyOf versionOf) in
theorem newest_isSome {entries : List α} {entry : α} (member : entry ∈ entries) :
    ∃ kept, newest keyOf versionOf entries (keyOf entry) = some kept := by
  cases found : newest keyOf versionOf entries (keyOf entry) with
  | none => exact absurd rfl (newest_none_iff.mp found entry member)
  | some kept => exact ⟨kept, rfl⟩

/-- Two lists with the same entries under `key` keep the same one, whatever the
    order, when neither holds ties. -/
theorem newest_congr {entries entries' : List α} {key : κ}
    (distinct : Distinct keyOf versionOf entries)
    (same : ∀ entry, keyOf entry = key → (entry ∈ entries ↔ entry ∈ entries')) :
    newest keyOf versionOf entries key = newest keyOf versionOf entries' key := by
  cases left : newest keyOf versionOf entries key with
  | none =>
      refine (newest_none_iff.mpr ?_).symm
      intro entry member sameKey
      exact newest_none_iff.mp left entry ((same entry sameKey).mpr member) sameKey
  | some kept =>
      obtain ⟨member, keptKey, greatest⟩ := newest_spec left
      subst keptKey
      obtain ⟨kept', right⟩ := newest_isSome keyOf versionOf ((same kept rfl).mp member)
      obtain ⟨member', keptKey', greatest'⟩ := newest_spec right
      have inside := (same kept' keptKey').mpr member'
      have equal : versionOf kept = versionOf kept' :=
        le_antisymm (greatest' kept ((same kept rfl).mp member) rfl) (greatest kept' inside keptKey')
      rw [right, distinct kept member kept' inside keptKey'.symm equal]

/-- Entries that are not newer leave the kept one in place. -/
theorem newest_append_of_le {entries later : List α} {key : κ} {kept : α}
    (found : newest keyOf versionOf entries key = some kept)
    (notNewer : ∀ entry ∈ later, keyOf entry = key → versionOf entry ≤ versionOf kept) :
    newest keyOf versionOf (entries ++ later) key = some kept := by
  induction later using List.reverseRecOn with
  | nil => rw [List.append_nil, found]
  | append_singleton later entry ih =>
      have before := ih (fun other member => notNewer other (List.mem_append_left _ member))
      rw [← List.append_assoc, newest_snoc]
      by_cases same : keyOf entry = key
      · subst same
        rw [keepNewest_same, before]
        have bound := notNewer entry (List.mem_append_right _ (List.mem_singleton_self entry)) rfl
        simp only [gt_iff_lt, if_neg (not_lt.mpr bound)]
      · rw [keepNewest_other same, before]

/-- More entries can only raise the version kept under a key. -/
theorem newest_mono {entries entries' : List α} {key : κ} {kept : α}
    (within : ∀ entry ∈ entries, entry ∈ entries')
    (found : newest keyOf versionOf entries key = some kept) :
    ∃ kept', newest keyOf versionOf entries' key = some kept' ∧ versionOf kept ≤ versionOf kept' := by
  obtain ⟨member, rfl, -⟩ := newest_spec found
  obtain ⟨kept', found'⟩ := newest_isSome keyOf versionOf (within kept member)
  exact ⟨kept', found', (newest_spec found').2.2 kept (within kept member) rfl⟩

end DotmacCloud.Foundation.Newest
