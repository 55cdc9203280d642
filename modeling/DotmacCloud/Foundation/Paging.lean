import Mathlib

/-! # Paging through a queue whose entries may stay

A reader takes the first `limit` entries that are still offered. An entry that
`stays` is offered again on every later page, so a page passes over the ones already
seen and then advances. How far the pages get depends only on where the staying
entries stand: an entry is reached unless `limit` of them are ahead of it.
-/

namespace DotmacCloud.Foundation.Paging

variable {α : Type} (stays : α → Bool) (limit : Nat) (queue : List α)

/-- How many of the first entries stay. -/
def staying (seen : Nat) : Nat := (queue.take seen).countP stays

/-- What is offered when the first `seen` entries have been read. -/
def offered (seen : Nat) : List α := (queue.take seen).filter stays ++ queue.drop seen

/-- How many entries have been read after some pages. -/
def reached : Nat → Nat
  | 0 => 0
  | pages + 1 => reached pages + (limit - staying stays queue (reached pages))

variable {stays limit queue}

/-- A page passes over what stayed before and then reads on. -/
theorem page_eq (seen : Nat) :
    (offered stays queue seen).take limit = ((queue.take seen).filter stays).take limit ++
      (queue.drop seen).take (limit - staying stays queue seen) := by
  rw [offered, List.take_append, staying, List.countP_eq_length_filter]

variable (stays queue) in
theorem staying_mono {a b : Nat} (before : a ≤ b) : staying stays queue a ≤ staying stays queue b := by
  apply List.Sublist.countP_le
  exact (List.take_prefix_take_left before).sublist

variable (stays queue) in
theorem staying_step (a k : Nat) : staying stays queue (a + k) ≤ staying stays queue a + k := by
  have split : queue.take (a + k) = queue.take a ++ (queue.drop a).take k := List.take_add
  simp only [staying, split, List.countP_append]
  have few : ((queue.drop a).take k).countP stays ≤ _ := List.countP_le_length
  have short := List.length_take_le k (queue.drop a)
  omega

/-- A page reads at least one new entry while fewer than `limit` stay. -/
theorem reached_of_few {index : Nat} (few : staying stays queue index < limit) :
    ∀ pages, min pages (index + 1) ≤ reached stays limit queue pages := by
  intro pages
  induction pages with
  | zero => simp
  | succ pages ih =>
      simp only [reached]
      by_cases past : index < reached stays limit queue pages
      · omega
      · have here := staying_mono stays queue (not_lt.mp past)
        omega

/-- Behind `limit` staying entries, nothing is ever read. -/
theorem not_reached_of_many {index : Nat} (many : limit ≤ staying stays queue index) :
    ∀ pages, reached stays limit queue pages ≤ index := by
  intro pages
  induction pages with
  | zero => exact Nat.zero_le _
  | succ pages ih =>
      simp only [reached]
      obtain ⟨k, rfl⟩ := Nat.exists_eq_add_of_le ih
      have step := staying_step stays queue (reached stays limit queue pages) k
      omega

/-- As many pages as there are entries read everything that can be read. -/
theorem reached_all_iff {index : Nat} (inside : index < queue.length) :
    index < reached stays limit queue queue.length ↔ staying stays queue index < limit := by
  constructor
  · intro read
    apply Nat.lt_of_not_le
    intro many
    exact absurd (not_reached_of_many many queue.length) (not_le.mpr read)
  · intro few
    have far := reached_of_few few queue.length
    omega

theorem reached_split_iff {ahead behind : List α} {entry : α} (split : queue = ahead ++ entry :: behind) :
    ahead.length < reached stays limit queue queue.length ↔ ahead.countP stays < limit := by
  have inside : ahead.length < queue.length := by simp [split]
  have here : staying stays queue ahead.length = ahead.countP stays := by simp [staying, split]
  rw [reached_all_iff inside, here]

/-- An entry with `limit` staying ones ahead of it is never read. -/
theorem unread_of_many {ahead behind : List α} {entry : α} (split : queue = ahead ++ entry :: behind)
    (many : ¬ ahead.countP stays < limit) :
    entry ∈ queue.drop (reached stays limit queue queue.length) := by
  have stuck := mt (reached_split_iff split).mp many
  have suffix : queue.drop ahead.length <:+ queue.drop (reached stays limit queue queue.length) :=
    List.drop_suffix_drop_left _ (not_lt.mp stuck)
  apply suffix.mem
  simp [split]

/-- An entry that is never read has `limit` staying ones ahead of it. -/
theorem many_of_unread {entry : α}
    (unread : entry ∈ queue.drop (reached stays limit queue queue.length)) :
    ∃ ahead behind, queue = ahead ++ entry :: behind ∧ ¬ ahead.countP stays < limit := by
  obtain ⟨front, behind, rest⟩ := List.append_of_mem unread
  have split : queue = (queue.take (reached stays limit queue queue.length) ++ front) ++
      entry :: behind := by
    rw [List.append_assoc, ← rest, List.take_append_drop]
  refine ⟨_, behind, split, ?_⟩
  rw [← reached_split_iff split, List.length_append, List.length_take]
  have positive := List.length_pos_of_mem unread
  rw [List.length_drop] at positive
  omega

end DotmacCloud.Foundation.Paging
