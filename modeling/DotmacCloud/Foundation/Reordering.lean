import Mathlib

/-! # Steps that can be taken the other way round

Two logs are alike when they hold, of each key, the same entries in the same order. A
step that goes alike from alike states, and that can change places with a step of
another key, makes of every order of its inputs that keeps each key's own order the
same answers and alike states.
-/

namespace DotmacCloud.Foundation.Reordering

section Logs

variable {α κ : Type*} [DecidableEq κ] {key : α → κ} {l l' m m' : List α}

def Alike (key : α → κ) (l l' : List α) : Prop :=
  ∀ k, l.filter (fun a => key a = k) = l'.filter (fun a => key a = k)

theorem Alike.refl (l : List α) : Alike key l l := fun _ => rfl

theorem Alike.trans (first : Alike key l m) (second : Alike key m l') : Alike key l l' :=
  fun k => (first k).trans (second k)

theorem Alike.append (first : Alike key l l') (second : Alike key m m') : Alike key (l ++ m) (l' ++ m') := by
  intro k
  rw [List.filter_append, List.filter_append, first k, second k]

/-- Entries of different keys can change places. -/
theorem Alike.swap (apart : ∀ a ∈ l, ∀ b ∈ m, key a ≠ key b) : Alike key (l ++ m) (m ++ l) := by
  intro k
  rw [List.filter_append, List.filter_append]
  by_cases here : ∃ a ∈ l, key a = k
  · obtain ⟨a, member, rfl⟩ := here
    have none : m.filter (fun b => key b = key a) = [] := by
      rw [List.filter_eq_nil_iff]
      intro b inside same
      exact apart a member b inside (of_decide_eq_true same).symm
    rw [none, List.append_nil, List.nil_append]
  · have none : l.filter (fun a => key a = k) = [] := by
      rw [List.filter_eq_nil_iff]
      intro a member same
      exact here ⟨a, member, of_decide_eq_true same⟩
    rw [none, List.append_nil, List.nil_append]

theorem Alike.find (alike : Alike key l l') (k : κ) :
    l.find? (fun a => key a = k) = l'.find? (fun a => key a = k) := by
  rw [← List.head?_filter, ← List.head?_filter, alike k]

theorem Alike.perm (alike : Alike key l l') : l.Perm l' := by
  classical
  rw [List.perm_iff_count]
  intro a
  rw [← List.count_filter (p := fun b => decide (key b = key a)) (by simp), alike (key a)]
  exact List.count_filter (by simp)

theorem Alike.nil (alike : Alike key [] l) : l = [] :=
  alike.perm.nil_eq.symm

/-- Where the first entry of one list stands in the other. -/
theorem Alike.split {a : α} (alike : Alike key (a :: l) l') :
    ∃ front back, l' = front ++ a :: back ∧ (∀ b ∈ front, key b ≠ key a) ∧ Alike key l (front ++ back) := by
  have first : l'.find? (fun b => key b = key a) = some a := by
    rw [← alike.find, List.find?_cons_of_pos (by simp)]
  obtain ⟨-, front, back, rfl, before⟩ := List.find?_eq_some_iff_append.mp first
  have apart : ∀ b ∈ front, key b ≠ key a := by
    intro b member
    simpa using before b member
  refine ⟨front, back, rfl, apart, ?_⟩
  have moved : Alike key (front ++ [a]) ([a] ++ front) := by
    apply Alike.swap
    intro b member c single
    rw [List.mem_singleton.mp single]
    exact apart b member
  have whole : Alike key (a :: l) (a :: (front ++ back)) := by
    have ahead := moved.append (Alike.refl back)
    simp only [List.append_assoc, List.singleton_append] at ahead
    exact alike.trans ahead
  intro k
  have same := whole k
  by_cases here : key a = k
  · simpa [here] using same
  · simpa [here] using same

theorem Alike.insert {a : α} (apart : ∀ b ∈ m, key b ≠ key a) (alike : Alike key l (m ++ m')) :
    Alike key (a :: l) (m ++ a :: m') := by
  have moved : Alike key ([a] ++ m) (m ++ [a]) := by
    apply Alike.swap
    intro b single c member
    rw [List.mem_singleton.mp single]
    exact (apart c member).symm
  have front : Alike key ([a] ++ l) ([a] ++ (m ++ m')) := (Alike.refl [a]).append alike
  have back := moved.append (Alike.refl m')
  simp only [List.append_assoc, List.singleton_append] at front back
  exact front.trans back

end Logs

section Runs

variable {σ α β κ : Type*} [DecidableEq κ]

/-- The steps of a run, each with its input and its answer. -/
inductive Run (Step : σ → α → β → σ → Prop) : List (α × β) → σ → σ → Prop where
  | done (s : σ) : Run Step [] s s
  | next {s mid last : σ} {a : α} {b : β} {rest : List (α × β)} (step : Step s a b mid)
      (later : Run Step rest mid last) : Run Step ((a, b) :: rest) s last

/-- What makes a step independent of the steps of other keys. -/
structure Independent (Step : σ → α → β → σ → Prop) (key : α → κ) (Keeps : σ → Prop)
    (Same : σ → σ → Prop) : Prop where
  refl : ∀ s, Same s s
  trans : ∀ {s s' s''}, Same s s' → Same s' s'' → Same s s''
  keeps : ∀ {s a b t}, Keeps s → Step s a b t → Keeps t
  alike : ∀ {s s' a b t}, Keeps s' → Same s s' → Step s a b t → ∃ t', Step s' a b t' ∧ Same t t'
  swaps : ∀ {s a a' b b' t u}, Keeps s → key a ≠ key a' → Step s a b t → Step t a' b' u →
    ∃ t' u', Step s a' b' t' ∧ Step t' a b u' ∧ Same u u'

variable {Step : σ → α → β → σ → Prop} {key : α → κ} {Keeps : σ → Prop} {Same : σ → σ → Prop}

omit [DecidableEq κ] in
theorem Independent.run_alike (independent : Independent Step key Keeps Same) {steps : List (α × β)}
    {s s' t : σ} (run : Run Step steps s t) (keeps : Keeps s') (same : Same s s') :
    ∃ t', Run Step steps s' t' ∧ Same t t' := by
  induction run generalizing s' with
  | done s => exact ⟨s', .done s', same⟩
  | next step later ih =>
      obtain ⟨mid', step', same'⟩ := independent.alike keeps same step
      obtain ⟨t', later', last⟩ := ih (independent.keeps keeps step') same'
      exact ⟨t', .next step' later', last⟩

omit [DecidableEq κ] in
/-- A step can be taken after steps of other keys. -/
theorem Independent.run_behind (independent : Independent Step key Keeps Same) {a : α} {b : β}
    {front back : List (α × β)} {s t : σ} (keeps : Keeps s) (apart : ∀ p ∈ front, key p.1 ≠ key a)
    (run : Run Step ((a, b) :: (front ++ back)) s t) :
    ∃ t', Run Step (front ++ (a, b) :: back) s t' ∧ Same t t' := by
  induction front generalizing s t with
  | nil => exact ⟨t, run, independent.refl t⟩
  | cons p rest ih =>
      obtain ⟨a', b'⟩ := p
      cases run with
      | next first later =>
          cases later with
          | next second later =>
              obtain ⟨mid, back', first', second', same⟩ :=
                independent.swaps keeps (apart (a', b') List.mem_cons_self).symm first second
              have kept := independent.keeps keeps first'
              obtain ⟨last, later', same'⟩ :=
                independent.run_alike later (independent.keeps kept second') same
              obtain ⟨t', behind, same''⟩ :=
                ih kept (fun p member => apart p (List.mem_cons_of_mem _ member)) (.next second' later')
              exact ⟨t', .next first' behind, independent.trans same' same''⟩

/-- Inputs in any order that keeps each key's own get the same answers, and lead to
    alike states. -/
theorem Independent.reordered (independent : Independent Step key Keeps Same) {steps : List (α × β)}
    {s t : σ} (run : Run Step steps s t) (keeps : Keeps s) {inputs : List α}
    (alike : Alike key (steps.map Prod.fst) inputs) :
    ∃ steps' t', steps'.map Prod.fst = inputs ∧ Alike (fun p => key p.1) steps steps' ∧
      Run Step steps' s t' ∧ Same t t' := by
  induction run generalizing inputs with
  | done s => exact ⟨[], s, alike.nil.symm, .refl [], .done s, independent.refl s⟩
  | @next s mid t a b rest step later ih =>
      obtain ⟨front, back, rfl, apart, others⟩ := alike.split
      obtain ⟨steps', t', inputs', alike', run', same⟩ := ih (independent.keeps keeps step) others
      obtain ⟨before, after, rfl, rfl, rfl⟩ := List.map_eq_append_iff.mp inputs'
      have apart' : ∀ p ∈ before, key p.1 ≠ key a := fun p member => apart p.1 (List.mem_map_of_mem member)
      obtain ⟨t'', behind, same'⟩ := independent.run_behind keeps apart' (.next step run')
      exact ⟨before ++ (a, b) :: after, t'', by simp, alike'.insert apart', behind,
        independent.trans same same'⟩

end Runs

end DotmacCloud.Foundation.Reordering
