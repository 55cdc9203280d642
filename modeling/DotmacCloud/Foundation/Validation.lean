import Mathlib.Data.List.Forall2

/-! # Validators

A validator returns a value or refuses with an error. It decides a property when it
returns exactly the values that have it and refuses with errors of one kind. The
rules compose such statements along the code of a validator.
-/

namespace DotmacCloud.Foundation.Validation

section Rules

variable {E α β : Type} {refusal : E → Prop}

/-- `x` returns the accepted values and no other, and refuses as `refusal` says. -/
structure Decides (accepts : α → Prop) (refusal : E → Prop) (x : Except E α) : Prop where
  ok : ∀ a, x = .ok a ↔ accepts a
  error : ∀ e, x = .error e → refusal e

theorem Decides.pure (a : α) : Decides (fun b => b = a) refusal (.ok a : Except E α) := by
  constructor
  · intro b
    rw [Except.ok.injEq]
    exact eq_comm
  · intro e refused
    cases refused

theorem Decides.refuse {e : E} (refused : refusal e) :
    Decides (fun _ : α => False) refusal (.error e) := by
  constructor
  · intro a
    simp only [reduceCtorEq]
  · intro e' same
    cases same
    exact refused

theorem Decides.congr {accepts accepts' : α → Prop} {x : Except E α} (decides : Decides accepts refusal x)
    (same : ∀ a, accepts a ↔ accepts' a) : Decides accepts' refusal x :=
  ⟨fun a => (decides.ok a).trans (same a), decides.error⟩

theorem Decides.weaken {accepts : α → Prop} {refusal' : E → Prop} {x : Except E α}
    (decides : Decides accepts refusal x) (within : ∀ e, refusal e → refusal' e) :
    Decides accepts refusal' x := ⟨decides.ok, fun e refused => within e (decides.error e refused)⟩

theorem Decides.bind {accepts : α → Prop} {after : α → β → Prop} {first : Except E α}
    {rest : α → Except E β} (decides : Decides accepts refusal first)
    (next : ∀ a, accepts a → Decides (after a) refusal (rest a)) :
    Decides (fun b => ∃ a, accepts a ∧ after a b) refusal (first >>= rest) := by
  cases ran : first with
  | error e =>
      have never : ∀ a, ¬ accepts a := by
        intro a accepted
        have returned := (decides.ok a).mpr accepted
        rw [ran] at returned
        cases returned
      constructor
      · intro b
        constructor
        · intro returned
          cases returned
        · rintro ⟨a, accepted, _⟩
          exact absurd accepted (never a)
      · intro e' refused
        cases refused
        exact decides.error e ran
  | ok a =>
      have accepted := (decides.ok a).mp ran
      constructor
      · intro b
        constructor
        · intro returned
          exact ⟨a, accepted, ((next a accepted).ok b).mp returned⟩
        · rintro ⟨a', accepted', after_b⟩
          have same := (decides.ok a').mpr accepted'
          rw [ran] at same
          cases same
          exact ((next a accepted).ok b).mpr after_b
      · intro e refused
        exact (next a accepted).error e refused

theorem Decides.map {accepts : α → Prop} {x : Except E α} (decides : Decides accepts refusal x)
    (f : α → β) : Decides (fun b => ∃ a, accepts a ∧ b = f a) refusal (x.map f) := by
  have mapped := decides.bind (fun a _ => Decides.pure (f a))
  cases x <;> exact mapped

/-- A loop over the items decides each of them. -/
theorem Decides.mapM {accepts : α → β → Prop} {f : α → Except E β}
    (each : ∀ a, Decides (accepts a) refusal (f a)) (items : List α) :
    Decides (List.Forall₂ accepts items) refusal (items.mapM f) := by
  induction items with
  | nil =>
      apply (Decides.pure []).congr
      intro results
      rw [List.forall₂_nil_left_iff]
  | cons item items ih =>
      rw [List.mapM_cons]
      apply Decides.congr ((each item).bind (fun b _ => ih.bind (fun bs _ => Decides.pure (b :: bs))))
      intro results
      rw [List.forall₂_cons_left_iff]
      constructor
      · rintro ⟨b, accepted, bs, rest, rfl⟩
        exact ⟨b, bs, accepted, rest, rfl⟩
      · rintro ⟨b, bs, accepted, rest, rfl⟩
        exact ⟨b, accepted, bs, rest, rfl⟩

/-- Lists related item by item satisfy matching properties together. -/
theorem forall_iff_of_related {related : α → β → Prop} {P : α → Prop} {Q : β → Prop}
    (same : ∀ a b, related a b → (P a ↔ Q b)) {items : List α} {results : List β}
    (pairs : List.Forall₂ related items results) : (∀ a ∈ items, P a) ↔ ∀ b ∈ results, Q b := by
  induction pairs with
  | nil => simp only [List.not_mem_nil, false_implies, implies_true]
  | cons first rest ih => simp only [List.forall_mem_cons, same _ _ first, ih]

/-- A validator accepts or refuses. -/
theorem Decides.refused {accepts : α → Prop} {x : Except E α} (decides : Decides accepts refusal x)
    (never : ∀ a, ¬ accepts a) : ∃ e, x = .error e ∧ refusal e := by
  cases ran : x with
  | error e => exact ⟨e, rfl, decides.error e ran⟩
  | ok a => exact absurd ((decides.ok a).mp ran) (never a)

end Rules

end DotmacCloud.Foundation.Validation
