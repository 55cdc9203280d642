import DotmacCloud.Manifest

/-! # The gate over components nobody parsed

`evaluate` takes any tuple of components, and its loop looks at availability and
activation only. What the loader checks besides, that there are components, that a
released one carries its evidence and that none of those declares a blocker, the
gate takes on trust.
-/

namespace DotmacCloud.Composition

theorem judge_eq_ok {c : CloudComponent} {blockers judged : List CompositionBlocker}
    (returned : judge blockers c = .ok judged) :
    (c.live ∧ judged = blockers) ∨ (¬ c.live ∧ ∃ blocker, judged = blockers ++ [blocker]) := by
  simp only [judge] at returned
  split_ifs at returned with unreleased pending
  · cases known : c.blocker with
    | none => simp [known] at returned
    | some code =>
        simp only [known] at returned
        refine .inr ⟨?_, _, (Except.ok.inj returned).symm⟩
        simp [CloudComponent.live, unreleased]
  · refine .inr ⟨?_, _, (Except.ok.inj returned).symm⟩
    simp [CloudComponent.live, pending]
  · refine .inl ⟨?_, (Except.ok.inj returned).symm⟩
    simp [CloudComponent.live, not_not.mp unreleased, not_not.mp pending]

theorem judge_live {c : CloudComponent} (live : c.live) (blockers : List CompositionBlocker) :
    judge blockers c = .ok blockers := by
  simp only [CloudComponent.live, decide_eq_true_eq] at live
  simp [judge, live.1, live.2]

/-- The loop only adds blockers, and adds none exactly when every component is live. -/
theorem foldlM_judge_eq_ok {components : List CloudComponent} {blockers judged : List CompositionBlocker}
    (returned : components.foldlM judge blockers = .ok judged) :
    ∃ added, judged = blockers ++ added ∧ (added = [] ↔ ∀ c ∈ components, c.live) := by
  induction components generalizing blockers with
  | nil =>
      cases returned
      exact ⟨[], (List.append_nil _).symm, by simp⟩
  | cons c rest ih =>
      rw [List.foldlM_cons, bind_eq_ok] at returned
      obtain ⟨next, turned, ran⟩ := returned
      obtain ⟨added, rfl, clear⟩ := ih ran
      cases judge_eq_ok turned with
      | inl live =>
          obtain ⟨live, rfl⟩ := live
          exact ⟨added, rfl, by simp [clear, live]⟩
      | inr held =>
          obtain ⟨notLive, blocker, rfl⟩ := held
          exact ⟨blocker :: added, by simp, by simp [notLive]⟩

theorem foldlM_judge_live {components : List CloudComponent} (live : ∀ c ∈ components, c.live)
    (blockers : List CompositionBlocker) : components.foldlM judge blockers = .ok blockers := by
  induction components with
  | nil => rfl
  | cons c rest ih =>
      rw [List.foldlM_cons, judge_live (live c List.mem_cons_self)]
      exact ih (fun other member => live other (List.mem_cons_of_mem c member))

/-- The gate on the evaluation of some components. -/
def gate (checkedIn : Except String Json) (components : List CloudComponent) :
    Except CompositionError CompositionReport := do
  let report ← evaluate checkedIn (some components)
  requireProductionReady checkedIn (some report)

theorem gate_opens_iff (checkedIn : Except String Json) (components : List CloudComponent) :
    (∃ verdict, gate checkedIn components = .ok verdict) ↔ ∀ c ∈ components, c.live := by
  constructor
  · rintro ⟨verdict, returned⟩
    simp only [gate, evaluate, bind_eq_ok] at returned
    obtain ⟨report, ⟨selected, same, blockers, judged, built⟩, opened⟩ := returned
    cases same
    cases built
    have clear := (requireProductionReady_iff checkedIn _).mp ⟨verdict, opened⟩
    obtain ⟨added, appended, live⟩ := foldlM_judge_eq_ok judged
    rw [List.nil_append] at appended
    exact live.mp (appended.symm.trans clear)
  · intro live
    refine ⟨⟨components, []⟩, ?_⟩
    simp only [gate, evaluate, bind, Except.bind, foldlM_judge_live live, pure, Except.pure,
      requireProductionReady, CompositionReport.ready, List.isEmpty_nil, if_true]

/-- What an open gate should tell of its components. -/
def ProductionReady (components : List CloudComponent) : Prop :=
  components ≠ [] ∧ ∀ c ∈ components, c.availability = .released ∧ c.activation = .composed ∧
    c.release ≠ none ∧ c.blocker = none

/-- An open gate vouches for its components exactly where it is closed anyway, or where
    they already carry what the loop does not look at. -/
theorem gate_exact (checkedIn : Except String Json) (components : List CloudComponent) :
    ((∃ verdict, gate checkedIn components = .ok verdict) → ProductionReady components) ↔
      (∃ c ∈ components, ¬ (c.availability = .released ∧ c.activation = .composed)) ∨
        (components ≠ [] ∧ ∀ c ∈ components, c.release ≠ none ∧ c.blocker = none) := by
  have live : (∀ c ∈ components, c.live) ↔
      ∀ c ∈ components, c.availability = .released ∧ c.activation = .composed := by
    simp only [CloudComponent.live, decide_eq_true_eq]
  rw [gate_opens_iff, live]
  by_cases all : ∀ c ∈ components, c.availability = .released ∧ c.activation = .composed
  · have none_held : ¬ ∃ c ∈ components,
        ¬ (c.availability = .released ∧ c.activation = .composed) := by
      rintro ⟨c, member, held⟩
      exact held (all c member)
    rw [or_iff_right none_held]
    constructor
    · intro vouched
      obtain ⟨nonempty, ready⟩ := vouched all
      exact ⟨nonempty, fun c member => (ready c member).2.2⟩
    · rintro ⟨nonempty, evidenced⟩ _
      exact ⟨nonempty, fun c member => ⟨(all c member).1, (all c member).2, evidenced c member⟩⟩
  · have held : ∃ c ∈ components, ¬ (c.availability = .released ∧ c.activation = .composed) := by
      simpa only [not_forall, exists_prop] using all
    exact iff_of_true (fun opened => absurd opened all) (.inl held)

/-- A component marked released and composed that names no release. -/
def unevidenced : CloudComponent where
  distribution := "dotmac-example"
  importPackage := "dotmac_example"
  persistence := .stateless
  availability := .released
  activation := .composed
  release := none
  blocker := none

/-- The gate opens for no components at all, and for a component without evidence. -/
theorem gate_opens_without_evidence :
    ((∃ verdict, gate (.error "not read") [] = .ok verdict) ∧ ¬ ProductionReady []) ∧
    (∃ verdict, gate (.error "not read") [unevidenced] = .ok verdict) ∧
      ¬ ProductionReady [unevidenced] := by
  refine ⟨⟨⟨_, rfl⟩, ?_⟩, ⟨_, rfl⟩, ?_⟩
  · rintro ⟨nonempty, -⟩
    exact nonempty rfl
  · rintro ⟨-, ready⟩
    exact (ready unevidenced (List.mem_singleton_self _)).2.2.1 rfl

end DotmacCloud.Composition
