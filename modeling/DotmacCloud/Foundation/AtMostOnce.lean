import Mathlib

/-! # At-most-once execution over an append-only table

`executeOnce` runs an operation the first time a key is spent, replays when the
key returns with the stored fingerprint, and refuses it with any other one.
`Guarded` relates the entries to the table the operations write: one entry for
each row, in the order they were written, under distinct keys. It is what makes
a table constraint behind the ledger unreachable.
-/

namespace DotmacCloud.Foundation.AtMostOnce

structure Entry (κ φ : Type) where
  key : κ
  operation : String
  fingerprint : φ
  deriving DecidableEq, Repr

inductive Verdict where
  | fresh | replay | conflict
  deriving DecidableEq, Repr

section Ledger

variable {κ φ ρ σ ε : Type} [DecidableEq κ] [DecidableEq φ]

def stored (entries : List (Entry κ φ)) (key : κ) : Option φ :=
  (entries.find? (fun entry => entry.key = key)).map (·.fingerprint)

def verdict (entries : List (Entry κ φ)) (key : κ) (fingerprint : φ) : Verdict :=
  match stored entries key with
  | none => .fresh
  | some known => if known = fingerprint then .replay else .conflict

/-- The entry is written with the operation's own effect, or not at all. -/
def executeOnce (refusal : ε) (entries : List (Entry κ φ)) (key : κ) (name : String)
    (fingerprint : φ) (operation : σ → Except ε σ) (state : σ) :
    Except ε (List (Entry κ φ) × σ) :=
  match verdict entries key fingerprint with
  | .fresh =>
      match operation state with
      | .ok state' => .ok (entries ++ [⟨key, name, fingerprint⟩], state')
      | .error e => .error e
  | .replay => .ok (entries, state)
  | .conflict => .error refusal

theorem verdict_fresh_iff {entries : List (Entry κ φ)} {key : κ} {fingerprint : φ} :
    verdict entries key fingerprint = .fresh ↔ stored entries key = none := by
  cases found : stored entries key with
  | none => simp [verdict, found]
  | some known => by_cases same : known = fingerprint <;> simp [verdict, found, same]

theorem verdict_replay_iff {entries : List (Entry κ φ)} {key : κ} {fingerprint : φ} :
    verdict entries key fingerprint = .replay ↔ stored entries key = some fingerprint := by
  cases found : stored entries key with
  | none => simp [verdict, found]
  | some known => by_cases same : known = fingerprint <;> simp [verdict, found, same]

theorem verdict_conflict_iff {entries : List (Entry κ φ)} {key : κ} {fingerprint : φ} :
    verdict entries key fingerprint = .conflict ↔
      ∃ known, stored entries key = some known ∧ known ≠ fingerprint := by
  cases found : stored entries key with
  | none => simp [verdict, found]
  | some known => by_cases same : known = fingerprint <;> simp [verdict, found, same]

/-- Everything a returning `executeOnce` can have done. -/
theorem executeOnce_cases {refusal : ε} {entries entries' : List (Entry κ φ)} {key : κ}
    {name : String} {fingerprint : φ} {operation : σ → Except ε σ} {state state' : σ}
    (returned : executeOnce refusal entries key name fingerprint operation state =
      .ok (entries', state')) :
    (stored entries key = none ∧ operation state = .ok state' ∧
      entries' = entries ++ [⟨key, name, fingerprint⟩]) ∨
    (stored entries key = some fingerprint ∧ entries' = entries ∧ state' = state) := by
  simp only [executeOnce] at returned
  cases decided : verdict entries key fingerprint with
  | fresh =>
      simp only [decided] at returned
      cases ran : operation state with
      | error e => simp [ran] at returned
      | ok next =>
          simp only [ran, Except.ok.injEq, Prod.mk.injEq] at returned
          obtain ⟨rfl, rfl⟩ := returned
          exact .inl ⟨verdict_fresh_iff.mp decided, rfl, rfl⟩
  | replay =>
      simp only [decided, Except.ok.injEq, Prod.mk.injEq] at returned
      exact .inr ⟨verdict_replay_iff.mp decided, returned.1.symm, returned.2.symm⟩
  | conflict => simp [decided] at returned

theorem executeOnce_fresh {refusal : ε} {entries : List (Entry κ φ)} {key : κ} {name : String}
    {fingerprint : φ} (operation : σ → Except ε σ) {state state' : σ}
    (unspent : stored entries key = none) (ran : operation state = .ok state') :
    executeOnce refusal entries key name fingerprint operation state =
      .ok (entries ++ [⟨key, name, fingerprint⟩], state') := by
  simp only [executeOnce, verdict_fresh_iff.mpr unspent, ran]

theorem executeOnce_fresh_error {refusal e : ε} {entries : List (Entry κ φ)} {key : κ}
    {name : String} {fingerprint : φ} (operation : σ → Except ε σ) {state : σ}
    (unspent : stored entries key = none) (raised : operation state = .error e) :
    executeOnce refusal entries key name fingerprint operation state = .error e := by
  simp only [executeOnce, verdict_fresh_iff.mpr unspent, raised]

/-- A returning key never runs its operation. -/
theorem executeOnce_spent {refusal : ε} {entries : List (Entry κ φ)} {key : κ} {name : String}
    {fingerprint known : φ} {operation : σ → Except ε σ} {state : σ}
    (spent : stored entries key = some known) :
    executeOnce refusal entries key name fingerprint operation state =
      if known = fingerprint then .ok (entries, state) else .error refusal := by
  by_cases same : known = fingerprint
  · subst same
    simp only [executeOnce, verdict_replay_iff.mpr spent, if_true]
  · simp only [executeOnce, verdict_conflict_iff.mpr ⟨known, spent, same⟩, if_neg same]

end Ledger

section Guard

variable {κ φ ρ : Type} (keyOf : ρ → κ) (printOf : ρ → φ)

/-- The entries of a table, without their operation names. -/
def Mirrors (entries : List (Entry κ φ)) (rows : List ρ) : Prop :=
  entries.map (fun entry => (entry.key, entry.fingerprint)) =
    rows.map (fun row => (keyOf row, printOf row))

structure Guarded (entries : List (Entry κ φ)) (rows : List ρ) : Prop where
  mirrors : Mirrors keyOf printOf entries rows
  distinct : (rows.map keyOf).Nodup

variable {keyOf printOf}

theorem Guarded.empty : Guarded keyOf printOf [] [] := ⟨rfl, List.nodup_nil⟩

theorem Mirrors.append {entries entries' : List (Entry κ φ)} {rows rows' : List ρ}
    (left : Mirrors keyOf printOf entries rows) (right : Mirrors keyOf printOf entries' rows') :
    Mirrors keyOf printOf (entries ++ entries') (rows ++ rows') := by
  simp only [Mirrors, List.map_append] at left right ⊢
  rw [left, right]

theorem Mirrors.keys {entries : List (Entry κ φ)} {rows : List ρ}
    (mirrors : Mirrors keyOf printOf entries rows) :
    entries.map (·.key) = rows.map keyOf := by
  have firsts := congrArg (List.map Prod.fst) mirrors
  simpa only [List.map_map, Function.comp_def] using firsts

theorem Guarded.unique {entries : List (Entry κ φ)} {rows : List ρ}
    (guarded : Guarded keyOf printOf entries rows) {row other : ρ} (member : row ∈ rows)
    (member' : other ∈ rows) (same : keyOf row = keyOf other) : row = other :=
  List.inj_on_of_nodup_map guarded.distinct member member' same

/-- Two suffixes that spent different keys can both follow one guarded table. -/
theorem Guarded.merge {entries left right : List (Entry κ φ)} {rows leftRows rightRows : List ρ}
    (base : Guarded keyOf printOf entries rows)
    (first : Guarded keyOf printOf (entries ++ left) (rows ++ leftRows))
    (second : Guarded keyOf printOf (entries ++ right) (rows ++ rightRows))
    (apart : ∀ a ∈ left, ∀ b ∈ right, a.key ≠ b.key) :
    Guarded keyOf printOf (entries ++ left ++ right) (rows ++ leftRows ++ rightRows) := by
  have suffix : ∀ {more : List (Entry κ φ)} {moreRows : List ρ},
      Guarded keyOf printOf (entries ++ more) (rows ++ moreRows) →
        Mirrors keyOf printOf more moreRows := by
    intro more moreRows guarded
    have mirrors := guarded.mirrors
    simp only [Mirrors, List.map_append] at mirrors
    rw [base.mirrors] at mirrors
    exact List.append_cancel_left mirrors
  refine ⟨first.mirrors.append (suffix second), ?_⟩
  have behind := second.distinct
  rw [List.map_append, List.nodup_append] at behind ⊢
  refine ⟨first.distinct, behind.2.1, ?_⟩
  intro key inFirst other inSecond same
  subst same
  rw [List.map_append, List.mem_append] at inFirst
  rcases inFirst with old | new
  · exact behind.2.2 key old key inSecond rfl
  · rw [← (suffix first).keys] at new
    rw [← (suffix second).keys] at inSecond
    obtain ⟨a, memberA, keyA⟩ := List.mem_map.mp new
    obtain ⟨b, memberB, keyB⟩ := List.mem_map.mp inSecond
    exact apart a memberA b memberB (keyA.trans keyB.symm)

variable [DecidableEq κ]

theorem stored_cons (entry : Entry κ φ) (rest : List (Entry κ φ)) (key : κ) :
    stored (entry :: rest) key =
      if entry.key = key then some entry.fingerprint else stored rest key := by
  by_cases same : entry.key = key <;> simp [stored, same]

theorem stored_mono {entries entries' : List (Entry κ φ)} (kept : entries <+: entries') {key : κ}
    {fingerprint : φ} (spent : stored entries key = some fingerprint) :
    stored entries' key = some fingerprint := by
  obtain ⟨rest, rfl⟩ := kept
  obtain ⟨entry, found, same⟩ := Option.map_eq_some_iff.mp spent
  simp only [stored, List.find?_append, found, Option.some_or, Option.map_some, same]

theorem stored_snoc {entries : List (Entry κ φ)} (entry : Entry κ φ)
    (unspent : stored entries entry.key = none) :
    stored (entries ++ [entry]) entry.key = some entry.fingerprint := by
  have missed : entries.find? (fun known => known.key = entry.key) = none := by
    simpa only [stored, Option.map_eq_none_iff] using unspent
  simp [stored, List.find?_append, missed]

/-- Looking a key up in mirrored entries is looking it up in the rows. -/
theorem Mirrors.stored_eq {entries : List (Entry κ φ)} {rows : List ρ}
    (mirrors : Mirrors keyOf printOf entries rows) (key : κ) :
    stored entries key = (rows.find? (fun row => keyOf row = key)).map printOf := by
  induction entries generalizing rows with
  | nil =>
      obtain rfl : rows = [] := by simpa [Mirrors] using mirrors.symm
      rfl
  | cons entry rest ih =>
      cases rows with
      | nil => simp [Mirrors] at mirrors
      | cons row others =>
          simp only [Mirrors, List.map_cons, List.cons.injEq, Prod.mk.injEq] at mirrors
          obtain ⟨⟨sameKey, samePrint⟩, tail⟩ := mirrors
          rw [stored_cons, ih tail, sameKey, samePrint]
          by_cases same : keyOf row = key <;> simp [same]

theorem Mirrors.stored_none_iff {entries : List (Entry κ φ)} {rows : List ρ}
    (mirrors : Mirrors keyOf printOf entries rows) {key : κ} :
    stored entries key = none ↔ ∀ row ∈ rows, keyOf row ≠ key := by
  simp [mirrors.stored_eq key]

theorem Mirrors.row_of_stored {entries : List (Entry κ φ)} {rows : List ρ}
    (mirrors : Mirrors keyOf printOf entries rows) {key : κ} {fingerprint : φ}
    (spent : stored entries key = some fingerprint) :
    ∃ row ∈ rows, keyOf row = key ∧ printOf row = fingerprint := by
  rw [mirrors.stored_eq key, Option.map_eq_some_iff] at spent
  obtain ⟨row, found, print⟩ := spent
  exact ⟨row, List.mem_of_find?_eq_some found, by simpa using List.find?_some found, print⟩

theorem find_distinct {rows : List ρ} (distinct : (rows.map keyOf).Nodup) {row : ρ}
    (member : row ∈ rows) : rows.find? (fun other => keyOf other = keyOf row) = some row := by
  cases found : rows.find? (fun other => keyOf other = keyOf row) with
  | none =>
      have missed := List.find?_eq_none.mp found row member
      simp at missed
  | some other =>
      have sameKey : keyOf other = keyOf row := by simpa using List.find?_some found
      rw [List.inj_on_of_nodup_map distinct (List.mem_of_find?_eq_some found) member sameKey]

theorem Guarded.stored_of_mem {entries : List (Entry κ φ)} {rows : List ρ}
    (guarded : Guarded keyOf printOf entries rows) {row : ρ} (member : row ∈ rows) :
    stored entries (keyOf row) = some (printOf row) := by
  rw [guarded.mirrors.stored_eq, find_distinct guarded.distinct member, Option.map_some]

/-- An operation that writes exactly the row its key was spent on keeps the guard. -/
theorem Guarded.snoc {entries : List (Entry κ φ)} {rows : List ρ}
    (guarded : Guarded keyOf printOf entries rows) (row : ρ) (name : String)
    (unspent : stored entries (keyOf row) = none) :
    Guarded keyOf printOf (entries ++ [⟨keyOf row, name, printOf row⟩]) (rows ++ [row]) where
  mirrors := guarded.mirrors.append rfl
  distinct := by
    have absent := guarded.mirrors.stored_none_iff.mp unspent
    rw [List.map_append, List.nodup_append]
    refine ⟨guarded.distinct, List.nodup_singleton _, ?_⟩
    intro key inRows other single
    obtain ⟨known, member, rfl⟩ := List.mem_map.mp inRows
    obtain rfl := List.mem_singleton.mp single
    exact absent known member

end Guard

end DotmacCloud.Foundation.AtMostOnce
