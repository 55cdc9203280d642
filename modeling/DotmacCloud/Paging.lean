import DotmacCloud.Foundation.Paging
import DotmacCloud.Repair

/-! # The limit of a drain

A refused output stays in the queue, so repeated drains page through a queue whose
refusals stay. Every output they reach meets the state the unlimited drain would have
shown it; what they reach is decided by `Foundation.Paging`.
-/

namespace DotmacCloud

open Foundation AtMostOnce AdapterReceiptRow

/-- Billing's verdict is a function of the command. -/
def FixedVerdict (t : UUID) (terms : Terms) (accepts : AcceptRatedObligationV1 → Bool) : Prop :=
  ∀ held command, terms.billing.accept ⟨t⟩ acceptedSourceKinds held command =
    .error .billingRuleViolation ↔ accepts command = false

/-- The output has no account, does not translate, or is not accepted. -/
def refuses (t : UUID) (terms : Terms) (accepts : AcceptRatedObligationV1 → Bool)
    (output : RatedObligationOutputV1) : Bool :=
  match prepare ⟨t⟩ terms output with
  | .ok (_, none) => true
  | .ok (_, some command) => !accepts command
  | .error _ => false

section Paging

variable {Digest : Type} [DecidableEq Digest] (kernel : Kernel Digest) (t : UUID)

/-- Committed drains with one limit, one after another. -/
def drains (terms : Terms) (limit : Nat) : Nat → TenantState Digest → Except Raised (TenantState Digest)
  | 0, db => .ok db
  | n + 1, db => do
      let db ← drains terms limit n db
      let (_, db) ← db.drain kernel t terms limit
      return db

variable {kernel} {t} {terms : Terms} {accepts : AcceptRatedObligationV1 → Bool}

/-! ## One output -/

theorem HandedOff.refused_iff {db db' : TenantState Digest} {output : RatedObligationOutputV1}
    {outcome : ReceiptOutcome} (fixed : FixedVerdict t terms accepts)
    (handed : HandedOff kernel ⟨t⟩ (.scoped t) terms db output outcome db') :
    refuses t terms accepts output = true ↔ outcome = .refused := by
  cases handed with
  | refused prepared refusal appended =>
      rename_i fact command tables
      simp only [iff_true, refuses, prepared]
      cases command with
      | none => rfl
      | some command =>
          have refused := refusal command rfl
          have violated : terms.billing.accept ⟨t⟩ acceptedSourceKinds db.obligations command =
              .error .billingRuleViolation := by
            simp only [charge] at refused
            split at refused
            · assumption
            · cases refused
            · cases refused
          simp [(fixed db.obligations command).mp violated]
  | applied prepared charged appended =>
      rename_i fact command tables obligations
      have accepted := charge_eq_some.mp charged
      have verdict : ¬ accepts command = false := by
        intro refused
        rw [(fixed db.obligations command).mpr refused] at accepted
        cases accepted
      simp [refuses, prepared, verdict]

/-- An append that returned replays in every later state, at any time observed: neither
    its key nor its fingerprint covers the time. -/
theorem appendReceipt_again {tables tables' : Tables Digest} {later : Tables Digest} {fact : SourceFact}
    {outcome : ReceiptOutcome} {observedAt : Datetime}
    (returned : appendReceipt kernel (.scoped t) tables fact outcome observedAt = .ok tables')
    (kept : tables'.records <+: later.records) (instant : Int) :
    appendReceipt kernel (.scoped t) later fact outcome (.aware instant) = .ok later := by
  obtain ⟨first, rfl, appended⟩ := appendReceipt_eq_ok returned
  rw [appendReceipt_aware]
  have spent : tables'.spent kernel t (receiptOf fact outcome first) =
      some (handledFingerprint kernel (receiptOf fact outcome first)) := by
    rcases append_cases appended with ⟨unspent, -, rfl⟩ | ⟨spent, rfl⟩
    · exact stored_snoc _ unspent
    · exact spent
  have again : later.spent kernel t (receiptOf fact outcome instant) =
      some (handledFingerprint kernel (receiptOf fact outcome instant)) := stored_mono kept spent
  exact (append_spent (.scoped t) again).trans (if_pos rfl)

/-- The same terms, brought at another time. -/
def Terms.asOf (terms : Terms) (instant : Int) : Terms := { terms with observedAt := .aware instant }

theorem Terms.asOf_self {instant : Int} (aware : terms.observedAt = .aware instant) :
    terms.asOf instant = terms := by
  rw [Terms.asOf, ← aware]

/-- A refused output is refused again, at any time, and leaves nothing new. -/
theorem HandedOff.again {db db' later : TenantState Digest} {output : RatedObligationOutputV1}
    {outcome : ReceiptOutcome} (fixed : FixedVerdict t terms accepts)
    (handed : HandedOff kernel ⟨t⟩ (.scoped t) terms db output outcome db')
    (refused : refuses t terms accepts output = true) (kept : db'.Extends later) (instant : Int) :
    HandedOff kernel ⟨t⟩ (.scoped t) (terms.asOf instant) later output .refused later := by
  obtain rfl := (handed.refused_iff fixed).mp refused
  cases handed with
  | refused prepared refusal appended =>
      rename_i fact command tables
      have unmoved : prepare ⟨t⟩ (terms.asOf instant) output = .ok (fact, command) := prepared
      refine .refused unmoved ?_ (appendReceipt_again appended kept.records instant)
      intro c same
      subst same
      have verdict : accepts c = false := by simpa [refuses, prepared] using refused
      simp only [charge, Terms.asOf, (fixed later.obligations c).mpr verdict]

omit [DecidableEq Digest] in
theorem acknowledged_acknowledge {db : TenantState Digest} {occurrenceId : UUID} {observedAt : Datetime}
    {obligations : List AcceptRatedObligationV1} {tables : Tables Digest} {version : FactVersion} :
    (⟨db.outputs, db.acknowledgeOutput occurrenceId observedAt, obligations, tables⟩ :
        TenantState Digest).acknowledged version ↔
      db.acknowledged version ∨ ∃ output ∈ db.offered, output.occurrenceId = occurrenceId ∧
        output.version = version := by
  simp only [TenantState.acknowledged, TenantState.acknowledgeOutput, TenantState.newlyAcknowledged,
    List.mem_append, List.mem_map, List.mem_filter, decide_eq_true_eq]
  constructor
  · rintro ⟨entry, earlier | ⟨output, ⟨offered, same⟩, rfl⟩, version⟩
    · exact .inl ⟨entry, earlier, version⟩
    · exact .inr ⟨output, offered, same, version⟩
  · rintro (⟨entry, earlier, version⟩ | ⟨output, offered, same, version⟩)
    · exact ⟨entry, .inl earlier, version⟩
    · exact ⟨⟨output.version, observedAt⟩, .inr ⟨output, ⟨offered, same⟩, rfl⟩, version⟩

/-- An applied output leaves the queue, with all of its occurrence. -/
theorem HandedOff.offered {db db' : TenantState Digest} {output : RatedObligationOutputV1}
    {outcome : ReceiptOutcome} (handed : HandedOff kernel ⟨t⟩ (.scoped t) terms db output outcome db') :
    db'.offered = db.offered.filter (fun other =>
      outcome = .refused ∨ other.occurrenceId ≠ output.occurrenceId) := by
  cases handed with
  | refused prepared refusal appended =>
      simp [TenantState.offered, TenantState.acknowledged]
  | applied prepared charged appended =>
      simp only [TenantState.offered, List.filter_filter]
      apply List.filter_congr
      intro other emitted
      by_cases known : db.acknowledged other.version
      · simp [acknowledged_acknowledge, known]
      · by_cases same : other.occurrenceId = output.occurrenceId
        · have reached : ∃ o ∈ db.offered, o.occurrenceId = output.occurrenceId ∧
              o.version = other.version :=
            ⟨other, by simp [TenantState.offered, emitted, known], same, rfl⟩
          simp [acknowledged_acknowledge, known, same, reached]
        · have missed : ¬ ∃ o ∈ db.offered, o.occurrenceId = output.occurrenceId ∧
              o.version = other.version := by
            rintro ⟨o, -, occurrence, version⟩
            exact same ((congrArg FactVersion.occurrenceId version).symm.trans occurrence)
          simp [acknowledged_acknowledge, known, same, missed]

/-! ## A list of outputs -/

/-- The loop of a drain over these outputs returns, and leaves this state. -/
def Walks (kernel : Kernel Digest) (t : UUID) (terms : Terms) (db : TenantState Digest)
    (outputs : List RatedObligationOutputV1) (db' : TenantState Digest) : Prop :=
  ∃ outcomes, applyOutputs kernel ⟨t⟩ (.scoped t) terms outputs db = .ok (outcomes, db')

theorem walks_nil {db db' : TenantState Digest} : Walks kernel t terms db [] db' ↔ db = db' := by
  simp [Walks, applyOutputs]

theorem walks_cons {db db' : TenantState Digest} {output : RatedObligationOutputV1}
    {rest : List RatedObligationOutputV1} :
    Walks kernel t terms db (output :: rest) db' ↔
      ∃ outcome next, HandedOff kernel ⟨t⟩ (.scoped t) terms db output outcome next ∧
        Walks kernel t terms next rest db' := by
  simp only [Walks, applyOutputs_cons_eq_ok]
  constructor
  · rintro ⟨outcomes, outcome, next, others, handed, ran, -⟩
    exact ⟨outcome, next, handed, others, ran⟩
  · rintro ⟨outcome, next, handed, others, ran⟩
    exact ⟨outcome :: others, outcome, next, others, handed, ran, rfl⟩

theorem walks_append {db db' : TenantState Digest} {front back : List RatedObligationOutputV1} :
    Walks kernel t terms db (front ++ back) db' ↔
      ∃ middle, Walks kernel t terms db front middle ∧ Walks kernel t terms middle back db' := by
  induction front generalizing db with
  | nil => simp [walks_nil]
  | cons output rest ih =>
      simp only [List.cons_append, walks_cons, ih]
      constructor
      · rintro ⟨outcome, next, handed, middle, first, second⟩
        exact ⟨middle, ⟨outcome, next, handed, first⟩, second⟩
      · rintro ⟨middle, ⟨outcome, next, handed, first⟩, second⟩
        exact ⟨outcome, next, handed, middle, first, second⟩

theorem Walks.unique {db a b : TenantState Digest} {outputs : List RatedObligationOutputV1}
    (left : Walks kernel t terms db outputs a) (right : Walks kernel t terms db outputs b) : a = b := by
  obtain ⟨outcomes, ran⟩ := left
  obtain ⟨outcomes', ran'⟩ := right
  rw [ran] at ran'
  exact congrArg Prod.snd (Except.ok.inj ran')

theorem Walks.extends {db db' : TenantState Digest} {outputs : List RatedObligationOutputV1}
    (walks : Walks kernel t terms db outputs db') : db.Extends db' := by
  obtain ⟨outcomes, ran⟩ := walks
  exact applyOutputs_extends ran

/-- The queue after the loop: every occurrence it applied is gone. -/
theorem Walks.offered {db db' : TenantState Digest} {outputs : List RatedObligationOutputV1}
    (fixed : FixedVerdict t terms accepts) (walks : Walks kernel t terms db outputs db') :
    db'.offered = db.offered.filter (fun other => ∀ output ∈ outputs,
      refuses t terms accepts output = true ∨ other.occurrenceId ≠ output.occurrenceId) := by
  induction outputs generalizing db with
  | nil =>
      obtain rfl := walks_nil.mp walks
      simp
  | cons output rest ih =>
      obtain ⟨outcome, next, handed, others⟩ := walks_cons.mp walks
      rw [ih others, handed.offered, List.filter_filter]
      apply List.filter_congr
      intro other _
      simp [handed.refused_iff fixed, Bool.and_comm]

/-- The refusals among the outputs already read are refused again, at any time and with
    no effect. -/
theorem Walks.again_asOf {db db' later : TenantState Digest} {outputs : List RatedObligationOutputV1}
    (fixed : FixedVerdict t terms accepts) (walks : Walks kernel t terms db outputs db')
    (kept : db'.Extends later) {output : RatedObligationOutputV1} (member : output ∈ outputs)
    (refused : refuses t terms accepts output = true) (instant : Int) :
    HandedOff kernel ⟨t⟩ (.scoped t) (terms.asOf instant) later output .refused later := by
  induction outputs generalizing db with
  | nil => cases member
  | cons first rest ih =>
      obtain ⟨outcome, next, handed, others⟩ := walks_cons.mp walks
      rcases List.mem_cons.mp member with rfl | behind
      · exact handed.again fixed refused (others.extends.trans kept) instant
      · exact ih others behind

theorem Walks.again {db db' later : TenantState Digest} {outputs : List RatedObligationOutputV1}
    (fixed : FixedVerdict t terms accepts) (walks : Walks kernel t terms db outputs db')
    (kept : db'.Extends later) {output : RatedObligationOutputV1} (member : output ∈ outputs)
    (refused : refuses t terms accepts output = true) :
    HandedOff kernel ⟨t⟩ (.scoped t) terms later output .refused later := by
  obtain ⟨outcomes, ran⟩ := walks
  obtain ⟨instant, aware⟩ := applyOutputs_aware member ran
  have again := Walks.again_asOf fixed ⟨outcomes, ran⟩ kept member refused instant
  rwa [Terms.asOf_self aware] at again

/-- Outputs that are refused without effect make a drain without effect. -/
theorem applyOutputs_idle {db : TenantState Digest} {outputs : List RatedObligationOutputV1}
    (idle : ∀ output ∈ outputs, HandedOff kernel ⟨t⟩ (.scoped t) terms db output .refused db) :
    applyOutputs kernel ⟨t⟩ (.scoped t) terms outputs db =
      .ok (outputs.map (fun _ => .refused), db) := by
  induction outputs with
  | nil => rfl
  | cons output rest ih =>
      have handed := idle output List.mem_cons_self
      have others := ih (fun other member => idle other (List.mem_cons_of_mem _ member))
      exact applyOutputs_cons_eq_ok.mpr ⟨_, _, _, handed, others, rfl⟩

/-! ## Pages -/

section Pages

variable {db full : TenantState Digest} (fixed : FixedVerdict t terms accepts)
  (distinct : (db.offered.map RatedObligationOutputV1.occurrenceId).Nodup)
  (whole : Walks kernel t terms db db.offered full)

include fixed distinct in
/-- After the first entries of the queue, the offered outputs are those of the
    abstract pager. -/
theorem offered_walked {seen : Nat} {later : TenantState Digest}
    (walks : Walks kernel t terms db (db.offered.take seen) later) :
    later.offered = Paging.offered (refuses t terms accepts) db.offered seen := by
  rw [walks.offered fixed]
  have split : db.offered.take seen ++ db.offered.drop seen = db.offered := List.take_append_drop _ _
  have apart := distinct
  rw [← split, List.map_append, List.nodup_append] at apart
  obtain ⟨nodup, -, disjoint⟩ := apart
  conv_lhs => rw [← split]
  rw [List.filter_append, Paging.offered]
  congr 1
  · rw [split]
    apply List.filter_congr
    intro output member
    by_cases stays : refuses t terms accepts output = true
    · simp only [stays, decide_eq_true_eq]
      intro other inside
      by_cases same : output.occurrenceId = other.occurrenceId
      · rw [← List.inj_on_of_nodup_map nodup member inside same]
        exact .inl stays
      · exact .inr same
    · have blocked : ¬ ∀ other ∈ db.offered.take seen, refuses t terms accepts other = true ∨
          output.occurrenceId ≠ other.occurrenceId := by
        intro free
        rcases free output member with stay | differs
        · exact stays stay
        · exact differs rfl
      simp only [stays, blocked, decide_false]
  · rw [split, List.filter_eq_self]
    intro output member
    simp only [decide_eq_true_eq]
    intro other inside
    right
    intro same
    exact disjoint _ (List.mem_map_of_mem inside) _ (List.mem_map_of_mem member) same.symm

include fixed distinct whole in
/-- One page reads on from where the pages before it stopped. -/
theorem drain_page {seen limit : Nat} {later : TenantState Digest}
    (walks : Walks kernel t terms db (db.offered.take seen) later) :
    ∃ outcomes next, later.drain kernel t terms limit = .ok (outcomes, next) ∧
      Walks kernel t terms db (db.offered.take (seen +
        (limit - Paging.staying (refuses t terms accepts) db.offered seen))) next := by
  let more := limit - Paging.staying (refuses t terms accepts) db.offered seen
  have split : db.offered.take (seen + more) = db.offered.take seen ++ (db.offered.drop seen).take more :=
    List.take_add
  have halves := whole
  rw [← List.take_append_drop (seen + more) db.offered, walks_append] at halves
  obtain ⟨next, front, -⟩ := halves
  have fresh := front
  rw [split, walks_append] at fresh
  obtain ⟨middle, first, second⟩ := fresh
  obtain rfl := first.unique walks
  -- What stayed is passed over; the rest of the page is new.
  have passed : Walks kernel t terms middle
      (((db.offered.take seen).filter (refuses t terms accepts)).take limit) middle := by
    refine ⟨_, applyOutputs_idle ?_⟩
    intro output member
    have stayed := List.mem_of_mem_take member
    exact walks.again fixed (.refl _) (List.mem_of_mem_filter stayed) (List.of_mem_filter stayed)
  have page : middle.unacknowledgedOutputs limit =
      ((db.offered.take seen).filter (refuses t terms accepts)).take limit ++
        (db.offered.drop seen).take more := by
    rw [TenantState.unacknowledgedOutputs, offered_walked fixed distinct walks, Paging.page_eq]
  obtain ⟨outcomes, ran⟩ := walks_append.mpr ⟨middle, passed, second⟩
  refine ⟨outcomes, next, ?_, front⟩
  rw [TenantState.drain, drainRatedObligations, page]
  exact ran

include fixed distinct whole in
theorem drains_reached (limit : Nat) (pages : Nat) :
    ∃ later, drains kernel t terms limit pages db = .ok later ∧
      Walks kernel t terms db (db.offered.take
        (Paging.reached (refuses t terms accepts) limit db.offered pages)) later := by
  induction pages with
  | zero => exact ⟨db, rfl, by simp [Paging.reached, walks_nil]⟩
  | succ pages ih =>
      obtain ⟨later, ran, walks⟩ := ih
      obtain ⟨outcomes, next, paged, reached⟩ := drain_page fixed distinct whole walks
      refine ⟨next, ?_, reached⟩
      simp only [drains, ran, paged, bind, Except.bind, pure, Except.pure]

end Pages

/-! ## What the pages reach -/

/-- Outputs that were refused before and are refused again change nothing. -/
theorem Walks.unchanged {db db' : TenantState Digest} {outputs : List RatedObligationOutputV1}
    (fixed : FixedVerdict t terms accepts) (guarded : db.tables.Guarded kernel)
    (walks : Walks kernel t terms db outputs db')
    (settled : ∀ output ∈ outputs, refuses t terms accepts output = true ∧
      HasReceipt t db.tables.receipts output.version .refused) : db' = db := by
  induction outputs generalizing db with
  | nil => exact (walks_nil.mp walks).symm
  | cons output rest ih =>
      obtain ⟨outcome, next, handed, others⟩ := walks_cons.mp walks
      obtain ⟨refused, row, member, same, -⟩ := settled output List.mem_cons_self
      have unmoved : next = db := by
        obtain rfl := (handed.refused_iff fixed).mp refused
        cases handed with
        | refused prepared refusal appended =>
            obtain ⟨instant, -, returned⟩ := appendReceipt_eq_ok appended
            rcases append_cases returned with ⟨unspent, -, -⟩ | ⟨-, rfl⟩
            · have built := rowFor_receiptOf (prepare_fact prepared) t .refused instant
              exact absurd (same.trans built.exact.symm) (rows_absent guarded unspent row member)
            · rfl
      subst unmoved
      exact ih guarded others (fun other inside => settled other (List.mem_cons_of_mem _ inside))

/-- Every new row is about one of the outputs. -/
theorem Walks.rows {db db' : TenantState Digest} {outputs : List RatedObligationOutputV1}
    (walks : Walks kernel t terms db outputs db') {row : AdapterReceiptRow}
    (member : row ∈ db'.tables.receipts) :
    row ∈ db.tables.receipts ∨ ∃ output ∈ outputs, ∃ outcome, RowFor t output outcome row := by
  induction outputs generalizing db with
  | nil =>
      obtain rfl := walks_nil.mp walks
      exact .inl member
  | cons output rest ih =>
      obtain ⟨outcome, next, handed, others⟩ := walks_cons.mp walks
      rcases ih others with before | ⟨other, inside, found⟩
      · rcases handed.row before with known | row_for
        · exact .inl known
        · exact .inr ⟨output, List.mem_cons_self, outcome, row_for⟩
      · exact .inr ⟨other, List.mem_cons_of_mem _ inside, found⟩

theorem Walks.applied {db db' : TenantState Digest} {outputs : List RatedObligationOutputV1}
    (fixed : FixedVerdict t terms accepts) (walks : Walks kernel t terms db outputs db')
    {output : RatedObligationOutputV1} (member : output ∈ outputs) (emitted : output ∈ db.outputs)
    (applied : refuses t terms accepts output = false) : db'.acknowledged output.version := by
  induction outputs generalizing db with
  | nil => cases member
  | cons first rest ih =>
      obtain ⟨outcome, next, handed, others⟩ := walks_cons.mp walks
      rcases List.mem_cons.mp member with rfl | behind
      · apply acknowledged_mono others.extends
        cases outcome with
        | refused =>
            rw [(handed.refused_iff fixed).mpr rfl] at applied
            cases applied
        | applied =>
            cases handed with
            | applied prepared charged appended => exact acknowledged_after emitted _ _ _
      · refine ih others behind ?_
        rw [handed.outputs_eq]
        exact emitted

theorem Walks.sound {db db' : TenantState Digest} {outputs : List RatedObligationOutputV1}
    (walks : Walks kernel t terms db outputs db') (sound : db.Sound kernel t)
    (emitted : ∀ output ∈ outputs, output ∈ db.outputs) : db'.Sound kernel t := by
  obtain ⟨outcomes, ran⟩ := walks
  exact applyOutputs_sound sound emitted ran

omit [DecidableEq Digest] in
theorem not_acknowledged_of_offered {db : TenantState Digest} {output : RatedObligationOutputV1}
    (offered : output ∈ db.offered) : ¬ db.acknowledged output.version := by
  simpa using List.of_mem_filter offered

/-- Repeated drains with one limit reach the state of the unlimited drain exactly when
    every output that still has something to leave behind has fewer than `limit`
    refusals ahead of it. -/
theorem paging_exact (kernel : Kernel Digest) (t : UUID) (events : List DrainEvent) (terms : Terms)
    (accepts : AcceptRatedObligationV1 → Bool) (fixed : FixedVerdict t terms accepts)
    (limit cover : Nat) (covers : (drainHistory kernel t events).offered.length ≤ cover)
    (distinct : ((drainHistory kernel t events).offered.map
      RatedObligationOutputV1.occurrenceId).Nodup)
    (outcomes : List ReceiptOutcome) (full : TenantState Digest)
    (whole : (drainHistory kernel t events).drain kernel t terms cover = .ok (outcomes, full)) :
    ∃ paged, drains kernel t terms limit (drainHistory kernel t events).offered.length
        (drainHistory kernel t events) = .ok paged ∧
      ((paged.obligations = full.obligations ∧ paged.tables.receipts = full.tables.receipts ∧
          ∀ version, paged.acknowledged version ↔ full.acknowledged version) ↔
        ∀ front output back, (drainHistory kernel t events).offered = front ++ output :: back →
          refuses t terms accepts output = false ∨
              ¬ HasReceipt t (drainHistory kernel t events).tables.receipts output.version .refused →
            front.countP (refuses t terms accepts) < limit) := by
  have sound := drainHistory_sound kernel t events
  generalize drainHistory kernel t events = db at *
  have walked : Walks kernel t terms db db.offered full := by
    refine ⟨outcomes, ?_⟩
    rw [← whole, TenantState.drain, drainRatedObligations, TenantState.unacknowledgedOutputs,
      List.take_of_length_le covers]
  obtain ⟨paged, ran, front⟩ := drains_reached fixed distinct walked limit db.offered.length
  refine ⟨paged, ran, ?_⟩
  have halves := walked
  rw [← List.take_append_drop (Paging.reached (refuses t terms accepts) limit db.offered
    db.offered.length) db.offered, walks_append] at halves
  obtain ⟨middle, first, rest⟩ := halves
  obtain rfl := first.unique front
  have emitted : ∀ output ∈ db.offered, output ∈ db.outputs :=
    fun output member => List.mem_of_mem_filter member
  constructor
  · rintro ⟨-, receipts, acknowledged⟩ ahead output behind queue unfinished
    by_contra many
    have unread := Paging.unread_of_many queue many
    have inside := List.mem_of_mem_drop unread
    cases refused : refuses t terms accepts output with
    | false =>
        have known := walked.applied fixed inside (emitted output inside) refused
        have offered : output ∈ middle.offered := by
          rw [offered_walked fixed distinct front]
          exact List.mem_append_right _ unread
        exact not_acknowledged_of_offered offered ((acknowledged output.version).mpr known)
    | true =>
        have absent : ¬ HasReceipt t db.tables.receipts output.version .refused := by
          rcases unfinished with applied | absent
          · rw [refused] at applied
            cases applied
          · exact absent
        have again := walked.again fixed (.refl full) inside refused
        obtain ⟨-, -, row, member, row_for⟩ := again.recorded (walked.sound sound emitted).guarded
        rw [← receipts] at member
        rcases front.rows member with before | ⟨other, read, outcome, other_for⟩
        · exact absent (row_for.hasReceipt before)
        · have version := FactVersion.exactFact_injective (other_for.exact.symm.trans row_for.exact)
          have apart := distinct
          rw [← List.take_append_drop (Paging.reached (refuses t terms accepts) limit db.offered
            db.offered.length) db.offered, List.map_append, List.nodup_append] at apart
          exact apart.2.2 _ (List.mem_map_of_mem read) _ (List.mem_map_of_mem unread)
            (congrArg FactVersion.occurrenceId version)
  · intro few
    have same : full = middle := by
      apply rest.unchanged fixed
      · exact (front.sound sound (fun output member => emitted output (List.mem_of_mem_take member))).guarded
      · intro output member
        obtain ⟨ahead, behind, queue, many⟩ := Paging.many_of_unread member
        have finished := mt (few ahead output behind queue) many
        simp only [not_or, Bool.not_eq_false, not_not] at finished
        exact ⟨finished.1, finished.2.mono (fun row inside => front.extends.receipts.mem inside)⟩
    rw [same]
    exact ⟨rfl, rfl, fun _ => Iff.rfl⟩

end Paging

/-! ## One refusal in front of a window of one -/

/-- The first subscription has no account, the second one has. -/
def halfLinked : Terms where
  billing := recordingBilling
  taxFor := fun _ => .ok noTax
  resolveBillingAccount := fun _ output =>
    .ok (if output.occurrenceId = 7 then none else some 9)
  observedAt := .aware 86400

def twoCharges : List DrainEvent :=
  [.emit (monthlyCharge 7 1), .emit (monthlyCharge 8 1)]

theorem halfLinked_fixed (t : UUID) : FixedVerdict t halfLinked (fun _ => true) := by
  intro held command
  simp only [halfLinked, recordingBilling]
  split_ifs <;> simp

theorem twoCharges_offered :
    (drainHistory plainKernel 1 twoCharges).offered = [monthlyCharge 7 1, monthlyCharge 8 1] := by
  decide +kernel

theorem twoCharges_distinct :
    ((drainHistory plainKernel 1 twoCharges).offered.map
      RatedObligationOutputV1.occurrenceId).Nodup := by
  rw [twoCharges_offered]
  decide

theorem twoCharges_covered : (drainHistory plainKernel 1 twoCharges).offered.length ≤ 2 := by
  rw [twoCharges_offered]
  decide

theorem twoCharges_drained :
    ∃ outcomes, ∃ db' : TenantState Payload,
      (drainHistory plainKernel 1 twoCharges).drain plainKernel 1 halfLinked 2 = .ok (outcomes, db') := by
  have returns : ((drainHistory plainKernel 1 twoCharges).drain plainKernel
      1 halfLinked 2).toOption.isSome = true := by decide +kernel
  cases ran : (drainHistory plainKernel 1 twoCharges).drain plainKernel 1 halfLinked 2 with
  | error e =>
      rw [ran] at returns
      cases returns
  | ok result => exact ⟨result.1, result.2, rfl⟩

theorem paging_exact_halfLinked :
    ∃ full paged : TenantState Payload, drains plainKernel 1 halfLinked 2
        (drainHistory plainKernel 1 twoCharges).offered.length
        (drainHistory plainKernel 1 twoCharges) = .ok paged ∧
      ((paged.obligations = full.obligations ∧ paged.tables.receipts = full.tables.receipts ∧
          ∀ version, paged.acknowledged version ↔ full.acknowledged version) ↔
        ∀ front output back, (drainHistory plainKernel 1 twoCharges).offered =
            front ++ output :: back →
          refuses 1 halfLinked (fun _ => true) output = false ∨
              ¬ HasReceipt 1
                (drainHistory plainKernel 1 twoCharges).tables.receipts
                output.version .refused →
            front.countP (refuses 1 halfLinked (fun _ => true)) < 2) := by
  obtain ⟨outcomes, full, ran⟩ := twoCharges_drained
  exact ⟨full, paging_exact plainKernel 1 twoCharges halfLinked (fun _ => true)
    (halfLinked_fixed _) 2 2 twoCharges_covered twoCharges_distinct outcomes full ran⟩

/-- As many drains as there are outputs, each with a window of one, leave the second
    output unapplied; the drain of the whole queue applies it. -/
theorem paging_starves :
    ((drainHistory plainKernel 1 twoCharges).offered.map
      RatedObligationOutputV1.occurrenceId).Nodup ∧
    FixedVerdict 1 halfLinked (fun _ => true) ∧
    ((drains plainKernel 1 halfLinked 1 2
      (drainHistory plainKernel 1 twoCharges)).toOption.map
        (fun db => db.obligations.length)) = some 0 ∧
    (((drainHistory plainKernel 1 twoCharges).drain plainKernel 1
      halfLinked 2).toOption.map (fun result => result.2.obligations.length)) = some 1 :=
  ⟨twoCharges_distinct, halfLinked_fixed _, by decide +kernel, by decide +kernel⟩

end DotmacCloud
