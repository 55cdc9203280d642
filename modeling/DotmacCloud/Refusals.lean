import DotmacCloud.Consistency
import DotmacCloud.LoneWorker
import DotmacCloud.Paging

/-! # Refusals inside one drain

Outputs of different occurrences do not meet: what one of them writes is the same
whatever was handed off before it. A drain is therefore the drains of its single
outputs, one behind the other, as long as every one of them returns. One that raises
takes the others down with it, and an incoherent tax decision is one that raises.
-/

namespace DotmacCloud

open Foundation AtMostOnce AdapterReceiptRow

/-! ## A caller with arbitrary tax decisions -/

/-- What a caller gives the constructor of `TaxOutcome`. -/
structure TaxTriple where
  amount : Money
  snapshots : List AppliedTaxSnapshotV1
  notAssessedReason : Option String

namespace TaxTriple

def outcome (triple : TaxTriple) : Except Raised TaxOutcome :=
  TaxOutcome.make triple.amount triple.snapshots triple.notAssessedReason

/-- None of the three shapes the constructor refuses. -/
structure Coherent (triple : TaxTriple) : Prop where
  evidenced : ¬ triple.amount.amount.isZero → triple.snapshots ≠ []
  assessed : ¬ triple.amount.amount.isZero → triple.notAssessedReason = none
  explained : triple.amount.amount.isZero → triple.snapshots = [] →
    ¬ blank (triple.notAssessedReason.getD "")

theorem coherent_of_outcome {triple : TaxTriple} {tax : TaxOutcome} (built : triple.outcome = .ok tax) :
    triple.Coherent ∧ tax.amount = triple.amount := by
  simp only [outcome, TaxOutcome.make] at built
  split_ifs at built with evidence reason silence
  obtain rfl := Except.ok.inj built
  refine ⟨⟨?_, ?_, ?_⟩, rfl⟩
  · intro nonzero unbacked
    exact evidence ⟨nonzero, unbacked⟩
  · intro nonzero
    by_contra stated
    exact reason ⟨nonzero, stated⟩
  · intro zero unbacked silent
    exact silence ⟨zero, unbacked, silent⟩

theorem Coherent.outcome {triple : TaxTriple} (coherent : triple.Coherent) :
    ∃ tax, triple.outcome = .ok tax := by
  simp only [TaxTriple.outcome, TaxOutcome.make]
  split_ifs with evidence reason silence
  · exact absurd evidence.2 (coherent.evidenced evidence.1)
  · exact absurd (coherent.assessed reason.1) reason.2
  · exact absurd silence.2.2 (coherent.explained silence.1 silence.2.1)
  · exact ⟨_, rfl⟩

end TaxTriple

structure Caller where
  billing : Billing
  taxOf : RatedObligationOutputV1 → TaxTriple
  resolve : TenantScope → RatedObligationOutputV1 → Option UUID
  observedAt : Datetime

def Caller.terms (caller : Caller) : Terms where
  billing := caller.billing
  taxFor := fun output => (caller.taxOf output).outcome
  resolveBillingAccount := fun scope output => .ok (caller.resolve scope output)
  observedAt := caller.observedAt

def RatedObligationOutputV1.ratedCurrency (output : RatedObligationOutputV1) : Currency :=
  ⟨output.preTaxAmount.currency, output.preTaxAmount.scale⟩

section Batch

variable (t : UUID) (caller : Caller) (verdict : AcceptRatedObligationV1 → Bool)

/-- Billing accepts a command or finds a rule violated, as a function of the command. -/
def Caller.Rules : Prop :=
  ∀ held command,
    if verdict command = true then
      ∃ held', caller.billing.accept ⟨t⟩ acceptedSourceKinds held command = .ok held'
    else caller.billing.accept ⟨t⟩ acceptedSourceKinds held command = .error .billingRuleViolation

/-- The causes of a refusal. -/
inductive Caller.Refusable (output : RatedObligationOutputV1) : Prop where
  | noAccount (unlinked : caller.resolve ⟨t⟩ output = none)
  | incoherentTax (incoherent : ¬ (caller.taxOf output).Coherent)
  | otherCurrency (differs : (caller.taxOf output).amount.currency ≠ output.ratedCurrency)
  | ruleViolation {account : UUID} {tax : TaxOutcome} {command : AcceptRatedObligationV1}
      (linked : caller.resolve ⟨t⟩ output = some account)
      (taxed : (caller.taxOf output).outcome = .ok tax)
      (translated : toCommand caller.billing.toContracts output ⟨t⟩ account tax = .ok command)
      (violates : verdict command = false)

/-- The output's hand-off returns: its tax can be built, its receipt stored, and its
    translation raises nothing but the refusal of a foreign currency. -/
structure Caller.Returns (output : RatedObligationOutputV1) : Prop where
  aware : ∃ instant, caller.observedAt = .aware instant
  coherent : (caller.taxOf output).Coherent
  storable : Storable output
  translates : ∀ account tax e, caller.resolve ⟨t⟩ output = some account →
    (caller.taxOf output).outcome = .ok tax →
    toCommand caller.billing.toContracts output ⟨t⟩ account tax = .error e →
      e.caught = true ∧ (caller.taxOf output).amount.currency ≠ output.ratedCurrency

variable {Digest : Type} [DecidableEq Digest] (kernel : Kernel Digest)

/-- The drain returns; it refuses the refusable outputs and leaves nothing of them but
    the receipt; and every output is answered and written as in a drain of it alone. -/
def RefusalsIsolated (db : TenantState Digest) (limit : Nat) : Prop :=
  ∃ (outcome : RatedObligationOutputV1 → ReceiptOutcome)
    (writes : RatedObligationOutputV1 → TenantState Digest) (db' : TenantState Digest),
    db.drain kernel t caller.terms limit =
      .ok ((db.unacknowledgedOutputs limit).map outcome, db') ∧
    db' = (db.unacknowledgedOutputs limit).foldl (fun state output => state.join (writes output)) db ∧
    ∀ output ∈ db.unacknowledgedOutputs limit,
      applyOutputs kernel ⟨t⟩ (.scoped t) caller.terms [output] db =
        .ok ([outcome output], db.join (writes output)) ∧
      (outcome output = .refused ↔ caller.Refusable t verdict output) ∧
      (caller.Refusable t verdict output →
        HasReceipt t db'.tables.receipts output.version .refused ∧
          ¬ Holds db'.obligations output.version ∧ ¬ db'.acknowledged output.version)

variable {t} {caller} {verdict} {kernel}

/-! ## One output, before Billing -/

/-- Of a linked and taxed output, only its currency or its command can be refused. -/
theorem Caller.Refusable.of_linked {output : RatedObligationOutputV1}
    (refusable : caller.Refusable t verdict output) {account : UUID} {tax : TaxOutcome}
    (linked : caller.resolve ⟨t⟩ output = some account) (taxed : (caller.taxOf output).outcome = .ok tax) :
    (caller.taxOf output).amount.currency ≠ output.ratedCurrency ∨
      ∃ command, toCommand caller.billing.toContracts output ⟨t⟩ account tax = .ok command ∧
        verdict command = false := by
  cases refusable with
  | noAccount unlinked =>
      rw [linked] at unlinked
      cases unlinked
  | incoherentTax incoherent => exact absurd (TaxTriple.coherent_of_outcome taxed).1 incoherent
  | otherCurrency differs => exact .inl differs
  | ruleViolation linked' taxed' translated violates =>
      obtain rfl := Option.some.inj (linked.symm.trans linked')
      obtain rfl := Except.ok.inj (taxed.symm.trans taxed')
      exact .inr ⟨_, translated, violates⟩

variable (verdict) in
/-- What an output whose hand-off returns comes to before Billing sees it. -/
theorem Caller.Returns.prepared {output : RatedObligationOutputV1} (returns : caller.Returns t output) :
    ∃ fact command, prepare ⟨t⟩ caller.terms output = .ok (fact, command) ∧
      (∀ outcome instant, (receiptOf fact outcome instant).WithinColumns) ∧
      (caller.Refusable t verdict output ↔ ∀ c, command = some c → verdict c = false) := by
  obtain ⟨fact, made, fits⟩ := returns.storable.fact
  obtain ⟨tax, taxed⟩ := returns.coherent.outcome
  cases linked : caller.resolve ⟨t⟩ output with
  | none =>
      refine ⟨fact, none, ?_, fits, ?_⟩
      · exact prepare_eq_ok.mpr ⟨tax, taxed, made, .unlinked (congrArg Except.ok linked)⟩
      · apply iff_of_true (.noAccount linked)
        intro c impossible
        cases impossible
  | some account =>
      cases translated : toCommand caller.billing.toContracts output ⟨t⟩ account tax with
      | error e =>
          obtain ⟨caught, differs⟩ := returns.translates account tax e linked taxed translated
          refine ⟨fact, none, ?_, fits, ?_⟩
          · exact prepare_eq_ok.mpr ⟨tax, taxed, made,
              .untranslated (congrArg Except.ok linked) translated caught⟩
          · apply iff_of_true (.otherCurrency differs)
            intro c impossible
            cases impossible
      | ok command =>
          refine ⟨fact, some command, ?_, fits, ?_⟩
          · exact prepare_eq_ok.mpr ⟨tax, taxed, made,
              .translated (congrArg Except.ok linked) translated⟩
          · simp only [Option.some.injEq, forall_eq']
            constructor
            · intro refusable
              cases refusable.of_linked linked taxed with
              | inl differs =>
                  obtain ⟨-, -, same, -⟩ := toCommand_eq_ok translated
                  rw [(TaxTriple.coherent_of_outcome taxed).2] at same
                  exact absurd same differs
              | inr violation =>
                  obtain ⟨violating, translated', violates⟩ := violation
                  obtain rfl := Except.ok.inj (translated.symm.trans translated')
                  exact violates
            · exact .ruleViolation linked taxed translated

/-! ## One output, in any state that has nothing of it -/

omit [DecidableEq Digest] in
variable (t kernel) in
/-- The state holds nothing of the output, and acknowledges of its occurrence what
    `base` would. -/
structure TenantState.ClearFor (observedAt : Datetime) (state base : TenantState Digest)
    (output : RatedObligationOutputV1) : Prop where
  guarded : state.tables.Guarded kernel
  unreceipted : ∀ row ∈ state.tables.receipts, row.exactFact ≠ output.version.exactFact t
  uncharged : ¬ Holds state.obligations output.version
  acknowledges : state.newlyAcknowledged output.occurrenceId observedAt =
    base.newlyAcknowledged output.occurrenceId observedAt

/-- A hand-off of another occurrence leaves the state clear. -/
theorem TenantState.ClearFor.step {terms : Terms} {observedAt : Datetime}
    {base state state' : TenantState Digest} {output other : RatedObligationOutputV1}
    {outcome : ReceiptOutcome} (clear : state.ClearFor t kernel observedAt base other)
    (handed : HandedOff kernel ⟨t⟩ (.scoped t) terms state output outcome state')
    (apart : other.occurrenceId ≠ output.occurrenceId) : state'.ClearFor t kernel observedAt base other := by
  have versions : other.version ≠ output.version :=
    fun same => apart (congrArg FactVersion.occurrenceId same)
  obtain ⟨fact, instant, -, -, returned⟩ := handed.appended
  refine ⟨append_guarded clear.guarded returned, ?_, ?_, ?_⟩
  · intro row member same
    cases handed.row member with
    | inl before => exact clear.unreceipted row before same
    | inr row_for => exact versions (FactVersion.exactFact_injective (same.symm.trans row_for.exact))
  · intro holds
    cases handed with
    | refused prepared refusal appended => exact clear.uncharged holds
    | applied prepared charged appended =>
        rename_i fact command tables obligations
        obtain ⟨obligation, member, same⟩ := holds
        cases (charge_holds charged).1 with
        | inl added =>
            subst added
            cases List.mem_append.mp member with
            | inl before => exact clear.uncharged ⟨obligation, before, same⟩
            | inr last =>
                obtain rfl := List.mem_singleton.mp last
                rw [prepare_command prepared] at same
                exact versions (FactVersion.sourceFact_injective same.symm)
        | inr kept =>
            subst kept
            exact clear.uncharged ⟨obligation, member, same⟩
  · rw [← clear.acknowledges]
    simp only [TenantState.newlyAcknowledged, handed.offered, List.filter_filter]
    congr 1
    apply List.filter_congr
    intro entry _
    by_cases same : entry.occurrenceId = other.occurrenceId
    · simp [same, apart]
    · simp [same]

/-- A clear state appends the receipt of an output that can be stored. -/
theorem TenantState.ClearFor.append {observedAt : Datetime} {base state : TenantState Digest}
    {output : RatedObligationOutputV1} (clear : state.ClearFor t kernel observedAt base output)
    {fact : SourceFact} (made : factOf output = .ok fact) {outcome : ReceiptOutcome} {instant : Int}
    (fits : (receiptOf fact outcome instant).WithinColumns) :
    appendReceipt kernel (.scoped t) state.tables fact outcome (.aware instant) =
      .ok ⟨state.tables.receipts ++ [fromReceipt t (receiptOf fact outcome instant)],
        state.tables.records ++ [recordOf kernel t (receiptOf fact outcome instant)]⟩ := by
  have built := rowFor_receiptOf made t outcome instant
  have unspent : state.tables.spent kernel t (receiptOf fact outcome instant) = none := by
    apply unspent_of_absent clear.guarded
    intro row member same
    exact clear.unreceipted row member (same.trans built.exact)
  rw [appendReceipt_aware]
  exact append_fresh clear.guarded unspent ((columnFault_none_iff t _).mpr fits)

variable (kernel) in
/-- An output whose hand-off returns is answered and written alike in every clear state,
    and refused exactly when there is a cause. -/
theorem Caller.Returns.handedOff {output : RatedObligationOutputV1} (returns : caller.Returns t output)
    (rules : caller.Rules t verdict) (base : TenantState Digest) :
    ∃ outcome, ∃ writes : TenantState Digest,
      (outcome = .refused ↔ caller.Refusable t verdict output) ∧
      ∀ state : TenantState Digest, state.ClearFor t kernel caller.observedAt base output →
        HandedOff kernel ⟨t⟩ (.scoped t) caller.terms state output outcome (state.join writes) := by
  obtain ⟨instant, aware⟩ := returns.aware
  obtain ⟨fact, command, prepared, fits, cause⟩ := returns.prepared verdict
  have made := prepare_fact prepared
  have appended : ∀ (state : TenantState Digest) (outcome : ReceiptOutcome),
      state.ClearFor t kernel caller.observedAt base output →
      appendReceipt kernel (.scoped t) state.tables fact outcome caller.terms.observedAt =
        .ok ⟨state.tables.receipts ++ [fromReceipt t (receiptOf fact outcome instant)],
          state.tables.records ++ [recordOf kernel t (receiptOf fact outcome instant)]⟩ := by
    intro state outcome clear
    have time : caller.terms.observedAt = .aware instant := aware
    rw [time]
    exact clear.append made (fits outcome instant)
  by_cases refused : ∀ c, command = some c → verdict c = false
  · refine ⟨.refused, ⟨[], [], [], [fromReceipt t (receiptOf fact .refused instant)],
      [recordOf kernel t (receiptOf fact .refused instant)]⟩, ?_, ?_⟩
    · exact iff_of_true rfl (cause.mpr refused)
    · intro state clear
      have left := HandedOff.refused prepared (fun c known => ?_) (appended state .refused clear)
      · simpa only [TenantState.join, List.append_nil] using left
      · have violated := rules state.obligations c
        rw [if_neg (by simp [refused c known])] at violated
        simp only [charge, Caller.terms, violated]
  · obtain ⟨c, known, accepted⟩ : ∃ c, command = some c ∧ verdict c = true := by
      simpa only [not_forall, exists_prop, Bool.not_eq_false] using refused
    subst known
    refine ⟨.applied, ⟨[], base.newlyAcknowledged output.occurrenceId caller.observedAt, [c],
      [fromReceipt t (receiptOf fact .applied instant)],
      [recordOf kernel t (receiptOf fact .applied instant)]⟩, ?_, ?_⟩
    · exact iff_of_false (by decide) (fun refusable => refused (cause.mp refusable))
    · intro state clear
      obtain ⟨held, accepts⟩ : ∃ held, caller.billing.accept ⟨t⟩ acceptedSourceKinds state.obligations c =
          .ok held := by
        have answer := rules state.obligations c
        rwa [if_pos accepted] at answer
      -- nothing of this version is held, so the obligation is a new one
      have added : held = state.obligations ++ [c] := by
        cases caller.billing.records accepts with
        | inl added => exact added
        | inr found =>
            obtain ⟨-, obligation, member, same⟩ := found
            rw [prepare_command prepared] at same
            exact absurd ⟨obligation, member, same⟩ clear.uncharged
      subst added
      have left := HandedOff.applied prepared (charge_eq_some.mpr accepts) (appended state .applied clear)
      have time : caller.terms.observedAt = caller.observedAt := rfl
      simpa only [TenantState.join, List.append_nil, TenantState.acknowledgeOutput, time,
        clear.acknowledges] using left

/-! ## The batch -/

/-- Where every output is answered and written alike in every clear state, the loop
    answers and writes them one behind the other. -/
theorem applyOutputs_clear {terms : Terms} {observedAt : Datetime} {base : TenantState Digest}
    {outcome : RatedObligationOutputV1 → ReceiptOutcome}
    {writes : RatedObligationOutputV1 → TenantState Digest} {outputs : List RatedObligationOutputV1}
    (alike : ∀ output ∈ outputs, ∀ state : TenantState Digest,
      state.ClearFor t kernel observedAt base output →
      HandedOff kernel ⟨t⟩ (.scoped t) terms state output (outcome output)
        (state.join (writes output)))
    (distinct : (outputs.map RatedObligationOutputV1.occurrenceId).Nodup) {state : TenantState Digest}
    (clear : ∀ output ∈ outputs, state.ClearFor t kernel observedAt base output) :
    applyOutputs kernel ⟨t⟩ (.scoped t) terms outputs state =
      .ok (outputs.map outcome, outputs.foldl (fun seen output => seen.join (writes output)) state) := by
  induction outputs generalizing state with
  | nil => rfl
  | cons output rest ih =>
      rw [List.map_cons, List.nodup_cons] at distinct
      have handed := alike output List.mem_cons_self state (clear output List.mem_cons_self)
      have others := ih (fun other member => alike other (List.mem_cons_of_mem _ member)) distinct.2
        (fun other member => (clear other (List.mem_cons_of_mem _ member)).step handed
          (fun same => distinct.1 (same ▸ List.mem_map_of_mem member)))
      exact applyOutputs_cons_eq_ok.mpr ⟨_, _, _, handed, others, rfl⟩

/-! ## What a drain that returned tells of its outputs -/

/-- An output that was handed off, and refused only for a cause, meets the condition. -/
theorem HandedOff.returns {db db' : TenantState Digest} (sound : db.Sound kernel t)
    {output : RatedObligationOutputV1} (emitted : output ∈ db.outputs) {outcome : ReceiptOutcome}
    (handed : HandedOff kernel ⟨t⟩ (.scoped t) caller.terms db output outcome db')
    (cause : outcome = .refused → caller.Refusable t verdict output) : caller.Returns t output := by
  obtain ⟨fact, made, row, member, row_for⟩ := handed.recorded sound.guarded
  have storable := storable_of_row (sound.handedOff emitted handed) member row_for made
  obtain ⟨-, instant, -, aware, -⟩ := handed.appended
  obtain ⟨named, command, returned, uncommanded⟩ : ∃ named command,
      prepare ⟨t⟩ caller.terms output = .ok (named, command) ∧ (command = none → outcome = .refused) := by
    cases handed with
    | refused prepared => exact ⟨_, _, prepared, fun _ => rfl⟩
    | applied prepared => exact ⟨_, _, prepared, fun impossible => nomatch impossible⟩
  obtain ⟨tax, taxed, -, prepared⟩ := prepare_eq_ok.mp returned
  have coherent := (TaxTriple.coherent_of_outcome taxed).1
  refine ⟨⟨instant, aware⟩, coherent, storable, ?_⟩
  intro account tax' e linked taxed' raised
  obtain rfl := Except.ok.inj (taxed.symm.trans taxed')
  obtain ⟨caught, nothing⟩ := prepared.of_error (congrArg Except.ok linked) raised
  refine ⟨caught, ?_⟩
  cases (cause (uncommanded nothing)).of_linked linked taxed with
  | inl differs => exact differs
  | inr violation =>
      obtain ⟨violating, translated, -⟩ := violation
      rw [raised] at translated
      cases translated

theorem Caller.Rules.fixed (rules : caller.Rules t verdict) : FixedVerdict t caller.terms verdict := by
  intro held command
  have answer := rules held command
  split_ifs at answer with accepted
  · obtain ⟨held', returned⟩ := answer
    simp [Caller.terms, returned, accepted]
  · simpa [Caller.terms, answer] using accepted

variable (kernel t) in
theorem drainHistory_consistent (events : List DrainEvent) :
    (drainHistory kernel t events).Consistent t := by
  obtain ⟨s, reached, -, same⟩ : ∃ s : System Digest, s.Reachable kernel t ∧ s.Quiet ∧
      s.committed = drainHistory kernel t events := drainHistory_reachable events
  rw [← same]
  exact ((consistent_inductive _).holds reached).1

/-- In a reachable state, an output without a receipt has left nothing. -/
theorem clearFor_of_fresh {events : List DrainEvent} {observedAt : Datetime}
    {output : RatedObligationOutputV1}
    (fresh : ∀ row ∈ (drainHistory kernel t events).tables.receipts,
      row.exactFact ≠ output.version.exactFact t) :
    (drainHistory kernel t events).ClearFor t kernel observedAt (drainHistory kernel t events) output := by
  refine ⟨(drainHistory_sound kernel t events).guarded, fresh, ?_, rfl⟩
  intro holds
  obtain ⟨row, member, exact, -⟩ :=
    (drainHistory_consistent t kernel events).receipted output.version holds
  exact fresh row member exact

/-- What a drain of distinct occurrences leaves of an output it refused: the receipt. -/
theorem refused_left {events : List DrainEvent} {terms : Terms} (fixed : FixedVerdict t terms verdict)
    {limit : Nat}
    (distinct : (((drainHistory kernel t events).unacknowledgedOutputs limit).map
      RatedObligationOutputV1.occurrenceId).Nodup)
    {outcome : RatedObligationOutputV1 → ReceiptOutcome} {db' : TenantState Digest}
    (returned : (drainHistory kernel t events).drain kernel t terms limit =
      .ok (((drainHistory kernel t events).unacknowledgedOutputs limit).map outcome, db'))
    {output : RatedObligationOutputV1}
    (member : output ∈ (drainHistory kernel t events).unacknowledgedOutputs limit)
    (answered : outcome output = .refused) (refuses : refuses t terms verdict output = true) :
    HasReceipt t db'.tables.receipts output.version .refused ∧
      ¬ Holds db'.obligations output.version ∧ ¬ db'.acknowledged output.version := by
  have receipt : HasReceipt t db'.tables.receipts output.version .refused := by
    have pair : (output, ReceiptOutcome.refused) ∈
        ((drainHistory kernel t events).unacknowledgedOutputs limit).zip
          (((drainHistory kernel t events).unacknowledgedOutputs limit).map outcome) := by
      rw [← List.map_prod_left_eq_zip]
      exact List.mem_map.mpr ⟨output, member, by rw [answered]⟩
    obtain ⟨-, -, row, inside, row_for⟩ :=
      applyOutputs_recorded (drainHistory_sound kernel t events) unacknowledged_recorded returned pair
    exact row_for.hasReceipt inside
  have later : drainHistory kernel t (events ++ [.drain terms limit true]) = db' := by
    rw [drainHistory_append, List.foldl_cons, List.foldl_nil]
    simp only [TenantState.next, returned, if_true]
  refine ⟨receipt, ?_, ?_⟩
  · have consistent := drainHistory_consistent t kernel (events ++ [.drain terms limit true])
    have guarded := (drainHistory_sound kernel t (events ++ [.drain terms limit true])).guarded
    rw [later] at consistent guarded
    exact consistent.uncharged guarded receipt
  · apply not_acknowledged_of_offered
    have walks : Walks kernel t terms (drainHistory kernel t events)
        ((drainHistory kernel t events).unacknowledgedOutputs limit) db' := ⟨_, returned⟩
    rw [walks.offered fixed, List.mem_filter, decide_eq_true_eq]
    refine ⟨List.mem_of_mem_take member, ?_⟩
    intro other inside
    by_cases same : output.occurrenceId = other.occurrenceId
    · rw [← List.inj_on_of_nodup_map distinct member inside same]
      exact .inl refuses
    · exact .inr same

/-- In every reachable state, a drain of outputs of distinct occurrences without receipts
    isolates its refusals exactly when the hand-off of every one of them returns. -/
theorem refusals_isolated_iff (kernel : Kernel Digest) (t : UUID) (events : List DrainEvent)
    (caller : Caller) (verdict : AcceptRatedObligationV1 → Bool) (rules : caller.Rules t verdict)
    (limit : Nat)
    (distinct : (((drainHistory kernel t events).unacknowledgedOutputs limit).map
      RatedObligationOutputV1.occurrenceId).Nodup)
    (fresh : ∀ output ∈ (drainHistory kernel t events).unacknowledgedOutputs limit,
      ∀ row ∈ (drainHistory kernel t events).tables.receipts,
        row.exactFact ≠ output.version.exactFact t) :
    RefusalsIsolated t caller verdict kernel (drainHistory kernel t events) limit ↔
      ∀ output ∈ (drainHistory kernel t events).unacknowledgedOutputs limit,
        caller.Returns t output := by
  have sound := drainHistory_sound kernel t events
  constructor
  · rintro ⟨outcome, writes, db', -, -, each⟩ output member
    obtain ⟨alone, refused, -⟩ := each output member
    obtain ⟨answer, next, others, handed, -, same⟩ := applyOutputs_cons_eq_ok.mp alone
    cases same
    exact handed.returns sound (unacknowledged_recorded output member) refused.mp
  · intro returns
    have clear : ∀ output ∈ (drainHistory kernel t events).unacknowledgedOutputs limit,
        (drainHistory kernel t events).ClearFor t kernel caller.observedAt
          (drainHistory kernel t events) output :=
      fun output member => clearFor_of_fresh (fresh output member)
    have someOutcome : Nonempty ReceiptOutcome := ⟨.applied⟩
    have someWrites : Nonempty (TenantState Digest) := ⟨.empty⟩
    choose! outcome writes decided using fun output member =>
      (returns output member).handedOff kernel rules (drainHistory kernel t events)
    have ran := applyOutputs_clear (fun output member => (decided output member).2) distinct clear
    refine ⟨outcome, writes, _, ran, rfl, ?_⟩
    intro output member
    have alone := (decided output member).2 _ (clear output member)
    refine ⟨?_, (decided output member).1, ?_⟩
    · exact applyOutputs_cons_eq_ok.mpr ⟨_, _, [], alone, rfl, rfl⟩
    · intro refusable
      have answered := (decided output member).1.mpr refusable
      exact refused_left rules.fixed distinct ran member answered
        ((alone.refused_iff rules.fixed).mpr answered)

end Batch

/-! ## One tax decision in a queue of two -/

/-- The second charge states why no tax was assessed; the first one does as `reason`
    says, and is linked to the given account. -/
def twoDecisions (reason : Option String) (account : Option UUID) : Caller where
  billing := recordingBilling
  taxOf := fun output => ⟨noTax.amount, [],
    if output.occurrenceId = 7 then reason else noTax.notAssessedReason⟩
  resolve := fun _ output => if output.occurrenceId = 7 then account else some 9
  observedAt := .aware 86400

theorem twoDecisions_rules (reason : Option String) (account : Option UUID) :
    (twoDecisions reason account).Rules 1 (fun _ => true) := by
  intro held command
  rw [if_pos rfl]
  simp only [twoDecisions, recordingBilling]
  split_ifs
  · exact ⟨_, rfl⟩
  · exact ⟨_, rfl⟩

theorem twoDecisions_returns (account : Option UUID) (occurrenceId : UUID) :
    (twoDecisions noTax.notAssessedReason account).Returns 1 (monthlyCharge occurrenceId 1) := by
  have taxed : ((twoDecisions noTax.notAssessedReason account).taxOf
      (monthlyCharge occurrenceId 1)).outcome = .ok noTax := by
    simp only [twoDecisions, ite_self]
    rfl
  refine ⟨⟨86400, rfl⟩, (TaxTriple.coherent_of_outcome taxed).1,
    monthlyCharge_storable occurrenceId 1 (by decide) (by decide), ?_⟩
  intro linked tax e _ built raised
  obtain rfl := Except.ok.inj (taxed.symm.trans built)
  have summed : Decimal.add Decimal.defaultContext ⟨false, 1000000, -2⟩ ⟨false, 0, -2⟩ =
      some ⟨false, 1000000, -2⟩ := by decide +kernel
  simp [toCommand, money, servicePeriod, construct, twoDecisions, recordingBilling, monthlyCharge,
    noTax, summed, bind, Except.bind, pure, Except.pure] at raised

theorem twoCharges_page :
    (drainHistory plainKernel 1 twoCharges).unacknowledgedOutputs 100 =
      [monthlyCharge 7 1, monthlyCharge 8 1] := by
  rw [TenantState.unacknowledgedOutputs, twoCharges_offered]
  rfl

theorem twoCharges_page_distinct :
    (((drainHistory plainKernel 1 twoCharges).unacknowledgedOutputs 100).map
      RatedObligationOutputV1.occurrenceId).Nodup := by
  rw [twoCharges_page]
  decide

theorem twoCharges_unreceipted : (drainHistory plainKernel 1 twoCharges).tables.receipts = [] := rfl

/-- An account missing from the first charge leaves the second one as it would be alone. -/
theorem refusals_isolated_unlinked :
    RefusalsIsolated 1 (twoDecisions noTax.notAssessedReason none) (fun _ => true) plainKernel
      (drainHistory plainKernel 1 twoCharges) 100 := by
  have fresh : ∀ output ∈ (drainHistory plainKernel 1 twoCharges).unacknowledgedOutputs 100,
      ∀ row ∈ (drainHistory plainKernel 1 twoCharges).tables.receipts,
        row.exactFact ≠ output.version.exactFact 1 := by
    intro output _ row member
    rw [twoCharges_unreceipted] at member
    cases member
  apply (refusals_isolated_iff plainKernel 1 twoCharges _ _ (twoDecisions_rules _ _) 100
    twoCharges_page_distinct fresh).mpr
  rw [twoCharges_page]
  intro output member
  simp only [List.mem_cons, List.not_mem_nil, or_false] at member
  cases member with
  | inl first => exact first ▸ twoDecisions_returns none 7
  | inr second => exact second ▸ twoDecisions_returns none 8

/-- A zero without a reason raises out of the drain: nothing is recorded, for the
    charge beside it neither. -/
theorem unexplained_zero_aborts :
    (twoDecisions none (some 9)).Rules 1 (fun _ => true) ∧
    (((drainHistory plainKernel 1 twoCharges).unacknowledgedOutputs 100).map
      RatedObligationOutputV1.occurrenceId).Nodup ∧
    (drainHistory plainKernel 1 twoCharges).tables.receipts = [] ∧
    (drainHistory plainKernel 1 twoCharges).drain plainKernel 1 (twoDecisions none (some 9)).terms 100 =
      .error (.valueError ("zero tax must state why it was not assessed; Cloud composes no " ++
        "tax owner and an unexplained zero is not a decision")) ∧
    ¬ RefusalsIsolated 1 (twoDecisions none (some 9)) (fun _ => true) plainKernel
      (drainHistory plainKernel 1 twoCharges) 100 := by
  have raised : (drainHistory plainKernel 1 twoCharges).drain plainKernel 1
      (twoDecisions none (some 9)).terms 100 =
        .error (.valueError ("zero tax must state why it was not assessed; Cloud composes no " ++
          "tax owner and an unexplained zero is not a decision")) := rfl
  refine ⟨twoDecisions_rules _ _, twoCharges_page_distinct, twoCharges_unreceipted, raised, ?_⟩
  rintro ⟨outcome, writes, db', returned, -⟩
  rw [raised] at returned
  cases returned

end DotmacCloud
