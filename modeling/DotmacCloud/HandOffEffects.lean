import DotmacCloud.HandOff

/-! # What a hand-off leaves behind

A version is named three ways: by the receipt row, by the Billing command and by
the acknowledgement. The first two are injective in the version. A returning
hand-off is one of two: a refusal that leaves its receipt, or a charge that leaves
an obligation, a receipt and the acknowledgements of its occurrence.
-/

namespace DotmacCloud

open Foundation AtMostOnce AdapterReceiptRow

/-! ## Naming a version -/

namespace FactVersion

/-- How Billing's command names the version. -/
def sourceFact (version : FactVersion) : String × String :=
  (version.occurrenceId.str, toString version.generation)

/-- How a receipt row of this adapter names the version. -/
def exactFact (t : UUID) (version : FactVersion) : ExactFact :=
  ⟨t, adapterName, sourceOwner, version.occurrenceId.str, version.generation⟩

theorem sourceFact_injective {a b : FactVersion} (same : a.sourceFact = b.sourceFact) : a = b := by
  simp only [sourceFact, Prod.mk.injEq] at same
  cases a
  cases b
  simp only at same
  rw [UUID.str_injective same.1, Rendering.intText_injective same.2]

theorem exactFact_injective {t : UUID} {a b : FactVersion} (same : a.exactFact t = b.exactFact t) :
    a = b := by
  simp only [exactFact, ExactFact.mk.injEq, true_and] at same
  cases a
  cases b
  simp only at same
  rw [UUID.str_injective same.1, same.2]

end FactVersion

/-- The tenant's rows hold a receipt of this adapter for the version. -/
def HasReceipt (t : UUID) (rows : List AdapterReceiptRow) (version : FactVersion)
    (outcome : ReceiptOutcome) : Prop :=
  ∃ row ∈ rows, row.exactFact = version.exactFact t ∧ row.outcome = outcome.value

/-- Billing holds an obligation for the version. -/
def Holds (obligations : List AcceptRatedObligationV1) (version : FactVersion) : Prop :=
  ∃ obligation ∈ obligations, obligation.sourceFact = version.sourceFact

instance (t : UUID) (rows : List AdapterReceiptRow) (version : FactVersion) (outcome : ReceiptOutcome) :
    Decidable (HasReceipt t rows version outcome) := by
  unfold HasReceipt
  infer_instance

instance (obligations : List AcceptRatedObligationV1) (version : FactVersion) :
    Decidable (Holds obligations version) := by
  unfold Holds
  infer_instance

theorem HasReceipt.mono {t : UUID} {rows rows' : List AdapterReceiptRow} {version : FactVersion}
    {outcome : ReceiptOutcome} (has : HasReceipt t rows version outcome)
    (kept : ∀ row ∈ rows, row ∈ rows') : HasReceipt t rows' version outcome := by
  obtain ⟨row, member, content⟩ := has
  exact ⟨row, kept row member, content⟩

theorem Holds.mono {obligations obligations' : List AcceptRatedObligationV1} {version : FactVersion}
    (holds : Holds obligations version)
    (kept : ∀ obligation ∈ obligations, obligation ∈ obligations') : Holds obligations' version := by
  obtain ⟨obligation, member, same⟩ := holds
  exact ⟨obligation, kept obligation member, same⟩

/-- A row written for one outcome of one output. -/
structure RowFor (t : UUID) (output : RatedObligationOutputV1) (outcome : ReceiptOutcome)
    (row : AdapterReceiptRow) : Prop where
  exact : row.exactFact = output.version.exactFact t
  print : row.fingerprint = output.requestFingerprint
  outcome : row.outcome = outcome.value

theorem RowFor.hasReceipt {t : UUID} {output : RatedObligationOutputV1} {outcome : ReceiptOutcome}
    {row : AdapterReceiptRow} (row_for : RowFor t output outcome row) {rows : List AdapterReceiptRow}
    (member : row ∈ rows) : HasReceipt t rows output.version outcome :=
  ⟨row, member, row_for.exact, row_for.outcome⟩

/-! ## The stages -/

theorem adapterName_text : ¬ blank adapterName := by decide

/-- The receipt of one outcome of one fact. -/
def receiptOf (fact : SourceFact) (outcome : ReceiptOutcome) (observedAt : Int) : AdapterReceipt :=
  ⟨adapterName, fact, outcome, observedAt, adapterName_text⟩

theorem rowFor_receiptOf {output : RatedObligationOutputV1} {fact : SourceFact}
    (made : factOf output = .ok fact) (t : UUID) (outcome : ReceiptOutcome) (observedAt : Int) :
    RowFor t output outcome (fromReceipt t (receiptOf fact outcome observedAt)) := by
  obtain ⟨owner, ref, version, print⟩ := factOf_eq_ok made
  refine ⟨?_, print, rfl⟩
  simp only [AdapterReceiptRow.exactFact, fromReceipt, receiptOf, FactVersion.exactFact,
    RatedObligationOutputV1.version, owner, ref, version]

/-- The exceptions a translation may raise to have its output refused. -/
def Raised.caught : Raised → Bool
  | .unmappableObligation _ | .valueError _ => true
  | _ => false

/-- How a taxed output comes to its command, or to none. -/
inductive Prepared (scope : TenantScope) (terms : Terms) (output : RatedObligationOutputV1)
    (tax : TaxOutcome) : Option AcceptRatedObligationV1 → Prop where
  | unlinked (resolved : terms.resolveBillingAccount scope output = .ok none) :
      Prepared scope terms output tax none
  | untranslated {account : UUID} {e : Raised}
      (resolved : terms.resolveBillingAccount scope output = .ok (some account))
      (raised : toCommand terms.billing.toContracts output scope account tax = .error e)
      (caught : e.caught = true) : Prepared scope terms output tax none
  | translated {account : UUID} {command : AcceptRatedObligationV1}
      (resolved : terms.resolveBillingAccount scope output = .ok (some account))
      (returned : toCommand terms.billing.toContracts output scope account tax = .ok command) :
      Prepared scope terms output tax (some command)

theorem prepare_eq_ok {scope : TenantScope} {terms : Terms} {output : RatedObligationOutputV1}
    {fact : SourceFact} {command : Option AcceptRatedObligationV1} :
    prepare scope terms output = .ok (fact, command) ↔
      ∃ tax, terms.taxFor output = .ok tax ∧ factOf output = .ok fact ∧
        Prepared scope terms output tax command := by
  constructor
  · intro returned
    simp only [prepare, bind_eq_ok] at returned
    obtain ⟨tax, taxed, made, built, account, resolved, rest⟩ := returned
    cases account with
    | none =>
        cases rest
        exact ⟨tax, taxed, built, .unlinked resolved⟩
    | some account =>
        simp only at rest
        split at rest
        · rename_i reason raised
          cases rest
          exact ⟨tax, taxed, built, .untranslated resolved raised rfl⟩
        · rename_i reason raised
          cases rest
          exact ⟨tax, taxed, built, .untranslated resolved raised rfl⟩
        · cases rest
        · rename_i translated returned
          cases rest
          exact ⟨tax, taxed, built, .translated resolved returned⟩
  · rintro ⟨tax, taxed, made, prepared⟩
    cases prepared with
    | unlinked resolved =>
        simp only [prepare, taxed, made, resolved, bind, Except.bind, pure, Except.pure]
    | untranslated resolved raised caught =>
        rename_i account e
        simp only [prepare, taxed, made, resolved, raised, bind, Except.bind, pure, Except.pure]
        cases e with
        | unmappableObligation | valueError => rfl
        | idempotencyConflict | billingRuleViolation | billingConflict | dataError | integrityError
        | insufficientPrivilege | decimalOverflow | fault => cases caught
    | translated resolved returned =>
        simp only [prepare, taxed, made, resolved, returned, bind, Except.bind, pure, Except.pure]

/-- A translation that raised was caught, and left no command. -/
theorem Prepared.of_error {scope : TenantScope} {terms : Terms} {output : RatedObligationOutputV1}
    {tax : TaxOutcome} {command : Option AcceptRatedObligationV1}
    (prepared : Prepared scope terms output tax command) {account : UUID} {e : Raised}
    (linked : terms.resolveBillingAccount scope output = .ok (some account))
    (raised : toCommand terms.billing.toContracts output scope account tax = .error e) :
    e.caught = true ∧ command = none := by
  cases prepared with
  | unlinked resolved =>
      rw [linked] at resolved
      cases resolved
  | untranslated resolved raised' caught =>
      rw [linked] at resolved
      cases resolved
      rw [raised] at raised'
      cases raised'
      exact ⟨caught, rfl⟩
  | translated resolved returned =>
      rw [linked] at resolved
      cases resolved
      rw [raised] at returned
      cases returned

theorem prepare_fact {scope : TenantScope} {terms : Terms} {output : RatedObligationOutputV1}
    {fact : SourceFact} {command : Option AcceptRatedObligationV1}
    (returned : prepare scope terms output = .ok (fact, command)) : factOf output = .ok fact := by
  obtain ⟨tax, -, made, -⟩ := prepare_eq_ok.mp returned
  exact made

/-- The command names the version its receipt will name. -/
theorem prepare_command {scope : TenantScope} {terms : Terms} {output : RatedObligationOutputV1}
    {fact : SourceFact} {command : AcceptRatedObligationV1}
    (returned : prepare scope terms output = .ok (fact, some command)) :
    command.sourceFact = output.version.sourceFact := by
  obtain ⟨tax, -, -, prepared⟩ := prepare_eq_ok.mp returned
  cases prepared with
  | translated resolved translation =>
      obtain ⟨amount, -, -, rfl⟩ := toCommand_eq_ok translation
      rfl

theorem charge_eq_some {scope : TenantScope} {terms : Terms}
    {held held' : List AcceptRatedObligationV1} {command : AcceptRatedObligationV1} :
    charge scope terms held command = .ok (some held') ↔
      terms.billing.accept scope acceptedSourceKinds held command = .ok held' := by
  simp only [charge]
  cases terms.billing.accept scope acceptedSourceKinds held command with
  | error e => cases e <;> simp
  | ok obligations => simp

/-- What a charge that returned leaves behind: the obligation, recorded now or
    held before, and everything held before. -/
theorem charge_holds {scope : TenantScope} {terms : Terms}
    {held held' : List AcceptRatedObligationV1} {command : AcceptRatedObligationV1}
    (charged : charge scope terms held command = .ok (some held')) :
    (held' = held ++ [command] ∨ held' = held) ∧
      ∃ obligation ∈ held', obligation.sourceFact = command.sourceFact := by
  rcases terms.billing.records (charge_eq_some.mp charged) with rfl | ⟨rfl, found⟩
  · exact ⟨.inl rfl, command, by simp, rfl⟩
  · exact ⟨.inr rfl, found⟩

section Effects

variable {Digest : Type} [DecidableEq Digest] {kernel : Kernel Digest}

theorem appendReceipt_aware (ledger : SqlAlchemyReceiptLedger) (tables : Tables Digest)
    (fact : SourceFact) (outcome : ReceiptOutcome) (instant : Int) :
    appendReceipt kernel ledger tables fact outcome (.aware instant) =
      ledger.append kernel tables (receiptOf fact outcome instant) := by
  have built : AdapterReceipt.make adapterName fact outcome (.aware instant) =
      .ok (receiptOf fact outcome instant) := (receiptOf fact outcome instant).make_eq
  simp only [appendReceipt, built, bind, Except.bind]

theorem appendReceipt_eq_ok {ledger : SqlAlchemyReceiptLedger} {tables tables' : Tables Digest}
    {fact : SourceFact} {outcome : ReceiptOutcome} {observedAt : Datetime}
    (returned : appendReceipt kernel ledger tables fact outcome observedAt = .ok tables') :
    ∃ instant, observedAt = .aware instant ∧
      ledger.append kernel tables (receiptOf fact outcome instant) = .ok tables' := by
  cases observedAt with
  | naive wall =>
      simp only [appendReceipt, AdapterReceipt.make, requireText_of_text _ adapterName_text,
        requireAware, bind, Except.bind] at returned
      cases returned
  | aware instant =>
      rw [appendReceipt_aware] at returned
      exact ⟨instant, rfl, returned⟩

/-- Everything a returning hand-off can have done. -/
inductive HandedOff (kernel : Kernel Digest) (scope : TenantScope) (ledger : SqlAlchemyReceiptLedger)
    (terms : Terms) (db : TenantState Digest) (output : RatedObligationOutputV1) :
    ReceiptOutcome → TenantState Digest → Prop where
  | refused {fact : SourceFact} {command : Option AcceptRatedObligationV1} {tables : Tables Digest}
      (prepared : prepare scope terms output = .ok (fact, command))
      (refusal : ∀ c, command = some c → charge scope terms db.obligations c = .ok none)
      (appended : appendReceipt kernel ledger db.tables fact .refused terms.observedAt = .ok tables) :
      HandedOff kernel scope ledger terms db output .refused { db with tables }
  | applied {fact : SourceFact} {command : AcceptRatedObligationV1} {tables : Tables Digest}
      {obligations : List AcceptRatedObligationV1}
      (prepared : prepare scope terms output = .ok (fact, some command))
      (charged : charge scope terms db.obligations command = .ok (some obligations))
      (appended : appendReceipt kernel ledger db.tables fact .applied terms.observedAt = .ok tables) :
      HandedOff kernel scope ledger terms db output .applied
        { db with
          obligations, tables
          acknowledgements := db.acknowledgeOutput output.occurrenceId terms.observedAt }

theorem refuseFact_eq_ok {ledger : SqlAlchemyReceiptLedger} {terms : Terms} {db : TenantState Digest}
    {fact : SourceFact} {result : ReceiptOutcome × TenantState Digest} :
    refuseFact kernel ledger terms db fact = .ok result ↔
      ∃ tables, appendReceipt kernel ledger db.tables fact .refused terms.observedAt = .ok tables ∧
        (.refused, { db with tables }) = result := by
  simp only [refuseFact, bind_eq_ok, pure, Except.pure, Except.ok.injEq]

theorem settleFact_eq_ok {ledger : SqlAlchemyReceiptLedger} {terms : Terms} {db : TenantState Digest}
    {output : RatedObligationOutputV1} {fact : SourceFact}
    {result : ReceiptOutcome × TenantState Digest} :
    settleFact kernel ledger terms db output fact = .ok result ↔
      ∃ tables, appendReceipt kernel ledger db.tables fact .applied terms.observedAt = .ok tables ∧
        (.applied, { db with
          tables
          acknowledgements := db.acknowledgeOutput output.occurrenceId terms.observedAt }) = result := by
  simp only [settleFact, bind_eq_ok, pure, Except.pure, Except.ok.injEq]
  rfl

theorem handOff_eq_ok {scope : TenantScope} {ledger : SqlAlchemyReceiptLedger} {terms : Terms}
    {db db' : TenantState Digest} {output : RatedObligationOutputV1} {outcome : ReceiptOutcome} :
    handOff kernel scope ledger terms db output = .ok (outcome, db') ↔
      HandedOff kernel scope ledger terms db output outcome db' := by
  constructor
  · intro returned
    simp only [handOff, bind_eq_ok, Prod.exists] at returned
    obtain ⟨fact, command, prepared, rest⟩ := returned
    cases command with
    | none =>
        obtain ⟨tables, appended, same⟩ := refuseFact_eq_ok.mp rest
        cases same
        exact .refused prepared (fun c impossible => by cases impossible) appended
    | some command =>
        simp only [bind_eq_ok] at rest
        obtain ⟨answer, charged, rest⟩ := rest
        cases answer with
        | none =>
            obtain ⟨tables, appended, same⟩ := refuseFact_eq_ok.mp rest
            cases same
            refine .refused prepared (fun c same => ?_) appended
            cases same
            exact charged
        | some obligations =>
            obtain ⟨tables, appended, same⟩ := settleFact_eq_ok.mp rest
            cases same
            exact .applied prepared charged appended
  · intro handed
    cases handed with
    | refused prepared refusal appended =>
        rename_i fact command tables
        have refuse := refuseFact_eq_ok.mpr ⟨tables, appended, rfl⟩
        cases command with
        | none => simpa only [handOff, prepared, bind, Except.bind] using refuse
        | some command =>
            simpa only [handOff, prepared, refusal command rfl, bind, Except.bind] using refuse
    | applied prepared charged appended =>
        rename_i fact command tables obligations
        simp only [handOff, prepared, charged, bind, Except.bind]
        exact settleFact_eq_ok.mpr ⟨tables, appended, rfl⟩

/-- A loop that returned handed off its first output and ran on from there. -/
theorem applyOutputs_cons_eq_ok {scope : TenantScope} {ledger : SqlAlchemyReceiptLedger} {terms : Terms}
    {output : RatedObligationOutputV1} {rest : List RatedObligationOutputV1}
    {db db' : TenantState Digest} {outcomes : List ReceiptOutcome} :
    applyOutputs kernel scope ledger terms (output :: rest) db = .ok (outcomes, db') ↔
      ∃ outcome next others, HandedOff kernel scope ledger terms db output outcome next ∧
        applyOutputs kernel scope ledger terms rest next = .ok (others, db') ∧
        outcomes = outcome :: others := by
  simp only [applyOutputs_cons, bind_eq_ok, Prod.exists, handOff_eq_ok, pure, Except.pure,
    Except.ok.injEq, Prod.mk.injEq]
  constructor
  · rintro ⟨outcome, next, handed, others, last, ran, rfl, rfl⟩
    exact ⟨outcome, next, others, handed, ran, rfl⟩
  · rintro ⟨outcome, next, others, handed, ran, rfl⟩
    exact ⟨outcome, next, handed, others, db', ran, rfl, rfl⟩

/-- Whatever the outcome, a hand-off appended its receipt. -/
theorem HandedOff.appended {scope : TenantScope} {ledger : SqlAlchemyReceiptLedger} {terms : Terms}
    {db db' : TenantState Digest} {output : RatedObligationOutputV1} {outcome : ReceiptOutcome}
    (handed : HandedOff kernel scope ledger terms db output outcome db') :
    ∃ fact instant, factOf output = .ok fact ∧ terms.observedAt = .aware instant ∧
      ledger.append kernel db.tables (receiptOf fact outcome instant) = .ok db'.tables := by
  cases handed with
  | refused prepared refusal appended =>
      obtain ⟨instant, aware, returned⟩ := appendReceipt_eq_ok appended
      exact ⟨_, instant, prepare_fact prepared, aware, returned⟩
  | applied prepared charged appended =>
      obtain ⟨instant, aware, returned⟩ := appendReceipt_eq_ok appended
      exact ⟨_, instant, prepare_fact prepared, aware, returned⟩

/-- Every row after a hand-off stood before it or was written for it. -/
theorem HandedOff.row {t : UUID} {scope : TenantScope} {terms : Terms} {db db' : TenantState Digest}
    {output : RatedObligationOutputV1} {outcome : ReceiptOutcome}
    (handed : HandedOff kernel scope (.scoped t) terms db output outcome db') {row : AdapterReceiptRow}
    (member : row ∈ db'.tables.receipts) :
    row ∈ db.tables.receipts ∨ RowFor t output outcome row := by
  obtain ⟨fact, instant, made, -, returned⟩ := handed.appended
  rcases append_cases returned with ⟨-, -, same⟩ | ⟨-, same⟩
  · rw [same] at member
    rcases List.mem_append.mp member with earlier | last
    · exact .inl earlier
    · obtain rfl := List.mem_singleton.mp last
      exact .inr (rowFor_receiptOf made t outcome instant)
  · rw [same] at member
    exact .inl member

/-- After a hand-off, a row of exactly its outcome and content stands in the table. -/
theorem HandedOff.recorded {t : UUID} {scope : TenantScope} {terms : Terms}
    {db db' : TenantState Digest} {output : RatedObligationOutputV1} {outcome : ReceiptOutcome}
    (guarded : db.tables.Guarded kernel)
    (handed : HandedOff kernel scope (.scoped t) terms db output outcome db') :
    ∃ fact, factOf output = .ok fact ∧ ∃ row ∈ db'.tables.receipts, RowFor t output outcome row := by
  obtain ⟨fact, instant, made, -, returned⟩ := handed.appended
  obtain ⟨row, member, exact, print, outcome⟩ := append_recorded guarded returned
  have built := rowFor_receiptOf made t ‹ReceiptOutcome› instant
  exact ⟨fact, made, row, member, exact.trans built.exact, print.trans built.print, outcome⟩

/-- What every hand-off of a list keeps, the whole list keeps. -/
theorem applyOutputs_keeps (Keeps : TenantState Digest → Prop) {scope : TenantScope}
    {ledger : SqlAlchemyReceiptLedger} {terms : Terms} {outputs : List RatedObligationOutputV1}
    (step : ∀ output ∈ outputs, ∀ db outcome db', Keeps db →
      HandedOff kernel scope ledger terms db output outcome db' → Keeps db')
    {db db' : TenantState Digest} {outcomes : List ReceiptOutcome} (start : Keeps db)
    (returned : applyOutputs kernel scope ledger terms outputs db = .ok (outcomes, db')) :
    Keeps db' := by
  induction outputs generalizing db outcomes with
  | nil =>
      cases returned
      exact start
  | cons output rest ih =>
      obtain ⟨outcome, next, others, handed, ran, -⟩ := applyOutputs_cons_eq_ok.mp returned
      have kept := step output List.mem_cons_self db outcome next start handed
      exact ih (fun other member => step other (List.mem_cons_of_mem _ member)) kept ran

end Effects

end DotmacCloud
