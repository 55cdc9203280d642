import DotmacCloud.Foundation.Validation
import DotmacCloud.Composition

/-! # What the loader accepts and what the gate lets through

`Declares` says of a document which components it declares, without naming a
validator. The loader returns exactly these components and refuses every other
document with a ManifestError; what it returns never lets the gate misfire.
-/

namespace DotmacCloud.Composition

open Foundation.Validation

/-! ## Documents -/

/-- The document is an object that reads `value` under `key`; an absent key reads null. -/
def Json.Reads (raw : Json) (key : String) (value : Json) : Prop :=
  ∃ pairs, raw = .obj pairs ∧ Mapping.get pairs key = value

structure ReleaseOf (distribution : String) (raw : Json) (evidence : ReleaseEvidence) : Prop where
  version : raw.Reads "version" (.str evidence.version)
  tag : raw.Reads "tag" (.str evidence.tag)
  peeledCommit : raw.Reads "peeled_commit" (.str evidence.peeledCommit)
  versionText : ¬ blank evidence.version
  tagged : evidence.tag = distribution ++ "-v" ++ evidence.version
  commitLength : evidence.peeledCommit.length = 40
  commitDigits : ∀ c ∈ evidence.peeledCommit.toList, ('0' ≤ c ∧ c ≤ '9') ∨ ('a' ≤ c ∧ c ≤ 'f')

/-- A released entry carries its evidence and no blocker; any other carries a blocker
    and no release, and is not composed. -/
inductive Lifecycle (raw : Json) (c : CloudComponent) : Prop where
  | released (state : c.availability = .released) (entry : Json) (evidence : ReleaseEvidence)
      (at_release : raw.Reads "release" entry) (valid : ReleaseOf c.distribution entry evidence)
      (release : c.release = some evidence) (unblocked : raw.Reads "blocker" .null)
      (noBlocker : c.blocker = none)
  | unreleased (state : c.availability ≠ .released) (code : String) (at_release : raw.Reads "release" .null)
      (noRelease : c.release = none) (blocked : raw.Reads "blocker" (.str code)) (text : ¬ blank code)
      (blocker : c.blocker = some code) (pending : c.activation = .pending)

structure Entry (raw : Json) (c : CloudComponent) : Prop where
  distribution : raw.Reads "distribution" (.str c.distribution)
  distributionText : ¬ blank c.distribution
  importPackage : raw.Reads "import_package" (.str c.importPackage)
  importPackageText : ¬ blank c.importPackage
  persistence : raw.Reads "persistence" (.str c.persistence.value)
  availability : raw.Reads "availability" (.str c.availability.value)
  activation : raw.Reads "activation" (.str c.activation.value)
  lifecycle : Lifecycle raw c

/-- The document declares these components, one for each entry and in strict order. -/
structure Declares (raw : Json) (components : List CloudComponent) : Prop where
  version : ∃ value, raw.Reads "schema_version" value ∧ value.equalsOne = true
  entries : ∃ items, raw.Reads "components" (.list items) ∧ items ≠ [] ∧
    List.Forall₂ Entry items components
  ordered : (components.map CloudComponent.distribution).Pairwise (· < ·)

theorem reads_obj {pairs : Mapping} {key : String} {value : Json} :
    Json.Reads (.obj pairs) key value ↔ pairs.get key = value := by
  constructor
  · rintro ⟨_, same, reads⟩
    cases same
    exact reads
  · intro reads
    exact ⟨pairs, rfl, reads⟩

theorem Json.Reads.unique {raw value value' : Json} {key : String} (first : raw.Reads key value)
    (second : raw.Reads key value') : value = value' := by
  obtain ⟨pairs, rfl, reads⟩ := first
  exact reads.symm.trans (reads_obj.mp second)

/-! ## The validators decide -/

def CompositionError.IsManifestError (e : CompositionError) : Prop := ∃ message, e = .manifestError message

theorem refuseIf_decides (bad : Prop) [Decidable bad] (message : String) :
    Decides (fun _ => ¬ bad) CompositionError.IsManifestError (refuseIf bad message) := by
  unfold refuseIf
  split_ifs with holds
  · apply (Decides.refuse ⟨message, rfl⟩).congr
    intro _
    simp only [holds, not_true_eq_false]
  · apply (Decides.pure ()).congr
    intro _
    simp only [holds, not_false_eq_true]

theorem mapping_decides (value : Json) (context : String) :
    Decides (fun pairs => value = .obj pairs) CompositionError.IsManifestError (mapping value context) := by
  cases value with
  | obj pairs =>
      apply (Decides.pure pairs).congr
      intro other
      rw [Json.obj.injEq]
      exact eq_comm
  | null | bool | int | float | str | list =>
      apply (Decides.refuse ⟨_, rfl⟩).congr
      intro pairs
      simp only [reduceCtorEq]

theorem string_decides (item : Mapping) (key context : String) :
    Decides (fun text => item.get key = .str text ∧ ¬ blank text) CompositionError.IsManifestError
      (string item key context) := by
  unfold string
  cases item.get key with
  | str value =>
      by_cases empty : blank value = true
      · simp only [if_pos empty]
        apply (Decides.refuse ⟨_, rfl⟩).congr
        intro text
        simp only [Json.str.injEq, false_iff]
        rintro ⟨rfl, text⟩
        exact text empty
      · simp only [if_neg empty]
        apply (Decides.pure value).congr
        intro text
        simp only [Json.str.injEq]
        constructor
        · rintro rfl
          exact ⟨rfl, empty⟩
        · rintro ⟨rfl, _⟩
          rfl
  | null | bool | int | float | list | obj =>
      apply (Decides.refuse ⟨_, rfl⟩).congr
      intro text
      simp only [reduceCtorEq, false_and]

theorem optionalString_decides (item : Mapping) (key context : String) :
    Decides (fun text => (item.get key = .null ∧ text = none) ∨
        ∃ value, item.get key = .str value ∧ ¬ blank value ∧ text = some value)
      CompositionError.IsManifestError (optionalString item key context) := by
  unfold optionalString
  cases item.get key with
  | null =>
      apply (Decides.pure none).congr
      intro text
      simp
  | str value =>
      by_cases empty : blank value = true
      · simp only [if_pos empty]
        apply (Decides.refuse ⟨_, rfl⟩).congr
        intro text
        simp [empty]
      · simp only [if_neg empty]
        apply (Decides.pure (some value)).congr
        intro text
        simp [empty]
  | bool | int | float | list | obj =>
      apply (Decides.refuse ⟨_, rfl⟩).congr
      intro text
      simp

/-- Any of the errors `except ValueError` catches. -/
def CompositionError.Caught (e : CompositionError) : Prop := e.isValueError = true

theorem CompositionError.IsManifestError.caught {e : CompositionError} (manifest : e.IsManifestError) :
    e.Caught := by
  obtain ⟨message, rfl⟩ := manifest
  rfl

theorem member_decides {Member : Type} {enumeration : String} {members : List Member}
    {value : Member → String} (injective : ∀ a b, value a = value b → a = b)
    (all : ∀ known, known ∈ members) (text : String) :
    Decides (fun known => text = value known) CompositionError.Caught
      (member enumeration members value text) := by
  unfold member
  cases found : members.find? (fun known => value known = text) with
  | none =>
      have caught : (CompositionError.unknownMember enumeration).Caught := rfl
      apply (Decides.refuse caught).congr
      intro known
      have differs := List.find?_eq_none.mp found known (all known)
      simp only [decide_eq_true_eq] at differs
      simp only [false_iff]
      exact fun same => differs same.symm
  | some known =>
      have named := List.find?_some found
      simp only [decide_eq_true_eq] at named
      apply (Decides.pure known).congr
      intro other
      constructor
      · rintro rfl
        exact named.symm
      · intro same
        exact injective other known (same.symm.trans named.symm)

theorem persistence_decides (text : String) :
    Decides (fun known => text = Persistence.value known) CompositionError.Caught
      (Persistence.ofValue text) := by
  apply member_decides
  · intro a b same
    cases a <;> cases b <;> first | rfl | (revert same; decide)
  · intro known
    cases known <;> decide

theorem availability_decides (text : String) :
    Decides (fun known => text = Availability.value known) CompositionError.Caught
      (Availability.ofValue text) := by
  apply member_decides
  · intro a b same
    cases a <;> cases b <;> first | rfl | (revert same; decide)
  · intro known
    cases known <;> decide

theorem activation_decides (text : String) :
    Decides (fun known => text = Activation.value known) CompositionError.Caught
      (Activation.ofValue text) := by
  apply member_decides
  · intro a b same
    cases a <;> cases b <;> first | rfl | (revert same; decide)
  · intro known
    cases known <;> decide

theorem exceptValueError_decides {α : Type} {accepts : α → Prop} {body : Except CompositionError α}
    (decides : Decides accepts CompositionError.Caught body) (message : String) :
    Decides accepts CompositionError.IsManifestError (exceptValueError body message) := by
  cases ran : body with
  | ok a =>
      constructor
      · intro b
        rw [← decides.ok b, ran]
        rfl
      · intro e refused
        cases refused
  | error e =>
      have caught : e.isValueError = true := decides.error e ran
      simp only [exceptValueError, if_pos caught]
      apply (Decides.refuse ⟨message, rfl⟩).congr
      intro a
      rw [← decides.ok a, ran]
      simp only [reduceCtorEq]

theorem Persistence.value_text (known : Persistence) : ¬ blank known.value := by
  cases known <;> decide

theorem Availability.value_text (known : Availability) : ¬ blank known.value := by
  cases known <;> decide

theorem Activation.value_text (known : Activation) : ¬ blank known.value := by
  cases known <;> decide

theorem states_decides (item : Mapping) (context : String) :
    Decides (fun known : Persistence × Availability × Activation =>
        item.get "persistence" = .str known.1.value ∧ item.get "availability" = .str known.2.1.value ∧
          item.get "activation" = .str known.2.2.value)
      CompositionError.Caught (states item context) := by
  have read : ∀ key, Decides (fun text => item.get key = .str text ∧ ¬ blank text) CompositionError.Caught
      (string item key context) := by
    intro key
    exact (string_decides item key context).weaken (fun _ manifest => manifest.caught)
  unfold states
  apply Decides.congr ((read "persistence").bind fun p _ => (persistence_decides p).bind fun persistence _ =>
    (read "availability").bind fun v _ => (availability_decides v).bind fun availability _ =>
    (read "activation").bind fun a _ => (activation_decides a).bind fun activation _ =>
    Decides.pure (persistence, availability, activation))
  intro known
  constructor
  · rintro ⟨p, ⟨is_p, _⟩, persistence, rfl, v, ⟨is_v, _⟩, availability, rfl, a, ⟨is_a, _⟩, activation, rfl, rfl⟩
    exact ⟨is_p, is_v, is_a⟩
  · rintro ⟨is_p, is_v, is_a⟩
    exact ⟨_, ⟨is_p, known.1.value_text⟩, _, rfl, _, ⟨is_v, known.2.1.value_text⟩, _, rfl, _,
      ⟨is_a, known.2.2.value_text⟩, _, rfl, rfl⟩

theorem isSha_iff {text : String} :
    isSha text = true ↔ text.length = 40 ∧
      ∀ c ∈ text.toList, ('0' ≤ c ∧ c ≤ '9') ∨ ('a' ≤ c ∧ c ≤ 'f') := by
  simp only [isSha, isLowerHex, Bool.decide_and, Bool.and_eq_true, decide_eq_true_eq, List.all_eq_true]

theorem sha_text {text : String} (sha : isSha text = true) : ¬ blank text := by
  obtain ⟨long, digits⟩ := isSha_iff.mp sha
  cases read : text.toList with
  | nil =>
      rw [← String.length_toList, read] at long
      cases long
  | cons c rest =>
      have member : c ∈ text.toList := by
        rw [read]
        exact List.mem_cons_self
      apply text_of_mem member
      have digit := digits c member
      simp only [Char.le_def, UInt32.le_iff_toNat_le] at digit
      simp only [isSpace, Char.toNat]
      have zero : ('0' : Char).val.toNat = 48 := rfl
      have nine : ('9' : Char).val.toNat = 57 := rfl
      have a : ('a' : Char).val.toNat = 97 := rfl
      have f : ('f' : Char).val.toNat = 102 := rfl
      rw [zero, nine, a, f] at digit
      simp only [Bool.or_eq_false_iff, Bool.and_eq_false_iff, decide_eq_false_iff_not, beq_eq_false_iff_ne]
      omega

/-- The dash of a tag is no whitespace, whatever stands around it. -/
theorem tag_text (distribution version : String) : ¬ blank (distribution ++ "-v" ++ version) := by
  have dash : '-' ∈ (distribution ++ "-v" ++ version).toList := by simp
  exact text_of_mem dash (by decide)

theorem evidence_decides (raw : Json) (distribution context : String) :
    Decides (ReleaseOf distribution raw) CompositionError.IsManifestError
      (evidence raw distribution context) := by
  unfold evidence
  apply Decides.congr ((mapping_decides raw _).bind fun item _ =>
    (string_decides item "version" _).bind fun version _ =>
    (string_decides item "tag" _).bind fun tag _ =>
    (string_decides item "peeled_commit" _).bind fun commit _ =>
    (refuseIf_decides _ _).bind fun _ _ => (refuseIf_decides _ _).bind fun _ _ =>
    Decides.pure (ReleaseEvidence.mk version tag commit))
  intro known
  constructor
  · rintro ⟨item, rfl, version, ⟨is_version, text⟩, tag, ⟨is_tag, _⟩, commit, ⟨is_commit, _⟩, _, tagged, _, sha,
      rfl⟩
    have hex := isSha_iff.mp (not_not.mp sha)
    exact ⟨reads_obj.mpr is_version, reads_obj.mpr is_tag, reads_obj.mpr is_commit, text,
      not_not.mp tagged, hex.1, hex.2⟩
  · intro valid
    obtain ⟨item, rfl, is_version⟩ := valid.version
    have is_tag := reads_obj.mp valid.tag
    have is_commit := reads_obj.mp valid.peeledCommit
    have sha : isSha known.peeledCommit = true := isSha_iff.mpr ⟨valid.commitLength, valid.commitDigits⟩
    exact ⟨item, rfl, _, ⟨is_version, valid.versionText⟩, _, ⟨is_tag, valid.tagged ▸ tag_text distribution known.version⟩, _, ⟨is_commit, sha_text sha⟩,
      (), not_not.mpr valid.tagged, (), not_not.mpr sha, rfl⟩

theorem release_decides (raw : Json) (distribution : String) (availability : Availability)
    (context : String) :
    Decides (fun found => (availability = .released ∧
          ∃ evidence, ReleaseOf distribution raw evidence ∧ found = some evidence) ∨
        (availability ≠ .released ∧ raw = .null ∧ found = none))
      CompositionError.IsManifestError (release raw distribution availability context) := by
  have unreleased : ∀ state : Availability, state ≠ .released →
      Decides (fun found : Option ReleaseEvidence => raw = .null ∧ found = none)
        CompositionError.IsManifestError (release raw distribution state context) := by
    intro state other
    cases state with
    | released => exact absurd rfl other
    | sourceUnreleased | sourceMissing =>
        cases raw with
        | null =>
            apply (Decides.pure none).congr
            intro found
            simp only [true_and]
        | bool | int | float | str | list | obj =>
            apply (Decides.refuse ⟨_, rfl⟩).congr
            intro found
            simp only [reduceCtorEq, false_and]
  by_cases state : availability = .released
  · subst state
    apply ((evidence_decides raw distribution context).map some).congr
    intro found
    simp only [true_and, ne_eq, not_true_eq_false, false_and, or_false]
  · apply (unreleased availability state).congr
    intro found
    simp only [state, false_and, ne_eq, not_false_eq_true, true_and, false_or]

theorem componentIn_decides (raw : Json) (context : String) :
    Decides (Entry raw) CompositionError.IsManifestError (componentIn raw context) := by
  unfold componentIn
  apply Decides.congr ((mapping_decides raw context).bind fun item _ =>
    (string_decides item "distribution" context).bind fun distribution _ =>
    (string_decides item "import_package" context).bind fun importPackage _ =>
    (exceptValueError_decides (states_decides item context) _).bind fun known _ =>
    (release_decides (Mapping.get item "release") distribution known.2.1 context).bind fun found _ =>
    (optionalString_decides item "blocker" context).bind fun blocker _ =>
    (refuseIf_decides _ _).bind fun _ _ => (refuseIf_decides _ _).bind fun _ _ =>
    (refuseIf_decides _ _).bind fun _ _ =>
    Decides.pure (CloudComponent.mk distribution importPackage known.1 known.2.1 known.2.2 found blocker))
  intro c
  constructor
  · rintro ⟨item, rfl, distribution, ⟨is_distribution, text⟩, importPackage, ⟨is_import, import_text⟩,
      ⟨persistence, availability, activation⟩, ⟨is_persistence, is_availability, is_activation⟩, found,
      released, blocker, blocked, _, not_after, _, required, _, backed, rfl⟩
    refine ⟨reads_obj.mpr is_distribution, text, reads_obj.mpr is_import, import_text,
      reads_obj.mpr is_persistence, reads_obj.mpr is_availability, reads_obj.mpr is_activation, ?_⟩
    rcases released with ⟨rfl, evidence, valid, rfl⟩ | ⟨other, nothing, rfl⟩
    · rcases blocked with ⟨unblocked, rfl⟩ | ⟨code, is_code, code_text, rfl⟩
      · exact .released rfl _ evidence (reads_obj.mpr rfl) valid rfl (reads_obj.mpr unblocked) rfl
      · exact absurd ⟨rfl, Option.some_ne_none code⟩ not_after
    · rcases blocked with ⟨unblocked, rfl⟩ | ⟨code, is_code, code_text, rfl⟩
      · exact absurd ⟨other, rfl⟩ required
      · have pending : activation = .pending := by
          cases activation with
          | pending => rfl
          | composed => exact absurd ⟨rfl, rfl⟩ backed
        exact .unreleased other code (reads_obj.mpr nothing) rfl (reads_obj.mpr is_code) code_text rfl
          pending
  · intro entry
    obtain ⟨item, rfl, is_distribution⟩ := entry.distribution
    have is_import := reads_obj.mp entry.importPackage
    have is_persistence := reads_obj.mp entry.persistence
    have is_availability := reads_obj.mp entry.availability
    have is_activation := reads_obj.mp entry.activation
    refine ⟨item, rfl, _, ⟨is_distribution, entry.distributionText⟩, _, ⟨is_import, entry.importPackageText⟩,
      (c.persistence, c.availability, c.activation), ⟨is_persistence, is_availability, is_activation⟩,
      c.release, ?_⟩
    cases entry.lifecycle with
    | released state raw evidence at_release valid release unblocked noBlocker =>
        have found := reads_obj.mp at_release
        refine ⟨.inl ⟨state, evidence, found.symm ▸ valid, release⟩, none, .inl ⟨reads_obj.mp unblocked, rfl⟩,
          (), ?_, (), ?_, (), ?_, ?_⟩
        · simp
        · simp [state]
        · simp [release]
        · rw [← noBlocker]
    | unreleased state code at_release noRelease blocked text blocker pending =>
        refine ⟨.inr ⟨state, reads_obj.mp at_release, noRelease⟩, some code,
          .inr ⟨code, reads_obj.mp blocked, text, rfl⟩, (), ?_, (), ?_, (), ?_, ?_⟩
        · simp [state]
        · simp
        · simp [pending]
        · rw [← blocker]

theorem componentList_decides (value : Json) :
    Decides (fun items => value = .list items ∧ items ≠ []) CompositionError.IsManifestError
      (componentList value) := by
  unfold componentList
  split
  · rename_i item items
    apply (Decides.pure (item :: items)).congr
    intro found
    simp only [Json.list.injEq]
    constructor
    · rintro rfl
      exact ⟨rfl, List.cons_ne_nil item items⟩
    · rintro ⟨rfl, _⟩
      rfl
  · rename_i other
    apply (Decides.refuse ⟨_, rfl⟩).congr
    intro found
    simp only [false_iff]
    rintro ⟨rfl, nonempty⟩
    cases found with
    | nil => exact nonempty rfl
    | cons item items => exact other item items rfl

/-- No duplicate and already sorted: strictly increasing. -/
theorem strict_order_iff (names : List String) :
    (¬ names.length ≠ names.dedup.length ∧ ¬ names ≠ names.mergeSort) ↔ names.Pairwise (· < ·) := by
  have distinct : names.length = names.dedup.length ↔ names.Nodup := by
    rw [← List.dedup_eq_self]
    constructor
    · intro long
      exact (List.dedup_sublist names).eq_of_length long.symm
    · intro same
      rw [same]
  have sorted : names = names.mergeSort ↔ names.Pairwise (· ≤ ·) := by
    constructor
    · intro same
      rw [same]
      exact List.pairwise_mergeSort' (· ≤ ·) names
    · intro ordered
      exact (List.mergeSort_eq_self (· ≤ ·) ordered).symm
  rw [not_ne_iff, not_ne_iff, distinct, sorted, List.Nodup, ← List.pairwise_and_iff]
  apply List.Pairwise.iff
  intro a b
  rw [lt_iff_le_and_ne, and_comm]

theorem components_decides (items : List Json) :
    Decides (List.Forall₂ Entry items) CompositionError.IsManifestError
      (items.zipIdx.mapM (fun (item, index) => component item index)) := by
  have each : ∀ indexed : Json × Nat, Decides (Entry indexed.1) CompositionError.IsManifestError
      (component indexed.1 indexed.2) := by
    intro indexed
    exact componentIn_decides indexed.1 _
  apply (Decides.mapM each items.zipIdx).congr
  intro components
  rw [← List.forall₂_map_left_iff, List.zipIdx_map_fst]

theorem loadManifest_decides (raw : Json) :
    Decides (Declares raw) CompositionError.IsManifestError (loadManifest (.ok raw)) := by
  unfold loadManifest
  apply Decides.congr ((Decides.pure raw).bind fun raw _ => (mapping_decides raw "manifest").bind fun root _ =>
    (refuseIf_decides _ _).bind fun _ _ =>
    (componentList_decides (Mapping.get root "components")).bind fun items _ =>
    (components_decides items).bind fun components _ =>
    (refuseIf_decides _ _).bind fun _ _ => (refuseIf_decides _ _).bind fun _ _ =>
    Decides.pure components)
  intro components
  constructor
  · rintro ⟨raw, rfl, root, rfl, _, version, items, ⟨listed, nonempty⟩, found, entries, _, distinct, _, sorted,
      rfl⟩
    refine ⟨⟨_, reads_obj.mpr rfl, not_not.mp version⟩, ⟨items, reads_obj.mpr listed, nonempty, entries⟩, ?_⟩
    exact (strict_order_iff _).mp ⟨distinct, sorted⟩
  · intro declared
    obtain ⟨value, ⟨root, rfl, is_value⟩, one⟩ := declared.version
    obtain ⟨items, listed, nonempty, entries⟩ := declared.entries
    obtain ⟨distinct, sorted⟩ := (strict_order_iff _).mpr declared.ordered
    exact ⟨_, rfl, root, rfl, (), not_not.mpr (is_value ▸ one), items, ⟨reads_obj.mp listed, nonempty⟩, components,
      entries, (), distinct, (), sorted, rfl⟩

/-! ## The gate -/

/-- A component the gate lets through. -/
def CloudComponent.live (c : CloudComponent) : Bool :=
  c.availability = .released ∧ c.activation = .composed

/-- The reason the gate gives for a component it holds back. -/
def CloudComponent.reason (c : CloudComponent) : CompositionBlocker :=
  ⟨c.distribution, c.blocker.getD "released_not_composed"⟩

/-- What the loader establishes of a component: its blocker tells its availability. -/
def CloudComponent.Coherent (c : CloudComponent) : Prop := c.availability = .released ↔ c.blocker = none

theorem Entry.coherent {raw : Json} {c : CloudComponent} (entry : Entry raw c) : c.Coherent := by
  cases entry.lifecycle with
  | released state raw evidence at_release valid release unblocked noBlocker =>
      exact iff_of_true state noBlocker
  | unreleased state code at_release noRelease blocked text blocker pending =>
      apply iff_of_false state
      rw [blocker]
      exact Option.some_ne_none code

theorem judge_coherent {c : CloudComponent} (coherent : c.Coherent) (blockers : List CompositionBlocker) :
    judge blockers c = .ok (blockers ++ if c.live then [] else [c.reason]) := by
  by_cases state : c.availability = .released
  · have unblocked := coherent.mp state
    by_cases active : c.activation = .composed
    · simp [judge, CloudComponent.live, state, active]
    · simp [judge, CloudComponent.live, CloudComponent.reason, state, active, unblocked]
  · obtain ⟨code, blocked⟩ := Option.ne_none_iff_exists'.mp (mt coherent.mpr state)
    simp [judge, CloudComponent.live, CloudComponent.reason, state, blocked]

/-- The loop raises nothing and blocks each component that is not live, in order. -/
theorem foldlM_judge {components : List CloudComponent} (coherent : ∀ c ∈ components, c.Coherent)
    (blockers : List CompositionBlocker) :
    components.foldlM judge blockers =
      .ok (blockers ++ (components.filter (fun c => ¬ c.live)).map CloudComponent.reason) := by
  induction components generalizing blockers with
  | nil => simp [pure, Except.pure]
  | cons c rest ih =>
      rw [List.foldlM_cons, judge_coherent (coherent c List.mem_cons_self)]
      have after := ih (fun other member => coherent other (List.mem_cons_of_mem c member))
      simp only [bind, Except.bind, after]
      by_cases live : c.live
      · simp [live]
      · simp [live]

theorem evaluate_coherent {components : List CloudComponent} (coherent : ∀ c ∈ components, c.Coherent)
    (checkedIn : Except String Json) :
    evaluate checkedIn (some components) = .ok ⟨components,
      (components.filter (fun c => ¬ c.live)).map CloudComponent.reason⟩ := by
  simp only [evaluate, bind, Except.bind, foldlM_judge coherent, List.nil_append, pure, Except.pure]

theorem requireProductionReady_iff (checkedIn : Except String Json) (report : CompositionReport) :
    (∃ verdict, requireProductionReady checkedIn (some report) = .ok verdict) ↔ report.blockers = [] := by
  simp only [requireProductionReady, bind, Except.bind, CompositionReport.ready, List.isEmpty_iff]
  split_ifs with ready
  · exact iff_of_true ⟨report, rfl⟩ ready
  · apply iff_of_false _ ready
    rintro ⟨verdict, returned⟩
    cases returned

theorem Declares.coherent {raw : Json} {components : List CloudComponent}
    (declared : Declares raw components) : ∀ c ∈ components, c.Coherent := by
  obtain ⟨items, -, -, entries⟩ := declared.entries
  have each : ∀ item c, Entry item c → (True ↔ c.Coherent) := by
    intro item c entry
    exact iff_of_true trivial entry.coherent
  exact (forall_iff_of_related each entries).mp (fun _ _ => trivial)

/-- Every entry of the document reads `released` and `composed`. -/
def Json.AllLive (raw : Json) : Prop :=
  ∀ items, raw.Reads "components" (.list items) → ∀ item ∈ items,
    item.Reads "availability" (.str "released") ∧ item.Reads "activation" (.str "composed")

theorem Entry.live_iff {item : Json} {c : CloudComponent} (entry : Entry item c) :
    (item.Reads "availability" (.str "released") ∧ item.Reads "activation" (.str "composed")) ↔
      c.live = true := by
  have named : ∀ {key known text}, item.Reads key (.str known) → (item.Reads key (.str text) ↔ known = text) := by
    intro key known text reads
    constructor
    · intro other
      exact Json.str.inj (reads.unique other)
    · rintro rfl
      exact reads
  rw [named entry.availability, named entry.activation]
  simp only [CloudComponent.live, Bool.decide_and, Bool.and_eq_true, decide_eq_true_eq]
  cases c.availability <;> cases c.activation <;> decide

theorem Declares.live_iff {raw : Json} {components : List CloudComponent}
    (declared : Declares raw components) :
    (components.filter (fun c => ¬ c.live)).map CloudComponent.reason = [] ↔ raw.AllLive := by
  obtain ⟨items, listed, -, entries⟩ := declared.entries
  have document : raw.AllLive ↔ ∀ item ∈ items,
      item.Reads "availability" (.str "released") ∧ item.Reads "activation" (.str "composed") := by
    constructor
    · intro live
      exact live items listed
    · intro live others reads
      cases listed.unique reads
      exact live
  rw [document, forall_iff_of_related (fun _ _ entry => Entry.live_iff entry) entries]
  simp only [List.map_eq_nil_iff, List.filter_eq_nil_iff, decide_not, Bool.decide_eq_true, Bool.not_eq_true',
    Bool.not_eq_false]

/-- The loader returns what the document declares and refuses every other document
    with a ManifestError. What it returned is judged without an error, each component
    that is not released and composed once and in order, and the gate opens exactly
    when every entry of the document is. -/
theorem production_gate (raw : Json) :
    (∀ components, loadManifest (.ok raw) = .ok components ↔ Declares raw components) ∧
    ((∀ components, ¬ Declares raw components) →
      ∃ message, loadManifest (.ok raw) = .error (.manifestError message)) ∧
    ∀ components, loadManifest (.ok raw) = .ok components → ∃ report,
      evaluate (.ok raw) none = .ok report ∧
      (∀ checkedIn, evaluate checkedIn (some components) = .ok report) ∧
      report.components = components ∧
      report.blockers = (components.filter (fun c =>
        ¬ (c.availability = .released ∧ c.activation = .composed))).map (fun c =>
          ⟨c.distribution, c.blocker.getD "released_not_composed"⟩) ∧
      ((∃ verdict, requireProductionReady (.ok raw) none = .ok verdict) ↔ raw.AllLive) ∧
      ∀ checkedIn, (∃ verdict, requireProductionReady checkedIn (some report) = .ok verdict) ↔
        raw.AllLive := by
  have decided := loadManifest_decides raw
  refine ⟨decided.ok, ?_, ?_⟩
  · intro never
    obtain ⟨e, refused, message, rfl⟩ := decided.refused never
    exact ⟨message, refused⟩
  · intro components returned
    have declared := (decided.ok components).mp returned
    have judged := evaluate_coherent declared.coherent
    have default_judged : evaluate (.ok raw) none = evaluate (.ok raw) (some components) := by
      simp only [evaluate, returned]
    have opens : ∀ checkedIn, (∃ verdict, requireProductionReady checkedIn (some
        ⟨components, (components.filter (fun c => ¬ c.live)).map CloudComponent.reason⟩) = .ok verdict) ↔
        raw.AllLive := by
      intro checkedIn
      rw [requireProductionReady_iff]
      exact declared.live_iff
    refine ⟨_, default_judged.trans (judged _), judged, rfl, ?_, ?_, opens⟩
    · simp only [CloudComponent.live, decide_eq_true_eq]
      rfl
    · have gate : requireProductionReady (.ok raw) none = requireProductionReady (.ok raw) (some
          ⟨components, (components.filter (fun c => ¬ c.live)).map CloudComponent.reason⟩) := by
        simp only [requireProductionReady, default_judged, judged]
      rw [gate]
      exact opens (.ok raw)

/-- A version number that only compares equal to 1, and an absent blocker. -/
example : (loadManifest (.ok (.obj [("schema_version", .float (.finite 1)), ("components", .list [
    .obj [("distribution", .str "dotmac-example"), ("import_package", .str "dotmac_example"),
      ("persistence", .str "stateless"), ("availability", .str "released"),
      ("activation", .str "composed"), ("release", .obj [("version", .str "1.2.3"),
        ("tag", .str "dotmac-example-v1.2.3"),
        ("peeled_commit", .str "aaaaaaaaaaaaaaaaaaaaaaaaaaaaaaaaaaaaaaaa")])]])]))).toOption.isSome := by
  decide +kernel

end DotmacCloud.Composition
