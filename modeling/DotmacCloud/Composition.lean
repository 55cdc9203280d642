import DotmacCloud.Python

/-! # The composition declaration and the production gate

The loader reads one declaration and the gate refuses every component that is not both
released and composed. The loader starts at what the standard library's `json.loads`
made of the text: a value, or the message of its refusal.
-/

namespace DotmacCloud.Composition

/-- A Python float. -/
inductive FloatValue where
  | finite (value : ℚ)
  | infinite (negative : Bool)
  | nan

/-- A decoded JSON value; an object keeps its pairs in the order of the text. -/
inductive Json where
  | null
  | bool (value : Bool)
  | int (value : Int)
  | float (value : FloatValue)
  | str (value : String)
  | list (items : List Json)
  | obj (pairs : List (String × Json))

abbrev Mapping := List (String × Json)

/-- `mapping.get(key)`: the last pair of a repeated key, and None for an absent one. -/
def Mapping.get (mapping : Mapping) (key : String) : Json := (mapping.reverse.lookup key).getD .null

/-- `value == 1`, which True and 1.0 are too. -/
def Json.equalsOne : Json → Bool
  | .bool value => value
  | .int value => value = 1
  | .float (.finite value) => value = 1
  | _ => false

/-! ## The declaration -/

inductive Availability where
  | released | sourceUnreleased | sourceMissing
  deriving DecidableEq, Repr

def Availability.value : Availability → String
  | .released => "released"
  | .sourceUnreleased => "source-unreleased"
  | .sourceMissing => "source-missing"

inductive Activation where
  | pending | composed
  deriving DecidableEq, Repr

def Activation.value : Activation → String
  | .pending => "pending"
  | .composed => "composed"

inductive Persistence where
  | foundation | stateless | tenant
  deriving DecidableEq, Repr

def Persistence.value : Persistence → String
  | .foundation => "foundation"
  | .stateless => "stateless"
  | .tenant => "tenant"

structure ReleaseEvidence where
  version : String
  tag : String
  peeledCommit : String
  deriving DecidableEq, Repr

structure CloudComponent where
  distribution : String
  importPackage : String
  persistence : Persistence
  availability : Availability
  activation : Activation
  release : Option ReleaseEvidence
  blocker : Option String
  deriving DecidableEq, Repr

structure CompositionBlocker where
  distribution : String
  code : String
  deriving DecidableEq, Repr

structure CompositionReport where
  components : List CloudComponent
  blockers : List CompositionBlocker
  deriving DecidableEq, Repr

def CompositionReport.ready (report : CompositionReport) : Bool := report.blockers.isEmpty

inductive CompositionError where
  | manifestError (message : String)
  /-- The plain ValueError of an enumeration without the value. -/
  | unknownMember (enumeration : String)
  | compositionBlocked (blockers : List CompositionBlocker) (message : String)
  deriving DecidableEq, Repr

/-- `CompositionBlocked(blockers)` -/
def compositionBlocked (blockers : List CompositionBlocker) : CompositionError :=
  let detail := ", ".intercalate (blockers.map (fun item => s!"{item.distribution}:{item.code}"))
  .compositionBlocked blockers s!"Cloud V1 composition is not production-ready: {detail}"

/-- ManifestError is a ValueError, CompositionBlocked is not. -/
def CompositionError.isValueError : CompositionError → Bool
  | .manifestError _ | .unknownMember _ => true
  | .compositionBlocked _ _ => false

/-! ## The validators -/

/-- `if bad: raise ManifestError(message)` -/
def refuseIf (bad : Prop) [Decidable bad] (message : String) : Except CompositionError Unit :=
  if bad then .error (.manifestError message) else .ok ()

/-- `_mapping` -/
def mapping (value : Json) (context : String) : Except CompositionError Mapping :=
  match value with
  | .obj pairs => .ok pairs
  | _ => .error (.manifestError s!"{context} must be an object with string keys")

/-- `_string` -/
def string (mapping : Mapping) (key context : String) : Except CompositionError String :=
  match mapping.get key with
  | .str value =>
      if blank value then .error (.manifestError s!"{context}.{key} must be a non-empty string")
      else .ok value
  | _ => .error (.manifestError s!"{context}.{key} must be a non-empty string")

/-- `_optional_string` -/
def optionalString (mapping : Mapping) (key context : String) :
    Except CompositionError (Option String) :=
  match mapping.get key with
  | .null => .ok none
  | .str value =>
      if blank value then
        .error (.manifestError s!"{context}.{key} must be null or a non-empty string")
      else .ok (some value)
  | _ => .error (.manifestError s!"{context}.{key} must be null or a non-empty string")

/-- The lookup of an enumeration's member by its value. -/
def member {Member : Type} (enumeration : String) (members : List Member) (value : Member → String)
    (text : String) : Except CompositionError Member :=
  match members.find? (fun known => value known = text) with
  | some known => .ok known
  | none => .error (.unknownMember enumeration)

def Persistence.ofValue : String → Except CompositionError Persistence :=
  member "Persistence" [.foundation, .stateless, .tenant] Persistence.value

def Availability.ofValue : String → Except CompositionError Availability :=
  member "Availability" [.released, .sourceUnreleased, .sourceMissing] Availability.value

def Activation.ofValue : String → Except CompositionError Activation :=
  member "Activation" [.pending, .composed] Activation.value

def isLowerHex (c : Char) : Bool := ('0' ≤ c ∧ c ≤ '9') ∨ ('a' ≤ c ∧ c ≤ 'f')

/-- `_SHA.fullmatch` -/
def isSha (text : String) : Bool := text.length = 40 ∧ text.toList.all isLowerHex

/-- `_release` of a released component. -/
def evidence (raw : Json) (distribution context : String) : Except CompositionError ReleaseEvidence := do
  let release ← mapping raw s!"{context}.release"
  let version ← string release "version" s!"{context}.release"
  let tag ← string release "tag" s!"{context}.release"
  let peeledCommit ← string release "peeled_commit" s!"{context}.release"
  refuseIf (tag ≠ s!"{distribution}-v{version}")
    s!"{context}.release.tag must be {distribution}-v{version}"
  refuseIf (¬ isSha peeledCommit) s!"{context}.release.peeled_commit must be a 40-character git SHA"
  return ⟨version, tag, peeledCommit⟩

/-- `_release` -/
def release (raw : Json) (distribution : String) (availability : Availability) (context : String) :
    Except CompositionError (Option ReleaseEvidence) :=
  match availability, raw with
  | .released, raw => (evidence raw distribution context).map some
  | _, .null => .ok none
  | _, _ => .error (.manifestError s!"{context}.release must be null until released")

/-- The three states, as the body of the `try` reads them. -/
def states (item : Mapping) (context : String) :
    Except CompositionError (Persistence × Availability × Activation) := do
  let persistence ← Persistence.ofValue (← string item "persistence" context)
  let availability ← Availability.ofValue (← string item "availability" context)
  let activation ← Activation.ofValue (← string item "activation" context)
  return (persistence, availability, activation)

/-- `except ValueError`, which also catches the ManifestError of a missing state. -/
def exceptValueError {α : Type} (body : Except CompositionError α) (message : String) :
    Except CompositionError α :=
  match body with
  | .ok a => .ok a
  | .error e => if e.isValueError then .error (.manifestError message) else .error e

/-- The states, with an error of any of them named for the whole component. -/
def knownStates (item : Mapping) (context : String) :
    Except CompositionError (Persistence × Availability × Activation) :=
  exceptValueError (states item context) s!"{context} contains an unknown state"

/-- `_component` in its context. -/
def componentIn (raw : Json) (context : String) : Except CompositionError CloudComponent := do
  let item ← mapping raw context
  let distribution ← string item "distribution" context
  let importPackage ← string item "import_package" context
  let (persistence, availability, activation) ← knownStates item context
  let release ← release (item.get "release") distribution availability context
  let blocker ← optionalString item "blocker" context
  refuseIf (availability = .released ∧ blocker ≠ none) s!"{context}.blocker must be null after release"
  refuseIf (availability ≠ .released ∧ blocker = none) s!"{context}.blocker is required until release"
  refuseIf (activation = .composed ∧ release = none) s!"{context} cannot be composed without a release"
  return ⟨distribution, importPackage, persistence, availability, activation, release, blocker⟩

/-- `_component` -/
def component (raw : Json) (index : Nat) : Except CompositionError CloudComponent :=
  componentIn raw s!"components[{index}]"

/-- The non-empty list under `components`. -/
def componentList (value : Json) : Except CompositionError (List Json) :=
  match value with
  | .list (item :: items) => .ok (item :: items)
  | _ => .error (.manifestError "manifest.components must be a non-empty list")

/-- `load_manifest` of the text that was read. -/
def loadManifest (loaded : Except String Json) : Except CompositionError (List CloudComponent) := do
  let raw ← loaded.mapError (fun exc => .manifestError s!"composition manifest is not valid JSON: {exc}")
  let root ← mapping raw "manifest"
  refuseIf (¬ (root.get "schema_version").equalsOne) "manifest.schema_version must equal 1"
  let rawComponents ← componentList (root.get "components")
  let components ← rawComponents.zipIdx.mapM (fun (item, index) => component item index)
  let names := components.map CloudComponent.distribution
  refuseIf (names.length ≠ names.dedup.length) "manifest.components contains a duplicate distribution"
  refuseIf (names ≠ names.mergeSort) "manifest.components must be sorted by distribution"
  return components

/-! ## The gate -/

/-- One turn of the loop over the components. -/
def judge (blockers : List CompositionBlocker) (component : CloudComponent) :
    Except CompositionError (List CompositionBlocker) :=
  if component.availability ≠ .released then
    match component.blocker with
    | none => .error (.manifestError s!"{component.distribution} has no release and no blocker")
    | some code => .ok (blockers ++ [⟨component.distribution, code⟩])
  else if component.activation ≠ .composed then
    .ok (blockers ++ [⟨component.distribution, "released_not_composed"⟩])
  else .ok blockers

/-- `evaluate`; without components it loads the checked-in declaration. -/
def evaluate (checkedIn : Except String Json) (components : Option (List CloudComponent)) :
    Except CompositionError CompositionReport := do
  let selected ← match components with
    | some components => .ok components
    | none => loadManifest checkedIn
  let blockers ← selected.foldlM judge []
  return ⟨selected, blockers⟩

def requireProductionReady (checkedIn : Except String Json) (report : Option CompositionReport) :
    Except CompositionError CompositionReport := do
  let verdict ← match report with
    | some report => .ok report
    | none => evaluate checkedIn none
  if verdict.ready then return verdict
  else throw (compositionBlocked verdict.blockers)

end DotmacCloud.Composition
