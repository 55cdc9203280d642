import Mathlib

/-! # The parts of Python the assembly relies on

Text, aware and naive datetimes, and the exceptions that cross the modelled
functions. An aware datetime is its instant: two of them are equal exactly when
their instants are, whatever their zones.
-/

namespace DotmacCloud

/-- The characters `str.strip` removes. -/
def isSpace (c : Char) : Bool :=
  let n := c.toNat
  (9 ≤ n && n ≤ 13) || (28 ≤ n && n ≤ 32) || n == 0x85 || n == 0xA0 || n == 0x1680 ||
    (0x2000 ≤ n && n ≤ 0x200A) || n == 0x2028 || n == 0x2029 || n == 0x202F || n == 0x205F ||
    n == 0x3000

/-- `not text.strip()` -/
def blank (text : String) : Bool := text.toList.all isSpace

/-- One character that is not whitespace makes a text. -/
theorem text_of_mem {text : String} {c : Char} (member : c ∈ text.toList)
    (visible : isSpace c = false) : ¬ blank text := by
  intro empty
  rw [List.all_eq_true.mp empty c member] at visible
  cases visible

inductive Datetime where
  | naive (wall : Int)
  | aware (instant : Int)
  deriving DecidableEq, Repr

inductive Raised where
  | valueError (message : String)
  | unmappableObligation (message : String)
  | idempotencyConflict
  | billingRuleViolation
  | billingConflict
  /-- A value its column cannot hold. -/
  | dataError (column : String)
  | integrityError (constraint : String)
  | insufficientPrivilege (policy : String)
  | decimalOverflow
  /-- Any other exception of code the assembly calls. -/
  | fault (name : String)
  deriving DecidableEq, Repr

/-- `_require_text`, keeping the evidence of the check. -/
def requireText (name value : String) : Except Raised (PLift (¬ blank value)) :=
  if text : ¬ blank value then .ok ⟨text⟩
  else .error (.valueError s!"{name} must be a non-empty string")

/-- `_require_aware`, returning the instant. -/
def requireAware (name : String) : Datetime → Except Raised Int
  | .naive _ => .error (.valueError s!"{name} must be timezone-aware")
  | .aware instant => .ok instant

theorem requireText_of_text (name : String) {value : String} (text : ¬ blank value) :
    requireText name value = .ok ⟨text⟩ := dif_pos text

/-- A computation that returned ran its first part and then the rest. -/
theorem bind_eq_ok {ε α β : Type} {first : Except ε α} {rest : α → Except ε β} {b : β} :
    (first >>= rest) = .ok b ↔ ∃ a, first = .ok a ∧ rest a = .ok b := by
  cases first with
  | error e =>
      constructor
      · intro returned
        cases returned
      · rintro ⟨a, impossible, _⟩
        cases impossible
  | ok a =>
      constructor
      · intro returned
        exact ⟨a, rfl, returned⟩
      · rintro ⟨_, same, returned⟩
        cases same
        exact returned

end DotmacCloud
