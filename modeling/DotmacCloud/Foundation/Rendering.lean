import Mathlib

/-! # Fixed-width and decimal renderings of numbers

Both renderings are told apart by the numbers, so equal texts come from equal numbers.
The fixed-width form keeps leading zeroes; its digits are read in either case.
-/

namespace DotmacCloud.Foundation.Rendering

/-- One lower-case hexadecimal digit. -/
def hexDigit (n : Nat) : Char :=
  if n < 10 then Char.ofNat (48 + n) else Char.ofNat (87 + n)

/-- The value of a hexadecimal digit of either case. -/
def hexValue (c : Char) : Option Nat :=
  if 48 ≤ c.toNat ∧ c.toNat ≤ 57 then some (c.toNat - 48)
  else if 65 ≤ c.toNat ∧ c.toNat ≤ 70 then some (c.toNat - 55)
  else if 97 ≤ c.toNat ∧ c.toNat ≤ 102 then some (c.toNat - 87)
  else none

/-- `width` digits of `n`, the most significant first. -/
def fixedHex : Nat → Nat → List Char
  | 0, _ => []
  | width + 1, n => fixedHex width (n / 16) ++ [hexDigit (n % 16)]

theorem hexValue_hexDigit {n : Nat} (small : n < 16) : hexValue (hexDigit n) = some n := by
  have digits : ∀ d : Fin 16, hexValue (hexDigit d.val) = some d.val := by decide
  exact digits ⟨n, small⟩

theorem hexDigit_ne {n : Nat} (small : n < 16) {c : Char} (other : hexValue c = none) : hexDigit n ≠ c := by
  rintro rfl
  rw [hexValue_hexDigit small] at other
  cases other

@[simp] theorem fixedHex_length (width n : Nat) : (fixedHex width n).length = width := by
  induction width generalizing n with
  | zero => rfl
  | succ width ih => simp only [fixedHex, List.length_append, ih, List.length_singleton]

/-- The high digits come first, then the low ones. -/
theorem fixedHex_add (high low n : Nat) :
    fixedHex (high + low) n = fixedHex high (n / 16 ^ low) ++ fixedHex low n := by
  induction low generalizing n with
  | zero => simp [fixedHex]
  | succ low ih =>
      rw [← Nat.add_assoc, fixedHex, ih, fixedHex, List.append_assoc, Nat.div_div_eq_div_mul,
        Nat.mul_comm, Nat.pow_succ]

theorem fixedHex_four (n : Nat) :
    fixedHex 4 n = [hexDigit (n / 4096 % 16), hexDigit (n / 256 % 16), hexDigit (n / 16 % 16),
      hexDigit (n % 16)] := by
  simp [fixedHex, Nat.div_div_eq_div_mul]

/-- A joined text splits in one way when its last part has a fixed width, whatever
    characters the first part holds. -/
theorem append_injective_of_width {a b c d : String} (width : c.length = d.length)
    (same : a ++ c = b ++ d) : a = b ∧ c = d := by
  have chars : a.toList ++ c.toList = b.toList ++ d.toList := by
    rw [← String.toList_append, ← String.toList_append, same]
  have parts := List.append_inj' chars (by simpa only [String.length_toList] using width)
  exact ⟨String.toList_inj.mp parts.1, String.toList_inj.mp parts.2⟩

theorem intText_injective {m n : Int} (same : toString m = toString n) : m = n :=
  Int.repr_injective same

end DotmacCloud.Foundation.Rendering
