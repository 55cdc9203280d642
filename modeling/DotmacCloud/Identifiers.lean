import DotmacCloud.Foundation.Rendering
import DotmacCloud.Python

/-! # UUIDs and their canonical text -/

namespace DotmacCloud

open Foundation.Rendering

structure UUID where
  int : Nat
  bounded : int < 16 ^ 32
  deriving DecidableEq, Repr

/-- `UUID(int=n)`, as a numeral. -/
instance (n : Nat) : OfNat UUID n := ⟨⟨n % 16 ^ 32, Nat.mod_lt n (by decide)⟩⟩

structure TenantScope where
  tenantId : UUID
  deriving DecidableEq, Repr

namespace UUID

/-- `str(uuid)`: thirty-two digits in groups of 8, 4, 4, 4 and 12. -/
def str (u : UUID) : String :=
  let hex := fixedHex 32 u.int
  String.ofList (hex.take 8 ++ '-' :: ((hex.drop 8).take 4 ++ '-' :: ((hex.drop 12).take 4 ++
    '-' :: ((hex.drop 16).take 4 ++ '-' :: hex.drop 20))))

/-! ## Reading a UUID -/

/-- The bytes that are left, two digits of either case each. A hyphen may stand after
    every second byte but the last, and nowhere else. -/
def readBytes : Nat → Nat → List Char → Option (Nat × List Char)
  | 0, value, rest => some (value, rest)
  | left + 1, value, high :: low :: rest => do
      let high ← hexValue high
      let low ← hexValue low
      readBytes left (256 * value + (16 * high + low))
        (if 0 < left ∧ left % 2 = 0 ∧ rest.head? = some '-' then rest.tail else rest)
  | _ + 1, _, _ => none

/-- The cast of a text to `uuid`. Braces may stand around the digits. -/
def parse (text : String) : Option UUID :=
  let (braces, digits) :=
    match text.toList with
    | '{' :: digits => (true, digits)
    | digits => (false, digits)
  match readBytes 16 0 digits with
  | some (n, rest) =>
      if bounded : n < 16 ^ 32 then
        if rest = (if braces then ['}'] else []) then some ⟨n, bounded⟩ else none
      else none
  | none => none

/-- Four digits are two bytes. -/
theorem readBytes_four {left : Nat} (even : left % 2 = 0) (n : Nat) (rest : List Char) :
    readBytes (left + 2) (n / 16 ^ 4) (fixedHex 4 n ++ rest) =
      readBytes left n (if 0 < left ∧ rest.head? = some '-' then rest.tail else rest) := by
  have digit : ∀ m, hexValue (hexDigit (m % 16)) = some (m % 16) :=
    fun m => hexValue_hexDigit (Nat.mod_lt _ (by decide))
  have inside : (left + 1) % 2 ≠ 0 := by omega
  have value : 256 * (256 * (n / 16 ^ 4) + (16 * (n / 4096 % 16) + n / 256 % 16)) +
      (16 * (n / 16 % 16) + n % 16) = n := by omega
  simp only [fixedHex_four, List.cons_append, List.nil_append, readBytes, digit, Option.bind_eq_bind,
    Option.bind_some, inside, false_and, and_false, if_false, value, even, true_and]

theorem readBytes_hyphen {left : Nat} (even : left % 2 = 0) (more : 0 < left) (n : Nat) (rest : List Char) :
    readBytes (left + 2) (n / 16 ^ 4) (fixedHex 4 n ++ '-' :: rest) = readBytes left n rest := by
  rw [readBytes_four even, if_pos ⟨more, rfl⟩, List.tail_cons]

theorem readBytes_digits {left : Nat} (even : left % 2 = 0) (n m : Nat) (rest : List Char) :
    readBytes (left + 2) (n / 16 ^ 4) (fixedHex 4 n ++ (fixedHex 4 m ++ rest)) =
      readBytes left n (fixedHex 4 m ++ rest) := by
  have digit : hexDigit (m / 4096 % 16) ≠ '-' := hexDigit_ne (Nat.mod_lt _ (by decide)) (by decide)
  rw [readBytes_four even, if_neg]
  rintro ⟨-, dash⟩
  rw [fixedHex_four] at dash
  exact digit (Option.some.inj dash)

theorem readBytes_last (n : Nat) : readBytes 2 (n / 16 ^ 4) (fixedHex 4 n) = some (n, []) := by
  have read : readBytes (0 + 2) (n / 16 ^ 4) (fixedHex 4 n ++ []) = readBytes 0 n [] :=
    readBytes_four rfl n []
  rw [List.append_nil] at read
  rw [read]
  rfl

/-- The eight groups of four digits, with the hyphens between them. -/
theorem str_groups (u : UUID) :
    u.str.toList = fixedHex 4 (u.int / 16 ^ 28) ++ (fixedHex 4 (u.int / 16 ^ 24) ++ '-' ::
      (fixedHex 4 (u.int / 16 ^ 20) ++ '-' :: (fixedHex 4 (u.int / 16 ^ 16) ++ '-' ::
        (fixedHex 4 (u.int / 16 ^ 12) ++ '-' :: (fixedHex 4 (u.int / 16 ^ 8) ++
          (fixedHex 4 (u.int / 16 ^ 4) ++ fixedHex 4 u.int)))))) := by
  have split : fixedHex 32 u.int = fixedHex 4 (u.int / 16 ^ 28) ++ (fixedHex 4 (u.int / 16 ^ 24) ++
      (fixedHex 4 (u.int / 16 ^ 20) ++ (fixedHex 4 (u.int / 16 ^ 16) ++ (fixedHex 4 (u.int / 16 ^ 12) ++
        (fixedHex 4 (u.int / 16 ^ 8) ++ (fixedHex 4 (u.int / 16 ^ 4) ++ fixedHex 4 u.int)))))) := by
    rw [fixedHex_add 4 28, fixedHex_add 4 24, fixedHex_add 4 20, fixedHex_add 4 16, fixedHex_add 4 12,
      fixedHex_add 4 8, fixedHex_add 4 4]
  simp [str, split, fixedHex_four]

theorem parse_str (u : UUID) : parse u.str = some u := by
  have group : ∀ i, u.int / 16 ^ (i + 4) = u.int / 16 ^ i / 16 ^ 4 := by
    intro i
    rw [Nat.div_div_eq_div_mul, Nat.pow_add]
  have zero : 0 = u.int / 16 ^ 28 / 16 ^ 4 := by
    rw [← group 28, Nat.div_eq_of_lt u.bounded]
  have read : readBytes 16 0 u.str.toList = some (u.int, []) := by
    have last := @readBytes_digits 2 rfl (u.int / 16 ^ 4) u.int []
    rw [List.append_nil] at last
    rw [str_groups, zero, readBytes_digits rfl, group 24, readBytes_hyphen rfl (by decide), group 20,
      readBytes_hyphen rfl (by decide), group 16, readBytes_hyphen rfl (by decide), group 12,
      readBytes_hyphen rfl (by decide), group 8, readBytes_digits rfl, group 4, last, readBytes_last]
  have plain : u.str.toList.head? ≠ some '{' := by
    rw [str_groups, fixedHex_four]
    intro brace
    exact hexDigit_ne (Nat.mod_lt _ (by decide)) (by decide) (Option.some.inj brace)
  unfold parse
  split
  rename_i braces digits cut
  split at cut
  · rename_i opened
    rw [opened] at plain
    exact absurd rfl plain
  · obtain ⟨rfl, rfl⟩ := Prod.mk.inj cut
    simp only [read, dif_pos u.bounded, Bool.false_eq_true, if_false, if_true]

example : parse "{A0EEBC99-9c0b4ef8-bb6d6bb9bd380a11}" = parse "a0eebc99-9c0b-4ef8-bb6d-6bb9bd380a11" := by
  decide

theorem str_injective {u v : UUID} (same : u.str = v.str) : u = v := by
  have read := parse_str u
  rw [same, parse_str v] at read
  exact (Option.some.inj read).symm

/-- The last digit is a character `str.strip` keeps. -/
theorem str_not_blank (u : UUID) : ¬ blank u.str := by
  have member : hexDigit (u.int % 16) ∈ u.str.toList := by
    rw [str_groups]
    simp [fixedHex_four]
  have digits : ∀ d : Fin 16, isSpace (hexDigit d.val) = false := by decide
  exact text_of_mem member (digits ⟨u.int % 16, Nat.mod_lt _ (by decide)⟩)

theorem str_length (u : UUID) : u.str.length = 36 := by
  have digits := fixedHex_length 32 u.int
  simp only [str, String.length_ofList, List.length_append, List.length_cons, List.length_take,
    List.length_drop]
  omega

theorem str_ne_empty (u : UUID) : u.str ≠ "" := by
  intro empty
  exact u.str_not_blank (by rw [empty]; decide)

end UUID

end DotmacCloud
