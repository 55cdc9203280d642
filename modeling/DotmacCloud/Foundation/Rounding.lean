import DotmacCloud.Foundation.Decimal

/-! # What a rounded sum is worth

A decimal denotes a rational number. The exact sum denotes the sum, and rounding it
into a context gives the nearest multiple of a quantum, the even one of two. The
quantum is the last place the precision leaves, so a value that fits is unchanged.
-/

namespace DotmacCloud.Foundation.Decimal

/-- A magnitude under a sign. -/
def signed (negative : Bool) (magnitude : Nat) : Int := if negative then -magnitude else magnitude

/-- The number a decimal denotes. -/
def toRat (d : Decimal) : ℚ := signed d.negative d.coefficient * 10 ^ d.exponent

/-- `n` is the integer nearest to `x`, and the even one where two are. -/
def NearestEven (x : ℚ) (n : Int) : Prop := |x - n| ≤ 1 / 2 ∧ (|x - n| = 1 / 2 → Even n)

/-- `r` is `x` rounded half to even at the last place the context's precision leaves
    it, or at its least exponent. -/
def Rounded (context : Context) (x : ℚ) (r : Decimal) : Prop :=
  ∃ n quantum : Int, r.toRat = n * 10 ^ quantum ∧ NearestEven (x / 10 ^ quantum) n ∧
    context.etiny ≤ quantum ∧ |x| < 10 ^ (quantum + context.precision) ∧
    (quantum = context.etiny ∨ 10 ^ (quantum + context.precision - 1) ≤ |x|)

/-- A number of at most `precision` digits at an exponent of the context. -/
def Representable (context : Context) (x : ℚ) : Prop :=
  ∃ m exponent : Int, |m| < 10 ^ context.precision ∧ context.etiny ≤ exponent ∧ x = m * 10 ^ exponent

/-! ## The exact sum -/

theorem ten_zpow_pos (e : Int) : (0 : ℚ) < 10 ^ e := zpow_pos (by norm_num) e

theorem ten_zpow_add (a b : Int) : (10 : ℚ) ^ (a + b) = 10 ^ a * 10 ^ b := zpow_add₀ (by norm_num) a b

/-- A shift of the exponent to a smaller one. -/
theorem ten_zpow_shift {small large : Int} (below : small ≤ large) :
    (10 : ℚ) ^ (large - small).toNat * 10 ^ small = 10 ^ large := by
  have exponent : ((large - small).toNat : Int) = large - small := Int.toNat_of_nonneg (by omega)
  rw [← zpow_natCast, ← ten_zpow_add, exponent, Int.sub_add_cancel]

theorem scaled_toRat {d : Decimal} {exponent : Int} (below : exponent ≤ d.exponent) :
    (d.scaled exponent : ℚ) * 10 ^ exponent = d.toRat := by
  rw [toRat, ← ten_zpow_shift below, ← mul_assoc]
  congr 1
  unfold scaled signed
  split_ifs
  · push_cast
    ring
  · push_cast
    ring

theorem signed_natAbs (total : Int) {negative : Bool}
    (sign : total ≠ 0 → negative = decide (total < 0)) : signed negative total.natAbs = total := by
  unfold signed
  by_cases zero : total = 0
  · subst zero
    cases negative <;> rfl
  · rw [sign zero]
    by_cases below : total < 0
    · simp only [below, decide_true, if_true]
      omega
    · simp only [below, decide_false, Bool.false_eq_true, if_false]
      omega

theorem exactSum_toRat (a b : Decimal) : (exactSum a b).toRat = a.toRat + b.toRat := by
  rw [← scaled_toRat (min_le_left a.exponent b.exponent),
    ← scaled_toRat (min_le_right a.exponent b.exponent), ← add_mul]
  simp only [toRat, exactSum]
  rw [signed_natAbs _ (fun nonzero => if_neg nonzero)]
  push_cast
  rfl

/-! ## Rounding half to even -/

theorem nearestEven_intCast (n : Int) : NearestEven n n := by
  unfold NearestEven
  norm_num

theorem NearestEven.neg {x : ℚ} {n : Int} (nearest : NearestEven x n) : NearestEven (-x) (-n) := by
  have distance : |-x - ((-n : Int) : ℚ)| = |x - n| := by
    push_cast
    rw [← abs_neg]
    ring_nf
  unfold NearestEven
  rw [distance]
  exact ⟨nearest.1, fun half => (nearest.2 half).neg⟩

/-- An integer is nearest to itself alone. -/
theorem NearestEven.eq_of_intCast {m n : Int} (nearest : NearestEven m n) : n = m := by
  have close := nearest.1
  have integral : |(m : ℚ) - n| = (|m - n| : Int) := by push_cast; rfl
  rw [integral] at close
  have small : |m - n| < 1 := by
    have : ((|m - n| : Int) : ℚ) < 1 := lt_of_le_of_lt close (by norm_num)
    exact_mod_cast this
  have same := Int.abs_lt_one_iff.mp small
  omega

/-- A fraction below one half leaves the integer below it nearest. -/
theorem nearestEven_down {q : Int} {fraction : ℚ} (nonneg : 0 ≤ fraction) (small : fraction < 1 / 2) :
    NearestEven (q + fraction) q := by
  unfold NearestEven
  rw [add_sub_cancel_left, abs_of_nonneg nonneg]
  exact ⟨small.le, fun half => absurd half small.ne⟩

theorem nearestEven_up {q : Int} {fraction : ℚ} (large : 1 / 2 < fraction) (below : fraction < 1) :
    NearestEven (q + fraction) (q + 1 : Int) := by
  have distance : |(q + fraction : ℚ) - (q + 1 : Int)| = 1 - fraction := by
    push_cast
    rw [add_sub_add_left_eq_sub, abs_sub_comm, abs_of_pos (by linarith)]
  unfold NearestEven
  rw [distance]
  exact ⟨by linarith, fun half => by linarith⟩

/-- On a tie both neighbours are nearest, and the even one is taken. -/
theorem nearestEven_tie {q n : Int} (neighbour : n = q ∨ n = q + 1) (even : Even n) :
    NearestEven (q + 1 / 2) n := by
  refine ⟨?_, fun _ => even⟩
  cases neighbour with
  | inl same =>
      rw [same, add_sub_cancel_left, abs_of_pos (by norm_num)]
  | inr next =>
      rw [next]
      push_cast
      rw [add_sub_add_left_eq_sub, abs_of_neg (by norm_num)]
      norm_num

theorem roundHalfEven_nearest (n : Nat) {divisor : Nat} (positive : 0 < divisor) :
    NearestEven ((n : ℚ) / divisor) (roundHalfEven n divisor : Nat) := by
  have size : (0 : ℚ) < divisor := by exact_mod_cast positive
  have divided : (n : ℚ) / divisor = (n / divisor : Nat) + (n % divisor : Nat) / divisor := by
    have split : (divisor : ℚ) * (n / divisor : Nat) + (n % divisor : Nat) = n := by
      exact_mod_cast Nat.div_add_mod n divisor
    field_simp
    linarith
  have remainder : n % divisor < divisor := Nat.mod_lt n positive
  simp only [roundHalfEven]
  rw [divided]
  generalize n / divisor = quotient at *
  generalize n % divisor = rest at *
  have nonneg : (0 : ℚ) ≤ rest / divisor := by positivity
  split_ifs with below above even
  · apply nearestEven_down nonneg
    rw [div_lt_div_iff₀ size (by norm_num)]
    have : (2 * rest : ℚ) < divisor := by exact_mod_cast below
    linarith
  · apply nearestEven_up
    · rw [div_lt_div_iff₀ (by norm_num) size]
      have : (divisor : ℚ) < 2 * rest := by exact_mod_cast above
      linarith
    · rw [div_lt_one size]
      exact_mod_cast remainder
  all_goals
    have half : (rest : ℚ) / divisor = 1 / 2 := by
      have twice : 2 * rest = divisor := by omega
      rw [div_eq_div_iff size.ne' (by norm_num), ← twice]
      push_cast
      ring
    rw [half]
    apply nearestEven_tie
  · exact .inl rfl
  · exact_mod_cast Nat.even_iff.mpr even
  · exact .inr (by push_cast; rfl)
  · have odd : (quotient + 1) % 2 = 0 := by omega
    exact_mod_cast Nat.even_iff.mpr odd

/-! ## Rounding into a context -/

theorem digitCount_bounds {n : Nat} (positive : 0 < n) :
    0 < digitCount n ∧ 10 ^ (digitCount n - 1) ≤ n ∧ n < 10 ^ digitCount n := by
  have some_digit : 0 < digitCount n := Nat.length_toDigits_pos
  refine ⟨some_digit, ?_, ?_⟩
  · by_cases single : digitCount n - 1 = 0
    · rw [single]
      exact positive
    · by_contra fewer
      have short := (Nat.length_toDigits_le_iff (by norm_num) (by omega)).mpr (not_le.mp fewer)
      unfold digitCount at *
      omega
  · exact (Nat.length_toDigits_le_iff (by norm_num) some_digit).mp le_rfl

theorem abs_toRat (d : Decimal) : |d.toRat| = d.coefficient * 10 ^ d.exponent := by
  rw [toRat, abs_mul, abs_of_pos (ten_zpow_pos _)]
  congr 1
  unfold signed
  split_ifs
  · push_cast
    rw [abs_neg, Nat.abs_cast]
  · push_cast
    rw [Nat.abs_cast]

/-- The exponent of the last place the context leaves a non-zero decimal. -/
def lastPlace (context : Context) (d : Decimal) : Int :=
  max (digitCount d.coefficient + d.exponent - context.precision) context.etiny

theorem lastPlace_bounds (context : Context) {d : Decimal} (nonzero : d.coefficient ≠ 0) :
    |d.toRat| < 10 ^ (d.lastPlace context + context.precision) ∧
      (d.lastPlace context = context.etiny ∨
        10 ^ (d.lastPlace context + context.precision - 1) ≤ |d.toRat|) := by
  obtain ⟨someDigit, atLeast, below⟩ := digitCount_bounds (Nat.pos_of_ne_zero nonzero)
  have increasing : (1 : ℚ) ≤ 10 := by norm_num
  rw [abs_toRat]
  constructor
  · calc (d.coefficient : ℚ) * 10 ^ d.exponent
        < 10 ^ digitCount d.coefficient * 10 ^ d.exponent := by
          apply mul_lt_mul_of_pos_right _ (ten_zpow_pos _)
          exact_mod_cast below
      _ = 10 ^ (digitCount d.coefficient + d.exponent) := by rw [ten_zpow_add, zpow_natCast]
      _ ≤ 10 ^ (d.lastPlace context + context.precision) := by
          apply zpow_le_zpow_right₀ increasing
          have place := le_max_left (digitCount d.coefficient + d.exponent - context.precision)
            context.etiny
          unfold lastPlace
          omega
  · cases le_total (digitCount d.coefficient + d.exponent - context.precision) context.etiny with
    | inl least => exact .inl (max_eq_right least)
    | inr normal =>
        have place : d.lastPlace context + context.precision - 1 =
            ((digitCount d.coefficient - 1 : Nat) : Int) + d.exponent := by
          rw [lastPlace, max_eq_left normal]
          omega
        refine .inr ?_
        rw [place, ten_zpow_add, zpow_natCast]
        apply mul_le_mul_of_nonneg_right _ (ten_zpow_pos _).le
        exact_mod_cast atLeast

/-- A rounded magnitude under the sign of the decimal it was rounded from. -/
theorem nearestEven_signed {d : Decimal} {quantum : Int} (coarser : d.exponent < quantum) :
    NearestEven (d.toRat / 10 ^ quantum)
      (signed d.negative (roundHalfEven d.coefficient (10 ^ (quantum - d.exponent).toNat))) := by
  have scaledDown : d.toRat / 10 ^ quantum =
      signed d.negative d.coefficient / (10 ^ (quantum - d.exponent).toNat : Nat) := by
    rw [toRat, ← ten_zpow_shift coarser.le]
    push_cast
    have unit := (ten_zpow_pos d.exponent).ne'
    field_simp
  have places : 0 < 10 ^ (quantum - d.exponent).toNat := by positivity
  have nearest := roundHalfEven_nearest d.coefficient places
  rw [scaledDown]
  unfold signed
  split_ifs
  · rw [Int.cast_neg, neg_div]
    exact nearest.neg
  · exact nearest

/-- What rounding a non-zero decimal into a context can return. -/
theorem fix_cases {context : Context} {d r : Decimal} (nonzero : d.coefficient ≠ 0)
    (fixed : fix context d = some r) :
    (d.lastPlace context ≤ d.exponent ∧ r = d) ∨
    (d.exponent < d.lastPlace context ∧
      let rounded := roundHalfEven d.coefficient (10 ^ (d.lastPlace context - d.exponent).toNat)
      (rounded = 10 ^ context.precision ∧
        r = ⟨d.negative, 10 ^ (context.precision - 1), d.lastPlace context + 1⟩) ∨
      r = ⟨d.negative, rounded, d.lastPlace context⟩) := by
  unfold lastPlace
  simp only [fix, if_neg nonzero] at fixed
  split_ifs at fixed with high coarser carried carryHigh
  · exact .inr ⟨coarser, .inl ⟨carried, (Option.some.inj fixed).symm⟩⟩
  · exact .inr ⟨coarser, .inr (Option.some.inj fixed).symm⟩
  · exact .inl ⟨not_lt.mp coarser, (Option.some.inj fixed).symm⟩

theorem toRat_of_zero {d : Decimal} (zero : d.coefficient = 0) : d.toRat = 0 := by
  rw [← abs_eq_zero, abs_toRat, zero, Nat.cast_zero, zero_mul]

/-- Rounding up to a power of ten carries into the exponent. -/
theorem carry_toRat {digits : Nat} (positive : 0 < digits) (negative : Bool) (quantum : Int) :
    toRat ⟨negative, 10 ^ (digits - 1), quantum + 1⟩ =
      signed negative (10 ^ digits) * 10 ^ quantum := by
  have power : 10 ^ digits = 10 ^ (digits - 1) * 10 := by
    rw [← pow_succ, Nat.sub_add_cancel positive]
  rw [power, toRat, ten_zpow_add, zpow_one]
  unfold signed
  split_ifs
  · push_cast
    ring
  · push_cast
    ring

/-- What rounding into a context returns is the rounded number. -/
theorem fix_rounded {context : Context} (digits : 0 < context.precision) {d r : Decimal}
    (fixed : fix context d = some r) : Rounded context d.toRat r := by
  by_cases zero : d.coefficient = 0
  · rw [fix, if_pos zero] at fixed
    obtain rfl := Option.some.inj fixed
    rw [toRat_of_zero zero]
    refine ⟨0, context.etiny, ?_, ?_, le_rfl, ?_, .inl rfl⟩
    · rw [Int.cast_zero, zero_mul]
      exact toRat_of_zero zero
    · rw [zero_div]
      exact_mod_cast nearestEven_intCast 0
    · rw [abs_zero]
      exact ten_zpow_pos _
  · obtain ⟨below, least⟩ := lastPlace_bounds context zero
    have etiny : context.etiny ≤ d.lastPlace context := le_max_right _ _
    obtain ⟨fine, rfl⟩ | ⟨coarser, ⟨carried, rfl⟩ | rfl⟩ := fix_cases zero fixed
    · have multiple := scaled_toRat fine
      refine ⟨r.scaled (r.lastPlace context), r.lastPlace context, multiple.symm, ?_, etiny, below, least⟩
      rw [← multiple, mul_div_cancel_right₀ _ (ten_zpow_pos _).ne']
      exact nearestEven_intCast _
    · refine ⟨_, d.lastPlace context, ?_, nearestEven_signed coarser, etiny, below, least⟩
      rw [carried, carry_toRat digits]
    · exact ⟨_, d.lastPlace context, rfl, nearestEven_signed coarser, etiny, below, least⟩

/-- The sum of two decimals under a context is the exact sum, rounded once. -/
theorem add_rounded {context : Context} (digits : 0 < context.precision) {a b r : Decimal}
    (added : add context a b = some r) : Rounded context (a.toRat + b.toRat) r := by
  rw [← exactSum_toRat]
  exact fix_rounded digits added

/-- A number the context can write down is not changed by rounding. -/
theorem Rounded.eq_of_representable {context : Context} {x : ℚ} {r : Decimal}
    (rounded : Rounded context x r) (writable : Representable context x) : r.toRat = x := by
  obtain ⟨n, quantum, value, nearest, -, -, least⟩ := rounded
  obtain ⟨m, exponent, few, atLeast, same⟩ := writable
  cases le_or_gt quantum exponent with
  | inl fine =>
      have multiple : x = ((m * 10 ^ (exponent - quantum).toNat : Int) : ℚ) * 10 ^ quantum := by
        rw [same, ← ten_zpow_shift fine]
        push_cast
        ring
      rw [multiple, mul_div_cancel_right₀ _ (ten_zpow_pos _).ne'] at nearest
      rw [value, multiple, nearest.eq_of_intCast]
  | inr coarse =>
      -- a coarser quantum needs more digits than the context has
      exfalso
      have large : (10 : ℚ) ^ (quantum + context.precision - 1) ≤ |x| := by
        cases least with
        | inl smallest => omega
        | inr large => exact large
      have small : |x| < 10 ^ (quantum + context.precision - 1) := by
        calc |x| = (|m| : Int) * 10 ^ exponent := by
              rw [same, abs_mul, abs_of_pos (ten_zpow_pos _)]
              push_cast
              rfl
          _ < 10 ^ context.precision * 10 ^ exponent := by
              apply mul_lt_mul_of_pos_right _ (ten_zpow_pos _)
              exact_mod_cast few
          _ = 10 ^ (context.precision + exponent) := by rw [ten_zpow_add, zpow_natCast]
          _ ≤ 10 ^ (quantum + context.precision - 1) := by
              apply zpow_le_zpow_right₀ (by norm_num)
              omega
      exact absurd large (not_le.mpr small)

end DotmacCloud.Foundation.Decimal
