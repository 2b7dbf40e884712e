/-
# Numbers of 53 binary digits

A floating-point operation returns the number of 53 binary digits that is nearest to
the exact result, and the one with an even last digit where two are as near.  Here
`round` takes the exact result to that number, over any field with a floor; the
exponent has no bounds, so neither overflow nor a gradual underflow is modelled.

What a program that computes with such numbers relies on is that rounding keeps the
order (`round_mono`), and that a result is off by one part in 2⁵³ at most
(`abs_round_sub_le`).  `Near` says how far a computed number is from the exact one and
has one rule for each operation.
-/

import Mathlib.Algebra.Order.Archimedean.Basic
import Mathlib.Data.Int.Log
import Mathlib.Data.Rat.Floor
import Mathlib.Tactic.FieldSimp
import Mathlib.Tactic.Linarith
import Mathlib.Tactic.Positivity
import Mathlib.Tactic.Ring

namespace Doubles

universe u

variable {K : Type u} [Field K] [LinearOrder K] [FloorRing K] {q q' : K}

/-! ### The nearest integer -/

/-- The nearest integer, and the even one of two. -/
def roundHalfEven (q : K) : ℤ :=
  if q - ⌊q⌋ < 1 / 2 then ⌊q⌋
  else if 1 / 2 < q - ⌊q⌋ then ⌊q⌋ + 1
  else ⌊q⌋ + ⌊q⌋ % 2

theorem floor_le_roundHalfEven (q : K) : ⌊q⌋ ≤ roundHalfEven q := by
  have hparity := Int.emod_nonneg ⌊q⌋ two_ne_zero
  unfold roundHalfEven
  split_ifs <;> omega

theorem roundHalfEven_le (q : K) : roundHalfEven q ≤ ⌊q⌋ + 1 := by
  have hparity := Int.emod_lt_of_pos ⌊q⌋ two_pos
  unfold roundHalfEven
  split_ifs <;> omega

variable [IsStrictOrderedRing K]

@[simp] theorem roundHalfEven_intCast (n : ℤ) : roundHalfEven (n : K) = n := by
  simp [roundHalfEven]

/-- **The nearest integer is at most half away.** -/
theorem abs_roundHalfEven_sub_le (q : K) : |(roundHalfEven q : K) - q| ≤ 1 / 2 := by
  have hlow := Int.floor_le q
  have hhigh := Int.lt_floor_add_one q
  unfold roundHalfEven
  split_ifs with hbelow habove
  · rw [abs_le]
    constructor <;> linarith
  · push_cast
    rw [abs_le]
    constructor <;> linarith
  · have hhalf : q - ⌊q⌋ = 1 / 2 := le_antisymm (not_lt.1 habove) (not_lt.1 hbelow)
    rcases Int.emod_two_eq_zero_or_one ⌊q⌋ with hparity | hparity <;> rw [hparity] <;> push_cast <;>
      rw [abs_le] <;> constructor <;> linarith

/-- **Taking the nearest integer keeps the order.** -/
theorem roundHalfEven_mono (h : q ≤ q') : roundHalfEven q ≤ roundHalfEven q' := by
  rcases (Int.floor_mono h).lt_or_eq with hfloor | hfloor
  · calc roundHalfEven q ≤ ⌊q⌋ + 1 := roundHalfEven_le q
      _ ≤ ⌊q'⌋ := hfloor
      _ ≤ roundHalfEven q' := floor_le_roundHalfEven q'
  · have hparity := Int.emod_nonneg ⌊q'⌋ two_ne_zero
    have hparity' := Int.emod_lt_of_pos ⌊q'⌋ two_pos
    have hfraction : q - ⌊q⌋ ≤ q' - ⌊q'⌋ := by
      rw [hfloor]
      exact sub_le_sub_right h _
    unfold roundHalfEven
    rw [hfloor] at hfraction ⊢
    split_ifs with h₁ h₂ h₃ h₄ h₅ h₆ h₇ h₈ <;> first | omega | (exfalso; linarith)

/-! ### The nearest number of 53 digits -/

/-- The weight of the last digit of a number. -/
def ulp (q : K) : K :=
  2 ^ (Int.log 2 q - 52)

/-- The nearest number of 53 digits, for a number that is not negative. -/
def round (q : K) : K :=
  roundHalfEven (q / ulp q) * ulp q

theorem ulp_pos (q : K) : 0 < ulp q :=
  zpow_pos two_pos _

@[simp] theorem round_zero : round (0 : K) = 0 := by
  have h := roundHalfEven_intCast (K := K) 0
  rw [Int.cast_zero] at h
  simp [round, h]

theorem pow_mul_ulp (q : K) : (2 : K) ^ (52 : ℕ) * ulp q = 2 ^ Int.log 2 q := by
  rw [ulp, ← zpow_natCast, ← zpow_add₀ two_ne_zero]
  congr 1
  push_cast
  ring

/-- A number is not below the number of its leading digit. -/
theorem pow_log_le_round (h : 0 < q) : (2 : K) ^ Int.log 2 q ≤ round q := by
  have hlog : (2 : K) ^ Int.log 2 q ≤ q := by exact_mod_cast Int.zpow_log_le_self one_lt_two h
  have hquotient : (((2 : ℤ) ^ 52 : ℤ) : K) ≤ q / ulp q := by
    rwa [le_div_iff₀ (ulp_pos q), Int.cast_pow, Int.cast_ofNat, pow_mul_ulp]
  have hround := roundHalfEven_mono hquotient
  rw [roundHalfEven_intCast] at hround
  calc (2 : K) ^ Int.log 2 q = (((2 : ℤ) ^ 52 : ℤ) : K) * ulp q := by
        rw [Int.cast_pow, Int.cast_ofNat, pow_mul_ulp]
    _ ≤ round q := mul_le_mul_of_nonneg_right (Int.cast_le.2 hround) (ulp_pos q).le

/-- A rounded number is not above the power of two that comes next. -/
theorem round_le_pow_log (q : K) : round q ≤ 2 ^ (Int.log 2 q + 1) := by
  have hlog : q < (2 : K) ^ (Int.log 2 q + 1) := by
    exact_mod_cast Int.lt_zpow_succ_log_self one_lt_two q
  have hpow : (2 : K) ^ (Int.log 2 q + 1) = (((2 : ℤ) ^ 53 : ℤ) : K) * ulp q := by
    rw [zpow_add₀ two_ne_zero, ← pow_mul_ulp, Int.cast_pow, Int.cast_ofNat]
    ring
  have hquotient : q / ulp q ≤ (((2 : ℤ) ^ 53 : ℤ) : K) := by
    rw [div_le_iff₀ (ulp_pos q), ← hpow]
    exact hlog.le
  have hround := roundHalfEven_mono hquotient
  rw [roundHalfEven_intCast] at hround
  rw [hpow]
  exact mul_le_mul_of_nonneg_right (Int.cast_le.2 hround) (ulp_pos q).le

theorem round_nonneg (h : 0 ≤ q) : 0 ≤ round q := by
  rcases h.lt_or_eq with hpos | rfl
  · exact (zpow_pos two_pos _).le.trans (pow_log_le_round hpos)
  · rw [round_zero]

/-- **Rounding keeps the order.** -/
theorem round_mono (h : 0 ≤ q) (hle : q ≤ q') : round q ≤ round q' := by
  rcases h.lt_or_eq with hpos | rfl
  · rcases (Int.log_mono_right hpos hle).lt_or_eq with hlog | hlog
    · calc round q ≤ 2 ^ (Int.log 2 q + 1) := round_le_pow_log q
        _ ≤ 2 ^ Int.log 2 q' := zpow_le_zpow_right₀ one_le_two hlog
        _ ≤ round q' := pow_log_le_round (hpos.trans_le hle)
    · have hulp : ulp q = ulp q' := by rw [ulp, ulp, hlog]
      have hquotient : q / ulp q' ≤ q' / ulp q' := div_le_div_of_nonneg_right hle (ulp_pos q').le
      rw [round, round, hulp]
      exact mul_le_mul_of_nonneg_right (Int.cast_le.2 (roundHalfEven_mono hquotient))
        (ulp_pos q').le
  · rw [round_zero]
    exact round_nonneg hle

/-- **A rounded number is off by one part in 2⁵³ at most.** -/
theorem abs_round_sub_le (h : 0 ≤ q) : |round q - q| ≤ q / 2 ^ 53 := by
  rcases h.lt_or_eq with hpos | rfl
  · have hlog : (2 : K) ^ Int.log 2 q ≤ q := by exact_mod_cast Int.zpow_log_le_self one_lt_two hpos
    have hulp := ulp_pos q
    have hsplit : round q - q = (roundHalfEven (q / ulp q) - q / ulp q) * ulp q := by
      rw [round, sub_mul, div_mul_cancel₀ _ hulp.ne']
    calc |round q - q| = |(roundHalfEven (q / ulp q) : K) - q / ulp q| * ulp q := by
          rw [hsplit, abs_mul, abs_of_pos hulp]
      _ ≤ 1 / 2 * ulp q := mul_le_mul_of_nonneg_right (abs_roundHalfEven_sub_le _) hulp.le
      _ = 2 ^ Int.log 2 q / 2 ^ 53 := by
          rw [← pow_mul_ulp]
          ring
      _ ≤ q / 2 ^ 53 := div_le_div_of_nonneg_right hlog (by positivity)
  · simp

/-! ### Computed and exact numbers -/

section Near

variable {a b c d : K} {k l : ℕ}

/-- The computed number is off by `k` parts in 2⁵³ of the exact one at most. -/
def Near (k : ℕ) (computed exact : K) : Prop :=
  0 ≤ exact ∧ |computed - exact| ≤ k / 2 ^ 53 * exact

omit [FloorRing K] in
theorem Near.of_nonneg (h : 0 ≤ a) : Near 0 a a :=
  ⟨h, by simp⟩

theorem Near.mono (h : Near k a b) (hle : k ≤ l) : Near l a b := by
  have hcast : (k : K) / 2 ^ 53 ≤ l / 2 ^ 53 :=
    div_le_div_of_nonneg_right (Nat.cast_le.2 hle) (by positivity)
  exact ⟨h.1, h.2.trans (mul_le_mul_of_nonneg_right hcast h.1)⟩

theorem Near.add (h : Near k a b) (h' : Near k c d) : Near k (a + c) (b + d) := by
  refine ⟨add_nonneg h.1 h'.1, ?_⟩
  calc |a + c - (b + d)| = |(a - b) + (c - d)| := by congr 1; ring
    _ ≤ |a - b| + |c - d| := abs_add_le _ _
    _ ≤ k / 2 ^ 53 * b + k / 2 ^ 53 * d := add_le_add h.2 h'.2
    _ = k / 2 ^ 53 * (b + d) := by ring

theorem Near.mul (h : Near k a b) (h' : Near l c d) (hsmall : k * l ≤ 2 ^ 53) :
    Near (k + l + 1) (a * c) (b * d) := by
  have hbd := mul_nonneg h.1 h'.1
  have hsmall' : (k : K) * l ≤ 2 ^ 53 := by exact_mod_cast hsmall
  refine ⟨hbd, ?_⟩
  calc |a * c - b * d| = |(a - b) * d + b * (c - d) + (a - b) * (c - d)| := by
        congr 1
        ring
    _ ≤ |a - b| * d + b * |c - d| + |a - b| * |c - d| := by
        refine (abs_add_three _ _ _).trans (le_of_eq ?_)
        rw [abs_mul, abs_mul, abs_mul, abs_of_nonneg h.1, abs_of_nonneg h'.1]
    _ ≤ k / 2 ^ 53 * b * d + b * (l / 2 ^ 53 * d) + k / 2 ^ 53 * b * (l / 2 ^ 53 * d) :=
        add_le_add (add_le_add (mul_le_mul_of_nonneg_right h.2 h'.1)
          (mul_le_mul_of_nonneg_left h'.2 h.1))
          (mul_le_mul h.2 h'.2 (abs_nonneg _) (mul_nonneg (by positivity) h.1))
    _ = (k + l + k * l / 2 ^ 53) / 2 ^ 53 * (b * d) := by ring
    _ ≤ (k + l + 1) / 2 ^ 53 * (b * d) := by
        refine mul_le_mul_of_nonneg_right (div_le_div_of_nonneg_right ?_ (by positivity)) hbd
        have := div_le_one_of_le₀ hsmall' (by positivity)
        linarith
    _ = ((k + l + 1 : ℕ) : K) / 2 ^ 53 * (b * d) := by push_cast; rfl

theorem Near.div (h : Near k a b) (hc : 0 < c) : Near k (a / c) (b / c) := by
  refine ⟨div_nonneg h.1 hc.le, ?_⟩
  calc |a / c - b / c| = |a - b| / c := by rw [← sub_div, abs_div, abs_of_pos hc]
    _ ≤ k / 2 ^ 53 * b / c := div_le_div_of_nonneg_right h.2 hc.le
    _ = k / 2 ^ 53 * (b / c) := by ring

/-- **One more rounding is two more parts.** -/
theorem Near.round (h : Near k a b) (ha : 0 ≤ a) (hsmall : k ≤ 2 ^ 53) :
    Near (k + 2) (round a) b := by
  have hsmall' : (k : K) ≤ 2 ^ 53 := by exact_mod_cast hsmall
  have hle : a ≤ 2 * b := by
    have hfactor : (k : K) / 2 ^ 53 ≤ 1 := div_le_one_of_le₀ hsmall' (by positivity)
    have hbound := (abs_le.1 h.2).2
    have hterm := mul_le_mul_of_nonneg_right hfactor h.1
    linarith
  refine ⟨h.1, ?_⟩
  calc |Doubles.round a - b| = |(Doubles.round a - a) + (a - b)| := by congr 1; ring
    _ ≤ |Doubles.round a - a| + |a - b| := abs_add_le _ _
    _ ≤ a / 2 ^ 53 + k / 2 ^ 53 * b := add_le_add (abs_round_sub_le ha) h.2
    _ ≤ 2 * b / 2 ^ 53 + k / 2 ^ 53 * b := by
        have := div_le_div_of_nonneg_right hle (by positivity : (0 : K) ≤ 2 ^ 53)
        linarith
    _ = ((k + 2 : ℕ) : K) / 2 ^ 53 * b := by push_cast; ring

end Near

end Doubles
