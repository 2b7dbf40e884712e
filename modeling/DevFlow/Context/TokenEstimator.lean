/-
# The estimate of billable tokens

`context/token_estimator.py`.  `billable_token_estimate` counts the CJK characters of a
text and the others and computes with floating-point numbers, here with the nearest
numbers of 53 digits.

Every operation keeps the order, so a longer text has no smaller estimate
(`TokenEstimator.billableTokens_mono`).  With the default factors an estimate is
`⌈23 (21 c + 5 o) / 350⌉` for `c` CJK characters and `o` others, up to 2³⁰ characters
(`billableTokens_eq`): the exact quotient is an integer or more than the missing 0.001
above one, and the rounding errors are far smaller.
-/

import DevFlow.Library.Doubles
import Mathlib.Tactic.NormNum

namespace DevFlow

open Doubles (Near)

/-- `_is_cjk`. -/
def isCjk (character : Char) : Bool :=
  let codepoint := character.toNat
  (0x3400 ≤ codepoint && codepoint ≤ 0x4DBF) ||
    (0x4E00 ≤ codepoint && codepoint ≤ 0x9FFF) ||
    (0xF900 ≤ codepoint && codepoint ≤ 0xFAFF) ||
    (0x3040 ≤ codepoint && codepoint ≤ 0x30FF) ||
    (0xAC00 ≤ codepoint && codepoint ≤ 0xD7AF)

/-- `TokenEstimator`, with what its `__post_init__` checks. -/
structure TokenEstimator where
  safetyFactor : ℚ := Doubles.round (115 / 100)
  asciiCharsPerToken : ℚ := Doubles.round (35 / 10)
  cjkTokensPerChar : ℚ := Doubles.round (12 / 10)
  safetyFactor_bounds : 1 ≤ safetyFactor ∧ safetyFactor ≤ 2 := by decide +kernel
  asciiCharsPerToken_bounds : 2 ≤ asciiCharsPerToken ∧ asciiCharsPerToken ≤ 8 := by decide +kernel
  cjkTokensPerChar_bounds : 1 ≤ cjkTokensPerChar ∧ cjkTokensPerChar ≤ 2 := by decide +kernel

namespace TokenEstimator

/-- `raw`. -/
def raw (estimator : TokenEstimator) (cjkChars nonCjkChars : ℕ) : ℚ :=
  Doubles.round (Doubles.round (Doubles.round (cjkChars : ℚ) * estimator.cjkTokensPerChar) +
    Doubles.round (Doubles.round (nonCjkChars : ℚ) / estimator.asciiCharsPerToken))

/-- The estimate for a text that is not empty, by the numbers of its characters. -/
def billableTokens (estimator : TokenEstimator) (cjkChars nonCjkChars : ℕ) : ℕ :=
  max 1 ⌊Doubles.round (Doubles.round (estimator.raw cjkChars nonCjkChars * estimator.safetyFactor) +
    Doubles.round (999 / 1000))⌋₊

/-- `billable_token_estimate`. -/
def billableTokenEstimate (estimator : TokenEstimator) (content : List Char) : ℕ :=
  if content = [] then 0
  else
    let cjkChars := content.countP isCjk
    estimator.billableTokens cjkChars (content.length - cjkChars)

/-- `TokenEstimator()`. -/
def default : TokenEstimator := {}

variable {estimator : TokenEstimator} {c c' o o' : ℕ}

/-! ### The order of the estimates -/

theorem round_natCast_nonneg (n : ℕ) : 0 ≤ Doubles.round (n : ℚ) :=
  Doubles.round_nonneg (Nat.cast_nonneg n)

theorem round_natCast_mono {n n' : ℕ} (h : n ≤ n') : Doubles.round (n : ℚ) ≤ Doubles.round (n' : ℚ) :=
  Doubles.round_mono (Nat.cast_nonneg n) (Nat.cast_le.2 h)

theorem cjkTokensPerChar_nonneg (estimator : TokenEstimator) : 0 ≤ estimator.cjkTokensPerChar :=
  zero_le_one.trans estimator.cjkTokensPerChar_bounds.1

theorem asciiCharsPerToken_pos (estimator : TokenEstimator) : 0 < estimator.asciiCharsPerToken :=
  two_pos.trans_le estimator.asciiCharsPerToken_bounds.1

theorem safetyFactor_nonneg (estimator : TokenEstimator) : 0 ≤ estimator.safetyFactor :=
  zero_le_one.trans estimator.safetyFactor_bounds.1

theorem raw_nonneg : 0 ≤ estimator.raw c o :=
  Doubles.round_nonneg (add_nonneg
    (Doubles.round_nonneg (mul_nonneg (round_natCast_nonneg c) estimator.cjkTokensPerChar_nonneg))
    (Doubles.round_nonneg (div_nonneg (round_natCast_nonneg o) estimator.asciiCharsPerToken_pos.le)))

theorem raw_mono (hc : c ≤ c') (ho : o ≤ o') : estimator.raw c o ≤ estimator.raw c' o' := by
  have hcjk := mul_nonneg (round_natCast_nonneg c) estimator.cjkTokensPerChar_nonneg
  have hascii := div_nonneg (round_natCast_nonneg o) estimator.asciiCharsPerToken_pos.le
  refine Doubles.round_mono
    (add_nonneg (Doubles.round_nonneg hcjk) (Doubles.round_nonneg hascii)) (add_le_add ?_ ?_)
  · exact Doubles.round_mono hcjk
      (mul_le_mul_of_nonneg_right (round_natCast_mono hc) estimator.cjkTokensPerChar_nonneg)
  · exact Doubles.round_mono hascii
      (div_le_div_of_nonneg_right (round_natCast_mono ho) estimator.asciiCharsPerToken_pos.le)

/-- **More characters have no smaller estimate.** -/
theorem billableTokens_mono (hc : c ≤ c') (ho : o ≤ o') :
    estimator.billableTokens c o ≤ estimator.billableTokens c' o' := by
  have hraw : 0 ≤ estimator.raw c o * estimator.safetyFactor :=
    mul_nonneg raw_nonneg estimator.safetyFactor_nonneg
  have hceil : (0 : ℚ) ≤ Doubles.round (999 / 1000) := Doubles.round_nonneg (by norm_num)
  refine max_le_max le_rfl (Nat.floor_mono (Doubles.round_mono
    (add_nonneg (Doubles.round_nonneg hraw) hceil) (add_le_add ?_ le_rfl)))
  exact Doubles.round_mono hraw
    (mul_le_mul_of_nonneg_right (raw_mono hc ho) estimator.safetyFactor_nonneg)

theorem one_le_billableTokens : 1 ≤ estimator.billableTokens c o :=
  le_max_left _ _

/-- **A part of a text has no larger estimate.** -/
theorem billableTokenEstimate_mono {content content' : List Char} (h : content.Sublist content') :
    estimator.billableTokenEstimate content ≤ estimator.billableTokenEstimate content' := by
  unfold billableTokenEstimate
  split_ifs with hnil hnil' hnil'
  · exact le_rfl
  · exact Nat.zero_le _
  · rw [hnil', List.sublist_nil] at h
    exact absurd h hnil
  · have hother : ∀ l : List Char, l.length - l.countP isCjk =
        l.countP fun character => !isCjk character := fun l => by
      have := l.length_eq_countP_add_countP isCjk
      simp only [Bool.not_eq_true, Bool.decide_eq_false] at this
      omega
    simp only [hother]
    exact billableTokens_mono h.countP_le h.countP_le

/-! ### The estimates of the default factors -/

/-- What is computed for `c` CJK characters and `o` others before it is rounded down,
beside the exact number. -/
theorem near_default (c o : ℕ) :
    Near 16
      (Doubles.round (Doubles.round (default.raw c o * default.safetyFactor) +
        Doubles.round (999 / 1000)))
      (23 * (21 * c + 5 * o : ℕ) / 350 + 999 / 1000 : ℚ) := by
  have hcount : ∀ n : ℕ, Near 2 (Doubles.round (n : ℚ)) n := fun n =>
    (Near.of_nonneg (Nat.cast_nonneg n)).round (Nat.cast_nonneg n) (by norm_num)
  have hliteral : ∀ q : ℚ, 0 ≤ q → Near 2 (Doubles.round q) q := fun q hq =>
    (Near.of_nonneg hq).round hq (by norm_num)
  have hascii : default.asciiCharsPerToken = 7 / 2 := by decide +kernel
  have hcjk : Near 7 (Doubles.round (Doubles.round (c : ℚ) * default.cjkTokensPerChar))
      (c * (12 / 10)) :=
    ((hcount c).mul (hliteral (12 / 10) (by norm_num)) (by norm_num)).round
      (mul_nonneg (round_natCast_nonneg c) default.cjkTokensPerChar_nonneg) (by norm_num)
  have hother : Near 4 (Doubles.round (Doubles.round (o : ℚ) / default.asciiCharsPerToken))
      (o / (7 / 2)) := by
    rw [hascii]
    exact ((hcount o).div (by norm_num)).round
      (div_nonneg (round_natCast_nonneg o) (by norm_num)) (by norm_num)
  have hraw : Near 9 (default.raw c o) (c * (12 / 10) + o / (7 / 2)) :=
    (hcjk.add (hother.mono (by norm_num))).round
      (add_nonneg
        (Doubles.round_nonneg
          (mul_nonneg (round_natCast_nonneg c) default.cjkTokensPerChar_nonneg))
        (Doubles.round_nonneg
          (div_nonneg (round_natCast_nonneg o) default.asciiCharsPerToken_pos.le)))
      (by norm_num)
  have hsafe : Near 14 (Doubles.round (default.raw c o * default.safetyFactor))
      ((c * (12 / 10) + o / (7 / 2)) * (115 / 100)) :=
    (hraw.mul (hliteral (115 / 100) (by norm_num)) (by norm_num)).round
      (mul_nonneg raw_nonneg default.safetyFactor_nonneg) (by norm_num)
  have hsum := (hsafe.add ((hliteral (999 / 1000) (by norm_num)).mono (by norm_num))).round
    (add_nonneg
      (Doubles.round_nonneg (mul_nonneg raw_nonneg default.safetyFactor_nonneg))
      (Doubles.round_nonneg (by norm_num)))
    (by norm_num)
  have hexact : ((c : ℚ) * (12 / 10) + o / (7 / 2)) * (115 / 100) + 999 / 1000 =
      23 * (21 * c + 5 * o : ℕ) / 350 + 999 / 1000 := by
    push_cast
    ring
  rw [hexact] at hsum
  exact hsum

/-- **The estimate with the default factors**, as long as the rounding errors are below
what the literal 0.999 leaves. -/
theorem billableTokens_eq (hpos : 0 < c + o) (hsmall : 21 * c + 5 * o ≤ 2 ^ 36) :
    default.billableTokens c o = (23 * (21 * c + 5 * o) + 349) / 350 := by
  obtain ⟨-, hnear⟩ := near_default c o
  set weight := 21 * c + 5 * o with hweight
  set tokens := (23 * weight + 349) / 350 with htokens
  set computed := Doubles.round (Doubles.round (default.raw c o * default.safetyFactor) +
    Doubles.round (999 / 1000)) with hcomputed
  have hhigh : 350 * tokens ≤ 23 * weight + 349 := by omega
  have hlow' : (23 * weight : ℚ) ≤ 350 * tokens := by
    have : 23 * weight ≤ 350 * tokens := by omega
    exact_mod_cast this
  have hhigh' : (350 * tokens : ℚ) ≤ 23 * weight + 349 := by exact_mod_cast hhigh
  have hsmall' : (weight : ℚ) ≤ 2 ^ 36 := by exact_mod_cast hsmall
  have hbounds := abs_le.1 hnear
  push_cast at hbounds
  have hfloor : ⌊computed⌋₊ = tokens := by
    rw [Nat.floor_eq_iff (Doubles.round_nonneg (add_nonneg
      (Doubles.round_nonneg (mul_nonneg raw_nonneg default.safetyFactor_nonneg))
      (Doubles.round_nonneg (by norm_num))))]
    constructor <;> linarith
  have htokens' : 1 ≤ tokens := by omega
  rw [billableTokens, ← hcomputed, hfloor]
  exact max_eq_right htokens'

/-- **The estimate of a text**, by the numbers of its characters. -/
theorem billableTokenEstimate_eq {content : List Char} (hpos : 0 < content.length)
    (hsmall : content.length ≤ 2 ^ 30) :
    default.billableTokenEstimate content =
      (23 * (21 * content.countP isCjk + 5 * (content.length - content.countP isCjk)) + 349) /
        350 := by
  have hle : content.countP isCjk ≤ content.length := List.countP_le_length
  rw [billableTokenEstimate, if_neg (List.length_pos_iff.1 hpos)]
  exact billableTokens_eq (by omega) (by omega)

end TokenEstimator

end DevFlow
