/-
# Numerals

`int(text)` of a text of ASCII characters: white space around it, a sign, and
digits with single underscores between them, no more than
`sys.int_info.default_max_str_digits` of them.  The decimal digits of a number
are read back as the number (`int_toDigits`).
-/

import Mathlib.Data.Int.Notation
import Mathlib.Data.List.Basic

namespace Numerals

/-- The white space of C. -/
def isBlank (c : Char) : Bool :=
  c.toNat = 32 || (9 ≤ c.toNat && c.toNat ≤ 13)

/-- The text without the white space around it. -/
def trim (text : List Char) : List Char :=
  ((text.dropWhile isBlank).reverse.dropWhile isBlank).reverse

/-- `sys.int_info.default_max_str_digits`. -/
def maxDigits : ℕ := 4300

/-- The digits of an unsigned numeral. -/
def digits (text : List Char) : Option (List Char) :=
  let groups := text.splitOn '_'
  if groups.all (fun group => !group.isEmpty && group.all Char.isDigit) &&
      groups.flatten.length ≤ maxDigits then
    some groups.flatten
  else none

/-- The value of an unsigned numeral. -/
def natural (text : List Char) : Option ℕ :=
  (digits text).map fun digits => Nat.ofDigitChars 10 digits 0

/-- `int(text)`: `none` where it raises `ValueError`. -/
def int (text : List Char) : Option ℤ :=
  let body := trim text
  if body.head? = some '-' then (natural body.tail).map fun n => -(n : ℤ)
  else (natural (if body.head? = some '+' then body.tail else body)).map Int.ofNat

theorem dropWhile_eq_self {p : Char → Bool} {text : List Char} (h : ∀ c ∈ text, p c = false) :
    text.dropWhile p = text := by
  cases text with
  | nil => rfl
  | cons c rest => rw [List.dropWhile_cons, h c List.mem_cons_self, if_neg Bool.false_ne_true]

theorem trim_eq_self {text : List Char} (h : ∀ c ∈ text, isBlank c = false) : trim text = text := by
  rw [trim, dropWhile_eq_self h, dropWhile_eq_self fun c hc => h c (List.mem_reverse.1 hc),
    List.reverse_reverse]

theorem isBlank_of_isDigit {c : Char} (h : c.isDigit = true) : isBlank c = false := by
  simp only [Char.isDigit, Bool.and_eq_true, decide_eq_true_eq, ge_iff_le,
    UInt32.le_iff_toNat_le] at h
  have hlow : 48 ≤ c.toNat := h.1
  simp only [isBlank, Bool.or_eq_false_iff, Bool.and_eq_false_iff, decide_eq_false_iff_not]
  omega

/-- **The decimal digits of a number are its numeral.** -/
theorem int_toDigits {n : ℕ} (h : (Nat.toDigits 10 n).length ≤ maxDigits) :
    int (Nat.toDigits 10 n) = some (n : ℤ) := by
  have hdigit : ∀ c ∈ Nat.toDigits 10 n, c.isDigit = true := fun c hc =>
    Nat.isDigit_of_mem_toDigits (by decide) (by decide) hc
  have htrim : trim (Nat.toDigits 10 n) = Nat.toDigits 10 n :=
    trim_eq_self fun c hc => isBlank_of_isDigit (hdigit c hc)
  have hsign : ∀ sign : Char, sign.isDigit = false →
      (Nat.toDigits 10 n).head? ≠ some sign := by
    intro sign hsign hhead
    have hmem := hdigit sign (List.mem_of_head? hhead)
    rw [hsign] at hmem
    exact Bool.false_ne_true hmem
  have hgroups : (Nat.toDigits 10 n).splitOn '_' = [Nat.toDigits 10 n] :=
    List.splitOn_eq_singleton Nat.underscore_not_in_toDigits
  have hdigits : digits (Nat.toDigits 10 n) = some (Nat.toDigits 10 n) := by
    have hall : (Nat.toDigits 10 n).all Char.isDigit = true := List.all_eq_true.2 hdigit
    have hne : (Nat.toDigits 10 n).isEmpty = false := by
      rw [List.isEmpty_eq_false_iff]
      exact Nat.toDigits_ne_nil
    rw [digits, hgroups]
    simp [hall, hne, h]
  rw [int, htrim, if_neg (hsign '-' rfl), if_neg (hsign '+' rfl), natural, hdigits, Option.map_some,
    Option.map_some, Nat.ofDigitChars_ten_toDigits]
  rfl

end Numerals
