/-
# Normalised texts

The validators of the models normalise texts with `str.strip` before they check
them.  A stripped text is one that neither starts nor ends with white space, and
stripping it again changes nothing.  The text of a UUID is read back as the UUID:
its digits without the hyphens write its number.
-/

import DevFlow.Persistence.Rows
import Mathlib.Data.List.DropRight

namespace DevFlow

theorem strip_eq (s : String) :
    strip s = String.ofList ((s.toList.dropWhile isSpace).rdropWhile isSpace) :=
  rfl

theorem toList_strip (s : String) :
    (strip s).toList = (s.toList.dropWhile isSpace).rdropWhile isSpace := by
  rw [strip_eq, String.toList_ofList]

/-- **The texts that `strip` keeps** neither start nor end with white space. -/
theorem strip_eq_self_iff {s : String} :
    strip s = s ↔ (∀ c, s.toList.head? = some c → isSpace c = false) ∧
      ∀ c, s.toList.getLast? = some c → isSpace c = false := by
  rw [← String.toList_inj, toList_strip]
  constructor
  · intro h
    refine ⟨fun c hc => ?_, fun c hc => ?_⟩
    · have hlist : (s.toList.dropWhile isSpace).head? = some c := by
        have hpre := List.rdropWhile_prefix isSpace (s.toList.dropWhile isSpace)
        obtain ⟨rest, hrest⟩ := hpre
        rw [← hrest, h, List.head?_append, hc]
        rfl
      have hhead := List.head?_dropWhile_not isSpace s.toList
      rw [hlist] at hhead
      exact hhead
    · rw [← h] at hc
      have hne : (s.toList.dropWhile isSpace).rdropWhile isSpace ≠ [] := by
        rintro hnil
        rw [hnil] at hc
        cases hc
      have hlast := List.rdropWhile_last_not isSpace _ hne
      rw [List.getLast?_eq_some_getLast hne, Option.some.injEq] at hc
      rw [hc] at hlast
      exact Bool.eq_false_iff.2 hlast
  · rintro ⟨hhead, hlast⟩
    have hfront : s.toList.dropWhile isSpace = s.toList := by
      rw [List.dropWhile_eq_self_iff]
      intro hpos
      rw [hhead s.toList[0] (by rw [List.head?_eq_getElem?, List.getElem?_eq_getElem hpos])]
      exact Bool.false_ne_true
    rw [hfront, List.rdropWhile_eq_self_iff]
    intro hne
    rw [hlast _ (List.getLast?_eq_some_getLast hne)]
    exact Bool.false_ne_true

/-- **Stripping twice is stripping once.** -/
theorem strip_strip (s : String) : strip (strip s) = strip s := by
  rw [strip_eq_self_iff, toList_strip]
  refine ⟨fun c hc => ?_, fun c hc => ?_⟩
  · obtain ⟨rest, hrest⟩ := List.rdropWhile_prefix isSpace (s.toList.dropWhile isSpace)
    have hhead := List.head?_dropWhile_not isSpace s.toList
    rw [← hrest, List.head?_append, hc] at hhead
    exact hhead
  · have hne : (s.toList.dropWhile isSpace).rdropWhile isSpace ≠ [] := by
      rintro hnil
      rw [hnil] at hc
      cases hc
    have hlast := List.rdropWhile_last_not isSpace _ hne
    rw [List.getLast?_eq_some_getLast hne, Option.some.injEq] at hc
    rw [hc] at hlast
    exact Bool.eq_false_iff.2 hlast

/-- **Only white space is stripped away altogether.** -/
theorem strip_eq_empty_iff {s : String} : strip s = "" ↔ ∀ c ∈ s.toList, isSpace c = true := by
  rw [← String.toList_eq_nil_iff, toList_strip, List.rdropWhile_eq_nil_iff]
  constructor
  · intro h
    rw [← List.dropWhile_eq_nil_iff]
    by_contra hne
    obtain ⟨c, rest, hrest⟩ := List.exists_cons_of_ne_nil hne
    have hhead := List.head?_dropWhile_not isSpace s.toList
    rw [hrest] at hhead h
    have hspace := h c List.mem_cons_self
    rw [List.head?_cons] at hhead
    exact Bool.false_ne_true (hhead.symm.trans hspace)
  · intro h c hc
    exact h c ((List.dropWhile_suffix _).subset hc)

/-- What comes after a text does not change its first character. -/
theorem head?_toList_append {s : String} {c : Char} (h : s.toList.head? = some c) (text : String) :
    (s ++ text).toList.head? = some c := by
  rw [String.toList_append, List.head?_append, h]
  rfl

/-- A text that begins with more than white space is not stripped away. -/
theorem strip_append_ne_empty {s : String} {c : Char} (hhead : s.toList.head? = some c)
    (hc : isSpace c = false) {text : String} : strip (s ++ text) ≠ "" := by
  rw [Ne, strip_eq_empty_iff, String.toList_append]
  intro h
  have hspace := h c (List.mem_append_left _ (List.mem_of_head? hhead))
  exact Bool.false_ne_true (hc.symm.trans hspace)

/-- **What is stripped of a text that begins with more than white space** is at its end. -/
theorem toList_strip_append {left right : String} {c d : Char}
    (hhead : left.toList.head? = some c) (hc : isSpace c = false) (hd : d ∈ right.toList)
    (hdspace : isSpace d = false) :
    (strip (left ++ right)).toList = left.toList ++ right.toList.rdropWhile isSpace := by
  obtain ⟨rest, hrest⟩ : ∃ rest, left.toList = c :: rest := by
    cases hleft : left.toList with
    | nil => rw [hleft] at hhead; cases hhead
    | cons first rest =>
      rw [hleft, List.head?_cons, Option.some.injEq] at hhead
      exact ⟨rest, by rw [hhead]⟩
  have hfront : (left ++ right).toList.dropWhile isSpace = left.toList ++ right.toList := by
    rw [String.toList_append, hrest, List.cons_append, List.dropWhile_cons_of_neg (by simp [hc])]
  have hback : (right.toList.reverse.dropWhile isSpace).isEmpty = false := by
    rw [List.isEmpty_eq_false_iff, Ne, List.dropWhile_eq_nil_iff]
    intro h
    have hspace := h d (List.mem_reverse.2 hd)
    exact Bool.false_ne_true (hdspace.symm.trans hspace)
  rw [toList_strip, hfront, List.rdropWhile, List.reverse_append, List.dropWhile_append, hback]
  simp [List.rdropWhile]

theorem one_le_length {text : String} (h : text ≠ "") : 1 ≤ text.length := by
  rw [Nat.one_le_iff_ne_zero, ← String.length_toList, Ne, List.length_eq_zero_iff,
    String.toList_eq_nil_iff]
  exact h

/-- Stripping makes no text longer. -/
theorem length_strip_le (s : String) : (strip s).length ≤ s.length := by
  rw [← String.length_toList, ← String.length_toList, toList_strip]
  exact (List.rdropWhile_prefix _ _).length_le.trans (List.dropWhile_suffix _).length_le

/-! ### The text of a UUID -/

/-- The value of a hexadecimal digit. -/
def hexValue (c : Char) : ℕ :=
  if c.isDigit then c.toNat - 48 else c.toNat - 87

/-- The number that hexadecimal digits write. -/
def ofHexDigits (digits : List Char) : ℕ :=
  digits.foldl (fun n c => 16 * n + hexValue c) 0

/-- `UUID(text)` of the text that `str` writes. -/
def UUID.parse (text : String) : Option UUID :=
  let u : UUID := ⟨ofHexDigits (text.toList.filter (· ≠ '-'))⟩
  if u.str = text then some u else none

theorem hexValue_digitChar {n : ℕ} (h : n < 16) :
    hexValue n.digitChar = n ∧ n.digitChar ≠ '-' := by
  have hall : ∀ n < 16, hexValue (Nat.digitChar n) = n ∧ Nat.digitChar n ≠ '-' := by decide
  exact hall n h

theorem ofHexDigits_append (l : List Char) (c : Char) :
    ofHexDigits (l ++ [c]) = 16 * ofHexDigits l + hexValue c := by
  simp [ofHexDigits]

/-- The digits of a number write the number and have no hyphen. -/
theorem toDigits_sixteen (n : ℕ) :
    ofHexDigits (Nat.toDigits 16 n) = n ∧ '-' ∉ Nat.toDigits 16 n := by
  induction n using Nat.strong_induction_on with
  | _ n ih =>
    rw [Nat.toDigits_eq_if (by decide)]
    split_ifs with hlt
    · obtain ⟨hvalue, hne⟩ := hexValue_digitChar hlt
      exact ⟨by simp [ofHexDigits, hvalue], by simp [hne.symm]⟩
    · obtain ⟨hvalue, hnot⟩ := ih (n / 16) (Nat.div_lt_self (by omega) (by decide))
      obtain ⟨hdigit, hne⟩ := hexValue_digitChar (Nat.mod_lt n (by decide : 0 < 16))
      constructor
      · rw [ofHexDigits_append, hvalue, hdigit]
        omega
      · simp [hnot, hne.symm]

theorem ofHexDigits_replicate (k : ℕ) (l : List Char) :
    ofHexDigits (List.replicate k '0' ++ l) = ofHexDigits l := by
  induction k with
  | zero => rfl
  | succ k ih =>
    rw [List.replicate_succ, List.cons_append]
    exact ih

/-- A number below `16 ^ k` has at most `k` digits. -/
theorem length_toDigits_sixteen {n k : ℕ} (hk : 0 < k) (h : n < 16 ^ k) :
    (Nat.toDigits 16 n).length ≤ k := by
  induction k generalizing n with
  | zero => omega
  | succ k ih =>
    rw [Nat.toDigits_eq_if (by decide)]
    split_ifs with hlt
    · simp
    · have hpos : 0 < k := by
        rcases Nat.eq_zero_or_pos k with rfl | hpos
        · omega
        · exact hpos
      have hdiv : n / 16 < 16 ^ k := by
        rw [Nat.div_lt_iff_lt_mul (by decide), ← Nat.pow_succ]
        exact h
      simpa using ih hpos hdiv

theorem hexGroups {digits : List Char} (h : digits.length = 32) :
    hexGroup digits 0 8 ++ (hexGroup digits 8 4 ++ (hexGroup digits 12 4 ++
      (hexGroup digits 16 4 ++ hexGroup digits 20 12))) = digits := by
  have hlast : hexGroup digits 20 12 = digits.drop 20 :=
    List.take_of_length_le (by rw [List.length_drop]; omega)
  have hnext : ∀ i n, hexGroup digits i n ++ digits.drop (i + n) = digits.drop i := by
    intro i n
    rw [hexGroup, ← List.drop_drop, List.take_append_drop]
  rw [hlast, hnext 16 4, hnext 12 4, hnext 8 4, hnext 0 8, List.drop_zero]

/-- **The text of a UUID is read back.** -/
theorem UUID.parse_str {u : UUID} (h : u.int < 2 ^ 128) : UUID.parse u.str = some u := by
  obtain ⟨hvalue, hnot⟩ := toDigits_sixteen u.int
  have hlength : (Nat.toDigits 16 u.int).length ≤ 32 := by
    have hpow : (2 : ℕ) ^ 128 = 16 ^ 32 := rfl
    exact length_toDigits_sixteen (by decide) (hpow ▸ h)
  let digits := List.replicate (32 - (Nat.toDigits 16 u.int).length) '0' ++ Nat.toDigits 16 u.int
  have hdigits : digits.length = 32 := by
    simp only [digits, List.length_append, List.length_replicate]
    omega
  have hfree : '-' ∉ digits := by simp [digits, hnot]
  have hgroup : ∀ i n, (hexGroup digits i n).filter (· ≠ '-') = hexGroup digits i n := by
    intro i n
    rw [List.filter_eq_self]
    intro c hc
    have hmem : c ∈ digits := List.mem_of_mem_drop (List.mem_of_mem_take hc)
    exact decide_eq_true fun heq => hfree (heq ▸ hmem)
  have hchars : (u.str.toList.filter (· ≠ '-')) = digits := by
    rw [UUID.str]
    simp only [String.toList_ofList, List.filter_append, List.filter_cons]
    simp only [ne_eq, decide_not, decide_true, Bool.not_true, Bool.false_eq_true, if_false] at hgroup ⊢
    rw [hgroup, hgroup, hgroup, hgroup, hgroup]
    simpa only [List.append_assoc] using hexGroups hdigits
  have hint : (⟨ofHexDigits (u.str.toList.filter (· ≠ '-'))⟩ : UUID) = u := by
    rw [hchars, ofHexDigits_replicate, hvalue]
  simp only [UUID.parse, hint, if_true]

end DevFlow
