/-
# JSON strings

The string literals of a JSON document, read as `json.loads` reads them: up to the
closing quote, with the escapes of a backslash and without control characters.
What `dumpsString` writes is read back (`loadsString_dumpsString`), and a literal
that is cut before its closing quote is not read (`loadsString_of_cut`).

Texts consist of characters, so an escape of half a surrogate pair has no value.
-/

import DevFlow.Library.Documents

namespace Documents

/-- The white space of JSON. -/
def isJsonSpace (c : Char) : Bool :=
  c ∈ [' ', '\t', '\n', '\r']

/-- The value of a hexadecimal digit. -/
def hexValue? (c : Char) : Option ℕ :=
  if c.isDigit then some (c.toNat - 48)
  else if 97 ≤ c.toNat ∧ c.toNat ≤ 102 then some (c.toNat - 87)
  else if 65 ≤ c.toNat ∧ c.toNat ≤ 70 then some (c.toNat - 55)
  else none

/-- `_decode_uXXXX`. -/
def codeUnit? (a b c d : Char) : Option ℕ := do
  let a ← hexValue? a
  let b ← hexValue? b
  let c ← hexValue? c
  let d ← hexValue? d
  return ((a * 16 + b) * 16 + c) * 16 + d

/-- A character of one code unit, or of two; half a pair is none. -/
def unescapeUnit (unit : ℕ) (rest : List Char) : Option (Char × List Char) :=
  if 0xD800 ≤ unit ∧ unit ≤ 0xDBFF then
    match rest with
    | '\\' :: 'u' :: a :: b :: c :: d :: rest => do
      let low ← codeUnit? a b c d
      if 0xDC00 ≤ low ∧ low ≤ 0xDFFF then
        return (Char.ofNat (0x10000 + (unit - 0xD800) * 0x400 + (low - 0xDC00)), rest)
      else none
    | _ => none
  else if 0xDC00 ≤ unit ∧ unit ≤ 0xDFFF then none
  else some (Char.ofNat unit, rest)

/-- What stands behind a backslash. -/
def unescape : List Char → Option (Char × List Char)
  | '"' :: rest => some ('"', rest)
  | '\\' :: rest => some ('\\', rest)
  | '/' :: rest => some ('/', rest)
  | 'b' :: rest => some (Char.ofNat 8, rest)
  | 'f' :: rest => some (Char.ofNat 12, rest)
  | 'n' :: rest => some ('\n', rest)
  | 'r' :: rest => some ('\r', rest)
  | 't' :: rest => some ('\t', rest)
  | 'u' :: a :: b :: c :: d :: rest => (codeUnit? a b c d).bind fun unit => unescapeUnit unit rest
  | _ => none

/-- `py_scanstring`, with `strict`: the characters up to the closing quote, and what
stands behind it.  Each round takes a character, so the length of the text is fuel
enough. -/
def scanString : (fuel : ℕ) → List Char → Option (List Char × List Char)
  | 0, _ => none
  | _ + 1, [] => none
  | fuel + 1, c :: rest =>
    if c = '"' then some ([], rest)
    else if c = '\\' then do
      let (d, rest) ← unescape rest
      let (text, rest) ← scanString fuel rest
      return (d :: text, rest)
    else if c.toNat < 32 then none
    else do
      let (text, rest) ← scanString fuel rest
      return (c :: text, rest)

/-- `json.loads`, where the document is a string. -/
def loadsString (text : List Char) : Option String :=
  match text.dropWhile isJsonSpace with
  | '"' :: rest =>
    match scanString (rest.length + 1) rest with
    | some (content, rest) =>
      if rest.all isJsonSpace then some (String.ofList content) else none
    | none => none
  | _ => none

/-! ### What was written is read -/

theorem unescape_control {n : ℕ} (h : n < 32) (rest : List Char) :
    unescape ('u' :: '0' :: '0' :: hexDigit (n / 16) :: hexDigit (n % 16) :: rest) =
      some (Char.ofNat n, rest) := by
  have hunit : ∀ n < 32, codeUnit? '0' '0' (hexDigit (n / 16)) (hexDigit (n % 16)) = some n := by
    decide
  have hlow : ¬(0xD800 ≤ n ∧ n ≤ 0xDBFF) := by omega
  have hhigh : ¬(0xDC00 ≤ n ∧ n ≤ 0xDFFF) := by omega
  rw [unescape, hunit n h, Option.bind_some]
  unfold unescapeUnit
  rw [if_neg hlow, if_neg hhigh]

/-- **One character is read**, however it is written. -/
theorem scanString_escape_append (fuel : ℕ) (c : Char) (rest : List Char) :
    scanString (fuel + 1) (escape c ++ rest) =
      (scanString fuel rest).map fun (text, rest) => (c :: text, rest) := by
  have hescaped : ∀ d tail, unescape tail = some (d, rest) →
      scanString (fuel + 1) ('\\' :: tail) =
        (scanString fuel rest).map fun (text, rest) => (d :: text, rest) := by
    intro d tail htail
    rw [scanString, if_neg (by decide), if_pos rfl, htail, Option.bind_eq_bind, Option.bind_some]
    dsimp only
    cases scanString fuel rest <;> rfl
  unfold escape
  split_ifs with hquote hslash hfeed hreturn htab hback hpage hcontrol
  · subst hquote
    exact hescaped _ _ rfl
  · subst hslash
    exact hescaped _ _ rfl
  · subst hfeed
    exact hescaped _ _ rfl
  · subst hreturn
    exact hescaped _ _ rfl
  · subst htab
    exact hescaped _ _ rfl
  · have hc : c = Char.ofNat 8 := by rw [← hback, Char.ofNat_toNat]
    subst hc
    exact hescaped _ _ rfl
  · have hc : c = Char.ofNat 12 := by rw [← hpage, Char.ofNat_toNat]
    subst hc
    exact hescaped _ _ rfl
  · refine hescaped _ _ ?_
    have hread := unescape_control hcontrol rest
    rw [Char.ofNat_toNat] at hread
    exact hread
  · rw [List.singleton_append, scanString, if_neg hquote, if_neg hslash, if_neg hcontrol]
    cases scanString fuel rest <;> rfl

theorem scanString_flatMap_escape (fuel : ℕ) (content rest : List Char)
    (h : content.length < fuel) :
    scanString fuel (content.flatMap escape ++ '"' :: rest) = some (content, rest) := by
  induction content generalizing fuel with
  | nil =>
    obtain ⟨fuel, rfl⟩ : ∃ k, fuel = k + 1 := ⟨fuel - 1, by simp at h; omega⟩
    rfl
  | cons c content ih =>
    rw [List.length_cons] at h
    obtain ⟨fuel, rfl⟩ : ∃ k, fuel = k + 1 := ⟨fuel - 1, by omega⟩
    have hrest := ih fuel (by omega)
    rw [List.flatMap_cons, List.append_assoc, scanString_escape_append, hrest]
    rfl

theorem length_le_length_flatMap_escape (content : List Char) :
    content.length ≤ (content.flatMap escape).length := by
  induction content with
  | nil => exact Nat.le_refl 0
  | cons c content ih =>
    have hc : 1 ≤ (escape c).length := by
      unfold escape
      split_ifs <;> simp
    rw [List.length_cons, List.flatMap_cons, List.length_append]
    omega

/-- **A written string is read back.** -/
theorem loadsString_dumpsString (s : String) : loadsString (dumpsString s) = some s := by
  have hlength := length_le_length_flatMap_escape s.toList
  rw [loadsString, dumpsString, List.cons_append, List.dropWhile_cons_of_neg (by decide)]
  simp only
  rw [scanString_flatMap_escape _ _ _ (by rw [List.length_append]; omega)]
  simp

theorem scanString_of_cut (fuel : ℕ) (content : List Char) :
    scanString fuel (content.flatMap escape) = none := by
  induction content generalizing fuel with
  | nil => cases fuel <;> rfl
  | cons c content ih =>
    cases fuel with
    | zero => rfl
    | succ fuel =>
      rw [List.flatMap_cons, scanString_escape_append, ih]
      rfl

/-- **A string without its closing quote is not read.** -/
theorem loadsString_of_cut (content : List Char) :
    loadsString ('"' :: content.flatMap escape) = none := by
  rw [loadsString, List.dropWhile_cons_of_neg (by decide)]
  simp only
  rw [scanString_of_cut]

end Documents
