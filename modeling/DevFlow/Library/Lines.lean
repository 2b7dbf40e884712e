/-
# Line breaks in texts

Universal newlines: what text mode makes of the bytes of a file or of a pipe,
where `\r\n` and `\r` become `\n`.  The translation changes the texts with a
carriage return and no others (`universalNewlines_eq_self_iff`).

A text is split into lines behind its line breaks, and what counts as a line
break is a choice: a rule with more of them splits the lines of a rule with fewer
(`splitKeep_refines`), so the two number the lines alike up to the first line
with a break that only one of them knows (`offset_splitKeep_eq_iff`).

`splitlines()` without `keepends` drops the breaks (`bare`).  Lines without breaks
that are joined by line feeds are read back so, whatever number of line feeds
stands at the end (`bare_join`).

Where the first characters of some lines are shown, `touched` is the number of
lines with a character among them, and `unended` the number of those that are
shown without a line feed: the line feeds shown are the difference of the two
(`count_add_unended`).
-/

import Mathlib.Data.List.Basic

namespace Lines

/-- Universal newlines. -/
def universalNewlines : List Char → List Char
  | '\r' :: '\n' :: rest => '\n' :: universalNewlines rest
  | '\r' :: rest => '\n' :: universalNewlines rest
  | c :: rest => c :: universalNewlines rest
  | [] => []

theorem universalNewlines_cons {c : Char} (hc : c ≠ '\r') (s : List Char) :
    universalNewlines (c :: s) = c :: universalNewlines s := by
  rw [universalNewlines]
  · exact fun _ h _ => hc h
  · exact hc

/-- No carriage return is left. -/
theorem not_mem_universalNewlines (s : List Char) : '\r' ∉ universalNewlines s := by
  fun_induction universalNewlines s with
  | case1 rest ih => simpa using ih
  | case2 rest _ ih => simpa using ih
  | case3 c rest _ hc ih => simpa [ih] using fun h => hc h.symm
  | case4 => exact List.not_mem_nil

theorem universalNewlines_of_not_mem {s : List Char} (h : '\r' ∉ s) : universalNewlines s = s := by
  induction s with
  | nil => rfl
  | cons c s ih =>
    rw [List.mem_cons, not_or] at h
    rw [universalNewlines_cons (Ne.symm h.1), ih h.2]

/-- **The translation keeps the texts without carriage returns.** -/
theorem universalNewlines_eq_self_iff {s : List Char} : universalNewlines s = s ↔ '\r' ∉ s :=
  ⟨fun h => h ▸ not_mem_universalNewlines s, universalNewlines_of_not_mem⟩

/-- A character that is no line break splits the translation. -/
theorem universalNewlines_append_cons {c : Char} (hr : c ≠ '\r') (hn : c ≠ '\n')
    (s t : List Char) :
    universalNewlines (s ++ c :: t) = universalNewlines s ++ c :: universalNewlines t := by
  fun_induction universalNewlines s with
  | case1 rest ih => simp [universalNewlines, ih]
  | case2 rest hrest ih =>
    cases rest with
    | nil =>
      simp only [List.cons_append, List.nil_append]
      rw [universalNewlines, universalNewlines_cons hr, universalNewlines]
      · rfl
      · exact fun _ h => hn (List.cons.inj h).1
    | cons d rest =>
      have hd : d ≠ '\n' := fun h => hrest rest (by rw [h])
      simp only [List.cons_append] at ih ⊢
      rw [universalNewlines, ih]
      exact fun _ h => hd (List.cons.inj h).1
  | case3 d rest hrest hd ih =>
    rw [List.cons_append, universalNewlines_cons hd, ih]
    rfl
  | case4 => exact universalNewlines_cons hr t

/-- A text with no characters is translated from one without. -/
theorem universalNewlines_eq_nil_iff {s : List Char} : universalNewlines s = [] ↔ s = [] := by
  fun_cases universalNewlines s <;> simp

/-! ### Splitting into lines -/

/-- The lines of a text with their line breaks; `\r\n` is one of them. -/
def splitKeep (isBreak : Char → Bool) : List Char → List (List Char)
  | [] => []
  | '\r' :: '\n' :: rest => ['\r', '\n'] :: splitKeep isBreak rest
  | c :: rest =>
    if isBreak c then [c] :: splitKeep isBreak rest
    else match splitKeep isBreak rest with
      | [] => [[c]]
      | line :: lines => (c :: line) :: lines

/-- The line breaks of `str.splitlines`. -/
def isLineBreak (c : Char) : Bool :=
  c ∈ ['\n', '\r', '\x0b', '\x0c', '\x1c', '\x1d', '\x1e', '\x85', '\u2028', '\u2029']

/-- The line breaks of the Python parser. -/
def isNewline (c : Char) : Bool :=
  c = '\n' ∨ c = '\r'

/-- `text.splitlines(keepends=True)`. -/
def splitlines (text : List Char) : List (List Char) :=
  splitKeep isLineBreak text

variable {isBreak isMore : Char → Bool} {text : List Char}

theorem splitKeep_cons {c : Char} (hc : c ≠ '\r') (rest : List Char) :
    splitKeep isBreak (c :: rest) =
      if isBreak c then [c] :: splitKeep isBreak rest
      else match splitKeep isBreak rest with
        | [] => [[c]]
        | line :: lines => (c :: line) :: lines := by
  rw [splitKeep]
  exact fun _ h _ => hc h

/-- **The lines make up the text.** -/
theorem flatten_splitKeep (isBreak : Char → Bool) (text : List Char) :
    (splitKeep isBreak text).flatten = text := by
  fun_induction splitKeep isBreak text with
  | case1 => rfl
  | case2 rest ih => simp [ih]
  | case3 c rest _ _ ih => simp [ih]
  | case4 c rest _ _ hlines ih => simpa [hlines] using ih
  | case5 c rest _ _ line lines hlines ih => simpa [hlines] using ih

theorem splitKeep_eq_nil_iff : splitKeep isBreak text = [] ↔ text = [] := by
  constructor
  · intro h
    rw [← flatten_splitKeep isBreak text, h]
    rfl
  · rintro rfl
    rfl

/-- No line is empty. -/
theorem ne_nil_of_mem_splitKeep {line : List Char} (h : line ∈ splitKeep isBreak text) :
    line ≠ [] := by
  fun_induction splitKeep isBreak text with
  | case1 => cases h
  | case2 rest ih =>
    rcases List.mem_cons.1 h with rfl | h
    · exact List.cons_ne_nil _ _
    · exact ih h
  | case3 c rest _ _ ih =>
    rcases List.mem_cons.1 h with rfl | h
    · exact List.cons_ne_nil _ _
    · exact ih h
  | case4 c rest _ _ hlines ih =>
    rw [List.mem_singleton.1 h]
    exact List.cons_ne_nil _ _
  | case5 c rest _ _ line' lines hlines ih =>
    rcases List.mem_cons.1 h with rfl | h
    · exact List.cons_ne_nil _ _
    · exact ih (hlines ▸ List.mem_cons_of_mem _ h)

/-- A line has a break at its end only. -/
theorem not_isBreak_of_mem_dropLast (hfree : '\r' ∉ text) {line : List Char}
    (h : line ∈ splitKeep isBreak text) {c : Char} (hc : c ∈ line.dropLast) :
    isBreak c = false := by
  induction text generalizing line c with
  | nil => cases h
  | cons d rest ih =>
    rw [List.mem_cons, not_or] at hfree
    rw [splitKeep_cons (Ne.symm hfree.1)] at h
    split_ifs at h with hd
    · rcases List.mem_cons.1 h with rfl | h
      · cases hc
      · exact ih hfree.2 h hc
    · cases hlines : splitKeep isBreak rest with
      | nil =>
        rw [hlines] at h
        rw [List.mem_singleton.1 h] at hc
        cases hc
      | cons first lines =>
        rw [hlines] at h
        rcases List.mem_cons.1 h with rfl | h
        · have hne : first ≠ [] := ne_nil_of_mem_splitKeep (hlines ▸ List.mem_cons_self)
          rw [List.dropLast_cons_of_ne_nil hne, List.mem_cons] at hc
          rcases hc with rfl | hc
          · exact Bool.not_eq_true _ ▸ hd
          · exact ih hfree.2 (hlines ▸ List.mem_cons_self) hc
        · exact ih hfree.2 (hlines ▸ List.mem_cons_of_mem _ h) hc

/-- **More line breaks split the lines further.** -/
theorem splitKeep_refines (hmore : ∀ c, isBreak c = true → isMore c = true) (hfree : '\r' ∉ text) :
    splitKeep isMore text = (splitKeep isBreak text).flatMap (splitKeep isMore) := by
  induction text with
  | nil => rfl
  | cons c rest ih =>
    rw [List.mem_cons, not_or] at hfree
    have hc := Ne.symm hfree.1
    have ih := ih hfree.2
    rw [splitKeep_cons hc, splitKeep_cons hc]
    by_cases hbreak : isBreak c = true
    · rw [if_pos hbreak, if_pos (hmore c hbreak), ih, List.flatMap_cons, splitKeep_cons hc,
        if_pos (hmore c hbreak)]
      rfl
    · rw [if_neg hbreak]
      cases hlines : splitKeep isBreak rest with
      | nil =>
        obtain rfl := splitKeep_eq_nil_iff.1 hlines
        rw [List.flatMap_cons, splitKeep_cons hc]
        simp [splitKeep]
      | cons line lines =>
        rw [hlines, List.flatMap_cons] at ih
        rw [List.flatMap_cons, splitKeep_cons hc, ih]
        split_ifs with hsplit
        · rfl
        · cases hline : splitKeep isMore line with
          | nil =>
            exact absurd (splitKeep_eq_nil_iff.1 hline)
              (ne_nil_of_mem_splitKeep (hlines ▸ List.mem_cons_self))
          | cons first others => rfl

/-- A line is kept whole when it has no other break but its last character. -/
theorem splitKeep_eq_singleton_iff (hfree : '\r' ∉ text) (hne : text ≠ []) :
    splitKeep isBreak text = [text] ↔ ∀ c ∈ text.dropLast, isBreak c = false := by
  constructor
  · intro h c hc
    exact not_isBreak_of_mem_dropLast hfree (h ▸ List.mem_singleton_self text) hc
  · intro h
    induction text with
    | nil => exact absurd rfl hne
    | cons c rest ih =>
      rw [List.mem_cons, not_or] at hfree
      rw [splitKeep_cons (Ne.symm hfree.1)]
      cases rest with
      | nil => simp [splitKeep]
      | cons d rest =>
        rw [List.dropLast_cons_of_ne_nil (List.cons_ne_nil _ _)] at h
        rw [h c List.mem_cons_self, ih hfree.2 (List.cons_ne_nil _ _)
          fun e he => h e (List.mem_cons_of_mem _ he)]
        rfl

/-! ### Lines without their breaks -/

/-- The lines of a text without their line breaks. -/
def bare (isBreak : Char → Bool) (text : List Char) : List (List Char) :=
  (splitKeep isBreak text).map (List.takeWhile fun c => !isBreak c)

/-- `"\n".join(lines)`. -/
def join (lines : List (List Char)) : List Char :=
  List.intercalate ['\n'] lines

theorem takeWhile_of_free {line : List Char} (hline : ∀ c ∈ line, isBreak c = false)
    (rest : List Char) : (line ++ rest).takeWhile (fun c => !isBreak c) =
      line ++ rest.takeWhile fun c => !isBreak c :=
  List.takeWhile_append_of_pos fun c hc => by rw [hline c hc]; rfl

/-- **A line ends at the first break behind it.** -/
theorem splitKeep_append_cons (hreturn : isBreak '\r' = true) {c : Char} (hc : isBreak c = true)
    (hne : c ≠ '\r') {line : List Char} (hline : ∀ d ∈ line, isBreak d = false)
    (rest : List Char) :
    splitKeep isBreak (line ++ c :: rest) = (line ++ [c]) :: splitKeep isBreak rest := by
  induction line with
  | nil => rw [List.nil_append, splitKeep_cons hne, if_pos hc, List.nil_append]
  | cons d line ih =>
    obtain ⟨hd, hrest⟩ := List.forall_mem_cons.1 hline
    have hdr : d ≠ '\r' := by
      rintro rfl
      rw [hreturn] at hd
      cases hd
    rw [List.cons_append, splitKeep_cons hdr, ih hrest, hd]
    rfl

theorem splitKeep_of_free (hreturn : isBreak '\r' = true) {line : List Char} (hne : line ≠ [])
    (hline : ∀ d ∈ line, isBreak d = false) : splitKeep isBreak line = [line] := by
  have hfree : '\r' ∉ line := by
    intro hmem
    rw [hline _ hmem] at hreturn
    cases hreturn
  exact (splitKeep_eq_singleton_iff hfree hne).2 fun c hc => hline c ((List.dropLast_subset line) hc)

@[simp] theorem bare_nil : bare isBreak [] = [] :=
  rfl

theorem bare_append_cons (hreturn : isBreak '\r' = true) {c : Char} (hc : isBreak c = true)
    (hne : c ≠ '\r') {line : List Char} (hline : ∀ d ∈ line, isBreak d = false)
    (rest : List Char) : bare isBreak (line ++ c :: rest) = line :: bare isBreak rest := by
  rw [bare, splitKeep_append_cons hreturn hc hne hline, List.map_cons, takeWhile_of_free hline,
    List.takeWhile_cons, hc]
  simp [bare]

theorem bare_of_free (hreturn : isBreak '\r' = true) {line : List Char} (hne : line ≠ [])
    (hline : ∀ d ∈ line, isBreak d = false) : bare isBreak line = [line] := by
  have htake := takeWhile_of_free hline []
  rw [List.append_nil, List.takeWhile_nil, List.append_nil] at htake
  rw [bare, splitKeep_of_free hreturn hne hline, List.map_singleton, htake]

theorem bare_replicate (hreturn : isBreak '\r' = true) (hfeed : isBreak '\n' = true) (n : ℕ) :
    bare isBreak (List.replicate n '\n') = List.replicate n [] := by
  induction n with
  | zero => rfl
  | succ n ih =>
    have hempty : ∀ d ∈ ([] : List Char), isBreak d = false := by simp
    have hstep := bare_append_cons hreturn hfeed (by decide) hempty (List.replicate n '\n')
    rw [List.replicate_succ, List.replicate_succ, ← ih]
    exact hstep

theorem join_cons_cons (line line' : List Char) (lines : List (List Char)) :
    join (line :: line' :: lines) = line ++ '\n' :: join (line' :: lines) := by
  simp [join, List.intercalate, List.intersperse]

theorem mem_join {lines : List (List Char)} {c : Char} (h : c ∈ join lines) :
    c = '\n' ∨ ∃ line ∈ lines, c ∈ line := by
  match lines with
  | [] => cases h
  | [line] =>
    rw [join, List.intercalate_singleton] at h
    exact .inr ⟨line, List.mem_singleton_self line, h⟩
  | line :: line' :: lines =>
    rw [join_cons_cons, List.mem_append, List.mem_cons] at h
    rcases h with h | rfl | h
    · exact .inr ⟨line, List.mem_cons_self, h⟩
    · exact .inl rfl
    · rcases mem_join h with hfeed | ⟨line'', hline, hc⟩
      · exact .inl hfeed
      · exact .inr ⟨line'', List.mem_cons_of_mem _ hline, hc⟩

/-- **The lines behind a line feed** are lines of the whole text. -/
theorem exists_bare_append (hfeed : isBreak '\n' = true) {text : List Char} (hfree : '\r' ∉ text)
    (rest : List Char) : ∃ first front,
      bare isBreak (text ++ '\n' :: rest) = first :: front ++ bare isBreak rest := by
  induction text with
  | nil =>
    refine ⟨[], [], ?_⟩
    rw [List.nil_append, bare, splitKeep_cons (by decide), if_pos hfeed, List.map_cons,
      List.takeWhile_cons, hfeed]
    rfl
  | cons c text ih =>
    rw [List.mem_cons, not_or] at hfree
    obtain ⟨first, front, ih⟩ := ih hfree.2
    rw [bare] at ih
    rw [List.cons_append, bare, splitKeep_cons (Ne.symm hfree.1)]
    split_ifs with hbreak
    · refine ⟨[], first :: front, ?_⟩
      rw [List.map_cons, ih, List.takeWhile_cons, hbreak]
      rfl
    · cases hlines : splitKeep isBreak (text ++ '\n' :: rest) with
      | nil =>
        rw [splitKeep_eq_nil_iff] at hlines
        simp at hlines
      | cons line lines =>
        rw [hlines, List.map_cons, List.cons_append] at ih
        obtain ⟨-, hrest⟩ := List.cons.inj ih
        exact ⟨_, front, by rw [List.map_cons, hrest]; rfl⟩

/-- The first line of a text. -/
theorem head?_bare {text : List Char} (hne : text ≠ []) (hfree : '\r' ∉ text) :
    (bare isBreak text).head? = some (text.takeWhile fun c => !isBreak c) := by
  induction text with
  | nil => exact absurd rfl hne
  | cons c text ih =>
    rw [List.mem_cons, not_or] at hfree
    rw [bare, splitKeep_cons (Ne.symm hfree.1), List.takeWhile_cons]
    by_cases hbreak : isBreak c = true
    · simp [hbreak]
    · rw [if_neg hbreak]
      cases hlines : splitKeep isBreak text with
      | nil =>
        obtain rfl := splitKeep_eq_nil_iff.1 hlines
        simp [hbreak]
      | cons line lines =>
        have htext : text ≠ [] := by
          rintro rfl
          cases hlines
        have ih := ih htext hfree.2
        rw [bare, hlines, List.map_cons, List.head?_cons, Option.some_inj] at ih
        simp [hbreak, ih]

theorem join_append {front : List (List Char)} (hne : front ≠ []) (line : List Char)
    (lines : List (List Char)) :
    join (front ++ line :: lines) = join front ++ '\n' :: join (line :: lines) := by
  induction front with
  | nil => exact absurd rfl hne
  | cons first front ih =>
    cases front with
    | nil => simp [join]
    | cons second front =>
      have ih := ih (List.cons_ne_nil _ _)
      rw [List.cons_append] at ih
      rw [List.cons_append, List.cons_append, join_cons_cons, ih, join_cons_cons]
      simp

/-- **Every line starts a line of the text**, up to its first break. -/
theorem takeWhile_mem_bare_join (hfeed : isBreak '\n' = true) {front : List (List Char)}
    (hfront : front ≠ []) {line : List Char} (hline : line ≠ []) (lines : List (List Char)) (n : ℕ)
    (hfree : '\r' ∉ join (front ++ line :: lines)) :
    line.takeWhile (fun c => !isBreak c) ∈
      bare isBreak (join (front ++ line :: lines) ++ List.replicate n '\n') := by
  obtain ⟨tail, htail, hjoin⟩ : ∃ tail, (tail = [] ∨ ∃ rest, tail = '\n' :: rest) ∧
      join (line :: lines) ++ List.replicate n '\n' = line ++ tail := by
    cases lines with
    | nil =>
      refine ⟨List.replicate n '\n', ?_, by simp [join]⟩
      cases n with
      | zero => exact .inl rfl
      | succ n => exact .inr ⟨_, List.replicate_succ⟩
    | cons next lines =>
      refine ⟨'\n' :: join (next :: lines) ++ List.replicate n '\n', .inr ⟨_, rfl⟩, ?_⟩
      rw [join_cons_cons, List.append_assoc]
  have htake : (line ++ tail).takeWhile (fun c => !isBreak c) =
      line.takeWhile fun c => !isBreak c := by
    have hnone : tail.takeWhile (fun c => !isBreak c) = [] := by
      rcases htail with rfl | ⟨rest, rfl⟩
      · rfl
      · rw [List.takeWhile_cons, hfeed]
        rfl
    rw [List.takeWhile_append]
    split_ifs with hlength
    · rw [hnone, List.append_nil]
      exact ((List.takeWhile_prefix _).eq_of_length hlength).symm
    · rfl
  rw [join_append hfront, List.mem_append, not_or] at hfree
  have hreturn : '\r' ∉ line ++ tail := by
    rw [← hjoin, List.mem_append, not_or]
    refine ⟨fun hmem => hfree.2 (List.mem_cons_of_mem _ hmem), fun hmem => ?_⟩
    exact absurd (List.eq_of_mem_replicate hmem) (by decide)
  obtain ⟨first, before, hbare⟩ := exists_bare_append hfeed hfree.1 (line ++ tail)
  have hhead : (bare isBreak (line ++ tail)).head? = _ :=
    head?_bare (List.append_ne_nil_of_left_ne_nil hline tail) hreturn
  rw [htake] at hhead
  rw [join_append hfront, List.append_assoc, List.cons_append, hjoin, hbare, List.mem_append]
  exact .inr (List.mem_of_head? hhead)

/-- **Joined lines are read back**, with the line feeds behind them as empty lines. -/
theorem bare_join (hreturn : isBreak '\r' = true) (hfeed : isBreak '\n' = true)
    {front : List (List Char)} {last : List Char} (hlast : last ≠ [])
    (hfree : ∀ line ∈ front ++ [last], ∀ c ∈ line, isBreak c = false) (n : ℕ) :
    bare isBreak (join (front ++ [last]) ++ List.replicate n '\n') =
      front ++ last :: List.replicate (n - 1) [] := by
  induction front with
  | nil =>
    have hjoin : join ([] ++ [last]) = last := by simp [join]
    have hline := hfree last (by simp)
    rw [hjoin]
    cases n with
    | zero => simpa using bare_of_free hreturn hlast hline
    | succ n =>
      rw [List.replicate_succ, bare_append_cons hreturn hfeed (by decide) hline,
        bare_replicate hreturn hfeed]
      rfl
  | cons line front ih =>
    have htail : ∀ line' ∈ front ++ [last], ∀ c ∈ line', isBreak c = false :=
      fun line' hline' => hfree line' (List.mem_cons_of_mem _ hline')
    obtain ⟨next, others, hcons⟩ : ∃ next others, front ++ [last] = next :: others :=
      List.exists_cons_of_ne_nil (by simp)
    have hih := ih htail
    rw [hcons] at hih
    rw [List.cons_append, hcons, join_cons_cons, List.append_assoc, List.cons_append,
      bare_append_cons hreturn hfeed (by decide) (hfree line List.mem_cons_self), hih]
    rfl

/-! ### Joined parts -/

theorem append_cons_inj {c : Char} {part part' rest rest' : List Char} (hpart : c ∉ part)
    (hpart' : c ∉ part') (h : part ++ c :: rest = part' ++ c :: rest') :
    part = part' ∧ rest = rest' := by
  induction part generalizing part' with
  | nil =>
    cases part' with
    | nil => exact ⟨rfl, (List.cons.inj h).2⟩
    | cons d part' =>
      obtain ⟨rfl, -⟩ := List.cons.inj h
      exact absurd List.mem_cons_self hpart'
  | cons d part ih =>
    cases part' with
    | nil =>
      obtain ⟨rfl, -⟩ := List.cons.inj h
      exact absurd List.mem_cons_self hpart
    | cons e part' =>
      obtain ⟨rfl, htail⟩ := List.cons.inj h
      obtain ⟨rfl, hrest⟩ := ih (fun hmem => hpart (List.mem_cons_of_mem _ hmem))
        (fun hmem => hpart' (List.mem_cons_of_mem _ hmem)) htail
      exact ⟨rfl, hrest⟩

/-- **Parts without the separator** are told apart in the joined text. -/
theorem intercalate_inj {c : Char} {parts parts' : List (List Char)} (hne : parts ≠ [])
    (hne' : parts' ≠ []) (hparts : ∀ part ∈ parts, c ∉ part) (hparts' : ∀ part ∈ parts', c ∉ part)
    (h : [c].intercalate parts = [c].intercalate parts') : parts = parts' := by
  induction parts generalizing parts' with
  | nil => exact absurd rfl hne
  | cons part parts ih =>
    obtain ⟨part', parts', rfl⟩ := List.exists_cons_of_ne_nil hne'
    obtain ⟨hpart, hrest⟩ := List.forall_mem_cons.1 hparts
    obtain ⟨hpart', hrest'⟩ := List.forall_mem_cons.1 hparts'
    cases parts with
    | nil =>
      cases parts' with
      | nil => rw [List.intercalate_singleton, List.intercalate_singleton] at h; rw [h]
      | cons next' parts' =>
        rw [List.intercalate_singleton, List.intercalate_cons_cons] at h
        exact absurd (h ▸ by simp) hpart
    | cons next parts =>
      cases parts' with
      | nil =>
        rw [List.intercalate_singleton, List.intercalate_cons_cons] at h
        exact absurd (h ▸ by simp) hpart'
      | cons next' parts' =>
        rw [List.intercalate_cons_cons, List.intercalate_cons_cons, List.append_assoc,
          List.append_assoc] at h
        obtain ⟨rfl, htail⟩ := append_cons_inj hpart hpart' h
        rw [ih (List.cons_ne_nil _ _) (List.cons_ne_nil _ _) hrest hrest' htail]

/-! ### Where the lines are -/

/-- Where the line behind the first `n` lines starts. -/
def offset (lines : List (List Char)) (n : ℕ) : ℕ :=
  (lines.take n).flatten.length

/-- `lines[start:stop]`. -/
def slice (lines : List (List Char)) (start stop : ℕ) : List (List Char) :=
  (lines.take stop).drop start

variable {lines : List (List Char)}

theorem slice_eq (lines : List (List Char)) (start stop : ℕ) :
    slice lines start stop = (lines.drop start).take (stop - start) :=
  List.drop_take

@[simp] theorem offset_zero : offset lines 0 = 0 :=
  rfl

@[simp] theorem offset_nil (n : ℕ) : offset [] n = 0 := by
  simp [offset]

@[simp] theorem offset_cons_succ (line : List Char) (n : ℕ) :
    offset (line :: lines) (n + 1) = line.length + offset lines n := by
  simp [offset]

theorem offset_of_length_le {n : ℕ} (h : lines.length ≤ n) :
    offset lines n = lines.flatten.length := by
  rw [offset, List.take_of_length_le h]

theorem offset_append {others : List (List Char)} {n : ℕ} (h : n ≤ lines.length) :
    offset (lines ++ others) n = offset lines n := by
  rw [offset, List.take_append_of_le_length h, offset]

theorem offset_mono {m n : ℕ} (h : m ≤ n) : offset lines m ≤ offset lines n := by
  induction lines generalizing m n with
  | nil => simp
  | cons line lines ih =>
    cases m with
    | zero => exact Nat.zero_le _
    | succ m =>
      obtain ⟨n, rfl⟩ : ∃ k, n = k + 1 := ⟨n - 1, by omega⟩
      rw [offset_cons_succ, offset_cons_succ]
      exact Nat.add_le_add_left (ih (by omega)) _

/-- **Lines that are not empty start one behind the other.** -/
theorem offset_lt {m n : ℕ} (hlines : ∀ line ∈ lines, line ≠ []) (h : m < n)
    (hm : m < lines.length) : offset lines m < offset lines n := by
  induction lines generalizing m n with
  | nil => exact absurd hm (Nat.not_lt_zero _)
  | cons line lines ih =>
    obtain ⟨n, rfl⟩ : ∃ k, n = k + 1 := ⟨n - 1, by omega⟩
    have hpos := List.length_pos_of_ne_nil (hlines line List.mem_cons_self)
    cases m with
    | zero =>
      rw [offset_zero, offset_cons_succ]
      omega
    | succ m =>
      rw [offset_cons_succ, offset_cons_succ]
      have hrest := ih (fun line' h' => hlines line' (List.mem_cons_of_mem _ h'))
        (Nat.lt_of_succ_lt_succ h) (Nat.lt_of_succ_lt_succ hm)
      omega

theorem offset_add (m n : ℕ) : offset lines (m + n) = offset lines m + offset (lines.drop m) n := by
  rw [offset, List.take_add, List.flatten_append, List.length_append, offset, offset]

theorem offset_le_length (n : ℕ) : offset lines n ≤ lines.flatten.length := by
  rw [← offset_of_length_le (Nat.le_max_left lines.length n)]
  exact offset_mono (Nat.le_max_right _ _)

theorem take_offset (n : ℕ) : lines.flatten.take (offset lines n) = (lines.take n).flatten := by
  have hsplit : lines.flatten = (lines.take n).flatten ++ (lines.drop n).flatten := by
    rw [← List.flatten_append, List.take_append_drop]
  rw [hsplit, offset, List.take_left]

/-- The slices of the lines stand at their offsets. -/
theorem flatten_take_drop (m n : ℕ) :
    ((lines.drop m).take n).flatten =
      (lines.flatten.drop (offset lines m)).take (offset lines (m + n) - offset lines m) := by
  have hsplit : lines.flatten = (lines.take m).flatten ++
      (((lines.drop m).take n).flatten ++ (lines.drop (m + n)).flatten) := by
    rw [← List.drop_drop, ← List.flatten_append, List.take_append_drop, ← List.flatten_append,
      List.take_append_drop]
  have hlength : offset lines (m + n) = offset lines m + ((lines.drop m).take n).flatten.length := by
    rw [offset, List.take_add, List.flatten_append, List.length_append, offset]
  have hdrop : lines.flatten.drop (offset lines m) =
      ((lines.drop m).take n).flatten ++ (lines.drop (m + n)).flatten := by
    rw [hsplit]
    exact List.drop_left
  rw [hdrop, hlength, Nat.add_sub_cancel_left, List.take_left]

/-- Lines that are split by a rule are whole when none of them gets more lines. -/
theorem length_flatMap_splitKeep (isMore : Char → Bool) (hlines : ∀ line ∈ lines, line ≠ [] ∧ '\r' ∉ line) :
    lines.length ≤ (lines.flatMap (splitKeep isMore)).length ∧
      ((lines.flatMap (splitKeep isMore)).length = lines.length ↔
        ∀ line ∈ lines, splitKeep isMore line = [line]) := by
  induction lines with
  | nil => simp
  | cons line lines ih =>
    obtain ⟨⟨hne, -⟩, hrest⟩ := List.forall_mem_cons.1 hlines
    obtain ⟨hle, hiff⟩ := ih hrest
    rw [List.flatMap_cons, List.length_append, List.length_cons, List.forall_mem_cons, ← hiff]
    have hpos : 0 < (splitKeep isMore line).length :=
      List.length_pos_of_ne_nil fun h => hne (splitKeep_eq_nil_iff.1 h)
    have hone : (splitKeep isMore line).length = 1 ↔ splitKeep isMore line = [line] := by
      constructor
      · intro h
        obtain ⟨only, honly⟩ := List.length_eq_one_iff.1 h
        have hflat := flatten_splitKeep isMore line
        rw [honly, List.flatten_singleton] at hflat
        rw [honly, hflat]
      · intro h
        rw [h]
        rfl
    refine ⟨by omega, ?_⟩
    rw [← hone]
    omega

/-- The lines of a text without carriage returns have none, and are not empty. -/
theorem ne_nil_and_not_mem_of_mem_splitKeep (hfree : '\r' ∉ text) {line : List Char}
    (h : line ∈ splitKeep isBreak text) : line ≠ [] ∧ '\r' ∉ line := by
  refine ⟨ne_nil_of_mem_splitKeep h, fun hr => hfree ?_⟩
  rw [← flatten_splitKeep isBreak text]
  exact List.mem_flatten_of_mem h hr

/-- A rule with more line breaks gets as many lines or more. -/
theorem length_splitKeep_le (hmore : ∀ c, isBreak c = true → isMore c = true)
    (hfree : '\r' ∉ text) : (splitKeep isBreak text).length ≤ (splitKeep isMore text).length := by
  rw [splitKeep_refines hmore hfree]
  exact (length_flatMap_splitKeep _ fun line h =>
    ne_nil_and_not_mem_of_mem_splitKeep hfree h).1

/-- **Two rules number the lines alike** up to a line when no line up to it has a break
that only one of them knows before its last character. -/
theorem offset_splitKeep_eq_iff (hmore : ∀ c, isBreak c = true → isMore c = true)
    (hfree : '\r' ∉ text) {n : ℕ} (hn : n ≤ (splitKeep isBreak text).length) :
    offset (splitKeep isMore text) n = offset (splitKeep isBreak text) n ↔
      ∀ line ∈ (splitKeep isBreak text).take n, ∀ c ∈ line.dropLast, isMore c = false := by
  have hlines : ∀ line ∈ (splitKeep isBreak text).take n, line ≠ [] ∧ '\r' ∉ line :=
    fun line hline => ne_nil_and_not_mem_of_mem_splitKeep hfree (List.mem_of_mem_take hline)
  obtain ⟨hle, hwhole⟩ := length_flatMap_splitKeep isMore hlines
  have hsplit : splitKeep isMore text =
      ((splitKeep isBreak text).take n).flatMap (splitKeep isMore) ++
        ((splitKeep isBreak text).drop n).flatMap (splitKeep isMore) := by
    rw [← List.flatMap_append, List.take_append_drop, splitKeep_refines hmore hfree]
  have hflat : (((splitKeep isBreak text).take n).flatMap (splitKeep isMore)).flatten =
      ((splitKeep isBreak text).take n).flatten := by
    generalize (splitKeep isBreak text).take n = front
    induction front with
    | nil => rfl
    | cons line front ih =>
      rw [List.flatMap_cons, List.flatten_append, flatten_splitKeep, ih, List.flatten_cons]
  rw [List.length_take, Nat.min_eq_left hn] at hle hwhole
  have hcond : (∀ line ∈ (splitKeep isBreak text).take n, splitKeep isMore line = [line]) ↔
      ∀ line ∈ (splitKeep isBreak text).take n, ∀ c ∈ line.dropLast, isMore c = false :=
    forall₂_congr fun line hline =>
      splitKeep_eq_singleton_iff (hlines line hline).2 (hlines line hline).1
  rw [← hcond, ← hwhole, hsplit, offset_append hle]
  have hend : offset (splitKeep isBreak text) n =
      (((splitKeep isBreak text).take n).flatMap (splitKeep isMore)).flatten.length := by
    rw [hflat, offset]
  rw [hend]
  constructor
  · intro h
    by_contra hne
    have hlt : n < (((splitKeep isBreak text).take n).flatMap (splitKeep isMore)).length := by omega
    have hstrict := offset_lt (n := (((splitKeep isBreak text).take n).flatMap
      (splitKeep isMore)).length) ?_ hlt hlt
    · rw [offset_of_length_le (Nat.le_refl _)] at hstrict
      omega
    · intro line hline
      obtain ⟨_, -, hmem⟩ := List.mem_flatMap.1 hline
      exact ne_nil_of_mem_splitKeep hmem
  · intro h
    exact offset_of_length_le (Nat.le_of_eq h)

/-! ### The first characters of some lines -/

/-- How many lines have one of the first `n` characters. -/
def touched : List (List Char) → ℕ → ℕ
  | [], _ => 0
  | line :: lines, n => if n = 0 then 0 else touched lines (n - line.length) + 1

/-- How many of them have no line feed among these characters. -/
def unended : List (List Char) → ℕ → ℕ
  | [], _ => 0
  | line :: lines, n =>
    if n = 0 then 0
    else unended lines (n - line.length) + if '\n' ∈ line.take n then 0 else 1

@[simp] theorem touched_zero (lines : List (List Char)) : touched lines 0 = 0 := by
  cases lines <;> simp [touched]

@[simp] theorem unended_zero (lines : List (List Char)) : unended lines 0 = 0 := by
  cases lines <;> simp [unended]

/-- **A line is touched when it starts before the end of what is shown.** -/
theorem lt_touched_iff {n k : ℕ} :
    k < touched lines n ↔ k < lines.length ∧ offset lines k < n := by
  induction lines generalizing n k with
  | nil => simp [touched]
  | cons line lines ih =>
    rw [touched]
    split_ifs with hn
    · subst hn
      simp
    · cases k with
      | zero => simp [Nat.pos_of_ne_zero hn]
      | succ k =>
        rw [Nat.add_lt_add_iff_right, ih, offset_cons_succ, List.length_cons,
          Nat.add_lt_add_iff_right]
        refine and_congr_right fun _ => ?_
        omega

theorem touched_le (lines : List (List Char)) (n : ℕ) : touched lines n ≤ lines.length := by
  by_contra h
  exact absurd (lt_touched_iff.1 (Nat.lt_of_not_le h)).1 (Nat.lt_irrefl _)

/-- All lines are touched when all characters are shown. -/
theorem touched_take (hlines : ∀ line ∈ lines, line ≠ []) (m : ℕ) :
    touched lines (offset lines m) = min m lines.length := by
  have hlt : ∀ k, k < touched lines (offset lines m) ↔ k < min m lines.length := by
    intro k
    rw [lt_touched_iff, Nat.lt_min]
    constructor
    · rintro ⟨hk, hoff⟩
      refine ⟨Nat.lt_of_not_le fun hle => ?_, hk⟩
      exact absurd (offset_mono hle) (Nat.not_le.2 hoff)
    · rintro ⟨hm, hk⟩
      exact ⟨hk, offset_lt hlines hm hk⟩
  have hself := hlt (touched lines (offset lines m))
  have hmin := hlt (min m lines.length)
  omega

/-- **The line feeds shown** are those of the lines that are touched, without the lines
that are shown without theirs. -/
theorem count_add_unended (hlines : ∀ line ∈ lines, line.count '\n' ≤ 1) (n : ℕ) :
    (lines.flatten.take n).count '\n' + unended lines n = touched lines n := by
  induction lines generalizing n with
  | nil => simp [touched, unended]
  | cons line lines ih =>
    obtain ⟨hline, hrest⟩ := List.forall_mem_cons.1 hlines
    rw [touched, unended]
    split_ifs with hn hfeed
    · simp [hn]
    · have hone : (line.take n).count '\n' = 1 := by
        have hpos := List.count_pos_iff.2 hfeed
        have hle := (List.take_sublist n line).count_le '\n'
        omega
      rw [List.flatten_cons, List.take_append, List.count_append, hone, ← ih hrest]
      omega
    · rw [List.flatten_cons, List.take_append, List.count_append, List.count_eq_zero.2 hfeed,
        ← ih hrest]
      omega

/-- A line that has a line feed at its end only has at most one. -/
theorem count_le_one_of_mem_splitKeep (hfree : '\r' ∉ text) (hfeed : isBreak '\n' = true)
    {line : List Char} (h : line ∈ splitKeep isBreak text) : line.count '\n' ≤ 1 := by
  have hnot : '\n' ∉ line.dropLast := by
    intro hmem
    rw [not_isBreak_of_mem_dropLast hfree h hmem] at hfeed
    cases hfeed
  have hne := ne_nil_of_mem_splitKeep h
  rw [← List.dropLast_append_getLast hne, List.count_append, List.count_eq_zero.2 hnot]
  simpa using List.count_le_length (a := '\n') (l := [line.getLast hne])

end Lines
