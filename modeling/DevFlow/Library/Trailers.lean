/-
# Metadata lines in a message

A message is a subject, an empty line and one line `name: value` for each field.
A reader looks through the lines of the whole message: a line that starts with
the name of a key and `": "` is the value of the key, trimmed; a second line
for one key is an error, and so is a key without a line.

What the reader returns is said for any lines (`parse_eq_ok`): each key that it
asks for has exactly one line.  The names have no colon, so a line is read under
one key only, and a written message is read back as its fields (`values_text`),
by a reader that asks for some of its keys and by no other (`parse_text_eq_ok`).
-/

import DevFlow.Library.Lines
import DevFlow.Library.Raising
import Mathlib.Logic.Function.Basic

namespace Trailers

open Lines (bare join isLineBreak)

universe u

variable {κ : Type} {ε : Type u}

/-- What a line of the key starts with. -/
def prefixOf (name : κ → List Char) (key : κ) : List Char :=
  name key ++ [':', ' ']

/-- The line of a field. -/
def render (name : κ → List Char) (field : κ × List Char) : List Char :=
  prefixOf name field.1 ++ field.2

/-- The text of a message. -/
def text (name : κ → List Char) (subject : List Char) (fields : List (κ × List Char)) :
    List Char :=
  join (subject :: [] :: fields.map (render name))

/-- The value of a line under a key, if the line is one of the key. -/
def value? (name : κ → List Char) (trim : List Char → List Char) (key : κ) (line : List Char) :
    Option (List Char) :=
  if (prefixOf name key).isPrefixOf line then
    some (trim (line.drop (prefixOf name key).length))
  else none

/-- The values of a key in some lines. -/
def values (name : κ → List Char) (trim : List Char → List Char) (key : κ)
    (lines : List (List Char)) : List (List Char) :=
  lines.filterMap (value? name trim key)

variable {name : κ → List Char} {trim : List Char → List Char}

/-- A key with a value has a line. -/
theorem exists_of_mem_values {key : κ} {lines : List (List Char)} {value : List Char}
    (h : value ∈ values name trim key lines) :
    ∃ line ∈ lines, (prefixOf name key) <+: line ∧
      value = trim (line.drop (prefixOf name key).length) := by
  obtain ⟨line, hline, hvalue⟩ := List.mem_filterMap.1 h
  rw [value?] at hvalue
  split_ifs at hvalue with hstart
  exact ⟨line, hline, List.isPrefixOf_iff_prefix.1 hstart, (Option.some.inj hvalue).symm⟩

/-- A line that no key starts has no value. -/
theorem value?_of_not_prefix {key : κ} {line : List Char} (h : ¬prefixOf name key <+: line) :
    value? name trim key line = none :=
  if_neg fun hstart => h (List.isPrefixOf_iff_prefix.1 hstart)

/-- A key has values when a line starts with it. -/
theorem values_ne_nil_iff {key : κ} {lines : List (List Char)} :
    values name trim key lines ≠ [] ↔ ∃ line ∈ lines, prefixOf name key <+: line := by
  constructor
  · intro h
    obtain ⟨value, hvalue⟩ := List.exists_mem_of_ne_nil _ h
    obtain ⟨line, hline, hstart, -⟩ := exists_of_mem_values hvalue
    exact ⟨line, hline, hstart⟩
  · rintro ⟨line, hline, hstart⟩
    have hvalue : value? name trim key line =
        some (trim (line.drop (prefixOf name key).length)) :=
      if_pos (List.isPrefixOf_iff_prefix.2 hstart)
    exact List.ne_nil_of_mem (List.mem_filterMap.2 ⟨line, hline, hvalue⟩)

theorem value?_nil (key : κ) : value? name trim key [] = none := by
  refine value?_of_not_prefix fun h => ?_
  have hlength := h.length_le
  simp [prefixOf] at hlength

theorem values_append (key : κ) (lines lines' : List (List Char)) :
    values name trim key (lines ++ lines') =
      values name trim key lines ++ values name trim key lines' :=
  List.filterMap_append

theorem values_replicate (key : κ) (n : ℕ) :
    values name trim key (List.replicate n []) = [] := by
  induction n with
  | zero => rfl
  | succ n ih =>
    rw [values] at ih
    rw [values, List.replicate_succ, List.filterMap_cons, value?_nil, ih]

/-! ### Written messages -/

/-- Names that are told apart by the lines: distinct, without a colon or a line break. -/
structure Names (name : κ → List Char) : Prop where
  injective : Function.Injective name
  colon : ∀ key, ':' ∉ name key
  free : ∀ key, ∀ c ∈ name key, isLineBreak c = false

theorem render_free (hnames : Names name) {field : κ × List Char}
    (hvalue : ∀ c ∈ field.2, isLineBreak c = false) :
    ∀ c ∈ render name field, isLineBreak c = false := by
  intro c hc
  simp only [render, prefixOf, List.mem_append, List.mem_cons, List.not_mem_nil, or_false] at hc
  rcases hc with (hc | rfl | rfl) | hc
  · exact hnames.free field.1 c hc
  · decide
  · decide
  · exact hvalue c hc

theorem render_ne_nil (field : κ × List Char) : render name field ≠ [] := by
  simp [render, prefixOf]

/-- A message that is written in lines: a subject that no key starts, and texts
without line breaks. -/
structure Written (name : κ → List Char) (subject : List Char)
    (fields : List (κ × List Char)) : Prop where
  names : Names name
  subject_free : ∀ c ∈ subject, isLineBreak c = false
  subject_plain : ∀ key, ¬prefixOf name key <+: subject
  values_free : ∀ field ∈ fields, ∀ c ∈ field.2, isLineBreak c = false
  nonempty : fields ≠ []

variable {subject : List Char} {fields : List (κ × List Char)}

theorem takeWhile_render (hnames : Names name) (field : κ × List Char) :
    (render name field).takeWhile (· ≠ ':') = name field.1 := by
  rw [render, prefixOf, List.append_assoc, List.takeWhile_append_of_pos fun c hc => by
    simpa using fun heq : c = ':' => hnames.colon field.1 (heq ▸ hc)]
  simp

/-- Two fields have two lines. -/
theorem render_injective (hnames : Names name) : Function.Injective (render name) := by
  rintro ⟨key, value⟩ ⟨key', value'⟩ h
  have hkey : key = key' := by
    have hcut := congrArg (List.takeWhile (· ≠ ':')) h
    rw [takeWhile_render hnames, takeWhile_render hnames] at hcut
    exact hnames.injective hcut
  subst hkey
  have hvalue : value = value' := List.append_cancel_left h
  rw [hvalue]

/-- The lines of a written message are lines. -/
theorem Written.free (h : Written name subject fields) :
    ∀ line ∈ subject :: [] :: fields.map (render name), ∀ c ∈ line, isLineBreak c = false := by
  intro line hline
  rcases List.mem_cons.1 hline with rfl | hline
  · exact h.subject_free
  rcases List.mem_cons.1 hline with rfl | hline
  · exact fun c hc => absurd hc List.not_mem_nil
  · obtain ⟨field, hfield, rfl⟩ := List.mem_map.1 hline
    exact render_free h.names (h.values_free field hfield)

/-- The only line breaks of a written message are line feeds. -/
theorem Written.not_mem_text (h : Written name subject fields) {c : Char}
    (hbreak : isLineBreak c = true) (hc : c ≠ '\n') : c ∉ text name subject fields := by
  intro hmem
  rcases Lines.mem_join hmem with rfl | ⟨line, hline, hmem⟩
  · exact hc rfl
  · rw [h.free line hline c hmem] at hbreak
    cases hbreak

/-- **The lines of a message**, with the line feeds that stand behind it. -/
theorem bare_text (h : Written name subject fields) (n : ℕ) :
    bare isLineBreak (text name subject fields ++ List.replicate n '\n') =
      subject :: [] :: fields.map (render name) ++ List.replicate (n - 1) [] := by
  have hlast : fields.map (render name) ≠ [] := by simpa using h.nonempty
  have hsplit : subject :: [] :: fields.map (render name) =
      (subject :: [] :: (fields.map (render name)).dropLast) ++
        [(fields.map (render name)).getLast hlast] := by
    rw [List.cons_append, List.cons_append, List.dropLast_append_getLast]
  have hfree := h.free
  have hne : (fields.map (render name)).getLast hlast ≠ [] := by
    obtain ⟨field, -, hfield⟩ := List.mem_map.1 (List.getLast_mem hlast)
    rw [← hfield]
    exact render_ne_nil field
  rw [text, hsplit]
  rw [hsplit] at hfree
  rw [Lines.bare_join (by decide) (by decide) hne hfree]
  simp

/-- **A value with a line break is cut there**: the line of its key has what stands before
the break. -/
theorem trim_takeWhile_mem_values (hnames : Names name) {field : κ × List Char}
    (hfield : field ∈ fields) (hfree : '\r' ∉ text name subject fields) (n : ℕ) :
    trim (field.2.takeWhile fun c => !isLineBreak c) ∈ values name trim field.1
      (bare isLineBreak (text name subject fields ++ List.replicate n '\n')) := by
  obtain ⟨front, back, rfl⟩ := List.append_of_mem hfield
  have hcut : subject :: [] :: (front ++ field :: back).map (render name) =
      (subject :: [] :: front.map (render name)) ++
        render name field :: back.map (render name) := by
    simp
  have hprefix : ∀ c ∈ prefixOf name field.1, isLineBreak c = false := fun c hc =>
    render_free hnames (show ∀ d ∈ (field.1, ([] : List Char)).2, isLineBreak d = false by simp) c
      (by simpa [render] using hc)
  have hfeed : isLineBreak '\n' = true := by decide
  have hline := Lines.takeWhile_mem_bare_join hfeed
    (List.cons_ne_nil subject ([] :: front.map (render name))) (render_ne_nil field)
    (back.map (render name)) n (by rwa [← hcut])
  rw [← hcut, render, Lines.takeWhile_of_free hprefix] at hline
  refine List.mem_filterMap.2 ⟨_, hline, ?_⟩
  rw [value?, if_pos (List.isPrefixOf_iff_prefix.2 (List.prefix_append _ _)), List.drop_left]

/-! ### The reader -/

variable [DecidableEq κ]

/-- One round of the inner loop: a line and a key. -/
def note (name : κ → List Char) (trim : List Char → List Char) (duplicate : ε) (line : List Char)
    (metadata : κ → Option (List Char)) (key : κ) : Except ε (κ → Option (List Char)) :=
  match value? name trim key line with
  | none => return metadata
  | some value => do
    Raising.raiseIf (metadata key ≠ none) duplicate
    return Function.update metadata key (some value)

/-- The loop over the lines. -/
def scan (name : κ → List Char) (trim : List Char → List Char) (keys : List κ) (duplicate : ε)
    (lines : List (List Char)) (metadata : κ → Option (List Char)) :
    Except ε (κ → Option (List Char)) :=
  lines.foldlM (fun metadata line => keys.foldlM (note name trim duplicate line) metadata) metadata

/-- The reader: all of the keys, each once. -/
def parse (name : κ → List Char) (trim : List Char → List Char) (keys : List κ)
    (duplicate missing : ε) (lines : List (List Char)) : Except ε (κ → List Char) := do
  let metadata ← scan name trim keys duplicate lines fun _ => none
  Raising.raiseIf (∃ key ∈ keys, metadata key = none) missing
  return fun key => (metadata key).getD []

variable {keys : List κ} {duplicate missing : ε}

/-- What was noted of a key: nothing that was there twice. -/
def Noted (before : Option (List Char)) (found : List (List Char))
    (after : Option (List Char)) : Prop :=
  (before.toList ++ found).length ≤ 1 ∧ after = (before.toList ++ found).head?

theorem Noted.nil_iff {before after : Option (List Char)} :
    Noted before [] after ↔ after = before := by
  cases before <;> simp [Noted]

theorem Noted.trans {before middle after : Option (List Char)} {found found' : List (List Char)}
    (h : Noted before found middle) : Noted middle found' after ↔
      Noted before (found ++ found') after := by
  obtain ⟨hlength, rfl⟩ := h
  have hback : (before.toList ++ found).head?.toList = before.toList ++ found := by
    match before.toList ++ found, hlength with
    | [], _ => rfl
    | [_], _ => rfl
  rw [Noted, Noted, hback, List.append_assoc]

/-- A reader that has gone on had noted nothing twice before. -/
theorem Noted.exists_middle {before after : Option (List Char)} {found found' : List (List Char)}
    (h : Noted before (found ++ found') after) : ∃ middle, Noted before found middle := by
  refine ⟨(before.toList ++ found).head?, ?_, rfl⟩
  have hlength := h.1
  rw [← List.append_assoc, List.length_append] at hlength
  omega

theorem note_eq_ok {line : List Char} {metadata metadata' : κ → Option (List Char)} {key : κ} :
    note name trim duplicate line metadata key = .ok metadata' ↔
      Noted (metadata key) (value? name trim key line).toList (metadata' key) ∧
        ∀ other ≠ key, metadata' other = metadata other := by
  unfold note
  cases hvalue : value? name trim key line with
  | none =>
    rw [Raising.pure_eq_ok, Option.toList_none, Noted.nil_iff]
    constructor
    · rintro rfl
      exact ⟨rfl, fun _ _ => rfl⟩
    · rintro ⟨hkey, hothers⟩
      funext other
      rcases eq_or_ne other key with rfl | hne
      · exact hkey.symm
      · exact (hothers other hne).symm
  | some value =>
    simp only [Raising.bind_eq_ok, Raising.raiseIf_eq_ok, Raising.pure_eq_ok, not_not,
      exists_const]
    constructor
    · rintro ⟨hnone, rfl⟩
      refine ⟨by simp [Noted, hnone], fun other hne => Function.update_of_ne hne _ _⟩
    · rintro ⟨⟨hlength, hafter⟩, hothers⟩
      have hnone : metadata key = none := by
        cases hbefore : metadata key with
        | none => rfl
        | some before => simp [hbefore] at hlength
      refine ⟨hnone, ?_⟩
      funext other
      rcases eq_or_ne other key with rfl | hne
      · simp [hafter, hnone]
      · rw [Function.update_of_ne hne, hothers other hne]

/-- The inner loop notes what the line says about each key. -/
theorem foldlM_note_eq_ok (hkeys : keys.Nodup) {line : List Char}
    {metadata metadata' : κ → Option (List Char)} :
    keys.foldlM (note name trim duplicate line) metadata = .ok metadata' ↔
      (∀ key ∈ keys, Noted (metadata key) (value? name trim key line).toList (metadata' key)) ∧
        ∀ key ∉ keys, metadata' key = metadata key := by
  induction keys generalizing metadata with
  | nil =>
    rw [List.foldlM_nil, Raising.pure_eq_ok]
    simp only [List.not_mem_nil, not_false_eq_true, forall_const, IsEmpty.forall_iff,
      implies_true, true_and]
    exact ⟨fun h key => h ▸ rfl, fun h => (funext h).symm⟩
  | cons key keys ih =>
    obtain ⟨hnot, hrest⟩ := List.nodup_cons.1 hkeys
    rw [List.foldlM_cons, Raising.bind_eq_ok]
    constructor
    · rintro ⟨middle, hnote, hloop⟩
      obtain ⟨hkey, hothers⟩ := note_eq_ok.1 hnote
      obtain ⟨hin, hout⟩ := (ih hrest).1 hloop
      constructor
      · intro other hother
        rcases List.mem_cons.1 hother with rfl | hmem
        · rw [hout other hnot]
          exact hkey
        · have hne : other ≠ key := fun heq => hnot (heq ▸ hmem)
          have hnoted := hin other hmem
          rwa [hothers other hne] at hnoted
      · intro other hother
        rw [List.mem_cons, not_or] at hother
        rw [hout other hother.2, hothers other hother.1]
    · rintro ⟨hin, hout⟩
      refine ⟨Function.update metadata key (metadata' key), note_eq_ok.2 ⟨?_, ?_⟩,
        (ih hrest).2 ⟨?_, ?_⟩⟩
      · rw [Function.update_self]
        exact hin key List.mem_cons_self
      · exact fun other hne => Function.update_of_ne hne _ _
      · intro other hmem
        have hne : other ≠ key := fun heq => hnot (heq ▸ hmem)
        rw [Function.update_of_ne hne]
        exact hin other (List.mem_cons_of_mem _ hmem)
      · intro other hother
        rcases eq_or_ne other key with rfl | hne
        · rw [Function.update_self]
        · rw [Function.update_of_ne hne]
          exact hout other fun hmem => (List.mem_cons.1 hmem).elim hne hother

/-- **The loop notes the lines of each key**, and goes through when none has two. -/
theorem scan_eq_ok (hkeys : keys.Nodup) {lines : List (List Char)}
    {metadata metadata' : κ → Option (List Char)} :
    scan name trim keys duplicate lines metadata = .ok metadata' ↔
      (∀ key ∈ keys, Noted (metadata key) (values name trim key lines) (metadata' key)) ∧
        ∀ key ∉ keys, metadata' key = metadata key := by
  unfold scan
  induction lines generalizing metadata with
  | nil =>
    rw [List.foldlM_nil, Raising.pure_eq_ok]
    simp only [values, List.filterMap_nil, Noted.nil_iff]
    constructor
    · rintro rfl
      exact ⟨fun _ _ => rfl, fun _ _ => rfl⟩
    · rintro ⟨hin, hout⟩
      funext key
      by_cases hmem : key ∈ keys
      · exact (hin key hmem).symm
      · exact (hout key hmem).symm
  | cons line lines ih =>
    have hcons : ∀ key, values name trim key (line :: lines) =
        (value? name trim key line).toList ++ values name trim key lines := by
      intro key
      rw [values, List.filterMap_cons]
      cases value? name trim key line <;> rfl
    rw [List.foldlM_cons, Raising.bind_eq_ok]
    simp only [hcons]
    constructor
    · rintro ⟨middle, hline, hloop⟩
      obtain ⟨hin, hout⟩ := (foldlM_note_eq_ok hkeys).1 hline
      obtain ⟨hin', hout'⟩ := ih.1 hloop
      exact ⟨fun key hmem => (hin key hmem).trans.1 (hin' key hmem),
        fun key hmem => (hout' key hmem).trans (hout key hmem)⟩
    · rintro ⟨hin, hout⟩
      have hmiddle : ∀ key, ∃ middle, (key ∈ keys →
          Noted (metadata key) (value? name trim key line).toList middle) ∧
            (key ∉ keys → middle = metadata key) := by
        intro key
        by_cases hmem : key ∈ keys
        · obtain ⟨middle, h⟩ := (hin key hmem).exists_middle
          exact ⟨middle, fun _ => h, fun hnot => absurd hmem hnot⟩
        · exact ⟨metadata key, fun h => absurd h hmem, fun _ => rfl⟩
      choose middle hnoted hsame using hmiddle
      refine ⟨middle, (foldlM_note_eq_ok hkeys).2 ⟨hnoted, hsame⟩, ih.2 ⟨?_, ?_⟩⟩
      · exact fun key hmem => (hnoted key hmem).trans.2 (hin key hmem)
      · exact fun key hmem => (hout key hmem).trans (hsame key hmem).symm

/-- **What a reader accepts:** exactly one line for each key that it asks for. -/
theorem parse_eq_ok (hkeys : keys.Nodup) {lines : List (List Char)} {value : κ → List Char} :
    parse name trim keys duplicate missing lines = .ok value ↔
      (∀ key ∈ keys, values name trim key lines = [value key]) ∧
        ∀ key ∉ keys, value key = [] := by
  simp only [parse, Raising.bind_eq_ok, scan_eq_ok hkeys, Raising.raiseIf_eq_ok,
    Raising.pure_eq_ok, not_exists, not_and, Noted, Option.toList_none, List.nil_append]
  constructor
  · rintro ⟨metadata, ⟨hin, hout⟩, _, hall, rfl⟩
    refine ⟨fun key hmem => ?_, fun key hmem => ?_⟩
    · obtain ⟨hlength, hhead⟩ := hin key hmem
      cases hvalues : values name trim key lines with
      | nil => exact absurd (hhead.trans (by rw [hvalues]; rfl)) (hall key hmem)
      | cons v rest =>
        rw [hvalues, List.length_cons] at hlength
        obtain rfl : rest = [] := List.length_eq_zero_iff.1 (by omega)
        dsimp only
        rw [hhead, hvalues]
        rfl
    · dsimp only
      rw [hout key hmem]
      rfl
  · rintro ⟨hin, hout⟩
    refine ⟨fun key => if key ∈ keys then some (value key) else none, ⟨fun key hmem => ?_,
      fun key hmem => if_neg hmem⟩, ⟨⟩, fun key hmem => ?_, ?_⟩
    · dsimp only
      rw [hin key hmem, if_pos hmem]
      exact ⟨Nat.le_refl 1, rfl⟩
    · dsimp only
      rw [if_pos hmem]
      exact Option.some_ne_none _
    · funext key
      dsimp only
      split_ifs with hmem
      · rfl
      · exact (hout key hmem).symm

/-- A line that a key has already raises, and nothing else does. -/
theorem scan_eq_error {lines : List (List Char)} {metadata : κ → Option (List Char)} {e : ε}
    (h : scan name trim keys duplicate lines metadata = .error e) : e = duplicate := by
  have hnote : ∀ (line : List Char) (metadata : κ → Option (List Char)) (key : κ),
      note name trim duplicate line metadata key = .error e → e = duplicate := by
    intro line metadata key hnote
    unfold note at hnote
    cases hvalue : value? name trim key line with
    | none => simp [hvalue, pure, Except.pure] at hnote
    | some value =>
      rw [hvalue] at hnote
      rcases Raising.bind_eq_error.1 hnote with hraise | ⟨_, -, hpure⟩
      · exact (Raising.raiseIf_eq_error.1 hraise).2.symm
      · cases hpure
  have hkeys : ∀ (line : List Char) (keys : List κ) (metadata : κ → Option (List Char)),
      keys.foldlM (note name trim duplicate line) metadata = .error e → e = duplicate := by
    intro line keys
    induction keys with
    | nil => exact fun _ h => by cases h
    | cons key keys ih =>
      intro metadata h
      rw [List.foldlM_cons] at h
      rcases Raising.bind_eq_error.1 h with hfirst | ⟨middle, -, hrest⟩
      · exact hnote line metadata key hfirst
      · exact ih middle hrest
  unfold scan at h
  induction lines generalizing metadata with
  | nil => cases h
  | cons line lines ih =>
    rw [List.foldlM_cons] at h
    rcases Raising.bind_eq_error.1 h with hfirst | ⟨middle, -, hrest⟩
    · exact hkeys line keys metadata hfirst
    · exact ih hrest

/-- **What a reader does:** it counts the lines of its keys. -/
theorem parse_eq (hkeys : keys.Nodup) (lines : List (List Char)) :
    parse name trim keys duplicate missing lines = (do
      Raising.raiseIf (∃ key ∈ keys, 1 < (values name trim key lines).length) duplicate
      Raising.raiseIf (∃ key ∈ keys, values name trim key lines = []) missing
      return fun key => if key ∈ keys then (values name trim key lines).headD [] else []) := by
  unfold parse
  cases hscan : scan name trim keys duplicate lines fun _ => none with
  | error e =>
    obtain rfl := scan_eq_error hscan
    have htwice : ∃ key ∈ keys, 1 < (values name trim key lines).length := by
      by_contra hnone
      push Not at hnone
      have hok : scan name trim keys e lines (fun _ => none) = .ok fun key =>
          if key ∈ keys then (values name trim key lines).head? else none := by
        refine (scan_eq_ok hkeys).2 ⟨fun key hmem => ?_, fun key hmem => if_neg hmem⟩
        rw [if_pos hmem]
        exact ⟨by simpa using hnone key hmem, rfl⟩
      rw [hok] at hscan
      cases hscan
    rw [Raising.raiseIf_of htwice, Raising.error_bind, Raising.error_bind]
  | ok metadata =>
    obtain ⟨hin, hout⟩ := (scan_eq_ok hkeys).1 hscan
    have hhead : ∀ key ∈ keys, metadata key = (values name trim key lines).head? :=
      fun key hmem => (hin key hmem).2
    have honce : ¬∃ key ∈ keys, 1 < (values name trim key lines).length := by
      rintro ⟨key, hmem, htwice⟩
      have hlength := (hin key hmem).1
      rw [Option.toList_none, List.nil_append] at hlength
      omega
    have hmissing : (∃ key ∈ keys, metadata key = none) ↔
        ∃ key ∈ keys, values name trim key lines = [] := by
      refine exists_congr fun key => and_congr_right fun hmem => ?_
      rw [hhead key hmem, List.head?_eq_none_iff]
    rw [Raising.raiseIf_of_not honce, Raising.ok_bind, Raising.ok_bind]
    by_cases hnone : ∃ key ∈ keys, metadata key = none
    · rw [Raising.raiseIf_of hnone, Raising.raiseIf_of (hmissing.1 hnone), Raising.error_bind,
        Raising.error_bind]
    · rw [Raising.raiseIf_of_not hnone, Raising.raiseIf_of_not (mt hmissing.2 hnone),
        Raising.ok_bind, Raising.ok_bind]
      congr 1
      funext key
      split_ifs with hmem
      · rw [hhead key hmem, List.headD_eq_head?_getD]
      · rw [hout key hmem]
        rfl

/-! ### What a reader finds in a written message -/

/-- **A line is read under its own key only.** -/
theorem value?_render (hnames : Names name) (key : κ) (field : κ × List Char) :
    value? name trim key (render name field) = if field.1 = key then some (trim field.2) else none := by
  rw [value?]
  split_ifs with hstart hkey hkey
  · subst hkey
    rw [render, List.drop_left]
  · obtain ⟨rest, hrest⟩ := List.isPrefixOf_iff_prefix.1 hstart
    have hrender : render name (key, rest) = render name field := hrest
    have hsame : (key, rest) = field := render_injective hnames hrender
    exact absurd (congrArg Prod.fst hsame).symm hkey
  · subst hkey
    exact absurd (List.isPrefixOf_iff_prefix.2 (List.prefix_append _ _)) hstart
  · rfl

theorem values_render (hnames : Names name) (key : κ) (fields : List (κ × List Char)) :
    values name trim key (fields.map (render name)) =
      (fields.filter fun field => field.1 = key).map fun field => trim field.2 := by
  induction fields with
  | nil => rfl
  | cons field fields ih =>
    rw [values] at ih
    rw [values, List.map_cons, List.filterMap_cons, value?_render hnames, ih, List.filter_cons]
    by_cases hkey : field.1 = key <;> simp [hkey]

/-- **The values of a written message are its fields.** -/
theorem values_text (h : Written name subject fields) (key : κ) (n : ℕ) :
    values name trim key (bare isLineBreak (text name subject fields ++ List.replicate n '\n')) =
      (fields.filter fun field => field.1 = key).map fun field => trim field.2 := by
  have hfront : values name trim key [subject, []] = [] := by
    simp [values, value?_of_not_prefix (h.subject_plain key), value?_nil]
  have hcut : subject :: [] :: fields.map (render name) =
      [subject, []] ++ fields.map (render name) := rfl
  rw [bare_text h, hcut, values_append, values_append, hfront, values_replicate,
    values_render h.names, List.nil_append, List.append_nil]

/-- **Who reads a written message:** a reader that asks for keys which it has once each,
and it returns their values, trimmed. -/
theorem parse_text_eq_ok (h : Written name subject fields) (hkeys : keys.Nodup) (n : ℕ)
    {value : κ → List Char} :
    parse name trim keys duplicate missing
        (bare isLineBreak (text name subject fields ++ List.replicate n '\n')) = .ok value ↔
      (∀ key ∈ keys, ((fields.filter fun field => field.1 = key).map fun field =>
          trim field.2) = [value key]) ∧ ∀ key ∉ keys, value key = [] := by
  rw [parse_eq_ok hkeys]
  simp only [values_text h]

end Trailers
