/-
# The scope of a task

`ScopeEnforcer` of `workspace/scope.py`: the globs of a task, translated to
regular expressions, and the check of the changed files against them.

What a glob means is a language over its tokens (`Token.language`).  Of these
`**` and `**/` cross separators, and the translation writes them with `.`, which
does not match a line feed.  So a path matches when it has a reading along the
tokens in which no part of `**` or `**/` has a line feed (`matches_iff_reading`),
and that is all that can be missing.
-/

import DevFlow.Library.Regex
import DevFlow.Models.Integration
import DevFlow.Models.Texts

namespace DevFlow

open Regex (Expr)

/-! ### Globs -/

/-- `.`: any character but a line feed. -/
def isDot (c : Char) : Bool :=
  c ≠ '\n'

/-- `[^/]`. -/
def notSeparator (c : Char) : Bool :=
  c ≠ '/'

/-- `_glob_regex`: what it appends for each wildcard or character of the pattern,
as an expression. -/
def globRegex : List Char → List (Expr Char)
  | '*' :: '*' :: '/' :: rest =>
    -- `(?:.*/)?`
    .optional (.seq (.many isDot) (.one (· = '/'))) :: globRegex rest
  | '*' :: '*' :: rest => .many isDot :: globRegex rest
  | '*' :: rest => .many notSeparator :: globRegex rest
  | '?' :: rest => .one notSeparator :: globRegex rest
  | c :: rest => .one (· = c) :: globRegex rest
  | [] => []

/-- `ScopeEnforcer.matches`. -/
def scopeMatches (path pattern : String) : Bool :=
  (Expr.sequence (globRegex pattern.toList)).fullmatch path.toList

/-- The wildcards and characters of a glob. -/
inductive Token
  | directories
  | anything
  | segment
  | one
  | literal (c : Char)
deriving DecidableEq

/-- A glob, read from the left. -/
def tokens : List Char → List Token
  | '*' :: '*' :: '/' :: rest => .directories :: tokens rest
  | '*' :: '*' :: rest => .anything :: tokens rest
  | '*' :: rest => .segment :: tokens rest
  | '?' :: rest => .one :: tokens rest
  | c :: rest => .literal c :: tokens rest
  | [] => []

/-- A directory: a run of characters that are no separators, with its separator. -/
def directory : Language Char :=
  {s | ∃ run, (∀ c ∈ run, c ≠ '/') ∧ s = run ++ ['/']}

/-- What a token stands for: `**/` for zero or more directories, `**` for any run, `*`
and `?` for a run and for one of the characters that are no separators. -/
def Token.language : Token → Language Char
  | directories => KStar.kstar directory
  | anything => Set.univ
  | segment => {run | ∀ c ∈ run, c ≠ '/'}
  | one => {s | ∃ c, c ≠ '/' ∧ s = [c]}
  | literal c => {[c]}

/-- The paths that a glob denotes. -/
def globLanguage (pattern : List Char) : Language Char :=
  ((tokens pattern).map Token.language).prod

/-- The tokens that cross separators. -/
def Token.crosses : Token → Bool
  | directories | anything => true
  | _ => false

/-- What the translation writes for a token. -/
def Token.expr : Token → Expr Char
  | directories => .optional (.seq (.many isDot) (.one (· = '/')))
  | anything => .many isDot
  | segment => .many notSeparator
  | one => .one notSeparator
  | literal c => .one (· = c)

/-- **The translation goes token by token.** -/
theorem globRegex_eq (pattern : List Char) : globRegex pattern = (tokens pattern).map Token.expr := by
  fun_induction tokens pattern <;> simp_all [globRegex, Token.expr]

/-- Directories are nothing, or what ends with a separator. -/
theorem mem_directories {s : List Char} :
    s ∈ KStar.kstar directory ↔ s = [] ∨ ∃ run, s = run ++ ['/'] := by
  constructor
  · rw [Language.mem_kstar]
    rintro ⟨parts, rfl, hparts⟩
    rcases List.eq_nil_or_concat parts with rfl | ⟨front, last, rfl⟩
    · exact Or.inl rfl
    · obtain ⟨run, -, hlast⟩ := hparts last (by simp)
      refine Or.inr ⟨front.flatten ++ run, ?_⟩
      rw [List.concat_eq_append, List.flatten_append, List.flatten_singleton, hlast,
        List.append_assoc]
  · rintro (rfl | ⟨run, rfl⟩)
    · exact Language.nil_mem_kstar _
    · rw [Language.mem_kstar]
      induction run with
      | nil => exact ⟨[['/']], rfl, by simpa using ⟨[], by simp, rfl⟩⟩
      | cons c run ih =>
        obtain ⟨parts, hflat, hparts⟩ := ih
        by_cases hc : c = '/'
        · refine ⟨['/'] :: parts, by rw [List.flatten_cons, ← hflat, hc]; rfl, ?_⟩
          exact List.forall_mem_cons.2 ⟨⟨[], by simp, rfl⟩, hparts⟩
        · cases parts with
          | nil => simp at hflat
          | cons first parts =>
            obtain ⟨⟨name, hname, rfl⟩, hrest⟩ := List.forall_mem_cons.1 hparts
            refine ⟨(c :: name ++ ['/']) :: parts, ?_, List.forall_mem_cons.2 ⟨?_, hrest⟩⟩
            · rw [List.flatten_cons] at hflat ⊢
              rw [List.cons_append, hflat]
              rfl
            · exact ⟨c :: name, List.forall_mem_cons.2 ⟨hc, hname⟩, rfl⟩

/-- **The translation of a token takes from its language the texts in which it crosses
no line feed.** -/
theorem Token.mem_expr_iff {token : Token} {part : List Char} :
    part ∈ token.expr.language ↔
      part ∈ token.language ∧ (token.crosses = true → '\n' ∉ part) := by
  cases token with
  | directories =>
    have hexpr : part ∈ (Token.directories).expr.language ↔
        part = [] ∨ ∃ run, '\n' ∉ run ∧ part = run ++ ['/'] := by
      constructor
      · rintro (⟨run, hrun, -, ⟨c, hc, rfl⟩, rfl⟩ | hnil)
        · rw [of_decide_eq_true hc]
          exact Or.inr ⟨run, fun hmem => absurd (hrun _ hmem) (by decide), rfl⟩
        · exact Or.inl hnil
      · rintro (rfl | ⟨run, hrun, rfl⟩)
        · exact Or.inr rfl
        · refine Or.inl ⟨run, fun c hc => ?_, ['/'], ⟨'/', rfl, rfl⟩, rfl⟩
          exact decide_eq_true fun heq => hrun (heq ▸ hc)
    rw [hexpr, language, mem_directories]
    constructor
    · rintro (rfl | ⟨run, hrun, rfl⟩)
      · exact ⟨Or.inl rfl, fun _ => List.not_mem_nil⟩
      · exact ⟨Or.inr ⟨run, rfl⟩, fun _ => by simpa using hrun⟩
    · rintro ⟨rfl | ⟨run, rfl⟩, hfree⟩
      · exact Or.inl rfl
      · exact Or.inr ⟨run, by simpa using hfree rfl, rfl⟩
  | anything =>
    constructor
    · exact fun h => ⟨trivial, fun _ hmem => absurd (h _ hmem) (by decide)⟩
    · exact fun h c hc => decide_eq_true fun heq => h.2 rfl (heq ▸ hc)
  | segment =>
    constructor
    · exact fun h => ⟨fun c hc => of_decide_eq_true (h c hc), nofun⟩
    · exact fun h c hc => decide_eq_true (h.1 c hc)
  | one =>
    constructor
    · rintro ⟨c, hc, rfl⟩
      exact ⟨⟨c, of_decide_eq_true hc, rfl⟩, nofun⟩
    · rintro ⟨⟨c, hc, rfl⟩, -⟩
      exact ⟨c, decide_eq_true hc, rfl⟩
  | literal c =>
    constructor
    · rintro ⟨d, hd, rfl⟩
      rw [of_decide_eq_true hd]
      exact ⟨rfl, nofun⟩
    · rintro ⟨hpart, -⟩
      exact ⟨c, decide_eq_true rfl, hpart⟩

/-- A reading of a path along a glob: a part for each token. -/
def Reading (pattern path : List Char) (parts : List (List Char)) : Prop :=
  List.Forall₂ (fun token part => part ∈ token.language) (tokens pattern) parts ∧
    parts.flatten = path

/-- No part of `**` or of `**/` has a line feed. -/
def WithinLines (pattern : List Char) (parts : List (List Char)) : Prop :=
  List.Forall₂ (fun token part => Token.crosses token = true → '\n' ∉ part) (tokens pattern) parts

theorem mem_globLanguage_iff {pattern path : List Char} :
    path ∈ globLanguage pattern ↔ ∃ parts, Reading pattern path parts := by
  rw [globLanguage, Regex.mem_prod_iff]
  simp only [List.forall₂_map_left_iff, Reading]

/-- **A path matches when it has a reading whose `**` keep within lines.** -/
theorem matches_iff_reading {path pattern : String} :
    scopeMatches path pattern = true ↔
      ∃ parts, Reading pattern.toList path.toList parts ∧ WithinLines pattern.toList parts := by
  rw [scopeMatches, Expr.fullmatch_iff, Expr.language_sequence, globRegex_eq, List.map_map,
    Regex.mem_prod_iff]
  simp only [List.forall₂_map_left_iff, Function.comp_apply, Token.mem_expr_iff, Reading,
    WithinLines, Regex.forall₂_and]
  exact exists_congr fun parts => and_right_comm

/-- A path without line feeds keeps within lines. -/
theorem withinLines_of_not_mem {pattern path : List Char} {parts : List (List Char)}
    (hpath : '\n' ∉ path) (h : Reading pattern path parts) : WithinLines pattern parts := by
  obtain ⟨hparts, rfl⟩ := h
  rw [WithinLines]
  generalize tokens pattern = ts at hparts ⊢
  induction hparts with
  | nil => exact .nil
  | cons _ _ ih =>
    rw [List.flatten_cons, List.mem_append, not_or] at hpath
    exact .cons (fun _ => hpath.1) (ih hpath.2)

/-- **When `matches` decides the language of a glob**: a path with a reading along the
tokens has one in which no part of `**` or `**/` has a line feed.  So it does for every
path without line feeds. -/
theorem matches_exact_iff (path pattern : String) :
    ((scopeMatches path pattern = true ↔ path.toList ∈ globLanguage pattern.toList) ↔
      ∀ parts, Reading pattern.toList path.toList parts →
        ∃ parts, Reading pattern.toList path.toList parts ∧ WithinLines pattern.toList parts) ∧
    ('\n' ∉ path.toList →
      (scopeMatches path pattern = true ↔ path.toList ∈ globLanguage pattern.toList)) := by
  have hiff : (scopeMatches path pattern = true ↔ path.toList ∈ globLanguage pattern.toList) ↔
      ∀ parts, Reading pattern.toList path.toList parts →
        ∃ parts, Reading pattern.toList path.toList parts ∧ WithinLines pattern.toList parts := by
    rw [matches_iff_reading, mem_globLanguage_iff]
    constructor
    · exact fun h parts hparts => h.2 ⟨parts, hparts⟩
    · intro h
      constructor
      · rintro ⟨parts, hparts, -⟩
        exact ⟨parts, hparts⟩
      · rintro ⟨parts, hparts⟩
        exact h parts hparts
  exact ⟨hiff, fun hpath => hiff.2 fun parts hparts =>
    ⟨parts, hparts, withinLines_of_not_mem hpath hparts⟩⟩

/-- **A line feed in a name is missed**: `src/**` denotes every path below `src`. -/
theorem matches_misses_line_feed :
    ¬(scopeMatches "src/a\nb" "src/**" = true ↔
      "src/a\nb".toList ∈ globLanguage "src/**".toList) := by
  have hmissed : scopeMatches "src/a\nb" "src/**" = false := by decide
  have hmem : "src/a\nb".toList ∈ globLanguage "src/**".toList := by
    rw [mem_globLanguage_iff]
    refine ⟨[['s'], ['r'], ['c'], ['/'], ['a', '\n', 'b']], ?_, rfl⟩
    exact .cons rfl (.cons rfl (.cons rfl (.cons rfl (.cons trivial .nil))))
  intro h
  rw [hmissed] at h
  exact absurd (h.2 hmem) Bool.false_ne_true

/-! ### The check of the changed files -/

inductive ScopeViolationKind
  | readOnly
  | outOfScope
deriving DecidableEq, Repr

structure ScopeViolation where
  path : String
  kind : ScopeViolationKind
  matchedPattern : Option String := none
deriving DecidableEq, Repr

structure ScopeCheckResult where
  changedFiles : List String := []
  allowedFiles : List String := []
  violations : List ScopeViolation := []
deriving DecidableEq, Repr

def ScopeCheckResult.passed (result : ScopeCheckResult) : Bool :=
  result.violations = []

/-- `_first_match`. -/
def firstMatch (path : String) (patterns : List String) : Option String :=
  patterns.find? (scopeMatches path)

/-- `_normalize_changed_path`. -/
def normalizeChangedPath (path : String) : Except Failure String := do
  let normalized := strip path
  Raising.raiseIf (normalized = "") ⟨.valueError, "changed path must not be empty"⟩
  Raising.raiseIf ((normalized.toList.head? = some '/' ∨ normalized.toList.head? = some '\\') ∨
      '\\' ∈ normalized.toList)
    ⟨.valueError, "changed path must be repository-relative POSIX style"⟩
  Raising.raiseIf (['.', '.'] ∈ normalized.toList.splitOn '/')
    ⟨.valueError, "changed path must not traverse outside the repository"⟩
  return normalized

/-- One turn of the loop of `check`. -/
def checkPath (task : TaskContract) (result : ScopeCheckResult) (path : String) :
    ScopeCheckResult :=
  match firstMatch path task.readonlyFiles with
  | some readonlyPattern =>
    { result with violations := result.violations ++ [⟨path, .readOnly, some readonlyPattern⟩] }
  | none =>
    match firstMatch path task.writableFiles with
    | none => { result with violations := result.violations ++ [⟨path, .outOfScope, none⟩] }
    | some _ => { result with allowedFiles := result.allowedFiles ++ [path] }

/-- `ScopeEnforcer.check`. -/
def scopeCheck (task : TaskContract) (changedFiles : List String) :
    Except Failure ScopeCheckResult := do
  let normalized ← changedFiles.mapM normalizeChangedPath
  let normalizedChanged := normalized.dedup.insertionSort (· ≤ ·)
  return normalizedChanged.foldl (checkPath task) { changedFiles := normalizedChanged }

/-- The write boundary of a task: some writable pattern and no readonly pattern. -/
def InScope (task : TaskContract) (path : String) : Prop :=
  (∃ pattern ∈ task.writableFiles, scopeMatches path pattern = true) ∧
    ∀ pattern ∈ task.readonlyFiles, scopeMatches path pattern = false

theorem firstMatch_eq_none_iff {path : String} {patterns : List String} :
    firstMatch path patterns = none ↔ ∀ pattern ∈ patterns, scopeMatches path pattern = false := by
  simp [firstMatch, List.find?_eq_none]

theorem firstMatch_ne_none_iff {path : String} {patterns : List String} :
    firstMatch path patterns ≠ none ↔ ∃ pattern ∈ patterns, scopeMatches path pattern = true := by
  simp [firstMatch_eq_none_iff]

/-- **A turn of the loop** adds the path to the violations when it is out of scope, and
to the allowed files otherwise. -/
theorem checkPath_violations (task : TaskContract) (result : ScopeCheckResult) (path : String) :
    (InScope task path ∧ (checkPath task result path).violations = result.violations ∧
      (checkPath task result path).allowedFiles = result.allowedFiles ++ [path]) ∨
    (¬InScope task path ∧ ∃ violation : ScopeViolation, violation.path = path ∧
      (checkPath task result path).violations = result.violations ++ [violation] ∧
      (checkPath task result path).allowedFiles = result.allowedFiles) := by
  rw [InScope, ← firstMatch_ne_none_iff, ← firstMatch_eq_none_iff, checkPath]
  cases hreadonly : firstMatch path task.readonlyFiles with
  | some pattern => exact Or.inr ⟨nofun, _, rfl, rfl, rfl⟩
  | none =>
    cases hwritable : firstMatch path task.writableFiles with
    | none => exact Or.inr ⟨nofun, _, rfl, rfl, rfl⟩
    | some pattern => exact Or.inl ⟨⟨nofun, rfl⟩, rfl, rfl⟩

/-- **The loop**: the violations name the paths out of scope. -/
theorem mem_violations_foldl {task : TaskContract} {paths : List String}
    {result : ScopeCheckResult} {path : String} :
    path ∈ (paths.foldl (checkPath task) result).violations.map ScopeViolation.path ↔
      path ∈ result.violations.map ScopeViolation.path ∨ (path ∈ paths ∧ ¬InScope task path) := by
  induction paths generalizing result with
  | nil => simp
  | cons first paths ih =>
    rw [List.foldl_cons, ih, List.mem_cons]
    rcases checkPath_violations task result first with
      ⟨hin, hviolations, -⟩ | ⟨hout, violation, hpath, hviolations, -⟩
    · rw [hviolations]
      constructor
      · rintro (h | ⟨h, hnot⟩)
        · exact Or.inl h
        · exact Or.inr ⟨Or.inr h, hnot⟩
      · rintro (h | ⟨rfl | h, hnot⟩)
        · exact Or.inl h
        · exact absurd hin hnot
        · exact Or.inr ⟨h, hnot⟩
    · rw [hviolations, List.map_append, List.mem_append, List.map_singleton, List.mem_singleton,
        hpath]
      constructor
      · rintro ((h | rfl) | ⟨h, hnot⟩)
        · exact Or.inl h
        · exact Or.inr ⟨Or.inl rfl, hout⟩
        · exact Or.inr ⟨Or.inr h, hnot⟩
      · rintro (h | ⟨rfl | h, hnot⟩)
        · exact Or.inl (Or.inl h)
        · exact Or.inl (Or.inr rfl)
        · exact Or.inr ⟨h, hnot⟩

/-- **The violations of a check** name the normalised paths that are out of scope. -/
theorem mem_violations_scopeCheck {task : TaskContract} {changedFiles : List String}
    {result : ScopeCheckResult} (h : scopeCheck task changedFiles = .ok result) (path : String) :
    path ∈ result.violations.map ScopeViolation.path ↔
      (∃ changed ∈ changedFiles, normalizeChangedPath changed = .ok path) ∧
        ¬InScope task path := by
  rw [scopeCheck, Raising.bind_eq_ok] at h
  obtain ⟨normalized, hnormalized, hresult⟩ := h
  rw [Raising.pure_eq_ok] at hresult
  rw [← hresult, mem_violations_foldl]
  rw [List.mem_insertionSort, List.mem_dedup, Raising.mem_iff_of_mapM_eq_ok hnormalized]
  simp

/-- A result without violations is one in which no path is named. -/
theorem passed_iff {result : ScopeCheckResult} :
    result.passed = true ↔ ∀ path, path ∉ result.violations.map ScopeViolation.path := by
  rw [ScopeCheckResult.passed, decide_eq_true_iff, ← List.map_eq_nil_iff (f := ScopeViolation.path),
    List.eq_nil_iff_forall_not_mem]

end DevFlow
