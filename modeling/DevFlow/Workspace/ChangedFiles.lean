/-
# The changed files, as Git reports them

`changed_files` of `workspace/git.py` and the check that the verifier makes of
what it returns.  Git keeps a path as bytes and writes the paths it reports one
after another, each with a zero behind it.  The runtime decodes the output as
text, which turns `\r\n` and `\r` into `\n`, splits it at the zeros and strips
every path before it matches it.  What is judged is therefore the path as `seen`,
and the check is about the real paths when no path out of scope is seen as
another one, and none is seen out of scope that is not reported
(`scopeResult_exact_iff`).
-/

import DevFlow.Library.Lines
import DevFlow.Library.Utf8
import DevFlow.Workspace.Scope

namespace DevFlow

/-- A path as Git keeps it. -/
structure GitName where
  bytes : List UInt8
  nonempty : bytes ≠ []
  noZero : 0 ∉ bytes
deriving DecidableEq

/-- The text that the bytes of a path write, when they are UTF-8. -/
def GitName.text (name : GitName) : Option String :=
  (Utf8.decode name.bytes).map String.ofList

/-- What a command with `-z` writes. -/
def gitOutput (names : List GitName) : List UInt8 :=
  names.flatMap fun name => name.bytes ++ [0]

/-- `_git`: the output of a command that succeeds, read in text mode. -/
def gitText (names : List GitName) : Except Failure (List Char) :=
  match Utf8.decode (gitOutput names) with
  | some text => return Lines.universalNewlines text
  | none => throw ⟨.valueError, "'utf-8' codec can't decode bytes: invalid data"⟩

/-- `_split_nul`. -/
def splitNul (value : List Char) : List String :=
  ((value.splitOn '\x00').filter (· ≠ [])).map String.ofList

/-- `changed_files`, of what `git diff --name-only` and `git ls-files --others` report. -/
def changedFiles (tracked untracked : List GitName) : Except Failure (List String) := do
  let tracked ← gitText tracked
  let untracked ← gitText untracked
  return (splitNul tracked ++ splitNul untracked).dedup.insertionSort (· ≤ ·)

/-- `self._scope_enforcer.check(task, workspace.changed_files())`. -/
def scopeResult (task : TaskContract) (tracked untracked : List GitName) :
    Except Failure ScopeCheckResult := do
  let changed ← changedFiles tracked untracked
  scopeCheck task changed

/-- A path as text mode reads it. -/
def asRead (path : String) : String :=
  String.ofList (Lines.universalNewlines path.toList)

/-- The path that the check judges. -/
def seen (path : String) : String :=
  strip (asRead path)

/-- The paths that `_normalize_changed_path` accepts. -/
def Admissible (path : String) : Prop :=
  path ≠ "" ∧ path.toList.head? ≠ some '/' ∧ '\\' ∉ path.toList ∧
    ['.', '.'] ∉ path.toList.splitOn '/'

/-! ### Reading the output -/

theorem decode_gitOutput_cons {name : GitName} {names : List GitName} {text : List Char} :
    Utf8.decode (gitOutput (name :: names)) = some text ↔
      ∃ first rest, Utf8.decode name.bytes = some first ∧
        Utf8.decode (gitOutput names) = some rest ∧ text = first ++ '\x00' :: rest := by
  simp only [Utf8.decode_eq_some_iff]
  have hcons : gitOutput (name :: names) = name.bytes ++ 0 :: gitOutput names := by
    simp [gitOutput]
  rw [hcons]
  constructor
  · intro h
    obtain ⟨first, rest, htext, hfirst, hrest⟩ := Utf8.exists_of_encode_eq name.noZero h
    exact ⟨first, rest, hfirst, hrest, htext⟩
  · rintro ⟨first, rest, hfirst, hrest, rfl⟩
    have hzero : String.utf8EncodeChar '\x00' = [0] := by decide
    rw [Utf8.encode_append, Utf8.encode_cons, hfirst, hrest, hzero]
    rfl

/-- The text of a path has at least one character, and none of them is the zero. -/
theorem GitName.decode_ne_nil {name : GitName} {text : List Char}
    (h : Utf8.decode name.bytes = some text) : text ≠ [] ∧ '\x00' ∉ text := by
  rw [Utf8.decode_eq_some_iff] at h
  constructor
  · rintro rfl
    exact name.nonempty h.symm
  · intro hmem
    exact name.noZero (h ▸ Utf8.zero_mem_encode.2 hmem)

/-- The translation adds no zero. -/
theorem zero_not_mem_universalNewlines {text : List Char} (h : '\x00' ∉ text) :
    '\x00' ∉ Lines.universalNewlines text := by
  fun_induction Lines.universalNewlines text <;> simp_all

theorem splitNul_cons {first rest : List Char} (hne : first ≠ []) (hzero : '\x00' ∉ first) :
    splitNul (first ++ '\x00' :: rest) = String.ofList first :: splitNul rest := by
  rw [splitNul, List.splitOn_append_cons_self_of_not_mem hzero,
    List.filter_cons_of_pos (by simpa using hne)]
  rfl

/-- **What is split off is the paths**, as text mode reads them. -/
theorem splitNul_gitOutput {names : List GitName} {text : List Char}
    (h : Utf8.decode (gitOutput names) = some text) :
    List.Forall₂ (fun name line => ∃ path, GitName.text name = some path ∧ line = asRead path)
      names (splitNul (Lines.universalNewlines text)) := by
  induction names generalizing text with
  | nil =>
    have hnil : text = [] := Utf8.encode_inj.1 (Utf8.decode_eq_some_iff.1 h)
    subst hnil
    exact .nil
  | cons name names ih =>
    obtain ⟨first, rest, hfirst, hrest, rfl⟩ := decode_gitOutput_cons.1 h
    obtain ⟨hne, hzero⟩ := GitName.decode_ne_nil hfirst
    rw [Lines.universalNewlines_append_cons (by decide) (by decide),
      splitNul_cons (fun hnil => hne (Lines.universalNewlines_eq_nil_iff.1 hnil))
        (zero_not_mem_universalNewlines hzero)]
    refine .cons ⟨String.ofList first, by rw [GitName.text, hfirst, Option.map_some], ?_⟩ (ih hrest)
    rw [asRead, String.toList_ofList]

/-- The output is read when all of its paths are. -/
theorem exists_decode_gitOutput {names : List GitName} :
    (∃ text, Utf8.decode (gitOutput names) = some text) ↔
      ∀ name ∈ names, ∃ path, GitName.text name = some path := by
  induction names with
  | nil => simpa using ⟨[], Utf8.decode_encode []⟩
  | cons name names ih =>
    rw [List.forall_mem_cons, ← ih]
    constructor
    · rintro ⟨text, htext⟩
      obtain ⟨first, rest, hfirst, hrest, -⟩ := decode_gitOutput_cons.1 htext
      exact ⟨⟨_, by rw [GitName.text, hfirst, Option.map_some]⟩, rest, hrest⟩
    · rintro ⟨⟨path, hpath⟩, rest, hrest⟩
      obtain ⟨first, hfirst, -⟩ := Option.map_eq_some_iff.1 hpath
      exact ⟨_, decode_gitOutput_cons.2 ⟨first, rest, hfirst, hrest, rfl⟩⟩

theorem gitText_eq_ok {names : List GitName} {value : List Char} :
    gitText names = .ok value ↔
      ∃ text, Utf8.decode (gitOutput names) = some text ∧ Lines.universalNewlines text = value := by
  rw [gitText]
  cases Utf8.decode (gitOutput names) <;> simp

/-- A path that Git reports. -/
def Reported (names : List GitName) (path : String) : Prop :=
  ∃ name ∈ names, GitName.text name = some path

theorem mem_splitNul {names : List GitName} {value : List Char} (h : gitText names = .ok value)
    (line : String) : line ∈ splitNul value ↔ ∃ path, Reported names path ∧ line = asRead path := by
  obtain ⟨text, htext, rfl⟩ := gitText_eq_ok.1 h
  have hlines := splitNul_gitOutput htext
  generalize splitNul (Lines.universalNewlines text) = lines at hlines
  clear h htext
  induction hlines with
  | nil => simp [Reported]
  | @cons name first names lines hfirst _ ih =>
    obtain ⟨path, hpath, rfl⟩ := hfirst
    rw [List.mem_cons]
    constructor
    · rintro (rfl | hline)
      · exact ⟨path, ⟨name, List.mem_cons_self, hpath⟩, rfl⟩
      · obtain ⟨path', ⟨name', hname', htext'⟩, rfl⟩ := ih.1 hline
        exact ⟨path', ⟨name', List.mem_cons_of_mem _ hname', htext'⟩, rfl⟩
    · rintro ⟨path', ⟨name', hname', htext'⟩, rfl⟩
      rcases List.mem_cons.1 hname' with rfl | hname'
      · rw [hpath, Option.some.injEq] at htext'
        exact Or.inl (htext' ▸ rfl)
      · exact Or.inr (ih.2 ⟨path', ⟨name', hname', htext'⟩, rfl⟩)

/-- **What `changed_files` returns**: every reported path, as text mode reads it. -/
theorem mem_changedFiles {tracked untracked : List GitName} {changed : List String}
    (h : changedFiles tracked untracked = .ok changed) (line : String) :
    line ∈ changed ↔ ∃ path, Reported (tracked ++ untracked) path ∧ line = asRead path := by
  simp only [changedFiles, Raising.bind_eq_ok, Raising.pure_eq_ok] at h
  obtain ⟨trackedText, htracked, untrackedText, huntracked, rfl⟩ := h
  rw [List.mem_insertionSort, List.mem_dedup, List.mem_append, mem_splitNul htracked,
    mem_splitNul huntracked]
  simp only [Reported, List.mem_append, or_and_right, exists_or]

theorem exists_changedFiles {tracked untracked : List GitName} :
    (∃ changed, changedFiles tracked untracked = .ok changed) ↔
      ∀ name ∈ tracked ++ untracked, ∃ path, GitName.text name = some path := by
  simp only [List.forall_mem_append, ← exists_decode_gitOutput]
  simp only [changedFiles, Raising.bind_eq_ok, Raising.pure_eq_ok, gitText_eq_ok]
  constructor
  · rintro ⟨_, _, ⟨text, htext, -⟩, _, ⟨text', htext', -⟩, -⟩
    exact ⟨⟨text, htext⟩, text', htext'⟩
  · rintro ⟨⟨text, htext⟩, text', htext'⟩
    exact ⟨_, _, ⟨text, htext, rfl⟩, _, ⟨text', htext', rfl⟩, rfl⟩

/-! ### What the check judges -/

theorem normalizeChangedPath_eq_ok {line path : String} :
    normalizeChangedPath line = .ok path ↔ path = strip line ∧ Admissible (strip line) := by
  simp only [normalizeChangedPath, Raising.bind_eq_ok, Raising.raiseIf_eq_ok,
    Raising.pure_eq_ok, Admissible]
  constructor
  · rintro ⟨-, hempty, -, hposix, -, hdots, rfl⟩
    exact ⟨rfl, hempty, fun h => hposix (Or.inl (Or.inl h)), fun h => hposix (Or.inr h), hdots⟩
  · rintro ⟨rfl, hempty, hroot, hback, hdots⟩
    refine ⟨⟨⟩, hempty, ⟨⟩, ?_, ⟨⟩, hdots, rfl⟩
    rintro ((h | h) | h)
    · exact hroot h
    · exact hback (List.mem_of_mem_head? h)
    · exact hback h

/-- **What is seen of a path is seen of itself.** -/
theorem seen_seen (path : String) : seen (seen path) = seen path := by
  have hfree : '\r' ∉ (seen path).toList := by
    intro hmem
    rw [seen, toList_strip, asRead, String.toList_ofList] at hmem
    exact Lines.not_mem_universalNewlines path.toList
      ((List.dropWhile_suffix _).subset ((List.rdropWhile_prefix _ _).subset hmem))
  have hread : asRead (seen path) = seen path := by
    rw [asRead, Lines.universalNewlines_of_not_mem hfree, String.ofList_toList]
  rw [seen, hread, seen, strip_strip]

/-- The run of the check returns when every reported path is read and admissible. -/
theorem exists_scopeResult {task : TaskContract} {tracked untracked : List GitName} :
    (∃ result, scopeResult task tracked untracked = .ok result) ↔
      ∀ name ∈ tracked ++ untracked, ∃ path, GitName.text name = some path ∧
        Admissible (seen path) := by
  simp only [scopeResult, Raising.bind_eq_ok, scopeCheck, Raising.pure_eq_ok]
  constructor
  · rintro ⟨_, changed, hchanged, normalized, hnormalized, -⟩ name hname
    obtain ⟨path, hpath⟩ := exists_changedFiles.1 ⟨changed, hchanged⟩ name hname
    have hline : asRead path ∈ changed := (mem_changedFiles hchanged _).2 ⟨path, ⟨name, hname, hpath⟩, rfl⟩
    obtain ⟨judged, hjudged⟩ := Raising.exists_mapM_eq_ok.1 ⟨normalized, hnormalized⟩ _ hline
    exact ⟨path, hpath, (normalizeChangedPath_eq_ok.1 hjudged).2⟩
  · intro hall
    obtain ⟨changed, hchanged⟩ := exists_changedFiles.2 fun name hname =>
      (hall name hname).imp fun _ h => h.1
    have hlines : ∀ line ∈ changed, ∃ judged, normalizeChangedPath line = .ok judged := by
      intro line hline
      obtain ⟨path, ⟨name, hname, hpath⟩, rfl⟩ := (mem_changedFiles hchanged _).1 hline
      obtain ⟨path', hpath', hadmissible⟩ := hall name hname
      obtain rfl : path = path' := Option.some.inj (hpath.symm.trans hpath')
      exact ⟨seen path, normalizeChangedPath_eq_ok.2 ⟨rfl, hadmissible⟩⟩
    obtain ⟨normalized, hnormalized⟩ := Raising.exists_mapM_eq_ok.2 hlines
    exact ⟨_, changed, hchanged, normalized, hnormalized, rfl⟩

/-- **The violations** name the paths that are seen out of scope. -/
theorem mem_violations_scopeResult {task : TaskContract} {tracked untracked : List GitName}
    {result : ScopeCheckResult} (h : scopeResult task tracked untracked = .ok result)
    (path : String) :
    path ∈ result.violations.map ScopeViolation.path ↔
      (∃ reported, Reported (tracked ++ untracked) reported ∧ seen reported = path) ∧
        ¬InScope task path := by
  have hadmissible := exists_scopeResult.1 ⟨result, h⟩
  rw [scopeResult, Raising.bind_eq_ok] at h
  obtain ⟨changed, hchanged, hcheck⟩ := h
  rw [mem_violations_scopeCheck hcheck]
  refine and_congr_left fun _ => ?_
  constructor
  · rintro ⟨line, hline, hpath⟩
    obtain ⟨reported, hreported, rfl⟩ := (mem_changedFiles hchanged _).1 hline
    exact ⟨reported, hreported, (normalizeChangedPath_eq_ok.1 hpath).1.symm⟩
  · rintro ⟨reported, ⟨name, hname, htext⟩, rfl⟩
    obtain ⟨reported', htext', hadm⟩ := hadmissible name hname
    obtain rfl : reported = reported' := Option.some.inj (htext.symm.trans htext')
    exact ⟨asRead reported, (mem_changedFiles hchanged _).2 ⟨reported, ⟨name, hname, htext⟩, rfl⟩,
      normalizeChangedPath_eq_ok.2 ⟨rfl, hadm⟩⟩

/-- The check is about the real paths: it passes when every reported path is in scope,
and otherwise its violations name the reported paths that are not. -/
def JudgesReported (task : TaskContract) (names : List GitName)
    (run : Except Failure ScopeCheckResult) : Prop :=
  ∃ result, run = .ok result ∧
    (result.passed = true ↔
      ∀ name ∈ names, ∃ path, GitName.text name = some path ∧ InScope task path) ∧
    (result.passed = false → ∀ path, path ∈ result.violations.map ScopeViolation.path ↔
      Reported names path ∧ ¬InScope task path)

/-- **When the real paths are judged**: every reported path is UTF-8 and admissible as it
is seen; one out of scope is seen as itself; and when one is seen out of scope, what is
seen is reported. -/
theorem scopeResult_exact_iff (task : TaskContract) (tracked untracked : List GitName) :
    JudgesReported task (tracked ++ untracked) (scopeResult task tracked untracked) ↔
      (∀ name ∈ tracked ++ untracked, ∃ path, GitName.text name = some path ∧
        Admissible (seen path)) ∧
      (∀ path, Reported (tracked ++ untracked) path → ¬InScope task path → seen path = path) ∧
      ∀ path, Reported (tracked ++ untracked) path → ¬InScope task (seen path) →
        Reported (tracked ++ untracked) (seen path) := by
  constructor
  · rintro ⟨result, hresult, hpassed, hfailed⟩
    have hread := exists_scopeResult.1 ⟨result, hresult⟩
    have hnamed := mem_violations_scopeResult hresult
    -- the violations are the reported paths out of scope, in both cases
    have hexact : ∀ path, path ∈ result.violations.map ScopeViolation.path ↔
        Reported (tracked ++ untracked) path ∧ ¬InScope task path := by
      cases hcase : result.passed with
      | false => exact hfailed hcase
      | true =>
        intro path
        refine iff_of_false (passed_iff.1 hcase path) ?_
        rintro ⟨⟨name, hname, htext⟩, hout⟩
        obtain ⟨path', htext', hin⟩ := hpassed.1 hcase name hname
        exact hout (Option.some.inj (htext.symm.trans htext') ▸ hin)
    refine ⟨hread, fun path hpath hout => ?_, fun path hpath hout => ?_⟩
    · obtain ⟨⟨reported, -, hseen⟩, -⟩ := (hnamed path).1 ((hexact path).2 ⟨hpath, hout⟩)
      rw [← hseen, seen_seen]
    · exact ((hexact (seen path)).1 ((hnamed (seen path)).2 ⟨⟨path, hpath, rfl⟩, hout⟩)).1
  · rintro ⟨hread, hself, hreported⟩
    obtain ⟨result, hresult⟩ := exists_scopeResult.2 hread
    have hexact : ∀ path, path ∈ result.violations.map ScopeViolation.path ↔
        Reported (tracked ++ untracked) path ∧ ¬InScope task path := by
      intro path
      rw [mem_violations_scopeResult hresult]
      refine and_congr_left fun hout => ?_
      constructor
      · rintro ⟨reported, hmem, rfl⟩
        exact hreported reported hmem hout
      · exact fun hpath => ⟨path, hpath, hself path hpath hout⟩
    refine ⟨result, hresult, ?_, fun _ => hexact⟩
    simp only [passed_iff, hexact, not_and, not_not]
    constructor
    · intro hin name hname
      obtain ⟨path, htext, -⟩ := hread name hname
      exact ⟨path, htext, hin path ⟨name, hname, htext⟩⟩
    · rintro hin path ⟨name, hname, htext⟩
      obtain ⟨path', htext', hscope⟩ := hin name hname
      exact Option.some.inj (htext'.symm.trans htext) ▸ hscope

/-- The file ` a`, with a blank in front. -/
def blankName : GitName :=
  ⟨[0x20, 0x61], by decide, by decide⟩

/-- A task that may write `a`. -/
def blankTask : TaskContract :=
  ⟨"T001", "Change a.", [], ["a"], []⟩

/-- **A blank in front of a name is missed**: the change of ` a` passes as one of `a`. -/
theorem scopeResult_misses_blank :
    ¬JudgesReported blankTask [blankName] (scopeResult blankTask [] [blankName]) := by
  have htext : GitName.text blankName = some " a" := by
    have hdecode : Utf8.decode blankName.bytes = some [' ', 'a'] :=
      Utf8.decode_eq_some_iff.2 (by decide)
    rw [GitName.text, hdecode]
    rfl
  have hout : ¬InScope blankTask " a" := by
    rintro ⟨⟨pattern, hpattern, hmatch⟩, -⟩
    obtain rfl : pattern = "a" := by simpa [blankTask] using hpattern
    revert hmatch
    decide
  have hin : InScope blankTask (seen " a") :=
    ⟨⟨"a", List.mem_singleton_self _, by decide⟩, fun _ hmem => absurd hmem List.not_mem_nil⟩
  rintro ⟨result, hresult, hpassed, -⟩
  have hpass : result.passed = true := by
    rw [passed_iff]
    intro path hpath
    obtain ⟨⟨reported, ⟨name, hname, hreported⟩, rfl⟩, hnot⟩ :=
      (mem_violations_scopeResult hresult path).1 hpath
    obtain rfl : name = blankName := List.mem_singleton.1 hname
    obtain rfl : reported = " a" := Option.some.inj (hreported.symm.trans htext)
    exact hnot hin
  obtain ⟨path, hpath, hscope⟩ := hpassed.1 hpass blankName (List.mem_singleton_self _)
  exact hout (Option.some.inj (hpath.symm.trans htext) ▸ hscope)

end DevFlow
