/-
# Shell words

`shlex.split` with its default arguments: a text is split at white space, a quoted part
belongs to the word that it stands in, and a backslash takes the next character as it is.
In double quotes the backslash stands for itself except before a quote or a backslash.

The state of `read_token` is `Mode`; its empty token of a word that has a quoted part is
a word too, which is what `quoted` is kept for.
-/

import DevFlow.Library.Raising

namespace ShellWords

/-- `shlex.state`, with the state that an escape goes back to. -/
inductive Mode
  | space
  | word
  | quote (mark : Char)
  | escape (back : Option Char)
deriving DecidableEq

/-- `shlex.whitespace`. -/
def isBlank (c : Char) : Bool :=
  c = ' ' ∨ c = '\t' ∨ c = '\r' ∨ c = '\n'

/-- `shlex.quotes`. -/
def isQuote (c : Char) : Bool :=
  c = '\'' ∨ c = '"'

/-- `list(shlex)`, from the characters that are left; `token` and `quoted` are the
variables of `read_token`. -/
def scan : Mode → (token : List Char) → (quoted : Bool) → List Char →
    Except String (List (List Char))
  | .space, _, _, [] => .ok []
  | .space, _, _, c :: rest =>
    if isBlank c then scan .space [] false rest
    else if c = '\\' then scan (.escape none) [] false rest
    else if isQuote c then scan (.quote c) [] false rest
    else scan .word [c] false rest
  | .word, token, quoted, [] => .ok (if token ≠ [] ∨ quoted = true then [token] else [])
  | .word, token, quoted, c :: rest =>
    if isBlank c then
      if token ≠ [] ∨ quoted = true then (token :: ·) <$> scan .space [] false rest
      else scan .space token quoted rest
    else if isQuote c then scan (.quote c) token quoted rest
    else if c = '\\' then scan (.escape none) token quoted rest
    else scan .word (token ++ [c]) quoted rest
  | .quote _, _, _, [] => .error "No closing quotation"
  | .quote mark, token, _, c :: rest =>
    if c = mark then scan .word token true rest
    else if c = '\\' ∧ mark = '"' then scan (.escape (some mark)) token true rest
    else scan (.quote mark) (token ++ [c]) true rest
  | .escape _, _, _, [] => .error "No escaped character"
  | .escape none, token, quoted, c :: rest => scan .word (token ++ [c]) quoted rest
  | .escape (some mark), token, quoted, c :: rest =>
    -- within quotes only the quote itself or the backslash may be escaped
    if c ≠ '\\' ∧ c ≠ mark then scan (.quote mark) (token ++ ['\\', c]) quoted rest
    else scan (.quote mark) (token ++ [c]) quoted rest

/-- `shlex.split`. -/
def split (text : List Char) : Except String (List (List Char)) :=
  scan .space [] false text

example : split "pytest 'a b' \"c\\\"d\" ''".toList =
    .ok ["pytest".toList, "a b".toList, "c\"d".toList, []] := by decide +kernel

end ShellWords
