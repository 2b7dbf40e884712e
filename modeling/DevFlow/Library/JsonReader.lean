/-
# Reading JSON

`json.loads` as far as its caller sees the keys of an object: whether a text is read, what
it raises, and whether the value is an object and with which keys.  The reader is an
automaton with a stack of the arrays and objects that are open, so that the first thing
that is wrong with a text is the one that is raised.

An integer of more than `maxDigits` digits raises a `ValueError` that is no
`JSONDecodeError`, and a text nested deeper than the interpreter allows a
`RecursionError`.  A surrogate that stands alone is read as the replacement character.
-/

import DevFlow.Library.Raising
import Mathlib.Data.List.Dedup

namespace JsonReader

/-- What `json.loads` raises. -/
inductive LoadError
  | malformed
  | digits
  | recursion
deriving DecidableEq, Repr

/-- `sys.get_int_max_str_digits()`. -/
def maxDigits : ℕ := 4300

/-- How much of a number has been read. -/
inductive NumberPart
  | minus
  | zero
  | digits
  | dot
  | fraction
  | exponent
  | exponentSign
  | exponentDigits
deriving DecidableEq, Repr

/-- What the reader is in the middle of.  A string keeps whether it is a key, its
characters, and the high surrogate that it ends with. -/
inductive Mode
  | value
  | firstItem
  | firstKey
  | nextKey
  | colon
  | after
  | text (isKey : Bool) (chars : List Char) (high : Option ℕ)
  | escape (isKey : Bool) (chars : List Char) (high : Option ℕ)
  | unicode (isKey : Bool) (chars : List Char) (high : Option ℕ) (missing unit : ℕ)
  | number (part : NumberPart) (integerDigits : ℕ)
  | word (rest : List Char)
deriving DecidableEq, Repr

/-- The reader: its mode, the objects (`true`) and arrays that are open, whether the
value of the text is an object, and the keys of that object. -/
structure Reader where
  mode : Mode := .value
  nesting : List Bool := []
  isObject : Bool := false
  keys : List String := []
deriving DecidableEq, Repr

/-- `WHITESPACE`. -/
def isBlank (c : Char) : Bool :=
  c = ' ' ∨ c = '\t' ∨ c = '\n' ∨ c = '\r'

/-- The value of a hexadecimal digit. -/
def hexValue? (c : Char) : Option ℕ :=
  if c.isDigit then some (c.toNat - '0'.toNat)
  else if 'a' ≤ c ∧ c ≤ 'f' then some (c.toNat - 'a'.toNat + 10)
  else if 'A' ≤ c ∧ c ≤ 'F' then some (c.toNat - 'A'.toNat + 10)
  else none

/-- The first character of a value. -/
def Reader.beginValue (limit : ℕ) (r : Reader) (c : Char) : Except LoadError Reader :=
  if c = '"' then .ok { r with mode := .text false [] none }
  else if c = '\x7b' then do
    Raising.raiseIf (limit ≤ r.nesting.length) .recursion
    return { r with
      mode := .firstKey
      nesting := true :: r.nesting
      isObject := r.isObject || r.nesting.isEmpty }
  else if c = '[' then do
    Raising.raiseIf (limit ≤ r.nesting.length) .recursion
    return { r with mode := .firstItem, nesting := false :: r.nesting }
  else if c = '-' then .ok { r with mode := .number .minus 0 }
  else if c = '0' then .ok { r with mode := .number .zero 1 }
  else if c.isDigit then .ok { r with mode := .number .digits 1 }
  else if c = 'n' then .ok { r with mode := .word ['u', 'l', 'l'] }
  else if c = 't' then .ok { r with mode := .word ['r', 'u', 'e'] }
  else if c = 'f' then .ok { r with mode := .word ['a', 'l', 's', 'e'] }
  else if c = 'N' then .ok { r with mode := .word ['a', 'N'] }
  else if c = 'I' then .ok { r with mode := .word ['n', 'f', 'i', 'n', 'i', 't', 'y'] }
  else .error .malformed

/-- What stands after a value. -/
def Reader.afterValue (r : Reader) (c : Char) : Except LoadError Reader :=
  if isBlank c then .ok { r with mode := .after }
  else
    match r.nesting with
    | true :: outer =>
      if c = ',' then .ok { r with mode := .nextKey }
      else if c = '\x7d' then .ok { r with mode := .after, nesting := outer }
      else .error .malformed
    | false :: outer =>
      if c = ',' then .ok { r with mode := .value }
      else if c = ']' then .ok { r with mode := .after, nesting := outer }
      else .error .malformed
    | [] => .error .malformed

/-- The end of a string. -/
def Reader.closeText (r : Reader) (isKey : Bool) (chars : List Char) : Reader :=
  if isKey then
    { r with
      mode := .colon
      keys := if r.nesting.length = 1 then r.keys ++ [String.ofList chars] else r.keys }
  else { r with mode := .after }

/-- The characters of a string and its high surrogate after an escaped code unit. -/
def addUnit (chars : List Char) (high : Option ℕ) (unit : ℕ) : List Char × Option ℕ :=
  if 0xD800 ≤ unit ∧ unit < 0xDC00 then (chars ++ ['\uFFFD'], some unit)
  else if 0xDC00 ≤ unit ∧ unit < 0xE000 then
    match high with
    | some lead =>
      (chars.dropLast ++ [Char.ofNat (0x10000 + (lead - 0xD800) * 0x400 + (unit - 0xDC00))], none)
    | none => (chars ++ ['\uFFFD'], none)
  else (chars ++ [Char.ofNat unit], none)

/-- A character escaped by a backslash. -/
def simpleEscape? (c : Char) : Option Char :=
  if c = '"' ∨ c = '\\' ∨ c = '/' then some c
  else if c = 'b' then some (Char.ofNat 8)
  else if c = 'f' then some (Char.ofNat 12)
  else if c = 'n' then some '\n'
  else if c = 'r' then some '\r'
  else if c = 't' then some '\t'
  else none

/-- The part of a number that a character goes on with. -/
def NumberPart.next? (c : Char) : NumberPart → Option NumberPart
  | .minus => if c = '0' then some .zero else if c.isDigit then some .digits else none
  | .zero => if c = '.' then some .dot else if c = 'e' ∨ c = 'E' then some .exponent else none
  | .digits =>
    if c.isDigit then some .digits else if c = '.' then some .dot
    else if c = 'e' ∨ c = 'E' then some .exponent else none
  | .dot => if c.isDigit then some .fraction else none
  | .fraction =>
    if c.isDigit then some .fraction else if c = 'e' ∨ c = 'E' then some .exponent else none
  | .exponent =>
    if c.isDigit then some .exponentDigits else if c = '+' ∨ c = '-' then some .exponentSign
    else none
  | .exponentSign | .exponentDigits => if c.isDigit then some .exponentDigits else none

/-- The digits of an integer; a number that has become a float has none. -/
def NumberPart.integerDigits (n : ℕ) : NumberPart → ℕ
  | .zero | .digits => n + 1
  | .fraction | .exponentDigits => 0
  | _ => n

/-- The end of a number: an integer is converted, and a number that broke off is an integer
with something behind it. -/
def NumberPart.close (integerDigits : ℕ) (part : NumberPart) : Except LoadError Unit := do
  Raising.raiseIf (maxDigits < integerDigits) .digits
  match part with
  | .minus | .dot | .exponent | .exponentSign => .error .malformed
  | _ => return ()

/-- The reader after one more character; `limit` is how deep a text may be nested. -/
def Reader.step (limit : ℕ) (r : Reader) (c : Char) : Except LoadError Reader :=
  match r.mode with
  | .value => if isBlank c then .ok r else r.beginValue limit c
  | .firstItem =>
    if isBlank c then .ok r
    else if c = ']' then .ok { r with mode := .after, nesting := r.nesting.tail }
    else r.beginValue limit c
  | .firstKey =>
    if isBlank c then .ok r
    else if c = '\x7d' then .ok { r with mode := .after, nesting := r.nesting.tail }
    else if c = '"' then .ok { r with mode := .text true [] none }
    else .error .malformed
  | .nextKey =>
    if isBlank c then .ok r
    else if c = '"' then .ok { r with mode := .text true [] none }
    else .error .malformed
  | .colon =>
    if isBlank c then .ok r
    else if c = ':' then .ok { r with mode := .value }
    else .error .malformed
  | .after => r.afterValue c
  | .text isKey chars high =>
    if c = '"' then .ok (r.closeText isKey chars)
    else if c = '\\' then .ok { r with mode := .escape isKey chars high }
    else if c.toNat < 32 then .error .malformed
    else .ok { r with mode := .text isKey (chars ++ [c]) none }
  | .escape isKey chars high =>
    if c = 'u' then .ok { r with mode := .unicode isKey chars high 4 0 }
    else
      match simpleEscape? c with
      | some escaped => .ok { r with mode := .text isKey (chars ++ [escaped]) none }
      | none => .error .malformed
  | .unicode isKey chars high missing unit =>
    match hexValue? c with
    | none => .error .malformed
    | some digit =>
      if missing = 1 then
        let added := addUnit chars high (unit * 16 + digit)
        .ok { r with mode := .text isKey added.1 added.2 }
      else .ok { r with mode := .unicode isKey chars high (missing - 1) (unit * 16 + digit) }
  | .number part integerDigits =>
    if part = .minus ∧ c = 'I' then
      .ok { r with mode := .word ['n', 'f', 'i', 'n', 'i', 't', 'y'] }
    else
      match part.next? c with
      | some next => .ok { r with mode := .number next (next.integerDigits integerDigits) }
      | none => do
        part.close integerDigits
        r.afterValue c
  | .word rest =>
    match rest with
    | expected :: rest =>
      if c = expected then
        .ok { r with mode := if rest = [] then .after else .word rest }
      else .error .malformed
    | [] => r.afterValue c

/-- What may be the last thing of a text. -/
def Mode.close : Mode → Except LoadError Unit
  | .number part integerDigits => part.close integerDigits
  | .after => .ok ()
  | _ => .error .malformed

/-- The end of the text. -/
def Reader.finish (r : Reader) : Except LoadError (Option (List String)) := do
  r.mode.close
  Raising.raiseIf (r.nesting ≠ []) .malformed
  return if r.isObject then some r.keys.dedup else none

/-- `json.loads`: the distinct keys of an object, or that the value is none. -/
def loads (limit : ℕ) (text : List Char) : Except LoadError (Option (List String)) := do
  Raising.raiseIf (text.head? = some '\uFEFF') .malformed
  let r ← text.foldlM (Reader.step limit) {}
  r.finish

example : loads 9 "\x7b \"a\" : [1, -2.5e3, \x7b\"b\": null\x7d], \"\\u0063\": \"d\" \x7d".toList =
    .ok (some ["a", "c"]) := by decide +kernel

example : loads 9 "[\"a\", 01]".toList = .error .malformed ∧ loads 9 "-Infinity ".toList = .ok none ∧
    loads 1 "[[]]".toList = .error .recursion := by decide +kernel

end JsonReader
