/-
# Decoding with an error handler

`bytes.decode("utf-8", errors=…)`.  The decoder cuts the bytes into characters
and pieces that belong to no character, and hands each such piece to the handler:
`replace` puts one replacement character for it, `backslashreplace` an escape for
each byte, and `surrogateescape`, which `os.fsdecode` uses, a lone surrogate for
each byte.  A text's own bytes hold nothing but characters (`pieces_encode`), and
the last handler loses nothing (`fsencode_fsdecode`).
-/

import DevFlow.Library.Utf8
import Mathlib.Data.List.Forall2
import Mathlib.Tactic.SplitIfs

namespace Utf8

/-- What a byte after the first one of a character may be. -/
def tail : UInt8 × UInt8 :=
  (0x80, 0xBF)

/-- The ranges of the bytes that follow a first byte. -/
def followers (b : UInt8) : List (UInt8 × UInt8) :=
  if 0xC2 ≤ b ∧ b ≤ 0xDF then [tail]
  else if b = 0xE0 then [(0xA0, 0xBF), tail]
  else if b = 0xED then [(0x80, 0x9F), tail]
  else if 0xE1 ≤ b ∧ b ≤ 0xEF then [tail, tail]
  else if b = 0xF0 then [(0x90, 0xBF), tail, tail]
  else if 0xF1 ≤ b ∧ b ≤ 0xF3 then [tail, tail, tail]
  else if b = 0xF4 then [(0x80, 0x8F), tail, tail]
  else []

/-- How many bytes lie in the ranges, one after the other. -/
def continued : List (UInt8 × UInt8) → List UInt8 → ℕ
  | range :: ranges, b :: bytes =>
    if range.1 ≤ b ∧ b ≤ range.2 then continued ranges bytes + 1 else 0
  | _, _ => 0

/-- What the decoder cuts off. -/
inductive Piece where
  | character (c : Char)
  | invalid (bytes : List UInt8)
deriving DecidableEq

/-- A first byte with the bytes that go on with it. -/
def piece (bytes : List UInt8) : Piece :=
  match decode bytes with
  | some [c] => .character c
  | _ => .invalid bytes

/-- The pieces that the decoder cuts the bytes into. -/
def pieces : List UInt8 → List Piece
  | [] => []
  | b :: bytes =>
    piece (b :: bytes.take (continued (followers b) bytes)) ::
      pieces (bytes.drop (continued (followers b) bytes))
termination_by bytes => bytes.length

/-- The bytes of a piece. -/
def Piece.bytes : Piece → List UInt8
  | .character c => String.utf8EncodeChar c
  | .invalid bytes => bytes

theorem bytes_piece (bytes : List UInt8) : (piece bytes).bytes = bytes := by
  rw [piece]
  split
  · rename_i c hdecode
    have hbytes : encode [c] = bytes := decode_eq_some_iff.1 hdecode
    rw [encode_cons, encode_nil, List.append_nil] at hbytes
    exact hbytes
  · rfl

/-- **Nothing is lost between the pieces.** -/
theorem flatMap_bytes_pieces (bytes : List UInt8) : (pieces bytes).flatMap Piece.bytes = bytes := by
  induction bytes using pieces.induct with
  | case1 => rw [pieces, List.flatMap_nil]
  | case2 b bytes ih =>
    rw [pieces, List.flatMap_cons, ih, bytes_piece, List.cons_append, List.take_append_drop]

/-! ### The bytes of a character -/

theorem continued_append {ranges : List (UInt8 × UInt8)} {bytes : List UInt8}
    (h : List.Forall₂ (fun range b => range.1 ≤ b ∧ b ≤ range.2) ranges bytes)
    (rest : List UInt8) : continued ranges (bytes ++ rest) = bytes.length := by
  induction h with
  | nil => rw [List.nil_append, continued.eq_def]; rfl
  | cons hb _ ih => rw [List.cons_append, continued, if_pos hb, ih, List.length_cons]

/-- **A character is a first byte and what may follow it.** -/
theorem exists_utf8EncodeChar (c : Char) :
    ∃ b bytes, String.utf8EncodeChar c = b :: bytes ∧
      List.Forall₂ (fun range b => range.1 ≤ b ∧ b ≤ range.2) (followers b) bytes := by
  have hscalar := c.valid
  simp only [UInt32.isValidChar, Nat.isValidChar] at hscalar
  rw [String.utf8EncodeChar]
  split_ifs <;> refine ⟨_, _, rfl, ?_⟩
  all_goals
    simp only [followers, UInt8.le_iff_toNat_le, ← UInt8.toNat_inj, UInt8.toNat_ofNat',
      UInt8.reduceToNat]
    split_ifs <;>
      simp only [List.forall₂_cons, List.forall₂_nil_left_iff, List.forall₂_nil_right_iff,
        and_true, tail, UInt8.toNat_ofNat', UInt8.reduceToNat, reduceCtorEq,
        and_false] <;> omega

/-- **The bytes of a character are cut off as the character.** -/
theorem pieces_utf8EncodeChar_append (c : Char) (rest : List UInt8) :
    pieces (String.utf8EncodeChar c ++ rest) = .character c :: pieces rest := by
  obtain ⟨b, bytes, hbytes, hfollow⟩ := exists_utf8EncodeChar c
  have hdecode : decode (b :: bytes) = some [c] := by
    rw [decode_eq_some_iff, encode_cons, encode_nil, List.append_nil, hbytes]
  rw [hbytes, List.cons_append, pieces, continued_append hfollow, List.take_left, List.drop_left,
    piece, hdecode]

/-- **A text's own bytes are its characters.** -/
theorem pieces_encode (text : List Char) : pieces (encode text) = text.map .character := by
  induction text with
  | nil => rw [encode_nil, pieces, List.map_nil]
  | cons c text ih => rw [encode_cons, pieces_utf8EncodeChar_append, ih, List.map_cons]

/-! ### The handlers -/

/-- `bytes.decode("utf-8", errors="replace")`. -/
def decodeReplace (bytes : List UInt8) : List Char :=
  (pieces bytes).map fun
    | .character c => c
    | .invalid _ => '\uFFFD'

theorem continued_append_cons {ranges : List (UInt8 × UInt8)} {b : UInt8}
    (h : ∀ range ∈ ranges, b < range.1) (front back : List UInt8) :
    continued ranges (front ++ b :: back) = continued ranges front := by
  induction front generalizing ranges with
  | nil =>
    cases ranges with
    | nil => simp only [continued]
    | cons range ranges =>
      rw [List.forall_mem_cons] at h
      have hout : ¬(range.1 ≤ b ∧ b ≤ range.2) := fun hin => absurd h.1 (UInt8.not_lt.2 hin.1)
      rw [List.nil_append, continued, if_neg hout]
      simp only [continued]
  | cons c front ih =>
    cases ranges with
    | nil => simp only [continued]
    | cons range ranges =>
      rw [List.forall_mem_cons] at h
      rw [List.cons_append, continued, continued, ih h.2]

theorem continued_le (ranges : List (UInt8 × UInt8)) (bytes : List UInt8) :
    continued ranges bytes ≤ bytes.length := by
  fun_induction continued ranges bytes with
  | case1 range ranges b bytes hb ih =>
    rw [List.length_cons]
    omega
  | case2 range ranges b bytes hb => exact Nat.zero_le _
  | case3 => exact Nat.zero_le _

theorem le_of_mem_followers {b : UInt8} {range : UInt8 × UInt8} (h : range ∈ followers b) :
    0x80 ≤ range.1 := by
  unfold followers at h
  split_ifs at h <;>
    simp only [List.mem_cons, List.not_mem_nil, or_false, tail] at h <;>
    rcases h with rfl | rfl | rfl <;> decide

/-- **A byte that is a character of its own cuts the bytes before it off**, whatever
they are. -/
theorem pieces_append_cons {b : UInt8} (hb : b < 0x80) (front back : List UInt8) :
    pieces (front ++ b :: back) = pieces front ++ piece [b] :: pieces back := by
  have hranges : ∀ first : UInt8, ∀ range ∈ followers first, b < range.1 := fun first range hrange =>
    UInt8.lt_of_lt_of_le hb (le_of_mem_followers hrange)
  induction front using pieces.induct with
  | case1 =>
    have hnone : followers b = [] := by
      unfold followers
      simp only [UInt8.lt_iff_toNat_lt, UInt8.le_iff_toNat_le, ← UInt8.toNat_inj,
        UInt8.reduceToNat] at hb ⊢
      split_ifs <;> first | rfl | omega
    rw [List.nil_append, pieces, pieces, hnone]
    simp only [continued, List.take_zero, List.drop_zero, List.nil_append]
  | case2 first bytes ih =>
    have hle := continued_le (followers first) bytes
    rw [List.cons_append, pieces, pieces, continued_append_cons (hranges first),
      List.take_append_of_le_length hle, List.drop_append_of_le_length hle, ih, List.cons_append]

theorem decodeReplace_encode (text : List Char) : decodeReplace (encode text) = text := by
  rw [decodeReplace, pieces_encode, List.map_map]
  exact List.map_id text

/-- **A character of one byte stays where it is**, and what is around it is decoded on
its own. -/
theorem decodeReplace_append_cons {c : Char} (hc : c.toNat < 128) (front back : List UInt8) :
    decodeReplace (front ++ (encode [c] ++ back)) =
      decodeReplace front ++ c :: decodeReplace back := by
  have hval : c.val.toNat ≤ 127 := by
    have : c.val.toNat < 128 := hc
    omega
  have hbyte : encode [c] = [UInt8.ofNat c.val.toNat] := by
    rw [encode_cons, encode_nil, List.append_nil, String.utf8EncodeChar, if_pos hval]
  have hb : UInt8.ofNat c.val.toNat < 0x80 := by
    rw [UInt8.lt_iff_toNat_lt, UInt8.toNat_ofNat']
    have : (0x80 : UInt8).toNat = 128 := rfl
    omega
  have hpiece : piece [UInt8.ofNat c.val.toNat] = .character c := by
    rw [piece, ← hbyte, decode_encode]
  rw [hbyte, List.singleton_append, decodeReplace, pieces_append_cons hb, hpiece, List.map_append,
    List.map_cons]
  rfl

/-- A digit of a byte's escape. -/
def hexDigit (n : ℕ) : Char :=
  Char.ofNat (if n < 10 then 48 + n else 87 + n)

/-- `bytes.decode("utf-8", errors="backslashreplace")`. -/
def decodeBackslash (bytes : List UInt8) : List Char :=
  (pieces bytes).flatMap fun
    | .character c => [c]
    | .invalid bytes =>
      bytes.flatMap fun b => ['\\', 'x', hexDigit (b.toNat / 16), hexDigit (b.toNat % 16)]

/-- A character of a file name as Python holds it. -/
inductive NameChar where
  | char (c : Char)
  /-- The lone surrogate that stands for a byte. -/
  | surrogate (b : UInt8)
deriving DecidableEq

/-- `os.fsdecode`. -/
def fsdecode (bytes : List UInt8) : List NameChar :=
  (pieces bytes).flatMap fun
    | .character c => [.char c]
    | .invalid bytes => bytes.map .surrogate

/-- `os.fsencode`. -/
def fsencode (name : List NameChar) : List UInt8 :=
  name.flatMap fun
    | .char c => String.utf8EncodeChar c
    | .surrogate b => [b]

/-- **A file name keeps its bytes.** -/
theorem fsencode_fsdecode (bytes : List UInt8) : fsencode (fsdecode bytes) = bytes := by
  rw [fsencode, fsdecode, List.flatMap_assoc]
  calc _ = (pieces bytes).flatMap Piece.bytes := by
        refine List.flatMap_congr fun part _ => ?_
        cases part with
        | character c => simp [Piece.bytes]
        | invalid bytes => simp [Piece.bytes, List.flatMap_map]
    _ = bytes := flatMap_bytes_pieces bytes

theorem fsdecode_inj {bytes bytes' : List UInt8} :
    fsdecode bytes = fsdecode bytes' ↔ bytes = bytes' := by
  refine ⟨fun h => ?_, fun h => h ▸ rfl⟩
  rw [← fsencode_fsdecode bytes, h, fsencode_fsdecode]

theorem fsdecode_ne_nil {bytes : List UInt8} (h : bytes ≠ []) : fsdecode bytes ≠ [] := by
  intro hnil
  have hbytes := fsencode_fsdecode bytes
  rw [hnil] at hbytes
  exact h hbytes.symm

theorem fsdecode_encode (text : List Char) : fsdecode (encode text) = text.map .char := by
  rw [fsdecode, pieces_encode, List.flatMap_map]
  exact List.map_eq_flatMap.symm

/-- A name that is a text. -/
def plain (name : List NameChar) : Bool :=
  name.all fun
    | .char _ => true
    | .surrogate _ => false

/-- **A file name is a text when its bytes are UTF-8.** -/
theorem plain_fsdecode_iff {bytes : List UInt8} :
    plain (fsdecode bytes) = true ↔ ∃ text, encode text = bytes := by
  constructor
  · intro h
    have htext : ∀ name : List NameChar, plain name = true →
        ∃ text : List Char, name = text.map .char := by
      intro name hname
      induction name with
      | nil => exact ⟨[], rfl⟩
      | cons c name ih =>
        rw [plain, List.all_cons, Bool.and_eq_true] at hname
        obtain ⟨text, rfl⟩ := ih hname.2
        cases c with
        | char c => exact ⟨c :: text, rfl⟩
        | surrogate b => exact absurd hname.1 Bool.false_ne_true
    obtain ⟨text, hname⟩ := htext _ h
    refine ⟨text, ?_⟩
    rw [← fsdecode_inj, fsdecode_encode, hname]
  · rintro ⟨text, rfl⟩
    rw [fsdecode_encode, plain, List.all_map, List.all_eq_true]
    exact fun _ _ => rfl

end Utf8
