/-
# Texts as bytes

`bytes.decode("utf-8")` and `str.encode("utf-8")`.  A text is read back from its
bytes and from no others (`decode_eq_some_iff`), so a file holds one text or
none, and the byte zero, which is only ever the character zero, cuts the bytes of
a text where it cuts the text (`exists_of_encode_eq`).
-/

import Mathlib.Data.List.Basic

namespace Utf8

/-- `text.encode("utf-8")`. -/
def encode (text : List Char) : List UInt8 :=
  text.flatMap String.utf8EncodeChar

/-- `bytes.decode("utf-8")`: `none` where it raises `UnicodeDecodeError`. -/
def decode (bytes : List UInt8) : Option (List Char) :=
  (String.fromUTF8? bytes.toByteArray).map String.toList

@[simp] theorem encode_nil : encode [] = [] :=
  rfl

@[simp] theorem encode_cons (c : Char) (text : List Char) :
    encode (c :: text) = String.utf8EncodeChar c ++ encode text :=
  List.flatMap_cons

@[simp] theorem encode_append (text text' : List Char) :
    encode (text ++ text') = encode text ++ encode text' :=
  List.flatMap_append

theorem toByteArray_encode (text : List Char) :
    (encode text).toByteArray = (String.ofList text).toByteArray :=
  rfl

/-- **The bytes of a text are read back as the text, and as no other.** -/
theorem decode_eq_some_iff {bytes : List UInt8} {text : List Char} :
    decode bytes = some text ↔ encode text = bytes := by
  rw [decode, String.fromUTF8?]
  constructor
  · intro h
    split_ifs at h with hvalid
    · rw [Option.map_some, Option.some.injEq] at h
      have hbytes : (String.ofList text).toByteArray = bytes.toByteArray := by
        rw [← h, String.ofList_toList]
        rfl
      exact List.toByteArray_inj.1 hbytes
    · cases h
  · rintro rfl
    have hvalid : (encode text).toByteArray.IsValidUTF8 := ⟨text, rfl⟩
    rw [dif_pos hvalid, Option.map_some, Option.some.injEq]
    have hstring : String.fromUTF8 (encode text).toByteArray hvalid = String.ofList text :=
      String.toByteArray_inj.1 rfl
    rw [hstring, String.toList_ofList]

theorem decode_encode (text : List Char) : decode (encode text) = some text :=
  decode_eq_some_iff.2 rfl

theorem encode_inj {text text' : List Char} : encode text = encode text' ↔ text = text' := by
  refine ⟨fun h => ?_, fun h => h ▸ rfl⟩
  have hsame : some text = some text' := by rw [← decode_encode, h, decode_encode]
  exact Option.some.inj hsame

/-- A byte of a character is not zero unless the character is. -/
theorem zero_mem_utf8EncodeChar {c : Char} :
    0 ∈ String.utf8EncodeChar c ↔ c = '\x00' := by
  constructor
  · intro h
    have hzero : c.val.toNat = 0 := by
      simp only [String.utf8EncodeChar] at h
      split_ifs at h <;>
        simp only [List.mem_cons, List.not_mem_nil, or_false, ← UInt8.toNat_inj,
          UInt8.toNat_ofNat', UInt8.toNat_zero] at h <;> omega
    exact Char.ext (UInt32.toNat_inj.1 hzero)
  · rintro rfl
    decide

theorem zero_mem_encode {text : List Char} : 0 ∈ encode text ↔ '\x00' ∈ text := by
  simp only [encode, List.mem_flatMap, zero_mem_utf8EncodeChar, exists_eq_right]

/-- **The byte zero cuts the text where it cuts the bytes.** -/
theorem exists_of_encode_eq {text : List Char} {front back : List UInt8} (hfront : 0 ∉ front)
    (h : encode text = front ++ 0 :: back) :
    ∃ before after, text = before ++ '\x00' :: after ∧ encode before = front ∧
      encode after = back := by
  induction text generalizing front with
  | nil => simp at h
  | cons c text ih =>
    rw [encode_cons] at h
    by_cases hc : c = '\x00'
    · subst hc
      have hbytes : String.utf8EncodeChar '\x00' = [0] := by decide
      rw [hbytes] at h
      cases front with
      | nil => exact ⟨[], text, rfl, rfl, (List.cons.inj h).2⟩
      | cons b front =>
        exact absurd (List.mem_cons.2 (Or.inl (List.cons.inj h).1)) hfront
    · have hfree : 0 ∉ String.utf8EncodeChar c := fun hmem => hc (zero_mem_utf8EncodeChar.1 hmem)
      rcases List.append_eq_append_iff.1 h with ⟨rest, rfl, hrest⟩ | ⟨rest, hsplit, hrest⟩
      · rw [List.mem_append, not_or] at hfront
        obtain ⟨before, after, rfl, hbefore, hafter⟩ := ih hfront.2 hrest
        exact ⟨c :: before, after, rfl, by rw [encode_cons, hbefore], hafter⟩
      · cases rest with
        | nil =>
          obtain ⟨before, after, rfl, hbefore, hafter⟩ := ih List.not_mem_nil hrest.symm
          refine ⟨c :: before, after, rfl, ?_, hafter⟩
          rw [encode_cons, hbefore, hsplit, List.append_nil, List.append_nil]
        | cons b rest =>
          refine absurd ?_ hfree
          rw [hsplit, (List.cons.inj hrest).1]
          simp

end Utf8
