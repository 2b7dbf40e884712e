/-
# JSON documents and their codecs

A document is a JSON value.  The members of an object stand in ascending order of
their keys: this is how a dump with sorted keys writes them, and nothing else
depends on the order of a dictionary.

A `Codec` writes values of a type as documents and reads them back, and carries
the proof that what it wrote is read as the same value.  `Fields` does the same
for the members of an object, one key after the other; a key that is missing
takes its default, a key that does not belong is an error.  A type whose values
satisfy a normalising check is `Validated`: the check returns the value itself.
So the round trip of a record follows from those of its fields.
-/

import DevFlow.Library.Raising
import Mathlib.Data.Int.Order.Basic

namespace Documents

/-- A JSON value. -/
inductive Json
  | null
  | num (n : ℤ)
  | str (s : String)
  | arr (items : List Json)
  | obj (members : List (String × Json))

/-- A hexadecimal digit of an escape. -/
def hexDigit (n : ℕ) : Char :=
  Nat.digitChar n

/-- A character inside a string, as `json.dumps` with `ensure_ascii=False` writes it. -/
def escape (c : Char) : List Char :=
  if c = '"' then ['\\', '"']
  else if c = '\\' then ['\\', '\\']
  else if c = '\n' then ['\\', 'n']
  else if c = '\r' then ['\\', 'r']
  else if c = '\t' then ['\\', 't']
  else if c.toNat = 8 then ['\\', 'b']
  else if c.toNat = 12 then ['\\', 'f']
  else if c.toNat < 32 then
    ['\\', 'u', '0', '0', hexDigit (c.toNat / 16), hexDigit (c.toNat % 16)]
  else [c]

/-- A string with its quotes. -/
def dumpsString (s : String) : List Char :=
  '"' :: s.toList.flatMap escape ++ ['"']

mutual

/-- `json.dumps` with the separators `,` and `:`. -/
def Json.dumps : Json → List Char
  | .null => ['n', 'u', 'l', 'l']
  | .num n => (toString n).toList
  | .str s => dumpsString s
  | .arr items => '[' :: dumpsItems items ++ [']']
  | .obj members => '\x7b' :: dumpsMembers members ++ ['\x7d']

/-- The items of an array, each after a comma but the first. -/
def dumpsItems : List Json → List Char
  | [] => []
  | item :: items => item.dumps ++ dumpsMoreItems items

def dumpsMoreItems : List Json → List Char
  | [] => []
  | item :: items => ',' :: item.dumps ++ dumpsMoreItems items

/-- The members of an object, each after a comma but the first. -/
def dumpsMembers : List (String × Json) → List Char
  | [] => []
  | (key, value) :: members => dumpsString key ++ ':' :: value.dumps ++ dumpsMoreMembers members

def dumpsMoreMembers : List (String × Json) → List Char
  | [] => []
  | (key, value) :: members =>
    ',' :: dumpsString key ++ ':' :: value.dumps ++ dumpsMoreMembers members

end

theorem dumpsMoreItems_cons_eq (item : Json) (items : List Json) :
    dumpsMoreItems (item :: items) = ',' :: dumpsItems (item :: items) := by
  rw [dumpsMoreItems, dumpsItems, List.cons_append]

/-- Documents that are all longer make longer items. -/
theorem length_dumpsMoreItems_lt {γ : Type} {f g : γ → Json} {l : List γ} (hne : l ≠ [])
    (h : ∀ a, (f a).dumps.length < (g a).dumps.length) :
    (dumpsMoreItems (l.map f)).length < (dumpsMoreItems (l.map g)).length := by
  induction l with
  | nil => exact absurd rfl hne
  | cons a l ih =>
    have hhead := h a
    simp only [List.map_cons, dumpsMoreItems, List.length_cons, List.length_append]
    rcases eq_or_ne l [] with rfl | hl
    · simp only [List.map_nil, dumpsMoreItems, List.length_nil]
      omega
    · have htail := ih hl
      omega

/-- The same for the array of the documents. -/
theorem length_dumps_arr_lt {γ : Type} {f g : γ → Json} {l : List γ} (hne : l ≠ [])
    (h : ∀ a, (f a).dumps.length < (g a).dumps.length) :
    (Json.arr (l.map f)).dumps.length < (Json.arr (l.map g)).dumps.length := by
  have hitems := length_dumpsMoreItems_lt hne h
  cases l with
  | nil => exact absurd rfl hne
  | cons a l =>
    rw [List.map_cons, List.map_cons, dumpsMoreItems_cons_eq, dumpsMoreItems_cons_eq,
      List.length_cons, List.length_cons] at hitems
    simp only [Json.dumps, List.map_cons, List.length_cons, List.length_append]
    omega

mutual

/-- The strings in a document, keys included. -/
def Json.strings : Json → List String
  | .null => []
  | .num _ => []
  | .str s => [s]
  | .arr items => stringsOfItems items
  | .obj members => stringsOfMembers members

def stringsOfItems : List Json → List String
  | [] => []
  | item :: items => item.strings ++ stringsOfItems items

def stringsOfMembers : List (String × Json) → List String
  | [] => []
  | (key, value) :: members => key :: value.strings ++ stringsOfMembers members

end

/-- The value under a key of an object; other documents have none. -/
def Json.get? (key : String) : Json → Option Json
  | .obj members => (members.find? fun member => member.1 = key).map Prod.snd
  | _ => none

/-- An object without some of its members. -/
def Json.without (keys : List String) : Json → Json
  | .obj members => .obj (members.filter fun member => member.1 ∉ keys)
  | document => document

/-! ### Codecs -/

universe u v

variable {α β : Type} {ε : Type u}

/-- A way to write values as documents, and to read them back. -/
structure Codec (α : Type) where
  encode : α → Json
  decode : Json → Except String α
  decode_encode : ∀ a, decode (encode a) = .ok a

namespace Codec

/-- Texts. -/
def text : Codec String where
  encode := .str
  decode
    | .str s => .ok s
    | _ => .error "Input should be a valid string"
  decode_encode _ := rfl

/-- Numbers from zero on. -/
def nat : Codec ℕ where
  encode n := .num n
  decode
    | .num n =>
      if 0 ≤ n then .ok n.toNat else .error "Input should be greater than or equal to 0"
    | _ => .error "Input should be a valid integer"
  decode_encode n := by simp

/-- Lists. -/
def list (codec : Codec α) : Codec (List α) where
  encode items := .arr (items.map codec.encode)
  decode
    | .arr items => items.mapM codec.decode
    | _ => .error "Input should be a valid list"
  decode_encode items := by
    rw [Raising.mapM_eq_ok, List.forall₂_map_left_iff]
    exact List.forall₂_same.2 fun a _ => codec.decode_encode a

/-- Values that may be missing. -/
def optional (codec : Codec α) (h : ∀ a, codec.encode a ≠ .null) : Codec (Option α) where
  encode
    | none => .null
    | some a => codec.encode a
  decode
    | .null => .ok none
    | document => some <$> codec.decode document
  decode_encode := by
    rintro (_ | a)
    · rfl
    · have hread : some <$> codec.decode (codec.encode a) = .ok (some a) := by
        rw [codec.decode_encode]
        rfl
      dsimp only
      cases hdocument : codec.encode a with
      | null => exact absurd hdocument (h a)
      | _ =>
        rw [hdocument] at hread
        exact hread

/-- Members of an enumeration, by their values. -/
def enumeration (value : α → String) (member : String → Option α)
    (h : ∀ a, member (value a) = some a) : Codec α where
  encode a := .str (value a)
  decode
    | .str s => (member s).elim (.error "Input should be a member of the enumeration") .ok
    | _ => .error "Input should be a valid string"
  decode_encode a := by
    dsimp only
    rw [h]
    rfl

/-- Another form of the same values. -/
def iso (codec : Codec β) (split : α → β) (build : β → Except String α)
    (h : ∀ a, build (split a) = .ok a) : Codec α where
  encode a := codec.encode (split a)
  decode document := codec.decode document >>= build
  decode_encode a := by rw [codec.decode_encode, Raising.ok_bind, h]

end Codec

/-! ### Records -/

/-- A way to write the members of an object, and to read them off the front of others. -/
structure Fields (α : Type) where
  write : α → List (String × Json)
  read : List (String × Json) → Except String (α × List (String × Json))
  read_write : ∀ a rest, read (write a ++ rest) = .ok (a, rest)

namespace Fields

/-- No member. -/
def nil : Fields Unit where
  write _ := []
  read members := .ok ((), members)
  read_write _ _ := rfl

/-- The document under a key at the front; a missing one takes the default. -/
def take (key : String) (default : Option Json) :
    List (String × Json) → Except String (Json × List (String × Json))
  | [] => default.elim (.error (key ++ ": Field required")) fun value => .ok (value, [])
  | (name, value) :: members =>
    if name = key then .ok (value, members)
    else default.elim (.error (key ++ ": Field required")) fun value' =>
      .ok (value', (name, value) :: members)

/-- A member and those after it. -/
def cons (key : String) (codec : Codec α) (default : Option Json) (fields : Fields β) :
    Fields (α × β) where
  write a := (key, codec.encode a.1) :: fields.write a.2
  read members := do
    let (value, members) ← take key default members
    let a ← codec.decode value
    let (b, members) ← fields.read members
    return ((a, b), members)
  read_write a rest := by
    rw [List.cons_append, take, if_pos rfl, Raising.ok_bind]
    dsimp only
    rw [codec.decode_encode, Raising.ok_bind, fields.read_write, Raising.ok_bind]
    rfl

end Fields

/-- An object with exactly these members. -/
def Codec.record (fields : Fields α) : Codec α where
  encode a := .obj (fields.write a)
  decode
    | .obj members => do
      let (a, rest) ← fields.read members
      Raising.raiseIf (rest ≠ []) "Extra inputs are not permitted"
      return a
    | _ => .error "Input should be a valid dictionary"
  decode_encode a := by
    have hread : fields.read (fields.write a) = .ok (a, []) := by
      rw [← List.append_nil (fields.write a), fields.read_write]
    dsimp only
    rw [hread]
    rfl

/-! ### Validated values -/

/-- The values that a normalising check returns as they are. -/
abbrev Validated (validate : α → Except ε α) : Type :=
  {a : α // validate a = .ok a}

/-- A check that accepts what it returns makes a validated value of it. -/
def Validated.make {validate : α → Except ε α}
    (stable : ∀ a b, validate a = .ok b → validate b = .ok b) (a : α) :
    Except ε (Validated validate) :=
  match h : validate a with
  | .ok b => .ok ⟨b, stable a b h⟩
  | .error e => .error e

theorem Validated.make_val {validate : α → Except ε α}
    {stable : ∀ a b, validate a = .ok b → validate b = .ok b} (a : Validated validate) :
    Validated.make stable a.val = .ok a := by
  unfold Validated.make
  split
  · rename_i b hb
    have heq := a.property
    rw [hb] at heq
    exact congrArg Except.ok (Subtype.ext (Except.ok.inj heq))
  · rename_i e he
    rw [a.property] at he
    cases he

/-- A validated value that was made is what the check returned. -/
theorem Validated.make_eq_ok {validate : α → Except ε α}
    {stable : ∀ a b, validate a = .ok b → validate b = .ok b} {a : α} {b : Validated validate} :
    Validated.make stable a = .ok b ↔ validate a = .ok b.val := by
  unfold Validated.make
  constructor
  · intro h
    split at h
    · rename_i c hc
      obtain rfl := Except.ok.inj h
      exact hc
    · cases h
  · intro h
    split
    · rename_i c hc
      rw [h] at hc
      exact congrArg Except.ok (Subtype.ext (Except.ok.inj hc).symm)
    · rename_i e he
      rw [h] at he
      cases he

/-- A value can be made exactly when the check returns. -/
theorem Validated.exists_make_iff {validate : α → Except ε α}
    {stable : ∀ a b, validate a = .ok b → validate b = .ok b} {a : α} :
    (∃ b, Validated.make stable a = .ok b) ↔ ∃ b, validate a = .ok b := by
  constructor
  · rintro ⟨b, hb⟩
    exact ⟨b.val, Validated.make_eq_ok.1 hb⟩
  · rintro ⟨b, hb⟩
    exact ⟨⟨b, stable a b hb⟩, Validated.make_eq_ok.2 hb⟩

/-- Validated values, written as what they are. -/
def Codec.validated {validate : α → Except ε α} (codec : Codec α) (message : ε → String)
    (stable : ∀ a b, validate a = .ok b → validate b = .ok b) : Codec (Validated validate) :=
  codec.iso Subtype.val (fun a => (Validated.make stable a).mapError message) fun a => by
    rw [Validated.make_val]
    rfl

end Documents
