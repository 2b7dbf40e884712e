/-
# SHA-256

The hash function SHA-256 on bytes, as numbers below 256: the message is padded
to blocks of sixteen words of 32 bits, and each block is worked into eight words
of state by 64 rounds.  A word is a number below `2 ^ 32`.
-/

import Mathlib.Algebra.Ring.Nat

namespace Sha256

/-- The round constants. -/
def constants : List ℕ :=
  [0x428a2f98, 0x71374491, 0xb5c0fbcf, 0xe9b5dba5, 0x3956c25b, 0x59f111f1, 0x923f82a4, 0xab1c5ed5,
    0xd807aa98, 0x12835b01, 0x243185be, 0x550c7dc3, 0x72be5d74, 0x80deb1fe, 0x9bdc06a7, 0xc19bf174,
    0xe49b69c1, 0xefbe4786, 0x0fc19dc6, 0x240ca1cc, 0x2de92c6f, 0x4a7484aa, 0x5cb0a9dc, 0x76f988da,
    0x983e5152, 0xa831c66d, 0xb00327c8, 0xbf597fc7, 0xc6e00bf3, 0xd5a79147, 0x06ca6351, 0x14292967,
    0x27b70a85, 0x2e1b2138, 0x4d2c6dfc, 0x53380d13, 0x650a7354, 0x766a0abb, 0x81c2c92e, 0x92722c85,
    0xa2bfe8a1, 0xa81a664b, 0xc24b8b70, 0xc76c51a3, 0xd192e819, 0xd6990624, 0xf40e3585, 0x106aa070,
    0x19a4c116, 0x1e376c08, 0x2748774c, 0x34b0bcb5, 0x391c0cb3, 0x4ed8aa4a, 0x5b9cca4f, 0x682e6ff3,
    0x748f82ee, 0x78a5636f, 0x84c87814, 0x8cc70208, 0x90befffa, 0xa4506ceb, 0xbef9a3f7, 0xc67178f2]

/-- The eight words of state. -/
structure State where
  (a b c d e f g h : ℕ)
deriving DecidableEq

/-- The state before the first block. -/
def initial : State :=
  ⟨0x6a09e667, 0xbb67ae85, 0x3c6ef372, 0xa54ff53a, 0x510e527f, 0x9b05688c, 0x1f83d9ab, 0x5be0cd19⟩

/-- A word, rotated to the right. -/
def rotate (n word : ℕ) : ℕ :=
  (word >>> n) ||| ((word <<< (32 - n)) % 2 ^ 32)

/-- A round, with the sum of its constant and its word of the schedule. -/
def State.round (s : State) (word : ℕ) : State :=
  let choice := (s.e &&& s.f) ^^^ ((2 ^ 32 - 1 - s.e) &&& s.g)
  let majority := (s.a &&& s.b) ^^^ (s.a &&& s.c) ^^^ (s.b &&& s.c)
  let first := (s.h + (rotate 6 s.e ^^^ rotate 11 s.e ^^^ rotate 25 s.e) + choice + word) % 2 ^ 32
  let second := (rotate 2 s.a ^^^ rotate 13 s.a ^^^ rotate 22 s.a) + majority
  { a := (first + second) % 2 ^ 32
    b := s.a
    c := s.b
    d := s.c
    e := (s.d + first) % 2 ^ 32
    f := s.e
    g := s.f
    h := s.g }

/-- The next word of the schedule, from the last sixteen. -/
def nextWord (schedule : List ℕ) : ℕ :=
  let second := schedule.getD 1 0
  let last := schedule.getD 14 0
  (schedule.getD 0 0 + (rotate 7 second ^^^ rotate 18 second ^^^ (second >>> 3)) +
    schedule.getD 9 0 + (rotate 17 last ^^^ rotate 19 last ^^^ (last >>> 10))) % 2 ^ 32

/-- The rounds of a block. -/
def rounds : (constants schedule : List ℕ) → State → State
  | [], _, s => s
  | constant :: constants, schedule, s =>
    rounds constants (schedule.tail ++ [nextWord schedule])
      (s.round (constant + schedule.getD 0 0))

/-- The words of two states, added. -/
def State.add (s t : State) : State where
  a := (s.a + t.a) % 2 ^ 32
  b := (s.b + t.b) % 2 ^ 32
  c := (s.c + t.c) % 2 ^ 32
  d := (s.d + t.d) % 2 ^ 32
  e := (s.e + t.e) % 2 ^ 32
  f := (s.f + t.f) % 2 ^ 32
  g := (s.g + t.g) % 2 ^ 32
  h := (s.h + t.h) % 2 ^ 32

/-- The message with a bit, zeros and its length in bits, to whole blocks. -/
def pad (message : List ℕ) : List ℕ :=
  message ++ 0x80 :: List.replicate ((119 - message.length % 64) % 64) 0 ++
    (List.range 8).map fun i => 8 * message.length / 256 ^ (7 - i) % 256

/-- The words of the bytes. -/
def words : List ℕ → List ℕ
  | a :: b :: c :: d :: bytes => (a * 2 ^ 24 + b * 2 ^ 16 + c * 2 ^ 8 + d) :: words bytes
  | _ => []

/-- The blocks, one after the other. -/
def blocks : ℕ → List ℕ → State → State
  | 0, _, s => s
  | n + 1, words, s => blocks n (words.drop 16) (s.add (rounds constants (words.take 16) s))

/-- The digest as a state. -/
def hash (message : List ℕ) : State :=
  let words := words (pad message)
  blocks (words.length / 16) words initial

/-- A word as eight hexadecimal digits. -/
def hexWord (word : ℕ) : List Char :=
  (List.range 8).map fun i => Nat.digitChar (word / 16 ^ (7 - i) % 16)

/-- `hexdigest`. -/
def State.hex (s : State) : String :=
  String.ofList (hexWord s.a ++ hexWord s.b ++ hexWord s.c ++ hexWord s.d ++ hexWord s.e ++
    hexWord s.f ++ hexWord s.g ++ hexWord s.h)

/-- The digest of a text's UTF-8 bytes. -/
def digest (text : List Char) : String :=
  (hash ((text.flatMap String.utf8EncodeChar).map UInt8.toNat)).hex

end Sha256
