import BuildHook.Text.Utf8

/-!
# SHA-256

The message is padded to whole blocks of sixteen words; each block is mixed into a state of eight
words by sixty-four rounds. The digest is the eight words, so it always has thirty-two bytes.
-/

namespace BuildHook.Sha256

/-- The eight chaining words. -/
structure State where
  a : UInt32
  b : UInt32
  c : UInt32
  d : UInt32
  e : UInt32
  f : UInt32
  g : UInt32
  h : UInt32

/-- The first 32 bits of the fractional parts of the square roots of the first eight primes. -/
def State.initial : State :=
  ⟨0x6a09e667, 0xbb67ae85, 0x3c6ef372, 0xa54ff53a,
    0x510e527f, 0x9b05688c, 0x1f83d9ab, 0x5be0cd19⟩

/-- The first 32 bits of the fractional parts of the cube roots of the first 64 primes. -/
def roundConstants : List UInt32 :=
  [0x428a2f98, 0x71374491, 0xb5c0fbcf, 0xe9b5dba5, 0x3956c25b, 0x59f111f1,
   0x923f82a4, 0xab1c5ed5, 0xd807aa98, 0x12835b01, 0x243185be, 0x550c7dc3,
   0x72be5d74, 0x80deb1fe, 0x9bdc06a7, 0xc19bf174, 0xe49b69c1, 0xefbe4786,
   0x0fc19dc6, 0x240ca1cc, 0x2de92c6f, 0x4a7484aa, 0x5cb0a9dc, 0x76f988da,
   0x983e5152, 0xa831c66d, 0xb00327c8, 0xbf597fc7, 0xc6e00bf3, 0xd5a79147,
   0x06ca6351, 0x14292967, 0x27b70a85, 0x2e1b2138, 0x4d2c6dfc, 0x53380d13,
   0x650a7354, 0x766a0abb, 0x81c2c92e, 0x92722c85, 0xa2bfe8a1, 0xa81a664b,
   0xc24b8b70, 0xc76c51a3, 0xd192e819, 0xd6990624, 0xf40e3585, 0x106aa070,
   0x19a4c116, 0x1e376c08, 0x2748774c, 0x34b0bcb5, 0x391c0cb3, 0x4ed8aa4a,
   0x5b9cca4f, 0x682e6ff3, 0x748f82ee, 0x78a5636f, 0x84c87814, 0x8cc70208,
   0x90befffa, 0xa4506ceb, 0xbef9a3f7, 0xc67178f2]

/-- Moves the bits of a word to the right; those that leave it come in at the left. -/
def rotateRight (x : UInt32) (n : UInt32) : UInt32 := (x >>> n) ||| (x <<< (32 - n))

/-- The mixing of the first word of a state. -/
def bigSigma0 (x : UInt32) : UInt32 := rotateRight x 2 ^^^ rotateRight x 13 ^^^ rotateRight x 22

/-- The mixing of the fifth word of a state. -/
def bigSigma1 (x : UInt32) : UInt32 := rotateRight x 6 ^^^ rotateRight x 11 ^^^ rotateRight x 25

/-- The mixing of the second word of a schedule window. -/
def smallSigma0 (x : UInt32) : UInt32 := rotateRight x 7 ^^^ rotateRight x 18 ^^^ (x >>> 3)

/-- The mixing of the fifteenth word of a schedule window. -/
def smallSigma1 (x : UInt32) : UInt32 := rotateRight x 17 ^^^ rotateRight x 19 ^^^ (x >>> 10)

/-- Takes each bit of `y` where `x` is set and of `z` elsewhere. -/
def choose (x y z : UInt32) : UInt32 := (x &&& y) ^^^ ((x ^^^ 0xffffffff) &&& z)

/-- Each bit is the one that at least two of the three words have. -/
def majority (x y z : UInt32) : UInt32 := (x &&& y) ^^^ (x &&& z) ^^^ (y &&& z)

/-- One round, with the sum of the round constant and the schedule word. -/
def State.round (s : State) (input : UInt32) : State :=
  let t1 := s.h + bigSigma1 s.e + choose s.e s.f s.g + input
  let t2 := bigSigma0 s.a + majority s.a s.b s.c
  ⟨t1 + t2, s.a, s.b, s.c, s.d + t1, s.e, s.f, s.g⟩

/-- The schedule word that follows a window of sixteen. -/
def nextWord (window : List UInt32) : UInt32 :=
  smallSigma1 (window.getD 14 0) + window.getD 9 0 + smallSigma0 (window.getD 1 0)
    + window.getD 0 0

/-- Runs one round per constant over a sliding window of the message schedule. -/
def rounds : List UInt32 → List UInt32 → State → State
  | [], _, s => s
  | k :: ks, window, s =>
      rounds ks (window.drop 1 ++ [nextWord window]) (s.round (k + window.getD 0 0))

/-- Word-wise sum of two states. -/
def State.add (s t : State) : State :=
  ⟨s.a + t.a, s.b + t.b, s.c + t.c, s.d + t.d, s.e + t.e, s.f + t.f, s.g + t.g, s.h + t.h⟩

/-- Mixes one block of sixteen words into the state. -/
def State.absorb (s : State) (block : List UInt32) : State :=
  s.add (rounds roundConstants block s)

/-- The big-endian word of four bytes. -/
def word (a b c d : UInt8) : UInt32 :=
  (a.toUInt32 <<< 24) ||| (b.toUInt32 <<< 16) ||| (c.toUInt32 <<< 8) ||| d.toUInt32

/-- The big-endian bytes of a word. -/
def wordBytes (w : UInt32) : Bytes :=
  [(w >>> 24).toUInt8, (w >>> 16).toUInt8, (w >>> 8).toUInt8, w.toUInt8]

/-- The words of a byte list, behind those already read, which stand in reverse order. Fewer than
four bytes at the end are left out. -/
def wordsOnto (read : List UInt32) : Bytes → List UInt32
  | a :: b :: c :: d :: rest => wordsOnto (word a b c d :: read) rest
  | _ => read.reverse

/-- Absorbs all blocks of sixteen words; an incomplete last block is left out. -/
def State.absorbAll (s : State) (ws : List UInt32) : State :=
  match _h : ws.drop 15 with
  | [] => s
  | _ :: rest => (s.absorb (ws.take 16)).absorbAll rest
  termination_by ws.length
  decreasing_by
    have := congrArg List.length _h
    simp only [List.length_drop, List.length_cons] at this
    omega

/-- The big-endian bytes of a number in a field of the given width. -/
def bigEndian : Nat → Nat → Bytes
  | 0, _ => []
  | width + 1, n => bigEndian width (n / 256) ++ [UInt8.ofNat (n % 256)]

/-- What follows a message of `n` bytes: a set bit, zeros up to eight bytes before a block ends,
and the message length in bits. -/
def padding (n : Nat) : Bytes :=
  0x80 :: (List.replicate ((119 - n % 64) % 64) 0 ++ bigEndian 8 (8 * n))

/-- The bytes of a state. -/
def State.bytes (s : State) : Bytes :=
  wordBytes s.a ++ wordBytes s.b ++ wordBytes s.c ++ wordBytes s.d
    ++ wordBytes s.e ++ wordBytes s.f ++ wordBytes s.g ++ wordBytes s.h

/-- The digest of a message. -/
def hash (message : Bytes) : Bytes :=
  (State.initial.absorbAll (wordsOnto [] (message ++ padding message.length))).bytes

/-- A digest has thirty-two bytes. -/
theorem hash_length (message : Bytes) : (hash message).length = 32 := rfl

end BuildHook.Sha256
