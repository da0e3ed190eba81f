/-
The SHA-256 digest:

* `Sha256.digest`: the eight words of the digest of a list of octets;
* `Sha256.hexDigest`: their hexadecimal form.

The message is padded to blocks of sixteen words; each block is stretched to sixty-four words, which
stir the state one after the other.
-/
import SourceLayers.Text.Quoted

namespace SourceLayers.Sha256

/-- The round constants. -/
def roundConstants : List UInt32 :=
  [0x428a2f98, 0x71374491, 0xb5c0fbcf, 0xe9b5dba5, 0x3956c25b, 0x59f111f1, 0x923f82a4, 0xab1c5ed5,
    0xd807aa98, 0x12835b01, 0x243185be, 0x550c7dc3, 0x72be5d74, 0x80deb1fe, 0x9bdc06a7, 0xc19bf174,
    0xe49b69c1, 0xefbe4786, 0x0fc19dc6, 0x240ca1cc, 0x2de92c6f, 0x4a7484aa, 0x5cb0a9dc, 0x76f988da,
    0x983e5152, 0xa831c66d, 0xb00327c8, 0xbf597fc7, 0xc6e00bf3, 0xd5a79147, 0x06ca6351, 0x14292967,
    0x27b70a85, 0x2e1b2138, 0x4d2c6dfc, 0x53380d13, 0x650a7354, 0x766a0abb, 0x81c2c92e, 0x92722c85,
    0xa2bfe8a1, 0xa81a664b, 0xc24b8b70, 0xc76c51a3, 0xd192e819, 0xd6990624, 0xf40e3585, 0x106aa070,
    0x19a4c116, 0x1e376c08, 0x2748774c, 0x34b0bcb5, 0x391c0cb3, 0x4ed8aa4a, 0x5b9cca4f, 0x682e6ff3,
    0x748f82ee, 0x78a5636f, 0x84c87814, 0x8cc70208, 0x90befffa, 0xa4506ceb, 0xbef9a3f7, 0xc67178f2]

/-- The state of the digest: eight words. -/
structure State where
  a : UInt32
  b : UInt32
  c : UInt32
  d : UInt32
  e : UInt32
  f : UInt32
  g : UInt32
  h : UInt32

/-- The state before the first block. -/
def State.start : State :=
  ⟨0x6a09e667, 0xbb67ae85, 0x3c6ef372, 0xa54ff53a, 0x510e527f, 0x9b05688c, 0x1f83d9ab, 0x5be0cd19⟩

/-- The words of a state. -/
def State.words (s : State) : List UInt32 :=
  [s.a, s.b, s.c, s.d, s.e, s.f, s.g, s.h]

/-- The sum of two states, word by word. -/
def State.add (s t : State) : State :=
  ⟨s.a + t.a, s.b + t.b, s.c + t.c, s.d + t.d, s.e + t.e, s.f + t.f, s.g + t.g, s.h + t.h⟩

/-- A word turned right by `n` places, for `n` from 1 to 31. -/
def rotateRight (x n : UInt32) : UInt32 :=
  x >>> n ||| x <<< (32 - n)

/-- A length in bits, as eight octets. -/
def lengthOctets (length : Nat) : List UInt8 :=
  (List.range 8).map fun i => UInt8.ofNat ((8 * length) >>> (56 - 8 * i))

/-- The octets after a message of the given length: a one bit, zeros up to a multiple of a block,
and the length in bits. -/
def padding (length : Nat) : List UInt8 :=
  0x80 :: List.replicate ((119 - length % 64) % 64) 0 ++ lengthOctets length

/-- Octets in groups of four as words, the first octet highest. Octets that fill no word are left
out. -/
def wordsOf : List UInt8 → List UInt32
  | a :: b :: c :: d :: rest =>
    (a.toUInt32 <<< 24 ||| b.toUInt32 <<< 16 ||| c.toUInt32 <<< 8 ||| d.toUInt32) :: wordsOf rest
  | _ => []

/-- The next word of a stretched block, from the words before it, latest first. -/
def nextWord (latest : List UInt32) : UInt32 :=
  let w (i : Nat) : UInt32 := latest.getD (i - 1) 0
  let s0 := rotateRight (w 15) 7 ^^^ rotateRight (w 15) 18 ^^^ w 15 >>> 3
  let s1 := rotateRight (w 2) 17 ^^^ rotateRight (w 2) 19 ^^^ w 2 >>> 10
  w 16 + s0 + w 7 + s1

/-- A block stretched to sixty-four words. -/
def stretch (block : List UInt32) : List UInt32 :=
  ((List.range 48).foldl (fun latest _ => nextWord latest :: latest) block.reverse).reverse

/-- One round: a word of the stretched block and a round constant stir the state. -/
def round (s : State) (word constant : UInt32) : State :=
  let s1 := rotateRight s.e 6 ^^^ rotateRight s.e 11 ^^^ rotateRight s.e 25
  let choice := (s.e &&& s.f) ^^^ (~~~s.e &&& s.g)
  let t1 := s.h + s1 + choice + constant + word
  let s0 := rotateRight s.a 2 ^^^ rotateRight s.a 13 ^^^ rotateRight s.a 22
  let majority := (s.a &&& s.b) ^^^ (s.a &&& s.c) ^^^ (s.b &&& s.c)
  ⟨t1 + s0 + majority, s.a, s.b, s.c, s.d + t1, s.e, s.f, s.g⟩

/-- The state after a block. -/
def compress (s : State) (block : List UInt32) : State :=
  s.add (((stretch block).zip roundConstants).foldl
    (fun s (word, constant) => round s word constant) s)

/-- The state after the first `count` blocks of a list of words. -/
def absorbBlocks (s : State) : (count : Nat) → List UInt32 → State
  | 0, _ => s
  | count + 1, words => absorbBlocks (compress s (words.take 16)) count (words.drop 16)

/-- The digest of a list of octets. -/
def digest (octets : List UInt8) : List UInt32 :=
  let words := wordsOf (octets ++ padding octets.length)
  (absorbBlocks State.start (words.length / 16) words).words

/-- The digest in hexadecimal. -/
def hexDigest (octets : List UInt8) : String :=
  String.ofList ((digest octets).flatMap fun word => hexDigits 8 word.toNat)

end SourceLayers.Sha256
