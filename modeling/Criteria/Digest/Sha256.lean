/-!
# SHA-256

The message is padded to whole blocks of 64 bytes. Each block is taken through 64 rounds that mix
eight words with the words of the block's schedule. The schedule is kept as the next sixteen words:
every round takes the first of them and puts a new one at the end.
-/

namespace Criteria.Digest

/-- The eight words that the rounds mix. -/
structure Mix where
  a : UInt32
  b : UInt32
  c : UInt32
  d : UInt32
  e : UInt32
  f : UInt32
  g : UInt32
  h : UInt32
  deriving DecidableEq, Repr

/-- The words at the start: the first 32 bits of the fractions of the square roots of the first
eight primes. -/
def Mix.initial : Mix :=
  ⟨0x6a09e667, 0xbb67ae85, 0x3c6ef372, 0xa54ff53a, 0x510e527f, 0x9b05688c, 0x1f83d9ab, 0x5be0cd19⟩

/-- A constant for each round: the first 32 bits of the fractions of the cube roots of the first
64 primes. -/
def roundConstants : List UInt32 :=
  [0x428a2f98, 0x71374491, 0xb5c0fbcf, 0xe9b5dba5, 0x3956c25b, 0x59f111f1, 0x923f82a4, 0xab1c5ed5,
   0xd807aa98, 0x12835b01, 0x243185be, 0x550c7dc3, 0x72be5d74, 0x80deb1fe, 0x9bdc06a7, 0xc19bf174,
   0xe49b69c1, 0xefbe4786, 0x0fc19dc6, 0x240ca1cc, 0x2de92c6f, 0x4a7484aa, 0x5cb0a9dc, 0x76f988da,
   0x983e5152, 0xa831c66d, 0xb00327c8, 0xbf597fc7, 0xc6e00bf3, 0xd5a79147, 0x06ca6351, 0x14292967,
   0x27b70a85, 0x2e1b2138, 0x4d2c6dfc, 0x53380d13, 0x650a7354, 0x766a0abb, 0x81c2c92e, 0x92722c85,
   0xa2bfe8a1, 0xa81a664b, 0xc24b8b70, 0xc76c51a3, 0xd192e819, 0xd6990624, 0xf40e3585, 0x106aa070,
   0x19a4c116, 0x1e376c08, 0x2748774c, 0x34b0bcb5, 0x391c0cb3, 0x4ed8aa4a, 0x5b9cca4f, 0x682e6ff3,
   0x748f82ee, 0x78a5636f, 0x84c87814, 0x8cc70208, 0x90befffa, 0xa4506ceb, 0xbef9a3f7, 0xc67178f2]

/-- Rotate a word to the right. -/
def rotate (x : UInt32) (n : UInt32) : UInt32 := (x >>> n) ||| (x <<< (32 - n))

/-- Take one round with its constant and the next word of the schedule. -/
def Mix.round (m : Mix) (constant word : UInt32) : Mix :=
  let s1 := rotate m.e 6 ^^^ rotate m.e 11 ^^^ rotate m.e 25
  let choice := (m.e &&& m.f) ^^^ (~~~m.e &&& m.g)
  let t1 := m.h + s1 + choice + constant + word
  let s0 := rotate m.a 2 ^^^ rotate m.a 13 ^^^ rotate m.a 22
  let majority := (m.a &&& m.b) ^^^ (m.a &&& m.c) ^^^ (m.b &&& m.c)
  ⟨t1 + (s0 + majority), m.a, m.b, m.c, m.d + t1, m.e, m.f, m.g⟩

/-- The word of the schedule sixteen places behind the first of the given ones. -/
def nextWord (words : List UInt32) : UInt32 :=
  let at0 := words.getD 0 0
  let at1 := words.getD 1 0
  let at9 := words.getD 9 0
  let at14 := words.getD 14 0
  at0 + (rotate at1 7 ^^^ rotate at1 18 ^^^ (at1 >>> 3)) + at9 +
    (rotate at14 17 ^^^ rotate at14 19 ^^^ (at14 >>> 10))

/-- Take a round for each constant, moving along the schedule. -/
def rounds : List UInt32 → List UInt32 → Mix → Mix
  | [], _, m => m
  | constant :: constants, words, m =>
    rounds constants (words.tail ++ [nextWord words]) (m.round constant (words.headD 0))

/-- Add two mixes word by word. -/
def Mix.add (m n : Mix) : Mix :=
  ⟨m.a + n.a, m.b + n.b, m.c + n.c, m.d + n.d, m.e + n.e, m.f + n.f, m.g + n.g, m.h + n.h⟩

/-- Take a block of sixteen words into the mix. -/
def Mix.absorb (m : Mix) (block : List UInt32) : Mix :=
  m.add (rounds roundConstants block m)

/-- The word of four bytes, the highest first. -/
def wordOfBytes (bytes : List UInt8) : UInt32 :=
  bytes.foldl (fun word byte => word <<< 8 ||| byte.toUInt32) 0

/-- Cut a list into pieces of a length. The first number bounds the pieces. -/
def pieces {α : Type} (length : Nat) : Nat → List α → List (List α)
  | 0, _ => []
  | _ + 1, [] => []
  | count + 1, xs => xs.take length :: pieces length count (xs.drop length)

/-- The bytes of a number, the highest first. -/
def bytesOfNat (n : Nat) : Nat → List UInt8
  | 0 => []
  | count + 1 => bytesOfNat (n / 256) count ++ [UInt8.ofNat (n % 256)]

/-- Pad a message: a one bit, zeros, and the length in bits as eight bytes. -/
def pad (message : List UInt8) : List UInt8 :=
  message ++ 0x80 :: List.replicate ((119 - message.length % 64) % 64) 0 ++
    bytesOfNat (message.length * 8 % Nat.pow 2 64) 8

/-- The blocks of a message, each a list of words. -/
def blocks (message : List UInt8) : List (List UInt32) :=
  (pieces 64 (message.length / 64 + 2) (pad message)).map fun block =>
    (pieces 4 16 block).map wordOfBytes

/-- The eight words of the digest of a message. -/
def sha256 (message : List UInt8) : Mix :=
  (blocks message).foldl Mix.absorb Mix.initial

/-- The eight words in order. -/
def Mix.toList (m : Mix) : List UInt32 := [m.a, m.b, m.c, m.d, m.e, m.f, m.g, m.h]

/-- Write the last so many hexadecimal digits of a number. -/
def hexDigits (n : Nat) : Nat → List Char
  | 0 => []
  | count + 1 => hexDigits (n / 16) count ++ [Nat.digitChar (n % 16)]

/-- The digest of a text in hexadecimal, as the text's UTF-8 bytes give it. -/
def hexDigest (text : String) : String :=
  String.ofList ((sha256 text.toUTF8.toList).toList.flatMap fun word => hexDigits word.toNat 8)

example : hexDigest "" =
    "e3b0c44298fc1c149afbf4c8996fb92427ae41e4649b934ca495991b7852b855" := by
  decide +kernel

example : hexDigest "abc" =
    "ba7816bf8f01cfea414140de5dae2223b00361a396177a9cb410ff61f20015ad" := by
  decide +kernel

end Criteria.Digest
