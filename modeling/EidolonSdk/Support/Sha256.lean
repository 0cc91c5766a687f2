import EidolonSdk.Support.Primitives

/-!
# SHA-256

The digest itself, for the places where a hash has to have its real values.  A
message is filled up to whole blocks; each block stirs eight words in sixty-four
rounds.
-/

namespace EidolonSdk
namespace Support

open Python

/-!
## Numbers as octets
-/

/-- `int.from_bytes(raw, "big")`. -/
def fromBytesBig (raw : Bytes) : Nat :=
  raw.foldl (fun n b => n * 256 + b.val) 0

/-- The low octets of a number, most significant first. -/
def bigEndian : Nat -> Nat -> Bytes
  | 0, _ => []
  | length + 1, n => bigEndian length (n / 256) ++ [byte n]

theorem bigEndian_length (length n : Nat) :
    (bigEndian length n).length = length := by
  induction length generalizing n with
  | zero => rfl
  | succ length ih => simp [bigEndian, ih]

theorem fromBytesBig_append (raw : Bytes) (b : Byte) :
    fromBytesBig (raw ++ [b]) = fromBytesBig raw * 256 + b.val := by
  simp [fromBytesBig]

theorem fromBytesBig_bigEndian (length n : Nat) :
    fromBytesBig (bigEndian length n) = n % 256 ^ length := by
  induction length generalizing n with
  | zero => simp [bigEndian, fromBytesBig, Nat.mod_one]
  | succ length ih =>
      have hmod : n % 256 ^ (length + 1) =
          n % 256 + 256 * (n / 256 % 256 ^ length) := by
        rw [Nat.pow_succ, Nat.mul_comm, Nat.mod_mul]
      rw [bigEndian, fromBytesBig_append, ih, val_byte, hmod]
      omega

namespace Sha256

/-!
## Words
-/

/-- A word has 32 bits. -/
def word (n : Nat) : Nat := n % 0x100000000

/-- A word twice over; its rotations are what it is shifted to. -/
def doubled (w : Nat) : Nat := w * 0x100000001

def bigSigma0 (w : Nat) : Nat :=
  word (doubled w >>> 2 ^^^ (doubled w >>> 13 ^^^ doubled w >>> 22))

def bigSigma1 (w : Nat) : Nat :=
  word (doubled w >>> 6 ^^^ (doubled w >>> 11 ^^^ doubled w >>> 25))

def smallSigma0 (w : Nat) : Nat :=
  word (doubled w >>> 7 ^^^ doubled w >>> 18) ^^^ w >>> 3

def smallSigma1 (w : Nat) : Nat :=
  word (doubled w >>> 17 ^^^ doubled w >>> 19) ^^^ w >>> 10

def choose (x y z : Nat) : Nat := z ^^^ (x &&& (y ^^^ z))

def majority (x y z : Nat) : Nat := (x &&& y) ||| (z &&& (x ||| y))

/-!
## Blocks
-/

structure Words where
  a : Nat
  b : Nat
  c : Nat
  d : Nat
  e : Nat
  f : Nat
  g : Nat
  h : Nat

def Words.initial : Words where
  a := 0x6a09e667
  b := 0xbb67ae85
  c := 0x3c6ef372
  d := 0xa54ff53a
  e := 0x510e527f
  f := 0x9b05688c
  g := 0x1f83d9ab
  h := 0x5be0cd19

def Words.add (s t : Words) : Words where
  a := word (s.a + t.a)
  b := word (s.b + t.b)
  c := word (s.c + t.c)
  d := word (s.d + t.d)
  e := word (s.e + t.e)
  f := word (s.f + t.f)
  g := word (s.g + t.g)
  h := word (s.h + t.h)

def Words.octets (s : Words) : Bytes :=
  [s.a, s.b, s.c, s.d, s.e, s.f, s.g, s.h].flatMap (bigEndian 4)

theorem Words.octets_length (s : Words) : s.octets.length = 32 := by
  simp [octets, bigEndian_length]

def round (s : Words) (constant scheduled : Nat) : Words :=
  let t := s.h + bigSigma1 s.e + choose s.e s.f s.g + constant + scheduled
  { a := word (t + bigSigma0 s.a + majority s.a s.b s.c)
    b := s.a
    c := s.b
    d := s.c
    e := word (s.d + t)
    f := s.e
    g := s.f
    h := s.g }

def roundConstants : List Nat := [
  0x428a2f98, 0x71374491, 0xb5c0fbcf, 0xe9b5dba5, 0x3956c25b, 0x59f111f1,
  0x923f82a4, 0xab1c5ed5, 0xd807aa98, 0x12835b01, 0x243185be, 0x550c7dc3,
  0x72be5d74, 0x80deb1fe, 0x9bdc06a7, 0xc19bf174, 0xe49b69c1, 0xefbe4786,
  0x0fc19dc6, 0x240ca1cc, 0x2de92c6f, 0x4a7484aa, 0x5cb0a9dc, 0x76f988da,
  0x983e5152, 0xa831c66d, 0xb00327c8, 0xbf597fc7, 0xc6e00bf3, 0xd5a79147,
  0x06ca6351, 0x14292967, 0x27b70a85, 0x2e1b2138, 0x4d2c6dfc, 0x53380d13,
  0x650a7354, 0x766a0abb, 0x81c2c92e, 0x92722c85, 0xa2bfe8a1, 0xa81a664b,
  0xc24b8b70, 0xc76c51a3, 0xd192e819, 0xd6990624, 0xf40e3585, 0x106aa070,
  0x19a4c116, 0x1e376c08, 0x2748774c, 0x34b0bcb5, 0x391c0cb3, 0x4ed8aa4a,
  0x5b9cca4f, 0x682e6ff3, 0x748f82ee, 0x78a5636f, 0x84c87814, 0x8cc70208,
  0x90befffa, 0xa4506ceb, 0xbef9a3f7, 0xc67178f2]

/-- The sixteen words in front are those of this round and the next fifteen; the
one after them is made of four of them. -/
def rounds : List Nat -> List Nat -> Words -> Words
  | constant :: constants,
      w0 :: w1 :: w2 :: w3 :: w4 :: w5 :: w6 :: w7 :: w8 :: w9 :: w10 :: w11 :: w12 ::
        w13 :: w14 :: w15 :: _, s =>
      rounds constants
        [w1, w2, w3, w4, w5, w6, w7, w8, w9, w10, w11, w12, w13, w14, w15,
          word (smallSigma1 w14 + w9 + smallSigma0 w1 + w0)]
        (round s constant w0)
  | _, _, s => s

def blockWords : Nat -> Bytes -> List Nat
  | 0, _ => []
  | count + 1, octets =>
      fromBytesBig (octets.take 4) :: blockWords count (octets.drop 4)

def compress (s : Words) (block : Bytes) : Words :=
  s.add (rounds roundConstants (blockWords 16 block) s)

def blocks : Nat -> Bytes -> Words -> Words
  | 0, _, s => s
  | count + 1, octets, s => blocks count (octets.drop 64) (compress s (octets.take 64))

/-- A one, and zeros up to the length in bits. -/
def padded (message : Bytes) : Bytes :=
  message ++ byte 0x80 :: (List.replicate ((119 - message.length % 64) % 64) 0 ++
    bigEndian 8 (8 * message.length))

end Sha256

/-- `hashlib.sha256`. -/
def sha256 : Sha256 where
  digest message :=
    let octets := Sha256.padded message
    (Sha256.blocks (octets.length / 64) octets .initial).octets
  digest_length _ := Sha256.Words.octets_length _

example : sha256.hexdigest ((str "abc").flatMap utf8Char) =
    str "ba7816bf8f01cfea414140de5dae2223b00361a396177a9cb410ff61f20015ad" := by
  decide +kernel

end Support
end EidolonSdk
