import EidolonSdk.Python.Base64
import EidolonSdk.Python.Interpreter
import EidolonSdk.Support.Sha256

/-!
# Keys and signatures in DER

A signature is a pair of numbers, each in as many octets as it takes.  Reading
takes the one form a pair has and nothing else.  A key is a point behind a fixed
header, and PEM is a DER text in lines.
-/

namespace EidolonSdk
namespace Support

open Python

/-!
## Numbers
-/

/-- The octets of a number, the bit of the sign among them. -/
def integerLength (n : Nat) : Nat := (Nat.log2 n + 1) / 8 + 1

def derInteger (n : Nat) : Bytes :=
  2 :: byte (integerLength n) :: bigEndian (integerLength n) n

def readInteger : Bytes -> Option (Nat × Bytes)
  | tag :: length :: rest =>
      if tag = 2 ∧ length.val ≤ rest.length then
        some (fromBytesBig (rest.take length.val), rest.drop length.val)
      else none
  | _ => none

theorem integerLength_lt {n : Nat} (h : n < 256 ^ 32) : integerLength n < 34 := by
  unfold integerLength
  have hlog : n.log2 < 256 := by
    by_cases hzero : n = 0
    · rw [hzero]
      decide
    · rw [Nat.log2_lt hzero]
      exact h.trans_eq (by decide)
  omega

theorem lt_integerLength (n : Nat) : n < 256 ^ integerLength n := by
  have hbits : n.log2 + 1 ≤ 8 * integerLength n := by
    unfold integerLength
    omega
  calc n < 2 ^ (n.log2 + 1) := Nat.lt_log2_self
    _ ≤ 2 ^ (8 * integerLength n) := Nat.pow_le_pow_right (by decide) hbits
    _ = 256 ^ integerLength n := Nat.pow_mul 2 8 _

/-- A number is read back, and what follows it is left. -/
theorem readInteger_derInteger {n : Nat} (h : n < 256 ^ 32) (rest : Bytes) :
    readInteger (derInteger n ++ rest) = some (n, rest) := by
  have hval : (byte (integerLength n)).val = integerLength n := by
    have hlt := integerLength_lt h
    rw [val_byte]
    omega
  have hlength := bigEndian_length (integerLength n) n
  have hroom : integerLength n ≤ (bigEndian (integerLength n) n ++ rest).length := by
    rw [List.length_append, hlength]
    omega
  rw [derInteger, List.cons_append, List.cons_append]
  unfold readInteger
  dsimp only
  rw [hval, if_pos ⟨rfl, hroom⟩, List.take_left' hlength, List.drop_left' hlength,
    fromBytesBig_bigEndian, Nat.mod_eq_of_lt (lt_integerLength n)]

/-!
## Signatures
-/

/-- {lit}`encode_dss_signature`, of numbers that take less than 128 octets. -/
def derSignature (numbers : Nat × Nat) : Bytes :=
  let body := derInteger numbers.fst ++ derInteger numbers.snd
  0x30 :: byte body.length :: body

def readSignature (der : Bytes) : Option (Nat × Nat) := do
  let (r, rest) ← readInteger (der.drop 2)
  let (s, _) ← readInteger rest
  pure (r, s)

/-- {lit}`decode_dss_signature`.  A pair has one form only. -/
def decodeDssSignature (der : Bytes) : Except PyException (Nat × Nat) :=
  match readSignature der with
  | some numbers =>
      if derSignature numbers = der then .ok numbers else .error .valueError
  | none => .error .valueError

theorem decodeDssSignature_derSignature {numbers : Nat × Nat}
    (hr : numbers.fst < 256 ^ 32) (hs : numbers.snd < 256 ^ 32) :
    decodeDssSignature (derSignature numbers) = .ok numbers := by
  have hread : readSignature (derSignature numbers) = some numbers := by
    show (readInteger (derInteger numbers.fst ++ derInteger numbers.snd) >>= _) = _
    rw [readInteger_derInteger hr, ← List.append_nil (derInteger numbers.snd)]
    show (readInteger (derInteger numbers.snd ++ []) >>= _) = _
    rw [readInteger_derInteger hs]
    rfl
  unfold decodeDssSignature
  rw [hread]
  exact if_pos rfl

theorem derSignature_inj {numbers other : Nat × Nat}
    (hr : numbers.fst < 256 ^ 32) (hs : numbers.snd < 256 ^ 32)
    (hr' : other.fst < 256 ^ 32) (hs' : other.snd < 256 ^ 32)
    (h : derSignature numbers = derSignature other) : numbers = other := by
  have hread := decodeDssSignature_derSignature hr hs
  rw [h, decodeDssSignature_derSignature hr' hs'] at hread
  exact (Except.ok.inj hread).symm

/-!
## A key that signed one text
-/

/-- The one signature a key made, and the numbers it is of. -/
structure OneSignature where
  signed : Bytes
  numbers : Nat × Nat
  first_lt : numbers.fst < 256 ^ 32
  second_lt : numbers.snd < 256 ^ 32
  ne_least : numbers ≠ (1, 1)

namespace OneSignature

variable (only : OneSignature)

/-- What was never signed has the least pair. -/
def numbersOf (message : Bytes) : Nat × Nat :=
  if message = only.signed then only.numbers else (1, 1)

def sign (message : Bytes) : Bytes :=
  derSignature (only.numbersOf message)

theorem numbersOf_signed : only.numbersOf only.signed = only.numbers := by
  unfold numbersOf
  rw [if_pos rfl]

theorem numbersOf_lt (message : Bytes) :
    (only.numbersOf message).fst < 256 ^ 32 ∧
      (only.numbersOf message).snd < 256 ^ 32 := by
  unfold numbersOf
  split
  · exact ⟨only.first_lt, only.second_lt⟩
  · exact ⟨by decide, by decide⟩

theorem decode_sign (message : Bytes) :
    decodeDssSignature (only.sign message) = .ok (only.numbersOf message) :=
  decodeDssSignature_derSignature (only.numbersOf_lt message).left
    (only.numbersOf_lt message).right

/-- The signature of the text is that of no other. -/
theorem sign_signed_eq_iff {message : Bytes} :
    only.sign only.signed = only.sign message <-> message = only.signed := by
  constructor
  · intro h
    have hnumbers := derSignature_inj (only.numbersOf_lt _).left
      (only.numbersOf_lt _).right (only.numbersOf_lt _).left
      (only.numbersOf_lt _).right h
    rw [numbersOf_signed] at hnumbers
    unfold numbersOf at hnumbers
    split at hnumbers
    · assumption
    · exact absurd hnumbers only.ne_least
  · intro h
    rw [h]

end OneSignature

/-!
## Keys
-/

/-- A key on P-256 as {lit}`SubjectPublicKeyInfo`. -/
def spkiDer (point : Nat × Nat) : Bytes :=
  bigEndian 27 0x3059301306072a8648ce3d020106082a8648ce3d03010703420004 ++
    bigEndian 32 point.fst ++ bigEndian 32 point.snd

/-- The standard alphabet, in lines of 64 characters. -/
def pemLines : Nat -> PyStr -> PyStr
  | 0, _ => []
  | lines + 1, digits =>
      (digits.take 64).map (fun c =>
        if c = codePoint '-' then codePoint '+'
        else if c = codePoint '_' then codePoint '/'
        else c) ++ codePoint '\n' :: pemLines lines (digits.drop 64)

def pem (label : String) (der : Bytes) : PyStr :=
  str "-----BEGIN " ++ str label ++ str "-----\n" ++
    pemLines ((der.length + 47) / 48) (urlsafeB64Encode der) ++
    str "-----END " ++ str label ++ str "-----\n"

end Support
end EidolonSdk
