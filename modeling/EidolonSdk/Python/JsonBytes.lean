import EidolonSdk.Python.JsonReader

/-!
# Reading JSON from octets

{lit}`json.loads` takes octets as well: it looks at the first four of them to find
out how the text is encoded, and decodes it with lone surrogates let through.  A
text in UTF-8 that begins with two ASCII characters is recognised as one and
decoded as it was encoded.
-/

namespace EidolonSdk
namespace Python

/-!
## UTF-8 with surrogates
-/

/-- A character of this value, a surrogate included. -/
def passScalar (least n : Nat) : Option CodePoint :=
  if h : least ≤ n ∧ n < 0x110000 then some ⟨n, h.right⟩ else none

def passSettle (p : Pending) : Option (PyStr × Option Pending) :=
  if p.owed = 0 then
    (passScalar p.least p.value).map fun c => ([c], none)
  else
    some ([], some p)

def passOctet (pending : Option Pending) (b : Byte) :
    Option (PyStr × Option Pending) :=
  match pending with
  | none => (lead b).bind passSettle
  | some p =>
      (continuation b).bind fun bits =>
        passSettle ⟨p.owed - 1, p.value * 0x40 + bits, p.least⟩

/-- `bytes.decode("utf-8", "surrogatepass")`, behind a character begun. -/
def passFrom (pending : Option Pending) : Bytes -> Option PyStr
  | [] =>
      match pending with
      | none => some []
      | some _ => none
  | b :: rest =>
      match passOctet pending b with
      | none => none
      | some (emitted, next) =>
          (passFrom next rest).map fun tail => emitted ++ tail

section Pass

theorem passSettle_of_settle {p : Pending} {r : PyStr × Option Pending}
    (h : settle p = some r) : passSettle p = some r := by
  unfold settle at h
  unfold passSettle
  split
  · rename_i howed
    rw [if_pos howed] at h
    rcases Option.map_eq_some_iff.mp h with ⟨c, hc, heq⟩
    rcases scalar_eq_some.mp hc with ⟨hval, hleast, _⟩
    have hpass : passScalar p.least p.value = some c := by
      unfold passScalar
      rw [dif_pos ⟨hleast, hval ▸ c.isLt⟩]
      exact congrArg some (Fin.ext hval.symm)
    rw [hpass, ← heq]
    rfl
  · rename_i howed
    rw [if_neg howed] at h
    exact h

theorem passOctet_of_decodeOctet {pending : Option Pending} {b : Byte}
    {r : PyStr × Option Pending} (h : decodeOctet pending b = some r) :
    passOctet pending b = some r := by
  cases pending with
  | none =>
      rcases Option.bind_eq_some_iff.mp h with ⟨p, hlead, hsettle⟩
      exact Option.bind_eq_some_iff.mpr ⟨p, hlead, passSettle_of_settle hsettle⟩
  | some p =>
      rcases Option.bind_eq_some_iff.mp h with ⟨bits, hbits, hsettle⟩
      exact Option.bind_eq_some_iff.mpr ⟨bits, hbits, passSettle_of_settle hsettle⟩

/-- What is decoded strictly is decoded the same when surrogates pass. -/
theorem passFrom_of_decodeFrom {pending : Option Pending} {bytes : Bytes}
    {s : PyStr} (h : decodeFrom pending bytes = some s) :
    passFrom pending bytes = some s := by
  induction bytes generalizing pending s with
  | nil =>
      cases pending with
      | none => exact h
      | some p => cases h
  | cons b rest ih =>
      rw [decodeFrom] at h
      cases hstep : decodeOctet pending b with
      | none =>
          rw [hstep] at h
          cases h
      | some r =>
          rw [hstep] at h
          rcases Option.map_eq_some_iff.mp h with ⟨tail, htail, heq⟩
          rw [passFrom, passOctet_of_decodeOctet hstep]
          exact Option.map_eq_some_iff.mpr ⟨tail, ih htail, heq⟩

end Pass

/-!
## The wider encodings
-/

def codeUnit (high low : Byte) : Json.CodeUnit :=
  Fin.ofNat 0x10000 (high.val * 0x100 + low.val)

def codeUnits (bigEndian : Bool) : Bytes -> Option (List Json.CodeUnit)
  | [] => some []
  | [_] => none
  | a :: b :: rest =>
      (codeUnits bigEndian rest).map fun units =>
        (if bigEndian then codeUnit a b else codeUnit b a) :: units

/-- `bytes.decode` of UTF-16; halves of characters without their other half
pass. -/
def decodeUtf16 (bigEndian : Bool) (bytes : Bytes) : Option PyStr :=
  (codeUnits bigEndian bytes).map fun units =>
    Json.joinParts (units.map .escaped)

def wideValue (a b c d : Byte) : Nat :=
  ((a.val * 0x100 + b.val) * 0x100 + c.val) * 0x100 + d.val

/-- `bytes.decode` of UTF-32. -/
def decodeUtf32 (bigEndian : Bool) : Bytes -> Option PyStr
  | [] => some []
  | a :: b :: c :: d :: rest => do
      let first ← passScalar 0
        (if bigEndian then wideValue a b c d else wideValue d c b a)
      let tail ← decodeUtf32 bigEndian rest
      some (first :: tail)
  | _ => none

/-!
## Which encoding
-/

inductive Encoding where
  | utf8
  | utf8Sig
  | utf16 (bigEndian marked : Bool)
  | utf32 (bigEndian marked : Bool)
  deriving DecidableEq

def hasMark (mark : List Nat) (bytes : Bytes) : Bool :=
  mark.isPrefixOf (bytes.map Fin.val)

/-- `detect_encoding`: by a byte order mark, or else by where the zero octets
are. -/
def detectEncoding (bytes : Bytes) : Encoding :=
  if hasMark [0x00, 0x00, 0xFE, 0xFF] bytes then .utf32 true true
  else if hasMark [0xFF, 0xFE, 0x00, 0x00] bytes then .utf32 false true
  else if hasMark [0xFE, 0xFF] bytes then .utf16 true true
  else if hasMark [0xFF, 0xFE] bytes then .utf16 false true
  else if hasMark [0xEF, 0xBB, 0xBF] bytes then .utf8Sig
  else
    match bytes with
    | a :: b :: c :: d :: _ =>
        if a.val = 0 then
          if b.val = 0 then .utf32 true false else .utf16 true false
        else if b.val = 0 then
          if c.val = 0 ∧ d.val = 0 then .utf32 false false else .utf16 false false
        else .utf8
    | [a, b] =>
        if a.val = 0 then .utf16 true false
        else if b.val = 0 then .utf16 false false
        else .utf8
    | _ => .utf8

/-- `bytes.decode(encoding, "surrogatepass")`. -/
def Encoding.decode (bytes : Bytes) : Encoding -> Option PyStr
  | .utf8 => passFrom none bytes
  | .utf8Sig => passFrom none (bytes.drop 3)
  | .utf16 bigEndian marked =>
      decodeUtf16 bigEndian (if marked then bytes.drop 2 else bytes)
  | .utf32 bigEndian marked =>
      decodeUtf32 bigEndian (if marked then bytes.drop 4 else bytes)

namespace Json

/-- `json.loads` of octets. -/
def loadsBytes (hook : Hook) (bytes : Bytes) : Except PyException Json :=
  match (detectEncoding bytes).decode bytes with
  | some s => decode hook s
  | none => throw .unicodeDecodeError

theorem ends_loadsBytes {hook : Hook} (hhook : Refuses hook) (bytes : Bytes) :
    Logic.Ends (loadsBytes hook bytes) (fun _ => True)
      (fun e => e.isValueError = true) := by
  unfold loadsBytes
  split
  · rename_i s hs
    apply (ends_decode hhook s).imp fun _ h => h
    intro e he
    rw [he]
    rfl
  · rfl

theorem loadsBytes_strict {hook : Hook} (hhook : RefusesRepeats hook)
    {bytes : Bytes} {v : Json} (h : loadsBytes hook bytes = .ok v) :
    loadsBytes pairsHook bytes = .ok v ∧ v.all distinctKeys = true := by
  unfold loadsBytes at h ⊢
  split at h
  · exact decode_strict hhook h
  · cases h

/-- Two ASCII characters other than NUL in front are enough to recognise UTF-8. -/
theorem detectEncoding_ascii {a b : Byte} {rest : Bytes}
    (ha : 0 < a.val ∧ a.val < 0x80) (hb : 0 < b.val) :
    detectEncoding (a :: b :: rest) = .utf8 := by
  have hmark : forall (m : Nat) (mark : List Nat), a.val ≠ m ->
      hasMark (m :: mark) (a :: b :: rest) = false := by
    intro m mark hne
    unfold hasMark
    rw [List.map_cons, List.isPrefixOf_cons_cons, beq_eq_false_iff_ne.mpr (Ne.symm hne)]
    rfl
  unfold detectEncoding
  rw [hmark _ _ (by omega), hmark _ _ (by omega), hmark _ _ (by omega),
    hmark _ _ (by omega), hmark _ _ (by omega)]
  simp only [Bool.false_eq_true, if_false]
  split
  · rename_i heq
    cases heq
    rw [if_neg (by omega), if_neg (by omega)]
  · rename_i heq
    cases heq
    rw [if_neg (by omega), if_neg (by omega)]
  · rfl

/-- A text that begins with two ASCII characters is read from its octets as it is
read itself. -/
theorem loadsBytes_encoded {hook : Hook} {c d : CodePoint} {rest : PyStr}
    {bytes : Bytes} (hc : 0 < c.val ∧ c.val < 0x80) (hd : 0 < d.val ∧ d.val < 0x80)
    (h : encodeUtf8 (c :: d :: rest) = some bytes) :
    loadsBytes hook bytes = loads hook (c :: d :: rest) := by
  have hdecode : passFrom none bytes = some (c :: d :: rest) :=
    passFrom_of_decodeFrom (decodeUtf8_encodeUtf8 h)
  have hascii : forall x : CodePoint, x.val < 0x80 -> utf8Char x = [byte x.val] :=
    fun x hx => if_pos hx
  have hval : forall x : CodePoint, x.val < 0x80 -> (byte x.val).val = x.val :=
    fun x hx => Nat.mod_eq_of_lt (by omega)
  have hdetect : detectEncoding bytes = .utf8 := by
    rcases encodeUtf8_eq_some.mp h with ⟨_, hbytes⟩
    rw [← hbytes, List.flatMap_cons, List.flatMap_cons, hascii c hc.right,
      hascii d hd.right]
    apply detectEncoding_ascii
    · rw [hval c hc.right]
      exact hc
    · rw [hval d hd.right]
      exact hd.left
  have hmark : (c :: d :: rest).head? ≠ some (0xFEFF : CodePoint) := by
    intro heq
    have hlt := hc.right
    rw [Option.some.inj heq] at hlt
    exact absurd hlt (by decide)
  unfold loadsBytes loads
  rw [hdetect, if_neg hmark]
  show (match passFrom none bytes with
    | some s => decode hook s
    | none => _) = _
  rw [hdecode]

end Json
end Python
end EidolonSdk
