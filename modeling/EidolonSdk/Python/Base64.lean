import EidolonSdk.Python.Utf8

/-!
# URL-safe base64

Encoding writes three octets as four characters of the URL-safe alphabet and
pads the last group.  The reader is the lenient one of the standard library: it
skips every character outside both alphabets and stops at a completed pad, so
many texts stand for the same octets.  The encoded text without its padding
still determines the octets.
-/

namespace EidolonSdk
namespace Python

/-!
## The alphabet
-/

/-- The URL-safe character of a six-bit value. -/
def b64Char (n : Nat) : CodePoint :=
  Fin.ofNat 0x110000
    (if n < 26 then 0x41 + n
    else if n < 52 then 0x61 + (n - 26)
    else if n < 62 then 0x30 + (n - 52)
    else if n = 62 then 0x2D
    else 0x5F)

/-- The value of a character, in either alphabet. -/
def b64Value (c : CodePoint) : Option Nat :=
  if 0x41 ≤ c.val ∧ c.val ≤ 0x5A then some (c.val - 0x41)
  else if 0x61 ≤ c.val ∧ c.val ≤ 0x7A then some (c.val - 0x61 + 26)
  else if 0x30 ≤ c.val ∧ c.val ≤ 0x39 then some (c.val - 0x30 + 52)
  else if c.val = 0x2D ∨ c.val = 0x2B then some 62
  else if c.val = 0x5F ∨ c.val = 0x2F then some 63
  else none

def b64Pad : CodePoint :=
  codePoint '='

theorem b64Value_b64Char {n : Nat} (h : n < 64) :
    b64Value (b64Char n) = some n := by
  revert n
  decide

theorem b64Char_ne_pad (n : Nat) : b64Char n ≠ b64Pad := by
  intro h
  have hval : (b64Char n).val = 0x3D := by
    rw [h]
    rfl
  unfold b64Char at hval
  simp only [Fin.val_ofNat] at hval
  split at hval <;> [skip; split at hval <;> [skip; split at hval <;>
    [skip; split at hval]]] <;> omega

/-!
## Encoding
-/

def b64Digits : Bytes -> PyStr
  | [] => []
  | [a] => [b64Char (a.val / 4), b64Char (a.val % 4 * 16)]
  | [a, b] =>
      [b64Char (a.val / 4), b64Char (a.val % 4 * 16 + b.val / 16),
        b64Char (b.val % 16 * 4)]
  | a :: b :: c :: rest =>
      b64Char (a.val / 4) :: b64Char (a.val % 4 * 16 + b.val / 16) ::
        b64Char (b.val % 16 * 4 + c.val / 64) :: b64Char (c.val % 64) ::
        b64Digits rest

def b64Padding (length : Nat) : PyStr :=
  List.replicate ((3 - length % 3) % 3) b64Pad

/-- `base64.urlsafe_b64encode`. -/
def urlsafeB64Encode (bytes : Bytes) : PyStr :=
  b64Digits bytes ++ b64Padding bytes.length

/-- Encoding followed by `rstrip("=")`. -/
def urlsafeB64Unpadded (bytes : Bytes) : PyStr :=
  (urlsafeB64Encode bytes).rdropWhile fun c => c == b64Pad

theorem mem_b64Digits :
    forall {bytes : Bytes} {c : CodePoint},
      c ∈ b64Digits bytes -> exists n, c = b64Char n
  | [], _, h => by cases h
  | [a], _, h => by
      simp only [b64Digits, List.mem_cons, List.not_mem_nil, or_false] at h
      rcases h with rfl | rfl
      · exact ⟨_, rfl⟩
      · exact ⟨_, rfl⟩
  | [a, b], _, h => by
      simp only [b64Digits, List.mem_cons, List.not_mem_nil, or_false] at h
      rcases h with rfl | rfl | rfl
      · exact ⟨_, rfl⟩
      · exact ⟨_, rfl⟩
      · exact ⟨_, rfl⟩
  | a :: b :: c :: rest, _, h => by
      simp only [b64Digits, List.mem_cons] at h
      rcases h with rfl | rfl | rfl | rfl | h
      · exact ⟨_, rfl⟩
      · exact ⟨_, rfl⟩
      · exact ⟨_, rfl⟩
      · exact ⟨_, rfl⟩
      · exact mem_b64Digits h

theorem urlsafeB64Unpadded_eq (bytes : Bytes) :
    urlsafeB64Unpadded bytes = b64Digits bytes := by
  have hpad : forall c, c ∈ (b64Padding bytes.length).reverse ->
      (c == b64Pad) = true := by
    intro c hc
    rw [List.mem_reverse] at hc
    rw [List.eq_of_mem_replicate hc]
    exact beq_self_eq_true _
  have hdigits : (b64Digits bytes).rdropWhile (fun c => c == b64Pad) =
      b64Digits bytes := by
    rw [List.rdropWhile_eq_self_iff]
    intro hne hlast
    rcases mem_b64Digits (List.getLast_mem hne) with ⟨n, hn⟩
    rw [hn] at hlast
    exact b64Char_ne_pad n (eq_of_beq hlast)
  unfold urlsafeB64Unpadded urlsafeB64Encode
  unfold List.rdropWhile at hdigits ⊢
  rw [List.reverse_append, List.dropWhile_append_of_pos hpad, hdigits]

/-!
## The lenient reader
-/

/-- `binascii.a2b_base64`: `position` counts the characters of the open group,
`left` holds the bits not yet written and `pads` the padding seen in it. -/
def decodeQuads (position left pads : Nat) : PyStr -> Option Bytes
  | [] => if position = 0 then some [] else none
  | c :: rest =>
      if c = b64Pad then
        if 2 ≤ position then
          if 4 ≤ position + (pads + 1) then some []
          else decodeQuads position left (pads + 1) rest
        else
          decodeQuads position left pads rest
      else
        match b64Value c with
        | none => decodeQuads position left pads rest
        | some v =>
            match position with
            | 0 => decodeQuads 1 v 0 rest
            | 1 =>
                (decodeQuads 2 (v % 16) 0 rest).map fun tail =>
                  byte (left * 4 + v / 16) :: tail
            | 2 =>
                (decodeQuads 3 (v % 4) 0 rest).map fun tail =>
                  byte (left * 16 + v / 4) :: tail
            | _ =>
                (decodeQuads 0 0 0 rest).map fun tail =>
                  byte (left * 64 + v) :: tail

/-- `base64.urlsafe_b64decode` on a string; `none` stands for the `ValueError`
of a non-ASCII string or of an incomplete group. -/
def urlsafeB64Decode (s : PyStr) : Option Bytes :=
  if s.all fun c => c.val < 0x80 then decodeQuads 0 0 0 s else none

/-- The padding `"=" * (-length % 4)` a reader adds back. -/
def b64Fill (length : Nat) : PyStr :=
  List.replicate ((4 - length % 4) % 4) b64Pad

section Step

variable {c : CodePoint} {v left pads : Nat}

theorem ne_pad_of_value (h : b64Value c = some v) : c ≠ b64Pad := by
  intro heq
  rcases heq with rfl
  exact nomatch h

theorem decodeQuads_zero (h : b64Value c = some v) (rest : PyStr) :
    decodeQuads 0 left pads (c :: rest) = decodeQuads 1 v 0 rest := by
  rw [decodeQuads, if_neg (ne_pad_of_value h), h]
  rfl

theorem decodeQuads_one (h : b64Value c = some v) (rest : PyStr) :
    decodeQuads 1 left pads (c :: rest) =
      (decodeQuads 2 (v % 16) 0 rest).map fun tail =>
        byte (left * 4 + v / 16) :: tail := by
  rw [decodeQuads, if_neg (ne_pad_of_value h), h]
  rfl

theorem decodeQuads_two (h : b64Value c = some v) (rest : PyStr) :
    decodeQuads 2 left pads (c :: rest) =
      (decodeQuads 3 (v % 4) 0 rest).map fun tail =>
        byte (left * 16 + v / 4) :: tail := by
  rw [decodeQuads, if_neg (ne_pad_of_value h), h]
  rfl

theorem decodeQuads_three (h : b64Value c = some v) (rest : PyStr) :
    decodeQuads 3 left pads (c :: rest) =
      (decodeQuads 0 0 0 rest).map fun tail =>
        byte (left * 64 + v) :: tail := by
  rw [decodeQuads, if_neg (ne_pad_of_value h), h]
  rfl

end Step

/-- Reading the unpadded text, filled up again, returns the octets. -/
theorem decodeQuads_b64Digits :
    forall bytes : Bytes,
      decodeQuads 0 0 0 (b64Digits bytes ++ b64Fill (b64Digits bytes).length) =
        some bytes
  | [] => rfl
  | [a] => by
      have ha := a.isLt
      simp only [b64Digits, List.cons_append, List.nil_append]
      rw [decodeQuads_zero (b64Value_b64Char (by omega)),
        decodeQuads_one (b64Value_b64Char (by omega))]
      simp [b64Fill, decodeQuads]
      exact byte_eq (by omega)
  | [a, b] => by
      have ha := a.isLt
      have hb := b.isLt
      simp only [b64Digits, List.cons_append, List.nil_append]
      rw [decodeQuads_zero (b64Value_b64Char (by omega)),
        decodeQuads_one (b64Value_b64Char (by omega)),
        decodeQuads_two (b64Value_b64Char (by omega))]
      simp [b64Fill, decodeQuads]
      exact ⟨byte_eq (by omega), byte_eq (by omega)⟩
  | a :: b :: c :: rest => by
      have ha := a.isLt
      have hb := b.isLt
      have hc := c.isLt
      have hfill : b64Fill (b64Digits (a :: b :: c :: rest)).length =
          b64Fill (b64Digits rest).length := by
        simp only [b64Fill, b64Digits, List.length_cons]
        congr 1
        omega
      rw [hfill]
      simp only [b64Digits, List.cons_append]
      rw [decodeQuads_zero (b64Value_b64Char (by omega)),
        decodeQuads_one (b64Value_b64Char (by omega)),
        decodeQuads_two (b64Value_b64Char (by omega)),
        decodeQuads_three (b64Value_b64Char (by omega)),
        decodeQuads_b64Digits rest]
      simp only [Option.map_some, Option.some.injEq, List.cons.injEq, and_true]
      exact ⟨byte_eq (by omega), byte_eq (by omega), byte_eq (by omega)⟩

theorem b64Digits_inj {xs ys : Bytes} (h : b64Digits xs = b64Digits ys) :
    xs = ys := by
  have hdecode : some xs = some ys := by
    rw [← decodeQuads_b64Digits xs, ← decodeQuads_b64Digits ys, h]
  exact Option.some.inj hdecode

theorem urlsafeB64Unpadded_inj {xs ys : Bytes}
    (h : urlsafeB64Unpadded xs = urlsafeB64Unpadded ys) :
    xs = ys := by
  rw [urlsafeB64Unpadded_eq, urlsafeB64Unpadded_eq] at h
  exact b64Digits_inj h

theorem b64Char_ascii (n : Nat) : (b64Char n).val < 0x80 := by
  unfold b64Char
  simp only [Fin.val_ofNat]
  split <;> [skip; split <;> [skip; split <;> [skip; split]]] <;> omega

/-- What is encoded without padding is read back once the padding is filled
up. -/
theorem urlsafeB64Decode_unpadded (bytes : Bytes) :
    urlsafeB64Decode (urlsafeB64Unpadded bytes ++
      b64Fill (urlsafeB64Unpadded bytes).length) = some bytes := by
  have hascii : (b64Digits bytes ++ b64Fill (b64Digits bytes).length).all
      (fun c => decide (c.val < 0x80)) = true := by
    rw [List.all_eq_true]
    intro c hc
    rw [decide_eq_true_eq]
    cases List.mem_append.mp hc with
    | inl hc =>
        rcases mem_b64Digits hc with ⟨n, rfl⟩
        exact b64Char_ascii n
    | inr hc =>
        rw [List.eq_of_mem_replicate hc]
        decide
  unfold urlsafeB64Decode
  rw [urlsafeB64Unpadded_eq, if_pos hascii]
  exact decodeQuads_b64Digits bytes

end Python
end EidolonSdk
