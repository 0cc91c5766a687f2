import EidolonSdk.Coding.Separated
import EidolonSdk.Python.Text

/-!
# UTF-8

The codec behind `str.encode` and `bytes.decode`.  Encoding refuses lone
surrogates; decoding is strict and refuses overlong forms, encoded surrogates
and anything past the last code point.  Either undoes the other.
-/

namespace EidolonSdk
namespace Python

abbrev Byte := Fin 256

abbrev Bytes := List Byte

instance neZeroBytes : @NeZero Nat Zero.ofOfNat0 256 := ⟨by decide⟩

/-- The byte of the value `n`, taken modulo 256. -/
def byte (n : Nat) : Byte :=
  Fin.ofNat 256 n

@[simp] theorem val_byte (n : Nat) : (byte n).val = n % 256 := rfl

theorem byte_eq {n : Nat} {b : Byte} (h : n = b.val) : byte n = b := by
  subst h
  exact Fin.ext (Nat.mod_eq_of_lt b.isLt)

/-!
## Encoding
-/

/-- The octets of one code point. -/
def utf8Char (c : CodePoint) : Bytes :=
  if c.val < 0x80 then
    [byte c.val]
  else if c.val < 0x800 then
    [byte (0xC0 + c.val / 0x40), byte (0x80 + c.val % 0x40)]
  else if c.val < 0x10000 then
    [byte (0xE0 + c.val / 0x1000), byte (0x80 + c.val / 0x40 % 0x40),
      byte (0x80 + c.val % 0x40)]
  else
    [byte (0xF0 + c.val / 0x40000), byte (0x80 + c.val / 0x1000 % 0x40),
      byte (0x80 + c.val / 0x40 % 0x40), byte (0x80 + c.val % 0x40)]

/-- `str.encode("utf-8")`; `none` stands for `UnicodeEncodeError`. -/
def encodeUtf8 (s : PyStr) : Option Bytes :=
  if Encodable s then some (s.flatMap utf8Char) else none

theorem encodeUtf8_of_encodable {s : PyStr} (h : Encodable s) :
    encodeUtf8 s = some (s.flatMap utf8Char) := by
  simp [encodeUtf8, h]

theorem encodeUtf8_eq_some {s : PyStr} {bytes : Bytes} :
    encodeUtf8 s = some bytes <->
      Encodable s ∧ s.flatMap utf8Char = bytes := by
  unfold encodeUtf8
  by_cases h : Encodable s
  · simp [h]
  · simp [h]

theorem encodeUtf8_eq_none {s : PyStr} :
    encodeUtf8 s = none <-> ¬ Encodable s := by
  unfold encodeUtf8
  by_cases h : Encodable s
  · simp [h]
  · simp [h]

/-!
## Decoding
-/

/-- The six payload bits of a continuation octet. -/
def continuation (b : Byte) : Option Nat :=
  if 0x80 ≤ b.val ∧ b.val ≤ 0xBF then some (b.val - 0x80) else none

/-- The code point of the value `n`, unless UTF-8 may not carry it in a form
whose least value is `least`. -/
def scalar (least n : Nat) : Option CodePoint :=
  if h : least ≤ n ∧ n < 0x110000 ∧ ¬ (0xD800 ≤ n ∧ n ≤ 0xDFFF) then
    some ⟨n, h.right.left⟩
  else
    none

/-- A character begun and not yet complete: the continuation octets it still
owes, the bits read so far and the least value its form may carry. -/
structure Pending where
  owed : Nat
  value : Nat
  least : Nat

/-- What a first octet announces. -/
def lead (b : Byte) : Option Pending :=
  if b.val < 0x80 then some ⟨0, b.val, 0⟩
  else if b.val < 0xC0 then none
  else if b.val < 0xE0 then some ⟨1, b.val - 0xC0, 0x80⟩
  else if b.val < 0xF0 then some ⟨2, b.val - 0xE0, 0x800⟩
  else if b.val < 0xF8 then some ⟨3, b.val - 0xF0, 0x10000⟩
  else none

/-- Emit a complete character, or keep waiting for its next octet. -/
def settle (p : Pending) : Option (PyStr × Option Pending) :=
  if p.owed = 0 then
    (scalar p.least p.value).map fun c => ([c], none)
  else
    some ([], some p)

def decodeOctet (pending : Option Pending) (b : Byte) :
    Option (PyStr × Option Pending) :=
  match pending with
  | none => (lead b).bind settle
  | some p =>
      (continuation b).bind fun bits =>
        settle ⟨p.owed - 1, p.value * 0x40 + bits, p.least⟩

def decodeFrom (pending : Option Pending) : Bytes -> Option PyStr
  | [] =>
      match pending with
      | none => some []
      | some _ => none
  | b :: rest =>
      match decodeOctet pending b with
      | none => none
      | some (emitted, next) =>
          (decodeFrom next rest).map fun tail => emitted ++ tail

/-- `bytes.decode("utf-8")`; `none` stands for `UnicodeDecodeError`. -/
def decodeUtf8 (bytes : Bytes) : Option PyStr :=
  decodeFrom none bytes

theorem continuation_byte {n : Nat} (h : n < 0x40) :
    continuation (byte (0x80 + n)) = some n := by
  have hval : (byte (0x80 + n)).val = 0x80 + n := Nat.mod_eq_of_lt (by omega)
  unfold continuation
  rw [hval, if_pos (by omega), Nat.add_sub_cancel_left]

theorem decodeFrom_continuation {p : Pending} {n : Nat} (rest : Bytes)
    (h : n < 0x40) (howed : p.owed ≠ 1) (hpos : p.owed ≠ 0) :
    decodeFrom (some p) (byte (0x80 + n) :: rest) =
      decodeFrom (some ⟨p.owed - 1, p.value * 0x40 + n, p.least⟩) rest := by
  have hstep : decodeOctet (some p) (byte (0x80 + n)) =
      some ([], some ⟨p.owed - 1, p.value * 0x40 + n, p.least⟩) := by
    have hne : p.owed - 1 ≠ 0 := by omega
    simp only [decodeOctet, continuation_byte h, Option.bind_some, settle]
    rw [if_neg hne]
  rw [decodeFrom, hstep]
  simp

theorem decodeFrom_last {p : Pending} {n : Nat} {c : CodePoint} (rest : Bytes)
    (h : n < 0x40) (howed : p.owed = 1)
    (hc : scalar p.least (p.value * 0x40 + n) = some c) :
    decodeFrom (some p) (byte (0x80 + n) :: rest) =
      (decodeFrom none rest).map fun tail => c :: tail := by
  have hstep : decodeOctet (some p) (byte (0x80 + n)) = some ([c], none) := by
    simp only [decodeOctet, continuation_byte h, Option.bind_some, settle,
      howed, hc]
    rfl
  rw [decodeFrom, hstep]
  rfl

theorem decodeFrom_lead {b : Byte} {p : Pending} (rest : Bytes)
    (hlead : lead b = some p) (howed : p.owed ≠ 0) :
    decodeFrom none (b :: rest) = decodeFrom (some p) rest := by
  have hstep : decodeOctet none b = some ([], some p) := by
    simp only [decodeOctet, hlead, Option.bind_some, settle]
    rw [if_neg howed]
  rw [decodeFrom, hstep]
  simp

theorem scalar_val {c : CodePoint} {least n : Nat} (hsur : ¬ Surrogate c)
    (hleast : least ≤ c.val) (hn : n = c.val) :
    scalar least n = some c := by
  subst hn
  unfold scalar
  rw [dif_pos ⟨hleast, c.isLt, hsur⟩]

/-- Decoding reads one encoded character back and leaves the rest alone. -/
theorem decodeUtf8_utf8Char_append {c : CodePoint} (hsur : ¬ Surrogate c)
    (rest : Bytes) :
    decodeUtf8 (utf8Char c ++ rest) =
      (decodeUtf8 rest).map (fun tail => c :: tail) := by
  have hc : c.val < 0x110000 := c.isLt
  unfold utf8Char decodeUtf8
  by_cases h1 : c.val < 0x80
  · have hval : (byte c.val).val = c.val := Nat.mod_eq_of_lt (by omega)
    have hstep : decodeOctet none (byte c.val) = some ([c], none) := by
      simp only [decodeOctet, lead, hval, h1, if_true, Option.bind_some, settle]
      rw [scalar_val hsur (Nat.zero_le _) rfl]
      rfl
    rw [if_pos h1, List.singleton_append, decodeFrom, hstep]
    rfl
  · rw [if_neg h1]
    by_cases h2 : c.val < 0x800
    · have hlead : lead (byte (0xC0 + c.val / 0x40)) =
          some ⟨1, c.val / 0x40, 0x80⟩ := by
        have hval : (byte (0xC0 + c.val / 0x40)).val = 0xC0 + c.val / 0x40 :=
          Nat.mod_eq_of_lt (by omega)
        unfold lead
        rw [hval, if_neg (by omega), if_neg (by omega), if_pos (by omega),
          Nat.add_sub_cancel_left]
      rw [if_pos h2, List.cons_append, List.singleton_append,
        decodeFrom_lead _ hlead (by simp)]
      exact decodeFrom_last rest (by omega) rfl
        (scalar_val hsur (by simp; omega) (by simp; omega))
    · rw [if_neg h2]
      by_cases h3 : c.val < 0x10000
      · have hlead : lead (byte (0xE0 + c.val / 0x1000)) =
            some ⟨2, c.val / 0x1000, 0x800⟩ := by
          have hval : (byte (0xE0 + c.val / 0x1000)).val =
              0xE0 + c.val / 0x1000 := Nat.mod_eq_of_lt (by omega)
          unfold lead
          rw [hval, if_neg (by omega), if_neg (by omega), if_neg (by omega),
            if_pos (by omega), Nat.add_sub_cancel_left]
        rw [if_pos h3, List.cons_append, List.cons_append,
          List.singleton_append, decodeFrom_lead _ hlead (by simp),
          decodeFrom_continuation _ (by omega) (by simp) (by simp)]
        exact decodeFrom_last rest (by omega) rfl
          (scalar_val hsur (by simp; omega) (by simp; omega))
      · have hlead : lead (byte (0xF0 + c.val / 0x40000)) =
            some ⟨3, c.val / 0x40000, 0x10000⟩ := by
          have hval : (byte (0xF0 + c.val / 0x40000)).val =
              0xF0 + c.val / 0x40000 := Nat.mod_eq_of_lt (by omega)
          unfold lead
          rw [hval, if_neg (by omega), if_neg (by omega), if_neg (by omega),
            if_neg (by omega), if_pos (by omega), Nat.add_sub_cancel_left]
        rw [if_neg h3, List.cons_append, List.cons_append, List.cons_append,
          List.singleton_append, decodeFrom_lead _ hlead (by simp),
          decodeFrom_continuation _ (by omega) (by simp) (by simp),
          decodeFrom_continuation _ (by omega) (by simp) (by simp)]
        exact decodeFrom_last rest (by omega) rfl
          (scalar_val hsur (by simp; omega) (by simp; omega))

theorem decodeUtf8_flatMap {s : PyStr} (h : Encodable s) :
    decodeUtf8 (s.flatMap utf8Char) = some s := by
  induction s with
  | nil => rfl
  | cons c rest ih =>
      rcases encodable_cons.mp h with ⟨hc, hrest⟩
      rw [List.flatMap_cons, decodeUtf8_utf8Char_append hc, ih hrest]
      rfl

theorem decodeUtf8_encodeUtf8 {s : PyStr} {bytes : Bytes}
    (h : encodeUtf8 s = some bytes) :
    decodeUtf8 bytes = some s := by
  rcases encodeUtf8_eq_some.mp h with ⟨hs, rfl⟩
  exact decodeUtf8_flatMap hs

theorem encodeUtf8_inj {s t : PyStr} {bytes : Bytes}
    (hs : encodeUtf8 s = some bytes) (ht : encodeUtf8 t = some bytes) :
    s = t := by
  have hdecode : some s = some t := by
    rw [← decodeUtf8_encodeUtf8 hs, decodeUtf8_encodeUtf8 ht]
  exact Option.some.inj hdecode

/-!
## Only encodings are decoded
-/

theorem continuation_eq_some {b : Byte} {bits : Nat} :
    continuation b = some bits <-> b.val = 0x80 + bits ∧ bits < 0x40 := by
  unfold continuation
  split
  · rename_i h
    rw [Option.some.injEq]
    omega
  · rename_i h
    apply iff_of_false nofun
    omega

theorem scalar_eq_some {least n : Nat} {c : CodePoint} :
    scalar least n = some c <-> c.val = n ∧ least ≤ n ∧ ¬ Surrogate c := by
  unfold scalar
  split
  · rename_i h
    rw [Option.some.injEq]
    constructor
    · intro heq
      subst heq
      exact ⟨rfl, h.left, h.right.right⟩
    · intro heq
      exact Fin.ext heq.left.symm
  · rename_i h
    apply iff_of_false nofun
    intro heq
    rcases heq with ⟨rfl, hleast, hsur⟩
    exact h ⟨hleast, c.isLt, hsur⟩

/-- A character that waits for one more octet gets it. -/
theorem decodeFrom_owes_one {value least : Nat} {bytes : Bytes} {s : PyStr}
    (h : decodeFrom (some ⟨1, value, least⟩) bytes = some s) :
    exists b rest bits c tail, bytes = b :: rest ∧ b.val = 0x80 + bits ∧
      bits < 0x40 ∧ c.val = value * 0x40 + bits ∧ least ≤ c.val ∧
      ¬ Surrogate c ∧ s = c :: tail ∧ decodeFrom none rest = some tail := by
  cases bytes with
  | nil => cases h
  | cons b rest =>
      cases hbits : continuation b with
      | none => simp [decodeFrom, decodeOctet, hbits] at h
      | some bits =>
          cases hscalar : scalar least (value * 0x40 + bits) with
          | none => simp [decodeFrom, decodeOctet, settle, hbits, hscalar] at h
          | some c =>
              rcases continuation_eq_some.mp hbits with ⟨hb, hlt⟩
              rcases scalar_eq_some.mp hscalar with ⟨hc, hleast, hsur⟩
              simp only [decodeFrom, decodeOctet, settle, hbits, hscalar,
                Option.bind_some, Nat.sub_self, if_true, Option.map_some,
                Option.map_eq_some_iff] at h
              rcases h with ⟨tail, htail, heq⟩
              exact ⟨b, rest, bits, c, tail, rfl, hb, hlt, hc, hc ▸ hleast, hsur,
                heq.symm, htail⟩

/-- One that waits for more than one octet gets its next one. -/
theorem decodeFrom_owes_more {owed value least : Nat} {bytes : Bytes}
    {s : PyStr}
    (h : decodeFrom (some ⟨owed + 2, value, least⟩) bytes = some s) :
    exists b rest bits, bytes = b :: rest ∧ b.val = 0x80 + bits ∧
      bits < 0x40 ∧
      decodeFrom (some ⟨owed + 1, value * 0x40 + bits, least⟩) rest =
        some s := by
  cases bytes with
  | nil => cases h
  | cons b rest =>
      cases hbits : continuation b with
      | none => simp [decodeFrom, decodeOctet, hbits] at h
      | some bits =>
          rcases continuation_eq_some.mp hbits with ⟨hb, hlt⟩
          refine ⟨b, rest, bits, rfl, hb, hlt, ?_⟩
          simpa [decodeFrom, decodeOctet, settle, hbits] using h

theorem lead_eq_some {b : Byte} {p : Pending} (h : lead b = some p) :
    (b.val < 0x80 ∧ p = ⟨0, b.val, 0⟩) ∨
      (0xC0 ≤ b.val ∧ b.val < 0xE0 ∧ p = ⟨1, b.val - 0xC0, 0x80⟩) ∨
      (0xE0 ≤ b.val ∧ b.val < 0xF0 ∧ p = ⟨2, b.val - 0xE0, 0x800⟩) ∨
      (0xF0 ≤ b.val ∧ b.val < 0xF8 ∧ p = ⟨3, b.val - 0xF0, 0x10000⟩) := by
  unfold lead at h
  split at h
  · rename_i hlow
    exact Or.inl ⟨hlow, (Option.some.inj h).symm⟩
  · split at h
    · cases h
    · split at h
      · rename_i hlow hhigh
        exact Or.inr (Or.inl ⟨not_lt.mp hlow, hhigh, (Option.some.inj h).symm⟩)
      · split at h
        · rename_i hlow hhigh
          exact Or.inr (Or.inr (Or.inl
            ⟨not_lt.mp hlow, hhigh, (Option.some.inj h).symm⟩))
        · split at h
          · rename_i hlow hhigh
            exact Or.inr (Or.inr (Or.inr
              ⟨not_lt.mp hlow, hhigh, (Option.some.inj h).symm⟩))
          · cases h

/-- What is decoded first is one encoded character. -/
theorem decodeFrom_none_cons {b : Byte} {rest : Bytes} {s : PyStr}
    (h : decodeFrom none (b :: rest) = some s) :
    exists c tail left, s = c :: tail ∧ ¬ Surrogate c ∧
      b :: rest = utf8Char c ++ left ∧ decodeFrom none left = some tail := by
  cases hlead : lead b with
  | none => simp [decodeFrom, decodeOctet, hlead] at h
  | some p =>
      rcases lead_eq_some hlead with ⟨hlow, rfl⟩ | ⟨hlow, hhigh, rfl⟩ |
        ⟨hlow, hhigh, rfl⟩ | ⟨hlow, hhigh, rfl⟩
      · cases hscalar : scalar 0 b.val with
        | none => simp [decodeFrom, decodeOctet, settle, hlead, hscalar] at h
        | some c =>
            rcases scalar_eq_some.mp hscalar with ⟨hc, _, hsur⟩
            simp only [decodeFrom, decodeOctet, settle, hlead, hscalar,
              Option.bind_some, if_true, Option.map_some,
              Option.map_eq_some_iff] at h
            rcases h with ⟨tail, htail, heq⟩
            refine ⟨c, tail, rest, heq.symm, hsur, ?_, htail⟩
            unfold utf8Char
            rw [if_pos (by omega), byte_eq hc]
            rfl
      · rw [decodeFrom_lead rest hlead (by simp)] at h
        rcases decodeFrom_owes_one h with
          ⟨b1, left, x, c, tail, rfl, hb1, hx, hc, hleast, hsur, heq, htail⟩
        refine ⟨c, tail, left, heq, hsur, ?_, htail⟩
        unfold utf8Char
        rw [if_neg (by omega), if_pos (by omega),
          @byte_eq (0xC0 + c.val / 0x40) b (by omega),
          @byte_eq (0x80 + c.val % 0x40) b1 (by omega)]
        rfl
      · rw [decodeFrom_lead rest hlead (by simp)] at h
        rcases decodeFrom_owes_more h with ⟨b1, rest1, x, rfl, hb1, hx, h⟩
        rcases decodeFrom_owes_one h with
          ⟨b2, left, y, c, tail, rfl, hb2, hy, hc, hleast, hsur, heq, htail⟩
        refine ⟨c, tail, left, heq, hsur, ?_, htail⟩
        unfold utf8Char
        rw [if_neg (by omega), if_neg (by omega), if_pos (by omega),
          @byte_eq (0xE0 + c.val / 0x1000) b (by omega),
          @byte_eq (0x80 + c.val / 0x40 % 0x40) b1 (by omega),
          @byte_eq (0x80 + c.val % 0x40) b2 (by omega)]
        rfl
      · rw [decodeFrom_lead rest hlead (by simp)] at h
        rcases decodeFrom_owes_more h with ⟨b1, rest1, x, rfl, hb1, hx, h⟩
        rcases decodeFrom_owes_more h with ⟨b2, rest2, y, rfl, hb2, hy, h⟩
        rcases decodeFrom_owes_one h with
          ⟨b3, left, z, c, tail, rfl, hb3, hz, hc, hleast, hsur, heq, htail⟩
        refine ⟨c, tail, left, heq, hsur, ?_, htail⟩
        unfold utf8Char
        rw [if_neg (by omega), if_neg (by omega), if_neg (by omega),
          @byte_eq (0xF0 + c.val / 0x40000) b (by omega),
          @byte_eq (0x80 + c.val / 0x1000 % 0x40) b1 (by omega),
          @byte_eq (0x80 + c.val / 0x40 % 0x40) b2 (by omega),
          @byte_eq (0x80 + c.val % 0x40) b3 (by omega)]
        rfl

theorem utf8Char_length_pos (c : CodePoint) : 0 < (utf8Char c).length := by
  unfold utf8Char
  split
  · exact Nat.succ_pos _
  · split
    · exact Nat.succ_pos _
    · split
      · exact Nat.succ_pos _
      · exact Nat.succ_pos _

/-- Whatever is decoded is the encoding of the text. -/
theorem encodeUtf8_decodeUtf8 {bytes : Bytes} {s : PyStr}
    (h : decodeUtf8 bytes = some s) : encodeUtf8 s = some bytes := by
  rw [encodeUtf8_eq_some]
  unfold decodeUtf8 at h
  induction hlength : bytes.length using Nat.strong_induction_on
    generalizing bytes s with
  | _ n ih =>
      cases bytes with
      | nil =>
          cases h
          exact ⟨encodable_nil, rfl⟩
      | cons b rest =>
          rcases decodeFrom_none_cons h with
            ⟨c, tail, left, rfl, hsur, hbytes, htail⟩
          have hpos := utf8Char_length_pos c
          have hshorter : left.length < n := by
            rw [← hlength, hbytes, List.length_append]
            omega
          rcases ih left.length hshorter htail rfl with ⟨htailEncodable, htailBytes⟩
          refine ⟨encodable_cons.mpr ⟨hsur, htailEncodable⟩, ?_⟩
          rw [List.flatMap_cons, htailBytes, hbytes]

end Python
end EidolonSdk
