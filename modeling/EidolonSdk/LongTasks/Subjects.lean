import EidolonSdk.Coding.Cut
import EidolonSdk.Pydantic.Timestamp
import EidolonSdk.Python.Base64
import EidolonSdk.Python.Decimal
import EidolonSdk.Python.Interpreter
import EidolonSdk.Python.Regex

/-!
# Keys of long tasks

A session key names an owner and a day.  An owner id of portable characters
stands in the key as it is, any other one as base64 behind a mark; an id that
begins with the mark itself is encoded, so the mark tells the two apart.
-/

namespace EidolonSdk
namespace LongTasks

open Python Coding

/-!
## Owner segments
-/

/-- `[A-Za-z0-9_-]`. -/
def isSafeChar (c : CodePoint) : Bool :=
  (0x41 ≤ c.val && c.val ≤ 0x5A) || (0x61 ≤ c.val && c.val ≤ 0x7A) ||
    (0x30 ≤ c.val && c.val ≤ 0x39) || c.val == 0x5F || c.val == 0x2D

/-- `_SAFE_OWNER_RE`. -/
def safeOwnerRe : Regex :=
  Regex.anchored isSafeChar 1 none

def b64Mark : PyStr :=
  str "b64_"

def safeOwnerKey (ownerId : PyStr) : Except PyException PyStr :=
  if safeOwnerRe.isFullmatch ownerId = true ∧ startsWith ownerId b64Mark = false then
    .ok ownerId
  else
    match encodeUtf8 ownerId with
    | none => .error .unicodeEncodeError
    | some bytes => .ok (b64Mark ++ urlsafeB64Unpadded bytes)

def ownerIdFromSafeKey (segment : PyStr) : Except PyException PyStr :=
  if startsWith segment b64Mark = false then .ok segment
  else
    let encoded := segment.drop b64Mark.length
    match urlsafeB64Decode (encoded ++ b64Fill encoded.length) with
    | none => .error .valueError
    | some bytes =>
        match decodeUtf8 bytes with
        | none => .error .unicodeDecodeError
        | some ownerId => .ok ownerId

/-!
## Session keys
-/

structure Date where
  year : Nat
  month : Nat
  day : Nat
  year_range : 1 ≤ year ∧ year ≤ 9999
  month_range : 1 ≤ month ∧ month ≤ 12
  day_range : 1 ≤ day ∧ day ≤ daysInMonth year month
  deriving DecidableEq

/-- `local_date.strftime("%Y%m%d")`; a year is not padded. -/
def Date.yyyymmdd (d : Date) : PyStr :=
  naturalText d.year ++ Pydantic.padded 2 d.month ++ Pydantic.padded 2 d.day

/-- `date | str`. -/
inductive LocalDate where
  | date (d : Date)
  | text (s : PyStr)

def LocalDate.yyyymmdd : LocalDate -> PyStr
  | .date d => d.yyyymmdd
  | .text s => s.filter fun c => c != codePoint '-'

def sessionKeyFor (ownerId : PyStr) (localDate : LocalDate) :
    Except PyException PyStr := do
  let segment ← safeOwnerKey ownerId
  pure (str "e." ++ segment ++ str "." ++ localDate.yyyymmdd)

/-- A key of fewer than three parts is a `ValueError` of the assignment. -/
def parseSessionKey (sessionKey : PyStr) : Except PyException (PyStr × PyStr) :=
  match splitAtMost (codePoint '.') 2 sessionKey with
  | [front, segment, yyyymmdd] =>
      if front ≠ str "e" ∨ segment = [] ∨ yyyymmdd.length ≠ 8 then .error .valueError
      else do
        let ownerId ← ownerIdFromSafeKey segment
        pure (ownerId, yyyymmdd)
  | _ => .error .valueError

/-!
## Segments and back
-/

theorem startsWith_append (front back : PyStr) : startsWith (front ++ back) front = true :=
  List.isPrefixOf_iff_prefix.mpr (List.prefix_append front back)

theorem isSafeChar_ne_dot {c : CodePoint} (h : isSafeChar c = true) :
    c ≠ codePoint '.' := by
  intro heq
  rcases heq with rfl
  exact absurd h (by decide)

theorem isSafeChar_b64Char (n : Nat) : isSafeChar (b64Char n) = true := by
  unfold b64Char isSafeChar
  simp only [Fin.val_ofNat]
  split_ifs <;> simp <;> omega

/-- What an owner id is written as. -/
def SegmentOf (ownerId segment : PyStr) : Prop :=
  safeOwnerRe.isFullmatch ownerId = true ∧ startsWith ownerId b64Mark = false ∧
      segment = ownerId ∨
    exists bytes, encodeUtf8 ownerId = some bytes ∧
      segment = b64Mark ++ urlsafeB64Unpadded bytes

theorem segmentOf_of_safeOwnerKey {ownerId segment : PyStr}
    (h : safeOwnerKey ownerId = .ok segment) : SegmentOf ownerId segment := by
  unfold safeOwnerKey at h
  split at h
  · rename_i hplain
    cases h
    exact Or.inl ⟨hplain.left, hplain.right, rfl⟩
  · split at h
    · cases h
    · rename_i bytes hbytes
      cases h
      exact Or.inr ⟨bytes, hbytes, rfl⟩

theorem exists_safeOwnerKey {ownerId : PyStr} (h : Encodable ownerId) :
    exists segment, safeOwnerKey ownerId = .ok segment := by
  unfold safeOwnerKey
  split
  · exact ⟨ownerId, rfl⟩
  · rw [encodeUtf8_of_encodable h]
    exact ⟨_, rfl⟩

theorem ownerIdFromSafeKey_segment {ownerId segment : PyStr}
    (h : SegmentOf ownerId segment) : ownerIdFromSafeKey segment = .ok ownerId := by
  rcases h with ⟨_, hmark, rfl⟩ | ⟨bytes, hbytes, rfl⟩
  · exact if_pos hmark
  · have hmark := startsWith_append b64Mark (urlsafeB64Unpadded bytes)
    unfold ownerIdFromSafeKey
    rw [if_neg (by rw [hmark]; exact Bool.true_eq_false.mp)]
    simp only [List.drop_left, urlsafeB64Decode_unpadded,
      decodeUtf8_encodeUtf8 hbytes]

theorem isSafeChar_of_mem_segment {ownerId segment : PyStr}
    (h : SegmentOf ownerId segment) {c : CodePoint} (hc : c ∈ segment) :
    isSafeChar c = true := by
  rcases h with ⟨hmatch, _, rfl⟩ | ⟨bytes, _, rfl⟩
  · exact List.all_eq_true.mp (Regex.isFullmatch_anchored.mp hmatch).left c hc
  · rcases List.mem_append.mp hc with hmark | hencoded
    · exact List.all_eq_true.mp (by decide : b64Mark.all isSafeChar = true) c hmark
    · rw [urlsafeB64Unpadded_eq] at hencoded
      rcases mem_b64Digits hencoded with ⟨n, rfl⟩
      exact isSafeChar_b64Char n

theorem segment_ne_nil {ownerId segment : PyStr} (h : SegmentOf ownerId segment) :
    segment ≠ [] := by
  rcases h with ⟨hmatch, _, rfl⟩ | ⟨bytes, _, rfl⟩
  · have hlength := (Regex.isFullmatch_anchored.mp hmatch).right.left
    exact List.ne_nil_of_length_pos hlength
  · exact List.cons_ne_nil _ _

/-!
## Dates and back
-/

theorem length_padded (width n : Nat) : (Pydantic.padded width n).length = width := by
  simp [Pydantic.padded]

theorem padded_two_inj {m n : Nat} (hm : m < 100) (hn : n < 100)
    (h : Pydantic.padded 2 m = Pydantic.padded 2 n) : m = n := by
  simp [Pydantic.padded, List.range_succ, Fin.ext_iff] at h
  omega

theorem length_year {year : Nat} (hleast : 1000 ≤ year) (hmost : year ≤ 9999) :
    (naturalText year).length = 4 := by
  have hlength : (naturalText year).length = (Nat.toDigits 10 year).length :=
    List.length_map _
  have hle : (Nat.toDigits 10 year).length ≤ 4 :=
    (Nat.length_toDigits_le_iff (by decide) (by decide)).mpr (by omega)
  have hgt : ¬ (Nat.toDigits 10 year).length ≤ 3 := by
    rw [Nat.length_toDigits_le_iff (by decide) (by decide)]
    omega
  omega

theorem Date.bounds (d : Date) : d.month < 100 ∧ d.day < 100 := by
  have hmonth := d.month_range
  have hday := d.day_range
  have hdays : daysInMonth d.year d.month ≤ 31 := by
    unfold daysInMonth
    split
    · split_ifs <;> omega
    all_goals omega
  omega

theorem Date.length_yyyymmdd {d : Date} (h : 1000 ≤ d.year) : d.yyyymmdd.length = 8 := by
  unfold Date.yyyymmdd
  rw [List.length_append, List.length_append, length_padded, length_padded,
    length_year h d.year_range.right]

theorem Date.yyyymmdd_inj {d d' : Date} (h : 1000 ≤ d.year) (h' : 1000 ≤ d'.year)
    (heq : d.yyyymmdd = d'.yyyymmdd) : d = d' := by
  unfold Date.yyyymmdd at heq
  rcases List.append_inj' heq (by rw [length_padded, length_padded]) with ⟨heq, hday⟩
  rcases List.append_inj' heq (by rw [length_padded, length_padded]) with ⟨hyear, hmonth⟩
  have hyear : d.year = d'.year := naturalText_inj.mp hyear
  have hmonth := padded_two_inj d.bounds.left d'.bounds.left hmonth
  have hday := padded_two_inj d.bounds.right d'.bounds.right hday
  cases d
  cases d'
  cases hyear
  cases hmonth
  cases hday
  rfl

/-!
## The round trip
-/

section RoundTrip

variable {ownerId segment : PyStr} {d : Date}

theorem dot_not_mem_segment (h : SegmentOf ownerId segment) :
    codePoint '.' ∉ segment := by
  intro hdot
  exact isSafeChar_ne_dot (isSafeChar_of_mem_segment h hdot) rfl

/-- The key falls apart into the parts it was made of. -/
theorem parseSessionKey_append (h : SegmentOf ownerId segment) {yyyymmdd : PyStr}
    (hlength : yyyymmdd.length = 8) :
    parseSessionKey (str "e." ++ segment ++ str "." ++ yyyymmdd) =
      .ok (ownerId, yyyymmdd) := by
  have hfront : codePoint '.' ∉ str "e" := by decide
  have hkey : str "e." ++ segment ++ str "." ++ yyyymmdd =
      str "e" ++ codePoint '.' :: (segment ++ codePoint '.' :: yyyymmdd) := by
    simp [str]
  have hparts : splitAtMost (codePoint '.') 2
      (str "e" ++ codePoint '.' :: (segment ++ codePoint '.' :: yyyymmdd)) =
      [str "e", segment, yyyymmdd] := by
    rw [splitAtMost_append hfront, splitAtMost_append (dot_not_mem_segment h),
      splitAtMost]
  unfold parseSessionKey
  simp only [hkey, hparts]
  rw [if_neg (by simp [segment_ne_nil h, hlength]), ownerIdFromSafeKey_segment h]
  rfl

theorem sessionKeyFor_date (h : safeOwnerKey ownerId = .ok segment) :
    sessionKeyFor ownerId (.date d) =
      .ok (str "e." ++ segment ++ str "." ++ d.yyyymmdd) := by
  unfold sessionKeyFor
  rw [h]
  rfl

theorem parse_sessionKeyFor (hyear : 1000 ≤ d.year) {key : PyStr}
    (h : sessionKeyFor ownerId (.date d) = .ok key) :
    parseSessionKey key = .ok (ownerId, d.yyyymmdd) := by
  cases hsegment : safeOwnerKey ownerId with
  | error e =>
      unfold sessionKeyFor at h
      rw [hsegment] at h
      cases h
  | ok segment =>
      rw [sessionKeyFor_date hsegment] at h
      cases h
      exact parseSessionKey_append (segmentOf_of_safeOwnerKey hsegment)
        (Date.length_yyyymmdd hyear)

/-- An encodable owner id and a day of a four-digit year have a key, both are read
from it again, and no others have the same one. -/
theorem session_keys_invertible (howner : Encodable ownerId) (hyear : 1000 ≤ d.year) :
    exists segment key,
      safeOwnerKey ownerId = .ok segment ∧ codePoint '.' ∉ segment ∧
      ownerIdFromSafeKey segment = .ok ownerId ∧
      sessionKeyFor ownerId (.date d) = .ok key ∧
      parseSessionKey key = .ok (ownerId, d.yyyymmdd) ∧
      forall (ownerId' : PyStr) (d' : Date), 1000 ≤ d'.year ->
        sessionKeyFor ownerId' (.date d') = .ok key -> ownerId' = ownerId ∧ d' = d := by
  rcases exists_safeOwnerKey howner with ⟨segment, hsegment⟩
  have hkey := sessionKeyFor_date (d := d) hsegment
  have hparse := parse_sessionKeyFor hyear hkey
  have hmeans := segmentOf_of_safeOwnerKey hsegment
  refine ⟨segment, _, hsegment, dot_not_mem_segment hmeans,
    ownerIdFromSafeKey_segment hmeans, hkey, hparse, ?_⟩
  intro ownerId' d' hyear' hkey'
  have hsame := (parse_sessionKeyFor hyear' hkey').symm.trans hparse
  rcases Prod.mk.inj (Except.ok.inj hsame) with ⟨howners, hdates⟩
  exact ⟨howners, Date.yyyymmdd_inj hyear' hyear hdates⟩

theorem session_keys_invertible_marked :
    exists segment key,
      safeOwnerKey (str "b64_a.b") = .ok segment ∧ codePoint '.' ∉ segment ∧
      ownerIdFromSafeKey segment = .ok (str "b64_a.b") ∧
      sessionKeyFor (str "b64_a.b") (.date ⟨2026, 6, 14, by decide, by decide, by decide⟩) =
        .ok key ∧
      parseSessionKey key = .ok (str "b64_a.b", str "20260614") ∧
      forall (ownerId' : PyStr) (d' : Date), 1000 ≤ d'.year ->
        sessionKeyFor ownerId' (.date d') = .ok key ->
        ownerId' = str "b64_a.b" ∧
          d' = ⟨2026, 6, 14, by decide, by decide, by decide⟩ :=
  session_keys_invertible (encodable_str _) (by decide)

end RoundTrip

end LongTasks
end EidolonSdk
