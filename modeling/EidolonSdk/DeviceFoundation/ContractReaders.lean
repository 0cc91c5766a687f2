import EidolonSdk.DeviceFoundation.CommonSchemas
import EidolonSdk.Logic.Agreement
import EidolonSdk.Pydantic.Wire

/-!
# Readers of a device reference

A device reference is read by the Python model, by the generated Dart reader and
by a validator of its schema.  All three read the same members and compare them
with the same patterns, except that Python compares an Owner Domain with its
prefix only, a schema takes a whole number however it is spelled, and Dart takes
only what fits 64 bits.
-/

namespace EidolonSdk
namespace DeviceFoundation

open Python Pydantic Logic Dart

/-!
## Patterns of ASCII characters

Where a pattern admits ASCII only, Python and a schema count what Dart counts,
and the string can be encoded.
-/

def AsciiOnly (pattern : PyStr -> Bool) : Prop :=
  forall s, pattern s = true -> forall c, c ∈ s -> IsAscii c

section Ascii

variable {pattern : PyStr -> Bool} {s : PyStr}

theorem AsciiOnly.encodable (h : AsciiOnly pattern) (hs : pattern s = true) :
    Encodable s := by
  intro c hc hsurrogate
  have hascii : c.val < 0x80 := h s hs c hc
  have hlow := hsurrogate.left
  omega

theorem AsciiOnly.length_eq (h : AsciiOnly pattern) (hs : pattern s = true) :
    Dart.length s = s.length :=
  Dart.length_eq fun c hc => Nat.lt_trans (h s hs c hc) (by decide)

theorem isAlphanumeric_ascii {c : CodePoint} (h : isAlphanumeric c = true) :
    IsAscii c := by
  unfold IsAscii
  simp only [isAlphanumeric, Bool.or_eq_true, Bool.and_eq_true,
    decide_eq_true_eq] at h
  omega

theorem isLowerHex_ascii {c : CodePoint} (h : isLowerHex c = true) :
    IsAscii c := by
  unfold IsAscii
  simp only [isLowerHex, Bool.or_eq_true, Bool.and_eq_true,
    decide_eq_true_eq] at h
  omega

def allAscii (s : PyStr) : Bool :=
  s.all fun c => decide (IsAscii c)

theorem allAscii_iff : allAscii s = true <-> forall c, c ∈ s -> IsAscii c := by
  simp [allAscii]

/-- Alphanumeric, or one of the marks. -/
theorem alphanumericOr_ascii {marks : PyStr} (hmarks : allAscii marks = true)
    {c : CodePoint} (h : (isAlphanumeric c || marks.contains c) = true) :
    IsAscii c := by
  rcases Bool.or_eq_true_iff.mp h with h | h
  · exact isAlphanumeric_ascii h
  · exact allAscii_iff.mp hmarks c (List.contains_iff_mem.mp h)

theorem matchesIdentifier_ascii : AsciiOnly matchesIdentifier := by
  intro s hs c hc
  cases s with
  | nil => cases hs
  | cons d rest =>
      rcases Bool.and_eq_true_iff.mp hs with ⟨hd, hrest⟩
      cases List.mem_cons.mp hc with
      | inl heq =>
          rw [heq]
          exact isAlphanumeric_ascii hd
      | inr hmem =>
          exact alphanumericOr_ascii (by decide)
            (List.all_eq_true.mp hrest c hmem)

theorem matchesBase64Url_ascii : AsciiOnly matchesBase64Url := by
  intro s hs c hc
  have hall := (Bool.and_eq_true_iff.mp hs).right
  exact alphanumericOr_ascii (by decide) (List.all_eq_true.mp hall c hc)

theorem length_str (word : String) : (str word).length = word.length := by
  unfold str
  rw [List.length_map]
  rfl

/-- A string that starts with a word is the word and what is left without it. -/
theorem eq_append_drop {word : String} (h : startsWith s (str word) = true) :
    s = str word ++ s.drop word.length := by
  rcases List.isPrefixOf_iff_prefix.mp h with ⟨rest, hrest⟩
  rw [← hrest, ← length_str word, List.drop_left]

theorem prefixed_ascii {word : String} (hword : allAscii (str word) = true)
    (h : startsWith s (str word) = true)
    (hrest : forall c, c ∈ s.drop word.length -> IsAscii c) :
    forall c, c ∈ s -> IsAscii c := by
  intro c hc
  rw [eq_append_drop h] at hc
  cases List.mem_append.mp hc with
  | inl hc => exact allAscii_iff.mp hword c hc
  | inr hc => exact hrest c hc

theorem matchesDigest_ascii {word : String}
    (hword : allAscii (str word) = true) :
    AsciiOnly (matchesDigest word) := by
  intro s hs
  simp only [matchesDigest, Bool.and_eq_true] at hs
  rcases hs with ⟨⟨hstart, _⟩, hhex⟩
  apply prefixed_ascii hword hstart
  intro c hc
  exact isLowerHex_ascii (List.all_eq_true.mp hhex c hc)

theorem matchesNamespace_ascii {word : String}
    (hword : allAscii (str word) = true) :
    AsciiOnly (matchesNamespace word) := by
  intro s hs
  rcases Bool.and_eq_true_iff.mp hs with ⟨hstart, hidentifier⟩
  exact prefixed_ascii hword hstart (matchesIdentifier_ascii _ hidentifier)

/-- A digest has the length of its word and 64 characters more. -/
theorem matchesDigest_length {word : String}
    (h : matchesDigest word s = true) : s.length = word.length + 64 := by
  simp only [matchesDigest, Bool.and_eq_true] at h
  rcases h with ⟨⟨hstart, hlength⟩, _⟩
  rw [eq_append_drop hstart, List.length_append, length_str]
  rw [eq_of_beq hlength]

end Ascii

/-!
## Members

What a reader makes of a document is what it makes of each member.
-/

/-- The member is there and has the property. -/
def MemberAt (members : Members) (name : String) (p : Json -> Prop) : Prop :=
  exists value, members.get name = some value ∧ p value

/-- The member has the property if it is there. -/
def MemberIf (members : Members) (name : String) (p : Json -> Prop) : Prop :=
  forall value, members.get name = some value -> p value

section MemberAt

variable {members : Members} {name : String} {p q a : Json -> Prop}

theorem memberAt_congr (h : forall value, p value <-> q value) :
    MemberAt members name p <-> MemberAt members name q := by
  unfold MemberAt
  simp only [h]

theorem memberAt_reads (h : forall value, Reads (p value) (q value) (a value)) :
    Reads (MemberAt members name p) (MemberAt members name q)
      (MemberIf members name a) :=
  Reads.within (fun _ _ => Option.some.inj) h

theorem memberIf_reads (h : forall value, Reads (p value) (q value) (a value)) :
    Reads (MemberIf members name p) (MemberIf members name q)
      (MemberIf members name a) :=
  Reads.forall fun value _ => h value

/-- Dart looks up a member that is not there as `null`. -/
theorem memberAt_getOrNone (hnull : ¬ p .null) :
    p (members.getOrNone name) <-> MemberAt members name p := by
  unfold Members.getOrNone MemberAt
  cases members.get name with
  | none => simp [hnull]
  | some value => simp

theorem getOrNone_str {s : PyStr} :
    members.getOrNone name = .str s <-> members.get name = some (.str s) :=
  Members.getOrNone_eq (fun h => nomatch h)

theorem getOrNone_int {n : Int} :
    members.getOrNone name = .int n <-> members.get name = some (.int n) :=
  Members.getOrNone_eq (fun h => nomatch h)

theorem MemberAt.mem_keys (h : MemberAt members name p) :
    str name ∈ members.keys := by
  rcases h with ⟨value, hget, _⟩
  rw [← Members.get_isSome, hget]
  rfl

end MemberAt

/-- A string with the property. -/
def IsText (p : PyStr -> Prop) (value : Json) : Prop :=
  exists s, value = .str s ∧ p s

section IsText

variable {value : Json} {p q : PyStr -> Prop}

theorem isText_congr (h : forall s, p s <-> q s) :
    IsText p value <-> IsText q value := by
  unfold IsText
  simp only [h]

theorem not_isText (h : forall s, value ≠ .str s) : ¬ IsText p value := by
  intro hparts
  rcases hparts with ⟨s, heq, _⟩
  exact h s heq

theorem isText_reads {r : PyStr -> Prop} (h : forall s, r s <-> p s ∧ q s) :
    Reads (IsText r value) (IsText p value) (forall s, value = .str s -> q s) :=
  Reads.within (fun _ _ => Json.str.inj) h

theorem accepts_text {rule : StrRule} :
    Accepts (validStr rule value) <-> IsText rule.Accepts value := by
  constructor
  · intro h
    rcases h with ⟨a, ha⟩
    exact ⟨a.val, validStr_ok_iff.mp ha, a.property⟩
  · intro h
    rcases h with ⟨s, heq, hs⟩
    exact ⟨⟨s, hs⟩, validStr_ok_iff.mpr heq⟩

theorem patternText_ok {maximum : Nat} {pattern : PyStr -> Bool}
    {message : String} :
    (exists s, patternText value maximum pattern message = .ok s) <->
      IsText (fun s => (s ≠ [] ∧ Dart.length s ≤ maximum) ∧ pattern s = true)
        value := by
  simp only [patternText_eq_ok]
  rfl

end IsText

theorem isText_of_accepts {rule : StrRule} {p : PyStr -> Prop}
    (h : forall s, rule.Accepts s <-> p s) {members : Members} {name : String} :
    MemberAt members name (fun value => Accepts (validStr rule value)) <->
      MemberAt members name (IsText p) :=
  memberAt_congr fun _ => accepts_text.trans (isText_congr h)

theorem isText_of_schema {text : JsonSchema.Text} {p : PyStr -> Prop}
    (h : forall s, text.Admits s <-> p s) {members : Members} {name : String} :
    MemberAt members name (fun value => JsonSchema.string text value = true) <->
      MemberAt members name (IsText p) :=
  memberAt_congr fun _ => JsonSchema.string_iff.trans (isText_congr h)

/-- A reader of a member, where a member that is not there is refused. -/
theorem read_at_iff {members : Members} {α : Type} {read : Json -> Reading α}
    {name : String} {p : Json -> Prop} (hnull : forall a, read .null ≠ .ok a)
    (h : forall value, (exists a, read value = .ok a) <-> p value) :
    (exists a, read (members.getOrNone name) = .ok a) <->
      MemberAt members name p := by
  have hat := @memberAt_getOrNone members name
    (fun value => exists a, read value = .ok a) (fun ⟨a, ha⟩ => hnull a ha)
  rw [hat, memberAt_congr h]

/-!
## Strings and words
-/

/-- From one to 128 characters. -/
def IsLabel (s : PyStr) : Prop :=
  1 ≤ s.length ∧ s.length ≤ 128

/-- One of the words. -/
def IsWord (words : List String) (value : Json) : Prop :=
  exists word, word ∈ words ∧ value = .str (str word)

theorem enum_isWord {words : List String} {value : Json} :
    JsonSchema.enum words value = true <-> IsWord words value :=
  JsonSchema.enum_iff

theorem accepts_word {words : List String} {α : Type} {wire : Wire α}
    (hexact : wire.Exact)
    (hwords : forall value, (exists a, value = wire.dump a) <->
      IsWord words value) (value : Json) :
    Accepts (wire.validate value) <-> IsWord words value := by
  unfold Accepts
  simp only [hexact.ok_iff]
  exact hwords value

/-- A rule whose pattern admits ASCII only is its pattern and its bounds. -/
theorem accepts_iff_of_ascii {rule : StrRule} (h : AsciiOnly rule.pattern)
    {s : PyStr} :
    rule.Accepts s <->
      rule.minLength ≤ s.length ∧
        (rule.maxLength.all fun most => s.length ≤ most) = true ∧
        rule.pattern s = true := by
  unfold StrRule.Accepts
  constructor
  · exact And.right
  · intro hs
    exact ⟨h.encodable hs.right.right, hs⟩

/-- A device instance identity is what its pattern admits. -/
def IsDeviceInstanceId (s : PyStr) : Prop :=
  matchesDigest "device-instance-" s = true

theorem deviceInstanceId_ascii : AsciiOnly (matchesDigest "device-instance-") :=
  matchesDigest_ascii (by decide)

theorem IsDeviceInstanceId.length {s : PyStr} (h : IsDeviceInstanceId s) :
    s.length = 80 :=
  matchesDigest_length h

theorem accepts_deviceInstanceId {s : PyStr} :
    deviceInstanceIdRule.Accepts s <-> IsDeviceInstanceId s := by
  rw [accepts_iff_of_ascii deviceInstanceId_ascii]
  constructor
  · intro h
    exact h.right.right
  · intro h
    have hlength := h.length
    exact ⟨hlength.ge, by simp [deviceInstanceIdRule, hlength], h⟩

theorem admits_deviceInstanceId {s : PyStr} :
    CommonSchemas.deviceInstanceIdText.Admits s <-> IsDeviceInstanceId s := by
  constructor
  · intro h
    exact h.right.right
  · intro h
    have hlength := h.length
    exact ⟨hlength.ge, by simp [CommonSchemas.deviceInstanceIdText, hlength], h⟩

theorem parses_deviceInstanceId {s : PyStr} :
    ((s ≠ [] ∧ Dart.length s ≤ 80) ∧ matchesDigest "device-instance-" s = true) <->
      IsDeviceInstanceId s := by
  constructor
  · exact And.right
  · intro h
    have hlength := h.length
    rw [deviceInstanceId_ascii.length_eq h, hlength]
    refine ⟨⟨?_, Nat.le_refl 80⟩, h⟩
    intro hnil
    rw [hnil] at hlength
    cases hlength

/-!
## Counters
-/

/-- A whole number from one on, however it is spelled. -/
def IsCounter (value : Json) : Prop :=
  exists n, value.whole? = some n ∧ 1 ≤ n

/-- Spelled as an integer. -/
def Spelled (value : Json) : Prop :=
  exists n, value = .int n

/-- An integer that fits 64 bits. -/
def Narrow (value : Json) : Prop :=
  forall n, value = .int n -> n < 2 ^ 63

section Counters

variable {value : Json}

theorem isCounter_int {n : Int} : IsCounter (.int n) <-> 1 ≤ n := by
  unfold IsCounter
  rw [Json.whole_int]
  simp

theorem integer_one_iff : JsonSchema.integer 1 none value = true <->
    IsCounter value := by
  rw [JsonSchema.integer_iff]
  simp [IsCounter]

/-- What Python takes for a counter. -/
theorem accepts_counter :
    Reads (Accepts (validInt 1 value)) (IsCounter value) (Spelled value) := by
  constructor
  · intro h
    rcases h with ⟨n, hn⟩
    rw [validInt_ok_iff.mp hn]
    exact ⟨isCounter_int.mpr n.property, n.val, rfl⟩
  · intro h
    rcases h with ⟨hcounter, n, heq⟩
    rw [heq] at hcounter
    exact ⟨⟨n, isCounter_int.mp hcounter⟩, validInt_ok_iff.mpr heq⟩

theorem inInt64_iff {n : Int} (h : 1 ≤ n) : inInt64 n <-> n < 2 ^ 63 := by
  unfold inInt64
  constructor
  · exact And.right
  · intro hlt
    exact ⟨le_trans (by decide) h, hlt⟩

/-- What Dart takes for one. -/
theorem positive?_reads :
    Reads (exists n, positive? value = some n) (IsCounter value)
      (Spelled value ∧ Narrow value) := by
  unfold Reads
  simp only [positive?_eq_some]
  constructor
  · intro h
    rcases h with ⟨n, heq, hnarrow, hn⟩
    subst heq
    refine ⟨isCounter_int.mpr hn, ⟨n, rfl⟩, ?_⟩
    intro m hm
    rw [← Json.int.inj hm]
    exact hnarrow.right
  · intro h
    rcases h with ⟨hcounter, ⟨n, heq⟩, hnarrow⟩
    rw [heq] at hcounter
    have hn := isCounter_int.mp hcounter
    exact ⟨n, heq, (inInt64_iff hn).mpr (hnarrow n heq), hn⟩

end Counters

end DeviceFoundation
end EidolonSdk
