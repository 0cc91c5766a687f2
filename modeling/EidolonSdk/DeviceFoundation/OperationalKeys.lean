import EidolonSdk.DeviceFoundation.Lifecycle
import EidolonSdk.Python.Base64Reading

/-!
# Operational keys

The name of a device is the digest of its operational key, so the key should have
one reading.  The function that reads it takes the text as the lenient decoder
does, and looks at the header of the octets but not at the form of their point.
-/

namespace EidolonSdk
namespace DeviceFoundation

open Python Support

def spkiScheme : PyStr :=
  str "p256-spki:"

/-- `P256_SPKI_PREFIX`. -/
def p256SpkiPrefix : Bytes :=
  [0x30, 0x59, 0x30, 0x13, 0x06, 0x07, 0x2A, 0x86, 0x48, 0xCE, 0x3D, 0x02, 0x01,
    0x06, 0x08, 0x2A, 0x86, 0x48, 0xCE, 0x3D, 0x03, 0x01, 0x07, 0x03, 0x42, 0x00]

def p256UncompressedPointLength : Nat := 65

/-- `text.removeprefix(word)`. -/
def removePrefix (text word : PyStr) : PyStr :=
  if startsWith text word then text.drop word.length else text

/-- The `ValueError`s of `operational_public_key_bytes`. -/
inductive OperationalKeyError where
  | notBase64Url
  | empty
  | rawPoint
  | notSpki
  deriving DecidableEq

/-- The text with the padding its length asks for. -/
def filled (encoded : PyStr) : PyStr :=
  encoded ++ b64Fill encoded.length

/-- The checks of the decoded octets. -/
def checkedSpki (raw : Bytes) : Except OperationalKeyError Bytes :=
  if raw = [] then .error .empty
  else if raw.take 1 = [0x04] ∧ raw.length = p256UncompressedPointLength then
    .error .rawPoint
  else if raw.length ≠ p256SpkiPrefix.length + p256UncompressedPointLength ∨
      ¬ p256SpkiPrefix <+: raw then
    .error .notSpki
  else .ok raw

def operationalPublicKeyBytes (operationalPublicKey : PyStr) :
    Except OperationalKeyError Bytes :=
  match urlsafeB64Decode
    (filled (removePrefix operationalPublicKey spkiScheme)) with
  | none => .error .notBase64Url
  | some raw => checkedSpki raw

section Hash

variable (hash : Sha256)

def operationalKeyId (operationalPublicKey : PyStr) : Except OperationalKeyError PyStr := do
  let raw ← operationalPublicKeyBytes operationalPublicKey
  pure (str "sha256:" ++ hash.hexdigest raw)

def deriveDeviceInstanceId (operationalPublicKey : PyStr) :
    Except OperationalKeyError PyStr := do
  let raw ← operationalPublicKeyBytes operationalPublicKey
  pure (str "device-instance-" ++ hash.hexdigest raw)

end Hash

/-!
## Exact spellings
-/

def IsP256Spki (raw : Bytes) : Prop :=
  raw.length = 91 ∧ p256SpkiPrefix <+: raw

def HasUncompressedPoint (raw : Bytes) : Prop :=
  raw[26]? = some 0x04

/-- A character of the URL-safe alphabet. -/
def isBase64Url (c : CodePoint) : Bool :=
  isAlphanumeric c || (str "_-").contains c

/-- Characters of the alphabet and at most the padding they need. -/
def IsUrlText (encoded digits : PyStr) : Prop :=
  (forall c, c ∈ digits -> isBase64Url c = true) ∧
    exists pads, pads ≤ (b64Fill digits.length).length ∧
      encoded = digits ++ b64Pads pads

/-- The exact spellings of a key. -/
def SpellsKey (text : PyStr) (raw : Bytes) : Prop :=
  exists digits, IsUrlText (removePrefix text spkiScheme) digits ∧
    urlsafeB64Decode (filled digits) = some raw ∧
    IsP256Spki raw ∧ HasUncompressedPoint raw

section Reading

variable {text : PyStr} {raw : Bytes}

theorem checkedSpki_eq_ok {octets : Bytes} :
    checkedSpki octets = .ok raw <-> octets = raw ∧ IsP256Spki raw := by
  unfold checkedSpki
  by_cases hspki : IsP256Spki octets
  · have hempty : octets ≠ [] := by
      intro heq
      rcases heq with rfl
      exact nomatch hspki.left
    have hpoint : octets.length ≠ p256UncompressedPointLength := by
      rw [hspki.left]
      decide
    have hshape : ¬ (octets.length ≠
        p256SpkiPrefix.length + p256UncompressedPointLength ∨
          ¬ p256SpkiPrefix <+: octets) := by
      intro hparts
      rcases hparts with hlength | hheader
      · exact hlength hspki.left
      · exact hheader hspki.right
    rw [if_neg hempty, if_neg (fun h => hpoint h.right), if_neg hshape]
    constructor
    · intro h
      cases h
      exact ⟨rfl, hspki⟩
    · intro hparts
      rcases hparts with ⟨rfl, _⟩
      rfl
  · refine iff_of_false ?_ (fun h => hspki (h.left ▸ h.right))
    have hshape : octets.length ≠
        p256SpkiPrefix.length + p256UncompressedPointLength ∨
          ¬ p256SpkiPrefix <+: octets := by
      by_contra h
      push Not at h
      exact hspki h
    rw [if_pos hshape]
    split
    · exact nofun
    · split
      · exact nofun
      · exact nofun

theorem operationalPublicKeyBytes_eq_ok :
    operationalPublicKeyBytes text = .ok raw <->
      urlsafeB64Decode (filled (removePrefix text spkiScheme)) = some raw ∧
        IsP256Spki raw := by
  unfold operationalPublicKeyBytes
  cases urlsafeB64Decode (filled (removePrefix text spkiScheme)) with
  | none => exact iff_of_false (fun h => nomatch h) (fun h => nomatch h.left)
  | some octets => exact checkedSpki_eq_ok.trans (by rw [Option.some_inj])

/-- An exact text and the text the code fills up are the same. -/
theorem IsUrlText.filled_eq {encoded digits : PyStr} (h : IsUrlText encoded digits) :
    filled encoded = filled digits := by
  rcases h with ⟨_, pads, hpads, rfl⟩
  unfold filled b64Fill b64Pads at *
  rw [List.length_replicate] at hpads
  rw [List.append_assoc, List.replicate_append_replicate, List.length_append,
    List.length_replicate]
  congr 2
  omega

/-- What is spelled exactly is read. -/
theorem SpellsKey.read (h : SpellsKey text raw) :
    operationalPublicKeyBytes text = .ok raw := by
  rcases h with ⟨digits, htext, hdecode, hspki, _⟩
  rw [operationalPublicKeyBytes_eq_ok, htext.filled_eq]
  exact ⟨hdecode, hspki⟩

/-- The text reads as these octets to a reader that overlooks what it does not
know. -/
def ReadsLoosely (text : PyStr) (raw : Bytes) : Prop :=
  ((filled (removePrefix text spkiScheme)).all fun c => c.val < 0x80) = true ∧
    SpellsLoosely (filled (removePrefix text spkiScheme)) raw

theorem operationalPublicKeyBytes_iff_readsLoosely :
    operationalPublicKeyBytes text = .ok raw <->
      ReadsLoosely text raw ∧ IsP256Spki raw := by
  rw [operationalPublicKeyBytes_eq_ok, and_congr_left_iff]
  intro hspki
  have hlength : raw.length % 3 = 1 := by
    rw [hspki.left]
  unfold urlsafeB64Decode ReadsLoosely
  rw [← decodeQuads_iff_spellsLoosely hlength]
  split
  · rename_i hascii
    exact (and_iff_right hascii).symm
  · rename_i hascii
    exact iff_of_false nofun (fun h => hascii h.left)

/-- What is read from an exact text is spelled by it. -/
theorem spellsKey_of_read {digits : PyStr}
    (htext : IsUrlText (removePrefix text spkiScheme) digits)
    (hpoint : HasUncompressedPoint raw)
    (h : operationalPublicKeyBytes text = .ok raw) : SpellsKey text raw := by
  rw [operationalPublicKeyBytes_eq_ok, htext.filled_eq] at h
  exact ⟨digits, htext, h.left, h.right, hpoint⟩

theorem operationalPublicKeyBytes_scheme
    (hbare : startsWith text spkiScheme = false) :
    operationalPublicKeyBytes (spkiScheme ++ text) =
      operationalPublicKeyBytes text := by
  have hprefixed : startsWith (spkiScheme ++ text) spkiScheme = true := by
    unfold startsWith
    rw [List.isPrefixOf_iff_prefix]
    exact List.prefix_append spkiScheme text
  have hremove : removePrefix (spkiScheme ++ text) spkiScheme =
      removePrefix text spkiScheme := by
    unfold removePrefix
    rw [hprefixed, hbare]
    exact List.drop_left
  unfold operationalPublicKeyBytes
  rw [hremove]

end Reading

/-!
## One reading for every key
-/

/-- The two keys are no collision of the hash. -/
def KeysApart (hash : Sha256) (raw other : Bytes) : Prop :=
  hash.digest raw = hash.digest other -> raw = other

/-- The text is read if it spells a key exactly, with or without its scheme, and
two keys have two names. -/
structure ReadsExactly (hash : Sha256) (text : PyStr) : Prop where
  read_iff : forall raw, operationalPublicKeyBytes text = .ok raw <->
    SpellsKey text raw
  scheme : startsWith text spkiScheme = false ->
    operationalKeyId hash (spkiScheme ++ text) = operationalKeyId hash text ∧
      deriveDeviceInstanceId hash (spkiScheme ++ text) =
        deriveDeviceInstanceId hash text
  distinct : forall other raw raw', operationalPublicKeyBytes text = .ok raw ->
    operationalPublicKeyBytes other = .ok raw' -> KeysApart hash raw raw' ->
    raw ≠ raw' ->
      operationalKeyId hash text ≠ operationalKeyId hash other ∧
        deriveDeviceInstanceId hash text ≠ deriveDeviceInstanceId hash other

section Names

variable {hash : Sha256} {text : PyStr}

theorem names_scheme (hbare : startsWith text spkiScheme = false) :
    operationalKeyId hash (spkiScheme ++ text) = operationalKeyId hash text ∧
      deriveDeviceInstanceId hash (spkiScheme ++ text) =
        deriveDeviceInstanceId hash text := by
  unfold operationalKeyId deriveDeviceInstanceId
  rw [operationalPublicKeyBytes_scheme hbare]
  exact ⟨rfl, rfl⟩

theorem names_distinct {other : PyStr} {raw raw' : Bytes}
    (h : operationalPublicKeyBytes text = .ok raw)
    (h' : operationalPublicKeyBytes other = .ok raw')
    (hapart : KeysApart hash raw raw') (hne : raw ≠ raw') :
    operationalKeyId hash text ≠ operationalKeyId hash other ∧
      deriveDeviceInstanceId hash text ≠ deriveDeviceInstanceId hash other := by
  have hnames : forall word : PyStr,
      word ++ hash.hexdigest raw ≠ word ++ hash.hexdigest raw' := fun word heq =>
    hne (hapart (hex_inj (List.append_cancel_left heq)))
  unfold operationalKeyId deriveDeviceInstanceId
  rw [h, h']
  exact ⟨fun heq => hnames _ (Except.ok.inj heq),
    fun heq => hnames _ (Except.ok.inj heq)⟩

/-- A text is read exactly unless the decoder overlooks something in it, or the
point behind the header is not an uncompressed one. -/
theorem readsExactly_iff (hash : Sha256) (text : PyStr) :
    ReadsExactly hash text <->
      forall raw, ReadsLoosely text raw -> IsP256Spki raw ->
        (exists digits, IsUrlText (removePrefix text spkiScheme) digits) ∧
          HasUncompressedPoint raw := by
  constructor
  · intro h raw hloosely hspki
    have hread := operationalPublicKeyBytes_iff_readsLoosely.mpr ⟨hloosely, hspki⟩
    rcases (h.read_iff raw).mp hread with ⟨digits, htext, _, _, hpoint⟩
    exact ⟨⟨digits, htext⟩, hpoint⟩
  · intro h
    refine ⟨?_, names_scheme, ?_⟩
    · intro raw
      constructor
      · intro hread
        rcases operationalPublicKeyBytes_iff_readsLoosely.mp hread with
          ⟨hloosely, hspki⟩
        rcases h raw hloosely hspki with ⟨⟨digits, htext⟩, hpoint⟩
        exact spellsKey_of_read htext hpoint hread
      · exact SpellsKey.read
    · intro other raw raw' hread hread' hapart hne
      exact names_distinct hread hread' hapart hne

end Names

/-!
A key is read with a character behind it that no alphabet has.
-/

def sampleSpki : Bytes :=
  p256SpkiPrefix ++ 0x04 :: List.replicate 64 0x00

def sampleHash : Sha256 where
  digest _ := List.replicate 32 0x00
  digest_length _ := rfl

theorem not_readsExactly :
    ¬ forall (hash : Sha256) (text : PyStr), ReadsExactly hash text := by
  intro h
  have hread : operationalPublicKeyBytes
      (urlsafeB64Encode sampleSpki ++ str "!") = .ok sampleSpki := by
    decide +kernel
  rcases ((h sampleHash _).read_iff _).mp hread with
    ⟨digits, ⟨hletters, pads, _, htext⟩, _⟩
  have hmem : codePoint '!' ∈ removePrefix
      (urlsafeB64Encode sampleSpki ++ str "!") spkiScheme := by
    decide +kernel
  rw [htext, List.mem_append] at hmem
  cases hmem with
  | inl hdigit => exact absurd (hletters _ hdigit) (by decide)
  | inr hpad =>
      exact absurd (List.eq_of_mem_replicate hpad) (by decide)

end DeviceFoundation
end EidolonSdk
