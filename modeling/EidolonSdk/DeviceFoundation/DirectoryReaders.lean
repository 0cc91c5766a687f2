import EidolonSdk.DeviceFoundation.AuthorityWire
import EidolonSdk.DeviceFoundation.DartDirectory
import EidolonSdk.DeviceFoundation.DescriptorSigning
import EidolonSdk.DeviceFoundation.ManifestReaders

/-!
# Readers of a directory

The Hub validates the JSON text of a directory, the app reads what the text decodes
to.  Both go through the same members with two lists of conditions that were not
written from one another.
-/

namespace EidolonSdk
namespace DeviceFoundation

open Python Pydantic Logic Dart

/-!
## The Python reader
-/

/-- A tuple in JSON text: an array. -/
def jsonTuple {α : Type} (validate : Validator α) : Validator (List α)
  | .array items => validItems validate items
  | _ => .error .invalid

namespace AuthorityEndpoint

def authorities : List (String × LogicalAuthority) :=
  [("admission", .admission), ("device-control", .deviceControl),
    ("body-mesh", .bodyMesh), ("companion", .companion)]

def fieldNames : List String :=
  ["authority", "logical_audience", "uri", "transport_profile", "priority"]

def validPriority : Validator Int
  | .int n => if 0 ≤ n ∧ n ≤ 65535 then .ok n else .error .invalid
  | _ => .error .invalid

/-- `AuthorityEndpoint` within JSON text. -/
def validateJson : Validator AuthorityEndpoint :=
  validModel fun members =>
    ((required members "authority" (validWord authorities)).both
      ((required members "logical_audience" (validStr audienceRule)).both
        ((required members "uri" (validStr uriRule)).both
          ((required members "transport_profile"
              (validStr transportProfileRule)).both
            ((required members "priority" validPriority).both
              (onlyMembers members fieldNames)))))).map
      fun (authority, audience, uri, profile, priority, _) =>
        ⟨authority, audience.val, uri.val, profile.val, priority⟩

end AuthorityEndpoint

/-- `_utc_instants`. -/
def utcInstant (value : Datetime) : Validated Instant :=
  match value.offset with
  | none => .error .invalid
  | some offset =>
      match value.astimezoneUtc offset with
      | some instant => .ok instant
      | none => .error (.raised .overflowError)

namespace OwnerDomainDescriptor

/-- `_valid_unique_roots`, behind the tuple. -/
def validRootsJson : Validator (List PyStr) :=
  fun value => do
    let roots ← jsonTuple Wire.anyText.validate value
    if roots ≠ [] ∧ roots.Nodup ∧ (roots.all isSha256Reference) = true then
      .ok roots
    else .error .invalid

def validEndpointsJson : Validator (List AuthorityEndpoint) :=
  fun value => do
    let endpoints ← jsonTuple AuthorityEndpoint.validateJson value
    if endpoints ≠ [] then .ok endpoints else .error .invalid

section Json

-- The datetime pydantic reads from a string of JSON text.
variable (datetimeOf : PyStr -> Option Datetime)

def validInstantJson : Validator Instant
  | .str s =>
      match datetimeOf s with
      | some value => utcInstant value
      | none => .error .invalid
  | _ => .error .invalid

/-- `OwnerDomainDescriptor.model_validate_json`. -/
def validateJson : Validator OwnerDomainDescriptor :=
  validModel fun members => do
    let (owner, generation, revision, uri, roots, endpoints, issuedAt,
        expiresAt, keyId, signature, _) ←
      (required members "owner_domain_id" (validStr audienceRule)).both
        ((required members "owner_domain_generation" (validInt 1)).both
          ((required members "directory_revision" (validInt 1)).both
            ((required members "descriptor_uri" (validStr uriRule)).both
              ((required members "trust_root_refs" validRootsJson).both
                ((required members "endpoints" validEndpointsJson).both
                  ((required members "issued_at"
                      (validInstantJson datetimeOf)).both
                    ((required members "expires_at"
                        (validInstantJson datetimeOf)).both
                      ((required members "signing_key_id"
                          (validStr keyIdRule)).both
                        ((required members "signature"
                            (validStr signatureRule)).both
                          (onlyMembers members fieldNames))))))))))
    if issuedAt.val < expiresAt.val ∧
        DistinctKeys AuthorityEndpoint.identity endpoints then
      .ok
        { ownerDomainId := owner.val
          ownerDomainGeneration := generation.val
          directoryRevision := revision.val
          descriptorUri := uri.val
          trustRootRefs := roots
          endpoints := endpoints
          issuedAt := issuedAt
          expiresAt := expiresAt
          signingKeyId := keyId.val
          signature := signature.val }
    else .error .invalid

end Json

end OwnerDomainDescriptor

/-- `OwnerDomainDescriptorV1.fromJson` of a decoded text. -/
def OwnerDomainDescriptorV1.fromJson (scan : Dart.Scanner) (zone : LocalZone) :
    Json -> Reading OwnerDomainDescriptorV1 :=
  fromObject (OwnerDomainDescriptorV1.fromMap scan zone)

/-!
## Strings
-/

/-- A digest of SHA-256. -/
def IsDigest (s : PyStr) : Prop :=
  matchesDigest "sha256:" s = true

/-- The raw signature in base64url. -/
def IsSignature (s : PyStr) : Prop :=
  s.length = 86 ∧ matchesBase64Url s = true

/-- From one to 2048 characters. -/
def IsAddress (s : PyStr) : Prop :=
  s ≠ [] ∧ s.length ≤ 2048

section Strings

variable {s : PyStr}

theorem isLowerHex_iff {c : CodePoint} :
    isLowerHex c = true <-> c ∈ str "0123456789abcdef" := by
  have hlisted : str "0123456789abcdef" =
      (List.range 10).map (fun i => Fin.ofNat 0x110000 (0x30 + i)) ++
        (List.range 6).map (fun i => Fin.ofNat 0x110000 (0x61 + i)) := by
    decide
  have hval : forall base i : Nat, base + i < 0x110000 ->
      (Fin.ofNat 0x110000 (base + i)).val = base + i :=
    fun base i h => Nat.mod_eq_of_lt h
  rw [hlisted, List.mem_append, List.mem_map, List.mem_map]
  unfold isLowerHex
  rw [Bool.or_eq_true_iff, Bool.and_eq_true_iff, Bool.and_eq_true_iff]
  simp only [decide_eq_true_eq, List.mem_range]
  constructor
  · intro hparts
    rcases hparts with h | h
    · exact Or.inl ⟨c.val - 0x30, by omega, Fin.ext (by rw [hval _ _ (by omega)]; omega)⟩
    · exact Or.inr ⟨c.val - 0x61, by omega, Fin.ext (by rw [hval _ _ (by omega)]; omega)⟩
  · intro hparts
    rcases hparts with ⟨i, hi, rfl⟩ | ⟨i, hi, rfl⟩
    · rw [hval _ _ (by omega)]
      omega
    · rw [hval _ _ (by omega)]
      omega

theorem isSha256Reference_iff : isSha256Reference s = true <-> IsDigest s := by
  have hhex : ((s.drop 7).all fun c => (str "0123456789abcdef").contains c) =
      (s.drop 7).all isLowerHex := by
    congr 1
    funext c
    rw [Bool.eq_iff_iff, isLowerHex_iff, List.contains_iff_mem]
  have hlength : (s.length == 71) = ((s.drop 7).length == 64) := by
    rw [List.length_drop, Bool.eq_iff_iff, beq_iff_eq, beq_iff_eq]
    omega
  have hword : "sha256:".length = 7 := rfl
  unfold isSha256Reference IsDigest matchesDigest
  rw [hhex, hlength, hword]

theorem isRawSignature_iff : isRawSignature s = true <-> IsSignature s := by
  unfold isRawSignature IsSignature matchesBase64Url isAlphanumeric
  simp only [Bool.and_eq_true, beq_iff_eq]
  constructor
  · intro h
    rcases h with ⟨hlength, hall⟩
    refine ⟨hlength, ?_, hall⟩
    cases s with
    | nil => cases hlength
    | cons c rest => rfl
  · intro h
    rcases h with ⟨hlength, _, hall⟩
    exact ⟨hlength, hall⟩

end Strings

/-!
## The outline
-/

/-- An integer with the property, spelled as one. -/
def IsInteger (p : Int -> Prop) (value : Json) : Prop :=
  exists n, value = .int n ∧ p n

/-- A list that has items, all with the property. -/
def IsList (p : Json -> Prop) (value : Json) : Prop :=
  exists items, value = .array items ∧ items ≠ [] ∧
    forall item, item ∈ items -> p item

/-- Digests, at least one and none of them twice. -/
def IsRoots (value : Json) : Prop :=
  exists roots : List PyStr, value = .array (roots.map .str) ∧ roots ≠ [] ∧
    roots.Nodup ∧ forall root, root ∈ roots -> IsDigest root

/-- The member is a list with the property, if it is a list. -/
def ListAt (members : Members) (name : String) (p : List Json -> Prop) : Prop :=
  MemberIf members name fun value => forall items, value = .array items -> p items

def directoryAuthorities : List String :=
  ["admission", "device-control", "body-mesh", "companion"]

def directoryProfiles : List String :=
  ["https-json", "mqtt-tls", "nats-tls"]

structure EndpointOutline (members : Members) : Prop where
  known : members.keys ⊆ AuthorityEndpoint.fieldNames.map str
  authority : MemberAt members "authority" (IsWord directoryAuthorities)
  audience : MemberAt members "logical_audience" (IsText IsLabel)
  uri : MemberAt members "uri" (IsText IsAddress)
  profile : MemberAt members "transport_profile" (IsWord directoryProfiles)
  priority : MemberAt members "priority" (IsInteger fun n => 0 ≤ n ∧ n ≤ 65535)

structure DirectoryOutline (members : Members) : Prop where
  known : members.keys ⊆ OwnerDomainDescriptor.fieldNames.map str
  owner : MemberAt members "owner_domain_id" (IsText IsLabel)
  generation : MemberAt members "owner_domain_generation"
    (IsInteger fun n => 1 ≤ n)
  revision : MemberAt members "directory_revision" (IsInteger fun n => 1 ≤ n)
  uri : MemberAt members "descriptor_uri" (IsText IsAddress)
  roots : MemberAt members "trust_root_refs" IsRoots
  endpoints : MemberAt members "endpoints" (IsList (IsObject EndpointOutline))
  keyId : MemberAt members "signing_key_id" (IsText IsDigest)
  signature : MemberAt members "signature" (IsText IsSignature)

/-- Both instants are read, and the window they span is not empty. -/
def SpansWindow (read : PyStr -> Option Int) (members : Members) : Prop :=
  exists issued expires first last, members.get "issued_at" = some (.str issued) ∧
    members.get "expires_at" = some (.str expires) ∧ read issued = some first ∧
    read expires = some last ∧ first < last

/-!
## The points of the readers
-/

/-- What tells one endpoint from another. -/
def endpointIdentity : Json -> Option Json × Option Json × Option Json
  | .object endpoint =>
      (Members.get endpoint "authority", Members.get endpoint "logical_audience",
        Members.get endpoint "uri")
  | _ => (none, none, none)

/-- The instant in UTC that a string with an offset names. -/
def pythonInstant (datetimeOf : PyStr -> Option Datetime) (s : PyStr) : Option Int :=
  (datetimeOf s).bind fun value => value.offset.bind fun offset =>
    (value.astimezoneUtc offset).map Subtype.val

/-- What Python compares a URI with. -/
def PythonUri (s : PyStr) : Prop :=
  Encodable s ∧ isHttpsUri s = true

/-- What Dart parses a URI to. -/
def DartUri (scan : Dart.Scanner) (s : PyStr) : Prop :=
  Dart.length s ≤ 2048 ∧ (httpsUri? scan s).isSome = true

structure PythonEndpointPoints (members : Members) : Prop where
  audience : TextAt members "logical_audience" Encodable
  uri : TextAt members "uri" PythonUri

structure DartEndpointPoints (scan : Dart.Scanner) (members : Members) : Prop where
  audience : TextAt members "logical_audience" fun s => Dart.length s ≤ 128
  uri : TextAt members "uri" (DartUri scan)

structure PythonDirectoryPoints (datetimeOf : PyStr -> Option Datetime)
    (members : Members) : Prop where
  owner : TextAt members "owner_domain_id" Encodable
  uri : TextAt members "descriptor_uri" PythonUri
  endpoints : PartsAre members "endpoints" PythonEndpointPoints
  unique : ListAt members "endpoints" fun items => (items.map endpointIdentity).Nodup
  window : SpansWindow (pythonInstant datetimeOf) members

structure DartDirectoryPoints (scan : Dart.Scanner) (zone : LocalZone)
    (members : Members) : Prop where
  owner : TextAt members "owner_domain_id" fun s => Dart.length s ≤ 128
  generation : MemberIf members "owner_domain_generation" Narrow
  revision : MemberIf members "directory_revision" Narrow
  uri : TextAt members "descriptor_uri" (DartUri scan)
  roots : ListAt members "trust_root_refs" fun items => items.length ≤ 16
  endpoints : PartsAre members "endpoints" (DartEndpointPoints scan)
  bounded : ListAt members "endpoints" fun items => items.length ≤ 32
  window : SpansWindow (dateTimeTryParse zone) members

/-!
## What the readers make of a value
-/

section Values

variable {scan : Dart.Scanner} {value : Json} {s : PyStr}

theorem audience_python_reads :
    Reads (Accepts (validStr audienceRule value)) (IsText IsLabel value)
      (forall s, value = .str s -> Encodable s) := by
  apply accepts_text.trans
  apply isText_reads
  intro s
  simp [StrRule.Accepts, audienceRule, IsLabel, and_comm]

theorem audience_dart_reads :
    Reads (exists s, boundedText value 128 = .ok s) (IsText IsLabel value)
      (forall s, value = .str s -> Dart.length s ≤ 128) := by
  simp only [boundedText_eq_ok]
  apply isText_reads
  intro s
  have hle := Dart.length_le s
  unfold IsLabel
  rw [← List.length_pos_iff]
  omega

theorem uri_python_reads :
    Reads (Accepts (validStr uriRule value)) (IsText IsAddress value)
      (forall s, value = .str s -> PythonUri s) := by
  apply accepts_text.trans
  apply isText_reads
  intro s
  have hne : isHttpsUri s = true -> s ≠ [] := by
    intro h hnil
    rw [hnil] at h
    revert h
    decide
  simp only [StrRule.Accepts, uriRule, IsAddress, PythonUri, Nat.zero_le, true_and,
    Option.all_some, decide_eq_true_eq]
  constructor
  · intro hparts
    rcases hparts with ⟨hencodable, hlength, hstart⟩
    exact ⟨⟨hne hstart, hlength⟩, hencodable, hstart⟩
  · intro hparts
    rcases hparts with ⟨⟨_, hlength⟩, hencodable, hstart⟩
    exact ⟨hencodable, hlength, hstart⟩

theorem uri_dart_reads :
    Reads (exists s u, boundedText value 2048 = .ok s ∧ httpsUri? scan s = some u)
      (IsText IsAddress value) (forall s, value = .str s -> DartUri scan s) := by
  simp only [boundedText_eq_ok, exists_and_left, and_assoc,
    ← Option.isSome_iff_exists]
  apply isText_reads
  intro s
  have hle := Dart.length_le s
  unfold IsAddress DartUri
  constructor
  · intro h
    rcases h with ⟨hne, hlength, huri⟩
    exact ⟨⟨hne, by omega⟩, hlength, huri⟩
  · intro h
    rcases h with ⟨⟨hne, _⟩, hlength, huri⟩
    exact ⟨hne, hlength, huri⟩

theorem accepts_validWord {α : Type} {words : List (String × α)} :
    Accepts (validWord words value) <-> IsWord (words.map Prod.fst) value := by
  constructor
  · intro h
    rcases h with ⟨a, ha⟩
    rcases Wire.validWord_ok ha with ⟨entry, hentry, heq, _⟩
    exact ⟨entry.fst, List.mem_map_of_mem hentry, heq⟩
  · intro h
    rcases h with ⟨word, hword, rfl⟩
    rcases List.mem_map.mp hword with ⟨entry, hentry, rfl⟩
    simp only [validWord]
    cases hfind : words.find? fun w => str w.fst == str entry.fst with
    | some found => exact ⟨found.snd, rfl⟩
    | none =>
        have hnone := List.find?_eq_none.mp hfind entry hentry
        simp at hnone

theorem profile_python_iff :
    Accepts (validStr transportProfileRule value) <->
      IsWord directoryProfiles value := by
  have hencodable : forall word, Encodable (str word) := encodable_str
  rw [accepts_text]
  constructor
  · intro h
    rcases h with ⟨s, rfl, hs⟩
    rcases List.any_eq_true.mp hs.right.right.right with ⟨word, hword, heq⟩
    exact ⟨word, hword, congrArg Json.str (eq_of_beq heq).symm⟩
  · intro h
    rcases h with ⟨word, hword, rfl⟩
    refine ⟨str word, rfl, hencodable word, Nat.zero_le _, rfl, ?_⟩
    exact List.any_eq_true.mpr ⟨word, hword, beq_self_eq_true _⟩

/-- A bounded text that is one of the words, none of which is too long. -/
theorem boundedWord_iff {words : List String} {maximum : Nat}
    (hwords : forall word, word ∈ words ->
      str word ≠ [] ∧ Dart.length (str word) ≤ maximum) :
    (exists s, boundedText value maximum = .ok s ∧ s ∈ words.map str) <->
      IsWord words value := by
  simp only [boundedText_eq_ok]
  constructor
  · intro h
    rcases h with ⟨s, ⟨rfl, _⟩, hs⟩
    rcases List.mem_map.mp hs with ⟨word, hword, rfl⟩
    exact ⟨word, hword, rfl⟩
  · intro h
    rcases h with ⟨word, hword, rfl⟩
    exact ⟨str word, ⟨rfl, hwords word hword⟩, List.mem_map_of_mem hword⟩

theorem priority_python_iff :
    Accepts (AuthorityEndpoint.validPriority value) <->
      IsInteger (fun n => 0 ≤ n ∧ n ≤ 65535) value := by
  cases value with
  | int n =>
      unfold AuthorityEndpoint.validPriority
      by_cases h : 0 ≤ n ∧ n ≤ 65535
      · simp only [if_pos h]
        exact iff_of_true ⟨n, rfl⟩ ⟨n, rfl, h⟩
      · simp only [if_neg h]
        refine iff_of_false nofun ?_
        intro hparts
        rcases hparts with ⟨m, heq, hm⟩
        cases heq
        exact h hm
  | null => exact iff_of_false nofun nofun
  | bool b => exact iff_of_false nofun nofun
  | float x => exact iff_of_false nofun nofun
  | str s => exact iff_of_false nofun nofun
  | array items => exact iff_of_false nofun nofun
  | object members => exact iff_of_false nofun nofun

theorem priority_dart_iff :
    (exists n, int? value = some n ∧ 0 ≤ n ∧ n ≤ 65535) <->
      IsInteger (fun n => 0 ≤ n ∧ n ≤ 65535) value := by
  simp only [int?_eq_some]
  constructor
  · intro h
    rcases h with ⟨n, ⟨heq, _⟩, hn⟩
    exact ⟨n, heq, hn⟩
  · intro h
    rcases h with ⟨n, heq, hn⟩
    refine ⟨n, ⟨heq, ?_⟩, hn⟩
    unfold inInt64
    omega

theorem counter_python_iff :
    Accepts (validInt 1 value) <-> IsInteger (fun n => 1 ≤ n) value := by
  constructor
  · intro h
    rcases h with ⟨n, hn⟩
    exact ⟨n.val, validInt_ok_iff.mp hn, n.property⟩
  · intro h
    rcases h with ⟨n, heq, hn⟩
    exact ⟨⟨n, hn⟩, validInt_ok_iff.mpr heq⟩

theorem counter_dart_reads :
    Reads (exists n, positive? value = some n) (IsInteger (fun n => 1 ≤ n) value)
      (Narrow value) := by
  apply positive?_reads.trans
  constructor
  · intro h
    rcases h with ⟨hcounter, ⟨n, rfl⟩, hnarrow⟩
    exact ⟨⟨n, rfl, isCounter_int.mp hcounter⟩, hnarrow⟩
  · intro h
    rcases h with ⟨⟨n, rfl, hn⟩, hnarrow⟩
    exact ⟨isCounter_int.mpr hn, ⟨n, rfl⟩, hnarrow⟩

theorem digest_ascii : AsciiOnly (matchesDigest "sha256:") :=
  matchesDigest_ascii (by decide)

theorem digest_python_iff :
    Accepts (validStr OwnerDomainDescriptor.keyIdRule value) <->
      IsText IsDigest value := by
  apply accepts_text.trans
  apply isText_congr
  intro s
  constructor
  · intro h
    exact isSha256Reference_iff.mp h.right.right.right
  · intro h
    exact ⟨digest_ascii.encodable h, Nat.zero_le _, rfl, isSha256Reference_iff.mpr h⟩

theorem digest_dart_iff :
    (exists s, digestText value = .ok s) <-> IsText IsDigest value := by
  apply patternText_ok.trans
  apply isText_congr
  intro s
  constructor
  · exact And.right
  · intro h
    have hlength : s.length = 71 := matchesDigest_length h
    rw [digest_ascii.length_eq h, hlength]
    refine ⟨⟨?_, by decide⟩, h⟩
    intro hnil
    rw [hnil] at hlength
    cases hlength

theorem signature_python_iff :
    Accepts (validStr OwnerDomainDescriptor.signatureRule value) <->
      IsText IsSignature value := by
  apply accepts_text.trans
  apply isText_congr
  intro s
  constructor
  · intro h
    exact isRawSignature_iff.mp h.right.right.right
  · intro h
    exact ⟨matchesBase64Url_ascii.encodable h.right, Nat.zero_le _, rfl,
      isRawSignature_iff.mpr h⟩

theorem signature_dart_iff :
    (exists s, signatureText value = .ok s) <-> IsText IsSignature value := by
  apply patternText_ok.trans
  apply isText_congr
  intro s
  unfold IsSignature
  simp only [Bool.and_eq_true, beq_iff_eq]
  constructor
  · exact And.right
  · intro h
    have hlength := (matchesBase64Url_ascii.length_eq h.right).trans h.left
    refine ⟨⟨?_, hlength.le⟩, h⟩
    intro hnil
    rw [hnil] at h
    cases h.left

end Values

/-!
## Endpoints
-/

section Endpoint

variable {scan : Dart.Scanner} {members : Members}

/-- What a reader decides about an endpoint, put together from the members. -/
theorem endpoint_reads {audience uri : Json -> Prop} {audiencePoint uriPoint : PyStr -> Prop}
    (haudience : forall value, Reads (audience value) (IsText IsLabel value)
      (forall s, value = .str s -> audiencePoint s))
    (huri : forall value, Reads (uri value) (IsText IsAddress value)
      (forall s, value = .str s -> uriPoint s)) :
    Reads
      (members.keys ⊆ AuthorityEndpoint.fieldNames.map str ∧
        MemberAt members "authority" (IsWord directoryAuthorities) ∧
        MemberAt members "logical_audience" audience ∧
        MemberAt members "uri" uri ∧
        MemberAt members "transport_profile" (IsWord directoryProfiles) ∧
        MemberAt members "priority" (IsInteger fun n => 0 ≤ n ∧ n ≤ 65535))
      (EndpointOutline members)
      (TextAt members "logical_audience" audiencePoint ∧
        TextAt members "uri" uriPoint) := by
  have hparts := (@memberAt_reads members "logical_audience" _ _ _ haudience).and
    (@memberAt_reads members "uri" _ _ _ huri)
  constructor
  · intro h
    rcases h with ⟨hknown, hauthority, haudience, huri, hprofile, hpriority⟩
    rcases hparts.mp ⟨haudience, huri⟩ with ⟨⟨haudience, huri⟩, hpoints⟩
    exact ⟨⟨hknown, hauthority, haudience, huri, hprofile, hpriority⟩, hpoints⟩
  · intro h
    rcases h with ⟨houtline, hpoints⟩
    rcases hparts.mpr ⟨⟨houtline.audience, houtline.uri⟩, hpoints⟩ with
      ⟨haudience, huri⟩
    exact ⟨houtline.known, houtline.authority, haudience, huri, houtline.profile,
      houtline.priority⟩

theorem endpoint_python_reads :
    Reads (Accepts (AuthorityEndpoint.validateJson (.object members)))
      (EndpointOutline members) (PythonEndpointPoints members) := by
  have hparts := @endpoint_reads members _ _ _ _ (fun _ => audience_python_reads)
    (fun _ => uri_python_reads)
  refine Iff.trans ?_ (hparts.trans (and_congr_right fun _ =>
    ⟨fun h => ⟨h.left, h.right⟩, fun h => ⟨h.audience, h.uri⟩⟩))
  have hauthority : forall value, Accepts (validWord AuthorityEndpoint.authorities value) <->
      IsWord directoryAuthorities value :=
    fun _ => accepts_validWord
  rw [← memberAt_congr hauthority, ← memberAt_congr fun _ => profile_python_iff,
    ← memberAt_congr fun _ => priority_python_iff]
  unfold AuthorityEndpoint.validateJson validModel
  rw [accepts_map]
  simp only [accepts_both, accepts_required, accepts_onlyMembers]
  constructor
  · intro hparts
    rcases hparts with ⟨hauthority, haudience, huri, hprofile, hpriority, hknown⟩
    exact ⟨hknown, hauthority, haudience, huri, hprofile, hpriority⟩
  · intro hparts
    rcases hparts with ⟨hknown, hauthority, haudience, huri, hprofile, hpriority⟩
    exact ⟨hauthority, haudience, huri, hprofile, hpriority, hknown⟩

theorem endpoint_dart_reads :
    Reads
      (exists endpoint, AuthorityEndpointV1.fromItem scan (.object members) =
        .ok endpoint)
      (EndpointOutline members) (DartEndpointPoints scan members) := by
  have hparts := @endpoint_reads members _ _ _ _ (fun _ => audience_dart_reads)
    (fun value => @uri_dart_reads scan value)
  refine Iff.trans ?_ (hparts.trans (and_congr_right fun _ =>
    ⟨fun h => ⟨h.left, h.right⟩, fun h => ⟨h.audience, h.uri⟩⟩))
  have hauthority := (@memberAt_getOrNone members "authority"
    (fun value => exists s, boundedText value 32 = .ok s ∧
      s ∈ AuthorityEndpointV1.authorities) (fun ⟨_, h, _⟩ => nomatch h)).trans
    (memberAt_congr fun _ => @boundedWord_iff _ directoryAuthorities 32
      (by decide))
  have haudience := @memberAt_getOrNone members "logical_audience"
    (fun value => exists s, boundedText value 128 = .ok s) (fun ⟨_, h⟩ => nomatch h)
  have huri := @memberAt_getOrNone members "uri"
    (fun value => exists s u, boundedText value 2048 = .ok s ∧ httpsUri? scan s = some u)
    (fun ⟨_, _, h, _⟩ => nomatch h)
  have hprofile := (@memberAt_getOrNone members "transport_profile"
    (fun value => exists s, boundedText value 32 = .ok s ∧
      s ∈ AuthorityEndpointV1.profiles) (fun ⟨_, h, _⟩ => nomatch h)).trans
    (memberAt_congr fun _ => @boundedWord_iff _ directoryProfiles 32
      (by decide))
  have hpriority := (@memberAt_getOrNone members "priority"
    (fun value => exists n, int? value = some n ∧ 0 ≤ n ∧ n ≤ 65535)
    (fun ⟨_, h, _⟩ => nomatch h)).trans (memberAt_congr fun _ => priority_dart_iff)
  simp only [AuthorityEndpointV1.fromItem_eq_ok, Json.object.injEq, exists_eq_left']
  constructor
  · intro hparts
    rcases hparts with ⟨e, h⟩
    rcases h.uri with ⟨text, htext, hu⟩
    rcases h.words with ⟨hauthorities, hprofiles, hbounds⟩
    exact ⟨h.keys.left, hauthority.mp ⟨_, h.authority, hauthorities⟩,
      haudience.mp ⟨_, h.audience⟩, huri.mp ⟨text, _, htext, hu⟩,
      hprofile.mp ⟨_, h.profile, hprofiles⟩, hpriority.mp ⟨_, h.priority, hbounds⟩⟩
  · intro hparts
    rcases hparts with ⟨hknown, hauthorityAt, haudienceAt, huriAt, hprofileAt,
      hpriorityAt⟩
    rcases hauthority.mpr hauthorityAt with ⟨authority, hauthorityRead, hauthorities⟩
    rcases haudience.mpr haudienceAt with ⟨audience, haudienceRead⟩
    rcases huri.mpr huriAt with ⟨text, u, htext, hu⟩
    rcases hprofile.mpr hprofileAt with ⟨profile, hprofileRead, hprofiles⟩
    rcases hpriority.mpr hpriorityAt with ⟨priority, hpriorityRead, hbounds⟩
    have hcomplete : AuthorityEndpointV1.keys.map str ⊆ members.keys := by
      simp only [AuthorityEndpointV1.keys, List.map_cons, List.map_nil,
        List.cons_subset, List.nil_subset, and_true]
      exact ⟨hauthorityAt.mem_keys, haudienceAt.mem_keys, huriAt.mem_keys,
        hprofileAt.mem_keys, hpriorityAt.mem_keys⟩
    exact ⟨⟨authority, audience, u, profile, priority⟩, ⟨hknown, hcomplete⟩,
      hauthorityRead, haudienceRead, ⟨text, htext, hu⟩, hprofileRead, hpriorityRead,
      hauthorities, hprofiles, hbounds⟩

end Endpoint

/-!
## Lists
-/

section Lists

variable {scan : Dart.Scanner} {value : Json}

theorem list_reads {p q a : Json -> Prop}
    (h : forall item, Reads (p item) (q item) (a item)) :
    Reads (IsList p value) (IsList q value) (EachItem a value) := by
  apply Reads.within fun _ _ => Json.array.inj
  intro items
  have hitems := @Reads.forall _ (fun item => item ∈ items) _ _ _ fun item _ => h item
  constructor
  · intro hparts
    rcases hparts with ⟨hne, hp⟩
    rcases hitems.mp hp with ⟨hq, ha⟩
    exact ⟨⟨hne, hq⟩, ha⟩
  · intro hparts
    rcases hparts with ⟨⟨hne, hq⟩, ha⟩
    exact ⟨hne, hitems.mpr ⟨hq, ha⟩⟩

/-- An item of a list of objects. -/
theorem item_reads {p : Json -> Prop} {q a : Members -> Prop}
    (hobject : forall item, p item -> exists members, item = .object members)
    (h : forall members, Reads (p (.object members)) (q members) (a members))
    (item : Json) :
    Reads (p item) (IsObject q item)
      (forall members, item = .object members -> a members) := by
  have hwithin := @Reads.within _ _ Json.object (fun _ _ => Json.object.inj) _ _ _
    item h
  refine Iff.trans ?_ hwithin
  constructor
  · intro hp
    rcases hobject item hp with ⟨members, rfl⟩
    exact ⟨members, rfl, hp⟩
  · intro hparts
    rcases hparts with ⟨members, rfl, hp⟩
    exact hp

theorem endpoints_python_reads :
    Reads (IsList (fun item => Accepts (AuthorityEndpoint.validateJson item)) value)
      (IsList (IsObject EndpointOutline) value)
      (EachItem (fun item => forall part, item = .object part ->
        PythonEndpointPoints part) value) := by
  apply list_reads
  apply item_reads
  · intro item hparts
    rcases hparts with ⟨endpoint, h⟩
    rcases validModel_eq_ok.mp h with ⟨members, heq, _⟩
    exact ⟨members, heq⟩
  · intro members
    exact endpoint_python_reads

theorem endpoints_dart_reads :
    Reads
      (IsList (fun item => exists endpoint,
        AuthorityEndpointV1.fromItem scan item = .ok endpoint) value)
      (IsList (IsObject EndpointOutline) value)
      (EachItem (fun item => forall part, item = .object part ->
        DartEndpointPoints scan part) value) := by
  apply list_reads
  apply item_reads
  · intro item hparts
    rcases hparts with ⟨endpoint, h⟩
    rcases AuthorityEndpointV1.fromItem_eq_ok.mp h with ⟨members, heq, _⟩
    exact ⟨members, heq⟩
  · intro members
    exact endpoint_dart_reads

theorem jsonTuple_eq_ok {α : Type} {validate : Validator α} {values : List α} :
    jsonTuple validate value = .ok values <->
      exists items, value = .array items ∧
        List.Forall₂ (fun item a => validate item = .ok a) items values := by
  cases value with
  | array items => simp [jsonTuple, validItems_eq_ok]
  | null => simp [jsonTuple]
  | bool b => simp [jsonTuple]
  | int n => simp [jsonTuple]
  | float x => simp [jsonTuple]
  | str s => simp [jsonTuple]
  | object members => simp [jsonTuple]

/-- The identity of an endpoint as its members spell it. -/
def identityMembers :
    LogicalAuthority × PyStr × PyStr -> Option Json × Option Json × Option Json
  | (authority, audience, uri) =>
      (some (.str authority.value), some (.str audience), some (.str uri))

theorem identityMembers_injective : Function.Injective identityMembers := by
  intro x y h
  rcases x with ⟨authority, audience, uri⟩
  rcases y with ⟨authority', audience', uri'⟩
  simp only [identityMembers, Prod.mk.injEq, Option.some.injEq, Json.str.injEq] at h
  rcases h with ⟨hauthority, rfl, rfl⟩
  rw [LogicalAuthority.value_inj hauthority]

theorem AuthorityEndpoint.identity_of_ok {item : Json} {endpoint : AuthorityEndpoint}
    (h : validateJson item = .ok endpoint) :
    endpointIdentity item = identityMembers endpoint.identity := by
  rcases validModel_eq_ok.mp h with ⟨members, rfl, hvalid⟩
  rcases Validated.map_eq_ok.mp hvalid with
    ⟨⟨authority, audience, uri, profile, priority, _⟩, hboth, rfl⟩
  simp only [Validated.both_eq_ok, required_eq_ok] at hboth
  rcases hboth with ⟨⟨v, hget, hauthority⟩, ⟨w, hget', haudience⟩, ⟨x, hget'', huri⟩, _⟩
  rw [validStr_ok_iff.mp haudience] at hget'
  rw [validStr_ok_iff.mp huri] at hget''
  have hword : v = .str authority.value := by
    rcases Wire.validWord_ok hauthority with ⟨entry, hentry, rfl, rfl⟩
    simp only [authorities, List.mem_cons, List.not_mem_nil, or_false] at hentry
    rcases hentry with rfl | rfl | rfl | rfl
    all_goals rfl
  rw [hword] at hget
  simp only [endpointIdentity, hget, hget', hget'']
  rfl

/-- The endpoints Python reads are told apart as the items of the list are. -/
theorem endpoints_python_iff :
    (exists endpoints, OwnerDomainDescriptor.validEndpointsJson value = .ok endpoints ∧
      DistinctKeys AuthorityEndpoint.identity endpoints) <->
      IsList (fun item => Accepts (AuthorityEndpoint.validateJson item)) value ∧
        forall items, value = .array items -> (items.map endpointIdentity).Nodup := by
  have hidentities : forall {items : List Json} {endpoints : List AuthorityEndpoint},
      List.Forall₂ (fun item a => AuthorityEndpoint.validateJson item = .ok a) items
        endpoints ->
      items.map endpointIdentity =
        (endpoints.map AuthorityEndpoint.identity).map identityMembers := by
    intro items endpoints h
    induction h with
    | nil => rfl
    | cons hitem _ ih =>
        rw [List.map_cons, List.map_cons, List.map_cons, ih,
          AuthorityEndpoint.identity_of_ok hitem]
  have hread : forall endpoints,
      OwnerDomainDescriptor.validEndpointsJson value = .ok endpoints <->
        jsonTuple AuthorityEndpoint.validateJson value = .ok endpoints ∧
          endpoints ≠ [] := by
    intro endpoints
    unfold OwnerDomainDescriptor.validEndpointsJson
    rw [Logic.bind_eq_ok]
    constructor
    · intro hparts
      rcases hparts with ⟨read, hread, hchecked⟩
      split at hchecked
      · rename_i hne
        cases hchecked
        exact ⟨hread, hne⟩
      · cases hchecked
    · intro hparts
      rcases hparts with ⟨hread, hne⟩
      exact ⟨endpoints, hread, if_pos hne⟩
  simp only [hread, jsonTuple_eq_ok, distinctKeys_iff]
  constructor
  · intro hparts
    rcases hparts with ⟨endpoints, ⟨⟨items, rfl, hitems⟩, hne⟩, hdistinct⟩
    refine ⟨⟨items, rfl, ?_, exists_forall₂_iff.mp ⟨endpoints, hitems⟩⟩, ?_⟩
    · intro hnil
      rw [hnil, List.forall₂_nil_left_iff] at hitems
      exact hne hitems
    · intro items' heq
      cases heq
      rw [hidentities hitems]
      exact hdistinct.map identityMembers_injective
  · intro hparts
    rcases hparts with ⟨⟨items, rfl, hne, hitems⟩, hdistinct⟩
    rcases exists_forall₂_iff.mpr hitems with ⟨endpoints, hread⟩
    refine ⟨endpoints, ⟨⟨items, rfl, hread⟩, ?_⟩, ?_⟩
    · intro hnil
      rw [hnil, List.forall₂_nil_right_iff] at hread
      exact hne hread
    · have hnodup := hdistinct items rfl
      rw [hidentities hread] at hnodup
      exact hnodup.of_map identityMembers

theorem endpoints_dart_iff :
    (exists items endpoints, boundedList? value 32 = some items ∧
      readList (AuthorityEndpointV1.fromItem scan) items = .ok endpoints) <->
      IsList (fun item => exists endpoint,
          AuthorityEndpointV1.fromItem scan item = .ok endpoint) value ∧
        forall items, value = .array items -> items.length ≤ 32 := by
  simp only [boundedList?_eq_some, exists_and_left, readList_eq_ok,
    exists_forall₂_iff]
  constructor
  · intro h
    rcases h with ⟨items, ⟨rfl, hne, hlength⟩, hitems⟩
    refine ⟨⟨items, rfl, hne, hitems⟩, ?_⟩
    intro items' heq
    cases heq
    exact hlength
  · intro h
    rcases h with ⟨⟨items, rfl, hne, hitems⟩, hlength⟩
    exact ⟨items, ⟨rfl, hne, hlength items rfl⟩, hitems⟩

/-- A list of strings, read one by one. -/
theorem forall₂_texts {p : PyStr -> Prop} {items : List Json} {texts : List PyStr} :
    List.Forall₂ (fun item text => item = .str text ∧ p text) items texts <->
      items = texts.map .str ∧ forall text, text ∈ texts -> p text := by
  induction texts generalizing items with
  | nil =>
      rw [List.forall₂_nil_right_iff]
      exact (and_iff_left nofun).symm
  | cons text rest ih =>
      rw [List.forall₂_cons_right_iff, List.forall_mem_cons, List.map_cons]
      constructor
      · intro h
        rcases h with ⟨item, others, ⟨rfl, hfirst⟩, hothers, rfl⟩
        rcases ih.mp hothers with ⟨rfl, hrest⟩
        exact ⟨rfl, hfirst, hrest⟩
      · intro h
        rcases h with ⟨rfl, hfirst, hrest⟩
        exact ⟨_, _, ⟨rfl, hfirst⟩, ih.mpr ⟨rfl, hrest⟩, rfl⟩

theorem anyText_eq_ok {s : PyStr} :
    Wire.anyText.validate value = .ok s <-> value = .str s := by
  cases value with
  | str t => simp [Wire.anyText]
  | null => exact iff_of_false (fun h => by cases h) (fun h => by cases h)
  | bool b => exact iff_of_false (fun h => by cases h) (fun h => by cases h)
  | int n => exact iff_of_false (fun h => by cases h) (fun h => by cases h)
  | float x => exact iff_of_false (fun h => by cases h) (fun h => by cases h)
  | array items => exact iff_of_false (fun h => by cases h) (fun h => by cases h)
  | object members => exact iff_of_false (fun h => by cases h) (fun h => by cases h)

theorem roots_python_iff :
    Accepts (OwnerDomainDescriptor.validRootsJson value) <-> IsRoots value := by
  have htuple : forall roots : List PyStr,
      jsonTuple Wire.anyText.validate value = .ok roots <->
        value = .array (roots.map .str) := by
    intro roots
    simp only [jsonTuple_eq_ok, anyText_eq_ok]
    have htexts := fun items => @forall₂_texts (fun _ => True) items roots
    simp only [and_true, implies_true] at htexts
    simp only [htexts, exists_eq_right]
  unfold OwnerDomainDescriptor.validRootsJson
  rw [accepts_bind]
  constructor
  · intro hparts
    rcases hparts with ⟨roots, htexts, hchecked⟩
    rcases hchecked with ⟨checked, hchecked⟩
    split at hchecked
    · rename_i h
      refine ⟨roots, (htuple roots).mp htexts, h.left, h.right.left, ?_⟩
      intro root hroot
      exact isSha256Reference_iff.mp (List.all_eq_true.mp h.right.right root hroot)
    · cases hchecked
  · intro hparts
    rcases hparts with ⟨roots, heq, hne, hnodup, hdigests⟩
    refine ⟨roots, (htuple roots).mpr heq, roots, if_pos ⟨hne, hnodup, ?_⟩⟩
    apply List.all_eq_true.mpr
    intro root hroot
    exact isSha256Reference_iff.mpr (hdigests root hroot)

theorem digestText_eq_ok {s : PyStr} :
    digestText value = .ok s <-> value = .str s ∧ IsDigest s := by
  constructor
  · intro h
    have hread := patternText_eq_ok.mp h
    exact ⟨hread.left, hread.right.right⟩
  · intro hparts
    rcases hparts with ⟨rfl, h⟩
    rcases digest_dart_iff.mpr ⟨s, rfl, h⟩ with ⟨t, ht⟩
    rw [ht]
    exact congrArg Except.ok (Json.str.inj (patternText_eq_ok.mp ht).left).symm

theorem roots_dart_iff :
    (exists items roots, boundedList? value 16 = some items ∧
      readList digestText items = .ok roots ∧ roots.Nodup) <->
      IsRoots value ∧ forall items, value = .array items -> items.length ≤ 16 := by
  simp only [boundedList?_eq_some, readList_eq_ok, digestText_eq_ok, forall₂_texts]
  constructor
  · intro h
    rcases h with ⟨items, roots, ⟨rfl, hne, hlength⟩, ⟨rfl, hdigests⟩, hnodup⟩
    refine ⟨⟨roots, rfl, ?_, hnodup, hdigests⟩, ?_⟩
    · intro hnil
      rw [hnil] at hne
      exact hne rfl
    · intro items' heq
      cases heq
      exact hlength
  · intro h
    rcases h with ⟨⟨roots, rfl, hne, hnodup, hdigests⟩, hlength⟩
    refine ⟨_, roots, ⟨rfl, ?_, hlength _ rfl⟩, ⟨rfl, hdigests⟩, hnodup⟩
    intro hnil
    exact hne (List.map_eq_nil_iff.mp hnil)

end Lists

/-!
## Windows
-/

section Window

variable {datetimeOf : PyStr -> Option Datetime} {scan : Dart.Scanner}
variable {zone : LocalZone} {members : Members} {value : Json}

theorem pythonInstant_eq_some {s : PyStr} {instant : Instant} :
    OwnerDomainDescriptor.validInstantJson datetimeOf (.str s) = .ok instant <->
      pythonInstant datetimeOf s = some instant.val := by
  unfold OwnerDomainDescriptor.validInstantJson pythonInstant utcInstant
  dsimp only
  cases datetimeOf s with
  | none => exact iff_of_false nofun nofun
  | some value =>
      dsimp only [Option.bind_some]
      cases value.offset with
      | none => exact iff_of_false nofun nofun
      | some offset =>
          dsimp only [Option.bind_some]
          cases value.astimezoneUtc offset with
          | none => exact iff_of_false nofun nofun
          | some found =>
              rw [Option.map_some, Option.some.injEq]
              exact ⟨fun h => congrArg Subtype.val (Except.ok.inj h),
                fun h => congrArg Except.ok (Subtype.ext h)⟩

theorem validInstantJson_eq_ok {instant : Instant} :
    OwnerDomainDescriptor.validInstantJson datetimeOf value = .ok instant <->
      exists s, value = .str s ∧ pythonInstant datetimeOf s = some instant.val := by
  cases value with
  | str s => simp [pythonInstant_eq_some]
  | null => exact iff_of_false nofun nofun
  | bool b => exact iff_of_false nofun nofun
  | int n => exact iff_of_false nofun nofun
  | float x => exact iff_of_false nofun nofun
  | array items => exact iff_of_false nofun nofun
  | object members => exact iff_of_false nofun nofun

/-- What Python reads is an instant. -/
theorem exists_instant {s : PyStr} {n : Int}
    (h : pythonInstant datetimeOf s = some n) :
    exists instant : Instant, instant.val = n := by
  unfold pythonInstant at h
  rcases Option.bind_eq_some_iff.mp h with ⟨value, _, h⟩
  rcases Option.bind_eq_some_iff.mp h with ⟨offset, _, h⟩
  rcases Option.map_eq_some_iff.mp h with ⟨instant, _, h⟩
  exact ⟨instant, h⟩

theorem window_python_iff :
    (exists issued expires : Instant,
      required members "issued_at"
          (OwnerDomainDescriptor.validInstantJson datetimeOf) = .ok issued ∧
        required members "expires_at"
          (OwnerDomainDescriptor.validInstantJson datetimeOf) = .ok expires ∧
        issued.val < expires.val) <->
      SpansWindow (pythonInstant datetimeOf) members := by
  simp only [required_eq_ok, validInstantJson_eq_ok]
  constructor
  · intro h
    rcases h with ⟨issued, expires, ⟨_, hissued, s, rfl, hs⟩, ⟨_, hexpires, t, rfl,
      ht⟩, hlt⟩
    exact ⟨s, t, _, _, hissued, hexpires, hs, ht, hlt⟩
  · intro h
    rcases h with ⟨s, t, first, last, hissued, hexpires, hs, ht, hlt⟩
    rcases exists_instant hs with ⟨issued, rfl⟩
    rcases exists_instant ht with ⟨expires, rfl⟩
    exact ⟨issued, expires, ⟨_, hissued, s, rfl, hs⟩, ⟨_, hexpires, t, rfl, ht⟩, hlt⟩

theorem window_dart_iff :
    (exists issued expires first last,
      castString (members.getOrNone "issued_at") = .ok issued ∧
        castString (members.getOrNone "expires_at") = .ok expires ∧
        dateTimeTryParse zone issued = some first ∧
        dateTimeTryParse zone expires = some last ∧ first < last) <->
      SpansWindow (dateTimeTryParse zone) members := by
  constructor
  · intro h
    rcases h with ⟨issued, expires, first, last, hissued, hexpires, hfirst, hlast, hlt⟩
    exact ⟨issued, expires, first, last, get_of_castString hissued hfirst,
      get_of_castString hexpires hlast, hfirst, hlast, hlt⟩
  · intro h
    rcases h with ⟨issued, expires, first, last, hissued, hexpires, hfirst, hlast, hlt⟩
    exact ⟨issued, expires, first, last,
      castString_eq_ok.mpr (Or.inl (getOrNone_str.mpr hissued)),
      castString_eq_ok.mpr (Or.inl (getOrNone_str.mpr hexpires)), hfirst, hlast, hlt⟩

end Window

/-!
## Directories
-/

section Directory

variable {datetimeOf : PyStr -> Option Datetime} {scan : Dart.Scanner}
variable {zone : LocalZone} {members : Members}

/-- What a reader decides, put together from the members. -/
theorem directory_reads {owner uri counter roots endpoints : Json -> Prop}
    {ownerPoint uriPoint : PyStr -> Prop}
    {counterPoint rootsPoint endpointsPoint : Json -> Prop} {window : Prop}
    (howner : forall value, Reads (owner value) (IsText IsLabel value)
      (forall s, value = .str s -> ownerPoint s))
    (hcounter : forall value, Reads (counter value)
      (IsInteger (fun n => 1 ≤ n) value) (counterPoint value))
    (huri : forall value, Reads (uri value) (IsText IsAddress value)
      (forall s, value = .str s -> uriPoint s))
    (hroots : forall value, Reads (roots value) (IsRoots value) (rootsPoint value))
    (hendpoints : forall value, Reads (endpoints value)
      (IsList (IsObject EndpointOutline) value) (endpointsPoint value)) :
    Reads
      (members.keys ⊆ OwnerDomainDescriptor.fieldNames.map str ∧
        MemberAt members "owner_domain_id" owner ∧
        MemberAt members "owner_domain_generation" counter ∧
        MemberAt members "directory_revision" counter ∧
        MemberAt members "descriptor_uri" uri ∧
        MemberAt members "trust_root_refs" roots ∧
        MemberAt members "endpoints" endpoints ∧ window ∧
        MemberAt members "signing_key_id" (IsText IsDigest) ∧
        MemberAt members "signature" (IsText IsSignature))
      (DirectoryOutline members)
      (TextAt members "owner_domain_id" ownerPoint ∧
        (MemberIf members "owner_domain_generation" counterPoint ∧
          MemberIf members "directory_revision" counterPoint) ∧
        TextAt members "descriptor_uri" uriPoint ∧
        MemberIf members "trust_root_refs" rootsPoint ∧
        MemberIf members "endpoints" endpointsPoint ∧ window) := by
  have hparts := (@memberAt_reads members "owner_domain_id" _ _ _ howner).and
    (((@memberAt_reads members "owner_domain_generation" _ _ _ hcounter).and
      (@memberAt_reads members "directory_revision" _ _ _ hcounter)).and
        ((@memberAt_reads members "descriptor_uri" _ _ _ huri).and
          ((@memberAt_reads members "trust_root_refs" _ _ _ hroots).and
            (@memberAt_reads members "endpoints" _ _ _ hendpoints))))
  constructor
  · intro h
    rcases h with ⟨hknown, howner, hgeneration, hrevision, huri, hroots, hendpoints,
      hwindow, hkeyId, hsignature⟩
    rcases hparts.mp ⟨howner, ⟨hgeneration, hrevision⟩, huri, hroots, hendpoints⟩ with
      ⟨⟨howner, ⟨hgeneration, hrevision⟩, huri, hroots, hendpoints⟩, hpoints⟩
    rcases hpoints with ⟨hownerPoint, hcounters, huriPoint, hrootsPoint, hendpointsPoint⟩
    exact ⟨⟨hknown, howner, hgeneration, hrevision, huri, hroots, hendpoints, hkeyId,
      hsignature⟩, hownerPoint, hcounters, huriPoint, hrootsPoint, hendpointsPoint,
      hwindow⟩
  · intro h
    rcases h with ⟨houtline, hownerPoint, hcounters, huriPoint, hrootsPoint,
      hendpointsPoint, hwindow⟩
    rcases hparts.mpr ⟨⟨houtline.owner, ⟨houtline.generation, houtline.revision⟩,
      houtline.uri, houtline.roots, houtline.endpoints⟩, hownerPoint, hcounters,
      huriPoint, hrootsPoint, hendpointsPoint⟩ with
      ⟨howner, ⟨hgeneration, hrevision⟩, huri, hroots, hendpoints⟩
    exact ⟨houtline.known, howner, hgeneration, hrevision, huri, hroots, hendpoints,
      hwindow, houtline.keyId, houtline.signature⟩

/-- The Python model, member by member. -/
theorem directory_python_iff :
    Accepts (OwnerDomainDescriptor.validateJson datetimeOf (.object members)) <->
      members.keys ⊆ OwnerDomainDescriptor.fieldNames.map str ∧
        MemberAt members "owner_domain_id"
          (fun value => Accepts (validStr audienceRule value)) ∧
        MemberAt members "owner_domain_generation"
          (fun value => Accepts (validInt 1 value)) ∧
        MemberAt members "directory_revision"
          (fun value => Accepts (validInt 1 value)) ∧
        MemberAt members "descriptor_uri"
          (fun value => Accepts (validStr uriRule value)) ∧
        MemberAt members "trust_root_refs"
          (fun value => Accepts (OwnerDomainDescriptor.validRootsJson value)) ∧
        MemberAt members "endpoints" (fun value => exists endpoints,
          OwnerDomainDescriptor.validEndpointsJson value = .ok endpoints ∧
            DistinctKeys AuthorityEndpoint.identity endpoints) ∧
        SpansWindow (pythonInstant datetimeOf) members ∧
        MemberAt members "signing_key_id"
          (fun value => Accepts (validStr OwnerDomainDescriptor.keyIdRule value)) ∧
        MemberAt members "signature"
          (fun value => Accepts (validStr OwnerDomainDescriptor.signatureRule value)) := by
  have hat : forall {α : Type} {name : String} {validate : Validator α},
      (exists a, required members name validate = .ok a) <->
        MemberAt members name fun value => Accepts (validate value) :=
    accepts_required
  rw [← window_python_iff]
  unfold OwnerDomainDescriptor.validateJson validModel
  rw [accepts_bind]
  simp only [Prod.exists, Validated.both_eq_ok, onlyMembers_eq_ok]
  constructor
  · intro hparts
    rcases hparts with ⟨owner, generation, revision, uri, roots, endpoints, issued,
      expires, keyId, signature, _, ⟨howner, hgeneration, hrevision, huri, hroots,
      hendpoints, hissued, hexpires, hkeyId, hsignature, hknown⟩, directory,
      hdirectory⟩
    split at hdirectory
    · rename_i h
      rcases required_eq_ok.mp hendpoints with ⟨value, hget, hvalue⟩
      exact ⟨hknown, hat.mp ⟨_, howner⟩, hat.mp ⟨_, hgeneration⟩, hat.mp ⟨_, hrevision⟩,
        hat.mp ⟨_, huri⟩, hat.mp ⟨_, hroots⟩, ⟨value, hget, endpoints, hvalue, h.right⟩,
        ⟨issued, expires, hissued, hexpires, h.left⟩, hat.mp ⟨_, hkeyId⟩,
        hat.mp ⟨_, hsignature⟩⟩
    · cases hdirectory
  · intro hparts
    rcases hparts with ⟨hknown, howner, hgeneration, hrevision, huri, hroots, ⟨value,
      hget, endpoints, hendpoints, hdistinct⟩, ⟨issued, expires, hissued, hexpires,
      hwindow⟩, hkeyId, hsignature⟩
    rcases hat.mpr howner with ⟨owner, howner⟩
    rcases hat.mpr hgeneration with ⟨generation, hgeneration⟩
    rcases hat.mpr hrevision with ⟨revision, hrevision⟩
    rcases hat.mpr huri with ⟨uri, huri⟩
    rcases hat.mpr hroots with ⟨roots, hroots⟩
    rcases hat.mpr hkeyId with ⟨keyId, hkeyId⟩
    rcases hat.mpr hsignature with ⟨signature, hsignature⟩
    exact ⟨owner, generation, revision, uri, roots, endpoints, issued, expires, keyId,
      signature, (), ⟨howner, hgeneration, hrevision, huri, hroots,
      required_eq_ok.mpr ⟨value, hget, hendpoints⟩, hissued, hexpires, hkeyId,
      hsignature, hknown⟩, _, if_pos ⟨hwindow, hdistinct⟩⟩

theorem directory_python_reads :
    Reads (Accepts (OwnerDomainDescriptor.validateJson datetimeOf (.object members)))
      (DirectoryOutline members) (PythonDirectoryPoints datetimeOf members) := by
  have hparts := @directory_reads members _ _ _ _ _ _ _ _ _ _
    (SpansWindow (pythonInstant datetimeOf) members)
    (fun _ => audience_python_reads)
    (fun _ => Reads.of_outline counter_python_iff) (fun _ => uri_python_reads)
    (fun _ => Reads.of_outline roots_python_iff)
    (fun _ => endpoints_python_iff.trans endpoints_python_reads.and_point)
  refine directory_python_iff.trans (Iff.trans ?_ (hparts.trans
    (and_congr_right fun _ => ?_)))
  · rw [memberAt_congr fun _ => digest_python_iff,
      memberAt_congr fun _ => signature_python_iff]
  · constructor
    · intro hparts
      rcases hparts with ⟨howner, _, huri, _, hendpoints, hwindow⟩
      exact ⟨howner, huri, fun value hget => (hendpoints value hget).left,
        fun value hget => (hendpoints value hget).right, hwindow⟩
    · intro h
      exact ⟨h.owner, ⟨fun _ _ => trivial, fun _ _ => trivial⟩, h.uri,
        fun _ _ => trivial,
        fun value hget => ⟨h.endpoints value hget, h.unique value hget⟩, h.window⟩

/-- The Dart reader, member by member. -/
theorem directory_dart_iff :
    (exists directory, OwnerDomainDescriptorV1.fromJson scan zone (.object members) =
      .ok directory) <->
      members.keys ⊆ OwnerDomainDescriptor.fieldNames.map str ∧
        MemberAt members "owner_domain_id"
          (fun value => exists s, boundedText value 128 = .ok s) ∧
        MemberAt members "owner_domain_generation"
          (fun value => exists n, positive? value = some n) ∧
        MemberAt members "directory_revision"
          (fun value => exists n, positive? value = some n) ∧
        MemberAt members "descriptor_uri" (fun value => exists s u,
          boundedText value 2048 = .ok s ∧ httpsUri? scan s = some u) ∧
        MemberAt members "trust_root_refs" (fun value => exists items roots,
          boundedList? value 16 = some items ∧
            readList digestText items = .ok roots ∧ roots.Nodup) ∧
        MemberAt members "endpoints" (fun value => exists items endpoints,
          boundedList? value 32 = some items ∧
            readList (AuthorityEndpointV1.fromItem scan) items = .ok endpoints) ∧
        SpansWindow (dateTimeTryParse zone) members ∧
        MemberAt members "signing_key_id"
          (fun value => exists s, digestText value = .ok s) ∧
        MemberAt members "signature"
          (fun value => exists s, signatureText value = .ok s) := by
  have howner := @memberAt_getOrNone members "owner_domain_id"
    (fun value => exists s, boundedText value 128 = .ok s) (fun ⟨_, h⟩ => nomatch h)
  have hcounter := fun name => @memberAt_getOrNone members name
    (fun value => exists n, positive? value = some n) (fun ⟨_, h⟩ => nomatch h)
  have huri := @memberAt_getOrNone members "descriptor_uri"
    (fun value => exists s u, boundedText value 2048 = .ok s ∧ httpsUri? scan s = some u)
    (fun ⟨_, _, h, _⟩ => nomatch h)
  have hroots := @memberAt_getOrNone members "trust_root_refs"
    (fun value => exists items roots, boundedList? value 16 = some items ∧
      readList digestText items = .ok roots ∧ roots.Nodup)
    (fun ⟨_, _, h, _⟩ => nomatch h)
  have hendpoints := @memberAt_getOrNone members "endpoints"
    (fun value => exists items endpoints, boundedList? value 32 = some items ∧
      readList (AuthorityEndpointV1.fromItem scan) items = .ok endpoints)
    (fun ⟨_, _, h, _⟩ => nomatch h)
  have hkeyId := @memberAt_getOrNone members "signing_key_id"
    (fun value => exists s, digestText value = .ok s) (fun ⟨_, h⟩ => nomatch h)
  have hsignature := @memberAt_getOrNone members "signature"
    (fun value => exists s, signatureText value = .ok s) (fun ⟨_, h⟩ => nomatch h)
  have hread : forall directory,
      OwnerDomainDescriptorV1.fromJson scan zone (.object members) = .ok directory <->
        OwnerDomainDescriptorV1.ReadFrom scan zone members directory :=
    fun _ => OwnerDomainDescriptorV1.fromMap_eq_ok
  simp only [hread]
  constructor
  · intro hparts
    rcases hparts with ⟨directory, h⟩
    rcases Option.isSome_iff_exists.mp h.published with ⟨u, hu⟩
    rcases h.roots with ⟨items, hitems, hrootsRead⟩
    rcases h.window with ⟨first, last, hfirst, hlast, hlt⟩
    exact ⟨h.keys.left, howner.mp ⟨_, h.ownerDomainId⟩, (hcounter _).mp ⟨_, h.generation⟩,
      (hcounter _).mp ⟨_, h.revision⟩, huri.mp ⟨_, u, h.descriptorUri, hu⟩,
      hroots.mp ⟨items, _, hitems, hrootsRead, h.roots_unique⟩,
      hendpoints.mp (h.endpoints.imp fun _ hread => ⟨_, hread⟩),
      window_dart_iff.mp
        ⟨_, _, first, last, h.issuedText, h.expiresText, hfirst, hlast, hlt⟩,
      hkeyId.mp ⟨_, h.signingKeyId⟩, hsignature.mp ⟨_, h.signature⟩⟩
  · intro hparts
    rcases hparts with ⟨hknown, hownerAt, hgenerationAt, hrevisionAt, huriAt,
      hrootsAt, hendpointsAt, hwindow, hkeyIdAt, hsignatureAt⟩
    rcases howner.mpr hownerAt with ⟨owner, hownerRead⟩
    rcases (hcounter _).mpr hgenerationAt with ⟨generation, hgenerationRead⟩
    rcases (hcounter _).mpr hrevisionAt with ⟨revision, hrevisionRead⟩
    rcases huri.mpr huriAt with ⟨uri, u, huriRead, hu⟩
    rcases hroots.mpr hrootsAt with ⟨items, roots, hitems, hrootsRead, hnodup⟩
    rcases hendpoints.mpr hendpointsAt with ⟨raw, endpoints, hraw, hendpointsRead⟩
    rcases window_dart_iff.mpr hwindow with
      ⟨issued, expires, first, last, hissued, hexpires, hfirst, hlast, hlt⟩
    rcases hkeyId.mpr hkeyIdAt with ⟨keyId, hkeyIdRead⟩
    rcases hsignature.mpr hsignatureAt with ⟨signature, hsignatureRead⟩
    have hissuedAt := get_of_castString hissued hfirst
    have hexpiresAt := get_of_castString hexpires hlast
    have hcomplete : OwnerDomainDescriptorV1.keys.map str ⊆ members.keys := by
      simp only [OwnerDomainDescriptorV1.keys, List.map_cons, List.map_nil,
        List.cons_subset, List.nil_subset, and_true]
      refine ⟨hownerAt.mem_keys, hgenerationAt.mem_keys, hrevisionAt.mem_keys,
        huriAt.mem_keys, hrootsAt.mem_keys, hendpointsAt.mem_keys, ?_, ?_,
        hkeyIdAt.mem_keys, hsignatureAt.mem_keys⟩
      · rw [← Members.get_isSome, hissuedAt]
        rfl
      · rw [← Members.get_isSome, hexpiresAt]
        rfl
    exact
      ⟨⟨owner, generation, revision, uri, endpoints, roots, issued, expires, keyId,
          signature⟩,
        { keys := ⟨hknown, hcomplete⟩
          ownerDomainId := hownerRead
          descriptorUri := huriRead
          issuedText := hissued
          expiresText := hexpires
          generation := hgenerationRead
          revision := hrevisionRead
          published := Option.isSome_iff_exists.mpr ⟨u, hu⟩
          roots := ⟨items, hitems, hrootsRead⟩
          roots_unique := hnodup
          endpoints := ⟨raw, hraw, hendpointsRead⟩
          window := ⟨first, last, hfirst, hlast, hlt⟩
          signingKeyId := hkeyIdRead
          signature := hsignatureRead }⟩

theorem directory_dart_reads :
    Reads
      (exists directory, OwnerDomainDescriptorV1.fromJson scan zone (.object members) =
        .ok directory)
      (DirectoryOutline members) (DartDirectoryPoints scan zone members) := by
  have hparts := @directory_reads members _ _ _ _ _ _ _ _ _ _
    (SpansWindow (dateTimeTryParse zone) members) (fun _ => audience_dart_reads)
    (fun _ => counter_dart_reads) (fun value => @uri_dart_reads scan value)
    (fun _ => roots_dart_iff)
    (fun value => endpoints_dart_iff.trans
      (@endpoints_dart_reads scan value).and_point)
  refine directory_dart_iff.trans (Iff.trans ?_ (hparts.trans
    (and_congr_right fun _ => ?_)))
  · rw [memberAt_congr fun _ => digest_dart_iff,
      memberAt_congr fun _ => signature_dart_iff]
  · constructor
    · intro hparts
      rcases hparts with ⟨howner, hcounters, huri, hroots, hendpoints, hwindow⟩
      exact ⟨howner, hcounters.left, hcounters.right, huri, hroots,
        fun value hget => (hendpoints value hget).left,
        fun value hget => (hendpoints value hget).right, hwindow⟩
    · intro h
      exact ⟨h.owner, ⟨h.generation, h.revision⟩, h.uri, h.roots,
        fun value hget => ⟨h.endpoints value hget, h.bounded value hget⟩, h.window⟩

/-!
## Agreement
-/

/-- The condition on a document, where it is an object. -/
def InObject (p : Members -> Prop) (document : Json) : Prop :=
  forall members, document = .object members -> p members

def twiceListed : Members :=
  [(str "owner_domain_id", .str (str "owner-a")),
    (str "owner_domain_generation", .int 1),
    (str "directory_revision", .int 1),
    (str "descriptor_uri", .str (str "https://hub.example/directory")),
    (str "trust_root_refs", .array [.str sampleWireDigest]),
    (str "endpoints",
      .array [.object (sampleWireEndpoint "https://hub.example/admission"),
        .object (sampleWireEndpoint "https://hub.example/admission")]),
    (str "issued_at", .str (str "1970-01-01T00:00:01Z")),
    (str "expires_at", .str (str "1970-01-01T00:15:00Z")),
    (str "signing_key_id", .str sampleWireDigest),
    (str "signature", .str (List.replicate 86 (codePoint 'A')))]

end Directory

end DeviceFoundation
end EidolonSdk
