import EidolonSdk.DeviceFoundation.ContractReaders
import EidolonSdk.DeviceFoundation.SetupDescriptor

/-!
# Who accepts a setup descriptor

Three readers of one document again.  Python supplies a version that is left
out and refuses a name it could not encode; Dart counts the name in UTF-16 and
takes a duration of 64 bits only; a schema takes a duration spelled as a float.
-/

namespace EidolonSdk
namespace DeviceFoundation

open Python Pydantic Logic Dart

/-!
## Strings of the descriptor
-/

def IsIdentifier (s : PyStr) : Prop :=
  3 ≤ s.length ∧ s.length ≤ 128 ∧ matchesIdentifier s = true

def IsSessionId (s : PyStr) : Prop :=
  16 ≤ s.length ∧ s.length ≤ 128 ∧ matchesBase64Url s = true

def IsFingerprint (s : PyStr) : Prop :=
  matchesDigest "p256:" s = true

section Strings

variable {s : PyStr}

theorem fingerprint_ascii : AsciiOnly (matchesDigest "p256:") :=
  matchesDigest_ascii (by decide)

theorem accepts_identifier : identifierRule.Accepts s <-> IsIdentifier s := by
  rw [accepts_iff_of_ascii matchesIdentifier_ascii]
  simp [identifierRule, IsIdentifier]

theorem admits_identifier :
    CommonSchemas.identifierText.Admits s <-> IsIdentifier s := by
  simp [JsonSchema.Text.Admits, CommonSchemas.identifierText, IsIdentifier]

theorem reads_identifier :
    ((s ≠ [] ∧ Dart.length s ≤ 128) ∧ matchesIdentifier s = true ∧
      3 ≤ Dart.length s) <-> IsIdentifier s := by
  constructor
  · intro h
    rcases h with ⟨⟨_, hmost⟩, hpattern, hleast⟩
    rw [matchesIdentifier_ascii.length_eq hpattern] at hmost hleast
    exact ⟨hleast, hmost, hpattern⟩
  · intro h
    rcases h with ⟨hleast, hmost, hpattern⟩
    rw [matchesIdentifier_ascii.length_eq hpattern]
    refine ⟨⟨?_, hmost⟩, hpattern, hleast⟩
    intro hnil
    rw [hnil] at hleast
    cases hleast

theorem accepts_sessionId :
    sessionIdRule.Accepts s <-> IsSessionId s := by
  rw [accepts_iff_of_ascii matchesBase64Url_ascii]
  simp [sessionIdRule, IsSessionId]

theorem admits_sessionId :
    CommonSchemas.commissioningSessionIdText.Admits s <-> IsSessionId s := by
  simp [JsonSchema.Text.Admits, CommonSchemas.commissioningSessionIdText,
    IsSessionId]

theorem reads_sessionId :
    ((s ≠ [] ∧ Dart.length s ≤ 128) ∧
      (decide (16 ≤ Dart.length s) && matchesBase64Url s) = true) <->
      IsSessionId s := by
  rw [Bool.and_eq_true, decide_eq_true_iff]
  constructor
  · intro h
    rcases h with ⟨⟨_, hmost⟩, hleast, hpattern⟩
    rw [matchesBase64Url_ascii.length_eq hpattern] at hmost hleast
    exact ⟨hleast, hmost, hpattern⟩
  · intro h
    rcases h with ⟨hleast, hmost, hpattern⟩
    rw [matchesBase64Url_ascii.length_eq hpattern]
    refine ⟨⟨?_, hmost⟩, hleast, hpattern⟩
    intro hnil
    rw [hnil] at hleast
    cases hleast

theorem accepts_fingerprint :
    identityFingerprintRule.Accepts s <-> IsFingerprint s := by
  rw [accepts_iff_of_ascii fingerprint_ascii]
  simp [identityFingerprintRule, IsFingerprint]

theorem admits_fingerprint :
    CommonSchemas.identityFingerprintText.Admits s <-> IsFingerprint s := by
  simp [JsonSchema.Text.Admits, CommonSchemas.identityFingerprintText,
    IsFingerprint]

theorem reads_fingerprint :
    ((s ≠ [] ∧ Dart.length s ≤ 128) ∧ matchesDigest "p256:" s = true) <->
      IsFingerprint s := by
  constructor
  · exact And.right
  · intro h
    have hlength : s.length = 69 := matchesDigest_length h
    rw [fingerprint_ascii.length_eq h, hlength]
    refine ⟨⟨?_, by decide⟩, h⟩
    intro hnil
    rw [hnil] at hlength
    cases hlength

theorem accepts_displayName :
    displayNameRule.Accepts s <-> IsLabel s ∧ Encodable s := by
  simp [StrRule.Accepts, displayNameRule, IsLabel, and_comm]

theorem admits_displayName :
    CommonSchemas.displayNameText.Admits s <-> IsLabel s := by
  simp [JsonSchema.Text.Admits, CommonSchemas.displayNameText, IsLabel]

/-- Dart never counts less, so a name it admits is admitted everywhere. -/
theorem reads_displayName :
    (s ≠ [] ∧ Dart.length s ≤ 128) <-> IsLabel s ∧ Dart.length s ≤ 128 := by
  have hle := Dart.length_le s
  unfold IsLabel
  constructor
  · intro h
    exact ⟨⟨List.length_pos_iff.mpr h.left, le_trans hle h.right⟩, h.right⟩
  · intro h
    exact ⟨List.length_pos_iff.mp h.left.left, h.right⟩

end Strings

/-!
## The outline
-/

structure SetupOutline (members : Members) : Prop where
  known : members.keys ⊆ SetupDescriptor.fieldNames.map str
  version : MemberIf members "contract_version" (IsWord ["1"])
  device : MemberAt members "device_id" (IsText IsDeviceInstanceId)
  kind : MemberAt members "device_kind" (IsText IsIdentifier)
  displayName : MemberAt members "display_name" (IsText IsLabel)
  fingerprint : MemberAt members "identity_fingerprint" (IsText IsFingerprint)
  session : MemberAt members "session_id" (IsText IsSessionId)
  duration : MemberIf members "expires_in_seconds" IsCounter
  trust : MemberAt members "trust" (IsWord CommonSchemas.setupDescriptorTrust)

/-- The version is there. -/
def Versioned (members : Members) : Prop :=
  members.get "contract_version" ≠ none

/-- The display name has the property. -/
def NameIs (members : Members) (p : PyStr -> Prop) : Prop :=
  MemberIf members "display_name" fun value => forall s, value = .str s -> p s

/-- The duration, where there is one, has the property. -/
def DurationIs (members : Members) (p : Json -> Prop) : Prop :=
  MemberIf members "expires_in_seconds" p

section Readers

variable {members : Members}

/-- What the readers decide, put together from the members. -/
theorem setup_reads {version versionPoint : Prop}
    {name duration durationPoint : Json -> Prop} {namePoint : PyStr -> Prop}
    (hversion : Reads version
      (MemberIf members "contract_version" (IsWord ["1"])) versionPoint)
    (hname : forall value, Reads (name value) (IsText IsLabel value)
      (forall s, value = .str s -> namePoint s))
    (hduration : forall value, Reads (duration value) (IsCounter value)
      (durationPoint value)) :
    Reads
      (members.keys ⊆ SetupDescriptor.fieldNames.map str ∧ version ∧
        MemberAt members "device_id" (IsText IsDeviceInstanceId) ∧
        MemberAt members "device_kind" (IsText IsIdentifier) ∧
        MemberAt members "display_name" name ∧
        MemberAt members "identity_fingerprint" (IsText IsFingerprint) ∧
        MemberAt members "session_id" (IsText IsSessionId) ∧
        MemberIf members "expires_in_seconds" duration ∧
        MemberAt members "trust" (IsWord CommonSchemas.setupDescriptorTrust))
      (SetupOutline members)
      (versionPoint ∧ NameIs members namePoint ∧
        DurationIs members durationPoint) := by
  have hparts := hversion.and
    ((@memberAt_reads members "display_name" _ _ _ hname).and
      (@memberIf_reads members "expires_in_seconds" _ _ _ hduration))
  constructor
  · intro h
    rcases h with ⟨hknown, hversion, hdevice, hkind, hname, hfingerprint,
      hsession, hduration, htrust⟩
    rcases hparts.mp ⟨hversion, hname, hduration⟩ with
      ⟨⟨hversion, hname, hduration⟩, hpoints⟩
    exact ⟨⟨hknown, hversion, hdevice, hkind, hname, hfingerprint, hsession,
      hduration, htrust⟩, hpoints⟩
  · intro h
    rcases h with ⟨houtline, hpoints⟩
    rcases hparts.mpr ⟨⟨houtline.version, houtline.displayName,
      houtline.duration⟩, hpoints⟩ with ⟨hversion, hname, hduration⟩
    exact ⟨houtline.known, hversion, houtline.device, houtline.kind, hname,
      houtline.fingerprint, houtline.session, hduration, houtline.trust⟩

/-- A version that has to be there. -/
theorem version_reads {p : Json -> Prop}
    (h : forall value, p value <-> IsWord ["1"] value) :
    Reads (MemberAt members "contract_version" p)
      (MemberIf members "contract_version" (IsWord ["1"]))
      (Versioned members) := by
  rw [memberAt_congr h]
  unfold MemberAt MemberIf Versioned
  cases hget : members.get "contract_version" with
  | none => exact iff_of_false (fun ⟨_, h, _⟩ => nomatch h) (fun h => h.right rfl)
  | some value =>
      unfold Reads
      simp

theorem accepts_version (value : Json) :
    Accepts ((Wire.literal "1").validate value) <-> IsWord ["1"] value := by
  apply accepts_word (Wire.literal_exact "1")
  intro value
  constructor
  · intro h
    rcases h with ⟨_, heq⟩
    exact ⟨"1", List.mem_singleton_self "1", heq⟩
  · intro h
    rcases h with ⟨word, hword, heq⟩
    rw [List.mem_singleton.mp hword] at heq
    exact ⟨(), heq⟩

theorem accepts_trust (value : Json) :
    Accepts (SetupDescriptorTrust.wire.validate value) <->
      IsWord CommonSchemas.setupDescriptorTrust value := by
  apply accepts_word SetupDescriptorTrust.wire_exact
  intro value
  constructor
  · intro h
    rcases h with ⟨trust, heq⟩
    refine ⟨trust.value, ?_, heq⟩
    cases trust with
    | developmentTofu => exact List.mem_cons_self
    | manufacturerBound => exact List.mem_cons_of_mem _ List.mem_cons_self
  · intro h
    rcases h with ⟨word, hword, heq⟩
    simp only [CommonSchemas.setupDescriptorTrust, List.mem_cons,
      List.not_mem_nil, or_false] at hword
    rcases hword with rfl | rfl
    · exact ⟨.developmentTofu, heq⟩
    · exact ⟨.manufacturerBound, heq⟩

theorem accepts_duration (value : Json) :
    Accepts (SetupDescriptor.expiresInSecondsField value) <->
      Accepts (validInt 1 value) := by
  cases value with
  | null => exact iff_of_false nofun nofun
  | int n => exact accepts_map
  | bool b => exact iff_of_false nofun nofun
  | float x => exact iff_of_false nofun nofun
  | str s => exact iff_of_false nofun nofun
  | array items => exact iff_of_false nofun nofun
  | object members => exact iff_of_false nofun nofun

theorem setup_python_reads :
    Reads (Accepts (SetupDescriptor.fromJson (.object members)))
      (SetupOutline members)
      (NameIs members Encodable ∧ DurationIs members Spelled) := by
  have hversion : Reads
      (MemberIf members "contract_version"
        fun value => Accepts ((Wire.literal "1").validate value))
      (MemberIf members "contract_version" (IsWord ["1"])) True :=
    Reads.of_outline (forall_congr' fun value =>
      imp_congr_right fun _ => accepts_version value)
  have hparts := setup_reads hversion
    (fun _ => accepts_text.trans (isText_reads fun _ => accepts_displayName))
    (fun value => (accepts_duration value).trans accepts_counter)
  refine Iff.trans ?_ (hparts.trans (and_congr_right fun _ =>
    iff_of_eq (true_and _)))
  rw [← isText_of_accepts fun _ => accepts_deviceInstanceId,
    ← isText_of_accepts fun _ => accepts_identifier,
    ← isText_of_accepts fun _ => accepts_fingerprint,
    ← isText_of_accepts fun _ => accepts_sessionId,
    ← memberAt_congr accepts_trust]
  unfold SetupDescriptor.fromJson validModel
  rw [accepts_map]
  simp only [accepts_both, accepts_required, accepts_withDefault,
    accepts_onlyMembers]
  constructor
  · intro h
    rcases h with ⟨hversion, hdevice, hkind, hname, hfingerprint, hsession,
      hduration, htrust, hknown⟩
    exact ⟨hknown, hversion, hdevice, hkind, hname, hfingerprint, hsession,
      hduration, htrust⟩
  · intro h
    rcases h with ⟨hknown, hversion, hdevice, hkind, hname, hfingerprint,
      hsession, hduration, htrust⟩
    exact ⟨hversion, hdevice, hkind, hname, hfingerprint, hsession, hduration,
      htrust, hknown⟩

theorem setup_schema_reads :
    Reads (CommonSchemas.setupDescriptor (.object members) = true)
      (SetupOutline members) (Versioned members) := by
  have hparts := setup_reads (@version_reads members _ fun _ => enum_isWord)
    (fun _ => JsonSchema.string_iff.trans
      (isText_reads fun _ => admits_displayName.trans 
        (iff_of_eq (and_true _)).symm))
    (fun _ => Reads.of_outline integer_one_iff)
  refine Iff.trans ?_ (hparts.trans (and_congr_right fun _ =>
    and_iff_left ⟨fun _ _ _ _ => trivial, fun _ _ => trivial⟩))
  rw [← isText_of_schema fun _ => admits_deviceInstanceId,
    ← isText_of_schema fun _ => admits_identifier,
    ← isText_of_schema fun _ => admits_fingerprint,
    ← isText_of_schema fun _ => admits_sessionId,
    ← memberAt_congr fun _ => enum_isWord]
  unfold CommonSchemas.setupDescriptor
  rw [JsonSchema.object_iff]
  simp only [List.forall_mem_cons, List.not_mem_nil, false_imp_iff,
    implies_true, and_true, JsonSchema.Property.required_iff,
    JsonSchema.Property.optional_iff]
  exact and_comm

/-!
## The Dart reader
-/

theorem SetupDescriptorV1.expiresInField_eq_ok {seconds : Option Int} :
    SetupDescriptorV1.expiresInField members = .ok seconds <->
      members.get "expires_in_seconds" = seconds.map .int ∧
        forall n, seconds = some n -> inInt64 n ∧ 1 ≤ n := by
  unfold SetupDescriptorV1.expiresInField
  cases hget : members.get "expires_in_seconds" with
  | none =>
      cases seconds with
      | none => exact iff_of_true rfl ⟨rfl, nofun⟩
      | some n => exact iff_of_false nofun nofun
  | some raw =>
      simp only [bind_eq_ok, orThrow_eq_ok, positive?_eq_some]
      constructor
      · intro h
        rcases h with ⟨n, ⟨heq, hn⟩, hseconds⟩
        cases hseconds
        rw [heq]
        exact ⟨rfl, fun m hm => Option.some.inj hm ▸ hn⟩
      · intro h
        cases seconds with
        | none => cases h.left
        | some n => exact ⟨n, ⟨Option.some.inj h.left, h.right n rfl⟩, rfl⟩

/-- What is read of each member. -/
structure SetupDescriptorV1.Holds (members : Members) (d : SetupDescriptorV1) :
    Prop where
  known : members.keys ⊆ SetupDescriptor.fieldNames.map str
  complete : SetupDescriptorV1.requiredFields.map str ⊆ members.keys
  version : members.getOrNone "contract_version" = .str (str "1")
  device : DeviceInstanceIdV1.parse (members.getOrNone "device_id") =
    .ok d.deviceId
  kind : identifierText (members.getOrNone "device_kind") = .ok d.deviceKind
  displayName : boundedText (members.getOrNone "display_name") 128 =
    .ok d.displayName
  fingerprint : patternText (members.getOrNone "identity_fingerprint") 128
    (matchesDigest "p256:") "Invalid device identity fingerprint" =
      .ok d.identityFingerprint
  session : patternText (members.getOrNone "session_id") 128
    (fun s => decide (16 ≤ Dart.length s) && matchesBase64Url s)
    "Invalid setup session id" = .ok d.sessionId
  duration : SetupDescriptorV1.expiresInField members = .ok d.expiresIn
  trust : members.getOrNone "trust" = .str (str d.trust.wireValue)

theorem SetupDescriptorV1.fromMap_eq_ok {d : SetupDescriptorV1} :
    SetupDescriptorV1.fromMap members = .ok d <->
      SetupDescriptorV1.Holds members d := by
  have hperm : (requiredFields ++ optionalFields).Perm
      SetupDescriptor.fieldNames := by decide
  have hkeys : members.keys ⊆ (requiredFields ++ optionalFields).map str <->
      members.keys ⊆ SetupDescriptor.fieldNames.map str :=
    (hperm.map str).subset_congr_right
  unfold SetupDescriptorV1.fromMap
  rw [throwIf_bind_eq_ok]
  simp only [not_or, exceeds, not_not, Bool.not_eq_false, isText_iff,
    bind_eq_ok, orThrow_eq_ok, SetupDescriptorTrustV1.read_eq_some, hkeys]
  constructor
  · intro h
    rcases h with ⟨⟨hcomplete, hknown, hversion⟩, fingerprint, hfingerprint,
      session, hsession, trust, htrust, device, hdevice, kind, hkind, name,
      hname, duration, hduration, heq⟩
    cases heq
    exact ⟨hknown, hcomplete, hversion, hdevice, hkind, hname, hfingerprint,
      hsession, hduration, htrust⟩
  · intro h
    exact ⟨⟨h.complete, h.known, h.version⟩, _, h.fingerprint, _, h.session, _,
      h.trust, _, h.device, _, h.kind, _, h.displayName, _, h.duration, rfl⟩

theorem displayName_reads (value : Json) :
    Reads (exists s, boundedText value 128 = .ok s) (IsText IsLabel value)
      (forall s, value = .str s -> Dart.length s ≤ 128) := by
  simp only [boundedText_eq_ok]
  exact isText_reads fun _ => reads_displayName

theorem duration_reads :
    (exists seconds, SetupDescriptorV1.expiresInField members = .ok seconds) <->
      MemberIf members "expires_in_seconds" fun value =>
        exists n, positive? value = some n := by
  unfold SetupDescriptorV1.expiresInField MemberIf
  cases members.get "expires_in_seconds" with
  | none => exact iff_of_true ⟨none, rfl⟩ nofun
  | some raw =>
      simp only [bind_eq_ok, orThrow_eq_ok, Option.some.injEq, forall_eq']
      constructor
      · intro h
        rcases h with ⟨_, n, hn, _⟩
        exact ⟨n, hn⟩
      · intro h
        rcases h with ⟨n, hn⟩
        exact ⟨some n, n, hn, rfl⟩

theorem identifierText_ok {value : Json} :
    (exists s, identifierText value = .ok s) <-> IsText IsIdentifier value := by
  simp only [identifierText_eq_ok]
  exact isText_congr fun _ => reads_identifier

theorem setup_dart_reads :
    Reads (exists d, SetupDescriptorV1.fromJson (.object members) = .ok d)
      (SetupOutline members)
      (Versioned members ∧ NameIs members (fun s => Dart.length s ≤ 128) ∧
        DurationIs members fun value => Spelled value ∧ Narrow value) := by
  have hparts := setup_reads
    (@version_reads members _ fun value => Iff.rfl) displayName_reads
    (fun _ => positive?_reads)
  have hversion : members.getOrNone "contract_version" = .str (str "1") <->
      MemberAt members "contract_version" (IsWord ["1"]) := by
    rw [getOrNone_str]
    simp [MemberAt, IsWord]
  have htrust : (exists trust : SetupDescriptorTrustV1,
      members.getOrNone "trust" = .str (str trust.wireValue)) <->
        MemberAt members "trust"
          (IsWord CommonSchemas.setupDescriptorTrust) := by
    simp only [getOrNone_str]
    constructor
    · intro h
      rcases h with ⟨trust, hget⟩
      refine ⟨_, hget, trust.wireValue, ?_, rfl⟩
      cases trust with
      | developmentTofu => exact List.mem_cons_self
      | manufacturerBound => exact List.mem_cons_of_mem _ List.mem_cons_self
    · intro h
      rcases h with ⟨_, hget, word, hword, rfl⟩
      simp only [CommonSchemas.setupDescriptorTrust, List.mem_cons,
        List.not_mem_nil, or_false] at hword
      rcases hword with rfl | rfl
      · exact ⟨.developmentTofu, hget⟩
      · exact ⟨.manufacturerBound, hget⟩
  have hdevice := @read_at_iff members _ DeviceInstanceIdV1.parse "device_id" _
    (fun _ => nofun)
    (fun _ => patternText_ok.trans (isText_congr fun _ => parses_deviceInstanceId))
  have hkind := @read_at_iff members _ identifierText "device_kind" _
    (fun _ => nofun) (fun _ => identifierText_ok)
  have hname := @read_at_iff members _ (fun value => boundedText value 128)
    "display_name" _ (fun _ => nofun) (fun _ => Iff.rfl)
  have hfingerprint := @read_at_iff members _
    (fun value => patternText value 128 (matchesDigest "p256:")
      "Invalid device identity fingerprint") "identity_fingerprint" _
    (fun _ => nofun)
    (fun _ => patternText_ok.trans (isText_congr fun _ => reads_fingerprint))
  have hsession := @read_at_iff members _
    (fun value => patternText value 128
      (fun s => decide (16 ≤ Dart.length s) && matchesBase64Url s)
      "Invalid setup session id") "session_id" _ (fun _ => nofun)
    (fun _ => patternText_ok.trans (isText_congr fun _ => reads_sessionId))
  refine Iff.trans ?_ hparts
  constructor
  · intro h
    rcases h with ⟨d, hd⟩
    have hholds := SetupDescriptorV1.fromMap_eq_ok.mp hd
    exact ⟨hholds.known, hversion.mp hholds.version, hdevice.mp ⟨_, hholds.device⟩,
      hkind.mp ⟨_, hholds.kind⟩, hname.mp ⟨_, hholds.displayName⟩,
      hfingerprint.mp ⟨_, hholds.fingerprint⟩, hsession.mp ⟨_, hholds.session⟩,
      duration_reads.mp ⟨_, hholds.duration⟩, htrust.mp ⟨_, hholds.trust⟩⟩
  · intro h
    rcases h with ⟨hknown, hversionAt, hdeviceAt, hkindAt, hnameAt,
      hfingerprintAt, hsessionAt, hdurationIf, htrustAt⟩
    rcases hdevice.mpr hdeviceAt with ⟨device, hdeviceRead⟩
    rcases hkind.mpr hkindAt with ⟨kind, hkindRead⟩
    rcases hname.mpr hnameAt with ⟨name, hnameRead⟩
    rcases hfingerprint.mpr hfingerprintAt with ⟨fingerprint, hfingerprintRead⟩
    rcases hsession.mpr hsessionAt with ⟨session, hsessionRead⟩
    rcases duration_reads.mpr hdurationIf with ⟨duration, hdurationRead⟩
    rcases htrust.mpr htrustAt with ⟨trust, htrustRead⟩
    have hcomplete : SetupDescriptorV1.requiredFields.map str ⊆ members.keys := by
      simp only [SetupDescriptorV1.requiredFields, List.map_cons, List.map_nil,
        List.cons_subset, List.nil_subset, and_true]
      exact ⟨hversionAt.mem_keys, hdeviceAt.mem_keys, hkindAt.mem_keys,
        hnameAt.mem_keys, hfingerprintAt.mem_keys, hsessionAt.mem_keys,
        htrustAt.mem_keys⟩
    exact ⟨⟨device, kind, name, fingerprint, session, duration, trust⟩,
      SetupDescriptorV1.fromMap_eq_ok.mpr ⟨hknown, hcomplete,
        hversion.mpr hversionAt, hdeviceRead, hkindRead, hnameRead,
        hfingerprintRead, hsessionRead, hdurationRead, htrustRead⟩⟩

end Readers

/-!
## Agreement
-/

def SetupDescriptorTrust.inDart : SetupDescriptorTrust -> SetupDescriptorTrustV1
  | .developmentTofu => .developmentTofu
  | .manufacturerBound => .manufacturerBound

/-- What Python holds, as Dart holds it. -/
def SetupDescriptor.inDart (d : SetupDescriptor) : SetupDescriptorV1 where
  deviceId := d.deviceId.val
  deviceKind := d.deviceKind.val
  displayName := d.displayName.val
  identityFingerprint := d.identityFingerprint.val
  sessionId := d.sessionId.val
  expiresIn := d.expiresInSeconds.map Subtype.val
  trust := d.trust.inDart

theorem SetupDescriptorTrust.inDart_of_word {trust : SetupDescriptorTrust}
    {trust' : SetupDescriptorTrustV1} (h : trust.value = trust'.wireValue) :
    trust' = trust.inDart := by
  cases trust with
  | developmentTofu =>
      cases trust' with
      | developmentTofu => rfl
      | manufacturerBound => exact absurd h (by decide)
  | manufacturerBound =>
      cases trust' with
      | developmentTofu => exact absurd h (by decide)
      | manufacturerBound => rfl

/-- Both bindings hold the members of the document. -/
theorem setup_values_eq {members : Members} {d : SetupDescriptor}
    {d' : SetupDescriptorV1} (h : SetupDescriptor.Holds members d)
    (h' : SetupDescriptorV1.Holds members d') : d' = d.inDart := by
  have htext : forall {name : String} {s t : PyStr},
      members.get name = some (.str s) -> members.getOrNone name = .str t ->
        t = s := by
    intro name s t hs ht
    exact Json.str.inj (Option.some.inj ((getOrNone_str.mp ht).symm.trans hs))
  have hduration := (SetupDescriptorV1.expiresInField_eq_ok.mp h'.duration).left
  rw [h.expiresInSeconds] at hduration
  apply SetupDescriptorV1.ext
  · exact htext h.deviceId (patternText_eq_ok.mp h'.device).left
  · exact htext h.deviceKind (identifierText_eq_ok.mp h'.kind).left
  · exact htext h.displayName (boundedText_eq_ok.mp h'.displayName).left
  · exact htext h.identityFingerprint (patternText_eq_ok.mp h'.fingerprint).left
  · exact htext h.sessionId (patternText_eq_ok.mp h'.session).left
  · cases hexpires : d'.expiresIn with
    | none =>
        cases hown : d.expiresInSeconds with
        | none => simp [SetupDescriptor.inDart, hown]
        | some n => simp [hown, hexpires] at hduration
    | some m =>
        cases hown : d.expiresInSeconds with
        | none => simp [hown, hexpires] at hduration
        | some n =>
            simp only [hown, hexpires, Option.map_some, Option.some.injEq,
              Json.int.injEq] at hduration
            simp [SetupDescriptor.inDart, hown, hduration]
  · exact SetupDescriptorTrust.inDart_of_word
      (str_inj.mp (htext h.trust h'.trust).symm)

/-- The three readers decide alike, and the bindings hold the same values. -/
def SetupReadersAgree (value : Json) : Prop :=
  ((Accepts (SetupDescriptor.fromJson value) <->
      exists d, SetupDescriptorV1.fromJson value = .ok d) ∧
    (Accepts (SetupDescriptor.fromJson value) <->
      CommonSchemas.setupDescriptor value = true)) ∧
  forall d d', SetupDescriptor.fromJson value = .ok d ->
    SetupDescriptorV1.fromJson value = .ok d' -> d' = d.inDart

theorem setup_refused {value : Json}
    (h : forall members, value ≠ .object members) :
    ¬ Accepts (SetupDescriptor.fromJson value) ∧
      (¬ exists d, SetupDescriptorV1.fromJson value = .ok d) ∧
      ¬ CommonSchemas.setupDescriptor value = true := by
  refine ⟨?_, ?_, ?_⟩
  · intro haccepts
    rcases accepts_validModel.mp haccepts with ⟨members, heq, _⟩
    exact h members heq
  · intro haccepts
    rcases haccepts with ⟨d, hd⟩
    rcases fromObject_eq_ok.mp hd with ⟨members, heq, _⟩
    exact h members heq
  · intro haccepts
    rcases JsonSchema.object_is_object haccepts with ⟨members, heq⟩
    exact h members heq

/-- The readers agree on a document unless it leaves out its version, or has a
name that cannot be encoded or is longer in UTF-16, or a duration that is
spelled as a float or does not fit 64 bits. -/
theorem setup_readers_agree_iff (value : Json) :
    SetupReadersAgree value <->
      forall members, value = .object members -> SetupOutline members ->
        (Versioned members ∧ NameIs members Encodable ∧
            NameIs members (fun s => Dart.length s ≤ 128) ∧
            DurationIs members Spelled ∧ DurationIs members Narrow) ∨
          (¬ Versioned members ∧
            ¬ (NameIs members Encodable ∧ DurationIs members Spelled)) := by
  by_cases hobject : exists members, value = .object members
  · rcases hobject with ⟨members, rfl⟩
    have hagree := (@setup_python_reads members).agree_three setup_dart_reads
      setup_schema_reads
    have hsplit : DurationIs members (fun v => Spelled v ∧ Narrow v) <->
        DurationIs members Spelled ∧ DurationIs members Narrow := by
      simp only [DurationIs, MemberIf, forall_and]
    have hvalues : forall d d',
        SetupDescriptor.fromJson (.object members) = .ok d ->
          SetupDescriptorV1.fromJson (.object members) = .ok d' ->
            d' = d.inDart := by
      intro d d' hd hd'
      rcases SetupDescriptor.fromJson_eq_ok.mp hd with ⟨_, heq, hholds⟩
      rw [← Json.object.inj heq] at hholds
      exact setup_values_eq hholds (SetupDescriptorV1.fromMap_eq_ok.mp hd')
    unfold SetupReadersAgree
    rw [and_iff_left hvalues, hagree, hsplit]
    constructor
    · intro h members' heq houtline
      cases heq
      rcases h houtline with hall | hnone
      · rcases hall with ⟨⟨hencoded, hspelled⟩, ⟨_, hshort, _, hnarrow⟩, hversion⟩
        exact Or.inl ⟨hversion, hencoded, hshort, hspelled, hnarrow⟩
      · exact Or.inr ⟨hnone.right.right, hnone.left⟩
    · intro h houtline
      rcases h members rfl houtline with hall | hnone
      · rcases hall with ⟨hversion, hencoded, hshort, hspelled, hnarrow⟩
        exact Or.inl ⟨⟨hencoded, hspelled⟩,
          ⟨hversion, hshort, hspelled, hnarrow⟩, hversion⟩
      · exact Or.inr ⟨hnone.right, fun hdart => hnone.left hdart.left,
          hnone.left⟩
  · have hnone : forall members, value ≠ .object members := fun members heq =>
      hobject ⟨members, heq⟩
    rcases setup_refused hnone with ⟨hpython, hdart, hschema⟩
    apply iff_of_true
    · exact ⟨⟨iff_of_false hpython hdart, iff_of_false hpython hschema⟩,
        fun d _ hd => absurd ⟨d, hd⟩ hpython⟩
    · intro members heq
      exact absurd heq (hnone members)

/-- The descriptor of a lamp with a name, less the members left out. -/
def lampMembers (name : PyStr) : Members :=
  [(str "device_id", .str (str "device-instance-" ++ List.replicate 64 0x61)),
    (str "device_kind", .str (str "lamp.v1")),
    (str "display_name", .str name),
    (str "identity_fingerprint", .str (str "p256:" ++ List.replicate 64 0x30)),
    (str "session_id", .str (str "session-000000001")),
    (str "trust", .str (str "development-tofu"))]

def lamp (name : ConStr displayNameRule) : SetupDescriptor :=
  { SetupDescriptor.sampleDescriptor with
    displayName := name
    expiresInSeconds := none }

/-- A hundred lamps. -/
def hundredLamps : PyStr :=
  List.replicate 100 0x1F4A1

theorem setup_readers_disagree :
    ((exists d, SetupDescriptor.fromJson
        (.object (lampMembers (str "Lamp"))) = .ok d) ∧
      SetupDescriptorV1.fromJson (.object (lampMembers (str "Lamp"))) =
        .error (.formatException "Invalid setup descriptor envelope") ∧
      CommonSchemas.setupDescriptor (.object (lampMembers (str "Lamp"))) =
        false) ∧
    ((exists d, SetupDescriptor.fromJson (.object
        ((str "contract_version", .str (str "1")) ::
          lampMembers hundredLamps)) = .ok d) ∧
      SetupDescriptorV1.fromJson (.object
        ((str "contract_version", .str (str "1")) ::
          lampMembers hundredLamps)) =
        .error (.formatException "Invalid bounded contract string")) := by
  refine ⟨⟨⟨lamp ⟨str "Lamp", by decide⟩, by decide⟩,
    by decide, by decide⟩,
    ⟨lamp ⟨hundredLamps, by decide⟩, by decide⟩,
    by decide +kernel⟩

end DeviceFoundation
end EidolonSdk
