import EidolonSdk.DeviceFoundation.Lifecycle
import EidolonSdk.Pydantic.Wire

/-!
# The setup descriptor

What a device says about itself before it belongs to anyone.  An offer without a
deadline has no duration, and no value stands in for one: the member is left out
when the descriptor is rendered, and refused when it is there without a value.
-/

namespace EidolonSdk
namespace DeviceFoundation

open Python Pydantic

inductive SetupDescriptorTrust where
  | developmentTofu
  | manufacturerBound
  deriving DecidableEq

namespace SetupDescriptorTrust

def all : List SetupDescriptorTrust :=
  [.developmentTofu, .manufacturerBound]

def value : SetupDescriptorTrust -> String
  | .developmentTofu => "development-tofu"
  | .manufacturerBound => "manufacturer-bound"

def wire : Wire SetupDescriptorTrust :=
  Wire.word all value
    (fun trust => by cases trust with
      | developmentTofu => exact List.mem_cons_self
      | manufacturerBound => exact List.mem_cons_of_mem _ List.mem_cons_self)
    (by decide)

theorem wire_exact : wire.Exact :=
  Wire.word_exact _ _

end SetupDescriptorTrust

def displayNameRule : StrRule :=
  { minLength := 1, maxLength := some 128 }

def identityFingerprintRule : StrRule :=
  { pattern := matchesDigest "p256:" }

def sessionIdRule : StrRule :=
  { minLength := 16, maxLength := some 128, pattern := matchesBase64Url }

/-- `SetupWindowRemainingSeconds`. -/
abbrev SetupWindowRemainingSeconds := IntFrom 1

@[ext] structure SetupDescriptor where
  deviceId : DeviceInstanceId
  deviceKind : ConStr identifierRule
  displayName : ConStr displayNameRule
  identityFingerprint : ConStr identityFingerprintRule
  sessionId : ConStr sessionIdRule
  expiresInSeconds : Option SetupWindowRemainingSeconds
  trust : SetupDescriptorTrust
  deriving DecidableEq

namespace SetupDescriptor

def fieldNames : List String :=
  ["contract_version", "device_id", "device_kind", "display_name",
    "identity_fingerprint", "session_id", "expires_in_seconds", "trust"]

/-- `_absence_is_the_only_way_to_say_never`, before the union with `None`. -/
def expiresInSecondsField : Validator (Option SetupWindowRemainingSeconds)
  | .null => .error .invalid
  | value => ((Wire.integer 1).validate value).map some

/-- `setup_descriptor_from_json`. -/
def fromJson : Validator SetupDescriptor :=
  validModel fun members =>
    ((withDefault members "contract_version" ()
        (Wire.literal "1").validate).both
      ((required members "device_id" (Wire.text deviceInstanceIdRule).validate).both
        ((required members "device_kind" (Wire.text identifierRule).validate).both
          ((required members "display_name" (Wire.text displayNameRule).validate).both
            ((required members "identity_fingerprint"
                (Wire.text identityFingerprintRule).validate).both
              ((required members "session_id" (Wire.text sessionIdRule).validate).both
                ((withDefault members "expires_in_seconds" none
                    expiresInSecondsField).both
                  ((required members "trust"
                      SetupDescriptorTrust.wire.validate).both
                    (onlyMembers members fieldNames))))))))).map
      fun (_, device, kind, name, fingerprint, session, expires, trust, _) =>
        ⟨device, kind, name, fingerprint, session, expires, trust⟩

/-- The value of a field, where it is not `None`. -/
def present (name : String) (value : Option Json) : Members :=
  match value with
  | some value => [(str name, value)]
  | none => []

/-- `_wire_form`. -/
def wireForm (d : SetupDescriptor) : Members :=
  [(str "contract_version", .str (str "1")),
    (str "device_id", .str d.deviceId.val),
    (str "device_kind", .str d.deviceKind.val),
    (str "display_name", .str d.displayName.val),
    (str "identity_fingerprint", .str d.identityFingerprint.val),
    (str "session_id", .str d.sessionId.val)] ++
  present "expires_in_seconds" (d.expiresInSeconds.map fun n => .int n.val) ++
  [(str "trust", .str (str d.trust.value))]

/-- `setup_descriptor_to_json`. -/
def toJson (d : SetupDescriptor) : Json :=
  .object d.wireForm

/-!
## What is read from a document
-/

/-- The members of a document that is read as the descriptor. -/
structure Holds (members : Members) (d : SetupDescriptor) : Prop where
  version : members.get "contract_version" = none ∨
    members.get "contract_version" = some (.str (str "1"))
  deviceId : members.get "device_id" = some (.str d.deviceId.val)
  deviceKind : members.get "device_kind" = some (.str d.deviceKind.val)
  displayName : members.get "display_name" = some (.str d.displayName.val)
  identityFingerprint : members.get "identity_fingerprint" =
    some (.str d.identityFingerprint.val)
  sessionId : members.get "session_id" = some (.str d.sessionId.val)
  expiresInSeconds : members.get "expires_in_seconds" =
    d.expiresInSeconds.map fun n => .int n.val
  trust : members.get "trust" = some (.str (str d.trust.value))
  known : members.keys ⊆ fieldNames.map str

theorem expiresInSecondsField_ok_iff {value : Json}
    {seconds : Option SetupWindowRemainingSeconds} :
    expiresInSecondsField value = .ok seconds <->
      exists n, seconds = some n ∧ value = .int n.val := by
  have hint : ((Wire.integer 1).validate value).map some = .ok seconds <->
      exists n, seconds = some n ∧ value = .int n.val := by
    rw [Validated.map_eq_ok]
    apply exists_congr
    intro n
    rw [(Wire.integer_exact 1).ok_iff, and_comm, eq_comm ]
    rfl
  cases value with
  | null => exact iff_of_false nofun (fun ⟨_, _, h⟩ => nomatch h)
  | int n => exact hint
  | bool b => exact hint
  | float x => exact hint
  | str s => exact hint
  | array items => exact hint
  | object members => exact hint

theorem expires_ok_iff {members : Members}
    {seconds : Option SetupWindowRemainingSeconds} :
    withDefault members "expires_in_seconds" none expiresInSecondsField =
        .ok seconds <->
      members.get "expires_in_seconds" = seconds.map fun n => .int n.val := by
  rw [withDefault_eq_ok]
  constructor
  · intro h
    rcases h with ⟨hget, heq⟩ | ⟨value, hget, hvalue⟩
    · rw [heq, hget]
      rfl
    · rcases expiresInSecondsField_ok_iff.mp hvalue with ⟨n, heq, hn⟩
      rw [heq, hget, hn]
      rfl
  · intro h
    cases seconds with
    | none => exact Or.inl ⟨h, rfl⟩
    | some n =>
        exact Or.inr ⟨_, h, expiresInSecondsField_ok_iff.mpr ⟨n, rfl, rfl⟩⟩

theorem fromJson_eq_ok {value : Json} {d : SetupDescriptor} :
    fromJson value = .ok d <->
      exists members, value = .object members ∧ Holds members d := by
  unfold fromJson
  rw [validModel_eq_ok]
  apply exists_congr
  intro members
  apply and_congr_right
  intro _
  rw [Validated.map_eq_ok]
  constructor
  · intro h
    rcases h with
      ⟨⟨_, device, kind, name, fingerprint, session, expires, trust, _⟩, h, heq⟩
    subst heq
    simp only [Validated.both_eq_ok, (Wire.text_exact _).required_ok_iff,
      (Wire.literal_exact "1").withDefault_ok_iff, expires_ok_iff,
      SetupDescriptorTrust.wire_exact.required_ok_iff, onlyMembers_eq_ok] at h
    rcases h with ⟨hversion, hdevice, hkind, hname, hfingerprint, hsession,
      hexpires, htrust, hknown⟩
    exact ⟨hversion.imp_left And.left, hdevice, hkind, hname, hfingerprint,
      hsession, hexpires, htrust, hknown⟩
  · intro h
    refine ⟨⟨(), d.deviceId, d.deviceKind, d.displayName, d.identityFingerprint,
      d.sessionId, d.expiresInSeconds, d.trust, ()⟩, ?_, rfl⟩
    simp only [Validated.both_eq_ok, (Wire.text_exact _).required_ok_iff,
      (Wire.literal_exact "1").withDefault_ok_iff, expires_ok_iff,
      SetupDescriptorTrust.wire_exact.required_ok_iff, onlyMembers_eq_ok]
    exact ⟨h.version.imp_left fun hnone => ⟨hnone, trivial⟩, h.deviceId,
      h.deviceKind, h.displayName, h.identityFingerprint, h.sessionId,
      h.expiresInSeconds, h.trust, h.known⟩

/-!
## The wire form
-/

theorem get_wireForm_expires (d : SetupDescriptor) :
    Members.get d.wireForm "expires_in_seconds" =
      d.expiresInSeconds.map fun n => .int n.val := by
  unfold wireForm
  cases d.expiresInSeconds with
  | none => simp [present]
  | some n => simp [present]

theorem wireForm_keys (d : SetupDescriptor) :
    Members.keys d.wireForm ⊆ fieldNames.map str := by
  unfold wireForm
  cases d.expiresInSeconds with
  | none => simp [present, Members.keys, fieldNames]
  | some n => simp [present, Members.keys, fieldNames]

/-- A descriptor is read from the form it is rendered in. -/
theorem holds_wireForm (d : SetupDescriptor) : Holds d.wireForm d where
  version := Or.inr (by simp [wireForm])
  deviceId := by simp [wireForm]
  deviceKind := by simp [wireForm]
  displayName := by simp [wireForm]
  identityFingerprint := by simp [wireForm]
  sessionId := by simp [wireForm]
  expiresInSeconds := get_wireForm_expires d
  trust := by
    unfold wireForm
    cases d.expiresInSeconds with
    | none => simp [present]
    | some n => simp [present]
  known := wireForm_keys d

/-- Documents that are read as one descriptor differ in their version only. -/
theorem Holds.get_eq {members members' : Members} {d : SetupDescriptor}
    (h : Holds members d) (h' : Holds members' d) {name : String}
    (hname : name ∈ fieldNames) (hversion : name ≠ "contract_version") :
    members.get name = members'.get name := by
  simp only [fieldNames, List.mem_cons, List.not_mem_nil, or_false] at hname
  rcases hname with rfl | rfl | rfl | rfl | rfl | rfl | rfl | rfl
  · exact absurd rfl hversion
  · rw [h.deviceId, h'.deviceId]
  · rw [h.deviceKind, h'.deviceKind]
  · rw [h.displayName, h'.displayName]
  · rw [h.identityFingerprint, h'.identityFingerprint]
  · rw [h.sessionId, h'.sessionId]
  · rw [h.expiresInSeconds, h'.expiresInSeconds]
  · rw [h.trust, h'.trust]

theorem Holds.version_eq {members : Members} {d : SetupDescriptor}
    (h : Holds members d) (hpresent : members.get "contract_version" ≠ none) :
    members.get "contract_version" = some (.str (str "1")) :=
  h.version.resolve_left hpresent

/-- A document that names its version is rendered back, under every key. -/
theorem Holds.lookup_wireForm {members : Members} {d : SetupDescriptor}
    (h : Holds members d) (hpresent : members.get "contract_version" ≠ none)
    (key : PyStr) : d.wireForm.lookup key = members.lookup key := by
  by_cases hkey : key ∈ fieldNames.map str
  · rcases List.mem_map.mp hkey with ⟨name, hname, rfl⟩
    have hform := holds_wireForm d
    by_cases hversion : name = "contract_version"
    · subst hversion
      have hget := hform.version_eq (by simp [wireForm])
      exact hget.trans (h.version_eq hpresent).symm
    · exact hform.get_eq h hname hversion
  · have hnone : forall ms : Members, ms.keys ⊆ fieldNames.map str ->
        ms.lookup key = none := by
      intro ms hms
      apply List.lookup_eq_none_iff.mpr
      intro m hm
      have hne : key ≠ m.fst := by
        intro heq
        apply hkey
        rw [heq]
        exact hms (List.mem_map_of_mem hm)
      simpa using hne
    rw [hnone _ (wireForm_keys d), hnone _ h.known]

/-- The wire form is faithful: it is read back, it has a duration exactly where
the descriptor names one, and a document that names its version is rendered
back. -/
theorem wire_form_faithful :
    (forall d, fromJson d.toJson = .ok d) ∧
    (forall d : SetupDescriptor,
      (str "expires_in_seconds" ∈ Members.keys d.wireForm <->
        d.expiresInSeconds ≠ none) ∧
      forall value, Members.get d.wireForm "expires_in_seconds" = some value ->
        exists n, value = .int n ∧ 1 ≤ n) ∧
    (forall (members : Members) d, fromJson (.object members) = .ok d ->
      members.get "contract_version" ≠ none ->
        forall key, d.wireForm.lookup key = members.lookup key) := by
  refine ⟨?_, ?_, ?_⟩
  · intro d
    exact fromJson_eq_ok.mpr ⟨_, rfl, holds_wireForm d⟩
  · intro d
    constructor
    · rw [← Members.get_isSome, get_wireForm_expires, Option.isSome_map,
        Option.isSome_iff_ne_none]
    · intro value hvalue
      rw [get_wireForm_expires] at hvalue
      rcases Option.map_eq_some_iff.mp hvalue with ⟨n, _, heq⟩
      exact ⟨n.val, heq.symm, n.property⟩
  · intro members d hread hpresent key
    rcases fromJson_eq_ok.mp hread with ⟨members', heq, hholds⟩
    rw [← Json.object.inj heq] at hholds
    exact hholds.lookup_wireForm hpresent key

/-- A description on a bench, of an offer that ends in ten minutes. -/
def sampleMembers : Members :=
  [(str "contract_version", .str (str "1")),
    (str "device_id", .str (str "device-instance-" ++ List.replicate 64 0x61)),
    (str "device_kind", .str (str "lamp.v1")),
    (str "display_name", .str (str "灯")),
    (str "identity_fingerprint", .str (str "p256:" ++ List.replicate 64 0x30)),
    (str "session_id", .str (str "session-000000001")),
    (str "expires_in_seconds", .int 600),
    (str "trust", .str (str "development-tofu"))]

def sampleDescriptor : SetupDescriptor where
  deviceId := ⟨str "device-instance-" ++ List.replicate 64 0x61, by decide⟩
  deviceKind := ⟨str "lamp.v1", by decide⟩
  displayName := ⟨str "灯", by decide⟩
  identityFingerprint := ⟨str "p256:" ++ List.replicate 64 0x30, by decide⟩
  sessionId := ⟨str "session-000000001", by decide⟩
  expiresInSeconds := some ⟨600, by decide⟩
  trust := .developmentTofu

theorem wire_form_faithful_sample :
    forall key, sampleDescriptor.wireForm.lookup key =
      sampleMembers.lookup key :=
  wire_form_faithful.right.right sampleMembers sampleDescriptor
    (by decide) (by decide)

end SetupDescriptor

end DeviceFoundation
end EidolonSdk
