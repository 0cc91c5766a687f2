import EidolonSdk.Dart.Core
import EidolonSdk.DeviceFoundation.Lifecycle
import EidolonSdk.Python.JsonValues

/-!
# The Dart binding

The generated readers of the phone: bounded strings, identifiers and the
references that are made of them.  A reader checks the members of an object
before it looks at any of them, and throws at the first check that fails.
-/

namespace EidolonSdk
namespace DeviceFoundation

open Python Logic Dart

/-!
## Bounded strings
-/

/-- `_text`. -/
def boundedText (value : Json) (maximum : Nat) : Reading PyStr :=
  match value with
  | .str s => do
      throwIf (s = [] ∨ maximum < Dart.length s)
        "Invalid bounded contract string"
      pure s
  | _ => throw (.formatException "Invalid bounded contract string")

/-- A bounded string that has a pattern. -/
def patternText (value : Json) (maximum : Nat) (pattern : PyStr -> Bool)
    (message : String) : Reading PyStr := do
  let s ← boundedText value maximum
  throwIf (pattern s = false) message
  pure s

/-- `_identifier`. -/
def identifierText (value : Json) : Reading PyStr := do
  let s ← boundedText value 128
  throwIf (matchesIdentifier s = false ∨ Dart.length s < 3)
    "Invalid canonical identifier"
  pure s

/-- A fixed word followed by an identifier. -/
def matchesNamespace (word : String) (s : PyStr) : Bool :=
  startsWith s (str word) && matchesIdentifier (s.drop word.length)

def OwnerDomainIdV1.parse (raw : Json) : Reading PyStr :=
  patternText raw 128 (matchesNamespace "owner-")
    "Business Owner ID is not an Owner Domain ID"

def DeviceInstanceIdV1.parse (raw : Json) : Reading PyStr :=
  patternText raw 80 (matchesDigest "device-instance-")
    "Device instance ID is not derived from an operational key"

/-- `value == text`. -/
def isText (value : Json) (text : String) : Bool :=
  match value with
  | .str s => s == str text
  | _ => false

/-!
## Device references
-/

@[ext] structure DeviceRefV1 where
  deviceInstanceId : PyStr
  ownerDomainId : PyStr
  ownerDomainGeneration : Int
  claimGeneration : Int
  trustEpoch : Int
  deriving DecidableEq

/-- `value is! int || value < 1`, the other way round. -/
def positive? (value : Json) : Option Int :=
  (int? value).filter fun n => 1 ≤ n

/-- The keys of an object are the ones expected, no more and no fewer. -/
def exactKeys (value : Members) (keys : List String) (message : String) :
    Reading Unit :=
  throwIf (exceeds value.keys (keys.map str) ∨ exceeds (keys.map str) value.keys)
    message

def DeviceRefV1.fromMap (value : Members) : Reading DeviceRefV1 := do
  exactKeys value DeviceRef.fieldNames "Invalid DeviceRef fields"
  let message := "Invalid DeviceRef generation"
  let domainGeneration ←
    orThrow (positive? (value.getOrNone "owner_domain_generation")) message
  let claimGeneration ←
    orThrow (positive? (value.getOrNone "claim_generation")) message
  let trustEpoch ← orThrow (positive? (value.getOrNone "trust_epoch")) message
  let deviceInstanceId ←
    DeviceInstanceIdV1.parse (value.getOrNone "device_instance_id")
  let ownerDomainId ← OwnerDomainIdV1.parse (value.getOrNone "owner_domain_id")
  pure ⟨deviceInstanceId, ownerDomainId, domainGeneration, claimGeneration,
    trustEpoch⟩

/-- A reader of objects, handed a decoded document. -/
def fromObject {α : Type} (read : Members -> Reading α) : Json -> Reading α
  | .object members => read members
  | _ => throw .typeError

/-- `DeviceRefV1.fromJson`. -/
def DeviceRefV1.fromJson : Json -> Reading DeviceRefV1 :=
  fromObject DeviceRefV1.fromMap

/-!
## Setup descriptors
-/

inductive SetupDescriptorTrustV1 where
  | developmentTofu
  | manufacturerBound
  deriving DecidableEq

namespace SetupDescriptorTrustV1

def wireValue : SetupDescriptorTrustV1 -> String
  | .developmentTofu => "development-tofu"
  | .manufacturerBound => "manufacturer-bound"

def values : List SetupDescriptorTrustV1 :=
  [.developmentTofu, .manufacturerBound]

/-- The last of the values that is spelled so. -/
def read (raw : Json) : Option SetupDescriptorTrustV1 :=
  values.foldl (fun trust candidate =>
    if isText raw candidate.wireValue = true then some candidate else trust) none

end SetupDescriptorTrustV1

@[ext] structure SetupDescriptorV1 where
  deviceId : PyStr
  deviceKind : PyStr
  displayName : PyStr
  identityFingerprint : PyStr
  sessionId : PyStr
  expiresIn : Option Int
  trust : SetupDescriptorTrustV1
  deriving DecidableEq

namespace SetupDescriptorV1

def contractVersion : String := "1"

def requiredFields : List String :=
  ["contract_version", "device_id", "device_kind", "display_name",
    "identity_fingerprint", "session_id", "trust"]

def optionalFields : List String :=
  ["expires_in_seconds"]

/-- `SetupWindowRemainingSecondsV1.parse`, where the key is there. -/
def expiresInField (value : Members) : Reading (Option Int) :=
  match value.get "expires_in_seconds" with
  | some raw => do
      let seconds ← orThrow (positive? raw) "Invalid setup window duration"
      pure (some seconds)
  | none => pure none

def fromMap (value : Members) : Reading SetupDescriptorV1 := do
  throwIf (exceeds (requiredFields.map str) value.keys ∨
      exceeds value.keys ((requiredFields ++ optionalFields).map str) ∨
      isText (value.getOrNone "contract_version") contractVersion = false)
    "Invalid setup descriptor envelope"
  let fingerprint ← patternText (value.getOrNone "identity_fingerprint") 128
    (matchesDigest "p256:") "Invalid device identity fingerprint"
  let sessionId ← patternText (value.getOrNone "session_id") 128
    (fun s => decide (16 ≤ Dart.length s) && matchesBase64Url s)
    "Invalid setup session id"
  let trust ← orThrow (SetupDescriptorTrustV1.read (value.getOrNone "trust"))
    "Unknown setup descriptor trust level"
  let deviceId ← DeviceInstanceIdV1.parse (value.getOrNone "device_id")
  let deviceKind ← identifierText (value.getOrNone "device_kind")
  let displayName ← boundedText (value.getOrNone "display_name") 128
  let expiresIn ← expiresInField value
  pure ⟨deviceId, deviceKind, displayName, fingerprint, sessionId, expiresIn,
    trust⟩

/-- `SetupDescriptorV1.fromJson`. -/
def fromJson : Json -> Reading SetupDescriptorV1 :=
  fromObject fromMap

end SetupDescriptorV1

/-!
## What the readers accept
-/

section Accepts

variable {value : Json} {s : PyStr} {maximum : Nat}

theorem boundedText_eq_ok :
    boundedText value maximum = .ok s <->
      value = .str s ∧ s ≠ [] ∧ Dart.length s ≤ maximum := by
  cases value with
  | str t =>
      unfold boundedText
      rw [throwIf_bind_eq_ok, not_or, not_lt]
      constructor
      · intro h
        cases h.right
        exact ⟨rfl, h.left⟩
      · intro h
        rw [Json.str.inj h.left]
        exact ⟨h.right, rfl⟩
  | null => exact iff_of_false nofun nofun
  | bool b => exact iff_of_false nofun nofun
  | int n => exact iff_of_false nofun nofun
  | float x => exact iff_of_false nofun nofun
  | array items => exact iff_of_false nofun nofun
  | object members => exact iff_of_false nofun nofun

theorem patternText_eq_ok {pattern : PyStr -> Bool} {message : String} :
    patternText value maximum pattern message = .ok s <->
      value = .str s ∧ (s ≠ [] ∧ Dart.length s ≤ maximum) ∧
        pattern s = true := by
  unfold patternText
  rw [bind_eq_ok]
  constructor
  · intro h
    rcases h with ⟨t, ht, hrest⟩
    rcases throwIf_bind_eq_ok.mp hrest with ⟨hpattern, heq⟩
    cases heq
    rcases boundedText_eq_ok.mp ht with ⟨hvalue, hbounds⟩
    exact ⟨hvalue, hbounds, Bool.not_eq_false _ ▸ hpattern⟩
  · intro h
    rcases h with ⟨hvalue, hbounds, hpattern⟩
    refine ⟨s, boundedText_eq_ok.mpr ⟨hvalue, hbounds⟩, ?_⟩
    exact throwIf_bind_eq_ok.mpr ⟨by simp [hpattern], rfl⟩

theorem identifierText_eq_ok :
    identifierText value = .ok s <->
      value = .str s ∧ (s ≠ [] ∧ Dart.length s ≤ 128) ∧
        matchesIdentifier s = true ∧ 3 ≤ Dart.length s := by
  unfold identifierText
  rw [bind_eq_ok]
  constructor
  · intro h
    rcases h with ⟨t, ht, hrest⟩
    rcases throwIf_bind_eq_ok.mp hrest with ⟨hidentifier, heq⟩
    cases heq
    rcases boundedText_eq_ok.mp ht with ⟨hvalue, hbounds⟩
    rw [not_or, Bool.not_eq_false, not_lt] at hidentifier
    exact ⟨hvalue, hbounds, hidentifier⟩
  · intro h
    rcases h with ⟨hvalue, hbounds, hidentifier⟩
    refine ⟨s, boundedText_eq_ok.mpr ⟨hvalue, hbounds⟩, ?_⟩
    refine throwIf_bind_eq_ok.mpr ⟨?_, rfl⟩
    rw [not_or, Bool.not_eq_false, not_lt]
    exact hidentifier

theorem isText_iff {text : String} :
    isText value text = true <-> value = .str (str text) := by
  cases value with
  | str t => simp [isText]
  | null => exact iff_of_false (fun h => by cases h) (fun h => by cases h)
  | bool b => exact iff_of_false (fun h => by cases h) (fun h => by cases h)
  | int n => exact iff_of_false (fun h => by cases h) (fun h => by cases h)
  | float x => exact iff_of_false (fun h => by cases h) (fun h => by cases h)
  | array items => exact iff_of_false (fun h => by cases h) (fun h => by cases h)
  | object members => exact iff_of_false (fun h => by cases h) (fun h => by cases h)

theorem SetupDescriptorTrustV1.read_eq_some {trust : SetupDescriptorTrustV1} :
    read value = some trust <-> value = .str (str trust.wireValue) := by
  unfold read values
  rw [List.foldl_cons, List.foldl_cons, List.foldl_nil]
  constructor
  · intro h
    split at h
    · rename_i htext
      cases h
      exact isText_iff.mp htext
    · split at h
      · rename_i htext
        cases h
        exact isText_iff.mp htext
      · cases h
  · intro h
    subst h
    cases trust with
    | developmentTofu => decide
    | manufacturerBound => decide

theorem positive?_eq_some {n : Int} :
    positive? value = some n <-> value = .int n ∧ inInt64 n ∧ 1 ≤ n := by
  unfold positive?
  rw [Option.filter_eq_some_iff, int?_eq_some, decide_eq_true_iff, and_assoc]

theorem exactKeys_eq_ok {members : Members} {keys : List String}
    {message : String} {u : Unit} :
    exactKeys members keys message = .ok u <->
      members.keys ⊆ keys.map str ∧ keys.map str ⊆ members.keys := by
  unfold exactKeys exceeds
  rw [throwIf_eq_ok, not_or, not_not, not_not]

theorem fromObject_eq_ok {α : Type} {read : Members -> Reading α} {a : α} :
    fromObject read value = .ok a <->
      exists members, value = .object members ∧ read members = .ok a := by
  cases value with
  | object members =>
      constructor
      · intro h
        exact ⟨members, rfl, h⟩
      · intro h
        rcases h with ⟨members', heq, h⟩
        rw [Json.object.inj heq]
        exact h
  | null => exact iff_of_false nofun nofun
  | bool b => exact iff_of_false nofun nofun
  | int n => exact iff_of_false nofun nofun
  | float x => exact iff_of_false nofun nofun
  | str t => exact iff_of_false nofun nofun
  | array items => exact iff_of_false nofun nofun

end Accepts

end DeviceFoundation
end EidolonSdk
