import EidolonSdk.Contracts.JsonSchema
import EidolonSdk.DeviceFoundation.DartBinding

/-!
# The common schemas

The definitions of {lit}`common/schemas.schema.json` that have a reader of their
own in Python or in Dart, under the names they have there.
-/

namespace EidolonSdk
namespace DeviceFoundation
namespace CommonSchemas

open Python JsonSchema

def identifierText : Text :=
  { minLength := 3, maxLength := some 128, pattern := matchesIdentifier }

def deviceInstanceIdText : Text :=
  { minLength := 80, maxLength := some 80
    pattern := matchesDigest "device-instance-" }

def ownerDomainIdText : Text :=
  { minLength := 3, maxLength := some 128, pattern := matchesNamespace "owner-" }

/-- `DeviceRef`. -/
def deviceRef : Schema :=
  object
    [{ name := "device_instance_id", schema := string deviceInstanceIdText },
      { name := "owner_domain_id", schema := string ownerDomainIdText },
      { name := "owner_domain_generation", schema := integer 1 none },
      { name := "claim_generation", schema := integer 1 none },
      { name := "trust_epoch", schema := integer 1 none }]

def commissioningSessionIdText : Text :=
  { minLength := 16, maxLength := some 128, pattern := matchesBase64Url }

def displayNameText : Text :=
  { minLength := 1, maxLength := some 128 }

def identityFingerprintText : Text :=
  { pattern := matchesDigest "p256:" }

def setupDescriptorTrust : List String :=
  ["development-tofu", "manufacturer-bound"]

/-- `SetupDescriptor`. -/
def setupDescriptor : Schema :=
  object
    [{ name := "contract_version", schema := enum ["1"] },
      { name := "device_id", schema := string deviceInstanceIdText },
      { name := "device_kind", schema := string identifierText },
      { name := "display_name", schema := string displayNameText },
      { name := "identity_fingerprint"
        schema := string identityFingerprintText },
      { name := "session_id", schema := string commissioningSessionIdText },
      { name := "expires_in_seconds", schema := integer 1 none
        required := false },
      { name := "trust", schema := enum setupDescriptorTrust }]

/-!
## Manifests
-/

/-- A name, a title. -/
def labelText : Text :=
  { minLength := 1, maxLength := some 128, pattern := saysSomething }

def codecText : Text :=
  { minLength := 1, maxLength := some 64, pattern := saysSomething }

def manifestProperty : Schema :=
  object
    [{ name := "name", schema := string labelText },
      { name := "schema", schema := anyObject },
      { name := "observable", schema := boolean },
      { name := "writable", schema := boolean }]

def manifestAction : Schema :=
  object
    [{ name := "name", schema := string labelText },
      { name := "version", schema := integer 1 (some 65535) },
      { name := "input_schema", schema := anyObject },
      { name := "output_schema", schema := anyObject },
      { name := "idempotent", schema := boolean }]

def manifestEvent : Schema :=
  object
    [{ name := "name", schema := string labelText },
      { name := "data_schema", schema := anyObject }]

def manifestMedia : Schema :=
  object
    [{ name := "kind", schema := enum ["audio", "video"] },
      { name := "direction"
        schema := enum ["publish", "subscribe", "bidirectional"] },
      { name := "codecs", schema := array 32 (string codecText)
        required := false }]

/-- `DeviceCapabilityManifest`. -/
def deviceCapabilityManifest : Schema :=
  object
    [{ name := "schema_version", schema := constInteger 1 },
      { name := "title", schema := string labelText },
      { name := "properties", schema := array 64 manifestProperty },
      { name := "actions", schema := array 64 manifestAction },
      { name := "events", schema := array 64 manifestEvent },
      { name := "media", schema := array 16 manifestMedia }]

end CommonSchemas
end DeviceFoundation
end EidolonSdk
