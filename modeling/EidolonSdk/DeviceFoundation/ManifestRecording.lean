import EidolonSdk.DeviceFoundation.ManifestAssertion
import EidolonSdk.DeviceFoundation.References

/-!
# Manifests on record

An Authority records a manifest by its reference.  A manifest is named by any
string of three characters or more, and a reference by an identifier only, so what
a device proposes may have no reference.
-/

namespace EidolonSdk
namespace DeviceFoundation

open Python Pydantic Support

/-!
## What carries a manifest
-/

inductive EvidenceScheme where
  | hubIssuedBase
  | manufacturerAttestation
  deriving DecidableEq

structure HardwareIdentityEvidence where
  scheme : EvidenceScheme
  evidence : ConStr { minLength := 16, maxLength := some 65536 }
  evidenceDigest : ConStr digestRule

inductive CommissioningScheme where
  | hubIssuedVoucher
  | enrolledBaseKey
  deriving DecidableEq

structure CommissioningProof where
  scheme : CommissioningScheme
  proof : ConStr { minLength := 16, maxLength := some 4096 }
  nonce : ConStr { minLength := 16, maxLength := some 256 }

/-- `^p256-spki:[A-Za-z0-9_-]+$`. -/
def keyTextRule : StrRule :=
  { pattern := fun s => startsWith s (str "p256-spki:") &&
      matchesBase64Url (s.drop 10) }

structure HandoffPublicKey where
  publicKey : ConStr keyTextRule

structure OperationalPublicKey where
  publicKey : ConStr keyTextRule

structure CreateEnrollment (hash : Sha256) (canonical : Rfc8785) where
  deviceInstanceCandidateId : DeviceInstanceId
  requestedOwnerDomainId : OwnerDomainId
  hardwareIdentityEvidence : HardwareIdentityEvidence
  commissioningProof : CommissioningProof
  manifest : ManifestDocument hash canonical
  handoffKey : HandoffPublicKey
  operationalKey : OperationalPublicKey

/-!
## The reference
-/

namespace ManifestDocument

variable {hash : Sha256} {canonical : Rfc8785}

/-- `ManifestDocument.ref`. -/
def ref (manifest : ManifestDocument hash canonical) : Validated ManifestRef :=
  ManifestRef.validate (.object
    [(str "manifest_id", .str manifest.manifestId.val),
      (str "revision", .int manifest.revision.val),
      (str "digest", .str manifest.digest.val)])

/-- The reference exists, and says of the manifest what the manifest says. -/
def Recordable (manifest : ManifestDocument hash canonical) : Prop :=
  exists ref : ManifestRef, manifest.ref = .ok ref ∧
    ref.manifestId.val = manifest.manifestId.val ∧
    ref.revision = manifest.revision ∧ ref.digest = manifest.digest ∧
    manifestDigest hash canonical manifest.document = .ok ref.digest.val

variable {manifest : ManifestDocument hash canonical}

theorem ref_of_identifier
    (h : identifierRule.Accepts manifest.manifestId.val) :
    manifest.ref =
      .ok ⟨⟨manifest.manifestId.val, h⟩, manifest.revision, manifest.digest⟩ :=
  ManifestRef.validate_dump
    ⟨⟨manifest.manifestId.val, h⟩, manifest.revision, manifest.digest⟩

/-- A name of a manifest is an identifier if it matches the pattern. -/
theorem identifierRule_accepts (name : ConStr nameRule) :
    identifierRule.Accepts name.val <-> matchesIdentifier name.val = true := by
  constructor
  · intro h
    exact h.right.right.right
  · intro h
    exact ⟨name.property.left, name.property.right.left,
      name.property.right.right.left, h⟩

theorem Recordable.identifier (h : manifest.Recordable) :
    matchesIdentifier manifest.manifestId.val = true := by
  rcases h with ⟨ref, _, hname, _⟩
  rw [← hname]
  exact ref.manifestId.property.right.right.right

theorem recordable_of_identifier
    (h : matchesIdentifier manifest.manifestId.val = true) :
    manifest.Recordable :=
  ⟨_, ref_of_identifier ((identifierRule_accepts _).mpr h), rfl, rfl, rfl,
    manifest.describes⟩

/-- A manifest can be referenced, wherever it is carried, if its name is an
identifier. -/
theorem recordable_iff (manifest : ManifestDocument hash canonical) :
    (manifest.Recordable ∧
      (forall enrollment : CreateEnrollment hash canonical,
        enrollment.manifest = manifest -> enrollment.manifest.Recordable) ∧
      forall assertion : AssertDeviceManifest hash canonical,
        assertion.manifest = manifest -> assertion.manifest.Recordable) <->
      matchesIdentifier manifest.manifestId.val = true := by
  constructor
  · intro h
    exact h.left.identifier
  · intro h
    have hrecordable := recordable_of_identifier h
    exact ⟨hrecordable, fun _ heq => heq ▸ hrecordable,
      fun _ heq => heq ▸ hrecordable⟩

/-!
The lamp goes by a name with a space in it.
-/

noncomputable def spacedManifest : ManifestDocument lampHash lampCanonical :=
  { lampManifest (IntFrom.lowest 1) with
    manifestId := ⟨str "desk lamp", by decide⟩ }

theorem not_recordable :
    ¬ forall (hash : Sha256) (canonical : Rfc8785)
      (manifest : ManifestDocument hash canonical), manifest.Recordable := by
  intro h
  exact absurd (h _ _ spacedManifest).identifier (by decide)

end ManifestDocument

end DeviceFoundation
end EidolonSdk
