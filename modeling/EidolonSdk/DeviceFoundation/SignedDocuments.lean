import EidolonSdk.DeviceFoundation.Manifest
import EidolonSdk.Support.CanonicalJson
import EidolonSdk.Support.Sha256

/-!
# The documents a device signs

Seven steps of the device protocol end in a signature of one operational key
over the canonical form of a small document.  A signature made for one step
must not count at another, and must not count for other arguments of its own
step; this module says how far each document carries that.
-/

namespace EidolonSdk
namespace DeviceFoundation

open Python Pydantic Support

/-!
## The documents
-/

def claimGrantCollectionProofContract : String :=
  "eidolon.device-foundation.claim-grant-collection"

def claimGrantAckProofContract : String :=
  "eidolon.device-foundation.claim-grant-ack"

def deviceOperationAckContract : String :=
  "eidolon.device-foundation.device-operation-ack"

def deviceControlConfigurationOperation : String :=
  "device-control.configuration"

def manifestAssertionOperation : String :=
  "device-control.manifest-assert"

def deviceLocalEraseOperation : String :=
  "device-local.erase"

def trustProfileId : String :=
  "eidolon-trust-p256-hpke-v1"

def claimGrantCollectionProofDocument (enrollmentId : PyStr)
    (proposalRevision : Int) (collectionChallenge : PyStr) : Members :=
  [(str "contract", .str (str claimGrantCollectionProofContract)),
    (str "enrollment_id", .str enrollmentId),
    (str "proposal_revision", .int proposalRevision),
    (str "collection_challenge", .str collectionChallenge)]

def claimGrantAckProofDocument (enrollmentId grantId : PyStr)
    (deviceRef : DeviceRef) : Members :=
  [(str "contract", .str (str claimGrantAckProofContract)),
    (str "enrollment_id", .str enrollmentId),
    (str "grant_id", .str grantId),
    (str "device_ref", deviceRef.dump)]

def deviceControlConfigurationProofDocument (deviceRef : DeviceRef)
    (nonce : PyStr) : Members :=
  [(str "device_ref", deviceRef.dump),
    (str "nonce", .str nonce),
    (str "operation_type", .str (str deviceControlConfigurationOperation))]

def baseIdentityEvidenceDocument (deviceBaseId deviceInstanceId
    operationalPublicKey : PyStr) : Members :=
  [(str "device_base_id", .str deviceBaseId),
    (str "device_instance_id", .str deviceInstanceId),
    (str "operational_public_key", .str operationalPublicKey),
    (str "profile_id", .str (str trustProfileId))]

structure AssertDeviceManifest (hash : Sha256) (canonical : Rfc8785) where
  deviceRef : DeviceRef
  manifest : ManifestDocument hash canonical
  nonce : ConStr nonceRule
  publicKeySpki : ConStr publicKeySpkiRule
  deviceSignature : ConStr deviceSignatureRule

def AssertDeviceManifest.signingDocument {hash : Sha256} {canonical : Rfc8785}
    (assertion : AssertDeviceManifest hash canonical) : Members :=
  [(str "device_ref", assertion.deviceRef.dump),
    (str "manifest_digest", .str assertion.manifest.digest.val),
    (str "nonce", .str assertion.nonce.val),
    (str "operation_type", .str (str manifestAssertionOperation))]

@[ext] structure DeviceOperationKeyProof where
  deviceInstanceId : DeviceInstanceId
  enrollmentRequestId : ConStr nameRule
  publicKeySpki : ConStr publicKeySpkiRule
  possessionSignature : ConStr deviceSignatureRule

/-- The model's own dump without its signature. -/
def DeviceOperationKeyProof.signingDocument (proof : DeviceOperationKeyProof) :
    Members :=
  [(str "device_instance_id", .str proof.deviceInstanceId.val),
    (str "enrollment_request_id", .str proof.enrollmentRequestId.val),
    (str "public_key_spki", .str proof.publicKeySpki.val)]

inductive EraseResult where
  | erased
  | permanentFailure
  deriving DecidableEq

def EraseResult.word : EraseResult -> String
  | .erased => "erased"
  | .permanentFailure => "permanent-failure"

theorem EraseResult.word_inj {a b : EraseResult} :
    a.word = b.word <-> a = b := by
  cases a with
  | erased => cases b <;> decide
  | permanentFailure => cases b <;> decide

@[ext] structure DeviceLocalEraseAck where
  operationId : ConStr nameRule
  deviceRef : DeviceRef
  ackSequence : IntFrom 1
  result : EraseResult
  resultCode : ConStr labelRule
  deviceMonotonicTime : IntFrom 0
  deviceSignature : ConStr deviceSignatureRule

/-- The model's own dump without its signature. -/
def DeviceLocalEraseAck.signingDocument (ack : DeviceLocalEraseAck) : Members :=
  [(str "contract", .str (str deviceOperationAckContract)),
    (str "contract_version", .str (str "1.0")),
    (str "operation_id", .str ack.operationId.val),
    (str "operation_type", .str (str deviceLocalEraseOperation)),
    (str "device_ref", ack.deviceRef.dump),
    (str "ack_sequence", .int ack.ackSequence.val),
    (str "result", .str (str ack.result.word)),
    (str "result_code", .str ack.resultCode.val),
    (str "device_monotonic_time", .int ack.deviceMonotonicTime.val)]

/-!
## One family of proofs

What a device signs is a call of one of the seven functions.  A part of its
arguments reaches the document; the rest, a signature or the body of a
manifest, does not.
-/

section Family

variable (hash : Sha256) (canonical : Rfc8785)

inductive SignedProof where
  | claimGrantCollection (enrollmentId : PyStr) (proposalRevision : Int)
      (collectionChallenge : PyStr)
  | claimGrantAck (enrollmentId grantId : PyStr) (deviceRef : DeviceRef)
  | deviceControlConfiguration (deviceRef : DeviceRef) (nonce : PyStr)
  | manifestAssertion (assertion : AssertDeviceManifest hash canonical)
  | operationKeyProof (proof : DeviceOperationKeyProof)
  | localEraseAck (ack : DeviceLocalEraseAck)
  | baseIdentityEvidence (deviceBaseId deviceInstanceId
      operationalPublicKey : PyStr)

/-- The arguments a document is about. -/
inductive SignedArguments where
  | claimGrantCollection (enrollmentId : PyStr) (proposalRevision : Int)
      (collectionChallenge : PyStr)
  | claimGrantAck (enrollmentId grantId : PyStr) (deviceRef : DeviceRef)
  | deviceControlConfiguration (deviceRef : DeviceRef) (nonce : PyStr)
  | manifestAssertion (deviceRef : DeviceRef) (nonce : ConStr nonceRule)
      (digest : ConStr digestRule)
  | operationKeyProof (deviceInstanceId : DeviceInstanceId)
      (enrollmentRequestId : ConStr nameRule)
      (publicKeySpki : ConStr publicKeySpkiRule)
  | localEraseAck (operationId : ConStr nameRule) (deviceRef : DeviceRef)
      (ackSequence : IntFrom 1) (result : EraseResult)
      (resultCode : ConStr labelRule) (deviceMonotonicTime : IntFrom 0)
  | baseIdentityEvidence (deviceBaseId deviceInstanceId
      operationalPublicKey : PyStr)

variable {hash canonical}

namespace SignedProof

def document : SignedProof hash canonical -> Members
  | .claimGrantCollection enrollment revision challenge =>
      claimGrantCollectionProofDocument enrollment revision challenge
  | .claimGrantAck enrollment grant ref =>
      claimGrantAckProofDocument enrollment grant ref
  | .deviceControlConfiguration ref nonce =>
      deviceControlConfigurationProofDocument ref nonce
  | .manifestAssertion assertion => assertion.signingDocument
  | .operationKeyProof proof => proof.signingDocument
  | .localEraseAck ack => ack.signingDocument
  | .baseIdentityEvidence base device key =>
      baseIdentityEvidenceDocument base device key

def signed : SignedProof hash canonical -> SignedArguments
  | .claimGrantCollection enrollment revision challenge =>
      .claimGrantCollection enrollment revision challenge
  | .claimGrantAck enrollment grant ref => .claimGrantAck enrollment grant ref
  | .deviceControlConfiguration ref nonce =>
      .deviceControlConfiguration ref nonce
  | .manifestAssertion assertion =>
      .manifestAssertion assertion.deviceRef assertion.nonce
        assertion.manifest.digest
  | .operationKeyProof proof =>
      .operationKeyProof proof.deviceInstanceId proof.enrollmentRequestId
        proof.publicKeySpki
  | .localEraseAck ack =>
      .localEraseAck ack.operationId ack.deviceRef ack.ackSequence ack.result
        ack.resultCode ack.deviceMonotonicTime
  | .baseIdentityEvidence base device key =>
      .baseIdentityEvidence base device key

end SignedProof

end Family

/-!
## Domains

No member is common to all seven documents.  Three of them tell the kinds
apart: the contract, the operation and the trust profile, where the last one
counts by its presence alone.
-/

structure Domain where
  contract : Option String
  operation : Option String
  profile : Bool
  deriving DecidableEq

inductive ProofKind where
  | claimGrantCollection
  | claimGrantAck
  | deviceControlConfiguration
  | manifestAssertion
  | operationKeyProof
  | localEraseAck
  | baseIdentityEvidence
  deriving DecidableEq

def ProofKind.domain : ProofKind -> Domain
  | .claimGrantCollection =>
      ⟨some claimGrantCollectionProofContract, none, false⟩
  | .claimGrantAck => ⟨some claimGrantAckProofContract, none, false⟩
  | .deviceControlConfiguration =>
      ⟨none, some deviceControlConfigurationOperation, false⟩
  | .manifestAssertion => ⟨none, some manifestAssertionOperation, false⟩
  | .operationKeyProof => ⟨none, none, false⟩
  | .localEraseAck =>
      ⟨some deviceOperationAckContract, some deviceLocalEraseOperation, false⟩
  | .baseIdentityEvidence => ⟨none, none, true⟩

theorem ProofKind.domain_inj {k l : ProofKind} (h : k.domain = l.domain) :
    k = l := by
  cases k <;> cases l <;> first | rfl | (exact absurd h (by decide))

/-- The document carries the fixed words of the domain and no others. -/
structure Domain.ReadFrom (domain : Domain) (members : Members) : Prop where
  contract : members.get "contract" = domain.contract.map (Json.str ∘ str)
  operation :
    members.get "operation_type" = domain.operation.map (Json.str ∘ str)
  profile : (members.get "profile_id").isSome = domain.profile

theorem fixed_word_eq {a b : Option String}
    (h : Option.Rel Json.Same (a.map (Json.str ∘ str))
      (b.map (Json.str ∘ str))) : a = b := by
  cases a with
  | none =>
      cases b with
      | none => rfl
      | some word => cases h
  | some word =>
      cases b with
      | none => cases h
      | some word' =>
          simp [Json.Same.str_iff] at h
          rw [h]

theorem Domain.ReadFrom.unique {domain domain' : Domain} {ms ns : Members}
    (hm : domain.ReadFrom ms) (hn : domain'.ReadFrom ns)
    (h : Json.Same (.object ms) (.object ns)) : domain = domain' := by
  have hcontract := h.get_rel "contract"
  have hoperation := h.get_rel "operation_type"
  rw [hm.contract, hn.contract] at hcontract
  rw [hm.operation, hn.operation] at hoperation
  have hprofile : domain.profile = domain'.profile := by
    rw [← hm.profile, ← hn.profile, Bool.eq_iff_iff, Members.get_isSome,
      Members.get_isSome]
    exact h.object_keys _
  cases domain with
  | mk contract operation profile =>
      cases domain' with
      | mk contract' operation' profile' =>
          rw [Domain.mk.injEq]
          exact ⟨fixed_word_eq hcontract, fixed_word_eq hoperation, hprofile⟩

namespace SignedProof

variable {hash : Sha256} {canonical : Rfc8785}

def kind : SignedProof hash canonical -> ProofKind
  | .claimGrantCollection .. => .claimGrantCollection
  | .claimGrantAck .. => .claimGrantAck
  | .deviceControlConfiguration .. => .deviceControlConfiguration
  | .manifestAssertion _ => .manifestAssertion
  | .operationKeyProof _ => .operationKeyProof
  | .localEraseAck _ => .localEraseAck
  | .baseIdentityEvidence .. => .baseIdentityEvidence

theorem domain_readFrom (proof : SignedProof hash canonical) :
    proof.kind.domain.ReadFrom proof.document := by
  cases proof with
  | claimGrantCollection enrollment revision challenge =>
      constructor <;>
        simp [document, kind, ProofKind.domain,
          claimGrantCollectionProofDocument]
  | claimGrantAck enrollment grant ref =>
      constructor <;>
        simp [document, kind, ProofKind.domain, claimGrantAckProofDocument]
  | deviceControlConfiguration ref nonce =>
      constructor <;>
        simp [document, kind, ProofKind.domain,
          deviceControlConfigurationProofDocument]
  | manifestAssertion assertion =>
      constructor <;>
        simp [document, kind, ProofKind.domain,
          AssertDeviceManifest.signingDocument]
  | operationKeyProof proof =>
      constructor <;>
        simp [document, kind, ProofKind.domain,
          DeviceOperationKeyProof.signingDocument]
  | localEraseAck ack =>
      constructor <;>
        simp [document, kind, ProofKind.domain,
          DeviceLocalEraseAck.signingDocument]
  | baseIdentityEvidence base device key =>
      constructor <;>
        simp [document, kind, ProofKind.domain, baseIdentityEvidenceDocument]

/-- Two steps never sign the same document. -/
theorem kind_eq_of_same {proof proof' : SignedProof hash canonical}
    (h : Json.Same (.object proof.document) (.object proof'.document)) :
    proof.kind = proof'.kind :=
  ProofKind.domain_inj (proof.domain_readFrom.unique proof'.domain_readFrom h)

end SignedProof

/-!
## One document, one list of arguments
-/

section Members

variable {hash : Sha256} {canonical : Rfc8785}

theorem claimGrantCollectionProofDocument_inj
    {enrollment enrollment' challenge challenge' : PyStr}
    {revision revision' : Int}
    (h : Json.Same
      (.object (claimGrantCollectionProofDocument enrollment revision challenge))
      (.object
        (claimGrantCollectionProofDocument enrollment' revision' challenge'))) :
    enrollment = enrollment' ∧ revision = revision' ∧
      challenge = challenge' := by
  have henrollment := h.get_rel "enrollment_id"
  have hrevision := h.get_rel "proposal_revision"
  have hchallenge := h.get_rel "collection_challenge"
  simp [claimGrantCollectionProofDocument, Json.Same.str_iff,
    Json.Same.int_iff] at henrollment hrevision hchallenge
  exact ⟨henrollment, hrevision, hchallenge⟩

theorem claimGrantAckProofDocument_inj
    {enrollment enrollment' grant grant' : PyStr} {ref ref' : DeviceRef}
    (h : Json.Same (.object (claimGrantAckProofDocument enrollment grant ref))
      (.object (claimGrantAckProofDocument enrollment' grant' ref'))) :
    enrollment = enrollment' ∧ grant = grant' ∧ ref = ref' := by
  have henrollment := h.get_rel "enrollment_id"
  have hgrant := h.get_rel "grant_id"
  have href := h.get_rel "device_ref"
  simp [claimGrantAckProofDocument, Json.Same.str_iff]
    at henrollment hgrant href
  exact ⟨henrollment, hgrant, DeviceRef.eq_of_same_dump href⟩

theorem deviceControlConfigurationProofDocument_inj {ref ref' : DeviceRef}
    {nonce nonce' : PyStr}
    (h : Json.Same
      (.object (deviceControlConfigurationProofDocument ref nonce))
      (.object (deviceControlConfigurationProofDocument ref' nonce'))) :
    ref = ref' ∧ nonce = nonce' := by
  have href := h.get_rel "device_ref"
  have hnonce := h.get_rel "nonce"
  simp [deviceControlConfigurationProofDocument, Json.Same.str_iff]
    at href hnonce
  exact ⟨DeviceRef.eq_of_same_dump href, hnonce⟩

theorem baseIdentityEvidenceDocument_inj
    {base base' device device' key key' : PyStr}
    (h : Json.Same (.object (baseIdentityEvidenceDocument base device key))
      (.object (baseIdentityEvidenceDocument base' device' key'))) :
    base = base' ∧ device = device' ∧ key = key' := by
  have hbase := h.get_rel "device_base_id"
  have hdevice := h.get_rel "device_instance_id"
  have hkey := h.get_rel "operational_public_key"
  simp [baseIdentityEvidenceDocument, Json.Same.str_iff] at hbase hdevice hkey
  exact ⟨hbase, hdevice, hkey⟩

theorem AssertDeviceManifest.signingDocument_inj
    {a b : AssertDeviceManifest hash canonical}
    (h : Json.Same (.object a.signingDocument) (.object b.signingDocument)) :
    a.deviceRef = b.deviceRef ∧ a.nonce = b.nonce ∧
      a.manifest.digest = b.manifest.digest := by
  have href := h.get_rel "device_ref"
  have hdigest := h.get_rel "manifest_digest"
  have hnonce := h.get_rel "nonce"
  simp [AssertDeviceManifest.signingDocument, Json.Same.str_iff]
    at href hdigest hnonce
  exact ⟨DeviceRef.eq_of_same_dump href, Subtype.ext hnonce,
    Subtype.ext hdigest⟩

/-- Two proofs with one document differ in their signature at most. -/
theorem DeviceOperationKeyProof.signingDocument_inj
    {a b : DeviceOperationKeyProof}
    (h : Json.Same (.object a.signingDocument) (.object b.signingDocument)) :
    b = { a with possessionSignature := b.possessionSignature } := by
  have hdevice := h.get_rel "device_instance_id"
  have hrequest := h.get_rel "enrollment_request_id"
  have hkey := h.get_rel "public_key_spki"
  simp [DeviceOperationKeyProof.signingDocument, Json.Same.str_iff]
    at hdevice hrequest hkey
  exact DeviceOperationKeyProof.ext (Subtype.ext hdevice.symm)
    (Subtype.ext hrequest.symm) (Subtype.ext hkey.symm) rfl

theorem DeviceLocalEraseAck.signingDocument_inj {a b : DeviceLocalEraseAck}
    (h : Json.Same (.object a.signingDocument) (.object b.signingDocument)) :
    b = { a with deviceSignature := b.deviceSignature } := by
  have hoperation := h.get_rel "operation_id"
  have href := h.get_rel "device_ref"
  have hsequence := h.get_rel "ack_sequence"
  have hresult := h.get_rel "result"
  have hcode := h.get_rel "result_code"
  have htime := h.get_rel "device_monotonic_time"
  simp [DeviceLocalEraseAck.signingDocument, Json.Same.str_iff]
    at hoperation href hresult hcode
  simp [DeviceLocalEraseAck.signingDocument, Json.Same.int_iff]
    at hsequence htime
  exact DeviceLocalEraseAck.ext (Subtype.ext hoperation.symm)
    (DeviceRef.eq_of_same_dump href).symm (Subtype.ext hsequence.symm)
    (EraseResult.word_inj.mp hresult.symm) (Subtype.ext hcode.symm)
    (Subtype.ext htime.symm) rfl

/-- A document determines the step it is made for and what it is about. -/
theorem SignedProof.signed_eq_of_same {proof proof' : SignedProof hash canonical}
    (h : Json.Same (.object proof.document) (.object proof'.document)) :
    proof.signed = proof'.signed := by
  have hkind := SignedProof.kind_eq_of_same h
  cases proof with
  | claimGrantCollection enrollment revision challenge =>
      cases proof' with
      | claimGrantCollection enrollment' revision' challenge' =>
          rcases claimGrantCollectionProofDocument_inj h with ⟨rfl, rfl, rfl⟩
          rfl
      | _ => cases hkind
  | claimGrantAck enrollment grant ref =>
      cases proof' with
      | claimGrantAck enrollment' grant' ref' =>
          rcases claimGrantAckProofDocument_inj h with ⟨rfl, rfl, rfl⟩
          rfl
      | _ => cases hkind
  | deviceControlConfiguration ref nonce =>
      cases proof' with
      | deviceControlConfiguration ref' nonce' =>
          rcases deviceControlConfigurationProofDocument_inj h with ⟨rfl, rfl⟩
          rfl
      | _ => cases hkind
  | manifestAssertion assertion =>
      cases proof' with
      | manifestAssertion assertion' =>
          rcases AssertDeviceManifest.signingDocument_inj h with
            ⟨href, hnonce, hdigest⟩
          simp only [signed, href, hnonce, hdigest]
      | _ => cases hkind
  | operationKeyProof proof =>
      cases proof' with
      | operationKeyProof proof' =>
          rw [DeviceOperationKeyProof.signingDocument_inj h]
          rfl
      | _ => cases hkind
  | localEraseAck ack =>
      cases proof' with
      | localEraseAck ack' =>
          rw [DeviceLocalEraseAck.signingDocument_inj h]
          rfl
      | _ => cases hkind
  | baseIdentityEvidence base device key =>
      cases proof' with
      | baseIdentityEvidence base' device' key' =>
          rcases baseIdentityEvidenceDocument_inj h with ⟨rfl, rfl, rfl⟩
          rfl
      | _ => cases hkind

/-- The octets a signature is made over determine the step and its
arguments. -/
theorem signed_octets_determine_arguments (hcanonical : canonical.Injective)
    (proof proof' : SignedProof hash canonical) {octets : Bytes}
    (h : canonical.dumps (.object proof.document) = .ok octets)
    (h' : canonical.dumps (.object proof'.document) = .ok octets) :
    proof.signed = proof'.signed :=
  SignedProof.signed_eq_of_same (hcanonical _ _ octets h h')

end Members

/-!
The document of a key proof leaves its signature out.
-/

def sampleDeviceInstanceId : DeviceInstanceId :=
  ⟨str "device-instance-" ++ List.replicate 64 (codePoint '0'),
    accepts_zeroDeviceInstance⟩

def samplePublicKeySpki : ConStr publicKeySpkiRule :=
  ⟨List.replicate 120 (codePoint 'A'), by decide⟩

def sampleDeviceSignature : ConStr deviceSignatureRule :=
  ⟨List.replicate 86 (codePoint 'A'), by decide⟩

def otherDeviceSignature : ConStr deviceSignatureRule :=
  ⟨List.replicate 86 (codePoint 'B'), by decide⟩

def sampleKeyProof (signature : ConStr deviceSignatureRule) :
    DeviceOperationKeyProof where
  deviceInstanceId := sampleDeviceInstanceId
  enrollmentRequestId := ⟨str "enrollment", by decide⟩
  publicKeySpki := samplePublicKeySpki
  possessionSignature := signature

def sampleKeyStep (signature : ConStr deviceSignatureRule) :
    SignedProof sha256 Rfc8785.plain :=
  .operationKeyProof (sampleKeyProof signature)

theorem signed_octets_determine_arguments_key_proof :
    (sampleKeyStep sampleDeviceSignature).signed =
      (sampleKeyStep otherDeviceSignature).signed := by
  have hform := Rfc8785.plain_dumps
    (v := .object (sampleKeyStep sampleDeviceSignature).document) (by decide +kernel)
  generalize Rfc8785.plainForm _ = form at hform
  have hsame : (sampleKeyStep otherDeviceSignature).document =
      (sampleKeyStep sampleDeviceSignature).document := rfl
  have hother : Rfc8785.plain.dumps
      (.object (sampleKeyStep otherDeviceSignature).document) = .ok form := by
    rw [hsame]
    exact hform
  exact signed_octets_determine_arguments Rfc8785.plain_injective _ _ hform hother

end DeviceFoundation
end EidolonSdk
