import EidolonSdk.DeviceFoundation.DescriptorSigning
import EidolonSdk.DeviceFoundation.Fingerprints
import EidolonSdk.DeviceFoundation.OperationalKeys
import EidolonSdk.DeviceFoundation.SignedDocuments
import EidolonSdk.Support.Der

/-!
# Signatures of a device

A device proves possession of its key and acknowledges an erase with signatures
over documents.  The key comes in either of two spellings.
-/

namespace EidolonSdk
namespace DeviceFoundation

open Python Logic Pydantic Support

/-!
## Verifying
-/

/-- Reading the octets of a key. -/
structure DeviceKeys (P : LocatorPrimitives) where
  loadDerPublicKey : Bytes -> Except PyException P.PublicKey

def contractError {α : Type} (message : String) : Except EraseFailure α :=
  .error (.deviceEraseContractError (str message))

/-- {lit}`except (TypeError, ValueError)` around a call. -/
def wrapTypeOrValueError {α : Type} (x : Except PyException α) (message : String) :
    Except EraseFailure α :=
  match x with
  | .ok a => .ok a
  | .error e =>
      if e.isValueError || e == .typeError then contractError message
      else .error (.foreign e)

/-- {lit}`_key_bytes`. -/
def eraseKeyBytes (publicKeySpki : PyStr) : Except EraseFailure Bytes :=
  match operationalPublicKeyBytes publicKeySpki with
  | .ok raw => .ok raw
  | .error _ => contractError "invalid operational P-256 public key"

/-- {lit}`operation_key_id`. -/
def operationKeyId (hash : Sha256) (publicKeySpki : PyStr) :
    Except EraseFailure PyStr :=
  match operationalKeyId hash publicKeySpki with
  | .ok name => .ok name
  | .error _ => contractError "invalid operational P-256 public key"

/-- {lit}`_b64url_decode`. -/
def b64urlDecode (value : PyStr) : Except EraseFailure Bytes :=
  match urlsafeB64Decode (filled value) with
  | some raw => .ok raw
  | none => contractError "invalid base64url value"

section Verify

variable {P : LocatorPrimitives} (D : DeviceKeys P)

def verifyP256Signature (publicKeySpki : PyStr) (signingDocument : Json)
    (signature : PyStr) : Except EraseFailure Unit := do
  let octets ← eraseKeyBytes publicKeySpki
  let key ← wrapTypeOrValueError (D.loadDerPublicKey octets)
    "invalid operational P-256 public key"
  if P.isP256 key = true then do
    let raw ← b64urlDecode signature
    if raw.length = 64 then do
      let der := P.encodeDssSignature (fromBytesBig (raw.take 32))
        (fromBytesBig (raw.drop 32))
      let signed ← canonicalBytes P.canonical signingDocument
      match P.verify key der signed with
      | .valid => .ok ()
      | .invalidSignature => contractError "device signature verification failed"
      | .failure e => .error (.foreign e)
    else contractError "ES256 signature must be 64-byte R||S"
  else contractError "operational key is not P-256"

def verifyOperationKeyProof (proof : DeviceOperationKeyProof) :
    Except EraseFailure Unit :=
  verifyP256Signature D proof.publicKeySpki.val (.object proof.signingDocument)
    proof.possessionSignature.val

def verifyDeviceEraseAck (ack : DeviceLocalEraseAck) (publicKeySpki : PyStr) :
    Except EraseFailure Unit :=
  verifyP256Signature D publicKeySpki (.object ack.signingDocument)
    ack.deviceSignature.val

end Verify

/-!
## What verifies
-/

section Verified

variable {P : LocatorPrimitives} {D : DeviceKeys P}
variable {publicKeySpki signature : PyStr} {document : Json}

theorem wrapTypeOrValueError_eq_ok {α : Type} {x : Except PyException α}
    {message : String} {a : α} :
    wrapTypeOrValueError x message = .ok a <-> x = .ok a := by
  cases x with
  | ok b => exact ⟨fun h => congrArg _ (Except.ok.inj h),
      fun h => congrArg _ (Except.ok.inj h)⟩
  | error e =>
      unfold wrapTypeOrValueError
      refine iff_of_false ?_ nofun
      dsimp only
      split
      · exact nofun
      · exact nofun

theorem eraseKeyBytes_eq_ok {raw : Bytes} :
    eraseKeyBytes publicKeySpki = .ok raw <->
      operationalPublicKeyBytes publicKeySpki = .ok raw := by
  unfold eraseKeyBytes
  cases operationalPublicKeyBytes publicKeySpki with
  | ok octets => exact ⟨fun h => congrArg _ (Except.ok.inj h),
      fun h => congrArg _ (Except.ok.inj h)⟩
  | error e => exact iff_of_false nofun nofun

theorem b64urlDecode_eq_ok {raw : Bytes} :
    b64urlDecode signature = .ok raw <->
      urlsafeB64Decode (filled signature) = some raw := by
  unfold b64urlDecode
  cases urlsafeB64Decode (filled signature) with
  | some octets => exact ⟨fun h => congrArg _ (Except.ok.inj h),
      fun h => congrArg _ (Option.some.inj h)⟩
  | none => exact iff_of_false nofun nofun

theorem verifyP256Signature_eq_ok :
    verifyP256Signature D publicKeySpki document signature = .ok () <->
      exists octets key raw signed,
        operationalPublicKeyBytes publicKeySpki = .ok octets ∧
        D.loadDerPublicKey octets = .ok key ∧ P.isP256 key = true ∧
        urlsafeB64Decode (filled signature) = some raw ∧ raw.length = 64 ∧
        P.canonical.dumps document = .ok signed ∧
        P.verify key (P.encodeDssSignature (fromBytesBig (raw.take 32))
          (fromBytesBig (raw.drop 32))) signed = .valid := by
  unfold verifyP256Signature
  simp only [bind_eq_ok, eraseKeyBytes_eq_ok, wrapTypeOrValueError_eq_ok]
  constructor
  · intro hparts
    rcases hparts with ⟨octets, hoctets, key, hkey, h⟩
    by_cases hcurve : P.isP256 key = true
    · rw [if_pos hcurve] at h
      rcases bind_eq_ok.mp h with ⟨raw, hraw, h⟩
      by_cases hlength : raw.length = 64
      · rw [if_pos hlength] at h
        rcases bind_eq_ok.mp h with ⟨signed, hsigned, h⟩
        refine ⟨octets, key, raw, signed, hoctets, hkey, hcurve,
          b64urlDecode_eq_ok.mp hraw, hlength,
          canonicalBytes_eq_ok.mp hsigned, ?_⟩
        split at h
        · assumption
        · cases h
        · cases h
      · rw [if_neg hlength] at h
        cases h
    · rw [if_neg hcurve] at h
      cases h
  · intro hparts
    rcases hparts with ⟨octets, key, raw, signed, hoctets, hkey, hcurve, hraw,
      hlength, hsigned, hvalid⟩
    refine ⟨octets, hoctets, key, hkey, ?_⟩
    rw [if_pos hcurve]
    refine bind_eq_ok.mpr ⟨raw, b64urlDecode_eq_ok.mpr hraw, ?_⟩
    rw [if_pos hlength]
    refine bind_eq_ok.mpr ⟨signed, canonicalBytes_eq_ok.mpr hsigned, ?_⟩
    simp only [hvalid]

/-- The scheme in front of a key says nothing. -/
theorem verifyP256Signature_scheme
    (hbare : startsWith publicKeySpki spkiScheme = false) :
    verifyP256Signature D (spkiScheme ++ publicKeySpki) document signature =
      verifyP256Signature D publicKeySpki document signature := by
  have hbytes : eraseKeyBytes (spkiScheme ++ publicKeySpki) =
      eraseKeyBytes publicKeySpki := by
    unfold eraseKeyBytes
    rw [operationalPublicKeyBytes_scheme hbare]
  unfold verifyP256Signature
  rw [hbytes]

theorem operationKeyId_scheme {hash : Sha256}
    (hbare : startsWith publicKeySpki spkiScheme = false) :
    operationKeyId hash (spkiScheme ++ publicKeySpki) =
      operationKeyId hash publicKeySpki := by
  unfold operationKeyId
  rw [(names_scheme hbare).left]

end Verified

/-!
## What a device signs
-/

section Signed

variable {P : LocatorPrimitives} {K : SigningPrimitives P} {D : DeviceKeys P}

/-- The text stands for the signature a key makes of a document. -/
def SignsDocument (K : SigningPrimitives P) (privateKey : K.PrivateKey)
    (document : Json) (signature : PyStr) : Prop :=
  exists raw signed, urlsafeB64Decode (filled signature) = some raw ∧
    raw.length = 64 ∧ P.canonical.dumps document = .ok signed ∧
    P.encodeDssSignature (fromBytesBig (raw.take 32)) (fromBytesBig (raw.drop 32)) =
      K.sign privateKey signed

variable {privateKey : K.PrivateKey} {publicKeySpki : PyStr} {octets : Bytes}
variable {document : Json} {signature : PyStr}

theorem SignsDocument.verified
    (hsigns : SignsDocument K privateKey document signature)
    (hoctets : operationalPublicKeyBytes publicKeySpki = .ok octets)
    (hkey : D.loadDerPublicKey octets = .ok (K.publicKey privateKey))
    (hcurve : P.isP256 (K.publicKey privateKey) = true)
    (hideal : forall form, P.canonical.dumps document = .ok form ->
      K.IdealOn privateKey form) :
    verifyP256Signature D publicKeySpki document signature = .ok () := by
  rcases hsigns with ⟨raw, form, hraw, hlength, hform, hencoded⟩
  exact verifyP256Signature_eq_ok.mpr ⟨octets, _, raw, form, hoctets, hkey, hcurve,
    hraw, hlength, hform, hencoded ▸ (hideal form hform form).mpr rfl⟩

/-- Whatever the signature verifies for is the document that was signed. -/
theorem SignsDocument.same (hcanonical : P.canonical.Injective)
    (hsigns : SignsDocument K privateKey document signature)
    (hoctets : operationalPublicKeyBytes publicKeySpki = .ok octets)
    (hkey : D.loadDerPublicKey octets = .ok (K.publicKey privateKey))
    (hideal : forall form, P.canonical.dumps document = .ok form ->
      K.IdealOn privateKey form)
    {other : Json}
    (hother : verifyP256Signature D publicKeySpki other signature = .ok ()) :
    Json.Same other document := by
  rcases hsigns with ⟨raw, form, hraw, _, hform, hencoded⟩
  rcases verifyP256Signature_eq_ok.mp hother with
    ⟨octets', key, raw', form', hoctets', hkey', _, hraw', _, hform', hvalid⟩
  cases hoctets.symm.trans hoctets'
  cases hkey.symm.trans hkey'
  cases hraw.symm.trans hraw'
  rw [hencoded] at hvalid
  have hsame : form' = form := (hideal form hform form').mp hvalid
  rw [hsame] at hform'
  exact hcanonical _ _ form hform' hform

/-- What a device signs verifies under its key in both spellings, and the
signature verifies for no other step and no other arguments. -/
theorem device_signature_binds {hash : Sha256} (hcanonical : P.canonical.Injective)
    {privateKey : K.PrivateKey} {publicKeySpki : PyStr} {octets : Bytes}
    (hoctets : operationalPublicKeyBytes publicKeySpki = .ok octets)
    (hkey : D.loadDerPublicKey octets = .ok (K.publicKey privateKey))
    (hcurve : P.isP256 (K.publicKey privateKey) = true)
    {proof : SignedProof hash P.canonical} {signature : PyStr}
    (hsigns : SignsDocument K privateKey (.object proof.document) signature)
    (hideal : forall form,
      P.canonical.dumps (.object proof.document) = .ok form ->
        K.IdealOn privateKey form) :
    verifyP256Signature D publicKeySpki (.object proof.document) signature = .ok () ∧
      (startsWith publicKeySpki spkiScheme = false ->
        verifyP256Signature D (spkiScheme ++ publicKeySpki)
          (.object proof.document) signature = .ok ()) ∧
      forall other : SignedProof hash P.canonical,
        verifyP256Signature D publicKeySpki (.object other.document) signature =
          .ok () -> other.signed = proof.signed := by
  have hverified := hsigns.verified hoctets hkey hcurve hideal
  refine ⟨hverified, fun hbare => (verifyP256Signature_scheme hbare).trans hverified, ?_⟩
  intro other hother
  exact SignedProof.signed_eq_of_same
    (hsigns.same hcanonical hoctets hkey hideal hother)

/-- A signed acknowledgement verifies in both spellings of the key.  Its signature
is under no other acknowledgement and no proof of the key. -/
theorem eraseAck_signature_binds (hcanonical : P.canonical.Injective)
    (hoctets : operationalPublicKeyBytes publicKeySpki = .ok octets)
    (hkey : D.loadDerPublicKey octets = .ok (K.publicKey privateKey))
    (hcurve : P.isP256 (K.publicKey privateKey) = true)
    {ack : DeviceLocalEraseAck}
    (hsigns : SignsDocument K privateKey (.object ack.signingDocument)
      ack.deviceSignature.val)
    (hideal : forall form,
      P.canonical.dumps (.object ack.signingDocument) = .ok form ->
        K.IdealOn privateKey form) :
    verifyDeviceEraseAck D ack publicKeySpki = .ok () ∧
      (startsWith publicKeySpki spkiScheme = false ->
        verifyDeviceEraseAck D ack (spkiScheme ++ publicKeySpki) = .ok ()) ∧
      (forall other : DeviceLocalEraseAck,
        other.deviceSignature = ack.deviceSignature ->
          verifyDeviceEraseAck D other publicKeySpki = .ok () -> other = ack) ∧
      forall proof : DeviceOperationKeyProof,
        proof.publicKeySpki.val = publicKeySpki ->
          proof.possessionSignature.val = ack.deviceSignature.val ->
            verifyOperationKeyProof D proof ≠ .ok () := by
  have hverified := hsigns.verified hoctets hkey hcurve hideal
  refine ⟨hverified, fun hbare => (verifyP256Signature_scheme hbare).trans hverified,
    ?_, ?_⟩
  · intro other hsignature hother
    unfold verifyDeviceEraseAck at hother
    rw [hsignature] at hother
    have hsigned := DeviceLocalEraseAck.signingDocument_inj
      (hsigns.same hcanonical hoctets hkey hideal hother)
    rw [← hsignature] at hsigned
    exact hsigned.symm
  · intro proof hspki hsignature hproof
    unfold verifyOperationKeyProof at hproof
    rw [hspki, hsignature] at hproof
    let step : SignedProof P.hash P.canonical := .operationKeyProof proof
    let signed : SignedProof P.hash P.canonical := .localEraseAck ack
    have hkind : step.kind = signed.kind := SignedProof.kind_eq_of_same
      (hsigns.same hcanonical hoctets hkey hideal hproof)
    cases hkind

end Signed

/-!
### A device that erased its data
-/

/-- The numbers of the device's key. -/
def devicePoint : Nat × Nat := (
  0xb6740219176abf28fe635a3f10112b252619e0e98c5cc06f1c7b2b7495ed832f,
  0xe00e33d8309f89e551d3b1209c74ac87d7141bfa76278b7e9961527e7fff36c5)

/-- The numbers of its signature. -/
def deviceNumbers : Nat × Nat := (
  0xa07fea8eba975313b56cd5a8f9e2bc30be220e266cda111973d8817d0fe1d860,
  0xe65742c7c4c5a8a53a2e0f186e0ca1691c6ac57ce53af5ddf352b4643d296727)

def deviceSignature : ConStr deviceSignatureRule :=
  ⟨urlsafeB64Unpadded
    (bigEndian 32 deviceNumbers.fst ++ bigEndian 32 deviceNumbers.snd), by
    decide +kernel⟩

theorem firstSequence_positive : 1 ≤ (1 : Int) := le_refl 1

def deviceAck : DeviceLocalEraseAck where
  operationId := ⟨str "erase_operation_01", by decide⟩
  deviceRef := ⟨⟨str "device-instance-" ++ sha256.hexdigest (spkiDer devicePoint), by
      decide +kernel⟩, ⟨str "owner-domain_01", by decide⟩, ⟨3, by decide⟩,
    ⟨7, by decide⟩, ⟨4, by decide⟩⟩
  ackSequence := ⟨1, firstSequence_positive⟩
  result := .erased
  resultCode := ⟨str "ERASED", by decide⟩
  deviceMonotonicTime := ⟨1234, by decide⟩
  deviceSignature := deviceSignature

def deviceStep : SignedProof sha256 Rfc8785.plain :=
  .localEraseAck deviceAck

/-- The canonical form of what the device signed. -/
@[irreducible]
def deviceAckForm : Bytes :=
  Rfc8785.plainForm (.object deviceStep.document)

theorem deviceAckForm_dumps :
    Rfc8785.plain.dumps (.object deviceStep.document) = .ok deviceAckForm := by
  unfold deviceAckForm
  exact Rfc8785.plain_dumps (by decide +kernel)

def deviceSigned : OneSignature where
  signed := deviceAckForm
  numbers := deviceNumbers
  first_lt := by decide
  second_lt := by decide
  ne_least := by decide

/-- The one key; there are no certificates. -/
def devicePrimitives : LocatorPrimitives where
  hash := sha256
  canonical := Rfc8785.plain
  PublicKey := Unit
  isP256 _ := true
  loadPemPublicKey text :=
    if text = pem "PUBLIC KEY" (spkiDer devicePoint) then .ok () else .error .valueError
  publicBytesPem _ := pem "PUBLIC KEY" (spkiDer devicePoint)
  publicBytesDer _ := spkiDer devicePoint
  Certificate := Empty
  loadPemCertificate _ := .error .valueError
  certificateKey := nofun
  notValidBefore := nofun
  notValidAfter := nofun
  basicConstraintsCa := nofun
  codeSigningUsage := nofun
  verifyCertificate := nofun
  verify _ signature message := checkSignature deviceSigned signature message
  encodeDssSignature r s := derSignature (r, s)

def deviceKeys : SigningPrimitives devicePrimitives where
  PrivateKey := Unit
  onP256 _ := true
  publicKey _ := ()
  sign _ message := deviceSigned.sign message
  decodeDssSignature := decodeDssSignature

def deviceReader : DeviceKeys devicePrimitives where
  loadDerPublicKey octets :=
    if octets = spkiDer devicePoint then .ok () else .error .valueError

theorem deviceKeys_idealOn : deviceKeys.IdealOn () deviceAckForm :=
  fun _ => checkSignature_eq_valid.trans deviceSigned.sign_signed_eq_iff

theorem deviceAck_signs :
    SignsDocument deviceKeys () (.object deviceStep.document) deviceSignature.val := by
  have hhalves := halves_bigEndian deviceSigned.first_lt deviceSigned.second_lt
  refine ⟨_, deviceAckForm, urlsafeB64Decode_unpadded _, ?_, deviceAckForm_dumps, ?_⟩
  · rw [List.length_append, bigEndian_length, bigEndian_length]
  · show derSignature _ = deviceSigned.sign deviceSigned.signed
    unfold OneSignature.sign
    rw [deviceSigned.numbersOf_signed]
    exact congrArg derSignature (Prod.ext hhalves.left hhalves.right)

theorem device_signature_binds_erase_ack :
    verifyP256Signature deviceReader (urlsafeB64Unpadded (spkiDer devicePoint))
        (.object deviceStep.document) deviceSignature.val = .ok () ∧
      (startsWith (urlsafeB64Unpadded (spkiDer devicePoint)) spkiScheme = false ->
        verifyP256Signature deviceReader
          (spkiScheme ++ urlsafeB64Unpadded (spkiDer devicePoint))
          (.object deviceStep.document) deviceSignature.val = .ok ()) ∧
      forall other : SignedProof sha256 Rfc8785.plain,
        verifyP256Signature deviceReader (urlsafeB64Unpadded (spkiDer devicePoint))
            (.object other.document) deviceSignature.val = .ok () ->
          other.signed = deviceStep.signed := by
  have hoctets : operationalPublicKeyBytes (urlsafeB64Unpadded (spkiDer devicePoint)) =
      .ok (spkiDer devicePoint) := by decide +kernel
  have hkey : deviceReader.loadDerPublicKey (spkiDer devicePoint) =
      .ok (deviceKeys.publicKey ()) := by
    unfold deviceReader
    dsimp only
    rw [if_pos rfl]
    rfl
  refine device_signature_binds Rfc8785.plain_injective hoctets hkey rfl
    deviceAck_signs fun form hform => ?_
  dsimp only [devicePrimitives] at hform
  rw [deviceAckForm_dumps] at hform
  exact Except.ok.inj hform ▸ deviceKeys_idealOn

end DeviceFoundation
end EidolonSdk
