import Mathlib.Data.Int.ConditionallyCompleteOrder
import Mathlib.Data.Prod.Lex
import EidolonSdk.Logic.Fenced
import EidolonSdk.Logic.Outcome
import EidolonSdk.Pydantic.Timestamp
import EidolonSdk.Python.Base64
import EidolonSdk.Support.Sha256

/-!
# The Owner Domain directory

A locator holds at most one signed directory of an Owner Domain and replaces it
by directories its trust anchor vouches for.  Certificates, keys and signatures
are primitives; the state machine over them is what this module is about.
-/

namespace EidolonSdk
namespace DeviceFoundation

open Python Logic Pydantic Support

/-!
## Directories and anchors
-/

inductive LogicalAuthority where
  | admission
  | deviceControl
  | bodyMesh
  | companion
  deriving DecidableEq

def LogicalAuthority.value : LogicalAuthority -> PyStr
  | .admission => str "admission"
  | .deviceControl => str "device-control"
  | .bodyMesh => str "body-mesh"
  | .companion => str "companion"

structure AuthorityEndpoint where
  authority : LogicalAuthority
  logicalAudience : PyStr
  uri : PyStr
  transportProfile : PyStr
  priority : Int
  deriving DecidableEq

structure OwnerDomainDescriptor where
  ownerDomainId : PyStr
  ownerDomainGeneration : Int
  directoryRevision : Int
  descriptorUri : PyStr
  trustRootRefs : List PyStr
  endpoints : List AuthorityEndpoint
  issuedAt : Instant
  expiresAt : Instant
  signingKeyId : PyStr
  signature : PyStr
  deriving DecidableEq

structure OwnerDomainTrustAnchor where
  ownerDomainId : PyStr
  ownerRootCertificatePem : PyStr
  authoritySigningCertificatePem : PyStr
  trustEpoch : Int

def AuthorityEndpoint.dump (endpoint : AuthorityEndpoint) : Json :=
  .object
    [(str "authority", .str endpoint.authority.value),
      (str "logical_audience", .str endpoint.logicalAudience),
      (str "uri", .str endpoint.uri),
      (str "transport_profile", .str endpoint.transportProfile),
      (str "priority", .int endpoint.priority)]

/-- `model_dump(mode="json", exclude={"signature"})`. -/
def OwnerDomainDescriptor.signingDocument (descriptor : OwnerDomainDescriptor) :
    Json :=
  .object
    [(str "owner_domain_id", .str descriptor.ownerDomainId),
      (str "owner_domain_generation", .int descriptor.ownerDomainGeneration),
      (str "directory_revision", .int descriptor.directoryRevision),
      (str "descriptor_uri", .str descriptor.descriptorUri),
      (str "trust_root_refs", .array (descriptor.trustRootRefs.map .str)),
      (str "endpoints",
        .array (descriptor.endpoints.map AuthorityEndpoint.dump)),
      (str "issued_at", .str (timestampText descriptor.issuedAt)),
      (str "expires_at", .str (timestampText descriptor.expiresAt)),
      (str "signing_key_id", .str descriptor.signingKeyId)]

/-!
## Primitives
-/

inductive LocatorFailure where
  | authorityLocatorError (message : PyStr)
  | foreign (e : PyException)
  deriving DecidableEq

/-- What the certificate and key packages provide. -/
structure LocatorPrimitives where
  hash : Sha256
  canonical : Rfc8785
  PublicKey : Type
  /-- An elliptic-curve key on P-256. -/
  isP256 : PublicKey -> Bool
  loadPemPublicKey : PyStr -> Except PyException PublicKey
  publicBytesPem : PublicKey -> PyStr
  publicBytesDer : PublicKey -> Bytes
  Certificate : Type
  loadPemCertificate : PyStr -> Except PyException Certificate
  certificateKey : Certificate -> PublicKey
  notValidBefore : Certificate -> Instant
  notValidAfter : Certificate -> Instant
  /-- `BasicConstraints.ca`, where the extension is present. -/
  basicConstraintsCa : Certificate -> Option Bool
  /-- Whether `ExtendedKeyUsage`, where present, names code signing. -/
  codeSigningUsage : Certificate -> Option Bool
  /-- The signature on a certificate under an issuer's key. -/
  verifyCertificate : PublicKey -> Certificate -> SignatureCheck
  /-- An ECDSA signature in DER over the SHA-256 digest of a message. -/
  verify : PublicKey -> Bytes -> Bytes -> SignatureCheck
  encodeDssSignature : Nat -> Nat -> Bytes

section Locator

variable (P : LocatorPrimitives)

def locatorError {α : Type} (message : String) : Except LocatorFailure α :=
  throw (.authorityLocatorError (str message))

/-- An exception that passes through. -/
def propagate {α : Type} : Except PyException α -> Except LocatorFailure α
  | .ok a => .ok a
  | .error e => .error (.foreign e)

/-- `except ValueError` around a call. -/
def wrapValueError {α : Type} (x : Except PyException α) (message : String) :
    Except LocatorFailure α :=
  match x with
  | .ok a => .ok a
  | .error e => if e.isValueError then locatorError message else .error (.foreign e)

def refuseWhen (refuses : Bool) (message : String) :
    Except LocatorFailure Unit :=
  if refuses then locatorError message else pure ()

/-- `except InvalidSignature` around a verification. -/
def requireSignature (check : SignatureCheck) (message : String) :
    Except LocatorFailure Unit :=
  match check with
  | .valid => pure ()
  | .invalidSignature => locatorError message
  | .failure e => throw (.foreign e)

/-- `_utc`. -/
def utc (value : Datetime) : Except LocatorFailure Instant :=
  match value.offset with
  | none => locatorError "trusted time must include an offset"
  | some offset =>
      match value.astimezoneUtc offset with
      | some instant => pure instant
      | none => throw (.foreign .overflowError)

/-!
## Keys
-/

/-- `descriptor_key_id`. -/
def descriptorKeyId (publicKeyPem : PyStr) : Except LocatorFailure PyStr := do
  let key ← propagate (P.loadPemPublicKey publicKeyPem)
  refuseWhen (!P.isP256 key) "Owner Domain key must be P-256"
  pure (str "sha256:" ++ P.hash.hexdigest (P.publicBytesDer key))

namespace OwnerDomainTrustAnchor

variable (anchor : OwnerDomainTrustAnchor)

def ownerRootCertificate : Except LocatorFailure P.Certificate :=
  wrapValueError (P.loadPemCertificate anchor.ownerRootCertificatePem)
    "Owner root certificate is invalid"

def ownerRootKey : Except LocatorFailure P.PublicKey := do
  let certificate ← anchor.ownerRootCertificate P
  let key := P.certificateKey certificate
  refuseWhen (!P.isP256 key) "Owner root key must be P-256"
  pure key

def keyId : Except LocatorFailure PyStr := do
  let key ← anchor.ownerRootKey P
  descriptorKeyId P (P.publicBytesPem key)

def authorityKey : Except LocatorFailure P.PublicKey := do
  let certificate ←
    wrapValueError (P.loadPemCertificate anchor.authoritySigningCertificatePem)
      "authority signing certificate is invalid"
  let key := P.certificateKey certificate
  refuseWhen (!P.isP256 key) "authority signing key must be P-256"
  pure key

def authorityKeyId : Except LocatorFailure PyStr := do
  let key ← anchor.authorityKey P
  descriptorKeyId P (P.publicBytesPem key)

def constrainedUsage (root certificate : P.Certificate) :
    Except LocatorFailure (Bool × Bool × Bool) :=
  match P.basicConstraintsCa root, P.basicConstraintsCa certificate,
      P.codeSigningUsage certificate with
  | some rootCa, some ca, some codeSigning => pure (rootCa, ca, codeSigning)
  | _, _, _ =>
      locatorError "authority signing certificate lacks constrained usage"

/-- Unlike `authority_key`, the leaf is loaded without a handler here. -/
def validateDelegation (now : Datetime) : Except LocatorFailure Unit := do
  let root ← anchor.ownerRootCertificate P
  let certificate ←
    propagate (P.loadPemCertificate anchor.authoritySigningCertificatePem)
  let now ← utc now
  refuseWhen (now.val < (P.notValidBefore root).val ||
      (P.notValidAfter root).val ≤ now.val)
    "Owner root certificate is not valid now"
  refuseWhen (now.val < (P.notValidBefore certificate).val ||
      (P.notValidAfter certificate).val ≤ now.val)
    "authority signing certificate is not valid now"
  let (rootCa, ca, codeSigning) ← constrainedUsage P root certificate
  refuseWhen (!rootCa) "Owner root certificate is not a CA"
  refuseWhen (ca || !codeSigning)
    "authority signing certificate is not a descriptor-signing leaf"
  let rootKey ← anchor.ownerRootKey P
  requireSignature (P.verifyCertificate rootKey certificate)
    "authority signing certificate is not delegated by Owner root"

end OwnerDomainTrustAnchor

/-!
## Signatures
-/

/-- `_raw_signature`. -/
def rawSignature (signature : PyStr) : Except LocatorFailure Bytes :=
  match urlsafeB64Decode (signature ++ str "==") with
  | none => locatorError "descriptor signature is not base64url"
  | some raw =>
      if raw.length = 64 then pure raw
      else locatorError "descriptor signature must be 64-byte P1363"

def verifyDescriptor (descriptor : OwnerDomainDescriptor)
    (anchor : OwnerDomainTrustAnchor) : Except LocatorFailure Unit := do
  refuseWhen (descriptor.ownerDomainId != anchor.ownerDomainId)
    "descriptor Owner Domain does not match trust anchor"
  let authorityKeyId ← anchor.authorityKeyId P
  refuseWhen (descriptor.signingKeyId != authorityKeyId)
    "descriptor signing key is not delegated by the Owner root"
  let keyId ← anchor.keyId P
  refuseWhen (!descriptor.trustRootRefs.contains keyId)
    "descriptor does not retain the commissioned Owner root"
  let raw ← rawSignature descriptor.signature
  let der := P.encodeDssSignature (fromBytesBig (raw.take 32))
    (fromBytesBig (raw.drop 32))
  let authorityKey ← anchor.authorityKey P
  let signed ← propagate (P.canonical.dumps descriptor.signingDocument)
  requireSignature (P.verify authorityKey der signed)
    "descriptor signature is invalid"

/-!
## The locator
-/

structure AuthorityLocator where
  trustAnchor : OwnerDomainTrustAnchor
  accepted : Option OwnerDomainDescriptor

/-- A computation that does not touch the locator. -/
def liftExcept {α : Type} (x : Except LocatorFailure α) :
    EStateM LocatorFailure AuthorityLocator α :=
  match x with
  | .ok a => pure a
  | .error e => throw e

/-- The comparison of a candidate with the directory already held. -/
def compareWithCurrent (candidate current : OwnerDomainDescriptor) :
    Except LocatorFailure Unit :=
  if candidate.ownerDomainGeneration < current.ownerDomainGeneration then
    locatorError "Owner Domain generation rollback"
  else if candidate.ownerDomainGeneration = current.ownerDomainGeneration then
    if candidate.directoryRevision < current.directoryRevision then
      locatorError "descriptor directory revision rollback"
    else if candidate.directoryRevision = current.directoryRevision ∧
        candidate ≠ current then
      locatorError "descriptor revision was reused with different content"
    else pure ()
  else pure ()

def followsAccepted (candidate : OwnerDomainDescriptor) :
    Option OwnerDomainDescriptor -> Except LocatorFailure Unit
  | some current => compareWithCurrent candidate current
  | none => pure ()

/-- `accept` once the trusted time is known. -/
def AuthorityLocator.acceptAt (candidate : OwnerDomainDescriptor)
    (now : Instant) (self : AuthorityLocator) :
    EStateM LocatorFailure AuthorityLocator Unit := do
  liftExcept (self.trustAnchor.validateDelegation P now.toDatetime)
  liftExcept (verifyDescriptor P candidate self.trustAnchor)
  liftExcept (refuseWhen (now.val < candidate.issuedAt.val)
    "descriptor is not yet valid")
  liftExcept (refuseWhen (candidate.expiresAt.val ≤ now.val)
    "descriptor is expired")
  liftExcept (followsAccepted candidate self.accepted)
  set { self with accepted := some candidate }

def AuthorityLocator.accept (candidate : OwnerDomainDescriptor)
    (now : Datetime) : EStateM LocatorFailure AuthorityLocator Unit := do
  let self ← get
  let now ← liftExcept (utc now)
  acceptAt P candidate now self

/-!
## What one call does
-/

/-- Everything a directory went through when it was accepted. -/
structure Acceptable (locator : AuthorityLocator)
    (candidate : OwnerDomainDescriptor) (now : Datetime) : Prop where
  time : exists instant, utc now = .ok instant ∧
    candidate.issuedAt.val ≤ instant.val ∧
    instant.val < candidate.expiresAt.val
  verified : verifyDescriptor P candidate locator.trustAnchor = .ok ()
  follows : forall current, locator.accepted = some current ->
    compareWithCurrent candidate current = .ok ()

theorem run_liftExcept_bind {α β : Type} (x : Except LocatorFailure α)
    (f : α -> EStateM LocatorFailure AuthorityLocator β)
    (self : AuthorityLocator) :
    (exists e, (liftExcept x >>= f).run self = .error e self) ∨
      exists a, x = .ok a ∧ (liftExcept x >>= f).run self = (f a).run self := by
  cases x with
  | ok a => exact Or.inr ⟨a, rfl, rfl⟩
  | error e => exact Or.inl ⟨e, rfl⟩

theorem refuseWhen_eq_ok {refuses : Bool} {message : String} {u : Unit} :
    refuseWhen refuses message = .ok u <-> refuses = false := by
  cases refuses with
  | true => exact ⟨nofun, nofun⟩
  | false => exact ⟨fun _ => rfl, fun _ => rfl⟩

/-- A call either raises and changes nothing, or puts an acceptable candidate
in place. -/
theorem AuthorityLocator.accept_cases (candidate : OwnerDomainDescriptor)
    (now : Datetime) (self : AuthorityLocator) :
    (exists e, (accept P candidate now).run self = .error e self) ∨
      ((accept P candidate now).run self =
          .ok () { self with accepted := some candidate } ∧
        Acceptable P self candidate now) := by
  have hget : (accept P candidate now).run self =
      (liftExcept (utc now) >>= fun instant =>
        acceptAt P candidate instant self).run self := rfl
  rw [hget]
  rcases run_liftExcept_bind (utc now) _ self with ⟨e, h⟩ | ⟨instant, hutc, h⟩
  · exact Or.inl ⟨e, h⟩
  rw [h]
  unfold acceptAt
  rcases run_liftExcept_bind _ _ self with ⟨e, h⟩ | ⟨_, _, h⟩
  · exact Or.inl ⟨e, h⟩
  rw [h]
  rcases run_liftExcept_bind _ _ self with ⟨e, h⟩ | ⟨_, hverified, h⟩
  · exact Or.inl ⟨e, h⟩
  rw [h]
  rcases run_liftExcept_bind _ _ self with ⟨e, h⟩ | ⟨_, hissued, h⟩
  · exact Or.inl ⟨e, h⟩
  rw [h]
  rcases run_liftExcept_bind _ _ self with ⟨e, h⟩ | ⟨_, hexpires, h⟩
  · exact Or.inl ⟨e, h⟩
  rw [h]
  rcases run_liftExcept_bind _ _ self with ⟨e, h⟩ | ⟨_, hfollows, h⟩
  · exact Or.inl ⟨e, h⟩
  rw [h]
  refine Or.inr ⟨rfl, ⟨instant, hutc, ?_, ?_⟩, hverified, ?_⟩
  · have hle := refuseWhen_eq_ok.mp hissued
    simpa using hle
  · have hlt := refuseWhen_eq_ok.mp hexpires
    simpa using hlt
  · intro current hcurrent
    rw [hcurrent] at hfollows
    exact hfollows

/-!
## Runs

A locator is a fenced register: the directories it accepts are ranked by their
generation and, within one, by their revision.
-/

/-- The pair that orders directories, compared as Python compares tuples. -/
def directoryRank (descriptor : OwnerDomainDescriptor) : Int ×ₗ Int :=
  toLex (descriptor.ownerDomainGeneration, descriptor.directoryRevision)

/-- By generation, then by revision. -/
instance directoryOrder : Preorder (Int ×ₗ Int) :=
  @Prod.Lex.instPreorder Int Int Int.instLinearOrder.toPartialOrder.toPreorder
    Int.instLinearOrder.toPartialOrder.toPreorder

theorem advances_of_compareWithCurrent
    {candidate current : OwnerDomainDescriptor}
    (h : compareWithCurrent candidate current = .ok ()) :
    Advances directoryRank current candidate := by
  unfold compareWithCurrent at h
  split at h
  · cases h
  · rename_i hgeneration
    split at h
    · rename_i hsame
      split at h
      · cases h
      · rename_i hrevision
        split at h
        · cases h
        · rename_i hreused
          by_cases heq : candidate.directoryRevision = current.directoryRevision
          · refine Or.inr ?_
            by_contra hne
            exact hreused ⟨heq, hne⟩
          · refine Or.inl (Prod.Lex.toLex_lt_toLex.mpr (Or.inr ⟨hsame.symm, ?_⟩))
            omega
    · rename_i hdiffers
      refine Or.inl (Prod.Lex.toLex_lt_toLex.mpr (Or.inl ?_))
      omega

structure LocatorCall where
  candidate : OwnerDomainDescriptor
  now : Datetime

namespace AuthorityLocator

/-- The call returns instead of raising. -/
def Accepts (self : AuthorityLocator) (call : LocatorCall) : Prop :=
  exists self', (accept P call.candidate call.now).run self = .ok () self'

/-- The locator after a call, whether it raised or not. -/
def call (self : AuthorityLocator) (call : LocatorCall) : AuthorityLocator :=
  match (accept P call.candidate call.now).run self with
  | .ok _ self' => self'
  | .error _ self' => self'

def empty (anchor : OwnerDomainTrustAnchor) : AuthorityLocator :=
  ⟨anchor, none⟩

/-- The locator after a sequence of calls. -/
def after (anchor : OwnerDomainTrustAnchor) (calls : List LocatorCall) :
    AuthorityLocator :=
  calls.foldl (call P) (empty anchor)

variable {P} {self : AuthorityLocator} {c : LocatorCall}

theorem Accepts.acceptable (h : self.Accepts P c) :
    self.call P c = { self with accepted := some c.candidate } ∧
      Acceptable P self c.candidate c.now := by
  rcases h with ⟨self', h⟩
  unfold call
  rcases accept_cases P c.candidate c.now self with ⟨e, herror⟩ | ⟨hok, hacc⟩
  · rw [herror] at h
    cases h
  · rw [hok]
    exact ⟨rfl, hacc⟩

theorem call_trustAnchor (self : AuthorityLocator) (c : LocatorCall) :
    (self.call P c).trustAnchor = self.trustAnchor := by
  unfold call
  rcases accept_cases P c.candidate c.now self with ⟨e, h⟩ | ⟨h, _⟩
  · rw [h]
  · rw [h]

theorem call_refused (h : ¬ self.Accepts P c) : self.call P c = self := by
  unfold call
  rcases accept_cases P c.candidate c.now self with ⟨e, herror⟩ | ⟨hok, _⟩
  · rw [herror]
  · exact absurd ⟨_, hok⟩ h

end AuthorityLocator

open AuthorityLocator

def locatorRegister (anchor : OwnerDomainTrustAnchor) :
    Register LocatorCall OwnerDomainDescriptor where
  step accepted c := (call P ⟨anchor, accepted⟩ c).accepted
  item := LocatorCall.candidate
  accepts accepted c := Accepts P ⟨anchor, accepted⟩ c
  step_accepted := by
    intro accepted c h
    rw [h.acceptable.left]
  step_refused := by
    intro accepted c h
    rw [call_refused h]

theorem locatorRegister_fenced (anchor : OwnerDomainTrustAnchor) :
    (locatorRegister P anchor).Fenced directoryRank := by
  intro current c h
  exact advances_of_compareWithCurrent
    ((Accepts.acceptable h).right.follows current rfl)

theorem foldl_call (anchor : OwnerDomainTrustAnchor) (calls : List LocatorCall)
    (accepted : Option OwnerDomainDescriptor) :
    calls.foldl (call P) ⟨anchor, accepted⟩ =
      ⟨anchor, calls.foldl (locatorRegister P anchor).step accepted⟩ := by
  induction calls generalizing accepted with
  | nil => rfl
  | cons c rest ih =>
      have hstep : call P ⟨anchor, accepted⟩ c =
          ⟨anchor, (locatorRegister P anchor).step accepted c⟩ := by
        have hanchor := call_trustAnchor (P := P) ⟨anchor, accepted⟩ c
        cases hcall : call P ⟨anchor, accepted⟩ c with
        | mk anchor' accepted' =>
            rw [hcall] at hanchor
            cases hanchor
            show _ = (⟨anchor, (call P ⟨anchor, accepted⟩ c).accepted⟩ :
              AuthorityLocator)
            rw [hcall]
      rw [List.foldl_cons, List.foldl_cons, hstep, ih]

/-- The locator is the register together with its anchor. -/
theorem after_eq_register (anchor : OwnerDomainTrustAnchor)
    (calls : List LocatorCall) :
    AuthorityLocator.after P anchor calls =
      ⟨anchor, (locatorRegister P anchor).after calls⟩ :=
  foldl_call P anchor calls none

/-- Whatever calls a locator gets, a call that raises changes nothing, the pair
of generation and revision never goes down, a pair is accepted for one directory
only, and every accepted directory is verified and was in its window. -/
theorem accepted_directories_fenced (anchor : OwnerDomainTrustAnchor)
    (calls : List LocatorCall) :
    (forall pre c suf, calls = pre ++ c :: suf ->
      forall e self',
        (accept P c.candidate c.now).run (AuthorityLocator.after P anchor pre) =
          .error e self' ->
        self'.accepted = (AuthorityLocator.after P anchor pre).accepted) ∧
    (forall pre suf, calls = pre ++ suf ->
      forall earlier, (AuthorityLocator.after P anchor pre).accepted =
        some earlier ->
      exists later, (AuthorityLocator.after P anchor calls).accepted =
          some later ∧ directoryRank earlier ≤ directoryRank later) ∧
    (forall pre c mid c' suf, calls = pre ++ c :: (mid ++ c' :: suf) ->
      (AuthorityLocator.after P anchor pre).Accepts P c ->
      (AuthorityLocator.after P anchor (pre ++ c :: mid)).Accepts P c' ->
      directoryRank c.candidate = directoryRank c'.candidate ->
      c'.candidate = c.candidate) ∧
    (forall pre c suf, calls = pre ++ c :: suf ->
      (AuthorityLocator.after P anchor pre).Accepts P c ->
      verifyDescriptor P c.candidate anchor = .ok () ∧
        exists instant, utc c.now = .ok instant ∧
          c.candidate.issuedAt.val ≤ instant.val ∧
          instant.val < c.candidate.expiresAt.val) := by
  have hfenced := locatorRegister_fenced P anchor
  refine ⟨?_, ?_, ?_, ?_⟩
  · intro pre c suf _ e self' hrun
    rcases accept_cases P c.candidate c.now
      (AuthorityLocator.after P anchor pre) with ⟨e', herror⟩ | ⟨hok, _⟩
    · rw [herror] at hrun
      cases hrun
      rfl
    · rw [hok] at hrun
      cases hrun
  · intro pre suf hcalls earlier hearlier
    rw [after_eq_register] at hearlier
    rcases hfenced.foldl earlier suf with ⟨later, hlater, hadvances⟩
    refine ⟨later, ?_, hadvances.rank_le⟩
    have hpre : (locatorRegister P anchor).after pre = some earlier := hearlier
    rw [after_eq_register, hcalls]
    show (locatorRegister P anchor).after (pre ++ suf) = some later
    rw [Register.after_append, hpre, hlater]
  · intro pre c mid c' suf _ h h' hrank
    rw [after_eq_register] at h h'
    exact (hfenced.advances h h').eq_of_rank_eq hrank
  · intro pre c suf _ h
    have hacceptable := h.acceptable.right
    rw [after_eq_register] at hacceptable
    exact ⟨hacceptable.verified, hacceptable.time⟩

end Locator

end DeviceFoundation
end EidolonSdk
