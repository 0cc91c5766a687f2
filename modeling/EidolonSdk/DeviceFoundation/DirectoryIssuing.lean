import EidolonSdk.DeviceFoundation.DirectoryReaders

/-!
# Issuing a directory

The offline tool that makes a signed directory out of a source file, the two
certificates of an Owner Domain and the key of its authority.  What it issues is
read back from its own file, restored at once and accepted by every locator that
was commissioned with the two certificates.
-/

namespace EidolonSdk
namespace DeviceFoundation

open Python Logic Pydantic Support

/-!
## The tool
-/

/-- What the tool uses besides.  The conversions are those of members of the
source file. -/
structure IssuingPrimitives {P : LocatorPrimitives} (K : SigningPrimitives P) where
  str : Json -> PyStr
  int : Json -> Except PyException Int
  /-- Without a key where the one read is on no elliptic curve. -/
  loadPemPrivateKey : Bytes -> Except PyException (Option K.PrivateKey)
  publicNumbers : P.PublicKey -> Nat × Nat

/-- Keys on P-256 are known by their numbers. -/
def IssuingPrimitives.Lawful {P : LocatorPrimitives} {K : SigningPrimitives P}
    (I : IssuingPrimitives K) : Prop :=
  forall key other, P.isP256 key = true -> P.isP256 other = true ->
    I.publicNumbers key = I.publicNumbers other -> key = other

/-- What a key signs verifies. -/
def SigningPrimitives.Verifies {P : LocatorPrimitives} (K : SigningPrimitives P) :
    Prop :=
  forall key signed, K.onP256 key = true ->
    P.verify (K.publicKey key) (K.sign key signed) signed = .valid

/-- {lit}`ValidationError` is a {lit}`ValueError`. -/
def ofValidated {α : Type} : Validated α -> Except LocatorFailure α
  | .ok a => .ok a
  | .error .invalid => .error (.foreign .valueError)
  | .error (.raised e) => .error (.foreign e)

/-- {lit}`source[name]`. -/
def sourceItem (source : Members) (name : String) : Except LocatorFailure Json :=
  match source.get name with
  | some value => .ok value
  | none => .error (.foreign .keyError)

/-- What a loop over a member of the source goes through. -/
def sourceItems : Json -> Except LocatorFailure (List Json)
  | .array items => .ok items
  | .object members => .ok (members.map fun member => .str member.fst)
  | .str s => .ok (s.map fun c => .str [c])
  | _ => .error (.foreign .typeError)

def pemRule : StrRule :=
  { minLength := 1, maxLength := some 4096 }

/-- {lit}`OwnerDomainTrustAnchor(...)`. -/
def OwnerDomainTrustAnchor.construct (ownerDomainId ownerRootCertificatePem
    authoritySigningCertificatePem : PyStr) (trustEpoch : Int) :
    Except LocatorFailure OwnerDomainTrustAnchor :=
  if audienceRule.Accepts ownerDomainId ∧
      pemRule.Accepts ownerRootCertificatePem ∧
      pemRule.Accepts authoritySigningCertificatePem ∧ 1 ≤ trustEpoch then
    .ok ⟨ownerDomainId, ownerRootCertificatePem, authoritySigningCertificatePem,
      trustEpoch⟩
  else .error (.foreign .valueError)

/-- {lit}`OwnerDomainDescriptor(...)`, of endpoints that are valid. -/
def OwnerDomainDescriptor.construct (ownerDomainId : PyStr)
    (ownerDomainGeneration directoryRevision : Int) (descriptorUri : PyStr)
    (trustRootRefs : List PyStr) (endpoints : List AuthorityEndpoint)
    (issuedAt expiresAt : Datetime) (signingKeyId signature : PyStr) :
    Validated OwnerDomainDescriptor := do
  let fields : Validated Unit :=
    if audienceRule.Accepts ownerDomainId ∧ 1 ≤ ownerDomainGeneration ∧
        1 ≤ directoryRevision ∧ uriRule.Accepts descriptorUri ∧
        trustRootRefs ≠ [] ∧ trustRootRefs.Nodup ∧
        (trustRootRefs.all isSha256Reference) = true ∧ endpoints ≠ [] ∧
        isSha256Reference signingKeyId = true ∧ isRawSignature signature = true then
      .ok ()
    else .error .invalid
  let (_, issuedAt, expiresAt) ←
    fields.both ((utcInstant issuedAt).both (utcInstant expiresAt))
  if issuedAt.val < expiresAt.val ∧
      DistinctKeys AuthorityEndpoint.identity endpoints then
    .ok ⟨ownerDomainId, ownerDomainGeneration, directoryRevision, descriptorUri,
      trustRootRefs, endpoints, issuedAt, expiresAt, signingKeyId, signature⟩
  else .error .invalid

/-- {lit}`datetime.fromisoformat(str(...).replace("Z", "+00:00"))`. -/
def sourceInstant (s : PyStr) : Except LocatorFailure Datetime :=
  match fromisoformat (replaceZulu s) with
  | some value => .ok value
  | none => .error (.foreign .valueError)

section Tool

variable {P : LocatorPrimitives} {K : SigningPrimitives P} (I : IssuingPrimitives K)

/-- The key, or the two refusals of the tool. -/
def issuingKey (authorityPrivateKeyPem : Bytes) :
    Except LocatorFailure K.PrivateKey :=
  match I.loadPemPrivateKey authorityPrivateKeyPem with
  | .error e =>
      if e.isValueError || e == .typeError then
        locatorError "authority signing private key is invalid"
      else .error (.foreign e)
  | .ok none => locatorError "authority signing private key must be P-256"
  | .ok (some key) =>
      if K.onP256 key = true then .ok key
      else locatorError "authority signing private key must be P-256"

def sourceText (source : Members) (name : String) : Except LocatorFailure PyStr := do
  let value ← sourceItem source name
  pure (I.str value)

def sourceInt (source : Members) (name : String) : Except LocatorFailure Int := do
  let value ← sourceItem source name
  propagate (I.int value)

def sourceEndpoints (source : Members) :
    Except LocatorFailure (List AuthorityEndpoint) := do
  let value ← sourceItem source "endpoints"
  let items ← sourceItems value
  items.mapM fun item => ofValidated (AuthorityEndpoint.validateJson item)

/-- The directory the tool signs: it carries the anchor's own key. -/
def sourceDescriptor (source : Members) (trust : OwnerDomainTrustAnchor) :
    Except LocatorFailure OwnerDomainDescriptor := do
  let generation ← sourceInt I source "owner_domain_generation"
  let revision ← sourceInt I source "directory_revision"
  let uri ← sourceText I source "descriptor_uri"
  let root ← trust.keyId P
  let endpoints ← sourceEndpoints source
  let issuedAt ← sourceText I source "issued_at"
  let issuedAt ← sourceInstant issuedAt
  let expiresAt ← sourceText I source "expires_at"
  let expiresAt ← sourceInstant expiresAt
  let signingKeyId ← trust.authorityKeyId P
  ofValidated (OwnerDomainDescriptor.construct trust.ownerDomainId generation
    revision uri [root] endpoints issuedAt expiresAt signingKeyId
    (List.replicate 86 (codePoint 'A')))

def issueDescriptor (source : Members) (ownerRootCertificatePem
    authoritySigningCertificatePem : PyStr) (authorityPrivateKeyPem : Bytes) :
    Except LocatorFailure OwnerDomainDescriptor := do
  let privateKey ← issuingKey I authorityPrivateKeyPem
  let ownerDomainId ← sourceText I source "owner_domain_id"
  let trustEpoch ← sourceInt I source "trust_epoch"
  let trust ← OwnerDomainTrustAnchor.construct ownerDomainId
    ownerRootCertificatePem authoritySigningCertificatePem trustEpoch
  let authorityKey ← trust.authorityKey P
  refuseWhen (I.publicNumbers authorityKey !=
      I.publicNumbers (K.publicKey privateKey))
    "authority signing private key does not match delegated certificate"
  let descriptor ← sourceDescriptor I source trust
  trust.validateDelegation P descriptor.issuedAt.toDatetime
  signDescriptor K descriptor privateKey

end Tool

/-!
## What the tool writes is read back
-/

theorem validStr_of_accepts {rule : StrRule} {s : PyStr} (h : rule.Accepts s) :
    validStr rule (.str s) = .ok ⟨s, h⟩ := dif_pos h

theorem validPriority_eq_ok {item : Json} {n : Int} :
    AuthorityEndpoint.validPriority item = .ok n <->
      item = .int n ∧ 0 ≤ n ∧ n ≤ 65535 := by
  cases item with
  | int m =>
      show (if 0 ≤ m ∧ m ≤ 65535 then Except.ok m else Except.error Fault.invalid) =
        Except.ok n <-> _
      by_cases hm : 0 ≤ m ∧ m ≤ 65535
      · rw [if_pos hm, Except.ok.injEq, Json.int.injEq]
        exact ⟨fun h => ⟨h, h ▸ hm⟩, fun h => h.left⟩
      · rw [if_neg hm, Json.int.injEq]
        exact ⟨nofun, fun h => absurd (h.left ▸ h.right) hm⟩
  | null => exact iff_of_false nofun nofun
  | bool b => exact iff_of_false nofun nofun
  | float x => exact iff_of_false nofun nofun
  | str s => exact iff_of_false nofun nofun
  | array items => exact iff_of_false nofun nofun
  | object members => exact iff_of_false nofun nofun

theorem AuthorityEndpoint.validateJson_dump {endpoint : AuthorityEndpoint}
    (h : endpoint.Valid) :
    AuthorityEndpoint.validateJson endpoint.dump = .ok endpoint := by
  have hauthority : validWord AuthorityEndpoint.authorities
      (.str endpoint.authority.value) = .ok endpoint.authority := by
    cases endpoint.authority with
    | admission => decide
    | deviceControl => decide
    | bodyMesh => decide
    | companion => decide
  have hpriority : AuthorityEndpoint.validPriority (.int endpoint.priority) =
      .ok endpoint.priority := validPriority_eq_ok.mpr ⟨rfl, h.priority⟩
  refine map_eq_ok.mpr ⟨(endpoint.authority, ⟨_, h.logicalAudience⟩, ⟨_, h.uri⟩,
    ⟨_, h.transportProfile⟩, endpoint.priority, ()), ?_, rfl⟩
  simp only [Validated.both_eq_ok, required_eq_ok, onlyMembers_eq_ok]
  refine ⟨⟨_, rfl, hauthority⟩, ⟨_, rfl, validStr_of_accepts _⟩,
    ⟨_, rfl, validStr_of_accepts _⟩, ⟨_, rfl, validStr_of_accepts _⟩,
    ⟨_, rfl, hpriority⟩, ?_⟩
  exact fun k hk => hk

theorem AuthorityEndpoint.valid_of_validateJson {item : Json}
    {endpoint : AuthorityEndpoint}
    (h : AuthorityEndpoint.validateJson item = .ok endpoint) : endpoint.Valid := by
  rcases validModel_eq_ok.mp h with ⟨members, _, hmembers⟩
  rcases map_eq_ok.mp hmembers with
    ⟨⟨authority, audience, uri, profile, priority, u⟩, hboth, heq⟩
  simp only [Validated.both_eq_ok, required_eq_ok] at hboth
  rcases hboth with ⟨_, _, _, _, ⟨value, _, hpriority⟩, _⟩
  rw [← heq]
  exact ⟨audience.property, uri.property, profile.property,
    (validPriority_eq_ok.mp hpriority).right⟩

theorem forall₂_dump {α : Type} {validate : Validator α} {dump : α -> Json}
    {values : List α} (h : forall a, a ∈ values -> validate (dump a) = .ok a) :
    List.Forall₂ (fun item a => validate item = .ok a) (values.map dump) values := by
  rw [List.forall₂_map_left_iff, List.forall₂_same]
  exact h

/-- A valid directory is read back from what it is dumped to. -/
theorem OwnerDomainDescriptor.validateJson_dump
    {datetimeOf : PyStr -> Option Datetime}
    (hread : forall t : Instant,
      pythonInstant datetimeOf (timestampText t) = some t.val)
    {d : OwnerDomainDescriptor} (h : d.Valid) :
    OwnerDomainDescriptor.validateJson datetimeOf d.dump = .ok d := by
  have hinstant : forall t : Instant, OwnerDomainDescriptor.validInstantJson
      datetimeOf (.str (timestampText t)) = .ok t :=
    fun t => validInstantJson_eq_ok.mpr ⟨_, rfl, hread t⟩
  have hroots : OwnerDomainDescriptor.validRootsJson
      (.array (d.trustRootRefs.map .str)) = .ok d.trustRootRefs := by
    refine bind_eq_ok.mpr ⟨d.trustRootRefs, jsonTuple_eq_ok.mpr ⟨_, rfl,
      forall₂_dump fun s hs => ?_⟩, if_pos ⟨h.roots_nonempty, h.roots_unique, ?_⟩⟩
    · exact anyText_eq_ok.mpr rfl
    · exact List.all_eq_true.mpr h.roots
  have hendpoints : OwnerDomainDescriptor.validEndpointsJson
      (.array (d.endpoints.map AuthorityEndpoint.dump)) = .ok d.endpoints :=
    bind_eq_ok.mpr ⟨d.endpoints, jsonTuple_eq_ok.mpr ⟨_, rfl,
      forall₂_dump fun endpoint hmem => AuthorityEndpoint.validateJson_dump
        (h.endpoints endpoint hmem)⟩,
      if_pos h.endpoints_nonempty⟩
  have hkeyId : OwnerDomainDescriptor.keyIdRule.Accepts d.signingKeyId :=
    ⟨encodable_reference h.signingKeyId, Nat.zero_le _, rfl, h.signingKeyId⟩
  have hsignature : OwnerDomainDescriptor.signatureRule.Accepts d.signature :=
    ⟨matchesBase64Url_ascii.encodable (isRawSignature_iff.mp h.signature).right,
      Nat.zero_le _, rfl, h.signature⟩
  refine bind_eq_ok.mpr ⟨(⟨_, h.ownerDomainId⟩, ⟨_, h.ownerDomainGeneration⟩,
    ⟨_, h.directoryRevision⟩, ⟨_, h.descriptorUri⟩, d.trustRootRefs, d.endpoints,
    d.issuedAt, d.expiresAt, ⟨_, hkeyId⟩, ⟨_, hsignature⟩, ()), ?_,
    if_pos ⟨h.window, h.endpoints_unique⟩⟩
  simp only [Validated.both_eq_ok, required_eq_ok, onlyMembers_eq_ok]
  exact ⟨⟨_, rfl, validStr_of_accepts _⟩, ⟨_, rfl, dif_pos h.ownerDomainGeneration⟩,
    ⟨_, rfl, dif_pos h.directoryRevision⟩, ⟨_, rfl, validStr_of_accepts _⟩,
    ⟨_, rfl, hroots⟩, ⟨_, rfl, hendpoints⟩, ⟨_, rfl, hinstant _⟩,
    ⟨_, rfl, hinstant _⟩, ⟨_, rfl, validStr_of_accepts _⟩,
    ⟨_, rfl, validStr_of_accepts _⟩, fun k hk => hk⟩

/-!
## What is signed is valid
-/

theorem isRawSignature_unpadded {raw : Bytes} (h : raw.length = 64) :
    isRawSignature (urlsafeB64Unpadded raw) = true := by
  unfold isRawSignature
  rw [urlsafeB64Unpadded_eq, Bool.and_eq_true, b64Digits_length, h]
  refine ⟨rfl, List.all_eq_true.mpr fun c hc => ?_⟩
  rcases mem_b64Digits hc with ⟨n, hn⟩
  have hval : c.val = (if n < 26 then 0x41 + n
      else if n < 52 then 0x61 + (n - 26)
      else if n < 62 then 0x30 + (n - 52)
      else if n = 62 then 0x2D
      else 0x5F) := by
    rw [hn]
    refine Nat.mod_eq_of_lt ?_
    split <;> [skip; split <;> [skip; split <;> [skip; split]]] <;> omega
  have hlisted : (str "_-").contains c = true <-> c.val = 0x5F ∨ c.val = 0x2D := by
    have hstr : str "_-" = [Fin.ofNat 0x110000 0x5F, Fin.ofNat 0x110000 0x2D] := by
      decide
    rw [List.contains_iff_mem, hstr, List.mem_cons, List.mem_singleton, Fin.ext_iff,
      Fin.ext_iff]
    rfl
  simp only [Bool.or_eq_true, Bool.and_eq_true, decide_eq_true_eq, hlisted]
  split at hval <;> [skip; split at hval <;> [skip; split at hval <;>
    [skip; split at hval]]] <;> omega

theorem length_of_p1363 {r s : Nat} {raw : Bytes} (h : p1363 r s = .ok raw) :
    raw.length = 64 ∧ r < 256 ^ 32 ∧ s < 256 ^ 32 := by
  rcases bind_eq_ok.mp h with ⟨front, hfront, h⟩
  rcases bind_eq_ok.mp h with ⟨back, hback, h⟩
  rcases toBytesBig_eq_ok.mp hfront with ⟨hr, hfront⟩
  rcases toBytesBig_eq_ok.mp hback with ⟨hs, hback⟩
  rw [← Except.ok.inj h, ← hfront, ← hback, List.length_append, bigEndian_length,
    bigEndian_length]
  exact ⟨rfl, hr, hs⟩

theorem OwnerDomainDescriptor.construct_eq_ok {ownerDomainId : PyStr}
    {generation revision : Int} {uri : PyStr} {roots : List PyStr}
    {endpoints : List AuthorityEndpoint} {issuedAt expiresAt : Datetime}
    {keyId signature : PyStr} {d : OwnerDomainDescriptor}
    (hendpoints : forall endpoint, endpoint ∈ endpoints -> endpoint.Valid)
    (h : OwnerDomainDescriptor.construct ownerDomainId generation revision uri roots
      endpoints issuedAt expiresAt keyId signature = .ok d) :
    d.Valid ∧ d.ownerDomainId = ownerDomainId ∧ d.trustRootRefs = roots ∧
      d.signingKeyId = keyId ∧ d.endpoints = endpoints := by
  rcases bind_eq_ok.mp h with ⟨⟨u, issued, expires⟩, hboth, h⟩
  rcases Validated.both_eq_ok.mp hboth with ⟨hfields, _⟩
  dsimp only at h
  split at hfields
  · rename_i hrules
    rcases hrules with ⟨howner, hgeneration, hrevision, huri, hne, hnodup, hroots,
      hsome, hkeyId, hsignature⟩
    split at h
    · rename_i hwindow
      rw [← Except.ok.inj h]
      exact
        ⟨{ ownerDomainId := howner
           ownerDomainGeneration := hgeneration
           directoryRevision := hrevision
           descriptorUri := huri
           roots_nonempty := hne
           roots_unique := hnodup
           roots := List.all_eq_true.mp hroots
           endpoints_nonempty := hsome
           endpoints := hendpoints
           endpoints_unique := hwindow.right
           window := hwindow.left
           signingKeyId := hkeyId
           signature := hsignature }, rfl, rfl, rfl, rfl⟩
    · cases h
  · cases hfields

theorem ofValidated_eq_ok {α : Type} {x : Validated α} {a : α} :
    ofValidated x = .ok a <-> x = .ok a := by
  cases x with
  | ok b => exact ⟨fun h => congrArg _ (Except.ok.inj h),
      fun h => congrArg _ (Except.ok.inj h)⟩
  | error fault =>
      cases fault with
      | invalid => exact iff_of_false nofun nofun
      | raised e => exact iff_of_false nofun nofun

theorem valid_of_mapM {items : List Json} {endpoints : List AuthorityEndpoint}
    (h : (items.mapM fun item => ofValidated (AuthorityEndpoint.validateJson item)) =
      .ok endpoints) : forall endpoint, endpoint ∈ endpoints -> endpoint.Valid := by
  induction items generalizing endpoints with
  | nil =>
      rw [List.mapM_nil] at h
      cases h
      exact fun endpoint hmem => absurd hmem List.not_mem_nil
  | cons item rest ih =>
      rw [List.mapM_cons] at h
      rcases bind_eq_ok.mp h with ⟨first, hfirst, h⟩
      rcases bind_eq_ok.mp h with ⟨others, hothers, h⟩
      cases h
      intro endpoint hmem
      rcases List.mem_cons.mp hmem with heq | hrest
      · rw [heq]
        exact AuthorityEndpoint.valid_of_validateJson (ofValidated_eq_ok.mp hfirst)
      · exact ih hothers endpoint hrest

section Issued

variable {P : LocatorPrimitives} {K : SigningPrimitives P} {I : IssuingPrimitives K}

theorem sourceDescriptor_ok {source : Members} {trust : OwnerDomainTrustAnchor}
    {d : OwnerDomainDescriptor} (h : sourceDescriptor I source trust = .ok d) :
    d.Valid ∧ d.ownerDomainId = trust.ownerDomainId ∧
      (exists root, trust.keyId P = .ok root ∧ d.trustRootRefs = [root]) ∧
      trust.authorityKeyId P = .ok d.signingKeyId := by
  unfold sourceDescriptor at h
  simp only [bind_eq_ok] at h
  rcases h with ⟨generation, _, revision, _, uri, _, root, hroot, endpoints, hendpoints,
    _, _, issuedAt, _, _, _, expiresAt, _, keyId, hkeyId, h⟩
  rcases bind_eq_ok.mp hendpoints with ⟨value, _, hendpoints⟩
  rcases bind_eq_ok.mp hendpoints with ⟨items, _, hendpoints⟩
  rcases OwnerDomainDescriptor.construct_eq_ok (valid_of_mapM hendpoints)
    (ofValidated_eq_ok.mp h) with ⟨hvalid, howner, hroots, hkey, _⟩
  exact ⟨hvalid, howner, ⟨root, hroot, hroots⟩, hkey ▸ hkeyId⟩

theorem authorityKey_p256 {anchor : OwnerDomainTrustAnchor} {key : P.PublicKey}
    (h : anchor.authorityKey P = .ok key) : P.isP256 key = true := by
  unfold OwnerDomainTrustAnchor.authorityKey at h
  rcases bind_eq_ok.mp h with ⟨certificate, _, h⟩
  rcases refuseWhen_bind_eq_ok.mp h with ⟨hcurve, h⟩
  rw [Bool.not_eq_false'] at hcurve
  rw [← Except.ok.inj h]
  exact hcurve

/-- What a signing that succeeds returns. -/
theorem signedWith_of_returned (hK : K.Lawful) {d signed : OwnerDomainDescriptor}
    {key : K.PrivateKey} (h : signDescriptor K d key = .ok signed) :
    isRawSignature signed.signature = true ∧
      exists form, SignedWith K d key signed form := by
  rcases signDescriptor_eq_ok.mp h with
    ⟨hkey, keyId, form, r, s, raw, hkeyId, hform, hparts, hraw, heq⟩
  rcases hK.sign_decodes key form hkey with ⟨r', s', hparts', hr, hs, hencoded⟩
  rw [hparts] at hparts'
  cases hparts'
  rcases exists_raw hr hs with ⟨raw', hraw', hread, hfront, hback⟩
  rw [hraw] at hraw'
  cases hraw'
  subst heq
  refine ⟨isRawSignature_unpadded (length_of_p1363 hraw).left, form, ?_⟩
  exact
    { returned := h
      keyId := hkeyId
      same := rfl
      dumped := hform
      signature := ⟨raw, hread, by rw [hfront, hback, hencoded]⟩ }

theorem issuingKey_p256 {pem : Bytes} {key : K.PrivateKey}
    (h : issuingKey I pem = .ok key) : K.onP256 key = true := by
  unfold issuingKey at h
  cases hload : I.loadPemPrivateKey pem with
  | error e =>
      simp only [hload] at h
      split at h
      · cases h
      · cases h
  | ok loaded =>
      cases loaded with
      | none =>
          simp only [hload] at h
          cases h
      | some k =>
          simp only [hload] at h
          split at h
          · rename_i hk
            exact Except.ok.inj h ▸ hk
          · cases h

/-- What the tool has made sure of when it returns. -/
structure IssuedUnder (K : SigningPrimitives P) (trust : OwnerDomainTrustAnchor)
    (signed : OwnerDomainDescriptor) : Prop where
  valid : signed.Valid
  owner : signed.ownerDomainId = trust.ownerDomainId
  root : exists keyId, trust.keyId P = .ok keyId ∧ keyId ∈ signed.trustRootRefs
  delegated : trust.validateDelegation P signed.issuedAt.toDatetime = .ok ()
  verified : verifyDescriptor P signed trust = .ok ()

theorem SignedWith.verifies {d signed : OwnerDomainDescriptor} {key : K.PrivateKey}
    {form : Bytes} {trust : OwnerDomainTrustAnchor}
    (h : SignedWith K d key signed form) (hK : K.Verifies)
    (hkey : K.onP256 key = true)
    (hauthority : trust.authorityKey P = .ok (K.publicKey key))
    (howner : signed.ownerDomainId = trust.ownerDomainId)
    (hroot : exists keyId, trust.keyId P = .ok keyId ∧
      keyId ∈ signed.trustRootRefs) :
    verifyDescriptor P signed trust = .ok () := by
  rcases h.signature with ⟨raw, hraw, hencoded⟩
  refine verifyDescriptor_eq_ok.mpr ⟨howner, bind_eq_ok.mpr ⟨_, hauthority, h.keyId⟩,
    hroot, raw, _, form, hraw, hauthority, h.dumped, ?_⟩
  rw [hencoded]
  exact hK key form hkey

theorem issuedUnder_of_ok (hK : K.Lawful) (hV : K.Verifies) (hI : I.Lawful)
    {source : Members} {root leaf : PyStr} {pem : Bytes}
    {signed : OwnerDomainDescriptor}
    (h : issueDescriptor I source root leaf pem = .ok signed) :
    exists epoch, IssuedUnder K ⟨signed.ownerDomainId, root, leaf, epoch⟩ signed := by
  unfold issueDescriptor at h
  rcases bind_eq_ok.mp h with ⟨key, hkey, h⟩
  rcases bind_eq_ok.mp h with ⟨owner, _, h⟩
  rcases bind_eq_ok.mp h with ⟨epoch, _, h⟩
  rcases bind_eq_ok.mp h with ⟨trust, htrust, h⟩
  rcases bind_eq_ok.mp h with ⟨authorityKey, hauthority, h⟩
  rcases refuseWhen_bind_eq_ok.mp h with ⟨hnumbers, h⟩
  rcases bind_eq_ok.mp h with ⟨d, hd, h⟩
  rcases bind_eq_ok.mp h with ⟨_, hdelegated, hsigned⟩
  have hp256 := issuingKey_p256 hkey
  have hmatch : authorityKey = K.publicKey key :=
    hI _ _ (authorityKey_p256 hauthority) (hK.public_p256 key hp256)
      (bne_eq_false_iff_eq.mp hnumbers)
  rw [hmatch] at hauthority
  rcases sourceDescriptor_ok hd with ⟨hvalid, howner, ⟨keyId, hkeyId, hroots⟩, hsigning⟩
  rcases signedWith_of_returned hK hsigned with ⟨hraw, form, hform⟩
  have hsame : signed.signingKeyId = d.signingKeyId := by
    rcases bind_eq_ok.mp hsigning with ⟨loaded, hloaded, hid⟩
    rw [hauthority] at hloaded
    cases hloaded
    exact Except.ok.inj (hform.keyId.symm.trans hid)
  have hanchor : trust = ⟨signed.ownerDomainId, root, leaf, epoch⟩ := by
    unfold OwnerDomainTrustAnchor.construct at htrust
    split at htrust
    · rw [hform.same, howner, ← Except.ok.inj htrust]
    · cases htrust
  have hmem : keyId ∈ signed.trustRootRefs := by
    rw [hform.same, hroots]
    exact List.mem_singleton_self keyId
  have hissued : signed.issuedAt = d.issuedAt := by rw [hform.same]
  have howner' : signed.ownerDomainId = trust.ownerDomainId := by
    rw [hform.same]
    exact howner
  refine ⟨epoch, ?_⟩
  rw [← hanchor]
  exact
    { valid := by
        rw [hform.same, hsame]
        exact { hvalid with signature := hraw }
      owner := howner'
      root := ⟨keyId, hkeyId, hmem⟩
      delegated := hissued ▸ hdelegated
      verified := hform.verifies hV hp256 hauthority howner' ⟨keyId, hkeyId, hmem⟩ }

/-!
## What becomes of an issued directory
-/

/-- An issued directory is read back from its file as it was signed.  Whoever was
commissioned with its owner and the two certificates can be restored from it, and
accepts it exactly while it and the delegation are in force, unless that would
take the directory held back. -/
theorem issued_directory_accepted (hK : K.Lawful) (hV : K.Verifies) (hI : I.Lawful)
    {datetimeOf : PyStr -> Option Datetime}
    (hread : forall t : Instant,
      pythonInstant datetimeOf (timestampText t) = some t.val)
    {source : Members} {root leaf : PyStr} {pem : Bytes}
    {signed : OwnerDomainDescriptor}
    (h : issueDescriptor I source root leaf pem = .ok signed) (trustEpoch : Int) :
    OwnerDomainDescriptor.validateJson datetimeOf signed.dump = .ok signed ∧
      AuthorityLocator.init P ⟨signed.ownerDomainId, root, leaf, trustEpoch⟩
          (some signed) =
        .ok ⟨⟨signed.ownerDomainId, root, leaf, trustEpoch⟩, some signed⟩ ∧
      forall (accepted : Option OwnerDomainDescriptor) (now : Instant)
        (self' : AuthorityLocator),
        (AuthorityLocator.accept P signed now.toDatetime).run
            ⟨⟨signed.ownerDomainId, root, leaf, trustEpoch⟩, accepted⟩ =
              .ok () self' <->
          (OwnerDomainTrustAnchor.validateDelegation P
                ⟨signed.ownerDomainId, root, leaf, trustEpoch⟩ now.toDatetime =
              .ok () ∧
            signed.issuedAt.val ≤ now.val ∧ now.val < signed.expiresAt.val ∧
            followsAccepted signed accepted = .ok ()) ∧
          self' = ⟨⟨signed.ownerDomainId, root, leaf, trustEpoch⟩, some signed⟩ := by
  rcases issuedUnder_of_ok hK hV hI h with ⟨epoch, hissued⟩
  have hverified : verifyDescriptor P signed
      ⟨signed.ownerDomainId, root, leaf, trustEpoch⟩ = .ok () := hissued.verified
  have hdelegated : OwnerDomainTrustAnchor.validateDelegation P
      ⟨signed.ownerDomainId, root, leaf, trustEpoch⟩ signed.issuedAt.toDatetime =
        .ok () := hissued.delegated
  refine ⟨OwnerDomainDescriptor.validateJson_dump hread hissued.valid, ?_, ?_⟩
  · apply (init_eq_ok P).mpr
    apply (acceptAt_eq_ok P).mpr
    exact ⟨⟨hdelegated, hverified, le_refl _, hissued.valid.window, rfl⟩, rfl⟩
  · intro accepted now self'
    rw [accept_eq_ok]
    constructor
    · intro hparts
      rcases hparts with ⟨instant, hutc, hrun⟩
      rw [utc_toDatetime] at hutc
      cases hutc
      rcases (acceptAt_eq_ok P).mp hrun with
        ⟨⟨hdelegation, _, hafter, hbefore, hfollows⟩, hself⟩
      exact ⟨⟨hdelegation, hafter, hbefore, hfollows⟩, hself⟩
    · intro hparts
      rcases hparts with ⟨⟨hdelegation, hafter, hbefore, hfollows⟩, hself⟩
      exact ⟨now, utc_toDatetime now, (acceptAt_eq_ok P).mpr
        ⟨⟨hdelegation, hverified, hafter, hbefore, hfollows⟩, hself⟩⟩

end Issued

/-- Pydantic reads a canonical instant as the standard library does. -/
theorem pythonInstant_timestampText (t : Instant) :
    pythonInstant (fun s => fromisoformat (replaceZulu s)) (timestampText t) =
      some t.val := by
  have hread := awareDatetime_timestampText t
  unfold awareDatetime at hread
  unfold pythonInstant
  dsimp only
  cases hvalue : fromisoformat (replaceZulu (timestampText t)) with
  | none =>
      simp only [hvalue] at hread
      cases hread
  | some value =>
      simp only [hvalue] at hread
      rw [Option.bind_some]
      cases hoffset : value.offset with
      | none =>
          simp only [hoffset] at hread
          cases hread
      | some offset =>
          simp only [hoffset] at hread
          rw [Option.bind_some]
          cases hinstant : value.astimezoneUtc offset with
          | none =>
              simp only [hinstant] at hread
              cases hread
          | some instant =>
              simp only [hinstant] at hread
              rw [Except.ok.inj hread]
              rfl

/-!
### The source of the directory with three routes
-/

/-- The authority's private key in PKCS8. -/
def homeKeyDer : Bytes :=
  bigEndian 36
      0x308187020100301306072a8648ce3d020106082a8648ce3d030107046d306b0201010420 ++
    bigEndian 32 0xdeb011b114564fb8d587e4a5aa21f86aea61b824f1948a18ecbf0d6c74a51f89 ++
    bigEndian 6 0xa14403420004 ++
    bigEndian 32 Party.authority.point.fst ++ bigEndian 32 Party.authority.point.snd

def homeKeyPem : Bytes :=
  (pem "PRIVATE KEY" homeKeyDer).flatMap utf8Char

/-- Members that are words or whole numbers. -/
def homeConversions : IssuingPrimitives homeKeys where
  str value :=
    match value with
    | .str s => s
    | .int n => intText n
    | .bool true => str "True"
    | .bool false => str "False"
    | _ => str "None"
  int value :=
    match value with
    | .int n => .ok n
    | .bool b => .ok b.toInt
    | .str _ => .error .valueError
    | _ => .error .typeError
  loadPemPrivateKey pem :=
    if pem = homeKeyPem then .ok (some ()) else .error .valueError
  publicNumbers := Party.point

theorem homeConversions_lawful : homeConversions.Lawful := by
  intro key other _ _ h
  have hpoint : forall party party' : Party, party.point = party'.point ->
      party = party' := by
    intro party party'
    cases party <;> cases party' <;> decide
  exact hpoint key other h

theorem homeKeys_verifies : homeKeys.Verifies :=
  fun _ _ _ => checkSignature_eq_valid.mpr rfl

def homeSource : Members :=
  [(str "owner_domain_id", .str homeDirectory.ownerDomainId),
    (str "owner_domain_generation", .int 3),
    (str "directory_revision", .int 7),
    (str "trust_epoch", .int 1),
    (str "descriptor_uri", .str homeDirectory.descriptorUri),
    (str "endpoints", .array (homeDirectory.endpoints.map AuthorityEndpoint.dump)),
    (str "issued_at", .str (str "2026-08-18T00:00:00Z")),
    (str "expires_at", .str (str "2027-08-18T00:00:00Z"))]

theorem issued_directory_accepted_sample :
    issueDescriptor homeConversions homeSource Party.root.certificatePem
          Party.authority.certificatePem homeKeyPem = .ok homeDirectory ∧
      OwnerDomainDescriptor.validateJson
          (fun s => fromisoformat (replaceZulu s)) homeDirectory.dump =
        .ok homeDirectory ∧
      AuthorityLocator.init homePrimitives homeAnchor (some homeDirectory) =
        .ok ⟨homeAnchor, some homeDirectory⟩ := by
  have hissued : issueDescriptor homeConversions homeSource
      Party.root.certificatePem Party.authority.certificatePem homeKeyPem =
        .ok homeDirectory := by
    decide +kernel
  have haccepted := issued_directory_accepted homeKeys_lawful homeKeys_verifies
    homeConversions_lawful pythonInstant_timestampText hissued 1
  exact ⟨hissued, haccepted.left, haccepted.right.left⟩

end DeviceFoundation
end EidolonSdk
