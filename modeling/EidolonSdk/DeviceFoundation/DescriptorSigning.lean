import EidolonSdk.DeviceFoundation.AuthorityResolution
import EidolonSdk.DeviceFoundation.AuthorityRestore
import EidolonSdk.Pydantic.Instants
import EidolonSdk.Python.JsonSize

/-!
# Signing a directory

A signature is made over the canonical form of everything in a directory but the
signature, and travels as the two halves of a P1363 signature in base64url.  The
key package is a parameter; that the signature made verifies for the signed
octets and for no others is an assumption.
-/

namespace EidolonSdk
namespace DeviceFoundation

open Python Logic Pydantic Support

/-!
## Signatures as octets
-/

/-- `n.to_bytes(length, "big")`. -/
def toBytesBig (n length : Nat) : Except PyException Bytes :=
  if n < 256 ^ length then .ok (bigEndian length n) else .error .overflowError

/-!
## Signing
-/

/-- What the key package provides for private keys. -/
structure SigningPrimitives (P : LocatorPrimitives) where
  PrivateKey : Type
  onP256 : PrivateKey -> Bool
  publicKey : PrivateKey -> P.PublicKey
  /-- A deterministic ECDSA signature over SHA-256, in DER. -/
  sign : PrivateKey -> Bytes -> Bytes
  decodeDssSignature : Bytes -> Except PyException (Nat × Nat)

section Signing

variable {P : LocatorPrimitives} (K : SigningPrimitives P)

/-- `r.to_bytes(32, "big") + s.to_bytes(32, "big")`. -/
def p1363 (r s : Nat) : Except PyException Bytes := do
  let front ← toBytesBig r 32
  let back ← toBytesBig s 32
  pure (front ++ back)

def signDescriptor (descriptor : OwnerDomainDescriptor)
    (privateKey : K.PrivateKey) :
    Except LocatorFailure OwnerDomainDescriptor := do
  refuseWhen (!K.onP256 privateKey) "Owner Domain key must be P-256"
  let keyId ← descriptorKeyId P (P.publicBytesPem (K.publicKey privateKey))
  let unsigned := { descriptor with signingKeyId := keyId }
  let signed ← propagate (P.canonical.dumps unsigned.signingDocument)
  let (r, s) ← propagate (K.decodeDssSignature (K.sign privateKey signed))
  let raw ← propagate (p1363 r s)
  pure { unsigned with signature := urlsafeB64Unpadded raw }

/-- What the code relies on: a P-256 key has a public key on the curve that is
read back from its PEM form, and a signature is a pair of 256-bit numbers in
DER. -/
structure SigningPrimitives.Lawful : Prop where
  public_p256 : forall key, K.onP256 key = true ->
    P.isP256 (K.publicKey key) = true
  pem_loads : forall key, P.isP256 key = true ->
    P.loadPemPublicKey (P.publicBytesPem key) = .ok key
  sign_decodes : forall key signed, K.onP256 key = true ->
    exists r s, K.decodeDssSignature (K.sign key signed) = .ok (r, s) ∧
      r < 256 ^ 32 ∧ s < 256 ^ 32 ∧
      P.encodeDssSignature r s = K.sign key signed

/-- The signature of these octets is ideal: it verifies for them and for no
others.  There are more octets than signatures, so no key has this for all. -/
def SigningPrimitives.IdealOn (key : K.PrivateKey) (signed : Bytes) : Prop :=
  forall presented,
    P.verify (K.publicKey key) (K.sign key signed) presented = .valid <->
      presented = signed

/-- What a key signs for a directory. -/
def SigningPrimitives.signingDocument (descriptor : OwnerDomainDescriptor)
    (privateKey : K.PrivateKey) : Except LocatorFailure Json := do
  let keyId ← descriptorKeyId P (P.publicBytesPem (K.publicKey privateKey))
  pure ({ descriptor with signingKeyId := keyId }).signingDocument

end Signing

/-!
## The signing document
-/

theorem timestampText_inj {a b : Instant}
    (h : timestampText a = timestampText b) : a = b := by
  have ha := awareDatetime_timestampText a
  rw [h, awareDatetime_timestampText b] at ha
  exact (Except.ok.inj ha).symm

theorem LogicalAuthority.value_inj {a b : LogicalAuthority}
    (h : a.value = b.value) : a = b := by
  revert h
  cases a with
  | admission => cases b <;> decide
  | deviceControl => cases b <;> decide
  | bodyMesh => cases b <;> decide
  | companion => cases b <;> decide

theorem AuthorityEndpoint.eq_of_same_dump {a b : AuthorityEndpoint}
    (h : Json.Same a.dump b.dump) : a = b := by
  have hauthority := h.get_rel "authority"
  have haudience := h.get_rel "logical_audience"
  have huri := h.get_rel "uri"
  have hprofile := h.get_rel "transport_profile"
  have hpriority := h.get_rel "priority"
  simp [Json.Same.str_iff] at hauthority haudience huri hprofile
  simp [Json.Same.int_iff] at hpriority
  rcases a with ⟨authority, audience, uri, profile, priority⟩
  rcases b with ⟨authority', audience', uri', profile', priority'⟩
  cases LogicalAuthority.value_inj hauthority
  cases haudience
  cases huri
  cases hprofile
  cases hpriority
  rfl

/-- The signing document determines all of a directory but its signature. -/
theorem OwnerDomainDescriptor.eq_of_same_signingDocument
    {d d' : OwnerDomainDescriptor}
    (h : Json.Same d.signingDocument d'.signingDocument)
    (hsignature : d.signature = d'.signature) : d = d' := by
  have howner := h.get_rel "owner_domain_id"
  have hgeneration := h.get_rel "owner_domain_generation"
  have hrevision := h.get_rel "directory_revision"
  have huri := h.get_rel "descriptor_uri"
  have hroots := h.get_rel "trust_root_refs"
  have hendpoints := h.get_rel "endpoints"
  have hissued := h.get_rel "issued_at"
  have hexpires := h.get_rel "expires_at"
  have hkey := h.get_rel "signing_key_id"
  simp [Json.Same.str_iff] at howner huri hissued hexpires hkey
  simp [Json.Same.int_iff] at hgeneration hrevision
  simp at hroots hendpoints
  have hroots' := Json.Same.array_map_inj (fun _ _ => Json.Same.str_iff.mp) hroots
  have hendpoints' := Json.Same.array_map_inj
    (fun _ _ => AuthorityEndpoint.eq_of_same_dump) hendpoints
  have hissued' := timestampText_inj hissued
  have hexpires' := timestampText_inj hexpires
  rcases d with ⟨owner, generation, revision, uri, roots, endpoints, issued,
    expires, key, signature⟩
  cases howner
  cases hgeneration
  cases hrevision
  cases huri
  cases hroots'
  cases hendpoints'
  cases hissued'
  cases hexpires'
  cases hkey
  cases hsignature
  rfl

/-!
## A directory has a canonical form
-/

theorem encodable_of_plain {s : PyStr} (h : Plain s) : Encodable s := by
  intro c hc hsurrogate
  have hascii := (h c hc).left
  have hlow := hsurrogate.left
  omega

theorem encodable_timestampText (instant : Instant) :
    Encodable (timestampText instant) := by
  have hpadded : forall width n, Encodable (padded width n) := fun width n =>
    encodable_of_plain (plain_padded width n)
  unfold timestampText
  simp only [encodable_append, hpadded, encodable_str, and_true, true_and]
  split
  · exact encodable_nil
  · simp [hpadded]

theorem encodable_hexdigest (hash : Sha256) (message : Bytes) :
    Encodable (hash.hexdigest message) :=
  Json.encodable_flatMap fun b _ => Json.encodable_hexText 2 b.val

/-- A digest after its word is encodable. -/
theorem encodable_reference {s : PyStr} (h : isSha256Reference s = true) :
    Encodable s := by
  simp only [isSha256Reference, Bool.and_eq_true, List.all_eq_true] at h
  rcases h with ⟨⟨hstart, _⟩, hdigits⟩
  rcases List.isPrefixOf_iff_prefix.mp hstart with ⟨rest, hrest⟩
  have hlength : (str "sha256:").length = 7 := rfl
  have hdrop : s.drop 7 = rest := by
    rw [← hrest, ← hlength, List.drop_left]
  rw [← hrest, encodable_append]
  refine ⟨encodable_str _, ?_⟩
  intro c hc
  have hlisted := hdigits c (hdrop ▸ hc)
  exact encodable_str "0123456789abcdef" c (List.contains_iff_mem.mp hlisted)

/-- The numbers that have a canonical form. -/
def OwnerDomainDescriptor.InCanonicalRange (d : OwnerDomainDescriptor) : Prop :=
  d.ownerDomainGeneration < 2 ^ 53 ∧ d.directoryRevision < 2 ^ 53

theorem AuthorityEndpoint.Valid.hasCanonicalForm {endpoint : AuthorityEndpoint}
    (h : endpoint.Valid) : endpoint.dump.all hasCanonicalForm = true := by
  have hauthority : Encodable endpoint.authority.value := by
    cases endpoint.authority <;> exact encodable_str _
  have hpriority := h.priority
  apply hasCanonicalForm_object
  · simp
  · intro m hm
    simp only [List.mem_cons, List.not_mem_nil, or_false] at hm
    rcases hm with rfl | rfl | rfl | rfl | rfl
    · exact hasCanonicalForm_str hauthority
    · exact hasCanonicalForm_str h.logicalAudience.left
    · exact hasCanonicalForm_str h.uri.left
    · exact hasCanonicalForm_str h.transportProfile.left
    · exact hasCanonicalForm_int (by omega) (by omega)

/-- A valid directory in range has one under every key it may be signed with. -/
theorem OwnerDomainDescriptor.Valid.hasCanonicalForm {d : OwnerDomainDescriptor}
    (h : d.Valid) (hrange : d.InCanonicalRange) {keyId : PyStr}
    (hkey : Encodable keyId) :
    ({ d with signingKeyId := keyId }).signingDocument.all hasCanonicalForm =
      true := by
  have hgeneration := h.ownerDomainGeneration
  have hrevision := h.directoryRevision
  rcases hrange with ⟨hgeneration', hrevision'⟩
  apply hasCanonicalForm_object
  · simp
  · intro m hm
    simp only [List.mem_cons, List.not_mem_nil, or_false] at hm
    rcases hm with rfl | rfl | rfl | rfl | rfl | rfl | rfl | rfl | rfl
    · exact hasCanonicalForm_str h.ownerDomainId.left
    · exact hasCanonicalForm_int (by omega) hgeneration'
    · exact hasCanonicalForm_int (by omega) hrevision'
    · exact hasCanonicalForm_str h.descriptorUri.left
    · apply hasCanonicalForm_array
      intro v hv
      rcases List.mem_map.mp hv with ⟨root, hroot, rfl⟩
      exact hasCanonicalForm_str (encodable_reference (h.roots root hroot))
    · apply hasCanonicalForm_array
      intro v hv
      rcases List.mem_map.mp hv with ⟨endpoint, hendpoint, rfl⟩
      exact (h.endpoints endpoint hendpoint).hasCanonicalForm
    · exact hasCanonicalForm_str (encodable_timestampText _)
    · exact hasCanonicalForm_str (encodable_timestampText _)
    · exact hasCanonicalForm_str hkey

/-!
## What signing and verifying do
-/

section Verified

variable {P : LocatorPrimitives} {K : SigningPrimitives P}

theorem toBytesBig_eq_ok {n length : Nat} {raw : Bytes} :
    toBytesBig n length = .ok raw <->
      n < 256 ^ length ∧ bigEndian length n = raw := by
  unfold toBytesBig
  split
  · rename_i h
    simp [h]
  · rename_i h
    simp [h]

theorem p1363_ok {r s : Nat} (hr : r < 256 ^ 32) (hs : s < 256 ^ 32) :
    p1363 r s = .ok (bigEndian 32 r ++ bigEndian 32 s) :=
  bind_eq_ok.mpr ⟨_, toBytesBig_eq_ok.mpr ⟨hr, rfl⟩,
    bind_eq_ok.mpr ⟨_, toBytesBig_eq_ok.mpr ⟨hs, rfl⟩, rfl⟩⟩

theorem b64Digits_length : forall bytes : Bytes,
    (b64Digits bytes).length = (4 * bytes.length + 2) / 3
  | [] => rfl
  | [_] => by simp [b64Digits]
  | [_, _] => by simp [b64Digits]
  | _ :: _ :: _ :: rest => by
      simp only [b64Digits, List.length_cons, b64Digits_length rest]
      omega

/-- The two halves are read back from the text of a signature. -/
theorem rawSignature_unpadded {raw : Bytes} (h : raw.length = 64) :
    rawSignature (urlsafeB64Unpadded raw) = .ok raw := by
  have hfill : b64Fill (urlsafeB64Unpadded raw).length = str "==" := by
    rw [urlsafeB64Unpadded_eq, b64Digits_length, h]
    rfl
  have hdecode := urlsafeB64Decode_unpadded raw
  rw [hfill] at hdecode
  unfold rawSignature
  rw [hdecode]
  exact if_pos h

theorem halves_bigEndian {r s : Nat} (hr : r < 256 ^ 32) (hs : s < 256 ^ 32) :
    fromBytesBig ((bigEndian 32 r ++ bigEndian 32 s).take 32) = r ∧
      fromBytesBig ((bigEndian 32 r ++ bigEndian 32 s).drop 32) = s := by
  have hlength := bigEndian_length 32 r
  rw [List.take_left' hlength, List.drop_left' hlength, fromBytesBig_bigEndian,
    fromBytesBig_bigEndian]
  exact ⟨Nat.mod_eq_of_lt hr, Nat.mod_eq_of_lt hs⟩

theorem verifyDescriptor_eq_ok {descriptor : OwnerDomainDescriptor}
    {anchor : OwnerDomainTrustAnchor} :
    verifyDescriptor P descriptor anchor = .ok () <->
      descriptor.ownerDomainId = anchor.ownerDomainId ∧
        anchor.authorityKeyId P = .ok descriptor.signingKeyId ∧
        (exists keyId, anchor.keyId P = .ok keyId ∧
          keyId ∈ descriptor.trustRootRefs) ∧
        exists raw key signed, rawSignature descriptor.signature = .ok raw ∧
          anchor.authorityKey P = .ok key ∧
          P.canonical.dumps descriptor.signingDocument = .ok signed ∧
          P.verify key (P.encodeDssSignature (fromBytesBig (raw.take 32))
            (fromBytesBig (raw.drop 32))) signed = .valid := by
  unfold verifyDescriptor
  simp only [bind_eq_ok, refuseWhen_eq_ok, exists_const, propagate_eq_ok,
    requireSignature_eq_ok, bne_eq_false_iff_eq, Bool.not_eq_false',
    List.contains_iff_mem]
  constructor
  · intro h
    rcases h with ⟨hdomain, authorityKeyId, hauthority, hsigning, keyId, hkeyId,
      hroot, raw, hraw, key, hkey, signed, hsigned, hvalid⟩
    exact ⟨hdomain, hsigning ▸ hauthority, ⟨keyId, hkeyId, hroot⟩, raw, key,
      signed, hraw, hkey, hsigned, hvalid⟩
  · intro h
    rcases h with ⟨hdomain, hauthority, ⟨keyId, hkeyId, hroot⟩, raw, key, signed,
      hraw, hkey, hsigned, hvalid⟩
    exact ⟨hdomain, _, hauthority, rfl, keyId, hkeyId, hroot, raw, hraw, key,
      hkey, signed, hsigned, hvalid⟩

theorem signDescriptor_eq_ok {descriptor signed : OwnerDomainDescriptor}
    {privateKey : K.PrivateKey} :
    signDescriptor K descriptor privateKey = .ok signed <->
      K.onP256 privateKey = true ∧
        exists keyId form r s raw,
          descriptorKeyId P (P.publicBytesPem (K.publicKey privateKey)) =
            .ok keyId ∧
          P.canonical.dumps ({ descriptor with
            signingKeyId := keyId }).signingDocument = .ok form ∧
          K.decodeDssSignature (K.sign privateKey form) = .ok (r, s) ∧
          p1363 r s = .ok raw ∧
          signed = { descriptor with
            signingKeyId := keyId
            signature := urlsafeB64Unpadded raw } := by
  unfold signDescriptor
  simp only [bind_eq_ok, refuseWhen_eq_ok, exists_const, propagate_eq_ok,
    Bool.not_eq_false']
  apply and_congr_right
  intro _
  constructor
  · intro h
    rcases h with ⟨keyId, hkeyId, form, hform, ⟨r, s⟩, hparts, raw, hraw, heq⟩
    exact ⟨keyId, form, r, s, raw, hkeyId, hform, hparts, hraw,
      (Except.ok.inj heq).symm⟩
  · intro h
    rcases h with ⟨keyId, form, r, s, raw, hkeyId, hform, hparts, hraw, heq⟩
    exact ⟨keyId, hkeyId, form, hform, (r, s), hparts, raw, hraw,
      congrArg _ heq.symm⟩

/-- The key identifier of a P-256 key. -/
theorem descriptorKeyId_publicBytesPem (hK : K.Lawful) {key : P.PublicKey}
    (h : P.isP256 key = true) :
    descriptorKeyId P (P.publicBytesPem key) =
      .ok (str "sha256:" ++ P.hash.hexdigest (P.publicBytesDer key)) := by
  unfold descriptorKeyId
  rw [hK.pem_loads key h]
  show (refuseWhen (!P.isP256 key) _ >>= fun _ => _) = _
  rw [h]
  rfl

/-- What a signed directory looks like: a key identifier, and a signature that
decodes to what the key package made of the signing document. -/
structure SignedWith (K : SigningPrimitives P) (descriptor : OwnerDomainDescriptor)
    (privateKey : K.PrivateKey) (signed : OwnerDomainDescriptor)
    (form : Bytes) : Prop where
  returned : signDescriptor K descriptor privateKey = .ok signed
  keyId : descriptorKeyId P (P.publicBytesPem (K.publicKey privateKey)) =
    .ok signed.signingKeyId
  same : signed = { descriptor with
    signingKeyId := signed.signingKeyId
    signature := signed.signature }
  dumped : P.canonical.dumps signed.signingDocument = .ok form
  signature : exists raw, rawSignature signed.signature = .ok raw ∧
    P.encodeDssSignature (fromBytesBig (raw.take 32))
      (fromBytesBig (raw.drop 32)) = K.sign privateKey form

/-- The halves of a signature are read back from its text. -/
theorem exists_raw {r s : Nat} (hr : r < 256 ^ 32) (hs : s < 256 ^ 32) :
    exists raw, p1363 r s = .ok raw ∧
      rawSignature (urlsafeB64Unpadded raw) = .ok raw ∧
      fromBytesBig (raw.take 32) = r ∧ fromBytesBig (raw.drop 32) = s := by
  have hlength : (bigEndian 32 r ++ bigEndian 32 s).length = 64 := by
    simp [bigEndian_length]
  rcases halves_bigEndian hr hs with ⟨hfront, hback⟩
  exact ⟨_, p1363_ok hr hs, rawSignature_unpadded hlength, hfront, hback⟩

theorem exists_signedWith (hK : K.Lawful) {descriptor : OwnerDomainDescriptor}
    (hvalid : descriptor.Valid) (hrange : descriptor.InCanonicalRange)
    {privateKey : K.PrivateKey} (hkey : K.onP256 privateKey = true)
    (hwritten : forall document, K.signingDocument descriptor privateKey =
      .ok document -> P.canonical.Writes document) :
    exists signed form, SignedWith K descriptor privateKey signed form := by
  have hkeyId := descriptorKeyId_publicBytesPem hK
    (hK.public_p256 privateKey hkey)
  have hencodable : Encodable (str "sha256:" ++
      P.hash.hexdigest (P.publicBytesDer (K.publicKey privateKey))) := by
    simp [encodable_hexdigest]
  generalize str "sha256:" ++ _ = keyId at hkeyId hencodable
  rcases hwritten _ (bind_eq_ok.mpr ⟨keyId, hkeyId, rfl⟩)
    (hvalid.hasCanonicalForm hrange hencodable) with ⟨form, hform⟩
  rcases hK.sign_decodes privateKey form hkey with
    ⟨r, s, hparts, hr, hs, hencoded⟩
  rcases exists_raw hr hs with ⟨raw, hraw, hread, hfront, hback⟩
  refine ⟨{ descriptor with
    signingKeyId := keyId
    signature := urlsafeB64Unpadded raw }, form, ?_⟩
  exact
    { returned := signDescriptor_eq_ok.mpr
        ⟨hkey, keyId, form, r, s, raw, hkeyId, hform, hparts, hraw, rfl⟩
      keyId := hkeyId
      same := rfl
      dumped := hform
      signature := ⟨raw, hread, by rw [hfront, hback, hencoded]⟩ }

section Signed

variable {descriptor signed : OwnerDomainDescriptor} {privateKey : K.PrivateKey}
  {form : Bytes} {anchor : OwnerDomainTrustAnchor}

theorem SignedWith.verified (h : SignedWith K descriptor privateKey signed form)
    (hideal : K.IdealOn privateKey form)
    (hauthority : anchor.authorityKey P = .ok (K.publicKey privateKey))
    (hdomain : descriptor.ownerDomainId = anchor.ownerDomainId)
    (hroot : exists keyId, anchor.keyId P = .ok keyId ∧
      keyId ∈ descriptor.trustRootRefs) :
    verifyDescriptor P signed anchor = .ok () := by
  rcases h.signature with ⟨raw, hraw, hencoded⟩
  rw [verifyDescriptor_eq_ok]
  refine ⟨?_, ?_, ?_, raw, _, form, hraw, hauthority, h.dumped, ?_⟩
  · rw [h.same]
    exact hdomain
  · exact bind_eq_ok.mpr ⟨_, hauthority, h.keyId⟩
  · rw [h.same]
    exact hroot
  · rw [hencoded]
    exact (hideal form).mpr rfl

/-- Whatever carries the signature and verifies is what was signed. -/
theorem SignedWith.unique (h : SignedWith K descriptor privateKey signed form)
    (hideal : K.IdealOn privateKey form)
    (hcanonical : P.canonical.Injective)
    (hauthority : anchor.authorityKey P = .ok (K.publicKey privateKey))
    {other : OwnerDomainDescriptor} (hsignature : other.signature = signed.signature)
    (hverified : verifyDescriptor P other anchor = .ok ()) : other = signed := by
  rcases h.signature with ⟨raw, hraw, hencoded⟩
  rcases (verifyDescriptor_eq_ok.mp hverified).right.right.right with
    ⟨raw', key, form', hraw', hkey', hform', hvalid⟩
  rw [hsignature, hraw] at hraw'
  cases hraw'
  rw [hauthority] at hkey'
  cases hkey'
  rw [hencoded] at hvalid
  have heq := (hideal form').mp hvalid
  subst heq
  exact OwnerDomainDescriptor.eq_of_same_signingDocument
    (hcanonical _ _ form' hform' h.dumped) hsignature

theorem SignedWith.signingDocument
    (h : SignedWith K descriptor privateKey signed form) :
    K.signingDocument descriptor privateKey = .ok signed.signingDocument := by
  refine bind_eq_ok.mpr ⟨signed.signingKeyId, h.keyId, ?_⟩
  rw [h.same]
  rfl

end Signed

/-- A directory signed with the authority key of an anchor verifies under the
anchor, and no other directory does with its signature. -/
theorem signed_descriptor_tamper_evident (hK : K.Lawful)
    (hcanonical : P.canonical.Injective) {descriptor : OwnerDomainDescriptor}
    (hvalid : descriptor.Valid) (hrange : descriptor.InCanonicalRange)
    {privateKey : K.PrivateKey} (hkey : K.onP256 privateKey = true)
    (hwritten : forall document, K.signingDocument descriptor privateKey =
      .ok document -> P.canonical.Writes document)
    (hideal : forall document form, K.signingDocument descriptor privateKey =
      .ok document -> P.canonical.dumps document = .ok form ->
        K.IdealOn privateKey form)
    {anchor : OwnerDomainTrustAnchor}
    (hauthority : anchor.authorityKey P = .ok (K.publicKey privateKey))
    (hdomain : descriptor.ownerDomainId = anchor.ownerDomainId)
    (hroot : exists keyId, anchor.keyId P = .ok keyId ∧
      keyId ∈ descriptor.trustRootRefs) :
    exists signed, signDescriptor K descriptor privateKey = .ok signed ∧
      verifyDescriptor P signed anchor = .ok () ∧
      forall other, other.signature = signed.signature -> other ≠ signed ->
        exists e, verifyDescriptor P other anchor = .error e := by
  rcases exists_signedWith hK hvalid hrange hkey hwritten with
    ⟨signed, form, hsigned⟩
  have hform := hideal _ form hsigned.signingDocument hsigned.dumped
  refine ⟨signed, hsigned.returned,
    hsigned.verified hform hauthority hdomain hroot, ?_⟩
  intro other hsignature hother
  cases hverified : verifyDescriptor P other anchor with
  | error e => exact ⟨e, rfl⟩
  | ok u =>
      exact absurd (hsigned.unique hform hcanonical hauthority hsignature
        hverified) hother

end Verified

/-!
### The directory with three routes, signed
-/

/-- The authority's private key. -/
def homeKeys : SigningPrimitives homePrimitives where
  PrivateKey := Unit
  onP256 _ := true
  publicKey _ := Party.authority
  sign _ signed := homeSigned.sign signed
  decodeDssSignature := decodeDssSignature

theorem homeKeys_lawful : homeKeys.Lawful where
  public_p256 _ _ := rfl
  pem_loads key _ := Party.ofPublicKeyPem_publicKeyPem key
  sign_decodes _ signed _ := ⟨_, _, homeSigned.decode_sign signed,
    (homeSigned.numbersOf_lt signed).left, (homeSigned.numbersOf_lt signed).right,
    rfl⟩

/-- The signature of the directory's form is that of no other octets. -/
theorem homeKeys_idealOn : homeKeys.IdealOn () homeForm :=
  fun _ => checkSignature_eq_valid.trans homeSigned.sign_signed_eq_iff

theorem homeKeys_keyId :
    descriptorKeyId homePrimitives Party.authority.publicKeyPem =
      .ok Party.authority.keyId :=
  descriptorKeyId_publicBytesPem homeKeys_lawful rfl

theorem homeKeys_signingDocument {document : Json}
    (h : homeKeys.signingDocument homeDirectory () = .ok document) :
    document = homeDirectory.signingDocument := by
  rcases bind_eq_ok.mp h with ⟨keyId, hkeyId, hdocument⟩
  have heq : Party.authority.keyId = keyId :=
    Except.ok.inj (homeKeys_keyId.symm.trans hkeyId)
  rw [← heq] at hdocument
  exact (Except.ok.inj hdocument).symm

theorem homeAnchor_authorityKey :
    homeAnchor.authorityKey homePrimitives = .ok Party.authority := by
  decide +kernel

theorem homeAnchor_keyId : homeAnchor.keyId homePrimitives = .ok Party.root.keyId := by
  decide +kernel

theorem signed_descriptor_tamper_evident_sample :
    exists signed,
      signDescriptor homeKeys homeDirectory () = .ok signed ∧
      verifyDescriptor homePrimitives signed homeAnchor = .ok () ∧
      forall other, other.signature = signed.signature -> other ≠ signed ->
        exists e, verifyDescriptor homePrimitives other homeAnchor = .error e := by
  apply signed_descriptor_tamper_evident homeKeys_lawful Rfc8785.plain_injective
    homeDirectory_valid ⟨by decide, by decide⟩ rfl
  · intro document hdocument _
    rw [homeKeys_signingDocument hdocument]
    exact ⟨homeForm, homeForm_dumps⟩
  · intro document form hdocument hform
    rw [homeKeys_signingDocument hdocument] at hform
    rw [← Except.ok.inj (homeForm_dumps.symm.trans hform)]
    exact homeKeys_idealOn
  · exact homeAnchor_authorityKey
  · rfl
  · exact ⟨_, homeAnchor_keyId, List.mem_singleton_self _⟩

end DeviceFoundation
end EidolonSdk
