import EidolonSdk.DeviceFoundation.SignedDocuments
import EidolonSdk.Python.Base64

/-!
# Vouchers and evidence on the wire

A commissioning voucher joins three base64url segments with dots, and no segment
has a dot in it.  Base identity evidence joins a document, which may have any
number of dots, with a signature, which has none.
-/

namespace EidolonSdk
namespace DeviceFoundation

open Python Pydantic Support

/-!
## The wire forms
-/

def commissioningVoucherPurpose : String :=
  "eidolon-commissioning-voucher-v1"

def commissioningVoucherHeader : Members :=
  [(str "alg", .str (str "HS256")), (str "typ", .str (str "JWT"))]

def commissioningVoucherProvenance : List String :=
  ["minted", "derived-from-controller"]

def commissioningVoucherClaimNames : List String :=
  ["base_identity_provenance", "device_base_id", "exp", "jti",
    "operational_spki_sha256", "owner_domain_id", "purpose"]

/-- The arguments of `commissioning_voucher_claims`. -/
structure VoucherArguments where
  deviceBaseId : PyStr
  ownerDomainId : PyStr
  operationalSpkiSha256 : PyStr
  jti : PyStr
  expiresAtUnix : Int
  provenance : PyStr := str "minted"

def commissioningVoucherClaims (arguments : VoucherArguments) :
    Except PyException Members :=
  if (commissioningVoucherProvenance.any fun word =>
      str word == arguments.provenance) = false then
    throw .valueError
  else
    pure
      [(str "base_identity_provenance", .str arguments.provenance),
        (str "device_base_id", .str arguments.deviceBaseId),
        (str "exp", .int arguments.expiresAtUnix),
        (str "jti", .str arguments.jti),
        (str "operational_spki_sha256", .str arguments.operationalSpkiSha256),
        (str "owner_domain_id", .str arguments.ownerDomainId),
        (str "purpose", .str (str commissioningVoucherPurpose))]

/-- The set the claims are checked against is the set of their names. -/
theorem commissioningVoucherClaims_keys {arguments : VoucherArguments}
    {claims : Members} (h : commissioningVoucherClaims arguments = .ok claims) :
    claims.keys = commissioningVoucherClaimNames.map str := by
  unfold commissioningVoucherClaims at h
  split at h
  · cases h
  · cases h
    rfl

section Framing

variable (hash : Sha256) (canonical : Rfc8785)

/-- `str.encode()`. -/
def encodeText (text : PyStr) : Except PyException Bytes :=
  match encodeUtf8 text with
  | some bytes => .ok bytes
  | none => .error .unicodeEncodeError

/-- `bytes.decode()`. -/
def decodeText (bytes : Bytes) : Except PyException PyStr :=
  match decodeUtf8 bytes with
  | some text => .ok text
  | none => .error .unicodeDecodeError

def signCommissioningVoucher (claims : Members) (signingKey : Bytes) :
    Except PyException PyStr := do
  let header ← canonical.dumps (.object commissioningVoucherHeader)
  let body ← canonical.dumps (.object claims)
  let signingInput :=
    urlsafeB64Unpadded header ++ str "." ++ urlsafeB64Unpadded body
  let signature := hash.hmac signingKey (← encodeText signingInput)
  pure (signingInput ++ str "." ++ urlsafeB64Unpadded signature)

def baseIdentityEvidenceWire (document : Members) (signature : PyStr) :
    Except PyException PyStr := do
  let text ← decodeText (← canonical.dumps (.object document))
  pure (text ++ str "." ++ signature)

def baseIdentityEvidenceDigest (wireEvidence : PyStr) :
    Except PyException PyStr := do
  let bytes ← encodeText wireEvidence
  pure (str "sha256:" ++ hash.hexdigest bytes)

end Framing

/-!
## Segments
-/

def dot : CodePoint :=
  codePoint '.'

def IsBase64Url (s : PyStr) : Prop :=
  forall c, c ∈ s -> (isAlphanumeric c || (str "-_").contains c) = true

theorem b64Char_base64Url (n : Nat) :
    (isAlphanumeric (b64Char n) || (str "-_").contains (b64Char n)) = true := by
  by_cases h : n < 64
  · revert n
    decide
  · have hlast : b64Char n = codePoint '_' := by
      unfold b64Char
      rw [if_neg (by omega), if_neg (by omega), if_neg (by omega),
        if_neg (by omega)]
      rfl
    rw [hlast]
    decide

theorem isBase64Url_unpadded (bytes : Bytes) :
    IsBase64Url (urlsafeB64Unpadded bytes) := by
  intro c hc
  rw [urlsafeB64Unpadded_eq] at hc
  rcases mem_b64Digits hc with ⟨n, rfl⟩
  exact b64Char_base64Url n

theorem IsBase64Url.not_mem_dot {s : PyStr} (h : IsBase64Url s) : dot ∉ s := by
  intro hdot
  exact absurd (h dot hdot) (by decide)

/-- A segment that decodes to the octets. -/
def SegmentOf (segment : PyStr) (bytes : Bytes) : Prop :=
  IsBase64Url segment ∧
    urlsafeB64Decode (segment ++ b64Fill segment.length) = some bytes

theorem segmentOf_unpadded (bytes : Bytes) :
    SegmentOf (urlsafeB64Unpadded bytes) bytes :=
  ⟨isBase64Url_unpadded bytes, urlsafeB64Decode_unpadded bytes⟩

theorem SegmentOf.unique {segment : PyStr} {bytes bytes' : Bytes}
    (h : SegmentOf segment bytes) (h' : SegmentOf segment bytes') :
    bytes = bytes' :=
  Option.some.inj (h.right.symm.trans h'.right)

/-!
## Taking the wire forms apart
-/

section Decoding

variable {hash : Sha256} {canonical : Rfc8785}

theorem encodeText_eq_ok {text : PyStr} {bytes : Bytes} :
    encodeText text = .ok bytes <-> encodeUtf8 text = some bytes := by
  unfold encodeText
  cases encodeUtf8 text with
  | none => simp
  | some other => simp

theorem decodeText_eq_ok {text : PyStr} {bytes : Bytes} :
    decodeText bytes = .ok text <-> decodeUtf8 bytes = some text := by
  unfold decodeText
  cases decodeUtf8 bytes with
  | none => simp
  | some other => simp

theorem signCommissioningVoucher_eq_ok {claims : Members} {signingKey : Bytes}
    {voucher : PyStr} :
    signCommissioningVoucher hash canonical claims signingKey = .ok voucher <->
      exists header body signed,
        canonical.dumps (.object commissioningVoucherHeader) = .ok header ∧
        canonical.dumps (.object claims) = .ok body ∧
        encodeUtf8 (urlsafeB64Unpadded header ++ str "." ++
          urlsafeB64Unpadded body) = some signed ∧
        voucher = urlsafeB64Unpadded header ++ str "." ++
          urlsafeB64Unpadded body ++ str "." ++
          urlsafeB64Unpadded (hash.hmac signingKey signed) := by
  unfold signCommissioningVoucher
  simp only [Logic.bind_eq_ok, encodeText_eq_ok]
  constructor
  · intro h
    rcases h with ⟨header, hheader, body, hbody, signed, hsigned, heq⟩
    exact ⟨header, body, signed, hheader, hbody, hsigned, (Except.ok.inj heq).symm⟩
  · intro h
    rcases h with ⟨header, body, signed, hheader, hbody, hsigned, heq⟩
    exact ⟨header, hheader, body, hbody, signed, hsigned, congrArg _ heq.symm⟩

/-- Three segments joined with dots are what they are split into. -/
theorem splitOn_segments {a b c : PyStr} (ha : IsBase64Url a)
    (hb : IsBase64Url b) (hc : IsBase64Url c) :
    (a ++ str "." ++ b ++ str "." ++ c).splitOn dot = [a, b, c] := by
  have hjoined : a ++ str "." ++ b ++ str "." ++ c =
      [dot].intercalate [a, b, c] := by
    have hdot : str "." = [dot] := rfl
    simp [hdot, List.intercalate]
  rw [hjoined]
  apply List.splitOn_intercalate
  · simp [ha.not_mem_dot, hb.not_mem_dot, hc.not_mem_dot]
  · exact List.cons_ne_nil _ _

/-- The segments of a voucher, with what they decode to. -/
def VoucherSegments (hash : Sha256) (canonical : Rfc8785)
    (claims : Members) (signingKey : Bytes) (voucher : PyStr) : Prop :=
  exists header body mac signed, voucher.splitOn dot = [header, body, mac] ∧
    (exists form, SegmentOf header form ∧
      canonical.dumps (.object commissioningVoucherHeader) = .ok form) ∧
    (exists form, SegmentOf body form ∧
      canonical.dumps (.object claims) = .ok form) ∧
    encodeUtf8 (header ++ str "." ++ body) = some signed ∧
    SegmentOf mac (hash.hmac signingKey signed)

theorem signCommissioningVoucher_segments {claims : Members} {signingKey : Bytes}
    {voucher : PyStr}
    (h : signCommissioningVoucher hash canonical claims signingKey =
      .ok voucher) :
    VoucherSegments hash canonical claims signingKey voucher := by
  rcases signCommissioningVoucher_eq_ok.mp h with
    ⟨header, body, signed, hheader, hbody, hsigned, rfl⟩
  exact ⟨_, _, _, signed,
    splitOn_segments (isBase64Url_unpadded _) (isBase64Url_unpadded _)
      (isBase64Url_unpadded _),
    ⟨header, segmentOf_unpadded header, hheader⟩,
    ⟨body, segmentOf_unpadded body, hbody⟩, hsigned, segmentOf_unpadded _⟩

/-- One voucher stands for one set of claims, under whatever keys. -/
theorem voucherSegments_claims_same (hcanonical : canonical.Injective)
    {claims claims' : Members} {key key' : Bytes} {voucher : PyStr}
    (h : VoucherSegments hash canonical claims key voucher)
    (h' : VoucherSegments hash canonical claims' key' voucher) :
    Json.Same (.object claims) (.object claims') := by
  rcases h with ⟨_, body, _, _, hsplit, _, ⟨form, hform, hdumps⟩, _⟩
  rcases h' with ⟨_, body', _, _, hsplit', _, ⟨form', hform', hdumps'⟩, _⟩
  have hbody : body = body' := by
    have heq := hsplit.symm.trans hsplit'
    exact (List.cons.inj (List.cons.inj heq).right).left
  subst hbody
  rw [← hform.unique hform'] at hdumps'
  exact hcanonical _ _ form hdumps hdumps'

theorem baseIdentityEvidenceWire_eq_ok {document : Members}
    {signature wire : PyStr} :
    baseIdentityEvidenceWire canonical document signature = .ok wire <->
      exists form text, canonical.dumps (.object document) = .ok form ∧
        decodeUtf8 form = some text ∧ wire = text ++ str "." ++ signature := by
  unfold baseIdentityEvidenceWire
  simp only [Logic.bind_eq_ok, decodeText_eq_ok]
  constructor
  · intro h
    rcases h with ⟨form, hform, text, htext, heq⟩
    exact ⟨form, text, hform, htext, (Except.ok.inj heq).symm⟩
  · intro h
    rcases h with ⟨form, text, hform, htext, heq⟩
    exact ⟨form, hform, text, htext, congrArg _ heq.symm⟩

/-- The last dot parts the octets of the document from the signature. -/
theorem baseIdentityEvidenceWire_parts {document : Members}
    {signature wire : PyStr} (hsignature : IsBase64Url signature)
    (h : baseIdentityEvidenceWire canonical document signature = .ok wire) :
    exists text form, rpartition wire dot = (text, [dot], signature) ∧
      encodeUtf8 text = some form ∧
      canonical.dumps (.object document) = .ok form := by
  rcases baseIdentityEvidenceWire_eq_ok.mp h with ⟨form, text, hform, htext, rfl⟩
  refine ⟨text, form, ?_, encodeUtf8_decodeUtf8 htext, hform⟩
  rw [List.append_assoc]
  exact rpartition_append hsignature.not_mem_dot

/-- A wire form belongs to one document with one signature. -/
theorem baseIdentityEvidenceWire_inj (hcanonical : canonical.Injective)
    {document document' : Members} {signature signature' wire : PyStr}
    (hsignature : IsBase64Url signature) (hsignature' : IsBase64Url signature')
    (h : baseIdentityEvidenceWire canonical document signature = .ok wire)
    (h' : baseIdentityEvidenceWire canonical document' signature' = .ok wire) :
    Json.Same (.object document) (.object document') ∧
      signature = signature' := by
  rcases baseIdentityEvidenceWire_parts hsignature h with
    ⟨text, form, hparts, htext, hform⟩
  rcases baseIdentityEvidenceWire_parts hsignature' h' with
    ⟨text', form', hparts', htext', hform'⟩
  have heq := hparts.symm.trans hparts'
  simp only [Prod.mk.injEq, true_and] at heq
  rcases heq with ⟨rfl, rfl⟩
  rw [htext] at htext'
  cases htext'
  exact ⟨hcanonical _ _ form hform hform', rfl⟩

/-- The claims carry every argument. -/
theorem commissioningVoucherClaims_inj {arguments arguments' : VoucherArguments}
    {claims claims' : Members} (h : commissioningVoucherClaims arguments = .ok claims)
    (h' : commissioningVoucherClaims arguments' = .ok claims')
    (hsame : Json.Same (.object claims) (.object claims')) : arguments = arguments' := by
  unfold commissioningVoucherClaims at h h'
  split at h
  · cases h
  split at h'
  · cases h'
  cases h
  cases h'
  have hprovenance := hsame.get_rel "base_identity_provenance"
  have hbase := hsame.get_rel "device_base_id"
  have hexpires := hsame.get_rel "exp"
  have hjti := hsame.get_rel "jti"
  have hspki := hsame.get_rel "operational_spki_sha256"
  have howner := hsame.get_rel "owner_domain_id"
  simp [Json.Same.str_iff] at hprovenance hbase hjti hspki howner
  simp [Json.Same.int_iff] at hexpires
  rcases arguments with ⟨base, owner, spki, jti, expires, provenance⟩
  cases hprovenance
  cases hbase
  cases hexpires
  cases hjti
  cases hspki
  cases howner
  rfl

/-- A voucher has the declared claims, and whoever reads it has its arguments. -/
theorem voucher_determines_arguments (hcanonical : canonical.Injective)
    {arguments : VoucherArguments} {claims : Members} {key : Bytes} {voucher : PyStr}
    (hclaims : commissioningVoucherClaims arguments = .ok claims)
    (h : signCommissioningVoucher hash canonical claims key = .ok voucher) :
    claims.keys = commissioningVoucherClaimNames.map str ∧
      forall arguments' claims' key',
        commissioningVoucherClaims arguments' = .ok claims' ->
          signCommissioningVoucher hash canonical claims' key' = .ok voucher ->
            arguments = arguments' := by
  refine ⟨commissioningVoucherClaims_keys hclaims, ?_⟩
  intro arguments' claims' key' hclaims' h'
  exact commissioningVoucherClaims_inj hclaims hclaims'
    (voucherSegments_claims_same hcanonical (signCommissioningVoucher_segments h)
      (signCommissioningVoucher_segments h'))

theorem baseIdentityEvidenceDigest_eq_ok {wire digest : PyStr} :
    baseIdentityEvidenceDigest hash wire = .ok digest <->
      exists bytes, encodeUtf8 wire = some bytes ∧
        digest = str "sha256:" ++ hash.hexdigest bytes := by
  unfold baseIdentityEvidenceDigest
  simp only [Logic.bind_eq_ok, encodeText_eq_ok]
  constructor
  · intro h
    rcases h with ⟨bytes, hbytes, hdigest⟩
    exact ⟨bytes, hbytes, (Except.ok.inj hdigest).symm⟩
  · intro h
    rcases h with ⟨bytes, hbytes, rfl⟩
    exact ⟨bytes, hbytes, rfl⟩

/-- The recorded digest names one base, one device, one key and one signature,
unless the hash collides on the two texts. -/
theorem evidence_digest_binds (hcanonical : canonical.Injective)
    {base base' device device' key key' signature signature' wire wire' : PyStr}
    (hsignature : IsBase64Url signature) (hsignature' : IsBase64Url signature')
    (h : baseIdentityEvidenceWire canonical
      (baseIdentityEvidenceDocument base device key) signature = .ok wire)
    (h' : baseIdentityEvidenceWire canonical
      (baseIdentityEvidenceDocument base' device' key') signature' = .ok wire')
    {digest : PyStr} (hdigest : baseIdentityEvidenceDigest hash wire = .ok digest)
    (hdigest' : baseIdentityEvidenceDigest hash wire' = .ok digest)
    (happart : forall bytes bytes', encodeUtf8 wire = some bytes ->
      encodeUtf8 wire' = some bytes' -> hash.digest bytes = hash.digest bytes' ->
        bytes = bytes') :
    base = base' ∧ device = device' ∧ key = key' ∧ signature = signature' := by
  rcases baseIdentityEvidenceDigest_eq_ok.mp hdigest with ⟨bytes, hbytes, rfl⟩
  rcases baseIdentityEvidenceDigest_eq_ok.mp hdigest' with ⟨bytes', hbytes', heq⟩
  have hsame : bytes = bytes' := happart bytes bytes' hbytes hbytes'
    (Sha256.hexdigest_eq_iff.mp (List.append_cancel_left heq))
  rw [← hsame] at hbytes'
  rw [← encodeUtf8_inj hbytes hbytes'] at h'
  rcases baseIdentityEvidenceWire_inj hcanonical hsignature hsignature' h h' with
    ⟨hdocument, hsignatures⟩
  rcases baseIdentityEvidenceDocument_inj hdocument with ⟨hbase, hdevice, hkey⟩
  exact ⟨hbase, hdevice, hkey, hsignatures⟩

end Decoding

/-- Vouchers split into their three segments and evidence splits at its last
dot, and both stand for one content only. -/
theorem framings_uniquely_decodable (hash : Sha256) {canonical : Rfc8785}
    (hcanonical : canonical.Injective) :
    (forall claims key voucher,
      signCommissioningVoucher hash canonical claims key = .ok voucher ->
        VoucherSegments hash canonical claims key voucher ∧
        forall claims' key',
          signCommissioningVoucher hash canonical claims' key' = .ok voucher ->
            Json.Same (.object claims) (.object claims')) ∧
    (forall document signature wire, IsBase64Url signature ->
      baseIdentityEvidenceWire canonical document signature = .ok wire ->
        (exists text form, rpartition wire dot = (text, [dot], signature) ∧
          encodeUtf8 text = some form ∧
          canonical.dumps (.object document) = .ok form) ∧
        forall document' signature', IsBase64Url signature' ->
          baseIdentityEvidenceWire canonical document' signature' = .ok wire ->
            Json.Same (.object document) (.object document') ∧
              signature = signature') := by
  constructor
  · intro claims key voucher h
    have hsegments := signCommissioningVoucher_segments h
    refine ⟨hsegments, ?_⟩
    intro claims' key' h'
    exact voucherSegments_claims_same hcanonical hsegments
      (signCommissioningVoucher_segments h')
  · intro document signature wire hsignature h
    refine ⟨baseIdentityEvidenceWire_parts hsignature h, ?_⟩
    intro document' signature' hsignature' h'
    exact baseIdentityEvidenceWire_inj hcanonical hsignature hsignature' h h'

def sampleVoucherArguments : VoucherArguments where
  deviceBaseId := str "base.1"
  ownerDomainId := str "owner-home"
  operationalSpkiSha256 := str "sha256:" ++ sha256.hexdigest []
  jti := str "voucher.1"
  expiresAtUnix := 1893456000

def sampleVoucherClaims : Members :=
  ((commissioningVoucherClaims sampleVoucherArguments).toOption).getD []

/-- A key of 32 octets. -/
def sampleVoucherKey : Bytes :=
  bigEndian 32 0x9f0e3c1d7a5b2846f1c0d3e2a5b49786cafe0123456789abcdef00112233445f

/-- A word in the place of a signature. -/
def sampleEvidenceSignature : PyStr :=
  urlsafeB64Unpadded (bigEndian 6 0x7369676e6564)

theorem framings_uniquely_decodable_sample :
    (exists voucher,
      signCommissioningVoucher sha256 Rfc8785.plain sampleVoucherClaims
        sampleVoucherKey = .ok voucher ∧
      VoucherSegments sha256 Rfc8785.plain sampleVoucherClaims sampleVoucherKey
        voucher) ∧
    exists wire text form,
      baseIdentityEvidenceWire Rfc8785.plain sampleVoucherClaims
        sampleEvidenceSignature = .ok wire ∧
      rpartition wire dot = (text, [dot], sampleEvidenceSignature) ∧
      encodeUtf8 text = some form ∧
      Rfc8785.plain.dumps (.object sampleVoucherClaims) = .ok form := by
  rcases framings_uniquely_decodable sha256 Rfc8785.plain_injective with
    ⟨hvoucher, hevidence⟩
  have hsigned : (signCommissioningVoucher sha256 Rfc8785.plain sampleVoucherClaims
      sampleVoucherKey).isOk = true := by
    decide +kernel
  have hwire : (baseIdentityEvidenceWire Rfc8785.plain sampleVoucherClaims
      sampleEvidenceSignature).isOk = true := by
    decide +kernel
  rcases Logic.exists_of_isOk hsigned with ⟨voucher, hvoucherOk⟩
  rcases Logic.exists_of_isOk hwire with ⟨wire, hwireOk⟩
  rcases (hevidence _ _ wire (isBase64Url_unpadded _) hwireOk).left with
    ⟨text, form, hparts, htext, hform⟩
  exact ⟨⟨voucher, hvoucherOk, (hvoucher _ _ _ hvoucherOk).left⟩,
    wire, text, form, hwireOk, hparts, htext, hform⟩

end DeviceFoundation
end EidolonSdk
