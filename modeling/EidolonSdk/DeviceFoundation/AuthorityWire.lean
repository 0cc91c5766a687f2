import EidolonSdk.DeviceFoundation.AuthorityResolution
import EidolonSdk.Pydantic.Wire

/-!
# The directory on the wire

How a directory is dumped and how a decoded one is validated.  Its instants and
its two tuples are strict and nothing converts them, so a directory is read from
JSON text and never from what that text decodes to.
-/

namespace EidolonSdk
namespace DeviceFoundation

open Python Logic Pydantic

namespace OwnerDomainDescriptor

/-- `model_dump(mode="json")`. -/
def dump (descriptor : OwnerDomainDescriptor) : Json :=
  .object
    [(str "owner_domain_id", .str descriptor.ownerDomainId),
      (str "owner_domain_generation", .int descriptor.ownerDomainGeneration),
      (str "directory_revision", .int descriptor.directoryRevision),
      (str "descriptor_uri", .str descriptor.descriptorUri),
      (str "trust_root_refs", .array (descriptor.trustRootRefs.map .str)),
      (str "endpoints",
        .array (descriptor.endpoints.map AuthorityEndpoint.dump)),
      (str "issued_at", .str (timestampText descriptor.issuedAt)),
      (str "expires_at", .str (timestampText descriptor.expiresAt)),
      (str "signing_key_id", .str descriptor.signingKeyId),
      (str "signature", .str descriptor.signature)]

def fieldNames : List String :=
  ["owner_domain_id", "owner_domain_generation", "directory_revision",
    "descriptor_uri", "trust_root_refs", "endpoints", "issued_at", "expires_at",
    "signing_key_id", "signature"]

def keyIdRule : StrRule :=
  { pattern := isSha256Reference }

def signatureRule : StrRule :=
  { pattern := isRawSignature }

/-- `_valid_unique_roots`, behind the tuple. -/
def validRoots : Validator (List PyStr) :=
  fun value => do
    let roots ← strictTuple value
    if roots ≠ [] ∧ roots.Nodup ∧ (roots.all isSha256Reference) = true then
      .ok roots
    else .error .invalid

def validEndpoints : Validator (List AuthorityEndpoint) :=
  fun value => do
    let endpoints ← strictTuple value
    if endpoints ≠ [] then .ok endpoints else .error .invalid

/-- `_utc_instants`, behind the datetime. -/
def validInstant : Validator Instant :=
  fun value => do
    let value ← strictDatetime value
    match value.offset with
    | none => .error .invalid
    | some offset =>
        match value.astimezoneUtc offset with
        | some instant => .ok instant
        | none => .error (.raised .overflowError)

instance (endpoints : List AuthorityEndpoint) :
    Decidable (DistinctKeys AuthorityEndpoint.identity endpoints) :=
  inferInstanceAs (Decidable (List.Pairwise _ _))

/-- `OwnerDomainDescriptor.model_validate`. -/
def validate : Validator OwnerDomainDescriptor :=
  validModel fun members => do
    let (owner, generation, revision, uri, roots, endpoints, issuedAt,
        expiresAt, keyId, signature, _) ←
      (required members "owner_domain_id" (validStr audienceRule)).both
        ((required members "owner_domain_generation" (validInt 1)).both
          ((required members "directory_revision" (validInt 1)).both
            ((required members "descriptor_uri" (validStr uriRule)).both
              ((required members "trust_root_refs" validRoots).both
                ((required members "endpoints" validEndpoints).both
                  ((required members "issued_at" validInstant).both
                    ((required members "expires_at" validInstant).both
                      ((required members "signing_key_id"
                          (validStr keyIdRule)).both
                        ((required members "signature"
                            (validStr signatureRule)).both
                          (onlyMembers members fieldNames))))))))))
    if issuedAt.val < expiresAt.val ∧
        DistinctKeys AuthorityEndpoint.identity endpoints then
      .ok
        { ownerDomainId := owner.val
          ownerDomainGeneration := generation.val
          directoryRevision := revision.val
          descriptorUri := uri.val
          trustRootRefs := roots
          endpoints := endpoints
          issuedAt := issuedAt
          expiresAt := expiresAt
          signingKeyId := keyId.val
          signature := signature.val }
    else .error .invalid

/-- Whatever is decoded, the tuple of roots is refused and nothing else
raises. -/
theorem validate_refused (value : Json) : validate value = .error .invalid := by
  unfold validate validModel
  split
  · rename_i members
    have hroots : required members "trust_root_refs" validRoots =
        .error .invalid :=
      required_refused fun _ => rfl
    have hbehind :
        Quiet ((required members "endpoints" validEndpoints).both
          ((required members "issued_at" validInstant).both
            ((required members "expires_at" validInstant).both
              ((required members "signing_key_id" (validStr keyIdRule)).both
                ((required members "signature" (validStr signatureRule)).both
                  (onlyMembers members fieldNames)))))) :=
      (quiet_required fun _ => quiet_invalid).both
        ((quiet_required fun _ => quiet_invalid).both
          ((quiet_required fun _ => quiet_invalid).both
            ((quiet_required (quiet_validStr _)).both
              ((quiet_required (quiet_validStr _)).both
                (quiet_onlyMembers _ _)))))
    beta_reduce
    rw [hroots, hbehind.refused_both,
      (quiet_required (quiet_validStr _)).both_refused,
      (quiet_required (quiet_validInt _)).both_refused,
      (quiet_required (quiet_validInt _)).both_refused,
      (quiet_required (quiet_validStr _)).both_refused]
    rfl
  · rfl

end OwnerDomainDescriptor

end DeviceFoundation
end EidolonSdk
