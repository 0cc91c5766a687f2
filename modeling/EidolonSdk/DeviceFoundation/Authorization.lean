import EidolonSdk.DeviceFoundation.Admission
import EidolonSdk.DeviceFoundation.BodyMesh

/-!
# Authorizations and queries

What an Owner authorizes a workload to do, what an Authority is asked for, and
what it is told to decide.  Each of these documents has an array that is a set, and
each checks that before it checks what the array holds.
-/

namespace EidolonSdk
namespace DeviceFoundation

open Python Pydantic

/-!
## Actors of any kind
-/

inductive PrincipalType where
  | controller
  | device
  | service
  | operator
  deriving DecidableEq

def PrincipalType.word : PrincipalType -> String
  | .controller => "controller"
  | .device => "device"
  | .service => "service"
  | .operator => "operator"

def PrincipalType.wire : Wire PrincipalType :=
  Wire.word [.controller, .device, .service, .operator] word
    (by intro kind; cases kind <;> decide) (by decide)

def optionalOwner : Wire (Option OwnerDomainId) :=
  (nominal "owner-").nullable fun _ => rfl

structure ActorRef where
  principalId : ConStr identifierRule
  principalType : PrincipalType
  ownerDomainId : Option OwnerDomainId
  grantedScopes : GrantedScopes
  authenticationStrength : AuthenticationStrength

namespace ActorRef

def fieldNames : List String :=
  ["principal_id", "principal_type", "owner_domain_id", "granted_scopes",
    "authentication_strength"]

/-- `ActorRef.model_validate`. -/
def validate : Validator ActorRef :=
  validModel fun members =>
    ((required members "principal_id" (validStr identifierRule)).both
      ((required members "principal_type" PrincipalType.wire.validate).both
        ((withDefault members "owner_domain_id" none
            optionalOwner.validate).both
          ((required members "granted_scopes" validScopes).both
            ((required members "authentication_strength"
                (validWord AuthenticationStrength.words)).both
              (onlyMembers members fieldNames)))))).map
      fun (principal, kind, owner, scopes, strength, _) =>
        ⟨principal, kind, owner, scopes, strength⟩

end ActorRef

/-!
## Authorizations
-/

inductive AuthorizationScope where
  | deviceRead
  | deviceClaimRevoke
  deriving DecidableEq

def AuthorizationScope.word : AuthorizationScope -> String
  | .deviceRead => "device.read"
  | .deviceClaimRevoke => "device.claim.revoke"

def AuthorizationScope.wire : Wire AuthorizationScope :=
  Wire.word [.deviceRead, .deviceClaimRevoke] word
    (by intro scope; cases scope <;> decide) (by decide)

/-- `min_length=1`. -/
def nonEmptyRule : LengthRule :=
  { least := 1 }

/-- `OwnerAuthorizationContext._coherent`. -/
structure CoherentAuthorization (actor : ActorRef)
    (authorizedOwnerDomainId : OwnerDomainId)
    (scopes : List AuthorizationScope) (targetDeviceRef : DeviceRef)
    (issuedAt expiresAt : Instant) : Prop where
  window : issuedAt.val < expiresAt.val
  target : authorizedOwnerDomainId = targetDeviceRef.ownerDomainId
  owner : forall owner, owner ∈ actor.ownerDomainId ->
    owner = authorizedOwnerDomainId
  revokes : AuthorizationScope.deviceClaimRevoke ∈ scopes
  granted : forall scope, scope ∈ scopes ->
    str scope.word ∈ actor.grantedScopes.val

instance (actor : ActorRef) (authorizedOwnerDomainId : OwnerDomainId)
    (scopes : List AuthorizationScope) (targetDeviceRef : DeviceRef)
    (issuedAt expiresAt : Instant) :
    Decidable (CoherentAuthorization actor authorizedOwnerDomainId scopes
      targetDeviceRef issuedAt expiresAt) :=
  decidable_of_iff
    (issuedAt.val < expiresAt.val ∧
      authorizedOwnerDomainId = targetDeviceRef.ownerDomainId ∧
      (forall owner, owner ∈ actor.ownerDomainId ->
        owner = authorizedOwnerDomainId) ∧
      AuthorizationScope.deviceClaimRevoke ∈ scopes ∧
      forall scope, scope ∈ scopes ->
        str scope.word ∈ actor.grantedScopes.val)
    ⟨fun h => ⟨h.1, h.2.1, h.2.2.1, h.2.2.2.1, h.2.2.2.2⟩,
      fun h => ⟨h.window, h.target, h.owner, h.revokes, h.granted⟩⟩

structure OwnerAuthorizationContext where
  workloadPrincipalId : ConStr identifierRule
  actor : ActorRef
  authorizedOwnerDomainId : OwnerDomainId
  scopes : UniqueTuple nonEmptyRule AuthorizationScope
  intentId : ConStr identifierRule
  targetDeviceRef : DeviceRef
  issuedAt : Instant
  expiresAt : Instant
  coherent : CoherentAuthorization actor authorizedOwnerDomainId scopes.val
    targetDeviceRef issuedAt expiresAt

namespace OwnerAuthorizationContext

def fieldNames : List String :=
  ["workload_principal_id", "actor", "authorized_owner_domain_id", "audience",
    "scopes", "intent_id", "target_device_ref", "issued_at", "expires_at"]

/-- `OwnerAuthorizationContext.model_validate`. -/
def validate : Validator OwnerAuthorizationContext :=
  validModel fun members => do
    let (workload, actor, owner, _, scopes, intent, target, issuedAt,
        expiresAt, _) ←
      (required members "workload_principal_id" (validStr identifierRule)).both
        ((required members "actor" ActorRef.validate).both
          ((required members "authorized_owner_domain_id"
              (nominal "owner-").validate).both
            ((withDefault members "audience" ()
                (Wire.literal "eidolon-admission").validate).both
              ((required members "scopes"
                  (validUnique nonEmptyRule
                    AuthorizationScope.wire.validate)).both
                ((required members "intent_id" (validStr identifierRule)).both
                  ((required members "target_device_ref"
                      DeviceRef.wire.validate).both
                    ((required members "issued_at"
                        Wire.instant.validate).both
                      ((required members "expires_at"
                          Wire.instant.validate).both
                        (onlyMembers members fieldNames)))))))))
    if h : CoherentAuthorization actor owner scopes.val target issuedAt
        expiresAt then
      .ok ⟨workload, actor, owner, scopes, intent, target, issuedAt, expiresAt, h⟩
    else .error .invalid

end OwnerAuthorizationContext

/-!
## Queries
-/

abbrev PageLimit := { n : Int // 1 ≤ n ∧ n ≤ 200 }

def validLimit : Validator PageLimit
  | .int n => if h : 1 ≤ n ∧ n ≤ 200 then .ok ⟨n, h⟩ else .error .invalid
  | _ => .error .invalid

/-- A query for what is in one of these states. -/
structure StateQuery (α : Type) where
  ownerDomainId : OwnerDomainId
  states : UniqueTuple nonEmptyRule α
  cursor : Option AdmissionListCursor
  limit : PageLimit
  scope : forall c, c ∈ cursor -> c.ownerDomainId = ownerDomainId

namespace StateQuery

def fieldNames : List String :=
  ["owner_domain_id", "states", "cursor", "limit"]

def validate {α : Type} [DecidableEq α] (wire : Wire α) :
    Validator (StateQuery α) :=
  validModel fun members => do
    let (owner, states, cursor, limit, _) ←
      (required members "owner_domain_id" (nominal "owner-").validate).both
        ((required members "states"
            (validUnique nonEmptyRule wire.validate)).both
          ((required members "cursor"
              EnrollmentProposalPage.optionalCursor.validate).both
            ((required members "limit" validLimit).both
              (onlyMembers members fieldNames))))
    if h : forall c, c ∈ cursor -> c.ownerDomainId = owner then
      .ok ⟨owner, states, cursor, limit, h⟩
    else .error .invalid

end StateQuery

abbrev EnrollmentProposalQuery := StateQuery EnrollmentProposalState

def EnrollmentProposalQuery.validate : Validator EnrollmentProposalQuery :=
  StateQuery.validate EnrollmentProposalState.wire

abbrev ClaimQuery := StateQuery ClaimState

def ClaimQuery.validate : Validator ClaimQuery :=
  StateQuery.validate ClaimState.wire

/-!
## Decisions
-/

/-- `dict[str, Any] | None`. -/
def validAssignmentIntent : Validator (Option Members)
  | .null => .ok none
  | .object members => .ok (some members)
  | _ => .error .invalid

def anyLengthRule : LengthRule := {}

structure DecideEnrollment where
  enrollmentId : ConStr nameRule
  expectedProposalRevision : IntFrom 1
  decision : Verdict
  targetOwnerDomainId : OwnerDomainId
  targetBusinessOwnerId : BusinessOwnerId
  targetSpaceId : Option (ConStr nameRule)
  reviewedManifestRef : ManifestRef
  initialAssignmentIntent : Option Members
  initialCapabilityPolicyRefs : UniqueTuple anyLengthRule PyStr

namespace DecideEnrollment

def fieldNames : List String :=
  ["enrollment_id", "expected_proposal_revision", "decision",
    "target_owner_domain_id", "target_business_owner_id", "target_space_id",
    "reviewed_manifest_ref", "initial_assignment_intent",
    "initial_capability_policy_refs"]

/-- `DecideEnrollment.model_validate`. -/
def validate : Validator DecideEnrollment :=
  validModel fun members =>
    ((required members "enrollment_id" (Wire.text nameRule).validate).both
      ((required members "expected_proposal_revision"
          (Wire.integer 1).validate).both
        ((required members "decision" Verdict.wire.validate).both
          ((required members "target_owner_domain_id"
              (nominal "owner-").validate).both
            ((required members "target_business_owner_id"
                (nominal "owner_").validate).both
              ((withDefault members "target_space_id" none
                  (optionalText nameRule).validate).both
                ((required members "reviewed_manifest_ref"
                    ManifestRef.wire.validate).both
                  ((withDefault members "initial_assignment_intent" none
                      validAssignmentIntent).both
                    ((withDefault members "initial_capability_policy_refs"
                        ⟨[], by decide⟩
                        (validUnique anyLengthRule
                          Wire.anyText.validate)).both
                      (onlyMembers members fieldNames)))))))))).map
      fun (enrollment, revision, decision, owner, business, space, manifest,
          intent, policies, _) =>
        ⟨enrollment, revision, decision, owner, business, space, manifest,
          intent, policies⟩

end DecideEnrollment

end DeviceFoundation
end EidolonSdk
