import EidolonSdk.DeviceFoundation.References

/-!
# Admission

Proposals, what was decided about them, what was delivered and claimed, and the
pages an Authority answers a query with.  A model checks more than its fields:
deadlines follow, owner domains agree, a delivery is acknowledged when it says
so.  Those checks are fields here, and validation has them to prove.
-/

namespace EidolonSdk
namespace DeviceFoundation

open Python Pydantic

/-!
## States
-/

inductive EnrollmentProposalState where
  | pendingReview
  | approvedAwaitingHandoff
  | grantDelivered
  | grantAcknowledged
  | rejected
  | expired
  | canceled
  | claimRevoked
  deriving DecidableEq

def EnrollmentProposalState.value : EnrollmentProposalState -> String
  | .pendingReview => "pending_review"
  | .approvedAwaitingHandoff => "approved_awaiting_handoff"
  | .grantDelivered => "grant_delivered"
  | .grantAcknowledged => "grant_acknowledged"
  | .rejected => "rejected"
  | .expired => "expired"
  | .canceled => "canceled"
  | .claimRevoked => "claim_revoked"

def EnrollmentProposalState.wire : Wire EnrollmentProposalState :=
  Wire.word
    [.pendingReview, .approvedAwaitingHandoff, .grantDelivered,
      .grantAcknowledged, .rejected, .expired, .canceled, .claimRevoked]
    value (by intro state; cases state <;> decide) (by decide)

inductive ClaimState where
  | active
  | suspended
  | revoked
  deriving DecidableEq

def ClaimState.value : ClaimState -> String
  | .active => "active"
  | .suspended => "suspended"
  | .revoked => "revoked"

def ClaimState.wire : Wire ClaimState :=
  Wire.word [.active, .suspended, .revoked] value
    (by intro state; cases state <;> decide) (by decide)

inductive Verdict where
  | approve
  | reject
  deriving DecidableEq

def Verdict.value : Verdict -> String
  | .approve => "approve"
  | .reject => "reject"

def Verdict.wire : Wire Verdict :=
  Wire.word [.approve, .reject] value
    (by intro verdict; cases verdict <;> decide) (by decide)

inductive DeliveryState where
  | delivered
  | acknowledged
  deriving DecidableEq

def DeliveryState.value : DeliveryState -> String
  | .delivered => "delivered"
  | .acknowledged => "acknowledged"

def DeliveryState.wire : Wire DeliveryState :=
  Wire.word [.delivered, .acknowledged] value
    (by intro state; cases state <;> decide) (by decide)

/-!
## Proposals
-/

structure EnrollmentProposal where
  enrollmentId : ConStr nameRule
  proposalRevision : IntFrom 1
  state : EnrollmentProposalState
  deviceInstanceCandidateId : DeviceInstanceId
  requestedOwnerDomainId : OwnerDomainId
  hardwareEvidenceDigest : ConStr digestRule
  manifestRef : ManifestRef
  handoffKeyId : ConStr digestRule
  createdAt : Instant
  expiresAt : Instant
  deadline : createdAt.val < expiresAt.val

namespace EnrollmentProposal

def dump (proposal : EnrollmentProposal) : Json :=
  .object
    [(str "enrollment_id", (Wire.text nameRule).dump proposal.enrollmentId),
      (str "proposal_revision",
        (Wire.integer 1).dump proposal.proposalRevision),
      (str "state", EnrollmentProposalState.wire.dump proposal.state),
      (str "device_instance_candidate_id",
        (Wire.text deviceInstanceIdRule).dump
          proposal.deviceInstanceCandidateId),
      (str "requested_owner_domain_id",
        (nominal "owner-").dump proposal.requestedOwnerDomainId),
      (str "hardware_evidence_digest",
        (Wire.text digestRule).dump proposal.hardwareEvidenceDigest),
      (str "manifest_ref", ManifestRef.wire.dump proposal.manifestRef),
      (str "handoff_key_id", (Wire.text digestRule).dump proposal.handoffKeyId),
      (str "created_at", Wire.instant.dump proposal.createdAt),
      (str "expires_at", Wire.instant.dump proposal.expiresAt)]

def fieldNames : List String :=
  ["enrollment_id", "proposal_revision", "state",
    "device_instance_candidate_id", "requested_owner_domain_id",
    "hardware_evidence_digest", "manifest_ref", "handoff_key_id", "created_at",
    "expires_at"]

def validate : Validator EnrollmentProposal :=
  validModel fun members => do
    let (enrollment, revision, state, candidate, owner, evidence, manifest,
        handoff, createdAt, expiresAt, _) ←
      (required members "enrollment_id" (Wire.text nameRule).validate).both
        ((required members "proposal_revision" (Wire.integer 1).validate).both
          ((required members "state"
              EnrollmentProposalState.wire.validate).both
            ((required members "device_instance_candidate_id"
                (Wire.text deviceInstanceIdRule).validate).both
              ((required members "requested_owner_domain_id"
                  (nominal "owner-").validate).both
                ((required members "hardware_evidence_digest"
                    (Wire.text digestRule).validate).both
                  ((required members "manifest_ref"
                      ManifestRef.wire.validate).both
                    ((required members "handoff_key_id"
                        (Wire.text digestRule).validate).both
                      ((required members "created_at"
                          Wire.instant.validate).both
                        ((required members "expires_at"
                            Wire.instant.validate).both
                          (onlyMembers members fieldNames))))))))))
    if h : createdAt.val < expiresAt.val then
      .ok ⟨enrollment, revision, state, candidate, owner, evidence, manifest,
        handoff, createdAt, expiresAt, h⟩
    else .error .invalid

theorem validate_dump (proposal : EnrollmentProposal) :
    validate proposal.dump = .ok proposal := by
  simp [validate, validModel, dump, required, Wire.validate_dump, onlyMembers,
    fieldNames, Validated.both_ok, Logic.ok_bind]
  exact dif_pos proposal.deadline

def wire : Wire EnrollmentProposal where
  dump := dump
  validate := validate
  validate_dump := validate_dump

end EnrollmentProposal

/-!
## Decisions
-/

structure ApprovalDecision where
  decisionId : ConStr nameRule
  enrollmentId : ConStr nameRule
  decision : Verdict
  actor : ControllerActorRef
  targetOwnerDomainId : OwnerDomainId
  targetBusinessOwnerId : BusinessOwnerId
  reviewedManifestRef : ManifestRef
  expectedProposalRevision : IntFrom 1
  decidedAt : Instant
  owner_scope : actor.ownerDomainId = targetOwnerDomainId

namespace ApprovalDecision

def dump (decision : ApprovalDecision) : Json :=
  .object
    [(str "decision_id", (Wire.text nameRule).dump decision.decisionId),
      (str "enrollment_id", (Wire.text nameRule).dump decision.enrollmentId),
      (str "decision", Verdict.wire.dump decision.decision),
      (str "actor", ControllerActorRef.wire.dump decision.actor),
      (str "target_owner_domain_id",
        (nominal "owner-").dump decision.targetOwnerDomainId),
      (str "target_business_owner_id",
        (nominal "owner_").dump decision.targetBusinessOwnerId),
      (str "reviewed_manifest_ref",
        ManifestRef.wire.dump decision.reviewedManifestRef),
      (str "expected_proposal_revision",
        (Wire.integer 1).dump decision.expectedProposalRevision),
      (str "decided_at", Wire.instant.dump decision.decidedAt)]

def fieldNames : List String :=
  ["decision_id", "enrollment_id", "decision", "actor",
    "target_owner_domain_id", "target_business_owner_id",
    "reviewed_manifest_ref", "expected_proposal_revision", "decided_at"]

def validate : Validator ApprovalDecision :=
  validModel fun members => do
    let (decisionId, enrollment, verdict, actor, owner, business, manifest,
        revision, decidedAt, _) ←
      (required members "decision_id" (Wire.text nameRule).validate).both
        ((required members "enrollment_id" (Wire.text nameRule).validate).both
          ((required members "decision" Verdict.wire.validate).both
            ((required members "actor"
                ControllerActorRef.wire.validate).both
              ((required members "target_owner_domain_id"
                  (nominal "owner-").validate).both
                ((required members "target_business_owner_id"
                    (nominal "owner_").validate).both
                  ((required members "reviewed_manifest_ref"
                      ManifestRef.wire.validate).both
                    ((required members "expected_proposal_revision"
                        (Wire.integer 1).validate).both
                      ((required members "decided_at"
                          Wire.instant.validate).both
                        (onlyMembers members fieldNames)))))))))
    if h : actor.ownerDomainId = owner then
      .ok ⟨decisionId, enrollment, verdict, actor, owner, business, manifest,
        revision, decidedAt, h⟩
    else .error .invalid

theorem validate_dump (decision : ApprovalDecision) :
    validate decision.dump = .ok decision := by
  simp [validate, validModel, dump, required, Wire.validate_dump, onlyMembers,
    fieldNames, Validated.both_ok, Logic.ok_bind]
  exact dif_pos decision.owner_scope

def wire : Wire ApprovalDecision where
  dump := dump
  validate := validate
  validate_dump := validate_dump

end ApprovalDecision

/-!
## Deliveries and claims
-/

/-- A delivery is acknowledged exactly when it says when, and not before it was
made. -/
def CoherentDelivery (state : DeliveryState) (deliveredAt : Instant)
    (acknowledgedAt : Option Instant) : Prop :=
  (state = .acknowledged <-> acknowledgedAt.isSome = true) ∧
    forall at', at' ∈ acknowledgedAt -> deliveredAt.val ≤ at'.val

instance (state : DeliveryState) (deliveredAt : Instant)
    (acknowledgedAt : Option Instant) :
    Decidable (CoherentDelivery state deliveredAt acknowledgedAt) :=
  inferInstanceAs (Decidable (_ ∧ _))

structure GrantDeliveryRecord where
  grantId : ConStr nameRule
  approvalDecisionId : ConStr nameRule
  state : DeliveryState
  deliveredAt : Instant
  acknowledgedAt : Option Instant
  coherent : CoherentDelivery state deliveredAt acknowledgedAt

namespace GrantDeliveryRecord

def optionalInstant : Wire (Option Instant) :=
  Wire.instant.nullable fun _ => rfl

def dump (delivery : GrantDeliveryRecord) : Json :=
  .object
    [(str "grant_id", (Wire.text nameRule).dump delivery.grantId),
      (str "approval_decision_id",
        (Wire.text nameRule).dump delivery.approvalDecisionId),
      (str "state", DeliveryState.wire.dump delivery.state),
      (str "delivered_at", Wire.instant.dump delivery.deliveredAt),
      (str "acknowledged_at", optionalInstant.dump delivery.acknowledgedAt)]

def fieldNames : List String :=
  ["grant_id", "approval_decision_id", "state", "delivered_at",
    "acknowledged_at"]

def validate : Validator GrantDeliveryRecord :=
  validModel fun members => do
    let (grant, decision, state, deliveredAt, acknowledgedAt, _) ←
      (required members "grant_id" (Wire.text nameRule).validate).both
        ((required members "approval_decision_id"
            (Wire.text nameRule).validate).both
          ((required members "state" DeliveryState.wire.validate).both
            ((required members "delivered_at" Wire.instant.validate).both
              ((required members "acknowledged_at"
                  optionalInstant.validate).both
                (onlyMembers members fieldNames)))))
    if h : CoherentDelivery state deliveredAt acknowledgedAt then
      .ok ⟨grant, decision, state, deliveredAt, acknowledgedAt, h⟩
    else .error .invalid

theorem validate_dump (delivery : GrantDeliveryRecord) :
    validate delivery.dump = .ok delivery := by
  simp [validate, validModel, dump, required, Wire.validate_dump, onlyMembers,
    fieldNames, Validated.both_ok, Logic.ok_bind]
  exact dif_pos delivery.coherent

def wire : Wire GrantDeliveryRecord where
  dump := dump
  validate := validate
  validate_dump := validate_dump

end GrantDeliveryRecord

structure ClaimRecord where
  deviceRef : DeviceRef
  businessOwnerId : BusinessOwnerId
  manifestRef : ManifestRef
  state : ClaimState
  revision : IntFrom 1
  updatedAt : Instant

namespace ClaimRecord

def dump (claim : ClaimRecord) : Json :=
  .object
    [(str "device_ref", DeviceRef.wire.dump claim.deviceRef),
      (str "business_owner_id", (nominal "owner_").dump claim.businessOwnerId),
      (str "manifest_ref", ManifestRef.wire.dump claim.manifestRef),
      (str "state", ClaimState.wire.dump claim.state),
      (str "revision", (Wire.integer 1).dump claim.revision),
      (str "updated_at", Wire.instant.dump claim.updatedAt)]

def fieldNames : List String :=
  ["device_ref", "business_owner_id", "manifest_ref", "state", "revision",
    "updated_at"]

def validate : Validator ClaimRecord :=
  validModel fun members =>
    ((required members "device_ref" DeviceRef.wire.validate).both
      ((required members "business_owner_id" (nominal "owner_").validate).both
        ((required members "manifest_ref" ManifestRef.wire.validate).both
          ((required members "state" ClaimState.wire.validate).both
            ((required members "revision" (Wire.integer 1).validate).both
              ((required members "updated_at" Wire.instant.validate).both
                (onlyMembers members fieldNames))))))).map
      fun (device, owner, manifest, state, revision, updatedAt, _) =>
        ⟨device, owner, manifest, state, revision, updatedAt⟩

theorem validate_dump (claim : ClaimRecord) :
    validate claim.dump = .ok claim := by
  simp [validate, validModel, dump, required, Wire.validate_dump, onlyMembers,
    fieldNames, Validated.both_ok, Except.map]

def wire : Wire ClaimRecord where
  dump := dump
  validate := validate
  validate_dump := validate_dump

end ClaimRecord

/-!
## Recovery projections
-/

/-- The decision is about the proposal, and everything is of one owner
domain. -/
def ProjectionScope (proposal : EnrollmentProposal)
    (approvalDecision : Option ApprovalDecision)
    (claim : Option ClaimRecord) : Prop :=
  (forall decision, decision ∈ approvalDecision ->
    decision.enrollmentId = proposal.enrollmentId ∧
      decision.targetOwnerDomainId = proposal.requestedOwnerDomainId) ∧
  forall record, record ∈ claim ->
    record.deviceRef.ownerDomainId = proposal.requestedOwnerDomainId

instance (proposal : EnrollmentProposal)
    (approvalDecision : Option ApprovalDecision) (claim : Option ClaimRecord) :
    Decidable (ProjectionScope proposal approvalDecision claim) :=
  inferInstanceAs (Decidable (_ ∧ _))

structure EnrollmentRecoveryProjection where
  proposal : EnrollmentProposal
  approvalDecision : Option ApprovalDecision
  grantDelivery : Option GrantDeliveryRecord
  claim : Option ClaimRecord
  sourceRevision : IntFrom 1
  observedAt : Instant
  scope : ProjectionScope proposal approvalDecision claim

namespace EnrollmentRecoveryProjection

def optionalDecision : Wire (Option ApprovalDecision) :=
  ApprovalDecision.wire.nullable fun _ => rfl

def optionalDelivery : Wire (Option GrantDeliveryRecord) :=
  GrantDeliveryRecord.wire.nullable fun _ => rfl

def optionalClaim : Wire (Option ClaimRecord) :=
  ClaimRecord.wire.nullable fun _ => rfl

def dump (projection : EnrollmentRecoveryProjection) : Json :=
  .object
    [(str "proposal", EnrollmentProposal.wire.dump projection.proposal),
      (str "approval_decision",
        optionalDecision.dump projection.approvalDecision),
      (str "grant_delivery", optionalDelivery.dump projection.grantDelivery),
      (str "claim", optionalClaim.dump projection.claim),
      (str "source_revision",
        (Wire.integer 1).dump projection.sourceRevision),
      (str "observed_at", Wire.instant.dump projection.observedAt)]

def fieldNames : List String :=
  ["proposal", "approval_decision", "grant_delivery", "claim",
    "source_revision", "observed_at"]

def validate : Validator EnrollmentRecoveryProjection :=
  validModel fun members => do
    let (proposal, decision, delivery, claim, revision, observedAt, _) ←
      (required members "proposal" EnrollmentProposal.wire.validate).both
        ((required members "approval_decision" optionalDecision.validate).both
          ((required members "grant_delivery" optionalDelivery.validate).both
            ((required members "claim" optionalClaim.validate).both
              ((required members "source_revision"
                  (Wire.integer 1).validate).both
                ((required members "observed_at" Wire.instant.validate).both
                  (onlyMembers members fieldNames))))))
    if h : ProjectionScope proposal decision claim then
      .ok ⟨proposal, decision, delivery, claim, revision, observedAt, h⟩
    else .error .invalid

theorem validate_dump (projection : EnrollmentRecoveryProjection) :
    validate projection.dump = .ok projection := by
  simp [validate, validModel, dump, required, Wire.validate_dump, onlyMembers,
    fieldNames, Validated.both_ok, Logic.ok_bind]
  exact dif_pos projection.scope

def wire : Wire EnrollmentRecoveryProjection where
  dump := dump
  validate := validate
  validate_dump := validate_dump

end EnrollmentRecoveryProjection

/-!
## Pages
-/

structure AdmissionListCursor where
  ownerDomainId : OwnerDomainId
  sortKey : Instant
  resourceId : ConStr nameRule

namespace AdmissionListCursor

def dump (cursor : AdmissionListCursor) : Json :=
  .object
    [(str "owner_domain_id", (nominal "owner-").dump cursor.ownerDomainId),
      (str "sort_key", Wire.instant.dump cursor.sortKey),
      (str "resource_id", (Wire.text nameRule).dump cursor.resourceId)]

def fieldNames : List String :=
  ["owner_domain_id", "sort_key", "resource_id"]

def validate : Validator AdmissionListCursor :=
  validModel fun members =>
    ((required members "owner_domain_id" (nominal "owner-").validate).both
      ((required members "sort_key" Wire.instant.validate).both
        ((required members "resource_id" (Wire.text nameRule).validate).both
          (onlyMembers members fieldNames)))).map
      fun (owner, sortKey, resource, _) => ⟨owner, sortKey, resource⟩

theorem validate_dump (cursor : AdmissionListCursor) :
    validate cursor.dump = .ok cursor := by
  simp [validate, validModel, dump, required, Wire.validate_dump, onlyMembers,
    fieldNames, Validated.both_ok, Except.map]

def wire : Wire AdmissionListCursor where
  dump := dump
  validate := validate
  validate_dump := validate_dump

end AdmissionListCursor

def itemsRule : LengthRule :=
  { most := some 200 }

/-- One owner domain a page. -/
def PageScope (ownerDomainId : OwnerDomainId)
    (items : List EnrollmentRecoveryProjection)
    (nextCursor : Option AdmissionListCursor) : Prop :=
  (forall cursor, cursor ∈ nextCursor ->
    cursor.ownerDomainId = ownerDomainId) ∧
  forall item, item ∈ items ->
    item.proposal.requestedOwnerDomainId = ownerDomainId

instance (ownerDomainId : OwnerDomainId)
    (items : List EnrollmentRecoveryProjection)
    (nextCursor : Option AdmissionListCursor) :
    Decidable (PageScope ownerDomainId items nextCursor) :=
  inferInstanceAs (Decidable (_ ∧ _))

structure EnrollmentProposalPage where
  ownerDomainId : OwnerDomainId
  items : Tuple itemsRule EnrollmentRecoveryProjection
  nextCursor : Option AdmissionListCursor
  observedAt : Instant
  scope : PageScope ownerDomainId items.val nextCursor

namespace EnrollmentProposalPage

def itemsWire : Wire (Tuple itemsRule EnrollmentRecoveryProjection) :=
  Wire.tuple itemsRule EnrollmentRecoveryProjection.wire

def optionalCursor : Wire (Option AdmissionListCursor) :=
  AdmissionListCursor.wire.nullable fun _ => rfl

def dump (page : EnrollmentProposalPage) : Json :=
  .object
    [(str "owner_domain_id", (nominal "owner-").dump page.ownerDomainId),
      (str "items", itemsWire.dump page.items),
      (str "next_cursor", optionalCursor.dump page.nextCursor),
      (str "observed_at", Wire.instant.dump page.observedAt)]

def fieldNames : List String :=
  ["owner_domain_id", "items", "next_cursor", "observed_at"]

def validate : Validator EnrollmentProposalPage :=
  validModel fun members => do
    let (owner, items, cursor, observedAt, _) ←
      (required members "owner_domain_id" (nominal "owner-").validate).both
        ((withDefault members "items" ⟨[], by decide⟩ itemsWire.validate).both
          ((required members "next_cursor" optionalCursor.validate).both
            ((required members "observed_at" Wire.instant.validate).both
              (onlyMembers members fieldNames))))
    if h : PageScope owner items.val cursor then
      .ok ⟨owner, items, cursor, observedAt, h⟩
    else .error .invalid

theorem validate_dump (page : EnrollmentProposalPage) :
    validate page.dump = .ok page := by
  simp [validate, validModel, dump, required, withDefault, Wire.validate_dump,
    onlyMembers, fieldNames, Validated.both_ok, Logic.ok_bind]
  exact dif_pos page.scope

end EnrollmentProposalPage

end DeviceFoundation
end EidolonSdk
