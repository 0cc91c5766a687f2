import EidolonSdk.DeviceFoundation.References

/-!
# Bodies

Which companion answers through which body, as the authority reports it.  The
arrays of these documents are sets: a validator that runs before the types are
checked refuses one that names an item twice.
-/

namespace EidolonSdk
namespace DeviceFoundation

open Python Pydantic

/-!
## Arrays that are sets
-/

abbrev UniqueTuple (rule : LengthRule) (α : Type) :=
  { items : List α // rule.Accepts items ∧ items.Nodup }

section Unique

variable {α : Type}

/-- `_unique_tuple`, and then the tuple.  Equal items of a valid tuple are equal
as JSON, so the last check never refuses what the first let through. -/
def validUnique [DecidableEq α] (rule : LengthRule) (validate : Validator α) :
    Validator (UniqueTuple rule α)
  | .array items =>
      match allDistinct items with
      | .error e => .error (.raised e)
      | .ok false => .error .invalid
      | .ok true => do
          let values ← validTuple rule validate (.array items)
          if h : values.val.Nodup then .ok ⟨values.val, values.property, h⟩
          else .error .invalid
  | _ => .error .invalid

theorem allDistinct_dump (wire : Wire α)
    (htext : forall a, exists s, wire.dump a = .str s) {items : List α}
    (h : items.Nodup) : allDistinct (items.map wire.dump) = .ok true := by
  apply allDistinct_ok.mpr
  constructor
  · intro item hitem
    rcases List.mem_map.mp hitem with ⟨a, _, rfl⟩
    rcases htext a with ⟨s, hs⟩
    rw [hs, Json.hashKey_str]
    rfl
  · rw [List.map_map]
    apply h.map_on
    intro a _ b _ hkey
    rcases htext a with ⟨s, hs⟩
    rcases htext b with ⟨t, ht⟩
    simp only [Function.comp_apply, hs, ht, Json.hashKey_str] at hkey
    apply wire.dump_injective
    rw [hs, ht]
    injection hkey with hkey
    injection hkey with hkey
    rw [hkey]

def uniqueTuple [DecidableEq α] (rule : LengthRule) (wire : Wire α)
    (htext : forall a, exists s, wire.dump a = .str s) :
    Wire (UniqueTuple rule α) where
  dump items := .array (items.val.map wire.dump)
  validate := validUnique rule wire.validate
  validate_dump items := by
    rcases items with ⟨items, haccepts, hnodup⟩
    have htuple := (Wire.tuple rule wire).validate_dump ⟨items, haccepts⟩
    have hvalid : validTuple rule wire.validate (.array (items.map wire.dump)) =
        .ok ⟨items, haccepts⟩ := htuple
    unfold validUnique
    simp only [allDistinct_dump wire htext hnodup, hvalid, Logic.ok_bind]
    exact dif_pos hnodup

end Unique

/-!
## Words
-/

inductive AssignmentMode where
  | default
  deriving DecidableEq

def AssignmentMode.value : AssignmentMode -> String
  | .default => "default"

def AssignmentMode.wire : Wire AssignmentMode :=
  Wire.word [.default] value
    (by intro mode; cases mode; decide) (by decide)

inductive SelectionProvenance where
  | userSelected
  | userCleared
  | companionDeleted
  | policyReconciled
  deriving DecidableEq

def SelectionProvenance.value : SelectionProvenance -> String
  | .userSelected => "user_selected"
  | .userCleared => "user_cleared"
  | .companionDeleted => "companion_deleted"
  | .policyReconciled => "policy_reconciled"

def SelectionProvenance.wire : Wire SelectionProvenance :=
  Wire.word
    [.userSelected, .userCleared, .companionDeleted, .policyReconciled]
    value (by intro provenance; cases provenance <;> decide) (by decide)

inductive AssignmentCondition where
  | realized
  | companionMissing
  | capabilityMissing
  | policyDenied
  deriving DecidableEq

def AssignmentCondition.value : AssignmentCondition -> String
  | .realized => "Realized"
  | .companionMissing => "CompanionMissing"
  | .capabilityMissing => "CapabilityMissing"
  | .policyDenied => "PolicyDenied"

def AssignmentCondition.wire : Wire AssignmentCondition :=
  Wire.word
    [.realized, .companionMissing, .capabilityMissing, .policyDenied]
    value (by intro condition; cases condition <;> decide) (by decide)

inductive BodyRole where
  | body
  | sensor
  | actuator
  | gateway
  | controller
  deriving DecidableEq

def BodyRole.value : BodyRole -> String
  | .body => "body"
  | .sensor => "sensor"
  | .actuator => "actuator"
  | .gateway => "gateway"
  | .controller => "controller"

def BodyRole.wire : Wire BodyRole :=
  Wire.word [.body, .sensor, .actuator, .gateway, .controller] value
    (by intro role; cases role <;> decide) (by decide)

inductive AssignmentPolicy where
  | required
  | optional
  | forbidden
  deriving DecidableEq

def AssignmentPolicy.value : AssignmentPolicy -> String
  | .required => "required"
  | .optional => "optional"
  | .forbidden => "forbidden"

def AssignmentPolicy.wire : Wire AssignmentPolicy :=
  Wire.word [.required, .optional, .forbidden] value
    (by intro policy; cases policy <;> decide) (by decide)

inductive RiskClass where
  | safe
  | sensitive
  | hazardous
  deriving DecidableEq

def RiskClass.value : RiskClass -> String
  | .safe => "safe"
  | .sensitive => "sensitive"
  | .hazardous => "hazardous"

def RiskClass.wire : Wire RiskClass :=
  Wire.word [.safe, .sensitive, .hazardous] value
    (by intro risk; cases risk <;> decide) (by decide)

inductive Concurrency where
  | shared
  | exclusive
  | leased
  deriving DecidableEq

def Concurrency.value : Concurrency -> String
  | .shared => "shared"
  | .exclusive => "exclusive"
  | .leased => "leased"

def Concurrency.wire : Wire Concurrency :=
  Wire.word [.shared, .exclusive, .leased] value
    (by intro concurrency; cases concurrency <;> decide) (by decide)

inductive EndpointSource where
  | derived
  | manifest
  deriving DecidableEq

def EndpointSource.value : EndpointSource -> String
  | .derived => "derived"
  | .manifest => "manifest"

def EndpointSource.wire : Wire EndpointSource :=
  Wire.word [.derived, .manifest] value
    (by intro source; cases source <;> decide) (by decide)

/-!
## Assignments
-/

/-- `min_length=1` and an upper bound. -/
def boundedRule (most : Nat) : StrRule :=
  { minLength := 1, maxLength := some most }

def optionalText (rule : StrRule) : Wire (Option (ConStr rule)) :=
  (Wire.text rule).nullable fun _ => rfl

def conditionsWire : Wire (UniqueTuple {} AssignmentCondition) :=
  uniqueTuple {} AssignmentCondition.wire fun _ => ⟨_, rfl⟩

structure BodyAssignmentStatus where
  observedGeneration : IntFrom 1
  effectiveCompanionId : Option (ConStr (boundedRule 64))
  conditions : UniqueTuple {} AssignmentCondition

namespace BodyAssignmentStatus

def dump (status : BodyAssignmentStatus) : Json :=
  .object
    [(str "observed_generation",
        (Wire.integer 1).dump status.observedGeneration),
      (str "effective_companion_id",
        (optionalText (boundedRule 64)).dump status.effectiveCompanionId),
      (str "conditions", conditionsWire.dump status.conditions)]

def fieldNames : List String :=
  ["observed_generation", "effective_companion_id", "conditions"]

def validate : Validator BodyAssignmentStatus :=
  validModel fun members =>
    ((required members "observed_generation" (Wire.integer 1).validate).both
      ((required members "effective_companion_id"
          (optionalText (boundedRule 64)).validate).both
        ((required members "conditions" conditionsWire.validate).both
          (onlyMembers members fieldNames)))).map
      fun (generation, companion, conditions, _) =>
        ⟨generation, companion, conditions⟩

theorem validate_dump (status : BodyAssignmentStatus) :
    validate status.dump = .ok status := by
  simp [validate, validModel, dump, required, Wire.validate_dump, onlyMembers,
    fieldNames, Validated.both_ok, Except.map]

def wire : Wire BodyAssignmentStatus where
  dump := dump
  validate := validate
  validate_dump := validate_dump

end BodyAssignmentStatus

def policyRefsRule : LengthRule :=
  { most := some 16 }

def policyRefsWire : Wire (UniqueTuple policyRefsRule PyStr) :=
  uniqueTuple policyRefsRule Wire.anyText fun _ => ⟨_, rfl⟩

structure BodyAssignment where
  assignmentId : ConStr (boundedRule 160)
  bodyEndpointId : ConStr (boundedRule 128)
  deviceId : ConStr (boundedRule 128)
  endpointId : ConStr (boundedRule 64)
  ownerId : ConStr (boundedRule 64)
  companionId : Option (ConStr (boundedRule 64))
  selectionProvenance : SelectionProvenance
  changeReason : Option (ConStr (boundedRule 256))
  mode : AssignmentMode
  policyRefs : UniqueTuple policyRefsRule PyStr
  revision : IntFrom 1
  generation : IntFrom 1
  updatedAt : Instant
  status : BodyAssignmentStatus

namespace BodyAssignment

def dump (assignment : BodyAssignment) : Json :=
  .object
    [(str "operation", (Wire.literal "kernel.body-assignment").dump ()),
      (str "assignment_id",
        (Wire.text (boundedRule 160)).dump assignment.assignmentId),
      (str "body_endpoint_id",
        (Wire.text (boundedRule 128)).dump assignment.bodyEndpointId),
      (str "device_id", (Wire.text (boundedRule 128)).dump assignment.deviceId),
      (str "endpoint_id",
        (Wire.text (boundedRule 64)).dump assignment.endpointId),
      (str "owner_id", (Wire.text (boundedRule 64)).dump assignment.ownerId),
      (str "companion_id",
        (optionalText (boundedRule 64)).dump assignment.companionId),
      (str "selection_provenance",
        SelectionProvenance.wire.dump assignment.selectionProvenance),
      (str "change_reason",
        (optionalText (boundedRule 256)).dump assignment.changeReason),
      (str "mode", AssignmentMode.wire.dump assignment.mode),
      (str "policy_refs", policyRefsWire.dump assignment.policyRefs),
      (str "revision", (Wire.integer 1).dump assignment.revision),
      (str "generation", (Wire.integer 1).dump assignment.generation),
      (str "updated_at", Wire.instant.dump assignment.updatedAt),
      (str "status", BodyAssignmentStatus.wire.dump assignment.status)]

def fieldNames : List String :=
  ["operation", "assignment_id", "body_endpoint_id", "device_id", "endpoint_id",
    "owner_id", "companion_id", "selection_provenance", "change_reason", "mode",
    "policy_refs", "revision", "generation", "updated_at", "status"]

def validate : Validator BodyAssignment :=
  validModel fun members =>
    ((withDefault members "operation" ()
        (Wire.literal "kernel.body-assignment").validate).both
      ((required members "assignment_id"
          (Wire.text (boundedRule 160)).validate).both
        ((required members "body_endpoint_id"
            (Wire.text (boundedRule 128)).validate).both
          ((required members "device_id"
              (Wire.text (boundedRule 128)).validate).both
            ((required members "endpoint_id"
                (Wire.text (boundedRule 64)).validate).both
              ((required members "owner_id"
                  (Wire.text (boundedRule 64)).validate).both
                ((required members "companion_id"
                    (optionalText (boundedRule 64)).validate).both
                  ((required members "selection_provenance"
                      SelectionProvenance.wire.validate).both
                    ((required members "change_reason"
                        (optionalText (boundedRule 256)).validate).both
                      ((required members "mode"
                          AssignmentMode.wire.validate).both
                        ((required members "policy_refs"
                            policyRefsWire.validate).both
                          ((required members "revision"
                              (Wire.integer 1).validate).both
                            ((required members "generation"
                                (Wire.integer 1).validate).both
                              ((required members "updated_at"
                                  Wire.instant.validate).both
                                ((required members "status"
                                    BodyAssignmentStatus.wire.validate).both
                                  (onlyMembers members
                                    fieldNames)))))))))))))))).map
      fun (_, assignment, bodyEndpoint, device, endpoint, owner, companion,
          provenance, reason, mode, policies, revision, generation, updatedAt,
          status, _) =>
        ⟨assignment, bodyEndpoint, device, endpoint, owner, companion,
          provenance, reason, mode, policies, revision, generation, updatedAt,
          status⟩

theorem validate_dump (assignment : BodyAssignment) :
    validate assignment.dump = .ok assignment := by
  simp [validate, validModel, dump, required, withDefault, Wire.validate_dump,
    onlyMembers, fieldNames, Validated.both_ok, Except.map]

def wire : Wire BodyAssignment where
  dump := dump
  validate := validate
  validate_dump := validate_dump

end BodyAssignment

/-!
## Endpoints
-/

def rolesRule : LengthRule :=
  { least := 1, most := some 8 }

def rolesWire : Wire (UniqueTuple rolesRule BodyRole) :=
  uniqueTuple rolesRule BodyRole.wire fun _ => ⟨_, rfl⟩

structure BodyEndpoint where
  bodyEndpointId : ConStr (boundedRule 128)
  deviceId : ConStr (boundedRule 128)
  ownerId : ConStr (boundedRule 64)
  endpointId : ConStr (boundedRule 64)
  deviceRef : DeviceRef
  mountRevision : IntFrom 1
  roles : UniqueTuple rolesRule BodyRole
  assignmentPolicy : AssignmentPolicy
  riskClass : RiskClass
  concurrency : Concurrency
  source : EndpointSource
  present : Bool
  assignment : Option BodyAssignment

namespace BodyEndpoint

def optionalAssignment : Wire (Option BodyAssignment) :=
  BodyAssignment.wire.nullable fun _ => rfl

def dump (endpoint : BodyEndpoint) : Json :=
  .object
    [(str "operation", (Wire.literal "kernel.body-endpoint").dump ()),
      (str "body_endpoint_id",
        (Wire.text (boundedRule 128)).dump endpoint.bodyEndpointId),
      (str "device_id", (Wire.text (boundedRule 128)).dump endpoint.deviceId),
      (str "owner_id", (Wire.text (boundedRule 64)).dump endpoint.ownerId),
      (str "endpoint_id", (Wire.text (boundedRule 64)).dump endpoint.endpointId),
      (str "device_ref", DeviceRef.wire.dump endpoint.deviceRef),
      (str "mount_revision", (Wire.integer 1).dump endpoint.mountRevision),
      (str "roles", rolesWire.dump endpoint.roles),
      (str "assignment_policy",
        AssignmentPolicy.wire.dump endpoint.assignmentPolicy),
      (str "risk_class", RiskClass.wire.dump endpoint.riskClass),
      (str "concurrency", Concurrency.wire.dump endpoint.concurrency),
      (str "source", EndpointSource.wire.dump endpoint.source),
      (str "present", Wire.boolean.dump endpoint.present),
      (str "assignment", optionalAssignment.dump endpoint.assignment)]

def fieldNames : List String :=
  ["operation", "body_endpoint_id", "device_id", "owner_id", "endpoint_id",
    "device_ref", "mount_revision", "roles", "assignment_policy", "risk_class",
    "concurrency", "source", "present", "assignment"]

def validate : Validator BodyEndpoint :=
  validModel fun members =>
    ((withDefault members "operation" ()
        (Wire.literal "kernel.body-endpoint").validate).both
      ((required members "body_endpoint_id"
          (Wire.text (boundedRule 128)).validate).both
        ((required members "device_id"
            (Wire.text (boundedRule 128)).validate).both
          ((required members "owner_id"
              (Wire.text (boundedRule 64)).validate).both
            ((required members "endpoint_id"
                (Wire.text (boundedRule 64)).validate).both
              ((required members "device_ref" DeviceRef.wire.validate).both
                ((required members "mount_revision"
                    (Wire.integer 1).validate).both
                  ((required members "roles" rolesWire.validate).both
                    ((required members "assignment_policy"
                        AssignmentPolicy.wire.validate).both
                      ((required members "risk_class"
                          RiskClass.wire.validate).both
                        ((required members "concurrency"
                            Concurrency.wire.validate).both
                          ((required members "source"
                              EndpointSource.wire.validate).both
                            ((required members "present"
                                Wire.boolean.validate).both
                              ((required members "assignment"
                                  optionalAssignment.validate).both
                                (onlyMembers members
                                  fieldNames))))))))))))))).map
      fun (_, bodyEndpoint, device, owner, endpoint, deviceRef, mount, roles,
          policy, risk, concurrency, source, present, assignment, _) =>
        ⟨bodyEndpoint, device, owner, endpoint, deviceRef, mount, roles, policy,
          risk, concurrency, source, present, assignment⟩

theorem validate_dump (endpoint : BodyEndpoint) :
    validate endpoint.dump = .ok endpoint := by
  simp [validate, validModel, dump, required, withDefault, Wire.validate_dump,
    onlyMembers, fieldNames, Validated.both_ok, Except.map]

end BodyEndpoint

end DeviceFoundation
end EidolonSdk
