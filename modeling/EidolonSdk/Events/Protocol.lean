import EidolonSdk.DeviceFoundation.BodyMesh
import EidolonSdk.Python.JsonSize

/-!
# Short-lived device events

Four kinds of event share one envelope.  An event is parsed from an object that is
small enough and whose normal form is small enough, and it lives for three seconds
at most.
-/

namespace EidolonSdk
namespace Events

open Python Pydantic
open DeviceFoundation (boundedRule)

/-!
## Fields
-/

abbrev IntBetween (least most : Int) := { n : Int // least ≤ n ∧ n ≤ most }

def between (least most : Int) : Wire (IntBetween least most) where
  dump n := .int n.val
  validate
    | .int n => if h : least ≤ n ∧ n ≤ most then .ok ⟨n, h⟩ else .error .invalid
    | _ => .error .invalid
  validate_dump n := dif_pos n.property

/-- `Literal[1]`: what equals the number is the number, `True` and `1.0` too. -/
def literalOne : Wire Unit where
  dump _ := .int 1
  validate value := if value.equalsInt 1 = true then .ok () else .error .invalid
  validate_dump _ := if_pos (Json.equalsInt_int.mpr rfl)

/-- The characters of `[a-z]`. -/
def isSmallLetter (c : CodePoint) : Bool :=
  0x61 ≤ c.val && c.val ≤ 0x7A

/-- The characters of `[a-z0-9_.-]`. -/
def isComponentCharacter (c : CodePoint) : Bool :=
  isSmallLetter c || (0x30 ≤ c.val && c.val ≤ 0x39) || (str "_.-").contains c

/-- `^[a-z][a-z0-9_.-]*$`. -/
def matchesStage : PyStr -> Bool
  | [] => false
  | c :: rest => isSmallLetter c && rest.all isComponentCharacter

/-- `^[a-z][a-z0-9_.-]{0,63}$`. -/
def matchesComponent (s : PyStr) : Bool :=
  matchesStage s && s.length ≤ 64

def componentRule : StrRule :=
  { minLength := 1, maxLength := some 64, pattern := matchesComponent }

def stageRule : StrRule :=
  { minLength := 1, maxLength := some 64, pattern := matchesStage }

def causationRule : StrRule :=
  { maxLength := some 96 }

/-!
## The source of an event
-/

structure EventSource where
  deviceId : ConStr (boundedRule 128)
  component : ConStr componentRule

namespace EventSource

def dump (source : EventSource) : Json :=
  .object
    [(str "device_id", (Wire.text (boundedRule 128)).dump source.deviceId),
      (str "component", (Wire.text componentRule).dump source.component)]

def validate : Validator EventSource :=
  validModel fun members =>
    ((required members "device_id" (Wire.text (boundedRule 128)).validate).both
      ((required members "component" (Wire.text componentRule).validate).both
        (onlyMembers members ["device_id", "component"]))).map
      fun (device, component, _) => ⟨device, component⟩

theorem validate_dump (source : EventSource) : validate source.dump = .ok source := by
  simp [validate, validModel, dump, required, Wire.validate_dump, onlyMembers,
    Validated.both_ok, Except.map]

end EventSource

/-!
## Payloads
-/

inductive PresenceState where
  | present
  | vacant
  deriving DecidableEq

def PresenceState.word : PresenceState -> String
  | .present => "present"
  | .vacant => "vacant"

def PresenceState.wire : Wire PresenceState :=
  Wire.word [.present, .vacant] word
    (by intro state; cases state <;> decide) (by decide)

inductive Observation where
  | edge
  | snapshot
  | heartbeat
  deriving DecidableEq

def Observation.word : Observation -> String
  | .edge => "edge"
  | .snapshot => "snapshot"
  | .heartbeat => "heartbeat"

def Observation.wire : Wire Observation :=
  Wire.word [.edge, .snapshot, .heartbeat] word
    (by intro observation; cases observation <;> decide) (by decide)

/-- `_lease_matches_state` of ambient presence. -/
def AmbientLease (state : PresenceState) (leaseMs : Int)
    (observation : Observation) : Prop :=
  (state = .present -> leaseMs ≠ 0) ∧ (state = .vacant -> leaseMs = 0) ∧
    ¬ (state = .vacant ∧ observation = .heartbeat)

instance (state : PresenceState) (leaseMs : Int) (observation : Observation) :
    Decidable (AmbientLease state leaseMs observation) :=
  inferInstanceAs (Decidable (_ ∧ _))

structure AmbientPresenceStatePayload where
  state : PresenceState
  presenceEpoch : IntBetween 1 4294967295
  sequence : IntBetween 1 4294967295
  leaseMs : IntBetween 0 60000
  observation : Observation
  lease : AmbientLease state leaseMs.val observation

namespace AmbientPresenceStatePayload

def dump (payload : AmbientPresenceStatePayload) : Json :=
  .object
    [(str "state", PresenceState.wire.dump payload.state),
      (str "modality", (Wire.literal "mmwave").dump ()),
      (str "presence_epoch", (between 1 4294967295).dump payload.presenceEpoch),
      (str "sequence", (between 1 4294967295).dump payload.sequence),
      (str "lease_ms", (between 0 60000).dump payload.leaseMs),
      (str "observation", Observation.wire.dump payload.observation)]

def fieldNames : List String :=
  ["state", "modality", "presence_epoch", "sequence", "lease_ms", "observation"]

def validate : Validator AmbientPresenceStatePayload :=
  validModel fun members => do
    let (state, _, epoch, sequence, lease, observation, _) ←
      (required members "state" PresenceState.wire.validate).both
        ((withDefault members "modality" () (Wire.literal "mmwave").validate).both
          ((required members "presence_epoch" (between 1 4294967295).validate).both
            ((required members "sequence" (between 1 4294967295).validate).both
              ((required members "lease_ms" (between 0 60000).validate).both
                ((required members "observation" Observation.wire.validate).both
                  (onlyMembers members fieldNames))))))
    if h : AmbientLease state lease.val observation then
      .ok ⟨state, epoch, sequence, lease, observation, h⟩
    else .error .invalid

theorem validate_dump (payload : AmbientPresenceStatePayload) :
    validate payload.dump = .ok payload := by
  simp [validate, validModel, dump, required, withDefault, Wire.validate_dump,
    onlyMembers, fieldNames, Validated.both_ok, Logic.ok_bind, payload.lease]

def wire : Wire AmbientPresenceStatePayload where
  dump := dump
  validate := validate
  validate_dump := validate_dump

end AmbientPresenceStatePayload

structure OwnerPresenceConfirmedPayload where
  ambientSourceDeviceId : ConStr (boundedRule 128)
  ambientPresenceEpoch : IntBetween 1 4294967295
  profileRevision : IntFrom 1
  guardEpoch : IntBetween 0 4294967295
  presenceSequence : IntBetween 1 4294967295
  leaseMs : IntBetween 1 120000

namespace OwnerPresenceConfirmedPayload

def dump (payload : OwnerPresenceConfirmedPayload) : Json :=
  .object
    [(str "ambient_source_device_id",
        (Wire.text (boundedRule 128)).dump payload.ambientSourceDeviceId),
      (str "ambient_presence_epoch",
        (between 1 4294967295).dump payload.ambientPresenceEpoch),
      (str "profile_revision", (Wire.integer 1).dump payload.profileRevision),
      (str "guard_epoch", (between 0 4294967295).dump payload.guardEpoch),
      (str "presence_sequence",
        (between 1 4294967295).dump payload.presenceSequence),
      (str "evidence", (Wire.literal "local_owner_face").dump ()),
      (str "raw_retention", (Wire.literal "none").dump ()),
      (str "lease_ms", (between 1 120000).dump payload.leaseMs)]

def fieldNames : List String :=
  ["ambient_source_device_id", "ambient_presence_epoch", "profile_revision",
    "guard_epoch", "presence_sequence", "evidence", "raw_retention", "lease_ms"]

def validate : Validator OwnerPresenceConfirmedPayload :=
  validModel fun members =>
    ((required members "ambient_source_device_id"
        (Wire.text (boundedRule 128)).validate).both
      ((required members "ambient_presence_epoch"
          (between 1 4294967295).validate).both
        ((required members "profile_revision" (Wire.integer 1).validate).both
          ((required members "guard_epoch" (between 0 4294967295).validate).both
            ((required members "presence_sequence"
                (between 1 4294967295).validate).both
              ((withDefault members "evidence" ()
                  (Wire.literal "local_owner_face").validate).both
                ((withDefault members "raw_retention" ()
                    (Wire.literal "none").validate).both
                  ((required members "lease_ms" (between 1 120000).validate).both
                    (onlyMembers members fieldNames))))))))).map
      fun (source, epoch, revision, guardEpoch, sequence, _, _, lease, _) =>
        ⟨source, epoch, revision, guardEpoch, sequence, lease⟩

theorem validate_dump (payload : OwnerPresenceConfirmedPayload) :
    validate payload.dump = .ok payload := by
  simp [validate, validModel, dump, required, withDefault, Wire.validate_dump,
    onlyMembers, fieldNames, Validated.both_ok, Except.map]

def wire : Wire OwnerPresenceConfirmedPayload where
  dump := dump
  validate := validate
  validate_dump := validate_dump

end OwnerPresenceConfirmedPayload

inductive OwnerState where
  | present
  | absent
  deriving DecidableEq

def OwnerState.word : OwnerState -> String
  | .present => "present"
  | .absent => "absent"

def OwnerState.wire : Wire OwnerState :=
  Wire.word [.present, .absent] word
    (by intro state; cases state <;> decide) (by decide)

/-- `_lease_matches_state` of owner presence. -/
def OwnerLease (state : OwnerState) (leaseMs : Int) : Prop :=
  (state = .present -> leaseMs ≠ 0) ∧ (state = .absent -> leaseMs = 0)

instance (state : OwnerState) (leaseMs : Int) :
    Decidable (OwnerLease state leaseMs) :=
  inferInstanceAs (Decidable (_ ∧ _))

structure OwnerPresenceChangedPayload where
  state : OwnerState
  profileRevision : IntFrom 1
  guardEpoch : IntBetween 0 4294967295
  presenceSequence : IntBetween 1 4294967295
  leaseMs : IntBetween 0 120000
  lease : OwnerLease state leaseMs.val

namespace OwnerPresenceChangedPayload

def dump (payload : OwnerPresenceChangedPayload) : Json :=
  .object
    [(str "state", OwnerState.wire.dump payload.state),
      (str "profile_revision", (Wire.integer 1).dump payload.profileRevision),
      (str "guard_epoch", (between 0 4294967295).dump payload.guardEpoch),
      (str "presence_sequence",
        (between 1 4294967295).dump payload.presenceSequence),
      (str "lease_ms", (between 0 120000).dump payload.leaseMs),
      (str "evidence", (Wire.literal "face_gated_person_presence").dump ()),
      (str "raw_retention", (Wire.literal "none").dump ())]

def fieldNames : List String :=
  ["state", "profile_revision", "guard_epoch", "presence_sequence", "lease_ms",
    "evidence", "raw_retention"]

def validate : Validator OwnerPresenceChangedPayload :=
  validModel fun members => do
    let (state, revision, guardEpoch, sequence, lease, _) ←
      (required members "state" OwnerState.wire.validate).both
        ((required members "profile_revision" (Wire.integer 1).validate).both
          ((required members "guard_epoch" (between 0 4294967295).validate).both
            ((required members "presence_sequence"
                (between 1 4294967295).validate).both
              ((required members "lease_ms" (between 0 120000).validate).both
                ((withDefault members "evidence" ()
                    (Wire.literal "face_gated_person_presence").validate).both
                  ((withDefault members "raw_retention" ()
                      (Wire.literal "none").validate).both
                    (onlyMembers members fieldNames)))))))
    if h : OwnerLease state lease.val then
      .ok ⟨state, revision, guardEpoch, sequence, lease, h⟩
    else .error .invalid

theorem validate_dump (payload : OwnerPresenceChangedPayload) :
    validate payload.dump = .ok payload := by
  simp [validate, validModel, dump, required, withDefault, Wire.validate_dump,
    onlyMembers, fieldNames, Validated.both_ok, Logic.ok_bind, payload.lease]

def wire : Wire OwnerPresenceChangedPayload where
  dump := dump
  validate := validate
  validate_dump := validate_dump

end OwnerPresenceChangedPayload

inductive FlowStatus where
  | running
  | completed
  | timeout
  | failed
  deriving DecidableEq

def FlowStatus.word : FlowStatus -> String
  | .running => "running"
  | .completed => "completed"
  | .timeout => "timeout"
  | .failed => "failed"

def FlowStatus.wire : Wire FlowStatus :=
  Wire.word [.running, .completed, .timeout, .failed] word
    (by intro status; cases status <;> decide) (by decide)

structure CompanionFlowNodePayload where
  stage : ConStr stageRule
  status : FlowStatus
  label : ConStr (boundedRule 96)

namespace CompanionFlowNodePayload

def dump (payload : CompanionFlowNodePayload) : Json :=
  .object
    [(str "stage", (Wire.text stageRule).dump payload.stage),
      (str "status", FlowStatus.wire.dump payload.status),
      (str "label", (Wire.text (boundedRule 96)).dump payload.label)]

def validate : Validator CompanionFlowNodePayload :=
  validModel fun members =>
    ((required members "stage" (Wire.text stageRule).validate).both
      ((required members "status" FlowStatus.wire.validate).both
        ((required members "label" (Wire.text (boundedRule 96)).validate).both
          (onlyMembers members ["stage", "status", "label"])))).map
      fun (stage, status, label, _) => ⟨stage, status, label⟩

theorem validate_dump (payload : CompanionFlowNodePayload) :
    validate payload.dump = .ok payload := by
  simp [validate, validModel, dump, required, Wire.validate_dump, onlyMembers,
    Validated.both_ok, Except.map]

def wire : Wire CompanionFlowNodePayload where
  dump := dump
  validate := validate
  validate_dump := validate_dump

end CompanionFlowNodePayload

/-!
## Events
-/

def eventDefaultTtlMs : Int := 3000

def eventMaxClockSkewMs : Int := 1000

def eventMaxBytes : Nat := 2048

/-- `_ttl_is_short_and_forward`. -/
def ShortAndForward (occurredAtMs expiresAtMs : Int) : Prop :=
  0 < expiresAtMs - occurredAtMs ∧ expiresAtMs - occurredAtMs ≤ eventDefaultTtlMs

instance (occurredAtMs expiresAtMs : Int) :
    Decidable (ShortAndForward occurredAtMs expiresAtMs) :=
  inferInstanceAs (Decidable (_ ∧ _))

/-- What the events have in common. -/
structure Envelope where
  eventId : ConStr (boundedRule 96)
  flowId : ConStr (boundedRule 96)
  causationId : ConStr causationRule
  source : EventSource
  occurredAtMs : IntFrom 0
  expiresAtMs : IntFrom 1
  ttl : ShortAndForward occurredAtMs.val expiresAtMs.val

/-- What sets one kind of event apart. -/
structure EventKind where
  type : String
  Payload : Type
  payload : Wire Payload
  /-- The kind's own rule about the event and its cause. -/
  admits : (eventId causationId : PyStr) -> Bool

def ambientPresenceState : EventKind where
  type := "ambient.presence.state"
  Payload := AmbientPresenceStatePayload
  payload := AmbientPresenceStatePayload.wire
  admits _ causationId := causationId.isEmpty

def identityOwnerPresenceConfirmed : EventKind where
  type := "identity.owner_presence.confirmed"
  Payload := OwnerPresenceConfirmedPayload
  payload := OwnerPresenceConfirmedPayload.wire
  admits eventId causationId := !causationId.isEmpty && causationId != eventId

def identityOwnerPresenceChanged : EventKind where
  type := "identity.owner_presence.changed"
  Payload := OwnerPresenceChangedPayload
  payload := OwnerPresenceChangedPayload.wire
  admits _ causationId := causationId.isEmpty

def companionFlowNode : EventKind where
  type := "companion.flow.node"
  Payload := CompanionFlowNodePayload
  payload := CompanionFlowNodePayload.wire
  admits _ _ := true

structure EventOf (kind : EventKind) where
  envelope : Envelope
  payload : kind.Payload
  admitted : kind.admits envelope.eventId.val envelope.causationId.val = true

namespace EventOf

variable {kind : EventKind}

/-- `model_dump(mode="json")`. -/
def dump (event : EventOf kind) : Json :=
  .object
    [(str "schema_v", literalOne.dump ()),
      (str "kind", (Wire.literal "event").dump ()),
      (str "event_id", (Wire.text (boundedRule 96)).dump event.envelope.eventId),
      (str "flow_id", (Wire.text (boundedRule 96)).dump event.envelope.flowId),
      (str "causation_id",
        (Wire.text causationRule).dump event.envelope.causationId),
      (str "source", event.envelope.source.dump),
      (str "occurred_at_ms", (Wire.integer 0).dump event.envelope.occurredAtMs),
      (str "expires_at_ms", (Wire.integer 1).dump event.envelope.expiresAtMs),
      (str "type", (Wire.literal kind.type).dump ()),
      (str "payload", kind.payload.dump event.payload)]

def fieldNames : List String :=
  ["schema_v", "kind", "event_id", "flow_id", "causation_id", "source",
    "occurred_at_ms", "expires_at_ms", "type", "payload"]

/-- No event has caused this one. -/
def noCausation : ConStr causationRule :=
  ⟨[], by decide⟩

def validate : Validator (EventOf kind) :=
  validModel fun members => do
    let (_, _, event, flow, causation, source, occurred, expires, _, payload, _) ←
      (withDefault members "schema_v" () literalOne.validate).both
        ((withDefault members "kind" () (Wire.literal "event").validate).both
          ((required members "event_id" (Wire.text (boundedRule 96)).validate).both
            ((required members "flow_id" (Wire.text (boundedRule 96)).validate).both
              ((withDefault members "causation_id" noCausation
                  (Wire.text causationRule).validate).both
                ((required members "source" EventSource.validate).both
                  ((required members "occurred_at_ms" (Wire.integer 0).validate).both
                    ((required members "expires_at_ms"
                        (Wire.integer 1).validate).both
                      ((withDefault members "type" ()
                          (Wire.literal kind.type).validate).both
                        ((required members "payload" kind.payload.validate).both
                          (onlyMembers members fieldNames))))))))))
    if h : ShortAndForward occurred.val expires.val then
      if hadmitted : kind.admits event.val causation.val = true then
        .ok ⟨⟨event, flow, causation, source, occurred, expires, h⟩, payload,
          hadmitted⟩
      else .error .invalid
    else .error .invalid

theorem validate_dump (event : EventOf kind) : validate event.dump = .ok event := by
  simp [validate, validModel, dump, required, withDefault, Wire.validate_dump,
    EventSource.validate_dump, onlyMembers, fieldNames, Validated.both_ok,
    Logic.ok_bind, event.envelope.ttl, event.admitted]

end EventOf

inductive DeviceEvent where
  | ambientPresenceState (event : EventOf ambientPresenceState)
  | identityOwnerPresenceConfirmed (event : EventOf identityOwnerPresenceConfirmed)
  | identityOwnerPresenceChanged (event : EventOf identityOwnerPresenceChanged)
  | companionFlowNode (event : EventOf companionFlowNode)

namespace DeviceEvent

def envelope : DeviceEvent -> Envelope
  | .ambientPresenceState event => event.envelope
  | .identityOwnerPresenceConfirmed event => event.envelope
  | .identityOwnerPresenceChanged event => event.envelope
  | .companionFlowNode event => event.envelope

def dump : DeviceEvent -> Json
  | .ambientPresenceState event => event.dump
  | .identityOwnerPresenceConfirmed event => event.dump
  | .identityOwnerPresenceChanged event => event.dump
  | .companionFlowNode event => event.dump

/-- The union discriminated by `type`, which has no default here. -/
def validate : Validator DeviceEvent :=
  validModel fun members =>
    match members.get "type" with
    | some (.str type) =>
        if type = str Events.ambientPresenceState.type then
          (EventOf.validate (.object members)).map ambientPresenceState
        else if type = str Events.identityOwnerPresenceConfirmed.type then
          (EventOf.validate (.object members)).map identityOwnerPresenceConfirmed
        else if type = str Events.identityOwnerPresenceChanged.type then
          (EventOf.validate (.object members)).map identityOwnerPresenceChanged
        else if type = str Events.companionFlowNode.type then
          (EventOf.validate (.object members)).map companionFlowNode
        else .error .invalid
    | _ => .error .invalid

end DeviceEvent

inductive EventError where
  | valueError (message : String)
  /-- A `ValidationError`, which is a `ValueError` too. -/
  | validationError (fault : Fault)
  deriving DecidableEq

section Parse

variable (I : Interpreter)

/-- The node is no float that JSON has no number for. -/
def isFiniteNode : Json -> Bool
  | .float (.finite _ _ _) => true
  | .float _ => false
  | _ => true

/-- `_json_size`. -/
def jsonSize (payload : Json) : Except EventError Nat :=
  if payload.all isFiniteNode then
    match payload.dumps I with
    | .error _ => .error (.valueError "device event must be JSON serializable")
    | .ok text =>
        match encodeUtf8 text with
        | none => .error (.valueError "device event must be JSON serializable")
        | some encoded => .ok encoded.length
  else .error (.valueError "device event must be JSON serializable")

/-- `if c: raise ValueError(message)`. -/
def refuseIf (c : Prop) [Decidable c] (message : String) : Except EventError Unit :=
  if c then .error (.valueError message) else .ok ()

def refuseLong (payload : Json) (message : String) : Except EventError Unit := do
  let size ← jsonSize I payload
  refuseIf (eventMaxBytes < size) message

/-- The checks of the clock, where there is one. -/
def checkClock (envelope : Envelope) : Option Int -> Except EventError Unit
  | none => .ok ()
  | some nowMs => do
      refuseIf (nowMs < 0) "now_ms must be a non-negative integer"
      refuseIf (envelope.expiresAtMs.val ≤ nowMs) "device event has expired"
      refuseIf (nowMs + eventMaxClockSkewMs < envelope.occurredAtMs.val)
        "device event occurred_at_ms is too far in the future"

def isMapping : Json -> Bool
  | .object _ => true
  | _ => false

def parseDeviceEvent (payload : Json) (nowMs : Option Int) :
    Except EventError DeviceEvent := do
  refuseIf (isMapping payload = false) "device event must be an object"
  refuseLong I payload "device event must not exceed 2048 bytes"
  let event ← (DeviceEvent.validate payload).mapError .validationError
  refuseLong I event.dump "normalized device event must not exceed 2048 bytes"
  checkClock event.envelope nowMs
  pure event

def normalizeDeviceEvent (payload : Json) (nowMs : Option Int) :
    Except EventError Json := do
  let event ← parseDeviceEvent I payload nowMs
  pure event.dump

end Parse

/-!
## The normal form
-/

section Normal

variable {I : Interpreter} {payload : Json} {event : DeviceEvent}

theorem EventOf.dump_type {kind : EventKind} (event : EventOf kind) :
    exists members, event.dump = .object members ∧
      Members.get members "type" = some (.str (str kind.type)) :=
  ⟨_, rfl, by simp [Wire.literal]⟩

theorem DeviceEvent.validate_dump (event : DeviceEvent) :
    validate event.dump = .ok event := by
  have hread : forall {kind : EventKind} (e : EventOf kind) {members : Members},
      e.dump = .object members -> EventOf.validate (.object members) = .ok e := by
    intro kind e members hdump
    rw [← hdump]
    exact e.validate_dump
  cases event with
  | ambientPresenceState e =>
      rcases e.dump_type with ⟨members, hdump, htype⟩
      simp only [dump, hdump, validate, validModel, htype, hread e hdump]
      rfl
  | identityOwnerPresenceConfirmed e =>
      rcases e.dump_type with ⟨members, hdump, htype⟩
      simp only [dump, hdump, validate, validModel, htype, hread e hdump]
      rfl
  | identityOwnerPresenceChanged e =>
      rcases e.dump_type with ⟨members, hdump, htype⟩
      simp only [dump, hdump, validate, validModel, htype, hread e hdump]
      rfl
  | companionFlowNode e =>
      rcases e.dump_type with ⟨members, hdump, htype⟩
      simp only [dump, hdump, validate, validModel, htype, hread e hdump]
      rfl

theorem refuseIf_eq_ok {c : Prop} [Decidable c] {message : String} {u : Unit} :
    refuseIf c message = .ok u <-> ¬ c := by
  unfold refuseIf
  split
  · rename_i h
    exact iff_of_false nofun fun hnot => hnot h
  · rename_i h
    exact iff_of_true rfl h

theorem refuseLong_eq_ok {message : String} {u : Unit} :
    refuseLong I payload message = .ok u <->
      exists size, jsonSize I payload = .ok size ∧ size ≤ eventMaxBytes := by
  unfold refuseLong
  simp only [Logic.bind_eq_ok, refuseIf_eq_ok, not_lt]

/-- An event of an object that, like its normal form, is not too long. -/
structure Parses (I : Interpreter) (payload : Json) (event : DeviceEvent) : Prop where
  mapping : isMapping payload = true
  raw : exists size, jsonSize I payload = .ok size ∧ size ≤ eventMaxBytes
  valid : DeviceEvent.validate payload = .ok event
  normal : exists size, jsonSize I event.dump = .ok size ∧ size ≤ eventMaxBytes

theorem parseDeviceEvent_eq_ok {nowMs : Option Int} :
    parseDeviceEvent I payload nowMs = .ok event <->
      Parses I payload event ∧ checkClock event.envelope nowMs = .ok () := by
  unfold parseDeviceEvent
  simp only [Logic.bind_eq_ok, refuseIf_eq_ok, refuseLong_eq_ok, exists_const]
  constructor
  · intro hparts
    rcases hparts with ⟨hmapping, hraw, event', hvalid, hnormal, _, hclock, heq⟩
    cases Except.ok.inj heq
    have hvalid' : DeviceEvent.validate payload = .ok event := by
      cases hresult : DeviceEvent.validate payload with
      | error fault =>
          rw [hresult] at hvalid
          cases hvalid
      | ok value =>
          rw [hresult] at hvalid
          cases hvalid
          rfl
    exact ⟨⟨Bool.eq_true_of_not_eq_false hmapping, hraw, hvalid', hnormal⟩, hclock⟩
  · intro hparts
    rcases hparts with ⟨h, hclock⟩
    refine ⟨?_, h.raw, event, ?_, h.normal, (), hclock, rfl⟩
    · rw [h.mapping]
      decide
    · rw [h.valid]
      rfl

theorem parses_unclocked :
    parseDeviceEvent I payload none = .ok event <-> Parses I payload event := by
  rw [parseDeviceEvent_eq_ok]
  exact and_iff_left rfl

/-- The normal form is an event again, and the same one. -/
theorem Parses.dump (h : Parses I payload event) : Parses I event.dump event where
  mapping := by
    cases event with
    | ambientPresenceState e => rfl
    | identityOwnerPresenceConfirmed e => rfl
    | identityOwnerPresenceChanged e => rfl
    | companionFlowNode e => rfl
  raw := h.normal
  valid := event.validate_dump
  normal := h.normal

theorem Parses.unique {event' : DeviceEvent} (h : Parses I payload event)
    (h' : Parses I payload event') : event = event' :=
  Except.ok.inj (h.valid.symm.trans h'.valid)

theorem Parses.normalizes (h : Parses I payload event) :
    normalizeDeviceEvent I payload none = .ok event.dump := by
  unfold normalizeDeviceEvent
  rw [parses_unclocked.mpr h]
  rfl

/-!
## The window
-/

/-- The clock may be a second behind the event and short of its end. -/
def Envelope.FreshAt (envelope : Envelope) (nowMs : Int) : Prop :=
  envelope.occurredAtMs.val - 1000 ≤ nowMs ∧ nowMs ≤ envelope.expiresAtMs.val - 1

theorem checkClock_eq_ok {envelope : Envelope} {nowMs : Int} (h : 0 ≤ nowMs) :
    checkClock envelope (some nowMs) = .ok () <-> envelope.FreshAt nowMs := by
  unfold checkClock Envelope.FreshAt eventMaxClockSkewMs
  simp only [Logic.bind_eq_ok, refuseIf_eq_ok, not_lt, not_le, exists_const]
  constructor
  · intro hparts
    rcases hparts with ⟨_, hexpires, hskew⟩
    omega
  · intro hparts
    rcases hparts with ⟨hskew, hexpires⟩
    exact ⟨h, by omega, by omega⟩

/-- The object is accepted exactly at the times its event is fresh. -/
theorem Parses.accepted_iff (h : Parses I payload event) {nowMs : Int}
    (hnow : 0 ≤ nowMs) :
    (exists parsed, parseDeviceEvent I payload (some nowMs) = .ok parsed) <->
      event.envelope.FreshAt nowMs := by
  constructor
  · intro hparts
    rcases hparts with ⟨parsed, hparsed⟩
    rcases parseDeviceEvent_eq_ok.mp hparsed with ⟨hparses, hclock⟩
    rw [h.unique hparses]
    exact (checkClock_eq_ok hnow).mp hclock
  · intro hfresh
    exact ⟨event, parseDeviceEvent_eq_ok.mpr ⟨h, (checkClock_eq_ok hnow).mpr hfresh⟩⟩

/-- An event is fresh when it occurs. -/
theorem Envelope.freshAt_occurred (envelope : Envelope) :
    envelope.FreshAt envelope.occurredAtMs.val := by
  have hforward := envelope.ttl.left
  exact ⟨by omega, by omega⟩

theorem Envelope.FreshAt.window {envelope : Envelope} {first last : Int}
    (hfirst : envelope.FreshAt first) (hlast : envelope.FreshAt last) :
    last - first + 1 ≤ 4000 := by
  have hshort := envelope.ttl.right
  have hleast := hfirst.left
  have hmost := hlast.right
  unfold eventDefaultTtlMs at hshort
  omega

/-- A normal form is its own normal form, and both an event and its normal form are
accepted for four seconds at most. -/
theorem normalized_event_fresh_iff (h : parseDeviceEvent I payload none = .ok event) :
    (exists form, normalizeDeviceEvent I payload none = .ok form ∧
      normalizeDeviceEvent I form none = .ok form ∧
      forall nowMs, 0 ≤ nowMs ->
        ((exists parsed, parseDeviceEvent I payload (some nowMs) = .ok parsed) <->
          event.envelope.FreshAt nowMs) ∧
        ((exists parsed, parseDeviceEvent I form (some nowMs) = .ok parsed) <->
          event.envelope.FreshAt nowMs)) ∧
    (exists nowMs, 0 ≤ nowMs ∧ event.envelope.FreshAt nowMs) ∧
    forall first last, event.envelope.FreshAt first -> event.envelope.FreshAt last ->
      last - first + 1 ≤ 4000 := by
  have hparses := parses_unclocked.mp h
  refine ⟨⟨event.dump, hparses.normalizes, hparses.dump.normalizes, ?_⟩,
    ⟨_, event.envelope.occurredAtMs.property, event.envelope.freshAt_occurred⟩, ?_⟩
  · intro nowMs hnow
    exact ⟨hparses.accepted_iff hnow, hparses.dump.accepted_iff hnow⟩
  · intro first last hfirst hlast
    exact hfirst.window hlast

end Normal

/-!
A radar reports presence and leaves what has a default to its default.
-/

def radarSource : EventSource where
  deviceId := ⟨str "box3-01", by decide⟩
  component := ⟨str "radar", by decide⟩

def radarEvent : EventOf ambientPresenceState where
  envelope :=
    { eventId := ⟨str "evt-radar-1", by decide⟩
      flowId := ⟨str "flow-radar-1", by decide⟩
      causationId := EventOf.noCausation
      source := radarSource
      occurredAtMs := ⟨10000, by decide⟩
      expiresAtMs := ⟨13000, by decide⟩
      ttl := by decide }
  payload :=
    { state := .present
      presenceEpoch := ⟨1, by decide⟩
      sequence := ⟨1, by decide⟩
      leaseMs := ⟨15000, by decide⟩
      observation := .edge
      lease := by decide }
  admitted := rfl

def radarPayload : Json :=
  .object
    [(str "event_id", .str (str "evt-radar-1")),
      (str "flow_id", .str (str "flow-radar-1")),
      (str "type", .str (str "ambient.presence.state")),
      (str "source", .object
        [(str "device_id", .str (str "box3-01")),
          (str "component", .str (str "radar"))]),
      (str "occurred_at_ms", .int 10000), (str "expires_at_ms", .int 13000),
      (str "payload", .object
        [(str "state", .str (str "present")), (str "presence_epoch", .int 1),
          (str "sequence", .int 1), (str "lease_ms", .int 15000),
          (str "observation", .str (str "edge"))])]

theorem radarPayload_parses :
    Parses asciiInterpreter radarPayload (.ambientPresenceState radarEvent) where
  mapping := rfl
  raw := ⟨281, by decide +kernel, by decide⟩
  valid := rfl
  normal := ⟨347, by decide +kernel, by decide⟩

theorem normalized_event_fresh_iff_radar :
    (exists form, normalizeDeviceEvent asciiInterpreter radarPayload none = .ok form ∧
      normalizeDeviceEvent asciiInterpreter form none = .ok form ∧
      forall nowMs, 0 ≤ nowMs ->
        ((exists parsed, parseDeviceEvent asciiInterpreter radarPayload (some nowMs) =
            .ok parsed) <-> radarEvent.envelope.FreshAt nowMs) ∧
        ((exists parsed, parseDeviceEvent asciiInterpreter form (some nowMs) =
            .ok parsed) <-> radarEvent.envelope.FreshAt nowMs)) ∧
    (exists nowMs, 0 ≤ nowMs ∧ radarEvent.envelope.FreshAt nowMs) ∧
    forall first last, radarEvent.envelope.FreshAt first ->
      radarEvent.envelope.FreshAt last -> last - first + 1 ≤ 4000 :=
  normalized_event_fresh_iff (parses_unclocked.mpr radarPayload_parses)

end Events
end EidolonSdk
