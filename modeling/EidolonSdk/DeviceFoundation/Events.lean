import EidolonSdk.DeviceFoundation.References
import EidolonSdk.Logic.Streams

/-!
# Claim events and their recovery stream

A consumer that missed events pages through the stream.  A page carries a
cursor in and a cursor out, and its model checks that the items in it are the
positions in between.
-/

namespace EidolonSdk
namespace DeviceFoundation

open Python Logic Pydantic

/-!
## Event data
-/

/-- `min_length=1, max_length=256`. -/
def reasonRule : StrRule :=
  { minLength := 1, maxLength := some 256 }

structure ClaimActivatedData where
  deviceRef : DeviceRef
  businessOwnerId : BusinessOwnerId
  manifestRef : ManifestRef
  approvalDecisionId : ConStr nameRule
  activatedAt : Instant

namespace ClaimActivatedData

def dump (data : ClaimActivatedData) : Json :=
  .object
    [(str "device_ref", DeviceRef.wire.dump data.deviceRef),
      (str "business_owner_id", (nominal "owner_").dump data.businessOwnerId),
      (str "manifest_ref", ManifestRef.wire.dump data.manifestRef),
      (str "approval_decision_id",
        (Wire.text nameRule).dump data.approvalDecisionId),
      (str "activated_at", Wire.instant.dump data.activatedAt)]

def fieldNames : List String :=
  ["device_ref", "business_owner_id", "manifest_ref", "approval_decision_id",
    "activated_at"]

def validate : Validator ClaimActivatedData :=
  validModel fun members =>
    ((required members "device_ref" DeviceRef.wire.validate).both
      ((required members "business_owner_id" (nominal "owner_").validate).both
        ((required members "manifest_ref" ManifestRef.wire.validate).both
          ((required members "approval_decision_id"
              (Wire.text nameRule).validate).both
            ((required members "activated_at" Wire.instant.validate).both
              (onlyMembers members fieldNames)))))).map
      fun (device, owner, manifest, decision, activatedAt, _) =>
        ⟨device, owner, manifest, decision, activatedAt⟩

theorem validate_dump (data : ClaimActivatedData) :
    validate data.dump = .ok data := by
  simp [validate, validModel, dump, required, Wire.validate_dump, onlyMembers,
    fieldNames, Validated.both_ok, Except.map]

def wire : Wire ClaimActivatedData where
  dump := dump
  validate := validate
  validate_dump := validate_dump

end ClaimActivatedData

structure ClaimRevokedData where
  deviceRef : DeviceRef
  reason : ConStr reasonRule
  revokedAt : Instant

namespace ClaimRevokedData

def dump (data : ClaimRevokedData) : Json :=
  .object
    [(str "device_ref", DeviceRef.wire.dump data.deviceRef),
      (str "reason", (Wire.text reasonRule).dump data.reason),
      (str "revoked_at", Wire.instant.dump data.revokedAt)]

def fieldNames : List String :=
  ["device_ref", "reason", "revoked_at"]

def validate : Validator ClaimRevokedData :=
  validModel fun members =>
    ((required members "device_ref" DeviceRef.wire.validate).both
      ((required members "reason" (Wire.text reasonRule).validate).both
        ((required members "revoked_at" Wire.instant.validate).both
          (onlyMembers members fieldNames)))).map
      fun (device, reason, revokedAt, _) => ⟨device, reason, revokedAt⟩

theorem validate_dump (data : ClaimRevokedData) :
    validate data.dump = .ok data := by
  simp [validate, validModel, dump, required, Wire.validate_dump, onlyMembers,
    fieldNames, Validated.both_ok, Except.map]

def wire : Wire ClaimRevokedData where
  dump := dump
  validate := validate
  validate_dump := validate_dump

end ClaimRevokedData

/-!
## Events

The two events differ in their words, in their data, and in where the data says
which device it is about and when it happened.
-/

structure ClaimEventKind (δ : Type) where
  type : String
  dataschema : String
  data : Wire δ
  deviceRef : δ -> DeviceRef
  time : δ -> Instant

def claimActivated : ClaimEventKind ClaimActivatedData where
  type := "live.eidolon.device.claim-activated.v1"
  dataschema := "https://contracts.eidolon.live/device-foundation/v1/events/claim-activated-data.schema.json"
  data := ClaimActivatedData.wire
  deviceRef := ClaimActivatedData.deviceRef
  time := ClaimActivatedData.activatedAt

def claimRevoked : ClaimEventKind ClaimRevokedData where
  type := "live.eidolon.device.claim-revoked.v1"
  dataschema := "https://contracts.eidolon.live/device-foundation/v1/events/claim-revoked-data.schema.json"
  data := ClaimRevokedData.wire
  deviceRef := ClaimRevokedData.deviceRef
  time := ClaimRevokedData.revokedAt

/-- `^device-instances/[A-Za-z0-9][A-Za-z0-9._:-]*$`. -/
def subjectRule : StrRule :=
  { pattern := fun s =>
      startsWith s (str "device-instances/") &&
        matchesIdentifier (s.drop "device-instances/".length) }

structure ClaimEvent {δ : Type} (kind : ClaimEventKind δ) where
  id : ConStr nameRule
  subject : ConStr subjectRule
  time : Instant
  ownerdomainid : OwnerDomainId
  aggregaterev : IntFrom 1
  correlationid : ConStr nameRule
  causationid : ConStr nameRule
  data : δ
  owner_matches : ownerdomainid = (kind.deviceRef data).ownerDomainId
  subject_matches : subject.val = str "device-instances/" ++
    (kind.deviceRef data).deviceInstanceId.val
  time_matches : time = kind.time data

namespace ClaimEvent

variable {δ : Type} (kind : ClaimEventKind δ)

def dump (event : ClaimEvent kind) : Json :=
  .object
    [(str "specversion", (Wire.literal "1.0").dump ()),
      (str "id", (Wire.text nameRule).dump event.id),
      (str "source", (Wire.literal "urn:eidolon:authority:admission").dump ()),
      (str "subject", (Wire.text subjectRule).dump event.subject),
      (str "time", Wire.instant.dump event.time),
      (str "datacontenttype", (Wire.literal "application/json").dump ()),
      (str "audience", (Wire.literal "eidolon-claim-consumers").dump ()),
      (str "ownerdomainid", (nominal "owner-").dump event.ownerdomainid),
      (str "aggregaterev", (Wire.integer 1).dump event.aggregaterev),
      (str "correlationid", (Wire.text nameRule).dump event.correlationid),
      (str "causationid", (Wire.text nameRule).dump event.causationid),
      (str "type", (Wire.literal kind.type).dump ()),
      (str "dataschema", (Wire.literal kind.dataschema).dump ()),
      (str "data", kind.data.dump event.data)]

def fieldNames : List String :=
  ["specversion", "id", "source", "subject", "time", "datacontenttype",
    "audience", "ownerdomainid", "aggregaterev", "correlationid", "causationid",
    "type", "dataschema", "data"]

/-- A literal with its own value as the default. -/
def constant (members : Members) (name value : String) : Validated Unit :=
  withDefault members name () (Wire.literal value).validate

/-- The members that always have the same value. -/
def constants (members : Members) : Validated Unit :=
  ((constant members "specversion" "1.0").both
    ((constant members "source" "urn:eidolon:authority:admission").both
      ((constant members "datacontenttype" "application/json").both
        ((constant members "audience" "eidolon-claim-consumers").both
          ((constant members "type" kind.type).both
            ((constant members "dataschema" kind.dataschema).both
              (onlyMembers members fieldNames))))))).map fun _ => ()

def validate : Validator (ClaimEvent kind) :=
  validModel fun members => do
    let (id, subject, time, owner, aggregaterev, correlationid, causationid,
        data, _) ←
      (required members "id" (Wire.text nameRule).validate).both
        ((required members "subject" (Wire.text subjectRule).validate).both
          ((required members "time" Wire.instant.validate).both
            ((required members "ownerdomainid"
                (nominal "owner-").validate).both
              ((required members "aggregaterev" (Wire.integer 1).validate).both
                ((required members "correlationid"
                    (Wire.text nameRule).validate).both
                  ((required members "causationid"
                      (Wire.text nameRule).validate).both
                    ((required members "data" kind.data.validate).both
                      (constants kind members))))))))
    -- The scope check of the model, which runs last.
    if h : owner = (kind.deviceRef data).ownerDomainId ∧
        subject.val = str "device-instances/" ++
          (kind.deviceRef data).deviceInstanceId.val ∧
        time = kind.time data then
      .ok ⟨id, subject, time, owner, aggregaterev, correlationid, causationid,
        data, h.left, h.right.left, h.right.right⟩
    else .error .invalid

theorem validate_dump (event : ClaimEvent kind) :
    validate kind (event.dump kind) = .ok event := by
  have hscope : event.ownerdomainid =
        (kind.deviceRef event.data).ownerDomainId ∧
      event.subject.val = str "device-instances/" ++
        (kind.deviceRef event.data).deviceInstanceId.val ∧
      event.time = kind.time event.data :=
    ⟨event.owner_matches, event.subject_matches, event.time_matches⟩
  simp [validate, validModel, dump, required, withDefault, constant, constants,
    Wire.validate_dump, onlyMembers, fieldNames, Validated.both_ok, Except.map,
    Logic.ok_bind]
  exact dif_pos hscope

theorem dump_type (event : ClaimEvent kind) :
    exists members : Members, event.dump kind = .object members ∧
      members.get "type" = some (.str (str kind.type)) := by
  refine ⟨_, rfl, ?_⟩
  simp [Wire.literal]

end ClaimEvent

/-- A union told apart by the member `type`. -/
inductive ClaimLifecycleEvent where
  | activated (event : ClaimEvent claimActivated)
  | revoked (event : ClaimEvent claimRevoked)

namespace ClaimLifecycleEvent

def dump : ClaimLifecycleEvent -> Json
  | .activated event => event.dump claimActivated
  | .revoked event => event.dump claimRevoked

def validate : Validator ClaimLifecycleEvent :=
  validModel fun members =>
    match members.get "type" with
    | some (.str type) =>
        if type = str claimActivated.type then
          (ClaimEvent.validate claimActivated (.object members)).map .activated
        else if type = str claimRevoked.type then
          (ClaimEvent.validate claimRevoked (.object members)).map .revoked
        else .error .invalid
    | _ => .error .invalid

theorem validate_dump (event : ClaimLifecycleEvent) :
    validate event.dump = .ok event := by
  cases event with
  | activated event =>
      rcases event.dump_type with ⟨members, hdump, htype⟩
      have hvalid := event.validate_dump
      rw [hdump] at hvalid
      simp only [dump, hdump, validate, validModel, htype, if_pos, hvalid]
      rfl
  | revoked event =>
      rcases event.dump_type with ⟨members, hdump, htype⟩
      have hvalid := event.validate_dump
      rw [hdump] at hvalid
      have hne : str claimRevoked.type ≠ str claimActivated.type := by
        simp [claimRevoked, claimActivated]
      simp only [dump, hdump, validate, validModel, htype, if_neg hne, if_pos,
        hvalid]
      rfl

def wire : Wire ClaimLifecycleEvent where
  dump := dump
  validate := validate
  validate_dump := validate_dump

end ClaimLifecycleEvent

/-!
## Cursors, items and pages
-/

structure ClaimEventCursor where
  streamPosition : IntFrom 0
  deriving DecidableEq

structure ClaimEventStreamItem where
  streamPosition : IntFrom 1
  event : ClaimLifecycleEvent

def streamId : String := "admission-claims-v1"

namespace ClaimEventCursor

def dump (cursor : ClaimEventCursor) : Json :=
  .object
    [(str "stream_id", (Wire.literal streamId).dump ()),
      (str "stream_position", (Wire.integer 0).dump cursor.streamPosition)]

def fieldNames : List String :=
  ["stream_id", "stream_position"]

def validate : Validator ClaimEventCursor :=
  validModel fun members =>
    ((withDefault members "stream_id" () (Wire.literal streamId).validate).both
      ((required members "stream_position" (Wire.integer 0).validate).both
        (onlyMembers members fieldNames))).map
      fun (_, position, _) => ⟨position⟩

theorem validate_dump (cursor : ClaimEventCursor) :
    validate cursor.dump = .ok cursor := by
  simp [validate, validModel, dump, required, withDefault, Wire.validate_dump,
    onlyMembers, fieldNames, Validated.both_ok, Except.map]

def wire : Wire ClaimEventCursor where
  dump := dump
  validate := validate
  validate_dump := validate_dump

end ClaimEventCursor

namespace ClaimEventStreamItem

def dump (item : ClaimEventStreamItem) : Json :=
  .object
    [(str "stream_position", (Wire.integer 1).dump item.streamPosition),
      (str "event", ClaimLifecycleEvent.wire.dump item.event)]

def fieldNames : List String :=
  ["stream_position", "event"]

def validate : Validator ClaimEventStreamItem :=
  validModel fun members =>
    ((required members "stream_position" (Wire.integer 1).validate).both
      ((required members "event" ClaimLifecycleEvent.wire.validate).both
        (onlyMembers members fieldNames))).map
      fun (position, event, _) => ⟨position, event⟩

theorem validate_dump (item : ClaimEventStreamItem) :
    validate item.dump = .ok item := by
  simp [validate, validModel, dump, required, Wire.validate_dump, onlyMembers,
    fieldNames, Validated.both_ok, Except.map]

def wire : Wire ClaimEventStreamItem where
  dump := dump
  validate := validate
  validate_dump := validate_dump

end ClaimEventStreamItem

/-- `list(range(start, stop))`. -/
def pyRange (start stop : Int) : List Int :=
  (List.range (stop - start).toNat).map fun i : Nat => start + (i : Int)

/-- `positions[-1]`, or the position before them. -/
def lastPosition (after : Int) (positions : List Int) : Int :=
  match positions.getLast? with
  | some last => last
  | none => after

def eventsRule : LengthRule :=
  { most := some 500 }

structure ClaimEventPage where
  requestedAfter : ClaimEventCursor
  events : Tuple eventsRule ClaimEventStreamItem
  nextCursor : ClaimEventCursor
  highWatermark : IntFrom 0
  observedAt : Instant
  contiguous :
    events.val.map (fun item => item.streamPosition.val) =
      pyRange (requestedAfter.streamPosition.val + 1)
        (requestedAfter.streamPosition.val + 1 + (events.val.length : Int))
  next : nextCursor.streamPosition.val =
    lastPosition requestedAfter.streamPosition.val
      (events.val.map fun item => item.streamPosition.val)
  watermark : lastPosition requestedAfter.streamPosition.val
      (events.val.map fun item => item.streamPosition.val) ≤ highWatermark.val

namespace ClaimEventPage

def start (page : ClaimEventPage) : Int :=
  page.requestedAfter.streamPosition.val

def finish (page : ClaimEventPage) : Int :=
  page.nextCursor.streamPosition.val

def positions (page : ClaimEventPage) : List Int :=
  page.events.val.map fun item => item.streamPosition.val

def dump (page : ClaimEventPage) : Json :=
  .object
    [(str "stream_id", (Wire.literal streamId).dump ()),
      (str "requested_after", ClaimEventCursor.wire.dump page.requestedAfter),
      (str "events",
        (Wire.tuple eventsRule ClaimEventStreamItem.wire).dump page.events),
      (str "next_cursor", ClaimEventCursor.wire.dump page.nextCursor),
      (str "high_watermark", (Wire.integer 0).dump page.highWatermark),
      (str "observed_at", Wire.instant.dump page.observedAt)]

def fieldNames : List String :=
  ["stream_id", "requested_after", "events", "next_cursor", "high_watermark",
    "observed_at"]

/-- The cursors name the one stream there is, so that their streams agree needs
no check. -/
def validate : Validator ClaimEventPage :=
  validModel fun members => do
    let (_, after, events, next, watermark, observedAt, _) ←
      (withDefault members "stream_id" () (Wire.literal streamId).validate).both
        ((required members "requested_after"
            ClaimEventCursor.wire.validate).both
          ((withDefault members "events" ⟨[], by decide⟩
              (Wire.tuple eventsRule ClaimEventStreamItem.wire).validate).both
            ((required members "next_cursor"
                ClaimEventCursor.wire.validate).both
              ((required members "high_watermark"
                  (Wire.integer 0).validate).both
                ((required members "observed_at" Wire.instant.validate).both
                  (onlyMembers members fieldNames))))))
    let positions := events.val.map fun item => item.streamPosition.val
    if h : positions = pyRange (after.streamPosition.val + 1)
          (after.streamPosition.val + 1 + (events.val.length : Int)) ∧
        next.streamPosition.val =
          lastPosition after.streamPosition.val positions ∧
        lastPosition after.streamPosition.val positions ≤ watermark.val then
      .ok ⟨after, events, next, watermark, observedAt, h.left, h.right.left,
        h.right.right⟩
    else .error .invalid

theorem validate_dump (page : ClaimEventPage) :
    validate page.dump = .ok page := by
  have hchecks := And.intro page.contiguous
    (And.intro page.next page.watermark)
  simp [validate, validModel, dump, required, withDefault, Wire.validate_dump,
    onlyMembers, fieldNames, Validated.both_ok, Logic.ok_bind]
  exact dif_pos hchecks

end ClaimEventPage

/-!
## Recovery
-/

theorem pyRange_eq_between (start : Int) (n : Nat) :
    pyRange (start + 1) (start + 1 + (n : Int)) =
      between start (start + (n : Int)) := by
  have hlength : (start + 1 + (n : Int) - (start + 1)).toNat =
      (start + (n : Int) - start).toNat := by omega
  unfold pyRange between
  rw [hlength]

theorem lastPosition_between (start : Int) (n : Nat) :
    lastPosition start (between start (start + (n : Int))) =
      start + (n : Int) := by
  cases n with
  | zero => simp [lastPosition, between]
  | succ n =>
      have hlast : (start + ((n + 1 : Nat) : Int) - start).toNat = n + 1 := by
        omega
      simp only [lastPosition, between, hlast, List.range_succ, List.map_append,
        List.map_cons, List.map_nil, List.getLast?_append, List.getLast?_singleton]
      show start + 1 + (n : Int) = _
      omega

namespace ClaimEventPage

/-- The checks of a page, in one statement. -/
theorem contiguous_between (page : ClaimEventPage) :
    Contiguous start finish positions page := by
  have hpositions := page.contiguous
  have hnext := page.next
  rw [pyRange_eq_between] at hpositions
  rw [hpositions, lastPosition_between] at hnext
  constructor
  · show start page ≤ page.nextCursor.streamPosition.val
    rw [hnext]
    unfold start
    omega
  · show positions page =
      between (start page) page.nextCursor.streamPosition.val
    rw [hnext]
    exact hpositions

end ClaimEventPage

/-- Page after page a consumer sees every position once and in order, and no
cursor runs ahead of what the stream held. -/
theorem claim_recovery_complete (first : ClaimEventPage)
    (rest : List ClaimEventPage)
    (hchain : List.IsChain
      (fun page next => next.requestedAfter = page.nextCursor)
      (first :: rest)) :
    (first.start ≤
        ((first :: rest).getLast (List.cons_ne_nil _ _)).finish ∧
      (first :: rest).flatMap ClaimEventPage.positions =
        between first.start
          ((first :: rest).getLast (List.cons_ne_nil _ _)).finish) ∧
    forall page, page ∈ first :: rest ->
      page.finish ≤ page.highWatermark.val := by
  have hends : List.IsChain
      (fun page next : ClaimEventPage => next.start = page.finish)
      (first :: rest) := by
    apply hchain.imp
    intro page next hnext
    unfold ClaimEventPage.start ClaimEventPage.finish
    rw [hnext]
  constructor
  · exact flatMap_positions (fun page _ => page.contiguous_between) hends
  · intro page _
    unfold ClaimEventPage.finish
    rw [page.next]
    exact page.watermark

def lostDevice : DeviceRef where
  deviceInstanceId :=
    ⟨str "device-instance-" ++ List.replicate 64 (codePoint '0'),
      accepts_zeroDeviceInstance⟩
  ownerDomainId := ⟨str "owner-a", inNamespace_ownerA⟩
  ownerDomainGeneration := IntFrom.lowest 1
  claimGeneration := IntFrom.lowest 1
  trustEpoch := IntFrom.lowest 1

def lostDeviceRevoked : ClaimEvent claimRevoked where
  id := ⟨str "event-1", by decide⟩
  subject := ⟨str "device-instances/" ++ lostDevice.deviceInstanceId.val,
    by decide⟩
  time := ⟨0, inRange_zero⟩
  ownerdomainid := lostDevice.ownerDomainId
  aggregaterev := IntFrom.lowest 1
  correlationid := ⟨str "correlation-1", by decide⟩
  causationid := ⟨str "causation-1", by decide⟩
  data := ⟨lostDevice, ⟨str "lost", by decide⟩, ⟨0, inRange_zero⟩⟩
  owner_matches := rfl
  subject_matches := rfl
  time_matches := rfl

def revocationPage : ClaimEventPage where
  requestedAfter := ⟨IntFrom.lowest 0⟩
  events := ⟨[⟨IntFrom.lowest 1, .revoked lostDeviceRevoked⟩], by decide⟩
  nextCursor := ⟨⟨1, Int.one_nonneg⟩⟩
  highWatermark := ⟨1, Int.one_nonneg⟩
  observedAt := ⟨0, inRange_zero⟩
  contiguous := by decide
  next := by decide
  watermark := by decide

def emptyPage : ClaimEventPage where
  requestedAfter := ⟨⟨1, Int.one_nonneg⟩⟩
  events := ⟨[], by decide⟩
  nextCursor := ⟨⟨1, Int.one_nonneg⟩⟩
  highWatermark := ⟨2, by decide⟩
  observedAt := ⟨0, inRange_zero⟩
  contiguous := by decide
  next := by decide
  watermark := by decide

theorem claim_recovery_complete_two_pages :
    [revocationPage, emptyPage].flatMap ClaimEventPage.positions =
      between 0 1 := by
  have hchain : List.IsChain
      (fun page next : ClaimEventPage =>
        next.requestedAfter = page.nextCursor)
      [revocationPage, emptyPage] :=
    List.isChain_pair.mpr rfl
  exact (claim_recovery_complete revocationPage [emptyPage] hchain).left.right

end DeviceFoundation
end EidolonSdk
