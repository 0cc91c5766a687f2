import EidolonSdk.Control.SharedSession
import EidolonSdk.Python.Milliseconds

/-!
# Command envelopes

A command travels in an envelope that says when it was issued and for how long it
is good.  The invitation into a shared session is issued when its grant is and
good until its own deadline.  The envelope gets the deadline right as far as the
milliseconds of the grant survive on their way through a datetime.
-/

namespace EidolonSdk
namespace Control

open Python Pydantic DeviceFoundation

inductive CommandQoS where
  | fireAndForget
  | ack
  | result
  deriving DecidableEq

def CommandQoS.text : CommandQoS -> PyStr
  | .fireAndForget => str "fire_and_forget"
  | .ack => str "ack"
  | .result => str "result"

inductive CommandPriority where
  | low
  | normal
  | high
  | urgent
  deriving DecidableEq

def CommandPriority.text : CommandPriority -> PyStr
  | .low => str "low"
  | .normal => str "normal"
  | .high => str "high"
  | .urgent => str "urgent"

inductive CommandError where
  /-- {lit}`ValueError("capability_version must be positive")`. -/
  | capabilityVersion
  /-- {lit}`ValueError("INVITATION_COMMAND_ID_REQUIRED")`. -/
  | commandIdRequired
  /-- The {lit}`OverflowError` of a quotient beyond every {lit}`float`. -/
  | quotientTooLarge
  /-- The {lit}`ValueError`, {lit}`OverflowError` or {lit}`OSError` of
  {lit}`datetime.fromtimestamp` past the year 9999. -/
  | timestampOutOfRange
  deriving DecidableEq

/-- `unix_ms` of a datetime. -/
def unixMs (value : Instant) : Int :=
  let millis : Int :=
    truncMagnitude (timesThousand (timestampOf value.val.natAbs))
  if value.val < 0 then -millis else millis

def controlOpAliases : List (PyStr × PyStr) :=
  [(str "wake", str "room.join"), (str "refresh_config", str "config.refresh"),
    (str "identify", str "device.identify")]

def normalizeControlOp (op : PyStr) : PyStr :=
  (controlOpAliases.lookup (strip op)).getD (strip op)

/-- The member, if it is a string that says something. -/
def spokenOp (payload : Members) (key : String) : Option PyStr :=
  match payload.get key with
  | some (.str value) => if value.isEmpty then none else some value
  | _ => none

def inferOp (payload : Members) (explicitOp : Option PyStr) : PyStr :=
  match explicitOp.filter fun op => !op.isEmpty with
  | some op => normalizeControlOp op
  | none =>
      match ["op", "type", "command"].findSome? (spokenOp payload) with
      | some op => normalizeControlOp op
      | none => str "device.command"

/-- The arguments of `build_command_envelope`, with their defaults. -/
structure EnvelopeArguments where
  commandId : PyStr
  deviceId : PyStr
  payload : Members
  op : Option PyStr := none
  capabilityVersion : Option Int := none
  ttlMs : Int := 30000
  qos : CommandQoS := .ack
  priority : CommandPriority := .normal
  srcType : PyStr := str "hub"
  srcId : PyStr := str "eidolon_hub"
  createdAt : Option Instant := none

namespace EnvelopeArguments

/-- The envelope without a capability version. -/
def body (arguments : EnvelopeArguments) (now : Instant) : Members :=
  [(str "v", .int 1),
    (str "kind", .str (str "cmd")),
    (str "id", .str arguments.commandId),
    (str "op", .str (inferOp arguments.payload arguments.op)),
    (str "ts", .int (unixMs (arguments.createdAt.getD now))),
    (str "ttl_ms", .int arguments.ttlMs),
    (str "qos", .str arguments.qos.text),
    (str "priority", .str arguments.priority.text),
    (str "src", .object [(str "type", .str arguments.srcType),
      (str "id", .str arguments.srcId)]),
    (str "dst", .object [(str "type", .str (str "device")),
      (str "id", .str arguments.deviceId)]),
    (str "payload", .object arguments.payload),
    (str "caps", .array [.str (str "ack.v1"), .str (str "result.v1")])]

end EnvelopeArguments

def buildCommandEnvelope (arguments : EnvelopeArguments) (now : Instant) :
    Except CommandError Members :=
  match arguments.capabilityVersion with
  | none => .ok (arguments.body now)
  | some version =>
      if version < 1 then .error .capabilityVersion
      else .ok (arguments.body now ++ [(str "capability_version", .int version)])

/-!
## The invitation
-/

/-- `datetime.fromtimestamp(n / 1000, UTC)`. -/
def fromMillis (n : Nat) : Except CommandError Instant :=
  if overThousand n < doubleLimit then
    match fromTimestampFloat false (overThousand n) with
    | some moment => .ok moment
    | none => .error .timestampOutOfRange
  else .error .quotientTooLarge

/-- What `command` accepts as its id. -/
def ValidCommandId (commandId : PyStr) : Prop :=
  strip commandId ≠ [] ∧ commandId.length ≤ 128

instance (commandId : PyStr) : Decidable (ValidCommandId commandId) :=
  inferInstanceAs (Decidable (_ ∧ _))

namespace SharedSessionInvitation

variable (invitation : SharedSessionInvitation)

/-- The members of `model_dump(mode="json")`. -/
def members : Members :=
  [(str "schema_version", .int 1),
    (str "session_id", (Wire.text sessionIdRule).dump invitation.sessionId),
    (str "device_ref", DeviceRef.wire.dump invitation.deviceRef),
    (str "deadline_ms", (Wire.integer 1).dump invitation.deadlineMs),
    (str "channel", invitation.channel.dump)]

def command (commandId : PyStr) (now : Instant) : Except CommandError Members := do
  if ¬ ValidCommandId commandId then throw .commandIdRequired
  let createdAt ← fromMillis invitation.channel.issuedAtMs.val.toNat
  buildCommandEnvelope
    { commandId
      deviceId := invitation.deviceRef.deviceInstanceId.val
      payload := invitation.members
      op := some (str "shared-session.invite")
      ttlMs := invitation.deadlineMs.val - invitation.channel.issuedAtMs.val
      srcType := str "channel"
      srcId := str "channel-provider"
      createdAt := some createdAt }
    now

end SharedSessionInvitation

/-!
## The times of the grant
-/

section Times

variable {n : Nat}

theorem fromMillis_of_le (h : n ≤ lastMillis) :
    fromMillis n =
      .ok ⟨microsOfMagnitude (overThousand n), inRange_micros_iff.mpr h⟩ := by
  have hsize : n < 2 ^ 53 := by
    unfold lastMillis at h
    omega
  have hle : overThousand n ≤ n * doubleOne :=
    roundRatio_le (by omega) (by omega)
  have hquot : overThousand n < doubleLimit :=
    hle.trans_lt (whole_lt_doubleLimit hsize)
  have hsome : fromTimestampFloat false (overThousand n) =
      some ⟨microsOfMagnitude (overThousand n), inRange_micros_iff.mpr h⟩ :=
    Instant.ofMicros_val ⟨_, inRange_micros_iff.mpr h⟩
  unfold fromMillis
  rw [if_pos hquot, hsome]

theorem fromMillis_of_gt (h : lastMillis < n) :
    exists error, fromMillis n = .error error := by
  have hrange : ¬ InRange (microsOfMagnitude (overThousand n)) := fun hin =>
    Nat.not_le.mpr h (inRange_micros_iff.mp hin)
  have hnone : fromTimestampFloat false (overThousand n) = none :=
    Instant.ofMicros_eq_none.mpr hrange
  unfold fromMillis
  rcases Nat.lt_or_ge (overThousand n) doubleLimit with hlt | hge
  · rw [if_pos hlt, hnone]
    exact ⟨_, rfl⟩
  · rw [if_neg (Nat.not_lt.mpr hge)]
    exact ⟨_, rfl⟩

theorem not_fallsShort_zero : ¬ FallsShort 0 := by
  decide

theorem unixMs_eq_iff {moment : Instant} (hn : n ≤ lastMillis)
    (h : moment.val = microsOfMagnitude (overThousand n)) :
    unixMs moment = n <-> ¬ FallsShort n := by
  have hmillis : unixMs moment = truncMagnitude (timesThousand
      (timestampOf (microsOfMagnitude (overThousand n)))) := by
    unfold unixMs
    rw [h, if_neg (by omega), Int.natAbs_natCast]
  rw [hmillis]
  rcases Nat.eq_zero_or_pos n with rfl | hpos
  · have hzero : microsOfMagnitude (overThousand 0) = 0 := by
      have hwhole := microsOfMagnitude_whole 0
      simpa only [Nat.zero_mul, overThousand_zero] using hwhole
    refine iff_of_true ?_ not_fallsShort_zero
    rw [hzero]
    simp [timestampOf, timesThousand, truncMagnitude, roundRatio, roundHalfEven]
  · rw [Nat.cast_inj, truncMagnitude_eq_iff hpos (by unfold lastMillis at hn; omega)]

end Times

namespace SharedSessionInvitation

variable {invitation : SharedSessionInvitation} {commandId : PyStr} {now : Instant}

/-- The envelope says when the grant was issued and when the invitation ends. -/
def KeepsTimes (invitation : SharedSessionInvitation) (commandId : PyStr)
    (now : Instant) : Prop :=
  exists (envelope : Members) (ts ttl : Int), invitation.command commandId now = .ok envelope ∧
    envelope.get "ts" = some (.int ts) ∧
    envelope.get "ttl_ms" = some (.int ttl) ∧
    ts = invitation.channel.issuedAtMs.val ∧
    ttl = invitation.deadlineMs.val - invitation.channel.issuedAtMs.val ∧
    ts + ttl = invitation.deadlineMs.val

theorem command_of_valid (hid : ValidCommandId commandId) :
    invitation.command commandId now =
      (fromMillis invitation.channel.issuedAtMs.val.toNat).map fun createdAt =>
        EnvelopeArguments.body
          { commandId
            deviceId := invitation.deviceRef.deviceInstanceId.val
            payload := invitation.members
            op := some (str "shared-session.invite")
            ttlMs :=
              invitation.deadlineMs.val - invitation.channel.issuedAtMs.val
            srcType := str "channel"
            srcId := str "channel-provider"
            createdAt := some createdAt }
          now := by
  unfold command
  rw [if_neg (not_not_intro hid)]
  cases fromMillis invitation.channel.issuedAtMs.val.toNat with
  | ok createdAt => rfl
  | error error => rfl

theorem toNat_issuedAtMs (invitation : SharedSessionInvitation) :
    (invitation.channel.issuedAtMs.val.toNat : Int) =
      invitation.channel.issuedAtMs.val :=
  Int.toNat_of_nonneg invitation.channel.issuedAtMs.property

/-- An envelope that keeps the times got its milliseconds back. -/
theorem KeepsTimes.not_fallsShort (hid : ValidCommandId commandId)
    (hin : invitation.channel.issuedAtMs.val.toNat ≤ lastMillis)
    (h : invitation.KeepsTimes commandId now) :
    ¬ FallsShort invitation.channel.issuedAtMs.val.toNat := by
  have hissued := toNat_issuedAtMs invitation
  have hunix := @unixMs_eq_iff invitation.channel.issuedAtMs.val.toNat
    ⟨_, inRange_micros_iff.mpr hin⟩ hin rfl
  rcases h with ⟨envelope, ts, ttl, hcommand, hts, -, hkept, -⟩
  rw [command_of_valid hid, fromMillis_of_le hin] at hcommand
  cases hcommand
  simp only [EnvelopeArguments.body, Members.get_cons] at hts
  cases hts
  exact hunix.mp (hkept.trans hissued.symm)

/-- The times are kept up to the end of the year 9999, unless the milliseconds of the
grant fall short on their way through the datetime. -/
theorem command_keepsTimes_iff (hid : ValidCommandId commandId) :
    invitation.KeepsTimes commandId now <->
      invitation.channel.issuedAtMs.val.toNat ≤ lastMillis ∧
        ¬ FallsShort invitation.channel.issuedAtMs.val.toNat := by
  have hissued := toNat_issuedAtMs invitation
  rcases Nat.lt_or_ge lastMillis invitation.channel.issuedAtMs.val.toNat with
    hlate | hin
  · refine iff_of_false ?_ (fun h => Nat.not_le.mpr hlate h.1)
    intro hparts
    rcases hparts with ⟨envelope, ts, ttl, hcommand, _⟩
    rcases fromMillis_of_gt hlate with ⟨error, herror⟩
    rw [command_of_valid hid, herror] at hcommand
    cases hcommand
  · constructor
    · intro h
      exact ⟨hin, h.not_fallsShort hid hin⟩
    · intro hparts
      rcases hparts with ⟨_, hshort⟩
      have hts := (@unixMs_eq_iff _ ⟨_, inRange_micros_iff.mpr hin⟩ hin rfl).mpr hshort
      unfold KeepsTimes
      rw [command_of_valid hid, fromMillis_of_le hin]
      refine ⟨_, _, _, rfl, rfl, rfl, hts.trans hissued, rfl, ?_⟩
      simp only [Option.getD_some, hts.trans hissued]
      omega

/-!
A grant of one second after 1970 comes back; one a millisecond later does not.
-/

def sampleDeviceRef : DeviceRef where
  deviceInstanceId :=
    ⟨str "device-instance-" ++ List.replicate 64 (codePoint '0'),
      accepts_zeroDeviceInstance⟩
  ownerDomainId := ⟨str "owner-domain-1", by decide⟩
  ownerDomainGeneration := IntFrom.lowest 1
  claimGeneration := IntFrom.lowest 1
  trustEpoch := IntFrom.lowest 1

def sampleChannel (issued : IntFrom 0) : ChannelBinding where
  channelId := ⟨str "temporary-1", by decide⟩
  purpose := ⟨str "shared-session", accepts_sharedSession⟩
  kinds := ⟨[str "audio"], accepts_audio⟩
  bindingFormat := ⟨str "test/v1", by decide⟩
  issuedAtMs := issued
  expiresAtMs := ⟨3000, by decide⟩
  opaqueBinding := ⟨str "c2VjcmV0", by decide⟩

def sampleInvitation (issued : IntFrom 0) (h : issued.val < 2000) :
    SharedSessionInvitation where
  sessionId := ⟨str "shared-1", by decide⟩
  deviceRef := sampleDeviceRef
  deadlineMs := ⟨2000, by decide⟩
  channel := sampleChannel issued
  scope := ⟨rfl, h, show (2000 : Int) ≤ 3000 by decide⟩

theorem command_keepsTimes_sample :
    (sampleInvitation ⟨1000, by decide⟩ (by decide)).KeepsTimes (str "invite-1")
      ⟨0, by decide⟩ :=
  (command_keepsTimes_iff (by decide)).mpr
    ⟨by decide, by decide⟩

/-- The millisecond 1001 is sent as 1000, and the deadline moves with it. -/
theorem command_not_keepsTimes :
    ¬ forall (invitation : SharedSessionInvitation) (commandId : PyStr)
      (now : Instant), ValidCommandId commandId ->
        invitation.KeepsTimes commandId now := by
  intro h
  have hid : ValidCommandId (str "invite-1") := by decide
  have hkept := h (sampleInvitation ⟨1001, by decide⟩ (by decide)) _
    ⟨0, by decide⟩ hid
  exact hkept.not_fallsShort hid (by decide) (by decide)

end SharedSessionInvitation

end Control
end EidolonSdk
