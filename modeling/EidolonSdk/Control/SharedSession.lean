import EidolonSdk.DeviceFoundation.BodyMesh

/-!
# Shared sessions

The grant a device is invited into a shared session with.  The kinds of a
channel are a strict tuple, and nothing converts the array they are dumped to.
-/

namespace EidolonSdk
namespace Control

open Python Pydantic DeviceFoundation

def kindsRule : LengthRule :=
  { least := 1, most := some 8 }

theorem accepts_audio : kindsRule.Accepts [str "audio"] := by decide

theorem accepts_sharedSession : (boundedRule 64).Accepts (str "shared-session") := by
  decide

structure ChannelBinding where
  channelId : ConStr (boundedRule 128)
  purpose : ConStr (boundedRule 64)
  kinds : Tuple kindsRule PyStr
  bindingFormat : ConStr (boundedRule 128)
  issuedAtMs : IntFrom 0
  expiresAtMs : IntFrom 1
  opaqueBinding : ConStr (boundedRule 131072)

namespace ChannelBinding

def dump (binding : ChannelBinding) : Json :=
  .object
    [(str "channel_id", (Wire.text (boundedRule 128)).dump binding.channelId),
      (str "purpose", (Wire.text (boundedRule 64)).dump binding.purpose),
      (str "kinds", (Wire.tuple kindsRule Wire.anyText).dump binding.kinds),
      (str "binding_format",
        (Wire.text (boundedRule 128)).dump binding.bindingFormat),
      (str "issued_at_ms", (Wire.integer 0).dump binding.issuedAtMs),
      (str "expires_at_ms", (Wire.integer 1).dump binding.expiresAtMs),
      (str "opaque_binding",
        (Wire.text (boundedRule 131072)).dump binding.opaqueBinding)]

def fieldNames : List String :=
  ["channel_id", "purpose", "kinds", "binding_format", "issued_at_ms",
    "expires_at_ms", "opaque_binding"]

/-- `tuple[str, ...]` with its bounds and no validator in front of it. -/
def validKinds : Validator (Tuple kindsRule PyStr) :=
  fun value => do
    let kinds ← strictTuple value
    if h : kindsRule.Accepts kinds then .ok ⟨kinds, h⟩ else .error .invalid

/-- `ChannelBinding.model_validate`. -/
def validate : Validator ChannelBinding :=
  validModel fun members =>
    ((required members "channel_id" (Wire.text (boundedRule 128)).validate).both
      ((required members "purpose" (Wire.text (boundedRule 64)).validate).both
        ((required members "kinds" validKinds).both
          ((required members "binding_format"
              (Wire.text (boundedRule 128)).validate).both
            ((required members "issued_at_ms" (Wire.integer 0).validate).both
              ((required members "expires_at_ms"
                  (Wire.integer 1).validate).both
                ((required members "opaque_binding"
                    (Wire.text (boundedRule 131072)).validate).both
                  (onlyMembers members fieldNames)))))))).map
      fun (channel, purpose, kinds, format, issued, expires, binding, _) =>
        ⟨channel, purpose, kinds, format, issued, expires, binding⟩

theorem validKinds_eq_invalid (value : Json) :
    validKinds value = .error .invalid := rfl

theorem validate_dump_refused (binding : ChannelBinding) :
    validate binding.dump = .error .invalid := by
  simp [validate, validModel, dump, required, Wire.validate_dump, onlyMembers,
    fieldNames, validKinds_eq_invalid, Validated.both, Except.map]

end ChannelBinding

/-!
## Invitations
-/

/-- `^[A-Za-z0-9_.:-]+$`. -/
def sessionIdRule : StrRule :=
  { minLength := 1, maxLength := some 64
    pattern := fun s => !s.isEmpty &&
      s.all fun c => isAlphanumeric c || (str "_.:-").contains c }

/-- The invitation is for a temporary channel and ends within its grant. -/
def InvitationScope (channel : ChannelBinding) (deadlineMs : Int) : Prop :=
  channel.purpose.val = str "shared-session" ∧
    channel.issuedAtMs.val < deadlineMs ∧
    deadlineMs ≤ channel.expiresAtMs.val

instance (channel : ChannelBinding) (deadlineMs : Int) :
    Decidable (InvitationScope channel deadlineMs) :=
  inferInstanceAs (Decidable (_ ∧ _))

structure SharedSessionInvitation where
  sessionId : ConStr sessionIdRule
  deviceRef : DeviceRef
  deadlineMs : IntFrom 1
  channel : ChannelBinding
  scope : InvitationScope channel deadlineMs.val

namespace SharedSessionInvitation

/-- `Literal[1]`, behind a check that the value is an `int` and no `bool`. -/
def schemaVersion : Validator Unit
  | .int n => if n = 1 then .ok () else .error .invalid
  | _ => .error .invalid

def dump (invitation : SharedSessionInvitation) : Json :=
  .object
    [(str "schema_version", .int 1),
      (str "session_id", (Wire.text sessionIdRule).dump invitation.sessionId),
      (str "device_ref", DeviceRef.wire.dump invitation.deviceRef),
      (str "deadline_ms", (Wire.integer 1).dump invitation.deadlineMs),
      (str "channel", invitation.channel.dump)]

def fieldNames : List String :=
  ["schema_version", "session_id", "device_ref", "deadline_ms", "channel"]

/-- `SharedSessionInvitation.model_validate`. -/
def validate : Validator SharedSessionInvitation :=
  validModel fun members => do
    let (_, session, device, deadline, channel, _) ←
      (withDefault members "schema_version" () schemaVersion).both
        ((required members "session_id" (Wire.text sessionIdRule).validate).both
          ((required members "device_ref" DeviceRef.wire.validate).both
            ((required members "deadline_ms" (Wire.integer 1).validate).both
              ((required members "channel" ChannelBinding.validate).both
                (onlyMembers members fieldNames)))))
    if h : InvitationScope channel deadline.val then
      .ok ⟨session, device, deadline, channel, h⟩
    else .error .invalid

theorem validate_dump_refused (invitation : SharedSessionInvitation) :
    validate invitation.dump = .error .invalid := by
  simp [validate, validModel, dump, required, withDefault, schemaVersion,
    Wire.validate_dump, onlyMembers, fieldNames,
    ChannelBinding.validate_dump_refused, Validated.both]
  rfl

end SharedSessionInvitation

end Control
end EidolonSdk
