import EidolonSdk.Control.SharedSession
import EidolonSdk.DeviceFoundation.Admission
import EidolonSdk.DeviceFoundation.AuthorityWire
import EidolonSdk.DeviceFoundation.Events

/-!
# The rule of the wire models

A canonical model validates its own JSON form.  The Admission and Body messages
follow the rule, at every depth; the directory and the shared-session grant do
not follow it for a single value.
-/

namespace EidolonSdk

open Python Pydantic DeviceFoundation Control

theorem messages_validate_own_dump :
    (forall page : EnrollmentProposalPage,
      EnrollmentProposalPage.validate page.dump = .ok page) ∧
    (forall projection : EnrollmentRecoveryProjection,
      EnrollmentRecoveryProjection.validate projection.dump =
        .ok projection) ∧
    (forall page : ClaimEventPage,
      ClaimEventPage.validate page.dump = .ok page) ∧
    (forall endpoint : BodyEndpoint,
      BodyEndpoint.validate endpoint.dump = .ok endpoint) :=
  ⟨EnrollmentProposalPage.validate_dump,
    EnrollmentRecoveryProjection.validate_dump, ClaimEventPage.validate_dump,
    BodyEndpoint.validate_dump⟩

theorem grants_refuse_own_dump (descriptor : OwnerDomainDescriptor)
    (binding : ChannelBinding) (invitation : SharedSessionInvitation) :
    OwnerDomainDescriptor.validate descriptor.dump = .error .invalid ∧
    ChannelBinding.validate binding.dump = .error .invalid ∧
    SharedSessionInvitation.validate invitation.dump = .error .invalid :=
  ⟨OwnerDomainDescriptor.validate_refused descriptor.dump,
    ChannelBinding.validate_dump_refused binding,
    SharedSessionInvitation.validate_dump_refused invitation⟩

def sharedChannel : ChannelBinding where
  channelId := ⟨str "channel-1", by decide⟩
  purpose := ⟨str "shared-session", accepts_sharedSession⟩
  kinds := ⟨[str "audio"], accepts_audio⟩
  bindingFormat := ⟨str "opaque", by decide⟩
  issuedAtMs := IntFrom.lowest 0
  expiresAtMs := ⟨1000, by decide⟩
  opaqueBinding := ⟨str "grant", by decide⟩

def sharedInvitation : SharedSessionInvitation where
  sessionId := ⟨str "session-1", by decide⟩
  deviceRef := lostDevice
  deadlineMs := ⟨500, by decide⟩
  channel := sharedChannel
  scope := by decide

/-- A valid directory, a channel and an invitation over it. -/
theorem valid_grants_refused :
    sampleDescriptor.Valid ∧
    OwnerDomainDescriptor.validate sampleDescriptor.dump ≠
      .ok sampleDescriptor ∧
    ChannelBinding.validate sharedChannel.dump ≠ .ok sharedChannel ∧
    SharedSessionInvitation.validate sharedInvitation.dump ≠
      .ok sharedInvitation := by
  refine ⟨sampleDescriptor_valid, ?_, ?_, ?_⟩
  · rw [OwnerDomainDescriptor.validate_refused]
    exact nofun
  · rw [ChannelBinding.validate_dump_refused]
    exact nofun
  · rw [SharedSessionInvitation.validate_dump_refused]
    exact nofun

end EidolonSdk
