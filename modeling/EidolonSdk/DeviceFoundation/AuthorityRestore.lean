import EidolonSdk.DeviceFoundation.AuthorityResolution

/-!
# Restoring

A locator can be built from the directory another one accepted.  The directory
goes through every check again, at the time it was issued, so what is restored
depends on how that time lies to the windows of the two certificates.
-/

namespace EidolonSdk
namespace DeviceFoundation

open Python Logic Pydantic Support

/-!
## Delegation

Of everything the anchor checks only the two certificate windows depend on the
time.
-/

section Restore

variable (P : LocatorPrimitives)

def Covers (certificate : P.Certificate) (now : Instant) : Prop :=
  (P.notValidBefore certificate).val ≤ now.val ∧
    now.val < (P.notValidAfter certificate).val

namespace OwnerDomainTrustAnchor

variable (anchor : OwnerDomainTrustAnchor)

/-- The root's certificate and the signing certificate of an anchor whose
delegation holds at some time. -/
structure Delegates (root certificate : P.Certificate) : Prop where
  rootLoads : anchor.ownerRootCertificate P = .ok root
  certificateLoads :
    P.loadPemCertificate anchor.authoritySigningCertificatePem =
      .ok certificate
  usage : constrainedUsage P root certificate = .ok (true, false, true)
  signed : exists rootKey, anchor.ownerRootKey P = .ok rootKey ∧
    P.verifyCertificate rootKey certificate = .valid

end OwnerDomainTrustAnchor

theorem refuseWhen_bind_eq_ok {α : Type} {refuses : Bool} {message : String}
    {rest : Except LocatorFailure α} {a : α} :
    (refuseWhen refuses message >>= fun _ => rest) = .ok a <->
      refuses = false ∧ rest = .ok a := by
  cases refuses with
  | true =>
      constructor
      · intro h
        cases h
      · intro h
        cases h.left
  | false =>
      constructor
      · intro h
        exact ⟨rfl, h⟩
      · intro h
        exact h.right

theorem requireSignature_eq_ok {check : SignatureCheck} {message : String} :
    requireSignature check message = .ok () <-> check = .valid := by
  cases check with
  | valid => exact ⟨fun _ => rfl, fun _ => rfl⟩
  | invalidSignature =>
      constructor
      · intro h
        cases h
      · intro h
        cases h
  | failure e =>
      constructor
      · intro h
        cases h
      · intro h
        cases h

theorem propagate_eq_ok {α : Type} {x : Except PyException α} {a : α} :
    propagate x = .ok a <-> x = .ok a := by
  cases x with
  | ok b => exact ⟨fun h => congrArg _ (Except.ok.inj h),
      fun h => congrArg _ (Except.ok.inj h)⟩
  | error e =>
      constructor
      · intro h
        cases h
      · intro h
        cases h

theorem utc_toDatetime (now : Instant) : utc now.toDatetime = .ok now := by
  have hzero : now.toDatetime.astimezoneUtc 0 = some now := by
    show Instant.ofMicros (now.val - 0) = some now
    rw [Int.sub_zero]
    exact Instant.ofMicros_val now
  rw [@utc_of_offset now.toDatetime 0 rfl, hzero]

theorem outside_eq_false {before after now : Int} :
    (decide (now < before) || decide (after ≤ now)) = false <->
      before ≤ now ∧ now < after := by
  rw [Bool.or_eq_false_iff, decide_eq_false_iff_not, decide_eq_false_iff_not,
    not_lt, not_le]

theorem validateDelegation_eq_ok {anchor : OwnerDomainTrustAnchor}
    {now : Instant} :
    anchor.validateDelegation P now.toDatetime = .ok () <->
      exists root certificate, anchor.Delegates P root certificate ∧
        Covers P root now ∧ Covers P certificate now := by
  unfold OwnerDomainTrustAnchor.validateDelegation
  rw [Logic.bind_eq_ok]
  constructor
  · intro h
    rcases h with ⟨root, hroot, h⟩
    rcases Logic.bind_eq_ok.mp h with ⟨certificate, hcertificate, h⟩
    rw [utc_toDatetime, Logic.ok_bind] at h
    rcases refuseWhen_bind_eq_ok.mp h with ⟨hrootNow, h⟩
    rcases refuseWhen_bind_eq_ok.mp h with ⟨hleafNow, h⟩
    rcases Logic.bind_eq_ok.mp h with ⟨⟨rootCa, ca, codeSigning⟩, husage, h⟩
    dsimp only at h
    rcases refuseWhen_bind_eq_ok.mp h with ⟨hrootCa, h⟩
    rcases refuseWhen_bind_eq_ok.mp h with ⟨hleaf, h⟩
    rcases Logic.bind_eq_ok.mp h with ⟨rootKey, hrootKey, h⟩
    have hsigned := requireSignature_eq_ok.mp h
    refine ⟨root, certificate, ⟨hroot, propagate_eq_ok.mp hcertificate, ?_,
      rootKey, hrootKey, hsigned⟩, outside_eq_false.mp hrootNow,
      outside_eq_false.mp hleafNow⟩
    rw [Bool.or_eq_false_iff, Bool.not_eq_false'] at hleaf
    rw [Bool.not_eq_false'] at hrootCa
    rw [husage, hrootCa, hleaf.left, hleaf.right]
  · intro h
    rcases h with ⟨root, certificate, hdelegates, hroot, hleaf⟩
    rcases hdelegates.signed with ⟨rootKey, hrootKey, hsigned⟩
    refine ⟨root, hdelegates.rootLoads, ?_⟩
    rw [hdelegates.certificateLoads]
    show (utc now.toDatetime >>= _) = _
    rw [utc_toDatetime, Logic.ok_bind]
    apply refuseWhen_bind_eq_ok.mpr
    refine ⟨outside_eq_false.mpr hroot, ?_⟩
    apply refuseWhen_bind_eq_ok.mpr
    refine ⟨outside_eq_false.mpr hleaf, ?_⟩
    rw [hdelegates.usage, hrootKey]
    exact requireSignature_eq_ok.mpr hsigned

/-!
## Restoring
-/

/-- `__init__`. -/
def AuthorityLocator.init (trustAnchor : OwnerDomainTrustAnchor)
    (accepted : Option OwnerDomainDescriptor) :
    Except LocatorFailure AuthorityLocator :=
  match accepted with
  | none => .ok (empty trustAnchor)
  | some descriptor =>
      match (accept P descriptor descriptor.issuedAt.toDatetime).run
          (empty trustAnchor) with
      | .ok _ self => .ok self
      | .error e _ => .error e

theorem run_liftExcept_bind_eq_ok {α β : Type} {x : Except LocatorFailure α}
    {f : α -> EStateM LocatorFailure AuthorityLocator β}
    {self self' : AuthorityLocator} {b : β} :
    (liftExcept x >>= f).run self = .ok b self' <->
      exists a, x = .ok a ∧ (f a).run self = .ok b self' := by
  constructor
  · intro h
    rcases run_liftExcept_bind x f self with ⟨e, herror⟩ | ⟨a, hx, hrun⟩
    · rw [herror] at h
      cases h
    · rw [hrun] at h
      exact ⟨a, hx, h⟩
  · intro h
    rcases h with ⟨a, hx, h⟩
    rw [hx]
    exact h

/-- The whole of what a call must meet at a known time. -/
theorem acceptAt_eq_ok {candidate : OwnerDomainDescriptor} {now : Instant}
    {self self' : AuthorityLocator} :
    (AuthorityLocator.acceptAt P candidate now self).run self =
        .ok () self' <->
      (self.trustAnchor.validateDelegation P now.toDatetime = .ok () ∧
        verifyDescriptor P candidate self.trustAnchor = .ok () ∧
        candidate.issuedAt.val ≤ now.val ∧
        now.val < candidate.expiresAt.val ∧
        followsAccepted candidate self.accepted = .ok ()) ∧
      self' = { self with accepted := some candidate } := by
  unfold AuthorityLocator.acceptAt
  constructor
  · intro h
    rcases run_liftExcept_bind_eq_ok.mp h with ⟨_, hdelegation, h⟩
    rcases run_liftExcept_bind_eq_ok.mp h with ⟨_, hverified, h⟩
    rcases run_liftExcept_bind_eq_ok.mp h with ⟨_, hissued, h⟩
    rcases run_liftExcept_bind_eq_ok.mp h with ⟨_, hexpires, h⟩
    rcases run_liftExcept_bind_eq_ok.mp h with ⟨_, hfollows, h⟩
    refine ⟨⟨hdelegation, hverified, ?_, ?_, hfollows⟩, ?_⟩
    · have hnot := refuseWhen_eq_ok.mp hissued
      rw [decide_eq_false_iff_not, not_lt] at hnot
      exact hnot
    · have hnot := refuseWhen_eq_ok.mp hexpires
      rw [decide_eq_false_iff_not, not_le] at hnot
      exact hnot
    · cases h
      rfl
  · intro h
    rcases h with ⟨⟨hdelegation, hverified, hissued, hexpires, hfollows⟩, hself⟩
    refine run_liftExcept_bind_eq_ok.mpr ⟨(), hdelegation, ?_⟩
    refine run_liftExcept_bind_eq_ok.mpr ⟨(), hverified, ?_⟩
    refine run_liftExcept_bind_eq_ok.mpr ⟨(), ?_, ?_⟩
    · rw [refuseWhen_eq_ok, decide_eq_false_iff_not, not_lt]
      exact hissued
    refine run_liftExcept_bind_eq_ok.mpr ⟨(), ?_, ?_⟩
    · rw [refuseWhen_eq_ok, decide_eq_false_iff_not, not_le]
      exact hexpires
    refine run_liftExcept_bind_eq_ok.mpr ⟨(), hfollows, ?_⟩
    rw [hself]
    rfl

theorem accept_eq_ok {candidate : OwnerDomainDescriptor} {now : Datetime}
    {self self' : AuthorityLocator} :
    (AuthorityLocator.accept P candidate now).run self = .ok () self' <->
      exists instant, utc now = .ok instant ∧
        (AuthorityLocator.acceptAt P candidate instant self).run self =
          .ok () self' := by
  have hget : (AuthorityLocator.accept P candidate now).run self =
      (liftExcept (utc now) >>= fun instant =>
        AuthorityLocator.acceptAt P candidate instant self).run self := rfl
  rw [hget]
  exact run_liftExcept_bind_eq_ok

theorem init_eq_ok {anchor : OwnerDomainTrustAnchor}
    {descriptor : OwnerDomainDescriptor} {locator : AuthorityLocator} :
    AuthorityLocator.init P anchor (some descriptor) = .ok locator <->
      (AuthorityLocator.acceptAt P descriptor descriptor.issuedAt
        (.empty anchor)).run (.empty anchor) = .ok () locator := by
  have haccept : (AuthorityLocator.accept P descriptor
        descriptor.issuedAt.toDatetime).run (.empty anchor) =
      (AuthorityLocator.acceptAt P descriptor descriptor.issuedAt
        (.empty anchor)).run (.empty anchor) := by
    show (liftExcept (utc descriptor.issuedAt.toDatetime) >>= fun instant =>
      AuthorityLocator.acceptAt P descriptor instant (.empty anchor)).run
        (.empty anchor) = _
    rw [utc_toDatetime]
    rfl
  unfold AuthorityLocator.init
  simp only [haccept]
  cases (AuthorityLocator.acceptAt P descriptor descriptor.issuedAt
      (.empty anchor)).run (.empty anchor) with
  | ok u self =>
      constructor
      · intro h
        rw [Except.ok.inj h]
      · intro h
        cases h
        rfl
  | error e self =>
      constructor
      · intro h
        cases h
      · intro h
        cases h

/-- Both certificates of the anchor are in force at this time or were before. -/
def OwnerDomainTrustAnchor.StartedBy (anchor : OwnerDomainTrustAnchor)
    (now : Instant) : Prop :=
  (forall root, anchor.ownerRootCertificate P = .ok root ->
    (P.notValidBefore root).val ≤ now.val) ∧
  forall certificate,
    P.loadPemCertificate anchor.authoritySigningCertificatePem =
      .ok certificate ->
    (P.notValidBefore certificate).val ≤ now.val

theorem startedBy_of_validateDelegation {anchor : OwnerDomainTrustAnchor}
    {now : Instant} (h : anchor.validateDelegation P now.toDatetime = .ok ()) :
    anchor.StartedBy P now := by
  rcases (validateDelegation_eq_ok P).mp h with
    ⟨root, certificate, hdelegates, hroot, hleaf⟩
  constructor
  · intro loaded hloaded
    have hsame : root = loaded :=
      Except.ok.inj (hdelegates.rootLoads.symm.trans hloaded)
    rw [← hsame]
    exact hroot.left
  · intro loaded hloaded
    have hsame : certificate = loaded :=
      Except.ok.inj (hdelegates.certificateLoads.symm.trans hloaded)
    rw [← hsame]
    exact hleaf.left

/-- A delegation that is in force was in force since its certificates
started. -/
theorem validateDelegation_earlier {anchor : OwnerDomainTrustAnchor}
    {earlier now : Instant} (hle : earlier.val ≤ now.val)
    (hstarted : anchor.StartedBy P earlier)
    (h : anchor.validateDelegation P now.toDatetime = .ok ()) :
    anchor.validateDelegation P earlier.toDatetime = .ok () := by
  rcases (validateDelegation_eq_ok P).mp h with
    ⟨root, certificate, hdelegates, hroot, hleaf⟩
  apply (validateDelegation_eq_ok P).mpr
  refine ⟨root, certificate, hdelegates, ⟨?_, ?_⟩, ?_, ?_⟩
  · exact hstarted.left root hdelegates.rootLoads
  · exact lt_of_le_of_lt hle hroot.right
  · exact hstarted.right certificate hdelegates.certificateLoads
  · exact lt_of_le_of_lt hle hleaf.right

theorem after_eq_of_accepted {anchor : OwnerDomainTrustAnchor}
    {calls : List LocatorCall} {descriptor : OwnerDomainDescriptor}
    (h : (AuthorityLocator.after P anchor calls).accepted = some descriptor) :
    AuthorityLocator.after P anchor calls = ⟨anchor, some descriptor⟩ := by
  rw [after_eq_register] at h ⊢
  exact congrArg _ h

/-- A locator that is built again from what it holds is checked at the time the
directory was issued, which may lie before the certificates start. -/
theorem restores_iff (anchor : OwnerDomainTrustAnchor)
    (calls : List LocatorCall) (descriptor : OwnerDomainDescriptor)
    (haccepted : (AuthorityLocator.after P anchor calls).accepted =
      some descriptor) :
    (exists locator,
      AuthorityLocator.init P anchor (some descriptor) = .ok locator ∧
      locator.accepted = some descriptor ∧
      forall ownerDomainId authority now,
        locator.resolve ownerDomainId authority now =
          (AuthorityLocator.after P anchor calls).resolve ownerDomainId
            authority now) <->
      anchor.StartedBy P descriptor.issuedAt := by
  rcases accepted_by_call P haccepted with
    ⟨pre, c, suf, _, hcandidate, self', hrun⟩
  rcases (accept_eq_ok P).mp hrun with ⟨instant, _, hrun⟩
  rcases ((acceptAt_eq_ok P).mp hrun).left with
    ⟨hdelegation, hverified, hissued, hexpires, _⟩
  rw [after_trustAnchor] at hdelegation hverified
  rw [hcandidate] at hverified hissued hexpires
  constructor
  · intro h
    rcases h with ⟨locator, hinit, _⟩
    have hrestore := ((acceptAt_eq_ok P).mp ((init_eq_ok P).mp hinit)).left.left
    exact startedBy_of_validateDelegation P hrestore
  · intro hstarted
    refine ⟨⟨anchor, some descriptor⟩, ?_, rfl, ?_⟩
    · apply (init_eq_ok P).mpr
      apply (acceptAt_eq_ok P).mpr
      refine ⟨⟨?_, hverified, le_refl _, lt_of_le_of_lt hissued hexpires,
        rfl⟩, rfl⟩
      exact validateDelegation_earlier P hissued hstarted hdelegation
    · intro ownerDomainId authority now
      rw [after_eq_of_accepted P haccepted]

end Restore

theorem late_certificate_not_restored :
    (AuthorityLocator.after (samplePrimitives lateStart) sampleAnchor
      [sampleCall]).accepted = some sampleDescriptor ∧
    AuthorityLocator.init (samplePrimitives lateStart) sampleAnchor
      (some sampleDescriptor) =
        locatorError "authority signing certificate is not valid now" := by
  constructor
  · decide
  · rfl

theorem early_certificate_restored :
    (exists locator,
      AuthorityLocator.init (samplePrimitives earlyStart) sampleAnchor
        (some sampleDescriptor) = .ok locator ∧
      locator.accepted = some sampleDescriptor ∧
      forall ownerDomainId authority now,
        locator.resolve ownerDomainId authority now =
          (AuthorityLocator.after (samplePrimitives earlyStart) sampleAnchor
            [sampleCall]).resolve ownerDomainId authority now) <->
      sampleAnchor.StartedBy (samplePrimitives earlyStart)
        sampleDescriptor.issuedAt :=
  restores_iff (samplePrimitives earlyStart) sampleAnchor [sampleCall]
    sampleDescriptor (by decide)

end DeviceFoundation
end EidolonSdk
