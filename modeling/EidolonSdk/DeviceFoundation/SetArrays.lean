import EidolonSdk.DeviceFoundation.Authorization
import EidolonSdk.DeviceFoundation.ContractReaders
import EidolonSdk.DeviceFoundation.TimestampReaders

/-!
# What escapes from a set

An array that is a set is checked before its items are, and a Python set takes
hashable items only.  A list or an object among the items ends the validation with
an exception that is no refusal.  So do a scope that cannot be stripped and a
timestamp that leaves the calendar on its way to UTC, in the documents that have
one.
-/

namespace EidolonSdk
namespace DeviceFoundation

open Python Pydantic

/-!
## Values that escape
-/

/-- An array with a list or an object in it. -/
def Unhashable (value : Json) : Prop :=
  exists items, value = .array items ∧
    exists item, item ∈ items ∧ item.hashKey = none

/-- Scopes with an item that cannot be hashed or, of distinct items, stripped. -/
def ScopesRaise (value : Json) : Prop :=
  Unhashable value ∨ ScopesEscape value

/-- The text of an aware datetime that UTC has no year for. -/
def MomentEscapes (value : Json) : Prop :=
  exists s moment offset, value = .str s ∧ Names s moment offset ∧
    ¬ InRange (moment.wall - offset)

/-- An object whose members are of some kind. -/
def ObjectOf (kind : Members -> Prop) (value : Json) : Prop :=
  exists members, value = .object members ∧ kind members

section Fields

variable {α : Type} {members : Members} {name : String} {value : Json}

theorem allDistinct_eq_error {items : List Json} :
    (exists e, allDistinct items = .error e) <->
      exists item, item ∈ items ∧ item.hashKey = none := by
  unfold allDistinct
  split
  · rename_i h
    refine iff_of_false nofun ?_
    intro hparts
    rcases hparts with ⟨item, hitem, hnone⟩
    have hsome := List.all_eq_true.mp h item hitem
    rw [hnone] at hsome
    cases hsome
  · rename_i h
    refine iff_of_true ⟨_, rfl⟩ ?_
    simp only [List.all_eq_true, not_forall] at h
    rcases h with ⟨item, hitem, hnone⟩
    exact ⟨item, hitem, Option.not_isSome_iff_eq_none.mp hnone⟩

theorem raises_validUnique [DecidableEq α] {validate : Validator α}
    {rule : LengthRule} (h : forall v, Quiet (validate v)) :
    Raises (validUnique rule validate value) <-> Unhashable value := by
  unfold validUnique
  split
  · rename_i items
    have hunhashable : Unhashable (.array items) <->
        exists e, allDistinct items = .error e := by
      rw [allDistinct_eq_error]
      unfold Unhashable
      simp only [Json.array.injEq, exists_eq_left']
    rw [hunhashable]
    split
    · rename_i e herror
      exact iff_of_true ⟨e, rfl⟩ ⟨e, herror⟩
    · rename_i hdistinct
      refine iff_of_false quiet_invalid.not_raises ?_
      intro hparts
      rcases hparts with ⟨e, herror⟩
      rw [hdistinct] at herror
      cases herror
    · rename_i hdistinct
      refine iff_of_false (Quiet.not_raises ?_) ?_
      · apply (quiet_validTuple rule h _).bind
        intro values
        split
        · exact quiet_ok _
        · exact quiet_invalid
      · intro hparts
        rcases hparts with ⟨e, herror⟩
        rw [hdistinct] at herror
        cases herror
  · rename_i harray
    refine iff_of_false quiet_invalid.not_raises ?_
    intro hparts
    rcases hparts with ⟨items, heq, _⟩
    exact harray items heq

theorem raises_validScopes :
    Raises (validScopes value) <-> ScopesRaise value := by
  unfold Raises
  simp only [validScopes_raised]
  constructor
  · intro h
    rcases h with ⟨e, he⟩
    unfold uniqueScopes at he
    split at he
    · rename_i items
      split at he
      · rename_i e' herror
        exact Or.inl ⟨items, rfl, allDistinct_eq_error.mp ⟨e', herror⟩⟩
      · cases he
      · rename_i hdistinct
        rcases allDistinct_ok.mp hdistinct with ⟨hhash, hnodup⟩
        split at he
        · rename_i e' herror
          exact Or.inr ⟨items, rfl, hhash, hnodup,
            (anyBlank_eq_error.mp herror).left⟩
        · cases he
        · cases he
    · cases he
  · intro h
    rcases h with ⟨items, rfl, hitem⟩ | hescape
    · rcases allDistinct_eq_error.mpr hitem with ⟨e, he⟩
      exact ⟨e, by simp only [uniqueScopes, he]⟩
    · exact ⟨_, uniqueScopes_escape hescape⟩

theorem awareDatetime_of_names {s : PyStr} {moment : Datetime} {offset : Int}
    (h : Names s moment offset) :
    Raises (Pydantic.awareDatetime (.str s)) <->
      ¬ InRange (moment.wall - offset) := by
  rw [awareDatetime_str, read_of_names h]
  by_cases hrange : InRange (moment.wall - offset)
  · have hok : toUtc moment offset = .ok ⟨_, hrange⟩ := toUtc_eq_ok.mpr rfl
    rw [hok]
    exact iff_of_false (quiet_ok _).not_raises (not_not_intro hrange)
  · rw [toUtc_eq_overflow hrange]
    exact iff_of_true ⟨_, rfl⟩ hrange

theorem raises_instant :
    Raises (Wire.instant.validate value) <-> MomentEscapes value := by
  constructor
  · intro h
    cases value with
    | str s =>
        by_cases hnames : exists moment offset, Names s moment offset
        · rcases hnames with ⟨moment, offset, hnames⟩
          exact ⟨s, moment, offset, rfl, hnames,
            (awareDatetime_of_names hnames).mp h⟩
        · rcases read_of_not_names hnames with ⟨error, hread, hvalue⟩
          have hrefused : Wire.instant.validate (.str s) = .error .invalid := by
            show Pydantic.awareDatetime (.str s) = _
            rw [awareDatetime_str, hread]
            show Except.error (Fault.ofException error.exception) = _
            rw [hvalue]
            rfl
          rw [hrefused] at h
          exact absurd h quiet_invalid.not_raises
    | null => exact absurd h quiet_invalid.not_raises
    | bool b => exact absurd h quiet_invalid.not_raises
    | int n => exact absurd h quiet_invalid.not_raises
    | float x => exact absurd h quiet_invalid.not_raises
    | array items => exact absurd h quiet_invalid.not_raises
    | object members => exact absurd h quiet_invalid.not_raises
  · intro hparts
    rcases hparts with ⟨s, moment, offset, rfl, hnames, hrange⟩
    exact (awareDatetime_of_names hnames).mpr hrange

theorem raises_nullable {wire : Wire α}
    {h : forall a, Wire.isNull (wire.dump a) = false} :
    Raises ((wire.nullable h).validate value) <->
      value ≠ .null ∧ Raises (wire.validate value) := by
  by_cases hnull : value = .null
  · subst hnull
    exact iff_of_false (quiet_ok _).not_raises (fun hne => hne.left rfl)
  · have hvalidate : (wire.nullable h).validate value =
        (wire.validate value).map some := by
      simp only [Wire.nullable]
    rw [hvalidate, raises_map]
    exact (and_iff_right hnull).symm

end Fields

/-!
## What escapes from a document
-/

/-- The members of a query. -/
def QueryEscapes (members : Members) : Prop :=
  MemberAt members "states" Unhashable ∨
    MemberAt members "cursor" (ObjectOf fun cursor =>
      MemberAt cursor "sort_key" MomentEscapes)

def ActorEscapes (members : Members) : Prop :=
  MemberAt members "granted_scopes" ScopesRaise

def AuthorizationEscapes (members : Members) : Prop :=
  MemberAt members "actor" (ObjectOf ActorEscapes) ∨
    MemberAt members "scopes" Unhashable ∨
    MemberAt members "issued_at" MomentEscapes ∨
    MemberAt members "expires_at" MomentEscapes

def DecisionEscapes (members : Members) : Prop :=
  MemberAt members "initial_capability_policy_refs" Unhashable

def AssignmentEscapes (members : Members) : Prop :=
  MemberAt members "policy_refs" Unhashable ∨
    MemberAt members "updated_at" MomentEscapes ∨
    MemberAt members "status" (ObjectOf fun status =>
      MemberAt status "conditions" Unhashable)

def EndpointEscapes (members : Members) : Prop :=
  MemberAt members "roles" Unhashable ∨
    MemberAt members "assignment" (ObjectOf AssignmentEscapes)

section Documents

variable {members : Members} {name : String} {α : Type}

theorem raises_member {validate : Validator α} {kind : Json -> Prop}
    (h : forall value, Raises (validate value) <-> kind value) :
    Raises (required members name validate) <-> MemberAt members name kind := by
  rw [raises_required]
  exact exists_congr fun value => and_congr_right fun _ => h value

theorem raises_object {validate : Members -> Validated α}
    {kind : Members -> Prop}
    (h : forall members, Raises (validate members) <-> kind members)
    (value : Json) :
    Raises (validModel validate value) <-> ObjectOf kind value := by
  rw [raises_validModel]
  exact exists_congr fun members => and_congr_right fun _ => h members

/-- What can be left open and escapes is an object. -/
theorem raises_optional {wire : Wire α}
    {h : forall a, Wire.isNull (wire.dump a) = false} {kind : Members -> Prop}
    (hwire : forall value, Raises (wire.validate value) <-> ObjectOf kind value)
    (value : Json) :
    Raises ((wire.nullable h).validate value) <-> ObjectOf kind value := by
  rw [raises_nullable, hwire]
  constructor
  · intro hraises
    exact hraises.right
  · intro hparts
    rcases hparts with ⟨members, rfl, hkind⟩
    exact ⟨nofun, members, rfl, hkind⟩

/-- A member that is validated quietly does not raise. -/
theorem not_raises_required {validate : Validator α}
    (h : forall value, Quiet (validate value)) :
    ¬ Raises (required members name validate) :=
  (quiet_required h).not_raises

theorem not_raises_withDefault {validate : Validator α} {default : α}
    (h : forall value, Quiet (validate value)) :
    ¬ Raises (withDefault members name default validate) :=
  (quiet_withDefault h).not_raises

theorem not_raises_onlyMembers (names : List String) :
    ¬ Raises (onlyMembers members names) :=
  (quiet_onlyMembers members names).not_raises

theorem raises_cursor (value : Json) :
    Raises (AdmissionListCursor.wire.validate value) <->
      ObjectOf (fun cursor => MemberAt cursor "sort_key" MomentEscapes) value := by
  apply raises_object
  intro members
  have howner : ¬ Raises (required members "owner_domain_id"
      (nominal "owner-").validate) :=
    not_raises_required (quiet_validNominal _)
  have hresource : ¬ Raises (required members "resource_id"
      (Wire.text nameRule).validate) :=
    not_raises_required (quiet_validStr _)
  simp only [raises_map, raises_both, howner, hresource, not_raises_onlyMembers,
    false_or, or_false]
  exact raises_member fun _ => raises_instant

/-- The last check of a model only refuses. -/
theorem not_raises_check {p : Prop} [Decidable p] {build : p -> α} :
    ¬ Raises (if h : p then .ok (build h) else .error .invalid : Validated α) := by
  split
  · exact (quiet_ok _).not_raises
  · exact quiet_invalid.not_raises

theorem quiet_validLimit (value : Json) : Quiet (validLimit value) := by
  unfold validLimit
  split
  · split
    · exact quiet_ok _
    · exact quiet_invalid
  · exact quiet_invalid

theorem raises_query [DecidableEq α] {wire : Wire α}
    (hwire : forall value, Quiet (wire.validate value)) :
    Raises (StateQuery.validate wire (.object members)) <->
      QueryEscapes members := by
  have howner : ¬ Raises (required members "owner_domain_id"
      (nominal "owner-").validate) :=
    not_raises_required (quiet_validNominal _)
  have hlimit : ¬ Raises (required members "limit" validLimit) :=
    not_raises_required quiet_validLimit
  have hstates := @raises_member members "states" _
    (validUnique nonEmptyRule wire.validate) Unhashable
    (fun _ => raises_validUnique hwire)
  have hcursor := @raises_member members "cursor" _
    EnrollmentProposalPage.optionalCursor.validate _
    (raises_optional raises_cursor)
  unfold StateQuery.validate validModel
  dsimp only
  rw [raises_bind, or_iff_left]
  · simp only [raises_both, howner, hlimit, not_raises_onlyMembers, false_or,
      or_false, hstates, hcursor]
    rfl
  · intro h
    rcases h with ⟨fields, _, hraises⟩
    exact not_raises_check hraises

theorem raises_actor (value : Json) :
    Raises (ActorRef.validate value) <-> ObjectOf ActorEscapes value := by
  apply raises_object
  intro members
  have hprincipal : ¬ Raises (required members "principal_id"
      (validStr identifierRule)) :=
    not_raises_required (quiet_validStr _)
  have hkind : ¬ Raises (required members "principal_type"
      PrincipalType.wire.validate) :=
    not_raises_required (quiet_validWord _)
  have howner : ¬ Raises (withDefault members "owner_domain_id" none
      optionalOwner.validate) := by
    apply not_raises_withDefault
    intro value
    rw [quiet_iff_not_raises]
    exact fun h => (quiet_validNominal _ _).not_raises (raises_nullable.mp h).right
  have hstrength : ¬ Raises (required members "authentication_strength"
      (validWord AuthenticationStrength.words)) :=
    not_raises_required (quiet_validWord _)
  simp only [raises_map, raises_both, hprincipal, hkind, howner, hstrength,
    not_raises_onlyMembers, false_or, or_false]
  exact raises_member fun _ => raises_validScopes

theorem raises_authorization :
    Raises (OwnerAuthorizationContext.validate (.object members)) <->
      AuthorizationEscapes members := by
  have hidentifier : forall name, ¬ Raises (required members name
      (validStr identifierRule)) := fun _ =>
    not_raises_required (quiet_validStr _)
  have howner : ¬ Raises (required members "authorized_owner_domain_id"
      (nominal "owner-").validate) :=
    not_raises_required (quiet_validNominal _)
  have haudience : ¬ Raises (withDefault members "audience" ()
      (Wire.literal "eidolon-admission").validate) :=
    not_raises_withDefault (quiet_validWord _)
  have htarget : ¬ Raises (required members "target_device_ref"
      DeviceRef.wire.validate) :=
    not_raises_required DeviceRef.quiet_validate
  have hactor := @raises_member members "actor" _ ActorRef.validate _ raises_actor
  have hscopes := @raises_member members "scopes" _
    (validUnique nonEmptyRule AuthorizationScope.wire.validate) Unhashable
    (fun _ => raises_validUnique (quiet_validWord _))
  have hinstant : forall name, Raises (required members name
      Wire.instant.validate) <-> MemberAt members name MomentEscapes := fun _ =>
    raises_member fun _ => raises_instant
  unfold OwnerAuthorizationContext.validate validModel
  dsimp only
  rw [raises_bind, or_iff_left]
  · simp only [raises_both, hidentifier, howner, haudience, htarget,
      not_raises_onlyMembers, false_or, or_false, hactor, hscopes, hinstant]
    rfl
  · intro h
    rcases h with ⟨fields, _, hraises⟩
    exact not_raises_check hraises

theorem quiet_manifestRef (value : Json) : Quiet (ManifestRef.validate value) := by
  unfold ManifestRef.validate validModel
  split
  · exact ((quiet_required (quiet_validStr _)).both
      ((quiet_required (quiet_validInt _)).both
        ((quiet_required (quiet_validStr _)).both
          (quiet_onlyMembers _ _)))).map
  · exact quiet_invalid

theorem quiet_optionalText (rule : StrRule) (value : Json) :
    Quiet ((optionalText rule).validate value) := by
  rw [quiet_iff_not_raises]
  exact fun h => (quiet_validStr rule value).not_raises (raises_nullable.mp h).right

theorem quiet_anyText (value : Json) : Quiet (Wire.anyText.validate value) := by
  cases value with
  | str s => exact quiet_ok _
  | null => exact quiet_invalid
  | bool b => exact quiet_invalid
  | int n => exact quiet_invalid
  | float x => exact quiet_invalid
  | array items => exact quiet_invalid
  | object members => exact quiet_invalid

theorem quiet_boolean (value : Json) : Quiet (Wire.boolean.validate value) := by
  cases value with
  | bool b => exact quiet_ok _
  | null => exact quiet_invalid
  | int n => exact quiet_invalid
  | float x => exact quiet_invalid
  | str s => exact quiet_invalid
  | array items => exact quiet_invalid
  | object members => exact quiet_invalid

theorem quiet_validAssignmentIntent (value : Json) :
    Quiet (validAssignmentIntent value) := by
  unfold validAssignmentIntent
  split
  · exact quiet_ok _
  · exact quiet_ok _
  · exact quiet_invalid

theorem raises_decision :
    Raises (DecideEnrollment.validate (.object members)) <->
      DecisionEscapes members := by
  have henrollment : ¬ Raises (required members "enrollment_id"
      (Wire.text nameRule).validate) :=
    not_raises_required (quiet_validStr _)
  have hrevision : ¬ Raises (required members "expected_proposal_revision"
      (Wire.integer 1).validate) :=
    not_raises_required (quiet_validInt _)
  have hdecision : ¬ Raises (required members "decision"
      Verdict.wire.validate) :=
    not_raises_required (quiet_validWord _)
  have howner : ¬ Raises (required members "target_owner_domain_id"
      (nominal "owner-").validate) :=
    not_raises_required (quiet_validNominal _)
  have hbusiness : ¬ Raises (required members "target_business_owner_id"
      (nominal "owner_").validate) :=
    not_raises_required (quiet_validNominal _)
  have hspace : ¬ Raises (withDefault members "target_space_id" none
      (optionalText nameRule).validate) :=
    not_raises_withDefault (quiet_optionalText _)
  have hmanifest : ¬ Raises (required members "reviewed_manifest_ref"
      ManifestRef.wire.validate) :=
    not_raises_required quiet_manifestRef
  have hintent : ¬ Raises (withDefault members "initial_assignment_intent" none
      validAssignmentIntent) :=
    not_raises_withDefault quiet_validAssignmentIntent
  unfold DecideEnrollment.validate validModel
  dsimp only
  simp only [raises_map, raises_both, henrollment, hrevision, hdecision, howner,
    hbusiness, hspace, hmanifest, hintent, not_raises_onlyMembers, false_or,
    or_false]
  rw [raises_withDefault]
  exact exists_congr fun value => and_congr_right fun _ =>
    raises_validUnique quiet_anyText

theorem raises_status (value : Json) :
    Raises (BodyAssignmentStatus.wire.validate value) <->
      ObjectOf (fun status => MemberAt status "conditions" Unhashable) value := by
  apply raises_object
  intro members
  have hgeneration : ¬ Raises (required members "observed_generation"
      (Wire.integer 1).validate) :=
    not_raises_required (quiet_validInt _)
  have hcompanion : ¬ Raises (required members "effective_companion_id"
      (optionalText (boundedRule 64)).validate) :=
    not_raises_required (quiet_optionalText _)
  simp only [raises_map, raises_both, hgeneration, hcompanion,
    not_raises_onlyMembers, false_or, or_false]
  exact raises_member fun _ => raises_validUnique (quiet_validWord _)

theorem raises_assignment (value : Json) :
    Raises (BodyAssignment.wire.validate value) <->
      ObjectOf AssignmentEscapes value := by
  apply raises_object
  intro members
  have hoperation : ¬ Raises (withDefault members "operation" ()
      (Wire.literal "kernel.body-assignment").validate) :=
    not_raises_withDefault (quiet_validWord _)
  have htext : forall name rule, ¬ Raises (required members name
      (Wire.text rule).validate) := fun _ _ =>
    not_raises_required (quiet_validStr _)
  have hoptional : forall name rule, ¬ Raises (required members name
      (optionalText rule).validate) := fun _ _ =>
    not_raises_required (quiet_optionalText _)
  have hinteger : forall name, ¬ Raises (required members name
      (Wire.integer 1).validate) := fun _ =>
    not_raises_required (quiet_validInt _)
  have hprovenance : ¬ Raises (required members "selection_provenance"
      SelectionProvenance.wire.validate) :=
    not_raises_required (quiet_validWord _)
  have hmode : ¬ Raises (required members "mode"
      AssignmentMode.wire.validate) :=
    not_raises_required (quiet_validWord _)
  have hpolicies := @raises_member members "policy_refs" _
    policyRefsWire.validate Unhashable (fun _ => raises_validUnique quiet_anyText)
  have hupdated := @raises_member members "updated_at" _ Wire.instant.validate _
    (fun _ => raises_instant)
  have hstatus := @raises_member members "status" _
    BodyAssignmentStatus.wire.validate _ raises_status
  simp only [raises_map, raises_both, hoperation, htext, hoptional, hinteger,
    hprovenance, hmode, not_raises_onlyMembers, false_or, or_false, hpolicies,
    hupdated, hstatus]
  rfl

theorem raises_endpoint :
    Raises (BodyEndpoint.validate (.object members)) <->
      EndpointEscapes members := by
  have hoperation : ¬ Raises (withDefault members "operation" ()
      (Wire.literal "kernel.body-endpoint").validate) :=
    not_raises_withDefault (quiet_validWord _)
  have htext : forall name rule, ¬ Raises (required members name
      (Wire.text rule).validate) := fun _ _ =>
    not_raises_required (quiet_validStr _)
  have hdevice : ¬ Raises (required members "device_ref"
      DeviceRef.wire.validate) :=
    not_raises_required DeviceRef.quiet_validate
  have hmount : ¬ Raises (required members "mount_revision"
      (Wire.integer 1).validate) :=
    not_raises_required (quiet_validInt _)
  have hpolicy : ¬ Raises (required members "assignment_policy"
      AssignmentPolicy.wire.validate) :=
    not_raises_required (quiet_validWord _)
  have hrisk : ¬ Raises (required members "risk_class"
      RiskClass.wire.validate) :=
    not_raises_required (quiet_validWord _)
  have hconcurrency : ¬ Raises (required members "concurrency"
      Concurrency.wire.validate) :=
    not_raises_required (quiet_validWord _)
  have hsource : ¬ Raises (required members "source"
      EndpointSource.wire.validate) :=
    not_raises_required (quiet_validWord _)
  have hpresent : ¬ Raises (required members "present"
      Wire.boolean.validate) :=
    not_raises_required quiet_boolean
  have hroles := @raises_member members "roles" _ rolesWire.validate Unhashable
    (fun _ => raises_validUnique (quiet_validWord _))
  have hassignment := @raises_member members "assignment" _
    BodyEndpoint.optionalAssignment.validate _ (raises_optional raises_assignment)
  unfold BodyEndpoint.validate validModel
  dsimp only
  simp only [raises_map, raises_both, hoperation, htext, hdevice, hmount, hpolicy,
    hrisk, hconcurrency, hsource, hpresent, not_raises_onlyMembers, false_or,
    or_false, hroles, hassignment]
  rfl

end Documents

/-!
## Every document
-/

/-- A validation returns a value with some property, or refuses. -/
def Closed {α : Type} (x : Validated α) (p : α -> Prop) : Prop :=
  (exists a, x = .ok a ∧ p a) ∨ x = .error .invalid

theorem closed_iff {α : Type} {x : Validated α} {p : α -> Prop}
    (h : forall a, p a) : Closed x p <-> ¬ Raises x := by
  cases x with
  | ok a => exact iff_of_true (Or.inl ⟨a, rfl, h a⟩) (quiet_ok a).not_raises
  | error fault =>
      cases fault with
      | invalid => exact iff_of_true (Or.inr rfl) quiet_invalid.not_raises
      | raised e =>
          refine iff_of_false ?_ (not_not_intro ⟨e, rfl⟩)
          intro hparts
          rcases hparts with ⟨a, heq, _⟩ | heq
          · cases heq
          · cases heq

/-- The documents with an array that is a set. -/
inductive SetDocument where
  | enrollmentProposalQuery
  | claimQuery
  | decideEnrollment
  | actorRef
  | ownerAuthorizationContext
  | bodyEndpoint

namespace SetDocument

/-- The document is accepted with all its sets free of duplicates, or refused. -/
def FailsClosed (document : SetDocument) (members : Members) : Prop :=
  match document with
  | .enrollmentProposalQuery =>
      Closed (EnrollmentProposalQuery.validate (.object members)) fun query =>
        query.states.val.Nodup
  | .claimQuery =>
      Closed (ClaimQuery.validate (.object members)) fun query =>
        query.states.val.Nodup
  | .decideEnrollment =>
      Closed (DecideEnrollment.validate (.object members)) fun decision =>
        decision.initialCapabilityPolicyRefs.val.Nodup
  | .actorRef =>
      Closed (ActorRef.validate (.object members)) fun actor =>
        actor.grantedScopes.val.Nodup
  | .ownerAuthorizationContext =>
      Closed (OwnerAuthorizationContext.validate (.object members))
        fun context =>
          context.scopes.val.Nodup ∧ context.actor.grantedScopes.val.Nodup
  | .bodyEndpoint =>
      Closed (BodyEndpoint.validate (.object members)) fun endpoint =>
        endpoint.roles.val.Nodup ∧
          forall assignment, assignment ∈ endpoint.assignment ->
            assignment.policyRefs.val.Nodup ∧
              assignment.status.conditions.val.Nodup

/-- A member of the document ends the validation with another exception. -/
def Escapes (document : SetDocument) (members : Members) : Prop :=
  match document with
  | .enrollmentProposalQuery => QueryEscapes members
  | .claimQuery => QueryEscapes members
  | .decideEnrollment => DecisionEscapes members
  | .actorRef => ActorEscapes members
  | .ownerAuthorizationContext => AuthorizationEscapes members
  | .bodyEndpoint => EndpointEscapes members

/-- The documents fail closed unless something in them escapes. -/
theorem failsClosed_iff (document : SetDocument) (members : Members) :
    document.FailsClosed members <-> ¬ document.Escapes members := by
  cases document with
  | enrollmentProposalQuery =>
      exact (closed_iff fun query => query.states.property.right).trans
        (not_congr (raises_query (quiet_validWord _)))
  | claimQuery =>
      exact (closed_iff fun query => query.states.property.right).trans
        (not_congr (raises_query (quiet_validWord _)))
  | decideEnrollment =>
      exact (closed_iff fun decision =>
        decision.initialCapabilityPolicyRefs.property.right).trans
          (not_congr raises_decision)
  | actorRef =>
      have hraises : Raises (ActorRef.validate (.object members)) <->
          ActorEscapes members := by
        rw [raises_actor]
        constructor
        · intro h
          rcases h with ⟨members', heq, hescapes⟩
          cases heq
          exact hescapes
        · intro hescapes
          exact ⟨members, rfl, hescapes⟩
      exact (closed_iff fun actor => actor.grantedScopes.property.right.left).trans
        (not_congr hraises)
  | ownerAuthorizationContext =>
      exact (closed_iff fun context => ⟨context.scopes.property.right,
        context.actor.grantedScopes.property.right.left⟩).trans
          (not_congr raises_authorization)
  | bodyEndpoint =>
      exact (closed_iff fun endpoint => ⟨endpoint.roles.property.right,
        fun assignment _ => ⟨assignment.policyRefs.property.right,
          assignment.status.conditions.property.right⟩⟩).trans
            (not_congr raises_endpoint)

/-!
A query for a list of states in a list.
-/

def nestedStates : Members :=
  [(str "owner_domain_id", .str (str "owner-domain-1")),
    (str "states", .array [.array [.str (str "active")]]), (str "cursor", .null),
    (str "limit", .int 10)]

theorem not_failsClosed :
    ¬ forall (document : SetDocument) (members : Members),
      document.FailsClosed members := by
  intro h
  have hstates : nestedStates.get "states" =
      some (.array [.array [.str (str "active")]]) := by
    simp [nestedStates]
  have hescapes : QueryEscapes nestedStates :=
    Or.inl ⟨_, hstates, _, rfl, _, List.mem_cons_self, rfl⟩
  have hclosed : Closed (ClaimQuery.validate (.object nestedStates))
      fun query => query.states.val.Nodup := h .claimQuery nestedStates
  exact (closed_iff fun query : ClaimQuery => query.states.property.right).mp hclosed
    ((raises_query (quiet_validWord _)).mpr hescapes)

end SetDocument

end DeviceFoundation
end EidolonSdk
