import EidolonSdk.DeviceFoundation.Actors
import EidolonSdk.Python.LocalTime
import EidolonSdk.Python.PyJwt
import Mathlib.Data.Finset.Dedup

/-!
# Admission credentials

The header an Admission mutation is presented with: minted from a credential,
taken apart into the same credential.  A credential carries its two invariants,
so one that says two things about one fact cannot be built.
-/

namespace EidolonSdk
namespace DeviceFoundation

open Python Pydantic

/-!
## Credentials
-/

/-- `str | None` with `max_length=128`. -/
def intentRule : StrRule :=
  { maxLength := some 128 }

def CredentialScopes :=
  { scopes : List PyStr // 1 ≤ scopes.length ∧ scopes.length ≤ 16 }

structure AdmissionCredential where
  subject : ConStr nameRule
  actor : ControllerActorRef
  ownerDomainId : OwnerDomainId
  businessOwnerId : BusinessOwnerId
  scopes : CredentialScopes
  intentId : Option (ConStr intentRule)
  targetDeviceRef : Option DeviceRef
  actor_owner : actor.ownerDomainId = ownerDomainId
  actor_scopes : scopes.val.toFinset = actor.grantedScopes.val.toFinset

/-- `AdmissionCredentialError`, or an exception the code lets pass. -/
inductive AdmissionFailure where
  | admissionCredentialError (message : PyStr)
  | foreign (e : PyException)

/-!
## Minting
-/

def admissionAudience : PyStr :=
  str "eidolon-admission"

def admissionAlgorithm : PyStr :=
  str "HS256"

def minimumSecretBytes : Nat := 32

def requireSecret (secret : Bytes) : Except AdmissionFailure Unit :=
  if secret.length < minimumSecretBytes then
    throw (.admissionCredentialError
      (str "Admission credential secret must contain at least 32 bytes"))
  else
    pure ()

/-- A member that is left out for `None`. -/
def optionalMember {α : Type} (name : String) (dump : α -> Json) :
    Option α -> Members
  | some value => [(str name, dump value)]
  | none => []

/-- The claim set of a credential. -/
def admissionClaims (credential : AdmissionCredential) (iat exp : Int) :
    Members :=
  [(str "sub", .str credential.subject.val),
    (str "presenter", .str credential.subject.val),
    (str "aud", .str admissionAudience),
    (str "actor", credential.actor.dump),
    (str "owner_domain_id", .str credential.ownerDomainId.val),
    (str "business_owner_id", .str credential.businessOwnerId.val),
    (str "scopes", dumpScopes credential.scopes.val),
    (str "iat", .int iat),
    (str "exp", .int exp)] ++
  optionalMember "intent_id" (fun id => .str id.val) credential.intentId ++
  optionalMember "target_device_ref" DeviceRef.dump credential.targetDeviceRef

section Mint

variable (I : Interpreter) (jwt : PyJwt)

/-- `iat` and `exp`, in the order they are evaluated. -/
def mintTimes (issuedAt : FoldedDatetime) (ttlSeconds : Int) :
    Except PyException (Int × Int) := do
  let iat ← wholeTimestamp I issuedAt.toDatetime issuedAt.fold
  match issuedAt.addSeconds ttlSeconds with
  | none => throw .overflowError
  | some expiry =>
      -- A sum forgets the fold.
      let exp ← wholeTimestamp I expiry false
      pure (iat, exp)

def issueAdmissionCredential (credential : AdmissionCredential) (secret : Bytes)
    (ttlSeconds : Int) (now : Option FoldedDatetime) (clock : Instant) :
    Except AdmissionFailure PyStr := do
  requireSecret secret
  if ttlSeconds ≤ 0 then
    throw (.admissionCredentialError
      (str "Admission credential lifetime must be positive"))
  match mintTimes I (now.getD clock.toFolded) ttlSeconds with
  | .error e => throw (.foreign e)
  | .ok (iat, exp) =>
      pure (str "Bearer " ++
        jwt.encode (admissionClaims credential iat exp) (.bytes secret)
          admissionAlgorithm)

/-!
## Reading
-/

/-- The token of a header whose scheme is `Bearer`. -/
def bearerToken (header : PyStr) : Option PyStr :=
  let (scheme, separator, token) := partition header (codePoint ' ')
  if separator.isEmpty || I.lower scheme != str "bearer" || token.isEmpty then
    none
  else
    some token

def requireBearer (header : PyStr) : Except AdmissionFailure PyStr :=
  match bearerToken I header with
  | some token => pure token
  | none =>
      throw (.admissionCredentialError
        (str "Bearer Admission credential required"))

def invalidCredential : AdmissionFailure :=
  .admissionCredentialError (str "invalid Admission credential")

def decodeAdmission (token : PyStr) (secret : Bytes) :
    Except JwtFailure Members :=
  jwt.decode token (.bytes secret) admissionAlgorithm
    ⟨some admissionAudience, [str "sub", str "exp", str "aud"]⟩

def trustedClaims (token : PyStr) (secret : Bytes) :
    Except AdmissionFailure Members :=
  match decodeAdmission jwt token secret with
  | .ok claims => pure claims
  | .error (.pyJwtError _) => throw invalidCredential
  | .error (.foreign e) => throw (.foreign e)

/-- `str(claims.get(name) or "").strip()`. -/
def trimmedText (claims : Members) (name : String) : PyStr :=
  strip ((Json.orEmpty (claims.get name)).text I)

/-- The claims name a presenter, and it is the subject. -/
def PresenterBound (claims : Members) : Prop :=
  trimmedText I claims "sub" ≠ [] ∧
    trimmedText I claims "presenter" = trimmedText I claims "sub"

instance (claims : Members) : Decidable (PresenterBound I claims) :=
  inferInstanceAs (Decidable (_ ∧ _))

def requirePresenter (claims : Members) : Except AdmissionFailure Unit :=
  if PresenterBound I claims then pure ()
  else
    throw (.admissionCredentialError
      (str "Admission presenter is not bound to the subject"))

/-- `claims[name]`. -/
def claimOf (claims : Members) (name : String) : Validated Json :=
  match claims.get name with
  | some value => .ok value
  | none => .error (.raised .keyError)

/-- `claims.get(name)` where `None` and a missing claim are the same. -/
def optionalClaim {α : Type} (claims : Members) (name : String)
    (read : Json -> Validated α) : Validated (Option α) :=
  match claims.get name with
  | none => .ok none
  | some .null => .ok none
  | some value => (read value).map some

/-- `tuple(str(item) for item in claims.get("scopes", ()))`. -/
def claimedScopes (claims : Members) : Validated (List PyStr) :=
  match ((claims.get "scopes").getD (.array [])).tuple with
  | .ok items => .ok (items.map (Json.text I))
  | .error e => .error (.raised e)

def validCredentialScopes (scopes : List PyStr) : Validated CredentialScopes :=
  if h : 1 ≤ scopes.length ∧ scopes.length ≤ 16 then .ok ⟨scopes, h⟩
  else .error .invalid

def validIntent : Option PyStr -> Validated (Option (ConStr intentRule))
  | none => .ok none
  | some intent => (validStr intentRule (.str intent)).map some

/-- `AdmissionCredential(...)` of members that are models already. -/
def admissionCredential (subject : PyStr) (actor : ControllerActorRef)
    (ownerDomainId : OwnerDomainId) (businessOwnerId : BusinessOwnerId)
    (scopes : List PyStr) (intentId : Option PyStr)
    (targetDeviceRef : Option DeviceRef) : Validated AdmissionCredential := do
  let (subject, scopes, intentId) ←
    (validStr nameRule (.str subject)).both
      ((validCredentialScopes scopes).both (validIntent intentId))
  if h : actor.ownerDomainId = ownerDomainId ∧
      scopes.val.toFinset = actor.grantedScopes.val.toFinset then
    .ok
      { subject := subject
        actor := actor
        ownerDomainId := ownerDomainId
        businessOwnerId := businessOwnerId
        scopes := scopes
        intentId := intentId
        targetDeviceRef := targetDeviceRef
        actor_owner := h.left
        actor_scopes := h.right }
  else
    .error .invalid

/-- The arguments, in the order they are evaluated, and the construction. -/
def claimedCredential (claims : Members) : Validated AdmissionCredential := do
  let actor ← claimOf claims "actor" >>= ControllerActorRef.validate
  let owner ← claimOf claims "owner_domain_id" >>= validNominal "owner-"
  let business ← claimOf claims "business_owner_id" >>= validNominal "owner_"
  let scopes ← claimedScopes I claims
  let intent ← optionalClaim claims "intent_id" fun value => .ok (value.text I)
  let target ← optionalClaim claims "target_device_ref" DeviceRef.validate
  admissionCredential (trimmedText I claims "sub") actor owner business scopes
    intent target

/-- `except (KeyError, TypeError, ValueError)`. -/
def caught : PyException -> Bool
  | .keyError => true
  | .typeError => true
  | e => e.isValueError

/-- `ValidationError` is a `ValueError`. -/
def trusted {α : Type} : Validated α -> Except AdmissionFailure α
  | .ok a => pure a
  | .error .invalid => throw invalidCredential
  | .error (.raised e) =>
      if caught e then throw invalidCredential else throw (.foreign e)

theorem trusted_eq_ok {α : Type} {x : Validated α} {a : α} :
    trusted x = .ok a <-> x = .ok a := by
  cases x with
  | ok b =>
      constructor
      · intro h
        exact congrArg Except.ok (Except.ok.inj h)
      · intro h
        exact congrArg Except.ok (Except.ok.inj h)
  | error fault =>
      have hnot : trusted (.error fault : Validated α) ≠ .ok a := by
        unfold trusted
        cases fault with
        | invalid => exact nofun
        | raised e =>
            dsimp only
            split
            · exact nofun
            · exact nofun
      constructor
      · intro h
        exact absurd h hnot
      · intro h
        cases h

theorem trusted_caught {α : Type} {e : PyException} (h : caught e = true) :
    trusted (.error (.raised e) : Validated α) = .error invalidCredential :=
  if_pos h

def readAdmissionCredential (header : PyStr) (secret : Bytes) :
    Except AdmissionFailure AdmissionCredential := do
  requireSecret secret
  let token ← requireBearer I header
  let claims ← trustedClaims jwt token secret
  requirePresenter I claims
  trusted (claimedCredential I claims)

/-!
## What was minted is read
-/

theorem bearerToken_bearer {token : PyStr} (h : token ≠ []) :
    bearerToken I (str "Bearer " ++ token) = some token := by
  have hsplit : str "Bearer " ++ token =
      str "Bearer" ++ codePoint ' ' :: token := by
    have hword : str "Bearer " = str "Bearer" ++ [codePoint ' '] := by
      decide
    rw [hword, List.append_assoc]
    rfl
  have hnone : codePoint ' ' ∉ str "Bearer" := by
    decide
  have hascii : (str "Bearer").all (fun c => decide (IsAscii c)) = true := by
    decide
  have hlower : I.lower (str "Bearer") = str "bearer" := by
    rw [I.lower_ascii _ fun c hc => of_decide_eq_true
      (List.all_eq_true.mp hascii c hc)]
    decide
  unfold bearerToken
  rw [hsplit, partition_append hnone]
  simp [hlower, h]

theorem optionalMember_get {α : Type} {name : String} {dump : α -> Json}
    {value : Option α} {key : String} :
    Members.get (optionalMember name dump value) key =
      if key = name then value.map dump else none := by
  cases value with
  | none => simp [optionalMember]
  | some a => simp [optionalMember]

theorem optionalClaim_present {α : Type} {claims : Members} {name : String}
    {read : Json -> Validated α} {value : Json}
    (hget : claims.get name = some value) (hnull : value ≠ .null) :
    optionalClaim claims name read = (read value).map some := by
  unfold optionalClaim
  rw [hget]
  cases value with
  | null => exact absurd rfl hnull
  | _ => rfl

section Claims

variable (credential : AdmissionCredential) (iat exp : Int)

theorem claimedScopes_admissionClaims :
    claimedScopes I (admissionClaims credential iat exp) =
      .ok credential.scopes.val := by
  have htext : (credential.scopes.val.map Json.str).map (Json.text I) =
      credential.scopes.val := by
    simp [Function.comp_def]
  simp [claimedScopes, admissionClaims, dumpScopes, htext]

theorem optionalClaim_intent :
    optionalClaim (admissionClaims credential iat exp) "intent_id"
        (fun value => .ok (value.text I)) =
      .ok (credential.intentId.map Subtype.val) := by
  cases h : credential.intentId with
  | none =>
      simp [optionalClaim, admissionClaims, optionalMember_get, h]
  | some intent =>
      simp [optionalClaim, admissionClaims, optionalMember_get, h, Except.map]

theorem optionalClaim_target :
    optionalClaim (admissionClaims credential iat exp) "target_device_ref"
        DeviceRef.validate =
      .ok credential.targetDeviceRef := by
  cases h : credential.targetDeviceRef with
  | none =>
      simp [optionalClaim, admissionClaims, optionalMember_get, h]
  | some ref =>
      have hget : (admissionClaims credential iat exp).get
          "target_device_ref" = some ref.dump := by
        simp [admissionClaims, optionalMember_get, h]
      rw [optionalClaim_present hget nofun, DeviceRef.validate_dump]
      rfl

theorem trimmedText_subject :
    trimmedText I (admissionClaims credential iat exp) "sub" =
      strip credential.subject.val := by
  simp [trimmedText, admissionClaims]

theorem presenterBound_iff :
    PresenterBound I (admissionClaims credential iat exp) <->
      strip credential.subject.val ≠ [] := by
  simp [PresenterBound, trimmedText, admissionClaims]

theorem claimedCredential_admissionClaims :
    claimedCredential I (admissionClaims credential iat exp) =
      admissionCredential (strip credential.subject.val) credential.actor
        credential.ownerDomainId credential.businessOwnerId
        credential.scopes.val (credential.intentId.map Subtype.val)
        credential.targetDeviceRef := by
  have hactor : claimOf (admissionClaims credential iat exp) "actor" =
      .ok credential.actor.dump := by
    simp [claimOf, admissionClaims]
  have howner : claimOf (admissionClaims credential iat exp)
      "owner_domain_id" = .ok (.str credential.ownerDomainId.val) := by
    simp [claimOf, admissionClaims]
  have hbusiness : claimOf (admissionClaims credential iat exp)
      "business_owner_id" = .ok (.str credential.businessOwnerId.val) := by
    simp [claimOf, admissionClaims]
  unfold claimedCredential
  simp only [hactor, howner, hbusiness, Logic.ok_bind,
    ControllerActorRef.validate_dump, validNominal_val,
    claimedScopes_admissionClaims, optionalClaim_intent, optionalClaim_target,
    trimmedText_subject]

/-- A credential's own members build it again. -/
theorem admissionCredential_val :
    admissionCredential credential.subject.val credential.actor
        credential.ownerDomainId credential.businessOwnerId
        credential.scopes.val (credential.intentId.map Subtype.val)
        credential.targetDeviceRef =
      .ok credential := by
  have hscopes : validCredentialScopes credential.scopes.val =
      .ok credential.scopes := by
    unfold validCredentialScopes
    exact dif_pos credential.scopes.property
  have hintent : validIntent (credential.intentId.map Subtype.val) =
      .ok credential.intentId := by
    cases h : credential.intentId with
    | none => rfl
    | some intent => simp [validIntent, validStr_val, Except.map]
  unfold admissionCredential
  rw [validStr_val, hscopes, hintent, Validated.both_ok, Validated.both_ok]
  simp only [Logic.ok_bind]
  exact dif_pos ⟨credential.actor_owner, credential.actor_scopes⟩

end Claims

/-- What a construction returns is about the subject it was given. -/
theorem admissionCredential_subject {subject : PyStr}
    {actor : ControllerActorRef} {owner : OwnerDomainId}
    {business : BusinessOwnerId} {scopes : List PyStr} {intent : Option PyStr}
    {target : Option DeviceRef} {credential : AdmissionCredential}
    (h : admissionCredential subject actor owner business scopes intent target =
      .ok credential) :
    credential.subject.val = subject := by
  rcases Logic.bind_eq_ok.mp h with ⟨⟨subject', scopes', intent'⟩, hboth, h⟩
  rcases Validated.both_eq_ok.mp hboth with ⟨hsubject, _⟩
  have hsubject := validStr_eq_ok.mp hsubject
  dsimp only at h
  split at h
  · cases h
    exact hsubject
  · cases h

/-- The package returns the claims it signed, in a token that is not empty. -/
def ReturnsClaims (secret : Bytes) (claims : Members) : Prop :=
  jwt.encode claims (.bytes secret) admissionAlgorithm ≠ [] ∧
    decodeAdmission jwt (jwt.encode claims (.bytes secret) admissionAlgorithm)
      secret = .ok claims

theorem read_decoded {header token : PyStr} {secret : Bytes} {claims : Members}
    (hsecret : minimumSecretBytes ≤ secret.length)
    (htoken : bearerToken I header = some token)
    (hdecode : decodeAdmission jwt token secret = .ok claims) :
    readAdmissionCredential I jwt header secret =
      (requirePresenter I claims >>= fun _ =>
        trusted (claimedCredential I claims)) := by
  have hlong : ¬ secret.length < minimumSecretBytes :=
    Nat.not_lt_of_le hsecret
  have hclaims : trustedClaims jwt token secret = .ok claims := by
    unfold trustedClaims
    rw [hdecode]
    rfl
  unfold readAdmissionCredential requireSecret requireBearer
  rw [if_neg hlong, htoken]
  simp only [pure_bind, hclaims, Logic.ok_bind]

theorem read_minted {credential : AdmissionCredential} {secret : Bytes}
    {iat exp : Int} (hsecret : minimumSecretBytes ≤ secret.length)
    (hjwt : ReturnsClaims jwt secret (admissionClaims credential iat exp)) :
    readAdmissionCredential I jwt
        (str "Bearer " ++ jwt.encode (admissionClaims credential iat exp)
          (.bytes secret) admissionAlgorithm) secret = .ok credential <->
      strip credential.subject.val = credential.subject.val := by
  have hread := read_decoded I jwt hsecret (bearerToken_bearer I hjwt.left)
    hjwt.right
  rw [hread, claimedCredential_admissionClaims]
  unfold requirePresenter
  constructor
  · intro h
    by_cases hbound : PresenterBound I (admissionClaims credential iat exp)
    · rw [if_pos hbound, pure_bind] at h
      exact (admissionCredential_subject (trusted_eq_ok.mp h)).symm
    · rw [if_neg hbound] at h
      cases h
  · intro h
    have hnonempty : strip credential.subject.val ≠ [] := by
      intro hnil
      have hlength := credential.subject.property.right.left
      rw [h] at hnil
      rw [hnil] at hlength
      exact absurd hlength (by decide)
    rw [if_pos ((presenterBound_iff I credential iat exp).mpr hnonempty),
      pure_bind, h, admissionCredential_val]
    rfl

/-- The claims of a credential minted at this time come back as long as it is
not expired. -/
def ReturnsMinted (credential : AdmissionCredential) (secret : Bytes)
    (ttlSeconds : Int) (issuedAt : FoldedDatetime) : Prop :=
  forall iat exp, mintTimes I issuedAt ttlSeconds = .ok (iat, exp) ->
    ReturnsClaims jwt secret (admissionClaims credential iat exp)

/-- Issue time and expiry are datetimes, and each has a timestamp. -/
def HasMintTimes (issuedAt : FoldedDatetime) (ttlSeconds : Int) : Prop :=
  HasTimestamp I issuedAt.toDatetime issuedAt.fold ∧
    exists expiry, issuedAt.addSeconds ttlSeconds = some expiry ∧
      HasTimestamp I expiry false

theorem hasMintTimes_iff {issuedAt : FoldedDatetime} {ttlSeconds : Int} :
    HasMintTimes I issuedAt ttlSeconds <->
      exists iat exp, mintTimes I issuedAt ttlSeconds = .ok (iat, exp) := by
  unfold HasMintTimes mintTimes
  constructor
  · intro hparts
    rcases hparts with ⟨hissued, expiry, hexpiry, hends⟩
    rcases (hasTimestamp_iff I).mp hissued with ⟨iat, hiat⟩
    rcases (hasTimestamp_iff I).mp hends with ⟨exp, hexp⟩
    refine ⟨iat, exp, ?_⟩
    simp only [hiat, hexpiry, hexp, Logic.ok_bind]
    rfl
  · intro hparts
    rcases hparts with ⟨iat, exp, h⟩
    rcases Logic.bind_eq_ok.mp h with ⟨iat', hiat, h⟩
    cases hexpiry : issuedAt.addSeconds ttlSeconds with
    | none =>
        rw [hexpiry] at h
        cases h
    | some expiry =>
        rw [hexpiry] at h
        rcases Logic.bind_eq_ok.mp h with ⟨exp', hexp, _⟩
        exact ⟨(hasTimestamp_iff I).mpr ⟨iat', hiat⟩, expiry, rfl,
          (hasTimestamp_iff I).mpr ⟨exp', hexp⟩⟩

theorem issue_timed {credential : AdmissionCredential} {secret : Bytes}
    {ttlSeconds : Int} {now : Option FoldedDatetime} {clock : Instant}
    (hsecret : minimumSecretBytes ≤ secret.length) (httl : 0 < ttlSeconds) :
    issueAdmissionCredential I jwt credential secret ttlSeconds now clock =
      match mintTimes I (now.getD clock.toFolded) ttlSeconds with
      | .error e => .error (.foreign e)
      | .ok (iat, exp) =>
          .ok (str "Bearer " ++ jwt.encode (admissionClaims credential iat exp)
            (.bytes secret) admissionAlgorithm) := by
  have hlong : ¬ secret.length < minimumSecretBytes :=
    Nat.not_lt_of_le hsecret
  have hpositive : ¬ ttlSeconds ≤ 0 := Int.not_le.mpr httl
  unfold issueAdmissionCredential requireSecret
  rw [if_neg hlong]
  simp only [if_neg hpositive, pure_bind]
  rfl

/-- Reading trims the subject and nothing else. -/
theorem credential_survives_iff (credential : AdmissionCredential)
    {secret : Bytes} (hsecret : minimumSecretBytes ≤ secret.length)
    {ttlSeconds : Int} (httl : 0 < ttlSeconds) (now : Option FoldedDatetime)
    (clock : Instant)
    (hjwt : ReturnsMinted I jwt credential secret ttlSeconds
      (now.getD clock.toFolded)) :
    (issueAdmissionCredential I jwt credential secret ttlSeconds now clock >>=
        fun header => readAdmissionCredential I jwt header secret) =
      .ok credential <->
        HasMintTimes I (now.getD clock.toFolded) ttlSeconds ∧
          strip credential.subject.val = credential.subject.val := by
  rw [issue_timed I jwt hsecret httl, hasMintTimes_iff]
  cases htimes : mintTimes I (now.getD clock.toFolded) ttlSeconds with
  | error e =>
      apply iff_of_false nofun
      intro hparts
      rcases hparts with ⟨⟨iat, exp, h⟩, _⟩
      cases h
  | ok times =>
      rw [Logic.ok_bind, read_minted I jwt hsecret (hjwt _ _ htimes),
        and_iff_right ⟨times.fst, times.snd, rfl⟩]

end Mint

/-!
A subject with a blank in front is read back without it.
-/

def sampleActor : ControllerActorRef where
  principalId := ⟨str "admin", by decide⟩
  ownerDomainId := ⟨str "owner-a", inNamespace_ownerA⟩
  grantedScopes := ⟨[str "device.read"], by decide⟩
  authenticationStrength := .software

def sampleCredential (subject : ConStr nameRule) : AdmissionCredential where
  subject := subject
  actor := sampleActor
  ownerDomainId := sampleActor.ownerDomainId
  businessOwnerId := ⟨str "owner_a", by decide⟩
  scopes := ⟨[str "device.read"], by decide⟩
  intentId := some ⟨[], by decide⟩
  targetDeviceRef := none
  actor_owner := rfl
  actor_scopes := rfl

def admin : ConStr nameRule :=
  ⟨str "admin", by decide⟩

def blankAdmin : ConStr nameRule :=
  ⟨str " admin", by decide⟩

def sampleSecret : Bytes :=
  List.replicate 32 1

/-- Noon of 2026-08-25. -/
def sampleClock : Instant :=
  ⟨1787659200000000, by decide⟩

theorem sampleClock_times :
    mintTimes asciiInterpreter ((none : Option FoldedDatetime).getD
        sampleClock.toFolded) 60 = .ok (1787659200, 1787659260) := by
  decide +kernel

def sampleJwt (credential : AdmissionCredential) : PyJwt :=
  oneTokenJwt (str "header.claims.signature")
    (admissionClaims credential 1787659200 1787659260)

theorem sampleJwt_returns (credential : AdmissionCredential) :
    ReturnsMinted asciiInterpreter (sampleJwt credential) credential
      sampleSecret 60
      ((none : Option FoldedDatetime).getD sampleClock.toFolded) := by
  intro iat exp h
  rw [sampleClock_times] at h
  cases h
  have htoken : str "header.claims.signature" ≠ [] := by
    decide
  exact ⟨htoken, oneTokenJwt_decode _ _ _ _ _⟩

def mintAndRead (credential : AdmissionCredential) :
    Except AdmissionFailure AdmissionCredential :=
  issueAdmissionCredential asciiInterpreter (sampleJwt credential) credential
      sampleSecret 60 none sampleClock >>=
    fun header =>
      readAdmissionCredential asciiInterpreter (sampleJwt credential) header
        sampleSecret

theorem blank_subject_lost :
    ¬ (ReturnsMinted asciiInterpreter (sampleJwt (sampleCredential blankAdmin))
        (sampleCredential blankAdmin) sampleSecret 60
        ((none : Option FoldedDatetime).getD sampleClock.toFolded) ->
      mintAndRead (sampleCredential blankAdmin) =
        .ok (sampleCredential blankAdmin)) := by
  intro h
  have hread := h (sampleJwt_returns _)
  unfold mintAndRead at hread
  rw [issue_timed _ _ (by decide) (by decide), sampleClock_times,
    Logic.ok_bind, read_minted _ _ (by decide)
      (sampleJwt_returns _ _ _ sampleClock_times)] at hread
  exact absurd hread (by decide)

theorem credential_survives_admin :
    mintAndRead (sampleCredential admin) = .ok (sampleCredential admin) :=
  (credential_survives_iff asciiInterpreter
    (sampleJwt (sampleCredential admin)) (sampleCredential admin)
    (by decide) (by decide) none sampleClock (sampleJwt_returns _)).mpr
    ⟨(hasMintTimes_iff _).mpr ⟨_, _, sampleClock_times⟩, by decide⟩

/-!
## What a reader is told
-/

section Reader

variable (I : Interpreter) (jwt : PyJwt)

/-- No exception but the ones the reader turns into its own. -/
def Contained {α : Type} (x : Validated α) : Prop :=
  forall e, x = .error (.raised e) -> caught e = true

theorem Contained.of_quiet {α : Type} {x : Validated α} (h : Quiet x) :
    Contained x := by
  intro e he
  exact absurd he (h e)

theorem Contained.bind {α β : Type} {x : Validated α} {f : α -> Validated β}
    (hx : Contained x) (hf : forall a, Contained (f a)) :
    Contained (x >>= f) := by
  intro e he
  cases x with
  | ok a => exact hf a e he
  | error fault => exact hx e (congrArg Except.error (Except.error.inj he))

theorem contained_claimOf (claims : Members) (name : String) :
    Contained (claimOf claims name) := by
  intro e he
  unfold claimOf at he
  split at he
  · cases he
  · cases he
    rfl

theorem contained_claimedScopes (claims : Members) :
    Contained (claimedScopes I claims) := by
  intro e he
  unfold claimedScopes at he
  split at he
  · cases he
  · rename_i e' htuple
    cases he
    rw [Json.tuple_error htuple]
    rfl

theorem quiet_optionalClaim {α : Type} {claims : Members} {name : String}
    {read : Json -> Validated α} (h : forall value, Quiet (read value)) :
    Quiet (optionalClaim claims name read) := by
  unfold optionalClaim
  split
  · exact quiet_ok _
  · exact quiet_ok _
  · exact (h _).map

theorem quiet_admissionCredential {subject : PyStr} {actor : ControllerActorRef}
    {owner : OwnerDomainId} {business : BusinessOwnerId} {scopes : List PyStr}
    {intent : Option PyStr} {target : Option DeviceRef} :
    Quiet (admissionCredential subject actor owner business scopes intent
      target) := by
  have hscopes : Quiet (validCredentialScopes scopes) := by
    unfold validCredentialScopes
    split
    · exact quiet_ok _
    · exact quiet_invalid
  have hintent : Quiet (validIntent intent) := by
    cases intent with
    | none => exact quiet_ok _
    | some text => exact (quiet_validStr _ _).map
  apply Quiet.bind ((quiet_validStr _ _).both (hscopes.both hintent))
  intro x
  rcases x with ⟨subject', scopes', intent'⟩
  dsimp only
  split
  · exact quiet_ok _
  · exact quiet_invalid

/-- The claims name their presenter, and the scopes of their actor escape. -/
def ClaimsEscape (claims : Members) : Prop :=
  PresenterBound I claims ∧
    exists (members : Members) (scopes : Json),
      claims.get "actor" = some (.object members) ∧
        members.get "granted_scopes" = some scopes ∧ ScopesEscape scopes

theorem claimedCredential_escape {claims : Members} (h : ClaimsEscape I claims) :
    claimedCredential I claims = .error (.raised .attributeError) := by
  rcases h with ⟨_, members, scopes, hactor, hscopes, hescape⟩
  have hclaim : claimOf claims "actor" = .ok (.object members) := by
    unfold claimOf
    rw [hactor]
  have hraised : ControllerActorRef.validate (.object members) =
      .error (.raised .attributeError) :=
    ControllerActorRef.validate_raised.mpr
      ⟨members, scopes, rfl, hscopes,
        validScopes_raised.mpr (uniqueScopes_escape hescape)⟩
  unfold claimedCredential
  rw [hclaim, Logic.ok_bind, hraised]
  rfl

theorem contained_claimedCredential {claims : Members}
    (hbound : PresenterBound I claims) (h : ¬ ClaimsEscape I claims) :
    Contained (claimedCredential I claims) := by
  have hactor : Contained
      (claimOf claims "actor" >>= ControllerActorRef.validate) := by
    intro e he
    unfold claimOf at he
    split at he
    · rename_i value hvalue
      rcases ControllerActorRef.validate_raised.mp he with
        ⟨members, scopes, rfl, hscopes, hraised⟩
      rcases uniqueScopes_raised (validScopes_raised.mp hraised) with
        rfl | ⟨_, hescape⟩
      · rfl
      · exact absurd ⟨hbound, members, scopes, hvalue, hscopes, hescape⟩ h
    · cases he
      rfl
  have hnominal : forall namespaceWord name, Contained
      (claimOf claims name >>= validNominal namespaceWord) := by
    intro namespaceWord name
    exact (contained_claimOf claims name).bind fun value =>
      Contained.of_quiet (quiet_validNominal _ value)
  unfold claimedCredential
  apply hactor.bind
  intro actor
  apply (hnominal "owner-" "owner_domain_id").bind
  intro owner
  apply (hnominal "owner_" "business_owner_id").bind
  intro business
  apply (contained_claimedScopes I claims).bind
  intro scopes
  apply (Contained.of_quiet (quiet_optionalClaim fun _ => quiet_ok _)).bind
  intro intent
  apply (Contained.of_quiet
    (quiet_optionalClaim DeviceRef.quiet_validate)).bind
  intro target
  exact Contained.of_quiet quiet_admissionCredential

/-- The credential is what the decoded claims say of their presenter. -/
structure Sound (claims : Members) (credential : AdmissionCredential) :
    Prop where
  subject : credential.subject.val = trimmedText I claims "presenter"
  owner : credential.actor.ownerDomainId = credential.ownerDomainId
  scopes : credential.scopes.val.toFinset =
    credential.actor.grantedScopes.val.toFinset

/-- The reader raises its own error or returns a sound credential. -/
def ReadsSoundly (header : PyStr) (secret : Bytes) : Prop :=
  (exists message, readAdmissionCredential I jwt header secret =
    .error (.admissionCredentialError message)) ∨
  exists token claims credential,
    bearerToken I header = some token ∧
      decodeAdmission jwt token secret = .ok claims ∧
      readAdmissionCredential I jwt header secret = .ok credential ∧
      Sound I claims credential

/-- The package itself fails outside of its errors, or trusts claims whose
scopes escape. -/
def ReadEscapes (header : PyStr) (secret : Bytes) : Prop :=
  minimumSecretBytes ≤ secret.length ∧
    exists token, bearerToken I header = some token ∧
      ((exists e, decodeAdmission jwt token secret = .error (.foreign e)) ∨
        exists claims, decodeAdmission jwt token secret = .ok claims ∧
          ClaimsEscape I claims)

theorem claimedCredential_subject {claims : Members}
    {credential : AdmissionCredential}
    (h : claimedCredential I claims = .ok credential) :
    credential.subject.val = trimmedText I claims "sub" := by
  rcases Logic.bind_eq_ok.mp h with ⟨actor, _, h⟩
  rcases Logic.bind_eq_ok.mp h with ⟨owner, _, h⟩
  rcases Logic.bind_eq_ok.mp h with ⟨business, _, h⟩
  rcases Logic.bind_eq_ok.mp h with ⟨scopes, _, h⟩
  rcases Logic.bind_eq_ok.mp h with ⟨intent, _, h⟩
  rcases Logic.bind_eq_ok.mp h with ⟨target, _, h⟩
  exact admissionCredential_subject h

theorem readsSoundly_of_decoded {header token : PyStr} {secret : Bytes}
    {claims : Members} (hsecret : minimumSecretBytes ≤ secret.length)
    (htoken : bearerToken I header = some token)
    (hdecode : decodeAdmission jwt token secret = .ok claims)
    (hescape : ¬ ClaimsEscape I claims) :
    ReadsSoundly I jwt header secret := by
  unfold ReadsSoundly
  rw [read_decoded I jwt hsecret htoken hdecode]
  unfold requirePresenter
  by_cases hbound : PresenterBound I claims
  · rw [if_pos hbound, pure_bind]
    cases hcredential : claimedCredential I claims with
    | ok credential =>
        have hsubject : credential.subject.val =
            trimmedText I claims "presenter" := by
          rw [hbound.right]
          exact claimedCredential_subject I hcredential
        exact Or.inr ⟨token, claims, credential, htoken, hdecode, rfl,
          hsubject, credential.actor_owner, credential.actor_scopes⟩
    | error fault =>
        cases fault with
        | invalid => exact Or.inl ⟨_, rfl⟩
        | raised e =>
            have hcaught :=
              contained_claimedCredential I hbound hescape e hcredential
            rw [trusted_caught hcaught]
            exact Or.inl ⟨_, rfl⟩
  · rw [if_neg hbound]
    exact Or.inl ⟨_, rfl⟩

theorem read_undecoded {header token : PyStr} {secret : Bytes}
    {failure : AdmissionFailure}
    (hsecret : minimumSecretBytes ≤ secret.length)
    (htoken : bearerToken I header = some token)
    (hclaims : trustedClaims jwt token secret = .error failure) :
    readAdmissionCredential I jwt header secret = .error failure := by
  have hlong : ¬ secret.length < minimumSecretBytes :=
    Nat.not_lt_of_le hsecret
  unfold readAdmissionCredential requireSecret requireBearer
  rw [if_neg hlong, htoken]
  simp only [pure_bind, hclaims]
  rfl

theorem read_escape {header : PyStr} {secret : Bytes}
    (h : ReadEscapes I jwt header secret) :
    exists e, readAdmissionCredential I jwt header secret =
      .error (.foreign e) := by
  rcases h with ⟨hsecret, token, htoken, hdecode | hdecode⟩
  · rcases hdecode with ⟨e, hdecode⟩
    refine ⟨e, read_undecoded I jwt hsecret htoken ?_⟩
    unfold trustedClaims
    rw [hdecode]
    rfl
  · rcases hdecode with ⟨claims, hdecode, hescape⟩
    rw [read_decoded I jwt hsecret htoken hdecode]
    unfold requirePresenter
    rw [if_pos hescape.left, pure_bind, claimedCredential_escape I hescape]
    exact ⟨_, rfl⟩

theorem readsSoundly_of_not_escapes {header : PyStr} {secret : Bytes}
    (h : ¬ ReadEscapes I jwt header secret) :
    ReadsSoundly I jwt header secret := by
  by_cases hsecret : minimumSecretBytes ≤ secret.length
  · cases htoken : bearerToken I header with
    | none =>
        have hlong : ¬ secret.length < minimumSecretBytes :=
          Nat.not_lt_of_le hsecret
        unfold ReadsSoundly readAdmissionCredential requireSecret requireBearer
        rw [if_neg hlong, htoken]
        exact Or.inl ⟨_, rfl⟩
    | some token =>
        cases hdecode : decodeAdmission jwt token secret with
        | ok claims =>
            apply readsSoundly_of_decoded I jwt hsecret htoken hdecode
            intro hescape
            exact h ⟨hsecret, token, htoken, Or.inr ⟨claims, hdecode, hescape⟩⟩
        | error failure =>
            cases failure with
            | pyJwtError message =>
                have hclaims : trustedClaims jwt token secret =
                    .error invalidCredential := by
                  unfold trustedClaims
                  rw [hdecode]
                  rfl
                exact Or.inl
                  ⟨_, read_undecoded I jwt hsecret htoken hclaims⟩
            | foreign e =>
                exact absurd ⟨hsecret, token, htoken, Or.inl ⟨e, hdecode⟩⟩ h
  · have hshort : secret.length < minimumSecretBytes :=
      Nat.lt_of_not_le hsecret
    unfold ReadsSoundly readAdmissionCredential requireSecret
    rw [if_pos hshort]
    exact Or.inl ⟨_, rfl⟩

/-- The reader never says something half-true, and only what escapes makes it
fail with a foreign error. -/
theorem readsSoundly_iff (header : PyStr) (secret : Bytes) :
    ReadsSoundly I jwt header secret <-> ¬ ReadEscapes I jwt header secret := by
  constructor
  · intro h hescape
    rcases read_escape I jwt hescape with ⟨e, hforeign⟩
    rcases h with ⟨message, h⟩ | ⟨_, _, credential, _, _, h, _⟩
    · rw [hforeign] at h
      cases h
    · rw [hforeign] at h
      cases h
  · exact readsSoundly_of_not_escapes I jwt

end Reader

/-!
A number among the scopes.
-/

def numericScopeClaims : Members :=
  [(str "sub", .str (str "admin")), (str "presenter", .str (str "admin")),
    (str "aud", .str admissionAudience),
    (str "actor",
      .object [(str "principal_id", .str (str "admin")),
        (str "owner_domain_id", .str (str "owner-a")),
        (str "granted_scopes", .array [.int 5]),
        (str "authentication_strength", .str (str "software"))]),
    (str "owner_domain_id", .str (str "owner-a")),
    (str "business_owner_id", .str (str "owner_a")),
    (str "scopes", .array [.int 5]), (str "exp", .int 1787659260)]

theorem numeric_scope_escapes :
    ¬ ReadsSoundly asciiInterpreter
      (oneTokenJwt (str "header.claims.signature") numericScopeClaims)
      (str "Bearer header.claims.signature") sampleSecret := by
  intro h
  have hescape : ReadEscapes asciiInterpreter
      (oneTokenJwt (str "header.claims.signature") numericScopeClaims)
      (str "Bearer header.claims.signature") sampleSecret := by
    have hbound : PresenterBound asciiInterpreter numericScopeClaims := by
      simp [PresenterBound, trimmedText, numericScopeClaims]
      decide
    have hhash : forall item, item ∈ [Json.int 5] ->
        item.hashKey.isSome = true := by
      intro item hitem
      rw [List.mem_singleton.mp hitem, Json.hashKey_int]
      rfl
    have hscopes : ScopesEscape (.array [.int 5]) :=
      ⟨_, rfl, hhash, by simp, True.intro⟩
    refine ⟨by decide, str "header.claims.signature", by decide, Or.inr
      ⟨numericScopeClaims, oneTokenJwt_decode _ _ _ _ _, hbound, ?_⟩⟩
    exact ⟨_, .array [.int 5], by simp [numericScopeClaims]; rfl, by simp, hscopes⟩
  rcases read_escape _ _ hescape with ⟨e, hforeign⟩
  rcases h with ⟨message, h⟩ | ⟨_, _, credential, _, _, h, _⟩
  · rw [hforeign] at h
    cases h
  · rw [hforeign] at h
    cases h

end DeviceFoundation
end EidolonSdk
