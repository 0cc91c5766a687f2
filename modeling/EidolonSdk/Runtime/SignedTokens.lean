import EidolonSdk.Runtime.Verification

/-!
# Tokens of the signer

The claim set {lit}`sign_runtime_token` writes, as the verifier reads it back.
Both sides derive the revocation keys on their own: the signer keeps an
identifier as it is, the verifier trims a session id first; the signer truncates
the issue time to whole seconds, the owner's mark keeps its microseconds.
-/

namespace EidolonSdk
namespace Runtime

open Python Logic

/-!
## What the signer guarantees
-/

structure Signed (request : SigningRequest) (now exp : Instant) : Prop where
  owner : strip request.ownerId ≠ []
  companion : strip request.companionId ≠ []
  session : strip request.sessionId ≠ []
  device : forall deviceId, request.deviceId = some deviceId ->
    strip deviceId ≠ []
  next : InRange (now.val + microsPerSecond)

theorem requireClaim_eq_ok {name : String} {value : PyStr} {u : Unit} :
    requireClaim name value = .ok u <-> strip value ≠ [] := by
  unfold requireClaim
  cases strip value with
  | nil => exact ⟨nofun, fun h => absurd rfl h⟩
  | cons c rest => exact ⟨nofun, fun _ => rfl⟩

theorem requireDevice_eq_ok {deviceId : Option PyStr} {u : Unit} :
    requireDevice deviceId = .ok u <->
      forall id, deviceId = some id -> strip id ≠ [] := by
  cases deviceId with
  | none => exact ⟨nofun, fun _ => rfl⟩
  | some id =>
      unfold requireDevice
      rw [requireClaim_eq_ok]
      simp

theorem positiveSeconds_eq_ok {value : Json} {ttl : Int}
    (h : positiveSeconds value = .ok ttl) : 0 < ttl := by
  cases value with
  | int n =>
      simp only [positiveSeconds] at h
      by_cases hn : n ≤ 0
      · rw [if_pos hn] at h
        cases h
      · rw [if_neg hn] at h
        cases h
        omega
  | null => cases h
  | bool b => cases h
  | float x => cases h
  | str s => cases h
  | array items => cases h
  | object members => cases h

theorem expiryAfter_eq_ok {now exp : Instant} {ttl : Int}
    (h : expiryAfter now ttl = .ok exp) :
    exp.val = now.val + ttl * microsPerSecond := by
  unfold expiryAfter at h
  by_cases hrange : InRange (now.val + ttl * microsPerSecond)
  · rw [Instant.ofMicros_val ⟨_, hrange⟩] at h
    cases h
    rfl
  · rw [Instant.ofMicros_eq_none.mpr hrange] at h
    cases h

theorem signed_of_signRuntimeToken {jwt : PyJwt} {request : SigningRequest}
    {jti : Uuid4Hex} {now exp : Instant} {token : PyStr}
    (h : signRuntimeToken jwt request jti now = .ok (token, exp)) :
    Signed request now exp := by
  rcases bind_eq_ok.mp h with ⟨⟨payload, exp'⟩, hpayload, hpure⟩
  rcases bind_eq_ok.mp hpayload with ⟨_, _, h1⟩
  rcases bind_eq_ok.mp h1 with ⟨_, howner, h2⟩
  rcases bind_eq_ok.mp h2 with ⟨_, hcompanion, h3⟩
  rcases bind_eq_ok.mp h3 with ⟨_, hsession, h4⟩
  rcases bind_eq_ok.mp h4 with ⟨ttl, httl, h5⟩
  rcases bind_eq_ok.mp h5 with ⟨exp'', hexp, h6⟩
  rcases bind_eq_ok.mp h6 with ⟨_, hdevice, _⟩
  refine ⟨requireClaim_eq_ok.mp howner, requireClaim_eq_ok.mp hcompanion,
    requireClaim_eq_ok.mp hsession, requireDevice_eq_ok.mp hdevice, ?_⟩
  have hpos : 0 < ttl := positiveSeconds_eq_ok httl
  have hval := expiryAfter_eq_ok hexp
  have hnow := now.property
  have hrange := exp''.property
  unfold InRange microsPerSecond at *
  omega

/-!
## The claim set as the verifier reads it
-/

section Payload

variable (I : Interpreter) {request : SigningRequest} {jti : Uuid4Hex}
variable {now exp : Instant}

@[simp] theorem runtimePayload_version :
    (runtimePayload request jti now exp).get "runtime_token_version" =
      some (.int 5) := by
  simp [runtimePayload]

@[simp] theorem runtimePayload_owner :
    (runtimePayload request jti now exp).get "owner_id" =
      some (.str request.ownerId) := by
  simp [runtimePayload]

@[simp] theorem runtimePayload_companion :
    (runtimePayload request jti now exp).get "companion_id" =
      some (.str request.companionId) := by
  simp [runtimePayload]

@[simp] theorem runtimePayload_session :
    (runtimePayload request jti now exp).get "session_id" =
      some (.str request.sessionId) := by
  simp [runtimePayload]

@[simp] theorem runtimePayload_scopes :
    (runtimePayload request jti now exp).get "scopes" =
      some (.array (request.scopes.map .str)) := by
  simp [runtimePayload]

@[simp] theorem runtimePayload_jti :
    (runtimePayload request jti now exp).get "jti" = some (.str jti.val) := by
  simp [runtimePayload]

@[simp] theorem runtimePayload_exp :
    (runtimePayload request jti now exp).get "exp" =
      some (.int (wholeSeconds exp.val)) := by
  simp [runtimePayload]

@[simp] theorem runtimePayload_iat :
    (runtimePayload request jti now exp).get "iat" =
      some (.int (wholeSeconds now.val)) := by
  simp [runtimePayload]

@[simp] theorem runtimePayload_device :
    (runtimePayload request jti now exp).get "device_id" =
      request.deviceId.map .str := by
  cases hdevice : request.deviceId with
  | none => simp [runtimePayload, hdevice]
  | some deviceId => simp [runtimePayload, hdevice]

theorem ne_nil_of_strip_ne_nil {s : PyStr} (h : strip s ≠ []) : s ≠ [] := by
  intro heq
  rcases heq with rfl
  exact h rfl

theorem strip_jti : strip jti.val = jti.val := by
  have hdigits : (str "0123456789abcdef").all (fun c => !isSpace c) = true := by
    decide
  apply strip_eq_self
  intro c hc
  have hc' := List.all_eq_true.mp hdigits c (jti.property.right c hc)
  simpa using hc'

theorem encodable_jti : Encodable jti.val := by
  have hdigits : Encodable (str "0123456789abcdef") := encodable_str _
  intro c hc
  exact hdigits c (jti.property.right c hc)

theorem jti_ne_nil : jti.val ≠ [] := by
  intro h
  have hlength := jti.property.left
  rw [h] at hlength
  cases hlength

theorem deviceOf_runtimePayload (h : Signed request now exp) :
    deviceOf I (runtimePayload request jti now exp) = request.deviceId := by
  unfold deviceOf
  cases hdevice : request.deviceId with
  | none => simp [hdevice]
  | some deviceId =>
      have hne := ne_nil_of_strip_ne_nil (h.device deviceId hdevice)
      simp [hdevice, hne]

theorem trimmedClaim_session :
    trimmedClaim I (runtimePayload request jti now exp) "session_id" =
      strip request.sessionId := by
  simp [trimmedClaim]

theorem trimmedClaim_jti :
    trimmedClaim I (runtimePayload request jti now exp) "jti" = jti.val := by
  simp [trimmedClaim, strip_jti]

theorem claimsPresent_runtimePayload (h : Signed request now exp) :
    ClaimsPresent I (runtimePayload request jti now exp) := by
  refine ⟨?_, ?_, ?_, ?_⟩
  · simp [versionSupported, Json.equalsInt_int]
  · simp [ne_nil_of_strip_ne_nil h.owner]
  · simp [ne_nil_of_strip_ne_nil h.companion]
  · rw [trimmedClaim_session]
    exact h.session

end Payload

/-!
## The mark of the owner
-/

section Mark

variable {request : SigningRequest} {jti : Uuid4Hex} {now exp : Instant}

theorem floatOf_whole {n : Int} (h : n.natAbs < 2 ^ 53) :
    floatOf n = .ok (decide (n < 0), n.natAbs * doubleOne) := by
  unfold floatOf
  rw [floatOfInt_whole h]
  rfl

theorem issuedInstant_whole {seconds : Int}
    (h : InRange (seconds * microsPerSecond)) :
    issuedInstant (.int seconds) = some (.ok ⟨_, h⟩) := by
  have hinstant := Instant.ofMicros_val ⟨seconds * microsPerSecond, h⟩
  unfold issuedInstant issuedInstant.ofInt
  dsimp only
  rw [floatOf_whole (natAbs_wholeSeconds_lt h), ok_bind,
    fromTimestampFloat_whole, fromTimestampInt, hinstant]
  rfl

/-- The `iat` claim, as an instant. -/
def issuedAt (now : Instant) : Int :=
  wholeSeconds now.val * microsPerSecond

/-- The mark lies after the truncated issue time, or is not an instant. -/
def MarkRefuses (now : Instant) (mark : StoredValue) : Prop :=
  exists bytes, mark = .bytes bytes ∧
    forall m, readMark bytes = some m -> issuedAt now < m

def MarkPasses (now : Instant) (mark : StoredValue) : Prop :=
  exists bytes m, mark = .bytes bytes ∧ readMark bytes = some m ∧
    m ≤ issuedAt now

theorem issuedBefore_runtimePayload (h : Signed request now exp)
    (bytes : Bytes) :
    issuedBefore (runtimePayload request jti now exp) (.bytes bytes) =
      .ok (match readMark bytes with
        | none => true
        | some m => decide (issuedAt now < m)) := by
  have hrange := inRange_wholeSeconds now.property h.next
  simp only [issuedBefore, runtimePayload_iat, Option.bind_some,
    issuedInstant_whole hrange]
  cases readMark bytes with
  | none => rfl
  | some m => rfl

theorem issuedBefore_true_iff (h : Signed request now exp)
    {mark : StoredValue} :
    issuedBefore (runtimePayload request jti now exp) mark = .ok true <->
      MarkRefuses now mark := by
  cases mark with
  | text value =>
      constructor
      · intro hbefore
        cases hbefore
      · intro hparts
        rcases hparts with ⟨bytes, hbytes, _⟩
        cases hbytes
  | bytes bytes =>
      rw [issuedBefore_runtimePayload h]
      cases hread : readMark bytes with
      | none => simp [MarkRefuses, hread]
      | some m => simp [MarkRefuses, hread]

theorem issuedBefore_false_iff (h : Signed request now exp)
    {mark : StoredValue} :
    issuedBefore (runtimePayload request jti now exp) mark = .ok false <->
      MarkPasses now mark := by
  cases mark with
  | text value =>
      constructor
      · intro hbefore
        cases hbefore
      · intro hparts
        rcases hparts with ⟨bytes, m, hbytes, _⟩
        cases hbytes
  | bytes bytes =>
      rw [issuedBefore_runtimePayload h]
      cases hread : readMark bytes with
      | none => simp [MarkPasses, hread]
      | some m => simp [MarkPasses, hread]

theorem not_markRefuses_of_markPasses {mark : StoredValue}
    (h : MarkPasses now mark) : ¬ MarkRefuses now mark := by
  rcases h with ⟨bytes, m, rfl, hread, hle⟩
  intro hparts
  rcases hparts with ⟨bytes', heq, hrefuses⟩
  cases heq
  have hlt := hrefuses m hread
  omega

theorem identityReadable_runtimePayload :
    IdentityReadable (runtimePayload request jti now exp) <->
      InRange (wholeSeconds exp.val * microsPerSecond) := by
  have hscopes : Iterable (scopesOf (runtimePayload request jti now exp)) := by
    unfold scopesOf
    rw [runtimePayload_scopes]
    dsimp only
    split
    · exact True.intro
    · exact True.intro
  unfold IdentityReadable
  simp [hscopes]

end Mark

/-!
## Refusal
-/

section Refusal

variable (I : Interpreter) {request : SigningRequest} {jti : Uuid4Hex}
variable {now exp : Instant} {store : RevocationStore}

def OwnerMarked (store : RevocationStore) (request : SigningRequest)
    (now : Instant) : Prop :=
  Encodable request.ownerId ∧
    exists mark, store (revocationKey .owner request.ownerId) = some mark ∧
      MarkRefuses now mark

def OwnerUnmarked (store : RevocationStore) (request : SigningRequest)
    (now : Instant) : Prop :=
  Encodable request.ownerId ∧
    forall mark, store (revocationKey .owner request.ownerId) = some mark ->
      MarkPasses now mark

/-- In the order device, owner, session under its trimmed id, token id: the
first of them that does not let the token through has something to refuse it
with. -/
def RefusedFirst (store : RevocationStore) (request : SigningRequest)
    (jti : Uuid4Hex) (now : Instant) : Prop :=
  DeviceHeld store request.deviceId ∨
    (DeviceClear store request.deviceId ∧
      (OwnerMarked store request now ∨
        (OwnerUnmarked store request now ∧
          (Held store .session (strip request.sessionId) ∨
            (Clear store .session (strip request.sessionId) ∧
              Held store .jti jti.val)))))

theorem ownerRefused_iff (h : Signed request now exp) :
    OwnerRefused store (runtimePayload request jti now exp)
        (.str request.ownerId) <->
      OwnerMarked store request now := by
  unfold OwnerRefused OwnerMarked
  simp only [issuedBefore_true_iff h]
  constructor
  · intro hparts
    rcases hparts with ⟨id, mark, heq, hid, hmark, hrefuses⟩
    cases heq
    exact ⟨hid, mark, hmark, hrefuses⟩
  · intro hparts
    rcases hparts with ⟨hid, mark, hmark, hrefuses⟩
    exact ⟨_, mark, rfl, hid, hmark, hrefuses⟩

theorem ownerClear_iff (h : Signed request now exp) :
    OwnerClear store (runtimePayload request jti now exp)
        (.str request.ownerId) <->
      OwnerUnmarked store request now := by
  unfold OwnerClear OwnerUnmarked
  simp only [issuedBefore_false_iff h]
  constructor
  · intro hparts
    rcases hparts with ⟨id, heq, hid, hpasses⟩
    cases heq
    exact ⟨hid, hpasses⟩
  · intro hparts
    rcases hparts with ⟨hid, hpasses⟩
    exact ⟨_, rfl, hid, hpasses⟩

theorem refused_runtimePayload (h : Signed request now exp) :
    Refused I store (runtimePayload request jti now exp)
        (.str request.ownerId) (strip request.sessionId) <->
      RefusedFirst store request jti now := by
  have hjti : JtiHeld store jti.val <-> Held store .jti jti.val := by
    simp [JtiHeld, jti_ne_nil]
  unfold Refused RefusedFirst
  rw [deviceOf_runtimePayload I h, ownerRefused_iff h, ownerClear_iff h,
    trimmedClaim_jti, hjti]

theorem cleared_runtimePayload (h : Signed request now exp) :
    Cleared I store (runtimePayload request jti now exp)
        (.str request.ownerId) (strip request.sessionId) <->
      DeviceClear store request.deviceId ∧ OwnerUnmarked store request now ∧
        Clear store .session (strip request.sessionId) ∧
          Clear store .jti jti.val := by
  have hjti : JtiClear store jti.val <-> Clear store .jti jti.val := by
    simp [JtiClear, jti_ne_nil]
  unfold Cleared
  rw [deviceOf_runtimePayload I h, ownerClear_iff h, trimmedClaim_jti, hjti]

/-- `RuntimeTokenRevokedError` is what the verification ends with. -/
def RaisesRevoked (outcome : Except RuntimeFailure RuntimeIdentity) : Prop :=
  exists e, outcome = .error e ∧ e.IsRevoked

variable {jwt : PyJwt} {verifier : RuntimeTokenVerifier} {token : PyStr}

theorem ends_verify_signed {onValue : RuntimeIdentity -> Prop}
    (hsign : signRuntimeToken jwt request jti now = .ok (token, exp))
    (hdecode : jwt.decode token (.text verifier.secret) verifier.algorithm
      ⟨none, []⟩ = .ok (runtimePayload request jti now exp))
    (hstore : verifier.revocationKv = some store) :
    Ends (verify I jwt verifier token) onValue RuntimeFailure.IsRevoked <->
      RefusedFirst store request jti now ∨
        ((DeviceClear store request.deviceId ∧
          OwnerUnmarked store request now ∧
          Clear store .session (strip request.sessionId) ∧
          Clear store .jti jti.val) ∧
        exists identity,
          runtimeIdentity I (runtimePayload request jti now exp)
              (.str request.ownerId) (.str request.companionId)
              (strip request.sessionId) = .ok identity ∧
            onValue identity) := by
  have hsigned := signed_of_signRuntimeToken hsign
  rw [verify_of_decode I hdecode, hstore,
    ends_verifyPayload I refusal_isRevoked _
      (claimsPresent_runtimePayload I hsigned),
    trimmedClaim_session]
  simp only [StoreRefused, StoreCleared, Option.some.injEq,
    exists_eq_left', forall_eq', runtimePayload_owner,
    runtimePayload_companion, Json.orEmpty_some_str, trimmedClaim_session,
    refused_runtimePayload I hsigned, cleared_runtimePayload I hsigned]

/-- A value of any kind under a key the code derives for the identifier. -/
def Present (store : RevocationStore)
    (keys : Except PyException (List PyStr)) : Prop :=
  exists ks key value, keys = .ok ks ∧ key ∈ ks ∧ store key = some value

/-- A device, session or token id of the signer's is revoked. -/
def RevokedById (store : RevocationStore) (request : SigningRequest)
    (jti : Uuid4Hex) : Prop :=
  (exists deviceId, request.deviceId = some deviceId ∧
      Present store (deviceRevocationKeys (.str deviceId))) ∨
    Present store (sessionRevocationKeys (.str request.sessionId)) ∨
    Present store (jtiRevocationKeys (.str jti.val))

theorem raisesRevoked_iff
    (hsign : signRuntimeToken jwt request jti now = .ok (token, exp))
    (hdecode : jwt.decode token (.text verifier.secret) verifier.algorithm
      ⟨none, []⟩ = .ok (runtimePayload request jti now exp))
    (hstore : verifier.revocationKv = some store) :
    RaisesRevoked (verify I jwt verifier token) <->
      RefusedFirst store request jti now := by
  unfold RaisesRevoked
  rw [← ends_false_iff, ends_verify_signed I hsign hdecode hstore]
  simp

theorem revokedById_refuses_iff
    (hsign : signRuntimeToken jwt request jti now = .ok (token, exp))
    (hdecode : jwt.decode token (.text verifier.secret) verifier.algorithm
      ⟨none, []⟩ = .ok (runtimePayload request jti now exp))
    (hstore : verifier.revocationKv = some store) :
    (RevokedById store request jti ->
        RaisesRevoked (verify I jwt verifier token)) <->
      (RevokedById store request jti ->
        RefusedFirst store request jti now) := by
  rw [raisesRevoked_iff I hsign hdecode hstore]

end Refusal

/-!
One token, issued half a second after midnight.
-/

def sampleRequest : SigningRequest where
  secret := str "secret"
  ownerId := str "owner"
  companionId := str "companion"
  sessionId := str "session"
  deviceId := some (str "device")
  ttlSeconds := .int 60

def sampleJti : Uuid4Hex :=
  ⟨List.replicate 32 (codePoint '0'), List.length_replicate, by
    intro c hc
    rw [List.eq_of_mem_replicate hc]
    decide⟩

def sampleNow : Instant := ⟨1767225600500000, by decide⟩

def sampleExp : Instant := ⟨1767225660500000, by decide⟩

def samplePayload : Members :=
  runtimePayload sampleRequest sampleJti sampleNow sampleExp

def sampleJwt : PyJwt :=
  oneTokenJwt (str "token") samplePayload

theorem sampleSecret_nonempty : (str "secret").isEmpty = false := rfl

def sampleVerifier (store : RevocationStore) : RuntimeTokenVerifier where
  secret := str "secret"
  secret_nonempty := sampleSecret_nonempty
  algorithm := str "HS256"
  revocationKv := some store

theorem signRuntimeToken_sample :
    signRuntimeToken sampleJwt sampleRequest sampleJti sampleNow =
      .ok (str "token", sampleExp) := by
  rfl

theorem decode_sample (key : JwtKey) (algorithm : PyStr)
    (options : DecodeOptions) :
    sampleJwt.decode (str "token") key algorithm options =
      .ok samplePayload :=
  oneTokenJwt_decode _ _ _ _ _

theorem not_refusedFirst_blankDevice :
    ¬ RefusedFirst (oneEntry .device (str "device") (.bytes []))
      sampleRequest sampleJti sampleNow := by
  have hother : forall (kind : RevocationKind) (id : PyStr), kind ≠ .device ->
      Encodable id ->
      oneEntry .device (str "device") (.bytes []) (revocationKey kind id) =
        none := by
    intro kind id hkind hid
    apply oneEntry_other (encodable_str _) hid
    intro heq
    cases heq
    exact hkind rfl
  intro hparts
  rcases hparts with ⟨id, hid, _, hheld⟩ | ⟨_, ⟨howner, mark, hmark, _⟩ | ⟨_, h⟩⟩
  · cases hid
    simp [RevocationStore.holds, oneEntry_self, StoredValue.truthy] at hheld
  · rw [hother .owner _ (by decide) howner] at hmark
    cases hmark
  · rcases h with ⟨hid, hheld⟩ | ⟨_, hid, hheld⟩
    · rw [RevocationStore.holds, hother .session _ (by decide) hid] at hheld
      cases hheld
    · rw [RevocationStore.holds, hother .jti _ (by decide) hid] at hheld
      cases hheld

/-- An empty value under the device's key is overlooked. -/
theorem empty_device_mark_overlooked :
    ¬ (RevokedById (oneEntry .device (str "device") (.bytes []))
        sampleRequest sampleJti ->
      RaisesRevoked (verify asciiInterpreter sampleJwt
        (sampleVerifier (oneEntry .device (str "device") (.bytes [])))
        (str "token"))) := by
  intro h
  have hpresent : RevokedById (oneEntry .device (str "device") (.bytes []))
      sampleRequest sampleJti :=
    Or.inl ⟨_, rfl, _, _, _, revocationKeys_of_encodable (encodable_str _),
      List.mem_singleton.mpr rfl, oneEntry_self _ _⟩
  have hraises := h hpresent
  rw [raisesRevoked_iff _ signRuntimeToken_sample (decode_sample _ _ _) rfl]
    at hraises
  exact not_refusedFirst_blankDevice hraises

theorem revokedById_refuses_sample :
    RaisesRevoked (verify asciiInterpreter sampleJwt
      (sampleVerifier (oneEntry .device (str "device") (.bytes [0])))
      (str "token")) := by
  refine (revokedById_refuses_iff asciiInterpreter signRuntimeToken_sample
    (decode_sample _ _ _) rfl).mpr (fun _ => Or.inl ?_) ?_
  · exact ⟨_, rfl, encodable_str _, by
      rw [RevocationStore.holds, oneEntry_self]
      rfl⟩
  · exact Or.inl ⟨_, rfl, _, _, _,
      revocationKeys_of_encodable (encodable_str _),
      List.mem_singleton.mpr rfl, oneEntry_self _ _⟩

end Runtime
end EidolonSdk
