import EidolonSdk.Runtime.SignedTokens

/-!
# The owner's watermark

A mark refuses the tokens issued before it and no others, if it works as meant.
The verifier compares it with the truncated {lit}`iat` claim and can read it
only as bytes; this module says for which tokens and marks that makes no
difference.
-/

namespace EidolonSdk
namespace Runtime

open Python Logic

section Watermark

variable (I : Interpreter) {request : SigningRequest} {jti : Uuid4Hex}
variable {now exp : Instant} {store : RevocationStore}
variable {jwt : PyJwt} {verifier : RuntimeTokenVerifier} {token : PyStr}

/-- What a stored value reads as. -/
def StoredValue.instant? : StoredValue -> Option Int
  | .bytes value => readMark value
  | .text value => readInstant value

/-- The owner's watermark: an unreadable value refuses every token, a readable
one exactly the tokens issued before it. -/
def WatermarkExact (now : Instant) (value : StoredValue)
    (outcome : Except RuntimeFailure RuntimeIdentity) : Prop :=
  match value.instant? with
  | none => RaisesRevoked outcome
  | some m =>
      (RaisesRevoked outcome <-> now.val < m) ∧
        (m ≤ now.val -> exists identity, outcome = .ok identity)

/-- The value stands under the owner's key and nothing under the other keys the
verifier reads. -/
structure OnlyOwnerMark (store : RevocationStore) (request : SigningRequest)
    (jti : Uuid4Hex) (value : StoredValue) : Prop where
  owner : exists key, ownerRevocationKeys (.str request.ownerId) = .ok [key] ∧
    store key = some value
  device : forall deviceId, request.deviceId = some deviceId ->
    ¬ Present store (deviceRevocationKeys (.str deviceId))
  session : ¬ Present store
    (sessionRevocationKeys (.str (strip request.sessionId)))
  jti : ¬ Present store (jtiRevocationKeys (.str jti.val))

def DeviceEncodable (request : SigningRequest) : Prop :=
  forall deviceId, request.deviceId = some deviceId -> Encodable deviceId

theorem store_eq_none_of_not_present {kind : RevocationKind} {id : PyStr}
    (h : ¬ Present store (revocationKeys kind (.str id)))
    (hid : Encodable id) : store (revocationKey kind id) = none := by
  cases hvalue : store (revocationKey kind id) with
  | none => rfl
  | some value =>
      exact absurd ⟨_, _, value, revocationKeys_of_encodable hid,
        List.mem_singleton.mpr rfl, hvalue⟩ h

theorem not_held_of_not_present {kind : RevocationKind} {id : PyStr}
    (h : ¬ Present store (revocationKeys kind (.str id))) :
    ¬ Held store kind id := by
  intro hparts
  rcases hparts with ⟨hid, hheld⟩
  rw [RevocationStore.holds, store_eq_none_of_not_present h hid] at hheld
  cases hheld

theorem clear_iff_of_not_present {kind : RevocationKind} {id : PyStr}
    (h : ¬ Present store (revocationKeys kind (.str id))) :
    Clear store kind id <-> Encodable id := by
  constructor
  · intro hclear
    exact hclear.left
  · intro hid
    refine ⟨hid, ?_⟩
    rw [RevocationStore.holds, store_eq_none_of_not_present h hid]

theorem OnlyOwnerMark.ownerKey {value : StoredValue}
    (h : OnlyOwnerMark store request jti value) :
    Encodable request.ownerId ∧
      store (revocationKey .owner request.ownerId) = some value := by
  rcases h.owner with ⟨key, hkeys, hvalue⟩
  rcases mem_revocationKeys hkeys (List.mem_singleton.mpr rfl) with
    ⟨id, heq, hid, rfl⟩
  cases heq
  exact ⟨hid, hvalue⟩

theorem OnlyOwnerMark.deviceClear_iff {value : StoredValue}
    (h : OnlyOwnerMark store request jti value) :
    DeviceClear store request.deviceId <-> DeviceEncodable request := by
  constructor
  · intro hclear deviceId hid
    exact (hclear deviceId hid).left
  · intro hencodable deviceId hid
    exact (clear_iff_of_not_present (h.device deviceId hid)).mpr
      (hencodable deviceId hid)

theorem OnlyOwnerMark.refusedFirst_iff {value : StoredValue}
    (h : OnlyOwnerMark store request jti value) :
    RefusedFirst store request jti now <->
      DeviceEncodable request ∧ MarkRefuses now value := by
  rcases h.ownerKey with ⟨howner, hvalue⟩
  have hdevice : ¬ DeviceHeld store request.deviceId := by
    intro hparts
    rcases hparts with ⟨id, hid, hheld⟩
    exact not_held_of_not_present (h.device id hid) hheld
  have hmarked : OwnerMarked store request now <-> MarkRefuses now value := by
    simp [OwnerMarked, howner, hvalue]
  have hsession : ¬ Held store .session (strip request.sessionId) :=
    not_held_of_not_present h.session
  have hjti : ¬ Held store .jti jti.val := not_held_of_not_present h.jti
  unfold RefusedFirst
  simp only [hdevice, h.deviceClear_iff, hmarked, hsession, hjti, false_or,
    and_false, or_false]

theorem OnlyOwnerMark.cleared_iff {value : StoredValue}
    (h : OnlyOwnerMark store request jti value) :
    (DeviceClear store request.deviceId ∧ OwnerUnmarked store request now ∧
        Clear store .session (strip request.sessionId) ∧
        Clear store .jti jti.val) <->
      DeviceEncodable request ∧ MarkPasses now value ∧
        Encodable request.sessionId := by
  rcases h.ownerKey with ⟨howner, hvalue⟩
  have hunmarked : OwnerUnmarked store request now <->
      MarkPasses now value := by
    simp [OwnerUnmarked, howner, hvalue]
  rw [h.deviceClear_iff, hunmarked, clear_iff_of_not_present h.session,
    clear_iff_of_not_present h.jti, encodable_strip]
  simp [encodable_jti]

/-- The condition under which a watermark is exact: it is stored as bytes, the
truncation of the issue time does not carry the token across it, and the
identifiers and the expiry of a token it lets through can be read. -/
def WatermarkHolds (request : SigningRequest) (now exp : Instant)
    (value : StoredValue) : Prop :=
  exists mark, value = .bytes mark ∧ DeviceEncodable request ∧
    forall m, readMark mark = some m ->
      (now.val < m ∧ issuedAt now < m) ∨
        (m ≤ now.val ∧ m ≤ issuedAt now ∧ Encodable request.sessionId ∧
          InRange (wholeSeconds exp.val * microsPerSecond))

section Outcome

variable {value : StoredValue}

theorem OnlyOwnerMark.raisesRevoked_iff
    (h : OnlyOwnerMark store request jti value)
    (hsign : signRuntimeToken jwt request jti now = .ok (token, exp))
    (hdecode : jwt.decode token (.text verifier.secret) verifier.algorithm
      ⟨none, []⟩ = .ok (runtimePayload request jti now exp))
    (hstore : verifier.revocationKv = some store) :
    RaisesRevoked (verify I jwt verifier token) <->
      DeviceEncodable request ∧ MarkRefuses now value := by
  rw [Runtime.raisesRevoked_iff I hsign hdecode hstore, h.refusedFirst_iff]

theorem OnlyOwnerMark.accepts_iff
    (h : OnlyOwnerMark store request jti value)
    (hsign : signRuntimeToken jwt request jti now = .ok (token, exp))
    (hdecode : jwt.decode token (.text verifier.secret) verifier.algorithm
      ⟨none, []⟩ = .ok (runtimePayload request jti now exp))
    (hstore : verifier.revocationKv = some store) :
    (exists identity, verify I jwt verifier token = .ok identity) <->
      (DeviceEncodable request ∧ MarkPasses now value ∧
        Encodable request.sessionId) ∧
        InRange (wholeSeconds exp.val * microsPerSecond) := by
  rw [@exists_ok_iff _ _ _ RuntimeFailure.IsRevoked,
    ends_verify_signed I hsign hdecode hstore,
    ends_verify_signed I hsign hdecode hstore, h.refusedFirst_iff,
    h.cleared_iff]
  simp only [and_true, exists_runtimeIdentity_iff,
    identityReadable_runtimePayload, and_false, exists_false, or_false]
  constructor
  · intro hparts
    rcases hparts with ⟨hrefused | hpassed, hnot⟩
    · exact absurd hrefused hnot
    · exact hpassed
  · intro hpassed
    refine ⟨Or.inr hpassed, ?_⟩
    intro hparts
    rcases hparts with ⟨_, hrefuses⟩
    exact not_markRefuses_of_markPasses hpassed.left.right.left hrefuses

/-!
A mark that is not stored as bytes decides nothing; one that is decides by the
instant it is read as.
-/

theorem not_markRefuses_text (text : PyStr) :
    ¬ MarkRefuses now (.text text) := by
  intro h
  rcases h with ⟨_, heq, _⟩
  cases heq

theorem not_markPasses_text (text : PyStr) : ¬ MarkPasses now (.text text) := by
  intro h
  rcases h with ⟨_, _, heq, _⟩
  cases heq

theorem not_watermarkHolds_text (text : PyStr) :
    ¬ WatermarkHolds request now exp (.text text) := by
  intro h
  rcases h with ⟨_, heq, _⟩
  cases heq

section Bytes

variable {mark : Bytes} {m : Int}

theorem markRefuses_bytes (hread : readMark mark = some m) :
    MarkRefuses now (.bytes mark) <-> issuedAt now < m := by
  simp [MarkRefuses, hread]

theorem markPasses_bytes (hread : readMark mark = some m) :
    MarkPasses now (.bytes mark) <-> m ≤ issuedAt now := by
  simp [MarkPasses, hread]

theorem watermarkHolds_bytes (hread : readMark mark = some m) :
    WatermarkHolds request now exp (.bytes mark) <->
      DeviceEncodable request ∧
        ((now.val < m ∧ issuedAt now < m) ∨
          (m ≤ now.val ∧ m ≤ issuedAt now ∧ Encodable request.sessionId ∧
            InRange (wholeSeconds exp.val * microsPerSecond))) := by
  simp [WatermarkHolds, hread]

end Bytes

theorem watermark_exact_iff
    (hsign : signRuntimeToken jwt request jti now = .ok (token, exp))
    (hdecode : jwt.decode token (.text verifier.secret) verifier.algorithm
      ⟨none, []⟩ = .ok (runtimePayload request jti now exp))
    (hstore : verifier.revocationKv = some store)
    (hmark : OnlyOwnerMark store request jti value) :
    WatermarkExact now value (verify I jwt verifier token) <->
      WatermarkHolds request now exp value := by
  unfold WatermarkExact
  rw [hmark.raisesRevoked_iff I hsign hdecode hstore,
    hmark.accepts_iff I hsign hdecode hstore]
  cases value with
  | text text =>
      simp only [not_markRefuses_text, not_markPasses_text,
        not_watermarkHolds_text, and_false, false_and, iff_false]
      cases (StoredValue.text text).instant? with
      | none => simp
      | some m =>
          dsimp only
          intro h
          rcases h with ⟨hbefore, hafter⟩
          rcases Int.lt_or_le now.val m with hlt | hle
          · exact hbefore.mpr hlt
          · exact hafter hle
  | bytes mark =>
      have hinstant : (StoredValue.bytes mark).instant? = readMark mark := rfl
      rw [hinstant]
      cases hread : readMark mark with
      | none => simp [MarkRefuses, WatermarkHolds, hread]
      | some m =>
          dsimp only
          rw [markRefuses_bytes hread, markPasses_bytes hread,
            watermarkHolds_bytes hread]
          rcases Int.lt_or_le now.val m with hlt | hle
          · simp [hlt, not_le.mpr hlt]
          · simp only [not_lt.mpr hle, hle, iff_false, true_implies, false_and,
              false_or, true_and]
            constructor
            · intro h
              rcases h with ⟨_, ⟨hdevice, hiat, hsession⟩, hexp⟩
              exact ⟨hdevice, hiat, hsession, hexp⟩
            · intro h
              rcases h with ⟨hdevice, hiat, hsession, hexp⟩
              refine ⟨?_, ⟨hdevice, hiat, hsession⟩, hexp⟩
              intro h
              rcases h with ⟨_, hlt⟩
              exact absurd hlt (not_lt.mpr hiat)

end Outcome

end Watermark

/-!
A mark a quarter of a second after midnight, older than the token, and one five
seconds after midnight.
-/

def markBytes (text : String) : Bytes :=
  (str text).flatMap utf8Char

def earlierMark : Bytes :=
  markBytes "2026-01-01T00:00:00.250000+00:00"

def laterMark : Bytes :=
  markBytes "2026-01-01T00:00:05+00:00"

theorem readMark_earlierMark : readMark earlierMark = some 1767225600250000 := by
  decide

theorem readMark_laterMark : readMark laterMark = some 1767225605000000 := by
  decide

theorem issuedAt_sampleNow : issuedAt sampleNow = 1767225600000000 := by
  unfold issuedAt
  rw [wholeSeconds_eq_div (by decide) (by decide)]
  rfl

theorem onlyOwnerMark_sample (value : StoredValue) :
    OnlyOwnerMark (oneEntry .owner (str "owner") value) sampleRequest
      sampleJti value := by
  have hother : forall (kind : RevocationKind) (id : PyStr), kind ≠ .owner ->
      ¬ Present (oneEntry .owner (str "owner") value)
        (revocationKeys kind (.str id)) := by
    intro kind id hkind h
    rcases h with ⟨keys, key, held, hkeys, hkey, hheld⟩
    rcases mem_revocationKeys hkeys hkey with ⟨id', heq, hid, rfl⟩
    rw [oneEntry_other (encodable_str _) hid] at hheld
    · cases hheld
    · intro hpair
      cases hpair
      exact hkind rfl
  exact
    { owner := ⟨_, revocationKeys_of_encodable (encodable_str _),
        oneEntry_self _ _⟩
      device := fun _ _ => hother .device _ (by decide)
      session := hother .session _ (by decide)
      jti := hother .jti _ (by decide) }

theorem deviceEncodable_sample : DeviceEncodable sampleRequest := by
  intro deviceId h
  cases h
  exact encodable_str _

/-- The token is refused although it was issued after the mark. -/
theorem earlier_mark_refuses :
    ¬ WatermarkExact sampleNow (.bytes earlierMark)
      (verify asciiInterpreter sampleJwt
        (sampleVerifier (oneEntry .owner (str "owner") (.bytes earlierMark)))
        (str "token")) := by
  intro h
  have hinstant : (StoredValue.bytes earlierMark).instant? =
      some 1767225600250000 := readMark_earlierMark
  simp only [WatermarkExact, hinstant] at h
  have hrefuses : MarkRefuses sampleNow (.bytes earlierMark) := by
    refine ⟨_, rfl, ?_⟩
    intro m hm
    rw [readMark_earlierMark] at hm
    cases hm
    rw [issuedAt_sampleNow]
    decide
  have hrevoked : RaisesRevoked (verify asciiInterpreter sampleJwt
      (sampleVerifier (oneEntry .owner (str "owner") (.bytes earlierMark)))
      (str "token")) :=
    ((onlyOwnerMark_sample _).raisesRevoked_iff asciiInterpreter
      signRuntimeToken_sample (decode_sample _ _ _) rfl).mpr
      ⟨deviceEncodable_sample, hrefuses⟩
  exact absurd (h.left.mp hrevoked) (by decide)

theorem watermark_exact_later_mark :
    WatermarkExact sampleNow (.bytes laterMark)
      (verify asciiInterpreter sampleJwt
        (sampleVerifier (oneEntry .owner (str "owner") (.bytes laterMark)))
        (str "token")) := by
  refine (watermark_exact_iff asciiInterpreter signRuntimeToken_sample
    (decode_sample _ _ _) rfl (onlyOwnerMark_sample _)).mpr ?_
  refine ⟨_, rfl, deviceEncodable_sample, ?_⟩
  intro m hm
  rw [readMark_laterMark] at hm
  cases hm
  rw [issuedAt_sampleNow]
  exact Or.inl ⟨by decide, by decide⟩

end Runtime
end EidolonSdk
