import EidolonSdk.Runtime.Revocation

/-!
# Runtime token verification

A claim set is untyped, so each coercion the verifier makes can fail with an
exception of the standard library.  This module computes, backwards through
{lit}`verify`, the claim sets and stores for which it does not: the verifier
returns an identity or raises its own error exactly there.  It also shows that
the outcome depends on the store only through the carried identifiers.
-/

namespace EidolonSdk
namespace Runtime

open Python Logic

/-!
## Reading the identity
-/

/-- `tuple` accepts the value. -/
def Iterable : Json -> Prop
  | .array _ => True
  | .str _ => True
  | .object _ => True
  | _ => False

/-- `datetime.fromtimestamp` accepts the value. -/
def TimestampReadable : Json -> Prop
  | .int n => InRange (n * microsPerSecond)
  | .bool _ => True
  | .float (.finite negative magnitude _) =>
      InRange (if negative then -(microsOfMagnitude magnitude : Int)
        else microsOfMagnitude magnitude)
  | _ => False

@[simp] theorem timestampReadable_int {n : Int} :
    TimestampReadable (.int n) <-> InRange (n * microsPerSecond) := Iff.rfl

theorem exists_tuple_iff {value : Json} :
    (exists items, value.tuple = .ok items) <-> Iterable value := by
  cases value with
  | array items => exact ⟨fun _ => True.intro, fun _ => ⟨_, rfl⟩⟩
  | str s => exact ⟨fun _ => True.intro, fun _ => ⟨_, rfl⟩⟩
  | object members => exact ⟨fun _ => True.intro, fun _ => ⟨_, rfl⟩⟩
  | null => exact ⟨nofun, False.elim⟩
  | bool b => exact ⟨nofun, False.elim⟩
  | int n => exact ⟨nofun, False.elim⟩
  | float x => exact ⟨nofun, False.elim⟩

theorem exists_inRange_iff {micros : Int} :
    (exists instant, fromtimestamp.inRange (Instant.ofMicros micros) =
      .ok instant) <-> InRange micros := by
  constructor
  · intro h
    by_contra hout
    rw [Instant.ofMicros_eq_none.mpr hout] at h
    rcases h with ⟨instant, h⟩
    cases h
  · intro h
    exact ⟨⟨micros, h⟩, by rw [Instant.ofMicros_val ⟨micros, h⟩]; rfl⟩

theorem exists_fromtimestamp_iff {value : Json} :
    (exists instant, fromtimestamp value = .ok instant) <->
      TimestampReadable value := by
  have hother : forall {e : PyException},
      (exists instant : Instant, (.error e : Except PyException Instant) =
        .ok instant) <-> False :=
    ⟨fun h => not_exists_error h, False.elim⟩
  cases value with
  | int n => exact exists_inRange_iff
  | bool b =>
      have hrange : InRange ((if b then 1 else 0) * microsPerSecond) := by
        cases b <;> decide
      exact ⟨fun _ => True.intro, fun _ => exists_inRange_iff.mpr hrange⟩
  | float x =>
      cases x with
      | finite negative magnitude representable => exact exists_inRange_iff
      | infinite negative => exact hother
      | nan => exact hother
  | null => exact hother
  | str s => exact hother
  | array items => exact hother
  | object members => exact hother

/-- The scopes can be listed and the expiry is a time. -/
def IdentityReadable (payload : Members) : Prop :=
  Iterable (scopesOf payload) ∧
    exists exp, payload.get "exp" = some exp ∧ TimestampReadable exp

theorem exists_expiry_iff {payload : Members} :
    (exists instant, expiry payload = .ok instant) <->
      exists exp, payload.get "exp" = some exp ∧ TimestampReadable exp := by
  unfold expiry
  cases payload.get "exp" with
  | none =>
      constructor
      · intro h
        exact absurd h not_exists_error
      · intro hparts
        rcases hparts with ⟨exp, h, _⟩
        cases h
  | some exp =>
      constructor
      · intro h
        exact ⟨exp, rfl, exists_fromtimestamp_iff.mp h⟩
      · intro hparts
        rcases hparts with ⟨exp', h, hreadable⟩
        cases h
        exact exists_fromtimestamp_iff.mpr hreadable

variable (I : Interpreter)

theorem exists_runtimeIdentity_iff {payload : Members}
    {ownerId companionId : Json} {sessionId : PyStr} :
    (exists identity,
      runtimeIdentity I payload ownerId companionId sessionId = .ok identity) <->
      IdentityReadable payload := by
  unfold runtimeIdentity IdentityReadable
  rw [← exists_tuple_iff, ← exists_expiry_iff]
  constructor
  · intro hparts
    rcases hparts with ⟨identity, h⟩
    rcases bind_eq_ok.mp h with ⟨items, hitems, hrest⟩
    rcases bind_eq_ok.mp hrest with ⟨exp, hexp, _⟩
    exact ⟨⟨items, hitems⟩, ⟨exp, hexp⟩⟩
  · intro hparts
    rcases hparts with ⟨⟨items, hitems⟩, ⟨exp, hexp⟩⟩
    exact ⟨_, bind_eq_ok.mpr ⟨items, hitems, bind_eq_ok.mpr ⟨exp, hexp, rfl⟩⟩⟩

/-!
## The whole verification
-/

section Verify

variable {onError : RuntimeFailure -> Prop}

theorem ends_uncaught {α : Type} {x : Except PyException α}
    {onValue : α -> Prop} (hE : Refusal onError) :
    Ends (uncaught x) onValue onError <-> exists a, x = .ok a ∧ onValue a := by
  cases x with
  | ok a => simp [uncaught]
  | error e => simp [uncaught, hE.foreign]

theorem check_authenticate (holds : Bool) (message : PyStr) :
    Check (authenticate holds message) onError
      (holds = false ∧ onError (.unauthenticated message)) (holds = true) := by
  cases holds with
  | true => exact check_pure.iff (by simp) (by simp)
  | false => exact (check_throw _).iff (by simp) (by simp)

/-- What the verifier's store does with a claim set. -/
def StoreRefused (revocationKv : Option RevocationStore) (payload : Members) :
    Prop :=
  exists store, revocationKv = some store ∧
    Refused I store payload (Json.orEmpty (payload.get "owner_id"))
      (trimmedClaim I payload "session_id")

def StoreCleared (revocationKv : Option RevocationStore) (payload : Members) :
    Prop :=
  forall store, revocationKv = some store ->
    Cleared I store payload (Json.orEmpty (payload.get "owner_id"))
      (trimmedClaim I payload "session_id")

theorem check_checkStore (hE : Refusal onError)
    (revocationKv : Option RevocationStore) (payload : Members) :
    Check
      (checkStore I revocationKv payload
        (Json.orEmpty (payload.get "owner_id"))
        (trimmedClaim I payload "session_id"))
      onError (StoreRefused I revocationKv payload)
      (StoreCleared I revocationKv payload) := by
  cases revocationKv with
  | none =>
      exact check_pure.iff (by simp [StoreRefused]) (by simp [StoreCleared])
  | some store =>
      exact (check_checkRevocations I hE payload _ _).iff
        (by simp [StoreRefused]) (by simp [StoreCleared])

/-- The claims every runtime token has. -/
def ClaimsPresent (payload : Members) : Prop :=
  versionSupported payload = true ∧
    (Json.orEmpty (payload.get "owner_id")).truthy = true ∧
    (Json.orEmpty (payload.get "companion_id")).truthy = true ∧
    trimmedClaim I payload "session_id" ≠ []

theorem ends_verifyPayload (hE : Refusal onError)
    (revocationKv : Option RevocationStore) {payload : Members}
    {onValue : RuntimeIdentity -> Prop} (h : ClaimsPresent I payload) :
    Ends (verifyPayload I revocationKv payload) onValue onError <->
      StoreRefused I revocationKv payload ∨
        (StoreCleared I revocationKv payload ∧
          exists identity,
            runtimeIdentity I payload (Json.orEmpty (payload.get "owner_id"))
                (Json.orEmpty (payload.get "companion_id"))
                (trimmedClaim I payload "session_id") = .ok identity ∧
              onValue identity) := by
  rcases h with ⟨hversion, howner, hcompanion, hsession⟩
  have hnonempty : (!(trimmedClaim I payload "session_id").isEmpty) = true := by
    simpa using hsession
  unfold verifyPayload
  simp only [(check_authenticate _ _).ends_bind, hversion, howner, hcompanion,
    hnonempty, (check_checkStore I hE revocationKv payload).ends_bind,
    ends_uncaught hE]
  simp

theorem isUnauthenticated_verifyPayload {revocationKv : Option RevocationStore}
    {payload : Members} (h : ¬ ClaimsPresent I payload) :
    Ends (verifyPayload I revocationKv payload) (fun _ => True)
      RuntimeFailure.IsUnauthenticated := by
  unfold verifyPayload
  simp only [(check_authenticate _ _).ends_bind,
    RuntimeFailure.IsUnauthenticated]
  cases hversion : versionSupported payload with
  | false => simp
  | true =>
      cases howner : (Json.orEmpty (payload.get "owner_id")).truthy with
      | false => simp
      | true =>
          cases hcompanion :
              (Json.orEmpty (payload.get "companion_id")).truthy with
          | false => simp
          | true =>
              cases hsession : trimmedClaim I payload "session_id" with
              | nil => simp
              | cons c rest =>
                  have hpresent : ClaimsPresent I payload :=
                    ⟨hversion, howner, hcompanion, by simp [hsession]⟩
                  exact absurd hpresent h

theorem verify_of_decode {jwt : PyJwt} {verifier : RuntimeTokenVerifier}
    {token : PyStr} {payload : Members}
    (h : jwt.decode token (.text verifier.secret) verifier.algorithm ⟨none, []⟩ =
      .ok payload) :
    verify I jwt verifier token =
      verifyPayload I verifier.revocationKv payload := by
  unfold verify
  rw [h]

end Verify

/-!
## Failing closed
-/

/-- An identity, or the verifier's own error. -/
def FailsClosed (outcome : Except RuntimeFailure RuntimeIdentity) : Prop :=
  (exists identity, outcome = .ok identity) ∨
    exists e, outcome = .error e ∧ e.IsUnauthenticated

theorem failsClosed_iff_ends {outcome : Except RuntimeFailure RuntimeIdentity} :
    FailsClosed outcome <->
      Ends outcome (fun _ => True) RuntimeFailure.IsUnauthenticated := by
  cases outcome with
  | ok identity => simp [FailsClosed]
  | error e => simp [FailsClosed]

/-- A claim that has to be there is missing, or some lookup refuses before any
fails, or no lookup fails and the identity can be read. -/
def AnswersClosed (revocationKv : Option RevocationStore) (payload : Members) :
    Prop :=
  ClaimsPresent I payload ->
    StoreRefused I revocationKv payload ∨
      (StoreCleared I revocationKv payload ∧ IdentityReadable payload)

theorem verify_failsClosed_iff (jwt : PyJwt) (verifier : RuntimeTokenVerifier)
    (token : PyStr) (payload : Members)
    (hdecode : jwt.decode token (.text verifier.secret) verifier.algorithm
      ⟨none, []⟩ = .ok payload) :
    FailsClosed (verify I jwt verifier token) <->
      AnswersClosed I verifier.revocationKv payload := by
  rw [verify_of_decode I hdecode, failsClosed_iff_ends]
  unfold AnswersClosed
  by_cases hpresent : ClaimsPresent I payload
  · rw [ends_verifyPayload I refusal_isUnauthenticated _ hpresent]
    simp only [hpresent, true_implies, and_true, exists_runtimeIdentity_iff]
  · simp only [hpresent, false_implies, iff_true]
    exact isUnauthenticated_verifyPayload I hpresent

/-!
A token signed under the secret need not come from the signer; {lit}`exp` is
optional to the token package, but not to the verifier.
-/

def bareClaims : Members :=
  [(str "runtime_token_version", .int 5), (str "owner_id", .str (str "owner")),
    (str "companion_id", .str (str "companion")),
    (str "session_id", .str (str "session"))]

def bareVerifier : RuntimeTokenVerifier where
  secret := str "secret"
  secret_nonempty := rfl
  algorithm := str "HS256"
  revocationKv := none

theorem claimsPresent_bareClaims (rest : Members) :
    ClaimsPresent asciiInterpreter (bareClaims ++ rest) := by
  refine ⟨?_, ?_, ?_, ?_⟩
  · simp [bareClaims, versionSupported, Json.equalsInt_int]
  · simp [bareClaims]
  · simp [bareClaims]
  · simp only [bareClaims, trimmedClaim]
    simp
    decide

theorem verify_bareClaims_escapes :
    ¬ FailsClosed
      (verify asciiInterpreter (oneTokenJwt (str "token") bareClaims)
        bareVerifier (str "token")) := by
  have hpresent : ClaimsPresent asciiInterpreter bareClaims :=
    claimsPresent_bareClaims []
  rw [verify_of_decode _ (oneTokenJwt_decode _ _ _ _ _), failsClosed_iff_ends,
    ends_verifyPayload _ refusal_isUnauthenticated _ hpresent]
  simp only [and_true, exists_runtimeIdentity_iff]
  intro hparts
  rcases hparts with ⟨store, h, _⟩ | ⟨_, _, exp, hexp, _⟩
  · cases h
  · simp [bareClaims] at hexp

theorem verify_failsClosed_with_exp :
    FailsClosed
      (verify asciiInterpreter
        (oneTokenJwt (str "token") (bareClaims ++ [(str "exp", .int 7)]))
        bareVerifier (str "token")) := by
  rw [verify_failsClosed_iff _ _ _ _ _ (oneTokenJwt_decode _ _ _ _ _)]
  intro _
  have hreadable : IdentityReadable (bareClaims ++ [(str "exp", .int 7)]) := by
    refine ⟨?_, .int 7, ?_, ?_⟩
    · simp [scopesOf, bareClaims, Iterable]
    · simp [bareClaims]
    · exact timestampReadable_int.mpr (by decide)
  refine Or.inr ⟨?_, hreadable⟩
  intro store h
  cases h

/-!
## Isolation
-/

theorem verifyPayload_congr {store store' : RevocationStore}
    {payload : Members}
    (h : forall kind value, (kind, value) ∈ carriedIds I payload ->
      AgreeOn store store' kind value) :
    verifyPayload I (some store) payload =
      verifyPayload I (some store') payload := by
  unfold verifyPayload
  simp only [checkStore, checkRevocations_congr I h]

theorem verify_congr {jwt : PyJwt} {verifier : RuntimeTokenVerifier}
    {token : PyStr} {payload : Members}
    (hdecode : jwt.decode token (.text verifier.secret) verifier.algorithm
      ⟨none, []⟩ = .ok payload)
    {store store' : RevocationStore}
    (h : forall kind value, (kind, value) ∈ carriedIds I payload ->
      AgreeOn store store' kind value) :
    verify I jwt { verifier with revocationKv := some store } token =
      verify I jwt { verifier with revocationKv := some store' } token := by
  have hstore : forall kv : RevocationStore,
      verify I jwt { verifier with revocationKv := some kv } token =
        verifyPayload I (some kv) payload :=
    fun kv =>
      @verify_of_decode I jwt { verifier with revocationKv := some kv } token
        payload hdecode
  rw [hstore, hstore, verifyPayload_congr I h]

theorem mem_revocationKeys {kind : RevocationKind} {value : Json}
    {keys : List PyStr} {key : PyStr}
    (hkeys : revocationKeys kind value = .ok keys) (hkey : key ∈ keys) :
    exists id, value = .str id ∧ Encodable id ∧
      key = revocationKey kind id := by
  by_cases hstr : exists id, value = .str id
  · rcases hstr with ⟨id, rfl⟩
    by_cases hid : Encodable id
    · rw [revocationKeys_of_encodable hid] at hkeys
      cases hkeys
      exact ⟨id, rfl, hid, List.mem_singleton.mp hkey⟩
    · rw [revocationKeys_of_not_encodable hid] at hkeys
      cases hkeys
  · rw [revocationKeys_of_not_str fun id h => hstr ⟨id, h⟩] at hkeys
    cases hkeys

/-- Two identifiers, of one kind or of two, never share a key. -/
theorem revocationKeys_disjoint {kind kind' : RevocationKind}
    {value value' : Json} {keys keys' : List PyStr} {key : PyStr}
    (hkeys : revocationKeys kind value = .ok keys)
    (hkeys' : revocationKeys kind' value' = .ok keys')
    (hkey : key ∈ keys) (hkey' : key ∈ keys') :
    kind = kind' ∧ value = value' := by
  rcases mem_revocationKeys hkeys hkey with ⟨id, rfl, hid, rfl⟩
  rcases mem_revocationKeys hkeys' hkey' with ⟨id', rfl, hid', heq⟩
  rcases revocationKey_inj hid hid' heq with ⟨rfl, rfl⟩
  exact ⟨rfl, rfl⟩

/-- The store decides about a token through the carried identifiers only, and
revoking any other identifier writes none of their keys. -/
theorem revocation_isolated (jwt : PyJwt) (verifier : RuntimeTokenVerifier)
    (token : PyStr) (payload : Members)
    (hdecode : jwt.decode token (.text verifier.secret) verifier.algorithm
      ⟨none, []⟩ = .ok payload) :
    (carriedIds I payload).length ≤ 4 ∧
    (forall store store' : RevocationStore,
      (forall kind value, (kind, value) ∈ carriedIds I payload ->
        AgreeOn store store' kind value) ->
      verify I jwt { verifier with revocationKv := some store } token =
        verify I jwt { verifier with revocationKv := some store' } token) ∧
    (forall (kind kind' : RevocationKind) (id id' : PyStr)
        (keys keys' : List PyStr),
      revocationKeys kind (.str id) = .ok keys ->
      revocationKeys kind' (.str id') = .ok keys' ->
      (kind, id) ≠ (kind', id') ->
      forall key, key ∈ keys -> key ∉ keys') ∧
    (forall (store store' : RevocationStore) (kind : RevocationKind)
        (id : PyStr) (keys : List PyStr),
      revocationKeys kind (.str id) = .ok keys ->
      (forall key, key ∉ keys -> store key = store' key) ->
      (kind, .str id) ∉ carriedIds I payload ->
      verify I jwt { verifier with revocationKv := some store } token =
        verify I jwt { verifier with revocationKv := some store' } token) := by
  refine ⟨carriedIds_length I payload, ?_, ?_, ?_⟩
  · intro store store' h
    exact verify_congr I hdecode h
  · intro kind kind' id id' keys keys' hkeys hkeys' hne key hkey hkey'
    rcases revocationKeys_disjoint hkeys hkeys' hkey hkey' with ⟨rfl, hid⟩
    cases hid
    exact hne rfl
  · intro store store' kind id keys hkeys hsame hnot
    refine verify_congr I hdecode fun kind' value hmem keys' hkeys' key hkey' => ?_
    apply hsame
    intro hkey
    rcases revocationKeys_disjoint hkeys hkeys' hkey hkey' with ⟨rfl, rfl⟩
    exact hnot hmem

theorem revocation_isolated_other_session :
    verify asciiInterpreter (oneTokenJwt (str "token") bareClaims)
        { bareVerifier with revocationKv := some fun _ => none }
        (str "token") =
      verify asciiInterpreter (oneTokenJwt (str "token") bareClaims)
        { bareVerifier with
          revocationKv := some (oneEntry .session (str "other") (.bytes [0])) }
        (str "token") := by
  refine (revocation_isolated asciiInterpreter _ bareVerifier _ _
    (oneTokenJwt_decode _ _ _ _ _)).right.right.right _ _ .session
    (str "other") _ (revocationKeys_of_encodable (encodable_str _)) ?_ ?_
  · intro key hkey
    rw [List.mem_singleton] at hkey
    simp [oneEntry, hkey]
  · have hsession : trimmedClaim asciiInterpreter bareClaims "session_id" =
        str "session" := by
      simp [trimmedClaim, bareClaims]
      decide
    have hjti : trimmedClaim asciiInterpreter bareClaims "jti" = [] := by
      simp [trimmedClaim, bareClaims, strip]
    have hdevice : deviceOf asciiInterpreter bareClaims = none := by
      simp [deviceOf, bareClaims]
    simp [carriedIds, hsession, hjti, hdevice]

end Runtime
end EidolonSdk
