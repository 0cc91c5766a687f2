import EidolonSdk.Python.Base64
import EidolonSdk.Python.IsoFormat
import EidolonSdk.Python.PyJwt

/-!
# Agent runtime tokens

The signer, the revocation keys and the verifier of the owner-scoped runtime
token.  The signer and the verifier share nothing but the claim set between
them: the verifier takes every claim as untyped JSON and coerces it on its own.
-/

namespace EidolonSdk
namespace Runtime

open Python

/-!
## Failures
-/

/-- `RuntimeUnauthenticatedError`, its revoked subclass, or an exception the
verifier does not raise itself. -/
inductive RuntimeFailure where
  | unauthenticated (message : PyStr)
  | revoked (message : PyStr)
  | foreign (e : PyException)

/-- `isinstance(exc, RuntimeUnauthenticatedError)`. -/
def RuntimeFailure.IsUnauthenticated : RuntimeFailure -> Prop
  | .unauthenticated _ => True
  | .revoked _ => True
  | .foreign _ => False

/-- `isinstance(exc, RuntimeTokenRevokedError)`. -/
def RuntimeFailure.IsRevoked : RuntimeFailure -> Prop
  | .revoked _ => True
  | _ => False

/-!
## Signing
-/

/-- `uuid.uuid4().hex`. -/
def Uuid4Hex : Type :=
  { s : PyStr // s.length = 32 ∧ forall c, c ∈ s -> c ∈ str "0123456789abcdef" }

/-- What `sign_runtime_token` raises. -/
inductive SigningFailure where
  | valueError (message : PyStr)
  | overflowError

/-- `_require_claim`. -/
def requireClaim (name : String) (value : PyStr) : Except SigningFailure Unit :=
  if (strip value).isEmpty then
    throw (.valueError
      (str "sign_runtime_token: " ++ str name ++ str " is required"))
  else
    pure ()

/-- What `sign_runtime_token` is called with. -/
structure SigningRequest where
  secret : PyStr
  algorithm : PyStr := str "HS256"
  ownerId : PyStr
  companionId : PyStr
  sessionId : PyStr
  deviceId : Option PyStr := none
  scopes : List PyStr := []
  ttlSeconds : Json

/-- The signed claim set. -/
def runtimePayload (request : SigningRequest) (jti : Uuid4Hex)
    (now exp : Instant) : Members :=
  [(str "runtime_token_version", .int 5),
    (str "owner_id", .str request.ownerId),
    (str "companion_id", .str request.companionId),
    (str "session_id", .str request.sessionId),
    (str "scopes", .array (request.scopes.map .str)),
    (str "jti", .str jti.val),
    (str "exp", .int (wholeSeconds exp.val)),
    (str "iat", .int (wholeSeconds now.val))] ++
  match request.deviceId with
  | some deviceId => [(str "device_id", .str deviceId)]
  | none => []

/-- `ttl_seconds` where it is a positive integer and not a truth value. -/
def positiveSeconds : Json -> Except SigningFailure Int
  | .int n => if n ≤ 0 then throw refusal else pure n
  | _ => throw refusal
where
  refusal : SigningFailure :=
    .valueError
      (str "sign_runtime_token: ttl_seconds must be a positive integer")

def requireSecret (secret : PyStr) : Except SigningFailure Unit :=
  if secret.isEmpty then
    throw (.valueError (str "sign_runtime_token: secret is required (empty)"))
  else
    pure ()

def requireDevice : Option PyStr -> Except SigningFailure Unit
  | some deviceId => requireClaim "device_id" deviceId
  | none => pure ()

/-- `now + timedelta(seconds=ttl)`. -/
def expiryAfter (now : Instant) (ttl : Int) : Except SigningFailure Instant :=
  match Instant.ofMicros (now.val + ttl * microsPerSecond) with
  | some exp => pure exp
  | none => throw .overflowError

/-- The claim set and the expiry of a token signed at the time `now`. -/
def signedPayload (request : SigningRequest) (jti : Uuid4Hex) (now : Instant) :
    Except SigningFailure (Members × Instant) := do
  requireSecret request.secret
  requireClaim "owner_id" request.ownerId
  requireClaim "companion_id" request.companionId
  requireClaim "session_id" request.sessionId
  let ttl ← positiveSeconds request.ttlSeconds
  let exp ← expiryAfter now ttl
  requireDevice request.deviceId
  pure (runtimePayload request jti now exp, exp)

def signRuntimeToken (jwt : PyJwt) (request : SigningRequest) (jti : Uuid4Hex)
    (now : Instant) : Except SigningFailure (PyStr × Instant) := do
  let (payload, exp) ← signedPayload request jti now
  pure (jwt.encode payload (.text request.secret) request.algorithm, exp)

/-!
## Revocation keys

Every kind of identifier has one key; the identifier stands in it as unpadded
base64url of its UTF-8 octets.
-/

/-- `_kv_safe_token`: only a string has an encoding. -/
def kvSafeToken : Json -> Except PyException PyStr
  | .str value =>
      match encodeUtf8 value with
      | some bytes => pure (urlsafeB64Unpadded bytes)
      | none => throw .unicodeEncodeError
  | _ => throw .attributeError

inductive RevocationKind where
  | device
  | owner
  | session
  | jti
  deriving DecidableEq

def RevocationKind.keyPrefix : RevocationKind -> PyStr
  | .device => str "revoked.device."
  | .owner => str "revoked.owner."
  | .session => str "revoked.session."
  | .jti => str "revoked.jti."

/-- The keys of one kind for one identifier. -/
def revocationKeys (kind : RevocationKind) (value : Json) :
    Except PyException (List PyStr) := do
  let token ← kvSafeToken value
  pure [kind.keyPrefix ++ token]

def deviceRevocationKeys (deviceId : Json) : Except PyException (List PyStr) :=
  revocationKeys .device deviceId

def ownerRevocationKeys (ownerId : Json) : Except PyException (List PyStr) :=
  revocationKeys .owner ownerId

def sessionRevocationKeys (sessionId : Json) :
    Except PyException (List PyStr) :=
  revocationKeys .session sessionId

def jtiRevocationKeys (jti : Json) : Except PyException (List PyStr) :=
  revocationKeys .jti jti

/-!
## The revocation store
-/

inductive StoredValue where
  | bytes (value : Bytes)
  | text (value : PyStr)

def StoredValue.truthy : StoredValue -> Bool
  | .bytes value => !value.isEmpty
  | .text value => !value.isEmpty

/-- `RuntimeRevocationStore.get`. -/
abbrev RevocationStore := PyStr -> Option StoredValue

/-- `if await self._kv.get(key)`. -/
def RevocationStore.holds (store : RevocationStore) (key : PyStr) : Bool :=
  match store key with
  | some value => value.truthy
  | none => false

/-!
## Verifying
-/

structure RuntimeIdentity where
  ownerId : Json
  companionId : Json
  deviceId : Option PyStr
  sessionId : PyStr
  scopes : List Json
  exp : Instant

structure RuntimeTokenVerifier where
  secret : PyStr
  secret_nonempty : secret.isEmpty = false
  algorithm : PyStr
  revocationKv : Option RevocationStore

/-- `datetime.fromtimestamp(value, tz=timezone.utc)`. -/
def fromtimestamp : Json -> Except PyException Instant
  | .int n => inRange (fromTimestampInt n)
  | .bool b => inRange (fromTimestampInt (if b then 1 else 0))
  | .float (.finite negative magnitude _) =>
      inRange (fromTimestampFloat negative magnitude)
  | .float (.infinite _) => throw .overflowError
  | .float .nan => throw .valueError
  | _ => throw .typeError
where
  inRange : Option Instant -> Except PyException Instant
    | some instant => pure instant
    | none => throw .valueError

/-- `float(n)`, as sign and magnitude. -/
def floatOf (n : Int) : Except PyException (Bool × Nat) :=
  match floatOfInt n with
  | some x => pure x
  | none => throw .overflowError

/-- `datetime.fromtimestamp(float(issued_at), tz=timezone.utc)` for a number;
`none` where `issued_at` is not one. -/
def issuedInstant : Json -> Option (Except PyException Instant)
  | .int n => some (ofInt n)
  | .bool b => some (ofInt (if b then 1 else 0))
  | .float x => some (fromtimestamp (.float x))
  | _ => none
where
  ofInt (n : Int) : Except PyException Instant := do
    let x ← floatOf n
    fromtimestamp.inRange (fromTimestampFloat x.fst x.snd)

/-- The instant a text names, read as UTC where it has no offset. -/
def readInstant (text : PyStr) : Option Int :=
  (fromisoformat (strip text)).map Datetime.assumeUtc

def readMark (mark : Bytes) : Option Int :=
  (decodeUtf8 mark).bind readInstant

/-- `_issued_before`. -/
def issuedBefore (payload : Members) : StoredValue -> Except PyException Bool
  | .text _ => throw .attributeError
  | .bytes mark =>
      match readMark mark with
      | none => pure true
      | some revokedAt =>
          match (payload.get "iat").bind issuedInstant with
          | none => pure true
          | some issued => do
              let issuedAt ← issued
              pure (decide (issuedAt.val < revokedAt))

section Verify

variable (I : Interpreter)

/-- An exception the verifier does not catch. -/
def uncaught {α : Type} : Except PyException α -> Except RuntimeFailure α
  | .ok a => .ok a
  | .error e => .error (.foreign e)

/-- A presence-based lookup. -/
def refuseHeld (store : RevocationStore)
    (keys : Except PyException (List PyStr)) (message : PyStr) :
    Except RuntimeFailure Unit := do
  let keys ← uncaught keys
  keys.forM fun key =>
    if store.holds key then throw (.revoked message) else pure ()

/-- The lookup of the owner's watermark. -/
def refuseBeforeMark (store : RevocationStore) (payload : Members)
    (ownerId : Json) : Except RuntimeFailure Unit := do
  let keys ← uncaught (ownerRevocationKeys ownerId)
  keys.forM fun key =>
    match store key with
    | none => pure ()
    | some mark => do
        let before ← uncaught (issuedBefore payload mark)
        if before then
          throw (.revoked
            (str "all sessions revoked for owner: " ++ ownerId.text I))
        else
          pure ()

/-- `str(payload.get(name) or "").strip()`. -/
def trimmedClaim (payload : Members) (name : String) : PyStr :=
  strip ((Json.orEmpty (payload.get name)).text I)

/-- `str(device_id) if device_id else None`. -/
def deviceOf (payload : Members) : Option PyStr :=
  match payload.get "device_id" with
  | some deviceId => if deviceId.truthy then some (deviceId.text I) else none
  | none => none

def refuseDevice (store : RevocationStore) :
    Option PyStr -> Except RuntimeFailure Unit
  | some deviceId =>
      refuseHeld store (deviceRevocationKeys (.str deviceId))
        (str "device revoked: " ++ deviceId)
  | none => pure ()

def refuseSession (store : RevocationStore) (sessionId : PyStr) :
    Except RuntimeFailure Unit :=
  refuseHeld store (sessionRevocationKeys (.str sessionId))
    (str "session revoked: " ++ sessionId)

def refuseJti (store : RevocationStore) (jti : PyStr) :
    Except RuntimeFailure Unit :=
  if jti.isEmpty then pure ()
  else
    refuseHeld store (jtiRevocationKeys (.str jti))
      (str "token revoked: " ++ jti)

/-- The four lookups, in their order. -/
def checkRevocations (store : RevocationStore) (payload : Members)
    (ownerId : Json) (sessionId : PyStr) : Except RuntimeFailure Unit := do
  refuseDevice store (deviceOf I payload)
  refuseBeforeMark I store payload ownerId
  refuseSession store sessionId
  refuseJti store (trimmedClaim I payload "jti")

/-- `payload.get("scopes") or ()`. -/
def scopesOf (payload : Members) : Json :=
  match payload.get "scopes" with
  | some scopes => if scopes.truthy then scopes else .array []
  | none => .array []

/-- `payload["exp"]` as a datetime. -/
def expiry (payload : Members) : Except PyException Instant :=
  match payload.get "exp" with
  | some exp => fromtimestamp exp
  | none => throw .keyError

def runtimeIdentity (payload : Members) (ownerId companionId : Json)
    (sessionId : PyStr) : Except PyException RuntimeIdentity := do
  let scopes ← (scopesOf payload).tuple
  let exp ← expiry payload
  pure
    { ownerId := ownerId
      companionId := companionId
      deviceId := deviceOf I payload
      sessionId := sessionId
      scopes := scopes
      exp := exp }

/-- `payload.get("runtime_token_version") != 5`. -/
def versionSupported (payload : Members) : Bool :=
  match payload.get "runtime_token_version" with
  | some version => version.equalsInt 5
  | none => false

def authenticate (holds : Bool) (message : PyStr) :
    Except RuntimeFailure Unit :=
  if holds then pure () else throw (.unauthenticated message)

/-- The lookups of a verifier that has a store. -/
def checkStore (revocationKv : Option RevocationStore) (payload : Members)
    (ownerId : Json) (sessionId : PyStr) : Except RuntimeFailure Unit :=
  match revocationKv with
  | some store => checkRevocations I store payload ownerId sessionId
  | none => pure ()

/-- Everything `verify` does with a decoded claim set. -/
def verifyPayload (revocationKv : Option RevocationStore) (payload : Members) :
    Except RuntimeFailure RuntimeIdentity := do
  authenticate (versionSupported payload)
    (str "unsupported runtime_token_version")
  let ownerId := Json.orEmpty (payload.get "owner_id")
  let companionId := Json.orEmpty (payload.get "companion_id")
  let sessionId := trimmedClaim I payload "session_id"
  authenticate ownerId.truthy (str "token missing owner_id")
  authenticate companionId.truthy (str "token missing companion_id")
  authenticate (!sessionId.isEmpty) (str "token missing session_id")
  checkStore I revocationKv payload ownerId sessionId
  uncaught (runtimeIdentity I payload ownerId companionId sessionId)

def verify (jwt : PyJwt) (verifier : RuntimeTokenVerifier) (token : PyStr) :
    Except RuntimeFailure RuntimeIdentity :=
  match jwt.decode token (.text verifier.secret) verifier.algorithm
      ⟨none, []⟩ with
  | .ok payload => verifyPayload I verifier.revocationKv payload
  | .error (.pyJwtError message) =>
      throw (.unauthenticated (str "invalid token: " ++ message))
  | .error (.foreign e) => throw (.foreign e)

end Verify

end Runtime
end EidolonSdk
