import EidolonSdk.Coding.Separated
import EidolonSdk.Logic.Outcome
import EidolonSdk.Python.Base64
import EidolonSdk.Support.Primitives

/-!
# Device request signatures

A device signs its request as six lines joined by newlines.  No field is
escaped, and of the five fields the device chooses only the timestamp is
checked, as leniently as {lit}`int` reads it; the lines determine the fields
exactly as far as the fields contain no newlines of their own.
-/

namespace EidolonSdk
namespace Devices

open Python Logic Coding Support

/-!
## The request
-/

structure DeviceAuthHeaders where
  deviceId : PyStr
  nonce : PyStr
  timestamp : PyStr
  publicKey : Option PyStr
  signature : PyStr

/-- What `verify_device_signature` is called with. -/
structure DeviceRequest where
  headers : DeviceAuthHeaders
  storedPublicKey : Option PyStr
  pathQuery : PyStr
  method : PyStr := str "GET"
  body : Bytes := []
  now : Option Int := none

inductive DeviceAuthFailure where
  | deviceAuthError (message : PyStr)
  | foreign (e : PyException)
  deriving DecidableEq

/-- The primitives of the cryptography package. -/
structure DeviceCrypto where
  hash : Sha256
  PublicKey : Type
  loadDerPublicKey : Bytes -> Option PublicKey
  /-- The curve of an elliptic-curve key. -/
  curveName : PublicKey -> Option PyStr
  verify : PublicKey -> Bytes -> Bytes -> SignatureCheck

/-!
## Verification
-/

section Verify

variable (I : Interpreter) (C : DeviceCrypto)

def newline : CodePoint :=
  codePoint '\n'

/-- The six lines of `canonical_request`. -/
def canonicalLines (request : DeviceRequest) : List PyStr :=
  [I.upper request.method, request.pathQuery, request.headers.deviceId,
    request.headers.nonce, request.headers.timestamp,
    C.hash.hexdigest request.body]

def canonicalText (request : DeviceRequest) : PyStr :=
  [newline].intercalate (canonicalLines I C request)

def canonicalRequest (request : DeviceRequest) :
    Except DeviceAuthFailure Bytes :=
  match encodeUtf8 (canonicalText I C request) with
  | some signed => pure signed
  | none => throw (.foreign .unicodeEncodeError)

/-- `_b64url_decode`. -/
def b64urlDecode (value : PyStr) : Option Bytes :=
  urlsafeB64Decode (value ++ b64Fill value.length)

/-- `headers.public_key or stored_public_key`. -/
def publicKeyB64 (request : DeviceRequest) : PyStr :=
  let presented := request.headers.publicKey.getD []
  if presented.isEmpty then request.storedPublicKey.getD [] else presented

def requireKey (request : DeviceRequest) : Except DeviceAuthFailure PyStr :=
  let stored := request.storedPublicKey.getD []
  let presented := request.headers.publicKey.getD []
  if (publicKeyB64 request).isEmpty then
    throw (.deviceAuthError
      (str "X-Device-Public-Key is required for first registration"))
  else if !stored.isEmpty && !presented.isEmpty && presented != stored then
    throw (.deviceAuthError (str "device public key mismatch"))
  else
    pure (publicKeyB64 request)

def unixFloor : Int := 1700000000

/-- `_check_timestamp`; `clock` is `int(time.time())`. -/
def checkTimestamp (clock : Int) (timestamp : PyStr) (now : Option Int) :
    Except DeviceAuthFailure Unit :=
  match I.int timestamp with
  | none => throw (.deviceAuthError (str "invalid X-Device-Timestamp"))
  | some value =>
      if value < 0 then
        throw (.deviceAuthError (str "invalid X-Device-Timestamp"))
      else if unixFloor ≤ value ∧ 300 < (now.getD clock - value).natAbs then
        throw (.deviceAuthError (str "stale X-Device-Timestamp"))
      else
        pure ()

/-- The key behind a text, if it can be loaded. -/
def loadedKey (keyB64 : PyStr) : Option C.PublicKey :=
  (b64urlDecode keyB64).bind C.loadDerPublicKey

def loadP256Key (keyB64 : PyStr) : Except DeviceAuthFailure C.PublicKey :=
  match loadedKey C keyB64 with
  | none => throw (.deviceAuthError (str "invalid device public key"))
  | some key =>
      match C.curveName key with
      | none => throw (.deviceAuthError (str "device public key must be an EC key"))
      | some name =>
          if name = str "secp256r1" ∨ name = str "prime256v1" then pure key
          else throw (.deviceAuthError (str "device public key must use P-256"))

def checkSignature (key : C.PublicKey) (signature : PyStr) (signed : Bytes) :
    Except DeviceAuthFailure Unit :=
  match (b64urlDecode signature).map fun raw => C.verify key raw signed with
  | some .valid => pure ()
  | some .invalidSignature =>
      throw (.deviceAuthError (str "invalid device signature"))
  | _ => throw (.deviceAuthError (str "invalid device signature encoding"))

def publicKeyFingerprint (keyB64 : PyStr) : Except DeviceAuthFailure PyStr :=
  match b64urlDecode keyB64 with
  | some der => pure (str "p256:" ++ C.hash.hexdigest der)
  | none => throw (.foreign .valueError)

def verifyDeviceSignature (clock : Int) (request : DeviceRequest) :
    Except DeviceAuthFailure PyStr := do
  let keyB64 ← requireKey request
  checkTimestamp I clock request.headers.timestamp request.now
  let key ← loadP256Key C keyB64
  let signed ← canonicalRequest I C request
  checkSignature C key request.headers.signature signed
  publicKeyFingerprint C keyB64

/-!
## What acceptance says
-/

def Accepted (clock : Int) (request : DeviceRequest) : Prop :=
  exists fingerprint, verifyDeviceSignature I C clock request = .ok fingerprint

theorem requireKey_eq_ok {request : DeviceRequest} {keyB64 : PyStr}
    (h : requireKey request = .ok keyB64) : keyB64 = publicKeyB64 request := by
  unfold requireKey at h
  dsimp only at h
  split at h
  · cases h
  · split at h
    · cases h
    · cases h
      rfl

theorem loadP256Key_eq_ok {keyB64 : PyStr} {key : C.PublicKey}
    (h : loadP256Key C keyB64 = .ok key) : loadedKey C keyB64 = some key := by
  unfold loadP256Key at h
  cases hload : loadedKey C keyB64 with
  | none =>
      rw [hload] at h
      cases h
  | some loaded =>
      simp only [hload] at h
      split at h
      · cases h
      · split at h
        · cases h
          rfl
        · cases h

theorem canonicalRequest_eq_ok {request : DeviceRequest} {signed : Bytes}
    (h : canonicalRequest I C request = .ok signed) :
    encodeUtf8 (canonicalText I C request) = some signed := by
  unfold canonicalRequest at h
  split at h
  · rename_i hencode
    cases h
    exact hencode
  · cases h

theorem checkSignature_eq_ok {key : C.PublicKey} {signature : PyStr}
    {signed : Bytes} {u : Unit}
    (h : checkSignature C key signature signed = .ok u) :
    exists raw, b64urlDecode signature = some raw ∧
      C.verify key raw signed = .valid := by
  unfold checkSignature at h
  cases hraw : b64urlDecode signature with
  | none =>
      rw [hraw] at h
      cases h
  | some raw =>
      simp only [hraw, Option.map_some] at h
      split at h
      · rename_i hvalid
        exact ⟨raw, rfl, Option.some.inj hvalid⟩
      · cases h
      · cases h

/-- An accepted request carries a signature over its canonical lines. -/
theorem Accepted.signed {clock : Int} {request : DeviceRequest}
    (h : Accepted I C clock request) :
    exists key raw signed,
      loadedKey C (publicKeyB64 request) = some key ∧
        b64urlDecode request.headers.signature = some raw ∧
        encodeUtf8 (canonicalText I C request) = some signed ∧
        C.verify key raw signed = .valid := by
  rcases h with ⟨fingerprint, h⟩
  rcases bind_eq_ok.mp h with ⟨keyB64, hkeyB64, h1⟩
  rcases bind_eq_ok.mp h1 with ⟨_, _, h2⟩
  rcases bind_eq_ok.mp h2 with ⟨key, hkey, h3⟩
  rcases bind_eq_ok.mp h3 with ⟨signed, hsigned, h4⟩
  rcases bind_eq_ok.mp h4 with ⟨_, hcheck, _⟩
  rcases checkSignature_eq_ok C hcheck with ⟨raw, hraw, hvalid⟩
  rw [requireKey_eq_ok hkeyB64] at hkey
  exact ⟨key, raw, signed, loadP256Key_eq_ok C hkey, hraw,
    canonicalRequest_eq_ok I C hsigned, hvalid⟩

/-!
## Binding
-/

/-- Every signed field is the same. -/
structure SameFields (request request' : DeviceRequest) : Prop where
  method : I.upper request.method = I.upper request'.method
  pathQuery : request.pathQuery = request'.pathQuery
  deviceId : request.headers.deviceId = request'.headers.deviceId
  nonce : request.headers.nonce = request'.headers.nonce
  timestamp : request.headers.timestamp = request'.headers.timestamp
  bodyHash : C.hash.hexdigest request.body = C.hash.hexdigest request'.body

/-- Each field contains as many newlines in one request as in the other. -/
structure SameNewlines (request request' : DeviceRequest) : Prop where
  method : (I.upper request.method).count newline =
    (I.upper request'.method).count newline
  pathQuery : request.pathQuery.count newline =
    request'.pathQuery.count newline
  deviceId : request.headers.deviceId.count newline =
    request'.headers.deviceId.count newline
  nonce : request.headers.nonce.count newline =
    request'.headers.nonce.count newline
  timestamp : request.headers.timestamp.count newline =
    request'.headers.timestamp.count newline

theorem count_newline_hexdigest (body : Bytes) :
    (C.hash.hexdigest body).count newline = 0 := by
  apply List.count_eq_zero.mpr
  intro h
  rcases mem_hex h with ⟨n, hn, heq⟩
  exact hexDigit_ne_newline hn heq.symm

theorem canonicalText_inj {request request' : DeviceRequest}
    (hlines : SameNewlines I request request')
    (h : canonicalText I C request = canonicalText I C request') :
    SameFields I C request request' := by
  have hhash : (C.hash.hexdigest request.body).count newline =
      (C.hash.hexdigest request'.body).count newline := by
    rw [count_newline_hexdigest, count_newline_hexdigest]
  have hcount : List.Forall₂
      (fun x y => List.count newline x = List.count newline y)
      (canonicalLines I C request) (canonicalLines I C request') :=
    .cons hlines.method (.cons hlines.pathQuery (.cons hlines.deviceId
      (.cons hlines.nonce (.cons hlines.timestamp (.cons hhash .nil)))))
  have heq := intercalate_inj_of_count_eq hcount h
  simp only [canonicalLines, List.cons.injEq, and_true] at heq
  rcases heq with ⟨hmethod, hpath, hdevice, hnonce, htimestamp, hbody⟩
  exact ⟨hmethod, hpath, hdevice, hnonce, htimestamp, hbody⟩

theorem canonicalText_eq_of_accepted
    (ideal : forall key signature message message',
      C.verify key signature message = .valid ->
      C.verify key signature message' = .valid -> message = message')
    {clock clock' : Int} {request request' : DeviceRequest}
    (h : Accepted I C clock request) (h' : Accepted I C clock' request')
    (hkey : loadedKey C (publicKeyB64 request) =
      loadedKey C (publicKeyB64 request'))
    (hsignature : b64urlDecode request.headers.signature =
      b64urlDecode request'.headers.signature) :
    canonicalText I C request = canonicalText I C request' := by
  rcases h.signed with ⟨key, raw, signed, hload, hraw, hencode, hvalid⟩
  rcases h'.signed with ⟨key', raw', signed', hload', hraw', hencode', hvalid'⟩
  rw [hload, hload'] at hkey
  rw [hraw, hraw'] at hsignature
  cases hkey
  cases hsignature
  have hsame : signed = signed' := ideal key raw signed signed' hvalid hvalid'
  subst hsame
  exact encodeUtf8_inj hencode hencode'

theorem signature_binds_fields_iff
    (ideal : forall key signature message message',
      C.verify key signature message = .valid ->
      C.verify key signature message' = .valid -> message = message')
    {clock clock' : Int} {request request' : DeviceRequest}
    (h : Accepted I C clock request) (h' : Accepted I C clock' request')
    (hkey : loadedKey C (publicKeyB64 request) =
      loadedKey C (publicKeyB64 request'))
    (hsignature : b64urlDecode request.headers.signature =
      b64urlDecode request'.headers.signature) :
    SameFields I C request request' <-> SameNewlines I request request' := by
  constructor
  · intro hfields
    exact ⟨by rw [hfields.method], by rw [hfields.pathQuery],
      by rw [hfields.deviceId], by rw [hfields.nonce],
      by rw [hfields.timestamp]⟩
  · intro hlines
    exact canonicalText_inj I C hlines
      (canonicalText_eq_of_accepted I C ideal h h' hkey hsignature)

end Verify

/-!
One signature for two requests: a newline moves from the nonce to the device
id.  The key is the P-256 generator, the signature the one its private key
makes over the six lines.
-/

def sampleKey : Bytes :=
  [48, 89, 48, 19, 6, 7, 42, 134, 72, 206, 61, 2, 1, 6, 8, 42, 134, 72, 206,
    61, 3, 1, 7, 3, 66, 0, 4, 107, 23, 209, 242, 225, 44, 66, 71, 248, 188,
    230, 229, 99, 164, 64, 242, 119, 3, 125, 129, 45, 235, 51, 160, 244,
    161, 57, 69, 216, 152, 194, 150, 79, 227, 66, 226, 254, 26, 127, 155,
    142, 231, 235, 74, 124, 15, 158, 22, 43, 206, 51, 87, 107, 49, 94, 206,
    203, 182, 64, 104, 55, 191, 81, 245]

def sampleSignature : Bytes :=
  [48, 69, 2, 32, 8, 139, 185, 255, 34, 171, 41, 26, 116, 200, 111, 198,
    119, 186, 137, 123, 170, 222, 227, 112, 204, 97, 41, 184, 45, 23, 11,
    163, 252, 38, 65, 92, 2, 33, 0, 140, 148, 5, 154, 212, 235, 114, 248,
    103, 177, 21, 49, 119, 62, 1, 126, 148, 37, 91, 173, 144, 11, 198, 6,
    125, 170, 212, 13, 252, 159, 66, 16]

def sampleRequest (method deviceId nonce : String) : DeviceRequest where
  headers :=
    { deviceId := str deviceId
      nonce := str nonce
      timestamp := str "0"
      publicKey := none
      signature := urlsafeB64Unpadded sampleSignature }
  storedPublicKey := some (urlsafeB64Unpadded sampleKey)
  pathQuery := str "/config"
  method := str method

def emptyDigest : Bytes :=
  [227, 176, 196, 66, 152, 252, 28, 20, 154, 251, 244, 200, 153, 111, 185, 36,
    39, 174, 65, 228, 100, 155, 147, 76, 164, 149, 153, 27, 120, 82, 184, 85]

def sampleKeyDigest : Bytes :=
  [92, 210, 82, 251, 12, 232, 147, 36, 54, 250, 248, 204, 209, 4, 9, 129,
    184, 158, 228, 173, 107, 159, 233, 226, 162, 183, 231, 26, 172, 178, 124,
    211]

/-- The primitives on the inputs of the two requests. -/
def sampleCrypto : DeviceCrypto where
  hash :=
    { digest := fun message =>
        if message = [] then emptyDigest else sampleKeyDigest
      digest_length := by
        intro message
        split
        · rfl
        · rfl }
  PublicKey := Unit
  loadDerPublicKey der := if der = sampleKey then some () else none
  curveName _ := some (str "secp256r1")
  verify _ raw signed :=
    if raw = sampleSignature ∧
        signed = (str "GET\n/config\na\nb\nc\n0\n" ++ hex emptyDigest).flatMap
          utf8Char then
      .valid
    else .invalidSignature

theorem sampleCrypto_ideal (key : sampleCrypto.PublicKey)
    (signature message message' : Bytes)
    (h : sampleCrypto.verify key signature message = .valid)
    (h' : sampleCrypto.verify key signature message' = .valid) :
    message = message' := by
  simp only [sampleCrypto] at h h'
  split at h
  · split at h'
    · rename_i hm hm'
      rw [hm.right, hm'.right]
    · cases h'
  · cases h

theorem accepted_nonce_newline (method : String)
    (h : method = "GET" ∨ method = "get") :
    Accepted asciiInterpreter sampleCrypto 0
      (sampleRequest method "a" "b\nc") := by
  refine ⟨str "p256:" ++ hex sampleKeyDigest, ?_⟩
  rcases h with rfl | rfl
  · decide +kernel
  · decide +kernel

theorem accepted_device_newline :
    Accepted asciiInterpreter sampleCrypto 0
      (sampleRequest "GET" "a\nb" "c") :=
  ⟨str "p256:" ++ hex sampleKeyDigest, by decide +kernel⟩

/-- The device id and the nonce of the two requests differ. -/
theorem newline_moves_between_fields :
    ¬ (Accepted asciiInterpreter sampleCrypto 0
          (sampleRequest "GET" "a" "b\nc") ->
        Accepted asciiInterpreter sampleCrypto 0
          (sampleRequest "GET" "a\nb" "c") ->
        SameFields asciiInterpreter sampleCrypto
          (sampleRequest "GET" "a" "b\nc")
          (sampleRequest "GET" "a\nb" "c")) := by
  intro h
  have hfields :=
    h (accepted_nonce_newline "GET" (Or.inl rfl)) accepted_device_newline
  exact absurd hfields.deviceId (by decide)

theorem signature_binds_fields_lower_case :
    SameFields asciiInterpreter sampleCrypto
      (sampleRequest "GET" "a" "b\nc") (sampleRequest "get" "a" "b\nc") :=
  (signature_binds_fields_iff asciiInterpreter sampleCrypto sampleCrypto_ideal
    (accepted_nonce_newline "GET" (Or.inl rfl))
    (accepted_nonce_newline "get" (Or.inr rfl)) rfl rfl).mpr
    ⟨by decide, rfl, rfl, rfl, rfl⟩

end Devices
end EidolonSdk
