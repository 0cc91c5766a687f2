import EidolonSdk.Coding.Separated
import EidolonSdk.Logic.Outcome
import EidolonSdk.Runtime.Tokens

/-!
# Revocation lookups

What the four lookups of the verifier read and when they refuse.  The verifier
reads a store at no more than four keys, one for each identifier a claim set
carries, and no two identifiers share a key.  Whether a claim set is refused as
revoked, let through or answered with a foreign exception is decided by what
stands under these keys, in the order of the lookups.
-/

namespace EidolonSdk
namespace Runtime

open Python Logic Coding

/-!
## Keys
-/

section Keys

/-- The key of an encodable identifier. -/
def revocationKey (kind : RevocationKind) (id : PyStr) : PyStr :=
  kind.keyPrefix ++ urlsafeB64Unpadded (id.flatMap utf8Char)

variable {kind : RevocationKind}

theorem revocationKeys_of_encodable {id : PyStr} (h : Encodable id) :
    revocationKeys kind (.str id) = .ok [revocationKey kind id] := by
  simp only [revocationKeys, kvSafeToken, encodeUtf8_of_encodable h]
  rfl

theorem revocationKeys_of_not_encodable {id : PyStr} (h : ¬ Encodable id) :
    revocationKeys kind (.str id) = .error .unicodeEncodeError := by
  simp only [revocationKeys, kvSafeToken, encodeUtf8_eq_none.mpr h]
  rfl

/-- An identifier that is not a string has no {lit}`encode`. -/
theorem revocationKeys_of_not_str {value : Json}
    (h : forall id, value ≠ .str id) :
    revocationKeys kind value = .error .attributeError := by
  cases value with
  | str id => exact absurd rfl (h id)
  | null => rfl
  | bool b => rfl
  | int n => rfl
  | float x => rfl
  | array items => rfl
  | object members => rfl

theorem keyPrefix_prefixFree : PrefixFree RevocationKind.keyPrefix := by
  intro a b h
  cases a <;> cases b <;> first | rfl | exact absurd h (by decide)

theorem revocationKey_inj {kind' : RevocationKind} {id id' : PyStr}
    (hid : Encodable id) (hid' : Encodable id')
    (h : revocationKey kind id = revocationKey kind' id') :
    kind = kind' ∧ id = id' := by
  rcases keyPrefix_prefixFree.append_inj h with ⟨hkind, htoken⟩
  have hbytes : id.flatMap utf8Char = id'.flatMap utf8Char :=
    urlsafeB64Unpadded_inj htoken
  have henc : encodeUtf8 id = some (id.flatMap utf8Char) :=
    encodeUtf8_of_encodable hid
  have henc' : encodeUtf8 id' = some (id.flatMap utf8Char) := by
    rw [hbytes]
    exact encodeUtf8_of_encodable hid'
  exact ⟨hkind, encodeUtf8_inj henc henc'⟩

/-- A store with one entry. -/
def oneEntry (kind : RevocationKind) (id : PyStr) (value : StoredValue) :
    RevocationStore :=
  fun key => if key = revocationKey kind id then some value else none

theorem oneEntry_self (id : PyStr) (value : StoredValue) :
    oneEntry kind id value (revocationKey kind id) = some value := by
  simp [oneEntry]

theorem oneEntry_other {kind' : RevocationKind} {id id' : PyStr}
    {value : StoredValue} (hid : Encodable id) (hid' : Encodable id')
    (h : (kind', id') ≠ (kind, id)) :
    oneEntry kind id value (revocationKey kind' id') = none := by
  unfold oneEntry
  rw [if_neg]
  intro heq
  rcases revocationKey_inj hid' hid heq with ⟨rfl, rfl⟩
  exact h rfl

end Keys

/-!
## What the lookups depend on
-/

section Lookups

variable {store store' : RevocationStore}

theorem forM_congr {α ε : Type} {f g : α -> Except ε Unit} :
    forall {xs : List α}, (forall x, x ∈ xs -> f x = g x) ->
      xs.forM f = xs.forM g
  | [], _ => rfl
  | x :: xs, h => by
      have htail : xs.forM f = xs.forM g :=
        forM_congr fun y hy => h y (List.mem_cons_of_mem _ hy)
      show (do f x; xs.forM f) = (do g x; xs.forM g)
      rw [h x List.mem_cons_self, htail]

theorem forM_singleton {α ε : Type} (f : α -> Except ε Unit) (x : α) :
    [x].forM f = f x := by
  show (do f x; pure ()) = f x
  cases f x with
  | ok u => rfl
  | error e => rfl

/-- The stores agree on the keys of an identifier, if it has any. -/
def AgreeOn (store store' : RevocationStore) (kind : RevocationKind)
    (value : Json) : Prop :=
  forall keys, revocationKeys kind value = .ok keys ->
    forall key, key ∈ keys -> store key = store' key

theorem refuseHeld_congr {kind : RevocationKind} {value : Json}
    (h : AgreeOn store store' kind value) (message : PyStr) :
    refuseHeld store (revocationKeys kind value) message =
      refuseHeld store' (revocationKeys kind value) message := by
  unfold refuseHeld
  cases hkeys : revocationKeys kind value with
  | error e => rfl
  | ok keys =>
      refine forM_congr fun key hkey => ?_
      have hholds : store.holds key = store'.holds key := by
        unfold RevocationStore.holds
        rw [h keys hkeys key hkey]
      rw [hholds]

variable (I : Interpreter)

theorem refuseBeforeMark_congr {payload : Members} {ownerId : Json}
    (h : AgreeOn store store' .owner ownerId) :
    refuseBeforeMark I store payload ownerId =
      refuseBeforeMark I store' payload ownerId := by
  unfold refuseBeforeMark ownerRevocationKeys
  cases hkeys : revocationKeys .owner ownerId with
  | error e => rfl
  | ok keys =>
      refine forM_congr fun key hkey => ?_
      simp only [h keys hkeys key hkey]

/-- The identifiers a claim set carries, as the verifier reads them. -/
def carriedIds (payload : Members) : List (RevocationKind × Json) :=
  ((deviceOf I payload).toList.map fun id => (.device, .str id)) ++
    [(.owner, Json.orEmpty (payload.get "owner_id")),
      (.session, .str (trimmedClaim I payload "session_id"))] ++
    if (trimmedClaim I payload "jti").isEmpty then []
    else [(.jti, .str (trimmedClaim I payload "jti"))]

theorem carriedIds_length (payload : Members) :
    (carriedIds I payload).length ≤ 4 := by
  unfold carriedIds
  cases deviceOf I payload with
  | none => split <;> simp
  | some id => split <;> simp

theorem mem_carriedIds_device {payload : Members} {id : PyStr}
    (h : deviceOf I payload = some id) :
    (.device, .str id) ∈ carriedIds I payload := by
  simp [carriedIds, h]

theorem checkRevocations_congr {payload : Members}
    (h : forall kind value, (kind, value) ∈ carriedIds I payload ->
      AgreeOn store store' kind value) :
    checkRevocations I store payload (Json.orEmpty (payload.get "owner_id"))
        (trimmedClaim I payload "session_id") =
      checkRevocations I store' payload
        (Json.orEmpty (payload.get "owner_id"))
        (trimmedClaim I payload "session_id") := by
  have hdevice : refuseDevice store (deviceOf I payload) =
      refuseDevice store' (deviceOf I payload) := by
    cases hid : deviceOf I payload with
    | none => rfl
    | some id =>
        exact refuseHeld_congr (h _ _ (mem_carriedIds_device I hid)) _
  have howner : refuseBeforeMark I store payload
        (Json.orEmpty (payload.get "owner_id")) =
      refuseBeforeMark I store' payload
        (Json.orEmpty (payload.get "owner_id")) :=
    refuseBeforeMark_congr I (h .owner _ (by simp [carriedIds]))
  have hsession : refuseSession store (trimmedClaim I payload "session_id") =
      refuseSession store' (trimmedClaim I payload "session_id") :=
    refuseHeld_congr (h .session _ (by simp [carriedIds])) _
  have hjti : refuseJti store (trimmedClaim I payload "jti") =
      refuseJti store' (trimmedClaim I payload "jti") := by
    unfold refuseJti
    split
    · rfl
    · rename_i hjti
      exact refuseHeld_congr (h .jti _ (by simp [carriedIds, hjti])) _
  unfold checkRevocations
  rw [hdevice, howner, hsession, hjti]

end Lookups

/-!
## When the lookups refuse

A lookup has three ends: it refuses, it lets the claim set through, or it fails
with an exception of its own.  {lit}`Held` and {lit}`OwnerRefused` name the
first, {lit}`Clear` and {lit}`OwnerClear` the second.
-/

section Ends

variable {store : RevocationStore}

/-- A class of failures that has every refusal and no foreign exception. -/
structure Refusal (onError : RuntimeFailure -> Prop) : Prop where
  revoked : forall message, onError (.revoked message)
  foreign : forall e, ¬ onError (.foreign e)

theorem refusal_isUnauthenticated : Refusal RuntimeFailure.IsUnauthenticated where
  revoked _ := True.intro
  foreign _ h := h

theorem refusal_isRevoked : Refusal RuntimeFailure.IsRevoked where
  revoked _ := True.intro
  foreign _ h := h

/-- A value that Python takes for true stands under the key. -/
def Held (store : RevocationStore) (kind : RevocationKind) (id : PyStr) : Prop :=
  Encodable id ∧ store.holds (revocationKey kind id) = true

def Clear (store : RevocationStore) (kind : RevocationKind) (id : PyStr) :
    Prop :=
  Encodable id ∧ store.holds (revocationKey kind id) = false

/-- The mark of the owner is later than the issue time, or tells nothing. -/
def OwnerRefused (store : RevocationStore) (payload : Members)
    (ownerId : Json) : Prop :=
  exists id mark, ownerId = .str id ∧ Encodable id ∧
    store (revocationKey .owner id) = some mark ∧
    issuedBefore payload mark = .ok true

def OwnerClear (store : RevocationStore) (payload : Members) (ownerId : Json) :
    Prop :=
  exists id, ownerId = .str id ∧ Encodable id ∧
    forall mark, store (revocationKey .owner id) = some mark ->
      issuedBefore payload mark = .ok false

variable {onError : RuntimeFailure -> Prop}

theorem check_refuseHeld (hE : Refusal onError) (kind : RevocationKind)
    (id message : PyStr) :
    Check (refuseHeld store (revocationKeys kind (.str id)) message) onError
      (Held store kind id) (Clear store kind id) := by
  by_cases hid : Encodable id
  · rw [revocationKeys_of_encodable hid]
    have hone : refuseHeld store (.ok [revocationKey kind id]) message =
        if store.holds (revocationKey kind id) then throw (.revoked message)
        else pure () := forM_singleton _ _
    rw [hone]
    intro onValue
    cases hheld : store.holds (revocationKey kind id) with
    | true => simp [Held, Clear, hid, hheld, hE.revoked]
    | false => simp [Held, Clear, hid, hheld]
  · rw [revocationKeys_of_not_encodable hid]
    intro onValue
    simp [refuseHeld, uncaught, ends_bind, Held, Clear, hid, hE.foreign]

variable (I : Interpreter)

theorem check_refuseBeforeMark (hE : Refusal onError) (payload : Members)
    (ownerId : Json) :
    Check (refuseBeforeMark I store payload ownerId) onError
      (OwnerRefused store payload ownerId)
      (OwnerClear store payload ownerId) := by
  intro onValue
  unfold refuseBeforeMark ownerRevocationKeys OwnerRefused OwnerClear
  by_cases hstr : exists id, ownerId = .str id
  · rcases hstr with ⟨id, rfl⟩
    by_cases hid : Encodable id
    · rw [revocationKeys_of_encodable hid]
      simp only [uncaught, ends_bind, ends_ok, forM_singleton]
      cases hmark : store (revocationKey .owner id) with
      | none => simp [hid, hmark]
      | some mark =>
          cases hbefore : issuedBefore payload mark with
          | error e =>
              simp [ends_bind, hid, hmark, hbefore, hE.foreign]
          | ok before =>
              cases before with
              | true =>
                  simp [ends_bind, hid, hmark, hbefore, hE.revoked]
              | false =>
                  simp [ends_bind, hid, hmark, hbefore]
    · rw [revocationKeys_of_not_encodable hid]
      simp [uncaught, ends_bind, hid, hE.foreign]
  · have hnot : forall id, ownerId ≠ .str id := by
      intro id h
      exact hstr ⟨id, h⟩
    rw [revocationKeys_of_not_str hnot]
    simp [uncaught, ends_bind, hnot, hE.foreign]

def DeviceHeld (store : RevocationStore) (deviceId : Option PyStr) : Prop :=
  exists id, deviceId = some id ∧ Held store .device id

def DeviceClear (store : RevocationStore) (deviceId : Option PyStr) : Prop :=
  forall id, deviceId = some id -> Clear store .device id

theorem check_refuseDevice (hE : Refusal onError) (deviceId : Option PyStr) :
    Check (refuseDevice store deviceId) onError (DeviceHeld store deviceId)
      (DeviceClear store deviceId) := by
  cases deviceId with
  | none =>
      exact check_pure.iff (by simp [DeviceHeld]) (by simp [DeviceClear])
  | some id =>
      exact (check_refuseHeld hE .device id _).iff (by simp [DeviceHeld])
        (by simp [DeviceClear])

theorem check_refuseSession (hE : Refusal onError) (sessionId : PyStr) :
    Check (refuseSession store sessionId) onError
      (Held store .session sessionId) (Clear store .session sessionId) :=
  check_refuseHeld hE .session sessionId _

/-- An absent or blank token id is not looked up. -/
def JtiHeld (store : RevocationStore) (jti : PyStr) : Prop :=
  jti ≠ [] ∧ Held store .jti jti

def JtiClear (store : RevocationStore) (jti : PyStr) : Prop :=
  jti ≠ [] -> Clear store .jti jti

theorem check_refuseJti (hE : Refusal onError) (jti : PyStr) :
    Check (refuseJti store jti) onError (JtiHeld store jti)
      (JtiClear store jti) := by
  unfold refuseJti
  cases jti with
  | nil =>
      exact check_pure.iff (by simp [JtiHeld]) (by simp [JtiClear])
  | cons c rest =>
      exact (check_refuseHeld hE .jti (c :: rest) _).iff
        (by simp [JtiHeld]) (by simp [JtiClear])

/-- Some lookup refuses, and every earlier one lets the claim set through. -/
def Refused (store : RevocationStore) (payload : Members) (ownerId : Json)
    (sessionId : PyStr) : Prop :=
  DeviceHeld store (deviceOf I payload) ∨
    (DeviceClear store (deviceOf I payload) ∧
      (OwnerRefused store payload ownerId ∨
        (OwnerClear store payload ownerId ∧
          (Held store .session sessionId ∨
            (Clear store .session sessionId ∧
              JtiHeld store (trimmedClaim I payload "jti"))))))

/-- Every lookup lets the claim set through. -/
def Cleared (store : RevocationStore) (payload : Members) (ownerId : Json)
    (sessionId : PyStr) : Prop :=
  DeviceClear store (deviceOf I payload) ∧
    OwnerClear store payload ownerId ∧ Clear store .session sessionId ∧
      JtiClear store (trimmedClaim I payload "jti")

theorem check_checkRevocations (hE : Refusal onError) (payload : Members)
    (ownerId : Json) (sessionId : PyStr) :
    Check (checkRevocations I store payload ownerId sessionId) onError
      (Refused I store payload ownerId sessionId)
      (Cleared I store payload ownerId sessionId) :=
  (check_refuseDevice hE _).andThen
    ((check_refuseBeforeMark I hE payload ownerId).andThen
      ((check_refuseSession hE sessionId).andThen (check_refuseJti hE _)))

end Ends

end Runtime
end EidolonSdk
