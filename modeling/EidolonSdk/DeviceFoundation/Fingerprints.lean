import EidolonSdk.DeviceFoundation.BodyMesh
import EidolonSdk.DeviceFoundation.DescriptorSigning
import EidolonSdk.DeviceFoundation.SignedDocuments
import EidolonSdk.DeviceFoundation.TimestampReaders

/-!
# Fingerprints of operations

A retried operation is known by the digest of its canonical form.  The fingerprint
of a revocation leaves out the identifiers of the retry; that of an erase covers
the whole command.
-/

namespace EidolonSdk
namespace DeviceFoundation

open Python Pydantic Support

/-!
## Revocation
-/

structure RevokeClaim where
  commandId : ConStr identifierRule
  correlationId : ConStr identifierRule
  deviceRef : DeviceRef
  reason : ConStr (boundedRule 256)

/-- The semantic mutation, without the retry and audit metadata. -/
def RevokeClaim.document (command : RevokeClaim) : Json :=
  .object
    [(str "command_type", .str (str "device.claim.revoke")),
      (str "owner_domain_id", .str command.deviceRef.ownerDomainId.val),
      (str "payload", .object
        [(str "device_ref", command.deviceRef.dump),
          (str "reason", .str command.reason.val)])]

/-- `"sha256:" + hashlib.sha256(form).hexdigest()`. -/
def fingerprint (hash : Sha256) (form : Bytes) : PyStr :=
  str "sha256:" ++ hash.hexdigest form

def revokeClaimFingerprint (hash : Sha256) (canonical : Rfc8785)
    (command : RevokeClaim) : Except PyException PyStr := do
  let form ← canonical.dumps command.document
  pure (fingerprint hash form)

/-!
## Local erase
-/

inductive EraseScope where
  | ownerCredentials
  | ownerData
  | networkProfiles
  deriving DecidableEq

def EraseScope.word : EraseScope -> String
  | .ownerCredentials => "owner-credentials"
  | .ownerData => "owner-data"
  | .networkProfiles => "network-profiles"

def EraseScope.wire : Wire EraseScope :=
  Wire.word [.ownerCredentials, .ownerData, .networkProfiles] word
    (by intro scope; cases scope <;> decide) (by decide)

/-- `_unique_nonempty`. -/
def UniqueNonempty (scopes : List EraseScope) : Prop :=
  scopes ≠ [] ∧ scopes.Nodup

instance (scopes : List EraseScope) : Decidable (UniqueNonempty scopes) :=
  inferInstanceAs (Decidable (_ ∧ _))

@[ext] structure DeviceLocalErasePayload where
  eraseScopes : List EraseScope
  unique : UniqueNonempty eraseScopes

namespace DeviceLocalErasePayload

def defaultScopes : List EraseScope :=
  [.ownerCredentials, .ownerData, .networkProfiles]

/-- `DeviceLocalErasePayload()`. -/
def default : DeviceLocalErasePayload :=
  ⟨defaultScopes, by decide⟩

def dump (payload : DeviceLocalErasePayload) : Json :=
  .object
    [(str "erase_scopes", .array (payload.eraseScopes.map EraseScope.wire.dump))]

/-- The array becomes a tuple before its items are looked at. -/
def validScopes : Validator (List EraseScope)
  | .array items => validItems EraseScope.wire.validate items
  | _ => .error .invalid

def validate : Validator DeviceLocalErasePayload :=
  validModel fun members => do
    let (scopes, _) ←
      (withDefault members "erase_scopes" defaultScopes validScopes).both
        (onlyMembers members ["erase_scopes"])
    if h : UniqueNonempty scopes then .ok ⟨scopes, h⟩ else .error .invalid

theorem validate_dump (payload : DeviceLocalErasePayload) :
    validate payload.dump = .ok payload := by
  have hscopes : validScopes
      (.array (payload.eraseScopes.map EraseScope.wire.dump)) =
        .ok payload.eraseScopes :=
    validItems_dump _ _
  simp [validate, validModel, dump, withDefault, hscopes, onlyMembers,
    Validated.both_ok, Logic.ok_bind, payload.unique]

end DeviceLocalErasePayload

@[ext] structure DeviceLocalEraseCommand where
  operationId : ConStr nameRule
  deviceRef : DeviceRef
  deadline : Instant
  payload : DeviceLocalErasePayload

def deviceOperationContract : String :=
  "eidolon.device-foundation.device-operation"

namespace DeviceLocalEraseCommand

/-- The command on the wire, its deadline spelled by this text. -/
def members (command : DeviceLocalEraseCommand) (deadline : PyStr) : Members :=
  [(str "contract", .str (str deviceOperationContract)),
    (str "contract_version", .str (str "1.0")),
    (str "operation_id", .str command.operationId.val),
    (str "operation_type", .str (str deviceLocalEraseOperation)),
    (str "device_ref", command.deviceRef.dump),
    (str "deadline", .str deadline),
    (str "payload", command.payload.dump)]

/-- `model_dump(mode="json")`. -/
def dump (command : DeviceLocalEraseCommand) : Json :=
  .object (command.members (timestampText command.deadline))

def fieldNames : List String :=
  ["contract", "contract_version", "operation_id", "operation_type", "device_ref",
    "deadline", "payload"]

/-- `DeviceLocalEraseCommand.model_validate`. -/
def validate : Validator DeviceLocalEraseCommand :=
  validModel fun members =>
    ((withDefault members "contract" ()
        (Wire.literal deviceOperationContract).validate).both
      ((withDefault members "contract_version" ()
          (Wire.literal "1.0").validate).both
        ((required members "operation_id" (validStr nameRule)).both
          ((withDefault members "operation_type" ()
              (Wire.literal deviceLocalEraseOperation).validate).both
            ((required members "device_ref" DeviceRef.validate).both
              ((required members "deadline" awareDatetime).both
                ((withDefault members "payload" .default
                    DeviceLocalErasePayload.validate).both
                  (onlyMembers members fieldNames)))))))).map
      fun (_, _, operation, _, ref, deadline, payload, _) =>
        ⟨operation, ref, deadline, payload⟩

/-- A command is read back whatever the spelling of its deadline. -/
theorem validate_members {command : DeviceLocalEraseCommand} {s : PyStr}
    (h : awareDatetime (.str s) = .ok command.deadline) :
    validate (.object (command.members s)) = .ok command := by
  have hliteral : forall word : String,
      (Wire.literal word).validate (.str (str word)) = .ok () :=
    fun word => (Wire.literal word).validate_dump ()
  simp [validate, validModel, members, required, withDefault, hliteral,
    validStr_val, DeviceRef.validate_dump, h,
    DeviceLocalErasePayload.validate_dump, onlyMembers, fieldNames,
    Validated.both_ok, Except.map]

theorem validate_dump (command : DeviceLocalEraseCommand) :
    validate command.dump = .ok command :=
  validate_members (awareDatetime_timestampText command.deadline)

/-- A text of the deadline in whatever offset is one of its spellings. -/
theorem validate_respelled {command : DeviceLocalEraseCommand} {s : PyStr}
    (h : Denotes s command.deadline) :
    validate (.object (command.members s)) = .ok command := by
  rcases h with ⟨value, offset, hnames, hinstant⟩
  apply validate_members
  rw [awareDatetime_str, read_of_names hnames, toUtc_eq_ok.mpr hinstant]
  rfl

end DeviceLocalEraseCommand

inductive EraseFailure where
  | deviceEraseContractError (message : PyStr)
  | foreign (e : PyException)

/-- `canonical_bytes`. -/
def canonicalBytes (canonical : Rfc8785) (document : Json) :
    Except EraseFailure Bytes :=
  match canonical.dumps document with
  | .ok form => .ok form
  | .error e =>
      if e.isValueError = true ∨ e = .typeError then
        .error (.deviceEraseContractError
          (str "operation is not RFC 8785 canonicalizable"))
      else .error (.foreign e)

def operationFingerprint (hash : Sha256) (canonical : Rfc8785)
    (command : DeviceLocalEraseCommand) : Except EraseFailure PyStr := do
  let form ← canonicalBytes canonical command.dump
  pure (fingerprint hash form)

/-!
## What has a canonical form
-/

/-- The integers of a reference are in the range of canonical JSON. -/
structure DeviceRef.InRange (ref : DeviceRef) : Prop where
  ownerDomainGeneration : ref.ownerDomainGeneration.val < 2 ^ 53
  claimGeneration : ref.claimGeneration.val < 2 ^ 53
  trustEpoch : ref.trustEpoch.val < 2 ^ 53

/-- A root model lets a lone surrogate through. -/
def DeviceRef.OwnerEncodable (ref : DeviceRef) : Prop :=
  Encodable ref.ownerDomainId.val

theorem DeviceRef.hasCanonicalForm {ref : DeviceRef} (howner : ref.OwnerEncodable)
    (hrange : ref.InRange) : ref.dump.all hasCanonicalForm = true := by
  have hgeneration := ref.ownerDomainGeneration.property
  have hclaim := ref.claimGeneration.property
  have hepoch := ref.trustEpoch.property
  apply hasCanonicalForm_object
  · simp
  · intro m hm
    simp only [List.mem_cons, List.not_mem_nil, or_false] at hm
    rcases hm with rfl | rfl | rfl | rfl | rfl
    · exact hasCanonicalForm_str ref.deviceInstanceId.property.left
    · exact hasCanonicalForm_str howner
    · exact hasCanonicalForm_int (by omega) hrange.ownerDomainGeneration
    · exact hasCanonicalForm_int (by omega) hrange.claimGeneration
    · exact hasCanonicalForm_int (by omega) hrange.trustEpoch

theorem RevokeClaim.hasCanonicalForm {command : RevokeClaim}
    (howner : command.deviceRef.OwnerEncodable)
    (hrange : command.deviceRef.InRange) :
    command.document.all hasCanonicalForm = true := by
  apply hasCanonicalForm_object
  · simp
  · intro m hm
    simp only [List.mem_cons, List.not_mem_nil, or_false] at hm
    rcases hm with rfl | rfl | rfl
    · exact hasCanonicalForm_str (encodable_str _)
    · exact hasCanonicalForm_str howner
    · apply hasCanonicalForm_object
      · simp
      · intro m hm
        simp only [List.mem_cons, List.not_mem_nil, or_false] at hm
        rcases hm with rfl | rfl
        · exact DeviceRef.hasCanonicalForm howner hrange
        · exact hasCanonicalForm_str command.reason.property.left

theorem DeviceLocalErasePayload.hasCanonicalForm
    (payload : DeviceLocalErasePayload) :
    payload.dump.all hasCanonicalForm = true := by
  apply hasCanonicalForm_object
  · simp
  · intro m hm
    simp only [List.mem_cons, List.not_mem_nil, or_false] at hm
    subst hm
    apply hasCanonicalForm_array
    intro v hv
    rcases List.mem_map.mp hv with ⟨scope, _, rfl⟩
    exact hasCanonicalForm_str (encodable_str _)

theorem DeviceLocalEraseCommand.hasCanonicalForm
    {command : DeviceLocalEraseCommand} (howner : command.deviceRef.OwnerEncodable)
    (hrange : command.deviceRef.InRange) :
    command.dump.all hasCanonicalForm = true := by
  apply hasCanonicalForm_object
  · simp [members]
  · intro m hm
    simp only [members, List.mem_cons, List.not_mem_nil, or_false] at hm
    rcases hm with rfl | rfl | rfl | rfl | rfl | rfl | rfl
    · exact hasCanonicalForm_str (encodable_str _)
    · exact hasCanonicalForm_str (encodable_str _)
    · exact hasCanonicalForm_str command.operationId.property.left
    · exact hasCanonicalForm_str (encodable_str _)
    · exact DeviceRef.hasCanonicalForm howner hrange
    · exact hasCanonicalForm_str (encodable_timestampText _)
    · exact command.payload.hasCanonicalForm

/-!
## What a document determines
-/

theorem RevokeClaim.document_congr {a b : RevokeClaim}
    (hdevice : a.deviceRef = b.deviceRef) (hreason : a.reason = b.reason) :
    a.document = b.document := by
  unfold document
  rw [hdevice, hreason]

theorem RevokeClaim.eq_of_same_document {a b : RevokeClaim}
    (h : Json.Same a.document b.document) :
    a.deviceRef = b.deviceRef ∧ a.reason = b.reason := by
  have hpayload := h.get_rel "payload"
  simp at hpayload
  have hdevice := hpayload.get_rel "device_ref"
  have hreason := hpayload.get_rel "reason"
  simp at hdevice
  simp [Json.Same.str_iff] at hreason
  exact ⟨DeviceRef.eq_of_same_dump hdevice, Subtype.ext hreason⟩

theorem EraseScope.eq_of_same_dump (a b : EraseScope)
    (h : Json.Same (wire.dump a) (wire.dump b)) : a = b :=
  wire.dump_injective (congrArg Json.str (Json.Same.str_iff.mp h))

theorem DeviceLocalErasePayload.eq_of_same_dump {a b : DeviceLocalErasePayload}
    (h : Json.Same a.dump b.dump) : a = b := by
  have hscopes := h.get_rel "erase_scopes"
  simp at hscopes
  exact DeviceLocalErasePayload.ext
    (Json.Same.array_map_inj EraseScope.eq_of_same_dump hscopes)

/-- The whole command is in its document. -/
theorem DeviceLocalEraseCommand.eq_of_same_dump {a b : DeviceLocalEraseCommand}
    (h : Json.Same a.dump b.dump) : a = b := by
  have hoperation := h.get_rel "operation_id"
  have hdevice := h.get_rel "device_ref"
  have hdeadline := h.get_rel "deadline"
  have hpayload := h.get_rel "payload"
  simp [members, Json.Same.str_iff] at hoperation hdeadline
  simp [members] at hdevice hpayload
  exact DeviceLocalEraseCommand.ext (Subtype.ext hoperation)
    (DeviceRef.eq_of_same_dump hdevice) (timestampText_inj hdeadline)
    (DeviceLocalErasePayload.eq_of_same_dump hpayload)

/-!
## Same fingerprint, same operation
-/

section Fingerprints

variable {hash : Sha256} {canonical : Rfc8785}

/-- Both calls return, and they return one fingerprint. -/
def SameFingerprint {ε : Type} (x y : Except ε PyStr) : Prop :=
  exists text, x = .ok text ∧ y = .ok text

/-- A document that has a canonical form gets it, and its digest does not collide
with that of the other. -/
structure Separates (hash : Sha256) (canonical : Rfc8785) (v w : Json) : Prop where
  writes : canonical.Writes v
  noCollision : forall x y, canonical.dumps v = .ok x -> canonical.dumps w = .ok y ->
    hash.digest x = hash.digest y -> x = y

theorem fingerprint_eq_iff {x y : Bytes} :
    fingerprint hash x = fingerprint hash y <-> hash.digest x = hash.digest y := by
  unfold fingerprint
  rw [List.append_cancel_left_eq, Sha256.hexdigest_eq_iff]

theorem revokeClaimFingerprint_eq_ok {command : RevokeClaim} {text : PyStr} :
    revokeClaimFingerprint hash canonical command = .ok text <->
      exists form, canonical.dumps command.document = .ok form ∧
        fingerprint hash form = text := by
  unfold revokeClaimFingerprint
  rw [Logic.bind_eq_ok]
  constructor
  · intro h
    rcases h with ⟨form, hform, htext⟩
    exact ⟨form, hform, Except.ok.inj htext⟩
  · intro h
    rcases h with ⟨form, hform, rfl⟩
    exact ⟨form, hform, rfl⟩

theorem canonicalBytes_eq_ok {document : Json} {form : Bytes} :
    canonicalBytes canonical document = .ok form <->
      canonical.dumps document = .ok form := by
  unfold canonicalBytes
  cases canonical.dumps document with
  | ok form' => exact ⟨fun h => congrArg Except.ok (Except.ok.inj h),
      fun h => congrArg Except.ok (Except.ok.inj h)⟩
  | error e =>
      dsimp only
      split
      · exact iff_of_false nofun nofun
      · exact iff_of_false nofun nofun

theorem operationFingerprint_eq_ok {command : DeviceLocalEraseCommand}
    {text : PyStr} :
    operationFingerprint hash canonical command = .ok text <->
      exists form, canonical.dumps command.dump = .ok form ∧
        fingerprint hash form = text := by
  unfold operationFingerprint
  rw [Logic.bind_eq_ok]
  constructor
  · intro h
    rcases h with ⟨form, hform, htext⟩
    exact ⟨form, canonicalBytes_eq_ok.mp hform, Except.ok.inj htext⟩
  · intro h
    rcases h with ⟨form, hform, rfl⟩
    exact ⟨form, canonicalBytes_eq_ok.mpr hform, rfl⟩

/-- One fingerprint of two documents says they are the same. -/
theorem Separates.same {v w : Json} (h : Separates hash canonical v w)
    (hinjective : canonical.Injective) {x y : Bytes}
    (hx : canonical.dumps v = .ok x) (hy : canonical.dumps w = .ok y)
    (heq : fingerprint hash x = fingerprint hash y) : Json.Same v w := by
  have hform := h.noCollision x y hx hy (fingerprint_eq_iff.mp heq)
  rw [← hform] at hy
  exact hinjective v w x hx hy

theorem revokeClaimFingerprint_same_iff (hinjective : canonical.Injective)
    {a b : RevokeClaim} (ha : a.deviceRef.OwnerEncodable)
    (hrange : a.deviceRef.InRange)
    (h : Separates hash canonical a.document b.document) :
    SameFingerprint (revokeClaimFingerprint hash canonical a)
        (revokeClaimFingerprint hash canonical b) <->
      a.deviceRef = b.deviceRef ∧ a.reason = b.reason := by
  constructor
  · intro hparts
    rcases hparts with ⟨text, htext, htext'⟩
    rcases revokeClaimFingerprint_eq_ok.mp htext with ⟨x, hx, hx'⟩
    rcases revokeClaimFingerprint_eq_ok.mp htext' with ⟨y, hy, hy'⟩
    exact RevokeClaim.eq_of_same_document
      (h.same hinjective hx hy (hx'.trans hy'.symm))
  · intro hparts
    rcases hparts with ⟨hdevice, hreason⟩
    rcases h.writes (RevokeClaim.hasCanonicalForm ha hrange) with ⟨x, hx⟩
    have hy := RevokeClaim.document_congr hdevice hreason ▸ hx
    exact ⟨_, revokeClaimFingerprint_eq_ok.mpr ⟨x, hx, rfl⟩,
      revokeClaimFingerprint_eq_ok.mpr ⟨x, hy, rfl⟩⟩

theorem operationFingerprint_same_iff (hinjective : canonical.Injective)
    {a b : DeviceLocalEraseCommand} (ha : a.deviceRef.OwnerEncodable)
    (hrange : a.deviceRef.InRange) (h : Separates hash canonical a.dump b.dump) :
    SameFingerprint (operationFingerprint hash canonical a)
        (operationFingerprint hash canonical b) <-> a = b := by
  constructor
  · intro hparts
    rcases hparts with ⟨text, htext, htext'⟩
    rcases operationFingerprint_eq_ok.mp htext with ⟨x, hx, hx'⟩
    rcases operationFingerprint_eq_ok.mp htext' with ⟨y, hy, hy'⟩
    exact DeviceLocalEraseCommand.eq_of_same_dump
      (h.same hinjective hx hy (hx'.trans hy'.symm))
  · intro heq
    rcases heq with rfl
    rcases h.writes (DeviceLocalEraseCommand.hasCanonicalForm ha hrange) with
      ⟨x, hx⟩
    have hfingerprint := (@operationFingerprint_eq_ok hash _ _ _).mpr ⟨x, hx, rfl⟩
    exact ⟨_, hfingerprint, hfingerprint⟩

/-- One fingerprint for what one mutation asks for, and none else has it: not the
identifiers of a revocation and not the spelling of a deadline. -/
theorem fingerprints_identify (hinjective : canonical.Injective)
    {a b : RevokeClaim} (ha : a.deviceRef.OwnerEncodable)
    (harange : a.deviceRef.InRange)
    (hrevoke : Separates hash canonical a.document b.document)
    {c d : DeviceLocalEraseCommand} (hc : c.deviceRef.OwnerEncodable)
    (hcrange : c.deviceRef.InRange) (herase : Separates hash canonical c.dump d.dump)
    {s : PyStr} (hs : Denotes s c.deadline) :
    (SameFingerprint (revokeClaimFingerprint hash canonical a)
        (revokeClaimFingerprint hash canonical b) <->
      a.deviceRef = b.deviceRef ∧ a.reason = b.reason) ∧
    (SameFingerprint (operationFingerprint hash canonical c)
        (operationFingerprint hash canonical d) <-> c = d) ∧
    forall wire, wire = c.dump ∨ wire = .object (c.members s) ->
      exists read, DeviceLocalEraseCommand.validate wire = .ok read ∧
        SameFingerprint (operationFingerprint hash canonical c)
          (operationFingerprint hash canonical read) := by
  refine ⟨revokeClaimFingerprint_same_iff hinjective ha harange hrevoke,
    operationFingerprint_same_iff hinjective hc hcrange herase, ?_⟩
  intro wire hwire
  have hself : Separates hash canonical c.dump c.dump :=
    ⟨herase.writes, fun x y hx hy _ => Except.ok.inj (hx.symm.trans hy)⟩
  refine ⟨c, ?_, (operationFingerprint_same_iff hinjective hc hcrange hself).mpr rfl⟩
  rcases hwire with rfl | rfl
  · exact c.validate_dump
  · exact DeviceLocalEraseCommand.validate_respelled hs

end Fingerprints

/-!
A lamp is revoked and erased.
-/

def revokeForm : Bytes :=
  (str "\x7b\"command_type\":\"device.claim.revoke\"," ++
    str "\"owner_domain_id\":\"owner-lamp\",\"payload\":\x7b\"device_ref\":\x7b" ++
    str "\"claim_generation\":1,\"device_instance_id\":\"" ++
    sampleDeviceInstanceId.val ++
    str "\",\"owner_domain_generation\":1,\"owner_domain_id\":\"owner-lamp\"," ++
    str "\"trust_epoch\":1\x7d,\"reason\":\"owner-removed\"\x7d\x7d").flatMap utf8Char

def eraseForm : Bytes :=
  (str "\x7b\"contract\":\"eidolon.device-foundation.device-operation\"," ++
    str "\"contract_version\":\"1.0\",\"deadline\":\"1970-01-01T00:00:00Z\"," ++
    str "\"device_ref\":\x7b\"claim_generation\":1,\"device_instance_id\":\"" ++
    sampleDeviceInstanceId.val ++
    str "\",\"owner_domain_generation\":1,\"owner_domain_id\":\"owner-lamp\"," ++
    str "\"trust_epoch\":1\x7d,\"operation_id\":\"erase-1\"," ++
    str "\"operation_type\":\"device-local.erase\"," ++
    str "\"payload\":\x7b\"erase_scopes\":[\"owner-credentials\",\"owner-data\"," ++
    str "\"network-profiles\"]\x7d\x7d").flatMap utf8Char

/-- The digests of the two forms. -/
def fingerprintHash : Sha256 where
  digest form :=
    if form = revokeForm then
      [92, 191, 152, 86, 47, 183, 80, 214, 136, 255, 165, 45, 188, 37, 57, 248,
        114, 43, 18, 83, 192, 245, 133, 15, 237, 17, 152, 123, 163, 59, 227, 72]
    else
      [38, 120, 164, 230, 102, 68, 98, 73, 193, 243, 66, 179, 185, 12, 50, 54,
        185, 143, 79, 27, 235, 76, 139, 252, 49, 228, 26, 159, 160, 15, 33, 242]
  digest_length form := by
    split
    · rfl
    · rfl

def lampRef (ownerDomainId : OwnerDomainId) : DeviceRef where
  deviceInstanceId := sampleDeviceInstanceId
  ownerDomainId := ownerDomainId
  ownerDomainGeneration := IntFrom.lowest 1
  claimGeneration := IntFrom.lowest 1
  trustEpoch := IntFrom.lowest 1

theorem lampRef_inRange (ownerDomainId : OwnerDomainId) :
    (lampRef ownerDomainId).InRange where
  ownerDomainGeneration := show (1 : Int) < _ by decide
  claimGeneration := show (1 : Int) < _ by decide
  trustEpoch := show (1 : Int) < _ by decide

theorem inNamespace_lampOwner : InNamespace "owner-" (str "owner-lamp") := by
  decide

def lampOwner : OwnerDomainId :=
  ⟨str "owner-lamp", inNamespace_lampOwner⟩

theorem lampOwner_encodable : (lampRef lampOwner).OwnerEncodable :=
  encodable_str _

def revocation (ownerDomainId : OwnerDomainId) (commandId : ConStr identifierRule) :
    RevokeClaim where
  commandId := commandId
  correlationId := ⟨str "removal_intent_01", by decide⟩
  deviceRef := lampRef ownerDomainId
  reason := ⟨str "owner-removed", by decide⟩

theorem revocation_document (ownerDomainId : OwnerDomainId)
    (commandId commandId' : ConStr identifierRule) :
    (revocation ownerDomainId commandId).document =
      (revocation ownerDomainId commandId').document :=
  rfl

def firstCommandId : ConStr identifierRule :=
  ⟨str "revoke_claim_01", by decide⟩

def retryCommandId : ConStr identifierRule :=
  ⟨str "revoke_claim_02", by decide⟩

def lampErasure : DeviceLocalEraseCommand where
  operationId := ⟨str "erase-1", by decide⟩
  deviceRef := lampRef lampOwner
  deadline := ⟨0, inRange_zero⟩
  payload := .default

noncomputable def fingerprintCanonical : Rfc8785 :=
  Rfc8785.twoDocuments (revocation lampOwner firstCommandId).document
    lampErasure.dump revokeForm eraseForm

theorem revocation_self (ownerDomainId : OwnerDomainId)
    (commandId : ConStr identifierRule) :
    Json.Same (revocation ownerDomainId commandId).document
      (revocation ownerDomainId commandId).document := by
  apply Json.Same.object_self
  intro m hm
  simp only [List.mem_cons, List.not_mem_nil, or_false] at hm
  rcases hm with rfl | rfl | rfl
  · exact Json.Same.str _
  · exact Json.Same.str _
  · apply Json.Same.object_self
    intro m hm
    simp only [List.mem_cons, List.not_mem_nil, or_false] at hm
    rcases hm with rfl | rfl
    · exact DeviceRef.dump_self _
    · exact Json.Same.str _

theorem lampErasure_self : Json.Same lampErasure.dump lampErasure.dump := by
  have hword : forall scope : EraseScope,
      Json.Same (EraseScope.wire.dump scope) (EraseScope.wire.dump scope) :=
    fun _ => Json.Same.str _
  apply Json.Same.object_self
  intro m hm
  simp only [DeviceLocalEraseCommand.members, List.mem_cons, List.not_mem_nil,
    or_false] at hm
  rcases hm with rfl | rfl | rfl | rfl | rfl | rfl | rfl
  · exact Json.Same.str _
  · exact Json.Same.str _
  · exact Json.Same.str _
  · exact Json.Same.str _
  · exact DeviceRef.dump_self _
  · exact Json.Same.str _
  · apply Json.Same.object_self
    intro m hm
    simp only [List.mem_cons, List.not_mem_nil, or_false] at hm
    subst hm
    exact Json.Same.array
      (.cons (hword _) (.cons (hword _) (.cons (hword _) .nil)))

theorem lampErasure_ne_revocation :
    lampErasure.dump ≠ (revocation lampOwner firstCommandId).document := by
  intro h
  have hkeys := congrArg Members.keys (Json.object.inj h)
  revert hkeys
  decide

theorem fingerprints_identify_lamp :
    (SameFingerprint
        (revokeClaimFingerprint fingerprintHash fingerprintCanonical
          (revocation lampOwner firstCommandId))
        (revokeClaimFingerprint fingerprintHash fingerprintCanonical
          (revocation lampOwner retryCommandId)) <->
      lampRef lampOwner = lampRef lampOwner ∧
        (revocation lampOwner firstCommandId).reason =
          (revocation lampOwner retryCommandId).reason) ∧
    (SameFingerprint
        (operationFingerprint fingerprintHash fingerprintCanonical lampErasure)
        (operationFingerprint fingerprintHash fingerprintCanonical lampErasure) <->
      lampErasure = lampErasure) ∧
    forall wire, wire = lampErasure.dump ∨
        wire = .object (lampErasure.members (str "1970-01-01T01:00:00+01:00")) ->
      exists read, DeviceLocalEraseCommand.validate wire = .ok read ∧
        SameFingerprint
          (operationFingerprint fingerprintHash fingerprintCanonical lampErasure)
          (operationFingerprint fingerprintHash fingerprintCanonical read) := by
  have hforms : revokeForm ≠ eraseForm := by
    decide
  have hretry := revocation_document lampOwner retryCommandId firstCommandId
  have hrevoke : fingerprintCanonical.dumps
      (revocation lampOwner firstCommandId).document = .ok revokeForm :=
    if_pos rfl
  have herase : fingerprintCanonical.dumps lampErasure.dump = .ok eraseForm :=
    (if_neg lampErasure_ne_revocation).trans (if_pos rfl)
  have hrevocations : Separates fingerprintHash fingerprintCanonical
      (revocation lampOwner firstCommandId).document
      (revocation lampOwner retryCommandId).document := by
    refine ⟨fun _ => ⟨_, hrevoke⟩, ?_⟩
    intro x y hx hy _
    rw [hretry] at hy
    exact Except.ok.inj (hx.symm.trans hy)
  have herasures : Separates fingerprintHash fingerprintCanonical
      lampErasure.dump lampErasure.dump :=
    ⟨fun _ => ⟨_, herase⟩, fun x y hx hy _ => Except.ok.inj (hx.symm.trans hy)⟩
  have hdeadline : Denotes (str "1970-01-01T01:00:00+01:00") lampErasure.deadline :=
    ⟨⟨3600000000, some 3600000000, by decide, by decide⟩, 3600000000,
      ⟨by decide +kernel, rfl⟩, rfl⟩
  exact fingerprints_identify
    (Rfc8785.twoDocuments_injective hforms (revocation_self _ _) lampErasure_self)
    lampOwner_encodable (lampRef_inRange _) hrevocations lampOwner_encodable
    (lampRef_inRange _) herasures hdeadline

/-!
An owner named with a lone surrogate has no canonical form, and so no fingerprint.
-/

def surrogateOwner : OwnerDomainId :=
  ⟨str "owner-" ++ [(0xD800 : CodePoint)], by decide⟩

theorem not_fingerprints_identify :
    ¬ forall (hash : Sha256) (canonical : Rfc8785), canonical.Injective ->
      forall a b : RevokeClaim, a.deviceRef.InRange -> b.deviceRef.InRange ->
        Separates hash canonical a.document b.document ->
        (SameFingerprint (revokeClaimFingerprint hash canonical a)
            (revokeClaimFingerprint hash canonical b) <->
          a.deviceRef = b.deviceRef ∧ a.reason = b.reason) := by
  intro h
  have hform : ¬ (revocation surrogateOwner firstCommandId).document.all
      hasCanonicalForm = true := by
    decide
  have hdocuments : (revocation surrogateOwner firstCommandId).document ≠
      (revocation lampOwner firstCommandId).document := by
    intro heq
    rw [heq] at hform
    exact hform (RevokeClaim.hasCanonicalForm lampOwner_encodable (lampRef_inRange _))
  have hrefused : (Rfc8785.oneDocument (revocation lampOwner firstCommandId).document
      revokeForm).dumps (revocation surrogateOwner firstCommandId).document =
        .error .valueError :=
    if_neg hdocuments
  rcases (h fingerprintHash _ (Rfc8785.oneDocument_injective revokeForm
      (revocation_self lampOwner firstCommandId))
    (revocation surrogateOwner firstCommandId)
    (revocation surrogateOwner firstCommandId) (lampRef_inRange _)
    (lampRef_inRange _) ⟨fun hall => absurd hall hform,
      fun x y hx hy _ => Except.ok.inj (hx.symm.trans hy)⟩).mpr ⟨rfl, rfl⟩ with
    ⟨text, htext, _⟩
  rcases revokeClaimFingerprint_eq_ok.mp htext with ⟨form, hdumps, _⟩
  cases hrefused.symm.trans hdumps

end DeviceFoundation
end EidolonSdk
