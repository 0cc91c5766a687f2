import EidolonSdk.DeviceFoundation.DeviceRefReaders
import EidolonSdk.DeviceFoundation.DirectoryReaders
import EidolonSdk.DeviceFoundation.SignedDocuments

/-!
# How far an erase has come

The Hub reports on the erase of a device and the app reads the report.  The model
of the Hub and the reader of the app each keep a terminal result with the state it
belongs to.
-/

namespace EidolonSdk
namespace DeviceFoundation

open Python Pydantic Logic Dart

/-!
## The model of the Hub
-/

inductive EraseState where
  | accepted
  | pending
  | deliveryAccepted
  | acknowledged
  | expired
  | permanentFailure
  deriving DecidableEq

def EraseState.word : EraseState -> String
  | .accepted => "accepted"
  | .pending => "pending"
  | .deliveryAccepted => "delivery-accepted"
  | .acknowledged => "acknowledged"
  | .expired => "expired"
  | .permanentFailure => "permanent-failure"

def EraseState.values : List EraseState :=
  [.accepted, .pending, .deliveryAccepted, .acknowledged, .expired,
    .permanentFailure]

theorem EraseState.mem_values (state : EraseState) : state ∈ EraseState.values := by
  cases state with
  | accepted => decide
  | pending => decide
  | deliveryAccepted => decide
  | acknowledged => decide
  | expired => decide
  | permanentFailure => decide

inductive EraseTerminal where
  | erased
  | permanentFailure
  | deadlineExpired
  deriving DecidableEq

def EraseTerminal.word : EraseTerminal -> String
  | .erased => "erased"
  | .permanentFailure => "permanent-failure"
  | .deadlineExpired => "deadline-expired"

def EraseTerminal.values : List EraseTerminal :=
  [.erased, .permanentFailure, .deadlineExpired]

theorem EraseTerminal.mem_values (result : EraseTerminal) :
    result ∈ EraseTerminal.values := by
  cases result with
  | erased => decide
  | permanentFailure => decide
  | deadlineExpired => decide

theorem EraseState.words_nodup :
    (EraseState.values.map EraseState.word).Nodup := by decide

theorem EraseTerminal.words_nodup :
    (EraseTerminal.values.map EraseTerminal.word).Nodup := by decide

def eraseStateWire : Wire EraseState :=
  Wire.word EraseState.values EraseState.word EraseState.mem_values
    EraseState.words_nodup

def eraseTerminalWire : Wire EraseTerminal :=
  Wire.word EraseTerminal.values EraseTerminal.word EraseTerminal.mem_values
    EraseTerminal.words_nodup

theorem eraseTerminalWire_not_null (result : EraseTerminal) :
    Wire.isNull (eraseTerminalWire.dump result) = false := rfl

def eraseResultWire : Wire (Option EraseTerminal) :=
  Wire.nullable eraseTerminalWire eraseTerminalWire_not_null

/-- `expected_result`. -/
def EraseState.expectedResult : EraseState -> Option EraseTerminal
  | .acknowledged => some .erased
  | .expired => some .deadlineExpired
  | .permanentFailure => some .permanentFailure
  | _ => none

/-- A status; its result is the one of its state, and its deadline lies behind it. -/
structure DeviceLocalEraseOperationStatus where
  operationId : ConStr nameRule
  requestFingerprint : ConStr digestRule
  deviceRef : DeviceRef
  createdAt : Instant
  deadline : Instant
  state : EraseState
  attemptCount : IntFrom 0
  terminalResult : Option EraseTerminal
  coherent : terminalResult = state.expectedResult
  window : createdAt.val < deadline.val

def deviceOperationStatusContract : String :=
  "eidolon.device-foundation.device-operation-status"

namespace DeviceLocalEraseOperationStatus

def fieldNames : List String :=
  ["contract", "contract_version", "operation_id", "operation_type",
    "request_fingerprint", "device_ref", "created_at", "deadline", "state",
    "attempt_count", "terminal_result"]

/-- `model_dump(mode="json")`. -/
def dump (status : DeviceLocalEraseOperationStatus) : Json :=
  .object
    [(str "contract", .str (str deviceOperationStatusContract)),
      (str "contract_version", .str (str "1.0")),
      (str "operation_id", .str status.operationId.val),
      (str "operation_type", .str (str deviceLocalEraseOperation)),
      (str "request_fingerprint", .str status.requestFingerprint.val),
      (str "device_ref", status.deviceRef.dump),
      (str "created_at", .str (timestampText status.createdAt)),
      (str "deadline", .str (timestampText status.deadline)),
      (str "state", .str (str status.state.word)),
      (str "attempt_count", .int status.attemptCount.val),
      (str "terminal_result", eraseResultWire.dump status.terminalResult)]

/-- `DeviceLocalEraseOperationStatus.model_validate`. -/
def validate : Validator DeviceLocalEraseOperationStatus :=
  validModel fun members => do
    let (_, _, operationId, _, fingerprint, deviceRef, createdAt, deadline, state,
        attempts, result, _) ←
      (withDefault members "contract" ()
          (Wire.literal deviceOperationStatusContract).validate).both
        ((withDefault members "contract_version" () (Wire.literal "1.0").validate).both
          ((required members "operation_id" (validStr nameRule)).both
            ((withDefault members "operation_type" ()
                (Wire.literal deviceLocalEraseOperation).validate).both
              ((required members "request_fingerprint" (validStr digestRule)).both
                ((required members "device_ref" DeviceRef.validate).both
                  ((required members "created_at" awareDatetime).both
                    ((required members "deadline" awareDatetime).both
                      ((required members "state" eraseStateWire.validate).both
                        ((required members "attempt_count" (validInt 0)).both
                          ((required members "terminal_result"
                              eraseResultWire.validate).both
                            (onlyMembers members fieldNames)))))))))))
    if h : result = state.expectedResult ∧ createdAt.val < deadline.val then
      .ok ⟨operationId, fingerprint, deviceRef, createdAt, deadline, state, attempts,
        result, h.left, h.right⟩
    else .error .invalid

end DeviceLocalEraseOperationStatus

/-!
## The reader of the app
-/

@[ext] structure DeviceLocalEraseOperationStatusV1 where
  operationId : PyStr
  requestFingerprint : PyStr
  state : EraseState
  claimGeneration : Int
  trustEpoch : Int
  terminalResult : Option PyStr
  deriving DecidableEq

namespace DeviceLocalEraseOperationStatusV1

def deviceErased (status : DeviceLocalEraseOperationStatusV1) : Bool :=
  status.state == .acknowledged &&
    status.terminalResult == some (str EraseTerminal.erased.word)

/-- The last of the values that is spelled so. -/
def readState (raw : Json) : Option EraseState :=
  EraseState.values.foldl (fun state candidate =>
    if isText raw candidate.word = true then some candidate else state) none

/-- `null`, or one of the words. -/
def readResult : Json -> Option (Option PyStr)
  | .null => some none
  | .str s =>
      if (EraseTerminal.values.any fun result => str result.word == s) = true then
        some (some s)
      else none
  | _ => none

/-- A member of what may be a map. -/
def memberOfMap (ref : Json) (name : String) : Json :=
  match ref with
  | .object members => Members.getOrNone members name
  | _ => .null

def fromMap (value : Members) : Reading DeviceLocalEraseOperationStatusV1 := do
  throwIf (exceeds value.keys (DeviceLocalEraseOperationStatus.fieldNames.map str) ∨
      exceeds (DeviceLocalEraseOperationStatus.fieldNames.map str) value.keys ∨
      isText (value.getOrNone "contract") deviceOperationStatusContract = false ∨
      isText (value.getOrNone "contract_version") "1.0" = false ∨
      isText (value.getOrNone "operation_type") deviceLocalEraseOperation = false)
    "Invalid device-local.erase status"
  let message := "Invalid device-local.erase state"
  let ref := value.getOrNone "device_ref"
  let state ← orThrow (readState (value.getOrNone "state")) message
  let generation ← orThrow (positive? (memberOfMap ref "claim_generation")) message
  let epoch ← orThrow (positive? (memberOfMap ref "trust_epoch")) message
  let result ← orThrow (readResult (value.getOrNone "terminal_result")) message
  throwIf (result ≠ state.expectedResult.map fun expected => str expected.word)
    "Incoherent device-local.erase terminal state"
  let operationId ← boundedText (value.getOrNone "operation_id") 128
  let fingerprint ← digestText (value.getOrNone "request_fingerprint")
  pure ⟨operationId, fingerprint, state, generation, epoch, result⟩

/-- `DeviceLocalEraseOperationStatusV1.fromJson`. -/
def fromJson : Json -> Reading DeviceLocalEraseOperationStatusV1 :=
  fromObject fromMap

end DeviceLocalEraseOperationStatusV1

/-!
## What the two read
-/

section Readers

variable {members : Members}

/-- What the Hub holds, as the app holds it. -/
def DeviceLocalEraseOperationStatus.inDart
    (status : DeviceLocalEraseOperationStatus) : DeviceLocalEraseOperationStatusV1 :=
  ⟨status.operationId.val, status.requestFingerprint.val, status.state,
    status.deviceRef.claimGeneration.val, status.deviceRef.trustEpoch.val,
    status.terminalResult.map fun result => str result.word⟩

theorem eraseResult_ok_iff {value : Json} {result : Option EraseTerminal} :
    eraseResultWire.validate value = .ok result <->
      value = eraseResultWire.dump result := by
  constructor
  · intro h
    cases value with
    | null =>
        cases h
        rfl
    | str s =>
        rcases map_eq_ok.mp h with ⟨word, hword, heq⟩
        rw [← heq]
        exact Wire.word_exact EraseTerminal.mem_values EraseTerminal.words_nodup _ _ hword
    | bool b => cases h
    | int n => cases h
    | float x => cases h
    | array items => cases h
    | object members => cases h
  · intro h
    rw [h]
    exact eraseResultWire.validate_dump result

theorem isText_literal {name word : String} :
    isText (members.getOrNone name) word = true <->
      members.get name = some (.str (str word)) :=
  isText_iff.trans getOrNone_str

theorem get_of_default {name word : String}
    (h : withDefault members name () (Wire.literal word).validate = .ok ()) :
    str name ∈ members.keys <-> members.get name = some (.str (str word)) := by
  rcases (Wire.literal_exact word).withDefault_ok_iff.mp h with ⟨hnone, _⟩ | hsome
  · rw [hnone]
    refine iff_of_false (fun hmem => ?_) nofun
    rw [← Members.get_isSome, hnone] at hmem
    cases hmem
  · refine iff_of_true (Members.get_isSome.mp ?_) hsome
    rw [hsome]
    rfl

/-- The members of a document that the model takes. -/
structure StatusMembers (members : Members)
    (status : DeviceLocalEraseOperationStatus) : Prop where
  known : members.keys ⊆ DeviceLocalEraseOperationStatus.fieldNames.map str
  contract : withDefault members "contract" ()
    (Wire.literal deviceOperationStatusContract).validate = .ok ()
  version : withDefault members "contract_version" ()
    (Wire.literal "1.0").validate = .ok ()
  operationType : withDefault members "operation_type" ()
    (Wire.literal deviceLocalEraseOperation).validate = .ok ()
  operationId : members.get "operation_id" = some (.str status.operationId.val)
  fingerprint : members.get "request_fingerprint" =
    some (.str status.requestFingerprint.val)
  deviceRef : exists ref, members.get "device_ref" = some (.object ref) ∧
    DeviceRef.validate (.object ref) = .ok status.deviceRef
  createdAt : str "created_at" ∈ members.keys
  deadline : str "deadline" ∈ members.keys
  state : members.get "state" = some (.str (str status.state.word))
  attempts : str "attempt_count" ∈ members.keys
  result : members.get "terminal_result" =
    some (eraseResultWire.dump status.terminalResult)

theorem mem_keys_of_required {α : Type} {name : String} {validate : Validator α}
    {a : α} (h : required members name validate = .ok a) :
    str name ∈ members.keys := by
  rcases required_eq_ok.mp h with ⟨value, hget, _⟩
  exact Members.get_isSome.mp (by rw [hget]; rfl)

theorem statusMembers_of_validate {status : DeviceLocalEraseOperationStatus}
    (h : DeviceLocalEraseOperationStatus.validate (.object members) = .ok status) :
    StatusMembers members status := by
  rcases bind_eq_ok.mp h with ⟨⟨u, v, operationId, w, fingerprint, ref, createdAt,
    deadline, state, attempts, result, x⟩, hfields, hbuilt⟩
  simp only [Validated.both_eq_ok] at hfields
  rcases hfields with ⟨hcontract, hversion, hoperation, htype, hfingerprint, href,
    hcreated, hdeadline, hstate, hattempts, hresult, hknown⟩
  dsimp only at hbuilt
  split at hbuilt
  · rw [← Except.ok.inj hbuilt]
    rcases required_eq_ok.mp href with ⟨value, hvalue, href⟩
    rcases validModel_eq_ok.mp href with ⟨part, heq, _⟩
    rcases required_eq_ok.mp hresult with ⟨raw, hraw, hresult⟩
    rcases required_eq_ok.mp hoperation with ⟨text, htext, hoperation⟩
    rcases required_eq_ok.mp hfingerprint with ⟨digest, hdigest, hfingerprint⟩
    exact
      { known := onlyMembers_eq_ok.mp hknown
        contract := hcontract
        version := hversion
        operationType := htype
        operationId := validStr_ok_iff.mp hoperation ▸ htext
        fingerprint := validStr_ok_iff.mp hfingerprint ▸ hdigest
        deviceRef := ⟨part, heq ▸ hvalue, heq ▸ href⟩
        createdAt := mem_keys_of_required hcreated
        deadline := mem_keys_of_required hdeadline
        state := (Wire.word_exact EraseState.mem_values
          EraseState.words_nodup).required_ok_iff.mp hstate
        attempts := mem_keys_of_required hattempts
        result := eraseResult_ok_iff.mp hresult ▸ hraw }
  · cases hbuilt

namespace DeviceLocalEraseOperationStatusV1

theorem readState_word (state : EraseState) :
    readState (.str (str state.word)) = some state := by
  cases state with
  | accepted => decide
  | pending => decide
  | deliveryAccepted => decide
  | acknowledged => decide
  | expired => decide
  | permanentFailure => decide

theorem readResult_dump (result : Option EraseTerminal) :
    readResult (eraseResultWire.dump result) =
      some (result.map fun result => str result.word) := by
  cases result with
  | none => rfl
  | some word =>
      cases word with
      | erased => decide
      | permanentFailure => decide
      | deadlineExpired => decide

theorem fromMap_eq_ok {read : DeviceLocalEraseOperationStatusV1} :
    fromMap members = .ok read <->
      (members.keys ⊆ DeviceLocalEraseOperationStatus.fieldNames.map str ∧
        DeviceLocalEraseOperationStatus.fieldNames.map str ⊆ members.keys ∧
        members.get "contract" = some (.str (str deviceOperationStatusContract)) ∧
        members.get "contract_version" = some (.str (str "1.0")) ∧
        members.get "operation_type" =
          some (.str (str deviceLocalEraseOperation))) ∧
      readState (members.getOrNone "state") = some read.state ∧
      positive? (memberOfMap (members.getOrNone "device_ref") "claim_generation") =
        some read.claimGeneration ∧
      positive? (memberOfMap (members.getOrNone "device_ref") "trust_epoch") =
        some read.trustEpoch ∧
      readResult (members.getOrNone "terminal_result") = some read.terminalResult ∧
      read.terminalResult =
        read.state.expectedResult.map (fun expected => str expected.word) ∧
      boundedText (members.getOrNone "operation_id") 128 = .ok read.operationId ∧
      digestText (members.getOrNone "request_fingerprint") =
        .ok read.requestFingerprint := by
  unfold fromMap
  simp only [bind_eq_ok, throwIf_eq_ok, exists_const, orThrow_eq_ok]
  simp only [exceeds, not_or, not_not, Bool.not_eq_false, isText_literal]
  apply and_congr_right
  intro _
  constructor
  · intro h
    rcases h with ⟨state, hstate, generation, hgeneration, epoch, hepoch, result,
      hresult, hcoherent, operationId, hoperation, fingerprint, hfingerprint, heq⟩
    cases heq
    exact ⟨hstate, hgeneration, hepoch, hresult, hcoherent, hoperation, hfingerprint⟩
  · intro h
    rcases h with ⟨hstate, hgeneration, hepoch, hresult, hcoherent, hoperation,
      hfingerprint⟩
    exact ⟨_, hstate, _, hgeneration, _, hepoch, _, hresult, hcoherent, _, hoperation,
      _, hfingerprint, rfl⟩

end DeviceLocalEraseOperationStatusV1

/-- What the reader asks for besides: the three constants are written out, and the
strings and numbers fit it. -/
structure FitsDart (members : Members) (status : DeviceLocalEraseOperationStatus) :
    Prop where
  contract : str "contract" ∈ members.keys
  version : str "contract_version" ∈ members.keys
  operationType : str "operation_type" ∈ members.keys
  operationId : Dart.length status.operationId.val ≤ 128
  claimGeneration : inInt64 status.deviceRef.claimGeneration.val
  trustEpoch : inInt64 status.deviceRef.trustEpoch.val

/-- The reader, on a document the model takes. -/
theorem StatusMembers.fromMap_iff {status : DeviceLocalEraseOperationStatus}
    (h : StatusMembers members status) {read : DeviceLocalEraseOperationStatusV1} :
    DeviceLocalEraseOperationStatusV1.fromMap members = .ok read <->
      FitsDart members status ∧ read = status.inDart := by
  rcases h.deviceRef with ⟨ref, href, hvalid⟩
  rcases DeviceRef.validate_get hvalid with ⟨_, _, _, hclaim, hepoch⟩
  have hmember : members.getOrNone "device_ref" = .object ref := by
    unfold Members.getOrNone
    rw [href]
    rfl
  have hstate : members.getOrNone "state" = .str (str status.state.word) :=
    getOrNone_str.mpr h.state
  have hid : members.getOrNone "operation_id" = .str status.operationId.val :=
    getOrNone_str.mpr h.operationId
  have hdigest : members.getOrNone "request_fingerprint" =
      .str status.requestFingerprint.val := getOrNone_str.mpr h.fingerprint
  have hresult : members.getOrNone "terminal_result" =
      eraseResultWire.dump status.terminalResult := by
    unfold Members.getOrNone
    rw [h.result]
    rfl
  have hne : status.operationId.val ≠ [] := by
    intro hnil
    have hlength := status.operationId.property.right.left
    rw [hnil] at hlength
    exact absurd hlength (by decide)
  rw [DeviceLocalEraseOperationStatusV1.fromMap_eq_ok, hmember, hstate, hid, hdigest,
    hresult, DeviceLocalEraseOperationStatusV1.readState_word,
    DeviceLocalEraseOperationStatusV1.readResult_dump, positive?_eq_some,
    positive?_eq_some, boundedText_eq_ok, digestText_eq_ok,
    ← get_of_default h.contract, ← get_of_default h.version,
    ← get_of_default h.operationType]
  constructor
  · intro hparts
    rcases hparts with ⟨⟨_, _, hcontract, hversion, htype⟩, hread, ⟨hgeneration, hint,
      _⟩, ⟨hepoch', hint', _⟩, hterminal, _, ⟨hoperation, _, hlength⟩, hfingerprint,
      _⟩
    have hclaim' : status.deviceRef.claimGeneration.val = read.claimGeneration :=
      Json.int.inj (Option.some.inj (hclaim.symm.trans (getOrNone_int.mp hgeneration)))
    have htrust : status.deviceRef.trustEpoch.val = read.trustEpoch :=
      Json.int.inj (Option.some.inj (hepoch.symm.trans (getOrNone_int.mp hepoch')))
    have hsame : status.operationId.val = read.operationId := Json.str.inj hoperation
    refine ⟨⟨hcontract, hversion, htype, hsame ▸ hlength, hclaim' ▸ hint,
      htrust ▸ hint'⟩, ?_⟩
    exact DeviceLocalEraseOperationStatusV1.ext hsame.symm
      (Json.str.inj hfingerprint).symm (Option.some.inj hread).symm hclaim'.symm
      htrust.symm (Option.some.inj hterminal).symm
  · intro hparts
    rcases hparts with ⟨hfits, rfl⟩
    refine ⟨⟨h.known, ?_, hfits.contract, hfits.version, hfits.operationType⟩, rfl,
      ⟨getOrNone_int.mpr hclaim, hfits.claimGeneration,
        status.deviceRef.claimGeneration.property⟩,
      ⟨getOrNone_int.mpr hepoch, hfits.trustEpoch,
        status.deviceRef.trustEpoch.property⟩, rfl, ?_,
      ⟨rfl, hne, hfits.operationId⟩, rfl,
      status.requestFingerprint.property.right.right.right⟩
    · have hpresent : forall {name : String} {value : Json},
          members.get name = some value -> str name ∈ members.keys :=
        fun hget => Members.get_isSome.mp (by rw [hget]; rfl)
      simp only [DeviceLocalEraseOperationStatus.fieldNames, List.map_cons,
        List.map_nil, List.cons_subset, List.nil_subset, and_true]
      exact ⟨hfits.contract, hfits.version, hpresent h.operationId,
        hfits.operationType, hpresent h.fingerprint, hpresent href, h.createdAt,
        h.deadline, hpresent h.state, h.attempts, hpresent h.result⟩
    · exact congrArg (Option.map _) status.coherent

end Readers

/-- A status is read back from what it is dumped to. -/
theorem DeviceLocalEraseOperationStatus.validate_dump
    (status : DeviceLocalEraseOperationStatus) :
    DeviceLocalEraseOperationStatus.validate status.dump = .ok status := by
  refine bind_eq_ok.mpr ⟨((), (), status.operationId, (), status.requestFingerprint,
    status.deviceRef, status.createdAt, status.deadline, status.state,
    status.attemptCount, status.terminalResult, ()), ?_,
    dif_pos ⟨status.coherent, status.window⟩⟩
  simp only [Validated.both_eq_ok, required_eq_ok, withDefault_eq_ok,
    onlyMembers_eq_ok]
  exact ⟨Or.inr ⟨_, rfl, (Wire.literal _).validate_dump ()⟩,
    Or.inr ⟨_, rfl, (Wire.literal _).validate_dump ()⟩, ⟨_, rfl, validStr_val _⟩,
    Or.inr ⟨_, rfl, (Wire.literal _).validate_dump ()⟩, ⟨_, rfl, validStr_val _⟩,
    ⟨_, rfl, DeviceRef.validate_dump _⟩, ⟨_, rfl, awareDatetime_timestampText _⟩,
    ⟨_, rfl, awareDatetime_timestampText _⟩, ⟨_, rfl, eraseStateWire.validate_dump _⟩,
    ⟨_, rfl, validInt_val _⟩, ⟨_, rfl, eraseResultWire.validate_dump _⟩,
    fun k hk => hk⟩

/-- The app tells its user that a device is erased where the Hub means it. -/
theorem DeviceLocalEraseOperationStatus.deviceErased_iff
    (status : DeviceLocalEraseOperationStatus) :
    status.inDart.deviceErased = true <-> status.state = .acknowledged := by
  have hresult : status.inDart.terminalResult =
      status.state.expectedResult.map fun result => str result.word :=
    congrArg (Option.map _) status.coherent
  unfold DeviceLocalEraseOperationStatusV1.deviceErased
  rw [Bool.and_eq_true, beq_iff_eq, hresult]
  constructor
  · exact And.left
  · intro hstate
    refine ⟨hstate, ?_⟩
    rw [hstate]
    rfl

/-- Of the documents the model of the Hub takes the app reads those that write the
constants out and fit its strings and numbers.  It reads the same from them, and
takes the device for erased where the Hub holds an acknowledgement. -/
theorem erase_status_readers_agree {document : Json}
    {status : DeviceLocalEraseOperationStatus}
    (h : DeviceLocalEraseOperationStatus.validate document = .ok status) :
    exists members, document = .object members ∧
      forall read,
        DeviceLocalEraseOperationStatusV1.fromJson document = .ok read <->
          FitsDart members status ∧ read = status.inDart ∧
            (read.deviceErased = true <-> status.state = .acknowledged) := by
  rcases validModel_eq_ok.mp h with ⟨members, rfl, _⟩
  refine ⟨members, rfl, fun read => ?_⟩
  refine (statusMembers_of_validate h).fromMap_iff.trans ?_
  constructor
  · intro hparts
    rcases hparts with ⟨hfits, hread⟩
    exact ⟨hfits, hread, hread ▸ status.deviceErased_iff⟩
  · intro hparts
    rcases hparts with ⟨hfits, hread, _⟩
    exact ⟨hfits, hread⟩

/-! A device whose erase is acknowledged. -/

def sampleEraseStatus : DeviceLocalEraseOperationStatus where
  operationId := ⟨str "erase-acknowledged", by decide⟩
  requestFingerprint := ⟨str "sha256:" ++ List.replicate 64 (codePoint '0'), by decide⟩
  deviceRef := ⟨sampleDeviceInstanceId, ⟨str "owner-a", by decide⟩, IntFrom.lowest 1,
    IntFrom.lowest 1, IntFrom.lowest 1⟩
  createdAt := sampleDescriptor.issuedAt
  deadline := sampleDescriptor.expiresAt
  state := .acknowledged
  attemptCount := IntFrom.lowest 0
  terminalResult := some .erased
  coherent := rfl
  window := sampleDescriptor_valid.window

theorem erase_status_readers_agree_acknowledged :
    exists members, sampleEraseStatus.dump = .object members ∧
      forall read,
        DeviceLocalEraseOperationStatusV1.fromJson sampleEraseStatus.dump = .ok read <->
          FitsDart members sampleEraseStatus ∧ read = sampleEraseStatus.inDart ∧
            (read.deviceErased = true <-> sampleEraseStatus.state = .acknowledged) :=
  erase_status_readers_agree sampleEraseStatus.validate_dump

end DeviceFoundation
end EidolonSdk
