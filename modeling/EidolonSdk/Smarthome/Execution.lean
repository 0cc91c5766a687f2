import EidolonSdk.Pydantic.Records
import EidolonSdk.Smarthome.PanelRequests

/-!
# What became of a request

A request runs explicit commands or one scene.  Its result refuses the whole of it
with a code, or has one outcome for each command, in their order.
-/

namespace EidolonSdk
namespace Smarthome

open Python Pydantic

/-!
## The request
-/

inductive OriginKind where
  | voice
  | text
  | touch
  | scene
  | mobile
  | automation
  deriving DecidableEq

def OriginKind.all : List OriginKind :=
  [.voice, .text, .touch, .scene, .mobile, .automation]

def OriginKind.word : OriginKind -> String
  | .voice => "voice"
  | .text => "text"
  | .touch => "touch"
  | .scene => "scene"
  | .mobile => "mobile"
  | .automation => "automation"

def OriginKind.wire : Wire OriginKind :=
  Wire.word all word (fun a => by cases a <;> decide) (by decide)

def optionalIdentifier : Wire (Option Identifier) :=
  (Wire.text identifierRule).nullable fun _ => rfl

theorem text_not_null (most : Nat) (text : ConStr (upTo most)) :
    Wire.isNull ((Wire.text (upTo most)).dump text) = false := rfl

/-- {lit}`str | None` with at most so many characters. -/
def optionalText (most : Nat) : Wire (Option (ConStr (upTo most))) :=
  (Wire.text (upTo most)).nullable (text_not_null most)

structure Origin where
  kind : OriginKind
  deviceRef : Option Identifier
  turnId : Option Identifier
  label : Option (ConStr (upTo 32))

def Origin.record : Record Origin :=
  ((Record.field "kind" OriginKind.wire).and
    ((Record.defaulted "device_ref" optionalIdentifier none).and
      ((Record.defaulted "turn_id" optionalIdentifier none).and
        (Record.defaulted "label" (optionalText 32) none)))).map
    (fun (kind, deviceRef, turnId, label) => ⟨kind, deviceRef, turnId, label⟩)
    (fun o => (o.kind, o.deviceRef, o.turnId, o.label)) fun _ => rfl

/-- {lit}`MAX_COMMANDS`. -/
def maxCommands : Nat := 32

/-- {lit}`ExecuteRequest.validate_target`. -/
def ExecuteRequest.validateTarget (commands : List Command)
    (sceneId : Option Identifier) : Verdict :=
  if (!commands.isEmpty) = sceneId.isSome then
    refuse "EXACTLY_ONE_OF_COMMANDS_OR_SCENE"
  else .ok ()

structure ExecuteRequest where
  requestId : Identifier
  commands : Tuple (atMost maxCommands) Command
  sceneId : Option Identifier
  origin : Origin
  deadlineMs : IntFrom 0
  target : ExecuteRequest.validateTarget commands.val sceneId = .ok ()

def ExecuteRequest.fields : Record (Unit × Identifier ×
    Tuple (atMost maxCommands) Command × Option Identifier × Origin × IntFrom 0) :=
  (Record.defaulted "schema_version" schemaVersion ()).and
    ((Record.field "request_id" (Wire.text identifierRule)).and
      ((Record.defaulted "commands" (Wire.tuple (atMost maxCommands) Command.wire)
          (noItems Command maxCommands)).and
        ((Record.defaulted "scene_id" optionalIdentifier none).and
          ((Record.field "origin" Origin.record.wire).and
            (Record.field "deadline_ms" (Wire.integer 0))))))

def ExecuteRequest.record : Record ExecuteRequest :=
  (ExecuteRequest.fields.after fun (_, _, commands, sceneId, _, _) =>
    ExecuteRequest.validateTarget commands.val sceneId).map
    (fun ⟨(_, requestId, commands, sceneId, origin, deadlineMs), target⟩ =>
      ⟨requestId, commands, sceneId, origin, deadlineMs, target⟩)
    (fun r => ⟨((), r.requestId, r.commands, r.sceneId, r.origin, r.deadlineMs),
      r.target⟩) fun _ => rfl

/-!
## The result
-/

/-- {lit}`ERROR_CODES`. -/
def errorCodes : List PyStr :=
  [str "UNKNOWN_DEVICE", str "UNKNOWN_SCENE", str "UNSUPPORTED_COMMAND",
    str "INVALID_PARAMS", str "OUT_OF_RANGE", str "DEVICE_OFFLINE",
    str "DEADLINE_EXCEEDED", str "PLATFORM_REJECTED"]

inductive CommandStatus where
  | succeeded
  | failed
  | unknown
  | delegated
  deriving DecidableEq

def CommandStatus.all : List CommandStatus :=
  [.succeeded, .failed, .unknown, .delegated]

def CommandStatus.word : CommandStatus -> String
  | .succeeded => "succeeded"
  | .failed => "failed"
  | .unknown => "unknown"
  | .delegated => "delegated"

def CommandStatus.wire : Wire CommandStatus :=
  Wire.word all word (fun a => by cases a <;> decide) (by decide)

/-- {lit}`str | None`. -/
def optionalWords : Wire (Option PyStr) :=
  Wire.anyText.nullable fun _ => rfl

/-- {lit}`CommandResult.validate_status`. -/
def CommandResult.validateStatus (status : CommandStatus) (code : Option PyStr)
    (state : Option State) (platformAnswer : Option (ConStr (upTo 200))) : Verdict :=
  if status = .failed ∧ ¬ (code.any fun c => decide (c ∈ errorCodes)) = true then
    refuse "FAILED_RESULT_NEEDS_CODE"
  else if status = .succeeded ∧ state.isNone then
    refuse "SUCCEEDED_RESULT_NEEDS_STATE"
  else if status = .delegated then
    if platformAnswer.isNone then refuse "DELEGATED_RESULT_NEEDS_PLATFORM_ANSWER"
    else if state.isSome then refuse "DELEGATED_RESULT_HAS_NO_STATE"
    else .ok ()
  else if platformAnswer.isSome then refuse "PLATFORM_ANSWER_ONLY_WHEN_DELEGATED"
  else .ok ()

structure CommandResult where
  deviceId : Identifier
  status : CommandStatus
  code : Option PyStr
  state : Option State
  platformAnswer : Option (ConStr (upTo 200))
  coherent : CommandResult.validateStatus status code state platformAnswer = .ok ()

def optionalState : Wire (Option State) :=
  (entriesWire isStateValue).nullable fun _ => rfl

def CommandResult.fields : Record (Identifier × CommandStatus × Option PyStr ×
    Option State × Option (ConStr (upTo 200))) :=
  (Record.field "device_id" (Wire.text identifierRule)).and
    ((Record.field "status" CommandStatus.wire).and
      ((Record.defaulted "code" optionalWords none).and
        ((Record.defaulted "state" optionalState none).and
          (Record.defaulted "platform_answer" (optionalText 200) none))))

def CommandResult.record : Record CommandResult :=
  (CommandResult.fields.after fun (_, status, code, state, platformAnswer) =>
    CommandResult.validateStatus status code state platformAnswer).map
    (fun ⟨(deviceId, status, code, state, platformAnswer), coherent⟩ =>
      ⟨deviceId, status, code, state, platformAnswer, coherent⟩)
    (fun r => ⟨(r.deviceId, r.status, r.code, r.state, r.platformAnswer), r.coherent⟩)
    fun _ => rfl

/-- {lit}`ExecuteResult.validate_outcome`. -/
def ExecuteResult.validateOutcome (results : List CommandResult)
    (error : Option PyStr) : Verdict :=
  if error.any (fun e => decide (e ∉ errorCodes)) = true then
    refuse "UNKNOWN_ERROR_CODE"
  else if error.isNone = results.isEmpty then refuse "EXACTLY_ONE_OF_RESULTS_OR_ERROR"
  else .ok ()

structure ExecuteResult where
  requestId : Identifier
  results : Tuple (atMost maxCommands) CommandResult
  error : Option PyStr
  outcome : ExecuteResult.validateOutcome results.val error = .ok ()

def ExecuteResult.fields : Record (Unit × Identifier ×
    Tuple (atMost maxCommands) CommandResult × Option PyStr) :=
  (Record.defaulted "schema_version" schemaVersion ()).and
    ((Record.field "request_id" (Wire.text identifierRule)).and
      ((Record.defaulted "results"
          (Wire.tuple (atMost maxCommands) CommandResult.record.wire)
          (noItems CommandResult maxCommands)).and
        (Record.defaulted "error" optionalWords none)))

def ExecuteResult.record : Record ExecuteResult :=
  (ExecuteResult.fields.after fun (_, _, results, error) =>
    ExecuteResult.validateOutcome results.val error).map
    (fun ⟨(_, requestId, results, error), outcome⟩ =>
      ⟨requestId, results, error, outcome⟩)
    (fun r => ⟨((), r.requestId, r.results, r.error), r.outcome⟩) fun _ => rfl

/-- {lit}`validate_execute_result`. -/
def validateExecuteResult (commands : List Command) (result : ExecuteResult) :
    Verdict :=
  if result.error.isSome then .ok ()
  else if result.results.val.length ≠ commands.length then
    refuse "RESULT_COUNT_MISMATCH"
  else matchDevices commands result.results.val
where
  /-- The loop over both. -/
  matchDevices : List Command -> List CommandResult -> Verdict
    | command :: commands, item :: items =>
        if command.deviceId ≠ item.deviceId then refuse "RESULT_ORDER_MISMATCH"
        else matchDevices commands items
    | _, _ => .ok ()

/-!
## Coherence
-/

/-- What may have become of one command. -/
inductive Outcome : CommandStatus -> Option PyStr -> Option State ->
    Option (ConStr (upTo 200)) -> Prop where
  | succeeded (code : Option PyStr) (state : State) :
      Outcome .succeeded code (some state) none
  | failed {code : PyStr} (hcode : code ∈ errorCodes) (state : Option State) :
      Outcome .failed (some code) state none
  | unknown (code : Option PyStr) (state : Option State) :
      Outcome .unknown code state none
  | delegated (code : Option PyStr) (answer : ConStr (upTo 200)) :
      Outcome .delegated code none (some answer)

theorem CommandResult.validateStatus_eq_ok {status : CommandStatus}
    {code : Option PyStr} {state : Option State}
    {platformAnswer : Option (ConStr (upTo 200))} :
    validateStatus status code state platformAnswer = .ok () <->
      Outcome status code state platformAnswer := by
  constructor
  · intro h
    unfold validateStatus at h
    rw [ite_refuse_eq_ok, ite_refuse_eq_ok] at h
    rcases h with ⟨hfailed, hsucceeded, hrest⟩
    cases status with
    | succeeded =>
        rw [if_neg nofun, ite_refuse_eq_ok] at hrest
        cases Option.not_isSome_iff_eq_none.mp hrest.left
        cases state with
        | none => exact absurd ⟨rfl, rfl⟩ hsucceeded
        | some state => exact .succeeded code state
    | failed =>
        rw [if_neg nofun, ite_refuse_eq_ok] at hrest
        cases Option.not_isSome_iff_eq_none.mp hrest.left
        cases code with
        | none => exact absurd ⟨rfl, Bool.false_ne_true⟩ hfailed
        | some code =>
            refine .failed ?_ state
            by_contra hcode
            exact hfailed ⟨rfl, fun h => hcode (of_decide_eq_true h)⟩
    | unknown =>
        rw [if_neg nofun, ite_refuse_eq_ok] at hrest
        cases Option.not_isSome_iff_eq_none.mp hrest.left
        exact .unknown code state
    | delegated =>
        rw [if_pos rfl, ite_refuse_eq_ok, ite_refuse_eq_ok] at hrest
        cases Option.not_isSome_iff_eq_none.mp hrest.right.left
        cases platformAnswer with
        | none => exact absurd rfl hrest.left
        | some answer => exact .delegated code answer
  · intro h
    cases h with
    | succeeded code state => rfl
    | failed hcode state =>
        refine ite_refuse_eq_ok.mpr ⟨fun h => h.right ?_, rfl⟩
        exact decide_eq_true hcode
    | unknown code state => rfl
    | delegated code answer => rfl

theorem ExecuteResult.validateOutcome_eq_ok {results : List CommandResult}
    {error : Option PyStr} :
    validateOutcome results error = .ok () <->
      (exists code, error = some code ∧ code ∈ errorCodes ∧ results = []) ∨
        error = none ∧ results ≠ [] := by
  unfold validateOutcome
  rw [ite_refuse_eq_ok, ite_refuse_eq_ok]
  cases error with
  | none =>
      cases results with
      | nil => simp
      | cons item items => simp
  | some code =>
      cases results with
      | nil => simp
      | cons item items => simp

theorem ExecuteRequest.validateTarget_eq_ok {commands : List Command}
    {sceneId : Option Identifier} :
    validateTarget commands sceneId = .ok () <->
      (commands = [] <-> sceneId.isSome = true) := by
  unfold validateTarget
  rw [ite_refuse_eq_ok]
  cases commands with
  | nil => simp [Option.isSome_iff_ne_none]
  | cons command commands => simp

/-!
## What the documents say
-/

/-- The parts of a request are read as one exactly when it has either commands or a
scene. -/
theorem execute_document_iff (requestId : Identifier)
    (commands : Tuple (atMost maxCommands) Command) (sceneId : Option Identifier)
    (origin : Origin) (deadlineMs : IntFrom 0) :
    ((exists request, ExecuteRequest.record.validate (ExecuteRequest.fields.dump
        ((), requestId, commands, sceneId, origin, deadlineMs)) = .ok request) <->
          (commands.val = [] <-> sceneId.isSome = true)) ∧
      forall request, ExecuteRequest.record.validate (ExecuteRequest.fields.dump
          ((), requestId, commands, sceneId, origin, deadlineMs)) = .ok request ->
        ExecuteRequest.record.dump request = ExecuteRequest.fields.dump
          ((), requestId, commands, sceneId, origin, deadlineMs) := by
  rw [← ExecuteRequest.validateTarget_eq_ok]
  exact ExecuteRequest.fields.document_iff _ _ _ _ (fun _ => rfl)
    ((), requestId, commands, sceneId, origin, deadlineMs)

/-- The parts of an outcome are read as one exactly when they fit its status. -/
theorem outcome_document_iff (deviceId : Identifier) (status : CommandStatus)
    (code : Option PyStr) (state : Option State)
    (platformAnswer : Option (ConStr (upTo 200))) :
    ((exists item, CommandResult.record.validate (CommandResult.fields.dump
        (deviceId, status, code, state, platformAnswer)) = .ok item) <->
          Outcome status code state platformAnswer) ∧
      forall item, CommandResult.record.validate (CommandResult.fields.dump
          (deviceId, status, code, state, platformAnswer)) = .ok item ->
        CommandResult.record.dump item = CommandResult.fields.dump
          (deviceId, status, code, state, platformAnswer) := by
  rw [← CommandResult.validateStatus_eq_ok]
  exact CommandResult.fields.document_iff _ _ _ _ (fun _ => rfl)
    (deviceId, status, code, state, platformAnswer)

/-- The parts of a result are read as one exactly when it has either a code for the
whole request or outcomes. -/
theorem result_document_iff (requestId : Identifier)
    (results : Tuple (atMost maxCommands) CommandResult) (error : Option PyStr) :
    ((exists result, ExecuteResult.record.validate (ExecuteResult.fields.dump
        ((), requestId, results, error)) = .ok result) <->
          (exists code, error = some code ∧ code ∈ errorCodes ∧ results.val = []) ∨
            error = none ∧ results.val ≠ []) ∧
      forall result, ExecuteResult.record.validate (ExecuteResult.fields.dump
          ((), requestId, results, error)) = .ok result ->
        ExecuteResult.record.dump result =
          ExecuteResult.fields.dump ((), requestId, results, error) := by
  rw [← ExecuteResult.validateOutcome_eq_ok]
  exact ExecuteResult.fields.document_iff _ _ _ _ (fun _ => rfl)
    ((), requestId, results, error)

/-!
## One outcome for each command
-/

theorem matchDevices_eq_ok {commands : List Command} {items : List CommandResult}
    (h : items.length = commands.length) :
    validateExecuteResult.matchDevices commands items = .ok () <->
      List.Forall₂ (fun command item => command.deviceId = item.deviceId) commands
        items := by
  induction commands generalizing items with
  | nil =>
      cases items with
      | nil => exact iff_of_true rfl List.Forall₂.nil
      | cons item items => cases h
  | cons command commands ih =>
      cases items with
      | nil => cases h
      | cons item items =>
          rw [validateExecuteResult.matchDevices, ite_refuse_eq_ok, not_not,
            ih (Nat.succ.inj h), List.forall₂_cons]

/-- A result fits some commands exactly when it refuses them all with a code and
has no outcome, or has an outcome of the right kind for each of them, in order. -/
theorem validateExecuteResult_eq_ok (commands : List Command) (result : ExecuteResult) :
    validateExecuteResult commands result = .ok () <->
      (exists code, result.error = some code ∧ code ∈ errorCodes ∧
          result.results.val = []) ∨
        result.error = none ∧ commands ≠ [] ∧
          List.Forall₂ (fun command item =>
            command.deviceId = item.deviceId ∧
              Outcome item.status item.code item.state item.platformAnswer) commands
              result.results.val := by
  rcases ExecuteResult.validateOutcome_eq_ok.mp result.outcome with
    ⟨code, herror, hcode, hnone⟩ | ⟨herror, hsome⟩
  · unfold validateExecuteResult
    rw [herror, if_pos (show (some code).isSome = true from rfl)]
    exact iff_of_true rfl (Or.inl ⟨code, rfl, hcode, hnone⟩)
  · have houtcomes : List.Forall₂ (fun command item =>
        command.deviceId = item.deviceId ∧
          Outcome item.status item.code item.state item.platformAnswer) commands
            result.results.val <->
          List.Forall₂ (fun command item => command.deviceId = item.deviceId) commands
            result.results.val := by
      constructor
      · exact fun h => h.imp fun _ _ hboth => hboth.left
      · exact fun h => h.imp fun _ item heq =>
          ⟨heq, CommandResult.validateStatus_eq_ok.mp item.coherent⟩
    unfold validateExecuteResult
    have hgoes : ¬ (none : Option PyStr).isSome = true := Bool.false_ne_true
    rw [herror, if_neg hgoes, ite_refuse_eq_ok, not_not, houtcomes]
    constructor
    · intro hparts
      rcases hparts with ⟨hlength, hmatch⟩
      refine Or.inr ⟨rfl, fun hnil => hsome ?_, (matchDevices_eq_ok hlength).mp hmatch⟩
      rw [hnil] at hlength
      exact List.length_eq_zero_iff.mp hlength
    · intro hparts
      rcases hparts with ⟨_, h, _⟩ | ⟨_, _, hdevices⟩
      · cases h
      · have hlength := hdevices.length_eq.symm
        exact ⟨hlength, (matchDevices_eq_ok hlength).mpr hdevices⟩

/-- A result fits the commands that ran exactly when it refuses them all with a code
and has no outcome, or has one coherent outcome for each of them, in order; against
the commands of a request for a scene only a refusal fits. -/
theorem execute_result_lines_up (request : ExecuteRequest) (result : ExecuteResult) :
    (forall commands, validateExecuteResult commands result = .ok () <->
        (exists code, result.error = some code ∧ code ∈ errorCodes ∧
            result.results.val = []) ∨
          result.error = none ∧ commands ≠ [] ∧
            List.Forall₂ (fun command item =>
              command.deviceId = item.deviceId ∧
                Outcome item.status item.code item.state item.platformAnswer) commands
                result.results.val) ∧
      (request.sceneId.isSome = true ->
        (validateExecuteResult request.commands.val result = .ok () <->
          result.error.isSome = true)) := by
  refine ⟨fun commands => validateExecuteResult_eq_ok commands result, fun hscene => ?_⟩
  have hcommands := (ExecuteRequest.validateTarget_eq_ok.mp request.target).mpr hscene
  rw [validateExecuteResult_eq_ok, hcommands]
  constructor
  · intro h
    rcases h with ⟨code, herror, _⟩ | ⟨_, hne, _⟩
    · rw [herror]
      rfl
    · exact absurd rfl hne
  · intro herror
    rcases ExecuteResult.validateOutcome_eq_ok.mp result.outcome with
      hrefused | ⟨hnone, _⟩
    · exact Or.inl hrefused
    · rw [hnone] at herror
      cases herror

end Smarthome
end EidolonSdk
