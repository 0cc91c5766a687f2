import EidolonSdk.Pydantic.Records
import EidolonSdk.Smarthome.Vocabulary

/-!
# Who speaks next

A participation decision is one step: a request pins a snapshot and offers
candidates, a result answers it with a proposal or abstains.  Both are closed
documents with checks over several of their fields.
-/

namespace EidolonSdk
namespace Participation

open Python Pydantic

/-!
## Values
-/

inductive Action where
  | respond
  | clarify
  | wait
  | finish
  deriving DecidableEq

def Action.all : List Action := [.respond, .clarify, .wait, .finish]

def Action.word : Action -> String
  | .respond => "respond"
  | .clarify => "clarify"
  | .wait => "wait"
  | .finish => "finish"

def Action.wire : Wire Action :=
  Wire.word all word (fun a => by cases a <;> decide) (by decide)

inductive AuthorKind where
  | user
  | companion
  | system
  deriving DecidableEq

def AuthorKind.all : List AuthorKind := [.user, .companion, .system]

def AuthorKind.word : AuthorKind -> String
  | .user => "user"
  | .companion => "companion"
  | .system => "system"

def AuthorKind.wire : Wire AuthorKind :=
  Wire.word all word (fun a => by cases a <;> decide) (by decide)

inductive Status where
  | decided
  | abstained
  deriving DecidableEq

def Status.all : List Status := [.decided, .abstained]

def Status.word : Status -> String
  | .decided => "decided"
  | .abstained => "abstained"

def Status.wire : Wire Status :=
  Wire.word all word (fun a => by cases a <;> decide) (by decide)

/-- {lit}`pattern=r"\S"`. -/
def identifierRule : StrRule :=
  { minLength := 1, maxLength := some 512,
    pattern := fun s => s.any fun c => !Smarthome.isWhiteSpace c }

abbrev Identifier := ConStr identifierRule

abbrev Text := ConStr (upTo 32768)

abbrev Revision := IntFrom 0

/-!
## The request
-/

structure Message where
  messageId : Identifier
  authorKind : AuthorKind
  authorId : Identifier
  text : Text

def Message.record : Record Message :=
  ((Record.field "message_id" (Wire.text identifierRule)).and
    ((Record.field "author_kind" AuthorKind.wire).and
      ((Record.field "author_id" (Wire.text identifierRule)).and
        (Record.field "text" (Wire.text (upTo 32768)))))).map
    (fun (messageId, authorKind, authorId, text) =>
      ⟨messageId, authorKind, authorId, text⟩)
    (fun m => (m.messageId, m.authorKind, m.authorId, m.text)) fun _ => rfl

structure Context where
  summary : Text := noText 32768
  recentMessages : Tuple (atMost 64) Message := noItems Message 64
  pendingRequirements : Tuple (atMost 32) Text := noItems Text 32

def Context.record : Record Context :=
  ((Record.defaulted "summary" (Wire.text (upTo 32768)) (noText 32768)).and
    ((Record.defaulted "recent_messages" (Wire.tuple (atMost 64) Message.record.wire)
        (noItems Message 64)).and
      (Record.defaulted "pending_requirements"
        (Wire.tuple (atMost 32) (Wire.text (upTo 32768))) (noItems Text 32)))).map
    (fun (summary, recentMessages, pendingRequirements) =>
      ⟨summary, recentMessages, pendingRequirements⟩)
    (fun c => (c.summary, c.recentMessages, c.pendingRequirements)) fun _ => rfl

structure Candidate where
  companionId : Identifier
  displayName : ConStr (upTo 256)
  description : ConStr (upTo 4096)

def Candidate.record : Record Candidate :=
  ((Record.field "companion_id" (Wire.text identifierRule)).and
    ((Record.defaulted "display_name" (Wire.text (upTo 256)) (noText 256)).and
      (Record.field "description" (Wire.text (upTo 4096))))).map
    (fun (companionId, displayName, description) =>
      ⟨companionId, displayName, description⟩)
    (fun c => (c.companionId, c.displayName, c.description)) fun _ => rfl

/-- {lit}`Field(min_length=1, max_length=4)`. -/
def actionsRule : LengthRule :=
  { least := 1, most := some 4 }

def uniqueActions (actions : List Action) : Verdict :=
  if hasDuplicates actions then refuse "DUPLICATE_ALLOWED_ACTION" else .ok ()

structure Constraints where
  allowedActions : Tuple actionsRule Action
  maxNextSpeakers : { n : Int // 1 ≤ n ∧ n ≤ 1 }
  remainingReplies : { n : Int // 1 ≤ n ∧ n ≤ 32 }
  unique : uniqueActions allowedActions.val = .ok ()

theorem actionsRule_all : actionsRule.Accepts Action.all := by
  decide

theorem one_in_range : (1 : Int) ≤ 1 ∧ (1 : Int) ≤ 1 := by
  decide

theorem eight_in_range : (1 : Int) ≤ 8 ∧ (8 : Int) ≤ 32 := by
  decide

theorem uniqueActions_all : uniqueActions Action.all = .ok () := by
  decide

def Constraints.default : Constraints where
  allowedActions := ⟨Action.all, actionsRule_all⟩
  maxNextSpeakers := ⟨1, one_in_range⟩
  remainingReplies := ⟨8, eight_in_range⟩
  unique := uniqueActions_all

def Constraints.record : Record Constraints :=
  (((Record.defaulted "allowed_actions" (Wire.tuple actionsRule Action.wire)
      Constraints.default.allowedActions).and
    ((Record.defaulted "max_next_speakers" (Wire.range 1 1)
        Constraints.default.maxNextSpeakers).and
      (Record.defaulted "remaining_replies" (Wire.range 1 32)
        Constraints.default.remainingReplies))).after
    fun p => uniqueActions p.fst.val).map
    (fun ⟨(allowedActions, maxNextSpeakers, remainingReplies), unique⟩ =>
      ⟨allowedActions, maxNextSpeakers, remainingReplies, unique⟩)
    (fun c => ⟨(c.allowedActions, c.maxNextSpeakers, c.remainingReplies), c.unique⟩)
    fun _ => rfl

structure Snapshot where
  decisionId : Identifier
  contextRef : Identifier
  contextVersion : Revision
  membershipRevision : Revision
  cancellationEpoch : Revision
  deriving DecidableEq

def Snapshot.record : Record Snapshot :=
  ((Record.defaulted "schema_version" (Wire.version 2) ()).and
    ((Record.field "decision_id" (Wire.text identifierRule)).and
      ((Record.field "context_ref" (Wire.text identifierRule)).and
        ((Record.field "context_version" (Wire.integer 0)).and
          ((Record.field "membership_revision" (Wire.integer 0)).and
            (Record.field "cancellation_epoch" (Wire.integer 0))))))).map
    (fun (_, decisionId, contextRef, contextVersion, membershipRevision,
        cancellationEpoch) =>
      ⟨decisionId, contextRef, contextVersion, membershipRevision, cancellationEpoch⟩)
    (fun s => ((), s.decisionId, s.contextRef, s.contextVersion, s.membershipRevision,
      s.cancellationEpoch)) fun _ => rfl

/-- The text a request carries. -/
def contextSize (userRequest trigger : Message) (sceneGoal : PyStr) (context : Context)
    (candidates : List Candidate) : Nat :=
  trigger.text.val.length + context.summary.val.length +
      userRequest.text.val.length + sceneGoal.length +
    (context.recentMessages.val.map fun m => m.text.val.length).sum +
    (context.pendingRequirements.val.map fun t => t.val.length).sum +
    (candidates.map fun c => c.description.val.length + c.displayName.val.length).sum

def validateContext (userRequest trigger : Message) (sceneGoal : PyStr)
    (context : Context) (candidates : List Candidate) : Verdict :=
  if userRequest.authorKind ≠ .user then refuse "USER_REQUEST_MUST_BE_USER"
  else if hasDuplicates (candidates.map Candidate.companionId) then
    refuse "DUPLICATE_CANDIDATE"
  else if 131072 < contextSize userRequest trigger sceneGoal context candidates then
    refuse "CONTEXT_TOO_LARGE"
  else .ok ()

structure DecisionRequest where
  snapshot : Snapshot
  userRequest : Message
  sceneGoal : ConStr (upTo 2000)
  trigger : Message
  context : Context
  candidates : Tuple (atMost 64) Candidate
  constraints : Constraints
  timeoutMs : { n : Int // 1 ≤ n ∧ n ≤ 60000 }
  valid : validateContext userRequest trigger sceneGoal.val context candidates.val =
    .ok ()

def DecisionRequest.fields : Record (Snapshot × Unit × Message × ConStr (upTo 2000) ×
    Message × Context × Tuple (atMost 64) Candidate × Constraints ×
      { n : Int // 1 ≤ n ∧ n ≤ 60000 }) :=
  (Snapshot.record.and
    ((Record.defaulted "task" (Wire.literal "ip_team.participation") ()).and
      ((Record.field "user_request" Message.record.wire).and
        ((Record.defaulted "scene_goal" (Wire.text (upTo 2000)) (noText 2000)).and
          ((Record.field "trigger" Message.record.wire).and
            ((Record.defaulted "context" Context.record.wire {}).and
              ((Record.field "candidates"
                  (Wire.tuple (atMost 64) Candidate.record.wire)).and
                ((Record.defaulted "constraints" Constraints.record.wire
                    Constraints.default).and
                  (Record.field "timeout_ms" (Wire.range 1 60000)))))))))).before
    "schema_version" isInt List.mem_cons_self fun _ _ h => isInt_version h

def DecisionRequest.record : Record DecisionRequest :=
  (DecisionRequest.fields.after
    fun (_, _, userRequest, sceneGoal, trigger, context, candidates, _, _) =>
      validateContext userRequest trigger sceneGoal.val context candidates.val).map
    (fun ⟨(snapshot, _, userRequest, sceneGoal, trigger, context, candidates,
        constraints, timeoutMs), valid⟩ =>
      ⟨snapshot, userRequest, sceneGoal, trigger, context, candidates, constraints,
        timeoutMs, valid⟩)
    (fun r => ⟨(r.snapshot, (), r.userRequest, r.sceneGoal, r.trigger, r.context,
      r.candidates, r.constraints, r.timeoutMs), r.valid⟩) fun _ => rfl

/-!
## The result
-/

def validateAction (action : Action) (participants : List Identifier)
    (instruction : PyStr) : Verdict :=
  if hasDuplicates participants then refuse "DUPLICATE_PARTICIPANT"
  else if action = .clarify ∧ strip instruction = [] then
    refuse "CLARIFICATION_TASK_REQUIRED"
  else if (action = .wait ∨ action = .finish) ∧ instruction ≠ [] then
    refuse "SILENT_ACTION_HAS_NO_SPEAKER_TASK"
  else if action = .respond ∧ participants.length = 0 ∨
      action = .clarify ∧ participants.length ≠ 1 ∨
      (action = .wait ∨ action = .finish) ∧ participants.length ≠ 0 then
    refuse "PARTICIPANTS_DO_NOT_MATCH_ACTION"
  else .ok ()

abbrev Instruction := ConStr (upTo 2000)

structure Proposal where
  action : Action
  participants : Tuple (atMost 1) Identifier
  instruction : Instruction
  valid : validateAction action participants.val instruction.val = .ok ()

def Proposal.fields : Record (Action × Tuple (atMost 1) Identifier × Instruction) :=
  (Record.field "action" Action.wire).and
    ((Record.defaulted "participants" (Wire.tuple (atMost 1) (Wire.text identifierRule))
        (noItems Identifier 1)).and
      (Record.defaulted "instruction" (Wire.text (upTo 2000)) (noText 2000)))

def Proposal.record : Record Proposal :=
  (Proposal.fields.after fun (action, participants, instruction) =>
    validateAction action participants.val instruction.val).map
    (fun ⟨(action, participants, instruction), valid⟩ =>
      ⟨action, participants, instruction, valid⟩)
    (fun p => ⟨(p.action, p.participants, p.instruction), p.valid⟩) fun _ => rfl

def validateStatus (status : Status) (proposal : Option Proposal) : Verdict :=
  if decide (status = .decided) ≠ proposal.isSome then
    refuse "PROPOSAL_DOES_NOT_MATCH_STATUS"
  else .ok ()

structure DecisionResult where
  snapshot : Snapshot
  status : Status
  proposal : Option Proposal
  policyVersion : Identifier
  modelVersion : Identifier
  valid : validateStatus status proposal = .ok ()

def DecisionResult.fields :
    Record (Snapshot × Status × Option Proposal × Identifier × Identifier) :=
  (Snapshot.record.and
    ((Record.field "status" Status.wire).and
      ((Record.defaulted "proposal" Proposal.record.nullable none).and
        ((Record.field "policy_version" (Wire.text identifierRule)).and
          (Record.field "model_version" (Wire.text identifierRule)))))).before
    "schema_version" isInt List.mem_cons_self fun _ _ h => isInt_version h

def DecisionResult.record : Record DecisionResult :=
  (DecisionResult.fields.after fun (_, status, proposal, _, _) =>
    validateStatus status proposal).map
    (fun ⟨(snapshot, status, proposal, policyVersion, modelVersion), valid⟩ =>
      ⟨snapshot, status, proposal, policyVersion, modelVersion, valid⟩)
    (fun r => ⟨(r.snapshot, r.status, r.proposal, r.policyVersion, r.modelVersion),
      r.valid⟩) fun _ => rfl

/-- {lit}`validate_proposal`. -/
def validateProposal (request : DecisionRequest) (result : DecisionResult) : Verdict :=
  if request.snapshot ≠ result.snapshot then refuse "DECISION_SNAPSHOT_MISMATCH"
  else
    match result.proposal with
    | none => .ok ()
    | some proposal =>
        if proposal.action ∉ request.constraints.allowedActions.val then
          refuse "ACTION_NOT_ALLOWED"
        else if ¬ proposal.participants.val ⊆
            request.candidates.val.map Candidate.companionId then
          refuse "PARTICIPANT_OUTSIDE_CANDIDATES"
        else if request.constraints.maxNextSpeakers.val <
            proposal.participants.val.length then
          refuse "TOO_MANY_PARTICIPANTS"
        else .ok ()

/-!
## What a request document says
-/

theorem validateContext_eq_ok {userRequest trigger : Message} {sceneGoal : PyStr}
    {context : Context} {candidates : List Candidate} :
    validateContext userRequest trigger sceneGoal context candidates = .ok () <->
      userRequest.authorKind = .user ∧
        (candidates.map Candidate.companionId).Nodup ∧
        contextSize userRequest trigger sceneGoal context candidates ≤ 131072 := by
  unfold validateContext
  simp only [ite_refuse_eq_ok, not_hasDuplicates, ne_eq, not_not, not_lt, and_true]

section Document

variable (snapshot : Snapshot) (userRequest trigger : Message)
variable (sceneGoal : ConStr (upTo 2000)) (context : Context)
variable (candidates : Tuple (atMost 64) Candidate) (constraints : Constraints)
variable (timeoutMs : { n : Int // 1 ≤ n ∧ n ≤ 60000 })

/-- The document of some fields, whether or not they belong together. -/
def requestDocument : Json :=
  DecisionRequest.fields.dump (snapshot, (), userRequest, sceneGoal, trigger, context,
    candidates, constraints, timeoutMs)

/-- The document of some fields is read exactly when the fields belong together, and
what is read has this document. -/
theorem request_document_iff :
    ((exists request, DecisionRequest.record.validate (requestDocument snapshot
        userRequest trigger sceneGoal context candidates constraints timeoutMs) =
          .ok request) <->
        userRequest.authorKind = .user ∧
          (candidates.val.map Candidate.companionId).Nodup ∧
          contextSize userRequest trigger sceneGoal.val context candidates.val ≤
            131072) ∧
      forall request, DecisionRequest.record.validate (requestDocument snapshot
          userRequest trigger sceneGoal context candidates constraints timeoutMs) =
            .ok request ->
        DecisionRequest.record.dump request = requestDocument snapshot userRequest
          trigger sceneGoal context candidates constraints timeoutMs := by
  rw [← validateContext_eq_ok]
  exact DecisionRequest.fields.document_iff _ _ _ _ (fun _ => rfl)
    (snapshot, (), userRequest, sceneGoal, trigger, context, candidates, constraints,
      timeoutMs)

end Document

/-!
## What a result decides
-/

/-- One step of a conversation. -/
inductive Decision where
  | abstain
  | respond (speaker : Identifier) (task : Instruction)
  | clarify (speaker : Identifier) (task : { t : Instruction // strip t.val ≠ [] })
  | wait
  | finish

theorem validateAction_eq_ok {action : Action} {participants : List Identifier}
    {instruction : PyStr} :
    validateAction action participants instruction = .ok () <->
      participants.Nodup ∧ (action = .clarify -> strip instruction ≠ []) ∧
        (action = .wait ∨ action = .finish -> instruction = []) ∧
        (action = .respond -> participants.length ≠ 0) ∧
        (action = .clarify -> participants.length = 1) ∧
        (action = .wait ∨ action = .finish -> participants.length = 0) := by
  unfold validateAction
  simp only [ite_refuse_eq_ok, not_hasDuplicates, not_and, not_or, ne_eq, not_not,
    and_true]

theorem validateStatus_eq_ok {status : Status} {proposal : Option Proposal} :
    validateStatus status proposal = .ok () <->
      (status = .decided <-> proposal.isSome = true) := by
  unfold validateStatus
  rw [ite_refuse_eq_ok, not_not, Bool.eq_iff_iff, decide_eq_true_iff]
  exact and_iff_left rfl

/-- The parts of a proposal are read as one exactly when the participants and the task
fit the action. -/
theorem proposal_document_iff (action : Action)
    (participants : Tuple (atMost 1) Identifier) (instruction : Instruction) :
    ((exists proposal, Proposal.record.validate
        (Proposal.fields.dump (action, participants, instruction)) = .ok proposal) <->
          participants.val.Nodup ∧ (action = .clarify -> strip instruction.val ≠ []) ∧
            (action = .wait ∨ action = .finish -> instruction.val = []) ∧
            (action = .respond -> participants.val.length ≠ 0) ∧
            (action = .clarify -> participants.val.length = 1) ∧
            (action = .wait ∨ action = .finish -> participants.val.length = 0)) ∧
      forall proposal, Proposal.record.validate
          (Proposal.fields.dump (action, participants, instruction)) = .ok proposal ->
        Proposal.record.dump proposal =
          Proposal.fields.dump (action, participants, instruction) := by
  rw [← validateAction_eq_ok]
  exact Proposal.fields.document_iff _ _ _ _ (fun _ => rfl)
    (action, participants, instruction)

/-- The parts of a result are read as one exactly when it decides with a proposal or
abstains without. -/
theorem result_document_iff (snapshot : Snapshot) (status : Status)
    (proposal : Option Proposal) (policyVersion modelVersion : Identifier) :
    ((exists result, DecisionResult.record.validate (DecisionResult.fields.dump
        (snapshot, status, proposal, policyVersion, modelVersion)) = .ok result) <->
          (status = .decided <-> proposal.isSome = true)) ∧
      forall result, DecisionResult.record.validate (DecisionResult.fields.dump
          (snapshot, status, proposal, policyVersion, modelVersion)) = .ok result ->
        DecisionResult.record.dump result = DecisionResult.fields.dump
          (snapshot, status, proposal, policyVersion, modelVersion) := by
  rw [← validateStatus_eq_ok]
  exact DecisionResult.fields.document_iff _ _ _ _ (fun _ => rfl)
    (snapshot, status, proposal, policyVersion, modelVersion)

theorem one_participant (speaker : Identifier) : (atMost 1).Accepts [speaker] :=
  ⟨Nat.zero_le 1, rfl⟩

theorem valid_respond (speaker : Identifier) (task : PyStr) :
    validateAction .respond [speaker] task = .ok () :=
  validateAction_eq_ok.mpr (by simp)

theorem valid_clarify (speaker : Identifier) {task : PyStr} (h : strip task ≠ []) :
    validateAction .clarify [speaker] task = .ok () :=
  validateAction_eq_ok.mpr (by simp [h])

theorem valid_silent {action : Action} (h : action = .wait ∨ action = .finish) :
    validateAction action [] [] = .ok () := by
  rcases h with rfl | rfl
  · exact validateAction_eq_ok.mpr (by simp)
  · exact validateAction_eq_ok.mpr (by simp)

namespace Decision

/-- An action nobody speaks in. -/
def silent (action : Action) (h : action = .wait ∨ action = .finish) : Proposal :=
  ⟨action, noItems Identifier 1, noText 2000, valid_silent h⟩

def proposal? : Decision -> Option Proposal
  | .abstain => none
  | .respond speaker task => some
      ⟨.respond, ⟨[speaker], one_participant speaker⟩, task, valid_respond speaker task.val⟩
  | .clarify speaker task => some
      ⟨.clarify, ⟨[speaker], one_participant speaker⟩, task.val,
        valid_clarify speaker task.property⟩
  | .wait => some (silent .wait (Or.inl rfl))
  | .finish => some (silent .finish (Or.inr rfl))

def status : Decision -> Status
  | .abstain => .abstained
  | _ => .decided

theorem valid_status (decision : Decision) :
    validateStatus decision.status decision.proposal? = .ok () := by
  cases decision <;> rfl

/-- The result that says so. -/
def result (snapshot : Snapshot) (policyVersion modelVersion : Identifier)
    (decision : Decision) : DecisionResult :=
  ⟨snapshot, decision.status, decision.proposal?, policyVersion, modelVersion,
    decision.valid_status⟩

/-- What an action needs: leave to be taken, and a speaker who was offered. -/
def Permitted (request : DecisionRequest) : Decision -> Prop
  | .abstain => True
  | .respond speaker _ =>
      Action.respond ∈ request.constraints.allowedActions.val ∧
        speaker ∈ request.candidates.val.map Candidate.companionId
  | .clarify speaker _ =>
      Action.clarify ∈ request.constraints.allowedActions.val ∧
        speaker ∈ request.candidates.val.map Candidate.companionId
  | .wait => Action.wait ∈ request.constraints.allowedActions.val
  | .finish => Action.finish ∈ request.constraints.allowedActions.val

theorem proposal?_injective : Function.Injective proposal? := by
  intro d d' h
  cases d with
  | abstain =>
      cases d' with
      | abstain => rfl
      | respond speaker task => cases h
      | clarify speaker task => cases h
      | wait => cases h
      | finish => cases h
  | respond speaker task =>
      cases d' with
      | abstain => cases h
      | respond speaker' task' =>
          cases h
          rfl
      | clarify speaker' task' => cases h
      | wait => cases h
      | finish => cases h
  | clarify speaker task =>
      cases d' with
      | abstain => cases h
      | respond speaker' task' => cases h
      | clarify speaker' task' =>
          rcases task with ⟨task, htask⟩
          rcases task' with ⟨task', htask'⟩
          cases h
          rfl
      | wait => cases h
      | finish => cases h
  | wait =>
      cases d' with
      | abstain => cases h
      | respond speaker' task' => cases h
      | clarify speaker' task' => cases h
      | wait => rfl
      | finish => cases h
  | finish =>
      cases d' with
      | abstain => cases h
      | respond speaker' task' => cases h
      | clarify speaker' task' => cases h
      | wait => cases h
      | finish => rfl

/-- Every proposal is one of the five, and abstaining is none. -/
theorem exists_proposal (proposal : Option Proposal) :
    exists decision : Decision, decision.proposal? = proposal := by
  cases proposal with
  | none => exact ⟨.abstain, rfl⟩
  | some proposal =>
      rcases proposal with ⟨action, ⟨participants, hmost⟩, instruction, hvalid⟩
      rcases validateAction_eq_ok.mp hvalid with
        ⟨_, htask, hsilent, hrespond, hclarify, hnobody⟩
      have hlength : participants.length ≤ 1 := by simpa [atMost] using hmost.right
      cases action with
      | respond =>
          have hone : participants.length = 1 := by
            have hsome : participants.length ≠ 0 := hrespond rfl
            omega
          rcases List.length_eq_one_iff.mp hone with ⟨speaker, rfl⟩
          exact ⟨.respond speaker instruction, rfl⟩
      | clarify =>
          rcases List.length_eq_one_iff.mp (hclarify rfl) with ⟨speaker, rfl⟩
          exact ⟨.clarify speaker ⟨instruction, htask rfl⟩, rfl⟩
      | wait =>
          cases List.length_eq_zero_iff.mp (hnobody (Or.inl rfl))
          rcases instruction with ⟨instruction, haccepts⟩
          cases hsilent (Or.inl rfl)
          exact ⟨.wait, rfl⟩
      | finish =>
          cases List.length_eq_zero_iff.mp (hnobody (Or.inr rfl))
          rcases instruction with ⟨instruction, haccepts⟩
          cases hsilent (Or.inr rfl)
          exact ⟨.finish, rfl⟩

end Decision

/-- The status of a result says no more than its proposal. -/
theorem DecisionResult.eq_of_proposal {r r' : DecisionResult}
    (hsnapshot : r.snapshot = r'.snapshot) (hproposal : r.proposal = r'.proposal)
    (hpolicy : r.policyVersion = r'.policyVersion)
    (hmodel : r.modelVersion = r'.modelVersion) : r = r' := by
  rcases r with ⟨snapshot, status, proposal, policyVersion, modelVersion, hvalid⟩
  rcases r' with ⟨snapshot', status', proposal', policyVersion', modelVersion', hvalid'⟩
  cases hsnapshot
  cases hproposal
  cases hpolicy
  cases hmodel
  have hstatus : status = status' := by
    have hsame := (validateStatus_eq_ok.mp hvalid).trans
      (validateStatus_eq_ok.mp hvalid').symm
    cases status with
    | decided =>
        cases status' with
        | decided => rfl
        | abstained => cases hsame.mp rfl
    | abstained =>
        cases status' with
        | decided => cases hsame.mpr rfl
        | abstained => rfl
  cases hstatus
  rfl

theorem validateProposal_eq_ok {request : DecisionRequest} {result : DecisionResult} :
    validateProposal request result = .ok () <->
      request.snapshot = result.snapshot ∧
        forall proposal, result.proposal = some proposal ->
          proposal.action ∈ request.constraints.allowedActions.val ∧
            proposal.participants.val ⊆
              request.candidates.val.map Candidate.companionId := by
  unfold validateProposal
  rw [ite_refuse_eq_ok, not_not]
  refine and_congr_right fun _ => ?_
  cases result.proposal with
  | none => exact iff_of_true rfl nofun
  | some proposal =>
      have hfew : ¬ request.constraints.maxNextSpeakers.val <
          proposal.participants.val.length := by
        have hleast := request.constraints.maxNextSpeakers.property.left
        have hmost := proposal.participants.property.right
        have hlength : proposal.participants.val.length ≤ 1 := by
          simpa [atMost] using hmost
        omega
      simp only [ite_refuse_eq_ok, not_not, hfew, not_false_eq_true, and_true,
        Option.some.injEq, forall_eq']

/-- What {lit}`validate_proposal` says of a decision. -/
theorem validateProposal_result {request : DecisionRequest} {snapshot : Snapshot}
    {policyVersion modelVersion : Identifier} {decision : Decision} :
    validateProposal request (decision.result snapshot policyVersion modelVersion) =
        .ok () <->
      request.snapshot = snapshot ∧ decision.Permitted request := by
  rw [validateProposal_eq_ok]
  refine and_congr_right fun _ => ?_
  show (forall proposal, decision.proposal? = some proposal -> _) <-> _
  cases decision with
  | abstain => exact iff_of_true nofun trivial
  | respond speaker task => simp [Decision.proposal?, Decision.Permitted]
  | clarify speaker task => simp [Decision.proposal?, Decision.Permitted]
  | wait => simp [Decision.proposal?, Decision.silent, Decision.Permitted, noItems]
  | finish => simp [Decision.proposal?, Decision.silent, Decision.Permitted, noItems]

/-- The ways a proposal is turned down. -/
theorem validateProposal_error {request : DecisionRequest} {result : DecisionResult}
    {text : PyStr} (h : validateProposal request result = .error text) :
    text = str "DECISION_SNAPSHOT_MISMATCH" ∨ text = str "ACTION_NOT_ALLOWED" ∨
      text = str "PARTICIPANT_OUTSIDE_CANDIDATES" := by
  have hone : request.constraints.maxNextSpeakers.val = 1 :=
    le_antisymm request.constraints.maxNextSpeakers.property.right
      request.constraints.maxNextSpeakers.property.left
  unfold validateProposal at h
  split at h
  · exact Or.inl (Except.error.inj h).symm
  · split at h
    · cases h
    · rename_i proposal _
      have hlength : proposal.participants.val.length ≤ 1 := by
        simpa [atMost] using proposal.participants.property.right
      split at h
      · exact Or.inr (Or.inl (Except.error.inj h).symm)
      · split at h
        · exact Or.inr (Or.inr (Except.error.inj h).symm)
        · rw [if_neg (by omega)] at h
          cases h

/-- A result is one decision, and it passes exactly when it answers the snapshot of
the request with a decision the request permits. -/
theorem result_is_decision (request : DecisionRequest) (result : DecisionResult) :
    exists decision : Decision,
      (forall decision', result = decision'.result result.snapshot
          result.policyVersion result.modelVersion <-> decision' = decision) ∧
        (validateProposal request result = .ok () <->
          request.snapshot = result.snapshot ∧ decision.Permitted request) ∧
        forall text, validateProposal request result = .error text ->
          text = str "DECISION_SNAPSHOT_MISMATCH" ∨ text = str "ACTION_NOT_ALLOWED" ∨
            text = str "PARTICIPANT_OUTSIDE_CANDIDATES" := by
  rcases Decision.exists_proposal result.proposal with ⟨decision, hdecision⟩
  have hresult : result = decision.result result.snapshot result.policyVersion
      result.modelVersion :=
    DecisionResult.eq_of_proposal rfl hdecision.symm rfl rfl
  refine ⟨decision, fun decision' => ⟨fun h => ?_, ?_⟩, ?_, fun text =>
    validateProposal_error⟩
  · apply Decision.proposal?_injective
    rw [hdecision]
    exact (congrArg DecisionResult.proposal h).symm
  · intro heq
    rcases heq with rfl
    exact hresult
  · have hpasses := @validateProposal_result request result.snapshot
      result.policyVersion result.modelVersion decision
    rw [← hresult] at hpasses
    exact hpasses

end Participation
end EidolonSdk
