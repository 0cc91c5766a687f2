import EidolonSdk.Pydantic.Records
import EidolonSdk.Python.JsonRoundTrip
import EidolonSdk.Python.JsonSize
import EidolonSdk.Smarthome.Vocabulary

/-!
# What an utterance asks for

An interpretation request offers candidates and the areas they are in; a proposal
names targets among the candidates.  The areas and candidates of a request refer
to each other, so a target that passes leads to one candidate and its room.
-/

namespace EidolonSdk
namespace Interpretation

open Python Pydantic

/-!
## Values
-/

inductive Intent where
  | control
  | query
  | unrelated
  deriving DecidableEq

def Intent.all : List Intent := [.control, .query, .unrelated]

def Intent.word : Intent -> String
  | .control => "control"
  | .query => "query"
  | .unrelated => "unrelated"

def Intent.wire : Wire Intent :=
  Wire.word all word (fun a => by cases a <;> decide) (by decide)

inductive TargetStatus where
  | resolved
  | ambiguous
  | none
  deriving DecidableEq

def TargetStatus.all : List TargetStatus := [.resolved, .ambiguous, .none]

def TargetStatus.word : TargetStatus -> String
  | .resolved => "resolved"
  | .ambiguous => "ambiguous"
  | .none => "none"

def TargetStatus.wire : Wire TargetStatus :=
  Wire.word all word (fun a => by cases a <;> decide) (by decide)

inductive Status where
  | decided
  | abstained
  deriving DecidableEq

def Status.all : List Status := [.decided, .abstained]

def Status.word : Status -> String
  | .decided => "decided"
  | .abstained => "abstained"

def Status.wire : Wire Status :=
  Wire.word all word (fun a => by cases a <;> decide) (by decide)

/-- At most so many characters, one of them {lit}`\S`. -/
def saying (most : Nat) : StrRule :=
  { minLength := 1, maxLength := some most,
    pattern := fun s => s.any fun c => !Smarthome.isWhiteSpace c }

abbrev Identifier := ConStr (saying 128)

abbrev Name := ConStr (saying 64)

def identifier : Wire Identifier :=
  Wire.text (saying 128)

def optionalIdentifier : Wire (Option Identifier) :=
  identifier.nullable fun _ => rfl

def optionalText (most : Nat) : Wire (Option (ConStr (upTo most))) :=
  (Wire.text (upTo most)).nullable fun _ => rfl

/-!
## The request
-/

structure Candidate where
  ref : Identifier
  name : Name
  aliases : Tuple (atMost 8) Name
  kind : Identifier
  areaId : Option Identifier

def Candidate.record : Record Candidate :=
  ((Record.field "ref" identifier).and
    ((Record.field "name" (Wire.text (saying 64))).and
      ((Record.defaulted "aliases" (Wire.tuple (atMost 8) (Wire.text (saying 64)))
          (noItems Name 8)).and
        ((Record.field "kind" identifier).and
          (Record.defaulted "area_id" optionalIdentifier none))))).map
    (fun (ref, name, aliases, kind, areaId) => ⟨ref, name, aliases, kind, areaId⟩)
    (fun c => (c.ref, c.name, c.aliases, c.kind, c.areaId)) fun _ => rfl

structure Area where
  areaId : Identifier
  name : Name

def Area.record : Record Area :=
  ((Record.field "area_id" identifier).and
    (Record.field "name" (Wire.text (saying 64)))).map
    (fun (areaId, name) => ⟨areaId, name⟩) (fun a => (a.areaId, a.name)) fun _ => rfl

structure Origin where
  deviceRef : Option Identifier := none
  areaId : Option Identifier := none

def Origin.record : Record Origin :=
  ((Record.defaulted "device_ref" optionalIdentifier none).and
    (Record.defaulted "area_id" optionalIdentifier none)).map
    (fun (deviceRef, areaId) => ⟨deviceRef, areaId⟩)
    (fun o => (o.deviceRef, o.areaId)) fun _ => rfl

/-- How many levels of lists and objects a value has, its scalars being one more. -/
def nesting : Json -> Nat
  | .array items => ofItems items + 1
  | .object members => ofMembers members + 1
  | _ => 1
where
  ofItems : List Json -> Nat
    | [] => 0
    | v :: rest => max (nesting v) (ofItems rest)
  ofMembers : Members -> Nat
    | [] => 0
    | (_, v) :: rest => max (nesting v) (ofMembers rest)

/-- An object of values that are followed no deeper than 255 levels. -/
abbrev Facts := { members : Members // nesting.ofMembers members ≤ 255 }

/-- {lit}`dict[str, JsonValue]`. -/
def facts : Wire Facts where
  dump f := .object f.val
  validate
    | .object members =>
        if h : nesting.ofMembers members ≤ 255 then .ok ⟨members, h⟩
        else .error .invalid
    | _ => .error .invalid
  validate_dump f := dif_pos f.property

/-- {lit}`Field(min_length=1, max_length=3)`. -/
def intentsRule : LengthRule :=
  { least := 1, most := some 3 }

theorem intentsRule_all : intentsRule.Accepts Intent.all := by
  decide

def allIntents : Tuple intentsRule Intent :=
  ⟨Intent.all, intentsRule_all⟩

/-- {lit}`Field(strict=True, min_length=1, max_length=512)`. -/
def utteranceRule : StrRule :=
  { minLength := 1, maxLength := some 512 }

section Request

variable (I : Interpreter)

/-- {lit}`ensure_ascii=False`. -/
def contextStyle : Json.Style :=
  ⟨.utf8, I.floatRepr, true⟩

def contextText (context : Facts) : PyStr :=
  (contextStyle I).text (.object context.val)

/-- The text of the {lit}`UnicodeEncodeError`; it names the first surrogates. -/
def surrogatesNotAllowed (text : PyStr) : PyStr :=
  let front := text.takeWhile fun c => !decide (Surrogate c)
  let run := (text.drop front.length).takeWhile fun c => decide (Surrogate c)
  match run with
  | [c] =>
      str "'utf-8' codec can't encode character '\\u" ++ Json.hexText 4 c.val ++
        str "' in position " ++ intText front.length ++ str ": surrogates not allowed"
  | _ =>
      str "'utf-8' codec can't encode characters in position " ++
        intText front.length ++ str "-" ++ intText (front.length + run.length - 1) ++
        str ": surrogates not allowed"

/-- {lit}`len(json.dumps(context, ensure_ascii=False).encode())`, or the text of its
{lit}`ValueError`. -/
def contextSize (context : Facts) : Except PyStr Nat :=
  match (contextStyle I).dumps (.object context.val) with
  | .error _ =>
      .error (str ("Exceeds the limit (4300 digits) for integer string conversion; " ++
        "use sys.set_int_max_str_digits() to increase the limit"))
  | .ok text =>
      match encodeUtf8 text with
      | none => .error (surrogatesNotAllowed text)
      | some bytes => .ok bytes.length

def checkContext : Option Facts -> Verdict
  | none => .ok ()
  | some facts => do
      let size ← contextSize I facts
      if 16384 < size then refuse "CONTEXT_TOO_LARGE" else .ok ()

/-- A room that is named but not among the areas. -/
def unknownArea (areas : List Area) (areaId : Option Identifier) : Prop :=
  exists id, id ∈ areaId ∧ id ∉ areas.map Area.areaId

instance (areas : List Area) (areaId : Option Identifier) :
    Decidable (unknownArea areas areaId) :=
  inferInstanceAs (Decidable (exists id, id ∈ areaId ∧ _))

def validateRequest (context : Option Facts) (candidates : List Candidate)
    (areas : List Area) (origin : Origin) (allowedIntents : List Intent) : Verdict := do
  checkContext I context
  if hasDuplicates (candidates.map Candidate.ref) then refuse "DUPLICATE_CANDIDATE"
  else if hasDuplicates (areas.map Area.areaId) then refuse "DUPLICATE_AREA"
  else if exists candidate, candidate ∈ candidates ∧
      unknownArea areas candidate.areaId then
    refuse "CANDIDATE_AREA_UNKNOWN"
  else if unknownArea areas origin.areaId then refuse "ORIGIN_AREA_UNKNOWN"
  else if hasDuplicates allowedIntents then refuse "DUPLICATE_ALLOWED_INTENT"
  else .ok ()

structure InterpretationRequest where
  interpretationId : Identifier
  utterance : ConStr utteranceRule
  origin : Origin
  candidates : Tuple (atMost 256) Candidate
  areas : Tuple (atMost 64) Area
  allowedIntents : Tuple intentsRule Intent
  timeoutMs : { n : Int // 1 ≤ n ∧ n ≤ 10000 }
  context : Option Facts
  valid : validateRequest I context candidates.val areas.val origin allowedIntents.val =
    .ok ()

def requestFields : Record (Unit × Identifier × Unit × ConStr utteranceRule × Origin ×
    Tuple (atMost 256) Candidate × Tuple (atMost 64) Area × Tuple intentsRule Intent ×
      { n : Int // 1 ≤ n ∧ n ≤ 10000 } × Option Facts) :=
  ((Record.defaulted "schema_version" (Wire.version 1) ()).and
    ((Record.field "interpretation_id" identifier).and
      ((Record.field "domain" (Wire.literal "smarthome")).and
        ((Record.field "utterance" (Wire.text utteranceRule)).and
          ((Record.defaulted "origin" Origin.record.wire {}).and
            ((Record.field "candidates"
                (Wire.tuple (atMost 256) Candidate.record.wire)).and
              ((Record.defaulted "areas" (Wire.tuple (atMost 64) Area.record.wire)
                  (noItems Area 64)).and
                ((Record.defaulted "allowed_intents"
                    (Wire.tuple intentsRule Intent.wire) allIntents).and
                  ((Record.field "timeout_ms" (Wire.range 1 10000)).and
                    (Record.defaulted "context" (facts.nullable fun _ => rfl)
                      none)))))))))).before
    "schema_version" isInt List.mem_cons_self fun _ _ h => isInt_version h

def InterpretationRequest.record : Record (InterpretationRequest I) :=
  (requestFields.after
    fun (_, _, _, _, origin, candidates, areas, allowedIntents, _, context) =>
      validateRequest I context candidates.val areas.val origin allowedIntents.val).map
    (fun ⟨(_, interpretationId, _, utterance, origin, candidates, areas, allowedIntents,
        timeoutMs, context), valid⟩ =>
      ⟨interpretationId, utterance, origin, candidates, areas, allowedIntents, timeoutMs,
        context, valid⟩)
    (fun r => ⟨((), r.interpretationId, (), r.utterance, r.origin, r.candidates, r.areas,
      r.allowedIntents, r.timeoutMs, r.context), r.valid⟩) fun _ => rfl

end Request

/-!
## The result
-/

/-- {lit}`bool | int | float | str`. -/
def isScalarValue : Json -> Bool
  | .bool _ => true
  | .int _ => true
  | .float _ => true
  | .str _ => true
  | _ => false

abbrev Scalar := { v : Json // isScalarValue v = true }

def scalar : Wire Scalar where
  dump v := v.val
  validate v := if h : isScalarValue v = true then .ok ⟨v, h⟩ else .error .invalid
  validate_dump v := dif_pos v.property

structure Slot where
  name : Identifier
  value : Scalar
  unit : Option (ConStr (upTo 16))
  rawSpan : Option (ConStr (upTo 64))

def Slot.record : Record Slot :=
  ((Record.field "name" identifier).and
    ((Record.field "value" scalar).and
      ((Record.defaulted "unit" (optionalText 16) none).and
        (Record.defaulted "raw_span" (optionalText 64) none)))).map
    (fun (name, value, unit, rawSpan) => ⟨name, value, unit, rawSpan⟩)
    (fun s => (s.name, s.value, s.unit, s.rawSpan)) fun _ => rfl

structure Action where
  trait : Identifier
  command : Identifier
  slots : Tuple (atMost 8) Slot

def Action.record : Record Action :=
  ((Record.field "trait" identifier).and
    ((Record.field "command" identifier).and
      (Record.defaulted "slots" (Wire.tuple (atMost 8) Slot.record.wire)
        (noItems Slot 8)))).map
    (fun (trait, command, slots) => ⟨trait, command, slots⟩)
    (fun a => (a.trait, a.command, a.slots)) fun _ => rfl

def validateShape (intent : Intent) (targetStatus : TargetStatus)
    (targets : List Identifier) (action : Option Action)
    (mention : Option (ConStr (upTo 32))) : Verdict :=
  if hasDuplicates targets then refuse "DUPLICATE_TARGET"
  else if intent = .unrelated then
    -- An empty mention counts as none here.
    if targetStatus ≠ .none ∨ targets.length ≠ 0 ∨ action.isSome ∨
        (mention.any fun m => !m.val.isEmpty) then
      refuse "UNRELATED_CARRIES_TARGET"
    else .ok ()
  else if targetStatus = .resolved ∧ targets.length = 0 then
    refuse "RESOLVED_WITHOUT_TARGET"
  else if targetStatus = .ambiguous ∧ targets.length < 2 then
    refuse "AMBIGUOUS_NEEDS_CANDIDATES"
  else if targetStatus = .none ∧ targets.length ≠ 0 then refuse "NONE_CARRIES_TARGET"
  else if mention.isSome ∧ targetStatus ≠ .none then refuse "MENTION_ONLY_WHEN_NONE"
  else if intent = .control ∧ action.isNone then refuse "CONTROL_WITHOUT_ACTION"
  else .ok ()

structure Proposal where
  intent : Intent
  targetStatus : TargetStatus
  targets : Tuple (atMost 64) Identifier
  action : Option Action
  mention : Option (ConStr (upTo 32))
  valid : validateShape intent targetStatus targets.val action mention = .ok ()

def Proposal.fields : Record (Intent × TargetStatus × Tuple (atMost 64) Identifier ×
    Option Action × Option (ConStr (upTo 32))) :=
  (Record.field "intent" Intent.wire).and
    ((Record.field "target_status" TargetStatus.wire).and
      ((Record.defaulted "targets" (Wire.tuple (atMost 64) identifier)
          (noItems Identifier 64)).and
        ((Record.defaulted "action" Action.record.nullable none).and
          (Record.defaulted "mention" (optionalText 32) none))))

def Proposal.record : Record Proposal :=
  (Proposal.fields.after fun (intent, targetStatus, targets, action, mention) =>
    validateShape intent targetStatus targets.val action mention).map
    (fun ⟨(intent, targetStatus, targets, action, mention), valid⟩ =>
      ⟨intent, targetStatus, targets, action, mention, valid⟩)
    (fun p => ⟨(p.intent, p.targetStatus, p.targets, p.action, p.mention), p.valid⟩)
    fun _ => rfl

/-- {lit}`dict[str, bool | int | float | str]` with at most 16 entries. -/
def areDiagnostics (members : Members) : Bool :=
  decide (members.length ≤ 16) && members.all fun m => isScalarValue m.snd

abbrev Diagnostics := { members : Members // areDiagnostics members = true }

def diagnostics : Wire Diagnostics where
  dump d := .object d.val
  validate
    | .object members =>
        if h : areDiagnostics members = true then .ok ⟨members, h⟩ else .error .invalid
    | _ => .error .invalid
  validate_dump d := dif_pos d.property

theorem areDiagnostics_nil : areDiagnostics [] = true := rfl

def validateStatus (status : Status) (proposal : Option Proposal) : Verdict :=
  if decide (status = .decided) ≠ proposal.isSome then
    refuse "PROPOSAL_DOES_NOT_MATCH_STATUS"
  else .ok ()

structure InterpretationResult where
  interpretationId : Identifier
  status : Status
  proposal : Option Proposal
  policyVersion : Identifier
  modelVersion : Identifier
  diagnostics : Diagnostics
  valid : validateStatus status proposal = .ok ()

/-- What passes for the version of a result is not looked at first. -/
structure LaxVersion where
  accepts : Json -> Bool
  one : accepts (.int 1) = true

def LaxVersion.wire (lax : LaxVersion) : Wire Unit where
  dump _ := .int 1
  validate v := if lax.accepts v = true then .ok () else .error .invalid
  validate_dump _ := if_pos lax.one

def InterpretationResult.fields (lax : LaxVersion) :
    Record (Unit × Identifier × Status × Option Proposal × Identifier × Identifier ×
      Diagnostics) :=
  (Record.defaulted "schema_version" lax.wire ()).and
    ((Record.field "interpretation_id" identifier).and
      ((Record.field "status" Status.wire).and
        ((Record.defaulted "proposal" Proposal.record.nullable none).and
          ((Record.field "policy_version" identifier).and
            ((Record.field "model_version" identifier).and
              (Record.defaulted "diagnostics" Interpretation.diagnostics
                ⟨[], areDiagnostics_nil⟩))))))

def InterpretationResult.record (lax : LaxVersion) : Record InterpretationResult :=
  ((InterpretationResult.fields lax).after fun (_, _, status, proposal, _, _, _) =>
    validateStatus status proposal).map
    (fun ⟨(_, interpretationId, status, proposal, policyVersion, modelVersion,
        diagnostics), valid⟩ =>
      ⟨interpretationId, status, proposal, policyVersion, modelVersion, diagnostics,
        valid⟩)
    (fun r => ⟨((), r.interpretationId, r.status, r.proposal, r.policyVersion,
      r.modelVersion, r.diagnostics), r.valid⟩) fun _ => rfl

/-- {lit}`validate_proposal`. -/
def validateProposal {I : Interpreter} (request : InterpretationRequest I)
    (result : InterpretationResult) : Verdict :=
  if result.interpretationId ≠ request.interpretationId then
    refuse "INTERPRETATION_ID_MISMATCH"
  else
    match result.proposal with
    | none => .ok ()
    | some proposal =>
        if proposal.intent ∉ request.allowedIntents.val then refuse "INTENT_NOT_ALLOWED"
        else if ¬ proposal.targets.val ⊆ request.candidates.val.map Candidate.ref then
          refuse "TARGET_OUTSIDE_CANDIDATES"
        else .ok ()

/-!
## What a request document says
-/

section Accepted

variable {I : Interpreter}

/-- What the parts of a request have to do with each other. -/
structure Together (I : Interpreter) (context : Option Facts)
    (candidates : List Candidate) (areas : List Area) (origin : Origin)
    (allowedIntents : List Intent) : Prop where
  contextWritten : forall facts, facts ∈ context ->
    (Json.object facts.val).all Json.shortInteger = true ∧
      Json.EncodableValue (.object facts.val)
  contextFits : forall facts, facts ∈ context -> utf8Length (contextText I facts) ≤ 16384
  refs : (candidates.map Candidate.ref).Nodup
  areaIds : (areas.map Area.areaId).Nodup
  candidateArea : forall candidate, candidate ∈ candidates ->
    forall id, id ∈ candidate.areaId -> id ∈ areas.map Area.areaId
  originArea : forall id, id ∈ origin.areaId -> id ∈ areas.map Area.areaId
  intents : allowedIntents.Nodup

theorem not_unknownArea {areas : List Area} {areaId : Option Identifier} :
    ¬ unknownArea areas areaId <->
      forall id, id ∈ areaId -> id ∈ areas.map Area.areaId := by
  unfold unknownArea
  simp only [not_exists, not_and, not_not]

theorem contextSize_eq_ok {context : Facts} {size : Nat} :
    contextSize I context = .ok size <->
      ((Json.object context.val).all Json.shortInteger = true ∧
        Json.EncodableValue (.object context.val)) ∧
          utf8Length (contextText I context) = size := by
  have hcarried : Encodable (contextText I context) <->
      Json.EncodableValue (.object context.val) :=
    Json.Style.encodable_text rfl
  unfold contextSize Json.Style.dumps
  cases (Json.object context.val).all Json.shortInteger with
  | false => exact iff_of_false nofun fun h => Bool.false_ne_true h.left.left
  | true =>
      show (match encodeUtf8 (contextText I context) with
        | none => Except.error (surrogatesNotAllowed (contextText I context))
        | some bytes => Except.ok bytes.length) = _ <-> _
      rw [← hcarried]
      by_cases h : Encodable (contextText I context)
      · rw [encodeUtf8_of_encodable h]
        exact ⟨fun hsize => ⟨⟨rfl, h⟩, Except.ok.inj hsize⟩,
          fun hsize => congrArg Except.ok hsize.right⟩
      · rw [encodeUtf8_eq_none.mpr h]
        exact iff_of_false nofun fun hsize => h hsize.left.right

theorem checkContext_eq_ok {context : Option Facts} :
    checkContext I context = .ok () <->
      (forall facts, facts ∈ context ->
        (Json.object facts.val).all Json.shortInteger = true ∧
          Json.EncodableValue (.object facts.val)) ∧
        forall facts, facts ∈ context -> utf8Length (contextText I facts) ≤ 16384 := by
  cases context with
  | none => exact iff_of_true rfl ⟨nofun, nofun⟩
  | some facts =>
      simp only [Option.mem_def, Option.some.injEq, forall_eq']
      constructor
      · intro h
        rcases Logic.bind_eq_ok.mp h with ⟨size, hsize, hfits⟩
        rcases contextSize_eq_ok.mp hsize with ⟨hwritten, heq⟩
        rw [heq]
        exact ⟨hwritten, not_lt.mp (ite_refuse_eq_ok.mp hfits).left⟩
      · intro hparts
        rcases hparts with ⟨hwritten, hfits⟩
        show contextSize I facts >>= _ = _
        rw [contextSize_eq_ok.mpr ⟨hwritten, rfl⟩]
        exact ite_refuse_eq_ok.mpr ⟨not_lt.mpr hfits, rfl⟩

theorem validateRequest_eq_ok {context : Option Facts} {candidates : List Candidate}
    {areas : List Area} {origin : Origin} {allowedIntents : List Intent} :
    validateRequest I context candidates areas origin allowedIntents = .ok () <->
      Together I context candidates areas origin allowedIntents := by
  have hchecks : validateRequest I context candidates areas origin allowedIntents =
      .ok () <-> checkContext I context = .ok () ∧
        (candidates.map Candidate.ref).Nodup ∧ (areas.map Area.areaId).Nodup ∧
        (forall candidate, candidate ∈ candidates ->
          forall id, id ∈ candidate.areaId -> id ∈ areas.map Area.areaId) ∧
        (forall id, id ∈ origin.areaId -> id ∈ areas.map Area.areaId) ∧
        allowedIntents.Nodup := by
    unfold validateRequest
    cases checkContext I context with
    | error text => exact iff_of_false nofun nofun
    | ok u =>
        rw [Logic.ok_bind]
        simp only [ite_refuse_eq_ok, not_hasDuplicates, not_exists, not_and,
          not_unknownArea, and_true, true_and]
  rw [hchecks, checkContext_eq_ok]
  constructor
  · intro h
    rcases h with ⟨⟨hwritten, hfits⟩, hrefs, hareas, hcandidates, horigin, hintents⟩
    exact ⟨hwritten, hfits, hrefs, hareas, hcandidates, horigin, hintents⟩
  · intro h
    rcases h with ⟨hwritten, hfits, hrefs, hareas, hcandidates, horigin, hintents⟩
    exact ⟨⟨hwritten, hfits⟩, hrefs, hareas, hcandidates, horigin, hintents⟩

variable (I) (interpretationId : Identifier) (utterance : ConStr utteranceRule)
variable (origin : Origin) (candidates : Tuple (atMost 256) Candidate)
variable (areas : Tuple (atMost 64) Area) (allowedIntents : Tuple intentsRule Intent)
variable (timeoutMs : { n : Int // 1 ≤ n ∧ n ≤ 10000 }) (context : Option Facts)

/-- The document of some fields, whether or not they belong together. -/
def requestDocument : Json :=
  requestFields.dump ((), interpretationId, (), utterance, origin, candidates, areas,
    allowedIntents, timeoutMs, context)

/-- The document of some fields is read exactly when the fields belong together, and
what is read has this document. -/
theorem interpretation_document_iff :
    ((exists request, (InterpretationRequest.record I).validate
        (requestDocument interpretationId utterance origin candidates areas
          allowedIntents timeoutMs context) = .ok request) <->
        Together I context candidates.val areas.val origin allowedIntents.val) ∧
      forall request, (InterpretationRequest.record I).validate
          (requestDocument interpretationId utterance origin candidates areas
            allowedIntents timeoutMs context) = .ok request ->
        (InterpretationRequest.record I).dump request =
          requestDocument interpretationId utterance origin candidates areas
            allowedIntents timeoutMs context := by
  rw [← validateRequest_eq_ok]
  exact requestFields.document_iff _ _ _ _ (fun _ => rfl)
    ((), interpretationId, (), utterance, origin, candidates, areas, allowedIntents,
      timeoutMs, context)

end Accepted

/-!
## What a proposal says
-/

/-- The parts of a proposal fit its intent and its status. -/
structure Coherent (intent : Intent) (targetStatus : TargetStatus)
    (targets : List Identifier) (action : Option Action)
    (mention : Option (ConStr (upTo 32))) : Prop where
  distinct : targets.Nodup
  unrelated : intent = .unrelated -> targetStatus = .none ∧ action = none ∧
    forall m, m ∈ mention -> m.val = []
  resolved : targetStatus = .resolved -> targets ≠ []
  ambiguous : targetStatus = .ambiguous -> 2 ≤ targets.length
  nothing : targetStatus = .none -> targets = []
  mentions : mention.isSome = true -> targetStatus = .none
  control : intent = .control -> action.isSome = true

theorem says_nothing_iff {mention : Option (ConStr (upTo 32))} :
    ¬ (mention.any fun m => !m.val.isEmpty) = true <->
      forall m, m ∈ mention -> m.val = [] := by
  cases mention with
  | none => exact iff_of_true Bool.false_ne_true nofun
  | some m =>
      rw [Option.any_some, Bool.not_eq_true', Bool.not_eq_false, List.isEmpty_iff]
      exact ⟨fun h m' hm => Option.some.inj hm ▸ h, fun h => h m rfl⟩

theorem validateShape_unrelated {targetStatus : TargetStatus}
    {targets : List Identifier} {action : Option Action}
    {mention : Option (ConStr (upTo 32))} :
    validateShape .unrelated targetStatus targets action mention = .ok () <->
      targets.Nodup ∧ targetStatus = .none ∧ targets = [] ∧ action = none ∧
        forall m, m ∈ mention -> m.val = [] := by
  unfold validateShape
  rw [ite_refuse_eq_ok, not_hasDuplicates, if_pos rfl, ite_refuse_eq_ok, not_or, not_or,
    not_or, says_nothing_iff]
  simp only [ne_eq, not_not, List.length_eq_zero_iff, Bool.not_eq_true,
    Option.isSome_eq_false_iff, Option.isNone_iff_eq_none, and_true]

theorem validateShape_related {intent : Intent} (hintent : intent ≠ .unrelated)
    {targetStatus : TargetStatus} {targets : List Identifier} {action : Option Action}
    {mention : Option (ConStr (upTo 32))} :
    validateShape intent targetStatus targets action mention = .ok () <->
      targets.Nodup ∧ (targetStatus = .resolved -> targets ≠ []) ∧
        (targetStatus = .ambiguous -> 2 ≤ targets.length) ∧
        (targetStatus = .none -> targets = []) ∧
        (mention.isSome = true -> targetStatus = .none) ∧
        (intent = .control -> action.isSome = true) := by
  unfold validateShape
  rw [ite_refuse_eq_ok, not_hasDuplicates, if_neg hintent]
  simp only [ite_refuse_eq_ok, not_and, ne_eq, not_not, List.length_eq_zero_iff, not_lt,
    Bool.not_eq_true, Option.isNone_eq_false_iff, and_true]

theorem validateShape_eq_ok {intent : Intent} {targetStatus : TargetStatus}
    {targets : List Identifier} {action : Option Action}
    {mention : Option (ConStr (upTo 32))} :
    validateShape intent targetStatus targets action mention = .ok () <->
      Coherent intent targetStatus targets action mention := by
  by_cases hintent : intent = .unrelated
  · cases hintent
    rw [validateShape_unrelated]
    constructor
    · intro hparts
      rcases hparts with ⟨hnodup, rfl, htargets, haction, hmention⟩
      exact ⟨hnodup, fun _ => ⟨rfl, haction, hmention⟩, nofun, nofun, fun _ => htargets,
        fun _ => rfl, nofun⟩
    · intro h
      rcases h.unrelated rfl with ⟨hstatus, haction, hmention⟩
      exact ⟨h.distinct, hstatus, h.nothing hstatus, haction, hmention⟩
  · rw [validateShape_related hintent]
    constructor
    · intro hparts
      rcases hparts with ⟨hnodup, hresolved, hambiguous, hnothing, hmention, hcontrol⟩
      exact ⟨hnodup, fun heq => absurd heq hintent, hresolved, hambiguous, hnothing,
        hmention, hcontrol⟩
    · intro h
      exact ⟨h.distinct, h.resolved, h.ambiguous, h.nothing, h.mentions, h.control⟩

/-- The parts of a proposal are read as one exactly when they fit each other. -/
theorem proposal_document_iff (intent : Intent) (targetStatus : TargetStatus)
    (targets : Tuple (atMost 64) Identifier) (action : Option Action)
    (mention : Option (ConStr (upTo 32))) :
    ((exists proposal, Proposal.record.validate (Proposal.fields.dump
        (intent, targetStatus, targets, action, mention)) = .ok proposal) <->
          Coherent intent targetStatus targets.val action mention) ∧
      forall proposal, Proposal.record.validate (Proposal.fields.dump
          (intent, targetStatus, targets, action, mention)) = .ok proposal ->
        Proposal.record.dump proposal =
          Proposal.fields.dump (intent, targetStatus, targets, action, mention) := by
  rw [← validateShape_eq_ok]
  exact Proposal.fields.document_iff _ _ _ _ (fun _ => rfl)
    (intent, targetStatus, targets, action, mention)

/-- The parts of a result are read as one exactly when it decides with a proposal or
abstains without. -/
theorem result_document_iff (lax : LaxVersion) (interpretationId : Identifier)
    (status : Status) (proposal : Option Proposal)
    (policyVersion modelVersion : Identifier) (diagnostics : Diagnostics) :
    ((exists result, (InterpretationResult.record lax).validate
        ((InterpretationResult.fields lax).dump ((), interpretationId, status, proposal,
          policyVersion, modelVersion, diagnostics)) = .ok result) <->
            (status = .decided <-> proposal.isSome = true)) ∧
      forall result, (InterpretationResult.record lax).validate
          ((InterpretationResult.fields lax).dump ((), interpretationId, status,
            proposal, policyVersion, modelVersion, diagnostics)) = .ok result ->
        (InterpretationResult.record lax).dump result =
          (InterpretationResult.fields lax).dump ((), interpretationId, status,
            proposal, policyVersion, modelVersion, diagnostics) := by
  have hstatus : validateStatus status proposal = .ok () <->
      (status = .decided <-> proposal.isSome = true) := by
    unfold validateStatus
    rw [ite_refuse_eq_ok, not_not, Bool.eq_iff_iff, decide_eq_true_iff]
    exact and_iff_left rfl
  rw [← hstatus]
  exact (InterpretationResult.fields lax).document_iff _ _ _ _ (fun _ => rfl)
    ((), interpretationId, status, proposal, policyVersion, modelVersion, diagnostics)

/-!
## What a target leads to
-/

theorem existsUnique_of_nodup_map {α β : Type} {f : α -> β} {items : List α}
    (h : (items.map f).Nodup) {b : β} (hb : b ∈ items.map f) :
    ∃! a, a ∈ items ∧ f a = b := by
  rcases List.mem_map.mp hb with ⟨a, ha, hfa⟩
  refine ⟨a, ⟨ha, hfa⟩, ?_⟩
  intro a' hparts
  rcases hparts with ⟨ha', hfa'⟩
  exact List.inj_on_of_nodup_map h ha' ha (hfa'.trans hfa.symm)

section Resolved

variable {I : Interpreter}

/-- One candidate of the request has this reference, and its room, if it has one, is
one of the areas. -/
def Resolves (request : InterpretationRequest I) (target : Identifier) : Prop :=
  exists candidate, (forall candidate',
      candidate' ∈ request.candidates.val ∧ candidate'.ref = target <->
        candidate' = candidate) ∧
    forall id, id ∈ candidate.areaId ->
      ∃! area, area ∈ request.areas.val ∧ area.areaId = id

theorem resolves_iff {request : InterpretationRequest I} {target : Identifier} :
    Resolves request target <->
      target ∈ request.candidates.val.map Candidate.ref := by
  have htogether := validateRequest_eq_ok.mp request.valid
  constructor
  · intro hparts
    rcases hparts with ⟨candidate, honly, _⟩
    rcases (honly candidate).mpr rfl with ⟨hmem, href⟩
    exact List.mem_map.mpr ⟨candidate, hmem, href⟩
  · intro h
    rcases existsUnique_of_nodup_map htogether.refs h with
      ⟨candidate, ⟨hmem, href⟩, honly⟩
    refine ⟨candidate, fun candidate' => ⟨honly candidate', ?_⟩, fun id hid => ?_⟩
    · intro heq
      rcases heq with rfl
      exact ⟨hmem, href⟩
    · exact existsUnique_of_nodup_map htogether.areaIds
        (htogether.candidateArea candidate hmem id hid)

/-- A result passes exactly when it answers this request with nothing, or with a
proposal of an allowed intent all of whose targets the request resolves. -/
theorem proposal_resolves (request : InterpretationRequest I)
    (result : InterpretationResult) :
    validateProposal request result = .ok () <->
      result.interpretationId = request.interpretationId ∧
        forall proposal, result.proposal = some proposal ->
          proposal.intent ∈ request.allowedIntents.val ∧
            Coherent proposal.intent proposal.targetStatus proposal.targets.val
              proposal.action proposal.mention ∧
            forall target, target ∈ proposal.targets.val -> Resolves request target := by
  unfold validateProposal
  rw [ite_refuse_eq_ok, not_not]
  refine and_congr_right fun _ => ?_
  cases result.proposal with
  | none => exact iff_of_true rfl nofun
  | some proposal =>
      have hcoherent := validateShape_eq_ok.mp proposal.valid
      simp only [ite_refuse_eq_ok, not_not, and_true, Option.some.injEq, forall_eq',
        resolves_iff, hcoherent, true_and]
      exact Iff.rfl

end Resolved

end Interpretation
end EidolonSdk
