import EidolonSdk.Logic.Exchanges
import EidolonSdk.Logic.Outcome
import EidolonSdk.Python.JsonValues
import Mathlib.Data.Finset.Sort
import Mathlib.Data.List.Lex
import Mathlib.Order.Lex

/-!
# Tool transcripts of chat messages

The validator walks a transcript with the set of the calls that are still to be
answered.  A set does not count, so a call under an identifier that is pending
already leaves no trace: one answer settles both calls, and a second one is
refused.
-/

namespace EidolonSdk
namespace Llm

open Python Logic

/-- What comes out of the validator when it raises. -/
inductive TranscriptFault where
  | openAIToolTranscriptError (message : PyStr)
  | raised (e : PyException)
  deriving DecidableEq

abbrev Checking := Except TranscriptFault

/-- `message.get("role") == role`. -/
def hasRole (message : Members) (role : String) : Bool :=
  match message.getOrNone "role" with
  | .str s => s == str role
  | _ => false

/-- The items of `message.get("tool_calls") or ()`. -/
def toolCalls (message : Members) : Except PyException (List Json) :=
  let calls := message.getOrNone "tool_calls"
  if calls.truthy then calls.tuple else pure []

/-- `tool_call.get("id") if isinstance(tool_call, Mapping) else None`. -/
def toolCallId : Json -> Json
  | .object call => Members.getOrNone call "id"
  | _ => .null

section Validate

variable (I : Interpreter)

/-- `str(value)`. -/
def idText (value : Json) : Checking PyStr :=
  (value.format I).mapError .raised

def atIndex (front : String) (index : Nat) (back : String) : PyStr :=
  str front ++ (Json.int index).text I ++ str back

/-- The calls of one assistant message. -/
def addCalls (index : Nat) :
    List Json -> Finset PyStr -> Checking (Finset PyStr)
  | [], pending => pure pending
  | call :: rest, pending =>
      let callId := toolCallId call
      if callId.truthy then do
        let id ← idText I callId
        addCalls index rest (insert id pending)
      else
        throw (.openAIToolTranscriptError
          (atIndex I "assistant tool_call at index " index " is missing id"))

/-- The answer of one tool message. -/
def takeAnswer (index : Nat) (callId : Json) (pending : Finset PyStr) :
    Checking (Finset PyStr) :=
  let orphan : Checking (Finset PyStr) :=
    throw (.openAIToolTranscriptError
      (atIndex I "tool message at index " index
        " has no preceding assistant tool_call"))
  if callId.truthy then do
    let id ← idText I callId
    if id ∈ pending then pure (pending.erase id) else orphan
  else orphan

def checkMessage (index : Nat) (message : Members) (pending : Finset PyStr) :
    Checking (Finset PyStr) :=
  if hasRole message "assistant" then do
    let calls ← (toolCalls message).mapError .raised
    addCalls I index calls pending
  else if hasRole message "tool" then
    takeAnswer I index (message.getOrNone "tool_call_id") pending
  else pure pending

/-- `", ".join(sorted(pending))`. -/
def missingText (pending : Finset PyStr) : PyStr :=
  (str ", ").intercalate pending.sort

/-- The loop over the messages, and what is left at its end. -/
def checkMessages : Nat -> List Members -> Finset PyStr -> Checking Unit
  | _, [], pending =>
      if pending = ∅ then pure ()
      else
        throw (.openAIToolTranscriptError
          (str "assistant tool_call has no tool response: " ++
            missingText pending))
  | index, message :: rest, pending => do
      let pending ← checkMessage I index message pending
      checkMessages (index + 1) rest pending

def validateOpenaiToolTranscript (messages : List Members) : Checking Unit :=
  checkMessages I 0 messages ∅

end Validate

/-!
## Calls and answers of a transcript
-/

/-- The string of an identifier, empty where there is none. -/
def idOf : Json -> PyStr
  | .str s => s
  | _ => []

/-- The calls of a message, as far as they can be listed. -/
def callsOf (message : Members) : List Json :=
  (toolCalls message).toOption.getD []

/-- The calls and answers of one message. -/
def exchangesOf (message : Members) : List (Exchange PyStr) :=
  if hasRole message "assistant" then
    (callsOf message).map fun call => .call (idOf (toolCallId call))
  else if hasRole message "tool" then
    [.answer (idOf (message.getOrNone "tool_call_id"))]
  else []

def exchanges (messages : List Members) : List (Exchange PyStr) :=
  messages.flatMap exchangesOf

/-- Every call has an identifier. -/
def Named (messages : List Members) : Prop :=
  forall message, message ∈ messages -> hasRole message "assistant" = true ->
    forall call, call ∈ callsOf message -> idOf (toolCallId call) ≠ []

/-- The calls have identifiers and go with later answers, one to one. -/
def WellLinked (messages : List Members) : Prop :=
  Named messages ∧ Exchange.Paired (exchanges messages)

/-- An identifier is a string, or there is none. -/
def IsId (value : Json) : Prop :=
  value = .null ∨ exists s, value = .str s

/-- The identifiers of a message are strings where there are any, and its calls
can be listed. -/
def HasStringIds (message : Members) : Prop :=
  (hasRole message "assistant" = true ->
    exists calls, toolCalls message = .ok calls ∧
      forall call, call ∈ calls -> IsId (toolCallId call)) ∧
  (hasRole message "tool" = true -> IsId (message.getOrNone "tool_call_id"))

/-!
## The validator follows a counter
-/

section Follows

variable {I : Interpreter}

open Exchange

/-- What the set of pending calls says of one identifier. -/
def pendingOf (pending : Finset PyStr) (id : PyStr) : Nat :=
  if id ∈ pending then 1 else 0

theorem truthy_of_isId {value : Json} (h : IsId value) :
    value.truthy = true <-> idOf value ≠ [] := by
  rcases h with rfl | ⟨s, rfl⟩
  · simp [Json.truthy, idOf]
  · simp [Json.truthy, idOf]

theorem idText_of_truthy {value : Json} (h : IsId value)
    (htruthy : value.truthy = true) : idText I value = .ok (idOf value) := by
  rcases h with rfl | ⟨s, rfl⟩
  · cases htruthy
  · rfl

/-- The check ends with the error of the transcript. -/
def Refuses {α : Type} (outcome : Checking α) : Prop :=
  exists message, outcome = .error (.openAIToolTranscriptError message)

theorem Refuses.bind {α β : Type} {outcome : Checking α} (h : Refuses outcome)
    (rest : α -> Checking β) : Refuses (outcome >>= rest) := by
  rcases h with ⟨message, rfl⟩
  exact ⟨message, rfl⟩

/-- The set with the identifiers of these calls. -/
def addAll (calls : List Json) (pending : Finset PyStr) : Finset PyStr :=
  calls.foldl (fun pending call => insert (idOf (toolCallId call)) pending) pending

theorem addCalls_ok {index : Nat} {calls : List Json} {pending : Finset PyStr}
    (hids : forall call, call ∈ calls -> IsId (toolCallId call))
    (hnamed : forall call, call ∈ calls -> idOf (toolCallId call) ≠ []) :
    addCalls I index calls pending = .ok (addAll calls pending) := by
  induction calls generalizing pending with
  | nil => rfl
  | cons call rest ih =>
      have hid := hids call List.mem_cons_self
      have htruthy := (truthy_of_isId hid).mpr (hnamed call List.mem_cons_self)
      simp only [addCalls, htruthy, if_true, idText_of_truthy hid htruthy,
        ok_bind]
      exact ih (fun c hc => hids c (List.mem_cons_of_mem _ hc))
        (fun c hc => hnamed c (List.mem_cons_of_mem _ hc))

theorem addCalls_refuses {index : Nat} {calls : List Json}
    {pending : Finset PyStr}
    (hids : forall call, call ∈ calls -> IsId (toolCallId call))
    (hmissing : exists call, call ∈ calls ∧ idOf (toolCallId call) = []) :
    Refuses (addCalls I index calls pending) := by
  induction calls generalizing pending with
  | nil => simp at hmissing
  | cons call rest ih =>
      have hid := hids call List.mem_cons_self
      by_cases hempty : idOf (toolCallId call) = []
      · have hfalsy : (toolCallId call).truthy = false :=
          Bool.eq_false_iff.mpr fun h => (truthy_of_isId hid).mp h hempty
        simp only [addCalls, hfalsy, Bool.false_eq_true, if_false]
        exact ⟨_, rfl⟩
      · have htruthy := (truthy_of_isId hid).mpr hempty
        simp only [addCalls, htruthy, if_true, idText_of_truthy hid htruthy,
          ok_bind]
        apply ih fun c hc => hids c (List.mem_cons_of_mem _ hc)
        rcases hmissing with ⟨c, hc, hcall⟩
        rcases List.mem_cons.mp hc with rfl | hrest
        · exact absurd hcall hempty
        · exact ⟨c, hrest, hcall⟩

theorem follows_addAll {calls : List Json} {pending : Finset PyStr} {id : PyStr}
    (rest : List (Exchange PyStr)) :
    follows repeated id (pendingOf pending id)
        ((calls.map fun c => .call (idOf (toolCallId c))) ++ rest) =
      follows repeated id (pendingOf (addAll calls pending) id) rest := by
  induction calls generalizing pending with
  | nil => rfl
  | cons call more ih =>
      have hstep : follows repeated id (pendingOf pending id)
          (((call :: more).map fun c => .call (idOf (toolCallId c))) ++ rest) =
          follows repeated id
            (pendingOf (insert (idOf (toolCallId call)) pending) id)
            ((more.map fun c => .call (idOf (toolCallId c))) ++ rest) := by
        rw [List.map_cons, List.cons_append, follows]
        by_cases hid : idOf (toolCallId call) = id
        · rw [if_pos hid]
          simp [repeated, pendingOf, hid]
        · rw [if_neg hid]
          simp [pendingOf, Ne.symm hid]
      rw [hstep, ih]
      rfl

theorem nil_not_mem_addAll {calls : List Json} {pending : Finset PyStr}
    (hpending : [] ∉ pending)
    (hnamed : forall call, call ∈ calls -> idOf (toolCallId call) ≠ []) :
    [] ∉ addAll calls pending := by
  induction calls generalizing pending with
  | nil => exact hpending
  | cons call rest ih =>
      apply ih
      · rw [Finset.mem_insert, not_or]
        exact ⟨Ne.symm (hnamed call List.mem_cons_self), hpending⟩
      · exact fun c hc => hnamed c (List.mem_cons_of_mem _ hc)

theorem takeAnswer_ok {index : Nat} {callId : Json} {pending : Finset PyStr}
    (hid : IsId callId) (hpending : [] ∉ pending) (h : idOf callId ∈ pending) :
    takeAnswer I index callId pending = .ok (pending.erase (idOf callId)) := by
  have hne : idOf callId ≠ [] := fun heq => hpending (heq ▸ h)
  have htruthy := (truthy_of_isId hid).mpr hne
  simp only [takeAnswer, htruthy, if_true, idText_of_truthy hid htruthy,
    ok_bind, if_pos h]
  rfl

theorem takeAnswer_refuses {index : Nat} {callId : Json}
    {pending : Finset PyStr} (hid : IsId callId) (h : idOf callId ∉ pending) :
    Refuses (takeAnswer I index callId pending) := by
  unfold takeAnswer
  by_cases htruthy : callId.truthy = true
  · simp only [htruthy, if_true, idText_of_truthy hid htruthy, ok_bind,
      if_neg h]
    exact ⟨_, rfl⟩
  · simp only [if_neg htruthy]
    exact ⟨_, rfl⟩

/-- What a transcript has to be from here on for the validator to let it pass. -/
def Passes (messages : List Members) (pending : Finset PyStr) : Prop :=
  Named messages ∧ forall id,
    follows repeated id (pendingOf pending id) (exchanges messages) = true

theorem passes_nil {pending : Finset PyStr} :
    Passes [] pending <-> pending = ∅ := by
  rw [Finset.eq_empty_iff_forall_notMem]
  simp [Passes, Named, exchanges, follows, pendingOf]

theorem exchanges_cons (message : Members) (rest : List Members) :
    exchanges (message :: rest) = exchangesOf message ++ exchanges rest :=
  List.flatMap_cons

theorem named_cons {message : Members} {rest : List Members} :
    Named (message :: rest) <->
      (hasRole message "assistant" = true -> forall call,
        call ∈ callsOf message -> idOf (toolCallId call) ≠ []) ∧ Named rest :=
  List.forall_mem_cons

/-- One message: the set moves on and what is asked of the rest stays the same, or
the transcript is refused. -/
theorem checkMessage_outcome {index : Nat} {message : Members}
    {rest : List Members} {pending : Finset PyStr} (hids : HasStringIds message)
    (hpending : [] ∉ pending) :
    (exists pending', checkMessage I index message pending = .ok pending' ∧
      [] ∉ pending' ∧
      (Passes (message :: rest) pending <-> Passes rest pending')) ∨
    (Refuses (checkMessage I index message pending) ∧
      ¬ Passes (message :: rest) pending) := by
  simp only [Passes, named_cons, exchanges_cons, exchangesOf, checkMessage]
  by_cases hassistant : hasRole message "assistant" = true
  · rcases hids.left hassistant with ⟨calls, hcalls, hcallIds⟩
    have hlisted : callsOf message = calls := by
      simp [callsOf, hcalls, Except.toOption]
    simp only [hassistant, if_true, hcalls, hlisted, Except.mapError, ok_bind,
      true_implies]
    by_cases hnamed : forall call, call ∈ calls -> idOf (toolCallId call) ≠ []
    · refine Or.inl ⟨_, addCalls_ok hcallIds hnamed,
        nil_not_mem_addAll hpending hnamed, ?_⟩
      simp only [follows_addAll]
      constructor
      · intro h
        exact ⟨h.left.right, h.right⟩
      · intro h
        exact ⟨⟨hnamed, h.left⟩, h.right⟩
    · refine Or.inr ⟨addCalls_refuses hcallIds ?_, ?_⟩
      · push Not at hnamed
        exact hnamed
      · intro h
        exact hnamed h.left.left
  · by_cases htool : hasRole message "tool" = true
    · have hid := hids.right htool
      simp only [if_neg hassistant, htool, if_true, List.cons_append,
        List.nil_append]
      by_cases hmem : idOf (message.getOrNone "tool_call_id") ∈ pending
      · refine Or.inl ⟨_, takeAnswer_ok hid hpending hmem, ?_, ?_⟩
        · exact fun h => hpending (Finset.mem_of_mem_erase h)
        · have hstep : forall id,
              follows repeated id (pendingOf pending id)
                (.answer (idOf (message.getOrNone "tool_call_id")) ::
                  exchanges rest) =
              follows repeated id
                (pendingOf (pending.erase
                  (idOf (message.getOrNone "tool_call_id"))) id)
                (exchanges rest) := by
            intro id
            by_cases heq : idOf (message.getOrNone "tool_call_id") = id
            · subst heq
              simp [follows, pendingOf, hmem]
            · simp [follows, pendingOf, heq, Ne.symm heq]
          simp only [hstep]
          constructor
          · intro h
            exact ⟨h.left.right, h.right⟩
          · intro h
            exact ⟨⟨fun hrole => absurd hrole hassistant, h.left⟩, h.right⟩
      · refine Or.inr ⟨takeAnswer_refuses hid hmem, ?_⟩
        intro h
        have hfirst := h.right (idOf (message.getOrNone "tool_call_id"))
        simp [follows, pendingOf, hmem] at hfirst
    · refine Or.inl ⟨pending, ?_, hpending, ?_⟩
      · simp only [if_neg hassistant, if_neg htool]
        rfl
      · simp only [if_neg hassistant, if_neg htool, List.nil_append]
        constructor
        · intro h
          exact ⟨h.left.right, h.right⟩
        · intro h
          exact ⟨⟨fun hrole => absurd hrole hassistant, h.left⟩, h.right⟩

/-- The whole loop. -/
theorem checkMessages_outcome {messages : List Members} {index : Nat}
    {pending : Finset PyStr}
    (hids : forall message, message ∈ messages -> HasStringIds message)
    (hpending : [] ∉ pending) :
    (checkMessages I index messages pending = .ok () ∧
      Passes messages pending) ∨
    (Refuses (checkMessages I index messages pending) ∧
      ¬ Passes messages pending) := by
  induction messages generalizing index pending with
  | nil =>
      rw [passes_nil]
      unfold checkMessages
      by_cases hempty : pending = ∅
      · exact Or.inl ⟨if_pos hempty, hempty⟩
      · rw [if_neg hempty]
        exact Or.inr ⟨⟨_, rfl⟩, hempty⟩
  | cons message rest ih =>
      unfold checkMessages
      rcases @checkMessage_outcome I index message rest pending
        (hids message List.mem_cons_self) hpending with
        ⟨pending', hok, hpending', hiff⟩ | ⟨hrefuses, hnot⟩
      · rw [hok, ok_bind, hiff]
        exact ih (fun m hm => hids m (List.mem_cons_of_mem _ hm)) hpending'
      · exact Or.inr ⟨hrefuses.bind _, hnot⟩

theorem wellLinked_iff {messages : List Members} :
    WellLinked messages <-> Named messages ∧
      forall id, follows everyCall id 0 (exchanges messages) = true := by
  rw [WellLinked, paired_iff_follows]

theorem validate_outcome {messages : List Members}
    (hids : forall message, message ∈ messages -> HasStringIds message) :
    (validateOpenaiToolTranscript I messages = .ok () ∧ Passes messages ∅) ∨
    (Refuses (validateOpenaiToolTranscript I messages) ∧
      ¬ Passes messages ∅) :=
  checkMessages_outcome hids (Finset.notMem_empty [])

/-- The validator does what the law says: what is well linked passes, and everything
else is refused with the error of the transcript. -/
def DecidesLinks (I : Interpreter) (messages : List Members) : Prop :=
  (validateOpenaiToolTranscript I messages = .ok () <-> WellLinked messages) ∧
    (¬ WellLinked messages -> Refuses (validateOpenaiToolTranscript I messages))

/-- No call comes on top of another one under its identifier, or neither way of
counting such calls gets to the end. -/
def RepeatsDoNotMatter (messages : List Members) : Prop :=
  (forall id, follows oneAtATime id 0 (exchanges messages) = true) ∨
    (exists id, follows everyCall id 0 (exchanges messages) = false) ∧
      exists id, follows repeated id 0 (exchanges messages) = false

theorem decidesLinks_iff {messages : List Members}
    (hids : forall message, message ∈ messages -> HasStringIds message) :
    DecidesLinks I messages <->
      (Named messages -> RepeatsDoNotMatter messages) := by
  have hpasses : Passes messages ∅ <-> Named messages ∧
      forall id, follows repeated id 0 (exchanges messages) = true := by
    simp [Passes, pendingOf]
  have hboth : (forall id, follows oneAtATime id 0 (exchanges messages) = true) <->
      (forall id, follows everyCall id 0 (exchanges messages) = true) ∧
        forall id, follows repeated id 0 (exchanges messages) = true := by
    simp only [follows_oneAtATime_iff (Nat.zero_le 1), forall_and]
  have houtcome : DecidesLinks I messages <->
      (Passes messages ∅ <-> WellLinked messages) := by
    rcases @validate_outcome I messages hids with ⟨hok, hpass⟩ | ⟨hrefuses, hnot⟩
    · simp only [DecidesLinks, hok, hpass, true_iff, and_iff_left_iff_imp]
      exact fun hlinked hill => absurd hlinked hill
    · have hfails : validateOpenaiToolTranscript I messages ≠ .ok () := by
        rcases hrefuses with ⟨message, heq⟩
        rw [heq]
        intro hok
        cases hok
      simp only [DecidesLinks, hfails, hnot, false_iff, hrefuses, implies_true,
        and_true]
  rw [houtcome, hpasses, wellLinked_iff, RepeatsDoNotMatter, hboth]
  simp only [← Bool.not_eq_true, ← not_forall]
  tauto

end Follows

/-!
### Sample transcripts
-/

/-- An assistant message that calls under these identifiers. -/
def sampleCalls (ids : List String) : Members :=
  [(str "role", .str (str "assistant")),
    (str "tool_calls", .array (ids.map fun id =>
      .object [(str "id", .str (str id)), (str "type", .str (str "function"))]))]

/-- A tool message that answers. -/
def sampleAnswer (id : String) : Members :=
  [(str "role", .str (str "tool")), (str "tool_call_id", .str (str id))]

/-- Two calls that are answered in the other order, and an identifier used again. -/
def sampleTranscript : List Members :=
  [sampleCalls ["a", "b"], sampleAnswer "b", sampleAnswer "a", sampleCalls ["a"],
    sampleAnswer "a"]

/-- One identifier twice in one message, and one answer. -/
def doubledTranscript : List Members :=
  [sampleCalls ["a", "a"], sampleAnswer "a"]

theorem hasStringIds_sampleCalls (ids : List String) :
    HasStringIds (sampleCalls ids) := by
  have hcalls : toolCalls (sampleCalls ids) = .ok (ids.map fun id =>
      .object [(str "id", .str (str id)),
        (str "type", .str (str "function"))]) := by
    cases ids with
    | nil => rfl
    | cons id rest => rfl
  refine ⟨fun _ => ⟨_, hcalls, ?_⟩, fun h => ?_⟩
  · intro call hcall
    rcases List.mem_map.mp hcall with ⟨id, _, rfl⟩
    exact Or.inr ⟨str id, rfl⟩
  · have hrole : hasRole (sampleCalls ids) "tool" = false := by
      show (str "assistant" == str "tool") = false
      decide
    rw [hrole] at h
    cases h

theorem hasStringIds_sampleAnswer (id : String) :
    HasStringIds (sampleAnswer id) := by
  refine ⟨fun h => ?_, fun _ => Or.inr ⟨str id, rfl⟩⟩
  have hrole : hasRole (sampleAnswer id) "assistant" = false := by
    show (str "tool" == str "assistant") = false
    decide
  rw [hrole] at h
  cases h

theorem hasStringIds_sampleTranscript (message : Members)
    (h : message ∈ sampleTranscript) : HasStringIds message := by
  simp only [sampleTranscript, List.mem_cons, List.not_mem_nil, or_false] at h
  rcases h with rfl | rfl | rfl | rfl | rfl
  · exact hasStringIds_sampleCalls _
  · exact hasStringIds_sampleAnswer _
  · exact hasStringIds_sampleAnswer _
  · exact hasStringIds_sampleCalls _
  · exact hasStringIds_sampleAnswer _

theorem decidesLinks_iff_sample :
    DecidesLinks asciiInterpreter sampleTranscript := by
  apply (decidesLinks_iff hasStringIds_sampleTranscript).mpr
  intro _
  apply Or.inl
  intro id
  have hexchanges : exchanges sampleTranscript =
      [.call (str "a"), .call (str "b"), .answer (str "b"), .answer (str "a"),
        .call (str "a"), .answer (str "a")] := by
    decide
  rw [hexchanges]
  by_cases ha : str "a" = id
  · subst ha
    decide
  · by_cases hb : str "b" = id
    · subst hb
      decide
    · simp [Exchange.follows, ha, hb]

/-- Two calls and one answer pass. -/
theorem doubledTranscript_accepted :
    (forall message, message ∈ doubledTranscript -> HasStringIds message) ∧
      ¬ DecidesLinks asciiInterpreter doubledTranscript := by
  constructor
  · intro message h
    simp only [doubledTranscript, List.mem_cons, List.not_mem_nil, or_false] at h
    rcases h with rfl | rfl
    · exact hasStringIds_sampleCalls _
    · exact hasStringIds_sampleAnswer _
  · intro h
    have haccepted :
        validateOpenaiToolTranscript asciiInterpreter doubledTranscript = .ok () := by
      decide
    have hlinked := wellLinked_iff.mp (h.left.mp haccepted)
    have hcounted := hlinked.right (str "a")
    revert hcounted
    decide

end Llm
end EidolonSdk
