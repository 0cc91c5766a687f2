import EidolonSdk.Python.Interpreter

/-!
# Requests that are tried again

The shared client sends a request a bounded number of times.  It tries again
after an unreachable service and after a status of the policy, and only for the
methods of the policy.  What each attempt ends in is given: a response, or an
exception of the transport.
-/

namespace EidolonSdk
namespace Http

open Python

structure HTTPRetryPolicy where
  attempts : Int
  backoffSeconds : Double
  retryStatuses : List Int
  retryMethods : List PyStr

/-- `should_retry_method`. -/
def HTTPRetryPolicy.shouldRetryMethod (I : Interpreter) (policy : HTTPRetryPolicy)
    (method : PyStr) : Bool :=
  decide (I.upper method ∈ policy.retryMethods)

universe u v

/-- What a client knows of the responses and exceptions of its transport. -/
structure ServiceHTTPClient (ρ : Type u) (ε : Type v) where
  statusCode : ρ -> Int
  text : ρ -> PyStr
  /-- Whether it is one of `UNREACHABLE_EXCEPTIONS`. -/
  unreachable : ε -> Bool
  /-- `str(exc)`. -/
  message : ε -> PyStr
  retryPolicy : HTTPRetryPolicy

/-- What one attempt ends in. -/
inductive Outcome (ρ : Type u) (ε : Type v) where
  | response (r : ρ)
  | raised (e : ε)

/-- How the whole call ends. -/
inductive Ending (ρ : Type u) (ε : Type v) where
  | returned (r : ρ)
  /-- `UNREACHABLE_EXC(str(exc)) from exc`. -/
  | unreachable (message : PyStr) (cause : ε)
  /-- `UPSTREAM_EXC(response.status_code, response.text)`. -/
  | upstream (status : Int) (text : PyStr)
  /-- An exception of the transport that is not caught. -/
  | raised (e : ε)
  /-- An exception of the pause. -/
  | interrupted (e : PyException)
  /-- A pause without end. -/
  | asleep
  /-- Behind the loop, `UNREACHABLE_EXC(str(last_unreachable)) from
  last_unreachable`. -/
  | lastUnreachable (message : PyStr) (cause : ε)
  /-- Behind the loop, `RuntimeError("unreachable HTTP retry state")`. -/
  | runtimeError
  deriving DecidableEq

/-- Whether it is a statement after the loop that ends the call. -/
def Ending.isBehindLoop {ρ : Type u} {ε : Type v} : Ending ρ ε -> Bool
  | .lastUnreachable _ _ => true
  | .runtimeError => true
  | _ => false

/-- What is done on the way. -/
inductive Action (ρ : Type u) where
  | request
  | aclose (r : ρ)
  deriving DecidableEq

structure Run (ρ : Type u) (ε : Type v) where
  actions : List (Action ρ)
  ending : Ending ρ ε
  deriving DecidableEq

/-- How many requests were issued. -/
def Run.sent {ρ : Type u} {ε : Type v} (run : Run ρ ε) : Nat :=
  run.actions.countP fun action =>
    match action with
    | .request => true
    | .aclose _ => false

/-!
## Pauses
-/

inductive Pause where
  | done
  | raised (e : PyException)
  | endless
  deriving DecidableEq

/-- `delay <= 0`. -/
def atMostZero : Double -> Bool
  | .finite negative magnitude _ => negative || magnitude == 0
  | .infinite negative => negative
  | .nan => false

/-- `asyncio.sleep(seconds * attempt)`: a NaN is refused, and nothing comes after
infinity. -/
def sleepTimes (seconds : Double) (attempt : Nat) : Pause :=
  match floatOfNat attempt with
  | none => .raised .overflowError
  | some times =>
      match seconds with
      | .nan => .raised .valueError
      | .infinite _ => .endless
      | .finite _ magnitude _ =>
          if roundRatio (magnitude * times) (doubleOne * doubleOne) < doubleLimit
          then .done else .endless

/-- `_sleep_before_retry`. -/
def sleepBeforeRetry (policy : HTTPRetryPolicy) (attempt : Nat) : Pause :=
  if atMostZero policy.backoffSeconds = true then .done
  else sleepTimes policy.backoffSeconds attempt

/-!
## The loop
-/

section Loop

variable {ρ : Type u} {ε : Type v}

/-- `_response_ok`. -/
def responseOk (statusCode : Int) (okStatuses : Option (List Int)) : Bool :=
  match okStatuses with
  | some statuses => decide (statusCode ∈ statuses)
  | none => decide (statusCode < 400)

def Run.after (actions : List (Action ρ)) (run : Run ρ ε) : Run ρ ε :=
  { run with actions := actions ++ run.actions }

/-- Go on behind a pause, if it ends. -/
def pauseThen (policy : HTTPRetryPolicy) (attempt : Nat)
    (actions : List (Action ρ)) (rest : Run ρ ε) : Run ρ ε :=
  match sleepBeforeRetry policy attempt with
  | .done => rest.after actions
  | .raised e => ⟨actions, .interrupted e⟩
  | .endless => ⟨actions, .asleep⟩

variable (client : ServiceHTTPClient ρ ε) (policy : HTTPRetryPolicy)
  (canRetry : Bool) (okStatuses : Option (List Int)) (attempts : Nat)
  (outcomes : Nat -> Outcome ρ ε)

/-- The attempts that are left, from this one on. -/
def attemptLoop : Nat -> Nat -> Option ε -> Run ρ ε
  | 0, _, some e => ⟨[], .lastUnreachable (client.message e) e⟩
  | 0, _, none => ⟨[], .runtimeError⟩
  | left + 1, attempt, lastUnreachable =>
      match outcomes attempt with
      | .raised e =>
          if client.unreachable e = true then
            if canRetry = false ∨ attempts ≤ attempt then
              ⟨[.request], .unreachable (client.message e) e⟩
            else
              pauseThen policy attempt [.request]
                (attemptLoop left (attempt + 1) (some e))
          else ⟨[.request], .raised e⟩
      | .response r =>
          if responseOk (client.statusCode r) okStatuses = true then
            ⟨[.request], .returned r⟩
          else if canRetry = true ∧ client.statusCode r ∈ policy.retryStatuses ∧
              attempt < attempts then
            pauseThen policy attempt [.request, .aclose r]
              (attemptLoop left (attempt + 1) lastUnreachable)
          else
            ⟨[.request], .upstream (client.statusCode r) (client.text r)⟩

end Loop

section Request

variable {ρ : Type u} {ε : Type v} (I : Interpreter)
  (client : ServiceHTTPClient ρ ε)

/-- `max(1, policy.attempts)`. -/
def HTTPRetryPolicy.most (policy : HTTPRetryPolicy) : Nat :=
  (max 1 policy.attempts).toNat

/-- `_request`; attempts are counted from one, and so are their outcomes. -/
def request (method : PyStr) (okStatuses : Option (List Int))
    (retryPolicy : Option HTTPRetryPolicy) (outcomes : Nat -> Outcome ρ ε) :
    Run ρ ε :=
  let policy := retryPolicy.getD client.retryPolicy
  attemptLoop client policy (policy.shouldRetryMethod I method) okStatuses
    policy.most outcomes policy.most 1 none

end Request

/-!
## Where the loop stops
-/

section Stops

variable {ρ : Type u} {ε : Type v} (client : ServiceHTTPClient ρ ε)
  (policy : HTTPRetryPolicy) (okStatuses : Option (List Int))

/-- What asks for another attempt: an unreachable service, or a response that is
not acceptable and whose status is one of the policy. -/
def WorthRetry : Outcome ρ ε -> Prop
  | .raised e => client.unreachable e = true
  | .response r =>
      responseOk (client.statusCode r) okStatuses = false ∧
        client.statusCode r ∈ policy.retryStatuses

/-- How the call ends where this is the last outcome it saw. -/
def endingOf : Outcome ρ ε -> Ending ρ ε
  | .raised e =>
      if client.unreachable e = true then .unreachable (client.message e) e
      else .raised e
  | .response r =>
      if responseOk (client.statusCode r) okStatuses = true then .returned r
      else .upstream (client.statusCode r) (client.text r)

/-- How the call ends where a pause does not. -/
def Breaks (pause : Pause) (ending : Ending ρ ε) : Prop :=
  (exists e, pause = .raised e ∧ ending = .interrupted e) ∨
    (pause = .endless ∧ ending = .asleep)

variable (canRetry : Bool) (attempts : Nat) (outcomes : Nat -> Outcome ρ ε)

/-- The loop, entered at one attempt, stops behind another one. -/
structure StopsAt (attempt n : Nat) (run : Run ρ ε) : Prop where
  behind : attempt ≤ n
  bounded : n ≤ attempts
  sent : run.sent + attempt = n + 1
  earlier : forall k, attempt ≤ k -> k < n ->
    canRetry = true ∧ WorthRetry client policy okStatuses (outcomes k)
  ending :
    (run.ending = endingOf client okStatuses (outcomes n) ∧
      (n < attempts -> canRetry = true ->
        ¬ WorthRetry client policy okStatuses (outcomes n))) ∨
    (n < attempts ∧ canRetry = true ∧
      WorthRetry client policy okStatuses (outcomes n) ∧
      Breaks (sleepBeforeRetry policy n) run.ending)

variable {client policy okStatuses canRetry attempts outcomes}

/-- One attempt behind which the loop does not go on. -/
theorem stopsAt_here {attempt : Nat} (hattempt : attempt ≤ attempts)
    (hlast : attempt < attempts -> canRetry = true ->
      ¬ WorthRetry client policy okStatuses (outcomes attempt)) :
    StopsAt client policy okStatuses canRetry attempts outcomes attempt attempt
      ⟨[.request], endingOf client okStatuses (outcomes attempt)⟩ where
  behind := Nat.le_refl attempt
  bounded := hattempt
  sent := Nat.add_comm 1 attempt
  earlier _ hk hlt := absurd hlt (Nat.not_lt.mpr hk)
  ending := Or.inl ⟨rfl, hlast⟩

/-- One attempt, a pause, and what comes behind it. -/
theorem exists_stopsAt_pause {attempt : Nat} {actions : List (Action ρ)}
    {rest : Run ρ ε} (hattempt : attempt < attempts) (hcan : canRetry = true)
    (hworth : WorthRetry client policy okStatuses (outcomes attempt))
    (hactions : forall ending : Ending ρ ε, (⟨actions, ending⟩ : Run ρ ε).sent = 1)
    (hrest : exists n, StopsAt client policy okStatuses canRetry attempts outcomes
      (attempt + 1) n rest) :
    exists n, StopsAt client policy okStatuses canRetry attempts outcomes attempt n
      (pauseThen policy attempt actions rest) := by
  unfold pauseThen
  split
  · rcases hrest with ⟨n, hn⟩
    have hbehind := hn.behind
    have hcount := hn.sent
    refine ⟨n, by omega, hn.bounded, ?_, ?_, hn.ending⟩
    · have hone : List.countP _ actions = 1 := hactions .asleep
      unfold Run.sent at hcount ⊢
      rw [Run.after, List.countP_append, hone]
      omega
    · intro k hk hlt
      rcases Nat.eq_or_lt_of_le hk with heq | hlater
      · exact heq ▸ ⟨hcan, hworth⟩
      · exact hn.earlier k hlater hlt
  · rename_i e hpause
    have hone := hactions (.interrupted e)
    exact ⟨attempt, Nat.le_refl attempt, hattempt.le, by omega,
      fun k hk hlt => absurd hlt (Nat.not_lt.mpr hk),
      Or.inr ⟨hattempt, hcan, hworth, Or.inl ⟨e, hpause, rfl⟩⟩⟩
  · rename_i hpause
    have hone := hactions .asleep
    exact ⟨attempt, Nat.le_refl attempt, hattempt.le, by omega,
      fun k hk hlt => absurd hlt (Nat.not_lt.mpr hk),
      Or.inr ⟨hattempt, hcan, hworth, Or.inr ⟨hpause, rfl⟩⟩⟩

theorem exists_stopsAt {left attempt : Nat} {last : Option ε}
    (hleft : left + attempt = attempts + 1) (hattempt : attempt ≤ attempts) :
    exists n, StopsAt client policy okStatuses canRetry attempts outcomes attempt n
      (attemptLoop client policy canRetry okStatuses attempts outcomes left attempt
        last) := by
  induction left generalizing attempt last with
  | zero => omega
  | succ left ih =>
      have hhere := @stopsAt_here _ _ client policy okStatuses canRetry attempts
        outcomes attempt hattempt
      unfold attemptLoop
      cases houtcome : outcomes attempt with
      | raised e =>
          rw [houtcome] at hhere
          by_cases hunreachable : client.unreachable e = true
          · simp only [if_pos hunreachable]
            split
            · rename_i hstop
              refine ⟨attempt, ?_⟩
              simp only [endingOf, if_pos hunreachable] at hhere
              apply hhere
              intro hlt hcan
              rcases hstop with hno | hover
              · rw [hno] at hcan
                cases hcan
              · omega
            · rename_i hgo
              rw [not_or, Bool.not_eq_false, Nat.not_le] at hgo
              apply exists_stopsAt_pause hgo.right hgo.left
              · rw [houtcome]
                exact hunreachable
              · exact fun _ => rfl
              · exact ih (by omega) (by omega)
          · simp only [if_neg hunreachable]
            refine ⟨attempt, ?_⟩
            simp only [endingOf, if_neg hunreachable] at hhere
            exact hhere fun _ _ => hunreachable
      | response r =>
          rw [houtcome] at hhere
          by_cases hok : responseOk (client.statusCode r) okStatuses = true
          · simp only [if_pos hok]
            refine ⟨attempt, ?_⟩
            simp only [endingOf, if_pos hok] at hhere
            apply hhere
            intro _ _ hworth
            have hnot := hworth.left
            rw [hok] at hnot
            cases hnot
          · simp only [if_neg hok]
            split
            · rename_i hgo
              rcases hgo with ⟨hcan, hstatus, hlt⟩
              apply exists_stopsAt_pause hlt hcan
              · rw [houtcome]
                exact ⟨Bool.eq_false_iff.mpr hok, hstatus⟩
              · exact fun _ => rfl
              · exact ih (by omega) (by omega)
            · rename_i hstop
              refine ⟨attempt, ?_⟩
              simp only [endingOf, if_neg hok] at hhere
              apply hhere
              intro hlt hcan hworth
              exact hstop ⟨hcan, hworth.right, hlt⟩

/-- Where every pause ends, only the pauses tell two policies apart. -/
theorem attemptLoop_backoff {policy' : HTTPRetryPolicy}
    (hstatuses : policy'.retryStatuses = policy.retryStatuses)
    (hpolicy : forall k, 1 ≤ k -> k < attempts ->
      sleepBeforeRetry policy k = .done)
    (hpolicy' : forall k, 1 ≤ k -> k < attempts ->
      sleepBeforeRetry policy' k = .done)
    {left attempt : Nat} {last : Option ε} (hattempt : 1 ≤ attempt) :
    attemptLoop client policy' canRetry okStatuses attempts outcomes left attempt
        last =
      attemptLoop client policy canRetry okStatuses attempts outcomes left attempt
        last := by
  induction left generalizing attempt last with
  | zero =>
      cases last with
      | none => rfl
      | some e => rfl
  | succ left ih =>
      have hrest := fun last => @ih (attempt + 1) last (Nat.le_add_left 1 attempt)
      have hpause : forall (actions : List (Action ρ)) (rest : Run ρ ε),
          attempt < attempts -> pauseThen policy' attempt actions rest =
            pauseThen policy attempt actions rest := by
        intro actions rest hlt
        unfold pauseThen
        rw [hpolicy attempt hattempt hlt, hpolicy' attempt hattempt hlt]
      unfold attemptLoop
      cases outcomes attempt with
      | raised e =>
          by_cases hstop : canRetry = false ∨ attempts ≤ attempt
          · simp only [if_pos hstop]
          · have hlt : attempt < attempts := by
              rw [not_or, Nat.not_le] at hstop
              exact hstop.right
            simp only [if_neg hstop, hrest, hpause _ _ hlt]
      | response r =>
          rw [hstatuses]
          by_cases hgo : canRetry = true ∧
              client.statusCode r ∈ policy.retryStatuses ∧ attempt < attempts
          · simp only [if_pos hgo, hrest, hpause _ _ hgo.right.right]
          · simp only [if_neg hgo]

end Stops

/-!
## The call
-/

/-- Every pause of the policy ends: none is NaN and none is infinite. -/
def HTTPRetryPolicy.Patient (policy : HTTPRetryPolicy) : Prop :=
  forall attempt, 1 ≤ attempt -> attempt < policy.most ->
    sleepBeforeRetry policy attempt = .done

section Honest

variable {ρ : Type u} {ε : Type v}

/-- A call that is bounded and honest. -/
structure Honest (I : Interpreter) (client : ServiceHTTPClient ρ ε)
    (policy : HTTPRetryPolicy) (method : PyStr) (okStatuses : Option (List Int))
    (outcomes : Nat -> Outcome ρ ε) (run : Run ρ ε) : Prop where
  sends : 1 ≤ run.sent
  bounded : run.sent ≤ policy.most
  once : policy.shouldRetryMethod I method = false -> run.sent = 1
  again : forall k, 1 ≤ k -> k < run.sent ->
    WorthRetry client policy okStatuses (outcomes k)
  stops : forall k r, 1 ≤ k -> outcomes k = .response r ->
    responseOk (client.statusCode r) okStatuses = true -> run.sent ≤ k
  returns : forall r, run.ending = .returned r <-> outcomes run.sent = .response r ∧
    responseOk (client.statusCode r) okStatuses = true
  inside : run.ending.isBehindLoop = false
  last : policy.Patient -> run.ending = endingOf client okStatuses (outcomes run.sent)

variable {client : ServiceHTTPClient ρ ε} {policy : HTTPRetryPolicy}
  {okStatuses : Option (List Int)} {outcome : Outcome ρ ε}

theorem endingOf_returned {r : ρ} :
    endingOf client okStatuses outcome = .returned r <->
      outcome = .response r ∧
        responseOk (client.statusCode r) okStatuses = true := by
  cases outcome with
  | raised e =>
      refine iff_of_false ?_ (fun h => nomatch h.left)
      simp only [endingOf]
      split
      · exact nofun
      · exact nofun
  | response r' =>
      simp only [endingOf]
      split
      · rename_i hok
        constructor
        · intro h
          cases h
          exact ⟨rfl, hok⟩
        · intro h
          cases h.left
          rfl
      · rename_i hok
        refine iff_of_false nofun ?_
        intro h
        cases h.left
        exact hok h.right

theorem isBehindLoop_endingOf :
    (endingOf client okStatuses outcome).isBehindLoop = false := by
  unfold endingOf
  cases outcome with
  | raised e =>
      simp only
      split
      · rfl
      · rfl
  | response r =>
      simp only
      split
      · rfl
      · rfl

theorem not_returned_of_worthRetry {r : ρ}
    (h : WorthRetry client policy okStatuses outcome) :
    ¬ (outcome = .response r ∧
      responseOk (client.statusCode r) okStatuses = true) := by
  intro hok
  rw [hok.left] at h
  rw [h.left] at hok
  cases hok.right

theorem StopsAt.honest {I : Interpreter} {method : PyStr}
    {outcomes : Nat -> Outcome ρ ε} {n : Nat} {run : Run ρ ε}
    (h : StopsAt client policy okStatuses (policy.shouldRetryMethod I method)
      policy.most outcomes 1 n run) :
    Honest I client policy method okStatuses outcomes run := by
  have hbehind := h.behind
  have hsent : run.sent = n := by
    have hcount := h.sent
    omega
  have hearlier : forall k, 1 ≤ k -> k < run.sent ->
      WorthRetry client policy okStatuses (outcomes k) := by
    intro k hk hlt
    exact (h.earlier k hk (hsent ▸ hlt)).right
  have hstops : forall k r, 1 ≤ k -> outcomes k = .response r ->
      responseOk (client.statusCode r) okStatuses = true -> run.sent ≤ k := by
    intro k r hk hresponse hok
    by_contra hlt
    exact not_returned_of_worthRetry (hearlier k hk (Nat.not_le.mp hlt))
      ⟨hresponse, hok⟩
  constructor
  · omega
  · rw [hsent]
    exact h.bounded
  · intro hno
    by_contra hmore
    have hfirst := h.earlier 1 (Nat.le_refl 1) (by omega)
    rw [hno] at hfirst
    cases hfirst.left
  · exact hearlier
  · exact hstops
  · intro r
    rw [hsent]
    rcases h.ending with ⟨hending, _⟩ | ⟨_, _, hworth, hbreaks⟩
    · rw [hending]
      exact endingOf_returned
    · refine iff_of_false ?_ (not_returned_of_worthRetry hworth)
      rcases hbreaks with ⟨e, _, hending⟩ | ⟨_, hending⟩
      · rw [hending]
        exact nofun
      · rw [hending]
        exact nofun
  · rcases h.ending with ⟨hending, _⟩ | ⟨_, _, _, hbreaks⟩
    · rw [hending]
      exact isBehindLoop_endingOf
    · rcases hbreaks with ⟨e, _, hending⟩ | ⟨_, hending⟩
      · rw [hending]
        rfl
      · rw [hending]
        rfl
  · intro hpatient
    rw [hsent]
    rcases h.ending with ⟨hending, _⟩ | ⟨hlt, _, _, hbreaks⟩
    · exact hending
    · have hdone := hpatient n hbehind hlt
      rcases hbreaks with ⟨e, hpause, _⟩ | ⟨hpause, _⟩
      · rw [hdone] at hpause
        cases hpause
      · rw [hdone] at hpause
        cases hpause

/-- Two policies that differ in their pauses only, where all of these end, make no
difference to the call. -/
def BackoffDoesNotMatter (I : Interpreter) (client : ServiceHTTPClient ρ ε)
    (policy : HTTPRetryPolicy) (method : PyStr) (okStatuses : Option (List Int))
    (outcomes : Nat -> Outcome ρ ε) : Prop :=
  forall backoff, policy.Patient ->
    HTTPRetryPolicy.Patient { policy with backoffSeconds := backoff } ->
    request I client method okStatuses
        (some { policy with backoffSeconds := backoff }) outcomes =
      request I client method okStatuses (some policy) outcomes

theorem request_honest (I : Interpreter) (client : ServiceHTTPClient ρ ε)
    (method : PyStr) (okStatuses : Option (List Int))
    (retryPolicy : Option HTTPRetryPolicy) (outcomes : Nat -> Outcome ρ ε) :
    Honest I client (retryPolicy.getD client.retryPolicy) method okStatuses outcomes
        (request I client method okStatuses retryPolicy outcomes) ∧
      BackoffDoesNotMatter I client (retryPolicy.getD client.retryPolicy) method
        okStatuses outcomes := by
  constructor
  · have hmost : 1 ≤ (retryPolicy.getD client.retryPolicy).most := by
      unfold HTTPRetryPolicy.most
      omega
    rcases exists_stopsAt (Nat.add_comm _ 1 |>.trans (Nat.add_comm 1 _)) hmost with
      ⟨n, hn⟩
    exact hn.honest
  · intro backoff hpatient hpatient'
    exact @attemptLoop_backoff _ _ client (retryPolicy.getD client.retryPolicy)
      okStatuses _ _ outcomes
      { retryPolicy.getD client.retryPolicy with backoffSeconds := backoff } rfl
      hpatient hpatient' _ _ _ (Nat.le_refl 1)

end Honest

/-!
### Sample calls
-/

/-- A client whose responses are their status codes, and whose exceptions say
whether the service was unreachable. -/
def sampleClient (backoff : Double) : ServiceHTTPClient Int Bool where
  statusCode status := status
  text _ := []
  unreachable e := e
  message _ := str "down"
  retryPolicy :=
    { attempts := 2
      backoffSeconds := backoff
      retryStatuses := [502, 503, 504]
      retryMethods := ["GET", "HEAD", "OPTIONS"].map str }

/-- Unavailable once, then fine. -/
def sampleOutcomes (attempt : Nat) : Outcome Int Bool :=
  .response (if attempt = 1 then 503 else 200)

def sampleZero : Double :=
  .finite false 0 (by decide +kernel)

/-- A method in lower case is tried again although the policy does not list it, a
pause of NaN seconds ends the call with an exception of its own, and an infinite one
does not end. -/
theorem request_not_honest :
    (str "get" ∉ (sampleClient sampleZero).retryPolicy.retryMethods ∧
      (request asciiInterpreter (sampleClient sampleZero) (str "get") none none
        sampleOutcomes).sent = 2) ∧
    (request asciiInterpreter (sampleClient .nan) (str "GET") none none
      sampleOutcomes).ending = .interrupted .valueError ∧
    (request asciiInterpreter (sampleClient (.infinite false)) (str "GET") none none
      sampleOutcomes).ending = .asleep := by
  refine ⟨⟨by decide, ?_⟩, ?_, ?_⟩
  · decide
  · decide +kernel
  · decide +kernel

end Http
end EidolonSdk
