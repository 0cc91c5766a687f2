import EidolonSdk.Logic.Runs
import EidolonSdk.Python.Text

/-!
# The audit stream

Every authority makes sure that the stream it publishes into exists, and none of
them waits for another.  A call asks for the stream first and adds it when it is
missing, and anything may happen between the two.
-/

namespace EidolonSdk
namespace Audit

open Python Logic

inductive RetentionPolicy where
  | limits
  | interest
  | workQueue
  deriving DecidableEq

inductive StorageType where
  | file
  | memory
  deriving DecidableEq

structure StreamConfig where
  name : PyStr
  subjects : List PyStr
  retention : RetentionPolicy
  storage : StorageType
  /-- In seconds. -/
  maxAge : Nat
  maxBytes : Nat
  deriving DecidableEq

def auditStreamName : PyStr := str "EIDOLON_AUDIT_V1"

def auditSubjectPrefix : PyStr := str "eidolon.audit.v1"

/-- {lit}`timedelta(days=30)`, in seconds. -/
def auditMaxAge : Nat := 30 * 24 * 60 * 60

def auditMaxBytes : Nat := 512 * 1024 * 1024

/-- The configuration {lit}`ensure_audit_stream` adds. -/
def auditConfig : StreamConfig where
  name := auditStreamName
  subjects := [auditSubjectPrefix ++ str ".>"]
  retention := .limits
  storage := .file
  maxAge := auditMaxAge
  maxBytes := auditMaxBytes

universe u v w

/-- What a client knows of a broker with states {lit}`β`, exceptions {lit}`ε` and
other users who do {lit}`ω` to it. -/
structure JetStream (β : Type u) (ε : Type v) (ω : Type w) where
  /-- What the broker holds under the name of the audit stream. -/
  stream : β -> Option StreamConfig
  streamInfo : PyStr -> β -> Except ε Unit × β
  addStream : StreamConfig -> β -> Except ε Unit × β
  isNotFoundError : ε -> Bool
  isBadRequestError : ε -> Bool
  outside : ω -> β -> β

/-- What the code relies on.  Asking changes nothing, and adding leaves a stream that
exists alone.  An answer may get lost on the way whatever the broker did, and a
request may be a bad one for other reasons than a stream that exists. -/
structure JetStream.Lawful {β : Type u} {ε : Type v} {ω : Type w}
    (J : JetStream β ε ω) : Prop where
  info_keeps : forall b, J.stream (J.streamInfo auditStreamName b).2 = J.stream b
  info_found : forall b, (J.streamInfo auditStreamName b).1 = .ok () ->
    J.stream b ≠ none
  add_keeps : forall b config, J.stream b = some config ->
    J.stream (J.addStream auditConfig b).2 = some config
  add_creates : forall b, J.stream b = none ->
    J.stream (J.addStream auditConfig b).2 = none ∨
      J.stream (J.addStream auditConfig b).2 = some auditConfig
  add_done : forall b, (J.addStream auditConfig b).1 = .ok () ->
    J.stream (J.addStream auditConfig b).2 ≠ none

/-- Where a call of {lit}`ensure_audit_stream` is. -/
inductive Ensuring (ε : Type v) where
  /-- In front of {lit}`stream_info`. -/
  | asking
  /-- In front of {lit}`add_stream`. -/
  | adding
  /-- It returned, because adding was a bad request. -/
  | refused
  | ended (result : Except ε Unit)

/-- {lit}`ensure_audit_stream` up to its next {lit}`await`. -/
def ensureAuditStream {β : Type u} {ε : Type v} {ω : Type w} (J : JetStream β ε ω)
    (b : β) : Ensuring ε -> Option (Ensuring ε × β)
  | .asking =>
      let answer := J.streamInfo auditStreamName b
      match answer.1 with
      | .ok _ => some (.ended (.ok ()), answer.2)
      | .error e =>
          if J.isNotFoundError e = true then some (.adding, answer.2)
          else some (.ended (.error e), answer.2)
  | .adding =>
      let answer := J.addStream auditConfig b
      match answer.1 with
      | .ok _ => some (.ended (.ok ()), answer.2)
      | .error e =>
          if J.isBadRequestError e = true then some (.refused, answer.2)
          else some (.ended (.error e), answer.2)
  | .refused => none
  | .ended _ => none

/-- A broker and the calls of all authorities. -/
structure Host (β : Type u) (ε : Type v) where
  broker : β
  calls : List (Ensuring ε)

inductive Event (ω : Type w) where
  | call
  /-- A call goes on. -/
  | go (call : Nat)
  | outside (o : ω)

section Steps

variable {β : Type u} {ε : Type v} {ω : Type w} (J : JetStream β ε ω)

def Host.step (s : Host β ε) : Event ω -> Option (Host β ε)
  | .call => some { s with calls := s.calls ++ [.asking] }
  | .go i =>
      match s.calls[i]? with
      | none => none
      | some call =>
          (ensureAuditStream J s.broker call).map fun (next, b) =>
            ⟨b, s.calls.set i next⟩
  | .outside o => some { s with broker := J.outside o s.broker }

end Steps

/-!
## One call
-/

section Call

variable {β : Type u} {ε : Type v} {ω : Type w} {J : JetStream β ε ω}
variable {b b' : β} {call next : Ensuring ε}

/-- A call that found the stream or added it. -/
def Ensuring.Ensured : Ensuring ε -> Prop
  | .ended (.ok _) => True
  | _ => False

theorem ensure_asking (h : ensureAuditStream J b .asking = some (next, b')) :
    b' = (J.streamInfo auditStreamName b).2 ∧
      (next.Ensured -> (J.streamInfo auditStreamName b).1 = .ok ()) := by
  unfold ensureAuditStream at h
  cases hanswer : (J.streamInfo auditStreamName b).1 with
  | ok done =>
      simp only [hanswer] at h
      cases h
      exact ⟨rfl, fun _ => rfl⟩
  | error e =>
      simp only [hanswer] at h
      by_cases hmissing : J.isNotFoundError e = true
      · rw [if_pos hmissing] at h
        cases h
        exact ⟨rfl, False.elim⟩
      · rw [if_neg hmissing] at h
        cases h
        exact ⟨rfl, False.elim⟩

theorem ensure_adding (h : ensureAuditStream J b .adding = some (next, b')) :
    b' = (J.addStream auditConfig b).2 ∧
      (next.Ensured -> (J.addStream auditConfig b).1 = .ok ()) := by
  unfold ensureAuditStream at h
  cases hanswer : (J.addStream auditConfig b).1 with
  | ok done =>
      simp only [hanswer] at h
      cases h
      exact ⟨rfl, fun _ => rfl⟩
  | error e =>
      simp only [hanswer] at h
      by_cases hrefused : J.isBadRequestError e = true
      · rw [if_pos hrefused] at h
        cases h
        exact ⟨rfl, False.elim⟩
      · rw [if_neg hrefused] at h
        cases h
        exact ⟨rfl, False.elim⟩

/-- What a stream may become: it stays, or the audit stream is created. -/
def Grows (before after : Option StreamConfig) : Prop :=
  after = before ∨ before = none ∧ after = some auditConfig

theorem Grows.refl (c : Option StreamConfig) : Grows c c := Or.inl rfl

theorem Grows.exists {a b : Option StreamConfig} (h : Grows a b) (ha : a ≠ none) :
    b = a := by
  cases h with
  | inl heq => exact heq
  | inr hcreated => exact absurd hcreated.left ha

/-- No call updates a stream, and one that found or added it leaves one behind. -/
theorem ensure_step (hJ : J.Lawful) (h : ensureAuditStream J b call = some (next, b')) :
    Grows (J.stream b) (J.stream b') ∧ (next.Ensured -> J.stream b' ≠ none) := by
  cases call with
  | ended result => cases h
  | refused => cases h
  | asking =>
      rcases ensure_asking h with ⟨hb', hensured⟩
      rw [hb', hJ.info_keeps]
      exact ⟨Grows.refl _, fun hnext => hJ.info_found b (hensured hnext)⟩
  | adding =>
      rcases ensure_adding h with ⟨hb', hensured⟩
      have hgrows : Grows (J.stream b) (J.stream b') := by
        rw [hb']
        cases hstream : J.stream b with
        | none =>
            rcases hJ.add_creates b hstream with hnone | hcreated
            · exact Or.inl hnone
            · exact Or.inr ⟨rfl, hcreated⟩
        | some config => exact Or.inl (hJ.add_keeps b config hstream)
      refine ⟨hgrows, fun hnext => ?_⟩
      rw [hb']
      exact hJ.add_done b (hensured hnext)

end Call

/-!
## All calls together
-/

section Runs

variable {β : Type u} {ε : Type v} {ω : Type w} {J : JetStream β ε ω}
variable {s next last : Host β ε} {events : List (Event ω)}

theorem step_go_eq_some {i : Nat} : s.step J (.go i) = some next <->
    exists call reached b, s.calls[i]? = some call ∧
      ensureAuditStream J s.broker call = some (reached, b) ∧
      next = ⟨b, s.calls.set i reached⟩ := by
  show (match s.calls[i]? with
    | none => none
    | some call => (ensureAuditStream J s.broker call).map fun (next, b) =>
        ⟨b, s.calls.set i next⟩) = some next <-> _
  cases hcall : s.calls[i]? with
  | none => simp
  | some call => simp [eq_comm]

theorem ensured_of_set {calls : List (Ensuring ε)} {i j : Nat}
    {reached call : Ensuring ε} (hcall : (calls.set i reached)[j]? = some call) :
    (i = j ∧ call = reached) ∨ calls[j]? = some call := by
  by_cases hij : i = j
  · rw [hij] at hcall
    have hlt : j < calls.length := by
      rcases List.getElem?_eq_some_iff.mp hcall with ⟨hlt, _⟩
      rwa [List.length_set] at hlt
    rw [List.getElem?_set_self hlt] at hcall
    exact Or.inl ⟨hij, (Option.some.inj hcall).symm⟩
  · rw [List.getElem?_set_ne hij] at hcall
    exact Or.inr hcall

/-- What others did to the broker, in order. -/
def outsides : List (Event ω) -> List ω :=
  List.filterMap fun e =>
    match e with
    | .outside o => some o
    | _ => none

/-- Other users change a configuration as {lit}`act` says.  They may create and
update it and never delete it. -/
structure Operators (J : JetStream β ε ω)
    (act : ω -> Option StreamConfig -> Option StreamConfig) : Prop where
  outside : forall o b, J.stream (J.outside o b) = act o (J.stream b)
  keeps : forall o config, act o (some config) ≠ none

/-- The configuration after all that others did. -/
def operated (act : ω -> Option StreamConfig -> Option StreamConfig)
    (config : Option StreamConfig) (os : List ω) : Option StreamConfig :=
  os.foldl (fun c o => act o c) config

variable {act : ω -> Option StreamConfig -> Option StreamConfig}

theorem Operators.act_ne_none (h : Operators J act) (o : ω)
    {config : Option StreamConfig} (hconfig : config ≠ none) : act o config ≠ none := by
  cases config with
  | none => exact absurd rfl hconfig
  | some c => exact h.keeps o c

theorem Operators.operated_ne_none (h : Operators J act) (os : List ω)
    {config : Option StreamConfig} (hconfig : config ≠ none) :
    operated act config os ≠ none := by
  induction os generalizing config with
  | nil => exact hconfig
  | cons o rest ih => exact ih (h.act_ne_none o hconfig)

/-- What is known after the events: others alone account for the configuration,
from the first one on, from a moment when there was none, or from the one a call
created; and a call that found or added one stands for a stream. -/
structure Accounted (J : JetStream β ε ω)
    (act : ω -> Option StreamConfig -> Option StreamConfig) (s : Host β ε)
    (past : List (Event ω)) (t : Host β ε) : Prop where
  existing : J.stream s.broker ≠ none ->
    J.stream t.broker = operated act (J.stream s.broker) (outsides past)
  missing : J.stream s.broker = none ->
    exists front back, outsides past = front ++ back ∧
      (J.stream t.broker = operated act none back ∨
        J.stream t.broker = operated act (some auditConfig) back)
  ensured : forall (i : Nat) (call : Ensuring ε), t.calls[i]? = some call ->
    call.Ensured -> J.stream t.broker ≠ none ∨
      exists earlier, s.calls[i]? = some earlier ∧ earlier.Ensured

theorem accounted_start (s : Host β ε) : Accounted J act s [] s :=
  ⟨fun _ => rfl, fun hnone => ⟨[], [], rfl, Or.inl hnone⟩,
    fun _ call hcall hensured => Or.inr ⟨call, hcall, hensured⟩⟩

theorem Accounted.call {past : List (Event ω)} {t : Host β ε}
    (h : Accounted J act s past t) :
    Accounted J act s (past ++ [.call]) { t with calls := t.calls ++ [.asking] } := by
  have hsame : outsides (past ++ [.call]) = outsides past := by simp [outsides]
  refine ⟨fun hs => by rw [hsame]; exact h.existing hs,
    fun hs => by rw [hsame]; exact h.missing hs, ?_⟩
  intro i call hcall hensured
  rw [List.getElem?_append] at hcall
  by_cases hlt : i < t.calls.length
  · rw [if_pos hlt] at hcall
    exact h.ensured i call hcall hensured
  · rw [if_neg hlt] at hcall
    rw [List.mem_singleton.mp (List.mem_of_getElem? hcall)] at hensured
    exact hensured.elim

theorem Accounted.go (hJ : J.Lawful) (hact : Operators J act)
    {past : List (Event ω)} {t : Host β ε} (h : Accounted J act s past t) {i : Nat}
    (hstep : t.step J (.go i) = some next) :
    Accounted J act s (past ++ [.go i]) next := by
  have hsame : outsides (past ++ [.go i]) = outsides past := by simp [outsides]
  rcases step_go_eq_some.mp hstep with ⟨call, reached, b, hcall, hensure, hnext⟩
  rcases ensure_step hJ hensure with ⟨hgrows, hleft⟩
  rw [hnext]
  refine ⟨?_, ?_, ?_⟩
  · intro hs
    have hold := h.existing hs
    have hthere : J.stream t.broker ≠ none := by
      rw [hold]
      exact hact.operated_ne_none _ hs
    rw [hsame, ← hold]
    exact hgrows.exists hthere
  · intro hs
    rw [hsame]
    rcases h.missing hs with ⟨front, back, houtsides, hold⟩
    rcases hgrows with heq | hcreated
    · refine ⟨front, back, houtsides, ?_⟩
      show J.stream b = _ ∨ J.stream b = _
      rw [heq]
      exact hold
    · exact ⟨outsides past, [], (List.append_nil _).symm, Or.inr hcreated.right⟩
  · intro j call' hcall' hensured
    rcases ensured_of_set hcall' with ⟨_, heq⟩ | hold
    · exact Or.inl (hleft (heq ▸ hensured))
    · rcases h.ensured j call' hold hensured with hthere | hearlier
      · refine Or.inl ?_
        show J.stream b ≠ none
        rw [hgrows.exists hthere]
        exact hthere
      · exact Or.inr hearlier

theorem Accounted.outside (hact : Operators J act) {past : List (Event ω)}
    {t : Host β ε} (h : Accounted J act s past t) (o : ω) :
    Accounted J act s (past ++ [.outside o])
      { t with broker := J.outside o t.broker } := by
  have hmore : outsides (past ++ [.outside o]) = outsides past ++ [o] := by
    simp [outsides]
  refine ⟨?_, ?_, ?_⟩
  · intro hs
    rw [hmore, operated, List.foldl_append]
    exact (hact.outside o t.broker).trans (congrArg (act o) (h.existing hs))
  · intro hs
    rw [hmore]
    rcases h.missing hs with ⟨front, back, houtsides, hold⟩
    refine ⟨front, back ++ [o], by rw [houtsides, List.append_assoc], ?_⟩
    simp only [operated, List.foldl_append]
    exact hold.imp (fun heq => (hact.outside o t.broker).trans (congrArg (act o) heq))
      (fun heq => (hact.outside o t.broker).trans (congrArg (act o) heq))
  · intro i call hcall hensured
    refine (h.ensured i call hcall hensured).imp ?_ id
    intro hthere
    show J.stream (J.outside o t.broker) ≠ none
    rw [hact.outside]
    exact hact.act_ne_none o hthere

/-- However many authorities connect at once, and whatever answers get lost: a
stream that exists is exactly what its operators made of it; one that was missing
is what they made of nothing, or of the audit stream since a call created it; and
where a call has returned, not refused as a bad request, there is one. -/
theorem ensure_creates_and_never_updates (J : JetStream β ε ω)
    (act : ω -> Option StreamConfig -> Option StreamConfig) (hJ : J.Lawful)
    (hact : Operators J act) (s last : Host β ε) (events : List (Event ω))
    (hrun : exec (Host.step J) s events = some last) :
    (J.stream s.broker ≠ none ->
      J.stream last.broker = operated act (J.stream s.broker) (outsides events)) ∧
      (J.stream s.broker = none ->
        exists front back, outsides events = front ++ back ∧
          (J.stream last.broker = operated act none back ∨
            J.stream last.broker = operated act (some auditConfig) back)) ∧
      forall (i : Nat) (call : Ensuring ε), last.calls[i]? = some call ->
        call.Ensured -> J.stream last.broker ≠ none ∨
          exists earlier, s.calls[i]? = some earlier ∧ earlier.Ensured := by
  have hlast : Accounted J act s ([] ++ events) last := by
    refine exec_history ?_ (accounted_start s) hrun
    intro past t e next h hstep
    cases e with
    | call => exact Option.some.inj hstep ▸ h.call
    | go i => exact h.go hJ hact hstep
    | outside o => exact Option.some.inj hstep ▸ h.outside hact o
  exact ⟨hlast.existing, hlast.missing, hlast.ensured⟩

/-- A broker that answers at once.  Its operators widen the window. -/
def sampleBroker : JetStream (Option StreamConfig) Nat Nat where
  stream := id
  streamInfo := fun _ b => if b.isSome = true then (.ok (), b) else (.error 404, b)
  addStream := fun config b =>
    match b with
    | none => (.ok (), some config)
    | some _ => (.error 400, b)
  isNotFoundError := fun e => e == 404
  isBadRequestError := fun e => e == 400
  outside := fun age b => b.map fun config => { config with maxAge := age }

theorem sampleBroker_lawful : sampleBroker.Lawful := by
  refine ⟨?_, ?_, ?_, ?_, ?_⟩
  · intro b
    cases b with
    | none => rfl
    | some config => rfl
  · intro b h
    cases b with
    | none => cases h
    | some config => nofun
  · intro b config h
    cases b with
    | none => cases h
    | some config' => exact h
  · intro b h
    cases b with
    | none => exact Or.inr rfl
    | some config => cases h
  · intro b h
    cases b with
    | none => nofun
    | some config => nofun

theorem sampleBroker_operators : Operators sampleBroker fun age config =>
    config.map fun config => { config with maxAge := age } :=
  ⟨fun _ _ => rfl, fun _ _ => nofun⟩

/-- Two calls find the stream missing, and the window is widened in between. -/
theorem ensure_creates_and_never_updates_race :
    exists last : Host (Option StreamConfig) Nat,
      exec (Host.step sampleBroker) ⟨none, []⟩
          [.call, .call, .go 0, .go 1, .go 0, .outside 7, .go 1] = some last ∧
        last.broker = some { auditConfig with maxAge := 7 } ∧
        forall (i : Nat) (call : Ensuring Nat), last.calls[i]? = some call ->
          call.Ensured -> sampleBroker.stream last.broker ≠ none ∨
            exists earlier : Ensuring Nat, [][i]? = some earlier ∧
              earlier.Ensured := by
  refine ⟨⟨some { auditConfig with maxAge := 7 },
    [.ended (.ok ()), .refused]⟩, rfl, rfl, ?_⟩
  exact (ensure_creates_and_never_updates sampleBroker _ sampleBroker_lawful
    sampleBroker_operators ⟨none, []⟩ _
    [.call, .call, .go 0, .go 1, .go 0, .outside 7, .go 1] rfl).right.right

end Runs

end Audit
end EidolonSdk
