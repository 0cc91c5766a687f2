import EidolonSdk.Audit.Stream

/-!
# The connection of the publisher

A publisher holds one connection, and any number of calls may connect and close
it at the same time: each of them runs on its own between two suspensions.  What
a call opens it hands over, keeps in its hands or closes.  It loses a connection
only where two calls connect at once or closing goes wrong.
-/

namespace EidolonSdk
namespace Audit

open Python Logic

universe v

/-- Where a call of {lit}`connect` or {lit}`close` is suspended, or how it ended. -/
inductive Call (ε : Type v) where
  /-- In {lit}`nats.connect`. -/
  | dialing
  /-- In {lit}`ensure_audit_stream`. -/
  | ensuring (connection : Nat)
  /-- In {lit}`connection.close()`, with the exception to be raised again. -/
  | discarding (connection : Nat) (e : ε)
  /-- In {lit}`connection.drain()`. -/
  | draining (connection : Nat)
  /-- In {lit}`connection.close()`, behind a drain that timed out. -/
  | closing (connection : Nat)
  /-- {lit}`connect` returned, and this is {lit}`self._jetstream` then. -/
  | connected (jetstream : Option Nat)
  | closed
  | raised (e : ε)
  | cancelled
  deriving DecidableEq

/-- How what a call waits for ends. -/
inductive Reply (ε : Type v) where
  | ok
  /-- {lit}`TimeoutError` of {lit}`asyncio.wait_for`. -/
  | timedOut
  | raised (e : ε)
  /-- {lit}`CancelledError`, which is no {lit}`Exception`. -/
  | cancelled
  deriving DecidableEq

/-- Connections are known by their numbers, and so are the contexts made of
them. -/
structure JetStreamAuditPublisher (ε : Type v) where
  /-- {lit}`self._connection`. -/
  connection : Option Nat
  /-- {lit}`self._jetstream`. -/
  jetstream : Option Nat
  opened : Nat
  /-- The connections that are closed. -/
  ended : List Nat
  calls : List (Call ε)
  deriving DecidableEq

inductive Act (ε : Type v) where
  | connect
  | close
  | resume (call : Nat) (reply : Reply ε)
  /-- A connection gives up reconnecting. -/
  | lost (connection : Nat)
  deriving DecidableEq

namespace JetStreamAuditPublisher

variable {ε : Type v}

def new : JetStreamAuditPublisher ε := ⟨none, none, 0, [], []⟩

/-- {lit}`self._connection is not None and not self._connection.is_closed`. -/
def isConnected (p : JetStreamAuditPublisher ε) : Bool :=
  match p.connection with
  | none => false
  | some k => !p.ended.contains k

/-- {lit}`connect` up to its first suspension. -/
def connect (p : JetStreamAuditPublisher ε) : JetStreamAuditPublisher ε :=
  if p.isConnected = true then
    { p with calls := p.calls ++ [.connected p.jetstream] }
  else
    { p with
      connection := none
      jetstream := none
      calls := p.calls ++ [.dialing] }

/-- {lit}`close` up to its first suspension. -/
def close (p : JetStreamAuditPublisher ε) : JetStreamAuditPublisher ε :=
  { p with
    connection := none
    jetstream := none
    calls := p.calls ++ [
      match p.connection with
      | none => .closed
      | some k => .draining k] }

def finishConnection (p : JetStreamAuditPublisher ε) (k : Nat) :
    JetStreamAuditPublisher ε :=
  { p with ended := k :: p.ended }

/-- A call from one suspension to the next. -/
def resume (p : JetStreamAuditPublisher ε) :
    Call ε -> Reply ε -> Option (JetStreamAuditPublisher ε × Call ε)
  | .dialing, .ok => some ({ p with opened := p.opened + 1 }, .ensuring p.opened)
  | .dialing, .raised e => some (p, .raised e)
  | .dialing, .cancelled => some (p, .cancelled)
  | .ensuring k, .ok =>
      some ({ p with connection := some k, jetstream := some k }, .connected (some k))
  | .ensuring k, .raised e => some (p, .discarding k e)
  | .ensuring _, .cancelled => some (p, .cancelled)
  | .discarding k e, .ok => some (p.finishConnection k, .raised e)
  | .discarding _ _, .raised e => some (p, .raised e)
  | .discarding _ _, .cancelled => some (p, .cancelled)
  | .draining k, .ok => some (p.finishConnection k, .closed)
  | .draining k, .timedOut => some (p, .closing k)
  | .draining _, .raised e => some (p, .raised e)
  | .draining _, .cancelled => some (p, .cancelled)
  | .closing k, .ok => some (p.finishConnection k, .closed)
  | .closing _, .raised e => some (p, .raised e)
  | .closing _, .cancelled => some (p, .cancelled)
  | _, _ => none

def step (p : JetStreamAuditPublisher ε) :
    Act ε -> Option (JetStreamAuditPublisher ε)
  | .connect => some p.connect
  | .close => some p.close
  | .lost k => if k < p.opened then some (p.finishConnection k) else none
  | .resume i reply =>
      match p.calls[i]? with
      | none => none
      | some call => (p.resume call reply).map fun (next, reached) =>
          { next with calls := p.calls.set i reached }

end JetStreamAuditPublisher

/-- The connection a call has in its hands. -/
def Call.hand {ε : Type v} : Call ε -> Option Nat
  | .ensuring k => some k
  | .discarding k _ => some k
  | .draining k => some k
  | .closing k => some k
  | _ => none

/-- Whether a call is connecting. -/
def Call.isConnecting {ε : Type v} : Call ε -> Bool
  | .dialing => true
  | .ensuring _ => true
  | _ => false

/-- Whether a call is about to close its connection. -/
def Call.isClosing {ε : Type v} : Call ε -> Bool
  | .discarding _ _ => true
  | .draining _ => true
  | .closing _ => true
  | _ => false

namespace JetStreamAuditPublisher

variable {ε : Type v} {p next : JetStreamAuditPublisher ε}

/-!
## One step
-/

/-- What a call does when it goes on. -/
inductive Goes (p : JetStreamAuditPublisher ε) :
    Call ε -> Reply ε -> JetStreamAuditPublisher ε -> Call ε -> Prop where
  | opens : Goes p .dialing .ok { p with opened := p.opened + 1 } (.ensuring p.opened)
  | hands (k : Nat) : Goes p (.ensuring k) .ok
      { p with connection := some k, jetstream := some k } (.connected (some k))
  /-- It goes on with what it has in its hands. -/
  | keeps (call : Call ε) (reply : Reply ε) (reached : Call ε)
      (hhand : reached.hand = call.hand) (hnone : forall j, reached ≠ .connected j)
      (hconnecting : reached.isConnecting = false) : Goes p call reply p reached
  | ends (k : Nat) (call : Call ε) (reached : Call ε) (hhand : call.hand = some k)
      (hreached : reached.hand = none) (hnone : forall j, reached ≠ .connected j)
      (hconnecting : reached.isConnecting = false) :
      Goes p call .ok (p.finishConnection k) reached
  /-- It gives up what it has in its hands. -/
  | drops (k : Nat) (call : Call ε) (reply : Reply ε) (reached : Call ε)
      (hhand : call.hand = some k) (hreached : reached.hand = none)
      (hnone : forall j, reached ≠ .connected j)
      (hconnecting : reached.isConnecting = false)
      (hwrong : reply = .cancelled ∨
        call.isClosing = true ∧ exists e, reply = .raised e) :
      Goes p call reply p reached

theorem resume_goes {call reached : Call ε} {reply : Reply ε}
    (h : p.resume call reply = some (next, reached)) :
    Goes p call reply next reached := by
  cases call with
  | dialing =>
      cases reply with
      | ok => cases h; exact Goes.opens
      | timedOut => cases h
      | raised e => cases h; exact Goes.keeps _ _ _ rfl (fun _ => nofun) rfl
      | cancelled => cases h; exact Goes.keeps _ _ _ rfl (fun _ => nofun) rfl
  | ensuring k =>
      cases reply with
      | ok => cases h; exact Goes.hands k
      | timedOut => cases h
      | raised e => cases h; exact Goes.keeps _ _ _ rfl (fun _ => nofun) rfl
      | cancelled =>
          cases h
          exact Goes.drops k _ _ _ rfl rfl (fun _ => nofun) rfl (Or.inl rfl)
  | discarding k e =>
      cases reply with
      | ok => cases h; exact Goes.ends k _ _ rfl rfl (fun _ => nofun) rfl
      | timedOut => cases h
      | raised e' =>
          cases h
          exact Goes.drops k _ _ _ rfl rfl (fun _ => nofun) rfl (Or.inr ⟨rfl, e', rfl⟩)
      | cancelled =>
          cases h
          exact Goes.drops k _ _ _ rfl rfl (fun _ => nofun) rfl (Or.inl rfl)
  | draining k =>
      cases reply with
      | ok => cases h; exact Goes.ends k _ _ rfl rfl (fun _ => nofun) rfl
      | timedOut => cases h; exact Goes.keeps _ _ _ rfl (fun _ => nofun) rfl
      | raised e =>
          cases h
          exact Goes.drops k _ _ _ rfl rfl (fun _ => nofun) rfl (Or.inr ⟨rfl, e, rfl⟩)
      | cancelled =>
          cases h
          exact Goes.drops k _ _ _ rfl rfl (fun _ => nofun) rfl (Or.inl rfl)
  | closing k =>
      cases reply with
      | ok => cases h; exact Goes.ends k _ _ rfl rfl (fun _ => nofun) rfl
      | timedOut => cases h
      | raised e =>
          cases h
          exact Goes.drops k _ _ _ rfl rfl (fun _ => nofun) rfl (Or.inr ⟨rfl, e, rfl⟩)
      | cancelled =>
          cases h
          exact Goes.drops k _ _ _ rfl rfl (fun _ => nofun) rfl (Or.inl rfl)
  | connected j => cases h
  | closed => cases h
  | raised e => cases h
  | cancelled => cases h

theorem step_lost_eq_some {k : Nat} :
    p.step (.lost k) = some next <->
      k < p.opened ∧ next = p.finishConnection k := by
  show (if k < p.opened then some (p.finishConnection k) else none) = some next <-> _
  by_cases hk : k < p.opened
  · simp [hk, eq_comm]
  · simp [hk]

theorem step_resume_eq_some {i : Nat} {reply : Reply ε} :
    p.step (.resume i reply) = some next <->
      exists call after reached, p.calls[i]? = some call ∧
        p.resume call reply = some (after, reached) ∧
        next = { after with calls := p.calls.set i reached } := by
  show (match p.calls[i]? with
    | none => none
    | some call => (p.resume call reply).map fun (next, reached) =>
        { next with calls := p.calls.set i reached }) = some next <-> _
  cases p.calls[i]? with
  | none => simp
  | some call => simp [eq_comm]

theorem set_eq_some {calls : List (Call ε)} {i j : Nat} {reached call : Call ε}
    (h : (calls.set i reached)[j]? = some call) :
    (j = i ∧ call = reached) ∨ (j ≠ i ∧ calls[j]? = some call) := by
  by_cases hji : j = i
  · have hlt : j < calls.length := by
      rcases List.getElem?_eq_some_iff.mp h with ⟨hlt, _⟩
      rwa [List.length_set] at hlt
    rw [hji] at h hlt
    rw [List.getElem?_set_self hlt] at h
    exact Or.inl ⟨hji, (Option.some.inj h).symm⟩
  · rw [List.getElem?_set_ne (Ne.symm hji)] at h
    exact Or.inr ⟨hji, h⟩

theorem append_eq_some {calls : List (Call ε)} {j : Nat} {new call : Call ε}
    (h : (calls ++ [new])[j]? = some call) :
    calls[j]? = some call ∨ (j = calls.length ∧ call = new) := by
  rcases List.getElem?_eq_some_iff.mp h with ⟨hlt, hget⟩
  rw [List.length_append, List.length_singleton] at hlt
  rcases Nat.lt_succ_iff_lt_or_eq.mp hlt with hbefore | hlast
  · rw [List.getElem?_append_left hbefore] at h
    exact Or.inl h
  · rw [hlast, List.getElem?_concat_length] at h
    exact Or.inr ⟨hlast, (Option.some.inj h).symm⟩

/-!
## What holds in every run
-/

/-- The fields go together, and each connection has one place at most. -/
structure Sound (p : JetStreamAuditPublisher ε) : Prop where
  together : p.jetstream = p.connection
  held : forall k, p.connection = some k -> k < p.opened
  hands : forall (i : Nat) (call : Call ε) (k : Nat), p.calls[i]? = some call ->
    call.hand = some k -> k < p.opened ∧ p.connection ≠ some k
  apart : forall (i j : Nat) (call other : Call ε) (k : Nat),
    p.calls[i]? = some call -> p.calls[j]? = some other ->
    call.hand = some k -> other.hand = some k -> i = j
  connected : forall i : Nat, p.calls[i]? ≠ some (.connected none)

theorem Sound.new : (JetStreamAuditPublisher.new : JetStreamAuditPublisher ε).Sound where
  together := rfl
  held k h := by cases h
  hands i call k h := by cases h
  apart i j call other k h := by cases h
  connected i h := by cases h

/-- A call that starts with nothing in its hands. -/
theorem Sound.starting (h : p.Sound) (connection : Option Nat) (call : Call ε)
    (hconnection : connection = p.connection ∨ connection = none)
    (hhand : forall k, call.hand = some k -> connection = none ∧ p.connection = some k)
    (hconnected : call ≠ .connected none) :
    Sound { p with
      connection := connection
      jetstream := connection
      calls := p.calls ++ [call] } where
  together := rfl
  held k hk := by
    rcases hconnection with hsame | hnone
    · exact h.held k (hsame ▸ hk)
    · cases hnone.symm.trans hk
  hands i c k hc hk := by
    rcases append_eq_some hc with hbefore | ⟨hlast, heq⟩
    · rcases h.hands i c k hbefore hk with ⟨hlt, hne⟩
      refine ⟨hlt, ?_⟩
      rcases hconnection with hsame | hnone
      · exact hsame ▸ hne
      · rw [hnone]
        exact nofun
    · rcases hhand k (heq ▸ hk) with ⟨hnone, hheld⟩
      rw [hnone]
      exact ⟨h.held k hheld, nofun⟩
  apart i j c other k hc hother hk hk' := by
    rcases append_eq_some hc with hbefore | ⟨hlast, heq⟩
    · rcases append_eq_some hother with hbefore' | ⟨hlast', heq'⟩
      · exact h.apart i j c other k hbefore hbefore' hk hk'
      · exact absurd (hhand k (heq' ▸ hk')).right (h.hands i c k hbefore hk).right
    · rcases append_eq_some hother with hbefore' | ⟨hlast', heq'⟩
      · exact absurd (hhand k (heq ▸ hk)).right (h.hands j other k hbefore' hk').right
      · exact hlast.trans hlast'.symm
  connected i hi := by
    rcases append_eq_some hi with hbefore | ⟨hlast, heq⟩
    · exact h.connected i hbefore
    · exact hconnected heq.symm

theorem Sound.connect (h : p.Sound) : p.connect.Sound := by
  unfold JetStreamAuditPublisher.connect
  by_cases hconnected : p.isConnected = true
  · rw [if_pos hconnected]
    have hstays := h.starting p.connection (.connected p.jetstream) (Or.inl rfl)
      (fun k => nofun) (by
        rw [h.together]
        intro hnone
        rw [isConnected, Call.connected.inj hnone] at hconnected
        cases hconnected)
    rw [h.together] at hstays ⊢
    exact hstays
  · rw [if_neg hconnected]
    exact h.starting none _ (Or.inr rfl) (fun k => nofun) nofun

theorem Sound.close (h : p.Sound) : p.close.Sound := by
  unfold JetStreamAuditPublisher.close
  cases hconnection : p.connection with
  | none => exact h.starting none _ (Or.inr rfl) (fun k => nofun) nofun
  | some k =>
      refine h.starting none _ (Or.inr rfl) (fun j hj => ⟨rfl, ?_⟩) nofun
      exact hconnection.trans hj

/-- A call that goes on and holds nothing, or what it held. -/
theorem Sound.going (h : p.Sound) {i : Nat} {call reached : Call ε}
    {ended : List Nat} (hcall : p.calls[i]? = some call)
    (hhand : forall k, reached.hand = some k -> call.hand = some k)
    (hconnected : reached ≠ .connected none) :
    Sound { p with ended := ended, calls := p.calls.set i reached } where
  together := h.together
  held := h.held
  hands j c k hc hk := by
    rcases set_eq_some hc with ⟨hji, heq⟩ | ⟨hji, hbefore⟩
    · exact h.hands i call k hcall (hhand k (heq ▸ hk))
    · exact h.hands j c k hbefore hk
  apart j j' c other k hc hother hk hk' := by
    rcases set_eq_some hc with ⟨hji, heq⟩ | ⟨hji, hbefore⟩
    · rcases set_eq_some hother with ⟨hji', heq'⟩ | ⟨hji', hbefore'⟩
      · exact hji.trans hji'.symm
      · exact hji.trans
          (h.apart i j' call other k hcall hbefore' (hhand k (heq ▸ hk)) hk')
    · rcases set_eq_some hother with ⟨hji', heq'⟩ | ⟨hji', hbefore'⟩
      · exact (h.apart j i c call k hbefore hcall hk
          (hhand k (heq' ▸ hk'))).trans hji'.symm
      · exact h.apart j j' c other k hbefore hbefore' hk hk'
  connected j hj := by
    rcases set_eq_some hj with ⟨_, heq⟩ | ⟨_, hbefore⟩
    · exact hconnected heq.symm
    · exact h.connected j hbefore

theorem Sound.resume (h : p.Sound) {i : Nat} {call reached : Call ε}
    {reply : Reply ε} {after : JetStreamAuditPublisher ε}
    (hcall : p.calls[i]? = some call)
    (hgoes : Goes p call reply after reached) :
    Sound { after with calls := p.calls.set i reached } := by
  cases hgoes with
  | opens =>
      exact
        { together := h.together
          held := fun k hk => Nat.lt_succ_of_lt (h.held k hk)
          hands := by
            intro j c k hc hk
            rcases set_eq_some hc with ⟨_, heq⟩ | ⟨_, hbefore⟩
            · rw [heq] at hk
              have hkey : p.opened = k := Option.some.inj hk
              rw [← hkey]
              exact ⟨Nat.lt_succ_self _, fun hheld =>
                absurd (h.held _ hheld) (Nat.lt_irrefl _)⟩
            · rcases h.hands j c k hbefore hk with ⟨hlt, hne⟩
              exact ⟨Nat.lt_succ_of_lt hlt, hne⟩
          apart := by
            intro j j' c other k hc hother hk hk'
            have hfresh : forall (n : Nat) (o : Call ε), p.calls[n]? = some o ->
                o.hand ≠ some p.opened := fun n o ho hop =>
              absurd (h.hands n o _ ho hop).left (Nat.lt_irrefl _)
            rcases set_eq_some hc with ⟨hji, heq⟩ | ⟨hji, hbefore⟩
            · rcases set_eq_some hother with ⟨hji', _⟩ | ⟨_, hbefore'⟩
              · exact hji.trans hji'.symm
              · rw [heq] at hk
                exact absurd (hk'.trans hk.symm) (hfresh j' other hbefore')
            · rcases set_eq_some hother with ⟨_, heq'⟩ | ⟨_, hbefore'⟩
              · rw [heq'] at hk'
                exact absurd (hk.trans hk'.symm) (hfresh j c hbefore)
              · exact h.apart j j' c other k hbefore hbefore' hk hk'
          connected := by
            intro j hj
            rcases set_eq_some hj with ⟨_, heq⟩ | ⟨_, hbefore⟩
            · cases heq
            · exact h.connected j hbefore }
  | hands k =>
      have hmine : k < p.opened := (h.hands i _ k hcall rfl).left
      exact
        { together := rfl
          held := fun j hj => Option.some.inj hj ▸ hmine
          hands := by
            intro j c n hc hn
            rcases set_eq_some hc with ⟨_, heq⟩ | ⟨hji, hbefore⟩
            · rw [heq] at hn
              cases hn
            · refine ⟨(h.hands j c n hbefore hn).left, fun hheld => hji ?_⟩
              exact h.apart j i c _ n hbefore hcall hn hheld
          apart := by
            intro j j' c other n hc hother hn hn'
            rcases set_eq_some hc with ⟨_, heq⟩ | ⟨_, hbefore⟩
            · rw [heq] at hn
              cases hn
            · rcases set_eq_some hother with ⟨_, heq'⟩ | ⟨_, hbefore'⟩
              · rw [heq'] at hn'
                cases hn'
              · exact h.apart j j' c other n hbefore hbefore' hn hn'
          connected := by
            intro j hj
            rcases set_eq_some hj with ⟨_, heq⟩ | ⟨_, hbefore⟩
            · cases heq
            · exact h.connected j hbefore }
  | keeps _ _ _ hhand hnone _ =>
      exact h.going hcall (fun k hk => hhand ▸ hk) (hnone none)
  | ends k _ _ hhand hreached hnone _ =>
      exact h.going hcall (fun j hj => absurd (hreached.symm.trans hj) nofun)
        (hnone none)
  | drops k _ _ _ hhand hreached hnone _ _ =>
      exact h.going hcall (fun j hj => absurd (hreached.symm.trans hj) nofun)
        (hnone none)

theorem sound_step (h : p.Sound) {a : Act ε} (hstep : p.step a = some next) :
    next.Sound := by
  cases a with
  | connect =>
      cases hstep
      exact h.connect
  | close =>
      cases hstep
      exact h.close
  | lost k =>
      rw [(step_lost_eq_some.mp hstep).right]
      exact ⟨h.together, h.held, h.hands, h.apart, h.connected⟩
  | resume i reply =>
      rcases step_resume_eq_some.mp hstep with
        ⟨call, after, reached, hcall, hresume, hnext⟩
      rw [hnext]
      exact h.resume hcall (resume_goes hresume)

/-!
## What gets lost
-/

/-- No call connects beside another one, nobody is cancelled, and closing works. -/
def orderly (p : JetStreamAuditPublisher ε) : Act ε -> Bool
  | .connect => p.calls.all fun call => !call.isConnecting
  | .resume i reply =>
      match p.calls[i]? with
      | none => true
      | some call =>
          match reply with
          | .cancelled => false
          | .raised _ => !call.isClosing
          | _ => true
  | _ => true

def orderlyStep (p : JetStreamAuditPublisher ε) (a : Act ε) :
    Option (JetStreamAuditPublisher ε) :=
  if p.orderly a = true then p.step a else none

theorem orderlyStep_eq_some {a : Act ε} : p.orderlyStep a = some next <->
    p.orderly a = true ∧ p.step a = some next := by
  rw [orderlyStep]
  by_cases horderly : p.orderly a = true
  · rw [if_pos horderly]
    exact (and_iff_right horderly).symm
  · rw [if_neg horderly]
    exact ⟨nofun, fun h => absurd h.left horderly⟩

/-- Where a connection is that was opened. -/
def Place (p : JetStreamAuditPublisher ε) (k : Nat) : Prop :=
  k ∈ p.ended ∨ p.connection = some k ∨
    exists (i : Nat) (call : Call ε), p.calls[i]? = some call ∧ call.hand = some k

/-- One call connects at most, nothing is held meanwhile, and each connection has
its place. -/
structure Kept (p : JetStreamAuditPublisher ε) : Prop where
  alone : forall (i j : Nat) (call other : Call ε), p.calls[i]? = some call ->
    p.calls[j]? = some other -> call.isConnecting = true ->
    other.isConnecting = true -> i = j
  nothing : forall (i : Nat) (call : Call ε), p.calls[i]? = some call ->
    call.isConnecting = true -> p.connection = none
  placed : forall k, k < p.opened -> p.Place k

theorem Kept.new : (JetStreamAuditPublisher.new : JetStreamAuditPublisher ε).Kept where
  alone i j call other h := by cases h
  nothing i call h := by cases h
  placed k h := absurd h (Nat.not_lt_zero k)

/-- What is placed stays so when a call starts that takes over what was held. -/
theorem Place.starting {connection jetstream : Option Nat} {new : Call ε} {k : Nat}
    (h : p.Place k)
    (hheld : p.connection = some k -> k ∈ p.ended ∨ connection = some k ∨
      new.hand = some k) :
    Place { p with
      connection := connection
      jetstream := jetstream
      calls := p.calls ++ [new] } k := by
  rcases h with hended | hconnection | ⟨i, call, hcall, hhand⟩
  · exact Or.inl hended
  · rcases hheld hconnection with hended | hsame | hhand
    · exact Or.inl hended
    · exact Or.inr (Or.inl hsame)
    · exact Or.inr (Or.inr ⟨p.calls.length, new, List.getElem?_concat_length, hhand⟩)
  · refine Or.inr (Or.inr ⟨i, call, ?_, hhand⟩)
    show (p.calls ++ [new])[i]? = some call
    rw [List.getElem?_append_left (List.getElem?_eq_some_iff.mp hcall).choose]
    exact hcall

/-- A call starts that does not connect. -/
theorem Kept.starting (h : p.Kept) {connection jetstream : Option Nat}
    {new : Call ε} (hconnection : connection = p.connection ∨ connection = none)
    (hnew : new.isConnecting = false)
    (hheld : forall k, p.connection = some k -> connection = some k ∨
      new.hand = some k) :
    Kept { p with
      connection := connection
      jetstream := jetstream
      calls := p.calls ++ [new] } where
  alone i j call other hcall hother hc ho := by
    rcases append_eq_some hcall with hbefore | ⟨_, heq⟩
    · rcases append_eq_some hother with hbefore' | ⟨_, heq'⟩
      · exact h.alone i j call other hbefore hbefore' hc ho
      · exact absurd (hnew.symm.trans (heq' ▸ ho)) Bool.false_ne_true
    · exact absurd (hnew.symm.trans (heq ▸ hc)) Bool.false_ne_true
  nothing i call hcall hc := by
    rcases append_eq_some hcall with hbefore | ⟨_, heq⟩
    · rcases hconnection with hsame | hnone
      · exact hsame.trans (h.nothing i call hbefore hc)
      · exact hnone
    · exact absurd (hnew.symm.trans (heq ▸ hc)) Bool.false_ne_true
  placed k hk := (h.placed k hk).starting fun heq => Or.inr (hheld k heq)

theorem Kept.connect (h : p.Kept)
    (horderly : p.orderly (.connect : Act ε) = true) : p.connect.Kept := by
  unfold JetStreamAuditPublisher.connect
  by_cases hconnected : p.isConnected = true
  · rw [if_pos hconnected]
    exact h.starting (Or.inl rfl) rfl fun k heq => Or.inl heq
  · rw [if_neg hconnected]
    have hfree : forall (i : Nat) (call : Call ε), p.calls[i]? = some call ->
        call.isConnecting ≠ true := by
      intro i call hcall
      have hall := List.all_eq_true.mp horderly call (List.mem_of_getElem? hcall)
      simpa using hall
    refine ⟨fun i j call other hcall hother hc ho => ?_, fun i call hcall hc => rfl,
      fun k hk => ?_⟩
    · rcases append_eq_some hcall with hbefore | ⟨hlast, _⟩
      · exact absurd hc (hfree i call hbefore)
      · rcases append_eq_some hother with hbefore' | ⟨hlast', _⟩
        · exact absurd ho (hfree j other hbefore')
        · exact hlast.trans hlast'.symm
    · refine (h.placed k hk).starting fun heq => Or.inl ?_
      rw [isConnected, heq] at hconnected
      simpa using hconnected

theorem Kept.close (h : p.Kept) : p.close.Kept := by
  unfold JetStreamAuditPublisher.close
  cases hconnection : p.connection with
  | none =>
      exact h.starting (Or.inr rfl) rfl fun k heq =>
        absurd (hconnection.symm.trans heq) nofun
  | some j =>
      exact h.starting (Or.inr rfl) rfl fun k heq =>
        Or.inr (hconnection.symm.trans heq)

/-- A place that is not in the hands of the call that goes on. -/
theorem Place.going {i k : Nat} {call reached : Call ε}
    {after : JetStreamAuditPublisher ε} (hcall : p.calls[i]? = some call)
    (hended : k ∈ p.ended -> k ∈ after.ended)
    (hheld : p.connection = some k -> after.connection = some k)
    (hhand : call.hand = some k -> k ∈ after.ended ∨ after.connection = some k ∨
      reached.hand = some k) (h : p.Place k) :
    Place { after with calls := p.calls.set i reached } k := by
  rcases List.getElem?_eq_some_iff.mp hcall with ⟨hlt, _⟩
  have hset : (p.calls.set i reached)[i]? = some reached :=
    List.getElem?_set_self hlt
  rcases h with hmem | hconnection | ⟨j, other, hother, hk⟩
  · exact Or.inl (hended hmem)
  · exact Or.inr (Or.inl (hheld hconnection))
  · by_cases hji : j = i
    · rw [hji, hcall] at hother
      rcases hhand (Option.some.inj hother ▸ hk) with hmem | hconnection | hreached
      · exact Or.inl hmem
      · exact Or.inr (Or.inl hconnection)
      · exact Or.inr (Or.inr ⟨i, reached, hset, hreached⟩)
    · refine Or.inr (Or.inr ⟨j, other, ?_, hk⟩)
      show (p.calls.set i reached)[j]? = some other
      rw [List.getElem?_set_ne (Ne.symm hji)]
      exact hother

/-- Where a call goes on, the connecting ones were connecting before. -/
theorem Kept.going (h : p.Kept) {i : Nat} {call reached : Call ε}
    {after : JetStreamAuditPublisher ε} (hcall : p.calls[i]? = some call)
    (hconnecting : reached.isConnecting = true -> call.isConnecting = true)
    (hnone : forall (j : Nat) (other : Call ε), j ≠ i -> p.calls[j]? = some other ->
      other.isConnecting = true -> after.connection = none)
    (hmine : reached.isConnecting = true -> after.connection = none)
    (hplaced : forall k, k < after.opened ->
      Place { after with calls := p.calls.set i reached } k) :
    Kept { after with calls := p.calls.set i reached } where
  alone j j' c other hc hother hcc hco := by
    rcases set_eq_some hc with ⟨hji, heq⟩ | ⟨hji, hbefore⟩
    · rcases set_eq_some hother with ⟨hji', heq'⟩ | ⟨hji', hbefore'⟩
      · exact hji.trans hji'.symm
      · exact hji.trans (h.alone i j' call other hcall hbefore'
          (hconnecting (heq ▸ hcc)) hco)
    · rcases set_eq_some hother with ⟨hji', heq'⟩ | ⟨hji', hbefore'⟩
      · exact (h.alone j i c call hbefore hcall hcc
          (hconnecting (heq' ▸ hco))).trans hji'.symm
      · exact h.alone j j' c other hbefore hbefore' hcc hco
  nothing j c hc hcc := by
    rcases set_eq_some hc with ⟨_, heq⟩ | ⟨hji, hbefore⟩
    · exact hmine (heq ▸ hcc)
    · exact hnone j c hji hbefore hcc
  placed := hplaced

theorem Kept.resume (h : p.Kept) {i : Nat} {call reached : Call ε}
    {reply : Reply ε} {after : JetStreamAuditPublisher ε}
    (hcall : p.calls[i]? = some call)
    (horderly : p.orderly (.resume i reply) = true)
    (hgoes : Goes p call reply after reached) :
    Kept { after with calls := p.calls.set i reached } := by
  have hothers : forall (j : Nat) (other : Call ε), j ≠ i ->
      p.calls[j]? = some other -> other.isConnecting = true ->
      p.connection = none := fun j other _ hother ho => h.nothing j other hother ho
  cases hgoes with
  | opens =>
      refine h.going hcall (fun _ => rfl) hothers (fun _ => h.nothing i _ hcall rfl) ?_
      intro k hk
      rcases Nat.lt_succ_iff_lt_or_eq.mp hk with hbefore | hnew
      · exact (h.placed k hbefore).going hcall id id nofun
      · refine Or.inr (Or.inr ⟨i, _, List.getElem?_set_self ?_, hnew ▸ rfl⟩)
        exact (List.getElem?_eq_some_iff.mp hcall).choose
  | hands n =>
      refine h.going hcall nofun (fun j other hji hother ho => ?_) nofun
        fun k hk => ?_
      · exact absurd (h.alone j i other _ hother hcall ho rfl) hji
      · have hnothing := h.nothing i _ hcall rfl
        exact (h.placed k hk).going hcall id
          (fun heq => absurd (hnothing.symm.trans heq) nofun)
          (fun heq => Or.inr (Or.inl heq))
  | keeps _ _ _ hhand _ hconnecting =>
      have hnot : reached.isConnecting ≠ true := hconnecting ▸ Bool.false_ne_true
      refine h.going hcall (fun hc => absurd hc hnot) hothers
        (fun hc => absurd hc hnot) fun k hk => ?_
      exact (h.placed k hk).going hcall id id
        (fun heq => Or.inr (Or.inr (hhand.trans heq)))
  | ends n _ _ hhand _ _ hconnecting =>
      have hnot : reached.isConnecting ≠ true := hconnecting ▸ Bool.false_ne_true
      refine h.going hcall (fun hc => absurd hc hnot) hothers
        (fun hc => absurd hc hnot) fun k hk => ?_
      refine (h.placed k hk).going hcall (List.mem_cons_of_mem n) id fun heq => ?_
      rw [Option.some.inj (heq.symm.trans hhand)]
      exact Or.inl List.mem_cons_self
  | drops n _ _ _ _ _ _ _ hwrong =>
      unfold orderly at horderly
      simp only [hcall] at horderly
      rcases hwrong with hcancelled | ⟨hclosing, e, hraised⟩
      · rw [hcancelled] at horderly
        cases horderly
      · rw [hraised] at horderly
        simp only [hclosing] at horderly
        cases horderly

theorem kept_step (h : p.Kept) {a : Act ε} (hstep : p.orderlyStep a = some next) :
    next.Kept := by
  rcases orderlyStep_eq_some.mp hstep with ⟨horderly, hnext⟩
  cases a with
  | connect =>
      cases hnext
      exact h.connect horderly
  | close =>
      cases hnext
      exact h.close
  | lost k =>
      rw [(step_lost_eq_some.mp hnext).right]
      refine ⟨h.alone, h.nothing, fun j hj => ?_⟩
      rcases h.placed j hj with hended | hplaced
      · exact Or.inl (List.mem_cons_of_mem k hended)
      · exact Or.inr hplaced
  | resume i reply =>
      rcases step_resume_eq_some.mp hnext with
        ⟨call, after, reached, hcall, hresume, heq⟩
      rw [heq]
      exact h.resume hcall horderly (resume_goes hresume)

/-!
## Runs
-/

/-- In every run {lit}`connect` returns with a context to publish with, and no
connection is held and given up at once or given up twice.  None is lost where no
call connects beside another one, nobody is cancelled and closing works. -/
theorem connections_accounted_for {acts : List (Act ε)}
    (h : exec step (new : JetStreamAuditPublisher ε) acts = some p) :
    (forall (i : Nat) (j : Option Nat), p.calls[i]? = some (.connected j) ->
        j.isSome = true) ∧
      (forall (i : Nat) (call : Call ε) (k : Nat), p.calls[i]? = some call ->
        call.hand = some k -> p.connection ≠ some k ∧
          forall (j : Nat) (other : Call ε), p.calls[j]? = some other ->
            other.hand = some k -> j = i) ∧
      (exec orderlyStep (new : JetStreamAuditPublisher ε) acts = some p ->
        forall k, k < p.opened -> p.Place k) := by
  have hsound : p.Sound := exec_invariant (fun s a next hs => sound_step hs) .new h
  refine ⟨fun i j hj => ?_, fun i call k hcall hk => ?_, fun horderly => ?_⟩
  · cases j with
    | none => exact absurd hj (hsound.connected i)
    | some k => rfl
  · exact ⟨(hsound.hands i call k hcall hk).right, fun j other hother ho =>
      hsound.apart j i other call k hother hcall ho hk⟩
  · exact (exec_invariant (fun s a next hs => kept_step hs) Kept.new horderly).placed

theorem connections_accounted_for_closed :
    Place (⟨none, none, 1, [0], [.connected (some 0), .closed]⟩ :
      JetStreamAuditPublisher Unit) 0 := by
  have hrun : exec step (new : JetStreamAuditPublisher Unit)
      [.connect, .resume 0 .ok, .resume 0 .ok, .close, .resume 1 .timedOut,
        .resume 1 .ok] =
      some ⟨none, none, 1, [0], [.connected (some 0), .closed]⟩ := by decide
  exact (connections_accounted_for hrun).right.right (by decide) 0 (by decide)

/- Two calls that connect at once open two connections and hold one. -/
example :
    exec step (new : JetStreamAuditPublisher Unit)
      [.connect, .connect, .resume 0 .ok, .resume 1 .ok, .resume 0 .ok,
        .resume 1 .ok] =
      some ⟨some 1, some 1, 2, [],
        [.connected (some 0), .connected (some 1)]⟩ := by decide

end JetStreamAuditPublisher

end Audit
end EidolonSdk
