import EidolonSdk.Audit.Stream
import EidolonSdk.Python.Decimal
import EidolonSdk.Python.Semaphore
import EidolonSdk.Python.Utf8
import Mathlib.Data.List.Perm.Basic
import Mathlib.Data.Finset.Dedup
import Mathlib.Data.Finset.Empty

/-!
# A batch of the publisher

{lit}`publish_many` hands the events of a batch to the client of the broker, a
bounded number of them at a time.  The first publication that fails is the answer
of the batch; the others go on.
-/

namespace EidolonSdk
namespace Audit

open Python Logic

universe v

/-- What {lit}`_publish` reads of an {lit}`AuditEnvelope`. -/
structure Envelope (ε : Type v) where
  eventId : PyStr
  producer : PyStr
  /-- {lit}`item.model_dump_json(exclude_none=False).encode("utf-8")`. -/
  payload : Except ε Bytes

/-- The arguments of {lit}`jetstream.publish`. -/
structure PublishCall where
  subject : PyStr
  payload : Bytes
  /-- {lit}`Nats-Msg-Id`. -/
  messageId : PyStr
  deriving DecidableEq

section Subject

-- `str.isalnum` of a single character
variable (isAlnum : CodePoint -> Bool)

/-- {lit}`char.isalnum() or char in "_-"`. -/
def inToken (char : CodePoint) : Bool := isAlnum char || (str "_-").contains char

def auditSubject (producer : PyStr) : PyStr :=
  let normalized := producer.map fun char =>
    if inToken isAlnum char = true then char else 0x5F
  auditSubjectPrefix ++ str "." ++
    (if normalized = [] then str "unknown" else normalized)

def Envelope.publishCall {ε : Type v} (item : Envelope ε) : Option PublishCall :=
  match item.payload with
  | .ok payload => some ⟨auditSubject isAlnum item.producer, payload, item.eventId⟩
  | .error _ => none

end Subject

/-- A handle of the loop; publications are known by their places in the batch. -/
inductive Callback (ε : Type v) where
  /-- The first step of a publication. -/
  | start (i : Nat)
  /-- The semaphore has handed a place to a publication. -/
  | wake (i : Nat)
  /-- {lit}`_done_callback` of {lit}`asyncio.gather`, with the exception. -/
  | finished (i : Nat) (e : Option ε)
  deriving DecidableEq

structure Batch (ε : Type v) where
  semaphore : Semaphore Nat
  ready : List (Callback ε)
  /-- The publications that got past the semaphore. -/
  begun : List Nat
  calls : List PublishCall
  /-- The publications in {lit}`jetstream.publish`. -/
  publishing : List Nat
  /-- The children that {lit}`asyncio.gather` has counted. -/
  finished : List (Nat × Option ε)
  /-- The future of {lit}`asyncio.gather`. -/
  outer : Option (Except ε (List PyStr))

inductive Move (ε : Type v) where
  /-- The loop runs its first handle. -/
  | run
  /-- {lit}`jetstream.publish` returns, or raises. -/
  | settle (i : Nat) (e : Option ε)
  deriving DecidableEq

namespace Batch

variable {ε : Type v}

/-- The batch when {lit}`asyncio.gather` has made its tasks. -/
def gather (events : List (Envelope ε)) (publishConcurrency : Int) : Batch ε where
  semaphore := .new (max 1 publishConcurrency).toNat
  ready := (List.range events.length).map .start
  begun := []
  calls := []
  publishing := []
  finished := []
  outer := none

/-- A publication leaves the semaphore and ends. -/
def leave (b : Batch ε) (i : Nat) (e : Option ε) : Batch ε :=
  let released := b.semaphore.release
  { b with
    semaphore := released.1
    ready := b.ready ++ released.2.toList.map Callback.wake ++ [.finished i e] }

/-- {lit}`_done_callback` on the future of {lit}`asyncio.gather`, with how many
children are counted; a child returns the id of its event. -/
def doneCallback (events : List (Envelope ε)) (nfinished : Nat) :
    Option (Except ε (List PyStr)) -> Option ε -> Option (Except ε (List PyStr))
  | some answer, _ => some answer
  | none, some e => some (.error e)
  | none, none =>
      if nfinished = events.length then some (.ok (events.map Envelope.eventId))
      else none

def countChild (events : List (Envelope ε)) (b : Batch ε) (i : Nat) (e : Option ε) :
    Batch ε :=
  { b with
    finished := b.finished ++ [(i, e)]
    outer := doneCallback events (b.finished.length + 1) b.outer e }

section Steps

variable (isAlnum : CodePoint -> Bool) (events : List (Envelope ε))

/-- A publication gets past the semaphore. -/
def enter (b : Batch ε) (i : Nat) : Batch ε :=
  match events[i]? with
  | none => b
  | some item =>
      let entered := { b with begun := b.begun ++ [i] }
      match item.payload with
      | .error e => entered.leave i (some e)
      | .ok payload =>
          { entered with
            calls := b.calls ++
              [⟨auditSubject isAlnum item.producer, payload, item.eventId⟩]
            publishing := b.publishing ++ [i] }

/-- What a handle does. -/
def handle (b : Batch ε) : Callback ε -> Batch ε
  | .start i =>
      let acquired := b.semaphore.acquire i
      let tried := { b with semaphore := acquired.1 }
      if acquired.2 = true then tried.enter isAlnum events i else tried
  | .wake i =>
      let resumed := b.semaphore.resume i
      let woken := { b with
        semaphore := resumed.1
        ready := b.ready ++ resumed.2.map Callback.wake }
      woken.enter isAlnum events i
  | .finished i e => b.countChild events i e

def step (b : Batch ε) : Move ε -> Option (Batch ε)
  | .run =>
      match b.ready with
      | [] => none
      | callback :: rest =>
          some ({ b with ready := rest }.handle isAlnum events callback)
  | .settle i e =>
      if i ∈ b.publishing then
        some ({ b with publishing := b.publishing.erase i }.leave i e)
      else none

end Steps

end Batch

/-- What the broker answers when it is asked about the stream. -/
inductive Probe where
  /-- {lit}`self._jetstream` is gone. -/
  | gone
  | described (messages lastSeq : Int)
  /-- An exception as {lit}`"{type(error).__name__}: {error}"`. -/
  | undescribed (detail : PyStr)
  deriving DecidableEq

section Answer

variable {ε : Type v} (isAlnum : CodePoint -> Bool)

/-- {lit}`_describe_failure`, for an exception that reads {lit}`detail`. -/
def describeFailure (detail producer : PyStr) (probe : Probe) : PyStr :=
  let described := str "publishing to " ++ auditStreamName ++ str " as " ++
    auditSubject isAlnum producer ++ str " failed — " ++ detail
  match probe with
  | .gone => described
  | .described messages lastSeq =>
      described ++ str "; the broker still describes " ++ auditStreamName ++
        str " (messages=" ++ intText messages ++ str ", last_seq=" ++
        intText lastSeq ++ str ") but did not store this one — the reason is in " ++
        str "the broker's own log, which it does not publish to any subject"
  | .undescribed detail =>
      described ++ str "; the broker could not describe " ++ auditStreamName ++
        str " either (" ++ detail ++ str ")"

/-- What {lit}`publish_many` returns, or the text of its {lit}`AuditPublishError`,
once it has an answer. -/
def publishMany (detail : ε -> PyStr) (probe : Probe) (events : List (Envelope ε))
    (b : Batch ε) : Option (Except PyStr (Finset PyStr)) :=
  match events with
  | [] => some (.ok ∅)
  | first :: _ =>
      match b.outer with
      | none => none
      | some (.ok ids) => some (.ok ids.toFinset)
      | some (.error e) =>
          some (.error (describeFailure isAlnum (detail e) first.producer probe))

end Answer

/-!
## What waits
-/

section Waiting

variable {ε : Type v}

def Callback.start? : Callback ε -> Option Nat
  | .start i => some i
  | _ => none

def Callback.wake? : Callback ε -> Option Nat
  | .wake i => some i
  | _ => none

def Callback.finished? : Callback ε -> Option (Nat × Option ε)
  | .finished i e => some (i, e)
  | _ => none

/-- The publications that have not had their first step. -/
def starts (ready : List (Callback ε)) : List Nat := ready.filterMap Callback.start?

/-- The publications that have been handed a place and have not gone on. -/
def wakes (ready : List (Callback ε)) : List Nat := ready.filterMap Callback.wake?

/-- The publications that have ended and have not been counted. -/
def ends (ready : List (Callback ε)) : List (Nat × Option ε) :=
  ready.filterMap Callback.finished?

section Handles

variable (before after rest : List (Callback ε)) (i : Nat) (e : Option ε)
variable (many : List Nat)

@[simp] theorem starts_nil : starts ([] : List (Callback ε)) = [] := rfl
@[simp] theorem wakes_nil : wakes ([] : List (Callback ε)) = [] := rfl
@[simp] theorem ends_nil : ends ([] : List (Callback ε)) = [] := rfl
@[simp] theorem starts_start : starts (.start i :: rest) = i :: starts rest := rfl
@[simp] theorem wakes_start : wakes (.start i :: rest) = wakes rest := rfl
@[simp] theorem ends_start : ends (.start i :: rest) = ends rest := rfl
@[simp] theorem starts_wake : starts (.wake i :: rest) = starts rest := rfl
@[simp] theorem wakes_wake : wakes (.wake i :: rest) = i :: wakes rest := rfl
@[simp] theorem ends_wake : ends (.wake i :: rest) = ends rest := rfl
@[simp] theorem starts_finished : starts (.finished i e :: rest) = starts rest := rfl
@[simp] theorem wakes_finished : wakes (.finished i e :: rest) = wakes rest := rfl
@[simp] theorem ends_finished : ends (.finished i e :: rest) = (i, e) :: ends rest :=
  rfl

@[simp] theorem starts_append :
    starts (before ++ after) = starts before ++ starts after :=
  List.filterMap_append

@[simp] theorem wakes_append :
    wakes (before ++ after) = wakes before ++ wakes after :=
  List.filterMap_append

@[simp] theorem ends_append :
    ends (before ++ after) = ends before ++ ends after :=
  List.filterMap_append

@[simp] theorem starts_map_start :
    starts (many.map (.start : Nat -> Callback ε)) = many := by
  simp [starts, List.filterMap_map, Function.comp_def, Callback.start?]

@[simp] theorem wakes_map_start :
    wakes (many.map (.start : Nat -> Callback ε)) = [] := by
  simp [wakes, List.filterMap_map, Function.comp_def, Callback.wake?]

@[simp] theorem ends_map_start :
    ends (many.map (.start : Nat -> Callback ε)) = [] := by
  simp [ends, List.filterMap_map, Function.comp_def, Callback.finished?]

@[simp] theorem starts_map_wake :
    starts (many.map (.wake : Nat -> Callback ε)) = [] := by
  simp [starts, List.filterMap_map, Function.comp_def, Callback.start?]

@[simp] theorem wakes_map_wake :
    wakes (many.map (.wake : Nat -> Callback ε)) = many := by
  simp [wakes, List.filterMap_map, Function.comp_def, Callback.wake?]

@[simp] theorem ends_map_wake :
    ends (many.map (.wake : Nat -> Callback ε)) = [] := by
  simp [ends, List.filterMap_map, Function.comp_def, Callback.finished?]

end Handles

namespace Batch

/-- The order of the batch, when as many places as {lit}`held` are with the
publication that is running. -/
structure InLine (n limit held : Nat) (b : Batch ε) (value : Nat)
    (pending : List Nat) : Prop where
  semaphore : b.semaphore = .queued value (wakes b.ready) pending
  line : b.begun ++ (wakes b.ready ++ (pending ++ starts b.ready)) = List.range n
  places : value + (wakes b.ready).length + b.publishing.length + held = limit
  /-- Nobody waits for a free place, unless somebody in front is on the way. -/
  served : pending = [] ∨ value = 0 ∨ wakes b.ready ≠ []

end Batch

end Waiting

namespace Batch

section Line

variable {ε : Type v} {n limit : Nat} {b : Batch ε}

theorem gather_inLine (events : List (Envelope ε)) (k : Int) :
    InLine events.length (max 1 k).toNat 0 (gather events k) (max 1 k).toNat [] where
  semaphore := by simp [gather, Semaphore.new_eq_queued]
  line := by simp [gather]
  places := by simp [gather]
  served := Or.inl rfl

/-- The place of a publication that ends goes to the first one that waits. -/
theorem leave_inLine {value : Nat} {pending : List Nat}
    (h : InLine n limit 1 b value pending) (i : Nat) (e : Option ε) :
    exists value' pending', InLine n limit 0 (b.leave i e) value' pending' := by
  have hplaces := h.places
  cases pending with
  | nil =>
      have hrelease : b.semaphore.release =
          (.queued (value + 1) (wakes b.ready) [], none) := by
        rw [h.semaphore, Semaphore.release_queued_nil]
      refine ⟨value + 1, [], ?_, ?_, ?_, Or.inl rfl⟩
      · simp [leave, hrelease]
      · simpa [leave, hrelease] using h.line
      · simp only [leave, hrelease, Option.toList_none, List.map_nil, List.append_nil,
          wakes_append, wakes_finished, wakes_nil]
        omega
  | cons j rest =>
      have hrelease : b.semaphore.release =
          (.queued value (wakes b.ready ++ [j]) rest, some j) := by
        rw [h.semaphore, Semaphore.release_queued_cons]
      refine ⟨value, rest, ?_, ?_, ?_, Or.inr (Or.inr ?_)⟩
      · simp [leave, hrelease]
      · simpa [leave, hrelease] using h.line
      · simp [leave, hrelease]
        omega
      · simp [leave, hrelease]

variable {isAlnum : CodePoint -> Bool} {events : List (Envelope ε)}

theorem enter_inLine {i value : Nat} {pending : List Nat} {item : Envelope ε}
    (hitem : events[i]? = some item)
    (h : InLine n limit 1 { b with begun := b.begun ++ [i] } value pending) :
    exists value' pending',
      InLine n limit 0 (b.enter isAlnum events i) value' pending' := by
  unfold enter
  rw [hitem]
  cases hpayload : item.payload with
  | error e =>
      simp only [hpayload]
      exact leave_inLine h i (some e)
  | ok payload =>
      simp only [hpayload]
      refine ⟨value, pending, h.semaphore, h.line, ?_, h.served⟩
      have hplaces := h.places
      simp only [List.length_append, List.length_singleton] at hplaces ⊢
      omega

/-- A first step gets in line, or finds nobody and a free place. -/
theorem start_inLine {i value : Nat} {pending : List Nat} {rest : List (Callback ε)}
    {item : Envelope ε} (hready : b.ready = .start i :: rest)
    (hitem : events[i]? = some item) (h : InLine n limit 0 b value pending) :
    exists value' pending', InLine n limit 0
      ({ b with ready := rest }.handle isAlnum events (.start i)) value' pending' := by
  rcases h with ⟨hsemaphore, hline, hplaces, hserved⟩
  simp only [hready, wakes_start, starts_start] at hsemaphore hline hplaces hserved
  unfold handle
  by_cases hwaits : value = 0 ∨ wakes rest ++ pending ≠ []
  · have hacquire : b.semaphore.acquire i =
        (.queued value (wakes rest) (pending ++ [i]), false) := by
      rw [hsemaphore, Semaphore.acquire_queued_waits _ _ _ _ hwaits]
    simp only [hacquire, Bool.false_eq_true, if_false]
    refine ⟨value, pending ++ [i], rfl, ?_, hplaces, ?_⟩
    · simpa using hline
    · rcases hserved with hnone | hserved
      · rcases hwaits with hzero | hsome
        · exact Or.inr (Or.inl hzero)
        · rw [hnone, List.append_nil] at hsome
          exact Or.inr (Or.inr hsome)
      · exact Or.inr hserved
  · rw [not_or, not_not, List.append_eq_nil_iff] at hwaits
    rcases hwaits with ⟨hpos, hnil, hpending⟩
    rcases Nat.exists_eq_succ_of_ne_zero hpos with ⟨value', rfl⟩
    subst hpending
    have hacquire : b.semaphore.acquire i = (.queued value' [] [], true) := by
      rw [hsemaphore, hnil, Semaphore.acquire_queued_enters]
    simp only [hacquire, if_true]
    refine enter_inLine hitem
      (show InLine n limit 1 _ value' [] from ⟨?_, ?_, ?_, Or.inl rfl⟩)
    · exact congrArg (Semaphore.queued value' · []) hnil.symm
    · simpa [hnil] using hline
    · simp only
      omega

/-- A publication that goes on was the first in line, and it wakes up as many others
as there are places. -/
theorem wake_inLine {i value : Nat} {pending : List Nat} {rest : List (Callback ε)}
    {item : Envelope ε} (hready : b.ready = .wake i :: rest)
    (hitem : events[i]? = some item) (h : InLine n limit 0 b value pending) :
    exists value' pending', InLine n limit 0
      ({ b with ready := rest }.handle isAlnum events (.wake i)) value' pending' := by
  rcases h with ⟨hsemaphore, hline, hplaces, hserved⟩
  rw [hready] at hsemaphore hline hplaces
  simp only [wakes_wake, starts_wake, List.length_cons] at hsemaphore hline hplaces
  have hresume : b.semaphore.resume i =
      (.queued (value - pending.length) (wakes rest ++ pending.take value)
        (pending.drop value), pending.take value) := by
    rw [hsemaphore, Semaphore.resume_queued]
  unfold handle
  simp only [hresume]
  refine enter_inLine hitem
    (show InLine n limit 1 _ (value - pending.length) (pending.drop value) from
      ⟨?_, ?_, ?_, ?_⟩)
  · simp only [wakes_append, wakes_map_wake]
  · rw [← hline]
    simp only [wakes_append, wakes_map_wake, starts_append, starts_map_wake,
      List.append_nil, List.append_assoc, List.cons_append, List.nil_append]
    rw [← List.append_assoc (pending.take value), List.take_append_drop]
  · simp only [wakes_append, wakes_map_wake, List.length_append, List.length_take]
    omega
  · by_cases hall : pending.length ≤ value
    · exact Or.inl (List.drop_of_length_le hall)
    · exact Or.inr (Or.inl (by omega))

theorem InLine.lt {i value : Nat} {pending : List Nat} (h : InLine n limit 0 b value pending)
    (hi : i ∈ wakes b.ready ∨ i ∈ starts b.ready) : i < n := by
  rw [← List.mem_range, ← h.line]
  rcases hi with hi | hi
  · exact List.mem_append_right _ (List.mem_append_left _ hi)
  · exact List.mem_append_right _ (List.mem_append_right _ (List.mem_append_right _ hi))

theorem step_inLine {next : Batch ε} {move : Move ε} {value : Nat} {pending : List Nat}
    (h : InLine events.length limit 0 b value pending)
    (hstep : b.step isAlnum events move = some next) :
    exists value' pending', InLine events.length limit 0 next value' pending' := by
  cases move with
  | settle i e =>
      rw [step] at hstep
      by_cases hi : i ∈ b.publishing
      · rw [if_pos hi] at hstep
        rw [← Option.some.inj hstep]
        refine leave_inLine
          (show InLine _ limit 1 { b with publishing := b.publishing.erase i } value
            pending from ⟨h.semaphore, h.line, ?_, h.served⟩) i e
        have hplaces := h.places
        have hpos := List.length_pos_of_mem hi
        show value + (wakes b.ready).length + (b.publishing.erase i).length + 1 = limit
        rw [List.length_erase_of_mem hi]
        omega
      · rw [if_neg hi] at hstep
        cases hstep
  | run =>
      rw [step] at hstep
      cases hready : b.ready with
      | nil =>
          rw [hready] at hstep
          cases hstep
      | cons callback rest =>
          rw [hready] at hstep
          rw [← Option.some.inj hstep]
          cases callback with
          | start i =>
              have hi : i < events.length := h.lt (Or.inr (by simp [hready]))
              exact start_inLine hready (List.getElem?_eq_getElem hi) h
          | wake i =>
              have hi : i < events.length := h.lt (Or.inl (by simp [hready]))
              exact wake_inLine hready (List.getElem?_eq_getElem hi) h
          | finished i e =>
              rcases h with ⟨hsemaphore, hline, hplaces, hserved⟩
              simp only [hready, wakes_finished, starts_finished] at hsemaphore hline
              simp only [hready, wakes_finished] at hplaces hserved
              exact ⟨value, pending, hsemaphore, hline, hplaces, hserved⟩

end Line

/-!
## What is recorded
-/

section Record

variable {ε : Type v} {isAlnum : CodePoint -> Bool} {events : List (Envelope ε)}
variable {b next : Batch ε}

/-- Only the semaphore and the handles of the loop that wake up may differ. -/
structure Like (b c : Batch ε) : Prop where
  begun : c.begun = b.begun
  calls : c.calls = b.calls
  publishing : c.publishing = b.publishing
  finished : c.finished = b.finished
  outer : c.outer = b.outer
  ends : ends c.ready = ends b.ready

/-- What a step does, apart from the semaphore. -/
inductive Effect (isAlnum : CodePoint -> Bool) (events : List (Envelope ε))
    (b : Batch ε) : Move ε -> Batch ε -> Prop where
  | waits (c : Batch ε) (i : Nat) (h : Like b c)
      (hstarts : starts b.ready = i :: starts c.ready) : Effect isAlnum events b .run c
  | enters (c : Batch ε) (i : Nat) (item : Envelope ε) (h : Like b c)
      (hitem : events[i]? = some item)
      (hstarts : starts b.ready = starts c.ready ∨
        starts b.ready = i :: starts c.ready) :
      Effect isAlnum events b .run (c.enter isAlnum events i)
  | counts (i : Nat) (e : Option ε) (rest : List (Callback ε))
      (hready : b.ready = .finished i e :: rest) :
      Effect isAlnum events b .run ({ b with ready := rest }.countChild events i e)
  | settles (i : Nat) (e : Option ε) (hi : i ∈ b.publishing) :
      Effect isAlnum events b (.settle i e)
        ({ b with publishing := b.publishing.erase i }.leave i e)

theorem step_effect {limit value : Nat} {pending : List Nat} {move : Move ε}
    (h : InLine events.length limit 0 b value pending)
    (hstep : b.step isAlnum events move = some next) :
    Effect isAlnum events b move next := by
  cases move with
  | settle i e =>
      rw [step] at hstep
      by_cases hi : i ∈ b.publishing
      · rw [if_pos hi] at hstep
        rw [← Option.some.inj hstep]
        exact Effect.settles i e hi
      · rw [if_neg hi] at hstep
        cases hstep
  | run =>
      rw [step] at hstep
      cases hready : b.ready with
      | nil =>
          rw [hready] at hstep
          cases hstep
      | cons callback rest =>
          rw [hready] at hstep
          rw [← Option.some.inj hstep]
          cases callback with
          | start i =>
              have hi : i < events.length := h.lt (Or.inr (by simp [hready]))
              have hstarts : starts b.ready = i :: starts rest := by simp [hready]
              have hends : ends rest = ends b.ready := by simp [hready]
              rw [handle]
              split
              · exact Effect.enters _ i _ ⟨rfl, rfl, rfl, rfl, rfl, hends⟩
                  (List.getElem?_eq_getElem hi) (Or.inr hstarts)
              · exact Effect.waits _ i ⟨rfl, rfl, rfl, rfl, rfl, hends⟩ hstarts
          | wake i =>
              have hi : i < events.length := h.lt (Or.inl (by simp [hready]))
              rw [handle]
              refine Effect.enters _ i _ ⟨rfl, rfl, rfl, rfl, rfl, ?_⟩
                (List.getElem?_eq_getElem hi) (Or.inl ?_)
              · simp [hready]
              · simp [hready]
          | finished i e => exact Effect.counts i e rest hready

@[simp] theorem ends_leave (i : Nat) (e : Option ε) :
    ends (b.leave i e).ready = ends b.ready ++ [(i, e)] := by
  simp [leave]

@[simp] theorem starts_leave (i : Nat) (e : Option ε) :
    starts (b.leave i e).ready = starts b.ready := by
  simp [leave]

variable (isAlnum) in
/-- A publication that gets past the semaphore is handed over, or ends because its
event has no text. -/
theorem enter_eq {i : Nat} {item : Envelope ε} (hitem : events[i]? = some item) :
    (exists e, item.payload = .error e ∧ b.enter isAlnum events i =
        { b with begun := b.begun ++ [i] }.leave i (some e)) ∨
      exists payload, item.payload = .ok payload ∧ b.enter isAlnum events i =
        { b with
          begun := b.begun ++ [i]
          calls := b.calls ++
            [⟨auditSubject isAlnum item.producer, payload, item.eventId⟩]
          publishing := b.publishing ++ [i] } := by
  unfold enter
  rw [hitem]
  cases hpayload : item.payload with
  | error e => exact Or.inl ⟨e, rfl, by simp only [hpayload]⟩
  | ok payload => exact Or.inr ⟨payload, rfl, by simp only [hpayload]⟩

/-- The event has no text. -/
def FailedDump (events : List (Envelope ε)) (i : Nat) (e : Option ε) : Prop :=
  exists item error, events[i]? = some item ∧ item.payload = .error error ∧
    e = some error

/-- The call made for the event at a place. -/
def callAt (isAlnum : CodePoint -> Bool) (events : List (Envelope ε)) (i : Nat) :
    Option PublishCall :=
  events[i]?.bind (Envelope.publishCall isAlnum)

/-- What the future of {lit}`asyncio.gather` holds behind these children. -/
def gathered (events : List (Envelope ε)) (finished : List (Nat × Option ε)) :
    Option (Except ε (List PyStr)) :=
  match finished.findSome? Prod.snd with
  | some e => some (.error e)
  | none =>
      if finished ≠ [] ∧ finished.length = events.length then
        some (.ok (events.map Envelope.eventId))
      else none

structure Recorded (isAlnum : CodePoint -> Bool) (events : List (Envelope ε))
    (moves : List (Move ε)) (b : Batch ε) : Prop where
  calls : b.calls = b.begun.filterMap (callAt isAlnum events)
  counted : b.begun.Perm
    (b.publishing ++ ((ends b.ready).map Prod.fst ++ b.finished.map Prod.fst))
  replies : forall i e, (i, e) ∈ ends b.ready ∨ (i, e) ∈ b.finished <->
    Move.settle i e ∈ moves ∨ i ∈ b.begun ∧ FailedDump events i e
  outer : b.outer = gathered events b.finished

theorem gather_recorded (k : Int) : Recorded isAlnum events [] (gather events k) where
  calls := rfl
  counted := by simp [gather]
  replies := by simp [gather]
  outer := rfl

theorem counted_step {begun publishing ended finished : List Nat} {i : Nat}
    (h : begun.Perm (publishing ++ (ended ++ finished))) :
    (begun ++ [i]).Perm (publishing ++ [i] ++ (ended ++ finished)) ∧
      (begun ++ [i]).Perm (publishing ++ (ended ++ [i] ++ finished)) := by
  simp only [List.perm_iff_count, List.count_append] at h ⊢
  constructor
  · intro j
    have := h j
    omega
  · intro j
    have := h j
    omega

variable {moves : List (Move ε)}

theorem recorded_like {c : Batch ε} (h : Recorded isAlnum events moves b)
    (hlike : Like b c) : Recorded isAlnum events (moves ++ [.run]) c where
  calls := by rw [hlike.calls, hlike.begun, h.calls]
  counted := by
    rw [hlike.begun, hlike.publishing, hlike.ends, hlike.finished]
    exact h.counted
  replies := by
    intro i e
    rw [hlike.begun, hlike.ends, hlike.finished, h.replies]
    simp
  outer := by rw [hlike.outer, hlike.finished, h.outer]

theorem failedDump_iff {i : Nat} {e : Option ε} {item : Envelope ε}
    (hitem : events[i]? = some item) :
    FailedDump events i e <-> exists error, item.payload = .error error ∧
      e = some error := by
  constructor
  · intro h
    rcases h with ⟨found, error, hfound, herror⟩
    cases hitem.symm.trans hfound
    exact ⟨error, herror⟩
  · intro h
    rcases h with ⟨error, herror⟩
    exact ⟨item, error, hitem, herror⟩

theorem recorded_enter {i : Nat} {item : Envelope ε} (h : Recorded isAlnum events moves b)
    (hitem : events[i]? = some item) :
    Recorded isAlnum events moves (b.enter isAlnum events i) := by
  have hcall : callAt isAlnum events i = item.publishCall isAlnum := by
    rw [callAt, hitem, Option.bind_some]
  rcases enter_eq isAlnum (b := b) hitem with
    ⟨error, hpayload, henter⟩ | ⟨payload, hpayload, henter⟩
  · rw [henter]
    refine ⟨?_, ?_, ?_, h.outer⟩
    · show b.calls = (b.begun ++ [i]).filterMap _
      rw [List.filterMap_append, ← h.calls]
      simp [hcall, Envelope.publishCall, hpayload]
    · rw [ends_leave, List.map_append]
      exact (counted_step h.counted).right
    · intro j e
      have hj := h.replies j e
      rw [ends_leave]
      show _ ∨ (j, e) ∈ b.finished <-> _ ∨ j ∈ b.begun ++ [i] ∧ _
      simp only [List.mem_append, List.mem_singleton, Prod.mk.injEq]
      constructor
      · intro hparts
        rcases hparts with (hends | ⟨rfl, rfl⟩) | hfinished
        · exact (hj.mp (Or.inl hends)).imp_right (And.imp_left Or.inl)
        · exact Or.inr ⟨Or.inr rfl, (failedDump_iff hitem).mpr ⟨error, hpayload, rfl⟩⟩
        · exact (hj.mp (Or.inr hfinished)).imp_right (And.imp_left Or.inl)
      · intro hparts
        rcases hparts with hsettled | ⟨hbegun | rfl, hfailed⟩
        · exact (hj.mpr (Or.inl hsettled)).imp_left Or.inl
        · exact (hj.mpr (Or.inr ⟨hbegun, hfailed⟩)).imp_left Or.inl
        · rcases (failedDump_iff hitem).mp hfailed with ⟨other, hother, rfl⟩
          cases hpayload.symm.trans hother
          exact Or.inl (Or.inr ⟨rfl, rfl⟩)
  · rw [henter]
    refine ⟨?_, (counted_step h.counted).left, ?_, h.outer⟩
    · show b.calls ++ _ = (b.begun ++ [i]).filterMap _
      rw [List.filterMap_append, ← h.calls]
      simp [hcall, Envelope.publishCall, hpayload]
    · intro j e
      have hj := h.replies j e
      show (j, e) ∈ ends b.ready ∨ (j, e) ∈ b.finished <->
        _ ∨ j ∈ b.begun ++ [i] ∧ _
      rw [hj, List.mem_append, List.mem_singleton]
      refine or_congr_right ⟨And.imp_left Or.inl, ?_⟩
      intro hparts
      rcases hparts with ⟨hbegun | rfl, hfailed⟩
      · exact ⟨hbegun, hfailed⟩
      · rcases (failedDump_iff hitem).mp hfailed with ⟨other, hother, _⟩
        cases hpayload.symm.trans hother

/-- Counting a child decides the answer as the children counted so far do. -/
theorem gathered_append {finished : List (Nat × Option ε)} (i : Nat) (e : Option ε)
    (hless : finished.length < events.length) :
    gathered events (finished ++ [(i, e)]) =
      doneCallback events (finished.length + 1) (gathered events finished) e := by
  have hnone : ¬ (finished ≠ [] ∧ finished.length = events.length) :=
    fun h => absurd h.right (Nat.ne_of_lt hless)
  unfold gathered
  rw [List.findSome?_append]
  cases hfound : finished.findSome? Prod.snd with
  | some failure => rfl
  | none =>
      rw [if_neg hnone, Option.none_or]
      cases e with
      | some failure => rfl
      | none =>
          simp [doneCallback]

theorem recorded_count {i : Nat} {e : Option ε} {rest : List (Callback ε)}
    (h : Recorded isAlnum events moves b) (hready : b.ready = .finished i e :: rest)
    (hless : b.finished.length < events.length) :
    Recorded isAlnum events (moves ++ [.run])
      ({ b with ready := rest }.countChild events i e) where
  calls := h.calls
  counted := by
    have hcounted := h.counted
    rw [hready, ends_finished] at hcounted
    show b.begun.Perm (b.publishing ++ ((ends rest).map Prod.fst ++
      (b.finished ++ [(i, e)]).map Prod.fst))
    simp only [List.perm_iff_count, List.count_append, List.map_append, List.map_cons,
      List.map_nil, List.count_cons, List.count_nil] at hcounted ⊢
    intro j
    have := hcounted j
    omega
  replies := by
    intro j e'
    have hj := h.replies j e'
    rw [hready, ends_finished, List.mem_cons] at hj
    have hmoves : Move.settle j e' ∈ moves ++ [.run] <-> Move.settle j e' ∈ moves := by
      simp
    show (j, e') ∈ ends rest ∨ (j, e') ∈ b.finished ++ [(i, e)] <->
      _ ∨ j ∈ b.begun ∧ _
    rw [hmoves, ← hj, List.mem_append, List.mem_singleton]
    constructor
    · intro hparts
      rcases hparts with hends | hfinished | heq
      · exact Or.inl (Or.inr hends)
      · exact Or.inr hfinished
      · exact Or.inl (Or.inl heq)
    · intro hparts
      rcases hparts with (heq | hends) | hfinished
      · exact Or.inr (Or.inr heq)
      · exact Or.inl hends
      · exact Or.inr (Or.inl hfinished)
  outer := by
    rw [countChild]
    simp only
    rw [gathered_append i e hless, h.outer]

theorem recorded_settle {i : Nat} {e : Option ε} (h : Recorded isAlnum events moves b)
    (hi : i ∈ b.publishing) :
    Recorded isAlnum events (moves ++ [.settle i e])
      ({ b with publishing := b.publishing.erase i }.leave i e) where
  calls := h.calls
  counted := by
    have hcounted := h.counted
    have hpos := List.count_pos_iff.mpr hi
    rw [ends_leave]
    show b.begun.Perm (b.publishing.erase i ++ ((ends b.ready ++ [(i, e)]).map Prod.fst ++
      b.finished.map Prod.fst))
    simp only [List.perm_iff_count, List.count_append, List.map_append, List.map_cons,
      List.map_nil, List.count_cons, List.count_nil, List.count_erase] at hcounted ⊢
    intro j
    have := hcounted j
    by_cases hj : i = j
    · subst hj
      simp only [beq_self_eq_true, if_true]
      omega
    · simp only [beq_iff_eq, hj, if_false]
      omega
  replies := by
    intro j e'
    have hj := h.replies j e'
    rw [ends_leave]
    show (j, e') ∈ ends b.ready ++ [(i, e)] ∨ (j, e') ∈ b.finished <->
      _ ∨ j ∈ b.begun ∧ _
    simp only [List.mem_append, List.mem_singleton, Prod.mk.injEq, Move.settle.injEq]
    rw [or_right_comm, hj, or_right_comm]
  outer := h.outer

/-!
## How long a batch lasts
-/

/-- How many steps are left at most. -/
def weight (n : Nat) (b : Batch ε) : Nat :=
  4 * (starts b.ready).length + 3 * (n - b.begun.length - (starts b.ready).length) +
    2 * b.publishing.length + (ends b.ready).length

theorem InLine.length {n limit held value : Nat} {pending : List Nat}
    (h : InLine n limit held b value pending) :
    b.begun.length + ((wakes b.ready).length + (pending.length +
      (starts b.ready).length)) = n := by
  have hlength := congrArg List.length h.line
  simpa using hlength

variable (isAlnum) in
/-- A publication that gets past the semaphore has at most two steps left. -/
theorem enter_length {i : Nat} {item : Envelope ε} (hitem : events[i]? = some item) :
    starts (b.enter isAlnum events i).ready = starts b.ready ∧
      (b.enter isAlnum events i).begun.length = b.begun.length + 1 ∧
      2 * (b.enter isAlnum events i).publishing.length +
          (ends (b.enter isAlnum events i).ready).length ≤
        2 * b.publishing.length + (ends b.ready).length + 2 := by
  rcases enter_eq isAlnum (b := b) hitem with
    ⟨error, _, henter⟩ | ⟨payload, _, henter⟩
  · rw [henter, starts_leave, ends_leave, List.length_append]
    refine ⟨rfl, List.length_append, ?_⟩
    show 2 * b.publishing.length + ((ends b.ready).length + 1) ≤ _
    omega
  · rw [henter]
    refine ⟨rfl, List.length_append, ?_⟩
    show 2 * (b.publishing ++ [i]).length + (ends b.ready).length ≤ _
    rw [List.length_append, List.length_singleton]
    omega

theorem weight_step {limit value value' : Nat} {pending pending' : List Nat}
    {move : Move ε} (h : InLine events.length limit 0 b value pending)
    (hnext : InLine events.length limit 0 next value' pending')
    (heffect : Effect isAlnum events b move next) :
    weight events.length next + 1 ≤ weight events.length b := by
  have hlength := h.length
  have hlength' := hnext.length
  unfold weight
  cases heffect with
  | waits c i hlike hstarts =>
      rw [hlike.begun] at hlength' ⊢
      rw [hlike.publishing, hlike.ends]
      rw [hstarts, List.length_cons] at hlength ⊢
      omega
  | enters c i item hlike hitem hstarts =>
      rcases enter_length isAlnum (b := c) hitem with
        ⟨hsame, hbegun, hrest⟩
      rw [hlike.begun] at hbegun
      rw [hlike.publishing, hlike.ends] at hrest
      rw [hsame, hbegun] at hlength' ⊢
      rcases hstarts with hstarts | hstarts
      · rw [hstarts] at hlength ⊢
        omega
      · rw [hstarts, List.length_cons] at hlength ⊢
        omega
  | counts i e rest hready =>
      rw [hready, starts_finished, ends_finished, List.length_cons]
      exact Nat.le_refl _
  | settles i e hi =>
      have hpos := List.length_pos_of_mem hi
      have herase := List.length_erase_of_mem hi
      rw [starts_leave, ends_leave, List.length_append, List.length_singleton]
      show 4 * (starts b.ready).length +
        3 * (events.length - b.begun.length - (starts b.ready).length) +
        2 * (b.publishing.erase i).length + ((ends b.ready).length + 1) + 1 ≤ _
      omega

/-!
## Every run
-/

structure Sound (isAlnum : CodePoint -> Bool) (events : List (Envelope ε))
    (limit : Nat) (moves : List (Move ε)) (b : Batch ε) : Prop where
  inLine : exists value pending, InLine events.length limit 0 b value pending
  recorded : Recorded isAlnum events moves b
  weight : weight events.length b + moves.length ≤ 4 * events.length

theorem gather_sound (k : Int) :
    Sound isAlnum events (max 1 k).toNat [] (gather events k) where
  inLine := ⟨_, _, gather_inLine events k⟩
  recorded := gather_recorded k
  weight := by simp [Batch.weight, gather]

theorem Sound.finished_length {limit : Nat} (h : Sound isAlnum events limit moves b) :
    b.publishing.length + (ends b.ready).length + b.finished.length =
      b.begun.length := by
  have hlength := h.recorded.counted.length_eq
  simp only [List.length_append, List.length_map] at hlength
  omega

theorem sound_step {limit : Nat} {move : Move ε}
    (h : Sound isAlnum events limit moves b)
    (hstep : b.step isAlnum events move = some next) :
    Sound isAlnum events limit (moves ++ [move]) next := by
  rcases h.inLine with ⟨value, pending, hline⟩
  rcases step_inLine hline hstep with ⟨value', pending', hnext⟩
  have heffect := step_effect hline hstep
  have hfinished := h.finished_length
  refine ⟨⟨value', pending', hnext⟩, ?_, ?_⟩
  · cases heffect with
    | waits c i hlike hstarts => exact recorded_like h.recorded hlike
    | enters c i item hlike hitem hstarts =>
        exact recorded_enter (recorded_like h.recorded hlike) hitem
    | counts i e rest hready =>
        refine recorded_count h.recorded hready ?_
        have hlength := hline.length
        rw [hready, ends_finished, List.length_cons] at hfinished
        omega
    | settles i e hi => exact recorded_settle h.recorded hi
  · have hless := weight_step hline hnext heffect
    have hweight := h.weight
    rw [List.length_append, List.length_singleton]
    omega

variable {k : Int}

theorem sound_of_run (h : exec (step isAlnum events) (gather events k) moves = some b) :
    Sound isAlnum events (max 1 k).toNat moves b := by
  have hrun : Sound isAlnum events (max 1 k).toNat ([] ++ moves) b :=
    exec_history (fun past s a next hs hstep => sound_step hs hstep)
      (gather_sound k) h
  exact hrun

theorem InLine.begun_eq {n limit held value : Nat} {pending : List Nat}
    (h : InLine n limit held b value pending) :
    b.begun = List.range b.begun.length := by
  have hle : b.begun.length ≤ n := by
    have hlength := h.length
    omega
  have htake := congrArg (List.take b.begun.length) h.line
  rw [List.take_left, List.take_range, Nat.min_eq_left hle] at htake
  exact htake

theorem filterMap_callAt_range {m : Nat} (hm : m ≤ events.length) :
    (List.range m).filterMap (callAt isAlnum events) =
      (events.take m).filterMap (Envelope.publishCall isAlnum) := by
  induction m with
  | zero => rfl
  | succ m ih =>
      have hlt : m < events.length := hm
      rw [List.range_succ, List.take_add_one, List.filterMap_append,
        List.filterMap_append, ih (Nat.le_of_lt hlt)]
      congr 1
      simp only [callAt, List.getElem?_eq_getElem hlt, List.filterMap_cons,
        Option.bind_some, Option.toList_some]
      cases Envelope.publishCall isAlnum events[m] with
      | none => rfl
      | some call => rfl

/-- A batch that has stopped has counted all its publications. -/
theorem stopped {limit : Nat} (h : Sound isAlnum events limit moves b) (hlimit : 0 < limit)
    (hover : forall move, b.step isAlnum events move = none) :
    b.ready = [] ∧ b.publishing = [] ∧ b.begun.length = events.length := by
  rcases h.inLine with ⟨value, pending, hline⟩
  have hready : b.ready = [] := by
    have hrun := hover .run
    rw [step] at hrun
    cases hready : b.ready with
    | nil => rfl
    | cons callback rest =>
        rw [hready] at hrun
        cases hrun
  have hpublishing : b.publishing = [] := by
    refine List.eq_nil_iff_forall_not_mem.mpr fun i hi => ?_
    have hsettle := hover (.settle i none)
    rw [step, if_pos hi] at hsettle
    cases hsettle
  have hplaces := hline.places
  have hserved := hline.served
  have hlength := hline.length
  simp only [hready, hpublishing, wakes_nil, List.length_nil] at hplaces hserved
  simp only [hready, wakes_nil, starts_nil, List.length_nil] at hlength
  refine ⟨hready, hpublishing, ?_⟩
  rcases hserved with hpending | hzero | hwakes
  · rw [hpending, List.length_nil] at hlength
    omega
  · omega
  · exact absurd rfl hwakes

/-- In every run of a batch no more publications than allowed are under way, the
events are handed over in their order and once, a free place is left only when
nobody waits for it, and the run ends with all of them counted. -/
theorem batch_window (h : exec (step isAlnum events) (gather events k) moves = some b) :
    b.publishing.length ≤ (max 1 k).toNat ∧
      b.begun = List.range b.begun.length ∧
      b.calls =
        (events.take b.begun.length).filterMap (Envelope.publishCall isAlnum) ∧
      (b.ready = [] -> b.publishing.length < (max 1 k).toNat ->
        b.begun.length = events.length) ∧
      moves.length ≤ 4 * events.length ∧
      ((forall move, b.step isAlnum events move = none) ->
        b.finished.length = events.length) := by
  have hsound := sound_of_run h
  rcases hsound.inLine with ⟨value, pending, hline⟩
  have hplaces := hline.places
  have hlength := hline.length
  have hbegun := hline.begun_eq
  have hweight := hsound.weight
  refine ⟨by omega, hbegun, ?_, ?_, by omega, ?_⟩
  · rw [hsound.recorded.calls, hbegun, filterMap_callAt_range (by omega),
      List.length_range]
  · intro hready hfree
    rcases hline.served with hpending | hzero | hwakes
    · rw [hready, wakes_nil, starts_nil, hpending, List.length_nil] at hlength
      omega
    · rw [hready, wakes_nil, List.length_nil] at hplaces
      omega
    · exact absurd (by rw [hready, wakes_nil]) hwakes
  · intro hover
    rcases stopped hsound (by omega) hover with ⟨hready, hpublishing, hall⟩
    have hfinished := hsound.finished_length
    rw [hready, hpublishing, ends_nil, List.length_nil, List.length_nil] at hfinished
    omega

/-!
## The answer
-/

theorem gathered_eq_ok {finished : List (Nat × Option ε)} {ids : List PyStr} :
    gathered events finished = some (.ok ids) <->
      finished ≠ [] ∧ finished.length = events.length ∧
        (forall i e, (i, e) ∈ finished -> e = none) ∧
        ids = events.map Envelope.eventId := by
  unfold gathered
  cases hfound : finished.findSome? Prod.snd with
  | some failure =>
      rcases List.exists_of_findSome?_eq_some hfound with ⟨⟨i, e⟩, hmem, he⟩
      refine iff_of_false nofun fun h => ?_
      rw [h.right.right.left i e hmem] at he
      cases he
  | none =>
      rw [List.findSome?_eq_none_iff] at hfound
      simp only
      by_cases hall : finished ≠ [] ∧ finished.length = events.length
      · rw [if_pos hall]
        constructor
        · intro h
          exact ⟨hall.left, hall.right, fun i e hmem => hfound (i, e) hmem,
            (Except.ok.inj (Option.some.inj h)).symm⟩
        · intro hparts
          rcases hparts with ⟨_, _, _, rfl⟩
          rfl
      · rw [if_neg hall]
        exact iff_of_false nofun fun h => hall ⟨h.left, h.right.left⟩

theorem mem_of_gathered_error {finished : List (Nat × Option ε)} {e : ε}
    (h : gathered events finished = some (.error e)) :
    exists i, (i, some e) ∈ finished := by
  unfold gathered at h
  cases hfound : finished.findSome? Prod.snd with
  | some failure =>
      rw [hfound] at h
      rcases List.exists_of_findSome?_eq_some hfound with ⟨⟨i, e'⟩, hmem, he⟩
      cases h
      exact ⟨i, (show e' = some e from he) ▸ hmem⟩
  | none =>
      rw [hfound] at h
      simp only at h
      split at h
      · cases h
      · cases h

theorem gathered_ne_none {finished : List (Nat × Option ε)}
    (hlength : finished.length = events.length) (hsome : finished ≠ []) :
    gathered events finished ≠ none := by
  unfold gathered
  cases hfound : finished.findSome? Prod.snd with
  | some failure => exact nofun
  | none =>
      simp only
      rw [if_pos ⟨hsome, hlength⟩]
      exact nofun

theorem Sound.counted_all {limit : Nat} (h : Sound isAlnum events limit moves b)
    (hlength : b.finished.length = events.length) :
    ends b.ready = [] ∧ (List.range events.length).Perm (b.finished.map Prod.fst) := by
  rcases h.inLine with ⟨value, pending, hline⟩
  have hbegun := hline.length
  have hfinished := h.finished_length
  have hpublishing : b.publishing = [] := List.eq_nil_of_length_eq_zero (by omega)
  have hends : ends b.ready = [] := List.eq_nil_of_length_eq_zero (by omega)
  have hall : b.begun.length = events.length := by omega
  have hcounted := h.recorded.counted
  rw [hline.begun_eq, hall, hpublishing, hends] at hcounted
  exact ⟨hends, hcounted⟩

/-- Who gets the ids of the batch may count on every one of them, and an error is that
of a publication that failed; the others are handed over all the same. -/
theorem batch_answer (h : exec (step isAlnum events) (gather events k) moves = some b)
    (detail : ε -> PyStr) (probe : Probe) :
    (forall ids, publishMany isAlnum detail probe events b = some (.ok ids) ->
        ids = (events.map Envelope.eventId).toFinset ∧
        forall i, i < events.length -> Move.settle i none ∈ moves) ∧
      (forall text, publishMany isAlnum detail probe events b = some (.error text) ->
        exists i e first, (Move.settle i (some e) ∈ moves ∨
            FailedDump events i (some e)) ∧
          events[0]? = some first ∧
          text = describeFailure isAlnum (detail e) first.producer probe) ∧
      ((forall move, b.step isAlnum events move = none) ->
        b.calls = events.filterMap (Envelope.publishCall isAlnum) ∧
        publishMany isAlnum detail probe events b ≠ none ∧
        ((forall i, i < events.length -> Move.settle i none ∈ moves) ->
          publishMany isAlnum detail probe events b =
            some (.ok (events.map Envelope.eventId).toFinset))) := by
  have hsound := sound_of_run h
  have hrecorded := hsound.recorded
  refine ⟨fun ids hids => ?_, fun text htext => ?_, fun hover => ?_⟩
  · cases events with
    | nil =>
        cases hids
        exact ⟨rfl, fun i hi => absurd hi (Nat.not_lt_zero i)⟩
    | cons first rest =>
        rw [publishMany, hrecorded.outer] at hids
        cases hgathered : gathered (first :: rest) b.finished with
        | none =>
            rw [hgathered] at hids
            cases hids
        | some answer => cases answer with
          | error e =>
              rw [hgathered] at hids
              cases hids
          | ok found =>
              rw [hgathered] at hids
              rcases gathered_eq_ok.mp hgathered with ⟨_, hlength, hnone, rfl⟩
              refine ⟨(Except.ok.inj (Option.some.inj hids)).symm, fun i hi => ?_⟩
              have hmem := (hsound.counted_all hlength).right.mem_iff.mp
                (List.mem_range.mpr hi)
              rcases List.mem_map.mp hmem with ⟨⟨j, e⟩, hj, rfl⟩
              cases hnone j e hj
              rcases (hrecorded.replies j none).mp (Or.inr hj) with hsettle | hfailed
              · exact hsettle
              · rcases hfailed.right with ⟨_, _, _, _, he⟩
                cases he
  · cases events with
    | nil => cases htext
    | cons first rest =>
        rw [publishMany, hrecorded.outer] at htext
        cases hgathered : gathered (first :: rest) b.finished with
        | none =>
            rw [hgathered] at htext
            cases htext
        | some answer => cases answer with
          | ok found =>
              rw [hgathered] at htext
              cases htext
          | error e =>
              rw [hgathered] at htext
              rcases mem_of_gathered_error hgathered with ⟨i, hi⟩
              refine ⟨i, e, first, ?_, rfl,
                (Except.error.inj (Option.some.inj htext)).symm⟩
              exact ((hrecorded.replies i (some e)).mp (Or.inr hi)).imp_right And.right
  · have hlimit : 0 < (max 1 k).toNat := by omega
    rcases stopped hsound hlimit hover with ⟨hready, hpublishing, hall⟩
    have hlength : b.finished.length = events.length := by
      have hfinished := hsound.finished_length
      rw [hready, hpublishing, ends_nil, List.length_nil, List.length_nil] at hfinished
      omega
    rcases hsound.counted_all hlength with ⟨hends, hperm⟩
    have hcalls : b.calls = events.filterMap (Envelope.publishCall isAlnum) := by
      rcases hsound.inLine with ⟨value, pending, hline⟩
      rw [hrecorded.calls, hline.begun_eq, hall, filterMap_callAt_range (Nat.le_refl _),
        List.take_length]
    cases events with
    | nil => exact ⟨hcalls, nofun, fun _ => rfl⟩
    | cons first rest =>
        have hsome : b.finished ≠ [] := by
          intro hnil
          rw [hnil] at hlength
          cases hlength
        refine ⟨hcalls, ?_, fun hacked => ?_⟩
        · rw [publishMany, hrecorded.outer]
          cases hgathered : gathered (first :: rest) b.finished with
          | none => exact absurd hgathered (gathered_ne_none hlength hsome)
          | some answer => cases answer with
            | ok found => exact nofun
            | error e => exact nofun
        · have hnodup : (b.finished.map Prod.fst).Nodup :=
            hperm.nodup_iff.mp List.nodup_range
          have hok : gathered (first :: rest) b.finished =
              some (.ok ((first :: rest).map Envelope.eventId)) := by
            refine gathered_eq_ok.mpr ⟨hsome, hlength, fun i e hmem => ?_, rfl⟩
            have hi := hperm.mem_iff.mpr (List.mem_map_of_mem (f := Prod.fst) hmem)
            have hsettled := (hrecorded.replies i none).mpr
              (Or.inl (hacked i (List.mem_range.mp hi)))
            rw [hends] at hsettled
            rcases hsettled with hnone | hsettled
            · exact absurd hnone List.not_mem_nil
            · exact congrArg Prod.snd
                (List.inj_on_of_nodup_map hnodup hmem hsettled rfl)
          rw [publishMany, hrecorded.outer, hok]

end Record

/-!
### One event that is stored and one without a text, one at a time
-/

def twoEvents : List (Envelope Unit) :=
  [⟨str "a", str "core", .ok []⟩, ⟨str "b", str "core", .error ()⟩]

def twoMoves : List (Move Unit) :=
  [.run, .run, .settle 0 none, .run, .run, .run]

/-- The batch when both are counted. -/
def bothCounted : Batch Unit where
  semaphore := ⟨1, []⟩
  ready := []
  begun := [0, 1]
  calls := [⟨auditSubject (fun _ => true) (str "core"), [], str "a"⟩]
  publishing := []
  finished := [(0, none), (1, some ())]
  outer := some (.error ())

theorem twoMoves_run :
    exec (step (fun _ => true) twoEvents) (gather twoEvents 0) twoMoves =
      some bothCounted := rfl

theorem batch_window_one : bothCounted.publishing.length ≤ (max 1 (0 : Int)).toNat ∧
    bothCounted.begun = List.range bothCounted.begun.length :=
  ⟨(batch_window twoMoves_run).left, (batch_window twoMoves_run).right.left⟩

theorem batch_answer_failed :
    exists i e first, (Move.settle i (some e) ∈ twoMoves ∨
        FailedDump twoEvents i (some e)) ∧
      twoEvents[0]? = some first ∧
      describeFailure (fun _ => true) (str "TypeError: ") (str "core") .gone =
        describeFailure (fun _ => true) (str "TypeError: ") first.producer .gone :=
  (batch_answer twoMoves_run (fun _ => str "TypeError: ") .gone).right.left _ rfl

end Batch

end Audit
end EidolonSdk
