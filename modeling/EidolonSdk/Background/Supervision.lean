import EidolonSdk.Background.TaskRunner
import Mathlib.Algebra.GroupWithZero.Nat

/-!
# What the runner loses and what it reports

Whatever order things happen in, a task is kept exactly as long as its callback
is owed, and each failure is reported once.  A drain comes back when everything
it waited for is done.  The runner has heard of all of it then, because the loop
keeps the order of its handles; only a drain that found everything done already
comes back before.
-/

namespace EidolonSdk
namespace Background

open Python Logic

universe u

variable {ε : Type u}

/-!
## Registering a drain
-/

section Register

variable {loop : EventLoop Handle ε} {g : Nat} {ts : List Nat}

theorem register_kept (hknown : forall t, t ∈ ts -> t < loop.tasks.length) :
    (BackgroundTaskRunner.register g loop ts).ready = loop.ready ∧
      (BackgroundTaskRunner.register g loop ts).tasks.length =
        loop.tasks.length := by
  induction ts generalizing loop with
  | nil => exact ⟨rfl, rfl⟩
  | cons t rest ih =>
      have hrest : forall s, s ∈ rest -> s < loop.tasks.length := fun s hs =>
        hknown s (List.mem_cons_of_mem t hs)
      rw [BackgroundTaskRunner.register]
      by_cases hdone : loop.isDone t = true
      · rw [if_pos hdone]
        exact ih hrest
      · rw [if_neg hdone]
        rcases EventLoop.addDoneCallback_running (hknown t List.mem_cons_self)
          (Bool.eq_false_iff.mpr hdone) (.gathered g t) with ⟨hready, hlength, _⟩
        rcases @ih (loop.addDoneCallback t (.gathered g t))
          (fun s hs => hlength.symm ▸ hrest s hs) with ⟨hready', hlength'⟩
        exact ⟨hready'.trans hready, hlength'.trans hlength⟩

theorem register_tasks (hnodup : ts.Nodup)
    (hknown : forall t, t ∈ ts -> t < loop.tasks.length) (s : Nat) :
    (BackgroundTaskRunner.register g loop ts).tasks[s]? =
      loop.tasks[s]?.map
        (Task.adding (if s ∈ ts then [Handle.gathered g s] else [])) := by
  induction ts generalizing loop with
  | nil =>
      rw [BackgroundTaskRunner.register, if_neg List.not_mem_nil]
      cases loop.tasks[s]? with
      | none => rfl
      | some task => rw [Option.map_some, Task.adding_nil]
  | cons t rest ih =>
      rcases List.nodup_cons.mp hnodup with ⟨hfresh, hrest⟩
      have hbelow : forall s, s ∈ rest -> s < loop.tasks.length := fun s hs =>
        hknown s (List.mem_cons_of_mem t hs)
      rw [BackgroundTaskRunner.register]
      by_cases hdone : loop.isDone t = true
      · rw [if_pos hdone, ih hrest hbelow]
        by_cases hs : s = t
        · rcases EventLoop.isDone_iff.mp hdone with ⟨ending, htask⟩
          rw [hs, htask]
          rfl
        · simp only [List.mem_cons, hs, false_or]
      · rw [if_neg hdone]
        rcases EventLoop.addDoneCallback_running (hknown t List.mem_cons_self)
          (Bool.eq_false_iff.mpr hdone) (.gathered g t) with ⟨_, hlength, htasks⟩
        rw [ih hrest (fun s hs => hlength.symm ▸ hbelow s hs), htasks s]
        by_cases hs : s = t
        · rw [hs, if_neg hfresh, if_pos rfl, if_pos List.mem_cons_self]
          cases loop.tasks[t]? with
          | none => rfl
          | some task => simp
        · rw [if_neg hs]
          simp only [List.mem_cons, hs, false_or]
          cases loop.tasks[s]? with
          | none => rfl
          | some task => simp

theorem register_owed_ne {h : Handle} (hne : forall t, h ≠ .gathered g t)
    (hknown : forall t, t ∈ ts -> t < loop.tasks.length) :
    (BackgroundTaskRunner.register g loop ts).owed h = loop.owed h := by
  induction ts generalizing loop with
  | nil => rfl
  | cons t rest ih =>
      have hrest : forall s, s ∈ rest -> s < loop.tasks.length := fun s hs =>
        hknown s (List.mem_cons_of_mem t hs)
      rw [BackgroundTaskRunner.register]
      by_cases hdone : loop.isDone t = true
      · rw [if_pos hdone]
        exact ih hrest
      · rw [if_neg hdone]
        have ht : t < loop.tasks.length := hknown t List.mem_cons_self
        rcases EventLoop.addDoneCallback_running ht
          (Bool.eq_false_iff.mpr hdone) (.gathered g t) with ⟨_, hlength, _⟩
        rw [ih (fun s hs => hlength.symm ▸ hrest s hs),
          EventLoop.owed_addDoneCallback ht]
        simp [(hne t).symm]

theorem register_owed (hnodup : ts.Nodup)
    (hknown : forall t, t ∈ ts -> t < loop.tasks.length) (s : Nat) :
    (BackgroundTaskRunner.register g loop ts).owed (.gathered g s) =
      loop.owed (.gathered g s) +
        if s ∈ ts ∧ loop.isDone s = false then 1 else 0 := by
  induction ts generalizing loop with
  | nil => simp [BackgroundTaskRunner.register]
  | cons t rest ih =>
      rcases List.nodup_cons.mp hnodup with ⟨hfresh, hrest⟩
      have hbelow : forall s, s ∈ rest -> s < loop.tasks.length := fun s hs =>
        hknown s (List.mem_cons_of_mem t hs)
      rw [BackgroundTaskRunner.register]
      by_cases hdone : loop.isDone t = true
      · rw [if_pos hdone, ih hrest hbelow]
        by_cases hs : s = t
        · simp [hs, hdone, hfresh]
        · simp [hs]
      · rw [if_neg hdone]
        have ht : t < loop.tasks.length := hknown t List.mem_cons_self
        have hfalse : loop.isDone t = false := Bool.eq_false_iff.mpr hdone
        rcases EventLoop.addDoneCallback_running ht hfalse (.gathered g t) with
          ⟨_, hlength, htasks⟩
        rw [ih hrest (fun s hs => hlength.symm ▸ hbelow s hs),
          EventLoop.owed_addDoneCallback ht]
        by_cases hs : s = t
        · simp [hs, hfresh, hfalse]
        · have hsame : (loop.addDoneCallback t (.gathered g t)).isDone s =
              loop.isDone s := by
            rw [EventLoop.isDone, EventLoop.isDone, htasks s, if_neg hs]
            cases loop.tasks[s]? with
            | none => rfl
            | some task => rw [Option.map_some, Task.adding_nil]
          simp [hs, Ne.symm hs, hsame]

end Register

/-!
## What holds between the actions
-/

def LogRecord.task? : LogRecord ε -> Option Nat
  | .failed _ _ t _ => some t
  | .drainTimedOut _ _ => none

namespace BackgroundTaskRunner

/-- The tasks reported as failed, in the order of the reports. -/
def reported (r : BackgroundTaskRunner ε) : List Nat :=
  r.log.filterMap LogRecord.task?

def Raised (r : BackgroundTaskRunner ε) (t : Nat) : Prop :=
  exists e, r.loop.tasks[t]? = some (.done (.raised e))

def Truthful (r : BackgroundTaskRunner ε) : LogRecord ε -> Prop
  | .failed component name t e =>
      component = r.component ∧ r.names[t]? = some name ∧
        r.loop.tasks[t]? = some (.done (.raised e))
  | .drainTimedOut component _ => component = r.component

/-- A task is kept exactly as long as its callback is owed, and was reported when
it is not kept any more and had raised something. -/
structure Supervised (r : BackgroundTaskRunner ε) : Prop where
  named : r.names.length = r.loop.tasks.length
  nodup : r.tasks.Nodup
  known : forall t, t ∈ r.tasks -> t < r.loop.tasks.length
  owed : forall t, r.loop.owed (.onDone t) = if t ∈ r.tasks then 1 else 0
  waits : forall (t : Nat) (callbacks : List Handle),
    r.loop.tasks[t]? = some (.running callbacks) ->
      exists more, callbacks = .onDone t :: more ∧
        forall h, h ∈ more -> exists g, h = .gathered g t
  once : r.reported.Nodup
  reported_iff : forall t, t ∈ r.reported <-> r.Raised t ∧ t ∉ r.tasks
  truthful : forall record, record ∈ r.log -> r.Truthful record

/-- What is known of the drain {lit}`g`. -/
structure Drained (r : BackgroundTaskRunner ε) (g : Nat) (d : Drain) : Prop where
  nodup : d.pending.Nodup
  known : forall t, t ∈ d.pending -> t < r.loop.tasks.length
  counted : d.finished + (d.pending.map fun t => r.loop.owed (.gathered g t)).sum =
    d.pending.length
  foreign : forall t, t ∉ d.pending -> r.loop.owed (.gathered g t) = 0
  asked : forall t, t ∈ d.pending -> forall callbacks : List Handle,
    r.loop.tasks[t]? = some (.running callbacks) -> .gathered g t ∈ callbacks
  waiting : d.status = .waiting ->
    d.finished < d.pending.length ∧ r.loop.owed (.wake g) = 0 ∧ d.suspended = true
  woken : d.status = .woken -> d.finished = d.pending.length ∧
    r.loop.owed (.wake g) = 1 ∧ r.loop.ready.Pairwise fun a b =>
      a = .wake g -> forall t, t ∈ d.pending -> b ≠ .onDone t
  returned : d.status = .returned -> d.finished = d.pending.length ∧
    r.loop.owed (.wake g) = 0 ∧
    (d.suspended = true -> forall t, t ∈ d.pending -> t ∉ r.tasks)

/-- No drain beyond the last one is owed anything. -/
structure Consistent (r : BackgroundTaskRunner ε) : Prop where
  supervised : r.Supervised
  drained : forall (g : Nat) (d : Drain), r.drains[g]? = some d -> r.Drained g d
  beyond : forall g, r.drains.length ≤ g ->
    (forall t, r.loop.owed (.gathered g t) = 0) ∧ r.loop.owed (.wake g) = 0

variable {r : BackgroundTaskRunner ε} {g : Nat} {d : Drain}

theorem Supervised.running_kept (h : r.Supervised) {t : Nat} {callbacks : List Handle}
    (ht : r.loop.tasks[t]? = some (.running callbacks)) : t ∈ r.tasks := by
  rcases h.waits t callbacks ht with ⟨more, hcallbacks, _⟩
  have hpos : 0 < r.loop.owed (.onDone t) :=
    EventLoop.owed_pos_of_mem_callbacks ht
      (by rw [Task.callbacks, hcallbacks]; exact List.mem_cons_self)
  rw [h.owed t] at hpos
  by_contra hkept
  rw [if_neg hkept] at hpos
  exact lt_irrefl 0 hpos

theorem Drained.nothing_owed (h : r.Drained g d)
    (hfinished : d.finished = d.pending.length) (t : Nat) :
    r.loop.owed (.gathered g t) = 0 := by
  by_cases ht : t ∈ d.pending
  · have hsum : (d.pending.map fun t => r.loop.owed (.gathered g t)).sum = 0 := by
      have hcounted := h.counted
      omega
    exact List.sum_eq_zero_iff_forall_eq_nat.mp hsum _ (List.mem_map_of_mem ht)
  · exact h.foreign t ht

theorem Drained.all_done (h : r.Drained g d)
    (hfinished : d.finished = d.pending.length) {t : Nat} (ht : t ∈ d.pending) :
    r.loop.isDone t = true := by
  by_contra hdone
  rcases EventLoop.running_of_not_done (h.known t ht) (Bool.eq_false_iff.mpr hdone) with
    ⟨callbacks, htask⟩
  have hpos := EventLoop.owed_pos_of_mem_callbacks htask (h.asked t ht callbacks htask)
  rw [h.nothing_owed hfinished t] at hpos
  exact lt_irrefl 0 hpos

theorem Supervised.not_kept (h : r.Supervised) {t : Nat}
    (hdone : r.loop.isDone t = true) (hready : .onDone t ∉ r.loop.ready) :
    t ∉ r.tasks := by
  intro hkept
  have hpos : 0 < r.loop.owed (.onDone t) := by
    rw [h.owed t, if_pos hkept]
    exact Nat.one_pos
  rcases EventLoop.mem_of_owed_pos hpos with hmem | ⟨s, task, htask, hmem⟩
  · exact hready hmem
  · cases task with
    | done ending => cases hmem
    | running callbacks =>
        rcases h.waits s callbacks htask with ⟨more, hcallbacks, hmore⟩
        rw [Task.callbacks, hcallbacks] at hmem
        cases hmem with
        | head => rw [EventLoop.isDone_of_running htask] at hdone; cases hdone
        | tail _ hmem => rcases hmore _ hmem with ⟨g, hg⟩; cases hg

/-!
## What an action leaves of a drain
-/

/-- An action that is not about the drain: handles are taken from the front and
added at the back, and none of those added is for a task that was done. -/
theorem Drained.of_step {r' : BackgroundTaskRunner ε} (h : r.Drained g d)
    (front mid more : List Handle)
    (hlength : r.loop.tasks.length ≤ r'.loop.tasks.length)
    (howed : forall t, r'.loop.owed (.gathered g t) = r.loop.owed (.gathered g t))
    (hwake : r'.loop.owed (.wake g) = r.loop.owed (.wake g))
    (hrunning : forall (t : Nat) (callbacks' : List Handle),
      t < r.loop.tasks.length ->
      r'.loop.tasks[t]? = some (.running callbacks') ->
        exists callbacks, r.loop.tasks[t]? = some (.running callbacks) ∧
          callbacks ⊆ callbacks')
    (hgone : forall t, t < r.loop.tasks.length -> t ∉ r.tasks -> t ∉ r'.tasks)
    (hready : r.loop.ready = front ++ mid) (hready' : r'.loop.ready = mid ++ more)
    (hmore : forall t, r.loop.isDone t = true -> Handle.onDone t ∉ more) :
    r'.Drained g d := by
  refine ⟨h.nodup, fun t ht => lt_of_lt_of_le (h.known t ht) hlength, ?_, ?_, ?_, ?_,
    ?_, ?_⟩
  · simp only [howed]
    exact h.counted
  · intro t ht
    rw [howed t]
    exact h.foreign t ht
  · intro t ht callbacks' htask'
    rcases hrunning t callbacks' (h.known t ht) htask' with ⟨callbacks, htask, hsub⟩
    exact hsub (h.asked t ht callbacks htask)
  · intro hstatus
    rw [hwake]
    exact h.waiting hstatus
  · intro hstatus
    rcases h.woken hstatus with ⟨hfinished, hone, horder⟩
    refine ⟨hfinished, hwake.trans hone, ?_⟩
    rw [hready] at horder
    have hlate : forall b, b ∈ more -> forall t, t ∈ d.pending -> b ≠ .onDone t := by
      intro b hb t ht hbt
      exact hmore t (h.all_done hfinished ht) (hbt ▸ hb)
    rw [hready', List.pairwise_append]
    exact ⟨(List.pairwise_append.mp horder).right.left,
      List.pairwise_of_forall_mem_list fun a _ b hb _ => hlate b hb,
      fun a _ b hb _ => hlate b hb⟩
  · intro hstatus
    rcases h.returned hstatus with ⟨hfinished, hzero, hgoneNow⟩
    exact ⟨hfinished, hwake.trans hzero, fun hsuspended t ht =>
      hgone t (h.known t ht) (hgoneNow hsuspended t ht)⟩

/-!
## Creating a task
-/

theorem create_loop (r : BackgroundTaskRunner ε) (name : PyStr) :
    (r.create name).loop = { r.loop with
      tasks := r.loop.tasks ++ [.running [.onDone r.loop.tasks.length]] } := by
  rw [create, EventLoop.createTask_addDoneCallback]

theorem create_owed (r : BackgroundTaskRunner ε) (name : PyStr) (h : Handle) :
    (r.create name).loop.owed h =
      r.loop.owed h + [Handle.onDone r.loop.tasks.length].count h := by
  rw [create, EventLoop.owed_addDoneCallback (by simp [EventLoop.createTask]),
    EventLoop.owed_createTask]

theorem create_task (r : BackgroundTaskRunner ε) (name : PyStr) (t : Nat) :
    (r.create name).loop.tasks[t]? =
      if t = r.loop.tasks.length then some (.running [.onDone t])
      else r.loop.tasks[t]? := by
  rw [create_loop, List.getElem?_append]
  by_cases ht : t = r.loop.tasks.length
  · simp [ht]
  · by_cases hlt : t < r.loop.tasks.length
    · rw [if_pos hlt, if_neg ht]
    · rw [if_neg hlt, if_neg ht, List.getElem?_eq_none (by simp; omega),
        List.getElem?_eq_none (by omega)]

theorem create_raised (r : BackgroundTaskRunner ε) (name : PyStr) (t : Nat) :
    (r.create name).Raised t <-> r.Raised t := by
  unfold Raised
  rw [create_task]
  by_cases ht : t = r.loop.tasks.length
  · simp [ht]
  · rw [if_neg ht]

theorem Supervised.create (h : r.Supervised) (name : PyStr) :
    (r.create name).Supervised := by
  have hfresh : r.loop.tasks.length ∉ r.tasks := fun hmem =>
    lt_irrefl _ (h.known _ hmem)
  have htasks : (r.create name).tasks = r.tasks ++ [r.loop.tasks.length] := rfl
  have hlength : (r.create name).loop.tasks.length = r.loop.tasks.length + 1 := by
    rw [create_loop]
    simp
  refine ⟨?_, ?_, ?_, ?_, ?_, h.once, ?_, ?_⟩
  · rw [hlength]
    simp [BackgroundTaskRunner.create, h.named]
  · rw [htasks]
    exact List.nodup_append.mpr ⟨h.nodup, List.pairwise_singleton _ _, by
      intro s hs u hu heq
      rw [List.mem_singleton.mp hu] at heq
      exact hfresh (heq ▸ hs)⟩
  · intro t ht
    rw [htasks, List.mem_append, List.mem_singleton] at ht
    rw [hlength]
    cases ht with
    | inl hold => exact Nat.lt_succ_of_lt (h.known t hold)
    | inr hnew => omega
  · intro t
    rw [create_owed, h.owed t, htasks]
    by_cases ht : t = r.loop.tasks.length
    · simp [ht, hfresh]
    · simp [ht, Ne.symm ht]
  · intro t callbacks htask
    rw [create_task] at htask
    by_cases ht : t = r.loop.tasks.length
    · rw [if_pos ht] at htask
      cases htask
      exact ⟨[], rfl, fun h' hmem => absurd hmem List.not_mem_nil⟩
    · rw [if_neg ht] at htask
      exact h.waits t callbacks htask
  · intro t
    rw [create_raised, htasks, List.mem_append, List.mem_singleton]
    refine Iff.trans (h.reported_iff t) (and_congr_right fun hraised => ?_)
    have hne : t ≠ r.loop.tasks.length := by
      intro hsame
      rcases hsame with rfl
      rcases hraised with ⟨e, he⟩
      rw [List.getElem?_eq_none (le_refl _)] at he
      cases he
    simp [hne]
  · intro record hrecord
    have hold := h.truthful record hrecord
    cases record with
    | drainTimedOut component pending => exact hold
    | failed component name' t e =>
        rcases hold with ⟨hcomponent, hname, htask⟩
        have hlt : t < r.loop.tasks.length := (List.getElem?_eq_some_iff.mp htask).choose
        refine ⟨hcomponent, ?_, ?_⟩
        · exact List.getElem?_append_left (h.named ▸ hlt) ▸ hname
        · rw [create_task, if_neg (ne_of_lt hlt)]
          exact htask

theorem Drained.create (h : r.Drained g d) (name : PyStr) :
    (r.create name).Drained g d := by
  have hnone : forall h', (forall t, h' ≠ .onDone t) ->
      (r.create name).loop.owed h' = r.loop.owed h' := by
    intro h' hne
    rw [create_owed]
    simp [(hne r.loop.tasks.length).symm]
  refine h.of_step [] r.loop.ready [] ?_
    (fun t => hnone _ (fun s => nofun)) (hnone _ (fun s => nofun)) ?_ ?_ rfl ?_ ?_
  · rw [create_loop]
    simp
  · intro t callbacks' hlt htask
    rw [create_task, if_neg (ne_of_lt hlt)] at htask
    exact ⟨callbacks', htask, fun _ hmem => hmem⟩
  · intro t hlt hgone hmem
    rcases List.mem_append.mp hmem with hold | hnew
    · exact hgone hold
    · exact ne_of_lt hlt (List.mem_singleton.mp hnew)
  · rw [create_loop, List.append_nil]
  · exact fun t _ => List.not_mem_nil

theorem Consistent.create (h : r.Consistent) (name : PyStr) :
    (r.create name).Consistent := by
  refine ⟨h.supervised.create name, fun g d hd => (h.drained g d hd).create name, ?_⟩
  intro g hg
  rcases h.beyond g hg with ⟨hgathered, hwake⟩
  simp only [create_owed]
  simp [hgathered, hwake]

/-!
## The end of a task
-/

theorem Supervised.finish (h : r.Supervised) {t : Nat} {ending : TaskEnd ε}
    {next : EventLoop Handle ε} (hfinish : r.loop.finish t ending = some next) :
    ({ r with loop := next } : BackgroundTaskRunner ε).Supervised := by
  rcases EventLoop.finish_eq_some.mp hfinish with ⟨callbacks, htask, hnext⟩
  have hkept : t ∈ r.tasks := h.running_kept htask
  have hlt : t < r.loop.tasks.length := h.known t hkept
  have hother : forall s, s ≠ t -> next.tasks[s]? = r.loop.tasks[s]? := by
    intro s hs
    rw [hnext]
    exact List.getElem?_set_ne (Ne.symm hs)
  have hself : next.tasks[t]? = some (.done ending) := by
    rw [hnext]
    exact List.getElem?_set_self hlt
  have hlength : next.tasks.length = r.loop.tasks.length := by
    rw [hnext]
    exact List.length_set
  refine ⟨h.named.trans hlength.symm, h.nodup,
    fun s hs => lt_of_lt_of_eq (h.known s hs) hlength.symm, ?_, ?_, h.once, ?_, ?_⟩
  · intro s
    show next.owed (.onDone s) = _
    rw [EventLoop.owed_finish hfinish]
    exact h.owed s
  · intro s callbacks' hs
    by_cases hst : s = t
    · rw [hst] at hs
      cases hself.symm.trans hs
    · exact h.waits s callbacks' (hother s hst ▸ hs)
  · intro s
    refine Iff.trans (h.reported_iff s) ?_
    by_cases hst : s = t
    · rw [hst]
      exact iff_of_false (fun hs => hs.right hkept) (fun hs => hs.right hkept)
    · exact and_congr_left fun _ => by simp only [Raised, hother s hst]
  · intro record hrecord
    have hold := h.truthful record hrecord
    cases record with
    | drainTimedOut component pending => exact hold
    | failed component name s e =>
        rcases hold with ⟨hcomponent, hname, hs⟩
        have hst : s ≠ t := by
          intro heq
          rcases heq with rfl
          cases htask.symm.trans hs
        exact ⟨hcomponent, hname, (hother s hst).trans hs⟩

theorem Drained.finish (h : r.Drained g d) (hr : r.Supervised) {t : Nat}
    {ending : TaskEnd ε} {next : EventLoop Handle ε}
    (hfinish : r.loop.finish t ending = some next) :
    ({ r with loop := next } : BackgroundTaskRunner ε).Drained g d := by
  rcases EventLoop.finish_eq_some.mp hfinish with ⟨callbacks, htask, hnext⟩
  rcases hr.waits t callbacks htask with ⟨more, hcallbacks, hmore⟩
  refine h.of_step [] r.loop.ready callbacks ?_
    (fun s => EventLoop.owed_finish hfinish _) (EventLoop.owed_finish hfinish _) ?_
    (fun s _ hgone => hgone) rfl ?_ ?_
  · show _ ≤ next.tasks.length
    rw [hnext]
    exact le_of_eq List.length_set.symm
  · intro s callbacks' hlt hs
    have hst : s ≠ t := by
      intro heq
      rcases heq with rfl
      have hdone : next.tasks[s]? = some (.done ending) := by
        rw [hnext]
        exact List.getElem?_set_self hlt
      cases hdone.symm.trans hs
    refine ⟨callbacks', ?_, fun _ hmem => hmem⟩
    rw [← hs, hnext]
    exact (List.getElem?_set_ne (Ne.symm hst)).symm
  · show next.ready = _
    rw [hnext]
  · intro s hdone hmem
    rw [hcallbacks] at hmem
    cases hmem with
    | head => rw [EventLoop.isDone_of_running htask] at hdone; cases hdone
    | tail _ hmem => rcases hmore _ hmem with ⟨g, hg⟩; cases hg

theorem Consistent.finish (h : r.Consistent) {t : Nat} {ending : TaskEnd ε}
    {next : EventLoop Handle ε} (hfinish : r.loop.finish t ending = some next) :
    ({ r with loop := next } : BackgroundTaskRunner ε).Consistent := by
  refine ⟨h.supervised.finish hfinish,
    fun g d hd => (h.drained g d hd).finish h.supervised hfinish, ?_⟩
  intro g hg
  show (forall t, next.owed _ = 0) ∧ next.owed _ = 0
  simp only [EventLoop.owed_finish hfinish]
  exact h.beyond g hg

/-!
## Running a handle
-/

def taken (r : BackgroundTaskRunner ε) (rest : List Handle) :
    BackgroundTaskRunner ε :=
  { r with loop := { r.loop with ready := rest } }

section Taken

variable {h : Handle} {rest : List Handle} (hready : r.loop.ready = h :: rest)
include hready

theorem taken_owed (h' : Handle) :
    (r.taken rest).loop.owed h' + [h].count h' = r.loop.owed h' :=
  EventLoop.owed_ready hready h'

theorem taken_owed_ne {h' : Handle} (hne : h ≠ h') :
    (r.taken rest).loop.owed h' = r.loop.owed h' := by
  have howed := taken_owed hready h'
  rw [List.count_cons_of_ne hne, List.count_nil] at howed
  exact howed

theorem taken_owed_self : (r.taken rest).loop.owed h + 1 = r.loop.owed h := by
  have howed := taken_owed hready h
  rwa [List.count_singleton_self] at howed

theorem owed_pos_of_ready : 0 < r.loop.owed h :=
  EventLoop.owed_pos_of_mem_ready (by rw [hready]; exact List.mem_cons_self)

end Taken

theorem Supervised.of_same {r' : BackgroundTaskRunner ε} (h : r.Supervised)
    (hcomponent : r'.component = r.component) (hnames : r'.names = r.names)
    (htasks : r'.tasks = r.tasks) (hloop : r'.loop.tasks = r.loop.tasks)
    (howed : forall t, r'.loop.owed (.onDone t) = r.loop.owed (.onDone t))
    (hreported : r'.reported = r.reported)
    (hlog : forall record, record ∈ r'.log ->
      record ∈ r.log ∨ exists n, record = .drainTimedOut r.component n) :
    r'.Supervised := by
  have hraised : forall t, r'.Raised t <-> r.Raised t := by
    intro t
    simp only [Raised, hloop]
  refine ⟨by rw [hnames, hloop, h.named], htasks ▸ h.nodup, ?_, ?_, ?_,
    hreported ▸ h.once, ?_, ?_⟩
  · rw [htasks, hloop]
    exact h.known
  · intro t
    rw [howed, htasks]
    exact h.owed t
  · rw [hloop]
    exact h.waits
  · intro t
    rw [hreported, hraised, htasks]
    exact h.reported_iff t
  · intro record hrecord
    rcases hlog record hrecord with hold | ⟨n, hnew⟩
    · have htrue := h.truthful record hold
      cases record with
      | drainTimedOut component n => exact htrue.trans hcomponent.symm
      | failed component name t e =>
          rcases htrue with ⟨hc, hn, ht⟩
          exact ⟨hc.trans hcomponent.symm, hnames ▸ hn, hloop ▸ ht⟩
    · rw [hnew]
      exact hcomponent.symm

/-- A handle that is not about the drain takes itself away and adds at most a
wake-up of another drain. -/
theorem Drained.of_handle {r' : BackgroundTaskRunner ε} (hd : r.Drained g d)
    {h : Handle} {rest : List Handle} (more : List Handle) (hready : r.loop.ready = h :: rest)
    (hloop : r'.loop.tasks = r.loop.tasks) (hready' : r'.loop.ready = rest ++ more)
    (htasks : forall t, t ∈ r'.tasks -> t ∈ r.tasks)
    (howed : forall t, r'.loop.owed (.gathered g t) = r.loop.owed (.gathered g t))
    (hwake : r'.loop.owed (.wake g) = r.loop.owed (.wake g))
    (hmore : forall t, Handle.onDone t ∉ more) : r'.Drained g d :=
  hd.of_step [h] rest more (le_of_eq (congrArg List.length hloop.symm)) howed hwake
    (fun _ callbacks' _ ht => ⟨callbacks', hloop ▸ ht, fun _ hmem => hmem⟩)
    (fun t _ hgone hmem => hgone (htasks t hmem)) hready hready'
    (fun t _ => hmore t)

/-!
### A task is done
-/

theorem onDone_kept (r : BackgroundTaskRunner ε) (t : Nat) :
    (r.onDone t).loop = r.loop ∧ (r.onDone t).names = r.names ∧
      (r.onDone t).component = r.component ∧ (r.onDone t).drains = r.drains ∧
      (r.onDone t).tasks = r.tasks.filter fun s => s != t := by
  unfold onDone
  cases r.loop.tasks[t]? with
  | none => exact ⟨rfl, rfl, rfl, rfl, rfl⟩
  | some task => cases task with
    | running callbacks => exact ⟨rfl, rfl, rfl, rfl, rfl⟩
    | done ending => cases ending with
      | returned => exact ⟨rfl, rfl, rfl, rfl, rfl⟩
      | cancelled => exact ⟨rfl, rfl, rfl, rfl, rfl⟩
      | raised e => exact ⟨rfl, rfl, rfl, rfl, rfl⟩

/-- A task that raised something is reported, and no other one is. -/
theorem onDone_log (r : BackgroundTaskRunner ε) (t : Nat) :
    ((exists e, r.loop.tasks[t]? = some (.done (.raised e)) ∧
        (r.onDone t).log = r.log ++
          [.failed r.component (r.names.getD t []) t e]) ∨
      ¬ r.Raised t ∧ (r.onDone t).log = r.log) := by
  unfold onDone Raised
  cases r.loop.tasks[t]? with
  | none => exact Or.inr ⟨by simp, rfl⟩
  | some task => cases task with
    | running callbacks => exact Or.inr ⟨by simp, rfl⟩
    | done ending => cases ending with
      | returned => exact Or.inr ⟨by simp, rfl⟩
      | cancelled => exact Or.inr ⟨by simp, rfl⟩
      | raised e => exact Or.inl ⟨e, rfl, rfl⟩

theorem Supervised.onDone (h : r.Supervised) {t : Nat} {rest : List Handle}
    (hready : r.loop.ready = .onDone t :: rest) :
    ((r.taken rest).onDone t).Supervised := by
  rcases onDone_kept (r.taken rest) t with ⟨hloop, hnames, hcomponent, _, htasks⟩
  have hkept : t ∈ r.tasks := by
    by_contra hgone
    have hpos := owed_pos_of_ready hready
    rw [h.owed t, if_neg hgone] at hpos
    exact lt_irrefl 0 hpos
  have hmem : forall s, s ∈ ((r.taken rest).onDone t).tasks <-> s ∈ r.tasks ∧ s ≠ t := by
    intro s
    rw [htasks, List.mem_filter, bne_iff_ne]
    rfl
  have hraised : forall s, ((r.taken rest).onDone t).Raised s <-> r.Raised s := by
    intro s
    rw [Raised, hloop]
    rfl
  have hnotYet : t ∉ r.reported := fun hin =>
    ((h.reported_iff t).mp hin).right hkept
  refine ⟨by rw [hnames, hloop]; exact h.named, ?_, ?_, ?_, ?_, ?_, ?_, ?_⟩
  · rw [htasks]
    exact h.nodup.filter _
  · intro s hs
    rw [hloop]
    exact h.known s ((hmem s).mp hs).left
  · intro s
    rw [hloop]
    by_cases hst : s = t
    · have hself := taken_owed_self hready
      rw [h.owed t, if_pos hkept] at hself
      rw [hst, if_neg fun hin => ((hmem t).mp hin).right rfl]
      exact Nat.succ.inj hself
    · rw [taken_owed_ne hready (by simp [Ne.symm hst]), h.owed s]
      by_cases hs : s ∈ r.tasks
      · rw [if_pos hs, if_pos ((hmem s).mpr ⟨hs, hst⟩)]
      · rw [if_neg hs, if_neg fun hin => hs ((hmem s).mp hin).left]
  · intro s callbacks hs
    rw [hloop] at hs
    exact h.waits s callbacks hs
  · rcases onDone_log (r.taken rest) t with ⟨e, _, hlog⟩ | ⟨_, hlog⟩
    · have hreported : ((r.taken rest).onDone t).reported = r.reported ++ [t] := by
        rw [reported, hlog, List.filterMap_append]
        rfl
      rw [hreported]
      exact List.nodup_append.mpr ⟨h.once, List.pairwise_singleton _ _, by
        intro s hs u hu heq
        rw [List.mem_singleton.mp hu] at heq
        exact hnotYet (heq ▸ hs)⟩
    · rw [reported, hlog]
      exact h.once
  · intro s
    rw [hraised s, hmem s]
    rcases onDone_log (r.taken rest) t with ⟨e, htask, hlog⟩ | ⟨hnot, hlog⟩
    · have hreported : ((r.taken rest).onDone t).reported = r.reported ++ [t] := by
        rw [reported, hlog, List.filterMap_append]
        rfl
      rw [hreported, List.mem_append, List.mem_singleton, h.reported_iff s]
      by_cases hst : s = t
      · rw [hst]
        exact iff_of_true (Or.inr rfl) ⟨⟨e, htask⟩, fun hin => hin.right rfl⟩
      · simp [hst]
    · have hsame : ((r.taken rest).onDone t).reported = r.reported := by
        rw [reported, hlog]
        rfl
      rw [hsame, h.reported_iff s]
      by_cases hst : s = t
      · rw [hst]
        exact iff_of_false (fun hin => hin.right hkept) (fun hin => hnot hin.left)
      · simp [hst]
  · intro record hrecord
    have hold : forall record, record ∈ r.log ->
        ((r.taken rest).onDone t).Truthful record := by
      intro record hin
      have htrue := h.truthful record hin
      cases record with
      | drainTimedOut component n => exact htrue.trans hcomponent.symm
      | failed component name s e =>
          rcases htrue with ⟨hc, hn, hs⟩
          exact ⟨hc.trans hcomponent.symm, hnames ▸ hn, by rw [hloop]; exact hs⟩
    rcases onDone_log (r.taken rest) t with ⟨e, htask, hlog⟩ | ⟨_, hlog⟩
    · rw [hlog, List.mem_append, List.mem_singleton] at hrecord
      cases hrecord with
      | inl hin => exact hold record hin
      | inr hnew =>
          have hlt : t < r.names.length := h.named ▸ h.known t hkept
          rw [hnew]
          refine ⟨hcomponent.symm, ?_, by rw [hloop]; exact htask⟩
          rw [hnames]
          show r.names[t]? = some (r.names.getD t [])
          rw [List.getD_eq_getElem?_getD, List.getElem?_eq_getElem hlt]
          rfl
    · rw [hlog] at hrecord
      exact hold record hrecord

theorem Consistent.onDone (h : r.Consistent) {t : Nat} {rest : List Handle}
    (hready : r.loop.ready = .onDone t :: rest) :
    ((r.taken rest).onDone t).Consistent := by
  rcases onDone_kept (r.taken rest) t with ⟨hloop, _, _, hdrains, htasks⟩
  have howed : forall h' : Handle, (forall s, .onDone s ≠ h') ->
      ((r.taken rest).onDone t).loop.owed h' = r.loop.owed h' := by
    intro h' hne
    rw [hloop]
    exact taken_owed_ne hready (hne t)
  refine ⟨h.supervised.onDone hready, ?_, ?_⟩
  · intro g d hd
    rw [hdrains] at hd
    refine (h.drained g d hd).of_handle [] hready (by rw [hloop]; rfl)
      (by rw [hloop, List.append_nil]; rfl) ?_ (fun s => howed _ (fun _ => nofun))
      (howed _ (fun _ => nofun)) (fun s => List.not_mem_nil)
    intro s hs
    rw [htasks] at hs
    exact List.mem_of_mem_filter hs
  · intro g hg
    rw [hdrains] at hg
    rcases h.beyond g hg with ⟨hgathered, hwake⟩
    exact ⟨fun s => (howed (.gathered g s) (fun _ => nofun)).trans (hgathered s),
      (howed (.wake g) (fun _ => nofun)).trans hwake⟩

/-!
### A drain gathers
-/

theorem sum_map_pred {xs : List Nat} {f f' : Nat -> Nat} {t : Nat}
    (hnodup : xs.Nodup) (ht : t ∈ xs) (hself : f' t + 1 = f t)
    (hother : forall s, s ≠ t -> f' s = f s) :
    (xs.map f').sum + 1 = (xs.map f).sum := by
  induction xs with
  | nil => cases ht
  | cons x rest ih =>
      rcases List.nodup_cons.mp hnodup with ⟨hfresh, hrest⟩
      simp only [List.map_cons, List.sum_cons]
      cases ht with
      | head =>
          have hsame : rest.map f' = rest.map f :=
            List.map_congr_left fun s hs => hother s fun heq => hfresh (heq ▸ hs)
          rw [hsame]
          omega
      | tail _ ht =>
          rw [hother x fun heq => hfresh (heq ▸ ht)]
          have hsum := ih hrest ht
          omega

theorem Consistent.gathering (h : r.Consistent) {t : Nat} {rest : List Handle}
    (hready : r.loop.ready = .gathered g t :: rest) :
    exists d, r.drains[g]? = some d ∧ t ∈ d.pending ∧ d.status = .waiting := by
  have hpos := owed_pos_of_ready hready
  cases hd : r.drains[g]? with
  | none =>
      rw [(h.beyond g (List.getElem?_eq_none_iff.mp hd)).left t] at hpos
      exact absurd hpos (lt_irrefl 0)
  | some d =>
      have hdrained := h.drained g d hd
      refine ⟨d, rfl, ?_, ?_⟩
      · by_contra hforeign
        rw [hdrained.foreign t hforeign] at hpos
        exact lt_irrefl 0 hpos
      · cases hstatus : d.status with
        | waiting => rfl
        | woken =>
            rw [hdrained.nothing_owed (hdrained.woken hstatus).left t] at hpos
            exact absurd hpos (lt_irrefl 0)
        | returned =>
            rw [hdrained.nothing_owed (hdrained.returned hstatus).left t] at hpos
            exact absurd hpos (lt_irrefl 0)

theorem getElem?_set_cases {α : Type u} {xs : List α} {i j : Nat} {x y : α}
    (h : (xs.set i x)[j]? = some y) : (i = j ∧ y = x) ∨ (i ≠ j ∧ xs[j]? = some y) := by
  by_cases hij : i = j
  · rw [hij] at h
    have hlt : j < xs.length := by
      rcases List.getElem?_eq_some_iff.mp h with ⟨hlt, _⟩
      rwa [List.length_set] at hlt
    rw [List.getElem?_set_self hlt] at h
    exact Or.inl ⟨hij, (Option.some.inj h).symm⟩
  · rw [List.getElem?_set_ne hij] at h
    exact Or.inr ⟨hij, h⟩

theorem Drained.counted_succ (h : r.Drained g d) {t : Nat} {rest : List Handle}
    (hready : r.loop.ready = .gathered g t :: rest) (ht : t ∈ d.pending) :
    d.finished + 1 +
      (d.pending.map fun s => (r.taken rest).loop.owed (.gathered g s)).sum =
        d.pending.length := by
  have hsum := sum_map_pred (f := fun s => r.loop.owed (.gathered g s)) h.nodup ht
    (taken_owed_self hready)
    (fun s hs => taken_owed_ne hready (by simp [Ne.symm hs]))
  have hcounted := h.counted
  omega

theorem onGathered_last (hd : r.drains[g]? = some d)
    (hlast : d.finished + 1 = d.pending.length) :
    r.onGathered g = { r with
      loop := r.loop.callSoon (.wake g)
      drains := r.drains.set g
        { d with finished := d.finished + 1, status := .woken } } := by
  simp only [onGathered, hd, if_pos hlast]

theorem onGathered_more (hd : r.drains[g]? = some d)
    (hmore : d.finished + 1 ≠ d.pending.length) :
    r.onGathered g =
      { r with drains := r.drains.set g { d with finished := d.finished + 1 } } := by
  simp only [onGathered, hd, if_neg hmore]

section Gathered

variable {t : Nat} {rest : List Handle}

theorem gathered_owed_ne (hready : r.loop.ready = .gathered g t :: rest)
    {h : Handle} (hne : forall s, h ≠ .gathered g s) :
    (r.taken rest).loop.owed h = r.loop.owed h :=
  taken_owed_ne hready (hne t).symm

theorem Drained.gathered_foreign (h : r.Drained g d)
    (hready : r.loop.ready = .gathered g t :: rest) (ht : t ∈ d.pending) {s : Nat}
    (hs : s ∉ d.pending) : (r.taken rest).loop.owed (.gathered g s) = 0 := by
  have hst : s ≠ t := fun heq => hs (heq ▸ ht)
  rw [taken_owed_ne hready (by simp [Ne.symm hst])]
  exact h.foreign s hs

/-- The last callback of a drain wakes it up, behind everything else. -/
theorem Consistent.gatheredLast (h : r.Consistent)
    (hready : r.loop.ready = .gathered g t :: rest) (hd : r.drains[g]? = some d)
    (ht : t ∈ d.pending) (hstatus : d.status = .waiting)
    (hlast : d.finished + 1 = d.pending.length) :
    ((r.taken rest).onGathered g).Consistent := by
  have hdrained := h.drained g d hd
  rcases hdrained.waiting hstatus with ⟨_, hnoWake, _⟩
  have hcall : forall h' : Handle, h' ≠ .wake g ->
      ((r.taken rest).loop.callSoon (.wake g)).owed h' =
        (r.taken rest).loop.owed h' := by
    intro h' hne'
    rw [EventLoop.owed_callSoon, List.count_cons_of_ne (Ne.symm hne')]
    rfl
  have hwakeNow : ((r.taken rest).loop.callSoon (.wake g)).owed (.wake g) = 1 := by
    rw [EventLoop.owed_callSoon,
      gathered_owed_ne (h := .wake g) hready (fun _ => nofun), hnoWake]
    simp
  have hnotIn : Handle.wake g ∉ rest := by
    intro hin
    have hpos : 0 < r.loop.owed (.wake g) :=
      EventLoop.owed_pos_of_mem_ready (by rw [hready]; exact List.mem_cons_of_mem _ hin)
    rw [hnoWake] at hpos
    exact lt_irrefl 0 hpos
  rw [onGathered_last (show (r.taken rest).drains[g]? = some d from hd) hlast]
  refine ⟨?_, ?_, ?_⟩
  · exact h.supervised.of_same rfl rfl rfl rfl
      (fun s => (hcall (.onDone s) nofun).trans
        (gathered_owed_ne (h := .onDone s) hready fun _ => nofun)) rfl
      (fun record hin => Or.inl hin)
  · intro g' d' hd''
    rcases getElem?_set_cases hd'' with ⟨heq, hd''⟩ | ⟨hne, hd''⟩
    · rw [← heq, hd'']
      refine ⟨hdrained.nodup, hdrained.known, ?_, ?_, hdrained.asked, nofun, ?_, nofun⟩
      · show d.finished + 1 + (d.pending.map fun s =>
          ((r.taken rest).loop.callSoon (.wake g)).owed (.gathered g s)).sum = _
        have hsame : forall s,
            ((r.taken rest).loop.callSoon (.wake g)).owed (.gathered g s) =
              (r.taken rest).loop.owed (.gathered g s) :=
          fun s => hcall (.gathered g s) nofun
        simp only [hsame]
        exact hdrained.counted_succ hready ht
      · intro s hs
        exact (hcall (.gathered g s) nofun).trans
          (hdrained.gathered_foreign hready ht hs)
      · intro _
        refine ⟨hlast, hwakeNow, ?_⟩
        show (rest ++ [Handle.wake g]).Pairwise _
        refine List.pairwise_append.mpr ⟨?_, List.pairwise_singleton _ _, ?_⟩
        · exact List.pairwise_of_forall_mem_list fun a ha b _ heq =>
            absurd (heq ▸ ha) hnotIn
        · intro a _ b hb _ s _ hbs
          cases (List.mem_singleton.mp hb).symm.trans hbs
    · refine (h.drained g' d' hd'').of_handle [.wake g] hready rfl rfl
        (fun s hs => hs) (fun s => ?_) ?_ (fun s hin => ?_)
      · exact (hcall (.gathered g' s) nofun).trans
          (taken_owed_ne hready (by simp [hne]))
      · exact (hcall (.wake g') (by simp [Ne.symm hne])).trans
          (gathered_owed_ne (h := .wake g') hready fun _ => nofun)
      · cases List.mem_singleton.mp hin
  · intro g' hg'
    rw [List.length_set] at hg'
    have hgg : g ≠ g' := fun heq =>
      absurd ((List.getElem?_eq_some_iff.mp hd).choose) (not_lt.mpr (heq ▸ hg'))
    rcases h.beyond g' hg' with ⟨hgathered, hwake⟩
    exact ⟨fun s => ((hcall (.gathered g' s) nofun).trans
        (taken_owed_ne hready (by simp [hgg]))).trans (hgathered s),
      ((hcall (.wake g') (by simp [Ne.symm hgg])).trans
        (gathered_owed_ne (h := .wake g') hready fun _ => nofun)).trans hwake⟩

theorem Consistent.gatheredMore (h : r.Consistent)
    (hready : r.loop.ready = .gathered g t :: rest) (hd : r.drains[g]? = some d)
    (ht : t ∈ d.pending) (hstatus : d.status = .waiting)
    (hmore : d.finished + 1 ≠ d.pending.length) :
    ((r.taken rest).onGathered g).Consistent := by
  have hdrained := h.drained g d hd
  rcases hdrained.waiting hstatus with ⟨hless, hnoWake, hsuspended⟩
  rw [onGathered_more (show (r.taken rest).drains[g]? = some d from hd) hmore]
  refine ⟨?_, ?_, ?_⟩
  · exact h.supervised.of_same rfl rfl rfl rfl
      (fun s => gathered_owed_ne (h := .onDone s) hready fun _ => nofun) rfl
      (fun record hin => Or.inl hin)
  · intro g' d' hd''
    rcases getElem?_set_cases hd'' with ⟨heq, hd''⟩ | ⟨hne, hd''⟩
    · rw [← heq, hd'']
      refine ⟨hdrained.nodup, hdrained.known, hdrained.counted_succ hready ht,
        fun s hs => hdrained.gathered_foreign hready ht hs, hdrained.asked, ?_, ?_, ?_⟩
      · intro _
        exact ⟨lt_of_le_of_ne hless hmore,
          (gathered_owed_ne (h := .wake g) hready fun _ => nofun).trans hnoWake, hsuspended⟩
      · intro hwoken
        cases hstatus.symm.trans hwoken
      · intro hreturned
        cases hstatus.symm.trans hreturned
    · exact (h.drained g' d' hd'').of_handle [] hready rfl
        (List.append_nil _).symm (fun s hs => hs)
        (fun s => taken_owed_ne hready (by simp [hne]))
        (gathered_owed_ne (h := .wake g') hready fun _ => nofun)
        (fun s => List.not_mem_nil)
  · intro g' hg'
    rw [List.length_set] at hg'
    have hgg : g ≠ g' := fun heq =>
      absurd ((List.getElem?_eq_some_iff.mp hd).choose) (not_lt.mpr (heq ▸ hg'))
    rcases h.beyond g' hg' with ⟨hgathered, hwake⟩
    exact ⟨fun s => (taken_owed_ne hready (by simp [hgg])).trans (hgathered s),
      (gathered_owed_ne (h := .wake g') hready fun _ => nofun).trans hwake⟩

theorem Consistent.onGathered (h : r.Consistent)
    (hready : r.loop.ready = .gathered g t :: rest) :
    ((r.taken rest).onGathered g).Consistent := by
  rcases h.gathering hready with ⟨d, hd, ht, hstatus⟩
  by_cases hlast : d.finished + 1 = d.pending.length
  · exact h.gatheredLast hready hd ht hstatus hlast
  · exact h.gatheredMore hready hd ht hstatus hlast

end Gathered

/-!
### A drain goes on
-/

theorem Consistent.waking (h : r.Consistent) {rest : List Handle}
    (hready : r.loop.ready = .wake g :: rest) :
    exists d, r.drains[g]? = some d ∧ d.status = .woken := by
  have hpos := owed_pos_of_ready hready
  cases hd : r.drains[g]? with
  | none =>
      rw [(h.beyond g (List.getElem?_eq_none_iff.mp hd)).right] at hpos
      exact absurd hpos (lt_irrefl 0)
  | some d =>
      have hdrained := h.drained g d hd
      refine ⟨d, rfl, ?_⟩
      cases hstatus : d.status with
      | woken => rfl
      | waiting =>
          rw [(hdrained.waiting hstatus).right.left] at hpos
          exact absurd hpos (lt_irrefl 0)
      | returned =>
          rw [(hdrained.returned hstatus).right.left] at hpos
          exact absurd hpos (lt_irrefl 0)

theorem onWake_kept (hd : r.drains[g]? = some d) :
    (r.onWake g).loop = r.loop ∧ (r.onWake g).names = r.names ∧
      (r.onWake g).component = r.component ∧ (r.onWake g).tasks = r.tasks ∧
      (r.onWake g).drains = r.drains.set g { d with status := .returned } ∧
      ((r.onWake g).log = r.log ∨
        exists n, (r.onWake g).log = r.log ++ [.drainTimedOut r.component n]) := by
  unfold onWake
  simp only [hd]
  by_cases htimedOut : d.timedOut = true
  · rw [if_pos htimedOut]
    exact ⟨rfl, rfl, rfl, rfl, rfl, Or.inr ⟨_, rfl⟩⟩
  · rw [if_neg htimedOut]
    exact ⟨rfl, rfl, rfl, rfl, rfl, Or.inl rfl⟩

theorem Consistent.onWake (h : r.Consistent) {rest : List Handle}
    (hready : r.loop.ready = .wake g :: rest) :
    ((r.taken rest).onWake g).Consistent := by
  rcases h.waking hready with ⟨d, hd, hstatus⟩
  have hdrained := h.drained g d hd
  rcases hdrained.woken hstatus with ⟨hfinished, hone, horder⟩
  rcases onWake_kept (show (r.taken rest).drains[g]? = some d from hd) with
    ⟨hloop, hnames, hcomponent, htasks, hdrains, hlog⟩
  have hne : forall h' : Handle, h' ≠ .wake g ->
      ((r.taken rest).onWake g).loop.owed h' = r.loop.owed h' := by
    intro h' hne'
    rw [hloop]
    exact taken_owed_ne hready (Ne.symm hne')
  have hsupervised : ((r.taken rest).onWake g).Supervised := by
    refine h.supervised.of_same hcomponent hnames htasks (by rw [hloop]; rfl)
      (fun s => hne (.onDone s) nofun) ?_ ?_
    · rcases hlog with hlog | ⟨n, hlog⟩
      · rw [reported, hlog]
        rfl
      · rw [reported, hlog, List.filterMap_append]
        exact List.append_nil _
    · intro record hin
      rcases hlog with hlog | ⟨n, hlog⟩
      · exact Or.inl (hlog ▸ hin)
      · rw [hlog, List.mem_append, List.mem_singleton] at hin
        exact hin.imp id fun heq => ⟨n, heq⟩
  refine ⟨hsupervised, ?_, ?_⟩
  · intro g' d' hd''
    rw [hdrains] at hd''
    rcases getElem?_set_cases hd'' with ⟨heq, hd''⟩ | ⟨hgg, hd''⟩
    · rw [← heq, hd'']
      refine ⟨hdrained.nodup, by rw [hloop]; exact hdrained.known, ?_, ?_,
        by rw [hloop]; exact hdrained.asked, nofun, nofun, ?_⟩
      · have hsame : forall s,
            ((r.taken rest).onWake g).loop.owed (.gathered g s) =
              r.loop.owed (.gathered g s) :=
          fun s => hne (.gathered g s) nofun
        simp only [hsame]
        exact hdrained.counted
      · intro s hs
        exact (hne (.gathered g s) nofun).trans (hdrained.foreign s hs)
      · intro _
        refine ⟨hfinished, ?_, ?_⟩
        · have hself := taken_owed_self hready
          rw [hone] at hself
          rw [hloop]
          exact Nat.succ.inj hself
        · intro _ s hs
          refine hsupervised.not_kept ?_ ?_
          · rw [hloop]
            exact hdrained.all_done hfinished hs
          · rw [hloop]
            intro hin
            rw [hready] at horder
            exact (List.pairwise_cons.mp horder).left _ hin rfl s hs rfl
    · refine (h.drained g' d' hd'').of_handle [] hready (by rw [hloop]; rfl)
        (by rw [hloop, List.append_nil]; rfl) (fun s hs => htasks ▸ hs)
        (fun s => hne (.gathered g' s) nofun)
        (hne (.wake g') (by simp [Ne.symm hgg]))
        (fun s => List.not_mem_nil)
  · intro g' hg'
    rw [hdrains, List.length_set] at hg'
    have hgg : g ≠ g' := fun heq =>
      absurd ((List.getElem?_eq_some_iff.mp hd).choose) (not_lt.mpr (heq ▸ hg'))
    rcases h.beyond g' hg' with ⟨hgathered, hwake⟩
    exact ⟨fun s => (hne (.gathered g' s) nofun).trans (hgathered s),
      (hne (.wake g') (by simp [Ne.symm hgg])).trans hwake⟩

/-!
## Calling drain and cancelling
-/

theorem drain_kept (r : BackgroundTaskRunner ε) (h : r.Supervised) :
    r.drain.loop.ready = r.loop.ready ∧
      r.drain.loop.tasks.length = r.loop.tasks.length :=
  register_kept h.known

theorem drain_tasks (h : r.Supervised) (s : Nat) :
    r.drain.loop.tasks[s]? = r.loop.tasks[s]?.map (Task.adding
      (if s ∈ r.tasks then [Handle.gathered r.drains.length s] else [])) :=
  register_tasks h.nodup h.known s

theorem drain_done (h : r.Supervised) (s : Nat) (ending : TaskEnd ε) :
    r.drain.loop.tasks[s]? = some (.done ending) <->
      r.loop.tasks[s]? = some (.done ending) := by
  rw [drain_tasks h]
  cases r.loop.tasks[s]? with
  | none => simp
  | some task => cases task with
    | running callbacks => simp [Task.adding]
    | done ended => simp [Task.adding]

theorem drain_running (h : r.Supervised) {s : Nat} {callbacks' : List Handle}
    (hs : r.drain.loop.tasks[s]? = some (.running callbacks')) :
    exists callbacks, r.loop.tasks[s]? = some (.running callbacks) ∧
      callbacks' = callbacks ++
        (if s ∈ r.tasks then [Handle.gathered r.drains.length s] else []) := by
  rw [drain_tasks h] at hs
  cases htask : r.loop.tasks[s]? with
  | none => simp [htask] at hs
  | some task => cases task with
    | running callbacks =>
        rw [htask] at hs
        cases hs
        exact ⟨callbacks, rfl, rfl⟩
    | done ended => simp [htask, Task.adding] at hs

theorem Supervised.drain (h : r.Supervised) : r.drain.Supervised := by
  have hraised : forall t, r.drain.Raised t <-> r.Raised t := by
    intro t
    simp only [Raised, drain_done h]
  refine ⟨h.named.trans (drain_kept r h).right.symm, h.nodup, ?_, ?_, ?_, h.once, ?_, ?_⟩
  · intro t ht
    rw [(drain_kept r h).right]
    exact h.known t ht
  · intro t
    exact (register_owed_ne (h := .onDone t) (fun s => nofun) h.known).trans (h.owed t)
  · intro t callbacks' ht
    rcases drain_running h ht with ⟨callbacks, hold, hcallbacks'⟩
    rcases h.waits t callbacks hold with ⟨more, hcallbacks, hmore⟩
    refine ⟨more ++ (if t ∈ r.tasks then [Handle.gathered r.drains.length t] else []),
      by rw [hcallbacks', hcallbacks]; rfl, ?_⟩
    intro h' hmem
    rcases List.mem_append.mp hmem with hin | hin
    · exact hmore h' hin
    · by_cases hkept : t ∈ r.tasks
      · rw [if_pos hkept, List.mem_singleton] at hin
        exact ⟨r.drains.length, hin⟩
      · rw [if_neg hkept] at hin
        cases hin
  · intro t
    rw [hraised]
    exact h.reported_iff t
  · intro record hin
    have hold := h.truthful record hin
    cases record with
    | drainTimedOut component n => exact hold
    | failed component name t e =>
        exact ⟨hold.left, hold.right.left, (drain_done h t _).mpr hold.right.right⟩

/-- The drain that is called waits for those that run, and has seen the others. -/
theorem drain_counted (ts : List Nat) (loop : EventLoop Handle ε) :
    ts.countP loop.isDone +
      (ts.map fun t => if loop.isDone t = false then 1 else 0).sum = ts.length := by
  induction ts with
  | nil => rfl
  | cons t rest ih =>
      rw [List.countP_cons, List.map_cons, List.sum_cons, List.length_cons]
      cases loop.isDone t with
      | true => simp only [if_true, Bool.true_eq_false, if_false]; omega
      | false => simp only [if_true, Bool.false_eq_true, if_false]; omega

theorem Consistent.drained_new (h : r.Consistent) :
    r.drain.Drained r.drains.length
      ⟨r.tasks, r.tasks.countP r.loop.isDone, false,
        decide (r.tasks.countP r.loop.isDone < r.tasks.length),
        if decide (r.tasks.countP r.loop.isDone < r.tasks.length) = true
        then .waiting else .returned⟩ := by
  have hs := h.supervised
  rcases h.beyond r.drains.length (le_refl _) with ⟨hnone, hnoWake⟩
  have howed : forall t, r.drain.loop.owed (.gathered r.drains.length t) =
      if t ∈ r.tasks ∧ r.loop.isDone t = false then 1 else 0 := by
    intro t
    rw [show r.drain.loop = register r.drains.length r.loop r.tasks from rfl,
      register_owed hs.nodup hs.known, hnone t, Nat.zero_add]
  have hwake : r.drain.loop.owed (.wake r.drains.length) = 0 :=
    (register_owed_ne (h := .wake r.drains.length) (fun s => nofun) hs.known).trans
      hnoWake
  refine ⟨hs.nodup, hs.drain.known, ?_, ?_, ?_, ?_, ?_, ?_⟩
  · have hsame : r.tasks.map (fun t => r.drain.loop.owed
          (.gathered r.drains.length t)) =
        r.tasks.map fun t => if r.loop.isDone t = false then 1 else 0 :=
      List.map_congr_left fun t ht => by simp [howed t, ht]
    rw [hsame]
    exact drain_counted r.tasks r.loop
  · intro t ht
    rw [howed t, if_neg fun hin => ht hin.left]
  · intro t ht callbacks' hrunning
    rcases drain_running hs hrunning with ⟨callbacks, _, hcallbacks'⟩
    rw [hcallbacks', if_pos ht]
    exact List.mem_append_right _ (List.mem_singleton.mpr rfl)
  · intro hstatus
    by_cases hless : r.tasks.countP r.loop.isDone < r.tasks.length
    · exact ⟨hless, hwake, decide_eq_true hless⟩
    · simp [hless] at hstatus
  · intro hstatus
    by_cases hless : r.tasks.countP r.loop.isDone < r.tasks.length
    · simp [hless] at hstatus
    · simp [hless] at hstatus
  · intro hstatus
    by_cases hless : r.tasks.countP r.loop.isDone < r.tasks.length
    · simp [hless] at hstatus
    · refine ⟨le_antisymm List.countP_le_length (not_lt.mp hless), hwake, ?_⟩
      intro hsuspended
      exact absurd (of_decide_eq_true hsuspended) hless

theorem Drained.drain (hd : r.Drained g d) (h : r.Consistent)
    (hg : g < r.drains.length) : r.drain.Drained g d := by
  have hs := h.supervised
  have howed : forall h' : Handle, (forall t, h' ≠ .gathered r.drains.length t) ->
      r.drain.loop.owed h' = r.loop.owed h' := fun h' hne =>
    register_owed_ne hne hs.known
  refine hd.of_step [] r.loop.ready []
    (le_of_eq (drain_kept r hs).right.symm)
    (fun t => howed (.gathered g t) (by simp [ne_of_lt hg]))
    (howed (.wake g) (fun _ => nofun)) ?_ (fun t _ hgone => hgone) rfl
    ((drain_kept r hs).left.trans (List.append_nil _).symm)
    (fun t _ => List.not_mem_nil)
  intro t callbacks' _ ht
  rcases drain_running hs ht with ⟨callbacks, hold, hcallbacks'⟩
  exact ⟨callbacks, hold, by rw [hcallbacks']; exact List.subset_append_left _ _⟩

theorem Consistent.drain (h : r.Consistent) : r.drain.Consistent := by
  refine ⟨h.supervised.drain, ?_, ?_⟩
  · intro g d hd
    by_cases hg : g < r.drains.length
    · rw [show r.drain.drains = r.drains ++ _ from rfl,
        List.getElem?_append_left hg] at hd
      exact (h.drained g d hd).drain h hg
    · rw [show r.drain.drains = r.drains ++ _ from rfl,
        List.getElem?_append_right (not_lt.mp hg)] at hd
      rcases List.getElem?_eq_some_iff.mp hd with ⟨hlast, hd⟩
      have hg' : g = r.drains.length := by
        rw [List.length_singleton] at hlast
        omega
      subst hg'
      simp only [Nat.sub_self, List.getElem_cons_zero] at hd
      rw [← hd]
      exact h.drained_new
  · intro g hg
    rw [show r.drain.drains = r.drains ++ _ from rfl, List.length_append,
      List.length_singleton] at hg
    rcases h.beyond g (by omega) with ⟨hgathered, hwake⟩
    have hne : g ≠ r.drains.length := by omega
    exact ⟨fun t => (register_owed_ne (h := .gathered g t) (by simp [hne])
        h.supervised.known).trans (hgathered t),
      (register_owed_ne (h := .wake g) (fun _ => nofun) h.supervised.known).trans
        hwake⟩

theorem Consistent.cancel (h : r.Consistent) (ts : List Nat) :
    (r.cancel ts).Consistent := by
  refine ⟨h.supervised.of_same rfl rfl rfl rfl (fun _ => rfl) rfl
    (fun record hin => Or.inl hin), ?_, h.beyond⟩
  intro g d hd
  have hdrained := h.drained g d hd
  exact ⟨hdrained.nodup, hdrained.known, hdrained.counted, hdrained.foreign,
    hdrained.asked, hdrained.waiting, hdrained.woken, hdrained.returned⟩

theorem timeout_eq_some {next : BackgroundTaskRunner ε} :
    r.timeout g = some next <-> exists d, r.drains[g]? = some d ∧
      d.timedOut = false ∧ d.status ≠ .returned ∧
      next = { r.cancel d.pending with
        drains := r.drains.set g { d with timedOut := true } } := by
  unfold timeout
  cases r.drains[g]? with
  | none => simp
  | some d =>
      by_cases hover : d.timedOut = true ∨ d.status = .returned
      · simp only [if_pos hover]
        refine iff_of_false nofun ?_
        intro hparts
        rcases hparts with ⟨d', hd', htimedOut, hstatus, _⟩
        cases hd'
        cases hover with
        | inl h => rw [htimedOut] at h; cases h
        | inr h => exact hstatus h
      · simp only [if_neg hover]
        rcases not_or.mp hover with ⟨htimedOut, hstatus⟩
        constructor
        · intro h
          exact ⟨d, rfl, Bool.eq_false_iff.mpr htimedOut, hstatus,
            (Option.some.inj h).symm⟩
        · intro hparts
          rcases hparts with ⟨d', hd', _, _, hnext⟩
          cases hd'
          rw [hnext]

theorem Consistent.timeout (h : r.Consistent) {next : BackgroundTaskRunner ε}
    (htimeout : r.timeout g = some next) : next.Consistent := by
  rcases timeout_eq_some.mp htimeout with ⟨d, hd, _, _, hnext⟩
  have hcancelled := h.cancel d.pending
  rw [hnext]
  refine ⟨hcancelled.supervised.of_same rfl rfl rfl rfl (fun _ => rfl) rfl
    (fun record hin => Or.inl hin), ?_, ?_⟩
  · intro g' d' hd'
    rcases getElem?_set_cases hd' with ⟨heq, hd'⟩ | ⟨_, hd'⟩
    · have hdrained := h.drained g d hd
      rw [← heq, hd']
      exact ⟨hdrained.nodup, hdrained.known, hdrained.counted, hdrained.foreign,
        hdrained.asked, hdrained.waiting, hdrained.woken, hdrained.returned⟩
    · have hdrained := h.drained g' d' hd'
      exact ⟨hdrained.nodup, hdrained.known, hdrained.counted, hdrained.foreign,
        hdrained.asked, hdrained.waiting, hdrained.woken, hdrained.returned⟩
  · intro g' hg'
    rw [List.length_set] at hg'
    exact h.beyond g' hg'

end BackgroundTaskRunner

end Background
end EidolonSdk
