import EidolonSdk.Background.Supervision

/-!
# Runs of background tasks

What one action keeps holds along any run of the program.  The results are about
every order in which tasks may be created and end, drains be called and time out,
and the loop run its handles.
-/

namespace EidolonSdk
namespace Background

open Python Logic

universe u

variable {ε : Type u}

namespace BackgroundTaskRunner

variable {r : BackgroundTaskRunner ε} {g : Nat} {d : Drain}

theorem consistent_new (component : PyStr) :
    (new component : BackgroundTaskRunner ε).Consistent := by
  refine ⟨⟨rfl, List.nodup_nil, nofun, fun t => rfl, nofun, List.nodup_nil, ?_, nofun⟩,
    nofun, fun g _ => ⟨fun t => rfl, rfl⟩⟩
  intro t
  exact iff_of_false List.not_mem_nil fun h => by
    rcases h.left with ⟨e, he⟩
    cases he

/-- What the loop does with its first handle. -/
theorem step_tick_eq_some {next : BackgroundTaskRunner ε} :
    r.step .tick = some next <->
      exists h rest, r.loop.ready = h :: rest ∧ next = (r.taken rest).runHandle h := by
  unfold step
  cases r.loop.ready with
  | nil => simp
  | cons h rest => simp [taken, eq_comm]

theorem Consistent.step (h : r.Consistent) (a : Action ε)
    {next : BackgroundTaskRunner ε} (hstep : r.step a = some next) :
    next.Consistent := by
  cases a with
  | create name => exact Option.some.inj hstep ▸ h.create name
  | drain => exact Option.some.inj hstep ▸ h.drain
  | timeout g => exact h.timeout hstep
  | cancelAll => exact Option.some.inj hstep ▸ h.cancel r.tasks
  | finish t ending =>
      rcases Option.map_eq_some_iff.mp hstep with ⟨loop, hfinish, hnext⟩
      exact hnext ▸ h.finish hfinish
  | tick =>
      rcases step_tick_eq_some.mp hstep with ⟨handle, rest, hready, hnext⟩
      rw [hnext]
      cases handle with
      | onDone t => exact h.onDone hready
      | gathered g t => exact h.onGathered hready
      | wake g => exact h.onWake hready

theorem Consistent.exec (h : r.Consistent) {actions : List (Action ε)}
    {last : BackgroundTaskRunner ε} (hrun : exec BackgroundTaskRunner.step r actions = some last) :
    last.Consistent :=
  exec_invariant (fun _ a _ hs hstep => Consistent.step hs a hstep) h hrun

/-- Drains are never forgotten, keep what they were called with, and return once. -/
def DrainsKept (r next : BackgroundTaskRunner ε) : Prop :=
  forall (g : Nat) (d : Drain), r.drains[g]? = some d ->
    exists d', next.drains[g]? = some d' ∧ d'.pending = d.pending ∧
      d'.suspended = d.suspended ∧ (d.status = .returned -> d'.status = .returned)

theorem DrainsKept.refl (r : BackgroundTaskRunner ε) : DrainsKept r r :=
  fun _ d hd => ⟨d, hd, rfl, rfl, id⟩

theorem DrainsKept.trans {r s t : BackgroundTaskRunner ε} (hrs : DrainsKept r s)
    (hst : DrainsKept s t) : DrainsKept r t := by
  intro g d hd
  rcases hrs g d hd with ⟨d', hd', hpending, hsuspended, hreturned⟩
  rcases hst g d' hd' with ⟨d'', hd'', hpending', hsuspended', hreturned'⟩
  exact ⟨d'', hd'', hpending'.trans hpending, hsuspended'.trans hsuspended,
    fun h => hreturned' (hreturned h)⟩

theorem drainsKept_set {next : BackgroundTaskRunner ε} {d' : Drain}
    (hd : r.drains[g]? = some d) (hnext : next.drains = r.drains.set g d')
    (hpending : d'.pending = d.pending) (hsuspended : d'.suspended = d.suspended)
    (hreturned : d.status = .returned -> d'.status = .returned) :
    DrainsKept r next := by
  intro g' e he
  rw [hnext]
  by_cases hg : g = g'
  · rw [← hg] at he ⊢
    cases hd.symm.trans he
    exact ⟨d', List.getElem?_set_self (List.getElem?_eq_some_iff.mp hd).choose,
      hpending, hsuspended, hreturned⟩
  · exact ⟨e, (List.getElem?_set_ne hg).trans he, rfl, rfl, id⟩

theorem drainsKept_of_eq {next : BackgroundTaskRunner ε}
    (hnext : next.drains = r.drains) : DrainsKept r next :=
  fun _ d hd => ⟨d, hnext ▸ hd, rfl, rfl, id⟩

theorem drainsKept_step (a : Action ε) {next : BackgroundTaskRunner ε}
    (h : r.Consistent) (hstep : r.step a = some next) : DrainsKept r next := by
  cases a with
  | create name => exact Option.some.inj hstep ▸ drainsKept_of_eq rfl
  | cancelAll => exact Option.some.inj hstep ▸ drainsKept_of_eq rfl
  | drain =>
      rw [← Option.some.inj hstep]
      intro g d hd
      exact ⟨d, List.getElem?_append_left (List.getElem?_eq_some_iff.mp hd).choose ▸ hd,
        rfl, rfl, id⟩
  | timeout g =>
      rcases timeout_eq_some.mp hstep with ⟨d, hd, _, _, hnext⟩
      exact drainsKept_set hd (congrArg drains hnext) rfl rfl id
  | finish t ending =>
      rcases Option.map_eq_some_iff.mp hstep with ⟨loop, _, hnext⟩
      exact drainsKept_of_eq (by rw [← hnext])
  | tick =>
      rcases step_tick_eq_some.mp hstep with ⟨handle, rest, hready, hnext⟩
      rw [hnext]
      cases handle with
      | onDone t => exact drainsKept_of_eq (onDone_kept _ t).right.right.right.left
      | gathered g t =>
          rcases h.gathering hready with ⟨d, hd, _, hstatus⟩
          have hd' : (r.taken rest).drains[g]? = some d := hd
          by_cases hlast : d.finished + 1 = d.pending.length
          · exact drainsKept_set hd
              (congrArg drains (onGathered_last hd' hlast)) rfl rfl
              (fun hreturned => absurd (hstatus.symm.trans hreturned) nofun)
          · exact drainsKept_set hd
              (congrArg drains (onGathered_more hd' hlast)) rfl rfl id
      | wake g =>
          rcases h.waking hready with ⟨d, hd, _⟩
          exact drainsKept_set hd
            (onWake_kept (r := r.taken rest) hd).right.right.right.right.left rfl rfl
            (fun _ => rfl)

theorem drain_new (r : BackgroundTaskRunner ε) :
    r.drain.drains[r.drains.length]? = some
      ⟨r.tasks, r.tasks.countP r.loop.isDone, false,
        decide (r.tasks.countP r.loop.isDone < r.tasks.length),
        if decide (r.tasks.countP r.loop.isDone < r.tasks.length) = true
        then .waiting else .returned⟩ :=
  List.getElem?_concat_length

theorem countP_lt_length {α : Type u} {p : α -> Bool} {xs : List α} {x : α}
    (hx : x ∈ xs) (hfalse : p x = false) : xs.countP p < xs.length := by
  refine lt_of_le_of_ne List.countP_le_length fun heq => ?_
  rw [List.countP_eq_length.mp heq x hx] at hfalse
  cases hfalse

/-!
## Results
-/

/-- A task is kept while it runs and until the loop has run its callback. -/
theorem Supervised.kept_iff (h : r.Supervised) (t : Nat) :
    t ∈ r.tasks <->
      (exists callbacks, r.loop.tasks[t]? = some (.running callbacks)) ∨
        .onDone t ∈ r.loop.ready := by
  constructor
  · intro hkept
    have hpos : 0 < r.loop.owed (.onDone t) := by
      rw [h.owed t, if_pos hkept]
      exact Nat.one_pos
    rcases EventLoop.mem_of_owed_pos hpos with hmem | ⟨s, task, htask, hmem⟩
    · exact Or.inr hmem
    · cases task with
      | done ending => cases hmem
      | running callbacks =>
          rcases h.waits s callbacks htask with ⟨more, hcallbacks, hmore⟩
          rw [Task.callbacks, hcallbacks] at hmem
          cases hmem with
          | head => exact Or.inl ⟨callbacks, htask⟩
          | tail _ hmem => rcases hmore _ hmem with ⟨g, hg⟩; cases hg
  · intro hparts
    rcases hparts with ⟨callbacks, htask⟩ | hmem
    · exact h.running_kept htask
    · have hpos := EventLoop.owed_pos_of_mem_ready hmem
      rw [h.owed t] at hpos
      by_contra hgone
      rw [if_neg hgone] at hpos
      exact lt_irrefl 0 hpos

end BackgroundTaskRunner

open BackgroundTaskRunner

/-- In whatever order tasks are created and end, drains are called and time out,
and the loop runs its handles: the runner keeps exactly the tasks that run or of
whose end it has not heard, each once; and of the others it has reported each one
that raised something, once, with its own name and exception. -/
theorem failures_reported_once (component : PyStr) (actions : List (Action ε))
    (r : BackgroundTaskRunner ε) (h : exec step (new component) actions = some r) :
    r.tasks.Nodup ∧
      (forall t, t ∈ r.tasks <->
        (exists callbacks, r.loop.tasks[t]? = some (.running callbacks)) ∨
          .onDone t ∈ r.loop.ready) ∧
      r.reported.Nodup ∧
      (forall t, t ∈ r.reported <-> r.Raised t ∧ t ∉ r.tasks) ∧
      forall record, record ∈ r.log -> r.Truthful record := by
  have hs := ((consistent_new component).exec h).supervised
  exact ⟨hs.nodup, hs.kept_iff, hs.once, hs.reported_iff, hs.truthful⟩

/-- A task has failed and was reported, another one still runs. -/
def failedRun : BackgroundTaskRunner Nat where
  component := str "test"
  loop := ⟨[.done (.raised 7), .running [.onDone 1, .gathered 0 1]], []⟩
  names := [str "test:boom", str "test:work"]
  tasks := [1]
  drains := [⟨[0, 1], 1, false, true, .waiting⟩]
  cancelled := []
  log := [.failed (str "test") (str "test:boom") 0 7]

theorem failures_reported_once_failed :
    failedRun.reported.Nodup ∧
      (0 ∈ failedRun.reported <-> failedRun.Raised 0 ∧ 0 ∉ failedRun.tasks) := by
  rcases failures_reported_once (str "test")
    [.create (str "boom"), .create (str "work"), .finish 0 (.raised 7), .drain, .tick]
    failedRun (by decide) with ⟨_, _, honce, hiff, _⟩
  exact ⟨honce, hiff 0⟩

/-- A drain that came back has every task that was kept when it was called behind
it, whether it timed out or not.  The runner has heard of all of them too, unless
they were all done when it was called: then it comes back at once, and the runner
still keeps them. -/
theorem drain_waits (component : PyStr) (before after : List (Action ε))
    (called last : BackgroundTaskRunner ε)
    (hbefore : exec step (new component) before = some called)
    (hafter : exec step called (.drain :: after) = some last) :
    exists d, last.drains[called.drains.length]? = some d ∧
      d.pending = called.tasks ∧
      (d.status = .returned ->
        (forall t, t ∈ called.tasks -> last.loop.isDone t = true) ∧
          ((exists t, t ∈ called.tasks ∧ called.loop.isDone t = false) ->
            forall t, t ∈ called.tasks -> t ∉ last.tasks)) ∧
      ((forall t, t ∈ called.tasks -> called.loop.isDone t = true) ->
        d.status = .returned ∧ called.drain.tasks = called.tasks) := by
  have hcalled := (consistent_new component).exec hbefore
  rcases exec_cons_eq_some.mp hafter with ⟨next, hdrain, hrest⟩
  cases Option.some.inj hdrain
  have hlast := hcalled.drain.exec hrest
  have hkept : DrainsKept called.drain last :=
    exec_relates (fun _ a _ hs hstep => Consistent.step hs a hstep)
      DrainsKept.refl (fun _ _ _ => DrainsKept.trans)
      (fun _ a _ hs hstep => drainsKept_step a hs hstep) hcalled.drain hrest
  rcases hkept called.drains.length _ (drain_new called) with
    ⟨d, hd, hpending, hsuspended, hreturned⟩
  have hdrained := hlast.drained _ d hd
  refine ⟨d, hd, hpending, ?_, ?_⟩
  · intro hstatus
    rcases hdrained.returned hstatus with ⟨hfinished, _, hgone⟩
    constructor
    · intro t ht
      exact hdrained.all_done hfinished (hpending.symm ▸ ht)
    · intro h t ht
      rcases h with ⟨s, hs, hrunning⟩
      refine hgone ?_ t (hpending.symm ▸ ht)
      rw [hsuspended]
      exact decide_eq_true (countP_lt_length hs hrunning)
  · intro hdone
    refine ⟨hreturned ?_, rfl⟩
    have hcount : called.tasks.countP called.loop.isDone = called.tasks.length :=
      List.countP_eq_length.mpr hdone
    simp [hcount]

/-- Two tasks that run. -/
def busyRun : BackgroundTaskRunner Nat where
  component := str "test"
  loop := ⟨[.running [.onDone 0], .running [.onDone 1]], []⟩
  names := [str "test:a", str "test:b"]
  tasks := [0, 1]
  drains := []
  cancelled := []
  log := []

/-- Both were cancelled by a drain that timed out. -/
def drainedRun : BackgroundTaskRunner Nat where
  component := str "test"
  loop := ⟨[.done .returned, .done .cancelled], []⟩
  names := [str "test:a", str "test:b"]
  tasks := []
  drains := [⟨[0, 1], 2, true, true, .returned⟩]
  cancelled := [0, 1]
  log := [.drainTimedOut (str "test") 0]

theorem drain_waits_drained :
    exists d, drainedRun.drains[busyRun.drains.length]? = some d ∧
      d.pending = busyRun.tasks := by
  rcases drain_waits (str "test") [.create (str "a"), .create (str "b")]
    [.timeout 0, .finish 1 .cancelled, .finish 0 .returned, .tick, .tick, .tick,
      .tick, .tick] busyRun drainedRun (by decide) (by decide) with
    ⟨d, hd, hpending, _, _⟩
  exact ⟨d, hd, hpending⟩

/-!
### Running dry
-/

/-- How many handles the loop can still run when nothing else happens. -/
def remaining (r : BackgroundTaskRunner ε) : Nat :=
  r.loop.ready.length + r.drains.countP fun d => decide (d.status = .waiting)

theorem countP_set_of_eq {α : Type u} {p : α -> Bool} {xs : List α} {i : Nat}
    {x y : α} (hx : xs[i]? = some x) (heq : p y = p x) :
    (xs.set i y).countP p = xs.countP p := by
  rcases List.getElem?_eq_some_iff.mp hx with ⟨hlt, hx⟩
  rw [List.countP_set hlt, hx, heq]
  have hpos := List.boole_getElem_le_countP (p := p) hlt
  rw [hx] at hpos
  omega

theorem countP_set_of_lt {α : Type u} {p : α -> Bool} {xs : List α} {i : Nat}
    {x y : α} (hx : xs[i]? = some x) (hp : p x = true) (hnot : p y = false) :
    (xs.set i y).countP p + 1 = xs.countP p := by
  rcases List.getElem?_eq_some_iff.mp hx with ⟨hlt, hx⟩
  have hpos := List.boole_getElem_le_countP (p := p) hlt
  rw [List.countP_set hlt, hx]
  rw [hx] at hpos
  simp only [hp, hnot, if_true, Bool.false_eq_true, if_false] at hpos ⊢
  omega

/-- The loop runs a handle: no task changes, and less remains. -/
theorem tick_remaining {r next : BackgroundTaskRunner ε} (h : r.Consistent)
    (hstep : r.step .tick = some next) :
    next.loop.tasks = r.loop.tasks ∧ remaining next < remaining r := by
  rcases step_tick_eq_some.mp hstep with ⟨handle, rest, hready, hnext⟩
  have hlength : r.loop.ready.length = rest.length + 1 := by
    rw [hready, List.length_cons]
  have htaken : remaining (r.taken rest) + 1 = remaining r := by
    unfold remaining
    show rest.length + _ + 1 = _
    rw [hlength]
    exact Nat.add_right_comm _ _ _
  rw [hnext]
  cases handle with
  | onDone t =>
      rcases onDone_kept (r.taken rest) t with ⟨hloop, _, _, hdrains, _⟩
      show ((r.taken rest).onDone t).loop.tasks = _ ∧
        remaining ((r.taken rest).onDone t) < _
      have hsame : remaining ((r.taken rest).onDone t) = remaining (r.taken rest) := by
        rw [remaining, hloop, hdrains]
        rfl
      exact ⟨by rw [hloop]; rfl, by omega⟩
  | gathered g t =>
      rcases h.gathering hready with ⟨d, hd, _, hstatus⟩
      have hd' : (r.taken rest).drains[g]? = some d := hd
      show ((r.taken rest).onGathered g).loop.tasks = _ ∧
        remaining ((r.taken rest).onGathered g) < _
      by_cases hlast : d.finished + 1 = d.pending.length
      · rw [onGathered_last hd' hlast]
        refine ⟨rfl, ?_⟩
        have hcount := countP_set_of_lt (p := fun d => decide (d.status = .waiting))
          (y := { d with finished := d.finished + 1, status := DrainStatus.woken }) hd'
          (decide_eq_true hstatus) (by simp)
        simp only [remaining, EventLoop.callSoon, List.length_append,
          List.length_singleton] at htaken ⊢
        omega
      · rw [onGathered_more hd' hlast]
        refine ⟨rfl, ?_⟩
        have hcount := countP_set_of_eq (p := fun d => decide (d.status = .waiting))
          (y := { d with finished := d.finished + 1 }) hd' rfl
        simp only [remaining] at htaken ⊢
        omega
  | wake g =>
      rcases h.waking hready with ⟨d, hd, hstatus⟩
      have hd' : (r.taken rest).drains[g]? = some d := hd
      rcases onWake_kept hd' with ⟨hloop, _, _, _, hdrains, _⟩
      show ((r.taken rest).onWake g).loop.tasks = _ ∧
        remaining ((r.taken rest).onWake g) < _
      have hcount := countP_set_of_eq (p := fun d => decide (d.status = .waiting))
        (y := { d with status := DrainStatus.returned }) hd' (by simp [hstatus])
      have hsame : remaining ((r.taken rest).onWake g) = remaining (r.taken rest) := by
        rw [remaining, hloop, hdrains, hcount]
        rfl
      exact ⟨by rw [hloop]; rfl, by omega⟩

/-- Nothing is owed in a loop without handles whose tasks are all done. -/
theorem nothing_owed_at_rest {r : BackgroundTaskRunner ε}
    (hdone : forall t, t < r.loop.tasks.length -> r.loop.isDone t = true)
    (hready : r.loop.ready = []) (h : Handle) : r.loop.owed h = 0 := by
  by_contra hne
  rcases EventLoop.mem_of_owed_pos (Nat.pos_of_ne_zero hne) with hmem | ⟨s, task, hs, hmem⟩
  · rw [hready] at hmem
    cases hmem
  · have hlt := (List.getElem?_eq_some_iff.mp hs).choose
    cases task with
    | done ending => cases hmem
    | running callbacks =>
        have hfalse := EventLoop.isDone_of_running hs
        rw [hdone s hlt] at hfalse
        cases hfalse

theorem at_rest {r : BackgroundTaskRunner ε} (h : r.Consistent)
    (hdone : forall t, t < r.loop.tasks.length -> r.loop.isDone t = true)
    (hready : r.loop.ready = []) :
    r.tasks = [] ∧ (forall d, d ∈ r.drains -> d.status = .returned) ∧
      forall t, t ∈ r.reported <-> r.Raised t := by
  have hnothing := nothing_owed_at_rest hdone hready
  have hempty : r.tasks = [] := by
    refine List.eq_nil_iff_forall_not_mem.mpr fun t ht => ?_
    have howed := h.supervised.owed t
    rw [hnothing, if_pos ht] at howed
    cases howed
  refine ⟨hempty, ?_, ?_⟩
  · intro d hd
    rcases List.mem_iff_getElem?.mp hd with ⟨g, hg⟩
    have hdrained := h.drained g d hg
    cases hstatus : d.status with
    | returned => rfl
    | woken =>
        have hone := (hdrained.woken hstatus).right.left
        rw [hnothing] at hone
        cases hone
    | waiting =>
        have hless := (hdrained.waiting hstatus).left
        have hcounted := hdrained.counted
        have hsum : (d.pending.map fun t => r.loop.owed (.gathered g t)).sum = 0 := by
          refine List.sum_eq_zero_iff_forall_eq_nat.mpr fun n hn => ?_
          rcases List.mem_map.mp hn with ⟨t, _, ht⟩
          rw [← ht]
          exact hnothing _
        omega
  · intro t
    rw [h.supervised.reported_iff t, hempty]
    simp

/-- Once every task has ended, the loop runs out of handles, whatever was going on
before.  Then no task is kept, every drain has come back, and exactly the tasks
that raised something have been reported. -/
theorem loop_runs_dry (component : PyStr) (actions : List (Action ε))
    (r : BackgroundTaskRunner ε) (h : exec step (new component) actions = some r)
    (hdone : forall t, t < r.loop.tasks.length -> r.loop.isDone t = true) :
    exists (n : Nat) (last : BackgroundTaskRunner ε),
      exec step r (List.replicate n .tick) = some last ∧ last.loop.ready = [] ∧
        last.tasks = [] ∧ (forall d, d ∈ last.drains -> d.status = .returned) ∧
        forall t, t ∈ last.reported <-> r.Raised t := by
  have hr := (consistent_new component).exec h
  clear h
  induction hm : remaining r using Nat.strong_induction_on generalizing r with
  | _ m ih =>
      cases hready : r.loop.ready with
      | nil =>
          rcases at_rest hr hdone hready with ⟨hempty, hreturned, hreported⟩
          exact ⟨0, r, rfl, hready, hempty, hreturned, hreported⟩
      | cons handle rest =>
          have hstep : r.step .tick = some ((r.taken rest).runHandle handle) :=
            step_tick_eq_some.mpr ⟨handle, rest, hready, rfl⟩
          rcases tick_remaining hr hstep with ⟨htasks, hless⟩
          have hdone' : forall t,
              t < ((r.taken rest).runHandle handle).loop.tasks.length ->
                ((r.taken rest).runHandle handle).loop.isDone t = true := by
            intro t ht
            rw [htasks] at ht
            rw [EventLoop.isDone, htasks]
            exact hdone t ht
          rcases ih _ (hm ▸ hless) _ hdone' (hr.step .tick hstep) rfl with
            ⟨n, last, hrun, hlast, hempty, hreturned, hreported⟩
          refine ⟨n + 1, last, ?_, hlast, hempty, hreturned, ?_⟩
          · rw [List.replicate_succ]
            exact exec_cons_eq_some.mpr ⟨_, hstep, hrun⟩
          · intro t
            rw [hreported t, Raised, htasks]
            rfl

/-- Two tasks have ended, and the runner has heard of neither. -/
def endedRun : BackgroundTaskRunner Nat where
  component := str "test"
  loop := ⟨[.done (.raised 7), .done .returned], [.onDone 0, .onDone 1]⟩
  names := [str "test:a", str "test:b"]
  tasks := [0, 1]
  drains := []
  cancelled := []
  log := []

theorem loop_runs_dry_ended :
    exists (n : Nat) (last : BackgroundTaskRunner Nat),
      exec step endedRun (List.replicate n .tick) = some last ∧ last.tasks = [] := by
  rcases loop_runs_dry (str "test")
    [.create (str "a"), .create (str "b"), .finish 0 (.raised 7), .finish 1 .returned]
    endedRun (by decide) (by decide) with ⟨n, last, hrun, _, hempty, _, _⟩
  exact ⟨n, last, hrun, hempty⟩

end Background
end EidolonSdk
