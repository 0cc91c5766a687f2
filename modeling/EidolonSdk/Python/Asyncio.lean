import Mathlib.Data.List.Count
import Mathlib.Tactic.Common

/-!
# The event loop

{lit}`asyncio` as far as tasks and their done callbacks go.  A callback waits with
its task until the task has ended; then the loop gets a handle for it, and runs
its handles one after another in the order it got them.  A callback is owed from
the moment it is added until its handle runs, and no other step of the loop
changes what is owed.
-/

namespace EidolonSdk
namespace Python

universe u v

inductive TaskEnd (ε : Type u) where
  | returned
  | cancelled
  | raised (e : ε)
  deriving DecidableEq

/-- A task that runs has callbacks that wait for its end. -/
inductive Task (η : Type v) (ε : Type u) where
  | running (callbacks : List η)
  | done (ending : TaskEnd ε)
  deriving DecidableEq

/-- The callbacks that wait. -/
def Task.callbacks {η : Type v} {ε : Type u} : Task η ε -> List η
  | .running callbacks => callbacks
  | .done _ => []

/-- The task with more callbacks behind its own, if it runs. -/
def Task.adding {η : Type v} {ε : Type u} (more : List η) : Task η ε -> Task η ε
  | .running callbacks => .running (callbacks ++ more)
  | .done ending => .done ending

@[simp] theorem Task.adding_nil {η : Type v} {ε : Type u} (task : Task η ε) :
    task.adding [] = task := by
  cases task with
  | running callbacks => rw [Task.adding, List.append_nil]
  | done ending => rfl

/-- Tasks are known by their places, and {lit}`ready` holds the handles in order. -/
structure EventLoop (η : Type v) (ε : Type u) where
  tasks : List (Task η ε)
  ready : List η
  deriving DecidableEq

namespace EventLoop

variable {η : Type v} {ε : Type u}

def idle : EventLoop η ε := ⟨[], []⟩

/-- {lit}`loop.create_task(coro)`. -/
def createTask (loop : EventLoop η ε) : EventLoop η ε :=
  { loop with tasks := loop.tasks ++ [.running []] }

/-- {lit}`loop.call_soon(callback)`. -/
def callSoon (loop : EventLoop η ε) (h : η) : EventLoop η ε :=
  { loop with ready := loop.ready ++ [h] }

/-- {lit}`task.add_done_callback(callback)`. -/
def addDoneCallback (loop : EventLoop η ε) (t : Nat) (h : η) : EventLoop η ε :=
  match loop.tasks[t]? with
  | some (.running callbacks) =>
      { loop with tasks := loop.tasks.set t (.running (callbacks ++ [h])) }
  | some (.done _) => loop.callSoon h
  | none => loop

/-- A running task ends, and its callbacks are scheduled in their order. -/
def finish (loop : EventLoop η ε) (t : Nat) (ending : TaskEnd ε) :
    Option (EventLoop η ε) :=
  match loop.tasks[t]? with
  | some (.running callbacks) =>
      some ⟨loop.tasks.set t (.done ending), loop.ready ++ callbacks⟩
  | _ => none

def isDone (loop : EventLoop η ε) (t : Nat) : Bool :=
  match loop.tasks[t]? with
  | some (.done _) => true
  | _ => false

section Effects

variable {loop next : EventLoop η ε} {t : Nat} {ending : TaskEnd ε}

theorem isDone_iff : loop.isDone t = true <->
    exists ending, loop.tasks[t]? = some (.done ending) := by
  unfold isDone
  cases htask : loop.tasks[t]? with
  | none => simp
  | some task => cases task with
    | running callbacks => simp
    | done ending => simp

theorem isDone_of_running {callbacks : List η}
    (h : loop.tasks[t]? = some (.running callbacks)) : loop.isDone t = false := by
  rw [isDone, h]

theorem running_of_not_done (ht : t < loop.tasks.length)
    (h : loop.isDone t = false) :
    exists callbacks, loop.tasks[t]? = some (.running callbacks) := by
  cases htask : loop.tasks[t] with
  | running callbacks => exact ⟨callbacks, by rw [List.getElem?_eq_getElem ht, htask]⟩
  | done ending =>
      rw [isDone, List.getElem?_eq_getElem ht, htask] at h
      cases h

theorem finish_eq_some : loop.finish t ending = some next <->
    exists callbacks, loop.tasks[t]? = some (.running callbacks) ∧
      next = ⟨loop.tasks.set t (.done ending), loop.ready ++ callbacks⟩ := by
  unfold finish
  cases htask : loop.tasks[t]? with
  | none => simp
  | some task => cases task with
    | running callbacks => simp [eq_comm]
    | done ended => simp

/-- A callback for a task that runs waits with that task. -/
theorem addDoneCallback_running (ht : t < loop.tasks.length)
    (h : loop.isDone t = false) (g : η) :
    (loop.addDoneCallback t g).ready = loop.ready ∧
      (loop.addDoneCallback t g).tasks.length = loop.tasks.length ∧
      forall s : Nat, (loop.addDoneCallback t g).tasks[s]? =
        loop.tasks[s]?.map (Task.adding (if s = t then [g] else [])) := by
  rcases running_of_not_done ht h with ⟨callbacks, htask⟩
  have hloop : loop.addDoneCallback t g =
      { loop with tasks := loop.tasks.set t (.running (callbacks ++ [g])) } := by
    rw [addDoneCallback, htask]
  rw [hloop]
  refine ⟨rfl, List.length_set, fun s => ?_⟩
  by_cases hs : s = t
  · rw [hs, if_pos rfl, htask, List.getElem?_set_self ht]
    rfl
  · rw [if_neg hs, List.getElem?_set_ne (Ne.symm hs)]
    cases loop.tasks[s]? with
    | none => rfl
    | some task => rw [Option.map_some, Task.adding_nil]

theorem createTask_addDoneCallback (loop : EventLoop η ε) (g : η) :
    loop.createTask.addDoneCallback loop.tasks.length g =
      { loop with tasks := loop.tasks ++ [.running [g]] } := by
  simp [addDoneCallback, createTask]

end Effects

/-- How often the callback is owed: it waits with a task, or its handle waits in
the loop. -/
def owed [DecidableEq η] (loop : EventLoop η ε) (h : η) : Nat :=
  (loop.tasks.flatMap Task.callbacks).count h + loop.ready.count h

end EventLoop

/-!
## What is owed
-/

section Owed

variable {η : Type v} {ε : Type u} [DecidableEq η]

theorem count_flatMap_set {α : Type u} (f : α -> List η) (h : η) {xs : List α}
    {i : Nat} {x y : α} (hx : xs[i]? = some x) :
    ((xs.set i y).flatMap f).count h + (f x).count h =
      (xs.flatMap f).count h + (f y).count h := by
  induction xs generalizing i with
  | nil => cases hx
  | cons z rest ih =>
      cases i with
      | zero =>
          cases hx
          simp only [List.set_cons_zero, List.flatMap_cons, List.count_append]
          omega
      | succ i =>
          have hrest := ih (i := i) (by simpa using hx)
          simp only [List.set_cons_succ, List.flatMap_cons, List.count_append]
          omega

namespace EventLoop

variable {loop next : EventLoop η ε} {t : Nat} {ending : TaskEnd ε} {g h : η}

@[simp] theorem owed_idle (h : η) : (idle : EventLoop η ε).owed h = 0 := rfl

@[simp] theorem owed_createTask (loop : EventLoop η ε) (h : η) :
    loop.createTask.owed h = loop.owed h := by
  simp [owed, createTask, Task.callbacks]

theorem owed_callSoon (loop : EventLoop η ε) (g h : η) :
    (loop.callSoon g).owed h = loop.owed h + [g].count h := by
  simp only [owed, callSoon, List.count_append]
  omega

theorem owed_addDoneCallback (ht : t < loop.tasks.length) (g h : η) :
    (loop.addDoneCallback t g).owed h = loop.owed h + [g].count h := by
  unfold addDoneCallback
  cases htask : loop.tasks[t]? with
  | none => exact absurd ht (by simpa using htask)
  | some task =>
      cases task with
      | done ending => exact owed_callSoon loop g h
      | running callbacks =>
          have hset := count_flatMap_set Task.callbacks h
            (y := .running (callbacks ++ [g])) htask
          simp only [Task.callbacks, List.count_append] at hset
          simp only [owed]
          omega

/-- That a task ends moves its callbacks and leaves what is owed. -/
theorem owed_finish (hfinish : loop.finish t ending = some next) (h : η) :
    next.owed h = loop.owed h := by
  unfold finish at hfinish
  cases htask : loop.tasks[t]? with
  | none => simp [htask] at hfinish
  | some task =>
      cases task with
      | done ended => simp [htask] at hfinish
      | running callbacks =>
          rw [htask] at hfinish
          have hset := count_flatMap_set Task.callbacks h (y := .done ending) htask
          simp only [Task.callbacks, List.count_nil] at hset
          rw [← Option.some.inj hfinish]
          simp only [owed, List.count_append]
          omega

/-- Running the first handle pays for it and for no other. -/
theorem owed_ready {rest : List η} (hready : loop.ready = g :: rest) (h : η) :
    ({ loop with ready := rest } : EventLoop η ε).owed h + [g].count h =
      loop.owed h := by
  simp only [owed, hready, List.count_cons, List.count_nil]
  omega

theorem count_ready_le (loop : EventLoop η ε) (h : η) :
    loop.ready.count h ≤ loop.owed h :=
  Nat.le_add_left _ _

theorem owed_pos_of_mem_ready (hmem : h ∈ loop.ready) : 0 < loop.owed h :=
  Nat.lt_of_lt_of_le (List.count_pos_iff.mpr hmem) (loop.count_ready_le h)

theorem owed_pos_of_mem_callbacks {task : Task η ε}
    (htask : loop.tasks[t]? = some task) (hmem : h ∈ task.callbacks) :
    0 < loop.owed h := by
  have hflat : h ∈ loop.tasks.flatMap Task.callbacks :=
    List.mem_flatMap.mpr ⟨task, List.mem_of_getElem? htask, hmem⟩
  exact Nat.lt_of_lt_of_le (List.count_pos_iff.mpr hflat) (Nat.le_add_right _ _)

/-- What is owed waits somewhere. -/
theorem mem_of_owed_pos (howed : 0 < loop.owed h) :
    h ∈ loop.ready ∨
      exists (s : Nat) (task : Task η ε), loop.tasks[s]? = some task ∧
        h ∈ task.callbacks := by
  unfold owed at howed
  by_cases hready : h ∈ loop.ready
  · exact Or.inl hready
  · rw [List.count_eq_zero_of_not_mem hready, Nat.add_zero] at howed
    rcases List.mem_flatMap.mp (List.count_pos_iff.mp howed) with
      ⟨task, htask, hmem⟩
    rcases List.mem_iff_getElem?.mp htask with ⟨s, hs⟩
    exact Or.inr ⟨s, task, hs, hmem⟩

end EventLoop

end Owed

end Python
end EidolonSdk
