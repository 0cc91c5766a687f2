import Mathlib.Tactic.Common

/-!
# Semaphores

{lit}`asyncio.Semaphore` between tasks that nobody cancels.  A task that has to
wait leaves a future in a queue; who hands a place over takes it on behalf of the
first future that is not done, and the task of that future goes on in its own
time.  The queue is at all times made of tasks that have been handed a place and,
behind them, tasks that wait for one, each part in the order of arrival.
-/

namespace EidolonSdk
namespace Python

universe u

/-- The future a task waits for, under the name of the task. -/
structure Waiter (ι : Type u) where
  task : ι
  done : Bool
  deriving DecidableEq

structure Semaphore (ι : Type u) where
  value : Nat
  waiters : List (Waiter ι)
  deriving DecidableEq

/-- Somebody that has been handed a place. -/
def Waiter.granted {ι : Type u} (i : ι) : Waiter ι := ⟨i, true⟩

/-- Somebody that waits for one. -/
def Waiter.pending {ι : Type u} (i : ι) : Waiter ι := ⟨i, false⟩

namespace Semaphore

variable {ι : Type u}

def new (value : Nat) : Semaphore ι := ⟨value, []⟩

/-- Nobody gets past a queue, not even to a free place. -/
def locked (s : Semaphore ι) : Bool := s.value == 0 || !s.waiters.isEmpty

/-- The first future that is not done is set. -/
def setFirst : List (Waiter ι) -> Option (ι × List (Waiter ι))
  | [] => none
  | w :: rest =>
      if w.done = true then
        match setFirst rest with
        | none => none
        | some (i, after) => some (i, w :: after)
      else some (w.task, .granted w.task :: rest)

/-- {lit}`while self._value > 0: if not self._wake_up_next(): break`. -/
def wakeUp : Nat -> List (Waiter ι) -> Semaphore ι × List ι
  | 0, waiters => (⟨0, waiters⟩, [])
  | value + 1, waiters =>
      match setFirst waiters with
      | none => (⟨value + 1, waiters⟩, [])
      | some (i, after) =>
          let woken := wakeUp value after
          (woken.1, i :: woken.2)

/-- {lit}`acquire` up to its suspension, and whether it returns at once. -/
def acquire (s : Semaphore ι) (i : ι) : Semaphore ι × Bool :=
  if s.locked = true then (⟨s.value, s.waiters ++ [.pending i]⟩, false)
  else (⟨s.value - 1, s.waiters⟩, true)

/-- {lit}`acquire` of a task whose future is set, and the tasks it wakes up. -/
def resume [DecidableEq ι] (s : Semaphore ι) (i : ι) : Semaphore ι × List ι :=
  wakeUp s.value (s.waiters.eraseP fun w => w.task == i)

/-- {lit}`release`, and the task it wakes up. -/
def release (s : Semaphore ι) : Semaphore ι × Option ι :=
  match setFirst s.waiters with
  | none => (⟨s.value + 1, s.waiters⟩, none)
  | some (i, after) => (⟨s.value, after⟩, some i)

/-- A queue in order. -/
def queued (value : Nat) (granted pending : List ι) : Semaphore ι :=
  ⟨value, granted.map .granted ++ pending.map .pending⟩

/-!
## What an operation leaves of a queue
-/

section Queued

variable (value : Nat) (granted pending : List ι) (i : ι)

theorem new_eq_queued : (new value : Semaphore ι) = queued value [] [] := rfl

theorem granted_done (j : ι) : (Waiter.granted j).done = true := rfl

theorem setFirst_granted :
    setFirst (granted.map Waiter.granted) = (none : Option (ι × List (Waiter ι))) := by
  induction granted with
  | nil => rfl
  | cons j rest ih =>
      rw [List.map_cons, setFirst, if_pos (granted_done j), ih]

theorem setFirst_queued :
    setFirst (granted.map Waiter.granted ++ (i :: pending).map Waiter.pending) =
      some (i, (granted ++ [i]).map Waiter.granted ++
        pending.map Waiter.pending) := by
  induction granted with
  | nil => rfl
  | cons j rest ih =>
      rw [List.map_cons, List.cons_append, setFirst, if_pos (granted_done j), ih]
      rfl

/-- The loop hands over as many places as there are, in the order of arrival. -/
theorem wakeUp_queued :
    wakeUp value (granted.map Waiter.granted ++ pending.map Waiter.pending) =
      (queued (value - pending.length) (granted ++ pending.take value)
        (pending.drop value), pending.take value) := by
  induction value generalizing granted pending with
  | zero => simp [wakeUp, queued]
  | succ value ih =>
      cases pending with
      | nil =>
          rw [wakeUp]
          simp [setFirst_granted, queued]
      | cons j rest =>
          rw [wakeUp, setFirst_queued]
          simp only [ih (granted ++ [j]) rest]
          simp [queued]

theorem release_queued_nil :
    (queued value granted ([] : List ι)).release =
      (queued (value + 1) granted [], none) := by
  simp [release, queued, setFirst_granted]

theorem release_queued_cons :
    (queued value granted (i :: pending)).release =
      (queued value (granted ++ [i]) pending, some i) := by
  simp only [release, queued]
  rw [setFirst_queued]

/-- Whoever does not find the queue empty and a place free gets in line. -/
theorem acquire_queued_waits (h : value = 0 ∨ granted ++ pending ≠ []) :
    (queued value granted pending).acquire i =
      (queued value granted (pending ++ [i]), false) := by
  have hlocked : (queued value granted pending).locked = true := by
    rcases h with h | h
    · simp [locked, queued, h]
    · cases granted with
      | nil => cases pending with
        | nil => exact absurd rfl h
        | cons j rest => simp [locked, queued]
      | cons j rest => simp [locked, queued]
  rw [acquire, if_pos hlocked]
  simp [queued]

theorem acquire_queued_enters :
    (queued (value + 1) ([] : List ι) []).acquire i = (queued value [] [], true) :=
  rfl

theorem resume_queued [DecidableEq ι] :
    (queued value (i :: granted) pending).resume i =
      (queued (value - pending.length) (granted ++ pending.take value)
        (pending.drop value), pending.take value) := by
  have herase : (queued value (i :: granted) pending).waiters.eraseP
      (fun w => w.task == i) =
        granted.map Waiter.granted ++ pending.map Waiter.pending := by
    simp [queued, Waiter.granted]
  rw [resume, herase]
  exact wakeUp_queued value granted pending

end Queued

end Semaphore

end Python
end EidolonSdk
