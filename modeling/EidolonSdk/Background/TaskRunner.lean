import EidolonSdk.Logic.Runs
import EidolonSdk.Python.Asyncio
import EidolonSdk.Python.Text

/-!
# Background tasks

The runner keeps the tasks it was given until it has heard that they ended.
Between the end of a task and the moment the runner hears of it the loop runs
whatever came first, so a drain may come back before or after it.
-/

namespace EidolonSdk
namespace Background

open Python Logic

universe u

/-- What the loop runs for the runner. -/
inductive Handle where
  /-- {lit}`self._on_done`. -/
  | onDone (task : Nat)
  /-- The callback of the {lit}`asyncio.gather` of a drain. -/
  | gathered (drain task : Nat)
  /-- A drain goes on behind its {lit}`await`. -/
  | wake (drain : Nat)
  deriving DecidableEq

inductive DrainStatus where
  | waiting
  /-- Everything gathered, but not running again yet. -/
  | woken
  | returned
  deriving DecidableEq

/-- A call of {lit}`drain`. -/
structure Drain where
  /-- {lit}`list(self._tasks)`. -/
  pending : List Nat
  /-- How many of them {lit}`asyncio.gather` has seen done. -/
  finished : Nat
  timedOut : Bool
  /-- Whether the call was suspended at all. -/
  suspended : Bool
  status : DrainStatus
  deriving DecidableEq

inductive LogRecord (ε : Type u) where
  | failed (component name : PyStr) (task : Nat) (e : ε)
  | drainTimedOut (component : PyStr) (pending : Nat)
  deriving DecidableEq

structure BackgroundTaskRunner (ε : Type u) where
  component : PyStr
  loop : EventLoop Handle ε
  names : List PyStr
  /-- {lit}`self._tasks`. -/
  tasks : List Nat
  drains : List Drain
  /-- Tasks that were asked to end by {lit}`task.cancel()` while they ran. -/
  cancelled : List Nat
  log : List (LogRecord ε)
  deriving DecidableEq

/-- What happens, in any order. -/
inductive Action (ε : Type u) where
  | create (name : PyStr)
  | finish (task : Nat) (ending : TaskEnd ε)
  /-- The loop runs its first handle. -/
  | tick
  | drain
  | timeout (drain : Nat)
  /-- The loop of {lit}`cancel_and_drain`, in front of its drain. -/
  | cancelAll

namespace BackgroundTaskRunner

variable {ε : Type u}

def new (component : PyStr) : BackgroundTaskRunner ε :=
  ⟨component, EventLoop.idle, [], [], [], [], []⟩

def taskName (component name : PyStr) : PyStr :=
  if component = [] then name else component ++ str ":" ++ name

def create (r : BackgroundTaskRunner ε) (name : PyStr) : BackgroundTaskRunner ε :=
  let t := r.loop.tasks.length
  { r with
    loop := r.loop.createTask.addDoneCallback t (.onDone t)
    names := r.names ++ [taskName r.component name]
    tasks := r.tasks ++ [t] }

/-- {lit}`_on_done`. -/
def onDone (r : BackgroundTaskRunner ε) (t : Nat) : BackgroundTaskRunner ε :=
  let tasks := r.tasks.filter fun s => s != t
  match r.loop.tasks[t]? with
  | some (.done (.raised e)) =>
      let record := .failed r.component (r.names.getD t []) t e
      { r with tasks := tasks, log := r.log ++ [record] }
  | _ => { r with tasks := tasks }

/-- {lit}`_done_callback` of {lit}`asyncio.gather`. -/
def onGathered (r : BackgroundTaskRunner ε) (g : Nat) : BackgroundTaskRunner ε :=
  match r.drains[g]? with
  | none => r
  | some d =>
      if d.finished + 1 = d.pending.length then
        { r with
          loop := r.loop.callSoon (.wake g)
          drains := r.drains.set g
            { d with finished := d.finished + 1, status := .woken } }
      else
        { r with drains := r.drains.set g { d with finished := d.finished + 1 } }

/-- What is left of {lit}`drain` behind its {lit}`await`. -/
def onWake (r : BackgroundTaskRunner ε) (g : Nat) : BackgroundTaskRunner ε :=
  match r.drains[g]? with
  | none => r
  | some d =>
      let drains := r.drains.set g { d with status := .returned }
      if d.timedOut = true then
        let record := .drainTimedOut r.component r.tasks.length
        { r with drains := drains, log := r.log ++ [record] }
      else { r with drains := drains }

def runHandle (r : BackgroundTaskRunner ε) : Handle -> BackgroundTaskRunner ε
  | .onDone t => r.onDone t
  | .gathered g _ => r.onGathered g
  | .wake g => r.onWake g

/-- {lit}`asyncio.gather` adds its callback to the tasks that are not done. -/
def register (g : Nat) : EventLoop Handle ε -> List Nat -> EventLoop Handle ε
  | loop, [] => loop
  | loop, t :: rest =>
      if loop.isDone t = true then register g loop rest
      else register g (loop.addDoneCallback t (.gathered g t)) rest

/-- {lit}`drain` up to its {lit}`await`.  A future that is done already does not
suspend. -/
def drain (r : BackgroundTaskRunner ε) : BackgroundTaskRunner ε :=
  let finished := r.tasks.countP r.loop.isDone
  let suspended := decide (finished < r.tasks.length)
  { r with
    loop := register r.drains.length r.loop r.tasks
    drains := r.drains ++ [⟨r.tasks, finished, false, suspended,
      if suspended = true then .waiting else .returned⟩] }

/-- {lit}`task.cancel()` for each of them. -/
def cancel (r : BackgroundTaskRunner ε) (ts : List Nat) : BackgroundTaskRunner ε :=
  { r with cancelled := r.cancelled ++ ts.filter fun t => !r.loop.isDone t }

/-- {lit}`asyncio.wait_for` cancels what it waits for, and goes on waiting. -/
def timeout (r : BackgroundTaskRunner ε) (g : Nat) :
    Option (BackgroundTaskRunner ε) :=
  match r.drains[g]? with
  | none => none
  | some d =>
      if d.timedOut = true ∨ d.status = .returned then none
      else some { r.cancel d.pending with
        drains := r.drains.set g { d with timedOut := true } }

def step (r : BackgroundTaskRunner ε) : Action ε -> Option (BackgroundTaskRunner ε)
  | .create name => some (r.create name)
  | .finish t ending =>
      (r.loop.finish t ending).map fun loop => { r with loop := loop }
  | .tick =>
      match r.loop.ready with
      | [] => none
      | h :: rest =>
          some (runHandle { r with loop := { r.loop with ready := rest } } h)
  | .drain => some r.drain
  | .timeout g => r.timeout g
  | .cancelAll => some (r.cancel r.tasks)

end BackgroundTaskRunner

end Background
end EidolonSdk
