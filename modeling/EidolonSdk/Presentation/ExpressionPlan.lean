import Mathlib.Algebra.Order.Ring.Rat
import Mathlib.Algebra.Order.Ring.Cast
import EidolonSdk.Pydantic.Codec

/-!
# Expression plans

A companion's face plays a plan: gestures one after another, each with its start
and its duration in milliseconds.  A plan carries a timeline that was checked, so
two gestures of one plan are never shown at the same time.
-/

namespace EidolonSdk
namespace Presentation

open Python Pydantic

def faceProfile : String := "eidolon.face.v1"

def faceCatalog : String := "face-core-1"

def maxPlanBytes : Nat := 2048

def maxSteps : Nat := 8

def maxDurationMs : Nat := 10000

/-!
## Steps
-/

inductive Gesture where
  | attend
  | affirm
  | ponder
  | question
  | soften
  | delight
  | hesitate
  | attention
  deriving DecidableEq

namespace Gesture

def all : List Gesture :=
  [attend, affirm, ponder, question, soften, delight, hesitate, attention]

def word : Gesture -> String
  | attend => "attend"
  | affirm => "affirm"
  | ponder => "ponder"
  | question => "question"
  | soften => "soften"
  | delight => "delight"
  | hesitate => "hesitate"
  | attention => "attention"

end Gesture

inductive Variant where
  | default
  | subtle
  deriving DecidableEq

namespace Variant

def all : List Variant := [default, subtle]

def word : Variant -> String
  | default => "default"
  | subtle => "subtle"

end Variant

/-- `Field(strict=True, ge=least, le=most)` of an integer. -/
abbrev IntBetween (least most : Int) := { n : Int // least ≤ n ∧ n ≤ most }

abbrev Millis := IntBetween 0 maxDurationMs

/-- A duration: no gesture is shorter than 150 ms. -/
abbrev Duration := IntBetween 150 maxDurationMs

structure ExpressionStep where
  atMs : Millis
  gesture : Gesture
  variant : Variant
  intensity : UnitFloat
  durationMs : Duration

namespace ExpressionStep

/-- The first millisecond after the step. -/
def stopMs (step : ExpressionStep) : Int :=
  step.atMs.val + step.durationMs.val

/-- The step is shown at this time, which may lie between two milliseconds. -/
def Active (step : ExpressionStep) (t : Rat) : Prop :=
  (step.atMs.val : Rat) ≤ t ∧ t < step.stopMs

theorem atMs_lt_stopMs (step : ExpressionStep) : step.atMs.val < step.stopMs := by
  have hduration := step.durationMs.property.left
  unfold stopMs
  omega

end ExpressionStep

/-!
## The timeline
-/

inductive TimelineError where
  | overlappingOrUnsortedSteps
  | planDurationExceeded
  deriving DecidableEq

/-- The loop of {lit}`check_timeline`: where the last step ends, when the steps
before ended at {lit}`stop`. -/
def timelineEnd : Int -> List ExpressionStep -> Except TimelineError Int
  | stop, [] => .ok stop
  | stop, step :: rest =>
      if step.atMs.val < stop then .error .overlappingOrUnsortedSteps
      else timelineEnd step.stopMs rest

def checkTimeline (steps : List ExpressionStep) (maxDurationMs : Nat) :
    Except TimelineError Unit := do
  let stop ← timelineEnd 0 steps
  if stop > (maxDurationMs : Int) then throw .planDurationExceeded

/-- Of any two steps the first ends before the second starts. -/
def Ordered (steps : List ExpressionStep) : Prop :=
  steps.Pairwise fun earlier later => earlier.stopMs ≤ later.atMs.val

theorem ordered_cons {step : ExpressionStep} {rest : List ExpressionStep} :
    Ordered (step :: rest) <->
      (forall later, later ∈ rest -> step.stopMs ≤ later.atMs.val) ∧
        Ordered rest :=
  List.pairwise_cons

variable {steps : List ExpressionStep} {stop last : Int}

/-- The loop looks at neighbours only.  Durations are positive, so what starts
after its neighbour also starts after every step before that one. -/
theorem timelineEnd_eq_ok (h : timelineEnd stop steps = .ok last) :
    (forall step, step ∈ steps -> stop ≤ step.atMs.val ∧ step.stopMs ≤ last) ∧
      Ordered steps ∧ stop ≤ last := by
  induction steps generalizing stop with
  | nil =>
      cases h
      exact ⟨by simp, List.Pairwise.nil, le_refl _⟩
  | cons step rest ih =>
      rw [timelineEnd] at h
      split at h
      · cases h
      · rename_i hstart
        rcases ih h with ⟨hrest, hordered, hlast⟩
        have hstep := step.atMs_lt_stopMs
        refine ⟨?_, ordered_cons.mpr ⟨fun later hlater => (hrest later hlater).left,
          hordered⟩, by omega⟩
        intro s hs
        rcases List.mem_cons.mp hs with heq | hs
        · rw [heq]
          exact ⟨by omega, hlast⟩
        · have hs' := hrest s hs
          exact ⟨by omega, hs'.right⟩

/-- Steps in order pass the loop, and it stops where one of them ends. -/
theorem timelineEnd_of_ordered (hordered : Ordered steps)
    (hstart : forall step, step ∈ steps -> stop ≤ step.atMs.val) :
    timelineEnd stop steps = .ok ((steps.getLast?.map (·.stopMs)).getD stop) := by
  induction steps generalizing stop with
  | nil => rfl
  | cons step rest ih =>
      rcases ordered_cons.mp hordered with ⟨hfirst, hrest⟩
      have hstep := hstart step List.mem_cons_self
      rw [timelineEnd, if_neg (by omega), ih hrest hfirst]
      cases rest with
      | nil => rfl
      | cons next rest =>
          rw [List.getLast?_cons_cons, List.getLast?_cons]
          rfl

theorem checkTimeline_iff_end {maxDurationMs : Nat} {u : Unit} :
    checkTimeline steps maxDurationMs = .ok u <->
      exists last, timelineEnd 0 steps = .ok last ∧ last ≤ maxDurationMs := by
  unfold checkTimeline
  cases timelineEnd 0 steps with
  | error e => exact iff_of_false nofun (by simp)
  | ok last =>
      show (if last > (maxDurationMs : Int) then
        throw TimelineError.planDurationExceeded else pure ()) = _ <-> _
      split
      · rename_i hlate
        refine iff_of_false nofun ?_
        simpa using hlate
      · rename_i hlate
        exact iff_of_true rfl ⟨last, rfl, not_lt.mp hlate⟩

/-- A timeline is accepted exactly when its steps follow each other and each is
over in time. -/
theorem checkTimeline_eq_ok {maxDurationMs : Nat} {u : Unit} :
    checkTimeline steps maxDurationMs = .ok u <-> Ordered steps ∧
      forall step, step ∈ steps -> step.stopMs ≤ maxDurationMs := by
  rw [checkTimeline_iff_end]
  constructor
  · intro h
    rcases h with ⟨last, hend, hlast⟩
    rcases timelineEnd_eq_ok hend with ⟨hsteps, hordered, _⟩
    exact ⟨hordered, fun step hstep => (hsteps step hstep).right.trans hlast⟩
  · intro h
    rcases h with ⟨hordered, hstops⟩
    refine ⟨_, timelineEnd_of_ordered hordered
      fun step _ => step.atMs.property.left, ?_⟩
    cases hlast : steps.getLast? with
    | none => exact Int.natCast_nonneg maxDurationMs
    | some step => exact hstops step (List.mem_of_getLast? hlast)

/-- The durations of a timeline fit between its start and its end. -/
theorem sum_durationMs_le (h : timelineEnd stop steps = .ok last) :
    stop + (steps.map fun step => step.durationMs.val).sum ≤ last := by
  induction steps generalizing stop with
  | nil =>
      cases h
      simp
  | cons step rest ih =>
      rw [timelineEnd] at h
      split at h
      · cases h
      · rename_i hstart
        have hrest := ih h
        rw [List.map_cons, List.sum_cons]
        unfold ExpressionStep.stopMs at hrest
        omega

theorem ordered_iff_getElem :
    Ordered steps <-> forall (i j : Nat) (hi : i < steps.length)
      (hj : j < steps.length), i < j -> steps[i].stopMs ≤ steps[j].atMs.val :=
  List.pairwise_iff_getElem

/-- Steps in order are never active together. -/
theorem Ordered.not_active (h : Ordered steps) {i j : Nat} {hi : i < steps.length}
    {hj : j < steps.length} (hij : i < j) {t : Rat} (hactive : steps[i].Active t) :
    ¬ steps[j].Active t := by
  intro hactive'
  have hle : (steps[i].stopMs : Rat) ≤ steps[j].atMs.val :=
    Int.cast_le.mpr (ordered_iff_getElem.mp h i j hi hj hij)
  exact absurd (hle.trans hactive'.left) (not_le.mpr hactive.right)

/-- An accepted timeline is a schedule: any step ends before any later one
starts, all are over by the end of the plan, no two are active at one time and
together they last no longer than the plan. -/
theorem timeline_is_schedule (steps : List ExpressionStep) (maxDurationMs : Nat) :
    (checkTimeline steps maxDurationMs = .ok () <->
      (forall (i j : Nat) (hi : i < steps.length) (hj : j < steps.length),
        i < j -> steps[i].stopMs ≤ steps[j].atMs.val) ∧
      forall step, step ∈ steps -> step.stopMs ≤ maxDurationMs) ∧
    (checkTimeline steps maxDurationMs = .ok () ->
      (forall (i j : Nat) (hi : i < steps.length) (hj : j < steps.length) (t : Rat),
        steps[i].Active t -> steps[j].Active t -> i = j) ∧
      (steps.map fun step => step.durationMs.val).sum ≤ maxDurationMs) := by
  constructor
  · rw [checkTimeline_eq_ok, ordered_iff_getElem]
  · intro hcheck
    rcases checkTimeline_eq_ok.mp hcheck with ⟨hordered, hstops⟩
    constructor
    · intro i j hi hj t hactive hactive'
      rcases Nat.lt_trichotomy i j with hij | hij | hij
      · exact absurd hactive' (hordered.not_active hij hactive)
      · exact hij
      · exact absurd hactive (hordered.not_active hij hactive')
    · rcases checkTimeline_iff_end.mp hcheck with ⟨last, hend, hlast⟩
      have hsum := sum_durationMs_le hend
      omega

end Presentation
end EidolonSdk
