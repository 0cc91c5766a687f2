import Mathlib.Logic.Basic

/-!
# Runs of a machine

A machine goes from state to state by steps with labels, and a step may be out of
the question in a state.  A run is a list of labels.  What one step keeps, a
whole run keeps: a property of the state, a property of the state and of the
labels so far, or a relation between the first state and the last.
-/

namespace EidolonSdk
namespace Logic

universe u v

variable {σ : Type u} {α : Type v}

/-- The state after the labels, if each of them was possible. -/
def exec (step : σ -> α -> Option σ) : σ -> List α -> Option σ
  | s, [] => some s
  | s, a :: rest =>
      match step s a with
      | none => none
      | some next => exec step next rest

variable {step : σ -> α -> Option σ}

@[simp] theorem exec_nil (s : σ) : exec step s [] = some s := rfl

theorem exec_cons_eq_some {s t : σ} {a : α} {rest : List α} :
    exec step s (a :: rest) = some t <->
      exists next, step s a = some next ∧ exec step next rest = some t := by
  rw [exec]
  cases hstep : step s a with
  | none => simp
  | some next => simp

/-- What every step keeps holds after any run. -/
theorem exec_invariant {inv : σ -> Prop}
    (hstep : forall s a next, inv s -> step s a = some next -> inv next)
    {s t : σ} {labels : List α} (hs : inv s) (h : exec step s labels = some t) :
    inv t := by
  induction labels generalizing s with
  | nil => exact Option.some.inj h ▸ hs
  | cons a rest ih =>
      rcases exec_cons_eq_some.mp h with ⟨next, hfirst, hrest⟩
      exact ih (hstep s a next hs hfirst) hrest

/-- A reflexive and transitive relation that holds across every step from a state
with the invariant holds across any run. -/
theorem exec_relates {inv : σ -> Prop} {rel : σ -> σ -> Prop}
    (hinv : forall s a next, inv s -> step s a = some next -> inv next)
    (hrefl : forall s, rel s s)
    (htrans : forall r s t, rel r s -> rel s t -> rel r t)
    (hstep : forall s a next, inv s -> step s a = some next -> rel s next)
    {s t : σ} {labels : List α} (hs : inv s) (h : exec step s labels = some t) :
    rel s t := by
  induction labels generalizing s with
  | nil => exact Option.some.inj h ▸ hrefl s
  | cons a rest ih =>
      rcases exec_cons_eq_some.mp h with ⟨next, hfirst, hrest⟩
      exact htrans s next t (hstep s a next hs hfirst)
        (ih (hinv s a next hs hfirst) hrest)

/-- A property of the state and of the labels so far. -/
theorem exec_history {inv : List α -> σ -> Prop}
    (hstep : forall past s a next, inv past s -> step s a = some next ->
      inv (past ++ [a]) next)
    {s t : σ} {past labels : List α} (hs : inv past s)
    (h : exec step s labels = some t) : inv (past ++ labels) t := by
  induction labels generalizing s past with
  | nil => simpa using Option.some.inj h ▸ hs
  | cons a rest ih =>
      rcases exec_cons_eq_some.mp h with ⟨next, hfirst, hrest⟩
      simpa using ih (hstep past s a next hs hfirst) hrest

end Logic
end EidolonSdk
