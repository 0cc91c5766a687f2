import Mathlib.Order.Basic

/-!
# Fenced registers

A register holds at most one item and is written by calls.  It is fenced when a
call either leaves it alone or puts an item there that moves forward: to a
higher rank, or not at all.  Over any run the rank then never goes down, and no
rank is ever used for two items, however many calls lie between.
-/

namespace EidolonSdk
namespace Logic

universe u v w

variable {α : Type u} {κ : Type v} {ρ : Type w} [Preorder ρ]

/-- {lit}`b` may follow {lit}`a`: its rank is higher, or it is the same item. -/
def Advances (rank : α -> ρ) (a b : α) : Prop :=
  rank a < rank b ∨ b = a

section Advances

variable {rank : α -> ρ} {a b c : α}

theorem Advances.refl (rank : α -> ρ) (a : α) : Advances rank a a :=
  Or.inr rfl

theorem Advances.trans (hab : Advances rank a b) (hbc : Advances rank b c) :
    Advances rank a c := by
  cases hab with
  | inl hlt =>
      cases hbc with
      | inl hlt' => exact Or.inl (lt_trans hlt hlt')
      | inr heq => exact heq ▸ Or.inl hlt
  | inr heq => exact heq ▸ hbc

theorem Advances.rank_le (h : Advances rank a b) : rank a ≤ rank b := by
  cases h with
  | inl hlt => exact le_of_lt hlt
  | inr heq => exact heq ▸ le_refl _

theorem Advances.eq_of_rank_eq (h : Advances rank a b)
    (hrank : rank a = rank b) : b = a := by
  cases h with
  | inl hlt => exact absurd hrank (ne_of_lt hlt)
  | inr heq => exact heq

end Advances

/-- What a register does with its calls.  A state in which a call is not
accepted does not change. -/
structure Register (κ : Type v) (α : Type u) where
  step : Option α -> κ -> Option α
  item : κ -> α
  accepts : Option α -> κ -> Prop
  step_accepted : forall {s c}, accepts s c -> step s c = some (item c)
  step_refused : forall {s c}, ¬ accepts s c -> step s c = s

namespace Register

variable (r : Register κ α)

def after (calls : List κ) : Option α :=
  calls.foldl r.step none

@[simp] theorem after_append (calls more : List κ) :
    r.after (calls ++ more) = more.foldl r.step (r.after calls) :=
  List.foldl_append

def Fenced (rank : α -> ρ) : Prop :=
  forall a c, r.accepts (some a) c -> Advances rank a (r.item c)

variable {r} {rank : α -> ρ}

theorem Fenced.step (hr : r.Fenced rank) (a : α) (c : κ) :
    exists b, r.step (some a) c = some b ∧ Advances rank a b := by
  by_cases h : r.accepts (some a) c
  · exact ⟨_, r.step_accepted h, hr a c h⟩
  · exact ⟨a, r.step_refused h, Advances.refl rank a⟩

/-- A register that holds an item holds one that follows it after any further
calls. -/
theorem Fenced.foldl (hr : r.Fenced rank) (a : α) (calls : List κ) :
    exists b, calls.foldl r.step (some a) = some b ∧ Advances rank a b := by
  induction calls generalizing a with
  | nil => exact ⟨a, rfl, Advances.refl rank a⟩
  | cons c rest ih =>
      rcases hr.step a c with ⟨b, hstep, hab⟩
      rcases ih b with ⟨d, hrest, hbd⟩
      refine ⟨d, ?_, hab.trans hbd⟩
      rw [List.foldl_cons, hstep, hrest]

/-- Two calls accepted in one run: the later item follows the earlier one. -/
theorem Fenced.advances (hr : r.Fenced rank) {pre mid : List κ} {c c' : κ}
    (h : r.accepts (r.after pre) c)
    (h' : r.accepts (r.after (pre ++ c :: mid)) c') :
    Advances rank (r.item c) (r.item c') := by
  rcases hr.foldl (r.item c) mid with ⟨b, hmid, hadvances⟩
  have hstate : r.after (pre ++ c :: mid) = some b := by
    rw [after_append, List.foldl_cons, r.step_accepted h, hmid]
  rw [hstate] at h'
  exact hadvances.trans (hr b c' h')

end Register

end Logic
end EidolonSdk
