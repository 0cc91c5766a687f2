import Mathlib.Order.Lattice

/-!
# Keeping the highest of one class

An item is kept until another item of its own class has a higher rank.  What is
kept after any sequence of offers is the highest item of that class among all
that were there, so it depends on which items were offered and on nothing else.
-/

namespace EidolonSdk
namespace Logic

universe u v w

variable {α : Type u} {κ : Type v} {ρ : Type w}
variable [DecidableEq κ] [LinearOrder ρ] (classOf : α -> κ) (rank : α -> ρ)

def keepHigher (held offered : α) : α :=
  if classOf offered = classOf held ∧ rank held < rank offered then offered
  else held

def highest (held : α) (offers : List α) : α :=
  offers.foldl (keepHigher classOf rank) held

/-- The items an offer has to beat, the one held first. -/
def contenders (held : α) (offers : List α) : List α :=
  held :: offers.filter fun offered => classOf offered = classOf held

section Step

variable (held offered : α)

theorem keepHigher_class :
    classOf (keepHigher classOf rank held offered) = classOf held := by
  unfold keepHigher
  split
  · rename_i h
    exact h.left
  · rfl

theorem rank_le_keepHigher :
    rank held ≤ rank (keepHigher classOf rank held offered) := by
  unfold keepHigher
  split
  · rename_i h
    exact le_of_lt h.right
  · exact le_refl _

theorem offered_le_keepHigher (h : classOf offered = classOf held) :
    rank offered ≤ rank (keepHigher classOf rank held offered) := by
  unfold keepHigher
  split
  · exact le_refl _
  · rename_i hnot
    exact le_of_not_gt fun hlt => hnot ⟨h, hlt⟩

theorem keepHigher_eq :
    keepHigher classOf rank held offered = held ∨
      (keepHigher classOf rank held offered = offered ∧
        classOf offered = classOf held) := by
  unfold keepHigher
  split
  · rename_i h
    exact Or.inr ⟨rfl, h.left⟩
  · exact Or.inl rfl

end Step

section Run

variable {classOf rank}

theorem highest_class (held : α) (offers : List α) :
    classOf (highest classOf rank held offers) = classOf held := by
  induction offers generalizing held with
  | nil => rfl
  | cons offered rest ih =>
      have hstep := keepHigher_class classOf rank held offered
      exact (ih _).trans hstep

theorem rank_le_highest (held : α) (offers : List α) :
    rank held ≤ rank (highest classOf rank held offers) := by
  induction offers generalizing held with
  | nil => exact le_refl _
  | cons offered rest ih =>
      have hstep := rank_le_keepHigher classOf rank held offered
      exact le_trans hstep (ih _)

/-- An offer of the class held is no higher than what is kept in the end. -/
theorem offered_le_highest {held offered : α} {offers : List α}
    (hmem : offered ∈ offers) (hclass : classOf offered = classOf held) :
    rank offered ≤ rank (highest classOf rank held offers) := by
  induction offers generalizing held with
  | nil => cases hmem
  | cons first rest ih =>
      cases hmem with
      | head =>
          have hstep := offered_le_keepHigher classOf rank held offered hclass
          exact le_trans hstep (rank_le_highest _ rest)
      | tail _ hmem =>
          have hstep := keepHigher_class classOf rank held first
          exact ih hmem (hclass.trans hstep.symm)

theorem highest_mem (held : α) (offers : List α) :
    highest classOf rank held offers ∈ contenders classOf held offers := by
  induction offers generalizing held with
  | nil => exact List.mem_singleton.mpr rfl
  | cons offered rest ih =>
      have hrest := ih (keepHigher classOf rank held offered)
      have hclass := keepHigher_class classOf rank held offered
      have hhighest : highest classOf rank held (offered :: rest) =
          highest classOf rank (keepHigher classOf rank held offered) rest := rfl
      unfold contenders at hrest ⊢
      rw [hclass] at hrest
      rw [hhighest]
      cases List.mem_cons.mp hrest with
      | inl hkept =>
          rw [hkept]
          cases keepHigher_eq classOf rank held offered with
          | inl hheld =>
              rw [hheld]
              exact List.mem_cons_self
          | inr hoffered =>
              rw [hoffered.left]
              apply List.mem_cons_of_mem
              apply List.mem_filter.mpr
              exact ⟨List.mem_cons_self, decide_eq_true hoffered.right⟩
      | inr hoffer =>
          apply List.mem_cons_of_mem
          rw [List.mem_filter] at hoffer ⊢
          exact ⟨List.mem_cons_of_mem _ hoffer.left, hoffer.right⟩

theorem contender_le_highest {held a : α} {offers : List α}
    (h : a ∈ contenders classOf held offers) :
    rank a ≤ rank (highest classOf rank held offers) := by
  cases List.mem_cons.mp h with
  | inl hheld =>
      rw [hheld]
      exact rank_le_highest held offers
  | inr hoffer =>
      rw [List.mem_filter] at hoffer
      exact offered_le_highest hoffer.left (of_decide_eq_true hoffer.right)

/-- Where class and rank name one item, the kept item is the only one of the
contenders that no other one beats. -/
theorem eq_highest
    (hinj : forall a b, classOf a = classOf b -> rank a = rank b -> a = b)
    {held a : α} {offers : List α}
    (hmem : a ∈ contenders classOf held offers)
    (hmax : forall b, b ∈ contenders classOf held offers -> rank b ≤ rank a) :
    a = highest classOf rank held offers := by
  have hkept : highest classOf rank held offers ∈
      contenders classOf held offers := highest_mem held offers
  have hclass : classOf a = classOf held := by
    cases List.mem_cons.mp hmem with
    | inl hheld => rw [hheld]
    | inr hoffer => exact of_decide_eq_true (List.mem_filter.mp hoffer).right
  apply hinj
  · exact hclass.trans (highest_class held offers).symm
  · exact le_antisymm (contender_le_highest hmem) (hmax _ hkept)

/-- Order and repetition of the offers do not matter. -/
theorem highest_eq_of_mem_iff
    (hinj : forall a b, classOf a = classOf b -> rank a = rank b -> a = b)
    {held : α} {offers offers' : List α}
    (h : forall a, a ∈ offers <-> a ∈ offers') :
    highest classOf rank held offers = highest classOf rank held offers' := by
  have hmem : forall a, a ∈ contenders classOf held offers <->
      a ∈ contenders classOf held offers' := by
    intro a
    simp only [contenders, List.mem_cons, List.mem_filter, h a]
  apply eq_highest hinj
  · exact (hmem _).mp (highest_mem held offers)
  · intro b hb
    exact contender_le_highest ((hmem b).mpr hb)

end Run

end Logic
end EidolonSdk
