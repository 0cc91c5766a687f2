import Mathlib.Data.List.Forall2
import Mathlib.Logic.Function.Basic
import Mathlib.Tactic.Tauto

/-!
# Readers of one document

Readers of the same document are compared by what they have in common.  Each of
them accepts the documents of a shared outline on which its own points hold, and
readers agree on a document that is outside of the outline, on one that meets
the points of all of them, and on one that misses a point of each.
-/

namespace EidolonSdk
namespace Logic

/-- A reader accepts what has the outline and meets its points. -/
def Reads (accepts outline points : Prop) : Prop :=
  accepts <-> outline ∧ points

variable {p q r outline outline' a b c : Prop}

theorem Reads.of_outline (h : p <-> outline) : Reads p outline True :=
  h.trans (iff_of_eq (and_true outline)).symm

theorem Reads.and (hp : Reads p outline a) (hq : Reads q outline' b) :
    Reads (p ∧ q) (outline ∧ outline') (a ∧ b) := by
  unfold Reads at hp hq ⊢
  rw [hp, hq]
  exact and_and_and_comm

/-- A part that everybody decides alike. -/
theorem Reads.and_left (h : q <-> outline') (hp : Reads p outline a) :
    Reads (q ∧ p) (outline' ∧ outline) a := by
  unfold Reads at hp ⊢
  rw [hp, h, and_assoc]

theorem Reads.and_right (hp : Reads p outline a) (h : q <-> outline') :
    Reads (p ∧ q) (outline ∧ outline') a := by
  unfold Reads at hp ⊢
  rw [hp, h, and_right_comm]

/-- A point that only this reader has. -/
theorem Reads.and_point (hp : Reads p outline a) :
    Reads (p ∧ b) outline (a ∧ b) := by
  unfold Reads at hp ⊢
  rw [hp, and_assoc]

/-- The items of a list, and more generally whatever is in a family. -/
theorem Reads.forall {α : Type} {index : α -> Prop} {p outline a : α -> Prop}
    (h : forall x, index x -> Reads (p x) (outline x) (a x)) :
    Reads (forall x, index x -> p x) (forall x, index x -> outline x)
      (forall x, index x -> a x) := by
  constructor
  · intro hp
    exact ⟨fun x hx => ((h x hx).mp (hp x hx)).left,
      fun x hx => ((h x hx).mp (hp x hx)).right⟩
  · intro hp x hx
    exact (h x hx).mpr ⟨hp.left x hx, hp.right x hx⟩

/-- What stands under a constructor. -/
theorem Reads.within {α β : Type} {mk : α -> β} (hmk : Function.Injective mk)
    {p outline a : α -> Prop} {b : β}
    (h : forall x, Reads (p x) (outline x) (a x)) :
    Reads (exists x, b = mk x ∧ p x) (exists x, b = mk x ∧ outline x)
      (forall x, b = mk x -> a x) := by
  constructor
  · intro hp
    rcases hp with ⟨x, heq, hp⟩
    rcases (h x).mp hp with ⟨hx, ha⟩
    refine ⟨⟨x, heq, hx⟩, ?_⟩
    intro y hy
    rw [← hmk (heq.symm.trans hy)]
    exact ha
  · intro hp
    rcases hp with ⟨⟨x, heq, hx⟩, ha⟩
    exact ⟨x, heq, (h x).mpr ⟨hx, ha x heq⟩⟩

/-- A list is read when each of its items is. -/
theorem exists_forall₂_iff {α β : Type} {R : α -> β -> Prop} {items : List α} :
    (exists values, List.Forall₂ R items values) <->
      forall item, item ∈ items -> exists value, R item value := by
  induction items with
  | nil => exact iff_of_true ⟨[], .nil⟩ nofun
  | cons item rest ih =>
      simp only [List.forall₂_cons_left_iff, List.forall_mem_cons, ← ih]
      constructor
      · intro h
        rcases h with ⟨_, value, values, hvalue, hvalues, _⟩
        exact ⟨⟨value, hvalue⟩, values, hvalues⟩
      · intro h
        rcases h with ⟨⟨value, hvalue⟩, values, hvalues⟩
        exact ⟨value :: values, value, values, hvalue, hvalues, rfl⟩

theorem Reads.agree (hp : Reads p outline a) (hq : Reads q outline b) :
    (p <-> q) <-> (outline -> a ∧ b ∨ ¬ a ∧ ¬ b) := by
  unfold Reads at hp hq
  rw [hp, hq]
  tauto

theorem Reads.agree_three (hp : Reads p outline a) (hq : Reads q outline b)
    (hr : Reads r outline c) :
    ((p <-> q) ∧ (p <-> r)) <->
      (outline -> a ∧ b ∧ c ∨ ¬ a ∧ ¬ b ∧ ¬ c) := by
  unfold Reads at hp hq hr
  rw [hp, hq, hr]
  tauto

end Logic
end EidolonSdk
