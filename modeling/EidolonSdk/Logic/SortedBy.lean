import Mathlib.Data.List.Sort

/-!
# Sorting by a key

A stable sort by a key.  Where no two items share their key the result is
strictly increasing, and it is the same for every order of the input.
-/

namespace EidolonSdk
namespace Logic

universe u v

variable {α : Type u} {κ : Type v}

def DistinctKeys (key : α -> κ) (items : List α) : Prop :=
  items.Pairwise fun a b => key a ≠ key b

theorem distinctKeys_iff {key : α -> κ} {items : List α} :
    DistinctKeys key items <-> (items.map key).Nodup :=
  List.pairwise_map.symm

theorem DistinctKeys.perm {key : α -> κ} {items items' : List α}
    (h : DistinctKeys key items) (hperm : items.Perm items') :
    DistinctKeys key items' :=
  (hperm.pairwise_iff fun hab => Ne.symm hab).mp h

section Sorted

variable [LinearOrder κ] {key : α -> κ} {items : List α}

def sortedBy (key : α -> κ) (items : List α) : List α :=
  items.mergeSort fun a b => decide (key a ≤ key b)

theorem mem_sortedBy {a : α} : a ∈ sortedBy key items <-> a ∈ items :=
  List.mem_mergeSort

theorem sortedBy_perm (key : α -> κ) (items : List α) :
    (sortedBy key items).Perm items :=
  List.mergeSort_perm items _

theorem sortedBy_le (key : α -> κ) (items : List α) :
    (sortedBy key items).Pairwise fun a b => key a ≤ key b := by
  have htrans : forall a b c : α, decide (key a ≤ key b) = true ->
      decide (key b ≤ key c) = true -> decide (key a ≤ key c) = true := by
    intro a b c hab hbc
    simp only [decide_eq_true_eq] at hab hbc ⊢
    exact le_trans hab hbc
  have htotal : forall a b : α,
      (decide (key a ≤ key b) || decide (key b ≤ key a)) = true := by
    intro a b
    simp only [Bool.or_eq_true, decide_eq_true_eq]
    exact le_total _ _
  have hsorted := List.pairwise_mergeSort htrans htotal items
  exact hsorted.imp fun h => of_decide_eq_true h

/-- Without a shared key the order is strict, so every item is there once. -/
theorem sortedBy_lt (h : DistinctKeys key items) :
    (sortedBy key items).Pairwise fun a b => key a < key b := by
  have hle := sortedBy_le key items
  have hne := h.perm (sortedBy_perm key items).symm
  exact (hle.and hne).imp fun hab => lt_of_le_of_ne hab.left hab.right

theorem sortedBy_eq_of_perm {items' : List α} (h : DistinctKeys key items)
    (hperm : items.Perm items') : sortedBy key items = sortedBy key items' := by
  have hlt := sortedBy_lt h
  have hlt' := sortedBy_lt (h.perm hperm)
  have hsorted : (sortedBy key items).Perm (sortedBy key items') :=
    (sortedBy_perm key items).trans
      (hperm.trans (sortedBy_perm key items').symm)
  apply List.Perm.eq_of_pairwise _ hlt hlt' hsorted
  intro a b _ _ hab hba
  exact absurd hab (lt_asymm hba)

/-- A strictly sorted list is a sublist of any other that has its items. -/
theorem sublist_of_lt {items' : List α}
    (h : items.Pairwise fun a b => key a < key b)
    (h' : items'.Pairwise fun a b => key a < key b) (hsub : items ⊆ items') :
    items.Sublist items' := by
  have hirrefl : Std.Irrefl fun a b : α => key a < key b :=
    ⟨fun a => lt_irrefl (key a)⟩
  have hantisymm : Std.Antisymm fun a b : α => key a < key b :=
    ⟨fun a b hab hba => absurd hab (lt_asymm hba)⟩
  exact List.sublist_of_subperm_of_pairwise (List.subperm_of_subset h.nodup hsub) h h'

end Sorted

end Logic
end EidolonSdk
