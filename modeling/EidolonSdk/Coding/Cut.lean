import Mathlib.Data.List.Basic

/-!
# Cutting at a mark

A text is cut at the first occurrence of a mark.  The parts determine the text,
and the text determines the parts, because the first one is free of the mark.
-/

namespace EidolonSdk
namespace Coding

variable {α : Type*} [DecidableEq α] {mark c : α}

/-- What stands before the first mark, and what stands after it if there is one. -/
def cut (mark : α) : List α -> List α × Option (List α)
  | [] => ([], none)
  | c :: rest =>
      if c = mark then ([], some rest)
      else (c :: (cut mark rest).fst, (cut mark rest).snd)

/-- A part behind its mark. -/
def behind (mark : α) : Option (List α) -> List α
  | none => []
  | some part => mark :: part

theorem behind_cut (s : List α) :
    (cut mark s).fst ++ behind mark (cut mark s).snd = s := by
  induction s with
  | nil => rfl
  | cons c rest ih =>
      by_cases h : c = mark
      · simp [cut, behind, h]
      · simp only [cut, if_neg h, List.cons_append, ih]

theorem cut_append {front : List α} (h : mark ∉ front) (back : Option (List α)) :
    cut mark (front ++ behind mark back) = (front, back) := by
  induction front with
  | nil =>
      cases back with
      | none => rfl
      | some part => simp [cut, behind]
  | cons c rest ih =>
      have hc : c ≠ mark := fun heq => h (heq ▸ List.mem_cons_self)
      have hrest := ih fun hmem => h (List.mem_cons_of_mem c hmem)
      rw [List.cons_append, cut, if_neg hc, hrest]

/-- The parts between the first `most` marks. -/
def splitAtMost (mark : α) : Nat -> List α -> List (List α)
  | 0, s => [s]
  | most + 1, s =>
      match cut mark s with
      | (front, none) => [front]
      | (front, some rest) => front :: splitAtMost mark most rest

theorem splitAtMost_append {front : List α} (h : mark ∉ front) (most : Nat)
    (rest : List α) :
    splitAtMost mark (most + 1) (front ++ mark :: rest) =
      front :: splitAtMost mark most rest := by
  have hcut := cut_append h (some rest)
  rw [splitAtMost, show front ++ mark :: rest = front ++ behind mark (some rest) from rfl,
    hcut]

end Coding
end EidolonSdk
