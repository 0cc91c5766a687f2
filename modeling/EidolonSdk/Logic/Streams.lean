import Mathlib.Data.List.Chain

/-!
# Contiguous pages

A page of a stream starts behind a position and ends at one.  It is contiguous
when it holds exactly the positions in between; pages that hand their end over
as the start of the next one compose, empty pages included.
-/

namespace EidolonSdk
namespace Logic

universe u

/-- The positions behind {lit}`start` up to {lit}`finish`. -/
def between (start finish : Int) : List Int :=
  (List.range (finish - start).toNat).map fun i : Nat => start + 1 + (i : Int)

theorem between_append {start middle finish : Int} (h : start ≤ middle)
    (h' : middle ≤ finish) :
    between start middle ++ between middle finish = between start finish := by
  have hsplit : (finish - start).toNat =
      (middle - start).toNat + (finish - middle).toNat := by omega
  unfold between
  rw [hsplit, List.range_add, List.map_append, List.map_map]
  apply congrArg
  apply List.map_congr_left
  intro i _
  show middle + 1 + (i : Int) =
    start + 1 + (((middle - start).toNat + i : Nat) : Int)
  omega

section Pages

variable {π : Type u} (start finish : π -> Int) (positions : π -> List Int)

def Contiguous (page : π) : Prop :=
  start page ≤ finish page ∧
    positions page = between (start page) (finish page)

variable {start finish positions}

/-- However many pages: together they hold what lies between the start of the
first and the end of the last. -/
theorem flatMap_positions {first : π} {rest : List π}
    (hpages : forall page, page ∈ first :: rest ->
      Contiguous start finish positions page)
    (hchain : List.IsChain (fun page next => start next = finish page)
      (first :: rest)) :
    start first ≤ finish ((first :: rest).getLast (List.cons_ne_nil _ _)) ∧
      (first :: rest).flatMap positions = between (start first)
        (finish ((first :: rest).getLast (List.cons_ne_nil _ _))) := by
  induction rest generalizing first with
  | nil =>
      have hfirst := hpages first List.mem_cons_self
      simpa [Contiguous] using hfirst
  | cons next rest ih =>
      rcases hpages first List.mem_cons_self with ⟨hle, hpositions⟩
      rcases List.isChain_cons_cons.mp hchain with ⟨hnext, hchain⟩
      have hrest := ih (fun page hmem => hpages page
        (List.mem_cons_of_mem first hmem)) hchain
      rw [hnext] at hrest
      rw [List.getLast_cons (List.cons_ne_nil next rest)]
      constructor
      · exact Int.le_trans hle hrest.left
      · rw [List.flatMap_cons, hpositions, hrest.right,
          between_append hle hrest.left]

end Pages

end Logic
end EidolonSdk
