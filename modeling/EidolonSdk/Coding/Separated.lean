import Mathlib.Data.List.Forall2

/-!
# Words joined by a separator

Joining words with a separator loses where one word ends and the next begins as
soon as a word may contain the separator itself.  This module says exactly how
much is lost: two joined sequences of the same length split the same way when,
position by position, their words contain the separator equally often.

Words that can be told apart in front of whatever may follow them need no count;
so can the members of a prefix-free family, and words over one alphabet that end
where another letter follows.
-/

namespace EidolonSdk
namespace Coding

variable {α β : Type*}

/-!
## Splitting at a separator
-/

section Separator

variable {sep : α}

theorem intercalate_cons_cons (x y : List α) (rest : List (List α)) :
    [sep].intercalate (x :: y :: rest) =
      x ++ sep :: [sep].intercalate (y :: rest) := by
  simp [List.intercalate]

/-- The word does not begin with this letter, and is not empty. -/
def Opens (stop : α) (word : List α) : Prop :=
  exists c rest, word = c :: rest ∧ c ≠ stop

theorem Opens.ne_stop {stop : α} {word u v : List α} (h : Opens stop word) :
    stop :: u ≠ word ++ v := by
  rcases h with ⟨c, rest, hword, hc⟩
  rw [hword]
  intro heq
  exact hc (List.cons.inj heq).left.symm

theorem Opens.intercalate_ne_stop {stop : α} {word u v : List α}
    {words : List (List α)} (h : Opens stop word) :
    stop :: u ≠ [sep].intercalate (word :: words) ++ v := by
  cases words with
  | nil =>
      rw [List.intercalate_singleton]
      exact h.ne_stop
  | cons word' words =>
      rw [intercalate_cons_cons, List.append_assoc]
      exact h.ne_stop

/-- Words that can be told apart in front of what may follow a word keep this
when they are joined by a separator and closed. -/
theorem intercalate_close_inj {close : α} {f : β -> List α}
    {Follows : List α -> Prop} (hclose : sep ≠ close)
    (hsepFollows : forall u, Follows (sep :: u))
    (hcloseFollows : forall u, Follows (close :: u)) :
    forall {xs ys : List β} {u v : List α},
      (forall x, x ∈ xs -> Opens close (f x)) ->
      (forall y, y ∈ ys -> Opens close (f y)) ->
      (forall x, x ∈ xs -> forall y, y ∈ ys -> forall u v : List α, Follows u ->
        Follows v -> f x ++ u = f y ++ v -> x = y ∧ u = v) ->
      [sep].intercalate (xs.map f) ++ close :: u =
        [sep].intercalate (ys.map f) ++ close :: v ->
      xs = ys ∧ u = v := by
  intro xs
  induction xs with
  | nil =>
      intro ys u v _ hys _ h
      cases ys with
      | nil => exact ⟨rfl, (List.cons.inj h).right⟩
      | cons y ys =>
          exact absurd h (hys y List.mem_cons_self).intercalate_ne_stop
  | cons x xs ih =>
      intro ys u v hxs hys hread h
      cases ys with
      | nil =>
          exact absurd h.symm (hxs x List.mem_cons_self).intercalate_ne_stop
      | cons y ys =>
          have hfirst := hread x List.mem_cons_self y List.mem_cons_self
          cases xs with
          | nil =>
              cases ys with
              | nil =>
                  simp only [List.map_cons, List.map_nil,
                    List.intercalate_singleton] at h
                  rcases hfirst _ _ (hcloseFollows _) (hcloseFollows _) h
                    with ⟨hxy, huv⟩
                  exact ⟨by rw [hxy], (List.cons.inj huv).right⟩
              | cons y' ys =>
                  simp only [List.map_cons, List.map_nil,
                    List.intercalate_singleton, intercalate_cons_cons,
                    List.append_assoc, List.cons_append] at h
                  rcases hfirst _ _ (hcloseFollows _) (hsepFollows _) h
                    with ⟨_, huv⟩
                  exact absurd (List.cons.inj huv).left.symm hclose
          | cons x' xs =>
              cases ys with
              | nil =>
                  simp only [List.map_cons, List.map_nil,
                    List.intercalate_singleton, intercalate_cons_cons,
                    List.append_assoc, List.cons_append] at h
                  rcases hfirst _ _ (hsepFollows _) (hcloseFollows _) h
                    with ⟨_, huv⟩
                  exact absurd (List.cons.inj huv).left hclose
              | cons y' ys =>
                  simp only [List.map_cons, intercalate_cons_cons,
                    List.append_assoc, List.cons_append] at h
                  rcases hfirst _ _ (hsepFollows _) (hsepFollows _) h
                    with ⟨hxy, huv⟩
                  have htail := ih
                    (fun x hx => hxs x (List.mem_cons_of_mem _ hx))
                    (fun y hy => hys y (List.mem_cons_of_mem _ hy))
                    (fun x hx y hy => hread x (List.mem_cons_of_mem _ hx) y
                      (List.mem_cons_of_mem _ hy))
                    (List.cons.inj huv).right
                  exact ⟨by rw [hxy, htail.left], htail.right⟩

variable [DecidableEq α]

theorem append_sep_inj :
    forall {a b u v : List α},
      a ++ sep :: u = b ++ sep :: v ->
      a.count sep = b.count sep ->
      a = b ∧ u = v
  | [], [], _u, _v, h, _ => by
      injection h with _ huv
      exact ⟨rfl, huv⟩
  | [], y :: b, _u, _v, h, hcount => by
      injection h with hhead _
      subst hhead
      simp at hcount
  | x :: a, [], _u, _v, h, hcount => by
      injection h with hhead _
      subst hhead
      simp at hcount
  | x :: a, y :: b, u, v, h, hcount => by
      injection h with hhead htail
      subst hhead
      have hrest : a.count sep = b.count sep := by
        simpa [List.count_cons] using hcount
      rcases append_sep_inj htail hrest with ⟨hab, huv⟩
      exact ⟨by rw [hab], huv⟩

/-- Sequences joined by a separator agree as soon as their words contain the
separator equally often, word by word. -/
theorem intercalate_inj_of_count_eq :
    forall {xs ys : List (List α)},
      List.Forall₂ (fun x y => x.count sep = y.count sep) xs ys ->
      [sep].intercalate xs = [sep].intercalate ys ->
      xs = ys
  | [], [], _, _ => rfl
  | [x], [y], _, h => by
      simpa [List.intercalate] using h
  | [_], _ :: _ :: _, hcount, _ => by
      cases hcount with
      | cons _ hrest => cases hrest
  | _ :: _ :: _, [_], hcount, _ => by
      cases hcount with
      | cons _ hrest => cases hrest
  | x :: x' :: xs, y :: y' :: ys, hcount, h => by
      cases hcount with
      | cons hhead hrest =>
          rw [intercalate_cons_cons, intercalate_cons_cons] at h
          rcases append_sep_inj h hhead with ⟨hxy, htail⟩
          rw [hxy, intercalate_inj_of_count_eq hrest htail]

end Separator

/-!
## Families of openings
-/

/-- No member of the family opens with another one. -/
def PrefixFree (f : β -> List α) : Prop :=
  forall a b, f a <+: f b -> a = b

theorem PrefixFree.append_inj {f : β -> List α} (hf : PrefixFree f) {a b : β}
    {u v : List α} (h : f a ++ u = f b ++ v) : a = b ∧ u = v := by
  have hu : f a <+: f b ++ v := ⟨u, h⟩
  have hv : f b <+: f b ++ v := List.prefix_append _ _
  have hab : a = b := by
    rcases List.prefix_or_prefix_of_prefix hu hv with hpre | hpre
    · exact hf a b hpre
    · exact (hf b a hpre).symm
  subst hab
  exact ⟨rfl, List.append_cancel_left h⟩

/-- Members of a prefix-free family can be told apart in a row, up to a stop
none of them begins with. -/
theorem PrefixFree.flatMap_stop_inj {f : β -> List α} (hf : PrefixFree f)
    {stop : α} (hopen : forall b, Opens stop (f b)) :
    forall {xs ys : List β} {u v : List α},
      xs.flatMap f ++ stop :: u = ys.flatMap f ++ stop :: v ->
      xs = ys ∧ u = v := by
  have hempty : forall (y : β) (ys : List β) (u v : List α),
      stop :: u ≠ (y :: ys).flatMap f ++ stop :: v := by
    intro y ys u v
    rw [List.flatMap_cons, List.append_assoc]
    exact (hopen y).ne_stop
  intro xs
  induction xs with
  | nil =>
      intro ys u v h
      cases ys with
      | nil => exact ⟨rfl, (List.cons.inj h).right⟩
      | cons y ys => exact absurd h (hempty y ys u v)
  | cons x xs ih =>
      intro ys u v h
      cases ys with
      | nil => exact absurd h.symm (hempty x xs v u)
      | cons y ys =>
          rw [List.flatMap_cons, List.flatMap_cons, List.append_assoc,
            List.append_assoc] at h
          rcases hf.append_inj h with ⟨hxy, hrest⟩
          rcases ih hrest with ⟨hxs, huv⟩
          exact ⟨by rw [hxy, hxs], huv⟩

/-- Words over one alphabet end where another letter, or nothing, follows. -/
theorem alphabet_append_inj {p : α -> Prop} :
    forall {a b u v : List α}, (forall c, c ∈ a -> p c) ->
      (forall c, c ∈ b -> p c) -> (forall c, c ∈ u.head? -> ¬ p c) ->
      (forall c, c ∈ v.head? -> ¬ p c) -> a ++ u = b ++ v -> a = b ∧ u = v := by
  intro a
  induction a with
  | nil =>
      intro b u v _ hb hu _ h
      cases b with
      | nil => exact ⟨rfl, h⟩
      | cons d b =>
          have hhead : d ∈ u.head? := by
            rw [List.nil_append] at h
            rw [h]
            rfl
          exact absurd (hb d List.mem_cons_self) (hu d hhead)
  | cons c a ih =>
      intro b u v ha hb hu hv h
      cases b with
      | nil =>
          have hhead : c ∈ v.head? := by
            rw [List.nil_append] at h
            rw [← h]
            rfl
          exact absurd (ha c List.mem_cons_self) (hv c hhead)
      | cons d b =>
          injection h with hhead htail
          rcases ih (fun c hc => ha c (List.mem_cons_of_mem _ hc))
            (fun c hc => hb c (List.mem_cons_of_mem _ hc)) hu hv htail
            with ⟨hab, huv⟩
          exact ⟨by rw [hhead, hab], huv⟩

end Coding
end EidolonSdk
