import Mathlib.Data.Finset.Card
import Mathlib.Data.Nat.Count
import Mathlib.Logic.Equiv.Defs
import Mathlib.Tactic.Choose

/-!
# Calls and answers

A log of calls and answers, each under an identifier that may come up again.  It
is paired when every call goes with a later answer under its own identifier, one
to one.  That is a matter of counting for each identifier alone, and of a counter
that runs along the log.
-/

namespace EidolonSdk
namespace Logic

universe u

inductive Exchange (ι : Type u) where
  | call (id : ι)
  | answer (id : ι)
  deriving DecidableEq

namespace Exchange

variable {ι : Type u} {log : List (Exchange ι)}

/-- The places of the calls. -/
abbrev Calls (log : List (Exchange ι)) :=
  { p : Nat // exists id, log[p]? = some (call id) }

/-- The places of the answers. -/
abbrev Answers (log : List (Exchange ι)) :=
  { q : Nat // exists id, log[q]? = some (answer id) }

/-- The places of one entry. -/
abbrev Places (log : List (Exchange ι)) (e : Exchange ι) :=
  { p : Nat // log[p]? = some e }

/-- The calls go with later answers under the same identifier, one to one. -/
def Paired (log : List (Exchange ι)) : Prop :=
  exists f : Calls log ≃ Answers log, forall p : Calls log,
    p.val < (f p).val ∧
      forall id, log[p.val]? = some (call id) ->
        log[(f p).val]? = some (answer id)

variable [DecidableEq ι]

/-- How often one entry comes up before a place. -/
def before (log : List (Exchange ι)) (e : Exchange ι) (n : Nat) : Nat :=
  Nat.count (fun p => log[p]? = some e) n

/-- No answer ahead of its call, and none left to come. -/
def Balanced (id : ι) (log : List (Exchange ι)) : Prop :=
  (forall n, before log (answer id) n ≤ before log (call id) n) ∧
    before log (call id) log.length = before log (answer id) log.length

/-!
## Counting
-/

section Counting

variable {e : Exchange ι} {k n p q : Nat}

theorem before_succ (h : log[p]? = some e) :
    before log e (p + 1) = before log e p + 1 := by
  unfold before
  rw [Nat.count_succ, if_pos h]

theorem before_mono (log : List (Exchange ι)) (e : Exchange ι) :
    Monotone (before log e) :=
  Nat.count_monotone _

/-- Below a count every number is the count at some place. -/
theorem exists_place (h : k < before log e n) :
    exists p, p < n ∧ log[p]? = some e ∧ before log e p = k := by
  induction n with
  | zero => exact absurd h (Nat.not_lt_zero k)
  | succ n ih =>
      by_cases hn : log[n]? = some e
      · rw [before_succ hn] at h
        rcases Nat.lt_succ_iff_lt_or_eq.mp h with hlt | heq
        · rcases ih hlt with ⟨p, hp, hentry, hcount⟩
          exact ⟨p, Nat.lt_succ_of_lt hp, hentry, hcount⟩
        · exact ⟨n, Nat.lt_succ_self n, hn, heq.symm⟩
      · have hsame : before log e (n + 1) = before log e n := by
          unfold before
          rw [Nat.count_succ, if_neg hn, Nat.add_zero]
        rw [hsame] at h
        rcases ih h with ⟨p, hp, hentry, hcount⟩
        exact ⟨p, Nat.lt_succ_of_lt hp, hentry, hcount⟩

theorem place_unique (hp : log[p]? = some e) (hq : log[q]? = some e)
    (h : before log e p = before log e q) : p = q :=
  Nat.count_injective hp hq h

theorem before_lt_length (h : log[p]? = some e) :
    before log e p < before log e log.length := by
  have hle : before log e (p + 1) ≤ before log e log.length :=
    before_mono log e (List.getElem?_eq_some_iff.mp h).1
  rw [before_succ h] at hle
  exact hle

/-- Counting along an injection. -/
theorem before_le_of_injective {e' : Exchange ι} {m : Nat}
    {g : Places log e -> Places log e'} (hg : Function.Injective g)
    (hplace : forall p, p.val < n -> (g p).val < m) :
    before log e n ≤ before log e' m := by
  unfold before
  rw [Nat.count_eq_card_filter_range, Nat.count_eq_card_filter_range]
  apply Finset.card_le_card_of_injOn
    (fun p => if h : log[p]? = some e then (g ⟨p, h⟩).val else 0)
  · intro p hp
    simp only [Finset.coe_filter, Finset.mem_range, Set.mem_ofPred_eq] at hp ⊢
    simp only [dif_pos hp.right]
    exact ⟨hplace ⟨p, hp.right⟩ hp.left, (g ⟨p, hp.right⟩).property⟩
  · intro p hp q hq heq
    simp only [Finset.coe_filter, Finset.mem_range, Set.mem_ofPred_eq] at hp hq
    simp only [dif_pos hp.right, dif_pos hq.right] at heq
    exact congrArg Subtype.val (hg (Subtype.ext heq))

theorem before_length_le {e' : Exchange ι} {g : Places log e -> Places log e'}
    (hg : Function.Injective g) :
    before log e log.length ≤ before log e' log.length := by
  apply before_le_of_injective hg
  intro p _
  exact (List.getElem?_eq_some_iff.mp (g p).property).1

end Counting

/-!
## Pairing by counting
-/

/-- The calls of one identifier go with its answers. -/
def PairedUnder (id : ι) (log : List (Exchange ι)) : Prop :=
  exists g : Places log (call id) ≃ Places log (answer id),
    forall p, p.val < (g p).val

omit [DecidableEq ι] in
theorem Paired.under (h : Paired log) (id : ι) : PairedUnder id log := by
  rcases h with ⟨f, hf⟩
  have hback : forall q : Answers log, log[q.val]? = some (answer id) ->
      log[(f.symm q).val]? = some (call id) := by
    intro q hq
    rcases (f.symm q).property with ⟨id', hcall⟩
    have hanswer := (hf (f.symm q)).right id' hcall
    rw [Equiv.apply_symm_apply, hq] at hanswer
    cases hanswer
    exact hcall
  refine ⟨⟨fun p => ⟨(f ⟨p, id, p.property⟩).val, (hf _).right id p.property⟩,
    fun q => ⟨(f.symm ⟨q, id, q.property⟩).val, hback _ q.property⟩, ?_, ?_⟩, ?_⟩
  · intro p
    apply Subtype.ext
    simp
  · intro q
    apply Subtype.ext
    simp
  · intro p
    exact (hf ⟨p, id, p.property⟩).left

omit [DecidableEq ι] in
/-- Entries of one kind have the places of each identifier, put together. -/
theorem exists_gathered {kind : ι -> Exchange ι}
    (hkind : Function.Injective kind) (log : List (Exchange ι)) :
    exists together : (Σ id, Places log (kind id)) ≃
        { p : Nat // exists id, log[p]? = some (kind id) },
      forall s, (together s).val = s.snd.val := by
  refine ⟨Equiv.ofBijective (fun s => ⟨s.snd.val, s.fst, s.snd.property⟩) ⟨?_, ?_⟩,
    fun s => rfl⟩
  · intro s t heq
    rcases s with ⟨id, p, hp⟩
    rcases t with ⟨id', q, hq⟩
    have hpq : p = q := congrArg Subtype.val heq
    subst hpq
    have hid : id = id' := hkind (Option.some.inj (hp.symm.trans hq))
    subst hid
    rfl
  · intro p
    rcases p with ⟨p, id, hp⟩
    exact ⟨⟨id, p, hp⟩, rfl⟩

omit [DecidableEq ι] in
theorem paired_of_under (h : forall id, PairedUnder id log) : Paired log := by
  choose g hg using h
  have hcall : Function.Injective (call : ι -> Exchange ι) := fun _ _ h => by
    cases h
    rfl
  have hanswer : Function.Injective (answer : ι -> Exchange ι) := fun _ _ h => by
    cases h
    rfl
  rcases exists_gathered hcall log with ⟨calls, hcalls⟩
  rcases exists_gathered hanswer log with ⟨answers, hanswers⟩
  refine ⟨calls.symm.trans ((Equiv.sigmaCongrRight g).trans answers), ?_⟩
  intro p
  rcases calls.surjective p with ⟨s, rfl⟩
  simp only [Equiv.trans_apply, Equiv.symm_apply_apply]
  rw [hcalls, hanswers]
  refine ⟨hg s.fst s.snd, ?_⟩
  intro id hid
  rw [s.snd.property] at hid
  cases hid
  exact (g s.fst s.snd).property

theorem PairedUnder.balanced {id : ι} (h : PairedUnder id log) :
    Balanced id log := by
  rcases h with ⟨g, hg⟩
  constructor
  · intro n
    apply before_le_of_injective g.symm.injective
    intro q hq
    have hlt := hg (g.symm q)
    rw [Equiv.apply_symm_apply] at hlt
    exact hlt.trans hq
  · exact Nat.le_antisymm (before_length_le g.injective)
      (before_length_le g.symm.injective)

theorem Balanced.pairedUnder {id : ι} (h : Balanced id log) :
    PairedUnder id log := by
  have hanswer : forall p : Places log (call id),
      exists q : Places log (answer id),
        before log (answer id) q.val = before log (call id) p.val := by
    intro p
    have hlt := before_lt_length p.property
    rw [h.right] at hlt
    rcases exists_place hlt with ⟨q, _, hq, hcount⟩
    exact ⟨⟨q, hq⟩, hcount⟩
  have hcall : forall q : Places log (answer id),
      exists p : Places log (call id),
        before log (call id) p.val = before log (answer id) q.val := by
    intro q
    have hlt := before_lt_length q.property
    rw [← h.right] at hlt
    rcases exists_place hlt with ⟨p, _, hp, hcount⟩
    exact ⟨⟨p, hp⟩, hcount⟩
  choose g hg using hanswer
  refine ⟨Equiv.ofBijective g ⟨?_, ?_⟩, ?_⟩
  · intro p q heq
    apply Subtype.ext
    apply place_unique p.property q.property
    rw [← hg p, ← hg q, heq]
  · intro q
    rcases hcall q with ⟨p, hp⟩
    refine ⟨p, Subtype.ext (place_unique (g p).property q.property ?_)⟩
    rw [hg p, hp]
  · intro p
    show p.val < (g p).val
    by_contra hle
    -- Otherwise the answer and those before it outnumber the calls so far.
    have hne : p.val ≠ (g p).val := by
      intro heq
      have hentry := (g p).property
      rw [← heq, p.property] at hentry
      cases hentry
    have hlt : (g p).val + 1 ≤ p.val := by omega
    have hcount := h.left ((g p).val + 1)
    rw [before_succ (g p).property, hg p] at hcount
    have hmono := before_mono log (call id) hlt
    omega

theorem paired_iff_balanced :
    Paired log <-> forall id, Balanced id log := by
  constructor
  · intro h id
    exact (h.under id).balanced
  · intro h
    exact paired_of_under fun id => (h id).pairedUnder

/-!
## Counters

A counter of what is unanswered under one identifier.  The rule says what another
call does to it, and the log may end where nothing is left.
-/

def follows (more : Nat -> Option Nat) (id : ι) : Nat -> List (Exchange ι) -> Bool
  | unanswered, [] => unanswered == 0
  | unanswered, call i :: rest =>
      if i = id then
        match more unanswered with
        | some n => follows more id n rest
        | none => false
      else follows more id unanswered rest
  | unanswered, answer i :: rest =>
      if i = id then
        match unanswered with
        | n + 1 => follows more id n rest
        | 0 => false
      else follows more id unanswered rest

/-- Every call counts. -/
def everyCall (unanswered : Nat) : Option Nat :=
  some (unanswered + 1)

/-- A call on top of another one is the same call. -/
def repeated (_unanswered : Nat) : Option Nat :=
  some 1

/-- No call on top of another one. -/
def oneAtATime (unanswered : Nat) : Option Nat :=
  if unanswered = 0 then some 1 else none

theorem before_zero (log : List (Exchange ι)) (e : Exchange ι) :
    before log e 0 = 0 :=
  Nat.count_zero _

theorem before_cons (e e' : Exchange ι) (log : List (Exchange ι)) (n : Nat) :
    before (e' :: log) e (n + 1) = before log e n + if e' = e then 1 else 0 := by
  unfold before
  rw [Nat.count_succ']
  simp

/-- The counter of every call, from where some are unanswered. -/
theorem follows_everyCall_iff {id : ι} {unanswered : Nat} :
    follows everyCall id unanswered log = true <->
      (forall n, before log (answer id) n ≤
        unanswered + before log (call id) n) ∧
      unanswered + before log (call id) log.length =
        before log (answer id) log.length := by
  induction log generalizing unanswered with
  | nil => simp [follows, before]
  | cons e rest ih =>
      rw [← Nat.and_forall_add_one]
      simp only [before_zero, before_cons, List.length_cons]
      cases e with
      | call i =>
          by_cases hi : i = id
          · subst hi
            simp only [follows, everyCall, if_true, ih, reduceCtorEq, if_false]
            constructor
            · intro h
              refine ⟨⟨Nat.zero_le _, ?_⟩, by omega⟩
              intro n
              have hn := h.left n
              omega
            · intro h
              refine ⟨?_, by omega⟩
              intro n
              have hn := h.left.right n
              omega
          · simp [follows, hi, ih]
      | answer i =>
          by_cases hi : i = id
          · subst hi
            cases unanswered with
            | zero =>
                refine iff_of_false (by simp [follows]) ?_
                intro h
                have hfirst := h.left.right 0
                simp [before_zero] at hfirst
            | succ n =>
                simp only [follows, if_true, ih, reduceCtorEq, if_false]
                constructor
                · intro h
                  refine ⟨⟨Nat.zero_le _, ?_⟩, by omega⟩
                  intro m
                  have hm := h.left m
                  omega
                · intro h
                  refine ⟨?_, by omega⟩
                  intro m
                  have hm := h.left.right m
                  omega
          · simp [follows, hi, ih]

theorem balanced_iff {id : ι} :
    Balanced id log <-> follows everyCall id 0 log = true := by
  rw [follows_everyCall_iff]
  simp only [Balanced, Nat.zero_add]

theorem paired_iff_follows :
    Paired log <-> forall id, follows everyCall id 0 log = true := by
  rw [paired_iff_balanced]
  exact forall_congr' fun id => balanced_iff

/-- Where repeated calls are taken for one, no more are answered. -/
theorem le_of_follows_repeated {id : ι} {m n : Nat}
    (hrepeated : follows repeated id n log = true)
    (hevery : follows everyCall id m log = true) : m ≤ n := by
  induction log generalizing m n with
  | nil =>
      simp only [follows, beq_iff_eq] at hrepeated hevery
      omega
  | cons e rest ih =>
      cases e with
      | call i =>
          by_cases hi : i = id
          · simp only [follows, if_pos hi, repeated, everyCall] at hrepeated hevery
            have hle := ih hrepeated hevery
            omega
          · simp only [follows, if_neg hi] at hrepeated hevery
            exact ih hrepeated hevery
      | answer i =>
          by_cases hi : i = id
          · cases n with
            | zero => simp [follows, hi] at hrepeated
            | succ n =>
                cases m with
                | zero => exact Nat.zero_le _
                | succ m =>
                    simp only [follows, if_pos hi] at hrepeated hevery
                    have hle := ih hrepeated hevery
                    omega
          · simp only [follows, if_neg hi] at hrepeated hevery
            exact ih hrepeated hevery

/-- Both counters agree to the end just where no call comes on top of another. -/
theorem follows_oneAtATime_iff {id : ι} {n : Nat} (hn : n ≤ 1) :
    follows oneAtATime id n log = true <->
      follows everyCall id n log = true ∧ follows repeated id n log = true := by
  induction log generalizing n with
  | nil => simp [follows]
  | cons e rest ih =>
      cases e with
      | call i =>
          by_cases hi : i = id
          · cases n with
            | zero =>
                simp only [follows, if_pos hi, oneAtATime, everyCall, repeated,
                  if_true]
                exact ih (Nat.le_refl 1)
            | succ n =>
                have hzero : n = 0 := by omega
                subst hzero
                simp only [follows, if_pos hi, oneAtATime, everyCall, repeated]
                refine iff_of_false (by simp) ?_
                intro h
                have hle := le_of_follows_repeated h.right h.left
                omega
          · simp only [follows, if_neg hi]
            exact ih hn
      | answer i =>
          by_cases hi : i = id
          · cases n with
            | zero => simp [follows, hi]
            | succ n =>
                simp only [follows, if_pos hi]
                exact ih (by omega)
          · simp only [follows, if_neg hi]
            exact ih hn

end Exchange

end Logic
end EidolonSdk
