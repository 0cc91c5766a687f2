import EidolonSdk.Logic.Outcome

/-!
# Guards

A guard answers nothing: it lets the program go on, refuses, or escapes with an
error of a class that should not occur.  A guard is settled when it is known on
which inputs it escapes and on which it passes; guards in a row and a loop over
guards are settled by their parts, and a loop escapes at the first item that
does, after items that all pass.
-/

namespace EidolonSdk
namespace Logic

universe u v

variable {ε : Type u} {α : Type v}

structure Guard (x : Except ε Unit) (escape : ε -> Prop)
    (escapes passes : Prop) : Prop where
  escapes_iff : (exists e, x = .error e ∧ escape e) <-> escapes
  passes_iff : x = .ok () <-> passes

section Guards

variable {x y : Except ε Unit} {escape : ε -> Prop}
variable {escapes passes escapes' passes' : Prop}

theorem guard_pure : Guard (pure () : Except ε Unit) escape False True where
  escapes_iff := by
    constructor
    · intro h
      rcases h with ⟨e, he, _⟩
      cases he
    · exact False.elim
  passes_iff := by
    constructor
    · intro _
      trivial
    · intro _
      rfl

theorem guard_throw (e : ε) :
    Guard (throw e : Except ε Unit) escape (escape e) False where
  escapes_iff := by
    constructor
    · intro h
      rcases h with ⟨e', he, hescape⟩
      rw [Except.error.inj he]
      exact hescape
    · intro h
      exact ⟨e, rfl, h⟩
  passes_iff := by
    constructor
    · intro h
      cases h
    · exact False.elim

theorem Guard.iff (hx : Guard x escape escapes passes)
    (hescapes : escapes <-> escapes') (hpasses : passes <-> passes') :
    Guard x escape escapes' passes' where
  escapes_iff := hx.escapes_iff.trans hescapes
  passes_iff := hx.passes_iff.trans hpasses

/-- What passes does not escape. -/
theorem Guard.not_escapes (hx : Guard x escape escapes passes) (h : passes) :
    ¬ escapes := by
  intro hescapes
  rcases hx.escapes_iff.mpr hescapes with ⟨e, he, _⟩
  rw [hx.passes_iff.mpr h] at he
  cases he

theorem Guard.andThen (hx : Guard x escape escapes passes)
    (hy : passes -> Guard y escape escapes' passes') :
    Guard (x >>= fun _ => y) escape (escapes ∨ passes ∧ escapes')
      (passes ∧ passes') := by
  cases x with
  | ok a =>
      have hpasses : passes := hx.passes_iff.mp rfl
      exact (hy hpasses).iff
        (by simp [hpasses, hx.not_escapes hpasses])
        (by simp [hpasses])
  | error e =>
      have hstop : ¬ passes := by
        intro hpasses
        have hok := hx.passes_iff.mpr hpasses
        cases hok
      have hthrow : Guard (throw e : Except ε Unit) escape (escape e) False :=
        guard_throw e
      have hescapes : escape e <-> escapes :=
        hthrow.escapes_iff.symm.trans hx.escapes_iff
      exact hthrow.iff
        (by simp [hstop, hescapes])
        (by simp [hstop])

/-- A refusal under a condition. -/
theorem guard_refuse {c : Prop} [Decidable c] {e : ε} (h : ¬ escape e) :
    Guard (if c then throw e else pure ()) escape False (¬ c) := by
  by_cases hc : c
  · rw [if_pos hc]
    exact (guard_throw e).iff (by simp [h]) (by simp [hc])
  · rw [if_neg hc]
    exact guard_pure.iff Iff.rfl (by simp [hc])

/-- A refusal whose error may be one that should not occur. -/
theorem guard_refuseOf {c : Prop} [Decidable c] {e : ε} :
    Guard (if c then throw e else pure ()) escape (c ∧ escape e) (¬ c) := by
  by_cases hc : c
  · rw [if_pos hc]
    exact (guard_throw e).iff (by simp [hc]) (by simp [hc])
  · rw [if_neg hc]
    exact guard_pure.iff (by simp [hc]) (by simp [hc])

theorem guard_accept {c : Prop} [Decidable c] {e : ε} (h : ¬ escape e) :
    Guard (if c then pure () else throw e) escape False c := by
  by_cases hc : c
  · rw [if_pos hc]
    exact guard_pure.iff Iff.rfl (by simp [hc])
  · rw [if_neg hc]
    exact (guard_throw e).iff (by simp [h]) (by simp [hc])

/-- A part of the program that is only run under a condition. -/
theorem Guard.when {c : Prop} [Decidable c]
    (hx : c -> Guard x escape escapes passes) :
    Guard (if c then x else pure ()) escape (c ∧ escapes) (c -> passes) := by
  by_cases hc : c
  · rw [if_pos hc]
    exact (hx hc).iff (by simp [hc]) (by simp [hc])
  · rw [if_neg hc]
    exact guard_pure.iff (by simp [hc]) (by simp [hc])

/-- Of parts that are run under conditions that exclude each other, what passes
earlier is no obstacle. -/
theorem escapes_of_exclusive {a b c x y z p q : Prop} (hba : b -> ¬ a)
    (hca : c -> ¬ a) (hcb : c -> ¬ b) :
    a ∧ x ∨ (a -> p) ∧ (b ∧ y ∨ (b -> q) ∧ c ∧ z) <-> a ∧ x ∨ b ∧ y ∨ c ∧ z := by
  constructor
  · intro h
    rcases h with h | ⟨_, h | ⟨_, h⟩⟩
    · exact Or.inl h
    · exact Or.inr (Or.inl h)
    · exact Or.inr (Or.inr h)
  · intro h
    rcases h with h | ⟨hb, hy⟩ | ⟨hc, hz⟩
    · exact Or.inl h
    · exact Or.inr ⟨fun ha => absurd ha (hba hb), Or.inl ⟨hb, hy⟩⟩
    · exact Or.inr ⟨fun ha => absurd ha (hca hc),
        Or.inr ⟨fun hb => absurd hb (hcb hc), hc, hz⟩⟩

end Guards

/-!
## Loops
-/

section Loops

/-- Some item escapes after items that pass. -/
def Stops (escapes passes : α -> Prop) : List α -> Prop
  | [] => False
  | a :: rest => escapes a ∨ passes a ∧ Stops escapes passes rest

variable {escapes passes : α -> Prop} {escape : ε -> Prop} {items : List α}

theorem stops_iff :
    Stops escapes passes items <->
      exists front a back, items = front ++ a :: back ∧
        (forall b, b ∈ front -> passes b) ∧ escapes a := by
  induction items with
  | nil =>
      constructor
      · exact False.elim
      · intro h
        rcases h with ⟨front, a, back, hsplit, _⟩
        cases front with
        | nil => cases hsplit
        | cons b front => cases hsplit
  | cons a rest ih =>
      constructor
      · intro h
        rcases h with hescapes | ⟨hpasses, hrest⟩
        · exact ⟨[], a, rest, rfl, by simp, hescapes⟩
        · rcases ih.mp hrest with ⟨front, b, back, hsplit, hfront, hb⟩
          refine ⟨a :: front, b, back, by rw [hsplit]; rfl, ?_, hb⟩
          intro c hc
          rcases List.mem_cons.mp hc with heq | hc
          · rw [heq]
            exact hpasses
          · exact hfront c hc
      · intro h
        rcases h with ⟨front, b, back, hsplit, hfront, hb⟩
        cases front with
        | nil =>
            have heq : a = b := (List.cons.inj hsplit).left
            rw [← heq] at hb
            exact Or.inl hb
        | cons c front =>
            rcases List.cons.inj hsplit with ⟨heq, hrest⟩
            refine Or.inr ⟨?_, ih.mpr ⟨front, b, back, hrest, ?_, hb⟩⟩
            · rw [heq]
              exact hfront c List.mem_cons_self
            · intro d hd
              exact hfront d (List.mem_cons_of_mem c hd)

/-- Where there is one item at most, no item comes before the one that escapes. -/
theorem stops_of_length_le_one (h : items.length ≤ 1) :
    Stops escapes passes items <-> exists a, a ∈ items ∧ escapes a := by
  cases items with
  | nil => simp [Stops]
  | cons a rest =>
      cases rest with
      | nil => simp [Stops]
      | cons b rest =>
          simp at h

theorem stops_map {β : Type v} {f : β -> α} {sources : List β} :
    Stops escapes passes (sources.map f) <->
      Stops (fun b => escapes (f b)) (fun b => passes (f b)) sources := by
  induction sources with
  | nil => exact Iff.rfl
  | cons b rest ih =>
      simp only [List.map_cons, Stops, ih]

theorem stops_append {front back : List α} :
    Stops escapes passes (front ++ back) <->
      Stops escapes passes front ∨
        (forall a, a ∈ front -> passes a) ∧ Stops escapes passes back := by
  induction front with
  | nil => simp [Stops]
  | cons a rest ih =>
      simp only [List.cons_append, Stops, ih, List.forall_mem_cons]
      constructor
      · intro h
        rcases h with h | ⟨hpasses, h | ⟨hrest, h⟩⟩
        · exact Or.inl (Or.inl h)
        · exact Or.inl (Or.inr ⟨hpasses, h⟩)
        · exact Or.inr ⟨⟨hpasses, hrest⟩, h⟩
      · intro h
        rcases h with (h | ⟨hpasses, h⟩) | ⟨⟨hpasses, hrest⟩, h⟩
        · exact Or.inl h
        · exact Or.inr ⟨hpasses, Or.inl h⟩
        · exact Or.inr ⟨hpasses, Or.inr ⟨hrest, h⟩⟩

/-- A loop inside a loop stops where one loop over all items would. -/
theorem stops_flatMap {β : Type v} {f : β -> List α} {sources : List β} :
    Stops escapes passes (sources.flatMap f) <->
      Stops (fun b => Stops escapes passes (f b))
        (fun b => forall a, a ∈ f b -> passes a) sources := by
  induction sources with
  | nil => exact Iff.rfl
  | cons b rest ih => rw [List.flatMap_cons, stops_append, ih, Stops]

theorem guard_forM {body : α -> Except ε Unit}
    (h : forall a, a ∈ items ->
      Guard (body a) escape (escapes a) (passes a)) :
    Guard (items.forM body) escape (Stops escapes passes items)
      (forall a, a ∈ items -> passes a) := by
  induction items with
  | nil => exact guard_pure.iff Iff.rfl (by simp)
  | cons a rest ih =>
      have hrest := ih fun b hb => h b (List.mem_cons_of_mem a hb)
      exact ((h a List.mem_cons_self).andThen fun _ => hrest).iff Iff.rfl
        (by simp)

/-- A loop that knows the position of its item. -/
theorem guard_forM_zipIdx {body : α × Nat -> Except ε Unit}
    (h : forall a position, a ∈ items ->
      Guard (body (a, position)) escape (escapes a) (passes a)) :
    Guard (items.zipIdx.forM body) escape (Stops escapes passes items)
      (forall a, a ∈ items -> passes a) := by
  have hmem : forall p : α × Nat, p ∈ items.zipIdx -> p.fst ∈ items := by
    intro p hp
    have hfst : p.fst ∈ items.zipIdx.map Prod.fst := List.mem_map_of_mem hp
    rw [List.zipIdx_map_fst] at hfst
    exact hfst
  have hbody : forall p : α × Nat, p ∈ items.zipIdx ->
      Guard (body p) escape (escapes p.fst) (passes p.fst) := by
    intro p hp
    exact h p.fst p.snd (hmem p hp)
  have hfst := List.zipIdx_map_fst 0 items
  apply (guard_forM hbody).iff
  · rw [← stops_map (f := Prod.fst), hfst]
  · constructor
    · intro hall a ha
      rw [← hfst] at ha
      rcases List.mem_map.mp ha with ⟨p, hp, heq⟩
      rw [← heq]
      exact hall p hp
    · intro hall p hp
      exact hall p.fst (hmem p hp)

end Loops

/-!
## Filters
-/

section Filters

variable {β : Type}

def sieve (test : β -> Except ε Bool) : List β -> Except ε (List β)
  | [] => pure []
  | a :: rest => do
      let kept ← test a
      let others ← sieve test rest
      pure (if kept then a :: others else others)

variable {test : β -> Except ε Bool} {items : List β}

theorem sieve_eq_filter {keep : β -> Bool}
    (h : forall a, a ∈ items -> test a = .ok (keep a)) :
    sieve test items = .ok (items.filter keep) := by
  induction items with
  | nil => rfl
  | cons a rest ih =>
      rw [sieve, h a List.mem_cons_self,
        ih fun b hb => h b (List.mem_cons_of_mem a hb), List.filter_cons]
      rfl

theorem sieve_error {a : β} {e : ε} (ha : a ∈ items)
    (he : test a = .error e) : exists e', sieve test items = .error e' := by
  induction items with
  | nil => cases ha
  | cons b rest ih =>
      rw [sieve]
      cases hb : test b with
      | error e' => exact ⟨e', rfl⟩
      | ok kept =>
          rcases List.mem_cons.mp ha with heq | ha
          · rw [← heq, he] at hb
            cases hb
          · rcases ih ha with ⟨e', he'⟩
            rw [he']
            exact ⟨e', rfl⟩

end Filters

end Logic
end EidolonSdk
