import Mathlib.Logic.Basic

/-!
# How a computation that may fail ends

{lit}`Ends x Q E` says that {lit}`x` either returns a value in {lit}`Q` or
fails with an error in {lit}`E`.  Both halves are preconditions computed
backwards through the program, one rule for each way of combining computations;
all rules are equivalences, so what they compute is the weakest condition and
not merely a sufficient one.
-/

namespace EidolonSdk
namespace Logic

universe u v

variable {ε : Type u} {α β : Type v}

def Ends (x : Except ε α) (onValue : α -> Prop) (onError : ε -> Prop) : Prop :=
  match x with
  | .ok a => onValue a
  | .error e => onError e

section Rules

variable {onValue : α -> Prop} {onError : ε -> Prop}

@[simp] theorem ends_ok (a : α) :
    Ends (.ok a : Except ε α) onValue onError <-> onValue a := Iff.rfl

@[simp] theorem ends_error (e : ε) :
    Ends (.error e : Except ε α) onValue onError <-> onError e := Iff.rfl

@[simp] theorem ends_pure (a : α) :
    Ends (pure a : Except ε α) onValue onError <-> onValue a := Iff.rfl

@[simp] theorem ends_throw (e : ε) :
    Ends (throw e : Except ε α) onValue onError <-> onError e := Iff.rfl

/-- Sequencing: the rest of the program states what its first step must
return. -/
theorem ends_bind {x : Except ε β} {f : β -> Except ε α} :
    Ends (x >>= f) onValue onError <->
      Ends x (fun b => Ends (f b) onValue onError) onError := by
  cases x with
  | ok b => exact Iff.rfl
  | error e => exact Iff.rfl

/-- A weaker condition holds too. -/
theorem Ends.imp {x : Except ε α} {onValue' : α -> Prop} {onError' : ε -> Prop}
    (h : Ends x onValue onError) (hvalue : forall a, onValue a -> onValue' a)
    (herror : forall e, onError e -> onError' e) : Ends x onValue' onError' := by
  cases x with
  | ok a => exact hvalue a h
  | error e => exact herror e h

end Rules

/-- A computation fails in {lit}`E` exactly when it ends with no value and an
error in {lit}`E`. -/
theorem ends_false_iff {x : Except ε α} {onError : ε -> Prop} :
    Ends x (fun _ => False) onError <->
      exists e, x = .error e ∧ onError e := by
  cases x with
  | ok a => simp
  | error e => simp

theorem exists_ok_iff {x : Except ε α} {onError : ε -> Prop} :
    (exists a, x = .ok a) <->
      Ends x (fun _ => True) onError ∧ ¬ Ends x (fun _ => False) onError := by
  cases x with
  | ok a => simp
  | error e => simp

theorem not_exists_error {e : ε} :
    ¬ exists a, (.error e : Except ε α) = .ok a := by
  intro hparts
  rcases hparts with ⟨a, h⟩
  cases h

theorem ok_bind (b : β) (f : β -> Except ε α) :
    (.ok b : Except ε β) >>= f = f b := rfl

theorem exists_of_isOk {x : Except ε α} (h : x.isOk = true) :
    exists a, x = .ok a := by
  cases x with
  | ok a => exact ⟨a, rfl⟩
  | error e => cases h

theorem bind_eq_ok {x : Except ε β} {f : β -> Except ε α} {a : α} :
    x >>= f = .ok a <-> exists b, x = .ok b ∧ f b = .ok a := by
  cases x with
  | ok b =>
      constructor
      · intro h
        exact ⟨b, rfl, h⟩
      · intro hparts
        rcases hparts with ⟨b', hb, h⟩
        cases hb
        exact h
  | error e =>
      constructor
      · intro h
        cases h
      · intro hparts
        rcases hparts with ⟨b, hb, _⟩
        cases hb

/-- A program that goes on unless it refuses. -/
theorem refused_bind_eq_ok {refuses : Prop} [Decidable refuses] {e : ε}
    {f : β -> Except ε α} {rest : Except ε α} {a : α} :
    (if refuses then (throw e : Except ε β) >>= f else rest) = .ok a <->
      ¬ refuses ∧ rest = .ok a := by
  split
  · rename_i h
    exact iff_of_false nofun fun hrest => hrest.left h
  · rename_i h
    exact (and_iff_right h).symm

theorem bind_eq_error {x : Except ε β} {f : β -> Except ε α} {e : ε} :
    x >>= f = .error e <-> x = .error e ∨ exists b, x = .ok b ∧ f b = .error e := by
  cases x with
  | ok b =>
      constructor
      · intro h
        exact Or.inr ⟨b, rfl, h⟩
      · intro hparts
        rcases hparts with h | ⟨b', hb, h⟩
        · cases h
        · cases hb
          exact h
  | error e' =>
      constructor
      · intro h
        exact Or.inl (congrArg _ (Except.error.inj h))
      · intro hparts
        rcases hparts with h | ⟨b, hb, _⟩
        · exact congrArg _ (Except.error.inj h)
        · cases hb

theorem refused_bind_eq_error {refuses : Prop} [Decidable refuses] {e e' : ε}
    {f : β -> Except ε α} {rest : Except ε α} :
    (if refuses then (throw e' : Except ε β) >>= f else rest) = .error e <->
      (refuses ∧ e' = e) ∨ (¬ refuses ∧ rest = .error e) := by
  by_cases h : refuses
  · rw [if_pos h]
    constructor
    · intro herror
      exact Or.inl ⟨h, Except.error.inj herror⟩
    · intro hparts
      rcases hparts with ⟨_, rfl⟩ | ⟨hnot, _⟩
      · rfl
      · exact absurd h hnot
  · rw [if_neg h]
    constructor
    · intro herror
      exact Or.inr ⟨h, herror⟩
    · intro hparts
      rcases hparts with ⟨hrefuses, _⟩ | ⟨_, herror⟩
      · exact absurd hrefuses h
      · exact herror

theorem map_eq_error {x : Except ε β} {f : β -> α} {e : ε} :
    x.map f = .error e <-> x = .error e := by
  cases x with
  | ok b => exact iff_of_false nofun nofun
  | error e' => exact ⟨fun h => congrArg _ (Except.error.inj h), fun h => by
      cases h
      rfl⟩

theorem map_eq_ok {x : Except ε β} {f : β -> α} {a : α} :
    x.map f = .ok a <-> exists b, x = .ok b ∧ f b = a := by
  cases x with
  | ok b => simp [Except.map]
  | error e => simp [Except.map]

/-- A loop that only checks. -/
theorem forM_eq_ok {f : α -> Except ε Unit} {items : List α} :
    items.forM f = .ok () <-> forall a, a ∈ items -> f a = .ok () := by
  induction items with
  | nil => exact iff_of_true rfl fun a ha => absurd ha List.not_mem_nil
  | cons a rest ih =>
      have hcons : (a :: rest).forM f = f a >>= fun _ => rest.forM f := rfl
      rw [hcons, bind_eq_ok, List.forall_mem_cons, ← ih]
      constructor
      · intro h
        rcases h with ⟨_, ha, hrest⟩
        exact ⟨ha, hrest⟩
      · intro h
        rcases h with ⟨ha, hrest⟩
        exact ⟨(), ha, hrest⟩

/-!
## Checks

A check answers nothing.  It refuses, lets the program go on, or fails with an
error outside the class under consideration; a sequence of checks refuses where
one of them does and all earlier ones let the program go on.
-/

section Checks

def Check (x : Except ε Unit) (onError : ε -> Prop)
    (refuses passes : Prop) : Prop :=
  forall onValue : Unit -> Prop,
    Ends x onValue onError <-> refuses ∨ (passes ∧ onValue ())

variable {x y : Except ε Unit} {onError : ε -> Prop}
variable {refuses passes refuses' passes' : Prop}

theorem check_pure : Check (pure () : Except ε Unit) onError False True := by
  intro onValue
  simp

theorem check_throw (e : ε) :
    Check (throw e : Except ε Unit) onError (onError e) False := by
  intro onValue
  simp

theorem Check.iff (hx : Check x onError refuses passes)
    (hrefuses : refuses <-> refuses') (hpasses : passes <-> passes') :
    Check x onError refuses' passes' := by
  intro onValue
  rw [hx onValue, hrefuses, hpasses]

theorem Check.ends_bind {β : Type} {rest : Except ε β} {onValue : β -> Prop}
    (hx : Check x onError refuses passes) :
    Ends (x >>= fun _ => rest) onValue onError <->
      refuses ∨ (passes ∧ Ends rest onValue onError) := by
  rw [Logic.ends_bind]
  exact hx fun _ => Ends rest onValue onError

theorem Check.andThen (hx : Check x onError refuses passes)
    (hy : Check y onError refuses' passes') :
    Check (x >>= fun _ => y) onError (refuses ∨ (passes ∧ refuses'))
      (passes ∧ passes') := by
  intro onValue
  rw [hx.ends_bind, hy onValue]
  constructor
  · intro h
    rcases h with h | ⟨hp, h | ⟨hp', hv⟩⟩
    · exact Or.inl (Or.inl h)
    · exact Or.inl (Or.inr ⟨hp, h⟩)
    · exact Or.inr ⟨⟨hp, hp'⟩, hv⟩
  · intro h
    rcases h with (h | ⟨hp, h⟩) | ⟨⟨hp, hp'⟩, hv⟩
    · exact Or.inl h
    · exact Or.inr ⟨hp, Or.inl h⟩
    · exact Or.inr ⟨hp, Or.inr ⟨hp', hv⟩⟩

end Checks

end Logic
end EidolonSdk
