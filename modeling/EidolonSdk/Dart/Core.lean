import EidolonSdk.Logic.Outcome
import EidolonSdk.Python.JsonText

/-!
# What a Dart reader sees

{lit}`jsonDecode` hands out strings of UTF-16 code units, and an integer only
where the number is spelled as one and fits 64 bits; any other number is a
double.  A document is kept here as it is on the wire, and these two readings
of it are what the generated binding looks at.
-/

namespace EidolonSdk
namespace Dart

open Python Logic

/-- The end of a reader that returns nothing. -/
inductive Failure where
  | formatException (message : String)
  | typeError
  deriving DecidableEq

abbrev Reading := Except Failure

/-- `String.length`. -/
def length (s : PyStr) : Nat :=
  (s.flatMap Json.utf16).length

def inInt64 (n : Int) : Prop :=
  -2 ^ 63 ≤ n ∧ n < 2 ^ 63

instance (n : Int) : Decidable (inInt64 n) :=
  inferInstanceAs (Decidable (_ ∧ _))

/-- The value, where it `is int`. -/
def int? : Json -> Option Int
  | .int n => if inInt64 n then some n else none
  | _ => none

/-- `xs.difference(ys).isNotEmpty`. -/
def exceeds (xs ys : List PyStr) : Prop :=
  ¬ xs ⊆ ys

instance (xs ys : List PyStr) : Decidable (exceeds xs ys) :=
  inferInstanceAs (Decidable (¬ _))

/-- `if (c) throw const FormatException(message)`. -/
def throwIf (c : Prop) [Decidable c] (message : String) : Reading Unit :=
  if c then throw (.formatException message) else pure ()

/-- A value that has to be there, or an exception. -/
def orThrow {α : Type} (a : Option α) (message : String) : Reading α :=
  match a with
  | some a => pure a
  | none => throw (.formatException message)

/-- `items.map(read).toList()`. -/
def readList {α β : Type} (read : α -> Reading β) : List α -> Reading (List β)
  | [] => pure []
  | item :: rest => do
      let b ← read item
      let back ← readList read rest
      pure (b :: back)

/-!
## Readings that succeed
-/

theorem readList_eq_ok {α β : Type} {read : α -> Reading β} {items : List α}
    {values : List β} :
    readList read items = .ok values <->
      List.Forall₂ (fun item b => read item = .ok b) items values := by
  induction items generalizing values with
  | nil =>
      rw [List.forall₂_nil_left_iff]
      constructor
      · intro h
        exact (Except.ok.inj h).symm
      · intro h
        exact congrArg Except.ok h.symm
  | cons item rest ih =>
      rw [List.forall₂_cons_left_iff]
      unfold readList
      simp only [bind_eq_ok, ih]
      constructor
      · intro h
        rcases h with ⟨b, hb, back, hback, heq⟩
        exact ⟨b, back, hb, hback, (Except.ok.inj heq).symm⟩
      · intro h
        rcases h with ⟨b, back, hb, hback, heq⟩
        exact ⟨b, hb, back, hback, congrArg Except.ok heq.symm⟩

theorem int?_eq_some {value : Json} {n : Int} :
    int? value = some n <-> value = .int n ∧ inInt64 n := by
  cases value with
  | int m =>
      simp only [int?]
      by_cases h : inInt64 m
      · rw [if_pos h, Option.some.injEq, Json.int.injEq]
        constructor
        · intro heq
          exact ⟨heq, heq ▸ h⟩
        · intro heq
          exact heq.left
      · rw [if_neg h]
        apply iff_of_false nofun
        intro heq
        rw [← Json.int.inj heq.left] at heq
        exact h heq.right
  | null => exact iff_of_false nofun nofun
  | bool b => exact iff_of_false nofun nofun
  | float x => exact iff_of_false nofun nofun
  | str s => exact iff_of_false nofun nofun
  | array items => exact iff_of_false nofun nofun
  | object members => exact iff_of_false nofun nofun

theorem throwIf_eq_ok {c : Prop} [Decidable c] {message : String} {u : Unit} :
    throwIf c message = .ok u <-> ¬ c := by
  unfold throwIf
  by_cases h : c
  · rw [if_pos h]
    exact iff_of_false nofun (not_not.mpr h)
  · rw [if_neg h]
    exact iff_of_true rfl h

theorem throwIf_bind_eq_ok {α : Type} {c : Prop} [Decidable c]
    {message : String} {rest : Reading α} {a : α} :
    (throwIf c message >>= fun _ => rest) = .ok a <-> ¬ c ∧ rest = .ok a := by
  rw [bind_eq_ok]
  constructor
  · intro h
    rcases h with ⟨u, hu, hrest⟩
    exact ⟨throwIf_eq_ok.mp hu, hrest⟩
  · intro h
    exact ⟨(), throwIf_eq_ok.mpr h.left, h.right⟩

theorem orThrow_eq_ok {α : Type} {a : Option α} {message : String} {b : α} :
    orThrow a message = .ok b <-> a = some b := by
  cases a with
  | none => exact iff_of_false nofun nofun
  | some a =>
      constructor
      · intro h
        exact congrArg some (Except.ok.inj h)
      · intro h
        exact congrArg Except.ok (Option.some.inj h)

/-!
## Lengths

A character outside of the basic plane counts twice.
-/

theorem length_cons (c : CodePoint) (s : PyStr) :
    length (c :: s) = (Json.utf16 c).length + length s := by
  unfold length
  rw [List.flatMap_cons, List.length_append]

theorem utf16_length_basic {c : CodePoint} (h : c.val < 0x10000) :
    (Json.utf16 c).length = 1 := by
  rw [Json.utf16_basic h]
  rfl

theorem one_le_utf16_length (c : CodePoint) : 1 ≤ (Json.utf16 c).length :=
  List.length_pos_iff.mpr (Json.utf16_ne_nil c)

theorem length_le (s : PyStr) : s.length ≤ length s := by
  induction s with
  | nil => exact Nat.le_refl 0
  | cons c rest ih =>
      rw [length_cons, List.length_cons, Nat.add_comm]
      exact Nat.add_le_add (one_le_utf16_length c) ih

theorem length_eq {s : PyStr} (h : forall c, c ∈ s -> c.val < 0x10000) :
    length s = s.length := by
  induction s with
  | nil => rfl
  | cons c rest ih =>
      rw [length_cons, List.length_cons,
        utf16_length_basic (h c List.mem_cons_self),
        ih fun d hd => h d (List.mem_cons_of_mem c hd), Nat.add_comm]

end Dart
end EidolonSdk
