import EidolonSdk.Pydantic.Instants

/-!
# Wire forms

A wire form says how a value is dumped to JSON and how it is validated, together
with the proof that validation undoes the dump.  Strings, words, instants,
optional values and tuples have one; a model gets its own from those of its
fields.
-/

namespace EidolonSdk
namespace Pydantic

open Python

structure Wire (α : Type) where
  dump : α -> Json
  validate : Validator α
  validate_dump : forall a, validate (dump a) = .ok a

namespace Wire

variable {α : Type}

theorem dump_injective (wire : Wire α) : Function.Injective wire.dump := by
  intro a b h
  have ha := wire.validate_dump a
  rw [h, wire.validate_dump b] at ha
  exact (Except.ok.inj ha).symm

/-- The first entry with the word of a value is the entry of that value. -/
theorem find_word {values : List α} {spell : α -> String} {a : α}
    (distinct : (values.map spell).Nodup) (h : a ∈ values) :
    (values.map fun b => (spell b, b)).find?
        (fun entry => str entry.fst == str (spell a)) = some (spell a, a) := by
  induction values with
  | nil => cases h
  | cons b rest ih =>
      rcases List.nodup_cons.mp distinct with ⟨hfirst, hdistinct⟩
      rw [List.map_cons, List.find?_cons]
      cases List.mem_cons.mp h with
      | inl heq =>
          rw [heq]
          simp
      | inr hrest =>
          have hne : spell b ≠ spell a := by
            intro heq
            apply hfirst
            rw [heq]
            exact List.mem_map_of_mem hrest
          have hskip : (str (spell b) == str (spell a)) = false := by
            simp [hne]
          rw [hskip]
          exact ih hdistinct hrest

/-!
## Single values
-/

def text (rule : StrRule) : Wire (ConStr rule) where
  dump s := .str s.val
  validate := validStr rule
  validate_dump := validStr_val

def integer (least : Int) : Wire (IntFrom least) where
  dump n := .int n.val
  validate := validInt least
  validate_dump := validInt_val

def instant : Wire Instant where
  dump i := .str (timestampText i)
  validate := awareDatetime
  validate_dump := awareDatetime_timestampText

/-- A strict string without constraints. -/
def anyText : Wire PyStr where
  dump s := .str s
  validate
    | .str s => .ok s
    | _ => .error .invalid
  validate_dump _ := rfl

def boolean : Wire Bool where
  dump b := .bool b
  validate
    | .bool b => .ok b
    | _ => .error .invalid
  validate_dump _ := rfl

/-- An enumeration; no two of its words are the same. -/
def word (values : List α) (spell : α -> String)
    (complete : forall a, a ∈ values)
    (distinct : (values.map spell).Nodup) : Wire α where
  dump a := .str (str (spell a))
  validate := validWord (values.map fun a => (spell a, a))
  validate_dump a := by
    simp only [validWord, find_word distinct (complete a)]

/-- A `Literal` with one value. -/
def literal (value : String) : Wire Unit where
  dump _ := .str (str value)
  validate := validWord [(value, ())]
  validate_dump _ := by simp [validWord]

/-!
## Optional values
-/

def isNull : Json -> Bool
  | .null => true
  | _ => false

/-- A wire form that never is `null` can be left open. -/
def nullable (wire : Wire α) (h : forall a, isNull (wire.dump a) = false) :
    Wire (Option α) where
  dump
    | none => .null
    | some a => wire.dump a
  validate
    | .null => .ok none
    | value => (wire.validate value).map some
  validate_dump a := by
    cases a with
    | none => rfl
    | some a =>
        have hnull := h a
        have hvalidate := wire.validate_dump a
        dsimp only
        split
        · rename_i heq
          rw [heq] at hnull
          cases hnull
        · rw [hvalidate]
          rfl

/-!
## Exact forms

A form is exact when it reads nothing but what it writes.
-/

section Exact

def Exact (wire : Wire α) : Prop :=
  forall value a, wire.validate value = .ok a -> value = wire.dump a

theorem Exact.ok_iff {wire : Wire α} (h : wire.Exact) {value : Json} {a : α} :
    wire.validate value = .ok a <-> value = wire.dump a := by
  constructor
  · exact h value a
  · intro heq
    rw [heq]
    exact wire.validate_dump a

theorem text_exact (rule : StrRule) : (text rule).Exact :=
  fun _ _ h => validStr_ok_iff.mp h

theorem integer_exact (least : Int) : (integer least).Exact :=
  fun _ _ h => validInt_ok_iff.mp h

theorem validWord_ok {words : List (String × α)} {value : Json} {a : α}
    (h : validWord words value = .ok a) :
    exists entry, entry ∈ words ∧ value = .str (str entry.fst) ∧
      entry.snd = a := by
  cases value with
  | str s =>
      simp only [validWord] at h
      split at h
      · rename_i entry hfind
        refine ⟨entry, List.mem_of_find?_eq_some hfind, ?_, Except.ok.inj h⟩
        have hword := List.find?_some hfind
        rw [eq_of_beq hword]
      · cases h
  | null => cases h
  | bool b => cases h
  | int n => cases h
  | float x => cases h
  | array items => cases h
  | object members => cases h

theorem word_exact {values : List α} {spell : α -> String}
    (complete : forall a, a ∈ values)
    (distinct : (values.map spell).Nodup) :
    (word values spell complete distinct).Exact := by
  intro value a h
  rcases validWord_ok h with ⟨entry, hentry, hvalue, ha⟩
  rcases List.mem_map.mp hentry with ⟨b, _, heq⟩
  rw [hvalue, ← ha, ← heq]
  rfl

theorem literal_exact (value : String) : (literal value).Exact := by
  intro v u h
  rcases validWord_ok h with ⟨entry, hentry, hvalue, _⟩
  rw [hvalue, List.mem_singleton.mp hentry]
  rfl

variable {wire : Wire α} {members : Members} {name : String}

theorem Exact.required_ok_iff (h : wire.Exact) {a : α} :
    required members name wire.validate = .ok a <->
      members.get name = some (wire.dump a) := by
  rw [required_eq_ok]
  constructor
  · intro hget
    rcases hget with ⟨value, hget, hvalue⟩
    rw [hget, h value a hvalue]
  · intro hget
    exact ⟨_, hget, wire.validate_dump a⟩

/-- A member that stands for its default when it is left out. -/
theorem Exact.withDefault_ok_iff (h : wire.Exact) {default a : α} :
    withDefault members name default wire.validate = .ok a <->
      members.get name = none ∧ a = default ∨
        members.get name = some (wire.dump a) := by
  rw [withDefault_eq_ok]
  apply or_congr_right
  constructor
  · intro hget
    rcases hget with ⟨value, hget, hvalue⟩
    rw [hget, h value a hvalue]
  · intro hget
    exact ⟨_, hget, wire.validate_dump a⟩

end Exact

end Wire

/-!
## Tuples

A strict tuple takes no list, which is what an array decodes to, and a strict
datetime no string.  Where a model has a validator that runs before the type
check, that one turns the list into a tuple; where it has none, what the model
dumps is not what it reads.
-/

section Tuples

variable {α : Type}

/-- A strict tuple by itself.  No decoded JSON value is a tuple. -/
def strictTuple : Validator (List α) :=
  fun _ => .error .invalid

/-- A strict datetime by itself.  No decoded JSON value is a datetime. -/
def strictDatetime : Validator Datetime :=
  fun _ => .error .invalid

def validItems (validate : Validator α) : List Json -> Validated (List α)
  | [] => .ok []
  | item :: rest =>
      ((validate item).both (validItems validate rest)).map fun (a, as) => a :: as

theorem validItems_dump (wire : Wire α) (items : List α) :
    validItems wire.validate (items.map wire.dump) = .ok items := by
  induction items with
  | nil => rfl
  | cons item rest ih =>
      rw [List.map_cons, validItems, wire.validate_dump, ih]
      rfl

theorem validItems_eq_ok {validate : Validator α} {items : List Json}
    {values : List α} :
    validItems validate items = .ok values <->
      List.Forall₂ (fun item value => validate item = .ok value) items values := by
  induction items generalizing values with
  | nil =>
      rw [List.forall₂_nil_left_iff]
      exact ⟨fun h => (Except.ok.inj h).symm, fun h => congrArg Except.ok h.symm⟩
  | cons item rest ih =>
      rw [validItems, Validated.map_eq_ok, List.forall₂_cons_left_iff]
      constructor
      · intro hparts
        rcases hparts with ⟨⟨first, others⟩, hboth, heq⟩
        rcases Validated.both_eq_ok.mp hboth with ⟨hfirst, hothers⟩
        exact ⟨first, others, hfirst, ih.mp hothers, heq.symm⟩
      · intro hparts
        rcases hparts with ⟨first, others, hfirst, hothers, heq⟩
        exact ⟨(first, others), Validated.both_eq_ok.mpr ⟨hfirst, ih.mpr hothers⟩,
          heq.symm⟩

theorem raises_validItems {validate : Validator α} {items : List Json} :
    Raises (validItems validate items) <->
      exists item, item ∈ items ∧ Raises (validate item) := by
  induction items with
  | nil => exact iff_of_false (quiet_ok _).not_raises (by simp)
  | cons item rest ih =>
      rw [validItems, raises_map, raises_both, ih]
      simp

/-- The bounds on the length of a tuple. -/
structure LengthRule where
  least : Nat := 0
  most : Option Nat := none

def LengthRule.Accepts (rule : LengthRule) (items : List α) : Prop :=
  rule.least ≤ items.length ∧
    (rule.most.all fun most => items.length ≤ most) = true

instance (rule : LengthRule) (items : List α) : Decidable (rule.Accepts items) :=
  inferInstanceAs (Decidable (_ ∧ _))

abbrev Tuple (rule : LengthRule) (α : Type) :=
  { items : List α // rule.Accepts items }

/-- The items of a tuple with room for so many.  An item counts once it is valid,
and the one too many ends the validation; an item that is not valid takes no
room. -/
def validWithin (validate : Validator α) : Nat -> List Json -> Validated (List α)
  | _, [] => .ok []
  | room, item :: rest =>
      match validate item with
      | .ok a =>
          match room with
          | 0 => .error .invalid
          | room + 1 => (validWithin validate room rest).map (a :: ·)
      | .error fault =>
          (Validated.both (.error fault : Validated α)
            (validWithin validate room rest)).map fun (a, as) => a :: as

theorem validWithin_dump (wire : Wire α) {items : List α} {room : Nat}
    (h : items.length ≤ room) :
    validWithin wire.validate room (items.map wire.dump) = .ok items := by
  induction items generalizing room with
  | nil => rfl
  | cons item rest ih =>
      cases room with
      | zero => cases h
      | succ room =>
          simp only [List.map_cons, validWithin, wire.validate_dump,
            ih (Nat.le_of_succ_le_succ h)]
          rfl

/-- An item is reached as long as no more items before it are valid than there is
room for. -/
def Reached (validate : Validator α) (room : Nat) (items : List Json)
    (item : Json) : Prop :=
  exists before after, items = before ++ item :: after ∧
    before.countP (fun value => (validate value).isOk) ≤ room

theorem not_reached_nil {validate : Validator α} {room : Nat} {item : Json} :
    ¬ Reached validate room [] item := by
  intro h
  rcases h with ⟨before, after, heq, _⟩
  exact List.append_ne_nil_of_right_ne_nil before (List.cons_ne_nil item after)
    heq.symm

theorem reached_cons {validate : Validator α} {room : Nat} {first item : Json}
    {rest : List Json} :
    Reached validate room (first :: rest) item <->
      item = first ∨
        if (validate first).isOk then
          exists left, room = left + 1 ∧ Reached validate left rest item
        else Reached validate room rest item := by
  constructor
  · intro hparts
    rcases hparts with ⟨before, after, heq, hcount⟩
    cases before with
    | nil => exact Or.inl (List.cons.inj heq).left.symm
    | cons head before =>
        rcases List.cons.inj heq with ⟨rfl, htail⟩
        apply Or.inr
        rw [List.countP_cons] at hcount
        split
        · rename_i hok
          rw [if_pos hok] at hcount
          exact ⟨room - 1, by omega, before, after, htail, by omega⟩
        · rename_i hok
          rw [if_neg hok] at hcount
          exact ⟨before, after, htail, hcount⟩
  · intro hparts
    rcases hparts with rfl | h
    · exact ⟨[], rest, rfl, Nat.zero_le room⟩
    · split at h
      · rename_i hok
        rcases h with ⟨left, rfl, before, after, rfl, hcount⟩
        refine ⟨first :: before, after, rfl, ?_⟩
        rw [List.countP_cons, if_pos hok]
        exact Nat.succ_le_succ hcount
      · rename_i hok
        rcases h with ⟨before, after, rfl, hcount⟩
        refine ⟨first :: before, after, rfl, ?_⟩
        rw [List.countP_cons, if_neg hok]
        exact hcount

theorem raises_validWithin {validate : Validator α} {room : Nat}
    {items : List Json} :
    Raises (validWithin validate room items) <->
      exists item, Reached validate room items item ∧ Raises (validate item) := by
  induction items generalizing room with
  | nil =>
      apply iff_of_false (quiet_ok _).not_raises
      intro h
      rcases h with ⟨item, hreached, _⟩
      exact not_reached_nil hreached
  | cons first rest ih =>
      simp only [reached_cons, or_and_right, exists_or, exists_eq_left]
      rw [validWithin]
      cases hfirst : validate first with
      | ok a =>
          have hquiet : ¬ Raises (.ok a : Validated α) := (quiet_ok a).not_raises
          cases room with
          | zero =>
              apply iff_of_false quiet_invalid.not_raises
              simp [hquiet, Except.isOk, Except.toBool]
          | succ room =>
              simp [raises_map, ih, hquiet, Except.isOk, Except.toBool]
      | error fault =>
          simp only [raises_map, raises_both, ih, Except.isOk, Except.toBool,
            Bool.false_eq_true, if_false]

/-- The items of a tuple that may be bounded. -/
def validBounded (validate : Validator α) :
    Option Nat -> List Json -> Validated (List α)
  | some most, items => validWithin validate most items
  | none, items => validItems validate items

/-- A tuple that is not strict. -/
def validTuple (rule : LengthRule) (validate : Validator α) :
    Validator (Tuple rule α)
  | .array items => do
      let values ← validBounded validate rule.most items
      if h : rule.Accepts values then .ok ⟨values, h⟩ else .error .invalid
  | _ => .error .invalid

theorem quiet_validTuple {validate : Validator α} (rule : LengthRule)
    (h : forall v, Quiet (validate v)) (value : Json) :
    Quiet (validTuple rule validate value) := by
  unfold validTuple
  split
  · apply Quiet.bind
    · rw [quiet_iff_not_raises]
      unfold validBounded
      split
      · rw [raises_validWithin]
        intro hparts
        rcases hparts with ⟨item, _, hitem⟩
        exact (h item).not_raises hitem
      · rw [raises_validItems]
        intro hparts
        rcases hparts with ⟨item, _, hitem⟩
        exact (h item).not_raises hitem
    · intro values
      split
      · exact quiet_ok _
      · exact quiet_invalid
  · exact quiet_invalid

def Wire.tuple (rule : LengthRule) (wire : Wire α) : Wire (Tuple rule α) where
  dump items := .array (items.val.map wire.dump)
  validate := validTuple rule wire.validate
  validate_dump items := by
    rcases items with ⟨items, h⟩
    have hitems : validBounded wire.validate rule.most (items.map wire.dump) =
        .ok items := by
      have hmost := h.right
      cases hrule : rule.most with
      | none => exact validItems_dump wire items
      | some most =>
          rw [hrule] at hmost
          exact validWithin_dump wire (of_decide_eq_true hmost)
    simp only [validTuple, hitems]
    exact dif_pos h

end Tuples

end Pydantic
end EidolonSdk
