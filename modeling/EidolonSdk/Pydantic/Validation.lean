import EidolonSdk.Python.Json

/-!
# Strict models

The part of pydantic the wire models use: strict strings and integers with
constraints, nested models, forbidden extra members.  A constrained value is a
subtype, so a model that exists satisfies its constraints.

Validating a model collects the errors of its fields and reports them together;
an exception a validator does not turn into an error ends the validation at
once, whatever the other fields say.
-/

namespace EidolonSdk
namespace Pydantic

open Python

/-!
## Constrained values
-/

/-- The constraints of a string field. -/
structure StrRule where
  minLength : Nat := 0
  maxLength : Option Nat := none
  pattern : PyStr -> Bool := fun _ => true

/-- A constrained string is checked as UTF-8, so lone surrogates are out. -/
def StrRule.Accepts (rule : StrRule) (s : PyStr) : Prop :=
  Encodable s ∧ rule.minLength ≤ s.length ∧
    (rule.maxLength.all fun most => s.length ≤ most) = true ∧
    rule.pattern s = true

instance (rule : StrRule) (s : PyStr) : Decidable (rule.Accepts s) :=
  inferInstanceAs (Decidable (_ ∧ _))

abbrev ConStr (rule : StrRule) := { s : PyStr // rule.Accepts s }

abbrev IntFrom (least : Int) := { n : Int // least ≤ n }

def IntFrom.lowest (least : Int) : IntFrom least :=
  ⟨least, Int.le_refl least⟩

/-!
## Validation
-/

/-- The end of a validation that does not return a value: `ValidationError`, or
an exception that passed through it. -/
inductive Fault where
  | invalid
  | raised (e : PyException)
  deriving DecidableEq

/-- What becomes of an exception in a validator of the model. -/
def Fault.ofException (e : PyException) : Fault :=
  if e.isValueError then .invalid else .raised e

abbrev Validated := Except Fault

/-- Two fields of one model. -/
def Validated.both {α β : Type} : Validated α -> Validated β -> Validated (α × β)
  | .ok a, .ok b => .ok (a, b)
  | .ok _, .error fault => .error fault
  | .error (.raised e), _ => .error (.raised e)
  | .error .invalid, .error (.raised e) => .error (.raised e)
  | .error .invalid, _ => .error .invalid

theorem Validated.both_ok {α β : Type} (a : α) (b : β) :
    Validated.both (.ok a) (.ok b) = .ok (a, b) := rfl

theorem Validated.both_eq_ok {α β : Type} {x : Validated α} {y : Validated β}
    {a : α} {b : β} :
    x.both y = .ok (a, b) <-> x = .ok a ∧ y = .ok b := by
  cases x with
  | ok a' =>
      cases y with
      | ok b' => simp [both]
      | error fault => simp [both]
  | error fault =>
      cases fault with
      | raised e => simp [both]
      | invalid =>
          cases y with
          | ok b' => simp [both]
          | error fault' =>
              cases fault' with
              | raised e => simp [both]
              | invalid => simp [both]

/-- A pair of fields lets an exception pass exactly when one of them does; the
first in order wins. -/
theorem Validated.both_eq_raised {α β : Type} {x : Validated α}
    {y : Validated β} {e : PyException} :
    x.both y = .error (.raised e) <->
      x = .error (.raised e) ∨
        ((forall e', x ≠ .error (.raised e')) ∧ y = .error (.raised e)) := by
  cases x with
  | ok a =>
      cases y with
      | ok b => simp [both]
      | error fault => simp [both]
  | error fault =>
      cases fault with
      | raised e' => simp [both]
      | invalid =>
          cases y with
          | ok b => simp [both]
          | error fault' =>
              cases fault' with
              | invalid => simp [both]
              | raised e' => simp [both]

/-- A validator of single values. -/
abbrev Validator (α : Type) := Json -> Validated α

def validStr (rule : StrRule) : Validator (ConStr rule)
  | .str s => if h : rule.Accepts s then .ok ⟨s, h⟩ else .error .invalid
  | _ => .error .invalid

def validInt (least : Int) : Validator (IntFrom least)
  | .int n => if h : least ≤ n then .ok ⟨n, h⟩ else .error .invalid
  | _ => .error .invalid

/-- A `Literal` or an enumeration of strings. -/
def validWord {α : Type} (words : List (String × α)) : Validator α
  | .str s =>
      match words.find? fun word => str word.fst == s with
      | some word => .ok word.snd
      | none => .error .invalid
  | _ => .error .invalid

/-- A required member. -/
def required {α : Type} (members : Members) (name : String)
    (validate : Validator α) : Validated α :=
  match members.get name with
  | some value => validate value
  | none => .error .invalid

/-- A member with a default. -/
def withDefault {α : Type} (members : Members) (name : String) (default : α)
    (validate : Validator α) : Validated α :=
  match members.get name with
  | some value => validate value
  | none => .ok default

/-- `extra="forbid"`. -/
def onlyMembers (members : Members) (names : List String) : Validated Unit :=
  if members.all fun member => names.any fun name => str name == member.fst then
    .ok ()
  else .error .invalid

/-- A model is validated from an object. -/
def validModel {α : Type} (validate : Members -> Validated α) : Validator α
  | .object members => validate members
  | _ => .error .invalid

/-!
## What validators accept
-/

theorem validStr_val {rule : StrRule} (s : ConStr rule) :
    validStr rule (.str s.val) = .ok s := by
  unfold validStr
  exact dif_pos s.property

theorem validStr_eq_ok {rule : StrRule} {s : PyStr} {a : ConStr rule} :
    validStr rule (.str s) = .ok a <-> a.val = s := by
  constructor
  · intro h
    simp only [validStr] at h
    split at h
    · rw [← Except.ok.inj h]
    · cases h
  · intro h
    subst h
    exact validStr_val a

theorem validInt_val {least : Int} (n : IntFrom least) :
    validInt least (.int n.val) = .ok n := by
  unfold validInt
  exact dif_pos n.property

theorem validStr_ok_iff {rule : StrRule} {value : Json} {a : ConStr rule} :
    validStr rule value = .ok a <-> value = .str a.val := by
  constructor
  · intro h
    cases value with
    | str s => rw [validStr_eq_ok.mp h]
    | null => cases h
    | bool b => cases h
    | int n => cases h
    | float x => cases h
    | array items => cases h
    | object members => cases h
  · intro h
    rw [h]
    exact validStr_val a

theorem validInt_ok_iff {least : Int} {value : Json} {n : IntFrom least} :
    validInt least value = .ok n <-> value = .int n.val := by
  constructor
  · intro h
    cases value with
    | int m =>
        simp only [validInt] at h
        split at h
        · rw [← Except.ok.inj h]
        · cases h
    | null => cases h
    | bool b => cases h
    | float x => cases h
    | str s => cases h
    | array items => cases h
    | object members => cases h
  · intro h
    rw [h]
    exact validInt_val n

section Members

variable {α : Type} {members : Members} {name : String} {validate : Validator α}
variable {a : α}

theorem Validated.map_eq_ok {β : Type} {x : Validated α} {f : α -> β} {b : β} :
    x.map f = .ok b <-> exists a, x = .ok a ∧ f a = b := by
  cases x with
  | ok a => simp [Except.map]
  | error fault => simp [Except.map]

theorem required_eq_ok :
    required members name validate = .ok a <->
      exists value, members.get name = some value ∧ validate value = .ok a := by
  unfold required
  cases members.get name with
  | some value => simp
  | none => simp

theorem withDefault_eq_ok {default : α} :
    withDefault members name default validate = .ok a <->
      members.get name = none ∧ a = default ∨
        exists value, members.get name = some value ∧
          validate value = .ok a := by
  unfold withDefault
  cases members.get name with
  | some value => simp
  | none => simp [eq_comm]

theorem onlyMembers_eq_ok {names : List String} {u : Unit} :
    onlyMembers members names = .ok u <-> members.keys ⊆ names.map str := by
  rw [Members.keys_subset_iff]
  unfold onlyMembers
  split
  · rename_i h
    exact iff_of_true rfl h
  · rename_i h
    exact iff_of_false nofun h

theorem validModel_eq_ok {validate : Members -> Validated α} {value : Json} :
    validModel validate value = .ok a <->
      exists members, value = .object members ∧ validate members = .ok a := by
  unfold validModel
  split
  · simp
  · rename_i hobject
    apply iff_of_false nofun
    intro h
    rcases h with ⟨members, heq, _⟩
    exact hobject members heq

end Members

/-!
## What is accepted

Whether a model accepts a document is decided member by member.
-/

section Acceptance

variable {α β : Type} {members : Members} {name : String}

def Accepts (x : Validated α) : Prop :=
  exists a, x = .ok a

theorem accepts_both {x : Validated α} {y : Validated β} :
    Accepts (x.both y) <-> Accepts x ∧ Accepts y := by
  constructor
  · intro h
    rcases h with ⟨⟨a, b⟩, h⟩
    rcases Validated.both_eq_ok.mp h with ⟨hx, hy⟩
    exact ⟨⟨a, hx⟩, ⟨b, hy⟩⟩
  · intro h
    rcases h with ⟨⟨a, hx⟩, ⟨b, hy⟩⟩
    exact ⟨(a, b), Validated.both_eq_ok.mpr ⟨hx, hy⟩⟩

theorem accepts_map {x : Validated α} {f : α -> β} :
    Accepts (x.map f) <-> Accepts x := by
  cases x with
  | ok a => exact iff_of_true ⟨_, rfl⟩ ⟨a, rfl⟩
  | error fault => exact iff_of_false nofun nofun

theorem accepts_bind {x : Validated α} {f : α -> Validated β} :
    Accepts (x >>= f) <-> exists a, x = .ok a ∧ Accepts (f a) := by
  cases x with
  | ok a =>
      constructor
      · intro h
        exact ⟨a, rfl, h⟩
      · intro h
        rcases h with ⟨b, heq, h⟩
        rw [Except.ok.inj heq]
        exact h
  | error fault =>
      apply iff_of_false nofun
      intro h
      rcases h with ⟨_, heq, _⟩
      cases heq

theorem accepts_required {validate : Validator α} :
    Accepts (required members name validate) <->
      exists value, members.get name = some value ∧
        Accepts (validate value) := by
  unfold Accepts
  simp only [required_eq_ok]
  constructor
  · intro h
    rcases h with ⟨a, value, hget, ha⟩
    exact ⟨value, hget, a, ha⟩
  · intro h
    rcases h with ⟨value, hget, a, ha⟩
    exact ⟨a, value, hget, ha⟩

theorem accepts_withDefault {default : α} {validate : Validator α} :
    Accepts (withDefault members name default validate) <->
      forall value, members.get name = some value ->
        Accepts (validate value) := by
  unfold withDefault
  cases members.get name with
  | some value => simp
  | none => exact iff_of_true ⟨default, rfl⟩ nofun

theorem accepts_onlyMembers {names : List String} :
    Accepts (onlyMembers members names) <-> members.keys ⊆ names.map str := by
  unfold Accepts
  simp only [onlyMembers_eq_ok]
  exact exists_const Unit

theorem accepts_validModel {validate : Members -> Validated α} {value : Json} :
    Accepts (validModel validate value) <->
      exists members, value = .object members ∧ Accepts (validate members) := by
  unfold Accepts
  simp only [validModel_eq_ok]
  constructor
  · intro h
    rcases h with ⟨a, members, heq, ha⟩
    exact ⟨members, heq, a, ha⟩
  · intro h
    rcases h with ⟨members, heq, a, ha⟩
    exact ⟨a, members, heq, ha⟩

end Acceptance

/-!
## Validations that raise nothing
-/

section Quiet

def Quiet {α : Type} (x : Validated α) : Prop :=
  forall e, x ≠ .error (.raised e)

theorem quiet_ok {α : Type} (a : α) : Quiet (.ok a) := by
  intro e h
  cases h

theorem quiet_invalid {α : Type} : Quiet (.error .invalid : Validated α) := by
  intro e h
  cases h

theorem quiet_validStr (rule : StrRule) (value : Json) :
    Quiet (validStr rule value) := by
  unfold validStr
  split
  · split
    · exact quiet_ok _
    · exact quiet_invalid
  · exact quiet_invalid

theorem quiet_validInt (least : Int) (value : Json) :
    Quiet (validInt least value) := by
  unfold validInt
  split
  · split
    · exact quiet_ok _
    · exact quiet_invalid
  · exact quiet_invalid

theorem quiet_validWord {α : Type} (words : List (String × α)) (value : Json) :
    Quiet (validWord words value) := by
  unfold validWord
  split
  · split
    · exact quiet_ok _
    · exact quiet_invalid
  · exact quiet_invalid

theorem quiet_onlyMembers (members : Members) (names : List String) :
    Quiet (onlyMembers members names) := by
  unfold onlyMembers
  split
  · exact quiet_ok _
  · exact quiet_invalid

/-- A field that raises nothing is passed over. -/
theorem Quiet.both_raised {α β : Type} {x : Validated α} {y : Validated β}
    {e : PyException} (hx : Quiet x) :
    x.both y = .error (.raised e) <-> y = .error (.raised e) := by
  rw [Validated.both_eq_raised]
  constructor
  · intro h
    rcases h with h | ⟨_, h⟩
    · exact absurd h (hx e)
    · exact h
  · intro h
    exact Or.inr ⟨hx, h⟩

theorem Quiet.raised_both {α β : Type} {x : Validated α} {y : Validated β}
    {e : PyException} (hy : Quiet y) :
    x.both y = .error (.raised e) <-> x = .error (.raised e) := by
  rw [Validated.both_eq_raised]
  constructor
  · intro h
    rcases h with h | ⟨_, h⟩
    · exact h
    · exact absurd h (hy e)
  · intro h
    exact Or.inl h

theorem Quiet.refused_both {α β : Type} {y : Validated β} (hy : Quiet y) :
    Validated.both (.error .invalid : Validated α) y = .error .invalid := by
  cases y with
  | ok b => rfl
  | error fault =>
      cases fault with
      | invalid => rfl
      | raised e => exact absurd rfl (hy e)

theorem Quiet.both_refused {α β : Type} {x : Validated α} (hx : Quiet x) :
    x.both (.error .invalid : Validated β) = .error .invalid := by
  cases x with
  | ok a => rfl
  | error fault =>
      cases fault with
      | invalid => rfl
      | raised e => exact absurd rfl (hx e)

theorem required_refused {α : Type} {members : Members} {name : String}
    {validate : Validator α}
    (h : forall value, validate value = .error .invalid) :
    required members name validate = .error .invalid := by
  unfold required
  split
  · exact h _
  · rfl

theorem Validated.map_raised {α β : Type} {x : Validated α} {f : α -> β}
    {e : PyException} :
    x.map f = .error (.raised e) <-> x = .error (.raised e) := by
  cases x with
  | ok a => simp [Except.map]
  | error fault => simp [Except.map]

end Quiet

/-!
## Validations that raise something
-/

section Raises

variable {α β : Type}

def Raises (x : Validated α) : Prop :=
  exists e, x = .error (.raised e)

theorem Quiet.not_raises {x : Validated α} (h : Quiet x) : ¬ Raises x := by
  intro hraises
  rcases hraises with ⟨e, he⟩
  exact h e he

theorem quiet_iff_not_raises {x : Validated α} : Quiet x <-> ¬ Raises x := by
  constructor
  · exact Quiet.not_raises
  · intro h e he
    exact h ⟨e, he⟩

theorem raises_both {x : Validated α} {y : Validated β} :
    Raises (x.both y) <-> Raises x ∨ Raises y := by
  constructor
  · intro h
    rcases h with ⟨e, he⟩
    rcases Validated.both_eq_raised.mp he with hx | ⟨_, hy⟩
    · exact Or.inl ⟨e, hx⟩
    · exact Or.inr ⟨e, hy⟩
  · intro h
    by_cases hx : Raises x
    · rcases hx with ⟨e, he⟩
      exact ⟨e, Validated.both_eq_raised.mpr (Or.inl he)⟩
    · rcases h with h | ⟨e, he⟩
      · exact absurd h hx
      · have hquiet : Quiet x := fun e' he' => hx ⟨e', he'⟩
        exact ⟨e, Validated.both_eq_raised.mpr (Or.inr ⟨hquiet, he⟩)⟩

theorem raises_map {x : Validated α} {f : α -> β} :
    Raises (x.map f) <-> Raises x := by
  unfold Raises
  simp only [Validated.map_raised]

theorem raises_bind {x : Validated α} {f : α -> Validated β} :
    Raises (x >>= f) <-> Raises x ∨ exists a, x = .ok a ∧ Raises (f a) := by
  cases x with
  | ok a =>
      constructor
      · intro h
        exact Or.inr ⟨a, rfl, h⟩
      · intro h
        rcases h with ⟨e, he⟩ | ⟨a', ha, h⟩
        · cases he
        · cases ha
          exact h
  | error fault =>
      constructor
      · intro h
        rcases h with ⟨e, he⟩
        exact Or.inl ⟨e, congrArg Except.error (Except.error.inj he)⟩
      · intro h
        rcases h with ⟨e, he⟩ | ⟨a, ha, _⟩
        · exact ⟨e, congrArg Except.error (Except.error.inj he)⟩
        · cases ha

theorem raises_required {members : Members} {name : String}
    {validate : Validator α} :
    Raises (required members name validate) <->
      exists value, members.get name = some value ∧ Raises (validate value) := by
  unfold required
  cases members.get name with
  | some value => simp
  | none => exact iff_of_false quiet_invalid.not_raises (by simp)

theorem raises_withDefault {members : Members} {name : String} {default : α}
    {validate : Validator α} :
    Raises (withDefault members name default validate) <->
      exists value, members.get name = some value ∧ Raises (validate value) := by
  unfold withDefault
  cases members.get name with
  | some value => simp
  | none => exact iff_of_false (quiet_ok _).not_raises (by simp)

theorem raises_validModel {validate : Members -> Validated α} {value : Json} :
    Raises (validModel validate value) <->
      exists members, value = .object members ∧ Raises (validate members) := by
  unfold validModel
  split
  · simp
  · rename_i hobject
    apply iff_of_false quiet_invalid.not_raises
    intro h
    rcases h with ⟨members, heq, _⟩
    exact hobject members heq

/-!
What is assembled of validations that raise nothing raises nothing.
-/

theorem quiet_required {members : Members} {name : String}
    {validate : Validator α} (h : forall value, Quiet (validate value)) :
    Quiet (required members name validate) := by
  rw [quiet_iff_not_raises, raises_required]
  intro hraises
  rcases hraises with ⟨value, _, hvalue⟩
  exact (h value).not_raises hvalue

theorem quiet_withDefault {members : Members} {name : String} {default : α}
    {validate : Validator α} (h : forall value, Quiet (validate value)) :
    Quiet (withDefault members name default validate) := by
  rw [quiet_iff_not_raises, raises_withDefault]
  intro hraises
  rcases hraises with ⟨value, _, hvalue⟩
  exact (h value).not_raises hvalue

theorem Quiet.both {x : Validated α} {y : Validated β} (hx : Quiet x)
    (hy : Quiet y) : Quiet (x.both y) := by
  rw [quiet_iff_not_raises, raises_both, not_or]
  exact ⟨hx.not_raises, hy.not_raises⟩

theorem Quiet.map {x : Validated α} {f : α -> β} (hx : Quiet x) :
    Quiet (x.map f) := by
  rw [quiet_iff_not_raises, raises_map]
  exact hx.not_raises

theorem Quiet.bind {x : Validated α} {f : α -> Validated β} (hx : Quiet x)
    (hf : forall a, Quiet (f a)) : Quiet (x >>= f) := by
  rw [quiet_iff_not_raises, raises_bind]
  intro hraises
  rcases hraises with h | ⟨a, _, h⟩
  · exact hx.not_raises h
  · exact (hf a).not_raises h

end Raises

end Pydantic
end EidolonSdk
