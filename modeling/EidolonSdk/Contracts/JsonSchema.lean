import EidolonSdk.Python.JsonEquality

/-!
# Closed JSON Schema documents

The keywords of JSON Schema 2020-12 that the contracts use, each with the type it
comes with; a schema is the check it stands for.  Lengths count code points, an
integer is a number without a fractional part however it is spelled, and
patterns are those of ECMA-262.
-/

namespace EidolonSdk
namespace JsonSchema

open Python

abbrev Schema := Json -> Bool

/-- {lit}`minLength`, {lit}`maxLength` and {lit}`pattern`. -/
structure Text where
  minLength : Nat := 0
  maxLength : Option Nat := none
  pattern : PyStr -> Bool := fun _ => true

def Text.Admits (text : Text) (s : PyStr) : Prop :=
  text.minLength ≤ s.length ∧
    (text.maxLength.all fun most => s.length ≤ most) = true ∧
    text.pattern s = true

instance (text : Text) (s : PyStr) : Decidable (text.Admits s) :=
  inferInstanceAs (Decidable (_ ∧ _))

def string (text : Text) : Schema
  | .str s => decide (text.Admits s)
  | _ => false

/-- {lit}`minimum` and {lit}`maximum`. -/
def integer (minimum : Int) (maximum : Option Int) : Schema := fun value =>
  match value.whole? with
  | some n => decide (minimum ≤ n) && maximum.all fun most => decide (n ≤ most)
  | none => false

def boolean : Schema
  | .bool _ => true
  | _ => false

/-- {lit}`"type": "object"` without any other keyword. -/
def anyObject : Schema
  | .object _ => true
  | _ => false

/-- An {lit}`enum` of strings, or a {lit}`const` that is one. -/
def enum (words : List String) : Schema
  | .str s => words.any fun word => str word == s
  | _ => false

/-- A {lit}`const` that is an integer. -/
def constInteger (n : Int) : Schema := fun value =>
  value.whole? == some n

def array (maxItems : Nat) (items : Schema) : Schema
  | .array values => decide (values.length ≤ maxItems) && values.all items
  | _ => false

structure Property where
  name : String
  schema : Schema
  required : Bool := true

def Property.holds (property : Property) (members : Members) : Bool :=
  match members.get property.name with
  | some value => property.schema value
  | none => !property.required

/-- {lit}`properties` and {lit}`required`, with no additional properties. -/
def object (properties : List Property) : Schema
  | .object members =>
      properties.all (fun property => property.holds members) &&
        members.all fun member =>
          properties.any fun property => str property.name == member.fst
  | _ => false

/-- A character of {lit}`\s` in ECMA-262. -/
def isWhiteSpace (c : CodePoint) : Bool :=
  (0x9 ≤ c.val && c.val ≤ 0xd) || c.val == 0x20 || c.val == 0xa0 ||
    c.val == 0x1680 || (0x2000 ≤ c.val && c.val ≤ 0x200a) || c.val == 0x2028 ||
    c.val == 0x2029 || c.val == 0x202f || c.val == 0x205f || c.val == 0x3000 ||
    c.val == 0xfeff

/-- {lit}`\S`, anywhere in the string. -/
def saysSomething (s : PyStr) : Bool :=
  s.any fun c => !isWhiteSpace c

/-!
## What a schema admits
-/

theorem string_iff {text : Text} {value : Json} :
    string text value = true <-> exists s, value = .str s ∧ text.Admits s := by
  cases value with
  | str s => simp [string]
  | null => exact iff_of_false nofun nofun
  | bool b => exact iff_of_false nofun nofun
  | int n => exact iff_of_false nofun nofun
  | float x => exact iff_of_false nofun nofun
  | array items => exact iff_of_false nofun nofun
  | object members => exact iff_of_false nofun nofun

theorem integer_iff {minimum : Int} {maximum : Option Int} {value : Json} :
    integer minimum maximum value = true <->
      exists n, value.whole? = some n ∧ minimum ≤ n ∧
        forall most, maximum = some most -> n ≤ most := by
  unfold integer
  cases value.whole? with
  | none => simp
  | some n =>
      cases maximum with
      | none => simp
      | some most => simp

theorem enum_iff {words : List String} {value : Json} :
    enum words value = true <->
      exists word, word ∈ words ∧ value = .str (str word) := by
  cases value with
  | str s =>
      simp only [enum, List.any_eq_true, beq_iff_eq, Json.str.injEq]
      constructor
      · intro h
        rcases h with ⟨word, hword, heq⟩
        exact ⟨word, hword, heq.symm⟩
      · intro h
        rcases h with ⟨word, hword, heq⟩
        exact ⟨word, hword, heq.symm⟩
  | null => exact iff_of_false nofun nofun
  | bool b => exact iff_of_false nofun nofun
  | int n => exact iff_of_false nofun nofun
  | float x => exact iff_of_false nofun nofun
  | array items => exact iff_of_false nofun nofun
  | object members => exact iff_of_false nofun nofun

theorem array_iff {maxItems : Nat} {items : Schema} {value : Json} :
    array maxItems items value = true <->
      exists values, value = .array values ∧ values.length ≤ maxItems ∧
        forall item, item ∈ values -> items item = true := by
  cases value with
  | array values => simp [array]
  | null => exact iff_of_false nofun nofun
  | bool b => exact iff_of_false nofun nofun
  | int n => exact iff_of_false nofun nofun
  | float x => exact iff_of_false nofun nofun
  | str s => exact iff_of_false nofun nofun
  | object members => exact iff_of_false nofun nofun

theorem Property.required_iff {name : String} {schema : Schema}
    {members : Members} :
    Property.holds { name, schema } members = true <->
      exists value, members.get name = some value ∧ schema value = true := by
  unfold Property.holds
  cases members.get name with
  | none => simp
  | some value => simp

theorem Property.optional_iff {name : String} {schema : Schema}
    {members : Members} :
    Property.holds { name, schema, required := false } members = true <->
      forall value, members.get name = some value -> schema value = true := by
  unfold Property.holds
  cases members.get name with
  | none => simp
  | some value => simp

theorem object_iff {properties : List Property} {members : Members} :
    object properties (.object members) = true <->
      (forall property, property ∈ properties -> property.holds members = true) ∧
        members.keys ⊆ (properties.map Property.name).map str := by
  rw [Members.keys_subset_iff]
  simp [object, List.any_map, Function.comp_def]

theorem object_is_object {properties : List Property} {value : Json}
    (h : object properties value = true) : exists members, value = .object members := by
  cases value with
  | object members => exact ⟨members, rfl⟩
  | null => cases h
  | bool b => cases h
  | int n => cases h
  | float x => cases h
  | str s => cases h
  | array items => cases h

end JsonSchema
end EidolonSdk
