import EidolonSdk.Python.JsonEquality

/-!
# What a capability schema says

A value conforms to a schema when it has the declared type, equals the declared
constant or one of the declared values, and keeps the rules for its kind, at
every depth.  Where JSON Schema and the executed code part, the difference is
one field of a reading: what equality means, what an integer is, which bounds
count, and whether a rule binds where its type is not declared.
-/

namespace EidolonSdk
namespace Body

open Python

structure Reading where
  equal : Json -> Json -> Prop
  integer : Json -> Prop
  /-- The rules for objects, arrays, strings and numbers bind whatever type the
  schema declares. -/
  unconditional : Prop
  /-- The number a length is compared with. -/
  count : Json -> Option Int
  /-- What is a bound on a number. -/
  bound : Json -> Prop
  found : PyStr -> PyStr -> Prop

/-- The kinds of JSON values. -/
def kind : Json -> String
  | .null => "null"
  | .bool _ => "boolean"
  | .int _ => "number"
  | .float _ => "number"
  | .str _ => "string"
  | .array _ => "array"
  | .object _ => "object"

/-- The declared properties. -/
def declaredProperties (schema : Members) : Members :=
  match schema.getOrNone "properties" with
  | .object properties => properties
  | _ => []

namespace Reading

variable (r : Reading) (schema : Members)

/-!
## The rules of one schema
-/

def TypeFits (value : Json) : Prop :=
  schema.getOrNone "type" = .null ∨
    (schema.getOrNone "type" = .str (str "integer") ∧ r.integer value) ∨
    schema.getOrNone "type" = .str (str (kind value))

def ConstFits (value : Json) : Prop :=
  forall constant, schema.get "const" = some constant -> r.equal value constant

/-- What is no list of values admits no value. -/
def EnumFits (value : Json) : Prop :=
  forall container, schema.get "enum" = some container ->
    exists values, container = .array values ∧
      exists v, v ∈ values ∧ r.equal value v

/-- The rules for values of one type bind. -/
def Binds (name : String) : Prop :=
  r.unconditional ∨ schema.getOrNone "type" = .str (str name)

def LengthFits (least most : String) (length : Nat) : Prop :=
  (forall n, r.count (schema.getOrNone least) = some n -> n ≤ length) ∧
    (forall n, r.count (schema.getOrNone most) = some n -> length ≤ n)

def PatternFits (s : PyStr) : Prop :=
  forall pattern, schema.getOrNone "pattern" = .str pattern -> r.found pattern s

def NumberFits (value : Json) : Prop :=
  (r.bound (schema.getOrNone "minimum") ->
      value.less (schema.getOrNone "minimum") = false) ∧
    (r.bound (schema.getOrNone "maximum") ->
      (schema.getOrNone "maximum").less value = false) ∧
    (r.bound (schema.getOrNone "exclusiveMinimum") ->
      value.atMost (schema.getOrNone "exclusiveMinimum") = false) ∧
    (r.bound (schema.getOrNone "exclusiveMaximum") ->
      (schema.getOrNone "exclusiveMaximum").atMost value = false)

def RequiredFits (members : Members) : Prop :=
  forall names : List PyStr,
    schema.getOrNone "required" = .array (names.map .str) ->
    forall name, name ∈ names -> name ∈ members.keys

def AdditionalFits (members : Members) : Prop :=
  schema.getOrNone "additionalProperties" = .bool false ->
    forall key, key ∈ members.keys -> key ∈ (declaredProperties schema).keys

/-- All rules but those about the parts of the value. -/
structure Fits (value : Json) : Prop where
  type : r.TypeFits schema value
  const : r.ConstFits schema value
  enum : r.EnumFits schema value
  object : r.Binds schema "object" -> forall members, value = .object members ->
    RequiredFits schema members ∧ AdditionalFits schema members
  array : r.Binds schema "array" -> forall items, value = .array items ->
    r.LengthFits schema "minItems" "maxItems" items.length
  string : r.Binds schema "string" -> forall s, value = .str s ->
    r.LengthFits schema "minLength" "maxLength" s.length ∧
      r.PatternFits schema s
  number : r.Binds schema "integer" ∨ r.Binds schema "number" ->
    value.isNumber = true -> r.NumberFits schema value

end Reading

/-!
## Conforming values
-/

inductive Conforms (r : Reading) : Json -> Json -> Prop where
  | mk {schema : Members} {value : Json} : r.Fits schema value ->
      (forall members name child v, r.Binds schema "object" ->
        value = .object members -> (name, child) ∈ declaredProperties schema ->
        members.lookup name = some v -> Conforms r child v) ->
      (forall items v, r.Binds schema "array" -> value = .array items ->
        schema.getOrNone "items" ≠ .null -> v ∈ items ->
        Conforms r (schema.getOrNone "items") v) ->
      Conforms r (.object schema) value

/-!
## Two readings
-/

/-- The schemas below a schema, each with a part of the value it speaks of. -/
inductive Meets : Json -> Json -> Members -> Json -> Prop where
  | here {schema : Members} {value : Json} :
      Meets (.object schema) value schema value
  | property {schema members sub : Members} {name : PyStr} {child v w : Json} :
      (name, child) ∈ declaredProperties schema ->
      members.lookup name = some v -> Meets child v sub w ->
      Meets (.object schema) (.object members) sub w
  | item {schema sub : Members} {items : List Json} {v w : Json} :
      schema.getOrNone "items" ≠ .null -> v ∈ items ->
      Meets (schema.getOrNone "items") v sub w ->
      Meets (.object schema) (.array items) sub w

/-- The schema speaks of the parts of the value. -/
def SpeaksOfParts (schema : Members) : Json -> Prop
  | .object _ => declaredProperties schema ≠ []
  | .array _ => schema.getOrNone "items" ≠ .null
  | _ => False

/-- A reading can be exchanged for another one that is no stricter wherever a
schema meets a part of the value. -/
theorem Conforms.reread {r r' : Reading} {schema value : Json}
    (h : Conforms r schema value)
    (hfits : forall sub w, Meets schema value sub w -> r.Fits sub w ->
      r'.Fits sub w)
    (hbinds : forall sub w, Meets schema value sub w -> r.Fits sub w ->
      SpeaksOfParts sub w -> r'.Binds sub (kind w) -> r.Binds sub (kind w)) :
    Conforms r' schema value := by
  induction h with
  | @mk schema value fits _ _ ihproperty ihitem =>
      refine Conforms.mk (hfits schema value Meets.here fits) ?_ ?_
      · intro members name child v hbind hvalue hmem hlookup
        subst hvalue
        have hbind' := hbinds schema (.object members) Meets.here fits
          (List.ne_nil_of_mem hmem) hbind
        exact ihproperty members name child v hbind' rfl hmem hlookup
          (fun sub w h => hfits sub w (Meets.property hmem hlookup h))
          (fun sub w h => hbinds sub w (Meets.property hmem hlookup h))
      · intro items v hbind hvalue hnull hv
        subst hvalue
        have hbind' := hbinds schema (.array items) Meets.here fits hnull hbind
        exact ihitem items v hbind' rfl hnull hv
          (fun sub w h => hfits sub w (Meets.item hnull hv h))
          (fun sub w h => hbinds sub w (Meets.item hnull hv h))

theorem Meets.isJson {schema value : Json} {sub : Members} {w : Json}
    (h : Meets schema value sub w) (hschema : Json.IsJson schema)
    (hvalue : Json.IsJson value) :
    Json.IsJson (.object sub) ∧ Json.IsJson w := by
  induction h with
  | here => exact ⟨hschema, hvalue⟩
  | @property schema members sub name child v w hmem hlookup _ ih =>
      apply ih
      · unfold declaredProperties at hmem
        split at hmem
        · rename_i properties heq
          have hproperties := Json.all_getOrNone hschema heq nofun
          exact Json.IsJson.member hproperties hmem
        · cases hmem
      · exact hvalue.lookup hlookup
  | item hnull hv _ ih =>
      exact ih (Json.all_getOrNone hschema rfl hnull) (hvalue.item hv)

end Body
end EidolonSdk
