import Mathlib.Data.List.Lex
import EidolonSdk.Logic.Guards
import EidolonSdk.Logic.SortedBy
import EidolonSdk.Python.JsonEquality
import EidolonSdk.Python.Utf8

/-!
# The capability schema gate

A device declares the arguments and the result of each capability by a small
part of JSON Schema.  The gate walks the declared schema once and refuses what
the platform does not execute.  The only exception that is not a refusal comes
from looking up a {lit}`type` that cannot be hashed, and it is known for which
schemas the gate gets there.
-/

namespace EidolonSdk
namespace Body

open Python Logic

def maxCapabilitySchemaBytes : Nat := 16 * 1024

def maxSchemaDepth : Nat := 8

def maxSchemaProperties : Nat := 64

def maxSchemaEnumValues : Nat := 64

def jsonTypes : List String :=
  ["object", "array", "string", "integer", "number", "boolean", "null"]

def schemaKeys : List String :=
  ["type", "description", "properties", "required", "additionalProperties",
    "items", "enum", "const", "minimum", "maximum", "exclusiveMinimum",
    "exclusiveMaximum", "minLength", "maxLength", "minItems", "maxItems",
    "pattern", "format", "default"]

/-- The end of a function that does not run to its last line: a refusal with
its text, or any other exception. -/
inductive Stop where
  | refused (text : PyStr)
  | raised (e : PyException)

def Stop.IsRaised : Stop -> Prop
  | .refused _ => False
  | .raised _ => True

def refuse (text : PyStr) : Except Stop Unit :=
  throw (.refused text)

def refuseIf (c : Prop) [Decidable c] (text : PyStr) : Except Stop Unit :=
  if c then refuse text else pure ()

/-- An exception of the standard library, uncaught. -/
def uncaught {α : Type} (x : Except PyException α) : Except Stop α :=
  x.mapError .raised

/-- `value == word`. -/
def isWord (value : Json) (word : String) : Bool :=
  match value with
  | .str s => s == str word
  | _ => false

/-!
## One keyword at a time
-/

section Keywords

variable (I : Interpreter) (path : PyStr)

def knownKeywords (schema : Members) : Except Stop Unit :=
  let unknown := sortedBy id
    (schema.keys.filter fun key => !schemaKeys.any fun known => str known == key)
  refuseIf (unknown ≠ [])
    (path ++ str " uses unsupported JSON Schema keywords: " ++
      (str ", ").intercalate unknown)

/-- `expected not in _JSON_TYPES` hashes what it looks up. -/
def typeKeyword : Json -> Except Stop Unit
  | .null => pure ()
  | expected =>
      match expected.hashKey with
      | none => throw (.raised .typeError)
      | some key =>
          if jsonTypes.any fun name => decide (key = .text (str name)) then
            pure ()
          else
            refuse (path ++ str ".type is unsupported: " ++ expected.repr I)

def descriptionKeyword : Json -> Except Stop Unit
  | .null => pure ()
  | .str s =>
      refuseIf (256 < s.length)
        (path ++ str ".description must be a string of at most 256 characters")
  | _ =>
      refuse
        (path ++ str ".description must be a string of at most 256 characters")

def enumKeyword : Json -> Except Stop Unit
  | .null => pure ()
  | .array values => do
      refuseIf (values = []) (path ++ str ".enum must be a non-empty array")
      refuseIf (maxSchemaEnumValues < values.length)
        (path ++ str ".enum exceeds 64 values")
  | _ => refuse (path ++ str ".enum must be a non-empty array")

/-- `node` checks the schema of one property. -/
def propertiesKeyword (node : PyStr -> Json -> Except Stop Unit)
    (expected : Json) : Json -> Except Stop Unit
  | .null => pure ()
  | .object properties => do
      refuseIf (isWord expected "object" = false)
        (path ++ str ".properties requires type=object")
      refuseIf (maxSchemaProperties < properties.length)
        (path ++ str ".properties exceeds 64 entries")
      properties.forM fun (name, child) => do
        refuseIf (name = [] ∨ 128 < name.length)
          (path ++ str ".properties contains an invalid name")
        node (path ++ str ".properties." ++ name) child
  | _ => refuse (path ++ str ".properties requires type=object")

/-- The items, when all of them are strings. -/
def strings? : List Json -> Option (List PyStr)
  | [] => some []
  | .str s :: rest => (strings? rest).map fun names => s :: names
  | _ :: _ => none

/-- `set(names).issubset(properties)`; `None` has no members. -/
def declaredIn (names : List PyStr) : Json -> Bool
  | .object properties =>
      names.all fun name => (Members.keys properties).contains name
  | _ => false

def requiredKeyword (properties : Json) : Json -> Except Stop Unit
  | .null => pure ()
  | .array items =>
      match strings? items with
      | none => refuse (path ++ str ".required must be an array of strings")
      | some names => do
          refuseIf (¬ names.Nodup) (path ++ str ".required contains duplicates")
          refuseIf (declaredIn names properties = false)
            (path ++ str ".required must reference declared properties")
  | _ => refuse (path ++ str ".required must be an array of strings")

def additionalKeyword : Json -> Except Stop Unit
  | .null => pure ()
  | .bool _ => pure ()
  | _ => refuse (path ++ str ".additionalProperties must be boolean")

def itemsKeyword (node : PyStr -> Json -> Except Stop Unit) (expected : Json) :
    Json -> Except Stop Unit
  | .null => pure ()
  | items => do
      refuseIf (isWord expected "array" = false)
        (path ++ str ".items requires type=array")
      node (path ++ str ".items") items

end Keywords

/-!
## The walk
-/

section Walk

variable (I : Interpreter)

/-- One schema object; `node` checks the schemas below it. -/
def schemaKeywords (node : PyStr -> Json -> Except Stop Unit) (path : PyStr)
    (schema : Members) : Except Stop Unit := do
  let expected := schema.getOrNone "type"
  let properties := schema.getOrNone "properties"
  knownKeywords path schema
  typeKeyword I path expected
  descriptionKeyword path (schema.getOrNone "description")
  enumKeyword path (schema.getOrNone "enum")
  propertiesKeyword path node expected properties
  requiredKeyword path properties (schema.getOrNone "required")
  additionalKeyword path (schema.getOrNone "additionalProperties")
  itemsKeyword path node expected (schema.getOrNone "items")

/-- The first argument is how many levels are left:
`MAX_SCHEMA_DEPTH + 1 - depth`. -/
def validateSchemaNode : Nat -> PyStr -> Json -> Except Stop Unit
  | 0, path, .object _ =>
      refuse (path ++ str " exceeds maximum schema depth 8")
  | left + 1, path, .object schema =>
      schemaKeywords I (validateSchemaNode left) path schema
  | _, path, _ => refuse (path ++ str " must be an object")

def validateSchema (field : String) (requireObject : Bool) (schema : Members) :
    Except Stop Unit :=
  match (Json.object schema).dumps I with
  | .error _ => refuse (str field ++ str " must be JSON serializable")
  | .ok text =>
      match encodeUtf8 text with
      | none => refuse (str field ++ str " must be JSON serializable")
      | some encoded => do
          refuseIf (maxCapabilitySchemaBytes < encoded.length)
            (str field ++ str " exceeds 16384 bytes")
          refuseIf (requireObject = true ∧
              isWord (schema.getOrNone "type") "object" = false)
            (str field ++ str " root type must be object")
          validateSchemaNode I (maxSchemaDepth + 1) (str field) (.object schema)

end Walk

/-!
## Accepted and escaping schemas
-/

section Specification

def KeywordsKnown (schema : Members) : Prop :=
  forall key, key ∈ schema.keys -> exists known, known ∈ schemaKeys ∧ key = str known

def TypeAccepted (expected : Json) : Prop :=
  expected = .null ∨ exists name, name ∈ jsonTypes ∧ expected = .str (str name)

/-- An array or an object. -/
def Unhashable (v : Json) : Prop :=
  v.hashKey = none

def DescriptionAccepted (v : Json) : Prop :=
  v = .null ∨ exists s, v = .str s ∧ s.length ≤ 256

def EnumAccepted (v : Json) : Prop :=
  v = .null ∨ exists values, v = .array values ∧ values ≠ [] ∧
    values.length ≤ maxSchemaEnumValues

def NameAccepted (name : PyStr) : Prop :=
  name ≠ [] ∧ name.length ≤ 128

def RequiredAccepted (properties v : Json) : Prop :=
  v = .null ∨ exists (names : List PyStr) (members : Members),
    v = .array (names.map .str) ∧ names.Nodup ∧
      properties = .object members ∧
      forall name, name ∈ names -> name ∈ members.keys

def AdditionalAccepted (v : Json) : Prop :=
  v = .null ∨ exists b, v = .bool b

variable (escapes accepts : Json -> Prop)

def PropertiesAccepted (expected v : Json) : Prop :=
  v = .null ∨ exists members, v = .object members ∧
    expected = .str (str "object") ∧ members.length ≤ maxSchemaProperties ∧
    forall m, m ∈ members -> NameAccepted m.fst ∧ accepts m.snd

def PropertiesEscape (expected v : Json) : Prop :=
  exists members, v = .object members ∧ expected = .str (str "object") ∧
    members.length ≤ maxSchemaProperties ∧
    Stops (fun m => NameAccepted m.fst ∧ escapes m.snd)
      (fun m => NameAccepted m.fst ∧ accepts m.snd) members

def ItemsAccepted (expected v : Json) : Prop :=
  v = .null ∨ expected = .str (str "array") ∧ accepts v

def ItemsEscape (expected v : Json) : Prop :=
  v ≠ .null ∧ expected = .str (str "array") ∧ escapes v

structure SchemaAccepted (schema : Members) : Prop where
  keywords : KeywordsKnown schema
  type : TypeAccepted (schema.getOrNone "type")
  description : DescriptionAccepted (schema.getOrNone "description")
  enum : EnumAccepted (schema.getOrNone "enum")
  properties : PropertiesAccepted accepts (schema.getOrNone "type")
    (schema.getOrNone "properties")
  required : RequiredAccepted (schema.getOrNone "properties")
    (schema.getOrNone "required")
  additional : AdditionalAccepted (schema.getOrNone "additionalProperties")
  items : ItemsAccepted accepts (schema.getOrNone "type")
    (schema.getOrNone "items")

/-- The type cannot be looked up, or a schema below escapes once everything
before it is accepted. -/
def SchemaEscapes (schema : Members) : Prop :=
  KeywordsKnown schema ∧
    (Unhashable (schema.getOrNone "type") ∨
      TypeAccepted (schema.getOrNone "type") ∧
        DescriptionAccepted (schema.getOrNone "description") ∧
        EnumAccepted (schema.getOrNone "enum") ∧
        (PropertiesEscape escapes accepts (schema.getOrNone "type")
            (schema.getOrNone "properties") ∨
          PropertiesAccepted accepts (schema.getOrNone "type")
              (schema.getOrNone "properties") ∧
            RequiredAccepted (schema.getOrNone "properties")
              (schema.getOrNone "required") ∧
            AdditionalAccepted (schema.getOrNone "additionalProperties") ∧
            ItemsEscape escapes (schema.getOrNone "type")
              (schema.getOrNone "items")))

end Specification

/-- Accepted with so many levels left. -/
def NodeAccepted : Nat -> Json -> Prop
  | left + 1, .object schema => SchemaAccepted (NodeAccepted left) schema
  | _, _ => False

def NodeEscapes : Nat -> Json -> Prop
  | left + 1, .object schema =>
      SchemaEscapes (NodeEscapes left) (NodeAccepted left) schema
  | _, _ => False

/-- `json.dumps` and UTF-8 can carry the schema, within the size limit. -/
def Serializable (I : Interpreter) (schema : Members) : Prop :=
  exists text encoded, (Json.object schema).dumps I = .ok text ∧
    encodeUtf8 text = some encoded ∧
    encoded.length ≤ maxCapabilitySchemaBytes

def RootTyped (requireObject : Bool) (schema : Members) : Prop :=
  requireObject = true -> schema.getOrNone "type" = .str (str "object")

structure RootAccepted (I : Interpreter) (requireObject : Bool)
    (schema : Members) : Prop where
  serializable : Serializable I schema
  typed : RootTyped requireObject schema
  node : NodeAccepted (maxSchemaDepth + 1) (.object schema)

structure RootEscapes (I : Interpreter) (requireObject : Bool)
    (schema : Members) : Prop where
  serializable : Serializable I schema
  typed : RootTyped requireObject schema
  node : NodeEscapes (maxSchemaDepth + 1) (.object schema)

/-!
## One guard for each keyword
-/

section Guards

variable (I : Interpreter) (path : PyStr)

theorem refused_not_raised (text : PyStr) : ¬ (Stop.refused text).IsRaised :=
  id

theorem isWord_iff {v : Json} {word : String} :
    isWord v word = true <-> v = .str (str word) := by
  cases v with
  | str s => simp [isWord]
  | null => simp [isWord]
  | bool b => simp [isWord]
  | int n => simp [isWord]
  | float x => simp [isWord]
  | array items => simp [isWord]
  | object members => simp [isWord]

theorem isWord_false_iff {v : Json} {word : String} :
    ¬ isWord v word = false <-> v = .str (str word) := by
  rw [Bool.not_eq_false, isWord_iff]

theorem guard_refused {passes : Prop} (text : PyStr) (h : ¬ passes) :
    Guard (refuse text) Stop.IsRaised False passes :=
  (guard_throw (Stop.refused text)).iff Iff.rfl (iff_of_false id h)

theorem guard_refuseIf (c : Prop) [Decidable c] (text : PyStr) :
    Guard (refuseIf c text) Stop.IsRaised False (¬ c) :=
  guard_refuse (refused_not_raised text)

theorem known_iff {key : PyStr} :
    ¬ (!schemaKeys.any fun known => str known == key) = true <->
      exists known, known ∈ schemaKeys ∧ key = str known := by
  rw [Bool.not_eq_true', Bool.not_eq_false, List.any_eq_true]
  simp only [beq_iff_eq, eq_comm (a := key)]

theorem guard_knownKeywords (schema : Members) :
    Guard (knownKeywords path schema) Stop.IsRaised False
      (KeywordsKnown schema) := by
  apply (guard_refuseIf _ _).iff Iff.rfl
  rw [not_not, ← List.length_eq_zero_iff, (sortedBy_perm id _).length_eq,
    List.length_eq_zero_iff, List.filter_eq_nil_iff]
  simp only [known_iff, KeywordsKnown]

theorem guard_word (v : Json) (word : String) (text : PyStr) :
    Guard (refuseIf (isWord v word = false) text) Stop.IsRaised False
      (v = .str (str word)) :=
  (guard_refuseIf _ _).iff Iff.rfl isWord_false_iff

theorem guard_typeKeyword (expected : Json) :
    Guard (typeKeyword I path expected) Stop.IsRaised (Unhashable expected)
      (TypeAccepted expected) := by
  have hscalar : forall key, expected.hashKey = some key -> expected ≠ .null ->
      Guard (if jsonTypes.any fun name => decide (key = .text (str name)) then
            pure ()
          else
            refuse (path ++ str ".type is unsupported: " ++ expected.repr I))
        Stop.IsRaised (Unhashable expected) (TypeAccepted expected) := by
    intro key hkey hnull
    apply (guard_accept (refused_not_raised _)).iff
    · simp [Unhashable, hkey]
    · simp only [List.any_eq_true, decide_eq_true_eq, TypeAccepted, hnull,
        false_or]
      constructor
      · intro h
        rcases h with ⟨name, hname, heq⟩
        subst heq
        exact ⟨name, hname, Json.hashKey_eq_text hkey⟩
      · intro h
        rcases h with ⟨name, hname, heq⟩
        rw [heq] at hkey
        exact ⟨name, hname, (Option.some.inj hkey).symm⟩
  have hunhashable : expected.hashKey = none -> expected ≠ .null ->
      Guard (throw (Stop.raised .typeError)) Stop.IsRaised (Unhashable expected)
        (TypeAccepted expected) := by
    intro hkey hnull
    apply (guard_throw (Stop.raised .typeError)).iff
    · exact iff_of_true trivial hkey
    · apply iff_of_false id
      intro h
      rcases h with h | ⟨name, _, heq⟩
      · exact hnull h
      · rw [heq] at hkey
        cases hkey
  cases expected with
  | null =>
      exact guard_pure.iff (iff_of_false id nofun)
        (iff_of_true trivial (Or.inl rfl))
  | bool b => exact hscalar _ rfl nofun
  | int n => exact hscalar _ rfl nofun
  | float x =>
      cases x with
      | finite negative magnitude representable => exact hscalar _ rfl nofun
      | infinite negative => exact hscalar _ rfl nofun
      | nan => exact hscalar _ rfl nofun
  | str s => exact hscalar _ rfl nofun
  | array items => exact hunhashable rfl nofun
  | object members => exact hunhashable rfl nofun

theorem guard_descriptionKeyword (v : Json) :
    Guard (descriptionKeyword path v) Stop.IsRaised False
      (DescriptionAccepted v) := by
  cases v with
  | null => exact guard_pure.iff Iff.rfl (iff_of_true trivial (Or.inl rfl))
  | str s =>
      apply (guard_refuseIf _ _).iff Iff.rfl
      simp [DescriptionAccepted]
  | bool b => exact guard_refused _ (by simp [DescriptionAccepted])
  | int n => exact guard_refused _ (by simp [DescriptionAccepted])
  | float x => exact guard_refused _ (by simp [DescriptionAccepted])
  | array items => exact guard_refused _ (by simp [DescriptionAccepted])
  | object members => exact guard_refused _ (by simp [DescriptionAccepted])

theorem guard_enumKeyword (v : Json) :
    Guard (enumKeyword path v) Stop.IsRaised False (EnumAccepted v) := by
  cases v with
  | null => exact guard_pure.iff Iff.rfl (iff_of_true trivial (Or.inl rfl))
  | array values =>
      apply ((guard_refuseIf _ _).andThen fun _ => guard_refuseIf _ _).iff
      · simp
      · simp [EnumAccepted]
  | bool b => exact guard_refused _ (by simp [EnumAccepted])
  | int n => exact guard_refused _ (by simp [EnumAccepted])
  | float x => exact guard_refused _ (by simp [EnumAccepted])
  | str s => exact guard_refused _ (by simp [EnumAccepted])
  | object members => exact guard_refused _ (by simp [EnumAccepted])

theorem guard_additionalKeyword (v : Json) :
    Guard (additionalKeyword path v) Stop.IsRaised False
      (AdditionalAccepted v) := by
  cases v with
  | null => exact guard_pure.iff Iff.rfl (iff_of_true trivial (Or.inl rfl))
  | bool b => exact guard_pure.iff Iff.rfl (iff_of_true trivial (Or.inr ⟨b, rfl⟩))
  | int n => exact guard_refused _ (by simp [AdditionalAccepted])
  | float x => exact guard_refused _ (by simp [AdditionalAccepted])
  | str s => exact guard_refused _ (by simp [AdditionalAccepted])
  | array items => exact guard_refused _ (by simp [AdditionalAccepted])
  | object members => exact guard_refused _ (by simp [AdditionalAccepted])

theorem strings?_eq_some {items : List Json} {names : List PyStr} :
    strings? items = some names <-> items = names.map .str := by
  induction items generalizing names with
  | nil =>
      cases names with
      | nil => simp [strings?]
      | cons name names => simp [strings?]
  | cons item rest ih =>
      cases item with
      | str s =>
          cases names with
          | nil => simp [strings?]
          | cons name names => simp [strings?, ih, and_comm]
      | null => cases names <;> simp [strings?]
      | bool b => cases names <;> simp [strings?]
      | int n => cases names <;> simp [strings?]
      | float x => cases names <;> simp [strings?]
      | array items => cases names <;> simp [strings?]
      | object members => cases names <;> simp [strings?]

theorem declaredIn_iff {names : List PyStr} {properties : Json} :
    ¬ declaredIn names properties = false <->
      exists members, properties = .object members ∧
        forall name, name ∈ names -> name ∈ members.map Prod.fst := by
  cases properties with
  | object members => simp [declaredIn, Members.keys]
  | null => simp [declaredIn]
  | bool b => simp [declaredIn]
  | int n => simp [declaredIn]
  | float x => simp [declaredIn]
  | str s => simp [declaredIn]
  | array items => simp [declaredIn]

theorem guard_requiredKeyword (properties v : Json) :
    Guard (requiredKeyword path properties v) Stop.IsRaised False
      (RequiredAccepted properties v) := by
  cases v with
  | null => exact guard_pure.iff Iff.rfl (iff_of_true trivial (Or.inl rfl))
  | array items =>
      simp only [requiredKeyword]
      cases hnames : strings? items with
      | none =>
          apply guard_refused
          intro h
          rcases h with h | ⟨names, members, hitems, _⟩
          · cases h
          · rw [strings?_eq_some.mpr (Json.array.inj hitems)] at hnames
            cases hnames
      | some names =>
          have hitems := strings?_eq_some.mp hnames
          apply ((guard_refuseIf _ _).andThen fun _ => guard_refuseIf _ _).iff
          · simp
          · rw [not_not, declaredIn_iff]
            constructor
            · intro h
              rcases h with ⟨hnodup, members, hmembers, hall⟩
              exact Or.inr ⟨names, members, by rw [hitems], hnodup, hmembers,
                hall⟩
            · intro h
              rcases h with h | ⟨names', members, hitems', hnodup, hmembers,
                hall⟩
              · cases h
              · rw [strings?_eq_some.mpr (Json.array.inj hitems')] at hnames
                cases Option.some.inj hnames
                exact ⟨hnodup, members, hmembers, hall⟩
  | bool b => exact guard_refused _ (by simp [RequiredAccepted])
  | int n => exact guard_refused _ (by simp [RequiredAccepted])
  | float x => exact guard_refused _ (by simp [RequiredAccepted])
  | str s => exact guard_refused _ (by simp [RequiredAccepted])
  | object members => exact guard_refused _ (by simp [RequiredAccepted])

variable {escapes accepts : Json -> Prop}
variable {node : PyStr -> Json -> Except Stop Unit}

theorem guard_propertiesKeyword (expected v : Json)
    (hnode : forall path child,
      Guard (node path child) Stop.IsRaised (escapes child) (accepts child)) :
    Guard (propertiesKeyword path node expected v) Stop.IsRaised
      (PropertiesEscape escapes accepts expected v)
      (PropertiesAccepted accepts expected v) := by
  cases v with
  | null =>
      exact guard_pure.iff (by simp [PropertiesEscape])
        (iff_of_true trivial (Or.inl rfl))
  | object properties =>
      have hbody : forall m, m ∈ properties ->
          Guard (do
              refuseIf (m.fst = [] ∨ 128 < m.fst.length)
                (path ++ str ".properties contains an invalid name")
              node (path ++ str ".properties." ++ m.fst) m.snd)
            Stop.IsRaised (NameAccepted m.fst ∧ escapes m.snd)
            (NameAccepted m.fst ∧ accepts m.snd) := by
        intro m _
        apply ((guard_refuseIf _ _).andThen fun _ => hnode _ m.snd).iff
        · simp [NameAccepted]
        · simp [NameAccepted]
      apply ((guard_word _ _ _).andThen fun _ =>
        (guard_refuseIf _ _).andThen fun _ => guard_forM hbody).iff
      · simp [PropertiesEscape]
      · simp [PropertiesAccepted]
  | bool b =>
      exact (guard_refused _ (by simp [PropertiesAccepted])).iff
        (by simp [PropertiesEscape]) Iff.rfl
  | int n =>
      exact (guard_refused _ (by simp [PropertiesAccepted])).iff
        (by simp [PropertiesEscape]) Iff.rfl
  | float x =>
      exact (guard_refused _ (by simp [PropertiesAccepted])).iff
        (by simp [PropertiesEscape]) Iff.rfl
  | str s =>
      exact (guard_refused _ (by simp [PropertiesAccepted])).iff
        (by simp [PropertiesEscape]) Iff.rfl
  | array items =>
      exact (guard_refused _ (by simp [PropertiesAccepted])).iff
        (by simp [PropertiesEscape]) Iff.rfl

theorem guard_itemsKeyword (expected v : Json)
    (hnode : forall path child,
      Guard (node path child) Stop.IsRaised (escapes child) (accepts child)) :
    Guard (itemsKeyword path node expected v) Stop.IsRaised
      (ItemsEscape escapes expected v) (ItemsAccepted accepts expected v) := by
  have hchild : v ≠ .null ->
      Guard (do
          refuseIf (isWord expected "array" = false)
            (path ++ str ".items requires type=array")
          node (path ++ str ".items") v)
        Stop.IsRaised (ItemsEscape escapes expected v)
        (ItemsAccepted accepts expected v) := by
    intro hnull
    apply ((guard_word _ _ _).andThen fun _ => hnode _ v).iff
    · simp [ItemsEscape, hnull]
    · simp [ItemsAccepted, hnull]
  cases v with
  | null =>
      exact guard_pure.iff (by simp [ItemsEscape])
        (iff_of_true trivial (Or.inl rfl))
  | bool b => exact hchild nofun
  | int n => exact hchild nofun
  | float x => exact hchild nofun
  | str s => exact hchild nofun
  | array items => exact hchild nofun
  | object members => exact hchild nofun

/-!
## The whole walk
-/

theorem schemaAccepted_iff {schema : Members} :
    SchemaAccepted accepts schema <->
      KeywordsKnown schema ∧ TypeAccepted (schema.getOrNone "type") ∧
        DescriptionAccepted (schema.getOrNone "description") ∧
        EnumAccepted (schema.getOrNone "enum") ∧
        PropertiesAccepted accepts (schema.getOrNone "type")
          (schema.getOrNone "properties") ∧
        RequiredAccepted (schema.getOrNone "properties")
          (schema.getOrNone "required") ∧
        AdditionalAccepted (schema.getOrNone "additionalProperties") ∧
        ItemsAccepted accepts (schema.getOrNone "type")
          (schema.getOrNone "items") := by
  constructor
  · intro h
    exact ⟨h.keywords, h.type, h.description, h.enum, h.properties, h.required,
      h.additional, h.items⟩
  · intro h
    rcases h with ⟨hkeywords, htype, hdescription, henum, hproperties, hrequired,
      hadditional, hitems⟩
    exact ⟨hkeywords, htype, hdescription, henum, hproperties, hrequired,
      hadditional, hitems⟩

theorem guard_schemaKeywords (schema : Members)
    (hnode : forall path child,
      Guard (node path child) Stop.IsRaised (escapes child) (accepts child)) :
    Guard (schemaKeywords I node path schema) Stop.IsRaised
      (SchemaEscapes escapes accepts schema) (SchemaAccepted accepts schema) := by
  apply ((guard_knownKeywords path schema).andThen fun _ =>
    (guard_typeKeyword I path _).andThen fun _ =>
    (guard_descriptionKeyword path _).andThen fun _ =>
    (guard_enumKeyword path _).andThen fun _ =>
    (guard_propertiesKeyword path _ _ hnode).andThen fun _ =>
    (guard_requiredKeyword path _ _).andThen fun _ =>
    (guard_additionalKeyword path _).andThen fun _ =>
    guard_itemsKeyword path _ _ hnode).iff
  · simp only [SchemaEscapes, false_or]
  · exact schemaAccepted_iff.symm

theorem guard_validateSchemaNode (left : Nat) (path : PyStr) (v : Json) :
    Guard (validateSchemaNode I left path v) Stop.IsRaised (NodeEscapes left v)
      (NodeAccepted left v) := by
  induction left generalizing path v with
  | zero =>
      cases v with
      | object schema => exact guard_refused _ id
      | null => exact guard_refused _ id
      | bool b => exact guard_refused _ id
      | int n => exact guard_refused _ id
      | float x => exact guard_refused _ id
      | str s => exact guard_refused _ id
      | array items => exact guard_refused _ id
  | succ left ih =>
      cases v with
      | object schema => exact guard_schemaKeywords I path schema ih
      | null => exact guard_refused _ id
      | bool b => exact guard_refused _ id
      | int n => exact guard_refused _ id
      | float x => exact guard_refused _ id
      | str s => exact guard_refused _ id
      | array items => exact guard_refused _ id

theorem guard_validateSchema (field : String) (requireObject : Bool)
    (schema : Members) :
    Guard (validateSchema I field requireObject schema) Stop.IsRaised
      (RootEscapes I requireObject schema)
      (RootAccepted I requireObject schema) := by
  have hfail : ¬ Serializable I schema ->
      Guard (refuse (str field ++ str " must be JSON serializable"))
        Stop.IsRaised (RootEscapes I requireObject schema)
        (RootAccepted I requireObject schema) := by
    intro h
    exact (guard_refused _ fun haccepted => h haccepted.serializable).iff
      (iff_of_false id fun hescapes => h hescapes.serializable) Iff.rfl
  unfold validateSchema
  cases htext : (Json.object schema).dumps I with
  | error e =>
      apply hfail
      intro h
      rcases h with ⟨text, encoded, htext', _⟩
      rw [htext] at htext'
      cases htext'
  | ok text =>
      cases hencoded : encodeUtf8 text with
      | none =>
          simp only [hencoded]
          apply hfail
          intro h
          rcases h with ⟨text', encoded, htext', hencoded', _⟩
          rw [htext] at htext'
          cases htext'
          rw [hencoded] at hencoded'
          cases hencoded'
      | some encoded =>
          simp only [hencoded]
          have hserializable : ¬ maxCapabilitySchemaBytes < encoded.length <->
              Serializable I schema := by
            simp [Serializable, htext, hencoded]
          have htyped : ¬ (requireObject = true ∧
                isWord (schema.getOrNone "type") "object" = false) <->
              RootTyped requireObject schema := by
            rw [not_and, isWord_false_iff]
            exact Iff.rfl
          apply ((guard_refuseIf _ _).andThen fun _ =>
            (guard_refuseIf _ _).andThen fun _ =>
            guard_validateSchemaNode I (maxSchemaDepth + 1) (str field)
              (.object schema)).iff
          · rw [hserializable, htyped, false_or, false_or]
            constructor
            · intro h
              exact ⟨h.left, h.right.left, h.right.right⟩
            · intro h
              exact ⟨h.serializable, h.typed, h.node⟩
          · rw [hserializable, htyped]
            constructor
            · intro h
              exact ⟨h.left, h.right.left, h.right.right⟩
            · intro h
              exact ⟨h.serializable, h.typed, h.node⟩

end Guards

end Body
end EidolonSdk
