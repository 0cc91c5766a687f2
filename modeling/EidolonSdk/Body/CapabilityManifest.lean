import EidolonSdk.Body.CapabilitySchema
import EidolonSdk.Pydantic.JsonMode
import EidolonSdk.Pydantic.Wire

/-!
# Capability manifests

What one registration declares.  A declaration carries the proofs that both of
its schemas passed the gate, and a manifest that no two of its declarations
share a name.  Validating either one raises something else than a
{lit}`ValidationError` exactly when a schema that the gate is shown escapes it.
-/

namespace EidolonSdk
namespace Body

open Python Pydantic Logic

def maxCapabilitiesPerDevice : Nat := 64

/-!
## Lax fields
-/

/-- The whitespace `str_strip_whitespace` takes off. -/
def isTrimmed (c : CodePoint) : Bool :=
  isSpace c && !(0x1c ≤ c.val && c.val ≤ 0x1f)

def trim (s : PyStr) : PyStr :=
  (s.dropWhile isTrimmed).rdropWhile isTrimmed

def validTrimmed (rule : StrRule) : Validator (ConStr rule)
  | .str s =>
      if h : rule.Accepts (trim s) then .ok ⟨trim s, h⟩ else .error .invalid
  | _ => .error .invalid

/-- `dict[str, Any]`; the keys are stripped like every other string. -/
def validDict : Validator Members
  | .object members =>
      if members.all fun m => decide (Encodable m.fst) then
        .ok (dictOf (members.map fun m => (trim m.fst, m.snd)))
      else .error .invalid
  | _ => .error .invalid

/-- How pydantic reads an integer when it is not strict: from a number or from
its text.  The development needs no more than that it answers. -/
abbrev LaxInt := Json -> Option Int

def validVersion (laxInt : LaxInt) :
    Validator { n : Int // 1 ≤ n ∧ n ≤ 65535 } :=
  fun value =>
    match laxInt value with
    | some n => if h : 1 ≤ n ∧ n ≤ 65535 then .ok ⟨n, h⟩ else .error .invalid
    | none => .error .invalid

/-!
## Declarations
-/

def isLower (c : CodePoint) : Bool :=
  0x61 ≤ c.val && c.val ≤ 0x7A

def isNameCharacter (c : CodePoint) : Bool :=
  isLower c || (0x30 ≤ c.val && c.val ≤ 0x39) || c == codePoint '_'

def isNameSegment : PyStr -> Bool
  | [] => false
  | c :: rest => isLower c && rest.all isNameCharacter

/-- `^[a-z][a-z0-9_]*(?:\.[a-z][a-z0-9_]*)+$` -/
def matchesCapabilityName (s : PyStr) : Bool :=
  let segments := s.splitOn (codePoint '.')
  decide (2 ≤ segments.length) && segments.all isNameSegment

def capabilityNameRule : StrRule :=
  { minLength := 3, maxLength := some 128, pattern := matchesCapabilityName }

def descriptionRule : StrRule :=
  { minLength := 1, maxLength := some 512 }

/-- A schema that passed the gate. -/
abbrev DeclaredSchema (I : Interpreter) (field : String)
    (requireObject : Bool) :=
  { schema : Members // validateSchema I field requireObject schema = .ok () }

structure CapabilityDeclaration (I : Interpreter) where
  name : ConStr capabilityNameRule
  version : { n : Int // 1 ≤ n ∧ n ≤ 65535 }
  description : ConStr descriptionRule
  inputSchema : DeclaredSchema I "input_schema" true
  resultSchema : DeclaredSchema I "result_schema" false

section Validate

variable (I : Interpreter) (laxInt : LaxInt)

/-- A `ValueError` of a field validator becomes a `ValidationError`; nothing
else does. -/
def validSchema (field : String) (requireObject : Bool) :
    Validator (DeclaredSchema I field requireObject) :=
  fun value => do
    let schema ← validDict value
    match h : validateSchema I field requireObject schema with
    | .ok () => .ok ⟨schema, h⟩
    | .error (.refused _) => .error .invalid
    | .error (.raised e) => .error (.raised e)

def declarationFields : List String :=
  ["name", "version", "description", "input_schema", "result_schema"]

/-- `CapabilityDeclaration.model_validate`. -/
def CapabilityDeclaration.validate : Validator (CapabilityDeclaration I) :=
  validModel fun members =>
    ((required members "name" (validTrimmed capabilityNameRule)).both
      ((required members "version" (validVersion laxInt)).both
        ((required members "description" (validTrimmed descriptionRule)).both
          ((required members "input_schema"
              (validSchema I "input_schema" true)).both
            ((required members "result_schema"
                (validSchema I "result_schema" false)).both
              (onlyMembers members declarationFields)))))).map
      fun (name, version, description, input, result, _) =>
        ⟨name, version, description, input, result⟩

def capabilitiesRule : LengthRule :=
  { most := some maxCapabilitiesPerDevice }

structure CapabilityManifest where
  capabilities : List (CapabilityDeclaration I)
  within : capabilitiesRule.Accepts capabilities
  unique : (capabilities.map fun capability => capability.name.val).Nodup

/-- `CapabilityManifest.model_validate`. -/
def CapabilityManifest.validate : Validator (CapabilityManifest I) :=
  validModel fun members => do
    let (capabilities, _) ←
      (withDefault members "capabilities" ⟨[], Nat.zero_le _, rfl⟩
          (validTuple capabilitiesRule
            (CapabilityDeclaration.validate I laxInt))).both
        (onlyMembers members ["capabilities"])
    if h : (capabilities.val.map fun capability => capability.name.val).Nodup then
      .ok ⟨capabilities.val, capabilities.property, h⟩
    else .error .invalid

end Validate

/-!
## What escapes
-/

section Escapes

variable (I : Interpreter) (laxInt : LaxInt)

/-- The dictionary pydantic hands to the gate escapes it. -/
def FieldEscapes (requireObject : Bool) (value : Json) : Prop :=
  exists schema, validDict value = .ok schema ∧
    RootEscapes I requireObject schema

/-- One of the two declared schemas escapes. -/
def DeclarationEscapes (document : Json) : Prop :=
  exists members : Members, document = .object members ∧
    ((exists value, members.get "input_schema" = some value ∧
        FieldEscapes I true value) ∨
      exists value, members.get "result_schema" = some value ∧
        FieldEscapes I false value)

/-- A declaration escapes that is reached: no more than 64 entries before it are
valid declarations. -/
def ManifestEscapes (document : Json) : Prop :=
  exists (members : Members) (items : List Json),
    document = .object members ∧
    members.get "capabilities" = some (.array items) ∧
    exists item,
      Reached (CapabilityDeclaration.validate I laxInt) maxCapabilitiesPerDevice
        items item ∧
      DeclarationEscapes I item

variable {I}

theorem quiet_validTrimmed (rule : StrRule) (value : Json) :
    Quiet (validTrimmed rule value) := by
  unfold validTrimmed
  split
  · split
    · exact quiet_ok _
    · exact quiet_invalid
  · exact quiet_invalid

theorem quiet_validVersion (value : Json) :
    Quiet (validVersion laxInt value) := by
  unfold validVersion
  split
  · split
    · exact quiet_ok _
    · exact quiet_invalid
  · exact quiet_invalid

theorem quiet_validDict (value : Json) : Quiet (validDict value) := by
  unfold validDict
  split
  · split
    · exact quiet_ok _
    · exact quiet_invalid
  · exact quiet_invalid

theorem raises_validSchema {field : String} {requireObject : Bool}
    {value : Json} :
    Raises (validSchema I field requireObject value) <->
      FieldEscapes I requireObject value := by
  unfold validSchema
  rw [raises_bind]
  have hdict := (quiet_validDict value).not_raises
  simp only [hdict, false_or]
  apply exists_congr
  intro schema
  apply and_congr_right
  intro _
  rw [← (guard_validateSchema I field requireObject schema).escapes_iff]
  split
  · rename_i h
    apply iff_of_false (quiet_ok _).not_raises
    intro hraised
    rcases hraised with ⟨e, he, _⟩
    rw [h] at he
    cases he
  · rename_i text h
    rw [h]
    exact iff_of_false quiet_invalid.not_raises (by simp [Stop.IsRaised])
  · rename_i e h
    rw [h]
    exact iff_of_true ⟨e, rfl⟩ ⟨.raised e, rfl, trivial⟩

theorem raises_declaration {document : Json} :
    Raises (CapabilityDeclaration.validate I laxInt document) <->
      DeclarationEscapes I document := by
  unfold CapabilityDeclaration.validate
  rw [raises_validModel]
  apply exists_congr
  intro members
  apply and_congr_right
  intro _
  have hname : ¬ Raises
      (required members "name" (validTrimmed capabilityNameRule)) :=
    (quiet_required (quiet_validTrimmed _)).not_raises
  have hversion : ¬ Raises
      (required members "version" (validVersion laxInt)) :=
    (quiet_required (quiet_validVersion laxInt)).not_raises
  have hdescription : ¬ Raises
      (required members "description" (validTrimmed descriptionRule)) :=
    (quiet_required (quiet_validTrimmed _)).not_raises
  have hextra := (quiet_onlyMembers members declarationFields).not_raises
  simp only [raises_map, raises_both, hname, hversion, hdescription, hextra,
    false_or, or_false, raises_required, raises_validSchema]

theorem raises_capabilities {value : Json} :
    Raises (validTuple capabilitiesRule (CapabilityDeclaration.validate I laxInt)
        value) <->
      exists items, value = .array items ∧
        exists item,
          Reached (CapabilityDeclaration.validate I laxInt)
            maxCapabilitiesPerDevice items item ∧
          DeclarationEscapes I item := by
  unfold validTuple
  split
  · rename_i items
    have hlength : forall capabilities : List (CapabilityDeclaration I),
        ¬ Raises (if h : capabilitiesRule.Accepts capabilities then
          Except.ok (⟨capabilities, h⟩ : Tuple capabilitiesRule _)
          else .error .invalid) := by
      intro capabilities
      split
      · exact (quiet_ok _).not_raises
      · exact quiet_invalid.not_raises
    have hbounded : validBounded (CapabilityDeclaration.validate I laxInt)
        capabilitiesRule.most items =
        validWithin (CapabilityDeclaration.validate I laxInt)
          maxCapabilitiesPerDevice items := rfl
    simp only [raises_bind, hbounded, raises_validWithin, raises_declaration,
      hlength, and_false, exists_false, or_false, Json.array.injEq,
      exists_eq_left']
  · rename_i harray
    apply iff_of_false quiet_invalid.not_raises
    intro h
    rcases h with ⟨items, heq, _⟩
    exact harray items heq

theorem raises_manifest {document : Json} :
    Raises (CapabilityManifest.validate I laxInt document) <->
      ManifestEscapes I laxInt document := by
  have hextra : forall members : Members,
      ¬ Raises (onlyMembers members ["capabilities"]) :=
    fun members => (quiet_onlyMembers members _).not_raises
  have hbuild : forall capabilities : Tuple capabilitiesRule (CapabilityDeclaration I),
      ¬ Raises (if h : (capabilities.val.map fun capability =>
            capability.name.val).Nodup then
        Except.ok (CapabilityManifest.mk capabilities.val capabilities.property h)
        else .error .invalid) := by
    intro capabilities
    split
    · exact (quiet_ok _).not_raises
    · exact quiet_invalid.not_raises
  unfold CapabilityManifest.validate ManifestEscapes
  rw [raises_validModel]
  apply exists_congr
  intro members
  simp only [raises_bind, raises_both, raises_withDefault, raises_capabilities,
    hextra, hbuild, or_false, and_false, exists_false]
  constructor
  · intro h
    rcases h with ⟨hmembers, value, hvalue, items, heq, hitem⟩
    exact ⟨items, hmembers, heq ▸ hvalue, hitem⟩
  · intro h
    rcases h with ⟨items, hmembers, hvalue, hitem⟩
    exact ⟨hmembers, _, hvalue, items, rfl, hitem⟩

end Escapes

/-!
## Failing closed
-/

/-- Acceptance, or a `ValueError`. -/
def FailsClosed (x : Except Stop Unit) : Prop :=
  x = .ok () ∨ exists text, x = .error (.refused text)

theorem failsClosed_iff_not_escapes {x : Except Stop Unit} :
    FailsClosed x <-> ¬ exists e, x = .error e ∧ e.IsRaised := by
  cases x with
  | ok a => exact iff_of_true (Or.inl rfl) (by simp)
  | error e =>
      cases e with
      | refused text =>
          exact iff_of_true (Or.inr ⟨text, rfl⟩) (by simp [Stop.IsRaised])
      | raised e =>
          exact iff_of_false (by simp [FailsClosed])
            (not_not.mpr ⟨.raised e, rfl, trivial⟩)

/-- The gate and the two models fail closed on exactly the inputs on which no
unhashable type is reached. -/
theorem capability_gate_fails_closed_iff (I : Interpreter) (laxInt : LaxInt)
    (field : String) (requireObject : Bool) (schema : Members)
    (declaration manifest : Json) :
    (FailsClosed (validateSchema I field requireObject schema) <->
      ¬ RootEscapes I requireObject schema) ∧
    (Quiet (CapabilityDeclaration.validate I laxInt declaration) <->
      ¬ DeclarationEscapes I declaration) ∧
    (Quiet (CapabilityManifest.validate I laxInt manifest) <->
      ¬ ManifestEscapes I laxInt manifest) := by
  refine ⟨?_, ?_, ?_⟩
  · rw [failsClosed_iff_not_escapes,
      (guard_validateSchema I field requireObject schema).escapes_iff]
  · rw [quiet_iff_not_raises, raises_declaration]
  · rw [quiet_iff_not_raises, raises_manifest]

/-- A result that may be absent, in the spelling JSON Schema has for it. -/
def unionSchema : Members :=
  [(str "type", .array [.str (str "object"), .str (str "null")])]

def unionDeclaration : Json :=
  .object
    [(str "name", .str (str "camera.capture")),
      (str "version", .int 1),
      (str "description", .str (str "Capture one image.")),
      (str "input_schema", .object [(str "type", .str (str "object"))]),
      (str "result_schema", .object unionSchema)]

def unionManifest : Json :=
  .object [(str "capabilities", .array [unionDeclaration])]

theorem unionSchema_escapes : RootEscapes asciiInterpreter false unionSchema where
  serializable := ⟨_, _, rfl, rfl, by decide⟩
  typed h := absurd h Bool.false_ne_true
  node := by
    refine ⟨?_, Or.inl rfl⟩
    intro key hkey
    exact ⟨"type", by decide, List.mem_singleton.mp hkey⟩

theorem unionDeclaration_escapes :
    DeclarationEscapes asciiInterpreter unionDeclaration :=
  ⟨_, rfl, Or.inr ⟨_, rfl, unionSchema, rfl, unionSchema_escapes⟩⟩

theorem union_type_escapes :
    ¬ FailsClosed
        (validateSchema asciiInterpreter "result_schema" false unionSchema) ∧
      ¬ Quiet (CapabilityDeclaration.validate asciiInterpreter (fun _ => some 1)
        unionDeclaration) ∧
      ¬ Quiet (CapabilityManifest.validate asciiInterpreter (fun _ => some 1)
        unionManifest) := by
  refine ⟨?_, ?_, ?_⟩
  · rw [failsClosed_iff_not_escapes, not_not, (guard_validateSchema _ _ _ _).escapes_iff]
    exact unionSchema_escapes
  · rw [quiet_iff_not_raises, not_not, raises_declaration]
    exact unionDeclaration_escapes
  · rw [quiet_iff_not_raises, not_not, raises_manifest]
    exact ⟨_, _, rfl, rfl, unionDeclaration, ⟨[], [], rfl, Nat.zero_le _⟩,
      unionDeclaration_escapes⟩

end Body
end EidolonSdk
