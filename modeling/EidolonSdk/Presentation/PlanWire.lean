import Mathlib.Algebra.Group.Action.Defs
import Mathlib.Algebra.Order.BigOperators.Group.List
import EidolonSdk.Presentation.ExpressionPlan
import EidolonSdk.Pydantic.Wire
import EidolonSdk.Python.ExactFloats
import EidolonSdk.Python.JsonBytes
import EidolonSdk.Python.JsonRoundTrip

/-!
# Expression plans on the wire

A plan travels as compact JSON.  Its reader looks at the size of the payload
before anything else and refuses objects with a repeated key; no plan is too
large for it, and it reads every plan back from its encoding.
-/

namespace EidolonSdk
namespace Presentation

open Python Pydantic Json

/-!
## Fields
-/

/-- A character of `[A-Za-z0-9_.:-]`. -/
def isIdentifierChar (c : CodePoint) : Bool :=
  (0x41 ≤ c.val && c.val ≤ 0x5A) || (0x61 ≤ c.val && c.val ≤ 0x7A) ||
    (0x30 ≤ c.val && c.val ≤ 0x39) || c == codePoint '_' || c == codePoint '.' ||
    c == codePoint ':' || c == codePoint '-'

def identifierRule : StrRule :=
  { minLength := 1, maxLength := some 96,
    pattern := fun s => s.all isIdentifierChar }

abbrev Identifier := ConStr identifierRule

/-- What a strict `float` takes: a float or an integer. -/
def floatValue : Json -> Option Double
  | .float x => some x
  | .int n =>
      match h : floatOfInt n with
      | some (negative, magnitude) =>
          some (.finite negative magnitude (representable_floatOfInt h))
      | none => none
  | _ => none

/-- `Unit`: a strict float from 0 to 1, never NaN. -/
def unitFloat : Wire UnitFloat where
  dump x := .float x.val
  validate v :=
    match floatValue v with
    | some x => if h : InUnit x then .ok ⟨x, h⟩ else .error .invalid
    | none => .error .invalid
  validate_dump x := dif_pos x.property

/-- `Field(strict=True, ge=least, le=most)` of an integer. -/
def between (least most : Int) : Wire (IntBetween least most) where
  dump n := .int n.val
  validate
    | .int n => if h : least ≤ n ∧ n ≤ most then .ok ⟨n, h⟩ else .error .invalid
    | _ => .error .invalid
  validate_dump n := dif_pos n.property

def gestureWire : Wire Gesture :=
  Wire.word Gesture.all Gesture.word (fun g => by cases g <;> decide) (by decide)

def variantWire : Wire Variant :=
  Wire.word Variant.all Variant.word (fun v => by cases v <;> decide) (by decide)

/-- `schema_version: Literal[1]`. -/
def schemaVersion : Wire Unit where
  dump _ := .int 1
  validate
    | .int n => if n = 1 then .ok () else .error .invalid
    | _ => .error .invalid
  validate_dump _ := rfl

/-- `Contract.strict_version`: a version that is no integer is refused before the
fields are looked at. -/
def strictVersion (members : Members) : Validated Unit :=
  match members.get "schema_version" with
  | some (.int _) => .ok ()
  | some _ => .error .invalid
  | none => .ok ()

theorem inUnit_ofDecimal {digits : Nat} {exponent : Int}
    (hle : digits * 10 ^ exponent.toNat ≤ 10 ^ (-exponent).toNat) :
    InUnit (Double.ofDecimal false digits exponent) := by
  have hpos : 0 < 10 ^ (-exponent).toNat := Nat.pow_pos (by decide)
  have hround : roundRatio (digits * 10 ^ exponent.toNat) (10 ^ (-exponent).toNat) ≤
      1 * doubleOne := by
    apply roundRatio_le
    · omega
    · omega
  have hlimit := @whole_lt_doubleLimit 1 (by decide)
  unfold Double.ofDecimal
  simp only [dif_pos (Nat.lt_of_le_of_lt hround hlimit)]
  exact ⟨fun h => absurd h Bool.false_ne_true, by omega⟩

/-- The default `0.3`. -/
def defaultIntensity : UnitFloat :=
  ⟨Double.ofDecimal false 3 (-1), inUnit_ofDecimal (by decide)⟩

/-!
## Steps
-/

namespace ExpressionStep

def fieldNames : List String :=
  ["at_ms", "gesture", "variant", "intensity", "duration_ms"]

def dump (step : ExpressionStep) : Json :=
  .object [(str "at_ms", .int step.atMs.val),
    (str "gesture", .str (str step.gesture.word)),
    (str "variant", .str (str step.variant.word)),
    (str "intensity", .float step.intensity.val),
    (str "duration_ms", .int step.durationMs.val)]

def validateMembers (members : Members) : Validated ExpressionStep := do
  strictVersion members
  onlyMembers members fieldNames
  let atMs ← withDefault members "at_ms" ⟨0, by decide⟩ (between 0 maxDurationMs).validate
  let gesture ← required members "gesture" gestureWire.validate
  let variant ← withDefault members "variant" .default variantWire.validate
  let intensity ← withDefault members "intensity" defaultIntensity unitFloat.validate
  let durationMs ← required members "duration_ms" (between 150 maxDurationMs).validate
  .ok ⟨atMs, gesture, variant, intensity, durationMs⟩

def validate : Validator ExpressionStep :=
  validModel validateMembers

theorem validate_dump (step : ExpressionStep) : validate step.dump = .ok step := by
  have hat := (between 0 maxDurationMs).validate_dump step.atMs
  have hgesture := gestureWire.validate_dump step.gesture
  have hvariant := variantWire.validate_dump step.variant
  have hintensity := unitFloat.validate_dump step.intensity
  have hduration := (between 150 maxDurationMs).validate_dump step.durationMs
  have hnames : onlyMembers [(str "at_ms", Json.int step.atMs.val),
      (str "gesture", .str (str step.gesture.word)),
      (str "variant", .str (str step.variant.word)),
      (str "intensity", .float step.intensity.val),
      (str "duration_ms", .int step.durationMs.val)] fieldNames = .ok () := rfl
  unfold validate dump validModel validateMembers strictVersion
  simp only [hnames, required, withDefault, Members.get_cons, Members.get_nil,
    String.reduceEq, if_true, if_false]
  rw [show (between 0 maxDurationMs).validate (.int step.atMs.val) = _ from hat,
    show gestureWire.validate (.str (str step.gesture.word)) = _ from hgesture,
    show variantWire.validate (.str (str step.variant.word)) = _ from hvariant,
    show unitFloat.validate (.float step.intensity.val) = _ from hintensity,
    show (between 150 maxDurationMs).validate (.int step.durationMs.val) = _ from
      hduration]
  rfl

def wire : Wire ExpressionStep where
  dump := dump
  validate := validate
  validate_dump := validate_dump

end ExpressionStep

/-!
## Plans
-/

/-- `Field(min_length=1, max_length=MAX_STEPS)`. -/
def stepsRule : LengthRule :=
  { least := 1, most := some maxSteps }

structure ExpressionPlan where
  presentationId : Identifier
  responseId : Identifier
  maxDurationMs : Duration
  steps : Tuple stepsRule ExpressionStep
  timeline : checkTimeline steps.val maxDurationMs.val.toNat = .ok ()

namespace ExpressionPlan

def fieldNames : List String :=
  ["schema_version", "presentation_id", "response_id", "profile",
    "catalog_revision", "max_duration_ms", "steps", "on_finish"]

def members (plan : ExpressionPlan) : Members :=
  [(str "schema_version", .int 1),
    (str "presentation_id", .str plan.presentationId.val),
    (str "response_id", .str plan.responseId.val),
    (str "profile", .str (str faceProfile)),
    (str "catalog_revision", .str (str faceCatalog)),
    (str "max_duration_ms", .int plan.maxDurationMs.val),
    (str "steps", .array (plan.steps.val.map ExpressionStep.dump)),
    (str "on_finish", .str (str "resume_current_base"))]

def dump (plan : ExpressionPlan) : Json :=
  .object plan.members

def validateMembers (members : Members) : Validated ExpressionPlan := do
  strictVersion members
  onlyMembers members fieldNames
  withDefault members "schema_version" () schemaVersion.validate
  let presentationId ← required members "presentation_id"
    (Wire.text identifierRule).validate
  let responseId ← required members "response_id" (Wire.text identifierRule).validate
  withDefault members "profile" () (Wire.literal faceProfile).validate
  withDefault members "catalog_revision" () (Wire.literal faceCatalog).validate
  let maxDurationMs ← required members "max_duration_ms"
    (between 150 Presentation.maxDurationMs).validate
  let steps ← required members "steps"
    (Wire.tuple stepsRule ExpressionStep.wire).validate
  withDefault members "on_finish" () (Wire.literal "resume_current_base").validate
  match h : checkTimeline steps.val maxDurationMs.val.toNat with
  | .ok () => .ok ⟨presentationId, responseId, maxDurationMs, steps, h⟩
  | .error _ => .error .invalid

def validate : Validator ExpressionPlan :=
  validModel validateMembers

theorem validate_dump (plan : ExpressionPlan) : validate plan.dump = .ok plan := by
  have hpresentation := (Wire.text identifierRule).validate_dump plan.presentationId
  have hresponse := (Wire.text identifierRule).validate_dump plan.responseId
  have hduration := (between 150 Presentation.maxDurationMs).validate_dump
    plan.maxDurationMs
  have hsteps := (Wire.tuple stepsRule ExpressionStep.wire).validate_dump plan.steps
  have hprofile := (Wire.literal faceProfile).validate_dump ()
  have hcatalog := (Wire.literal faceCatalog).validate_dump ()
  have hfinish := (Wire.literal "resume_current_base").validate_dump ()
  have hnames : onlyMembers plan.members fieldNames = .ok () := rfl
  show validateMembers plan.members = .ok plan
  unfold validateMembers strictVersion
  rw [hnames]
  simp only [members, required, withDefault, Members.get_cons, Members.get_nil,
    String.reduceEq, if_true, if_false]
  rw [show (Wire.text identifierRule).validate (.str plan.presentationId.val) = _
      from hpresentation,
    show (Wire.text identifierRule).validate (.str plan.responseId.val) = _
      from hresponse,
    show (between 150 Presentation.maxDurationMs).validate
      (.int plan.maxDurationMs.val) = _ from hduration,
    show (Wire.tuple stepsRule ExpressionStep.wire).validate
      (.array (plan.steps.val.map ExpressionStep.dump)) = _ from hsteps,
    show (Wire.literal faceProfile).validate (.str (str faceProfile)) = _
      from hprofile,
    show (Wire.literal faceCatalog).validate (.str (str faceCatalog)) = _
      from hcatalog,
    show (Wire.literal "resume_current_base").validate
      (.str (str "resume_current_base")) = _ from hfinish]
  show (match h : checkTimeline plan.steps.val plan.maxDurationMs.val.toNat with
    | .ok () => .ok ⟨plan.presentationId, plan.responseId, plan.maxDurationMs,
        plan.steps, h⟩
    | .error _ => .error .invalid) = (.ok plan : Validated ExpressionPlan)
  split
  · rfl
  · rename_i h
    rw [plan.timeline] at h
    cases h

/-!
## Validation raises nothing
-/

section Quiet

theorem quiet_between (least most : Int) (v : Json) :
    Quiet ((between least most).validate v) := by
  unfold between
  dsimp only
  split
  · split
    · exact quiet_ok _
    · exact quiet_invalid
  · exact quiet_invalid

theorem quiet_unitFloat (v : Json) : Quiet (unitFloat.validate v) := by
  unfold unitFloat
  dsimp only
  split
  · split
    · exact quiet_ok _
    · exact quiet_invalid
  · exact quiet_invalid

theorem quiet_schemaVersion (v : Json) : Quiet (schemaVersion.validate v) := by
  unfold schemaVersion
  dsimp only
  split
  · split
    · exact quiet_ok _
    · exact quiet_invalid
  · exact quiet_invalid

theorem quiet_strictVersion (members : Members) : Quiet (strictVersion members) := by
  unfold strictVersion
  split
  · exact quiet_ok _
  · exact quiet_invalid
  · exact quiet_ok _

theorem quiet_validModel {α : Type} {validate : Members -> Validated α}
    (h : forall members, Quiet (validate members)) (v : Json) :
    Quiet (validModel validate v) := by
  unfold validModel
  split
  · exact h _
  · exact quiet_invalid

theorem quiet_step (v : Json) : Quiet (ExpressionStep.validate v) := by
  apply quiet_validModel
  intro members
  apply (quiet_strictVersion members).bind
  intro _
  apply (quiet_onlyMembers members _).bind
  intro _
  apply (quiet_withDefault (quiet_between _ _)).bind
  intro _
  apply (quiet_required (quiet_validWord _)).bind
  intro _
  apply (quiet_withDefault (quiet_validWord _)).bind
  intro _
  apply (quiet_withDefault quiet_unitFloat).bind
  intro _
  apply (quiet_required (quiet_between _ _)).bind
  intro _
  exact quiet_ok _

theorem quiet_steps (v : Json) :
    Quiet ((Wire.tuple stepsRule ExpressionStep.wire).validate v) :=
  quiet_validTuple stepsRule quiet_step v

theorem quiet_validate (v : Json) : Quiet (validate v) := by
  apply quiet_validModel
  intro members
  apply (quiet_strictVersion members).bind
  intro _
  apply (quiet_onlyMembers members _).bind
  intro _
  apply (quiet_withDefault quiet_schemaVersion).bind
  intro _
  apply (quiet_required (quiet_validStr _)).bind
  intro _
  apply (quiet_required (quiet_validStr _)).bind
  intro _
  apply (quiet_withDefault (quiet_validWord _)).bind
  intro _
  apply (quiet_withDefault (quiet_validWord _)).bind
  intro _
  apply (quiet_required (quiet_between _ _)).bind
  intro _
  apply (quiet_required quiet_steps).bind
  intro steps
  apply (quiet_withDefault (quiet_validWord _)).bind
  intro _
  split
  · exact quiet_ok _
  · exact quiet_invalid

end Quiet

/-!
## What a plan consists of
-/

/-- A property of all JSON values a plan is made of. -/
structure OfPlans (p : Json -> Bool) : Prop where
  int : forall n : Int, 0 ≤ n ∧ n ≤ Presentation.maxDurationMs -> p (.int n) = true
  str : forall s, Python.Encodable s -> p (.str s) = true
  float : forall x : UnitFloat, p (.float x.val) = true
  array : forall items, p (.array items) = true
  object : forall members : Members, members.keys.Nodup ->
    (members.all fun m => decide (Python.Encodable m.fst)) = true ->
    p (.object members) = true

section Parts

variable {p : Json -> Bool}

theorem all_step (hp : OfPlans p) (step : ExpressionStep) :
    step.dump.all p = true := by
  have hduration : 0 ≤ step.durationMs.val ∧
      step.durationMs.val ≤ Presentation.maxDurationMs := by
    have hbounds := step.durationMs.property
    omega
  refine Bool.and_eq_true_iff.mpr ⟨hp.object _ ?_ ?_, allMembers_iff.mpr ?_⟩
  · show (ExpressionStep.fieldNames.map Python.str).Nodup
    decide
  · show (ExpressionStep.fieldNames.map Python.str).all
      (fun s => decide (Python.Encodable s)) = true
    decide
  · simp only [List.forall_mem_cons]
    exact ⟨hp.int _ step.atMs.property, hp.str _ (encodable_str _),
      hp.str _ (encodable_str _), hp.float step.intensity, hp.int _ hduration,
      List.forall_mem_nil _⟩

theorem all_dump (hp : OfPlans p) (plan : ExpressionPlan) :
    plan.dump.all p = true := by
  have hduration : 0 ≤ plan.maxDurationMs.val ∧
      plan.maxDurationMs.val ≤ Presentation.maxDurationMs := by
    have hbounds := plan.maxDurationMs.property
    omega
  have hsteps : (Json.array (plan.steps.val.map ExpressionStep.dump)).all p = true := by
    refine Bool.and_eq_true_iff.mpr ⟨hp.array _, allItems_iff.mpr ?_⟩
    intro v hv
    rcases List.mem_map.mp hv with ⟨step, _, heq⟩
    rw [← heq]
    exact all_step hp step
  refine Bool.and_eq_true_iff.mpr ⟨hp.object _ ?_ ?_, allMembers_iff.mpr ?_⟩
  · show (fieldNames.map Python.str).Nodup
    decide
  · show (fieldNames.map Python.str).all (fun s => decide (Python.Encodable s)) = true
    decide
  · unfold members
    simp only [List.forall_mem_cons]
    exact ⟨hp.int 1 (by decide), hp.str _ plan.presentationId.property.left,
      hp.str _ plan.responseId.property.left, hp.str _ (encodable_str _),
      hp.str _ (encodable_str _), hp.int _ hduration, hsteps,
      hp.str _ (encodable_str _), List.forall_mem_nil _⟩

theorem isJson_dump (plan : ExpressionPlan) : plan.dump.IsJson := by
  apply all_dump (p := properNode)
  refine ⟨fun _ _ => rfl, fun _ _ => rfl, ?_, fun _ => rfl, fun _ hkeys _ =>
    decide_eq_true hkeys⟩
  intro x
  rcases x with ⟨x, hx⟩
  cases x with
  | finite negative magnitude representable => rfl
  | infinite negative => cases hx
  | nan => cases hx

theorem encodable_dump (plan : ExpressionPlan) : EncodableValue plan.dump := by
  apply all_dump
  exact ⟨fun _ _ => rfl, fun _ hs => decide_eq_true hs, fun _ => rfl, fun _ => rfl,
    fun _ _ hkeys => hkeys⟩

theorem length_intText_le {n : Int} (h : 0 ≤ n ∧ n ≤ Presentation.maxDurationMs) :
    (intText n).length ≤ 5 := by
  have hn : n.toNat < 10 ^ 5 := by
    have hle := h.right
    unfold Presentation.maxDurationMs at hle
    omega
  rw [intText_nonneg h.left]
  unfold naturalText
  rw [List.length_map]
  exact (Nat.length_toDigits_le_iff (by decide) (by decide)).mpr hn

theorem shortInteger_dump (plan : ExpressionPlan) :
    plan.dump.all shortInteger = true := by
  apply all_dump
  refine ⟨?_, fun _ _ => rfl, fun _ => rfl, fun _ => rfl, fun _ _ _ => rfl⟩
  intro n h
  have hn : n.natAbs < 10 ^ 5 := by
    have hle := h.right
    unfold Presentation.maxDurationMs at hle
    omega
  have hdigits := (Nat.length_toDigits_le_iff (b := 10) (k := 5) (by decide)
    (by decide)).mpr hn
  exact decide_eq_true (hdigits.trans (by decide))

end Parts

/-!
## The size of a plan
-/

section Size

variable {floatText : Double -> String}

theorem escapedWidth_identifier {c : CodePoint} (h : isIdentifierChar c = true) :
    escapedWidth c = 1 := by
  have hrange : 0x2D ≤ c.val ∧ c.val < 0x80 ∧ c.val ≠ 0x5C := by
    simp only [isIdentifierChar, Bool.or_eq_true, Bool.and_eq_true,
      decide_eq_true_eq, beq_iff_eq] at h
    have hmarks : (codePoint '_').val = 0x5F ∧ (codePoint '.').val = 0x2E ∧
        (codePoint ':').val = 0x3A ∧ (codePoint '-').val = 0x2D := by
      decide
    rcases h with (((((h | h) | h) | h) | h) | h) | h
    all_goals first | omega | (rw [h]; omega)
  have hnot : ¬ ShortEscaped c := by
    intro hshort
    rcases hshort with h | h | h | h | h | h | h
    all_goals first | omega | (rw [h] at hrange; exact absurd hrange (by decide))
  rw [escapedWidth, if_neg hnot, if_neg (by omega), utf8Width, if_pos hrange.right.left]

theorem quotedLength_identifier (s : Identifier) : quotedLength s.val ≤ 98 := by
  rcases s with ⟨s, _, _, hmost, hpattern⟩
  have hlength : s.length ≤ 96 := of_decide_eq_true hmost
  have hsum : escapedLength s = s.length := by
    unfold escapedLength
    have hall := List.all_eq_true.mp hpattern
    rw [List.map_congr_left fun c hc => escapedWidth_identifier (hall c hc)]
    simp
  show 2 + escapedLength s ≤ 98
  omega

/-- An interpreter that writes floats this way. -/
def writer (floatText : Double -> String) : Interpreter :=
  { asciiInterpreter with floatRepr := floatText }

theorem size_float (hfloat : FloatNumerals floatText) {x : UnitFloat}
    (h : (floatText x.val).length ≤ 24) :
    (Json.float x.val).size (writer floatText) ≤ 24 := by
  rcases x with ⟨x, hx⟩
  cases x with
  | finite negative magnitude representable =>
      rcases hfloat.reads negative magnitude representable with ⟨_, hspells, _⟩
      show utf8Length (Python.str (floatText _)) ≤ 24
      rw [utf8Length_ascii hspells.ascii]
      unfold Python.str
      rw [List.length_map]
      exact h
  | infinite negative => cases hx
  | nan => cases hx

theorem size_gesture (g : Gesture) : quotedLength (Python.str g.word) ≤ 11 := by
  cases g <;> decide

theorem size_variant (v : Variant) : quotedLength (Python.str v.word) ≤ 9 := by
  cases v <;> decide

theorem size_step (hfloat : FloatNumerals floatText) {step : ExpressionStep}
    (h : (floatText step.intensity.val).length ≤ 24) :
    step.dump.size (writer floatText) ≤ 114 := by
  have hintensity := size_float hfloat h
  have hat := length_intText_le step.atMs.property
  have hduration := length_intText_le (n := step.durationMs.val) (by
    have hbounds := step.durationMs.property
    omega)
  have hgesture := size_gesture step.gesture
  have hvariant := size_variant step.variant
  have hkeys : quotedLength (Python.str "at_ms") = 7 ∧
      quotedLength (Python.str "gesture") = 9 ∧
      quotedLength (Python.str "variant") = 9 ∧
      quotedLength (Python.str "intensity") = 11 ∧
      quotedLength (Python.str "duration_ms") = 13 := by
    decide
  rw [ExpressionStep.dump, size_object]
  simp only [List.map_cons, List.map_nil, memberSize, listed, List.sum_cons,
    List.sum_nil, List.length_cons, List.length_nil, size_int, size_str, hkeys]
  omega

/-- No plan is larger than its reader takes. -/
theorem size_dump (hfloat : FloatNumerals floatText) (plan : ExpressionPlan)
    (h : forall step, step ∈ plan.steps.val ->
      (floatText step.intensity.val).length ≤ 24) :
    plan.dump.size (writer floatText) ≤ maxPlanBytes := by
  have hsteps : (Json.array (plan.steps.val.map ExpressionStep.dump)).size
      (writer floatText) ≤ 921 := by
    have hlength : plan.steps.val.length ≤ 8 :=
      of_decide_eq_true plan.steps.property.right
    have hsum : ((plan.steps.val.map ExpressionStep.dump).map
        (size (writer floatText))).sum ≤ plan.steps.val.length * 114 := by
      have hle := List.sum_le_card_nsmul
        ((plan.steps.val.map ExpressionStep.dump).map (size (writer floatText))) 114
      rw [List.length_map, List.length_map, smul_eq_mul] at hle
      apply hle
      intro n hn
      rcases List.mem_map.mp hn with ⟨v, hv, rfl⟩
      rcases List.mem_map.mp hv with ⟨step, hstep, rfl⟩
      exact size_step hfloat (h step hstep)
    rw [size_array, listed, List.length_map, List.length_map]
    omega
  have hduration := length_intText_le (n := plan.maxDurationMs.val) (by
    have hbounds := plan.maxDurationMs.property
    omega)
  have hpresentation := quotedLength_identifier plan.presentationId
  have hresponse := quotedLength_identifier plan.responseId
  have hkeys : quotedLength (Python.str "schema_version") = 16 ∧
      quotedLength (Python.str "presentation_id") = 17 ∧
      quotedLength (Python.str "response_id") = 13 ∧
      quotedLength (Python.str "profile") = 9 ∧
      quotedLength (Python.str "catalog_revision") = 18 ∧
      quotedLength (Python.str "max_duration_ms") = 17 ∧
      quotedLength (Python.str "steps") = 7 ∧
      quotedLength (Python.str "on_finish") = 11 := by
    decide
  have hwords : quotedLength (Python.str faceProfile) = 17 ∧
      quotedLength (Python.str faceCatalog) = 13 ∧
      quotedLength (Python.str "resume_current_base") = 21 := by
    decide
  have hversion : (intText 1).length = 1 := by decide
  rw [dump, members, size_object]
  simp only [List.map_cons, List.map_nil, memberSize, listed, List.sum_cons,
    List.sum_nil, List.length_cons, List.length_nil, size_int, size_str, hkeys,
    hwords, hversion]
  unfold maxPlanBytes
  omega

end Size

/-!
## The reader
-/

/-- The loop of {lit}`unique`. -/
def uniqueFrom (result : Members) : Members -> Except PyException Members
  | [] => pure result
  | (key, value) :: rest =>
      if key ∈ result.keys then throw .valueError
      else uniqueFrom (setItem key value result) rest

/-- The hook of {lit}`from_wire`. -/
def unique : Hook := fun pairs => (uniqueFrom [] pairs).map .object

inductive Payload where
  | str (s : PyStr)
  | bytes (b : Bytes)

namespace Payload

/-- `len(payload.encode("utf-8") if isinstance(payload, str) else payload)`. -/
def size : Payload -> Except PyException Nat
  | .str s =>
      match encodeUtf8 s with
      | some encoded => pure encoded.length
      | none => throw .unicodeEncodeError
  | .bytes b => pure b.length

/-- `json.loads(payload, object_pairs_hook=hook)`. -/
def loads (hook : Hook) : Payload -> Except PyException Json
  | .str s => Json.loads hook s
  | .bytes b => loadsBytes hook b

end Payload

/-- `cls.model_validate`; a {lit}`ValidationError` is a {lit}`ValueError`. -/
def modelValidate (v : Json) : Except PyException ExpressionPlan :=
  match validate v with
  | .ok plan => pure plan
  | .error .invalid => throw .valueError
  | .error (.raised e) => throw e

def fromWire (payload : Payload) : Except PyException ExpressionPlan := do
  let size ← payload.size
  if size > maxPlanBytes then throw .valueError
  else do
    let v ← payload.loads unique
    modelValidate v

/-- `plan.model_dump_json()`, for a way to write floats. -/
def modelDumpJson (floatText : Double -> String) (plan : ExpressionPlan) : PyStr :=
  plan.dump.compactText (writer floatText)

section Unique

theorem uniqueFrom_eq {result : Members} (h : result.keys.Nodup) (pairs : Members) :
    uniqueFrom result pairs =
      if (Members.keys (result ++ pairs)).Nodup then pure (result ++ pairs)
      else throw .valueError := by
  induction pairs generalizing result with
  | nil =>
      rw [List.append_nil, if_pos h]
      rfl
  | cons m rest ih =>
      rcases m with ⟨key, value⟩
      have hsplit : result ++ (key, value) :: rest =
          (result ++ [(key, value)]) ++ rest := by
        simp
      rw [uniqueFrom]
      by_cases hkey : key ∈ result.keys
      · rw [if_pos hkey, if_neg]
        intro hnodup
        unfold Members.keys at hkey hnodup
        rw [List.map_append, List.nodup_append] at hnodup
        exact hnodup.right.right key hkey key List.mem_cons_self rfl
      · have hnext : (Members.keys (result ++ [(key, value)])).Nodup := by
          unfold Members.keys at h hkey ⊢
          rw [List.map_append, List.nodup_append]
          refine ⟨h, List.nodup_singleton key, ?_⟩
          intro k hk l hl heq
          rw [heq, List.mem_singleton.mp hl] at hk
          exact hkey hk
        rw [if_neg hkey, setItem_new hkey, ih hnext, hsplit]

theorem unique_eq (pairs : Members) :
    unique pairs = if pairs.keys.Nodup then pure (.object pairs)
      else throw .valueError := by
  unfold unique
  rw [uniqueFrom_eq (show (Members.keys []).Nodup from List.nodup_nil),
    List.nil_append]
  split
  · rfl
  · rfl

theorem keeps_unique : Keeps unique := by
  intro pairs h
  rw [unique_eq, if_pos h]
  rfl

theorem refusesRepeats_unique : RefusesRepeats unique := by
  intro pairs v h
  rw [unique_eq] at h
  split at h
  · rename_i hkeys
    cases h
    exact ⟨rfl, hkeys⟩
  · cases h

theorem refuses_unique : Refuses unique := by
  intro pairs
  rw [unique_eq]
  split
  · exact trivial
  · rfl

end Unique

/-!
## What the reader reads
-/

section Wire

variable {floatText : Double -> String}

/-- The encoding of a plan begins with two characters that tell it from a wider
encoding. -/
theorem modelDumpJson_eq (plan : ExpressionPlan) : exists rest,
    modelDumpJson floatText plan = codePoint '\x7b' :: codePoint '"' :: rest := by
  unfold modelDumpJson
  rw [compactText_eq, dump, textWith_object]
  exact ⟨_, rfl⟩

theorem loads_modelDumpJson (hfloat : FloatNumerals floatText)
    (plan : ExpressionPlan) :
    Json.loads unique (modelDumpJson floatText plan) = .ok plan.dump := by
  unfold modelDumpJson
  rw [compactText_eq_text]
  exact loads_text hfloat keeps_unique (writable_utf8 plan.isJson_dump)
    plan.shortInteger_dump

theorem modelValidate_dump (plan : ExpressionPlan) :
    modelValidate plan.dump = .ok plan := by
  unfold modelValidate
  rw [validate_dump]
  rfl

/-- A payload that is not too large is what its reading makes of it. -/
theorem fromWire_of_loads {payload : Payload} {n : Nat} {plan : ExpressionPlan}
    (hsize : payload.size = .ok n) (hle : n ≤ maxPlanBytes)
    (hloads : payload.loads unique = .ok plan.dump) :
    fromWire payload = .ok plan := by
  unfold fromWire
  rw [hsize, Logic.ok_bind, if_neg (not_lt.mpr hle), hloads, Logic.ok_bind,
    modelValidate_dump]

theorem ends_loads (payload : Payload) :
    Logic.Ends (payload.loads unique) (fun _ => True)
      (fun e => e.isValueError = true) := by
  cases payload with
  | str s =>
      apply (Json.ends_loads refuses_unique s).imp fun _ h => h
      intro e he
      rw [he]
      rfl
  | bytes b => exact ends_loadsBytes refuses_unique b

theorem loads_strict {payload : Payload} {v : Json}
    (h : payload.loads unique = .ok v) :
    payload.loads pairsHook = .ok v ∧ v.all distinctKeys = true := by
  cases payload with
  | str s => exact Json.loads_strict refusesRepeats_unique h
  | bytes b => exact loadsBytes_strict refusesRepeats_unique h

theorem ends_size (payload : Payload) :
    Logic.Ends payload.size (fun _ => True) (fun e => e.isValueError = true) := by
  cases payload with
  | str s =>
      unfold Payload.size
      dsimp only
      cases encodeUtf8 s with
      | some encoded => exact trivial
      | none => rfl
  | bytes b => exact trivial

/-- Whatever the payload, {lit}`from_wire` returns a plan or raises a
{lit}`ValueError`. -/
theorem ends_fromWire (payload : Payload) :
    Logic.Ends (fromWire payload)
      (fun _ => exists v, payload.loads unique = .ok v)
      (fun e => e.isValueError = true) := by
  have hsize := ends_size payload
  have hloads := ends_loads payload
  unfold fromWire
  cases hn : payload.size with
  | error e =>
      rw [hn] at hsize
      exact hsize
  | ok n =>
      rw [Logic.ok_bind]
      split
      · rfl
      · cases hv : payload.loads unique with
        | error e =>
            rw [hv] at hloads
            exact hloads
        | ok v =>
            rw [Logic.ok_bind]
            unfold modelValidate
            split
            · exact ⟨v, rfl⟩
            · rfl
            · rename_i e hraised
              exact absurd hraised (quiet_validate v e)

/-- No plan is too large for its own reader, which reads it back, and an object
that repeats a key is never read, at whatever depth it stands. -/
theorem from_wire_undoes_encoding (floatText : Double -> String)
    (hfloat : FloatNumerals floatText) :
    (forall plan : ExpressionPlan,
      (forall step, step ∈ plan.steps.val ->
        (floatText step.intensity.val).length ≤ 24) ->
      exists encoded, encodeUtf8 (modelDumpJson floatText plan) = some encoded ∧
        encoded.length ≤ maxPlanBytes ∧
        fromWire (.str (modelDumpJson floatText plan)) = .ok plan ∧
        fromWire (.bytes encoded) = .ok plan) ∧
    (forall payload raw, payload.loads pairsHook = .ok raw ->
      raw.all distinctKeys = false ->
      exists e, fromWire payload = .error e ∧ e.isValueError = true) := by
  constructor
  · intro plan hlength
    have hsize := size_dump hfloat plan hlength
    rcases encodeUtf8_compactText (writer floatText) plan.encodable_dump
      with ⟨encoded, hencode, hbytes⟩
    rw [← hbytes] at hsize
    have hloads := loads_modelDumpJson hfloat plan
    rcases @modelDumpJson_eq floatText plan with ⟨rest, htext⟩
    have hoctets : loadsBytes unique encoded = .ok plan.dump := by
      rw [← hloads, htext]
      apply loadsBytes_encoded (by decide) (by decide)
      rw [← htext]
      exact hencode
    have hlength : (Payload.str (modelDumpJson floatText plan)).size =
        .ok encoded.length := by
      unfold Payload.size modelDumpJson
      dsimp only
      rw [hencode]
      rfl
    exact ⟨encoded, hencode, hsize, fromWire_of_loads hlength hsize hloads,
      fromWire_of_loads rfl hsize hoctets⟩
  · intro payload raw hraw hrepeats
    have hends := ends_fromWire payload
    cases hresult : fromWire payload with
    | error e =>
        rw [hresult] at hends
        exact ⟨e, rfl, hends⟩
    | ok plan =>
        rw [hresult] at hends
        rcases hends with ⟨v, hv⟩
        rcases loads_strict hv with ⟨hread, hkeys⟩
        rw [hraw] at hread
        rw [Except.ok.inj hread, hkeys] at hrepeats
        cases hrepeats

theorem representable_half : Representable doubleHalf :=
  representable_two_pow (by decide +kernel)

theorem representable_one : Representable doubleOne :=
  representable_two_pow (by decide +kernel)

theorem half_inUnit : InUnit (.finite false doubleHalf representable_half) :=
  ⟨fun h => absurd h Bool.false_ne_true, by decide +kernel⟩

theorem whole_inUnit : InUnit (.finite false doubleOne representable_one) :=
  ⟨fun h => absurd h Bool.false_ne_true, le_refl _⟩

/-- Half an intensity, and all of it. -/
def half : UnitFloat := ⟨_, half_inUnit⟩

def whole : UnitFloat := ⟨_, whole_inUnit⟩

theorem length_exactText_half : (exactText half.val).length = 3 := by
  show (exactText (.finite false doubleHalf representable_half)).length = 3
  rw [exactText, if_pos (Nat.mod_self _), Nat.div_self (by decide +kernel)]
  decide

theorem length_exactText_whole : (exactText whole.val).length = 3 := by
  have hdiv : doubleOne / doubleHalf = 2 := by decide +kernel
  show (exactText (.finite false doubleOne representable_one)).length = 3
  rw [exactText, if_pos (by decide +kernel), hdiv]
  decide

/-- A nod that turns into delight, and a question. -/
def nodSteps : List ExpressionStep :=
  [⟨⟨0, by decide⟩, .affirm, .subtle, half, ⟨1000, by decide⟩⟩,
    ⟨⟨1000, by decide⟩, .delight, .default, whole, ⟨1500, by decide⟩⟩,
    ⟨⟨3000, by decide⟩, .question, .default, half, ⟨500, by decide⟩⟩]

def nodPlan : ExpressionPlan where
  presentationId := ⟨Python.str "p1", by decide⟩
  responseId := ⟨Python.str "r1", by decide⟩
  maxDurationMs := ⟨3500, by decide⟩
  steps := ⟨nodSteps, by decide, rfl⟩
  timeline := by decide

/-- Well-formed, with a key repeated inside the inner object. -/
def repeatingPayload : Payload :=
  .str (Python.str "\x7b\"o\":\x7b\"a\":1,\"a\":2\x7d\x7d")

theorem from_wire_undoes_encoding_nod :
    fromWire (.str (modelDumpJson exactText nodPlan)) = .ok nodPlan ∧
      exists e, fromWire repeatingPayload = .error e ∧ e.isValueError = true := by
  rcases from_wire_undoes_encoding exactText floatNumerals_exactText
    with ⟨hplans, hrepeats⟩
  constructor
  · have hlength : forall step, step ∈ nodPlan.steps.val ->
        (exactText step.intensity.val).length ≤ 24 := by
      intro step hstep
      simp only [nodPlan, nodSteps, List.mem_cons, List.not_mem_nil,
        or_false] at hstep
      rcases hstep with rfl | rfl | rfl
      · exact length_exactText_half.trans_le (by decide)
      · exact length_exactText_whole.trans_le (by decide)
      · exact length_exactText_half.trans_le (by decide)
    rcases hplans nodPlan hlength with ⟨_, _, _, hread, _⟩
    exact hread
  · have hcheck : ((repeatingPayload.loads pairsHook).toOption.any fun raw =>
        !raw.all distinctKeys) = true := by
      decide +kernel
    cases hraw : repeatingPayload.loads pairsHook with
    | error e =>
        rw [hraw] at hcheck
        cases hcheck
    | ok raw =>
        rw [hraw] at hcheck
        exact hrepeats repeatingPayload raw hraw
          (by simpa [Except.toOption] using hcheck)

end Wire

end ExpressionPlan

end Presentation
end EidolonSdk
