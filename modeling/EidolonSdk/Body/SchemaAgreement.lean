import EidolonSdk.Body.CapabilityArguments

/-!
# The validator and JSON Schema

The declaration of a capability is read as JSON Schema with three deviations:
an integer is a number written as one, a rule binds under its own type only,
and a length is bounded by integers only.  The validator lets a value pass
exactly when it conforms in this sense, unless a truth value stands where the
code takes it for a number.
-/

namespace EidolonSdk
namespace Body

open Python Pydantic Logic
open Json (whole? whole_int)

/-!
## Readings
-/

/-- JSON Schema 2020-12.  Its regular expressions are not Python's, so what a
pattern finds is left open. -/
def jsonSchema (found : PyStr -> PyStr -> Prop) : Reading where
  equal := Json.Same
  integer v := (whole? v).isSome = true
  unconditional := True
  count := whole?
  bound b := b.isNumber = true
  found := found

def integer? : Json -> Option Int
  | .int n => some n
  | _ => none

/-- What a declaration means to the platform. -/
def declared (found : PyStr -> PyStr -> Prop) : Reading :=
  { jsonSchema found with
    integer := fun v => isInteger v = true
    unconditional := False
    count := integer? }

def boundKeys : List String :=
  ["minimum", "maximum", "exclusiveMinimum", "exclusiveMaximum", "minLength",
    "maxLength", "minItems", "maxItems"]

/-- A schema over a part of the value, with no pattern and without the slips of
the code: an `enum` that is `null`, a truth value for a bound, and a truth value
compared with a number. -/
structure Plain (sub : Members) (w : Json) : Prop where
  pattern : sub.get "pattern" = none
  enum : sub.get "enum" ≠ some .null
  bounds : forall key, key ∈ boundKeys -> forall b, sub.getOrNone key ≠ .bool b
  const : forall c, sub.get "const" = some c -> ¬ w.Mixed c
  enumValues : forall values v, sub.get "enum" = some (.array values) ->
    v ∈ values -> ¬ w.Mixed v

section Agreement

variable {re : Re} {found : PyStr -> PyStr -> Prop} {sub : Members} {w : Json}

theorem index_eq_integer (h : forall b, w ≠ .bool b) : w.index? = integer? w := by
  cases w with
  | bool b => exact absurd rfl (h b)
  | null => rfl
  | int n => rfl
  | float x => rfl
  | str s => rfl
  | array items => rfl
  | object members => rfl

theorem isReal_eq_isNumber (h : forall b, w ≠ .bool b) :
    w.isReal = w.isNumber := by
  cases w with
  | bool b => exact absurd rfl (h b)
  | null => rfl
  | int n => rfl
  | float x => rfl
  | str s => rfl
  | array items => rfl
  | object members => rfl

theorem constFits_iff (hplain : Plain sub w)
    (hsub : Json.IsJson (.object sub)) (hw : Json.IsJson w) :
    (executed re).ConstFits sub w <-> (declared found).ConstFits sub w := by
  have hequal : forall c, sub.get "const" = some c ->
      (w.equals c = true <-> w.Same c) := fun c hc =>
    Json.equals_iff_same hw (hsub.lookup hc) (hplain.const c hc)
  constructor
  · intro h c hc
    exact (hequal c hc).mp (h c hc)
  · intro h c hc
    exact (hequal c hc).mpr (h c hc)

theorem enumFits_iff (hplain : Plain sub w)
    (hsub : Json.IsJson (.object sub)) (hw : Json.IsJson w) :
    (executed re).EnumFits sub w <-> (declared found).EnumFits sub w := by
  have hequal : forall values v, sub.get "enum" = some (.array values) ->
      v ∈ values -> (w.equals v = true <-> w.Same v) := by
    intro values v hvalues hv
    have harray : Json.IsJson (.array values) := hsub.lookup hvalues
    exact Json.equals_iff_same hw (harray.item hv)
      (hplain.enumValues values v hvalues hv)
  constructor
  · intro h container hcontainer
    rcases h container hcontainer with ⟨values, heq, v, hv, hvw⟩
    subst heq
    exact ⟨values, rfl, v, hv, (hequal values v hcontainer hv).mp hvw⟩
  · intro h container hcontainer
    rcases h container hcontainer with ⟨values, heq, v, hv, hvw⟩
    subst heq
    exact ⟨values, rfl, v, hv, (hequal values v hcontainer hv).mpr hvw⟩

theorem lengthFits_iff (hplain : Plain sub w) {least most : String}
    (hleast : least ∈ boundKeys) (hmost : most ∈ boundKeys) {length : Nat} :
    (executed re).LengthFits sub least most length <->
      (declared found).LengthFits sub least most length := by
  have hbound : forall key, key ∈ boundKeys ->
      (sub.getOrNone key).index? = integer? (sub.getOrNone key) :=
    fun key hkey => index_eq_integer (hplain.bounds key hkey)
  unfold Reading.LengthFits executed declared
  simp only [hbound least hleast, hbound most hmost]

theorem numberFits_iff (hplain : Plain sub w) :
    (executed re).NumberFits sub w <-> (declared found).NumberFits sub w := by
  have hbound : forall key, key ∈ boundKeys ->
      (sub.getOrNone key).isReal = (sub.getOrNone key).isNumber :=
    fun key hkey => isReal_eq_isNumber (hplain.bounds key hkey)
  unfold Reading.NumberFits executed declared jsonSchema
  simp only [hbound "minimum" (by decide), hbound "maximum" (by decide),
    hbound "exclusiveMinimum" (by decide), hbound "exclusiveMaximum" (by decide)]

theorem patternFits (r : Reading) (hplain : Plain sub w) (s : PyStr) :
    r.PatternFits sub s := by
  intro pattern h
  unfold Members.getOrNone at h
  rw [hplain.pattern] at h
  cases h

theorem fits_iff (hplain : Plain sub w) (hsub : Json.IsJson (.object sub))
    (hw : Json.IsJson w) :
    (executed re).Fits sub w <-> (declared found).Fits sub w := by
  constructor
  · intro h
    exact
      { type := h.type
        const := (constFits_iff hplain hsub hw).mp h.const
        enum := (enumFits_iff hplain hsub hw).mp h.enum
        object := h.object
        array := fun hbind items hvalue =>
          (lengthFits_iff hplain (by decide) (by decide)).mp
            (h.array hbind items hvalue)
        string := fun hbind s hvalue =>
          ⟨(lengthFits_iff hplain (by decide) (by decide)).mp
              (h.string hbind s hvalue).left,
            patternFits _ hplain s⟩
        number := fun hbind hnumber =>
          (numberFits_iff hplain).mp (h.number hbind hnumber) }
  · intro h
    exact
      { type := h.type
        const := (constFits_iff hplain hsub hw).mpr h.const
        enum := (enumFits_iff hplain hsub hw).mpr h.enum
        object := h.object
        array := fun hbind items hvalue =>
          (lengthFits_iff hplain (by decide) (by decide)).mpr
            (h.array hbind items hvalue)
        string := fun hbind s hvalue =>
          ⟨(lengthFits_iff hplain (by decide) (by decide)).mpr
              (h.string hbind s hvalue).left,
            patternFits _ hplain s⟩
        number := fun hbind hnumber =>
          (numberFits_iff hplain).mpr (h.number hbind hnumber) }

end Agreement

/-!
## Where the deviations show
-/

def ruleKeys : List String :=
  ["required", "additionalProperties", "pattern"] ++ boundKeys

def lengthKeys : List String :=
  ["minLength", "maxLength", "minItems", "maxItems"]

/-- A schema and a part of the value on which none of the deviations shows: a
rule comes with its type, and a whole number is written as an integer. -/
structure Regular (sub : Members) (w : Json) : Prop where
  typed : sub.getOrNone "type" = .null -> declaredProperties sub = [] ∧
    sub.getOrNone "items" = .null ∧
    forall key, key ∈ ruleKeys -> sub.getOrNone key = .null
  integer : sub.getOrNone "type" = .str (str "integer") ->
    (whole? w).isSome = true -> isInteger w = true
  lengths : forall key, key ∈ lengthKeys ->
    whole? (sub.getOrNone key) = integer? (sub.getOrNone key)

section Deviations

variable {found : PyStr -> PyStr -> Prop} {sub : Members} {w : Json}

theorem typeFits_iff (hregular : Regular sub w) :
    (declared found).TypeFits sub w <-> (jsonSchema found).TypeFits sub w := by
  have hinteger : isInteger w = true -> (whole? w).isSome = true := by
    intro h
    cases w with
    | int n => rw [whole_int, Option.isSome_some]
    | null => cases h
    | bool b => cases h
    | float x => cases h
    | str s => cases h
    | array items => cases h
    | object members => cases h
  constructor
  · intro h
    rcases h with h | ⟨htype, h⟩ | h
    · exact Or.inl h
    · exact Or.inr (Or.inl ⟨htype, hinteger h⟩)
    · exact Or.inr (Or.inr h)
  · intro h
    rcases h with h | ⟨htype, h⟩ | h
    · exact Or.inl h
    · exact Or.inr (Or.inl ⟨htype, hregular.integer htype h⟩)
    · exact Or.inr (Or.inr h)

/-- A type that fits is the one the rules for the value bind under. -/
theorem binds_kind (h : (declared found).TypeFits sub w)
    (htyped : sub.getOrNone "type" ≠ .null) (hw : isInteger w = false) :
    (declared found).Binds sub (kind w) := by
  rcases h with h | ⟨_, h⟩ | h
  · exact absurd h htyped
  · have hinteger : isInteger w = true := h
    rw [hw] at hinteger
    cases hinteger
  · exact Or.inr h

theorem binds_number (h : (declared found).TypeFits sub w)
    (htyped : sub.getOrNone "type" ≠ .null) (hw : w.isNumber = true) :
    (declared found).Binds sub "integer" ∨
      (declared found).Binds sub "number" := by
  have hkind : kind w = "number" := by
    cases w with
    | int n => rfl
    | float x => rfl
    | null => cases hw
    | bool b => cases hw
    | str s => cases hw
    | array items => cases hw
    | object members => cases hw
  rcases h with h | ⟨h, _⟩ | h
  · exact absurd h htyped
  · exact Or.inl (Or.inr h)
  · rw [hkind] at h
    exact Or.inr (Or.inr h)

/-- No rule is broken where there is none. -/
theorem fits_of_absent (r : Reading) (hcount : r.count .null = none)
    (hbound : ¬ r.bound .null)
    (habsent : forall key, key ∈ ruleKeys -> sub.getOrNone key = .null) :
    (forall members, Reading.RequiredFits sub members ∧
      Reading.AdditionalFits sub members) ∧
    (forall least most length, least ∈ boundKeys -> most ∈ boundKeys ->
      r.LengthFits sub least most length) ∧
    (forall s, r.PatternFits sub s) ∧ forall value, r.NumberFits sub value := by
  have hbounds : forall key, key ∈ boundKeys -> sub.getOrNone key = .null :=
    fun key hkey => habsent key (List.mem_append_right _ hkey)
  have hrequired := habsent "required" (by decide)
  have hadditional := habsent "additionalProperties" (by decide)
  have hpattern := habsent "pattern" (by decide)
  refine ⟨fun members => ⟨?_, ?_⟩, ?_, ?_, ?_⟩
  · intro names h
    rw [hrequired] at h
    cases h
  · intro h
    rw [hadditional] at h
    cases h
  · intro least most length hleast hmost
    unfold Reading.LengthFits
    rw [hbounds least hleast, hbounds most hmost, hcount]
    exact ⟨nofun, nofun⟩
  · intro s pattern h
    rw [hpattern] at h
    cases h
  · intro value
    unfold Reading.NumberFits
    rw [hbounds "minimum" (by decide), hbounds "maximum" (by decide),
      hbounds "exclusiveMinimum" (by decide),
      hbounds "exclusiveMaximum" (by decide)]
    exact ⟨fun h => absurd h hbound, fun h => absurd h hbound,
      fun h => absurd h hbound, fun h => absurd h hbound⟩

theorem declared_lengthFits (hregular : Regular sub w) {least most : String}
    (hleast : least ∈ lengthKeys) (hmost : most ∈ lengthKeys) {length : Nat} :
    (declared found).LengthFits sub least most length <->
      (jsonSchema found).LengthFits sub least most length := by
  unfold Reading.LengthFits declared jsonSchema
  simp only [hregular.lengths least hleast, hregular.lengths most hmost]

theorem declared_fits (hregular : Regular sub w) :
    (declared found).Fits sub w <-> (jsonSchema found).Fits sub w := by
  constructor
  · intro h
    -- a rule that binds in JSON Schema only is not there
    have hrule : sub.getOrNone "type" = .null -> _ := fun htype =>
      fits_of_absent (jsonSchema found) rfl nofun (hregular.typed htype).right.right
    refine ⟨(typeFits_iff hregular).mp h.type, h.const, h.enum, ?_, ?_, ?_, ?_⟩
    · intro _ members hvalue
      by_cases htype : sub.getOrNone "type" = .null
      · exact (hrule htype).left members
      · subst hvalue
        exact h.object (binds_kind h.type htype rfl) members rfl
    · intro _ items hvalue
      by_cases htype : sub.getOrNone "type" = .null
      · exact (hrule htype).right.left _ _ _ (by decide) (by decide)
      · subst hvalue
        exact (declared_lengthFits hregular (by decide) (by decide)).mp
          (h.array (binds_kind h.type htype rfl) items rfl)
    · intro _ s hvalue
      by_cases htype : sub.getOrNone "type" = .null
      · exact ⟨(hrule htype).right.left _ _ _ (by decide) (by decide),
          (hrule htype).right.right.left s⟩
      · subst hvalue
        have hstring := h.string (binds_kind h.type htype rfl) s rfl
        exact ⟨(declared_lengthFits hregular (by decide) (by decide)).mp
          hstring.left, hstring.right⟩
    · intro _ hnumber
      by_cases htype : sub.getOrNone "type" = .null
      · exact (hrule htype).right.right.right w
      · exact h.number (binds_number h.type htype hnumber) hnumber
  · intro h
    have hbinds : forall name, (jsonSchema found).Binds sub name :=
      fun name => Or.inl trivial
    refine ⟨(typeFits_iff hregular).mpr h.type, h.const, h.enum, ?_, ?_, ?_, ?_⟩
    · intro _
      exact h.object (hbinds "object")
    · intro _ items hvalue
      exact (declared_lengthFits hregular (by decide) (by decide)).mpr
        (h.array (hbinds "array") items hvalue)
    · intro _ s hvalue
      have hstring := h.string (hbinds "string") s hvalue
      exact ⟨(declared_lengthFits hregular (by decide) (by decide)).mpr
        hstring.left, hstring.right⟩
    · intro _
      exact h.number (Or.inl (hbinds "integer"))

end Deviations

/-- Where none of the deviations shows, a declaration means what JSON Schema
says. -/
theorem declared_iff_jsonSchema {found : PyStr -> PyStr -> Prop}
    {schema value : Json}
    (hregular : forall sub w, Meets schema value sub w -> Regular sub w) :
    Conforms (declared found) schema value <->
      Conforms (jsonSchema found) schema value := by
  constructor
  · intro h
    apply h.reread
    · intro sub w hmeets
      exact (declared_fits (hregular sub w hmeets)).mp
    · intro sub w hmeets hfits hparts _
      have htyped := (hregular sub w hmeets).typed
      cases w with
      | object members =>
          exact binds_kind hfits.type
            (fun htype => hparts (htyped htype).left) rfl
      | array items =>
          exact binds_kind hfits.type
            (fun htype => hparts (htyped htype).right.left) rfl
      | null => exact hparts.elim
      | bool b => exact hparts.elim
      | int n => exact hparts.elim
      | float x => exact hparts.elim
      | str s => exact hparts.elim
  · intro h
    apply h.reread
    · intro sub w hmeets
      exact (declared_fits (hregular sub w hmeets)).mpr
    · intro sub w _ _ _ _
      exact Or.inl trivial

/-!
## Where they do
-/

def countSchema : Members :=
  [(str "type", .str (str "integer"))]

def sizeSchema : Members :=
  [(str "minimum", .int 5)]

def twoDouble : Double :=
  .finite false (2 * doubleOne) (by decide +kernel)

def zeroDouble : Double :=
  .finite false 0 representable_zero

def labelSchema : Members :=
  [(str "type", .str (str "string")), (str "minLength", .float twoDouble)]

def frameSchema : Members :=
  [(str "type", .str (str "object")),
    (str "properties", .object
      [(str "count", .object countSchema), (str "size", .object sizeSchema),
        (str "label", .object labelSchema)])]

theorem countSchema_accepted (accepts : Json -> Prop) :
    SchemaAccepted accepts countSchema where
  keywords := known_of_mem ["type"] rfl (by decide)
  type := Or.inr ⟨"integer", by decide, rfl⟩
  description := Or.inl rfl
  enum := Or.inl rfl
  properties := Or.inl rfl
  required := Or.inl rfl
  additional := Or.inl rfl
  items := Or.inl rfl

theorem sizeSchema_accepted (accepts : Json -> Prop) :
    SchemaAccepted accepts sizeSchema where
  keywords := known_of_mem ["minimum"] rfl (by decide)
  type := Or.inl rfl
  description := Or.inl rfl
  enum := Or.inl rfl
  properties := Or.inl rfl
  required := Or.inl rfl
  additional := Or.inl rfl
  items := Or.inl rfl

theorem labelSchema_accepted (accepts : Json -> Prop) :
    SchemaAccepted accepts labelSchema where
  keywords := known_of_mem ["type", "minLength"] rfl (by decide)
  type := Or.inr ⟨"string", by decide, rfl⟩
  description := Or.inl rfl
  enum := Or.inl rfl
  properties := Or.inl rfl
  required := Or.inl rfl
  additional := Or.inl rfl
  items := Or.inl rfl

set_option maxRecDepth 4000 in
theorem frameSchema_accepted :
    RootAccepted asciiInterpreter true frameSchema where
  serializable := ⟨_, _, rfl, rfl, by decide⟩
  typed _ := rfl
  node :=
    { keywords := known_of_mem ["type", "properties"] rfl (by decide)
      type := Or.inr ⟨"object", by decide, rfl⟩
      description := Or.inl rfl
      enum := Or.inl rfl
      properties := by
        refine Or.inr ⟨_, rfl, rfl, by decide, ?_⟩
        intro m hm
        simp only [List.mem_cons, List.not_mem_nil, or_false] at hm
        rcases hm with h | h | h
        · subst h
          exact ⟨⟨by decide, by decide⟩, countSchema_accepted _⟩
        · subst h
          exact ⟨⟨by decide, by decide⟩, sizeSchema_accepted _⟩
        · subst h
          exact ⟨⟨by decide, by decide⟩, labelSchema_accepted _⟩
      required := Or.inl rfl
      additional := Or.inl rfl
      items := Or.inl rfl }

def frameInput : DeclaredSchema asciiInterpreter "input_schema" true :=
  ⟨frameSchema, (guard_validateSchema _ _ _ _).passes_iff.mpr frameSchema_accepted⟩

def noPatterns : Re :=
  ⟨fun _ => .error .patternError⟩

/-- One member of the object the sample schema is about. -/
def frameValue (name : String) (v : Json) : Json :=
  .object [(str name, v)]

def frameProperties : Members :=
  [(str "count", .object countSchema), (str "size", .object sizeSchema),
    (str "label", .object labelSchema)]

/-- A schema that has nothing to say but its type. -/
theorem fits_of_type {sub : Members} {w : Json} (r : Reading)
    (hcount : r.count .null = none) (hbound : ¬ r.bound .null)
    (hconst : sub.get "const" = none) (henum : sub.get "enum" = none)
    (habsent : (ruleKeys.all fun key => Wire.isNull (sub.getOrNone key)) = true)
    (htype : r.TypeFits sub w) : r.Fits sub w := by
  have hnull : forall key, key ∈ ruleKeys -> sub.getOrNone key = .null := by
    intro key hkey
    have h := List.all_eq_true.mp habsent key hkey
    cases hvalue : sub.getOrNone key with
    | null => rfl
    | bool b => simp [hvalue, Wire.isNull] at h
    | int n => simp [hvalue, Wire.isNull] at h
    | float x => simp [hvalue, Wire.isNull] at h
    | str s => simp [hvalue, Wire.isNull] at h
    | array items => simp [hvalue, Wire.isNull] at h
    | object members => simp [hvalue, Wire.isNull] at h
  rcases fits_of_absent r hcount hbound hnull with
    ⟨hobject, hlength, hpattern, hnumber⟩
  refine ⟨htype, ?_, ?_, fun _ members _ => hobject members,
    fun _ items _ => hlength _ _ _ (by decide) (by decide),
    fun _ s _ => ⟨hlength _ _ _ (by decide) (by decide), hpattern s⟩,
    fun _ _ => hnumber w⟩
  · intro c hc
    rw [hconst] at hc
    cases hc
  · intro container hcontainer
    rw [henum] at hcontainer
    cases hcontainer

theorem count_member {name : PyStr} {child v w : Json}
    (hmem : (name, child) ∈ frameProperties)
    (hlookup : List.lookup name [(str "count", w)] = some v) :
    child = .object countSchema ∧ w = v := by
  have hother : forall key : String, key ≠ "count" ->
      List.lookup (str key) [(str "count", w)] = none := by
    intro key hkey
    exact (Members.get_cons "count" key w []).trans (if_neg hkey)
  simp only [frameProperties, List.mem_cons, List.not_mem_nil, or_false] at hmem
  rcases hmem with h | h | h
  · cases h
    rw [List.lookup_cons_self] at hlookup
    exact ⟨rfl, Option.some.inj hlookup⟩
  · cases h
    rw [hother "size" (by decide)] at hlookup
    cases hlookup
  · cases h
    rw [hother "label" (by decide)] at hlookup
    cases hlookup

theorem frame_child {name : String} {child v : Json}
    (hmem : (str name, child) ∈ frameProperties)
    (h : Conforms (jsonSchema fun _ _ => True) (.object frameInput.val)
      (frameValue name v)) :
    Conforms (jsonSchema fun _ _ => True) child v := by
  cases h with
  | mk _ properties _ =>
      exact properties _ (str name) child v (Or.inl trivial) rfl hmem
        List.lookup_cons_self

theorem plain_of_absent {sub : Members} {w : Json}
    (h : (["pattern", "enum", "const"].all fun key =>
      (sub.get key).isNone) = true)
    (hbounds : (boundKeys.all fun key => Wire.isNull (sub.getOrNone key)) = true) :
    Plain sub w := by
  simp only [List.all_cons, List.all_nil, Bool.and_true, Bool.and_eq_true,
    Option.isNone_iff_eq_none] at h
  rcases h with ⟨hpattern, henum, hconst⟩
  refine ⟨hpattern, ?_, ?_, ?_, ?_⟩
  · rw [henum]
    exact nofun
  · intro key hkey b hb
    have hnull := List.all_eq_true.mp hbounds key hkey
    rw [hb] at hnull
    cases hnull
  · rw [hconst]
    exact nofun
  · rw [henum]
    exact nofun

/-- A whole number written as a float, a rule without its type, and a bound
written as a float. -/
theorem validator_departs_from_json_schema :
    (validateCapabilityArguments asciiInterpreter noPatterns frameInput.val
        (frameValue "count" (.float zeroDouble)) ≠ .ok none ∧
      Conforms (jsonSchema fun _ _ => True) (.object frameInput.val)
        (frameValue "count" (.float zeroDouble))) ∧
    (validateCapabilityArguments asciiInterpreter noPatterns frameInput.val
        (frameValue "size" (.int 3)) = .ok none ∧
      ¬ Conforms (jsonSchema fun _ _ => True) (.object frameInput.val)
        (frameValue "size" (.int 3))) ∧
    (validateCapabilityArguments asciiInterpreter noPatterns frameInput.val
        (frameValue "label" (.str [])) = .ok none ∧
      ¬ Conforms (jsonSchema fun _ _ => True) (.object frameInput.val)
        (frameValue "label" (.str []))) := by
  refine ⟨⟨?_, ?_⟩, ⟨?_, ?_⟩, ?_, ?_⟩
  · intro h
    have hrefused : validateCapabilityArguments asciiInterpreter noPatterns
        frameInput.val (frameValue "count" (.float zeroDouble)) =
          .ok (some (str "$.count expected integer")) := rfl
    rw [hrefused] at h
    cases h
  · refine Conforms.mk
      (fits_of_type _ rfl nofun rfl rfl rfl (Or.inr (Or.inr rfl))) ?_ ?_
    · intro members name child v _ hvalue hmem hlookup
      cases hvalue
      rcases count_member hmem hlookup with ⟨hchild, hv⟩
      subst hchild
      subst hv
      have hwhole : (whole? (.float zeroDouble)).isSome = true := by
        decide +kernel
      refine Conforms.mk ?_ nofun nofun
      exact fits_of_type _ rfl nofun rfl rfl rfl (Or.inr (Or.inl ⟨rfl, hwhole⟩))
    · intro items v _ hvalue
      cases hvalue
  · rfl
  · intro h
    have hsize : Conforms _ (.object sizeSchema) (.int 3) :=
      frame_child (by simp [frameProperties]) h
    cases hsize with
    | mk fits _ _ =>
        have hless := (fits.number (Or.inl (Or.inl trivial)) rfl).left rfl
        have hlt : (3 * doubleOne : Int) < 5 * doubleOne := by
          have hone := doubleOne_pos
          omega
        rw [(Json.less_iff rfl rfl).mpr hlt] at hless
        cases hless
  · rfl
  · intro h
    have hlabel : Conforms _ (.object labelSchema) (.str []) :=
      frame_child (by simp [frameProperties]) h
    cases hlabel with
    | mk fits _ _ =>
        have hleast := (fits.string (Or.inl trivial) [] rfl).left.left 2
          (by decide +kernel)
        exact absurd hleast (by decide)

/-- The validator means what the declaration says. -/
theorem validator_means_declaration (I : Interpreter) (re : Re)
    (found : PyStr -> PyStr -> Prop) (field : String) (requireObject : Bool)
    (schema : DeclaredSchema I field requireObject) (value : Json)
    (hschema : Json.IsJson (.object schema.val)) (hvalue : Json.IsJson value)
    (hplain : forall sub w, Meets (.object schema.val) value sub w ->
      Plain sub w) :
    validateCapabilityArguments I re schema.val value = .ok none <->
      Conforms (declared found) (.object schema.val) value := by
  rw [schema.passes_iff re value]
  have hfits : forall sub w, Meets (.object schema.val) value sub w ->
      ((executed re).Fits sub w <-> (declared found).Fits sub w) := by
    intro sub w h
    rcases h.isJson hschema hvalue with ⟨hsub, hw⟩
    exact fits_iff (hplain sub w h) hsub hw
  constructor
  · intro h
    exact h.reread (fun sub w hmeets => (hfits sub w hmeets).mp)
      (fun _ _ _ _ _ hbind => hbind)
  · intro h
    exact h.reread (fun sub w hmeets => (hfits sub w hmeets).mpr)
      (fun _ _ _ _ _ hbind => hbind)

/-- A capability whose input is a count, called with three. -/
theorem validator_means_declaration_count :
    validateCapabilityArguments asciiInterpreter noPatterns frameInput.val
        (frameValue "count" (.int 3)) = .ok none <->
      Conforms (declared fun _ _ => True) (.object frameInput.val)
        (frameValue "count" (.int 3)) := by
  apply validator_means_declaration
  · decide
  · decide
  · intro sub w h
    cases h with
    | here => exact plain_of_absent rfl rfl
    | property hmem hlookup hmeets =>
        rcases count_member hmem hlookup with ⟨hchild, hv⟩
        subst hchild
        subst hv
        cases hmeets with
        | here => exact plain_of_absent rfl rfl

end Body
end EidolonSdk
