import Mathlib.Data.List.Infix
import EidolonSdk.Body.CapabilityManifest
import EidolonSdk.Body.SchemaMeaning

/-!
# Checking arguments against a declared schema

The validator and the schema gate are two recursions over one tree, written
separately.  For a schema the gate accepted, the validator lets a value pass
exactly when the value conforms, and raises an exception exactly when it comes
to an {lit}`enum` that is {lit}`null` or to a pattern that does not compile.
-/

namespace EidolonSdk
namespace Body

open Python Pydantic Logic

/-- `re`: a pattern compiles to a search, or is no regular expression. -/
structure Re where
  compile : PyStr -> Except PyException (PyStr -> Bool)

/-!
## The validator
-/

section Keywords

variable (I : Interpreter) (re : Re) (path : PyStr)

/-- `isinstance(value, int) and not isinstance(value, bool)`. -/
def isInteger : Json -> Bool
  | .int _ => true
  | _ => false

/-- The table `_matches_json_type` looks the expected type up in. -/
def jsonTypeTests (value : Json) : List (String × Bool) :=
  [("object", kind value == "object"),
    ("array", kind value == "array"),
    ("string", kind value == "string"),
    ("integer", isInteger value),
    ("number", value.isNumber),
    ("boolean", kind value == "boolean"),
    ("null", kind value == "null")]

def matchesJsonType (value expected : Json) : Except PyException Bool :=
  match expected.hashKey with
  | none => throw .typeError
  | some key =>
      match (jsonTypeTests value).find? fun test =>
        decide (key = .text (str test.fst)) with
      | some test => pure test.snd
      | none => throw .keyError

/-- A refusal whose text shows a value of the schema. -/
def refuseShowing (c : Prop) [Decidable c] (before : PyStr) (shown : Json)
    (after : PyStr) : Except Stop Unit :=
  if c then do
    let text ← uncaught (shown.format I)
    refuse (before ++ text ++ after)
  else pure ()

def typeArgument (value : Json) : Json -> Except Stop Unit
  | .null => pure ()
  | expected => do
      let matched ← uncaught (matchesJsonType value expected)
      refuseShowing I (matched = false) (path ++ str " expected ") expected []

def constArgument (value : Json) : Option Json -> Except Stop Unit
  | none => pure ()
  | some constant =>
      refuseIf (value.equals constant = false)
        (path ++ str " must equal the declared constant")

/-- `value in container`. -/
def isIn (value : Json) : Json -> Except PyException Bool
  | .array items => pure (value.elementOf items)
  | .object members =>
      match value.hashKey with
      | some key => pure (members.any fun m => decide (key = .text m.fst))
      | none => throw .typeError
  | .str s =>
      match value with
      | .str t => pure (decide (t <:+: s))
      | _ => throw .typeError
  | _ => throw .typeError

def enumArgument (value : Json) : Option Json -> Except Stop Unit
  | none => pure ()
  | some container => do
      let found ← uncaught (isIn value container)
      refuseIf (found = false)
        (path ++ str " must be one of the declared enum values")

/-- `value is False`. -/
def isFalse : Json -> Bool
  | .bool b => !b
  | _ => false

/-- `schema.get("properties") or {}`. -/
def propertiesOf (v : Json) : Except PyException Members :=
  match v with
  | .object properties => pure properties
  | v => if v.truthy then throw .attributeError else pure []

/-- `schema.get("required") or []`, as the names that are joined. -/
def requiredOf (v : Json) : Except PyException (List PyStr) := do
  let items ← if v.truthy then v.tuple else pure []
  match strings? items with
  | some names => pure names
  | none => throw .typeError

/-- `if expected in words:` -/
def whenType (expected : Json) (words : List String) (x : Except Stop Unit) :
    Except Stop Unit :=
  if words.any fun word => isWord expected word then x else pure ()

/-- `node` checks the value of one property. -/
def membersArguments (node : PyStr -> Json -> Json -> Except Stop Unit)
    (schema members : Members) : Except Stop Unit := do
  let properties ← uncaught (propertiesOf (schema.getOrNone "properties"))
  let required ← uncaught (requiredOf (schema.getOrNone "required"))
  let missing := required.filter fun name => !members.keys.contains name
  refuseIf (missing ≠ [])
    (path ++ str " missing required: " ++ (str ", ").intercalate missing)
  let extra := sortedBy id
    (members.keys.filter fun key => !(Members.keys properties).contains key)
  refuseIf (isFalse (schema.getOrNone "additionalProperties") = true ∧
      extra ≠ [])
    (path ++ str " unexpected properties: " ++ (str ", ").intercalate extra)
  properties.forM fun (name, child) =>
    match members.lookup name with
    | none => pure ()
    | some v => node (path ++ str "." ++ name) child v

/-- Here and below: a value that is checked for its type has that type, because
it matched. -/
def objectArguments (node : PyStr -> Json -> Json -> Except Stop Unit)
    (schema : Members) : Json -> Except Stop Unit
  | .object members => membersArguments path node schema members
  | _ => pure ()

def leastArgument (schema : Members) (least unit : String) (length : Nat) :
    Except Stop Unit :=
  match (schema.getOrNone least).index? with
  | some n =>
      refuseShowing I ((length : Int) < n) (path ++ str " must contain at least ")
        (schema.getOrNone least) (str unit)
  | none => pure ()

def mostArgument (schema : Members) (most unit : String) (length : Nat) :
    Except Stop Unit :=
  match (schema.getOrNone most).index? with
  | some n =>
      refuseShowing I (n < (length : Int)) (path ++ str " must contain at most ")
        (schema.getOrNone most) (str unit)
  | none => pure ()

def itemsArguments (node : PyStr -> Json -> Json -> Except Stop Unit)
    (items : List Json) : Json -> Except Stop Unit
  | .null => pure ()
  | child =>
      items.zipIdx.forM fun (item, index) =>
        node (path ++ str "[" ++ str (toString index) ++ str "]") child item

def elementsArguments (node : PyStr -> Json -> Json -> Except Stop Unit)
    (schema : Members) (items : List Json) : Except Stop Unit := do
  leastArgument I path schema "minItems" " items" items.length
  mostArgument I path schema "maxItems" " items" items.length
  itemsArguments path node items (schema.getOrNone "items")

def arrayArguments (node : PyStr -> Json -> Json -> Except Stop Unit)
    (schema : Members) : Json -> Except Stop Unit
  | .array items => elementsArguments I path node schema items
  | _ => pure ()

def patternArgument (s : PyStr) : Json -> Except Stop Unit
  | .str pattern => do
      let search ← uncaught (re.compile pattern)
      refuseIf (search s = false)
        (path ++ str " does not match the declared pattern")
  | _ => pure ()

def textArguments (schema : Members) (s : PyStr) : Except Stop Unit := do
  leastArgument I path schema "minLength" " characters" s.length
  mostArgument I path schema "maxLength" " characters" s.length
  patternArgument re path s (schema.getOrNone "pattern")

def stringArguments (schema : Members) : Json -> Except Stop Unit
  | .str s => textArguments I re path schema s
  | _ => pure ()

def numberArguments (schema : Members) (value : Json) : Except Stop Unit := do
  let minimum := schema.getOrNone "minimum"
  let maximum := schema.getOrNone "maximum"
  let exclusiveMinimum := schema.getOrNone "exclusiveMinimum"
  let exclusiveMaximum := schema.getOrNone "exclusiveMaximum"
  refuseShowing I (minimum.isReal = true ∧ value.less minimum = true)
    (path ++ str " must be greater than or equal to ") minimum []
  refuseShowing I (maximum.isReal = true ∧ maximum.less value = true)
    (path ++ str " must be less than or equal to ") maximum []
  refuseShowing I
    (exclusiveMinimum.isReal = true ∧ value.atMost exclusiveMinimum = true)
    (path ++ str " must be greater than ") exclusiveMinimum []
  refuseShowing I
    (exclusiveMaximum.isReal = true ∧ exclusiveMaximum.atMost value = true)
    (path ++ str " must be less than ") exclusiveMaximum []

/-- One call.  A text is returned at once; it is never empty, so `if error`
asks whether there is one.  `node` is the call for a part of the value. -/
def schemaArguments (node : PyStr -> Json -> Json -> Except Stop Unit)
    (schema : Members) (value : Json) : Except Stop Unit := do
  let expected := schema.getOrNone "type"
  typeArgument I path value expected
  constArgument path value (schema.get "const")
  enumArgument path value (schema.get "enum")
  whenType expected ["object"] (objectArguments path node schema value)
  whenType expected ["array"] (arrayArguments I path node schema value)
  whenType expected ["string"] (stringArguments I re path schema value)
  whenType expected ["integer", "number"] (numberArguments I path schema value)

end Keywords

section Calls

variable (I : Interpreter) (re : Re)

/-- The first argument is how many calls the interpreter has room for. -/
def argumentsNode : Nat -> PyStr -> Json -> Json -> Except Stop Unit
  | 0, _, _, _ => throw (.raised .recursionError)
  | frames + 1, path, .object schema, value =>
      schemaArguments I re path (argumentsNode frames) schema value
  | _ + 1, _, _, _ => throw (.raised .attributeError)

/-- `sys.getrecursionlimit()`. -/
def recursionLimit : Nat := 1000

def validateCapabilityArguments (schema : Members) (value : Json) :
    Except PyException (Option PyStr) :=
  match argumentsNode I re recursionLimit (str "$") (.object schema) value with
  | .ok () => .ok none
  | .error (.refused text) => .ok (some text)
  | .error (.raised e) => .error e

end Calls

/-!
## Where the validator gets into trouble
-/

/-- The schema as it is executed: Python's equality, integers by their type,
truth values as bounds, and rules that bind under their own type only. -/
def executed (re : Re) : Reading where
  equal v w := v.equals w = true
  integer v := isInteger v = true
  unconditional := False
  count := Json.index?
  bound b := b.isReal = true
  found pattern s := exists search, re.compile pattern = .ok search ∧
    search s = true

/-- What comes before the part for one type. -/
structure HeadFits (r : Reading) (schema : Members) (value : Json) : Prop where
  type : r.TypeFits schema value
  const : r.ConstFits schema value
  enum : r.EnumFits schema value

/-- The validator comes to an `enum` that is `null` or to a pattern that does
not compile: everything before it conforms. -/
inductive Trouble (re : Re) : Json -> Json -> Prop where
  | nullEnum {schema : Members} {value : Json} :
      (executed re).TypeFits schema value ->
      (executed re).ConstFits schema value ->
      schema.get "enum" = some .null -> Trouble re (.object schema) value
  | pattern {schema : Members} {s pattern : PyStr} {e : PyException} :
      HeadFits (executed re) schema (.str s) ->
      schema.getOrNone "type" = .str (str "string") ->
      (executed re).LengthFits schema "minLength" "maxLength" s.length ->
      schema.getOrNone "pattern" = .str pattern ->
      re.compile pattern = .error e -> Trouble re (.object schema) (.str s)
  | property {schema members front back : Members} {name : PyStr}
      {child v : Json} :
      HeadFits (executed re) schema (.object members) ->
      schema.getOrNone "type" = .str (str "object") ->
      Reading.RequiredFits schema members ->
      Reading.AdditionalFits schema members ->
      declaredProperties schema = front ++ (name, child) :: back ->
      (forall other sub w, (other, sub) ∈ front ->
        members.lookup other = some w -> Conforms (executed re) sub w) ->
      members.lookup name = some v -> Trouble re child v ->
      Trouble re (.object schema) (.object members)
  | item {schema : Members} {front back : List Json} {v : Json} :
      HeadFits (executed re) schema (.array (front ++ v :: back)) ->
      schema.getOrNone "type" = .str (str "array") ->
      (executed re).LengthFits schema "minItems" "maxItems"
        (front ++ v :: back).length ->
      (forall w, w ∈ front ->
        Conforms (executed re) (schema.getOrNone "items") w) ->
      schema.getOrNone "items" ≠ .null ->
      Trouble re (schema.getOrNone "items") v ->
      Trouble re (.object schema) (.array (front ++ v :: back))

/-!
## One guard for each keyword
-/

section Guards

variable {I : Interpreter} {re : Re} {path : PyStr}

theorem guard_refuseShowing {c : Prop} [Decidable c] {before after : PyStr}
    {shown : Json} (hshort : shown.all Json.shortInteger = true) :
    Guard (refuseShowing I c before shown after) Stop.IsRaised False (¬ c) := by
  unfold refuseShowing
  rw [Json.format_eq_ok hshort]
  exact guard_refuseIf c (before ++ shown.text I ++ after)

theorem matchesJsonType_str {value : Json} {name : String} :
    matchesJsonType value (.str (str name)) =
      match (jsonTypeTests value).find? fun test => test.fst == name with
      | some test => .ok test.snd
      | none => .error .keyError := by
  have hkey : forall test : String × Bool,
      decide (Json.HashKey.text (str name) = .text (str test.fst)) =
        (test.fst == name) := by
    intro test
    rw [Bool.eq_iff_iff, decide_eq_true_iff, beq_iff_eq,
      Json.HashKey.text.injEq, str_inj, eq_comm]
  simp only [matchesJsonType, Json.hashKey_str, hkey]
  rfl

theorem matchesJsonType_name (value : Json) {name : String}
    (hname : name ∈ jsonTypes) :
    exists matched, matchesJsonType value (.str (str name)) = .ok matched ∧
      (matched = true <->
        name = "integer" ∧ isInteger value = true ∨ name = kind value) := by
  rw [matchesJsonType_str]
  simp only [jsonTypes, List.mem_cons, List.not_mem_nil, or_false] at hname
  rcases hname with h | h | h | h | h | h | h
  all_goals subst h
  · exact ⟨kind value == "object", rfl, by cases value <;> simp [kind]⟩
  · exact ⟨kind value == "array", rfl, by cases value <;> simp [kind]⟩
  · exact ⟨kind value == "string", rfl, by cases value <;> simp [kind]⟩
  · exact ⟨isInteger value, rfl, by cases value <;> simp [kind]⟩
  · exact ⟨value.isNumber, rfl, by cases value <;> simp [Json.isNumber, kind]⟩
  · exact ⟨kind value == "boolean", rfl, by cases value <;> simp [kind]⟩
  · exact ⟨kind value == "null", rfl, by cases value <;> simp [kind]⟩

theorem guard_typeArgument {expected value : Json}
    (hexpected : TypeAccepted expected) :
    Guard (typeArgument I path value expected) Stop.IsRaised False
      (expected = .null ∨
        expected = .str (str "integer") ∧ isInteger value = true ∨
        expected = .str (str (kind value))) := by
  rcases hexpected with h | ⟨name, hname, h⟩
  · subst h
    exact guard_pure.iff Iff.rfl (iff_of_true trivial (Or.inl rfl))
  · subst h
    rcases matchesJsonType_name value hname with
      ⟨matched, hmatched, hiff⟩
    have hshow : Guard (refuseShowing I (matched = false)
        (path ++ str " expected ") (.str (str name)) []) Stop.IsRaised False
        (¬ matched = false) := guard_refuseShowing rfl
    have hrun : typeArgument I path value (.str (str name)) =
        refuseShowing I (matched = false) (path ++ str " expected ")
          (.str (str name)) [] := by
      simp only [typeArgument, hmatched]
      rfl
    rw [hrun]
    apply hshow.iff Iff.rfl
    rw [Bool.not_eq_false, hiff]
    simp

theorem guard_constArgument {value : Json} {constant : Option Json} :
    Guard (constArgument path value constant) Stop.IsRaised False
      (forall c, constant = some c -> value.equals c = true) := by
  cases constant with
  | none => exact guard_pure.iff Iff.rfl (iff_of_true trivial nofun)
  | some c =>
      apply (guard_refuseIf _ _).iff Iff.rfl
      simp

theorem guard_enumArgument {value : Json} {container : Option Json}
    (hcontainer : EnumAccepted (container.getD .null)) :
    Guard (enumArgument path value container) Stop.IsRaised
      (container = some .null)
      (forall c, container = some c -> exists values, c = .array values ∧
        exists v, v ∈ values ∧ value.equals v = true) := by
  cases container with
  | none =>
      exact guard_pure.iff (iff_of_false id nofun) (iff_of_true trivial nofun)
  | some c =>
      rcases hcontainer with h | ⟨values, h, _⟩
      · have hnull : c = .null := h
        subst hnull
        exact (guard_throw (Stop.raised .typeError)).iff
          (iff_of_true trivial rfl) (by simp)
      · have harray : c = .array values := h
        subst harray
        apply (guard_refuseIf (value.elementOf values = false) _).iff
        · simp
        · simp [Json.elementOf]

theorem guard_whenType {expected : Json} {words : List String}
    {x : Except Stop Unit} {escapes passes : Prop}
    (hx : Guard x Stop.IsRaised escapes passes) :
    Guard (whenType expected words x) Stop.IsRaised
      ((exists word, word ∈ words ∧ expected = .str (str word)) ∧ escapes)
      ((exists word, word ∈ words ∧ expected = .str (str word)) -> passes) := by
  have hwords : (words.any fun word => isWord expected word) = true <->
      exists word, word ∈ words ∧ expected = .str (str word) := by
    simp [isWord_iff]
  unfold whenType
  rw [← hwords]
  exact Guard.when fun _ => hx

/-!
## Objects
-/

section Objects

variable {schema members : Members} {accepts : Json -> Prop}

theorem propertiesOf_eq {expected : Json}
    (h : PropertiesAccepted accepts expected (schema.getOrNone "properties")) :
    propertiesOf (schema.getOrNone "properties") =
      .ok (declaredProperties schema) := by
  unfold declaredProperties
  rcases h with h | ⟨properties, h, _⟩
  · rw [h]
    rfl
  · rw [h]
    rfl

theorem requiredOf_names (names : List PyStr) :
    requiredOf (.array (names.map .str)) = .ok names := by
  have hnames : strings? (names.map .str) = some names :=
    strings?_eq_some.mpr rfl
  cases names with
  | nil => rfl
  | cons name rest =>
      show (match strings? ((name :: rest).map .str) with
        | some names => pure names
        | none => throw .typeError : Except PyException (List PyStr)) = _
      rw [hnames]
      rfl

/-- What is missing is refused. -/
theorem requiredOf_eq (members : Members) {properties : Json}
    (h : RequiredAccepted properties (schema.getOrNone "required")) :
    exists names, requiredOf (schema.getOrNone "required") = .ok names ∧
      (Reading.RequiredFits schema members <->
        forall name, name ∈ names -> name ∈ members.keys) := by
  unfold Reading.RequiredFits
  rcases h with h | ⟨names, _, h, _⟩
  · rw [h]
    exact ⟨[], rfl, iff_of_true nofun nofun⟩
  · rw [h]
    refine ⟨names, requiredOf_names names, ?_⟩
    constructor
    · intro hall
      exact hall names rfl
    · intro hall names' heq
      have hnames : names' = names := by
        have hsome := strings?_eq_some.mpr (Json.array.inj heq)
        rw [strings?_eq_some.mpr rfl] at hsome
        exact (Option.some.inj hsome).symm
      rw [hnames]
      exact hall

theorem isFalse_iff {v : Json} : isFalse v = true <-> v = .bool false := by
  cases v with
  | bool b => simp [isFalse]
  | null => simp [isFalse]
  | int n => simp [isFalse]
  | float x => simp [isFalse]
  | str s => simp [isFalse]
  | array items => simp [isFalse]
  | object ms => simp [isFalse]

theorem extra_eq_nil_iff {properties : Members} :
    ¬ sortedBy id
        (members.keys.filter fun key => !(Members.keys properties).contains key)
        ≠ [] <->
      forall key, key ∈ members.keys -> key ∈ properties.keys := by
  rw [not_not, ← List.length_eq_zero_iff, (sortedBy_perm id _).length_eq,
    List.length_eq_zero_iff, List.filter_eq_nil_iff]
  simp

variable {node : PyStr -> Json -> Json -> Except Stop Unit}
variable {trouble conforms : Json -> Json -> Prop}

theorem guard_membersArguments {expected : Json}
    (hproperties : PropertiesAccepted accepts expected
      (schema.getOrNone "properties"))
    (hrequired : RequiredAccepted (schema.getOrNone "properties")
      (schema.getOrNone "required"))
    (hnode : forall path name child v, (name, child) ∈ declaredProperties schema ->
      Guard (node path child v) Stop.IsRaised (trouble child v)
        (conforms child v)) :
    Guard (membersArguments path node schema members) Stop.IsRaised
      (Reading.RequiredFits schema members ∧
        Reading.AdditionalFits schema members ∧
        Stops
          (fun m => exists v, members.lookup m.fst = some v ∧ trouble m.snd v)
          (fun m => forall v, members.lookup m.fst = some v -> conforms m.snd v)
          (declaredProperties schema))
      (Reading.RequiredFits schema members ∧
        Reading.AdditionalFits schema members ∧
        forall m, m ∈ declaredProperties schema ->
          forall v, members.lookup m.fst = some v -> conforms m.snd v) := by
  rcases requiredOf_eq members hrequired with ⟨names, hnames, hfits⟩
  have hbody : forall m, m ∈ declaredProperties schema ->
      Guard (match members.lookup m.fst with
          | none => pure ()
          | some v => node (path ++ str "." ++ m.fst) m.snd v)
        Stop.IsRaised
        (exists v, members.lookup m.fst = some v ∧ trouble m.snd v)
        (forall v, members.lookup m.fst = some v -> conforms m.snd v) := by
    intro m hm
    cases members.lookup m.fst with
    | none => exact guard_pure.iff (by simp) (by simp)
    | some v => exact (hnode _ m.fst m.snd v hm).iff (by simp) (by simp)
  have hmissing : ¬ (names.filter fun name => !members.keys.contains name) ≠ [] <->
      Reading.RequiredFits schema members := by
    rw [hfits, not_not, List.filter_eq_nil_iff]
    simp
  have hextra : ¬ (isFalse (schema.getOrNone "additionalProperties") = true ∧
        sortedBy id (members.keys.filter fun key =>
          !(Members.keys (declaredProperties schema)).contains key) ≠ []) <->
      Reading.AdditionalFits schema members := by
    rw [not_and, isFalse_iff, extra_eq_nil_iff]
    exact Iff.rfl
  unfold membersArguments
  rw [propertiesOf_eq hproperties, hnames]
  apply ((guard_refuseIf _ _).andThen fun _ =>
    (guard_refuseIf _ _).andThen fun _ => guard_forM hbody).iff
  · rw [hmissing, hextra, false_or, false_or]
  · rw [hmissing, hextra]

end Objects

/-!
## Arrays, strings and numbers
-/

section Rules

variable {schema : Members}

theorem short_getOrNone (hshort : (Json.object schema).all Json.shortInteger = true)
    (key : String) : (schema.getOrNone key).all Json.shortInteger = true := by
  by_cases hnull : schema.getOrNone key = .null
  · rw [hnull]
    rfl
  · exact Json.all_getOrNone hshort rfl hnull

theorem guard_leastArgument
    (hshort : (Json.object schema).all Json.shortInteger = true)
    {least unit : String} {length : Nat} :
    Guard (leastArgument I path schema least unit length) Stop.IsRaised False
      (forall n, (schema.getOrNone least).index? = some n -> n ≤ length) := by
  unfold leastArgument
  cases (schema.getOrNone least).index? with
  | none => exact guard_pure.iff Iff.rfl (by simp)
  | some n =>
      apply (guard_refuseShowing (short_getOrNone hshort least)).iff Iff.rfl
      simp

theorem guard_mostArgument
    (hshort : (Json.object schema).all Json.shortInteger = true)
    {most unit : String} {length : Nat} :
    Guard (mostArgument I path schema most unit length) Stop.IsRaised False
      (forall n, (schema.getOrNone most).index? = some n -> length ≤ n) := by
  unfold mostArgument
  cases (schema.getOrNone most).index? with
  | none => exact guard_pure.iff Iff.rfl (by simp)
  | some n =>
      apply (guard_refuseShowing (short_getOrNone hshort most)).iff Iff.rfl
      simp

variable {node : PyStr -> Json -> Json -> Except Stop Unit}
variable {trouble conforms : Json -> Json -> Prop}

theorem guard_itemsArguments {items : List Json} {child : Json}
    (hnode : child ≠ .null -> forall path v, v ∈ items ->
      Guard (node path child v) Stop.IsRaised (trouble child v)
        (conforms child v)) :
    Guard (itemsArguments path node items child) Stop.IsRaised
      (child ≠ .null ∧ Stops (trouble child) (conforms child) items)
      (child ≠ .null -> forall v, v ∈ items -> conforms child v) := by
  have hloop : child ≠ .null ->
      Guard (items.zipIdx.forM fun (item, index) =>
          node (path ++ str "[" ++ str (toString index) ++ str "]") child item)
        Stop.IsRaised
        (child ≠ .null ∧ Stops (trouble child) (conforms child) items)
        (child ≠ .null -> forall v, v ∈ items -> conforms child v) := by
    intro hnull
    exact (guard_forM_zipIdx fun v index hv => hnode hnull _ v hv).iff
      (by simp [hnull]) (by simp [hnull])
  cases child with
  | null => exact guard_pure.iff (by simp) (by simp)
  | bool b => exact hloop nofun
  | int n => exact hloop nofun
  | float x => exact hloop nofun
  | str s => exact hloop nofun
  | array ws => exact hloop nofun
  | object ms => exact hloop nofun

theorem guard_elementsArguments
    (hshort : (Json.object schema).all Json.shortInteger = true)
    {items : List Json}
    (hnode : schema.getOrNone "items" ≠ .null -> forall path v, v ∈ items ->
      Guard (node path (schema.getOrNone "items") v) Stop.IsRaised
        (trouble (schema.getOrNone "items") v)
        (conforms (schema.getOrNone "items") v)) :
    Guard (elementsArguments I path node schema items) Stop.IsRaised
      ((executed re).LengthFits schema "minItems" "maxItems" items.length ∧
        schema.getOrNone "items" ≠ .null ∧
        Stops (trouble (schema.getOrNone "items"))
          (conforms (schema.getOrNone "items")) items)
      ((executed re).LengthFits schema "minItems" "maxItems" items.length ∧
        (schema.getOrNone "items" ≠ .null -> forall v, v ∈ items ->
          conforms (schema.getOrNone "items") v)) := by
  apply ((guard_leastArgument hshort).andThen fun _ =>
    (guard_mostArgument hshort).andThen fun _ =>
    guard_itemsArguments hnode).iff
  · simp only [false_or, and_assoc, Reading.LengthFits, executed]
  · simp only [and_assoc, Reading.LengthFits, executed]

theorem guard_patternArgument {s : PyStr} {v : Json} :
    Guard (patternArgument re path s v) Stop.IsRaised
      (exists pattern e, v = .str pattern ∧ re.compile pattern = .error e)
      (forall pattern, v = .str pattern -> (executed re).found pattern s) := by
  cases v with
  | str pattern =>
      cases hcompile : re.compile pattern with
      | error e =>
          have hrun : patternArgument re path s (.str pattern) =
              throw (.raised e) := by
            simp only [patternArgument, hcompile]
            rfl
          rw [hrun]
          exact (guard_throw (Stop.raised e)).iff
            (iff_of_true trivial ⟨pattern, e, rfl, hcompile⟩)
            (by simp [executed, hcompile])
      | ok search =>
          have hrun : patternArgument re path s (.str pattern) =
              refuseIf (search s = false)
                (path ++ str " does not match the declared pattern") := by
            simp only [patternArgument, hcompile]
            rfl
          rw [hrun]
          exact (guard_refuseIf _ _).iff (by simp [hcompile])
            (by simp [executed, hcompile])
  | null => exact guard_pure.iff (by simp) (by simp)
  | bool b => exact guard_pure.iff (by simp) (by simp)
  | int n => exact guard_pure.iff (by simp) (by simp)
  | float x => exact guard_pure.iff (by simp) (by simp)
  | array items => exact guard_pure.iff (by simp) (by simp)
  | object members => exact guard_pure.iff (by simp) (by simp)

theorem guard_textArguments
    (hshort : (Json.object schema).all Json.shortInteger = true) {s : PyStr} :
    Guard (textArguments I re path schema s) Stop.IsRaised
      ((executed re).LengthFits schema "minLength" "maxLength" s.length ∧
        exists pattern e, schema.getOrNone "pattern" = .str pattern ∧
          re.compile pattern = .error e)
      ((executed re).LengthFits schema "minLength" "maxLength" s.length ∧
        (executed re).PatternFits schema s) := by
  apply ((guard_leastArgument hshort).andThen fun _ =>
    (guard_mostArgument hshort).andThen fun _ => guard_patternArgument).iff
  · simp only [false_or, and_assoc, Reading.LengthFits, executed]
  · simp only [and_assoc, Reading.LengthFits, Reading.PatternFits]
    exact Iff.rfl

theorem guard_numberArguments
    (hshort : (Json.object schema).all Json.shortInteger = true) {value : Json} :
    Guard (numberArguments I path schema value) Stop.IsRaised False
      ((executed re).NumberFits schema value) := by
  have hshow := fun key => short_getOrNone hshort key
  apply ((guard_refuseShowing (hshow "minimum")).andThen fun _ =>
    (guard_refuseShowing (hshow "maximum")).andThen fun _ =>
    (guard_refuseShowing (hshow "exclusiveMinimum")).andThen fun _ =>
    guard_refuseShowing (hshow "exclusiveMaximum")).iff
  · simp
  · simp [Reading.NumberFits, executed]

end Rules

/-!
## One call
-/

section Call

variable {schema : Members} {value : Json} {accepts : Json -> Prop}

theorem declaredProperties_accepted {expected : Json}
    (h : PropertiesAccepted accepts expected (schema.getOrNone "properties"))
    {m : PyStr × Json} (hm : m ∈ declaredProperties schema) :
    accepts m.snd := by
  unfold declaredProperties at hm
  rcases h with h | ⟨properties, h, _, _, hall⟩
  · rw [h] at hm
    cases hm
  · rw [h] at hm
    exact (hall m hm).right

theorem declaredProperties_short
    (hshort : (Json.object schema).all Json.shortInteger = true)
    {m : PyStr × Json} (hm : m ∈ declaredProperties schema) :
    m.snd.all Json.shortInteger = true := by
  have hproperties := short_getOrNone hshort "properties"
  unfold declaredProperties at hm
  split at hm
  · rename_i properties heq
    rw [heq] at hproperties
    exact Json.all_member hproperties hm
  · cases hm

/-- What Python means by a number, where the declared type says so. -/
theorem isNumber_of_typeFits (h : (executed re).TypeFits schema value)
    (hnumber : schema.getOrNone "type" = .str (str "integer") ∨
      schema.getOrNone "type" = .str (str "number")) :
    value.isNumber = true := by
  have hkind : forall name : String, name = "integer" ∨ name = "number" ->
      schema.getOrNone "type" = .str (str name) -> value.isNumber = true := by
    intro name hname htype
    rcases h with h | ⟨_, h⟩ | h
    · rw [htype] at h
      cases h
    · cases value with
      | int n => rfl
      | null => cases h
      | bool b => cases h
      | float x => cases h
      | str s => cases h
      | array items => cases h
      | object members => cases h
    · rw [htype, Json.str.injEq, str_inj] at h
      cases value with
      | int n => rfl
      | float x => rfl
      | null => simp [kind, h] at hname
      | bool b => simp [kind, h] at hname
      | str s => simp [kind, h] at hname
      | array items => simp [kind, h] at hname
      | object members => simp [kind, h] at hname
  rcases hnumber with h | h
  · exact hkind "integer" (Or.inl rfl) h
  · exact hkind "number" (Or.inr rfl) h

/-!
The part for one type, as it conforms and as it gets into trouble.
-/

variable (re schema)

def ObjectConforms (members : Members) : Prop :=
  Reading.RequiredFits schema members ∧
    Reading.AdditionalFits schema members ∧
    forall m, m ∈ declaredProperties schema ->
      forall v, members.lookup m.fst = some v ->
        Conforms (executed re) m.snd v

def ObjectTrouble (members : Members) : Prop :=
  Reading.RequiredFits schema members ∧
    Reading.AdditionalFits schema members ∧
    Stops
      (fun m => exists v, members.lookup m.fst = some v ∧ Trouble re m.snd v)
      (fun m => forall v, members.lookup m.fst = some v ->
        Conforms (executed re) m.snd v)
      (declaredProperties schema)

def ArrayConforms (items : List Json) : Prop :=
  (executed re).LengthFits schema "minItems" "maxItems" items.length ∧
    (schema.getOrNone "items" ≠ .null -> forall v, v ∈ items ->
      Conforms (executed re) (schema.getOrNone "items") v)

def ArrayTrouble (items : List Json) : Prop :=
  (executed re).LengthFits schema "minItems" "maxItems" items.length ∧
    schema.getOrNone "items" ≠ .null ∧
    Stops (Trouble re (schema.getOrNone "items"))
      (Conforms (executed re) (schema.getOrNone "items")) items

def StringConforms (s : PyStr) : Prop :=
  (executed re).LengthFits schema "minLength" "maxLength" s.length ∧
    (executed re).PatternFits schema s

def StringTrouble (s : PyStr) : Prop :=
  (executed re).LengthFits schema "minLength" "maxLength" s.length ∧
    exists pattern e, schema.getOrNone "pattern" = .str pattern ∧
      re.compile pattern = .error e

variable {re schema}

theorem trouble_iff :
    Trouble re (.object schema) value <->
      (executed re).TypeFits schema value ∧
      (executed re).ConstFits schema value ∧
      (schema.get "enum" = some .null ∨ (executed re).EnumFits schema value ∧
        (schema.getOrNone "type" = .str (str "object") ∧
            (exists members, value = .object members ∧
              ObjectTrouble re schema members) ∨
          schema.getOrNone "type" = .str (str "array") ∧
            (exists items, value = .array items ∧
              ArrayTrouble re schema items) ∨
          schema.getOrNone "type" = .str (str "string") ∧
            exists s, value = .str s ∧ StringTrouble re schema s)) := by
  constructor
  · intro h
    cases h with
    | nullEnum htype hconst henum => exact ⟨htype, hconst, Or.inl henum⟩
    | @pattern _ s pattern e head htype hlength hpattern hcompile =>
        refine ⟨head.type, head.const, Or.inr ⟨head.enum, ?_⟩⟩
        exact Or.inr (Or.inr
          ⟨htype, s, rfl, hlength, pattern, e, hpattern, hcompile⟩)
    | @property _ members front back name child v head htype hrequired
        hadditional hsplit hfront hlookup htrouble =>
        refine ⟨head.type, head.const, Or.inr ⟨head.enum, ?_⟩⟩
        refine Or.inl ⟨htype, members, rfl, hrequired, hadditional, ?_⟩
        refine stops_iff.mpr ⟨front, (name, child), back, hsplit, ?_,
          v, hlookup, htrouble⟩
        intro m hm w hw
        exact hfront m.fst m.snd w hm hw
    | @item _ front back v head htype hlength hfront hnull htrouble =>
        refine ⟨head.type, head.const, Or.inr ⟨head.enum, ?_⟩⟩
        exact Or.inr (Or.inl ⟨htype, _, rfl, hlength, hnull,
          stops_iff.mpr ⟨front, v, back, rfl, hfront, htrouble⟩⟩)
  · intro h
    rcases h with ⟨htype, hconst, henum | ⟨henum, h⟩⟩
    · exact Trouble.nullEnum htype hconst henum
    · rcases h with ⟨hobject, members, hvalue, hrequired, hadditional, hstops⟩ |
        ⟨harray, items, hvalue, hlength, hnull, hstops⟩ |
        ⟨hstring, s, hvalue, hlength, pattern, e, hpattern, hcompile⟩
      · subst hvalue
        rcases stops_iff.mp hstops with
          ⟨front, m, back, hsplit, hfront, v, hlookup, htrouble⟩
        exact Trouble.property ⟨htype, hconst, henum⟩ hobject hrequired
          hadditional hsplit
          (fun other sub w hm hw => hfront (other, sub) hm w hw)
          hlookup htrouble
      · subst hvalue
        rcases stops_iff.mp hstops with
          ⟨front, v, back, hsplit, hfront, htrouble⟩
        subst hsplit
        exact Trouble.item ⟨htype, hconst, henum⟩ harray hlength hfront hnull
          htrouble
      · subst hvalue
        exact Trouble.pattern ⟨htype, hconst, henum⟩ hstring hlength hpattern
          hcompile

theorem binds_iff {name : String} :
    (executed re).Binds schema name <->
      schema.getOrNone "type" = .str (str name) :=
  iff_of_eq (false_or _)

theorem conforms_iff :
    Conforms (executed re) (.object schema) value <->
      (executed re).TypeFits schema value ∧
      (executed re).ConstFits schema value ∧
      (executed re).EnumFits schema value ∧
      (schema.getOrNone "type" = .str (str "object") ->
        forall members, value = .object members ->
          ObjectConforms re schema members) ∧
      (schema.getOrNone "type" = .str (str "array") ->
        forall items, value = .array items -> ArrayConforms re schema items) ∧
      (schema.getOrNone "type" = .str (str "string") ->
        forall s, value = .str s -> StringConforms re schema s) ∧
      (schema.getOrNone "type" = .str (str "integer") ∨
          schema.getOrNone "type" = .str (str "number") ->
        (executed re).NumberFits schema value) := by
  constructor
  · intro h
    cases h with
    | mk fits properties items =>
        refine ⟨fits.type, fits.const, fits.enum, ?_, ?_, ?_, ?_⟩
        · intro htype members hvalue
          rcases fits.object (binds_iff.mpr htype) members hvalue with
            ⟨hrequired, hadditional⟩
          exact ⟨hrequired, hadditional, fun m hm v hv =>
            properties members m.fst m.snd v (binds_iff.mpr htype) hvalue hm hv⟩
        · intro htype values hvalue
          exact ⟨fits.array (binds_iff.mpr htype) values hvalue,
            fun hnull v hv =>
              items values v (binds_iff.mpr htype) hvalue hnull hv⟩
        · intro htype
          exact fits.string (binds_iff.mpr htype)
        · intro htype
          apply fits.number
          · rw [binds_iff, binds_iff]
            exact htype
          · exact isNumber_of_typeFits fits.type htype
  · intro h
    rcases h with ⟨htype, hconst, henum, hobject, harray, hstring, hnumber⟩
    refine Conforms.mk ⟨htype, hconst, henum, ?_, ?_, ?_, ?_⟩ ?_ ?_
    · intro hbind members hvalue
      rcases hobject (binds_iff.mp hbind) members hvalue with
        ⟨hrequired, hadditional, _⟩
      exact ⟨hrequired, hadditional⟩
    · intro hbind items hvalue
      exact (harray (binds_iff.mp hbind) items hvalue).left
    · intro hbind
      exact hstring (binds_iff.mp hbind)
    · intro hbind _
      rw [binds_iff, binds_iff] at hbind
      exact hnumber hbind
    · intro members name child v hbind hvalue hmem hlookup
      exact (hobject (binds_iff.mp hbind) members hvalue).right.right
        (name, child) hmem v hlookup
    · intro items v hbind hvalue hnull hv
      exact (harray (binds_iff.mp hbind) items hvalue).right hnull v hv

section Parts

variable {node : PyStr -> Json -> Json -> Except Stop Unit}

theorem guard_objectArguments (haccepted : SchemaAccepted accepts schema)
    (hshort : (Json.object schema).all Json.shortInteger = true)
    (hnode : forall path child v, accepts child ->
      child.all Json.shortInteger = true ->
      Guard (node path child v) Stop.IsRaised (Trouble re child v)
        (Conforms (executed re) child v)) :
    Guard (objectArguments path node schema value) Stop.IsRaised
      (exists members, value = .object members ∧
        ObjectTrouble re schema members)
      (forall members, value = .object members ->
        ObjectConforms re schema members) := by
  cases value with
  | object members =>
      have hmembers : Guard (membersArguments path node schema members)
          Stop.IsRaised (ObjectTrouble re schema members)
          (ObjectConforms re schema members) :=
        guard_membersArguments haccepted.properties haccepted.required
          fun path name child v hm => hnode path child v
            (declaredProperties_accepted haccepted.properties hm)
            (declaredProperties_short hshort hm)
      exact hmembers.iff (by simp) (by simp)
  | null => exact guard_pure.iff (by simp) (by simp)
  | bool b => exact guard_pure.iff (by simp) (by simp)
  | int n => exact guard_pure.iff (by simp) (by simp)
  | float x => exact guard_pure.iff (by simp) (by simp)
  | str s => exact guard_pure.iff (by simp) (by simp)
  | array items => exact guard_pure.iff (by simp) (by simp)

theorem guard_arrayArguments (haccepted : SchemaAccepted accepts schema)
    (hshort : (Json.object schema).all Json.shortInteger = true)
    (hnode : forall path child v, accepts child ->
      child.all Json.shortInteger = true ->
      Guard (node path child v) Stop.IsRaised (Trouble re child v)
        (Conforms (executed re) child v)) :
    Guard (arrayArguments I path node schema value) Stop.IsRaised
      (exists items, value = .array items ∧ ArrayTrouble re schema items)
      (forall items, value = .array items ->
        ArrayConforms re schema items) := by
  have hchild : schema.getOrNone "items" ≠ .null ->
      accepts (schema.getOrNone "items") := by
    intro hnull
    rcases haccepted.items with h | ⟨_, h⟩
    · exact absurd h hnull
    · exact h
  cases value with
  | array items =>
      have helements : Guard (elementsArguments I path node schema items)
          Stop.IsRaised (ArrayTrouble re schema items)
          (ArrayConforms re schema items) :=
        guard_elementsArguments hshort fun hnull path v _ =>
          hnode path _ v (hchild hnull) (short_getOrNone hshort "items")
      exact helements.iff (by simp) (by simp)
  | null => exact guard_pure.iff (by simp) (by simp)
  | bool b => exact guard_pure.iff (by simp) (by simp)
  | int n => exact guard_pure.iff (by simp) (by simp)
  | float x => exact guard_pure.iff (by simp) (by simp)
  | str s => exact guard_pure.iff (by simp) (by simp)
  | object members => exact guard_pure.iff (by simp) (by simp)

theorem guard_stringArguments
    (hshort : (Json.object schema).all Json.shortInteger = true) :
    Guard (stringArguments I re path schema value) Stop.IsRaised
      (exists s, value = .str s ∧ StringTrouble re schema s)
      (forall s, value = .str s -> StringConforms re schema s) := by
  cases value with
  | str s =>
      have htext : Guard (textArguments I re path schema s) Stop.IsRaised
          (StringTrouble re schema s) (StringConforms re schema s) :=
        guard_textArguments hshort
      exact htext.iff (by simp) (by simp)
  | null => exact guard_pure.iff (by simp) (by simp)
  | bool b => exact guard_pure.iff (by simp) (by simp)
  | int n => exact guard_pure.iff (by simp) (by simp)
  | float x => exact guard_pure.iff (by simp) (by simp)
  | array items => exact guard_pure.iff (by simp) (by simp)
  | object members => exact guard_pure.iff (by simp) (by simp)

theorem type_ne_of_eq {v : Json} {word : String} (h : v = .str (str word))
    (other : String) (hne : word ≠ other) : ¬ v = .str (str other) := by
  intro h'
  rw [h, Json.str.injEq, str_inj] at h'
  exact hne h'

theorem guard_schemaArguments (haccepted : SchemaAccepted accepts schema)
    (hshort : (Json.object schema).all Json.shortInteger = true)
    (hnode : forall path child v, accepts child ->
      child.all Json.shortInteger = true ->
      Guard (node path child v) Stop.IsRaised (Trouble re child v)
        (Conforms (executed re) child v)) :
    Guard (schemaArguments I re path node schema value) Stop.IsRaised
      (Trouble re (.object schema) value)
      (Conforms (executed re) (.object schema) value) := by
  have htype : Guard (typeArgument I path value (schema.getOrNone "type"))
      Stop.IsRaised False ((executed re).TypeFits schema value) :=
    guard_typeArgument haccepted.type
  have hconst : Guard (constArgument path value (schema.get "const"))
      Stop.IsRaised False ((executed re).ConstFits schema value) :=
    guard_constArgument
  have henum : Guard (enumArgument path value (schema.get "enum"))
      Stop.IsRaised (schema.get "enum" = some .null)
      ((executed re).EnumFits schema value) :=
    guard_enumArgument haccepted.enum
  have hobject : Guard (objectArguments path node schema value) Stop.IsRaised
      (exists members, value = .object members ∧
        ObjectTrouble re schema members)
      (forall members, value = .object members ->
        ObjectConforms re schema members) :=
    guard_objectArguments haccepted hshort hnode
  have harray : Guard (arrayArguments I path node schema value) Stop.IsRaised
      (exists items, value = .array items ∧ ArrayTrouble re schema items)
      (forall items, value = .array items ->
        ArrayConforms re schema items) :=
    guard_arrayArguments haccepted hshort hnode
  have hstring : Guard (stringArguments I re path schema value) Stop.IsRaised
      (exists s, value = .str s ∧ StringTrouble re schema s)
      (forall s, value = .str s -> StringConforms re schema s) :=
    guard_stringArguments hshort
  have hnumber : Guard (numberArguments I path schema value) Stop.IsRaised False
      ((executed re).NumberFits schema value) := guard_numberArguments hshort
  apply (htype.andThen fun _ => hconst.andThen fun _ => henum.andThen fun _ =>
    (guard_whenType hobject).andThen fun _ =>
    (guard_whenType harray).andThen fun _ =>
    (guard_whenType hstring).andThen fun _ => guard_whenType hnumber).iff
  · rw [trouble_iff]
    simp only [List.mem_cons, List.not_mem_nil, or_false, exists_eq_left,
      false_or, and_false]
    -- a schema declares one type, so the parts for other types are not run
    rw [escapes_of_exclusive (fun harray => type_ne_of_eq harray "object" (by decide))
      (fun hstring => type_ne_of_eq hstring "object" (by decide))
      (fun hstring => type_ne_of_eq hstring "array" (by decide))]
  · rw [conforms_iff]
    simp only [List.mem_cons, List.not_mem_nil, or_false, exists_eq_left,
      or_and_right, exists_or]

end Parts

/-- The gate leaves at most so many levels, and one call is enough for each. -/
theorem guard_argumentsNode {left frames : Nat} {path : PyStr}
    {schema value : Json} (hframes : left ≤ frames)
    (haccepted : NodeAccepted left schema)
    (hshort : schema.all Json.shortInteger = true) :
    Guard (argumentsNode I re frames path schema value) Stop.IsRaised
      (Trouble re schema value) (Conforms (executed re) schema value) := by
  induction left generalizing frames path schema value with
  | zero => cases schema <;> exact haccepted.elim
  | succ left ih =>
      cases schema with
      | object schema =>
          cases frames with
          | zero => exact absurd hframes (Nat.not_succ_le_zero left)
          | succ frames =>
              have hleft : left ≤ frames := Nat.le_of_succ_le_succ hframes
              exact guard_schemaArguments haccepted hshort
                fun path child v hchild hshort => ih hleft hchild hshort
      | null => exact haccepted.elim
      | bool b => exact haccepted.elim
      | int n => exact haccepted.elim
      | float x => exact haccepted.elim
      | str s => exact haccepted.elim
      | array items => exact haccepted.elim

end Call

end Guards

/-!
## Declared schemas
-/

section Declared

variable {I : Interpreter} {field : String} {requireObject : Bool}

theorem DeclaredSchema.accepted (schema : DeclaredSchema I field requireObject) :
    RootAccepted I requireObject schema.val :=
  (guard_validateSchema I field requireObject schema.val).passes_iff.mp
    schema.property

theorem RootAccepted.short {schema : Members}
    (h : RootAccepted I requireObject schema) :
    (Json.object schema).all Json.shortInteger = true := by
  rcases h.serializable with ⟨text, _, htext, _⟩
  exact (Json.dumps_eq_ok.mp htext).left

/-- The depth the gate admits is far from the limit of the interpreter. -/
theorem DeclaredSchema.guard (re : Re) (schema : DeclaredSchema I field requireObject)
    (value : Json) :
    Guard (argumentsNode I re recursionLimit (str "$") (.object schema.val) value)
      Stop.IsRaised (Trouble re (.object schema.val) value)
      (Conforms (executed re) (.object schema.val) value) :=
  guard_argumentsNode (by decide) schema.accepted.node schema.accepted.short

theorem DeclaredSchema.raises_iff (re : Re)
    (schema : DeclaredSchema I field requireObject) (value : Json) :
    (exists e, validateCapabilityArguments I re schema.val value = .error e) <->
      Trouble re (.object schema.val) value := by
  rw [← (schema.guard re value).escapes_iff]
  unfold validateCapabilityArguments
  cases argumentsNode I re recursionLimit (str "$") (.object schema.val) value with
  | ok a => exact iff_of_false nofun nofun
  | error stop =>
      cases stop with
      | refused text => exact iff_of_false nofun (by simp [Stop.IsRaised])
      | raised e => exact iff_of_true ⟨e, rfl⟩ ⟨.raised e, rfl, trivial⟩

/-- For a declared schema a value is let pass exactly when it conforms. -/
theorem DeclaredSchema.passes_iff (re : Re)
    (schema : DeclaredSchema I field requireObject) (value : Json) :
    validateCapabilityArguments I re schema.val value = .ok none <->
      Conforms (executed re) (.object schema.val) value := by
  rw [← (schema.guard re value).passes_iff]
  unfold validateCapabilityArguments
  cases argumentsNode I re recursionLimit (str "$") (.object schema.val) value with
  | ok a => exact iff_of_true rfl rfl
  | error stop =>
      cases stop with
      | refused text => exact iff_of_false nofun nofun
      | raised e => exact iff_of_false nofun nofun

/-- Declared means executable, short of the two kinds of trouble. -/
theorem declared_executable_iff (I : Interpreter) (re : Re) (field : String)
    (requireObject : Bool) (schema : DeclaredSchema I field requireObject)
    (value : Json) :
    (exists answer,
        validateCapabilityArguments I re schema.val value = .ok answer) <->
      ¬ Trouble re (.object schema.val) value := by
  rw [← schema.raises_iff re value]
  cases validateCapabilityArguments I re schema.val value with
  | ok answer => exact iff_of_true ⟨answer, rfl⟩ nofun
  | error e => exact iff_of_false nofun (not_not.mpr ⟨e, rfl⟩)

end Declared

/-!
An {lit}`enum` the gate takes for absent.
-/

def qualitySchema : Members :=
  [(str "type", .str (str "string")), (str "enum", .null)]

def captureSchema : Members :=
  [(str "type", .str (str "object")),
    (str "properties", .object [(str "quality", .object qualitySchema)])]

def captureArguments : Members :=
  [(str "quality", .str (str "high"))]

theorem known_of_mem {schema : Members} (names : List String)
    (hkeys : schema.keys = names.map str)
    (hknown : forall name, name ∈ names -> name ∈ schemaKeys) :
    KeywordsKnown schema := by
  intro key hkey
  rw [hkeys] at hkey
  rcases List.mem_map.mp hkey with ⟨name, hname, heq⟩
  exact ⟨name, hknown name hname, heq.symm⟩

theorem qualitySchema_accepted (accepts : Json -> Prop) :
    SchemaAccepted accepts qualitySchema where
  keywords := known_of_mem ["type", "enum"] rfl (by decide)
  type := Or.inr ⟨"string", by decide, rfl⟩
  description := Or.inl rfl
  enum := Or.inl rfl
  properties := Or.inl rfl
  required := Or.inl rfl
  additional := Or.inl rfl
  items := Or.inl rfl

theorem captureSchema_accepted :
    RootAccepted asciiInterpreter true captureSchema where
  serializable := ⟨_, _, rfl, rfl, by decide⟩
  typed _ := rfl
  node :=
    { keywords := known_of_mem ["type", "properties"] rfl (by decide)
      type := Or.inr ⟨"object", by decide, rfl⟩
      description := Or.inl rfl
      enum := Or.inl rfl
      properties := by
        refine Or.inr ⟨_, rfl, rfl, by decide, ?_⟩
        intro m hm
        rw [List.mem_singleton.mp hm]
        exact ⟨⟨by decide, by decide⟩, qualitySchema_accepted _⟩
      required := Or.inl rfl
      additional := Or.inl rfl
      items := Or.inl rfl }

def captureDeclaration : CapabilityDeclaration asciiInterpreter where
  name := ⟨str "camera.capture", by decide⟩
  version := ⟨1, by decide⟩
  description := ⟨str "Capture one image.", by decide⟩
  inputSchema := ⟨captureSchema,
    (guard_validateSchema _ _ _ _).passes_iff.mpr captureSchema_accepted⟩
  resultSchema := ⟨captureSchema, (guard_validateSchema _ _ _ _).passes_iff.mpr
    ⟨captureSchema_accepted.serializable, nofun, captureSchema_accepted.node⟩⟩

/-- The gate lets the schema pass, and no value with the property can be
checked. -/
theorem null_enum_raises :
    exists declaration : CapabilityDeclaration asciiInterpreter,
      ¬ exists answer, validateCapabilityArguments asciiInterpreter
        ⟨fun _ => .error .patternError⟩ declaration.inputSchema.val
        (.object captureArguments) = .ok answer := by
  refine ⟨captureDeclaration, ?_⟩
  intro h
  rcases h with ⟨answer, h⟩
  have herror : validateCapabilityArguments asciiInterpreter
      ⟨fun _ => .error .patternError⟩ captureSchema (.object captureArguments) =
        .error .typeError := rfl
  rw [captureDeclaration, herror] at h
  cases h

end Body
end EidolonSdk
