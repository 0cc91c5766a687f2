import EidolonSdk.Smarthome.Vocabulary

/-!
# Checking a command

A command names a trait, a command of that trait and the parameters it takes.
What the check lets through and where it fails without a code of its own are
both read off the command: the second happens when the value to be named in the
refusal is an integer too long to be written.
-/

namespace EidolonSdk
namespace Smarthome

open Python Pydantic Logic

structure Command where
  deviceId : Identifier
  trait : Trait
  command : Identifier
  params : Params

/-- `set(xs) == set(ys)`. -/
def SameKeys (xs ys : List PyStr) : Prop :=
  xs ⊆ ys ∧ ys ⊆ xs

instance (xs ys : List PyStr) : Decidable (SameKeys xs ys) :=
  inferInstanceAs (Decidable (_ ∧ _))

/-- `value in words`. -/
def inWords (words : List PyStr) (value : Json) : Bool :=
  value.elementOf (words.map .str)

/-- The bounds of a parameter: those of the table, unless the specification has
a range for the set-point. -/
def boundsOf (spec : DeviceTypeSpec) (name : PyStr) (param : Param) :
    Option Number × Option Number :=
  if name = str "celsius" then
    match spec.targetC with
    | some (low, high) => (some low, some high)
    | none => (param.low, param.high)
  else (param.low, param.high)

/-- `(low is not None and value < low) or (high is not None and value > high)`. -/
def outOfRange (bounds : Option Number × Option Number) (value : Json) : Bool :=
  (bounds.fst.any fun low => value.less low.json) ||
    bounds.snd.any fun high => high.json.less value

section Validate

variable (I : Interpreter)

/-- `f"{value!r}"`. -/
def formatRepr (value : Json) : Except PyException PyStr :=
  if value.all Json.shortInteger then pure (value.repr I) else throw .valueError

/-- The texts of a set of names, as `sorted` lists them. -/
def sortedText (names : List PyStr) : PyStr :=
  (Json.array ((sortedBy id names).map .str)).repr I

/-- The check of one parameter that is there. -/
def validateParam (spec : DeviceTypeSpec) (name : PyStr) (param : Param)
    (value : Json) : Checked Unit :=
  match param.kind with
  | .bool =>
      refuseIf (isBool value = false) (.smartHomeError .invalidParams name)
  | .mode =>
      if inWords spec.modes value = false then
        raiseSmartHomeError .outOfRange
          ((formatRepr I value).map fun text => str "mode " ++ text)
      else pure ()
  | kind => do
      refuseIf (isBool value = true ∨ value.isReal = false)
        (.smartHomeError .invalidParams name)
      refuseIf (kind = .int ∧ isInt value = false)
        (.smartHomeError .invalidParams name)
      if outOfRange (boundsOf spec name param) value = true then
        raiseSmartHomeError .outOfRange
          ((value.format I).map fun text => name ++ str "=" ++ text)
      else pure ()

/-- `_validate_command`. -/
def validateCommandOf (spec : DeviceTypeSpec) (kind : PyStr) (c : Command) :
    Checked Unit := do
  refuseIf (c.trait ∉ spec.traits)
    (.smartHomeError .unsupportedCommand
      (kind ++ str " has no " ++ str c.trait.text))
  match (traitCommands c.trait).lookup c.command.val with
  | none =>
      throw (.smartHomeError .unsupportedCommand
        (str c.trait.text ++ str "." ++ c.command.val))
  | some params => do
      refuseIf (¬ SameKeys c.params.members.keys (params.map Prod.fst))
        (.smartHomeError .invalidParams
          (str "expected " ++ sortedText I (params.map Prod.fst)))
      params.forM fun (name, param) =>
        match c.params.members.lookup name with
        | none => throw (.raised .keyError)
        | some value => validateParam I spec name param value

/-- `device_type`. -/
def deviceType (kind : PyStr) : Checked DeviceTypeSpec :=
  match DeviceType.all.find? fun t => kind = str t.text with
  | some t => pure (deviceTypes t)
  | none =>
      throw (.smartHomeError .unsupportedCommand
        (str "unknown device type " ++ Json.reprStr I kind))

/-- `validate_command`. -/
def validateCommand (kind : PyStr) (c : Command) : Checked Unit := do
  let spec ← deviceType I kind
  validateCommandOf I spec kind c

end Validate

theorem deviceType_text (I : Interpreter) (t : DeviceType) :
    deviceType I (str t.text) = .ok (deviceTypes t) := by
  cases t with
  | light => rfl
  | switch => rfl
  | climate => rfl
  | waterHeater => rfl
  | cover => rfl
  | fan => rfl
  | media => rfl
  | appliance => rfl
  | lock => rfl
  | camera => rfl
  | sensor => rfl

theorem deviceType_eq_ok {I : Interpreter} {kind : PyStr} {spec : DeviceTypeSpec} :
    deviceType I kind = .ok spec <->
      exists t : DeviceType, kind = str t.text ∧ spec = deviceTypes t := by
  constructor
  · intro h
    unfold deviceType at h
    split at h
    · rename_i t ht
      have hkind := List.find?_some ht
      exact ⟨t, of_decide_eq_true hkind, (Except.ok.inj h).symm⟩
    · cases h
  · intro x
    rcases x with ⟨t, rfl, rfl⟩
    exact deviceType_text I t

/-!
## What the check lets through
-/

/-- A value that stands for the parameter. -/
def Fits (spec : DeviceTypeSpec) (name : PyStr) (param : Param) (value : Json) :
    Prop :=
  match param.kind with
  | .bool => isBool value = true
  | .mode => inWords spec.modes value = true
  | .int =>
      (value.isNumber = true ∧ isInt value = true) ∧
        outOfRange (boundsOf spec name param) value = false
  | .number =>
      value.isNumber = true ∧ outOfRange (boundsOf spec name param) value = false

/-- A value the refusal cannot name: an integer with too many digits, as a mode
or out of range. -/
def Unnamable (spec : DeviceTypeSpec) (name : PyStr) (param : Param)
    (value : Json) : Prop :=
  value.all Json.shortInteger = false ∧
    match param.kind with
    | .bool => False
    | .mode => True
    | .int => outOfRange (boundsOf spec name param) value = true
    | .number => outOfRange (boundsOf spec name param) value = true

/-- The command is one of a trait in the specification, with its parameters. -/
structure Declares (spec : DeviceTypeSpec) (c : Command) (params : Declared) :
    Prop where
  trait : c.trait ∈ spec.traits
  command : (traitCommands c.trait).lookup c.command.val = some params
  names : SameKeys c.params.members.keys (params.map Prod.fst)

/-- Every parameter of the command has the property, as the one it is declared
to be. -/
def EveryParam (c : Command) (params : Declared)
    (p : PyStr -> Param -> Json -> Prop) : Prop :=
  forall name param value, (name, param) ∈ params ->
    c.params.members.lookup name = some value -> p name param value

def SomeParam (c : Command) (params : Declared)
    (p : PyStr -> Param -> Json -> Prop) : Prop :=
  exists name param value, (name, param) ∈ params ∧
    c.params.members.lookup name = some value ∧ p name param value

def Accepted (spec : DeviceTypeSpec) (c : Command) : Prop :=
  exists params, Declares spec c params ∧ EveryParam c params (Fits spec)

/-- The check fails without a code. -/
def Uncoded (spec : DeviceTypeSpec) (c : Command) : Prop :=
  exists params, Declares spec c params ∧ SomeParam c params (Unnamable spec)

/-!
## One parameter
-/

theorem not_bool_real_iff {value : Json} :
    ¬ (isBool value = true ∨ value.isReal = false) <-> value.isNumber = true := by
  cases value with
  | null => simp [isBool, Json.isReal, Json.isNumber]
  | bool b => simp [isBool, Json.isReal, Json.isNumber]
  | int n => simp [isBool, Json.isReal, Json.isNumber]
  | float x => simp [isBool, Json.isReal, Json.isNumber]
  | str s => simp [isBool, Json.isReal, Json.isNumber]
  | array items => simp [isBool, Json.isReal, Json.isNumber]
  | object members => simp [isBool, Json.isReal, Json.isNumber]

/-- Only an integer can be too long to be written. -/
theorem long_integer {value : Json} (hvalue : isParamValue value = true)
    (h : value.all Json.shortInteger = false) : exists n, value = .int n := by
  cases value with
  | int n => exact ⟨n, rfl⟩
  | null => cases h
  | bool b => cases h
  | float x => cases h
  | str s => cases h
  | array items => cases hvalue
  | object members => cases hvalue

theorem inWords_int {words : List PyStr} {n : Int} :
    inWords words (.int n) = false := by
  unfold inWords Json.elementOf
  rw [List.any_map, List.any_eq_false]
  intro word _
  exact Bool.false_ne_true

/-- No command of the vocabulary takes more than one parameter. -/
theorem declared_length {t : Trait} {command : PyStr} {params : Declared}
    (h : (traitCommands t).lookup command = some params) :
    params.length ≤ 1 := by
  have hall : ((traitCommands t).all fun entry =>
      decide (entry.snd.length ≤ 1)) = true := by
    cases t with
    | onOff => rfl
    | level => rfl
    | thermostat => rfl
    | fanSpeed => rfl
    | position => rfl
    | lock => rfl
    | operational => rfl
    | volume => rfl
    | measure => rfl
  exact of_decide_eq_true (List.all_eq_true.mp hall _ (mem_of_lookup_eq h))

theorem Params.value {params : Params} {name : PyStr} {value : Json}
    (h : params.members.lookup name = some value) : isParamValue value = true :=
  params.values _ (mem_of_lookup_eq h)

section Guards

variable (I : Interpreter) {escape : Refusal -> Prop}
variable (hcoded : forall code detail, ¬ escape (.smartHomeError code detail))
variable (hraised : escape (.raised .valueError))

include hcoded

theorem guard_refuseIf {c : Prop} [Decidable c] {code : ErrorCode}
    {detail : PyStr} :
    Guard (refuseIf c (.smartHomeError code detail)) escape False (¬ c) :=
  guard_refuse (hcoded code detail)

include hraised

theorem guard_raiseSmartHomeError {code : ErrorCode} {value : Json}
    {text : PyStr} {f : PyStr -> PyStr} :
    Guard (raiseSmartHomeError code
        ((if value.all Json.shortInteger then pure text
          else throw .valueError : Except PyException PyStr).map f))
      escape (value.all Json.shortInteger = false) False := by
  cases hshort : value.all Json.shortInteger with
  | true =>
      exact (guard_throw (Refusal.smartHomeError code (f text))).iff
        (iff_of_false (hcoded code (f text)) nofun) Iff.rfl
  | false =>
      exact (guard_throw (Refusal.raised .valueError)).iff
        (iff_of_true hraised rfl) Iff.rfl

theorem guard_raiseWhen {value : Json} {text : PyStr} {f : PyStr -> PyStr}
    {c : Prop} [Decidable c] :
    Guard (if c then
        raiseSmartHomeError .outOfRange
          ((if value.all Json.shortInteger then pure text
            else throw .valueError : Except PyException PyStr).map f)
        else pure ())
      escape (value.all Json.shortInteger = false ∧ c) (¬ c) :=
  (Guard.when fun _ => guard_raiseSmartHomeError hcoded hraised).iff and_comm Iff.rfl

theorem guard_validateParam {spec : DeviceTypeSpec} {name : PyStr}
    {param : Param} {value : Json} (hvalue : isParamValue value = true) :
    Guard (validateParam I spec name param value) escape
      (Unnamable spec name param value) (Fits spec name param value) := by
  rcases param with ⟨kind, low, high⟩
  -- A value too long to be written is an integer, and passes the checks of type.
  have hlong : value.all Json.shortInteger = false ->
      value.isNumber = true ∧ isInt value = true := by
    intro h
    rcases long_integer hvalue h with ⟨n, hn⟩
    rw [hn]
    exact ⟨rfl, rfl⟩
  cases kind with
  | bool =>
      apply (guard_refuseIf hcoded).iff
      · simp [Unnamable]
      · simp [Fits]
  | mode =>
      apply (guard_raiseWhen hcoded hraised).iff
      · constructor
        · intro h
          exact ⟨h.left, trivial⟩
        · intro h
          rcases long_integer hvalue h.left with ⟨n, hn⟩
          refine ⟨h.left, ?_⟩
          rw [hn]
          exact inWords_int
      · simp [Fits]
  | int =>
      apply ((guard_refuseIf hcoded).andThen fun _ => (guard_refuseIf hcoded).andThen fun _ =>
        guard_raiseWhen hcoded hraised).iff
      · rw [not_bool_real_iff]
        simp only [Unnamable]
        constructor
        · intro h
          exact (h.resolve_left id).right.resolve_left id |>.right
        · intro h
          rcases hlong h.left with ⟨hnumber, hint⟩
          exact Or.inr ⟨hnumber, Or.inr ⟨by simp [hint], h⟩⟩
      · rw [not_bool_real_iff]
        simp [Fits, and_assoc]
  | number =>
      apply ((guard_refuseIf hcoded).andThen fun _ => (guard_refuseIf hcoded).andThen fun _ =>
        guard_raiseWhen hcoded hraised).iff
      · rw [not_bool_real_iff]
        simp only [Unnamable]
        constructor
        · intro h
          exact (h.resolve_left id).right.resolve_left id |>.right
        · intro h
          exact Or.inr ⟨(hlong h.left).left, Or.inr ⟨by simp, h⟩⟩
      · rw [not_bool_real_iff]
        simp [Fits]

/-!
## The whole command
-/

variable {spec : DeviceTypeSpec} {kind : PyStr} {c : Command}

theorem guard_params {params : Declared}
    (hnames : SameKeys c.params.members.keys (params.map Prod.fst))
    (hlength : params.length ≤ 1) :
    Guard (params.forM fun (name, param) =>
        match c.params.members.lookup name with
        | none => throw (Refusal.raised .keyError)
        | some value => validateParam I spec name param value)
      escape (SomeParam c params (Unnamable spec))
      (EveryParam c params (Fits spec)) := by
  have hbody : forall entry : PyStr × Param, entry ∈ params ->
      Guard (match c.params.members.lookup entry.fst with
        | none => throw (Refusal.raised .keyError)
        | some value => validateParam I spec entry.fst entry.snd value)
        escape
        (exists value, c.params.members.lookup entry.fst = some value ∧
          Unnamable spec entry.fst entry.snd value)
        (forall value, c.params.members.lookup entry.fst = some value ->
          Fits spec entry.fst entry.snd value) := by
    intro entry hentry
    have hkey := hnames.right (List.mem_map_of_mem hentry)
    rcases Json.lookup_isSome.mpr hkey with ⟨value, hvalue⟩
    rw [hvalue]
    exact (guard_validateParam I hcoded hraised (Params.value hvalue)).iff (by simp) (by simp)
  apply (guard_forM hbody).iff
  · rw [stops_of_length_le_one hlength]
    constructor
    · intro h
      rcases h with ⟨entry, hentry, value, hvalue, h⟩
      exact ⟨entry.fst, entry.snd, value, hentry, hvalue, h⟩
    · intro h
      rcases h with ⟨name, param, value, hentry, hvalue, h⟩
      exact ⟨(name, param), hentry, value, hvalue, h⟩
  · constructor
    · intro h name param value hentry hvalue
      exact h (name, param) hentry value hvalue
    · intro h entry hentry value hvalue
      exact h entry.fst entry.snd value hentry hvalue

theorem guard_validateCommandOf :
    Guard (validateCommandOf I spec kind c) escape (Uncoded spec c)
      (Accepted spec c) := by
  unfold validateCommandOf
  cases hcommand : (traitCommands c.trait).lookup c.command.val with
  | none =>
      apply ((guard_refuseIf hcoded).andThen fun _ => guard_throw _).iff
      · apply iff_of_false
        · intro h
          exact hcoded _ _ (h.resolve_left id).right
        · intro h
          rcases h with ⟨params, hdeclares, _⟩
          rw [hdeclares.command] at hcommand
          cases hcommand
      · apply iff_of_false
        · intro h
          exact h.right
        · intro h
          rcases h with ⟨params, hdeclares, _⟩
          rw [hdeclares.command] at hcommand
          cases hcommand
  | some params =>
      apply ((guard_refuseIf hcoded).andThen fun _ => (guard_refuseIf hcoded).andThen fun hnames =>
        guard_params I hcoded hraised (not_not.mp hnames) (declared_length hcommand)).iff
      · rw [not_not, not_not]
        constructor
        · intro h
          rcases h.resolve_left id with ⟨htrait, h⟩
          rcases h.resolve_left id with ⟨hnames, h⟩
          exact ⟨params, ⟨htrait, hcommand, hnames⟩, h⟩
        · intro h
          rcases h with ⟨params', hdeclares, h⟩
          have heq := Option.some.inj (hcommand.symm.trans hdeclares.command)
          subst heq
          exact Or.inr ⟨hdeclares.trait, Or.inr ⟨hdeclares.names, h⟩⟩
      · rw [not_not, not_not]
        constructor
        · intro h
          exact ⟨params, ⟨h.left, hcommand, h.right.left⟩, h.right.right⟩
        · intro h
          rcases h with ⟨params', hdeclares, h⟩
          have heq := Option.some.inj (hcommand.symm.trans hdeclares.command)
          subst heq
          exact ⟨hdeclares.trait, hdeclares.names, h⟩

end Guards

theorem validateCommandOf_eq_ok {I : Interpreter} {spec : DeviceTypeSpec}
    {kind : PyStr} {c : Command} :
    validateCommandOf I spec kind c = .ok () <-> Accepted spec c := by
  have hguard : Guard (validateCommandOf I spec kind c) Refusal.IsOther
      (Uncoded spec c) (Accepted spec c) :=
    guard_validateCommandOf I (fun _ _ => id) trivial
  exact hguard.passes_iff

end Smarthome
end EidolonSdk
