import EidolonSdk.Pydantic.Wire
import EidolonSdk.Smarthome.Commands

/-!
# Devices

A device has a type, and may have fewer traits than its type and limits of its
own.  A command is checked against what the device supports.  Every comparison
of the check refuses what lies outside a bound, and a NaN lies outside of none.
-/

namespace EidolonSdk
namespace Smarthome

open Python Pydantic Logic

/-- `Limits.validate_bounds`. -/
def validateBounds (targetC : Option (Double × Double)) : Checked Unit :=
  match targetC with
  | none => pure ()
  | some (low, high) =>
      refuseIf ((Json.float high).less (.float low) = true)
        (.valueError (str "LIMITS_TARGET_C_INVERTED"))

/-- Bounds a real device declares that are tighter than, or differ from, its
type's. -/
structure Limits where
  targetC : Option (Double × Double)
  modes : Option (Tuple { most := some 16 } PyStr)
  valid : validateBounds targetC = .ok ()

abbrev Traits := Tuple { least := 1, most := some 9 } Trait

/-- `Device.validate_traits`. -/
def validateTraits (type : DeviceType) (traits : Option Traits) : Checked Unit :=
  match traits with
  | none => pure ()
  | some own =>
      refuseIf (¬ own.val.Nodup ∨ ¬ own.val ⊆ (deviceTypes type).traits)
        (.valueError (str "DEVICE_TRAITS_NOT_IN_TYPE"))

structure Device where
  deviceId : Identifier
  name : Name
  type : DeviceType
  areaId : Option Identifier
  traits : Option Traits
  limits : Option Limits
  valid : validateTraits type traits = .ok ()

def deviceTraits (d : Device) : List Trait :=
  match d.traits with
  | some own => own.val
  | none => (deviceTypes d.type).traits

/-- The limits of the device, where it has some of that kind. -/
def Device.limit {α : Type} (d : Device) (f : Limits -> Option α) : Option α :=
  d.limits.bind f

/-- The type preset with this device's own traits and limits applied. -/
def deviceSpec (d : Device) : DeviceTypeSpec :=
  let preset := deviceTypes d.type
  { traits := deviceTraits d
    label := preset.label
    targetC :=
      match d.limit Limits.targetC with
      | some (low, high) => some (.float low, .float high)
      | none => preset.targetC
    modes :=
      match d.limit Limits.modes with
      | some own => own.val
      | none => preset.modes
    initial := preset.initial }

/-- `validate_device_command`. -/
def validateDeviceCommand (I : Interpreter) (d : Device) (c : Command) :
    Checked Unit :=
  validateCommandOf I (deviceSpec d) (str d.type.text) c

theorem guard_validateDeviceCommand (I : Interpreter) (d : Device)
    (c : Command) {escape : Refusal -> Prop}
    (hcoded : forall code detail, ¬ escape (.smartHomeError code detail))
    (hraised : escape (.raised .valueError)) :
    Guard (validateDeviceCommand I d c) escape (Uncoded (deviceSpec d) c)
      (Accepted (deviceSpec d) c) :=
  guard_validateCommandOf I hcoded hraised

theorem validateDeviceCommand_eq_ok {I : Interpreter} {d : Device}
    {c : Command} :
    validateDeviceCommand I d c = .ok () <-> Accepted (deviceSpec d) c :=
  validateCommandOf_eq_ok

/-- A command that is refused without a code. -/
theorem validateDeviceCommand_other {I : Interpreter} {d : Device}
    {c : Command} :
    (exists e, validateDeviceCommand I d c = .error e ∧ e.IsOther) <->
      Uncoded (deviceSpec d) c :=
  (guard_validateDeviceCommand I d c (fun _ _ => id) trivial).escapes_iff

theorem validateDeviceCommand_raised {I : Interpreter} {d : Device}
    {c : Command} (h : Uncoded (deviceSpec d) c) :
    validateDeviceCommand I d c = .error (.raised .valueError) := by
  have hguard : Guard _ (fun e => e = Refusal.raised .valueError) _ _ :=
    guard_validateDeviceCommand I d c (fun _ _ => nofun) rfl
  rcases hguard.escapes_iff.mpr h with ⟨e, he, heq⟩
  rw [← heq]
  exact he

/-- The traits of a device are traits of its type. -/
theorem deviceTraits_subset (d : Device) :
    deviceTraits d ⊆ (deviceTypes d.type).traits := by
  have hvalid := d.valid
  unfold deviceTraits
  unfold validateTraits at hvalid
  cases htraits : d.traits with
  | none => exact List.Subset.refl _
  | some own =>
      rw [htraits] at hvalid
      exact not_not.mp (not_or.mp (refuseIf_eq_ok.mp hvalid)).right

/-!
## Bounds
-/

theorem Number.json_isNumber (number : Number) : number.json.isNumber = true := by
  cases number with
  | int n => rfl
  | float x => rfl

/-- Devices with a set-point have a range for it. -/
theorem targetC_of_thermostat {d : Device}
    (h : Trait.thermostat ∈ deviceTraits d) :
    exists low high, (deviceSpec d).targetC = some (low, high) := by
  have hpreset := deviceTraits_subset d h
  unfold deviceSpec
  cases hlimit : d.limit Limits.targetC with
  | some own => exact ⟨_, _, rfl⟩
  | none =>
      cases htype : d.type with
      | climate => exact ⟨_, _, rfl⟩
      | waterHeater => exact ⟨_, _, rfl⟩
      | light => simp [htype, deviceTypes] at hpreset
      | switch => simp [htype, deviceTypes] at hpreset
      | cover => simp [htype, deviceTypes] at hpreset
      | fan => simp [htype, deviceTypes] at hpreset
      | media => simp [htype, deviceTypes] at hpreset
      | appliance => simp [htype, deviceTypes] at hpreset
      | lock => simp [htype, deviceTypes] at hpreset
      | camera => simp [htype, deviceTypes] at hpreset
      | sensor => simp [htype, deviceTypes] at hpreset

def isWhole : Option Number -> Bool
  | some (.int _) => true
  | _ => false

theorem exists_of_isWhole {bound : Option Number} (h : isWhole bound = true) :
    exists n, bound = some (.int n) := by
  cases bound with
  | none => cases h
  | some number =>
      cases number with
      | int n => exact ⟨n, rfl⟩
      | float x => cases h

/-- The set-point has its bounds from the specification, every other number
has them in the table. -/
def boundedInTable (t : Trait) (entry : PyStr × Param) : Bool :=
  if entry.fst = str "celsius" then
    decide (entry.snd.kind = .number ∧ t = .thermostat)
  else
    decide (entry.snd.kind = .bool ∨ entry.snd.kind = .mode) ||
      isWhole entry.snd.low && isWhole entry.snd.high

theorem declared_boundedInTable {t : Trait} {command : PyStr}
    {params : Declared} (h : (traitCommands t).lookup command = some params)
    {entry : PyStr × Param} (hentry : entry ∈ params) :
    boundedInTable t entry = true := by
  have hall : ((traitCommands t).all fun command =>
      command.snd.all (boundedInTable t)) = true := by
    cases t with
    | onOff => rfl
    | level => rfl
    | thermostat => rfl
    | fanSpeed => rfl
    | position => rfl
    | lock => rfl
    | operational => rfl
    | volume => rfl
    | measure => rfl
  have hparams := List.all_eq_true.mp hall _ (mem_of_lookup_eq h)
  exact List.all_eq_true.mp hparams entry hentry

variable {d : Device} {c : Command} {params : Declared}
variable {name : PyStr} {param : Param} {value : Json}

def Number.IsNan (number : Number) : Prop :=
  number.json = .float .nan

/-- The value lies between the bounds in effect.  A NaN lies between none. -/
def Bounded (d : Device) (name : PyStr) (param : Param) (value : Json) : Prop :=
  exists low high,
    boundsOf (deviceSpec d) name param = (some low, some high) ∧
      low.json.atMost value = true ∧ value.atMost high.json = true

/-- The limits of the device have no NaN for a bound of its set-point. -/
def ProperTarget (d : Device) : Prop :=
  forall low high, d.limit Limits.targetC = some (low, high) ->
    low ≠ .nan ∧ high ≠ .nan

theorem deviceSpec_targetC {low high : Double}
    (h : d.limit Limits.targetC = some (low, high)) :
    (deviceSpec d).targetC = some (.float low, .float high) := by
  unfold deviceSpec
  rw [h]

theorem deviceSpec_targetC_preset (h : d.limit Limits.targetC = none) :
    (deviceSpec d).targetC = (deviceTypes d.type).targetC := by
  unfold deviceSpec
  rw [h]

theorem preset_targetC_proper {t : DeviceType} {low high : Number}
    (h : (deviceTypes t).targetC = some (low, high)) :
    ¬ low.IsNan ∧ ¬ high.IsNan := by
  cases t with
  | climate =>
      cases h
      exact ⟨nofun, nofun⟩
  | waterHeater =>
      cases h
      exact ⟨nofun, nofun⟩
  | light => cases h
  | switch => cases h
  | cover => cases h
  | fan => cases h
  | media => cases h
  | appliance => cases h
  | lock => cases h
  | camera => cases h
  | sensor => cases h

/-- The bounds of a number that a device takes, and that none of them is a NaN
unless its limits are. -/
theorem exists_bounds (hdeclares : Declares (deviceSpec d) c params)
    (hentry : (name, param) ∈ params)
    (hkind : param.kind = .int ∨ param.kind = .number) :
    exists low high,
      boundsOf (deviceSpec d) name param = (some low, some high) ∧
        ((name = str "celsius" -> ProperTarget d) ->
          ¬ low.IsNan ∧ ¬ high.IsNan) := by
  have htable := declared_boundedInTable hdeclares.command hentry
  unfold boundedInTable at htable
  unfold boundsOf
  by_cases hname : name = str "celsius"
  · rw [if_pos hname] at htable ⊢
    have hthermostat := (of_decide_eq_true htable).right
    have htrait : Trait.thermostat ∈ deviceTraits d := by
      rw [← hthermostat]
      exact hdeclares.trait
    rcases targetC_of_thermostat htrait with ⟨low, high, htarget⟩
    rw [htarget]
    refine ⟨low, high, rfl, ?_⟩
    intro hproper
    cases hlimit : d.limit Limits.targetC with
    | none =>
        rw [deviceSpec_targetC_preset hlimit] at htarget
        exact preset_targetC_proper htarget
    | some own =>
        rcases own with ⟨ownLow, ownHigh⟩
        rcases hproper hname ownLow ownHigh hlimit with ⟨hlow, hhigh⟩
        rw [deviceSpec_targetC hlimit] at htarget
        cases htarget
        exact ⟨fun h => hlow (Json.float.inj h), fun h => hhigh (Json.float.inj h)⟩
  · rw [if_neg hname] at htable ⊢
    have hnumber : ¬ (param.kind = .bool ∨ param.kind = .mode) := by
      rcases hkind with hkind | hkind
      · simp [hkind]
      · simp [hkind]
    rw [decide_eq_false hnumber, Bool.false_or, Bool.and_eq_true] at htable
    rcases exists_of_isWhole htable.left with ⟨m, hlow⟩
    rcases exists_of_isWhole htable.right with ⟨n, hhigh⟩
    rw [hlow, hhigh]
    exact ⟨.int m, .int n, rfl, fun _ => ⟨nofun, nofun⟩⟩

/-!
## What an accepted command may ask for
-/

/-- The value is of the kind of its parameter, and where that has bounds it lies
between them. -/
def Within (d : Device) (name : PyStr) (param : Param) (value : Json) : Prop :=
  match param.kind with
  | .bool => exists b, value = .bool b
  | .mode => exists mode, mode ∈ (deviceSpec d).modes ∧ value = .str mode
  | .int => (exists n, value = .int n) ∧ Bounded d name param value
  | .number => value.isNumber = true ∧ Bounded d name param value

/-- The command asks for something the device takes. -/
structure Obeyed (d : Device) (c : Command) : Prop where
  trait : c.trait ∈ deviceTraits d
  params : exists params,
    (traitCommands c.trait).lookup c.command.val = some params ∧
      (forall name, name ∈ c.params.members.keys <->
        name ∈ params.map Prod.fst) ∧
      EveryParam c params (Within d)

/-- No number the check compares is a NaN: no value of the command is one, and
no bound of the set-point where the command sets it. -/
structure Comparable (d : Device) (c : Command) : Prop where
  values : forall name value, c.params.members.lookup name = some value ->
    value ≠ .float .nan
  target : str "celsius" ∈ c.params.members.keys -> ProperTarget d

theorem inWords_iff {words : List PyStr} :
    inWords words value = true <-> exists word, word ∈ words ∧ value = .str word := by
  unfold inWords Json.elementOf
  rw [List.any_map, List.any_eq_true]
  have hequals : forall word : PyStr,
      value.equals (.str word) = true <-> value = .str word := by
    intro word
    constructor
    · intro h
      cases value with
      | str s =>
          rw [Json.equals_scalar (Json.hashKey_str s) (Json.hashKey_str word)] at h
          rw [Json.HashKey.text.inj h.left]
      | null => cases h
      | bool b => cases h
      | int n => cases h
      | float x =>
          cases x with
          | finite negative magnitude representable => cases h
          | infinite negative => cases h
          | nan => cases h
      | array items => cases h
      | object members => cases h
    · intro h
      rw [h, Json.equals_scalar (Json.hashKey_str word) (Json.hashKey_str word)]
      refine ⟨rfl, ?_⟩
      intro hnan
      cases hnan
  simp only [Function.comp_apply, hequals]

theorem outOfRange_iff {low high : Number} :
    outOfRange (some low, some high) value = false <->
      value.less low.json = false ∧ high.json.less value = false := by
  simp [outOfRange]

/-- Between numbers, lying outside of no bound is lying between the bounds. -/
theorem bounded_of_not_outOfRange {low high : Number}
    (hvalue : value.isNumber = true) (hnan : value ≠ .float .nan)
    (hlow : ¬ low.IsNan) (hhigh : ¬ high.IsNan)
    (h : outOfRange (some low, some high) value = false) :
    low.json.atMost value = true ∧ value.atMost high.json = true := by
  rw [outOfRange_iff] at h
  exact ⟨(Json.atMost_iff_not_less low.json_isNumber hvalue hlow hnan).mpr h.left,
    (Json.atMost_iff_not_less hvalue high.json_isNumber hnan hhigh).mpr h.right⟩

theorem Bounded.not_nan (h : Bounded d name param value) :
    value ≠ .float .nan := by
  rcases h with ⟨low, high, _, hlow, _⟩
  intro heq
  rw [heq] at hlow
  exact Json.not_atMost_nan low.json_isNumber hlow

theorem Bounded.target_proper (hvalue : value.isNumber = true)
    (hname : name = str "celsius") (h : Bounded d name param value) :
    ProperTarget d := by
  rcases h with ⟨low, high, hbounds, hlow, hhigh⟩
  intro ownLow ownHigh hlimit
  unfold boundsOf at hbounds
  rw [if_pos hname, deviceSpec_targetC hlimit] at hbounds
  cases hbounds
  constructor
  · intro hnan
    rw [hnan] at hlow
    exact Json.not_nan_atMost hvalue hlow
  · intro hnan
    rw [hnan] at hhigh
    exact Json.not_atMost_nan hvalue hhigh

theorem Within.not_nan (h : Within d name param value) : value ≠ .float .nan := by
  unfold Within at h
  cases hkind : param.kind with
  | bool =>
      rw [hkind] at h
      rcases h with ⟨b, hb⟩
      rw [hb]
      exact nofun
  | mode =>
      rw [hkind] at h
      rcases h with ⟨mode, _, hmode⟩
      rw [hmode]
      exact nofun
  | int =>
      rw [hkind] at h
      exact h.right.not_nan
  | number =>
      rw [hkind] at h
      exact h.right.not_nan

/-- A number that passed the check and is compared with no NaN. -/
theorem bounded_of_fits (hdeclares : Declares (deviceSpec d) c params)
    (hentry : (name, param) ∈ params)
    (hlookup : c.params.members.lookup name = some value)
    (hcomparable : Comparable d c)
    (hkind : param.kind = .int ∨ param.kind = .number)
    (hnumber : value.isNumber = true)
    (hrange : outOfRange (boundsOf (deviceSpec d) name param) value = false) :
    Bounded d name param value := by
  rcases exists_bounds hdeclares hentry hkind with ⟨low, high, hbounds, hproper⟩
  have htarget : name = str "celsius" -> ProperTarget d := by
    intro hname
    apply hcomparable.target
    rw [← hname]
    exact Json.lookup_isSome.mp ⟨value, hlookup⟩
  rcases hproper htarget with ⟨hlow, hhigh⟩
  rw [hbounds] at hrange
  exact ⟨low, high, hbounds,
    bounded_of_not_outOfRange hnumber (hcomparable.values name value hlookup)
      hlow hhigh hrange⟩

theorem within_of_fits (hdeclares : Declares (deviceSpec d) c params)
    (hentry : (name, param) ∈ params)
    (hlookup : c.params.members.lookup name = some value)
    (hcomparable : Comparable d c)
    (hfits : Fits (deviceSpec d) name param value) :
    Within d name param value := by
  unfold Fits at hfits
  unfold Within
  cases hkind : param.kind with
  | bool =>
      rw [hkind] at hfits
      cases value with
      | bool b => exact ⟨b, rfl⟩
      | null => cases hfits
      | int n => cases hfits
      | float x => cases hfits
      | str s => cases hfits
      | array items => cases hfits
      | object members => cases hfits
  | mode =>
      rw [hkind] at hfits
      exact inWords_iff.mp hfits
  | int =>
      rw [hkind] at hfits
      rcases hfits with ⟨⟨hnumber, hint⟩, hrange⟩
      refine ⟨?_, bounded_of_fits hdeclares hentry hlookup hcomparable
        (Or.inl hkind) hnumber hrange⟩
      cases value with
      | int n => exact ⟨n, rfl⟩
      | float x => cases hint
      | null => cases hnumber
      | bool b => cases hnumber
      | str s => cases hnumber
      | array items => cases hnumber
      | object members => cases hnumber
  | number =>
      rw [hkind] at hfits
      exact ⟨hfits.left, bounded_of_fits hdeclares hentry hlookup hcomparable
        (Or.inr hkind) hfits.left hfits.right⟩

/-- The set-point is a number. -/
theorem celsius_isNumber (hdeclares : Declares (deviceSpec d) c params)
    (hentry : (str "celsius", param) ∈ params) : param.kind = .number := by
  have htable := declared_boundedInTable hdeclares.command hentry
  unfold boundedInTable at htable
  rw [if_pos rfl] at htable
  exact (of_decide_eq_true htable).left

theorem accepted_command_obeyed_iff (I : Interpreter) (d : Device) (c : Command)
    (h : validateDeviceCommand I d c = .ok ()) :
    Obeyed d c <-> Comparable d c := by
  rcases validateDeviceCommand_eq_ok.mp h with
    ⟨params, hdeclares, hfits⟩
  -- Every parameter of the command is one of the declared ones.
  have hdeclared : forall name, name ∈ c.params.members.keys ->
      exists param, (name, param) ∈ params := by
    intro name hname
    rcases List.mem_map.mp (hdeclares.names.left hname) with ⟨entry, hentry, heq⟩
    exact ⟨entry.snd, by rw [← heq]; exact hentry⟩
  constructor
  · intro hobeyed
    rcases hobeyed.params with ⟨params', hcommand, _, hwithin⟩
    have heq := Option.some.inj (hdeclares.command.symm.trans hcommand)
    subst heq
    constructor
    · intro name value hlookup
      have hname := Json.lookup_isSome.mp ⟨value, hlookup⟩
      rcases hdeclared name hname with ⟨param, hentry⟩
      exact (hwithin name param value hentry hlookup).not_nan
    · intro hname
      rcases hdeclared _ hname with ⟨param, hentry⟩
      rcases Json.lookup_isSome.mpr hname with ⟨value, hlookup⟩
      have hvalue := hwithin _ param value hentry hlookup
      unfold Within at hvalue
      rw [celsius_isNumber hdeclares hentry] at hvalue
      exact hvalue.right.target_proper hvalue.left rfl
  · intro hcomparable
    refine ⟨hdeclares.trait, params, hdeclares.command, ?_, ?_⟩
    · intro name
      exact ⟨fun hname => hdeclares.names.left hname,
        fun hname => hdeclares.names.right hname⟩
    · intro name param value hentry hlookup
      exact within_of_fits hdeclares hentry hlookup hcomparable
        (hfits name param value hentry hlookup)

/-- An air conditioner as the host adds it. -/
def airConditioner : Device :=
  ⟨⟨str "ac", by decide⟩, ⟨str "空调", by decide⟩, .climate, none,
    none, none, rfl⟩

def setTarget (value : Json) (h : isParamValue value = true) : Command :=
  ⟨⟨str "ac", by decide⟩, .thermostat,
    ⟨str "set_target", by decide⟩,
    ⟨[(str "celsius", value)], List.nodup_singleton _, by simpa using h⟩⟩

theorem accepted_command_obeyed_iff_24 :
    Obeyed airConditioner (setTarget (.int 24) rfl) <->
      Comparable airConditioner (setTarget (.int 24) rfl) :=
  accepted_command_obeyed_iff asciiInterpreter _ _ (by decide +kernel)

theorem nan_set_point_accepted :
    validateDeviceCommand asciiInterpreter airConditioner
        (setTarget (.float .nan) rfl) = .ok () ∧
      ¬ Obeyed airConditioner (setTarget (.float .nan) rfl) := by
  refine ⟨rfl, ?_⟩
  intro h
  rcases h.params with ⟨params, hcommand, _, hwithin⟩
  have hparams : params = [(str "celsius", ⟨.number, none, none⟩)] :=
    (Option.some.inj hcommand).symm
  subst hparams
  exact (hwithin (str "celsius") _ (.float .nan) List.mem_cons_self rfl).not_nan
    rfl

end Smarthome
end EidolonSdk
