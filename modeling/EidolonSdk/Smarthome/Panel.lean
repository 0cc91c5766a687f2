import EidolonSdk.Smarthome.States

/-!
# What a panel shows

A panel shows a device with the state it was last told, checked against the
preset of the device's type; the device itself is checked against its own traits
and limits.  The two agree on every key, and on the modes only where the limits
leave them to the type.
-/

namespace EidolonSdk
namespace Smarthome

open Python Pydantic Logic

/-- `bool | int | float | str | None`. -/
def isStateValue : Json -> Bool
  | .array _ => false
  | .object _ => false
  | _ => true

abbrev State := Entries isStateValue

/-- The field `state`. -/
def stateValues (state : AnyState) : Validated State :=
  if h : forall m, m ∈ state.members -> isStateValue m.snd = true then
    .ok ⟨state.members, state.nodup, h⟩
  else .error .invalid

/-- What pydantic makes of an error in a model validator. -/
def Refusal.fault : Refusal -> Fault
  | .raised e => if e.isValueError then .invalid else .raised e
  | _ => .invalid

section Panel

variable (I : Interpreter)

/-- `PanelDevice.validate_device_state`. -/
def validatePanelState (type : DeviceType) (online : Bool)
    (state : Option State) : Checked Unit :=
  match state with
  | none =>
      refuseIf (online = true)
        (.valueError (str "ONLINE_DEVICE_NEEDS_STATE"))
  | some state => do
      let spec ← deviceType I (str type.text)
      validateStateOf I spec.traits spec.modes state.members false

structure PanelDevice where
  deviceId : Identifier
  name : Name
  type : DeviceType
  areaId : Option Identifier
  online : Bool
  state : Option State
  valid : validatePanelState I type online state = .ok ()

/-- `PanelDevice(...)`, with the state of a device. -/
def panelDevice (deviceId : Identifier) (name : Name) (type : DeviceType)
    (areaId : Option Identifier) (online : Bool) (state : AnyState) :
    Validated (PanelDevice I) :=
  match stateValues state with
  | .error fault => .error fault
  | .ok state =>
      match h : validatePanelState I type online (some state) with
      | .error e => .error e.fault
      | .ok () => .ok ⟨deviceId, name, type, areaId, online, some state, h⟩

end Panel

section States

variable (I : Interpreter) {d : Device} {online : Bool}

theorem validatePanelState_eq_ok {type : DeviceType} {state : State} :
    validatePanelState I type online (some state) = .ok () <->
      StateAccepted (deviceTypes type).traits (deviceTypes type).modes
        state.members false := by
  unfold validatePanelState
  rw [deviceType_text]
  exact (passes_validateStateOf I).passes_iff

/-- Only values of a state are of one of the types. -/
theorem isStateValue_of_typed {types : List PyType} {value : Json}
    (h : Typed types value) : isStateValue value = true := by
  have hinstance := h.right
  cases value with
  | array items => cases hinstance
  | object members => cases hinstance
  | null => rfl
  | bool b => rfl
  | int n => rfl
  | float x => rfl
  | str s => rfl

theorem StateAccepted.stateValues {traits : List Trait} {modes : List PyStr}
    {state : AnyState} {exact : Bool}
    (h : StateAccepted traits modes state.members exact) :
    exists values : State, Smarthome.stateValues state = .ok values ∧
      values.members = state.members := by
  have hvalues : forall m, m ∈ state.members -> isStateValue m.snd = true := by
    intro m hm
    rcases h.typed m.fst m.snd hm with ⟨types, _, htyped⟩
    exact isStateValue_of_typed htyped
  exact ⟨⟨state.members, state.nodup, hvalues⟩, dif_pos hvalues, rfl⟩

theorem exists_panelDevice_iff {deviceId : Identifier} {name : Name}
    {type : DeviceType} {areaId : Option Identifier} {state : AnyState}
    {values : State} (h : stateValues state = .ok values) :
    (exists p, panelDevice I deviceId name type areaId online state = .ok p) <->
      validatePanelState I type online (some values) = .ok () := by
  unfold panelDevice
  rw [h]
  dsimp only
  split
  · rename_i e he
    rw [he]
    exact iff_of_false nofun nofun
  · rename_i he
    exact iff_of_true ⟨_, rfl⟩ he

theorem panel_shows_device_state_iff (d : Device) (state : AnyState)
    (online : Bool) (h : validateDeviceState I d state = .ok ()) :
    (exists p, panelDevice I d.deviceId d.name d.type d.areaId online state =
      .ok p) <->
        Worded state.members "mode" (deviceTypes d.type).modes := by
  have haccepted := (passes_validateStateOf I).passes_iff.mp h
  rcases haccepted.stateValues with ⟨values, hvalues, hmembers⟩
  rw [exists_panelDevice_iff I hvalues, validatePanelState_eq_ok, hmembers]
  constructor
  · intro hpanel
    exact hpanel.mode
  · exact haccepted.widen (deviceTraits_subset d)

end States

def climateState (mode : String) : AnyState where
  members :=
    [(str "on", .bool false), (str "mode", .str (str mode)),
      (str "target_c", .int 26), (str "current_c", .null)]
  nodup := by
    show ([str "on", str "mode", str "target_c", str "current_c"]).Nodup
    simp
  values _ _ := rfl

theorem panel_shows_device_state_iff_cool :
    (exists p, panelDevice asciiInterpreter airConditioner.deviceId
      airConditioner.name airConditioner.type airConditioner.areaId true
      (climateState "cool") = .ok p) <->
        Worded (climateState "cool").members "mode"
          (deviceTypes airConditioner.type).modes :=
  panel_shows_device_state_iff asciiInterpreter airConditioner
    (climateState "cool") true (by decide)

/-- An air conditioner with a mode of its own. -/
def turboConditioner : Device :=
  { airConditioner with
    limits := some ⟨none, some ⟨[str "turbo"], by decide⟩, rfl⟩ }

theorem turbo_mode_not_shown :
    validateDeviceState asciiInterpreter turboConditioner (climateState "turbo") =
        .ok () ∧
      forall online, ¬ exists p, panelDevice asciiInterpreter
        turboConditioner.deviceId turboConditioner.name turboConditioner.type
        turboConditioner.areaId online (climateState "turbo") = .ok p := by
  refine ⟨by decide, ?_⟩
  intro online
  rw [exists_panelDevice_iff asciiInterpreter
    (show stateValues (climateState "turbo") = .ok _ from
      dif_pos (by decide)), validatePanelState_eq_ok]
  intro h
  rcases h.mode (.str (str "turbo")) rfl with ⟨word, hword, heq⟩
  rw [← Json.str.inj heq] at hword
  revert hword
  decide

end Smarthome
end EidolonSdk
