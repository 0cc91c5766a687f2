import EidolonSdk.Smarthome.States

/-!
# The two versions of a device

Version 2 lets a device narrow the traits of its type and replace the limits.
A device that does neither is checked as version 1 checks its type, with the
same refusals; one that only narrows takes no command its type does not take.
-/

namespace EidolonSdk
namespace Smarthome

open Python Pydantic Logic

/-- The specification has fewer traits, and otherwise the same bounds. -/
structure Narrows (spec preset : DeviceTypeSpec) : Prop where
  traits : spec.traits ⊆ preset.traits
  targetC : spec.targetC = preset.targetC
  modes : spec.modes = preset.modes

variable {spec preset : DeviceTypeSpec}

theorem Narrows.boundsOf (h : Narrows spec preset) (name : PyStr)
    (param : Param) : boundsOf spec name param = boundsOf preset name param := by
  unfold Smarthome.boundsOf
  rw [h.targetC]

/-- What stands for a parameter does not depend on the traits. -/
theorem Narrows.fits (h : Narrows spec preset) {name : PyStr} {param : Param}
    {value : Json} (hfits : Fits spec name param value) :
    Fits preset name param value := by
  unfold Fits at hfits ⊢
  rw [h.boundsOf, h.modes] at hfits
  exact hfits

theorem Narrows.accepted (h : Narrows spec preset) {c : Command}
    (haccepted : Accepted spec c) : Accepted preset c := by
  rcases haccepted with ⟨params, hdeclares, hparams⟩
  refine ⟨params, ⟨h.traits hdeclares.trait, hdeclares.command,
    hdeclares.names⟩, ?_⟩
  intro name param value hentry hlookup
  exact h.fits (hparams name param value hentry hlookup)

section Devices

variable (I : Interpreter) (d : Device)

theorem deviceSpec_narrows (hlimits : d.limits = none) :
    Narrows (deviceSpec d) (deviceTypes d.type) where
  traits := deviceTraits_subset d
  targetC := by
    unfold deviceSpec Device.limit
    rw [hlimits]
    rfl
  modes := by
    unfold deviceSpec Device.limit
    rw [hlimits]
    rfl

theorem deviceSpec_eq_preset (htraits : d.traits = none)
    (hlimits : d.limits = none) : deviceSpec d = deviceTypes d.type := by
  unfold deviceSpec deviceTraits Device.limit
  rw [htraits, hlimits]
  rfl

theorem validateCommand_text (t : DeviceType) (c : Command) :
    validateCommand I (str t.text) c =
      validateCommandOf I (deviceTypes t) (str t.text) c := by
  unfold validateCommand
  rw [deviceType_text]
  rfl

theorem validateState_text (t : DeviceType) (state : AnyState) :
    validateState I (str t.text) state =
      validateStateOf I (deviceTypes t).traits (deviceTypes t).modes
        state.members true := by
  unfold validateState
  rw [deviceType_text]
  rfl

theorem device_refines_its_type :
    (d.traits = none -> d.limits = none ->
      (forall c, validateDeviceCommand I d c =
        validateCommand I (str d.type.text) c) ∧
      forall state, validateDeviceState I d state =
        validateState I (str d.type.text) state) ∧
    (d.limits = none -> forall c, validateDeviceCommand I d c = .ok () ->
      validateCommand I (str d.type.text) c = .ok ()) := by
  constructor
  · intro htraits hlimits
    have hspec := deviceSpec_eq_preset d htraits hlimits
    constructor
    · intro c
      unfold validateDeviceCommand
      rw [validateCommand_text, hspec]
    · intro state
      unfold validateDeviceState
      rw [validateState_text, hspec]
  · intro hlimits c h
    rw [validateCommand_text, validateCommandOf_eq_ok]
    exact (deviceSpec_narrows d hlimits).accepted
      (validateCommandOf_eq_ok.mp h)

end Devices

theorem accepts_lamp : identifierRule.Accepts (str "lamp") := by decide

/-- A light that cannot dim. -/
def plainLight : Device :=
  ⟨⟨str "lamp", accepts_lamp⟩, fixedLight.name, .light, none,
    fixedLight.traits, none, rfl⟩

def turnOn : Command :=
  ⟨⟨str "lamp", accepts_lamp⟩, .onOff, ⟨str "on", by decide⟩,
    ⟨[], List.nodup_nil, nofun⟩⟩

theorem device_refines_its_type_light :
    (forall c, validateDeviceCommand asciiInterpreter airConditioner c =
      validateCommand asciiInterpreter (str airConditioner.type.text) c) ∧
    validateCommand asciiInterpreter (str plainLight.type.text) turnOn =
      .ok () :=
  ⟨((device_refines_its_type asciiInterpreter airConditioner).left rfl rfl).left,
    (device_refines_its_type asciiInterpreter plainLight).right rfl turnOn rfl⟩

end Smarthome
end EidolonSdk
