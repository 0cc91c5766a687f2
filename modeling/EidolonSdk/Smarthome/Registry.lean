import EidolonSdk.Coding.Separated
import EidolonSdk.Smarthome.Devices

/-!
# The registry

The Owner's home: its areas, devices, scenes and placements, and what has to
hold between them.  The rules are stated over the collections themselves; the
code checks them one after another and refuses with the code of the first one
that is broken, or so it means to.
-/

namespace EidolonSdk
namespace Smarthome

open Python Pydantic Logic Coding

structure Area where
  areaId : Identifier
  name : Name

abbrev Actions := Tuple { most := some 32 } Command

/-- `Scene.validate_target`. -/
def validateTarget (actions : Actions) (providerRef provider : Option Identifier) :
    Checked Unit := do
  refuseIf (actions.val ≠ [] <-> providerRef.isSome)
    (.valueError (str "EXACTLY_ONE_OF_ACTIONS_OR_PROVIDER_REF"))
  refuseIf (¬ (providerRef.isNone <-> provider.isNone))
    (.valueError (str "PROVIDER_SCENE_NEEDS_PROVIDER"))

/-- Either Eidolon's own list of actions, or a scene a Provider runs as a
whole. -/
structure Scene where
  sceneId : Identifier
  name : Name
  actions : Actions
  providerRef : Option Identifier
  provider : Option Identifier
  valid : validateTarget actions providerRef provider = .ok ()

/-- Which area an Eidolon device stands in. -/
structure Placement where
  deviceRef : Identifier
  areaId : Identifier

/-- A registry before its references are validated. -/
structure RegistryFields where
  revision : IntFrom 0
  areas : Tuple { most := some 32 } Area
  devices : Tuple { most := some 128 } Device
  scenes : Tuple { most := some 16 } Scene
  placements : Tuple { most := some 64 } Placement

namespace RegistryFields

variable (r : RegistryFields)

def areaIds : List PyStr := r.areas.val.map fun a => a.areaId.val

def areaNames : List PyStr := r.areas.val.map fun a => a.name.val

def deviceIds : List PyStr := r.devices.val.map fun d => d.deviceId.val

def sceneIds : List PyStr := r.scenes.val.map fun s => s.sceneId.val

def deviceRefs : List PyStr := r.placements.val.map fun p => p.deviceRef.val

end RegistryFields

/-- `f"{d.area_id}"`; no area is the text `None`. -/
def areaText : Option Identifier -> PyStr
  | some areaId => areaId.val
  | none => str "None"

/-- `f"{d.area_id}\x00{d.name}"`. -/
def nameKey (d : Device) : PyStr :=
  areaText d.areaId ++ (0 : CodePoint) :: d.name.val

def RegistryCode.all : List RegistryCode :=
  [.duplicateArea, .duplicateAreaName, .duplicateDevice, .duplicateDeviceName,
    .duplicateScene, .duplicatePlacement, .deviceAreaUnknown,
    .placementAreaUnknown, .sceneDeviceUnknown, .limitExceeded]

/-- `_unique`. -/
def unique (values : List PyStr) (code : String) : Checked (List PyStr) :=
  if values.Nodup then pure values
  else
    match RegistryCode.all.find? fun c => c.text = code with
    | some c => throw (.registryError c)
    | none => throw (.valueError (str code))

/-- `{d.device_id: d for d in devices}`. -/
def byId (devices : List Device) : Dict PyStr Device :=
  Dict.ofList (devices.map fun d => (d.deviceId.val, d))

section Validate

variable (I : Interpreter)

def validateAction (deviceIds : List PyStr) (devices : Dict PyStr Device)
    (action : Command) : Checked Unit := do
  refuseIf (action.deviceId.val ∉ deviceIds) (.registryError .sceneDeviceUnknown)
  match devices.lookup action.deviceId.val with
  | none => throw (.raised .keyError)
  | some d => validateDeviceCommand I d action

/-- `Registry.validate_references`. -/
def validateReferences (r : RegistryFields) : Checked Unit := do
  let areaIds ← unique r.areaIds RegistryCode.duplicateArea.text
  let deviceIds ← unique r.deviceIds RegistryCode.duplicateDevice.text
  let _ ← unique r.areaNames RegistryCode.duplicateAreaName.text
  -- Two rooms may each have a lamp of one name; one room may not.
  let _ ← unique (r.devices.val.map nameKey)
    RegistryCode.duplicateDeviceName.text
  let _ ← unique r.sceneIds RegistryCode.duplicateScene.text
  let _ ← unique r.deviceRefs RegistryCode.duplicatePlacement.text
  r.devices.val.forM fun d =>
    refuseIf ((d.areaId.any fun areaId => areaId.val ∉ areaIds) = true)
      (.registryError .deviceAreaUnknown)
  r.placements.val.forM fun p =>
    refuseIf (p.areaId.val ∉ areaIds) (.registryError .placementAreaUnknown)
  let byId := byId r.devices.val
  r.scenes.val.forM fun s =>
    s.actions.val.forM fun action => validateAction I deviceIds byId action

end Validate

/-!
## The rules
-/

namespace RegistryFields

variable (I : Interpreter) (r : RegistryFields)

/-- A device's room and name.  Devices without a room share one. -/
def roomNames : List (Option PyStr × PyStr) :=
  r.devices.val.map fun d => (d.areaId.map Subtype.val, d.name.val)

def actions : List Command :=
  r.scenes.val.flatMap fun s => s.actions.val

def DeviceAreasKnown : Prop :=
  forall d, d ∈ r.devices.val -> forall areaId, d.areaId = some areaId ->
    areaId.val ∈ r.areaIds

def PlacementAreasKnown : Prop :=
  forall p, p ∈ r.placements.val -> p.areaId.val ∈ r.areaIds

/-- The action names a registered device that accepts it. -/
def Taken (action : Command) : Prop :=
  exists d, d ∈ r.devices.val ∧ d.deviceId.val = action.deviceId.val ∧
    validateDeviceCommand I d action = .ok ()

structure Rules : Prop where
  areaIds : r.areaIds.Nodup
  deviceIds : r.deviceIds.Nodup
  areaNames : r.areaNames.Nodup
  roomNames : r.roomNames.Nodup
  sceneIds : r.sceneIds.Nodup
  deviceRefs : r.deviceRefs.Nodup
  deviceAreas : r.DeviceAreasKnown
  placementAreas : r.PlacementAreasKnown
  actions : forall action, action ∈ r.actions -> r.Taken I action

/-- The rule of the code is broken. -/
def Broken : RegistryCode -> Prop
  | .duplicateArea => ¬ r.areaIds.Nodup
  | .duplicateAreaName => ¬ r.areaNames.Nodup
  | .duplicateDevice => ¬ r.deviceIds.Nodup
  | .duplicateDeviceName => ¬ r.roomNames.Nodup
  | .duplicateScene => ¬ r.sceneIds.Nodup
  | .duplicatePlacement => ¬ r.deviceRefs.Nodup
  | .deviceAreaUnknown => ¬ r.DeviceAreasKnown
  | .placementAreaUnknown => ¬ r.PlacementAreasKnown
  | .sceneDeviceUnknown =>
      exists action, action ∈ r.actions ∧ action.deviceId.val ∉ r.deviceIds
  | .limitExceeded => False

/-- The error carries the code of a rule that is broken; the code of a refused
command stands for the rule that devices accept their actions. -/
def Names : Refusal -> Prop
  | .registryError code => r.Broken code
  | .smartHomeError code detail =>
      exists action d, action ∈ r.actions ∧ d ∈ r.devices.val ∧
        d.deviceId.val = action.deviceId.val ∧
        validateDeviceCommand I d action = .error (.smartHomeError code detail)
  | .valueError _ => False
  | .raised _ => False

/-- Acceptance is what the rules say, and a refusal says which rule is broken. -/
def Decided : Prop :=
  (validateReferences I r = .ok () <-> r.Rules I) ∧
    forall e, validateReferences I r = .error e -> r.Names I e

/-!
## Where the check departs from the rules
-/

/-- A device without a room, and one of the same name in a room whose id is the
text of `None`. -/
def Collides : Prop :=
  exists d e, d ∈ r.devices.val ∧ e ∈ r.devices.val ∧ d.areaId = none ∧
    e.areaId.map Subtype.val = some (str "None") ∧ d.name.val = e.name.val

/-- The collision is reached: all that is checked before holds, and so does the
rule itself. -/
structure CollisionReached : Prop where
  areaIds : r.areaIds.Nodup
  deviceIds : r.deviceIds.Nodup
  areaNames : r.areaNames.Nodup
  roomNames : r.roomNames.Nodup
  collides : r.Collides

/-- The action is for a registered device, which cannot name its refusal. -/
def Unspoken (action : Command) : Prop :=
  exists d, d ∈ r.devices.val ∧ d.deviceId.val = action.deviceId.val ∧
    Uncoded (deviceSpec d) action

/-- The first action that is not taken is refused without a code. -/
structure UnspokenReached : Prop where
  areaIds : r.areaIds.Nodup
  deviceIds : r.deviceIds.Nodup
  areaNames : r.areaNames.Nodup
  roomNames : r.roomNames.Nodup
  apart : ¬ r.Collides
  sceneIds : r.sceneIds.Nodup
  deviceRefs : r.deviceRefs.Nodup
  deviceAreas : r.DeviceAreasKnown
  placementAreas : r.PlacementAreasKnown
  actions : exists front action back, r.actions = front ++ action :: back ∧
    (forall b, b ∈ front -> r.Taken I b) ∧ r.Unspoken action

end RegistryFields

/-!
## Rooms and names in one text
-/

theorem zero_notMem_areaText (areaId : Option Identifier) :
    (0 : CodePoint) ∉ areaText areaId := by
  cases areaId with
  | none => decide
  | some areaId =>
      intro hmem
      have hall := areaId.property.right.right.right
      have hzero := List.all_eq_true.mp hall 0 hmem
      revert hzero
      decide

theorem nameKey_inj {d e : Device} :
    nameKey d = nameKey e <->
      areaText d.areaId = areaText e.areaId ∧ d.name.val = e.name.val := by
  constructor
  · intro h
    apply append_sep_inj h
    rw [List.count_eq_zero_of_not_mem (zero_notMem_areaText d.areaId),
      List.count_eq_zero_of_not_mem (zero_notMem_areaText e.areaId)]
  · intro h
    unfold nameKey
    rw [h.left, h.right]

def CollidesWith (d e : Device) : Prop :=
  d.areaId = none ∧ e.areaId.map Subtype.val = some (str "None") ∧
    d.name.val = e.name.val

theorem areaText_eq_iff {a b : Option Identifier} :
    areaText a = areaText b <->
      a.map Subtype.val = b.map Subtype.val ∨
        a = none ∧ b.map Subtype.val = some (str "None") ∨
        b = none ∧ a.map Subtype.val = some (str "None") := by
  cases a with
  | none =>
      cases b with
      | none => simp
      | some b => simp [areaText, eq_comm]
  | some a =>
      cases b with
      | none => simp [areaText]
      | some b => simp [areaText]

/-- The texts tell rooms and names apart, except where no room meets the room of
that name. -/
theorem nameKey_eq_iff {d e : Device} :
    nameKey d = nameKey e <->
      (d.areaId.map Subtype.val, d.name.val) =
          (e.areaId.map Subtype.val, e.name.val) ∨
        CollidesWith d e ∨ CollidesWith e d := by
  rw [nameKey_inj, areaText_eq_iff, Prod.mk.injEq]
  unfold CollidesWith
  constructor
  · intro h
    rcases h with ⟨h | h | h, hname⟩
    · exact Or.inl ⟨h, hname⟩
    · exact Or.inr (Or.inl ⟨h.left, h.right, hname⟩)
    · exact Or.inr (Or.inr ⟨h.left, h.right, hname.symm⟩)
  · intro h
    rcases h with h | ⟨hnone, hsome, hname⟩ | ⟨hnone, hsome, hname⟩
    · exact ⟨Or.inl h.left, h.right⟩
    · exact ⟨Or.inr (Or.inl ⟨hnone, hsome⟩), hname⟩
    · exact ⟨Or.inr (Or.inr ⟨hnone, hsome⟩), hname.symm⟩

theorem nameKeys_nodup_iff {r : RegistryFields} :
    (r.devices.val.map nameKey).Nodup <->
      r.roomNames.Nodup ∧ ¬ r.Collides := by
  have hsplit : (r.devices.val.map nameKey).Nodup <->
      r.roomNames.Nodup ∧ r.devices.val.Pairwise fun d e =>
        ¬ (CollidesWith d e ∨ CollidesWith e d) := by
    unfold RegistryFields.roomNames List.Nodup
    rw [List.pairwise_map, List.pairwise_map, ← List.pairwise_and_iff]
    apply iff_of_eq
    congr
    funext d e
    rw [ne_eq, nameKey_eq_iff, not_or]
  rw [hsplit]
  apply and_congr_right
  intro _
  constructor
  · intro hpairwise hcollides
    rcases hcollides with ⟨d, e, hd, he, hcollides⟩
    have hself : forall d, d ∈ r.devices.val ->
        ¬ (CollidesWith d d ∨ CollidesWith d d) := by
      intro d _ h
      rcases or_self_iff.mp h with ⟨hnone, hsome, _⟩
      rw [hnone] at hsome
      cases hsome
    have hall := hpairwise.forall_of_forall_of_flip hself
      (hpairwise.imp fun h h' => h h'.symm)
    exact hall hd he (Or.inl hcollides)
  · intro hapart
    apply List.pairwise_of_forall_mem_list
    intro d hd e he h
    rcases h with h | h
    · exact hapart ⟨d, e, hd, he, h⟩
    · exact hapart ⟨e, d, he, hd, h⟩

/-!
## One guard for each rule
-/

theorem unique_bind {values : List PyStr} {code : RegistryCode}
    {f : List PyStr -> Checked Unit} :
    (unique values code.text >>= f) =
      (refuseIf (¬ values.Nodup) (.registryError code) >>= fun _ => f values) := by
  have hcode : (RegistryCode.all.find? fun c => c.text = code.text) = some code := by
    cases code with
    | duplicateArea => rfl
    | duplicateAreaName => rfl
    | duplicateDevice => rfl
    | duplicateDeviceName => rfl
    | duplicateScene => rfl
    | duplicatePlacement => rfl
    | deviceAreaUnknown => rfl
    | placementAreaUnknown => rfl
    | sceneDeviceUnknown => rfl
    | limitExceeded => rfl
  unfold unique refuseIf
  by_cases h : values.Nodup
  · rw [if_pos h, if_neg (not_not.mpr h)]
    rfl
  · rw [if_neg h, if_pos h, hcode]
    rfl

section Guards

variable (I : Interpreter) (r : RegistryFields)

/-- An error that does not carry the code of a broken rule. -/
abbrev RegistryFields.Misnames (e : Refusal) : Prop :=
  ¬ r.Names I e

/-- A refusal with the code of the rule it checks. -/
theorem guard_rule {c : Prop} [Decidable c] {code : RegistryCode}
    (h : c -> r.Broken code) :
    Guard (refuseIf c (.registryError code)) (r.Misnames I) False (¬ c) :=
  guard_refuseOf.iff (iff_of_false (fun h' => h'.right (h h'.left)) id) Iff.rfl

theorem guard_nameKeys :
    Guard (refuseIf (¬ (r.devices.val.map nameKey).Nodup)
        (.registryError .duplicateDeviceName))
      (r.Misnames I) (r.roomNames.Nodup ∧ r.Collides)
      (r.roomNames.Nodup ∧ ¬ r.Collides) := by
  apply guard_refuseOf.iff
  · show _ ∧ ¬ ¬ r.roomNames.Nodup <-> _
    rw [nameKeys_nodup_iff, not_not]
    constructor
    · intro h
      exact ⟨h.right, not_not.mp fun hapart => h.left ⟨h.right, hapart⟩⟩
    · intro h
      exact ⟨fun hkeys => hkeys.right h.right, h.left⟩
  · rw [not_not, nameKeys_nodup_iff]

theorem stops_false {α : Type} {passes : α -> Prop} {items : List α} :
    Stops (fun _ => False) passes items <-> False := by
  rw [stops_iff]
  constructor
  · intro h
    rcases h with ⟨_, _, _, _, _, h⟩
    exact h
  · exact False.elim

theorem guard_deviceAreas :
    Guard (r.devices.val.forM fun d =>
        refuseIf ((d.areaId.any fun areaId => areaId.val ∉ r.areaIds) = true)
          (.registryError .deviceAreaUnknown))
      (r.Misnames I) False r.DeviceAreasKnown := by
  have hunknown : forall d : Device,
      (d.areaId.any fun areaId => areaId.val ∉ r.areaIds) = true <->
        ¬ forall areaId, d.areaId = some areaId -> areaId.val ∈ r.areaIds := by
    intro d
    cases d.areaId with
    | none => simp
    | some areaId => simp
  apply (guard_forM fun d hd => guard_rule I r fun h => ?_).iff stops_false
  · simp only [hunknown, not_not]
    exact Iff.rfl
  · intro hknown
    exact (hunknown d).mp h (hknown d hd)

theorem guard_placementAreas :
    Guard (r.placements.val.forM fun p =>
        refuseIf (p.areaId.val ∉ r.areaIds)
          (.registryError .placementAreaUnknown))
      (r.Misnames I) False r.PlacementAreasKnown := by
  apply (guard_forM fun p hp => guard_rule I r fun h => ?_).iff stops_false
  · simp only [not_not]
    exact Iff.rfl
  · intro hknown
    exact h (hknown p hp)

/-- Ids being unique, a known id belongs to one device, the one it is looked up
as. -/
theorem byId_lookup (hids : r.deviceIds.Nodup) {id : PyStr}
    (h : id ∈ r.deviceIds) :
    exists d, (byId r.devices.val).lookup id = some d ∧
      forall e, e ∈ r.devices.val ∧ e.deviceId.val = id <-> e = d := by
  let entries := r.devices.val.map fun d => (d.deviceId.val, d)
  have hkeys : (entries.map Prod.fst).Nodup := by
    rw [List.map_map]
    exact hids
  rcases List.mem_map.mp h with ⟨d, hd, hid⟩
  have hmem : forall e, e ∈ r.devices.val ->
      (byId r.devices.val).lookup e.deviceId.val = some e := by
    intro e he
    rw [byId, Dict.lookup_ofList hkeys]
    exact lookup_of_mem_nodup hkeys (List.mem_map_of_mem he)
  have hlookup : (byId r.devices.val).lookup id = some d := by
    rw [← hid]
    exact hmem d hd
  refine ⟨d, hlookup, ?_⟩
  intro e
  constructor
  · intro he
    have hsame := hmem e he.left
    rw [he.right, hlookup] at hsame
    exact (Option.some.inj hsame).symm
  · intro heq
    rw [heq]
    exact ⟨hd, hid⟩

/-- The command of a scene, checked against its device. -/
theorem guard_sceneCommand {d : Device} {action : Command}
    (haction : action ∈ r.actions) (hd : d ∈ r.devices.val)
    (hid : d.deviceId.val = action.deviceId.val) :
    Guard (validateDeviceCommand I d action) (r.Misnames I)
      (Uncoded (deviceSpec d) action)
      (validateDeviceCommand I d action = .ok ()) where
  escapes_iff := by
    constructor
    · intro h
      rcases h with ⟨e, he, hmisnames⟩
      apply validateDeviceCommand_other.mp
      refine ⟨e, he, ?_⟩
      cases e with
      | smartHomeError code detail =>
          exact hmisnames ⟨action, d, haction, hd, hid, he⟩
      | registryError code => exact trivial
      | valueError text => exact trivial
      | raised e => exact trivial
    · intro h
      exact ⟨_, validateDeviceCommand_raised h, id⟩
  passes_iff := Iff.rfl

theorem guard_validateAction (hids : r.deviceIds.Nodup) {action : Command}
    (haction : action ∈ r.actions) :
    Guard (validateAction I r.deviceIds (byId r.devices.val) action)
      (r.Misnames I) (r.Unspoken action) (r.Taken I action) := by
  have hunknown : action.deviceId.val ∉ r.deviceIds ->
      r.Broken .sceneDeviceUnknown := fun h => ⟨action, haction, h⟩
  by_cases hknown : action.deviceId.val ∈ r.deviceIds
  · rcases byId_lookup r hids hknown with ⟨d, hlookup, hd⟩
    have hmem := (hd d).mpr rfl
    unfold validateAction
    rw [hlookup]
    apply ((guard_rule I r hunknown).andThen fun _ =>
      guard_sceneCommand I r haction hmem.left hmem.right).iff
    · rw [not_not]
      constructor
      · intro h
        exact ⟨d, hmem.left, hmem.right, (h.resolve_left id).right⟩
      · intro h
        rcases h with ⟨e, he, hid, huncoded⟩
        rw [(hd e).mp ⟨he, hid⟩] at huncoded
        exact Or.inr ⟨hknown, huncoded⟩
    · rw [not_not]
      constructor
      · intro h
        exact ⟨d, hmem.left, hmem.right, h.right⟩
      · intro h
        rcases h with ⟨e, he, hid, hok⟩
        rw [(hd e).mp ⟨he, hid⟩] at hok
        exact ⟨hknown, hok⟩
  · have hnone : forall d, d ∈ r.devices.val ->
        d.deviceId.val ≠ action.deviceId.val := by
      intro d hd hid
      rw [← hid] at hknown
      exact hknown (List.mem_map_of_mem hd)
    have hrefused : validateAction I r.deviceIds (byId r.devices.val) action =
        throw (.registryError .sceneDeviceUnknown) := by
      unfold validateAction refuseIf
      rw [if_pos hknown]
      rfl
    rw [hrefused]
    apply (guard_throw _).iff
    · apply iff_of_false
      · intro h
        exact h (hunknown hknown)
      · intro h
        rcases h with ⟨d, hd, hid, _⟩
        exact hnone d hd hid
    · apply iff_of_false id
      intro h
      rcases h with ⟨d, hd, hid, _⟩
      exact hnone d hd hid

theorem guard_actions (hids : r.deviceIds.Nodup) :
    Guard (r.scenes.val.forM fun s => s.actions.val.forM fun action =>
        validateAction I r.deviceIds (byId r.devices.val) action)
      (r.Misnames I) (Stops r.Unspoken (r.Taken I) r.actions)
      (forall action, action ∈ r.actions -> r.Taken I action) := by
  have hscene : forall s, s ∈ r.scenes.val ->
      Guard (s.actions.val.forM fun action =>
          validateAction I r.deviceIds (byId r.devices.val) action)
        (r.Misnames I) (Stops r.Unspoken (r.Taken I) s.actions.val)
        (forall action, action ∈ s.actions.val -> r.Taken I action) := by
    intro s hs
    apply guard_forM
    intro action haction
    exact guard_validateAction I r hids (List.mem_flatMap.mpr ⟨s, hs, haction⟩)
  apply (guard_forM hscene).iff
  · exact stops_flatMap.symm
  · constructor
    · intro h action haction
      rcases List.mem_flatMap.mp haction with ⟨s, hs, haction⟩
      exact h s hs action haction
    · intro h s hs action haction
      exact h action (List.mem_flatMap.mpr ⟨s, hs, haction⟩)

theorem guard_validateReferences :
    Guard (validateReferences I r) (r.Misnames I)
      (r.CollisionReached ∨ r.UnspokenReached I)
      (r.Rules I ∧ ¬ r.Collides) := by
  have hunique : forall {values : List PyStr} {code : RegistryCode},
      (¬ values.Nodup -> r.Broken code) ->
        Guard (refuseIf (¬ values.Nodup) (.registryError code)) (r.Misnames I)
          False values.Nodup := by
    intro values code h
    exact (guard_rule I r h).iff Iff.rfl not_not
  unfold validateReferences
  simp only [unique_bind]
  apply ((hunique id).andThen fun _ => (hunique id).andThen fun hids =>
    (hunique id).andThen fun _ => (guard_nameKeys I r).andThen fun _ =>
    (hunique id).andThen fun _ => (hunique id).andThen fun _ =>
    (guard_deviceAreas I r).andThen fun _ =>
    (guard_placementAreas I r).andThen fun _ => guard_actions I r hids).iff
  · simp only [false_or, stops_iff]
    constructor
    · intro h
      rcases h with ⟨hareas, hids, hnames, ⟨hrooms, hcollides⟩ | h⟩
      · exact Or.inl ⟨hareas, hids, hnames, hrooms, hcollides⟩
      · rcases h with ⟨⟨hrooms, hapart⟩, hscenes, hrefs, hdevices, hplacements,
          hactions⟩
        exact Or.inr ⟨hareas, hids, hnames, hrooms, hapart, hscenes, hrefs,
          hdevices, hplacements, hactions⟩
    · intro h
      rcases h with h | h
      · exact ⟨h.areaIds, h.deviceIds, h.areaNames,
          Or.inl ⟨h.roomNames, h.collides⟩⟩
      · exact ⟨h.areaIds, h.deviceIds, h.areaNames,
          Or.inr ⟨⟨h.roomNames, h.apart⟩, h.sceneIds, h.deviceRefs,
            h.deviceAreas, h.placementAreas, h.actions⟩⟩
  · constructor
    · intro h
      rcases h with ⟨hareas, hids, hnames, ⟨hrooms, hapart⟩, hscenes, hrefs,
        hdevices, hplacements, hactions⟩
      exact ⟨⟨hareas, hids, hnames, hrooms, hscenes, hrefs, hdevices, hplacements,
        hactions⟩, hapart⟩
    · intro h
      rcases h with ⟨h, hapart⟩
      exact ⟨h.areaIds, h.deviceIds, h.areaNames, ⟨h.roomNames, hapart⟩,
        h.sceneIds, h.deviceRefs, h.deviceAreas, h.placementAreas, h.actions⟩

end Guards

/-- The registry is decided as its rules say, and every refusal says which of
them is broken, except where two names collide that do not clash, or where a
refusal cannot be written down. -/
theorem registry_decided_iff (I : Interpreter) (r : RegistryFields) :
    r.Decided I <-> ¬ (r.CollisionReached ∨ r.UnspokenReached I) := by
  have hguard := guard_validateReferences I r
  constructor
  · intro hdecided hreached
    rcases hguard.escapes_iff.mpr hreached with ⟨e, he, hmisnames⟩
    exact hmisnames (hdecided.right e he)
  · intro hreached
    constructor
    · rw [hguard.passes_iff]
      constructor
      · exact And.left
      · intro h
        refine ⟨h, ?_⟩
        intro hcollides
        exact hreached (Or.inl ⟨h.areaIds, h.deviceIds, h.areaNames, h.roomNames,
          hcollides⟩)
    · intro e he
      apply Classical.byContradiction
      intro hmisnames
      exact hreached (hguard.escapes_iff.mp ⟨e, he, hmisnames⟩)

/-- A registry that validation has accepted. -/
structure Registry (I : Interpreter) extends RegistryFields where
  valid : validateReferences I toRegistryFields = .ok ()

theorem Registry.rules {I : Interpreter} (r : Registry I) : r.Rules I :=
  ((guard_validateReferences I r.toRegistryFields).passes_iff.mp r.valid).left

/-- A lamp in no room. -/
def roomlessLamp : Device :=
  ⟨⟨str "a", by decide⟩, ⟨str "吸顶灯", by decide⟩, .light, none,
    none, none, rfl⟩

/-- A room whose id is the word `None`. -/
def noneRoom : Area :=
  ⟨⟨str "None", by decide⟩, ⟨str "客厅", by decide⟩⟩

/-- A lamp of the same name in that room. -/
def noneRoomLamp : Device :=
  { roomlessLamp with
    deviceId := ⟨str "b", by decide⟩
    areaId := some noneRoom.areaId }

def noneRegistry : RegistryFields :=
  ⟨⟨1, by decide⟩, ⟨[noneRoom], by decide⟩,
    ⟨[roomlessLamp, noneRoomLamp], by decide⟩, ⟨[], by decide⟩, ⟨[], by decide⟩⟩

theorem none_room_refused :
    noneRegistry.Rules asciiInterpreter ∧
      validateReferences asciiInterpreter noneRegistry =
        .error (.registryError .duplicateDeviceName) := by
  refine ⟨⟨by decide, by decide, by decide,
    by decide, by decide, by decide, ?_, nofun, nofun⟩,
    by decide⟩
  intro d hd areaId harea
  rcases List.mem_cons.mp hd with heq | hd
  · rw [heq] at harea
    cases harea
  · rw [List.mem_singleton.mp hd] at harea
    cases harea
    decide

end Smarthome
end EidolonSdk
