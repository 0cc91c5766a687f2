import EidolonSdk.Python.JsonSize
import EidolonSdk.Smarthome.Panel
import EidolonSdk.Smarthome.Registry

/-!
# Snapshots for a panel

A snapshot carries the whole home to a panel, in one document with a bound on
its size.  The size is known in advance from the lengths of what the document
carries.
-/

namespace EidolonSdk
namespace Smarthome

open Python Pydantic Logic

/-- `PANEL_SNAPSHOT_MAX_BYTES`. -/
def panelSnapshotMaxBytes : Nat := 64 * 1024

structure PanelArea where
  areaId : Identifier
  name : Name

structure PanelScene where
  sceneId : Identifier
  name : Name

/-- A snapshot before it is validated as a whole. -/
structure SnapshotFields (I : Interpreter) where
  revision : IntFrom 0
  seq : IntFrom 0
  homeName : Name
  panelAreaId : Option Identifier
  utcOffsetMinutes : { n : Int // -720 ≤ n ∧ n ≤ 840 }
  areas : Tuple { most := some 32 } PanelArea
  devices : Tuple { most := some 128 } (PanelDevice I)
  scenes : Tuple { most := some 16 } PanelScene

/-!
## Dumping

`model_dump(mode="json")`, where all numbers are finite.
-/

section Dump

variable {I : Interpreter}

def identifierOrNull : Option Identifier -> Json
  | some id => .str id.val
  | none => .null

def PanelArea.dump (a : PanelArea) : Json :=
  .object [(str "area_id", .str a.areaId.val), (str "name", .str a.name.val)]

def stateOrNull : Option State -> Json
  | some state => .object state.members
  | none => .null

def PanelDevice.dump (p : PanelDevice I) : Json :=
  .object
    [(str "device_id", .str p.deviceId.val), (str "name", .str p.name.val),
      (str "type", .str (str p.type.text)),
      (str "area_id", identifierOrNull p.areaId), (str "online", .bool p.online),
      (str "state", stateOrNull p.state)]

def PanelScene.dump (s : PanelScene) : Json :=
  .object [(str "scene_id", .str s.sceneId.val), (str "name", .str s.name.val)]

def SnapshotFields.dump (s : SnapshotFields I) : Json :=
  .object
    [(str "schema_version", .int 1), (str "revision", .int s.revision.val),
      (str "seq", .int s.seq.val), (str "home_name", .str s.homeName.val),
      (str "panel_area_id", identifierOrNull s.panelAreaId),
      (str "utc_offset_minutes", .int s.utcOffsetMinutes.val),
      (str "areas", .array (s.areas.val.map PanelArea.dump)),
      (str "devices", .array (s.devices.val.map PanelDevice.dump)),
      (str "scenes", .array (s.scenes.val.map PanelScene.dump))]

end Dump

/-!
## Validating
-/

section Validate

variable (I : Interpreter)

/-- `_encoded_size`. -/
def encodedSize (v : Json) : Checked Nat :=
  match v.dumps I with
  | .error e => throw (.raised e)
  | .ok text =>
      match encodeUtf8 text with
      | none => throw (.raised .unicodeEncodeError)
      | some bytes => pure bytes.length

/-- `PanelSnapshot.validate_snapshot`. -/
def validateSnapshot (s : SnapshotFields I) : Checked Unit := do
  let areaIds ← unique (s.areas.val.map fun a => a.areaId.val) "DUPLICATE_AREA"
  let _ ← unique (s.devices.val.map fun d => d.deviceId.val) "DUPLICATE_DEVICE"
  let _ ← unique (s.scenes.val.map fun c => c.sceneId.val) "DUPLICATE_SCENE"
  refuseIf ((s.panelAreaId.any fun areaId => areaId.val ∉ areaIds) = true)
    (.valueError (str "PANEL_AREA_UNKNOWN"))
  s.devices.val.forM fun d =>
    refuseIf ((d.areaId.any fun areaId => areaId.val ∉ areaIds) = true)
      (.valueError (str "DEVICE_AREA_UNKNOWN"))
  let size ← encodedSize I s.dump
  refuseIf (panelSnapshotMaxBytes < size)
    (.valueError (str "SNAPSHOT_TOO_LARGE"))

end Validate

/-!
## The snapshot of a registry
-/

section Build

variable {I : Interpreter}

def Area.panel (a : Area) : PanelArea := ⟨a.areaId, a.name⟩

def Scene.panel (s : Scene) : PanelScene := ⟨s.sceneId, s.name⟩

/-- The panel is shown this device, in whatever state. -/
structure Shows (d : Device) (p : PanelDevice I) : Prop where
  deviceId : p.deviceId = d.deviceId
  name : p.name = d.name
  type : p.type = d.type
  areaId : p.areaId = d.areaId

/-- A tuple item by item, which keeps its length. -/
def mapTuple {α β : Type} {rule : LengthRule} (f : α -> β)
    (items : Tuple rule α) : Tuple rule β :=
  ⟨items.val.map f, by
    have haccepts := items.property
    unfold LengthRule.Accepts at haccepts ⊢
    rw [List.length_map]
    exact haccepts⟩

/-- The snapshot of a registry, for a panel that stands nowhere. -/
def panelSnapshot (r : RegistryFields) (revision seq : IntFrom 0)
    (panel : Device -> PanelDevice I) : SnapshotFields I where
  revision := revision
  seq := seq
  homeName := ⟨str "我的家", by decide⟩
  panelAreaId := none
  utcOffsetMinutes := ⟨0, by decide⟩
  areas := mapTuple Area.panel r.areas
  devices := mapTuple panel r.devices
  scenes := mapTuple Scene.panel r.scenes

end Build

/-!
## Its size
-/

section Size

variable (I : Interpreter)

def nameLength (name : Name) : Nat := Json.escapedLength name.val

/-- An identifier in quotes, or `null`. -/
def identifierLength : Option Identifier -> Nat
  | some id => 2 + id.val.length
  | none => 4

/-- The text of a value of a state. -/
def valueLength : Json -> Nat
  | .bool true => 4
  | .bool false => 5
  | .int n => (intText n).length
  | .float x => utf8Length (str (I.floatRepr x))
  | .str s => Json.quotedLength s
  | _ => 4

def stateLength : Option State -> Nat
  | some state =>
      Json.listed (state.members.map fun m =>
        Json.quotedLength m.fst + 1 + valueLength I m.snd)
  | none => 4

def areaLength (a : Area) : Nat :=
  24 + a.areaId.val.length + nameLength a.name

def sceneLength (s : Scene) : Nat :=
  25 + s.sceneId.val.length + nameLength s.name

def deviceLength (d : Device) (p : PanelDevice I) : Nat :=
  66 + d.deviceId.val.length + nameLength d.name + d.type.text.length +
    identifierLength d.areaId + (if p.online then 4 else 5) +
    stateLength I p.state

/-- How long the snapshot of a registry is, from the lengths of what it
carries. -/
def snapshotLength (r : RegistryFields) (revision seq : IntFrom 0)
    (panel : Device -> PanelDevice I) : Nat :=
  137 + (intText revision.val).length + (intText seq.val).length +
    Json.listed (r.areas.val.map areaLength) +
    Json.listed (r.devices.val.map fun d => deviceLength I d (panel d)) +
    Json.listed (r.scenes.val.map sceneLength)

end Size

/-- No number of the state is infinite or a NaN. -/
def State.Finite (state : State) : Prop :=
  forall m, m ∈ state.members -> forall x, m.snd = .float x ->
    exists n, x.scaled? = some n

section Lengths

variable {I : Interpreter}

theorem identifierChar_lt {c : CodePoint} (h : isIdentifierChar c = true) :
    c.val < 128 := by
  simp only [isIdentifierChar, Bool.or_eq_true, Bool.and_eq_true,
    decide_eq_true_eq, beq_iff_eq] at h
  rcases h with (((((h | h) | h) | h) | h) | h) | h
  · omega
  · omega
  · omega
  · rw [h]
    decide
  · rw [h]
    decide
  · rw [h]
    decide
  · rw [h]
    decide

/-- The characters of an identifier are written as they are. -/
theorem identifierChar_width {c : CodePoint} (h : isIdentifierChar c = true) :
    Json.escapedWidth c = 1 := by
  have hall : forall n, n < 128 -> isIdentifierChar (Fin.ofNat 0x110000 n) = true ->
      Json.escapedWidth (Fin.ofNat 0x110000 n) = 1 := by
    decide
  have hc : Fin.ofNat 0x110000 c.val = c := Fin.ofNat_val_eq_self c
  have hwidth := hall c.val (identifierChar_lt h)
  rw [hc] at hwidth
  exact hwidth h

theorem quotedLength_identifier (id : Identifier) :
    Json.quotedLength id.val = 2 + id.val.length := by
  have hwidths : id.val.map Json.escapedWidth = id.val.map fun _ => 1 := by
    apply List.map_congr_left
    intro c hc
    exact identifierChar_width
      (List.all_eq_true.mp id.property.right.right.right c hc)
  unfold Json.quotedLength Json.escapedLength
  rw [hwidths]
  simp

theorem size_identifierOrNull (id : Option Identifier) :
    (identifierOrNull id).size I = identifierLength id := by
  cases id with
  | none => rfl
  | some id => exact quotedLength_identifier id

theorem size_area (a : Area) : a.panel.dump.size I = areaLength a := by
  have hareaId : Json.quotedLength (str "area_id") = 9 := by decide
  have hname : Json.quotedLength (str "name") = 6 := by decide
  unfold PanelArea.dump
  rw [Json.size_object]
  simp only [List.map_cons, List.map_nil, Json.memberSize, Json.size, Area.panel,
    quotedLength_identifier, hareaId, hname]
  unfold Json.listed areaLength nameLength Json.quotedLength
  simp only [List.sum_cons, List.sum_nil, List.length_cons, List.length_nil]
  omega

theorem size_scene (s : Scene) : s.panel.dump.size I = sceneLength s := by
  have hsceneId : Json.quotedLength (str "scene_id") = 10 := by decide
  have hname : Json.quotedLength (str "name") = 6 := by decide
  unfold PanelScene.dump
  rw [Json.size_object]
  simp only [List.map_cons, List.map_nil, Json.memberSize, Json.size, Scene.panel,
    quotedLength_identifier, hsceneId, hname]
  unfold Json.listed sceneLength nameLength Json.quotedLength
  simp only [List.sum_cons, List.sum_nil, List.length_cons, List.length_nil]
  omega

theorem size_value {value : Json} (hvalue : isStateValue value = true)
    (hfinite : forall x, value = .float x -> exists n, x.scaled? = some n) :
    value.size I = valueLength I value := by
  cases value with
  | null => rfl
  | bool b => cases b with
    | true => rfl
    | false => rfl
  | int n => rfl
  | float x =>
      rcases hfinite x rfl with ⟨n, hn⟩
      cases x with
      | finite negative magnitude representable => rfl
      | infinite negative => cases hn
      | nan => cases hn
  | str s => rfl
  | array items => cases hvalue
  | object members => cases hvalue

theorem size_state {state : Option State}
    (hfinite : forall s, state = some s -> s.Finite) :
    (stateOrNull state).size I = stateLength I state := by
  cases state with
  | none => rfl
  | some state =>
      show (Json.object state.members).size I = _
      rw [Json.size_object]
      apply congrArg
      apply List.map_congr_left
      intro m hm
      unfold Json.memberSize
      rw [size_value (state.values m hm) (hfinite state rfl m hm)]

theorem quotedLength_type (t : DeviceType) :
    Json.quotedLength (str t.text) = 2 + t.text.length := by
  cases t with
  | light => rfl
  | switch => rfl
  | climate => rfl
  | waterHeater => rfl
  | cover => rfl
  | fan => rfl
  | media => rfl
  | appliance => rfl
  | lock => rfl
  | camera => rfl
  | sensor => rfl

theorem size_bool (b : Bool) : (Json.bool b).size I = if b then 4 else 5 := by
  cases b with
  | true => rfl
  | false => rfl

theorem size_device {d : Device} {p : PanelDevice I} (h : Shows d p)
    (hfinite : forall s, p.state = some s -> s.Finite) :
    p.dump.size I = deviceLength I d p := by
  have hdeviceId : Json.quotedLength (str "device_id") = 11 := by decide
  have hname : Json.quotedLength (str "name") = 6 := by decide
  have htype : Json.quotedLength (str "type") = 6 := by decide
  have hareaId : Json.quotedLength (str "area_id") = 9 := by decide
  have honline : Json.quotedLength (str "online") = 8 := by decide
  have hstate : Json.quotedLength (str "state") = 7 := by decide
  unfold PanelDevice.dump
  rw [Json.size_object, h.deviceId, h.name, h.type, h.areaId]
  simp only [List.map_cons, List.map_nil, Json.memberSize, size_identifierOrNull,
    size_state hfinite, size_bool]
  simp only [Json.size, quotedLength_identifier, quotedLength_type, hdeviceId,
    hname, htype, hareaId, honline, hstate]
  unfold Json.listed deviceLength nameLength Json.quotedLength
  simp only [List.sum_cons, List.sum_nil, List.length_cons, List.length_nil]
  omega

variable {r : RegistryFields} {revision seq : IntFrom 0}
variable {panel : Device -> PanelDevice I}

theorem size_snapshot (hshows : forall d, d ∈ r.devices.val -> Shows d (panel d))
    (hfinite : forall d, d ∈ r.devices.val ->
      forall s, (panel d).state = some s -> s.Finite) :
    (panelSnapshot r revision seq panel).dump.size I =
      snapshotLength I r revision seq panel := by
  have hareas : (r.areas.val.map Area.panel).map (fun a => a.dump.size I) =
      r.areas.val.map areaLength := by
    rw [List.map_map]
    exact List.map_congr_left fun a _ => size_area a
  have hscenes : (r.scenes.val.map Scene.panel).map (fun s => s.dump.size I) =
      r.scenes.val.map sceneLength := by
    rw [List.map_map]
    exact List.map_congr_left fun s _ => size_scene s
  have hdevices : (r.devices.val.map panel).map (fun p => p.dump.size I) =
      r.devices.val.map fun d => deviceLength I d (panel d) := by
    rw [List.map_map]
    exact List.map_congr_left fun d hd => size_device (hshows d hd) (hfinite d hd)
  have hhome : Json.quotedLength (str "我的家") = 11 := by decide
  have hone : (Json.int 1).size I = 1 := by rfl
  have hzero : (Json.int 0).size I = 1 := by rfl
  have hnull : Json.null.size I = 4 := rfl
  have hschema : Json.quotedLength (str "schema_version") = 16 := by decide
  have hrevision : Json.quotedLength (str "revision") = 10 := by decide
  have hseq : Json.quotedLength (str "seq") = 5 := by decide
  have hname : Json.quotedLength (str "home_name") = 11 := by decide
  have hpanel : Json.quotedLength (str "panel_area_id") = 15 := by decide
  have hoffset : Json.quotedLength (str "utc_offset_minutes") = 20 := by
    decide
  have hareasKey : Json.quotedLength (str "areas") = 7 := by decide
  have hdevicesKey : Json.quotedLength (str "devices") = 9 := by decide
  have hscenesKey : Json.quotedLength (str "scenes") = 8 := by decide
  unfold SnapshotFields.dump
  rw [Json.size_object]
  simp only [List.map_cons, List.map_nil, Json.memberSize, panelSnapshot, mapTuple,
    identifierOrNull, Json.size_array, List.map_map, Function.comp_def, hone,
    hzero, hnull, hschema, hrevision, hseq, hname, hpanel, hoffset, hareasKey,
    hdevicesKey, hscenesKey]
  simp only [List.map_map, Function.comp_def] at hareas hscenes hdevices
  rw [hareas, hscenes, hdevices]
  simp only [Json.size, hhome]
  unfold snapshotLength
  generalize Json.listed (r.areas.val.map areaLength) = areas
  generalize Json.listed (r.scenes.val.map sceneLength) = scenes
  generalize Json.listed (r.devices.val.map fun d => deviceLength I d (panel d)) =
    devices
  unfold Json.listed
  simp only [List.sum_cons, List.sum_nil, List.length_cons, List.length_nil]
  omega

end Lengths

/-!
## Its text

Everything in a snapshot can be written, except an integer with too many digits,
and only a state may have one.
-/

section Text

variable {I : Interpreter}

theorem traitState_encodable {t : Trait} {key : PyStr} {types : List PyType}
    (h : (key, types) ∈ traitState t) : Encodable key := by
  have hall : ((traitState t).all fun entry => decide (Encodable entry.fst)) =
      true := by
    cases t with
    | onOff => rfl
    | level => rfl
    | thermostat => rfl
    | fanSpeed => rfl
    | position => rfl
    | lock => rfl
    | operational => rfl
    | volume => rfl
    | measure => rfl
  exact of_decide_eq_true (List.all_eq_true.mp hall _ h)

/-- Only a mode and a run state are texts. -/
theorem traitState_text {t : Trait} {key : PyStr} {types : List PyType}
    (h : (key, types) ∈ traitState t) (htext : PyType.str ∈ types) :
    key = str "mode" ∨ key = str "run_state" := by
  have hall : ((traitState t).all fun entry =>
      decide (PyType.str ∈ entry.snd ->
        entry.fst = str "mode" ∨ entry.fst = str "run_state")) = true := by
    cases t with
    | onOff => rfl
    | level => rfl
    | thermostat => rfl
    | fanSpeed => rfl
    | position => rfl
    | lock => rfl
    | operational => rfl
    | volume => rfl
    | measure => rfl
  exact of_decide_eq_true (List.all_eq_true.mp hall _ h) htext

theorem modes_encodable {t : DeviceType} {word : PyStr}
    (h : word ∈ (deviceTypes t).modes) : Encodable word := by
  have hall : ((deviceTypes t).modes.all fun word => decide (Encodable word)) =
      true := by
    cases t with
    | light => rfl
    | switch => rfl
    | climate => rfl
    | waterHeater => rfl
    | cover => rfl
    | fan => rfl
    | media => rfl
    | appliance => rfl
    | lock => rfl
    | camera => rfl
    | sensor => rfl
  exact of_decide_eq_true (List.all_eq_true.mp hall word h)

theorem runStates_encodable {word : PyStr} (h : word ∈ runStates) :
    Encodable word := by
  have hall : (runStates.all fun word => decide (Encodable word)) = true := rfl
  exact of_decide_eq_true (List.all_eq_true.mp hall word h)

theorem get_of_mem {state : State} {key : String} {value : Json}
    (h : (str key, value) ∈ state.members) : state.members.get key = some value :=
  lookup_of_mem_nodup state.nodup h

/-- The texts in a state that fits a type are texts of the tables. -/
theorem state_encodable {t : DeviceType} {state : State} {exact : Bool}
    (h : StateAccepted (deviceTypes t).traits (deviceTypes t).modes state.members
      exact) : Json.EncodableValue (.object state.members) := by
  apply Json.encodableValue_object
  intro m hm
  rcases m with ⟨key, value⟩
  rcases h.typed key value hm with ⟨types, htypes, htyped⟩
  rcases stateKeys_lookup.mp htypes with ⟨trait, _, hentry⟩
  refine ⟨traitState_encodable hentry, ?_⟩
  have hvalue := state.values (key, value) hm
  cases value with
  | null => rfl
  | bool b => rfl
  | int n => rfl
  | float x => rfl
  | array items => cases hvalue
  | object members => cases hvalue
  | str s =>
      have htext : PyType.str ∈ types := List.contains_iff_mem.mp htyped.right
      have hword : Encodable s := by
        rcases traitState_text hentry htext with heq | heq
        · subst heq
          rcases h.mode _ (get_of_mem hm) with ⟨word, hword, heq⟩
          rw [Json.str.inj heq]
          exact modes_encodable hword
        · subst heq
          rcases h.runState _ (get_of_mem hm) with ⟨word, hword, heq⟩
          rw [Json.str.inj heq]
          exact runStates_encodable hword
      exact decide_eq_true hword

theorem panelState_encodable (p : PanelDevice I) :
    Json.EncodableValue (stateOrNull p.state) := by
  have hvalid := p.valid
  cases hstate : p.state with
  | none => rfl
  | some state =>
      rw [hstate] at hvalid
      exact state_encodable ((validatePanelState_eq_ok I).mp hvalid)

theorem conStr_encodable {rule : StrRule} (s : ConStr rule) :
    Json.EncodableValue (.str s.val) :=
  Json.encodableValue_str s.property.left

theorem identifierOrNull_encodable (id : Option Identifier) :
    Json.EncodableValue (identifierOrNull id) := by
  cases id with
  | none => rfl
  | some id => exact conStr_encodable id

theorem area_encodable (a : PanelArea) : Json.EncodableValue a.dump := by
  apply Json.encodableValue_object
  simp only [List.forall_mem_cons]
  exact ⟨⟨encodable_str _, conStr_encodable a.areaId⟩,
    ⟨encodable_str _, conStr_encodable a.name⟩, List.forall_mem_nil _⟩

theorem scene_encodable (s : PanelScene) : Json.EncodableValue s.dump := by
  apply Json.encodableValue_object
  simp only [List.forall_mem_cons]
  exact ⟨⟨encodable_str _, conStr_encodable s.sceneId⟩,
    ⟨encodable_str _, conStr_encodable s.name⟩, List.forall_mem_nil _⟩

theorem device_encodable (p : PanelDevice I) : Json.EncodableValue p.dump := by
  apply Json.encodableValue_object
  simp only [List.forall_mem_cons]
  exact ⟨⟨encodable_str _, conStr_encodable p.deviceId⟩,
    ⟨encodable_str _, conStr_encodable p.name⟩,
    ⟨encodable_str _, Json.encodableValue_str (encodable_str _)⟩,
    ⟨encodable_str _, identifierOrNull_encodable p.areaId⟩,
    ⟨encodable_str _, rfl⟩, ⟨encodable_str _, panelState_encodable p⟩,
    List.forall_mem_nil _⟩

theorem snapshot_encodable (s : SnapshotFields I) :
    Json.EncodableValue s.dump := by
  have harray : forall {α : Type} (dump : α -> Json) (items : List α),
      (forall a, Json.EncodableValue (dump a)) ->
        Json.EncodableValue (.array (items.map dump)) := by
    intro α dump items h
    apply Json.encodableValue_array
    intro v hv
    rcases List.mem_map.mp hv with ⟨a, _, heq⟩
    rw [← heq]
    exact h a
  apply Json.encodableValue_object
  simp only [List.forall_mem_cons]
  exact ⟨⟨encodable_str _, rfl⟩, ⟨encodable_str _, rfl⟩, ⟨encodable_str _, rfl⟩,
    ⟨encodable_str _, conStr_encodable s.homeName⟩,
    ⟨encodable_str _, identifierOrNull_encodable s.panelAreaId⟩,
    ⟨encodable_str _, rfl⟩, ⟨encodable_str _, harray _ _ area_encodable⟩,
    ⟨encodable_str _, harray _ _ device_encodable⟩,
    ⟨encodable_str _, harray _ _ scene_encodable⟩, List.forall_mem_nil _⟩

/-- An integer of the state is too long to be written. -/
def HasLongInteger (p : PanelDevice I) : Prop :=
  exists state key n, p.state = some state ∧ (key, Json.int n) ∈ state.members ∧
    10 ^ Interpreter.maxStrDigits ≤ n.natAbs

theorem shortInteger_int {n : Int} :
    (Json.int n).all Json.shortInteger = true <->
      n.natAbs < 10 ^ Interpreter.maxStrDigits := by
  have hpos : 0 < Interpreter.maxStrDigits := by decide
  rw [← Nat.length_toDigits_le_iff (by decide) hpos]
  exact decide_eq_true_iff

theorem shortInteger_object {members : Members} :
    (Json.object members).all Json.shortInteger = true <->
      forall m, m ∈ members -> m.snd.all Json.shortInteger = true :=
  Bool.and_eq_true_iff.trans ((and_iff_right rfl).trans Json.allMembers_iff)

theorem shortInteger_array {items : List Json} :
    (Json.array items).all Json.shortInteger = true <->
      forall v, v ∈ items -> v.all Json.shortInteger = true :=
  Bool.and_eq_true_iff.trans ((and_iff_right rfl).trans Json.allItems_iff)

theorem shortInteger_identifierOrNull (id : Option Identifier) :
    (identifierOrNull id).all Json.shortInteger = true := by
  cases id with
  | none => rfl
  | some id => rfl

theorem shortInteger_state (p : PanelDevice I) :
    (stateOrNull p.state).all Json.shortInteger = true <-> ¬ HasLongInteger p := by
  unfold HasLongInteger
  cases hstate : p.state with
  | none => simp [stateOrNull, Json.all, Json.shortInteger]
  | some state =>
      show (Json.object state.members).all Json.shortInteger = true <-> _
      rw [shortInteger_object]
      constructor
      · intro h hlong
        rcases hlong with ⟨state', key, n, heq, hmem, hn⟩
        cases heq
        exact Nat.not_lt.mpr hn (shortInteger_int.mp (h _ hmem))
      · intro h m hm
        rcases m with ⟨key, value⟩
        have hvalue := state.values (key, value) hm
        cases value with
        | null => rfl
        | bool b => rfl
        | float x => rfl
        | str s => rfl
        | array items => cases hvalue
        | object members => cases hvalue
        | int n =>
            apply shortInteger_int.mpr
            apply Nat.not_le.mp
            intro hn
            exact h ⟨state, key, n, rfl, hm, hn⟩

theorem shortInteger_device (p : PanelDevice I) :
    p.dump.all Json.shortInteger = true <-> ¬ HasLongInteger p := by
  rw [← shortInteger_state]
  unfold PanelDevice.dump
  rw [shortInteger_object]
  simp only [List.forall_mem_cons]
  constructor
  · intro h
    exact h.right.right.right.right.right.left
  · intro h
    exact ⟨rfl, rfl, rfl, shortInteger_identifierOrNull p.areaId, rfl, h,
      List.forall_mem_nil _⟩

/-- Up to `2^53` an integer can be written. -/
theorem shortInteger_small {n : IntFrom 0} (h : n.val < 2 ^ 53) :
    (Json.int n.val).all Json.shortInteger = true := by
  have hnonneg := n.property
  have habs : n.val.natAbs < 10 ^ 16 := by
    have hpow : (2 : Int) ^ 53 < 10 ^ 16 := by decide
    omega
  exact shortInteger_int.mpr (lt_of_lt_of_le habs
    (Nat.pow_le_pow_right (by decide) (by decide)))

theorem shortInteger_snapshot {r : RegistryFields} {revision seq : IntFrom 0}
    {panel : Device -> PanelDevice I} (hrevision : revision.val < 2 ^ 53)
    (hseq : seq.val < 2 ^ 53) :
    (panelSnapshot r revision seq panel).dump.all Json.shortInteger = true <->
      ¬ exists d, d ∈ r.devices.val ∧ HasLongInteger (panel d) := by
  have hareas : (Json.array ((r.areas.val.map Area.panel).map PanelArea.dump)).all
      Json.shortInteger = true := by
    rw [shortInteger_array]
    intro v hv
    rcases List.mem_map.mp hv with ⟨a, _, heq⟩
    rw [← heq]
    rfl
  have hscenes : (Json.array ((r.scenes.val.map Scene.panel).map
      PanelScene.dump)).all Json.shortInteger = true := by
    rw [shortInteger_array]
    intro v hv
    rcases List.mem_map.mp hv with ⟨s, _, heq⟩
    rw [← heq]
    rfl
  have hdevices : (Json.array ((r.devices.val.map panel).map
      PanelDevice.dump)).all Json.shortInteger = true <->
        ¬ exists d, d ∈ r.devices.val ∧ HasLongInteger (panel d) := by
    rw [shortInteger_array, List.map_map, List.forall_mem_map]
    simp only [Function.comp_apply, shortInteger_device, not_exists, not_and]
  have hoffset : (Json.int 0).all Json.shortInteger = true := rfl
  rw [← hdevices]
  unfold SnapshotFields.dump
  rw [shortInteger_object]
  simp only [List.forall_mem_cons]
  constructor
  · intro h
    exact h.right.right.right.right.right.right.right.left
  · intro h
    exact ⟨rfl, shortInteger_small hrevision, shortInteger_small hseq, rfl, rfl,
      hoffset, hareas, h, hscenes, List.forall_mem_nil _⟩

end Text

/-!
## The budget
-/

section Budget

variable {I : Interpreter}

theorem unique_nodup {values : List PyStr} {code : String} (h : values.Nodup) :
    unique values code = .ok values :=
  if_pos h

/-- Of a registry that was accepted, only the size is left to be checked. -/
theorem validateSnapshot_registry (r : Registry I) {revision seq : IntFrom 0}
    {panel : Device -> PanelDevice I}
    (hshows : forall d, d ∈ r.devices.val -> Shows d (panel d)) :
    validateSnapshot I (panelSnapshot r.toRegistryFields revision seq panel) =
      (encodedSize I (panelSnapshot r.toRegistryFields revision seq panel).dump >>=
        fun size => refuseIf (panelSnapshotMaxBytes < size)
          (.valueError (str "SNAPSHOT_TOO_LARGE"))) := by
  have hareas : (panelSnapshot r.toRegistryFields revision seq panel).areas.val.map
      (fun a => a.areaId.val) = r.areaIds := by
    show (r.areas.val.map Area.panel).map _ = _
    rw [List.map_map]
    rfl
  have hdevices : (panelSnapshot r.toRegistryFields revision seq
      panel).devices.val.map (fun d => d.deviceId.val) = r.deviceIds := by
    show (r.devices.val.map panel).map _ = _
    rw [List.map_map]
    apply List.map_congr_left
    intro d hd
    exact congrArg Subtype.val (hshows d hd).deviceId
  have hscenes : (panelSnapshot r.toRegistryFields revision seq
      panel).scenes.val.map (fun c => c.sceneId.val) = r.sceneIds := by
    show (r.scenes.val.map Scene.panel).map _ = _
    rw [List.map_map]
    rfl
  have hknown : (panelSnapshot r.toRegistryFields revision seq
      panel).devices.val.forM (fun d =>
        refuseIf ((d.areaId.any fun areaId => areaId.val ∉ r.areaIds) = true)
          (.valueError (str "DEVICE_AREA_UNKNOWN"))) = .ok () := by
    have hbody : forall d : PanelDevice I, d ∈ r.devices.val.map panel ->
        Passes (refuseIf ((d.areaId.any fun areaId => areaId.val ∉ r.areaIds) = true)
          (.valueError (str "DEVICE_AREA_UNKNOWN")))
          (¬ (d.areaId.any fun areaId => areaId.val ∉ r.areaIds) = true) :=
      fun d _ => passes_refuseIf
    apply (guard_forM hbody).passes_iff.mpr
    rw [List.forall_mem_map]
    intro d hd
    rw [(hshows d hd).areaId]
    cases harea : d.areaId with
    | none => exact Bool.false_ne_true
    | some areaId =>
        intro h
        exact of_decide_eq_true h (r.rules.deviceAreas d hd areaId harea)
  unfold validateSnapshot
  rw [hareas, hdevices, hscenes, unique_nodup r.rules.areaIds,
    unique_nodup r.rules.deviceIds, unique_nodup r.rules.sceneIds]
  simp only [ok_bind, hknown]
  rfl

/-- What the size check comes to, for a document that UTF-8 can carry. -/
theorem encodedSize_eq {v : Json} (h : Json.EncodableValue v) :
    encodedSize I v =
      if v.all Json.shortInteger then .ok (v.size I)
      else .error (.raised .valueError) := by
  unfold encodedSize Json.dumps
  cases v.all Json.shortInteger with
  | true =>
      rcases Json.encodeUtf8_compactText I h with ⟨bytes, hbytes, hlength⟩
      rw [← hlength]
      show (match encodeUtf8 (v.compactText I) with
        | none => throw (Refusal.raised .unicodeEncodeError)
        | some bytes => pure bytes.length) = _
      rw [hbytes]
      rfl
  | false => rfl

section Registry

variable {r : Registry I} {revision seq : IntFrom 0}
variable {panel : Device -> PanelDevice I}

theorem validateSnapshot_long (hrevision : revision.val < 2 ^ 53)
    (hseq : seq.val < 2 ^ 53)
    (hshows : forall d, d ∈ r.devices.val -> Shows d (panel d))
    (hlong : exists d, d ∈ r.devices.val ∧ HasLongInteger (panel d)) :
    validateSnapshot I (panelSnapshot r.toRegistryFields revision seq panel) =
      .error (.raised .valueError) := by
  rw [validateSnapshot_registry r hshows, encodedSize_eq (snapshot_encodable _),
    if_neg fun h => (shortInteger_snapshot hrevision hseq).mp h hlong]
  rfl

theorem validateSnapshot_short (hrevision : revision.val < 2 ^ 53)
    (hseq : seq.val < 2 ^ 53)
    (hshows : forall d, d ∈ r.devices.val -> Shows d (panel d))
    (hfinite : forall d, d ∈ r.devices.val ->
      forall s, (panel d).state = some s -> s.Finite)
    (hshort : ¬ exists d, d ∈ r.devices.val ∧ HasLongInteger (panel d)) :
    validateSnapshot I (panelSnapshot r.toRegistryFields revision seq panel) =
      refuseIf (panelSnapshotMaxBytes <
          snapshotLength I r.toRegistryFields revision seq panel)
        (.valueError (str "SNAPSHOT_TOO_LARGE")) := by
  rw [validateSnapshot_registry r hshows, encodedSize_eq (snapshot_encodable _),
    if_pos ((shortInteger_snapshot hrevision hseq).mpr hshort),
    size_snapshot hshows hfinite]
  rfl

end Registry

/-- The snapshot of a registry, with any states, is within the budget of a panel
exactly when the lengths of what it carries add up to no more, or when it cannot
be written at all. -/
theorem registry_fits_panel_iff (I : Interpreter) (r : Registry I)
    (revision seq : IntFrom 0) (panel : Device -> PanelDevice I)
    (hrevision : revision.val < 2 ^ 53) (hseq : seq.val < 2 ^ 53)
    (hshows : forall d, d ∈ r.devices.val -> Shows d (panel d))
    (hfinite : forall d, d ∈ r.devices.val ->
      forall s, (panel d).state = some s -> s.Finite) :
    validateSnapshot I (panelSnapshot r.toRegistryFields revision seq panel) ≠
        .error (.valueError (str "SNAPSHOT_TOO_LARGE")) <->
      (exists d, d ∈ r.devices.val ∧ HasLongInteger (panel d)) ∨
        snapshotLength I r.toRegistryFields revision seq panel ≤
          panelSnapshotMaxBytes := by
  by_cases hlong : exists d, d ∈ r.devices.val ∧ HasLongInteger (panel d)
  · rw [validateSnapshot_long hrevision hseq hshows hlong]
    exact iff_of_true nofun (Or.inl hlong)
  · rw [validateSnapshot_short hrevision hseq hshows hfinite hlong,
      or_iff_right hlong]
    unfold refuseIf
    by_cases hlarge : panelSnapshotMaxBytes <
        snapshotLength I r.toRegistryFields revision seq panel
    · rw [if_pos hlarge]
      exact iff_of_false (fun h => h rfl) (Nat.not_le.mpr hlarge)
    · rw [if_neg hlarge]
      exact iff_of_true nofun (Nat.not_lt.mp hlarge)

end Budget

/-!
## A home at its caps
-/

/-- The longest identifiers, told apart by how many of their characters are
the first letter. -/
def longId (i : Fin 128) : PyStr :=
  List.replicate i.val (codePoint 'a') ++
    List.replicate (128 - i.val) (codePoint 'b')

theorem longId_length (i : Fin 128) : (longId i).length = 128 := by
  unfold longId
  rw [List.length_append, List.length_replicate, List.length_replicate]
  omega

theorem longId_accepted (i : Fin 128) : identifierRule.Accepts (longId i) := by
  have hmem : forall c, c ∈ longId i -> c = codePoint 'a' ∨ c = codePoint 'b' := by
    intro c hc
    rcases List.mem_append.mp hc with hc | hc
    · exact Or.inl (List.eq_of_mem_replicate hc)
    · exact Or.inr (List.eq_of_mem_replicate hc)
  refine ⟨?_, ?_, ?_, List.all_eq_true.mpr ?_⟩
  · intro c hc
    rcases hmem c hc with heq | heq
    · rw [heq]
      exact surrogate_codePoint 'a'
    · rw [heq]
      exact surrogate_codePoint 'b'
  · rw [longId_length]
    decide
  · rw [longId_length]
    decide
  · intro c hc
    rcases hmem c hc with heq | heq
    · rw [heq]
      decide
    · rw [heq]
      decide

theorem longId_inj : Function.Injective longId := by
  intro i j h
  have hcount : forall i : Fin 128, (longId i).count (codePoint 'a') = i.val := by
    intro i
    have hne : codePoint 'b' ≠ codePoint 'a' := by decide
    unfold longId
    rw [List.count_append, List.count_replicate_self, List.count_replicate]
    simp [hne]
  apply Fin.ext
  rw [← hcount i, ← hcount j, h]

/-- A character of four octets. -/
def wide (i : Nat) : CodePoint := Fin.ofNat 0x110000 (0x20000 + i)

/-- The longest names, told apart by their last character. -/
def longName (i : Fin 128) : PyStr :=
  List.replicate 31 (wide 0) ++ [wide i.val]

theorem wide_width : forall i : Fin 128, Json.escapedWidth (wide i.val) = 4 := by
  decide

theorem longName_accepted : forall i : Fin 128, nameRule.Accepts (longName i) := by
  decide +kernel

theorem longName_inj : Function.Injective longName := by
  intro i j h
  have hlast := (List.append_inj' h rfl).right
  have hval := congrArg Fin.val (List.head_eq_of_cons_eq hlast)
  have hi := i.isLt
  have hj := j.isLt
  unfold wide Fin.ofNat at hval
  apply Fin.ext
  simp only at hval
  omega

theorem longName_length (i : Fin 128) : Json.escapedLength (longName i) = 128 := by
  unfold Json.escapedLength longName
  have hzero : Json.escapedWidth (wide 0) = 4 := wide_width 0
  rw [List.map_append, List.map_replicate, hzero, List.map_singleton, wide_width i]
  rfl

def fullArea : Area :=
  ⟨⟨longId 0, longId_accepted 0⟩, ⟨longName 0, longName_accepted 0⟩⟩

theorem validateTraits_climate : validateTraits .climate none = .ok () := rfl

def fullDevice (i : Fin 128) : Device :=
  ⟨⟨longId i, longId_accepted i⟩, ⟨longName i, longName_accepted i⟩, .climate,
    some fullArea.areaId, none, none, validateTraits_climate⟩

/-- As many air conditioners as there may be, in one room. -/
def fullFields : RegistryFields :=
  ⟨⟨1, Int.one_nonneg⟩, ⟨[fullArea], by decide⟩,
    ⟨(List.finRange 128).map fullDevice, by
      unfold LengthRule.Accepts
      rw [List.length_map, List.length_finRange]
      decide⟩, noneRegistry.scenes, noneRegistry.placements⟩

theorem mem_fullDevices {d : Device} (h : d ∈ fullFields.devices.val) :
    exists i, d = fullDevice i := by
  rcases List.mem_map.mp h with ⟨i, _, heq⟩
  exact ⟨i, heq.symm⟩

theorem fullFields_rules : fullFields.Rules asciiInterpreter where
  areaIds := List.nodup_singleton _
  deviceIds := by
    show (((List.finRange 128).map fullDevice).map _).Nodup
    rw [List.map_map]
    exact (List.nodup_finRange 128).map longId_inj
  areaNames := List.nodup_singleton _
  roomNames := by
    show (((List.finRange 128).map fullDevice).map _).Nodup
    rw [List.map_map]
    apply (List.nodup_finRange 128).map
    intro i j h
    exact longName_inj (Prod.mk.inj h).right
  sceneIds := List.nodup_nil
  deviceRefs := List.nodup_nil
  deviceAreas := by
    intro d hd areaId harea
    rcases mem_fullDevices hd with ⟨i, heq⟩
    rw [heq] at harea
    rw [← Option.some.inj harea]
    exact List.mem_singleton_self _
  placementAreas := nofun
  actions := nofun

def fullRegistry : Registry asciiInterpreter where
  toRegistryFields := fullFields
  valid := by
    apply (guard_validateReferences _ _).passes_iff.mpr
    refine ⟨fullFields_rules, ?_⟩
    intro h
    rcases h with ⟨d, _, hd, _, hnone, _⟩
    rcases mem_fullDevices hd with ⟨i, heq⟩
    rw [heq] at hnone
    cases hnone

/-- What an air conditioner shows when it is added. -/
def coolState : State where
  members := (climateState "cool").members
  nodup := (climateState "cool").nodup
  values := by decide

def coolPanel (d : Device) : PanelDevice asciiInterpreter :=
  ⟨d.deviceId, d.name, .climate, d.areaId, true, some coolState,
    by decide⟩

theorem coolPanel_shows {d : Device} (h : d ∈ fullRegistry.devices.val) :
    Shows d (coolPanel d) := by
  rcases mem_fullDevices h with ⟨i, heq⟩
  rw [heq]
  exact ⟨rfl, rfl, rfl, rfl⟩

theorem coolState_finite : coolState.Finite := by
  intro m hm x hx
  have hnone : (coolState.members.all fun m => !isInstance [.float] m.snd) = true :=
    rfl
  have hvalue := List.all_eq_true.mp hnone m hm
  rw [hx] at hvalue
  exact absurd hvalue Bool.false_ne_true

theorem registry_fits_panel_iff_full :
    validateSnapshot asciiInterpreter (panelSnapshot
        fullRegistry.toRegistryFields ⟨1, by decide⟩ ⟨0, by decide⟩ coolPanel) ≠
        .error (.valueError (str "SNAPSHOT_TOO_LARGE")) <->
      (exists d, d ∈ fullRegistry.devices.val ∧ HasLongInteger (coolPanel d)) ∨
        snapshotLength asciiInterpreter fullRegistry.toRegistryFields
            ⟨1, by decide⟩ ⟨0, by decide⟩ coolPanel ≤
          panelSnapshotMaxBytes :=
  registry_fits_panel_iff asciiInterpreter fullRegistry ⟨1, by decide⟩
    ⟨0, by decide⟩ coolPanel (by decide) (by decide)
    (fun _ hd => coolPanel_shows hd)
    (fun _ _ s hs => by
      rw [← Option.some.inj hs]
      exact coolState_finite)

theorem coolPanel_short (d : Device) : ¬ HasLongInteger (coolPanel d) := by
  intro h
  rcases h with ⟨state, key, n, hstate, hmem, hn⟩
  rw [← Option.some.inj hstate] at hmem
  have hvalue : key = str "target_c" ∧ n = 26 := by
    simpa [coolState, climateState] using hmem
  rw [hvalue.right] at hn
  have hpow : 10 ^ 2 ≤ 10 ^ Interpreter.maxStrDigits :=
    Nat.pow_le_pow_right (by decide) (by decide)
  have habs : ¬ 10 ^ 2 ≤ (26 : Int).natAbs := by decide
  exact habs (le_trans hpow hn)

theorem fullDevice_length (i : Fin 128) :
    deviceLength asciiInterpreter (fullDevice i) (coolPanel (fullDevice i)) = 520 := by
  have hstate : stateLength asciiInterpreter (some coolState) = 57 := by
    decide
  have hid : (fullDevice i).deviceId.val.length = 128 := longId_length i
  have hname : nameLength (fullDevice i).name = 128 := longName_length i
  have harea : (fullDevice i).areaId = some fullArea.areaId := rfl
  have hareaId : fullArea.areaId.val.length = 128 := longId_length 0
  have htype : (fullDevice i).type = .climate := rfl
  have htext : DeviceType.climate.text.length = 7 := by decide
  have honline : (coolPanel (fullDevice i)).online = true := rfl
  have hcool : (coolPanel (fullDevice i)).state = some coolState := rfl
  unfold deviceLength
  rw [hid, hname, harea, htype, htext, honline, hcool, hstate, identifierLength,
    hareaId]
  rfl

theorem full_home_too_large :
    validateSnapshot asciiInterpreter (panelSnapshot
        fullRegistry.toRegistryFields ⟨1, by decide⟩ ⟨0, by decide⟩ coolPanel) =
      .error (.valueError (str "SNAPSHOT_TOO_LARGE")) := by
  have hlengths : fullRegistry.devices.val.map (fun d =>
      deviceLength asciiInterpreter d (coolPanel d)) = List.replicate 128 520 := by
    have hconst : (List.finRange 128).map (fun _ => 520) =
        List.replicate 128 520 := by
      rw [List.map_const', List.length_finRange]
    show ((List.finRange 128).map fullDevice).map _ = _
    rw [List.map_map, ← hconst]
    exact List.map_congr_left fun i _ => fullDevice_length i
  have hlarge : panelSnapshotMaxBytes < snapshotLength asciiInterpreter
      fullRegistry.toRegistryFields ⟨1, by decide⟩ ⟨0, by decide⟩ coolPanel := by
    unfold snapshotLength
    rw [hlengths]
    have hdevices : Json.listed (List.replicate 128 520) = 66689 := by
      decide +kernel
    have hbudget : panelSnapshotMaxBytes < 66689 := by decide
    omega
  rw [validateSnapshot_short (by decide) (by decide)
    (fun _ hd => coolPanel_shows hd)
    (fun _ _ s hs => by
      rw [← Option.some.inj hs]
      exact coolState_finite)
    (fun h => by
      rcases h with ⟨d, _, hlong⟩
      exact coolPanel_short d hlong)]
  exact if_pos hlarge

end Smarthome
end EidolonSdk
