import EidolonSdk.Logic.Dict
import EidolonSdk.Logic.Guards
import EidolonSdk.Logic.SortedBy
import EidolonSdk.Pydantic.Validation
import EidolonSdk.Python.Decimal
import EidolonSdk.Python.JsonEquality

/-!
# The smart home vocabulary

Device types, the traits they have, the commands a trait takes and the state it
shows; and the two checks over them, of a command and of a state, that every
other rule of the smart home contract calls.  A command and a state come from
outside, so their values are whatever Python holds: an integer of any size, a
number that is none.
-/

namespace EidolonSdk
namespace Smarthome

open Python Pydantic Logic

/-!
## Errors
-/

/-- The codes a Provider or Runtime returns per command. -/
inductive ErrorCode where
  | unknownDevice
  | unsupportedCommand
  | invalidParams
  | outOfRange
  | deviceOffline
  | deadlineExceeded
  | unknownScene
  | platformRejected
  deriving DecidableEq

/-- The codes a registry write is refused with. -/
inductive RegistryCode where
  | duplicateArea
  | duplicateAreaName
  | duplicateDevice
  | duplicateDeviceName
  | duplicateScene
  | duplicatePlacement
  | deviceAreaUnknown
  | placementAreaUnknown
  | sceneDeviceUnknown
  | limitExceeded
  deriving DecidableEq

def RegistryCode.text : RegistryCode -> String
  | .duplicateArea => "DUPLICATE_AREA"
  | .duplicateAreaName => "DUPLICATE_AREA_NAME"
  | .duplicateDevice => "DUPLICATE_DEVICE"
  | .duplicateDeviceName => "DUPLICATE_DEVICE_NAME_IN_AREA"
  | .duplicateScene => "DUPLICATE_SCENE"
  | .duplicatePlacement => "DUPLICATE_PLACEMENT"
  | .deviceAreaUnknown => "DEVICE_AREA_UNKNOWN"
  | .placementAreaUnknown => "PLACEMENT_AREA_UNKNOWN"
  | .sceneDeviceUnknown => "SCENE_DEVICE_UNKNOWN"
  | .limitExceeded => "LIMIT_EXCEEDED"

/-- A `ValueError` of this package, with its code or its text, or an exception
of the standard library that passed through. -/
inductive Refusal where
  | registryError (code : RegistryCode)
  | smartHomeError (code : ErrorCode) (detail : PyStr)
  | valueError (text : PyStr)
  | raised (e : PyException)
  deriving DecidableEq

/-- Not a `SmartHomeError`. -/
def Refusal.IsOther : Refusal -> Prop
  | .smartHomeError _ _ => False
  | _ => True

abbrev Checked := Except Refusal

/-- `if c: raise e`. -/
def refuseIf (c : Prop) [Decidable c] (e : Refusal) : Checked Unit :=
  if c then throw e else pure ()

theorem refuseIf_eq_ok {c : Prop} [Decidable c] {e : Refusal} :
    refuseIf c e = .ok () <-> ¬ c := by
  unfold refuseIf
  by_cases h : c
  · rw [if_pos h]
    exact iff_of_false nofun (not_not.mpr h)
  · rw [if_neg h]
    exact iff_of_true rfl h

/-- `raise SmartHomeError(code, detail)`, where the text of the detail may
itself raise. -/
def raiseSmartHomeError (code : ErrorCode) (detail : Except PyException PyStr) :
    Checked Unit :=
  match detail with
  | .ok detail => throw (.smartHomeError code detail)
  | .error e => throw (.raised e)

/-!
## Texts
-/

/-- A character of `[A-Za-z0-9._:-]`. -/
def isIdentifierChar (c : CodePoint) : Bool :=
  (0x41 ≤ c.val && c.val ≤ 0x5A) || (0x61 ≤ c.val && c.val ≤ 0x7A) ||
    (0x30 ≤ c.val && c.val ≤ 0x39) || c == codePoint '.' || c == codePoint '_' ||
    c == codePoint ':' || c == codePoint '-'

def identifierRule : StrRule :=
  { minLength := 1, maxLength := some 128,
    pattern := fun s => s.all isIdentifierChar }

/-- A character of `\s`. -/
def isWhiteSpace (c : CodePoint) : Bool :=
  (0x9 ≤ c.val && c.val ≤ 0xd) || c.val == 0x20 || c.val == 0x85 ||
    c.val == 0xa0 || c.val == 0x1680 || (0x2000 ≤ c.val && c.val ≤ 0x200a) ||
    c.val == 0x2028 || c.val == 0x2029 || c.val == 0x202f || c.val == 0x205f ||
    c.val == 0x3000

def nameRule : StrRule :=
  { minLength := 1, maxLength := some 32,
    pattern := fun s => s.any fun c => !isWhiteSpace c }

abbrev Identifier := ConStr identifierRule

abbrev Name := ConStr nameRule

/-!
## Values
-/

/-- A `dict` with string keys, by its entries in the order they were added. -/
structure Entries (p : Json -> Bool) where
  members : Members
  nodup : members.keys.Nodup
  values : forall m, m ∈ members -> p m.snd = true

def Entries.empty (p : Json -> Bool) : Entries p :=
  ⟨[], List.nodup_nil, nofun⟩

/-- `bool | int | float | str`. -/
def isParamValue : Json -> Bool
  | .bool _ => true
  | .int _ => true
  | .float _ => true
  | .str _ => true
  | _ => false

abbrev Params := Entries isParamValue

/-- `dict[str, Any]`. -/
abbrev AnyState := Entries fun _ => true

/-- The Python types a value of a state may have. -/
inductive PyType where
  | bool
  | int
  | float
  | str
  | none
  deriving DecidableEq

def isBool : Json -> Bool
  | .bool _ => true
  | _ => false

/-- `isinstance(value, int)`. -/
def isInt : Json -> Bool
  | .bool _ => true
  | .int _ => true
  | _ => false

/-- `isinstance(value, types)`; a truth value is an `int`. -/
def isInstance (types : List PyType) : Json -> Bool
  | .null => types.contains .none
  | .bool _ => types.contains .bool || types.contains .int
  | .int _ => types.contains .int
  | .float _ => types.contains .float
  | .str _ => types.contains .str
  | .array _ => false
  | .object _ => false

/-- A bound: `int` in the tables of this module, `float` in the limits of a
device. -/
inductive Number where
  | int (n : Int)
  | float (x : Double)
  deriving DecidableEq

def Number.json : Number -> Json
  | .int n => .int n
  | .float x => .float x

/-!
## The tables
-/

inductive Trait where
  | onOff
  | level
  | thermostat
  | fanSpeed
  | position
  | lock
  | operational
  | volume
  | measure
  deriving DecidableEq

def Trait.text : Trait -> String
  | .onOff => "on_off"
  | .level => "level"
  | .thermostat => "thermostat"
  | .fanSpeed => "fan_speed"
  | .position => "position"
  | .lock => "lock"
  | .operational => "operational"
  | .volume => "volume"
  | .measure => "measure"

inductive ParamKind where
  | int
  | bool
  | mode
  | number
  deriving DecidableEq

/-- A parameter is `(kind, low, high)`.  Bounds of `None` come from the device
type. -/
structure Param where
  kind : ParamKind
  low : Option Number
  high : Option Number
  deriving DecidableEq

def Param.pct : Param := ⟨.int, some (.int 0), some (.int 100)⟩

def Param.step : Param := ⟨.int, some (.int (-100)), some (.int 100)⟩

def Param.bool : Param := ⟨.bool, none, none⟩

def Param.mode : Param := ⟨.mode, none, none⟩

abbrev Declared := List (PyStr × Param)

def traitCommands : Trait -> List (PyStr × Declared)
  | .onOff => [(str "on", []), (str "off", []), (str "toggle", [])]
  | .level =>
      [(str "set", [(str "value", .pct)]), (str "step", [(str "delta", .step)])]
  | .thermostat =>
      [(str "set_mode", [(str "mode", .mode)]),
        (str "set_target", [(str "celsius", ⟨.number, none, none⟩)]),
        (str "step",
          [(str "delta", ⟨.number, some (.int (-10)), some (.int 10)⟩)])]
  | .fanSpeed =>
      [(str "set", [(str "value", .pct)]), (str "step", [(str "delta", .step)])]
  | .position =>
      [(str "open", []), (str "close", []), (str "stop", []),
        (str "set", [(str "value", .pct)])]
  | .lock => [(str "lock", []), (str "unlock", [])]
  | .operational =>
      [(str "start", []), (str "pause", []), (str "stop", []), (str "dock", [])]
  | .volume =>
      [(str "set", [(str "value", .pct)]), (str "step", [(str "delta", .step)]),
        (str "mute", [(str "muted", .bool)])]
  | .measure => []

/-- State keys each trait contributes, with the types a value may take. -/
def traitState : Trait -> List (PyStr × List PyType)
  | .onOff => [(str "on", [.bool])]
  | .level => [(str "level", [.int])]
  | .thermostat =>
      [(str "mode", [.str]), (str "target_c", [.int, .float]),
        (str "current_c", [.int, .float, .none])]
  | .fanSpeed => [(str "speed", [.int])]
  | .position => [(str "position", [.int])]
  | .lock => [(str "locked", [.bool])]
  | .operational => [(str "run_state", [.str])]
  | .volume => [(str "volume", [.int]), (str "muted", [.bool])]
  | .measure =>
      [(str "temp_c", [.int, .float, .none]), (str "humidity", [.int, .none])]

def runStates : List PyStr :=
  [str "idle", str "running", str "paused", str "docked"]

structure DeviceTypeSpec where
  traits : List Trait
  label : PyStr
  targetC : Option (Number × Number) := none
  modes : List PyStr := []
  initial : Members := []

inductive DeviceType where
  | light
  | switch
  | climate
  | waterHeater
  | cover
  | fan
  | media
  | appliance
  | lock
  | camera
  | sensor
  deriving DecidableEq

def DeviceType.text : DeviceType -> String
  | .light => "light"
  | .switch => "switch"
  | .climate => "climate"
  | .waterHeater => "water_heater"
  | .cover => "cover"
  | .fan => "fan"
  | .media => "media"
  | .appliance => "appliance"
  | .lock => "lock"
  | .camera => "camera"
  | .sensor => "sensor"

def DeviceType.all : List DeviceType :=
  [.light, .switch, .climate, .waterHeater, .cover, .fan, .media, .appliance,
    .lock, .camera, .sensor]

def deviceTypes : DeviceType -> DeviceTypeSpec
  | .light =>
      { traits := [.onOff, .level], label := str "灯",
        initial := [(str "on", .bool false), (str "level", .int 60)] }
  | .switch =>
      { traits := [.onOff], label := str "开关",
        initial := [(str "on", .bool false)] }
  | .climate =>
      { traits := [.onOff, .thermostat], label := str "空调",
        targetC := some (.int 16, .int 30),
        modes := [str "cool", str "heat", str "auto", str "fan", str "dry"],
        initial :=
          [(str "on", .bool false), (str "mode", .str (str "cool")),
            (str "target_c", .int 26), (str "current_c", .null)] }
  | .waterHeater =>
      { traits := [.onOff, .thermostat], label := str "热水器",
        targetC := some (.int 35, .int 60),
        modes := [str "heat"],
        initial :=
          [(str "on", .bool false), (str "mode", .str (str "heat")),
            (str "target_c", .int 42), (str "current_c", .null)] }
  | .cover =>
      { traits := [.position], label := str "窗帘",
        initial := [(str "position", .int 0)] }
  | .fan =>
      { traits := [.onOff, .fanSpeed], label := str "风扇/净化/加湿",
        initial := [(str "on", .bool false), (str "speed", .int 30)] }
  | .media =>
      { traits := [.onOff, .volume], label := str "影音",
        initial :=
          [(str "on", .bool false), (str "volume", .int 20),
            (str "muted", .bool false)] }
  | .appliance =>
      { traits := [.operational], label := str "家电",
        initial := [(str "run_state", .str (str "idle"))] }
  | .lock =>
      { traits := [.lock], label := str "门锁",
        initial := [(str "locked", .bool true)] }
  | .camera =>
      { traits := [.onOff], label := str "摄像头",
        initial := [(str "on", .bool true)] }
  | .sensor =>
      { traits := [.measure], label := str "传感器",
        initial := [(str "temp_c", .null), (str "humidity", .null)] }

end Smarthome
end EidolonSdk
