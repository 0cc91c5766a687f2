import EidolonSdk.Pydantic.JsonMode
import EidolonSdk.Pydantic.Wire
import EidolonSdk.Python.ExactFloats
import EidolonSdk.Python.JsonEquality
import EidolonSdk.Python.JsonRoundTrip
import EidolonSdk.Smarthome.Commands
import EidolonSdk.Smarthome.Panel
import EidolonSdk.Smarthome.States

/-!
# Requests of a panel

A panel sends a message inside a request that says which message it is.  The
message is dumped twice on its way out, once by itself and once with the request
around it, and it is validated twice on its way in.
-/

namespace EidolonSdk
namespace Smarthome

open Python Pydantic Json

/-!
## Fields
-/

theorem equals_int (n : Int) : (Json.int n).equals (.int n) = true :=
  (equals_scalar (hashKey_int n) (hashKey_int n)).mpr ⟨rfl, nofun⟩

/-- `schema_version: Literal[1]`; whatever equals one is taken for it. -/
def schemaVersion : Wire Unit where
  dump _ := .int 1
  validate v := if v.equals (.int 1) = true then .ok () else .error .invalid
  validate_dump _ := if_pos (equals_int 1)

def traitWire : Wire Trait :=
  Wire.word Trait.all Trait.text (fun t => by cases t <;> decide) (by decide)

/-- A dictionary with string keys whose values are checked one by one. -/
def entriesWire (p : Json -> Bool) : Wire (Entries p) where
  dump entries := .object entries.members
  validate
    | .object members =>
        if h : (Members.keys members).Nodup ∧
            forall m, m ∈ members -> p m.snd = true then
          .ok ⟨members, h.left, h.right⟩
        else .error .invalid
    | _ => .error .invalid
  validate_dump entries := dif_pos ⟨entries.nodup, entries.values⟩

/-!
## Commands
-/

namespace Command

def fieldNames : List String :=
  ["device_id", "trait", "command", "params"]

def members (typed : Members -> Members) (c : Command) : Members :=
  [(str "device_id", .str c.deviceId.val), (str "trait", .str (str c.trait.text)),
    (str "command", .str c.command.val),
    (str "params", .object (typed c.params.members))]

/-- `model_dump(mode="json")`. -/
def dump (typed : Members -> Members) (c : Command) : Json :=
  .object (c.members typed)

def validateMembers (members : Members) : Validated Command := do
  onlyMembers members fieldNames
  let deviceId ← required members "device_id" (Wire.text identifierRule).validate
  let trait ← required members "trait" traitWire.validate
  let command ← required members "command" (Wire.text identifierRule).validate
  let params ← withDefault members "params" (Entries.empty isParamValue)
    (entriesWire isParamValue).validate
  .ok ⟨deviceId, trait, command, params⟩

theorem validate_dump (c : Command) :
    validModel validateMembers (c.dump id) = .ok c := by
  have hdevice := (Wire.text identifierRule).validate_dump c.deviceId
  have htrait := traitWire.validate_dump c.trait
  have hcommand := (Wire.text identifierRule).validate_dump c.command
  have hparams := (entriesWire isParamValue).validate_dump c.params
  have hnames : onlyMembers (c.members id) fieldNames = .ok () := rfl
  show validateMembers (c.members id) = .ok c
  unfold validateMembers
  rw [hnames]
  simp only [members, required, withDefault, Members.get_cons, Members.get_nil,
    String.reduceEq, if_true, if_false]
  rw [show (Wire.text identifierRule).validate (.str c.deviceId.val) = _ from hdevice,
    show traitWire.validate (.str (str c.trait.text)) = _ from htrait,
    show (Wire.text identifierRule).validate (.str c.command.val) = _ from hcommand,
    show (entriesWire isParamValue).validate (.object (id c.params.members)) = _
      from hparams]
  rfl

/-- A command whose parameters have names that JSON mode keeps. -/
def wire : Wire Command where
  dump := dump id
  validate := validModel validateMembers
  validate_dump := validate_dump

end Command

/-!
## Messages
-/

def maxPanelCommands : Nat := 8

/-- `Field(max_length=MAX_PANEL_COMMANDS)`. -/
def commandsRule : LengthRule :=
  { most := some maxPanelCommands }

/-- `PanelExecute.validate_target`. -/
def PanelExecute.validateTarget (commands : List Command)
    (sceneId : Option Identifier) : Checked Unit :=
  refuseIf ((!commands.isEmpty) = sceneId.isSome)
    (.valueError (str "EXACTLY_ONE_OF_COMMANDS_OR_SCENE"))

structure PanelExecute where
  requestId : Identifier
  commands : Tuple commandsRule Command
  sceneId : Option Identifier
  target : PanelExecute.validateTarget commands.val sceneId = .ok ()

def sceneWire : Wire (Option Identifier) :=
  Wire.nullable (Wire.text identifierRule) fun _ => rfl

namespace PanelExecute

def fieldNames : List String :=
  ["schema_version", "request_id", "commands", "scene_id"]

/-- `model_dump(mode="json")`. -/
def members (typed : Members -> Members) (e : PanelExecute) : Members :=
  [(str "schema_version", .int 1), (str "request_id", .str e.requestId.val),
    (str "commands", .array (e.commands.val.map (Command.dump typed))),
    (str "scene_id", sceneWire.dump e.sceneId)]

def validateMembers (members : Members) : Validated PanelExecute := do
  onlyMembers members fieldNames
  withDefault members "schema_version" () schemaVersion.validate
  let requestId ← required members "request_id" (Wire.text identifierRule).validate
  let commands ← withDefault members "commands" ⟨[], Nat.le_refl 0, rfl⟩
    (Wire.tuple commandsRule Command.wire).validate
  let sceneId ← withDefault members "scene_id" none sceneWire.validate
  match h : validateTarget commands.val sceneId with
  | .ok () => .ok ⟨requestId, commands, sceneId, h⟩
  | .error e => .error e.fault

theorem validateMembers_members (e : PanelExecute) :
    validateMembers (e.members id) = .ok e := by
  have hrequest := (Wire.text identifierRule).validate_dump e.requestId
  have hcommands := (Wire.tuple commandsRule Command.wire).validate_dump e.commands
  have hscene := sceneWire.validate_dump e.sceneId
  have hversion := schemaVersion.validate_dump ()
  have hnames : onlyMembers (e.members id) fieldNames = .ok () := rfl
  unfold validateMembers
  rw [hnames]
  simp only [members, required, withDefault, Members.get_cons, Members.get_nil,
    String.reduceEq, if_true, if_false]
  rw [show schemaVersion.validate (.int 1) = _ from hversion,
    show (Wire.text identifierRule).validate (.str e.requestId.val) = _ from hrequest,
    show (Wire.tuple commandsRule Command.wire).validate
      (.array (e.commands.val.map (Command.dump id))) = _ from hcommands, hscene]
  show (match h : validateTarget e.commands.val e.sceneId with
    | .ok () => .ok ⟨e.requestId, e.commands, e.sceneId, h⟩
    | .error e => .error e.fault) = (.ok e : Validated PanelExecute)
  split
  · rfl
  · rename_i h
    rw [e.target] at h
    cases h

end PanelExecute

structure PanelSync where
  knownRevision : Option (IntFrom 0)
  knownSeq : Option (IntFrom 0)

/-- `Revision | None`. -/
def revisionWire : Wire (Option (IntFrom 0)) :=
  Wire.nullable (Wire.integer 0) fun _ => rfl

namespace PanelSync

def fieldNames : List String :=
  ["schema_version", "known_revision", "known_seq"]

/-- `model_dump(mode="json")`. -/
def members (s : PanelSync) : Members :=
  [(str "schema_version", .int 1),
    (str "known_revision", revisionWire.dump s.knownRevision),
    (str "known_seq", revisionWire.dump s.knownSeq)]

def validateMembers (members : Members) : Validated PanelSync := do
  onlyMembers members fieldNames
  withDefault members "schema_version" () schemaVersion.validate
  let knownRevision ← withDefault members "known_revision" none revisionWire.validate
  let knownSeq ← withDefault members "known_seq" none revisionWire.validate
  .ok ⟨knownRevision, knownSeq⟩

theorem validateMembers_members (s : PanelSync) :
    validateMembers s.members = .ok s := by
  have hrevision := revisionWire.validate_dump s.knownRevision
  have hseq := revisionWire.validate_dump s.knownSeq
  have hversion := schemaVersion.validate_dump ()
  have hnames : onlyMembers s.members fieldNames = .ok () := rfl
  unfold validateMembers
  rw [hnames]
  simp only [members, withDefault, Members.get_cons, Members.get_nil,
    String.reduceEq, if_true, if_false]
  rw [show schemaVersion.validate (.int 1) = _ from hversion, hrevision, hseq]
  rfl

end PanelSync

/-!
## Requests
-/

inductive PanelMessage where
  | execute (e : PanelExecute)
  | sync (s : PanelSync)

inductive RequestType where
  | execute
  | sync
  deriving DecidableEq

def RequestType.all : List RequestType :=
  [.execute, .sync]

def RequestType.text : RequestType -> String
  | .execute => "smarthome.execute"
  | .sync => "smarthome.sync"

def requestTypeWire : Wire RequestType :=
  Wire.word RequestType.all RequestType.text (fun t => by cases t <;> decide)
    (by decide)

structure PanelRequest where
  type : RequestType
  /-- `dict[str, Any]`. -/
  payload : AnyState

namespace PanelRequest

def fieldNames : List String :=
  ["schema_v", "type", "payload"]

/-- `model_dump(mode="json")`. -/
def members (untyped : Members -> Members) (r : PanelRequest) : Members :=
  [(str "schema_v", .int 1), (str "type", .str (str r.type.text)),
    (str "payload", .object (untyped r.payload.members))]

def validateMembers (members : Members) : Validated PanelRequest := do
  onlyMembers members fieldNames
  withDefault members "schema_v" () schemaVersion.validate
  let type ← required members "type" requestTypeWire.validate
  let payload ← required members "payload" (entriesWire fun _ => true).validate
  .ok ⟨type, payload⟩

def message (r : PanelRequest) : Validated PanelMessage :=
  match r.type with
  | .execute =>
      (PanelExecute.validateMembers r.payload.members).map PanelMessage.execute
  | .sync => (PanelSync.validateMembers r.payload.members).map PanelMessage.sync

theorem validateMembers_members (r : PanelRequest) :
    validateMembers (r.members id) = .ok r := by
  have htype := requestTypeWire.validate_dump r.type
  have hpayload := (entriesWire fun _ => true).validate_dump r.payload
  have hversion := schemaVersion.validate_dump ()
  have hnames : onlyMembers (r.members id) fieldNames = .ok () := rfl
  unfold validateMembers
  rw [hnames]
  simp only [members, required, withDefault, Members.get_cons, Members.get_nil,
    String.reduceEq, if_true, if_false]
  rw [show schemaVersion.validate (.int 1) = _ from hversion,
    show requestTypeWire.validate (.str (str r.type.text)) = _ from htype,
    show (entriesWire fun _ => true).validate (.object (id r.payload.members)) = _
      from hpayload]
  rfl

end PanelRequest

namespace PanelMessage

def type : PanelMessage -> RequestType
  | .execute _ => .execute
  | .sync _ => .sync

/-- `message.model_dump(mode="json")`. -/
def members (typed : Members -> Members) : PanelMessage -> Members
  | .execute e => e.members typed
  | .sync s => s.members

theorem nodup_members (typed : Members -> Members) (m : PanelMessage) :
    (m.members typed).keys.Nodup := by
  cases m with
  | execute e =>
      show (PanelExecute.fieldNames.map Python.str).Nodup
      decide
  | sync s =>
      show (PanelSync.fieldNames.map Python.str).Nodup
      decide

end PanelMessage

/-- The request around a message. -/
def requestOf (typed : Members -> Members) (m : PanelMessage) : PanelRequest where
  type := m.type
  payload := ⟨m.members typed, m.nodup_members typed, fun _ _ => rfl⟩

def panelRequest (mode : JsonMode) (m : PanelMessage) : Json :=
  .object ((requestOf mode.typed m).members mode.untypedMembers)

/-- `json.dumps(body, ensure_ascii=..., separators=...)`. -/
def jsonStyle (floatText : Double -> String) (ensureAscii spaced : Bool) : Style :=
  ⟨if ensureAscii then .ascii else .utf8, floatText, spaced⟩

/-- `PanelRequest.model_validate(json.loads(text)).message()`. -/
def receive (text : PyStr) : Validated PanelMessage := do
  let body ← (loads dictHook text).mapError Fault.raised
  let request ← validModel PanelRequest.validateMembers body
  request.message

/-!
## What a request consists of
-/

/-- The parameters of all commands. -/
def PanelMessage.params : PanelMessage -> Members
  | .execute e => e.commands.val.flatMap fun c => c.params.members
  | .sync _ => []

/-- A property of all JSON values a request is made of, its parameters apart. -/
structure OfRequests (p : Json -> Bool) : Prop where
  null : p .null = true
  int : forall n, p (.int n) = true
  str : forall s, Python.Encodable s -> p (.str s) = true
  array : forall items, p (.array items) = true
  object : forall members : Members, members.keys.Nodup ->
    (members.all fun m => decide (Python.Encodable m.fst)) = true ->
    p (.object members) = true

section Parts

variable {p : Json -> Bool} (hp : OfRequests p)

include hp

theorem all_scene (id : Option Identifier) : (sceneWire.dump id).all p = true := by
  cases id with
  | none => exact hp.null
  | some s => exact hp.str _ s.property.left

theorem all_revision (n : Option (IntFrom 0)) :
    (revisionWire.dump n).all p = true := by
  cases n with
  | none => exact hp.null
  | some n => exact hp.int _

/-- An object whose keys are the fields of a model. -/
theorem all_fields {fieldNames : List String} {members : Members}
    (hkeys : members.keys = fieldNames.map Python.str)
    (hnodup : (fieldNames.map Python.str).Nodup)
    (h : forall m, m ∈ members -> m.snd.all p = true) :
    (Json.object members).all p = true := by
  refine Bool.and_eq_true_iff.mpr ⟨hp.object members (hkeys ▸ hnodup) ?_,
    allMembers_iff.mpr h⟩
  apply List.all_eq_true.mpr
  intro m hm
  have hmem : m.fst ∈ fieldNames.map Python.str := hkeys ▸ List.mem_map_of_mem hm
  rcases List.mem_map.mp hmem with ⟨name, _, heq⟩
  rw [← heq]
  exact decide_eq_true (encodable_str name)

theorem all_command {c : Command}
    (hkeys : forall m, m ∈ c.params.members -> Python.Encodable m.fst)
    (hvalues : forall m, m ∈ c.params.members -> m.snd.all p = true) :
    (c.dump id).all p = true := by
  have hparams : (Json.object c.params.members).all p = true := by
    refine Bool.and_eq_true_iff.mpr ⟨hp.object _ c.params.nodup ?_,
      allMembers_iff.mpr hvalues⟩
    exact List.all_eq_true.mpr fun m hm => decide_eq_true (hkeys m hm)
  apply all_fields hp (show _ = Command.fieldNames.map Python.str from rfl) (by decide)
  unfold Command.members
  simp only [List.forall_mem_cons]
  exact ⟨hp.str _ c.deviceId.property.left, hp.str _ (encodable_str _),
    hp.str _ c.command.property.left, hparams, List.forall_mem_nil _⟩

theorem all_message {m : PanelMessage}
    (hkeys : forall q, q ∈ m.params -> Python.Encodable q.fst)
    (hvalues : forall q, q ∈ m.params -> q.snd.all p = true) :
    (Json.object (m.members id)).all p = true := by
  cases m with
  | execute e =>
      have hcommands : (Json.array (e.commands.val.map (Command.dump id))).all p =
          true := by
        refine Bool.and_eq_true_iff.mpr ⟨hp.array _, allItems_iff.mpr ?_⟩
        intro v hv
        rcases List.mem_map.mp hv with ⟨c, hc, heq⟩
        rw [← heq]
        exact all_command hp
          (fun q hq => hkeys q (List.mem_flatMap.mpr ⟨c, hc, hq⟩))
          (fun q hq => hvalues q (List.mem_flatMap.mpr ⟨c, hc, hq⟩))
      apply all_fields hp (show _ = PanelExecute.fieldNames.map Python.str from rfl)
        (by decide)
      unfold PanelMessage.members PanelExecute.members
      simp only [List.forall_mem_cons]
      exact ⟨hp.int 1, hp.str _ e.requestId.property.left, hcommands,
        all_scene hp e.sceneId, List.forall_mem_nil _⟩
  | sync s =>
      apply all_fields hp (show _ = PanelSync.fieldNames.map Python.str from rfl)
        (by decide)
      unfold PanelMessage.members PanelSync.members
      simp only [List.forall_mem_cons]
      exact ⟨hp.int 1, all_revision hp s.knownRevision, all_revision hp s.knownSeq,
        List.forall_mem_nil _⟩

/-- The request as it is when JSON mode rewrites nothing. -/
theorem all_request {m : PanelMessage}
    (hkeys : forall q, q ∈ m.params -> Python.Encodable q.fst)
    (hvalues : forall q, q ∈ m.params -> q.snd.all p = true) :
    (Json.object ((requestOf id m).members id)).all p = true := by
  apply all_fields hp (show _ = PanelRequest.fieldNames.map Python.str from rfl)
    (by decide)
  unfold PanelRequest.members
  simp only [List.forall_mem_cons]
  exact ⟨hp.int 1, hp.str _ (encodable_str _), all_message hp hkeys hvalues,
    List.forall_mem_nil _⟩

end Parts

/-!
## On the wire
-/

/-- A number that JSON can write. -/
def isFinite : Json -> Bool
  | .float (.finite _ _ _) => true
  | .float _ => false
  | _ => true

theorem isJson_param {v : Json} (hvalue : isParamValue v = true)
    (h : isFinite v = true) : v.all properNode = true := by
  cases v with
  | bool b => rfl
  | int n => rfl
  | str s => rfl
  | float x =>
      cases x with
      | finite negative magnitude representable => rfl
      | infinite negative => cases h
      | nan => cases h
  | null => cases hvalue
  | array items => cases hvalue
  | object members => cases hvalue

theorem spelled_param {clean : PyStr -> Bool} {v : Json}
    (hvalue : isParamValue v = true)
    (h : forall s, v = .str s -> clean s = true) : v.all (spelled clean) = true := by
  cases v with
  | bool b => rfl
  | int n => rfl
  | float x => rfl
  | str s => exact h s rfl
  | null => cases hvalue
  | array items => cases hvalue
  | object members => cases hvalue

theorem PanelMessage.isParamValue_params {m : PanelMessage} {q : PyStr × Json}
    (h : q ∈ m.params) : isParamValue q.snd = true := by
  cases m with
  | execute e =>
      rcases List.mem_flatMap.mp h with ⟨c, _, hq⟩
      exact c.params.values q hq
  | sync s => cases h

section Wire

variable {m : PanelMessage} (hfinite : forall q, q ∈ m.params -> isFinite q.snd = true)
  (hnames : forall q, q ∈ m.params -> Python.Encodable q.fst)

include hnames

theorem members_typed (mode : JsonMode) : m.members mode.typed = m.members id := by
  cases m with
  | sync s => rfl
  | execute e =>
      have hcommands : e.commands.val.map (Command.dump mode.typed) =
          e.commands.val.map (Command.dump id) := by
        apply List.map_congr_left
        intro c hc
        unfold Command.dump Command.members
        rw [mode.typed_eq _ c.params.nodup fun q hq =>
          hnames q (List.mem_flatMap.mpr ⟨c, hc, hq⟩)]
        rfl
      unfold PanelMessage.members PanelExecute.members
      dsimp only
      rw [hcommands]

include hfinite

theorem isJson_request : IsJson (.object ((requestOf id m).members id)) := by
  apply all_request ⟨rfl, fun _ => rfl, fun _ _ => rfl, fun _ => rfl,
    fun _ hkeys _ => decide_eq_true hkeys⟩ hnames
  exact fun q hq => isJson_param (m.isParamValue_params hq) (hfinite q hq)

theorem panelRequest_eq (mode : JsonMode) :
    panelRequest mode m = .object ((requestOf id m).members id) := by
  have hmessage : requestOf mode.typed m = requestOf id m := by
    unfold requestOf
    congr 2
    exact members_typed hnames mode
  have hpayload : mode.untypedMembers (m.members id) = m.members id := by
    apply mode.untypedMembers_eq
    · apply all_message ⟨rfl, fun _ => rfl, fun _ _ => rfl, fun _ => rfl,
        fun _ hkeys _ => decide_eq_true hkeys⟩ hnames
      exact fun q hq => isJson_param (m.isParamValue_params hq) (hfinite q hq)
    · apply all_message ⟨rfl, fun _ => rfl, fun _ _ => rfl, fun _ => rfl,
        fun _ _ hkeys => hkeys⟩ hnames
      intro q hq
      have hvalue := m.isParamValue_params hq
      revert hvalue
      cases q.snd with
      | object members => nofun
      | array items => nofun
      | null => nofun
      | bool b => exact fun _ => rfl
      | int n => exact fun _ => rfl
      | float x => exact fun _ => rfl
      | str s => exact fun _ => rfl
  unfold panelRequest
  rw [hmessage]
  unfold PanelRequest.members
  rw [show (requestOf id m).payload.members = m.members id from rfl, hpayload]
  rfl

end Wire

theorem message_requestOf (m : PanelMessage) : (requestOf id m).message = .ok m := by
  unfold PanelRequest.message
  cases m with
  | execute e =>
      rw [show (requestOf id (.execute e)).type = .execute from rfl]
      dsimp only
      rw [show (requestOf id (.execute e)).payload.members = e.members id from rfl,
        e.validateMembers_members]
      rfl
  | sync s =>
      rw [show (requestOf id (.sync s)).type = .sync from rfl]
      dsimp only
      rw [show (requestOf id (.sync s)).payload.members = s.members from rfl,
        s.validateMembers_members]
      rfl

/-- What is read back from the text of a request is its message. -/
theorem receive_of_loads {text : PyStr} {m : PanelMessage}
    (h : loads dictHook text = .ok (.object ((requestOf id m).members id))) :
    receive text = .ok m := by
  have hrequest := (requestOf id m).validateMembers_members
  generalize (requestOf id m).members id = members at h hrequest
  unfold receive
  rw [h, show (Except.ok (Json.object members)).mapError Fault.raised =
    .ok (.object members) from rfl, Logic.ok_bind]
  unfold validModel
  dsimp only
  rw [hrequest, Logic.ok_bind, message_requestOf]

/-- What is written without lone surrogates is read back. -/
theorem clean_request {m : PanelMessage} {ensureAscii spaced : Bool}
    {floatText : Double -> String}
    (hnames : forall q, q ∈ m.params -> Python.Encodable q.fst)
    (hstrings : ensureAscii = true -> forall q, q ∈ m.params -> forall s,
      q.snd = .str s -> unsplit s = true) :
    (Json.object ((requestOf id m).members id)).all
      (spelled (jsonStyle floatText ensureAscii spaced).strings.clean) = true := by
  have hencodable : forall s, Python.Encodable s ->
      (jsonStyle floatText ensureAscii spaced).strings.clean s = true := by
    intro s hs
    cases ensureAscii with
    | true => exact unsplit_of_encodable hs
    | false => rfl
  apply all_request ⟨rfl, fun _ => rfl, hencodable, fun _ => rfl, ?_⟩ hnames
  · intro q hq
    apply spelled_param (m.isParamValue_params hq)
    intro s hs
    cases ensureAscii with
    | true => exact hstrings rfl q hq s hs
    | false => rfl
  · intro members _ hkeys
    apply List.all_eq_true.mpr
    intro q hq
    exact hencodable _ (of_decide_eq_true (List.all_eq_true.mp hkeys q hq))

/-- A message is received as it was sent, whenever its numbers are finite, its
parameters have names that are Unicode texts and no string is spelled as two
surrogates where the text is to be ASCII. -/
theorem panel_request_survives_wire (floatText : Double -> String)
    (hfloat : FloatNumerals floatText) (mode : JsonMode) (ensureAscii spaced : Bool)
    (m : PanelMessage) (hfinite : forall q, q ∈ m.params -> isFinite q.snd = true)
    (hnames : forall q, q ∈ m.params -> Python.Encodable q.fst)
    (hstrings : ensureAscii = true -> forall q, q ∈ m.params -> forall s,
      q.snd = .str s -> unsplit s = true) :
    (forall text, (jsonStyle floatText ensureAscii spaced).dumps
        (panelRequest mode m) = .ok text -> receive text = .ok m) ∧
    ((panelRequest mode m).all shortInteger = true -> exists text,
      (jsonStyle floatText ensureAscii spaced).dumps (panelRequest mode m) =
        .ok text) := by
  rw [panelRequest_eq hfinite hnames mode]
  constructor
  · intro text h
    rcases Style.dumps_eq_ok.mp h with ⟨hshort, rfl⟩
    apply receive_of_loads
    exact loads_text hfloat keeps_dictHook
      ⟨isJson_request hfinite hnames, clean_request hnames hstrings⟩ hshort
  · intro hshort
    exact ⟨_, Style.dumps_eq_ok.mpr ⟨hshort, rfl⟩⟩

/-- One command with the given parameters. -/
def oneCommand (params : Params) : PanelMessage :=
  .execute ⟨⟨str "touch-1", by decide⟩,
    ⟨[⟨⟨str "living.main_light", by decide⟩, .level, ⟨str "set", by decide⟩,
      params⟩], Nat.zero_le 1, rfl⟩, none, rfl⟩

/-- Four values that are equal or are written with the same characters. -/
def fourValues : Params where
  members := [(str "a", .bool true), (str "b", .int 1),
    (str "c", .float (.finite false doubleOne representable_doubleOne)),
    (str "d", .str (str "1"))]
  nodup := by decide
  values := by
    simp only [List.forall_mem_cons]
    exact ⟨rfl, rfl, rfl, rfl, List.forall_mem_nil _⟩

theorem panel_request_survives_wire_four : exists text,
    (jsonStyle exactText true true).dumps
        (panelRequest .lossy (oneCommand fourValues)) = .ok text ∧
      receive text = .ok (oneCommand fourValues) := by
  have hsurvives := panel_request_survives_wire exactText floatNumerals_exactText
    .lossy true true (oneCommand fourValues)
    (by
      show forall q, q ∈ fourValues.members ++ [] -> _
      rw [List.append_nil]
      unfold fourValues
      simp only [List.forall_mem_cons]
      exact ⟨rfl, rfl, rfl, rfl, List.forall_mem_nil _⟩)
    (by
      show forall q, q ∈ fourValues.members ++ [] -> _
      rw [List.append_nil]
      unfold fourValues
      simp only [List.forall_mem_cons]
      exact ⟨encodable_str _, encodable_str _, encodable_str _, encodable_str _,
        List.forall_mem_nil _⟩)
    (by
      intro _
      show forall q, q ∈ fourValues.members ++ [] -> _
      rw [List.append_nil]
      unfold fourValues
      simp only [List.forall_mem_cons]
      refine ⟨nofun, nofun, nofun, ?_, List.forall_mem_nil _⟩
      intro s h
      rw [← Json.str.inj h]
      exact unsplit_of_encodable (encodable_str _))
  rcases hsurvives.right (by decide) with ⟨text, htext⟩
  exact ⟨text, htext, hsurvives.left text htext⟩

/-!
## A string that does not survive
-/

/-- Two surrogates, and the character that they spell. -/
def splitText : PyStr := [0xD83D, 0xDE00]

def joinedText : PyStr := [0x1F600]

def sayValue (s : PyStr) : Params :=
  ⟨[(str "value", .str s)], List.nodup_singleton _, fun _ hm => by
    rw [List.mem_singleton.mp hm]
    rfl⟩

theorem text_sayValue {style : Style} {s t : PyStr}
    (h : style.strings.body s = style.strings.body t) :
    style.text (.object ((requestOf id (oneCommand (sayValue s))).members id)) =
      style.text (.object ((requestOf id (oneCommand (sayValue t))).members id)) := by
  have hvalue : style.text (.str s) = style.text (.str t) := by
    show style.quote s = style.quote t
    unfold Style.quote
    rw [h]
  have hdump : forall s, Json.object ((requestOf id (oneCommand (sayValue s))).members
      id) = .object [(str "schema_v", .int 1), (str "type", .str (str "smarthome.execute")),
        (str "payload", .object [(str "schema_version", .int 1),
          (str "request_id", .str (str "touch-1")),
          (str "commands", .array [.object [
            (str "device_id", .str (str "living.main_light")),
            (str "trait", .str (str "level")), (str "command", .str (str "set")),
            (str "params", .object [(str "value", .str s)])]]),
          (str "scene_id", .null)])] :=
    fun _ => rfl
  rw [hdump, hdump]
  simp only [Style.text_object, Style.text_array, List.map_cons, List.map_nil,
    Style.memberText, hvalue]

/-- `json.dumps` writes both strings alike, and `json.loads` reads the character. -/
theorem split_parameter_is_joined :
    (forall q, q ∈ (oneCommand (sayValue splitText)).params -> isFinite q.snd = true) ∧
    exists text, (jsonStyle exactText true true).dumps
        (panelRequest .lossy (oneCommand (sayValue splitText))) = .ok text ∧
      receive text = .ok (oneCommand (sayValue joinedText)) ∧
      oneCommand (sayValue joinedText) ≠ oneCommand (sayValue splitText) := by
  have hparams : forall s, (oneCommand (sayValue s)).params = [(str "value", .str s)] :=
    fun _ => rfl
  have hfinite : forall s q, q ∈ (oneCommand (sayValue s)).params ->
      isFinite q.snd = true := by
    intro s q hq
    rw [hparams, List.mem_singleton] at hq
    rw [hq]
    rfl
  have hnames : forall s q, q ∈ (oneCommand (sayValue s)).params ->
      Python.Encodable q.fst := by
    intro s q hq
    rw [hparams, List.mem_singleton] at hq
    rw [hq]
    exact encodable_str _
  have hclean : forall q, q ∈ (oneCommand (sayValue joinedText)).params -> forall s,
      q.snd = .str s -> unsplit s = true := by
    intro q hq s hs
    rw [hparams, List.mem_singleton] at hq
    rw [hq] at hs
    rw [← Json.str.inj hs]
    rfl
  refine ⟨hfinite _, _, Style.dumps_eq_ok.mpr ⟨by decide, rfl⟩, ?_, ?_⟩
  · rw [panelRequest_eq (hfinite _) (hnames _), text_sayValue
      (show (jsonStyle exactText true true).strings.body splitText =
        (jsonStyle exactText true true).strings.body joinedText by decide)]
    apply receive_of_loads
    exact loads_text floatNumerals_exactText keeps_dictHook
      ⟨isJson_request (hfinite _) (hnames _), clean_request (hnames _) fun _ => hclean⟩
      (by decide)
  · intro heq
    have hvalues := congrArg PanelMessage.params heq
    rw [hparams, hparams] at hvalues
    have hstr := (Prod.mk.inj (List.cons.inj hvalues).left).right
    exact absurd (Json.str.inj hstr) (by decide)

end Smarthome
end EidolonSdk
