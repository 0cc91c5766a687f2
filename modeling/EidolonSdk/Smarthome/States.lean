import EidolonSdk.Smarthome.Devices

/-!
# Checking a state

A state has the keys its traits define, all of them or some, and under each a
value of the right type; a mode has to be one of those of the specification.
Every trait has keys of its own, so which traits are merged, and in which order,
matters only for which keys there are.
-/

namespace EidolonSdk
namespace Smarthome

open Python Pydantic Logic

/-- `state_keys`. -/
def stateKeys (traits : List Trait) : Dict PyStr (List PyType) :=
  traits.foldl (fun allowed t => allowed.update (traitState t)) Dict.empty

section Validate

variable (I : Interpreter)

/-- All of the keys, or none but the keys. -/
def validateKeys (allowed keys : List PyStr) (exact : Bool) : Checked Unit := do
  refuseIf (exact = true ∧ ¬ SameKeys keys allowed)
    (.valueError (str "STATE_KEYS_MISMATCH: " ++ sortedText I keys ++
      str " != " ++ sortedText I allowed))
  refuseIf (exact = false ∧ ¬ keys ⊆ allowed)
    (.valueError (str "STATE_KEYS_UNKNOWN: " ++
      sortedText I (keys.filter fun key => key ∉ allowed)))

/-- A truth value is an `int`; it never stands in for a number. -/
def validateValue (allowed : Dict PyStr (List PyType)) (key : PyStr)
    (value : Json) : Checked Unit :=
  match allowed.lookup key with
  | none => throw (.raised .keyError)
  | some types => do
      refuseIf (isBool value = true ∧ PyType.bool ∉ types)
        (.valueError (str "STATE_TYPE_MISMATCH: " ++ key))
      refuseIf (isInstance types value = false)
        (.valueError (str "STATE_TYPE_MISMATCH: " ++ key))

def validateWord (state : Members) (key : String) (words : List PyStr)
    (code : String) : Checked Unit :=
  match state.get key with
  | none => pure ()
  | some value =>
      refuseIf (inWords words value = false) (.valueError (str code))

/-- `_validate_state`. -/
def validateStateOf (traits : List Trait) (modes : List PyStr) (state : Members)
    (exact : Bool) : Checked Unit := do
  let allowed := stateKeys traits
  validateKeys I allowed.keys state.keys exact
  state.forM fun (key, value) => validateValue allowed key value
  validateWord state "mode" modes "STATE_MODE_UNKNOWN"
  validateWord state "run_state" runStates "STATE_RUN_STATE_UNKNOWN"

/-- `validate_state`. -/
def validateState (kind : PyStr) (state : AnyState) : Checked Unit := do
  let spec ← deviceType I kind
  validateStateOf I spec.traits spec.modes state.members true

/-- `initial_state`. -/
def initialState (kind : PyStr) : Checked Members := do
  let spec ← deviceType I kind
  pure spec.initial

/-- `validate_device_state`. -/
def validateDeviceState (d : Device) (state : AnyState) : Checked Unit :=
  let spec := deviceSpec d
  validateStateOf I spec.traits spec.modes state.members true

end Validate

/-!
## The keys of the traits
-/

def Trait.all : List Trait :=
  [.onOff, .level, .thermostat, .fanSpeed, .position, .lock, .operational,
    .volume, .measure]

/-- The types under a key, whatever trait it is from. -/
def typesOf (key : PyStr) : Option (List PyType) :=
  (Trait.all.flatMap traitState).lookup key

theorem traitState_typesOf {t : Trait} {key : PyStr} {types : List PyType}
    (h : (key, types) ∈ traitState t) : typesOf key = some types := by
  have hall : ((traitState t).all fun entry =>
      decide (typesOf entry.fst = some entry.snd)) = true := by
    cases t with
    | onOff => rfl
    | level => rfl
    | thermostat => rfl
    | fanSpeed => rfl
    | position => rfl
    | lock => rfl
    | operational => rfl
    | volume => rfl
    | measure => rfl
  exact of_decide_eq_true (List.all_eq_true.mp hall (key, types) h)

/-- No key is defined by two traits. -/
theorem traitState_agree : Dict.Agree traitState := by
  intro t t' key types types' h h'
  have heq := (traitState_typesOf h).symm.trans (traitState_typesOf h')
  exact Option.some.inj heq

theorem stateKeys_lookup {traits : List Trait} {key : PyStr}
    {types : List PyType} :
    (stateKeys traits).lookup key = some types <->
      exists t, t ∈ traits ∧ (key, types) ∈ traitState t :=
  Dict.lookup_filled traitState_agree

theorem stateKeys_mono {traits traits' : List Trait} (h : traits ⊆ traits')
    {key : PyStr} {types : List PyType}
    (hlookup : (stateKeys traits).lookup key = some types) :
    (stateKeys traits').lookup key = some types := by
  rcases stateKeys_lookup.mp hlookup with ⟨t, ht, hmem⟩
  exact stateKeys_lookup.mpr ⟨t, h ht, hmem⟩

/-!
## What the check lets through
-/

/-- The value is of one of the types, and a truth value only where truth values
are among them. -/
def Typed (types : List PyType) (value : Json) : Prop :=
  (isBool value = true -> PyType.bool ∈ types) ∧ isInstance types value = true

/-- A key that is there has one of the words. -/
def Worded (state : Members) (key : String) (words : List PyStr) : Prop :=
  forall value, state.get key = some value ->
    exists word, word ∈ words ∧ value = .str word

structure StateAccepted (traits : List Trait) (modes : List PyStr)
    (state : Members) (exact : Bool) : Prop where
  known : state.keys ⊆ (stateKeys traits).keys
  complete : exact = true -> (stateKeys traits).keys ⊆ state.keys
  typed : forall key value, (key, value) ∈ state ->
    exists types, (stateKeys traits).lookup key = some types ∧ Typed types value
  mode : Worded state "mode" modes
  runState : Worded state "run_state" runStates

section Guards

variable (I : Interpreter)

/-- What the computation lets through, whatever errors it may end with. -/
abbrev Passes (x : Checked Unit) (passes : Prop) : Prop :=
  Guard x (fun _ => False) False passes

theorem passes_refuseIf {c : Prop} [Decidable c] {e : Refusal} :
    Passes (refuseIf c e) (¬ c) :=
  guard_refuse id

theorem Passes.andThen {x y : Checked Unit} {p q : Prop} (hx : Passes x p)
    (hy : p -> Passes y q) : Passes (x >>= fun _ => y) (p ∧ q) :=
  (Guard.andThen hx hy).iff (by simp) Iff.rfl

theorem passes_validateKeys {allowed keys : List PyStr} {exact : Bool} :
    Passes (validateKeys I allowed keys exact)
      (keys ⊆ allowed ∧ (exact = true -> allowed ⊆ keys)) := by
  apply (passes_refuseIf.andThen fun _ => passes_refuseIf).iff Iff.rfl
  cases exact with
  | true => simp [SameKeys]
  | false => simp

theorem passes_validateValue {allowed : Dict PyStr (List PyType)} {key : PyStr}
    {value : Json} :
    Passes (validateValue allowed key value)
      (exists types, allowed.lookup key = some types ∧ Typed types value) := by
  unfold validateValue
  cases hlookup : allowed.lookup key with
  | none => exact (guard_throw _).iff Iff.rfl (by simp)
  | some types =>
      apply (passes_refuseIf.andThen fun _ => passes_refuseIf).iff Iff.rfl
      simp [Typed]

theorem passes_validateWord {state : Members} {key code : String}
    {words : List PyStr} :
    Passes (validateWord state key words code) (Worded state key words) := by
  unfold validateWord
  cases hget : state.get key with
  | none =>
      apply guard_pure.iff Iff.rfl
      simp [Worded, hget]
  | some value =>
      apply passes_refuseIf.iff Iff.rfl
      rw [Bool.not_eq_false, inWords_iff]
      simp [Worded, hget]

theorem passes_validateStateOf {traits : List Trait} {modes : List PyStr}
    {state : Members} {exact : Bool} :
    Passes (validateStateOf I traits modes state exact)
      (StateAccepted traits modes state exact) := by
  have hvalues : Passes (state.forM fun (key, value) =>
      validateValue (stateKeys traits) key value)
      (forall m, m ∈ state -> exists types,
        (stateKeys traits).lookup m.fst = some types ∧ Typed types m.snd) := by
    apply (guard_forM fun m _ => passes_validateValue).iff _ Iff.rfl
    rw [stops_iff]
    constructor
    · intro h
      rcases h with ⟨_, _, _, _, _, h⟩
      exact h
    · exact False.elim
  apply ((passes_validateKeys I).andThen fun _ => hvalues.andThen fun _ =>
    passes_validateWord.andThen fun _ => passes_validateWord).iff Iff.rfl
  constructor
  · intro h
    rcases h with ⟨⟨hknown, hcomplete⟩, htyped, hmode, hrun⟩
    exact ⟨hknown, hcomplete, fun key value hm => htyped (key, value) hm, hmode,
      hrun⟩
  · intro h
    exact ⟨⟨h.known, h.complete⟩, fun m hm => h.typed m.fst m.snd hm, h.mode,
      h.runState⟩

end Guards

/-- A state that fits fewer traits fits more of them, as far as its keys go and
with the modes that are allowed there. -/
theorem StateAccepted.widen {traits traits' : List Trait}
    {modes modes' : List PyStr} {state : Members}
    (h : StateAccepted traits modes state true) (htraits : traits ⊆ traits')
    (hmode : Worded state "mode" modes') :
    StateAccepted traits' modes' state false where
  known := by
    intro key hkey
    rcases Dict.mem_keys.mp (h.known hkey) with ⟨types, htypes⟩
    exact Dict.mem_keys.mpr ⟨types, stateKeys_mono htraits htypes⟩
  complete := nofun
  typed := by
    intro key value hm
    rcases h.typed key value hm with ⟨types, htypes, htyped⟩
    exact ⟨types, stateKeys_mono htraits htypes, htyped⟩
  mode := hmode
  runState := h.runState

/-!
## The state a device starts in

The initial state is that of the type, whatever traits and modes the device has.
-/

theorem initial_nodup (t : DeviceType) : (deviceTypes t).initial.keys.Nodup := by
  cases t with
  | light => decide
  | switch => decide
  | climate => decide
  | waterHeater => decide
  | cover => decide
  | fan => decide
  | media => decide
  | appliance => decide
  | lock => decide
  | camera => decide
  | sensor => decide

/-- `dict(device_spec(device).initial)`. -/
def Device.initial (d : Device) : AnyState :=
  ⟨(deviceSpec d).initial, initial_nodup d.type, fun _ _ => rfl⟩

theorem validateStateOf_eq_ok {I : Interpreter} {traits : List Trait}
    {modes : List PyStr} {state : Members} {exact : Bool} :
    validateStateOf I traits modes state exact = .ok () <->
      StateAccepted traits modes state exact :=
  (passes_validateStateOf I).passes_iff

/-- Every type starts in a legal state. -/
theorem preset_accepted (t : DeviceType) :
    StateAccepted (deviceTypes t).traits (deviceTypes t).modes
      (deviceTypes t).initial true := by
  rw [← @validateStateOf_eq_ok asciiInterpreter]
  cases t with
  | light => rfl
  | switch => rfl
  | climate => rfl
  | waterHeater => rfl
  | cover => rfl
  | fan => rfl
  | media => rfl
  | appliance => rfl
  | lock => rfl
  | camera => rfl
  | sensor => rfl

/-- The initial state of a type passes the check of the type. -/
theorem validateState_initialState {I : Interpreter} {kind : PyStr} {state : AnyState}
    (h : initialState I kind = .ok state.members) : validateState I kind state = .ok () := by
  rcases bind_eq_ok.mp h with ⟨spec, hspec, hinitial⟩
  refine bind_eq_ok.mpr ⟨spec, hspec, ?_⟩
  rcases deviceType_eq_ok.mp hspec with ⟨t, _, rfl⟩
  rw [validateStateOf_eq_ok, ← Except.ok.inj hinitial]
  exact preset_accepted t

/-- The trait a key is from. -/
def traitOf (key : PyStr) : Option Trait :=
  Trait.all.find? fun t => (traitState t).any fun entry => entry.fst == key

theorem traitState_traitOf {t : Trait} {key : PyStr} {types : List PyType}
    (h : (key, types) ∈ traitState t) : traitOf key = some t := by
  have hall : ((traitState t).all fun entry =>
      decide (traitOf entry.fst = some t)) = true := by
    cases t with
    | onOff => rfl
    | level => rfl
    | thermostat => rfl
    | fanSpeed => rfl
    | position => rfl
    | lock => rfl
    | operational => rfl
    | volume => rfl
    | measure => rfl
  exact of_decide_eq_true (List.all_eq_true.mp hall (key, types) h)

theorem exists_traitState (t : Trait) : exists key types, (key, types) ∈ traitState t := by
  cases t with
  | onOff => exact ⟨_, _, List.mem_cons_self⟩
  | level => exact ⟨_, _, List.mem_cons_self⟩
  | thermostat => exact ⟨_, _, List.mem_cons_self⟩
  | fanSpeed => exact ⟨_, _, List.mem_cons_self⟩
  | position => exact ⟨_, _, List.mem_cons_self⟩
  | lock => exact ⟨_, _, List.mem_cons_self⟩
  | operational => exact ⟨_, _, List.mem_cons_self⟩
  | volume => exact ⟨_, _, List.mem_cons_self⟩
  | measure => exact ⟨_, _, List.mem_cons_self⟩

/-- The keys tell the traits. -/
theorem traits_subset_of_keys {traits traits' : List Trait}
    (h : (stateKeys traits).keys ⊆ (stateKeys traits').keys) : traits ⊆ traits' := by
  intro t ht
  rcases exists_traitState t with ⟨key, types, hmem⟩
  have hkey : key ∈ (stateKeys traits).keys :=
    Dict.mem_keys.mpr ⟨types, stateKeys_lookup.mpr ⟨t, ht, hmem⟩⟩
  rcases Dict.mem_keys.mp (h hkey) with ⟨types', htypes'⟩
  rcases stateKeys_lookup.mp htypes' with ⟨t', ht', hmem'⟩
  have htrait := (traitState_traitOf hmem).symm.trans (traitState_traitOf hmem')
  rw [Option.some.inj htrait]
  exact ht'

/-- A state of all keys of a type, seen with other traits and modes. -/
theorem accepted_iff_of_preset {t : DeviceType} {traits : List Trait}
    {modes : List PyStr} (htraits : traits ⊆ (deviceTypes t).traits) :
    StateAccepted traits modes (deviceTypes t).initial true <->
      (deviceTypes t).traits ⊆ traits ∧
        Worded (deviceTypes t).initial "mode" modes := by
  have hpreset := preset_accepted t
  constructor
  · intro h
    refine ⟨traits_subset_of_keys ?_, h.mode⟩
    exact fun key hkey => h.known (hpreset.complete rfl hkey)
  · intro h
    have hwide := hpreset.widen h.left h.right
    refine ⟨hwide.known, ?_, hwide.typed, h.right, hpreset.runState⟩
    intro _ key hkey
    rcases Dict.mem_keys.mp hkey with ⟨types, htypes⟩
    exact hpreset.complete rfl
      (Dict.mem_keys.mpr ⟨types, stateKeys_mono htraits htypes⟩)

/-- The device has all traits of its type, and its own list of modes has the one
its type starts in. -/
structure KeepsPreset (d : Device) : Prop where
  traits : forall own : Traits, d.traits = some own ->
    (deviceTypes d.type).traits ⊆ own.val
  modes : forall own mode, d.limit Limits.modes = some own ->
    (deviceTypes d.type).initial.get "mode" = some (.str mode) -> mode ∈ own.val

theorem worded_preset {t : DeviceType} {modes : List PyStr} :
    Worded (deviceTypes t).initial "mode" modes <->
      forall mode, (deviceTypes t).initial.get "mode" = some (.str mode) ->
        mode ∈ modes := by
  constructor
  · intro h mode hmode
    rcases h _ hmode with ⟨word, hword, heq⟩
    cases heq
    exact hword
  · intro h value hvalue
    rcases (preset_accepted t).mode value hvalue with ⟨mode, _, rfl⟩
    exact ⟨mode, h mode hvalue, rfl⟩

theorem worded_deviceSpec (d : Device) :
    Worded (deviceTypes d.type).initial "mode" (deviceSpec d).modes <->
      forall own mode, d.limit Limits.modes = some own ->
        (deviceTypes d.type).initial.get "mode" = some (.str mode) ->
        mode ∈ own.val := by
  unfold deviceSpec
  cases hlimit : d.limit Limits.modes with
  | none => exact iff_of_true (preset_accepted d.type).mode nofun
  | some own =>
      rw [worded_preset]
      constructor
      · intro h own' mode heq hmode
        cases heq
        exact h mode hmode
      · exact fun h mode hmode => h own mode rfl hmode

theorem subset_deviceTraits (d : Device) :
    (deviceTypes d.type).traits ⊆ deviceTraits d <->
      forall own : Traits, d.traits = some own ->
        (deviceTypes d.type).traits ⊆ own.val := by
  unfold deviceTraits
  cases htraits : d.traits with
  | none => exact iff_of_true (List.Subset.refl _) nofun
  | some own => simp

/-- A device starts in a legal state exactly when it narrows neither the traits nor
the starting mode of its type away. -/
theorem initial_state_legal_iff (I : Interpreter) (d : Device) :
    validateDeviceState I d d.initial = .ok () <-> KeepsPreset d := by
  unfold validateDeviceState
  rw [validateStateOf_eq_ok]
  show StateAccepted (deviceTraits d) (deviceSpec d).modes
    (deviceTypes d.type).initial true <-> _
  rw [accepted_iff_of_preset (deviceTraits_subset d), subset_deviceTraits,
    worded_deviceSpec]
  exact ⟨fun h => ⟨h.left, h.right⟩, fun h => ⟨h.traits, h.modes⟩⟩

/-- A light that cannot dim. -/
def fixedLight : Device :=
  ⟨⟨str "lamp", by decide⟩, ⟨str "灯", by decide⟩, .light, none,
    some ⟨[.onOff], by decide⟩, none, rfl⟩

theorem not_initial_state_legal :
    ¬ forall (I : Interpreter) (d : Device),
      validateDeviceState I d d.initial = .ok () := by
  intro h
  cases h asciiInterpreter fixedLight

end Smarthome
end EidolonSdk
