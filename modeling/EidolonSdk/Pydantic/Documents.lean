import EidolonSdk.Pydantic.Codec

/-!
# Stored documents

The fields of a model are put together from single fields, and what they dump
and read is put together with them.  A document is read through its fields; what
becomes of the members the model does not know is the choice of the document.
-/

namespace EidolonSdk
namespace Pydantic

open Python Logic

/-!
## Fields
-/

def modelled (names : List String) (k : PyStr) : Bool :=
  names.any fun name => str name == k

theorem modelled_iff {names : List String} {k : PyStr} :
    modelled names k = true <-> exists name, name ∈ names ∧ str name = k := by
  simp [modelled]

def distinct (names names' : List String) : Bool :=
  names.all fun name => !names'.contains name

/-- The proof by evaluation, with the fact as its type. -/
theorem distinct_of_eval {names names' : List String}
    (h : distinct names names' = true) : distinct names names' = true := h

theorem not_mem_of_distinct {names names' : List String}
    (h : distinct names names' = true) {name : String} (hname : name ∈ names) :
    name ∉ names' := by
  have hnot := List.all_eq_true.mp h name hname
  simpa using hnot

/-- The fields of a model: what it dumps them as and how it reads them from
the members that bear their names. -/
structure Fields (α : Type) where
  names : List String
  members : DumpMode -> α -> Members
  read : Members -> Option α
  Kept : DumpMode -> α -> Prop
  names_nodup : names.Nodup
  keys_members : forall mode a,
    List.Sublist (members mode a).keys (names.map str)
  read_members : forall mode a, Kept mode a -> read (members mode a) = some a
  isJson_members : forall mode a, Kept mode a ->
    forall k v, (k, v) ∈ members mode a -> v.IsJson
  read_congr : forall ms ns : Members,
    (forall name, name ∈ names ->
      Option.Rel Codec.SameForm (ms.get name) (ns.get name)) ->
    read ns = read ms

namespace Fields

variable {α β : Type}

theorem get_eq_none {ms : Members} {names : List String} {name : String}
    (hkeys : List.Sublist ms.keys (names.map str)) (h : name ∉ names) :
    ms.get name = none := by
  cases hget : ms.get name with
  | none => rfl
  | some v =>
      have hkey : str name ∈ ms.keys :=
        Members.get_isSome.mp (by rw [hget]; rfl)
      rcases List.mem_map.mp (hkeys.subset hkey) with ⟨name', hname', heq⟩
      rw [str_inj.mp heq] at hname'
      exact absurd hname' h

theorem rel_self (x : Option Json) : Option.Rel Codec.SameForm x x := by
  cases x with
  | none => exact Option.Rel.none
  | some v => exact Option.Rel.some (Codec.SameForm.refl v)

/-- A field; without a default it is required. -/
def field (name : String) (codec : Codec α) (default : Option α) : Fields α where
  names := [name]
  members mode a := [(str name, codec.dump mode a)]
  read members :=
    match members.get name with
    | some v => codec.validate v
    | none => default
  Kept := codec.Kept
  names_nodup := List.nodup_singleton name
  keys_members _ _ := List.Sublist.refl _
  read_members mode a h := by
    rw [Members.get_cons, if_pos rfl]
    exact codec.validate_dump mode a h
  isJson_members mode a h k v hv := by
    cases List.mem_singleton.mp hv
    exact codec.isJson_dump mode a h
  read_congr ms ns h := by
    have hrel := h name List.mem_cons_self
    generalize ms.get name = x at hrel ⊢
    generalize ns.get name = y at hrel ⊢
    cases hrel with
    | none => rfl
    | some hform => exact codec.validate_sameForm hform

/-- A field that may be `None`, and is by default. -/
def optional (name : String) (codec : Codec α)
    (hnull : forall mode a, codec.dump mode a ≠ .null) : Fields (Option α) where
  names := [name]
  members mode a :=
    match a with
    | some a => [(str name, codec.dump mode a)]
    | none => if mode = .full then [(str name, .null)] else []
  read members :=
    match members.get name with
    | some .null => some none
    | some v => (codec.validate v).map some
    | none => some none
  Kept mode a := forall b, b ∈ a -> codec.Kept mode b
  names_nodup := List.nodup_singleton name
  keys_members mode a := by
    cases a with
    | some a => exact List.Sublist.refl _
    | none =>
        cases mode with
        | full => exact List.Sublist.refl _
        | excludeNone => exact List.nil_sublist _
  read_members mode a h := by
    cases a with
    | some a =>
        rw [Members.get_cons, if_pos rfl]
        have hvalid := codec.validate_dump mode a (h a rfl)
        split
        · rename_i heq
          exact absurd (Option.some.inj heq) (hnull mode a)
        · rename_i v heq
          rw [← Option.some.inj heq, hvalid]
          rfl
        · rename_i heq
          cases heq
    | none =>
        cases mode with
        | full => simp
        | excludeNone => simp
  isJson_members mode a h k v hv := by
    cases a with
    | some a =>
        cases List.mem_singleton.mp hv
        exact codec.isJson_dump mode a (h a rfl)
    | none =>
        cases mode with
        | full =>
            cases List.mem_singleton.mp hv
            rfl
        | excludeNone => cases hv
  read_congr ms ns h := by
    have hrel := h name List.mem_cons_self
    generalize ms.get name = x at hrel ⊢
    generalize ns.get name = y at hrel ⊢
    cases hrel with
    | none => rfl
    | @some v w hform =>
        have hvalid := codec.validate_sameForm hform
        cases hform with
        | refl => rfl
        | sorted hv =>
            cases v with
            | array items =>
                rw [Json.sorted_array] at hvalid ⊢
                exact congrArg (Option.map some) hvalid
            | object members =>
                rw [Json.sorted_object] at hvalid ⊢
                exact congrArg (Option.map some) hvalid
            | null => rfl
            | bool b => rfl
            | int n => rfl
            | float x => rfl
            | str s => rfl

/-- Fields of different names, one after the other. -/
def and (first : Fields α) (second : Fields β)
    (hnames : distinct first.names second.names = true := by
      exact distinct_of_eval rfl) :
    Fields (α × β) where
  names := first.names ++ second.names
  members mode a := first.members mode a.fst ++ second.members mode a.snd
  read members := do
    let a ← first.read members
    let b ← second.read members
    some (a, b)
  Kept mode a := first.Kept mode a.fst ∧ second.Kept mode a.snd
  names_nodup := List.nodup_append.mpr ⟨first.names_nodup, second.names_nodup,
    fun name h name' h' heq => not_mem_of_distinct hnames h (heq ▸ h')⟩
  keys_members mode a := by
    unfold Members.keys
    rw [List.map_append, List.map_append]
    exact (first.keys_members mode a.fst).append (second.keys_members mode a.snd)
  read_members mode a h := by
    have hfirst : first.read (first.members mode a.fst ++
        second.members mode a.snd) = some a.fst := by
      rw [← first.read_members mode a.fst h.left]
      apply first.read_congr
      intro name hname
      rw [Members.get_append,
        get_eq_none (second.keys_members mode a.snd)
          (not_mem_of_distinct hnames hname), Option.or_none]
      exact rel_self _
    have hsecond : second.read (first.members mode a.fst ++
        second.members mode a.snd) = some a.snd := by
      rw [← second.read_members mode a.snd h.right]
      apply second.read_congr
      intro name hname
      have hother : name ∉ first.names :=
        fun h' => not_mem_of_distinct hnames h' hname
      rw [Members.get_append,
        get_eq_none (first.keys_members mode a.fst) hother, Option.none_or]
      exact rel_self _
    rw [hfirst, hsecond]
    rfl
  isJson_members mode a h k v hv := by
    rcases List.mem_append.mp hv with hv | hv
    · exact first.isJson_members mode a.fst h.left k v hv
    · exact second.isJson_members mode a.snd h.right k v hv
  read_congr ms ns h := by
    rw [first.read_congr ms ns fun name hname =>
        h name (List.mem_append_left _ hname),
      second.read_congr ms ns fun name hname =>
        h name (List.mem_append_right _ hname)]

/-- The same fields, read into another type. -/
def map (fields : Fields α) (make : α -> β) (parts : β -> α)
    (hmake : forall b, make (parts b) = b) : Fields β where
  names := fields.names
  members mode b := fields.members mode (parts b)
  read members := (fields.read members).map make
  Kept mode b := fields.Kept mode (parts b)
  names_nodup := fields.names_nodup
  keys_members mode b := fields.keys_members mode (parts b)
  read_members mode b h := by
    rw [fields.read_members mode (parts b) h, Option.map_some, hmake]
  isJson_members mode b h := fields.isJson_members mode (parts b) h
  read_congr ms ns h := by rw [fields.read_congr ms ns h]

/-- A model validator that only refuses. -/
def such (fields : Fields α) (p : α -> Prop) [DecidablePred p] :
    Fields { a : α // p a } where
  names := fields.names
  members mode a := fields.members mode a.val
  read members := do
    let a ← fields.read members
    if h : p a then some ⟨a, h⟩ else none
  Kept mode a := fields.Kept mode a.val
  names_nodup := fields.names_nodup
  keys_members mode a := fields.keys_members mode a.val
  read_members mode a h := by
    rw [fields.read_members mode a.val h]
    exact dif_pos a.property
  isJson_members mode a h := fields.isJson_members mode a.val h
  read_congr ms ns h := by rw [fields.read_congr ms ns h]

/-!
### Single fields of a document
-/

section Single

variable {γ : Type} {name : String} {codec : Codec α} {default : Option α}
variable {mode : DumpMode} {ms ns : Members}

@[simp] theorem members_field (a : α) :
    (field name codec default).members mode a =
      [(str name, codec.dump mode a)] := rfl

@[simp] theorem get_optional_ne {hnull : forall mode a, codec.dump mode a ≠ .null}
    {a : Option α} {key : String} (h : key ≠ name) :
    Members.get ((optional name codec hnull).members mode a) key = none :=
  get_eq_none ((optional name codec hnull).keys_members mode a)
    fun hmem => h (List.mem_singleton.mp hmem)

@[simp] theorem members_and {first : Fields α} {second : Fields β}
    {hnames : distinct first.names second.names = true} (p : α × β) :
    (first.and second hnames).members mode p =
      first.members mode p.fst ++ second.members mode p.snd := rfl

@[simp] theorem members_map {fields : Fields α} {make : α -> β}
    {parts : β -> α} {hmake : forall b, make (parts b) = b} (b : β) :
    (fields.map make parts hmake).members mode b =
      fields.members mode (parts b) := rfl

@[simp] theorem members_such {fields : Fields α} {p : α -> Prop}
    [DecidablePred p] (a : { a : α // p a }) :
    (fields.such p).members mode a = fields.members mode a.val := rfl

/-- Fields that find what they found before read what they read before. -/
theorem read_congr_get (fields : Fields α)
    (h : forall name, name ∈ fields.names -> ns.get name = ms.get name) :
    fields.read ns = fields.read ms := by
  apply fields.read_congr
  intro name hname
  rw [h name hname]
  exact rel_self _

theorem read_field_get {v : Json} (h : ms.get name = some v) :
    (field name codec default).read ms = codec.validate v := by
  simp only [field, h]

/-- A field where a dump was left alone or replaced. -/
theorem read_field_edited (mode : DumpMode) {setting : Option γ} {value : γ -> Json} {read : γ -> α}
    {old : α} (hget : ms.get name =
      (setting.map value).or (some (codec.dump mode old)))
    (hold : codec.Kept mode old)
    (hread : forall c, c ∈ setting -> codec.validate (value c) = some (read c)) :
    (field name codec default).read ms = some ((setting.map read).getD old) := by
  cases setting with
  | none =>
      rw [read_field_get hget, codec.validate_dump mode old hold]
      rfl
  | some c =>
      rw [read_field_get hget, hread c rfl]
      rfl

theorem read_field_replaced (mode : DumpMode) {setting : Option α} {old : α}
    (hget : ms.get name =
      (setting.map (codec.dump mode)).or (some (codec.dump mode old)))
    (hold : codec.Kept mode old)
    (hsetting : forall a, a ∈ setting -> codec.Kept mode a) :
    (field name codec default).read ms = some (setting.getD old) := by
  have hread : (field name codec default).read ms =
      some ((setting.map id).getD old) :=
    read_field_edited mode hget hold fun a ha =>
      codec.validate_dump mode a (hsetting a ha)
  rw [Option.map_id] at hread
  exact hread

theorem read_field_kept (mode : DumpMode) {old : α} (hget : ms.get name =
      some (codec.dump mode old)) (hold : codec.Kept mode old) :
    (field name codec default).read ms = some old := by
  rw [read_field_get hget, codec.validate_dump mode old hold]

theorem read_optional_kept (mode : DumpMode)
    {hnull : forall mode a, codec.dump mode a ≠ .null} {old : Option α}
    (hget : ms.get name =
      Members.get ((optional name codec hnull).members mode old) name)
    (hold : forall a, a ∈ old -> codec.Kept mode a) :
    (optional name codec hnull).read ms = some old := by
  rw [← (optional name codec hnull).read_members mode old hold]
  apply read_congr_get
  intro name' hname'
  rw [List.mem_singleton.mp hname', hget]

theorem read_optional_get {hnull : forall mode a, codec.dump mode a ≠ .null}
    {v : Json} {a : α} (h : ms.get name = some v)
    (ha : codec.validate v = some a) (hv : v ≠ .null) :
    (optional name codec hnull).read ms = some (some a) := by
  simp only [optional, h, ha]
  rfl

theorem read_and_some {first : Fields α} {second : Fields β}
    {hnames : distinct first.names second.names = true} {a : α} {b : β}
    (ha : first.read ms = some a) (hb : second.read ms = some b) :
    (first.and second hnames).read ms = some (a, b) := by
  simp only [and, ha, hb]
  rfl

theorem read_map_some {fields : Fields α} {make : α -> β}
    {parts : β -> α} {hmake : forall b, make (parts b) = b} {a : α} {b : β}
    (ha : fields.read ms = some a) (hb : make a = b) :
    (fields.map make parts hmake).read ms = some b := by
  simp only [map, ha, Option.map_some, hb]

theorem read_such_some {fields : Fields α} {p : α -> Prop} [DecidablePred p]
    {a : α} (ha : fields.read ms = some a) (hp : p a) :
    (fields.such p).read ms = some ⟨a, hp⟩ := by
  simp only [such, ha]
  exact dif_pos hp

/-- A member that may be there: the dump of a field that may be unset. -/
def setMember (name : String) (dump : γ -> Json) (setting : Option γ) : Members :=
  setting.toList.map fun c => (str name, dump c)

@[simp] theorem get_setMember {dump : γ -> Json} {setting : Option γ}
    (key : String) :
    Members.get (setMember name dump setting) key =
      if key = name then setting.map dump else none := by
  cases setting with
  | none => simp [setMember]
  | some c => simp [setMember]

end Single

/-!
## Documents
-/

/-- `_carries_nothing`. -/
def carriesNothing : Json -> Bool
  | .null => true
  | .str s => s.isEmpty
  | .array items => items.isEmpty
  | .object members => members.isEmpty
  | _ => false

theorem carriesNothing_sorted (v : Json) :
    carriesNothing v.sorted = carriesNothing v := by
  cases v with
  | array items =>
      rw [Json.sorted_array]
      exact List.isEmpty_map
  | object members =>
      rw [Json.sorted_object]
      cases members with
      | nil => rfl
      | cons m rest =>
          have hne : (Json.sortedDict (m :: rest)).entries ≠ [] :=
            Dict.update_ne_nil (Or.inr (List.cons_ne_nil _ _))
          exact List.isEmpty_eq_false_iff.mpr hne
  | null => rfl
  | bool b => rfl
  | int n => rfl
  | float x => rfl
  | str s => rfl

section Load

variable (fields : Fields α)

/-- `_drop_retired_keys_that_carry_nothing`, then `extra="forbid"`, then the
fields. -/
def load (members : Members) : Option α :=
  let current := members.filter fun m =>
    modelled fields.names m.fst || !carriesNothing m.snd
  if current.all fun m => modelled fields.names m.fst then fields.read current
  else none

/-- Every key the model does not know carries nothing. -/
def Retired (members : Members) : Prop :=
  forall m, m ∈ members ->
    modelled fields.names m.fst = true ∨ carriesNothing m.snd = true

instance (members : Members) : Decidable (fields.Retired members) :=
  inferInstanceAs (Decidable (forall m, m ∈ members -> _ ∨ _))

theorem get_filter {members : Members} {p : PyStr × Json -> Bool} {name : String}
    (h : forall v, p (str name, v) = true) :
    Members.get (members.filter p) name = Members.get members name := by
  unfold Members.get
  induction members with
  | nil => rfl
  | cons m rest ih =>
      rcases m with ⟨k, v⟩
      cases hp : p (k, v) with
      | true =>
          rw [List.filter_cons_of_pos hp, List.lookup_cons, List.lookup_cons, ih]
      | false =>
          have hne : str name ≠ k := by
            intro heq
            rw [← heq, h v] at hp
            cases hp
          rw [List.filter_cons_of_neg (by rw [hp]; exact Bool.false_ne_true), ih,
            List.lookup_cons, beq_eq_false_iff_ne.mpr hne]

theorem load_eq (members : Members) :
    fields.load members =
      if fields.Retired members then fields.read members else none := by
  unfold load Retired
  dsimp only
  have hcond : ((members.filter fun m =>
      modelled fields.names m.fst || !carriesNothing m.snd).all fun m =>
        modelled fields.names m.fst) = true <-> fields.Retired members := by
    rw [List.all_eq_true]
    constructor
    · intro h m hm
      by_cases hcarries : carriesNothing m.snd = true
      · exact Or.inr hcarries
      · apply Or.inl
        apply h m
        apply List.mem_filter.mpr
        exact ⟨hm, by simp [hcarries]⟩
    · intro h m hm
      rcases List.mem_filter.mp hm with ⟨hm, hkept⟩
      rcases h m hm with hknown | hcarries
      · exact hknown
      · rw [hcarries] at hkept
        simpa using hkept
  have hread : fields.read (members.filter fun m =>
      modelled fields.names m.fst || !carriesNothing m.snd) =
        fields.read members := by
    apply fields.read_congr_get
    intro name hname
    apply get_filter
    intro v
    rw [modelled_iff.mpr ⟨name, hname, rfl⟩]
    rfl
  rw [hread]
  exact if_congr hcond rfl rfl

theorem load_eq_some {members : Members} {a : α} :
    fields.load members = some a <->
      fields.Retired members ∧ fields.read members = some a := by
  rw [load_eq]
  by_cases h : fields.Retired members
  · simp [h]
  · simp [h]

theorem modelled_of_mem {mode : DumpMode} {a : α} {k : PyStr}
    (h : k ∈ (fields.members mode a).keys) : modelled fields.names k = true := by
  rcases List.mem_map.mp ((fields.keys_members mode a).subset h)
    with ⟨name, hname, heq⟩
  exact modelled_iff.mpr ⟨name, hname, heq⟩

theorem keys_nodup (mode : DumpMode) (a : α) :
    (fields.members mode a).keys.Nodup := by
  apply (fields.keys_members mode a).nodup
  apply fields.names_nodup.map
  intro name name' heq
  exact str_inj.mp heq

theorem retired_append {ms ns : Members} (hms : fields.Retired ms)
    (hns : fields.Retired ns) : fields.Retired (ms ++ ns) := by
  intro m hm
  rcases List.mem_append.mp hm with hm | hm
  · exact hms m hm
  · exact hns m hm

theorem retired_setMember {γ : Type} {name : String} {dump : γ -> Json}
    {setting : Option γ} (h : name ∈ fields.names) :
    fields.Retired (setMember name dump setting) := by
  intro m hm
  rcases List.mem_map.mp hm with ⟨c, _, heq⟩
  rw [← heq]
  exact Or.inl (modelled_iff.mpr ⟨name, h, rfl⟩)

/-- What has only keys that a dump has, has only known keys. -/
theorem retired_of_keys {mode : DumpMode} {a : α} {members : Members}
    (h : members.keys = (fields.members mode a).keys) :
    fields.Retired members := by
  intro m hm
  have hkey : m.fst ∈ (fields.members mode a).keys := by
    rw [← h]
    exact List.mem_map_of_mem hm
  exact Or.inl (fields.modelled_of_mem hkey)

theorem read_sorted {members : Members} (h : (Json.object members).IsJson) :
    fields.read (Json.sortedDict members).entries = fields.read members := by
  apply fields.read_congr
  intro name _
  have hfound := Json.lookup_sortedDict h.keys_nodup (str name)
  unfold Dict.lookup at hfound
  unfold Members.get
  rw [hfound]
  cases hv : members.lookup (str name) with
  | none => exact Option.Rel.none
  | some v => exact Option.Rel.some (Codec.SameForm.sorted (h.lookup hv))

/-- `StoredDocument`. -/
def document : Codec α where
  dump mode a := .object (fields.members mode a)
  validate
    | .object members => fields.load members
    | _ => none
  Kept := fields.Kept
  validate_dump mode a h :=
    fields.load_eq_some.mpr
      ⟨fields.retired_of_keys rfl, fields.read_members mode a h⟩
  isJson_dump mode a h := by
    exact Json.isJson_object (fields.keys_nodup mode a)
      (fields.isJson_members mode a h)
  validate_sorted v hv := by
    cases v with
    | object members =>
        rw [Json.sorted_object]
        show fields.load (Json.sortedDict members).entries = fields.load members
        have hfound := Json.lookup_sortedDict hv.keys_nodup
        have hretired : fields.Retired (Json.sortedDict members).entries <->
            fields.Retired members := by
          constructor
          · intro h m hm
            have hm' := hfound m.fst
            rw [Json.lookup_of_mem hv.keys_nodup hm, Option.map_some] at hm'
            have hmem := h _ (Dict.lookup_eq_some.mp hm')
            rw [carriesNothing_sorted] at hmem
            exact hmem
          · intro h m hm
            rcases Json.mem_sortedDict hm with ⟨w, hw, heq⟩
            rw [heq, carriesNothing_sorted]
            exact h (m.fst, w) hw
        rw [load_eq, load_eq, fields.read_sorted hv]
        exact if_congr hretired rfl rfl
    | array items => rw [Json.sorted_array]
    | null => rfl
    | bool b => rfl
    | int n => rfl
    | float x => rfl
    | str s => rfl

end Load

/-!
With {lit}`extra="allow"` the members the model does not know are kept as they
are, next to the fields; their keys have to be Unicode texts.
-/

abbrev Extras (names : List String) :=
  { d : Dict PyStr Json.FreeForm //
    forall k, k ∈ d.keys -> modelled names k = false ∧ Encodable k }

/-- The members that bear no name of a field. -/
def others (names : List String) (members : Members) : Members :=
  members.filter fun m => !modelled names m.fst

def extraDict (names : List String) (members : Members) :
    Dict PyStr Json.FreeForm :=
  Dict.ofList ((others names members).map fun m => (m.fst, Json.free m.snd))

def UnicodeExtras (names : List String) (members : Members) : Prop :=
  forall k, k ∈ members.keys -> modelled names k = false -> Encodable k

instance (names : List String) (members : Members) :
    Decidable (UnicodeExtras names members) :=
  inferInstanceAs (Decidable (forall k, k ∈ members.keys -> _))

theorem keys_extraDict {names : List String} {members : Members}
    (h : UnicodeExtras names members) (k : PyStr)
    (hk : k ∈ (extraDict names members).keys) :
    modelled names k = false ∧ Encodable k := by
  rcases List.mem_map.mp hk with ⟨e, he, heq⟩
  rcases List.mem_map.mp (Dict.mem_of_mem_ofList he) with ⟨m, hm, hme⟩
  rcases List.mem_filter.mp hm with ⟨hmem, hunknown⟩
  rw [← heq, ← hme]
  have hunknown : modelled names m.fst = false := by simpa using hunknown
  exact ⟨hunknown, h m.fst (List.mem_map_of_mem hmem) hunknown⟩

def extrasOf (names : List String) (members : Members) : Option (Extras names) :=
  if h : UnicodeExtras names members then
    some ⟨extraDict names members, keys_extraDict h⟩
  else none

theorem extrasOf_eq {names : List String} {ms ns : Members}
    (hdict : extraDict names ns = extraDict names ms)
    (hkeys : UnicodeExtras names ns <-> UnicodeExtras names ms) :
    extrasOf names ns = extrasOf names ms := by
  unfold extrasOf
  by_cases h : UnicodeExtras names ms
  · rw [dif_pos h, dif_pos (hkeys.mpr h)]
    exact congrArg some (Subtype.ext hdict)
  · rw [dif_neg h, dif_neg (mt hkeys.mp h)]

theorem lookup_others {names : List String} {members : Members} (k : PyStr) :
    (others names members).lookup k =
      if modelled names k = true then none else members.lookup k := by
  have hkept := members.lookup_filter (fun l => !modelled names l) k
  unfold others
  rw [hkept]
  cases modelled names k with
  | true => rfl
  | false => rfl

theorem lookup_extraDict {names : List String} {members : Members}
    (h : members.keys.Nodup) (k : PyStr) :
    (extraDict names members).lookup k =
      if modelled names k = true then none
      else (members.lookup k).map Json.free := by
  have hkeys : ((others names members).map Prod.fst).Nodup :=
    (List.filter_sublist.map Prod.fst).nodup h
  have hkeys' : (((others names members).map fun m =>
      (m.fst, Json.free m.snd)).map Prod.fst).Nodup := by
    rw [Json.keys_map_snd]
    exact hkeys
  apply (Dict.lookup_ofList hkeys' k).trans
  rw [Json.lookup_map_snd, lookup_others]
  split
  · rfl
  · rfl

/-- The extra members depend on what the unknown keys hold, up to the order of its
members. -/
theorem extrasOf_congr {names : List String} {ms ns : Members}
    (hms : ms.keys.Nodup) (hns : ns.keys.Nodup)
    (h : forall k, modelled names k = false ->
      (ns.lookup k).map Json.free = (ms.lookup k).map Json.free) :
    extrasOf names ns = extrasOf names ms := by
  have hmem : forall k, modelled names k = false ->
      (k ∈ ns.keys <-> k ∈ ms.keys) := by
    intro k hk
    have hkey : forall members : Members,
        k ∈ members.keys <-> (members.lookup k).isSome = true := by
      intro members
      simp [Members.keys, List.lookup_isSome_iff]
    have hfound := congrArg Option.isSome (h k hk)
    rw [Option.isSome_map, Option.isSome_map] at hfound
    rw [hkey, hkey, hfound]
  apply extrasOf_eq
  · apply Dict.ext_lookup
    intro k
    rw [lookup_extraDict hms, lookup_extraDict hns]
    split
    · rfl
    · rename_i hk
      exact h k (Bool.eq_false_iff.mpr hk)
  · constructor
    · intro hall k hkey hk
      exact hall k ((hmem k hk).mpr hkey) hk
    · intro hall k hkey hk
      exact hall k ((hmem k hk).mp hkey) hk

theorem extrasOf_sorted {names : List String} {members : Members}
    (h : (Json.object members).IsJson) :
    extrasOf names (Json.sortedDict members).entries =
      extrasOf names members := by
  apply extrasOf_congr h.keys_nodup (Json.sortedDict members).keys_nodup
  intro k _
  have hfound := Json.lookup_sortedDict h.keys_nodup k
  unfold Dict.lookup at hfound
  have hfree : Json.free ∘ Json.sorted = Json.free := by
    funext v
    exact Subtype.ext (Json.sorted_sorted v)
  rw [hfound, Option.map_map, hfree]

/-- The extra members as they are dumped. -/
def extraMembers (L : Lax) {names : List String} (mode : DumpMode)
    (extras : Extras names) : Members :=
  (extras.val.entries.filter fun e => mode.keeps e.snd.val).map fun e =>
    (e.fst, L.json.untyped e.snd.val)

section Extras

variable {L : Lax} {names : List String} {mode : DumpMode}
variable {extras : Extras names} {k : PyStr} {v : Json}

theorem unknown_extraMembers (h : (k, v) ∈ extraMembers L mode extras) :
    modelled names k = false := by
  rcases List.mem_map.mp h with ⟨e, he, heq⟩
  have hkey : e.fst = k := congrArg Prod.fst heq
  rw [← hkey]
  exact (extras.property e.fst
    (List.mem_map_of_mem (List.mem_filter.mp he).left)).left

/-- A value that is dumped unchanged. -/
def KeptExtra (mode : DumpMode) (v : Json) : Prop :=
  (v.IsJson ∧ EncodableKeys v) ∧ mode.keeps v = true

/-- Extra members that are dumped unchanged. -/
theorem extraMembers_eq (h : forall k v, (k, v) ∈ extras.val.entries ->
      KeptExtra mode v.val) :
    extraMembers L mode extras =
      extras.val.entries.map fun e => (e.fst, e.snd.val) := by
  unfold extraMembers
  rw [List.filter_eq_self.mpr fun e he => (h e.fst e.snd he).right]
  apply List.map_congr_left
  intro e he
  have hkept := (h e.fst e.snd he).left
  rw [L.json.untyped_eq _ hkept.left hkept.right]

theorem others_extraMembers :
    others names (extraMembers L mode extras) = extraMembers L mode extras := by
  apply List.filter_eq_self.mpr
  intro m hm
  rw [unknown_extraMembers (show (m.fst, m.snd) ∈ _ from hm)]
  rfl

theorem others_members (fields : Fields α) (mode : DumpMode) (a : α) :
    others fields.names (fields.members mode a) = [] := by
  apply List.filter_eq_nil_iff.mpr
  intro m hm
  rw [fields.modelled_of_mem (List.mem_map_of_mem hm)]
  exact Bool.false_ne_true

theorem get_extraMembers {name : String} (h : name ∈ names) :
    (extraMembers L mode extras).get name = none := by
  cases hget : (extraMembers L mode extras).get name with
  | none => rfl
  | some v =>
      have hknown : modelled names (str name) = true :=
        modelled_iff.mpr ⟨name, h, rfl⟩
      rw [unknown_extraMembers (mem_of_lookup_eq hget)] at hknown
      cases hknown

end Extras

variable (fields : Fields α)

theorem extrasOf_dump {L : Lax} {mode : DumpMode} {a : α}
    {extras : Extras fields.names}
    (h : forall k v, (k, v) ∈ extras.val.entries -> KeptExtra mode v.val) :
    extrasOf fields.names
        (fields.members mode a ++ extraMembers L mode extras) = some extras := by
  have hothers : others fields.names (fields.members mode a ++
      extraMembers L mode extras) = extraMembers L mode extras := by
    unfold others
    rw [List.filter_append]
    exact (congrArg₂ _ (others_members fields mode a)
      others_extraMembers).trans (List.nil_append _)
  have hdict : extraDict fields.names (fields.members mode a ++
      extraMembers L mode extras) = extras.val := by
    unfold extraDict
    rw [hothers, extraMembers_eq h, List.map_map]
    apply (congrArg Dict.ofList _).trans (Dict.ofList_entries extras.val)
    apply (List.map_congr_left _).trans (List.map_id _)
    intro e _
    exact Prod.ext rfl (Json.free_val e.snd)
  have hunicode : UnicodeExtras fields.names (fields.members mode a ++
      extraMembers L mode extras) := by
    intro k hkey hk
    unfold Members.keys at hkey
    rw [List.map_append] at hkey
    rcases List.mem_append.mp hkey with hmem | hmem
    · rw [fields.modelled_of_mem hmem] at hk
      cases hk
    · rw [extraMembers_eq h, List.map_map] at hmem
      exact (extras.property k hmem).right
  unfold extrasOf
  rw [dif_pos hunicode]
  exact congrArg some (Subtype.ext hdict)

def openDocument (L : Lax) : Codec (α × Extras fields.names) where
  dump mode a :=
    .object (fields.members mode a.fst ++ extraMembers L mode a.snd)
  validate
    | .object members => do
        let a ← fields.read members
        let extras ← extrasOf fields.names members
        some (a, extras)
    | _ => none
  Kept mode a := fields.Kept mode a.fst ∧
    forall k v, (k, v) ∈ a.snd.val.entries -> KeptExtra mode v.val
  validate_dump mode a h := by
    have hread : fields.read (fields.members mode a.fst ++
        extraMembers L mode a.snd) = some a.fst := by
      rw [← fields.read_members mode a.fst h.left]
      apply fields.read_congr_get
      intro name hname
      rw [Members.get_append, get_extraMembers hname, Option.or_none]
    dsimp only
    rw [hread, fields.extrasOf_dump h.right]
    rfl
  isJson_dump mode a h := by
    apply Json.isJson_object
    · unfold Members.keys
      rw [List.map_append, extraMembers_eq h.right, List.map_map]
      apply List.nodup_append.mpr
      refine ⟨fields.keys_nodup mode a.fst, a.snd.val.keys_nodup, ?_⟩
      intro k hk l hl heq
      have hknown := fields.modelled_of_mem hk
      rw [heq, (a.snd.property l hl).left] at hknown
      cases hknown
    · intro k v hv
      rcases List.mem_append.mp hv with hv | hv
      · exact fields.isJson_members mode a.fst h.left k v hv
      · rw [extraMembers_eq h.right] at hv
        rcases List.mem_map.mp hv with ⟨e, he, heq⟩
        cases heq
        exact (h.right e.fst e.snd he).left.left
  validate_sorted v hv := by
    cases v with
    | object members =>
        rw [Json.sorted_object]
        dsimp only
        rw [fields.read_sorted hv, extrasOf_sorted hv]
    | array items => rw [Json.sorted_array]
    | null => rfl
    | bool b => rfl
    | int n => rfl
    | float x => rfl
    | str s => rfl

end Fields

end Pydantic
end EidolonSdk
