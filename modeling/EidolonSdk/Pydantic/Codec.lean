import EidolonSdk.Pydantic.JsonMode
import EidolonSdk.Pydantic.OffsetTimestamp

/-!
# Values of fields

How the values of fields are dumped to JSON and read back with pydantic's lax
rules.  A codec carries the laws that make a document faithful: what is dumped
is JSON, is read back as the value it came from, and is read the same in
whatever order the members of objects stand.

A value survives its dump only as far as its free-form parts are JSON and its keys
are Unicode texts, and in a dump without {lit}`None` only where no free-form member
is {lit}`None`; the values that do are those the codec keeps.
-/

namespace EidolonSdk
namespace Pydantic

open Python Logic

/-- `model_dump(mode="json")`, with or without `exclude_none=True`. -/
inductive DumpMode where
  | full
  | excludeNone
  deriving DecidableEq

/-- Whether a member with this value is dumped. -/
def DumpMode.keeps : DumpMode -> Json -> Bool
  | .excludeNone, .null => false
  | _, _ => true

/-- The rules of pydantic that lie outside the repository: how a scalar that is
not of the type of its field is converted, how a date is written, and what JSON
mode makes of keys and of a value without a type. -/
structure Lax where
  boolean : Json -> Option Bool
  boolean_bool : forall b, boolean (.bool b) = some b
  number : Json -> Option Double
  number_float : forall x, number (.float x) = some x
  moment : Json -> Option Datetime
  timestamp : Datetime -> PyStr
  moment_timestamp : forall d, WholeMinutes d ->
    moment (.str (timestamp d)) = some d
  json : JsonMode

open Classical in
/-- Rules that convert nothing. -/
noncomputable def Lax.plain : Lax where
  boolean
    | .bool b => some b
    | _ => none
  boolean_bool _ := rfl
  number
    | .float x => some x
    | _ => none
  number_float _ := rfl
  moment v :=
    if h : exists d, WholeMinutes d ∧ v = .str (isoTimestamp d) then some h.choose
    else none
  timestamp := isoTimestamp
  moment_timestamp d hd := by
    have hsome : exists e, WholeMinutes e ∧
        Json.str (isoTimestamp d) = .str (isoTimestamp e) := ⟨d, hd, rfl⟩
    have heq := isoTimestamp_inj hd hsome.choose_spec.left
      (Json.str.inj hsome.choose_spec.right)
    rw [dif_pos hsome, ← heq]
  json := .lossy

/-- The value lies between 0 and 1, both included. -/
def InUnit : Double -> Prop
  | .finite negative magnitude _ =>
      (negative = true -> magnitude = 0) ∧ magnitude ≤ doubleOne
  | _ => False

instance : DecidablePred InUnit := fun x =>
  match x with
  | .finite _ _ _ => inferInstanceAs (Decidable (_ ∧ _))
  | .infinite _ => isFalse id
  | .nan => isFalse id

abbrev UnitFloat := { x : Double // InUnit x }

/-- The value in units of the least subnormal. -/
def UnitFloat.scaled (x : UnitFloat) : Int :=
  x.val.scaled?.getD 0

theorem UnitFloat.scaled_bounds (x : UnitFloat) :
    0 ≤ x.scaled ∧ x.scaled ≤ doubleOne := by
  rcases x with ⟨x, h⟩
  cases x with
  | finite negative magnitude representable =>
      rcases h with ⟨hnegative, hle⟩
      cases negative with
      | false =>
          show (0 : Int) ≤ (magnitude : Int) ∧ (magnitude : Int) ≤ (doubleOne : Int)
          exact ⟨Int.natCast_nonneg magnitude, Int.ofNat_le.mpr hle⟩
      | true =>
          show (0 : Int) ≤ -(magnitude : Int) ∧ -(magnitude : Int) ≤ (doubleOne : Int)
          have hzero : -((0 : Nat) : Int) = 0 := rfl
          rw [hnegative rfl, hzero]
          exact ⟨le_refl 0, Int.natCast_nonneg doubleOne⟩
  | infinite negative => cases h
  | nan => cases h

structure Codec (α : Type) where
  dump : DumpMode -> α -> Json
  validate : Json -> Option α
  Kept : DumpMode -> α -> Prop
  validate_dump : forall mode a, Kept mode a -> validate (dump mode a) = some a
  isJson_dump : forall mode a, Kept mode a -> (dump mode a).IsJson
  validate_sorted : forall v : Json, v.IsJson -> validate v.sorted = validate v

namespace Codec

variable {α : Type}

/-- What codecs do not tell apart: a value and its sorted form. -/
inductive SameForm : Json -> Json -> Prop where
  | refl (v : Json) : SameForm v v
  | sorted {v : Json} : v.IsJson -> SameForm v v.sorted

theorem validate_sameForm (codec : Codec α) {v w : Json} (h : SameForm v w) :
    codec.validate w = codec.validate v := by
  cases h with
  | refl => rfl
  | sorted hv => exact codec.validate_sorted v hv

theorem validate_reordered (codec : Codec α) {v w : Json} (hv : v.IsJson)
    (h : Json.Reordered v w) : codec.validate w = codec.validate v := by
  rcases h.sorted hv with ⟨hw, hsorted⟩
  rw [← codec.validate_sorted v hv, ← codec.validate_sorted w hw, hsorted]

/-!
## Scalars
-/

def isScalar : Json -> Bool
  | .array _ => false
  | .object _ => false
  | _ => true

theorem sorted_of_isScalar {v : Json} (h : isScalar v = true) : v.sorted = v := by
  cases v with
  | array items => cases h
  | object members => cases h
  | null => rfl
  | bool b => rfl
  | int n => rfl
  | float x => rfl
  | str s => rfl

theorem isScalar_sorted (v : Json) : isScalar v.sorted = isScalar v := by
  cases v with
  | array items => rw [Json.sorted_array]; rfl
  | object members => rw [Json.sorted_object]; rfl
  | null => rfl
  | bool b => rfl
  | int n => rfl
  | float x => rfl
  | str s => rfl

/-- No container is taken for a scalar. -/
def scalarOf (kept : α -> Prop) (dump : α -> Json) (read : Json -> Option α)
    (hread : forall a, kept a -> read (dump a) = some a)
    (hscalar : forall a, isScalar (dump a) = true)
    (hjson : forall a, (dump a).IsJson) : Codec α where
  dump _ a := dump a
  validate v := if isScalar v then read v else none
  Kept _ a := kept a
  validate_dump _ a h := by rw [if_pos (hscalar a), hread a h]
  isJson_dump _ a _ := hjson a
  validate_sorted v _ := by
    rw [isScalar_sorted]
    split
    · rename_i h
      rw [sorted_of_isScalar h]
    · rfl

/-- Scalars of which every one is read again. -/
def scalar (dump : α -> Json) (read : Json -> Option α)
    (hread : forall a, read (dump a) = some a)
    (hscalar : forall a, isScalar (dump a) = true)
    (hjson : forall a, (dump a).IsJson) : Codec α :=
  scalarOf (fun _ => True) dump read (fun a _ => hread a) hscalar hjson

/-- `str`. -/
def text : Codec PyStr :=
  scalar .str
    (fun
      | .str s => some s
      | _ => none)
    (fun _ => rfl) (fun _ => rfl) (fun _ => rfl)

theorem text_ne_null (mode : DumpMode) (s : PyStr) : text.dump mode s ≠ .null :=
  fun h => Json.noConfusion h

/-- `str` with constraints. -/
def constrained (rule : StrRule) : Codec (ConStr rule) :=
  scalar (fun s => .str s.val) (fun v => (validStr rule v).toOption)
    (fun s => by rw [validStr_val]; rfl) (fun _ => rfl) (fun _ => rfl)

theorem constrained_ne_null {rule : StrRule} (mode : DumpMode)
    (s : ConStr rule) : (constrained rule).dump mode s ≠ .null :=
  fun h => Json.noConfusion h

/-- A `Literal` of strings. -/
def literal (all : List α) (spell : α -> String)
    (hfind : forall a, all.find? (fun b => spell b == spell a) = some a) :
    Codec α :=
  scalar (fun a => .str (str (spell a)))
    (fun
      | .str s => all.find? fun a => str (spell a) == s
      | _ => none)
    (fun a => by
      rw [← hfind a]
      apply congrArg (fun p => all.find? p)
      funext b
      rw [Bool.eq_iff_iff, beq_iff_eq, beq_iff_eq, str_inj])
    (fun _ => rfl) (fun _ => rfl)

section Converted

variable (L : Lax)

/-- `bool`. -/
def boolean : Codec Bool :=
  scalar .bool L.boolean L.boolean_bool (fun _ => rfl) (fun _ => rfl)

/-- `Field(ge=0.0, le=1.0)`. -/
def unitFloat : Codec UnitFloat :=
  scalar (fun x => .float x.val)
    (fun v => do
      let x ← L.number v
      if h : InUnit x then some ⟨x, h⟩ else none)
    (fun x => by
      rw [L.number_float]
      exact dif_pos x.property)
    (fun _ => rfl)
    (fun x => by
      rcases x with ⟨x, h⟩
      cases x with
      | finite negative magnitude representable => rfl
      | infinite negative => cases h
      | nan => cases h)

/-- `datetime`. -/
def moment : Codec Datetime :=
  scalarOf WholeMinutes (fun d => .str (L.timestamp d)) L.moment
    L.moment_timestamp (fun _ => rfl) (fun _ => rfl)

theorem moment_ne_null {L : Lax} (mode : DumpMode) (m : Datetime) :
    (moment L).dump mode m ≠ .null :=
  fun h => Json.noConfusion h

end Converted

/-!
## Containers
-/

section Containers

variable {β : Type}

theorem mapM_eq_some {f : α -> Option β} {as : List α} {bs : List β} :
    as.mapM f = some bs <-> List.Forall₂ (fun a b => f a = some b) as bs := by
  induction as generalizing bs with
  | nil => simp [eq_comm]
  | cons a rest ih =>
      rw [List.mapM_cons]
      constructor
      · intro h
        rcases Option.bind_eq_some_iff.mp h with ⟨b, hb, h⟩
        rcases Option.bind_eq_some_iff.mp h with ⟨others, hothers, h⟩
        rw [← Option.some.inj h]
        exact List.Forall₂.cons hb (ih.mp hothers)
      · intro h
        cases h with
        | cons hb hothers =>
            rw [hb, ih.mpr hothers]
            rfl

theorem mapM_isSome {f : α -> Option β} {as : List α}
    (h : forall a, a ∈ as -> exists b, f a = some b) :
    exists bs, as.mapM f = some bs := by
  induction as with
  | nil => exact ⟨[], rfl⟩
  | cons a rest ih =>
      rcases h a List.mem_cons_self with ⟨b, hb⟩
      rcases ih fun c hc => h c (List.mem_cons_of_mem a hc) with ⟨bs, hbs⟩
      refine ⟨b :: bs, ?_⟩
      rw [List.mapM_cons, hb, hbs]
      rfl

variable (codec : Codec α)

/-- `list[...]`. -/
def list : Codec (List α) where
  dump mode as := .array (as.map (codec.dump mode))
  validate
    | .array items => items.mapM codec.validate
    | _ => none
  Kept mode as := forall a, a ∈ as -> codec.Kept mode a
  validate_dump mode as h := by
    apply mapM_eq_some.mpr
    apply List.forall₂_map_left_iff.mpr
    apply List.forall₂_same.mpr
    intro a ha
    exact codec.validate_dump mode a (h a ha)
  isJson_dump mode as h := by
    apply Json.isJson_array
    intro v hv
    rcases List.mem_map.mp hv with ⟨a, ha, heq⟩
    rw [← heq]
    exact codec.isJson_dump mode a (h a ha)
  validate_sorted v hv := by
    cases v with
    | array items =>
        rw [Json.sorted_array]
        show (items.map Json.sorted).mapM codec.validate = _
        have hitems : forall as : List Json, (forall v, v ∈ as -> v.IsJson) ->
            (as.map Json.sorted).mapM codec.validate =
              as.mapM codec.validate := by
          intro as
          induction as with
          | nil => exact fun _ => rfl
          | cons a rest ih =>
              intro h
              rw [List.map_cons, List.mapM_cons, List.mapM_cons,
                codec.validate_sorted a (h a List.mem_cons_self),
                ih fun b hb => h b (List.mem_cons_of_mem a hb)]
        exact hitems items fun v hv' => hv.item hv'
    | object members => rw [Json.sorted_object]
    | null => rfl
    | bool b => rfl
    | int n => rfl
    | float x => rfl
    | str s => rfl

/-- The entries of a dictionary, if every value is valid. -/
def entries (members : Members) : Option (List (PyStr × α)) :=
  members.mapM fun m => (codec.validate m.snd).map fun a => (m.fst, a)

section Entries

variable {codec} {members : Members} {es : List (PyStr × α)}

theorem entries_forall₂ (h : codec.entries members = some es) :
    List.Forall₂ (fun (m : PyStr × Json) e =>
      m.fst = e.fst ∧ codec.validate m.snd = some e.snd) members es := by
  apply (mapM_eq_some.mp h).imp
  intro m e hme
  rcases Option.map_eq_some_iff.mp hme with ⟨a, ha, heq⟩
  rw [← heq]
  exact ⟨rfl, ha⟩

theorem keys_entries (h : codec.entries members = some es) :
    es.map Prod.fst = members.keys := by
  have hforall := entries_forall₂ h
  clear h
  unfold Members.keys
  induction hforall with
  | nil => rfl
  | cons hhead _ ih => rw [List.map_cons, List.map_cons, hhead.left, ih]

theorem lookup_entries (h : codec.entries members = some es) (k : PyStr) :
    es.lookup k = ((members.lookup k).map codec.validate).join := by
  have hforall := entries_forall₂ h
  clear h
  induction hforall with
  | nil => rfl
  | @cons m e _ _ hhead _ ih =>
      rcases m with ⟨l, v⟩
      rcases e with ⟨l', a⟩
      rcases hhead with ⟨hkey, hvalue⟩
      have hkey' : l = l' := hkey
      rw [List.lookup_cons, List.lookup_cons, hkey']
      cases hk : k == l' with
      | true => exact hvalue.symm
      | false => exact ih

/-- Entries are refused because of some value that is found in them. -/
theorem entries_eq_none (hkeys : members.keys.Nodup) :
    codec.entries members = none <->
      exists k, (members.lookup k).map codec.validate = some none := by
  constructor
  · intro h
    by_contra hall
    have hsome : exists es, codec.entries members = some es := by
      apply mapM_isSome
      intro m hm
      cases hvalue : codec.validate m.snd with
      | some a => exact ⟨(m.fst, a), rfl⟩
      | none =>
          apply absurd _ hall
          refine ⟨m.fst, ?_⟩
          rw [lookup_of_mem_nodup hkeys hm, Option.map_some, hvalue]
    rcases hsome with ⟨es, hes⟩
    rw [h] at hes
    cases hes
  · intro h
    rcases h with ⟨k, hk⟩
    cases hes : codec.entries members with
    | none => rfl
    | some es =>
        exfalso
        rcases Option.map_eq_some_iff.mp hk with ⟨v, hv, hvalue⟩
        have hmem : k ∈ es.map Prod.fst := by
          rw [keys_entries hes]
          exact List.mem_map_of_mem (mem_of_lookup_eq hv)
        rcases List.mem_map.mp hmem with ⟨e, he, hfst⟩
        have hnodup : (es.map Prod.fst).Nodup := by
          rw [keys_entries hes]
          exact hkeys
        have hfound := lookup_of_mem_nodup hnodup he
        rw [hfst, lookup_entries hes, hk] at hfound
        cases hfound

/-- What a dictionary is read from is what is found in it. -/
theorem entries_congr {members' : Members} (hkeys : members.keys.Nodup)
    (hkeys' : members'.keys.Nodup)
    (h : forall k, (members'.lookup k).map codec.validate =
      (members.lookup k).map codec.validate) :
    (codec.entries members').map Dict.ofList =
      (codec.entries members).map Dict.ofList := by
  have hnone : codec.entries members' = none <->
      codec.entries members = none := by
    rw [entries_eq_none hkeys, entries_eq_none hkeys']
    simp only [h]
  cases hes : codec.entries members with
  | none => rw [hnone.mpr hes]
  | some es =>
      cases hes' : codec.entries members' with
      | none =>
          rw [hnone.mp hes'] at hes
          cases hes
      | some es' =>
          apply congrArg some
          apply Dict.ext_lookup
          intro k
          rw [Dict.lookup_ofList (by rw [keys_entries hes']; exact hkeys'),
            Dict.lookup_ofList (by rw [keys_entries hes]; exact hkeys),
            lookup_entries hes, lookup_entries hes', h]

end Entries

/-- Entries that are dumped in their own way and read as this. -/
theorem entries_map (dump : β -> Json) (read : β -> α) {d : Dict PyStr β}
    (h : forall k b, (k, b) ∈ d.entries ->
      codec.validate (dump b) = some (read b)) :
    codec.entries (d.entries.map fun e => (e.fst, dump e.snd)) =
      some (d.map read).entries := by
  apply mapM_eq_some.mpr
  apply List.forall₂_map_left_iff.mpr
  apply List.forall₂_map_right_iff.mpr
  apply List.forall₂_same.mpr
  intro e he
  rw [h e.fst e.snd he]
  rfl

/-- The keys of a dictionary of codecs are kept if they are Unicode texts. -/
theorem typed_entries (json : JsonMode) (dump : β -> Json) (d : Dict PyStr β)
    (h : forall k b, (k, b) ∈ d.entries -> Encodable k) :
    json.typed (d.entries.map fun e => (e.fst, dump e.snd)) =
      d.entries.map fun e => (e.fst, dump e.snd) := by
  apply json.typed_eq
  · have hkeys := d.keys_nodup
    unfold Dict.keys at hkeys
    simp only [Members.keys, List.map_map]
    exact hkeys
  · intro m hm
    rcases List.mem_map.mp hm with ⟨e, he, heq⟩
    rw [← heq]
    exact h e.fst e.snd he

/-- `dict[str, ...]`. -/
def dict (json : JsonMode) : Codec (Dict PyStr α) where
  dump mode d :=
    .object (json.typed (d.entries.map fun e => (e.fst, codec.dump mode e.snd)))
  validate
    | .object members => (codec.entries members).map Dict.ofList
    | _ => none
  Kept mode d := forall k a, (k, a) ∈ d.entries -> Encodable k ∧ codec.Kept mode a
  validate_dump mode d h := by
    have hentries := codec.entries_map (codec.dump mode) id fun k a ha =>
      codec.validate_dump mode a (h k a ha).right
    show (codec.entries (json.typed _)).map Dict.ofList = some d
    rw [typed_entries json _ d fun k a ha => (h k a ha).left, hentries,
      Option.map_some, Dict.ofList_entries]
    exact congrArg some (Dict.ext (List.map_id d.entries))
  isJson_dump mode d h := by
    rw [typed_entries json _ d fun k a ha => (h k a ha).left]
    apply Json.isJson_object
    · have hkeys := d.keys_nodup
      unfold Dict.keys at hkeys
      simp only [Members.keys, List.map_map]
      exact hkeys
    · intro k v hv
      rcases List.mem_map.mp hv with ⟨e, he, heq⟩
      cases heq
      exact codec.isJson_dump mode e.snd (h e.fst e.snd he).right
  validate_sorted v hv := by
    cases v with
    | object members =>
        rw [Json.sorted_object]
        show (codec.entries (Json.sortedDict members).entries).map Dict.ofList =
          (codec.entries members).map Dict.ofList
        apply entries_congr hv.keys_nodup (Json.sortedDict members).keys_nodup
        intro k
        have hfound := Json.lookup_sortedDict hv.keys_nodup k
        unfold Dict.lookup at hfound
        rw [hfound]
        cases hk : members.lookup k with
        | none => rfl
        | some v => exact congrArg some (codec.validate_sorted v (hv.lookup hk))
    | array items => rw [Json.sorted_array]
    | null => rfl
    | bool b => rfl
    | int n => rfl
    | float x => rfl
    | str s => rfl

end Containers

/-- A value without a type. -/
def freeForm (L : Lax) : Codec Json.FreeForm where
  dump _ v := L.json.untyped v.val
  validate v := some (Json.free v)
  Kept _ v := v.val.IsJson ∧ EncodableKeys v.val
  validate_dump _ v h := by
    rw [L.json.untyped_eq v.val h.left h.right, Json.free_val]
  isJson_dump _ v h := by
    rw [L.json.untyped_eq v.val h.left h.right]
    exact h.left
  validate_sorted v _ := congrArg some (Subtype.ext (Json.sorted_sorted v))

/-- The same values in another type. -/
def map {β : Type} (codec : Codec α) (make : α -> β) (parts : β -> α)
    (hmake : forall b, make (parts b) = b) : Codec β where
  dump mode b := codec.dump mode (parts b)
  validate v := (codec.validate v).map make
  Kept mode b := codec.Kept mode (parts b)
  validate_dump mode b h := by
    rw [codec.validate_dump mode (parts b) h, Option.map_some, hmake]
  isJson_dump mode b h := codec.isJson_dump mode (parts b) h
  validate_sorted v h := by rw [codec.validate_sorted v h]

end Codec

end Pydantic
end EidolonSdk
