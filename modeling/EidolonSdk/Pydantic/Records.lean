import Mathlib.Data.List.Dedup
import EidolonSdk.Pydantic.Documents
import EidolonSdk.Pydantic.Wire

/-!
# Closed models

A closed model allows no members but its fields.  It is put together from single
fields, a check that runs before them and a check that runs after them, and what
it dumps is what it reads.
-/

namespace EidolonSdk
namespace Pydantic

open Python

/-- A validator of a model that only refuses: nothing, or the text of its error. -/
abbrev Verdict := Except PyStr Unit

def refuse (message : String) : Verdict :=
  .error (str message)

theorem ite_refuse_eq_ok {p : Prop} [Decidable p] {message : String}
    {rest : Verdict} {u : Unit} :
    (if p then refuse message else rest) = .ok u <-> ¬ p ∧ rest = .ok u := by
  split
  · rename_i h
    exact iff_of_false nofun fun hrest => hrest.left h
  · rename_i h
    exact (and_iff_right h).symm

structure Record (α : Type) where
  names : List String
  members : α -> Members
  read : Members -> Validated α
  keys_members : forall a, (members a).keys = names.map str
  read_members : forall a, read (members a) = .ok a
  read_congr : forall ms ns : Members,
    (forall name, name ∈ names -> ms.get name = ns.get name) -> read ms = read ns

namespace Record

variable {α β : Type}

/-- A required field. -/
def field (name : String) (wire : Wire α) : Record α where
  names := [name]
  members a := [(str name, wire.dump a)]
  read members := required members name wire.validate
  keys_members _ := rfl
  read_members a := by
    unfold required
    rw [Members.get_cons, if_pos rfl]
    exact wire.validate_dump a
  read_congr ms ns h := by
    unfold required
    rw [h name List.mem_cons_self]

/-- A field with a default. -/
def defaulted (name : String) (wire : Wire α) (default : α) : Record α where
  names := [name]
  members a := [(str name, wire.dump a)]
  read members := withDefault members name default wire.validate
  keys_members _ := rfl
  read_members a := by
    unfold withDefault
    rw [Members.get_cons, if_pos rfl]
    exact wire.validate_dump a
  read_congr ms ns h := by
    unfold withDefault
    rw [h name List.mem_cons_self]

theorem get_eq_none {ms : Members} {names : List String} {name : String}
    (hkeys : ms.keys = names.map str) (h : name ∉ names) : ms.get name = none :=
  Fields.get_eq_none (hkeys ▸ List.Sublist.refl _) h

/-- Fields of different names, one after the other. -/
def and (first : Record α) (second : Record β)
    (hnames : distinct first.names second.names = true := by
      exact distinct_of_eval rfl) : Record (α × β) where
  names := first.names ++ second.names
  members a := first.members a.fst ++ second.members a.snd
  read members := (first.read members).both (second.read members)
  keys_members a := by
    have hfirst := first.keys_members a.fst
    have hsecond := second.keys_members a.snd
    unfold Members.keys at hfirst hsecond ⊢
    rw [List.map_append, hfirst, hsecond, List.map_append]
  read_members a := by
    have hfirst : first.read (first.members a.fst ++ second.members a.snd) =
        .ok a.fst := by
      rw [← first.read_members a.fst]
      apply first.read_congr
      intro name hname
      rw [Members.get_append,
        get_eq_none (second.keys_members a.snd) (not_mem_of_distinct hnames hname),
        Option.or_none]
    have hsecond : second.read (first.members a.fst ++ second.members a.snd) =
        .ok a.snd := by
      rw [← second.read_members a.snd]
      apply second.read_congr
      intro name hname
      have hother : name ∉ first.names :=
        fun h => not_mem_of_distinct hnames h hname
      rw [Members.get_append, get_eq_none (first.keys_members a.fst) hother,
        Option.none_or]
    rw [hfirst, hsecond]
    rfl
  read_congr ms ns h := by
    rw [first.read_congr ms ns fun name hname => h name (List.mem_append_left _ hname),
      second.read_congr ms ns fun name hname =>
        h name (List.mem_append_right _ hname)]

/-- The same fields, read into another type. -/
def map (record : Record α) (make : α -> β) (parts : β -> α)
    (hmake : forall b, make (parts b) = b) : Record β where
  names := record.names
  members b := record.members (parts b)
  read members := (record.read members).map make
  keys_members b := record.keys_members (parts b)
  read_members b := by
    rw [record.read_members (parts b)]
    exact congrArg Except.ok (hmake b)
  read_congr ms ns h := by rw [record.read_congr ms ns h]

/-- A model validator after the fields. -/
def after (record : Record α) (check : α -> Verdict) :
    Record { a : α // check a = .ok () } where
  names := record.names
  members a := record.members a.val
  read members := do
    let a ← record.read members
    if h : check a = .ok () then .ok ⟨a, h⟩ else .error .invalid
  keys_members a := record.keys_members a.val
  read_members a := by
    rw [record.read_members a.val]
    exact dif_pos a.property
  read_congr ms ns h := by rw [record.read_congr ms ns h]

/-- A model validator before the fields; it looks at one of them. -/
def before (record : Record α) (name : String) (check : Json -> Bool)
    (hname : name ∈ record.names)
    (hdump : forall a v, (record.members a).get name = some v -> check v = true) :
    Record α where
  names := record.names
  members := record.members
  read members :=
    if (members.get name).all check then record.read members else .error .invalid
  keys_members := record.keys_members
  read_members a := by
    have hall : (Members.get (record.members a) name).all check = true := by
      cases hget : Members.get (record.members a) name with
      | none => rfl
      | some v => exact hdump a v hget
    rw [if_pos hall]
    exact record.read_members a
  read_congr ms ns h := by
    rw [h name hname, record.read_congr ms ns h]

/-- `extra="forbid"`, then the fields. -/
def validate (record : Record α) : Validator α :=
  validModel fun members =>
    ((onlyMembers members record.names).both (record.read members)).map Prod.snd

theorem validate_eq_ok {record : Record α} {v : Json} {a : α} :
    record.validate v = .ok a <->
      exists members, v = .object members ∧
        Members.keys members ⊆ record.names.map str ∧ record.read members = .ok a := by
  unfold validate
  rw [validModel_eq_ok]
  refine exists_congr fun members => and_congr_right fun _ => ?_
  rw [Validated.map_eq_ok]
  constructor
  · intro h
    rcases h with ⟨⟨u, b⟩, hboth, rfl⟩
    rcases Validated.both_eq_ok.mp hboth with ⟨honly, hread⟩
    exact ⟨onlyMembers_eq_ok.mp honly, hread⟩
  · intro h
    rcases h with ⟨honly, hread⟩
    exact ⟨((), a), Validated.both_eq_ok.mpr ⟨onlyMembers_eq_ok.mpr honly, hread⟩, rfl⟩

def dump (record : Record α) (a : α) : Json :=
  .object (record.members a)

theorem validate_dump (record : Record α) (a : α) :
    record.validate (record.dump a) = .ok a := by
  refine validate_eq_ok.mpr ⟨record.members a, rfl, ?_, record.read_members a⟩
  rw [record.keys_members]
  exact List.Subset.refl _

theorem onlyMembers_members (record : Record α) (a : α) :
    onlyMembers (record.members a) record.names = .ok () := by
  rw [onlyMembers_eq_ok, record.keys_members]
  exact List.Subset.refl _

theorem validate_map (record : Record α) (make : α -> β) (parts : β -> α)
    (hmake : forall b, make (parts b) = b) (v : Json) :
    (record.map make parts hmake).validate v = (record.validate v).map make := by
  cases v with
  | object members =>
      show ((onlyMembers members record.names).both
          ((record.read members).map make)).map Prod.snd =
        (((onlyMembers members record.names).both (record.read members)).map
          Prod.snd).map make
      cases onlyMembers members record.names with
      | ok u =>
          cases record.read members with
          | ok a => rfl
          | error fault => rfl
      | error fault =>
          cases fault with
          | raised e => rfl
          | invalid =>
              cases record.read members with
              | ok a => rfl
              | error fault =>
                  cases fault with
                  | raised e => rfl
                  | invalid => rfl
  | null => rfl
  | bool b => rfl
  | int n => rfl
  | float x => rfl
  | str s => rfl
  | array items => rfl

/-- The check decides about the documents of the fields. -/
theorem validate_after_dump (record : Record α) (check : α -> Verdict) (a : α) :
    (record.after check).validate (record.dump a) =
      if h : check a = .ok () then .ok ⟨a, h⟩ else .error .invalid := by
  have hread : (record.after check).read (record.members a) =
      if h : check a = .ok () then .ok ⟨a, h⟩ else .error .invalid := by
    show (record.read (record.members a) >>= _) = _
    rw [record.read_members]
    rfl
  show ((onlyMembers (record.members a) record.names).both
    ((record.after check).read (record.members a))).map Prod.snd = _
  rw [record.onlyMembers_members, hread]
  split
  · rfl
  · rfl

/-- A model reads the document of some fields exactly when its check lets them pass,
and what it reads has this document. -/
theorem document_iff (record : Record α) (check : α -> Verdict)
    (make : { a : α // check a = .ok () } -> β) (parts : β -> { a : α // check a = .ok () })
    (hmake : forall b, make (parts b) = b) (hparts : forall a, parts (make a) = a)
    (a : α) :
    ((exists b, ((record.after check).map make parts hmake).validate (record.dump a) =
        .ok b) <-> check a = .ok ()) ∧
      forall b, ((record.after check).map make parts hmake).validate (record.dump a) =
          .ok b ->
        ((record.after check).map make parts hmake).dump b = record.dump a := by
  rw [validate_map, validate_after_dump]
  by_cases hvalid : check a = .ok ()
  · rw [dif_pos hvalid]
    refine ⟨iff_of_true ⟨_, rfl⟩ hvalid, fun b hb => ?_⟩
    rw [← Except.ok.inj hb]
    show record.dump (parts (make ⟨a, hvalid⟩)).val = _
    rw [hparts]
  · rw [dif_neg hvalid]
    exact ⟨iff_of_false nofun hvalid, nofun⟩

/-- The wire form of the model. -/
def wire (record : Record α) : Wire α where
  dump := record.dump
  validate := record.validate
  validate_dump := record.validate_dump

/-- An optional model. -/
def nullable (record : Record α) : Wire (Option α) :=
  record.wire.nullable fun _ => rfl

end Record

/-!
## Fields with bounds
-/

/-- `Field(strict=True, ge=least, le=most)` of an integer. -/
def Wire.range (least most : Int) : Wire { n : Int // least ≤ n ∧ n ≤ most } where
  dump n := .int n.val
  validate
    | .int n => if h : least ≤ n ∧ n ≤ most then .ok ⟨n, h⟩ else .error .invalid
    | _ => .error .invalid
  validate_dump n := dif_pos n.property

/-- A `Literal` with one integer. -/
def Wire.version (n : Int) : Wire Unit where
  dump _ := .int n
  validate
    | .int m => if m = n then .ok () else .error .invalid
    | _ => .error .invalid
  validate_dump _ := if_pos rfl

/-- {lit}`type(value) is int`. -/
def isInt : Json -> Bool
  | .int _ => true
  | _ => false

/-- A version in front is looked at before any field is. -/
theorem isInt_version {n : Int} {ms : Members} {v : Json}
    (h : Members.get ((str "schema_version", .int n) :: ms) "schema_version" = some v) :
    isInt v = true := by
  rw [Members.get_cons, if_pos rfl] at h
  rw [← Option.some.inj h]
  rfl

/-- {lit}`Field(strict=True, max_length=most)` of a string. -/
def upTo (most : Nat) : StrRule :=
  { maxLength := some most }

theorem upTo_nil (most : Nat) : (upTo most).Accepts [] :=
  ⟨nofun, Nat.zero_le 0, rfl, rfl⟩

def noText (most : Nat) : ConStr (upTo most) :=
  ⟨[], upTo_nil most⟩

/-- {lit}`Field(max_length=most)` of a tuple. -/
def atMost (most : Nat) : LengthRule :=
  { most := some most }

theorem atMost_nil {α : Type} (most : Nat) :
    (atMost most).Accepts ([] : List α) :=
  ⟨Nat.zero_le 0, rfl⟩

def noItems (α : Type) (most : Nat) : Tuple (atMost most) α :=
  ⟨[], atMost_nil most⟩

/-- {lit}`len(set(values)) != len(values)`. -/
def hasDuplicates {α : Type} [DecidableEq α] (values : List α) : Prop :=
  values.dedup.length ≠ values.length

instance {α : Type} [DecidableEq α] (values : List α) :
    Decidable (hasDuplicates values) :=
  inferInstanceAs (Decidable (_ ≠ _))

theorem not_hasDuplicates {α : Type} [DecidableEq α] {values : List α} :
    ¬ hasDuplicates values <-> values.Nodup := by
  unfold hasDuplicates
  rw [not_not]
  constructor
  · intro h
    rw [← (List.dedup_sublist values).eq_of_length h]
    exact List.nodup_dedup values
  · intro h
    rw [h.dedup]

end Pydantic
end EidolonSdk
