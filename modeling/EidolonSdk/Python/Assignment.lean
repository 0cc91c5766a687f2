import EidolonSdk.Logic.Dict
import EidolonSdk.Python.JsonValues

/-!
# Assigning members of nested objects

What {lit}`payload[section][key] = value` changes, once and over a list of
assignments to different places: the value at each of these places, and neither
another value nor the keys of any object.
-/

namespace EidolonSdk
namespace Python

open Logic

/-- `members[key] = value`; an existing key keeps its place. -/
def Members.assign (key : PyStr) (value : Json) : Members -> Members
  | [] => [(key, value)]
  | m :: rest =>
      if m.fst = key then (key, value) :: rest else m :: assign key value rest

section Set

variable {members : Members} {key : PyStr} {value : Json}

theorem Members.lookup_assign (k : PyStr) :
    (members.assign key value).lookup k =
      if k = key then some value else members.lookup k := by
  induction members with
  | nil =>
      by_cases h : k = key
      · simp [assign, h]
      · simp [assign, List.lookup_cons, beq_eq_false_iff_ne.mpr h, h]
  | cons m rest ih =>
      rcases m with ⟨l, v⟩
      unfold assign
      by_cases hl : l = key
      · rw [if_pos hl, List.lookup_cons, List.lookup_cons, hl]
        by_cases h : k = key
        · simp [h]
        · rw [beq_eq_false_iff_ne.mpr h, if_neg h]
      · rw [if_neg hl, List.lookup_cons, List.lookup_cons, ih]
        by_cases h : k = key
        · have hne : (k == l) = false :=
            beq_eq_false_iff_ne.mpr fun heq => hl (heq.symm.trans h)
          rw [hne, if_pos h]
        · simp only [if_neg h]

theorem Members.keys_assign (h : key ∈ members.keys) :
    (members.assign key value).keys = members.keys := by
  induction members with
  | nil => cases h
  | cons m rest ih =>
      unfold assign
      by_cases hm : m.fst = key
      · rw [if_pos hm]
        unfold keys
        rw [List.map_cons, List.map_cons, hm]
      · have hrest : key ∈ Members.keys rest :=
          (List.mem_cons.mp h).resolve_left fun heq => hm heq.symm
        have htail := ih hrest
        rw [if_neg hm]
        unfold keys at htail ⊢
        rw [List.map_cons, List.map_cons, htail]

end Set

theorem Members.mem_keys_of_lookup {members : Members} {key : PyStr} {v : Json}
    (h : members.lookup key = some v) : key ∈ members.keys :=
  List.mem_map_of_mem (mem_of_lookup_eq h)

/-- `payload[section][key] = value`. -/
def setIn (payload : Members) (path : PyStr × PyStr) (value : Json) :
    Except PyException Members :=
  match payload.lookup path.fst with
  | some (.object inner) =>
      pure (payload.assign path.fst
        (.object (Members.assign path.snd value inner)))
  | some _ => throw .typeError
  | none => throw .keyError

/-- An assignment: where, and what. -/
abbrev Edit := (PyStr × PyStr) × Json

def setAll : Members -> List Edit -> Except PyException Members
  | payload, [] => pure payload
  | payload, edit :: rest => do
      let payload ← setIn payload edit.fst edit.snd
      setAll payload rest

/-- What a list of assignments to different places leaves. -/
structure Edited (before after : Members) (edits : List Edit) : Prop where
  keys : after.keys = before.keys
  inside : forall path (inner : Members), before.lookup path = some (.object inner) ->
    exists inner' : Members, after.lookup path = some (.object inner') ∧
      inner'.keys = inner.keys ∧
      forall key, inner'.lookup key =
        (edits.lookup (path, key)).or (inner.lookup key)
  outside : forall path, (forall inner, before.lookup path ≠ some (.object inner)) ->
    after.lookup path = before.lookup path

section Edited

variable {before after middle : Members} {edits rest : List Edit} {edit : Edit}

/-- The place of an assignment is a member of an object that is there. -/
def Present (before : Members) (path : PyStr × PyStr) : Prop :=
  exists inner : Members, before.lookup path.fst = some (.object inner) ∧
    path.snd ∈ inner.keys

theorem edited_self : Edited before before [] where
  keys := rfl
  inside _ inner h := ⟨inner, h, rfl, fun _ => rfl⟩
  outside _ _ := rfl

theorem setIn_edited (h : Present before edit.fst) :
    exists after, setIn before edit.fst edit.snd = .ok after ∧
      Edited before after [edit] := by
  rcases edit with ⟨⟨path, key⟩, value⟩
  rcases h with ⟨inner, hinner, hkey⟩
  refine ⟨before.assign path (.object (Members.assign key value inner)), ?_, ?_, ?_, ?_⟩
  · unfold setIn
    rw [hinner]
    rfl
  · exact Members.keys_assign (Members.mem_keys_of_lookup hinner)
  · intro path' inner' hinner'
    rw [Members.lookup_assign]
    by_cases hpath : path' = path
    · subst hpath
      have hinner : before.lookup path' = some (.object inner) := hinner
      rw [hinner] at hinner'
      cases hinner'
      refine ⟨_, if_pos rfl, Members.keys_assign hkey, ?_⟩
      intro key'
      rw [Members.lookup_assign]
      by_cases hkey' : key' = key
      · simp [hkey']
      · have hne : ((path', key') == (path', key)) = false :=
          beq_eq_false_iff_ne.mpr fun heq => hkey' (congrArg Prod.snd heq)
        rw [if_neg hkey', List.lookup_cons, hne]
        rfl
    · refine ⟨inner', (if_neg hpath).trans hinner', rfl, ?_⟩
      intro key'
      have hne : ((path', key') == (path, key)) = false :=
        beq_eq_false_iff_ne.mpr fun heq => hpath (congrArg Prod.fst heq)
      rw [List.lookup_cons, hne]
      rfl
  · intro path' hpath'
    rw [Members.lookup_assign, if_neg]
    intro heq
    subst heq
    exact hpath' inner hinner

/-- Assignments after one to another place. -/
theorem Edited.cons (hfirst : Edited before middle [edit])
    (hrest : Edited middle after rest) (hnew : edit.fst ∉ rest.map Prod.fst) :
    Edited before after (edit :: rest) where
  keys := hrest.keys.trans hfirst.keys
  inside path inner h := by
    rcases hfirst.inside path inner h with ⟨inner', h', hkeys, hlookup⟩
    rcases hrest.inside path inner' h' with ⟨inner'', h'', hkeys', hlookup'⟩
    refine ⟨inner'', h'', hkeys'.trans hkeys, ?_⟩
    intro key
    rw [hlookup', hlookup, List.lookup_cons, List.lookup_cons]
    cases heq : ((path, key) == edit.fst) with
    | true =>
        have hnone : rest.lookup (path, key) = none := by
          rw [eq_of_beq heq]
          cases hfound : rest.lookup edit.fst with
          | none => rfl
          | some v =>
              exact absurd (List.mem_map_of_mem (mem_of_lookup_eq hfound)) hnew
        rw [hnone]
        rfl
    | false => rfl
  outside path h := by
    have hmiddle := hfirst.outside path h
    rw [← hmiddle] at h ⊢
    exact hrest.outside path h

theorem Edited.present (h : Edited before middle [edit]) {path : PyStr × PyStr}
    (hpath : Present before path) : Present middle path := by
  rcases hpath with ⟨inner, hinner, hkey⟩
  rcases h.inside path.fst inner hinner with ⟨inner', hinner', hkeys, _⟩
  exact ⟨inner', hinner', hkeys ▸ hkey⟩

theorem setAll_edited (hpaths : (edits.map Prod.fst).Nodup)
    (h : forall edit, edit ∈ edits -> Present before edit.fst) :
    exists after, setAll before edits = .ok after ∧
      Edited before after edits := by
  induction edits generalizing before with
  | nil => exact ⟨before, rfl, edited_self⟩
  | cons edit rest ih =>
      rcases List.nodup_cons.mp hpaths with ⟨hnew, hrest⟩
      rcases setIn_edited (h edit List.mem_cons_self) with
        ⟨middle, hmiddle, hedited⟩
      have hpresent : forall other, other ∈ rest -> Present middle other.fst :=
        fun other hother =>
          hedited.present (h other (List.mem_cons_of_mem edit hother))
      rcases ih hrest hpresent with ⟨after, hafter, hedited'⟩
      refine ⟨after, ?_, hedited.cons hedited' hnew⟩
      unfold setAll
      rw [hmiddle]
      exact hafter

theorem setAll_append (payload : Members) (edits rest : List Edit) :
    setAll payload (edits ++ rest) =
      (setAll payload edits >>= fun payload => setAll payload rest) := by
  induction edits generalizing payload with
  | nil => rfl
  | cons edit edits ih =>
      rw [List.cons_append, setAll, setAll]
      cases setIn payload edit.fst edit.snd with
      | error e => rfl
      | ok middle => exact ih middle

end Edited

/-!
An assignment that may be left out.
-/

section Optional

variable {γ : Type}

def setEdit (path key : String) (value : γ -> Json) (setting : Option γ) :
    List Edit :=
  setting.toList.map fun c => ((str path, str key), value c)

@[simp] theorem lookup_setEdit {path key : String} {value : γ -> Json}
    {setting : Option γ} (path' key' : String) :
    (setEdit path key value setting).lookup (str path', str key') =
      if path' = path ∧ key' = key then setting.map value else none := by
  cases setting with
  | none => simp [setEdit]
  | some c =>
      by_cases h : path' = path ∧ key' = key
      · simp [setEdit, h]
      · rw [if_neg h]
        have hne : ((str path', str key') == (str path, str key)) = false := by
          apply beq_eq_false_iff_ne.mpr
          intro heq
          rcases Prod.mk.inj heq with ⟨hpath, hkey⟩
          exact h ⟨str_inj.mp hpath, str_inj.mp hkey⟩
        simp [setEdit, List.lookup_cons, hne]

theorem paths_setEdit (path key : String) (value : γ -> Json)
    (setting : Option γ) :
    List.Sublist ((setEdit path key value setting).map Prod.fst)
      [(str path, str key)] := by
  cases setting with
  | none => exact List.nil_sublist _
  | some c => exact List.Sublist.refl _

end Optional

end Python
end EidolonSdk
