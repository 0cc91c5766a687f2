import EidolonSdk.Python.Assignment
import EidolonSdk.Python.SortedJson

/-!
# Places in a document

A place is the list of keys that lead to a value.  The leaves of a document are
the places of the values that are no objects.  Putting another leaf where a leaf
is keeps the leaves, and what stands at the others.
-/

namespace EidolonSdk
namespace Python
namespace Json

abbrev Place := List PyStr

/-- `isinstance(value, dict)`. -/
def isObject : Json -> Bool
  | .object _ => true
  | _ => false

def at? : Place -> Json -> Option Json
  | [], v => some v
  | k :: rest, .object members =>
      match members.lookup k with
      | some v => at? rest v
      | none => none
  | _ :: _, _ => none

def leaves : Json -> List Place
  | .object members => memberLeaves members
  | _ => [[]]
where
  memberLeaves : Members -> List Place
    | [] => []
    | (k, v) :: rest => (leaves v).map (k :: ·) ++ memberLeaves rest

/-- The document with another value at a place it has. -/
def put (w : Json) : Place -> Json -> Json
  | [], _ => w
  | k :: rest, .object members =>
      match members.lookup k with
      | some v => .object (Members.assign k (put w rest v) members)
      | none => .object members
  | _ :: _, v => v

theorem at?_cons {k : PyStr} {rest : Place} {members : Members} {v : Json}
    (h : members.lookup k = some v) :
    at? (k :: rest) (.object members) = at? rest v := by
  rw [at?, h]

theorem put_cons {w v : Json} {k : PyStr} {rest : Place} {members : Members}
    (h : members.lookup k = some v) :
    put w (k :: rest) (.object members) =
      .object (Members.assign k (put w rest v) members) := by
  rw [put, h]

/-- Where a value is, every key on the way is. -/
theorem at?_cons_eq_some {k : PyStr} {rest : Place} {v w : Json} :
    at? (k :: rest) v = some w <->
      exists members inner, v = .object members ∧
        members.lookup k = some inner ∧ at? rest inner = some w := by
  cases v with
  | object members =>
      cases hlookup : members.lookup k with
      | none =>
          rw [at?, hlookup]
          refine iff_of_false nofun ?_
          intro hparts
          rcases hparts with ⟨_, inner, heq, hinner, _⟩
          cases heq
          rw [hlookup] at hinner
          cases hinner
      | some inner =>
          rw [at?_cons hlookup]
          constructor
          · exact fun h => ⟨members, inner, rfl, hlookup, h⟩
          · intro hparts
            rcases hparts with ⟨_, _, heq, hinner, h⟩
            cases heq
            rw [hlookup] at hinner
            cases hinner
            exact h
  | null => exact iff_of_false nofun fun ⟨_, _, heq, _⟩ => nomatch heq
  | bool b => exact iff_of_false nofun fun ⟨_, _, heq, _⟩ => nomatch heq
  | int n => exact iff_of_false nofun fun ⟨_, _, heq, _⟩ => nomatch heq
  | float x => exact iff_of_false nofun fun ⟨_, _, heq, _⟩ => nomatch heq
  | str s => exact iff_of_false nofun fun ⟨_, _, heq, _⟩ => nomatch heq
  | array items => exact iff_of_false nofun fun ⟨_, _, heq, _⟩ => nomatch heq

/-!
## Leaves
-/

theorem leaves_of_not_object {v : Json} (h : isObject v = false) :
    leaves v = [[]] := by
  cases v with
  | object members => cases h
  | null => rfl
  | bool b => rfl
  | int n => rfl
  | float x => rfl
  | str s => rfl
  | array items => rfl

theorem mem_memberLeaves {members : Members} {place : Place} :
    place ∈ leaves.memberLeaves members <->
      exists k v rest, (k, v) ∈ members ∧ rest ∈ leaves v ∧ place = k :: rest := by
  induction members with
  | nil => exact iff_of_false List.not_mem_nil fun ⟨_, _, _, h, _⟩ => nomatch h
  | cons m others ih =>
      rcases m with ⟨l, u⟩
      rw [leaves.memberLeaves, List.mem_append, List.mem_map, ih]
      constructor
      · intro hparts
        rcases hparts with ⟨rest, hrest, heq⟩ | ⟨k, v, rest, hm, hrest, heq⟩
        · exact ⟨l, u, rest, List.mem_cons_self, hrest, heq.symm⟩
        · exact ⟨k, v, rest, List.mem_cons_of_mem _ hm, hrest, heq⟩
      · intro hparts
        rcases hparts with ⟨k, v, rest, hm, hrest, heq⟩
        cases List.mem_cons.mp hm with
        | inl hfirst =>
            cases hfirst
            exact Or.inl ⟨rest, hrest, heq.symm⟩
        | inr hothers => exact Or.inr ⟨k, v, rest, hothers, hrest, heq⟩

theorem mem_leaf {v : Json} (h : isObject v = false) {place : Place} :
    place ∈ leaves v <-> exists w, at? place v = some w ∧ isObject w = false := by
  rw [leaves_of_not_object h, List.mem_singleton]
  constructor
  · intro heq
    rcases heq with rfl
    exact ⟨v, rfl, h⟩
  · intro hparts
    rcases hparts with ⟨w, hw, _⟩
    cases place with
    | nil => rfl
    | cons k rest =>
        rcases at?_cons_eq_some.mp hw with ⟨_, _, rfl, _⟩
        cases h

/-- The leaves are the places of what is no object. -/
theorem mem_leaves {v : Json} (hv : v.IsJson) {place : Place} :
    place ∈ leaves v <-> exists w, at? place v = some w ∧ isObject w = false := by
  induction v using parts_induction generalizing place with
  | object members ih =>
      rw [leaves, mem_memberLeaves]
      constructor
      · intro h
        rcases h with ⟨k, v, rest, hm, hrest, rfl⟩
        rw [at?_cons (lookup_of_mem hv.keys_nodup hm)]
        exact (ih k v hm (hv.member hm)).mp hrest
      · intro h
        rcases h with ⟨w, hw, hleaf⟩
        cases place with
        | nil =>
            cases hw
            cases hleaf
        | cons k rest =>
            rcases at?_cons_eq_some.mp hw with ⟨_, v, heq, hlookup, hrest⟩
            cases heq
            have hm := mem_of_lookup hlookup
            exact ⟨k, v, rest, hm, (ih k v hm (hv.member hm)).mpr ⟨w, hrest, hleaf⟩,
              rfl⟩
  | null => exact mem_leaf rfl
  | bool b => exact mem_leaf rfl
  | int n => exact mem_leaf rfl
  | float x => exact mem_leaf rfl
  | str s => exact mem_leaf rfl
  | array items ih => exact mem_leaf rfl

theorem leaves_nodup {v : Json} (hv : v.IsJson) : (leaves v).Nodup := by
  induction v using parts_induction with
  | object members ih =>
      have hall : forall front : Members, front.keys.Nodup ->
          (forall m, m ∈ front -> m ∈ members) ->
          (leaves.memberLeaves front).Nodup := by
        intro front
        induction front with
        | nil => exact fun _ _ => List.nodup_nil
        | cons m rest ihrest =>
            rcases m with ⟨k, u⟩
            intro hkeys hmem
            rcases List.nodup_cons.mp hkeys with ⟨hk, hrest⟩
            have hm := hmem (k, u) List.mem_cons_self
            rw [leaves.memberLeaves]
            refine List.nodup_append.mpr ⟨?_, ihrest hrest fun m' hm' =>
              hmem m' (List.mem_cons_of_mem _ hm'), ?_⟩
            · exact (ih k u hm (hv.member hm)).map fun a b heq =>
                (List.cons.inj heq).right
            · intro a ha b hb heq
              rcases List.mem_map.mp ha with ⟨tail, _, rfl⟩
              rcases mem_memberLeaves.mp hb with ⟨l, w, tail', hl, _, rfl⟩
              apply hk
              rw [(List.cons.inj heq).left]
              exact List.mem_map.mpr ⟨(l, w), hl, rfl⟩
      rw [leaves]
      exact hall members hv.keys_nodup fun _ hm => hm
  | null => exact List.nodup_singleton _
  | bool b => exact List.nodup_singleton _
  | int n => exact List.nodup_singleton _
  | float x => exact List.nodup_singleton _
  | str s => exact List.nodup_singleton _
  | array items ih => exact List.nodup_singleton _

/-!
## Another leaf
-/

section Put

variable {v w old : Json} {place : Place}

theorem at?_put (h : at? place v = some old) : at? place (put w place v) = some w := by
  induction place generalizing v with
  | nil => rfl
  | cons k rest ih =>
      rcases at?_cons_eq_some.mp h with ⟨members, inner, rfl, hlookup, hrest⟩
      have hassigned : (Members.assign k (put w rest inner) members).lookup k =
          some (put w rest inner) := by
        rw [Members.lookup_assign, if_pos rfl]
      rw [put_cons hlookup, at?_cons hassigned]
      exact ih hrest

/-- An object that has another value for one key, with the same leaves. -/
theorem memberLeaves_assign {members : Members} {k : PyStr} {u u' : Json}
    (hlookup : members.lookup k = some u) (hleaves : leaves u' = leaves u) :
    leaves.memberLeaves (Members.assign k u' members) = leaves.memberLeaves members := by
  induction members with
  | nil => cases hlookup
  | cons m rest ih =>
      rcases m with ⟨l, x⟩
      unfold Members.assign
      by_cases hl : l = k
      · rw [if_pos hl]
        rw [List.lookup_cons, hl, beq_self_eq_true] at hlookup
        rw [leaves.memberLeaves, leaves.memberLeaves, hl, hleaves,
          Option.some.inj hlookup]
      · have hne : (k == l) = false :=
          beq_eq_false_iff_ne.mpr fun heq => hl heq.symm
        rw [List.lookup_cons, hne] at hlookup
        rw [if_neg hl, leaves.memberLeaves, leaves.memberLeaves, ih hlookup]

theorem leaves_put (h : at? place v = some old) (hold : isObject old = false)
    (hw : isObject w = false) : leaves (put w place v) = leaves v := by
  induction place generalizing v with
  | nil =>
      cases h
      rw [put, leaves_of_not_object hw, leaves_of_not_object hold]
  | cons k rest ih =>
      rcases at?_cons_eq_some.mp h with ⟨members, inner, rfl, hlookup, hrest⟩
      rw [put_cons hlookup, leaves, leaves]
      exact memberLeaves_assign hlookup (ih hrest)

/-- What stands at another leaf stays. -/
theorem at?_put_other {place' : Place} (h : at? place v = some old)
    (hold : isObject old = false) {old' : Json}
    (h' : at? place' v = some old') (hne : place' ≠ place) :
    isObject old' = false -> at? place' (put w place v) = some old' := by
  intro hold'
  induction place generalizing v place' with
  | nil =>
      cases h
      cases place' with
      | nil => exact absurd rfl hne
      | cons l rest' =>
          rcases at?_cons_eq_some.mp h' with ⟨_, _, rfl, _⟩
          cases hold
  | cons k rest ih =>
      rcases at?_cons_eq_some.mp h with ⟨members, inner, rfl, hlookup, hrest⟩
      cases place' with
      | nil =>
          cases h'
          cases hold'
      | cons l rest' =>
          rcases at?_cons_eq_some.mp h' with ⟨_, inner', heq, hlookup', hrest'⟩
          cases heq
          rw [put_cons hlookup]
          by_cases hkl : l = k
          · subst hkl
            rw [hlookup] at hlookup'
            cases hlookup'
            have hassigned : (Members.assign l (put w rest inner) members).lookup l =
                some (put w rest inner) := by
              rw [Members.lookup_assign, if_pos rfl]
            rw [at?_cons hassigned]
            exact ih hrest hrest' fun heq => hne (congrArg _ heq)
          · have hassigned : (Members.assign k (put w rest inner) members).lookup l =
                some inner' := by
              rw [Members.lookup_assign, if_neg hkl]
              exact hlookup'
            rw [at?_cons hassigned]
            exact hrest'

end Put

end Json
end Python
end EidolonSdk
