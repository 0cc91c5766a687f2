import Mathlib.Logic.Relation
import EidolonSdk.Logic.Dict
import EidolonSdk.Python.JsonEquality

/-!
# JSON values up to the order of members

Python's dictionaries keep the order they were filled in and forget it when
they are compared.  Every JSON value has a form with the members of every object
sorted by key, and two values that differ in the order of members only have the
same sorted form.
-/

namespace EidolonSdk
namespace Python

open Logic

namespace Json

/-- A property of all JSON values, from the parts to the whole. -/
@[elab_as_elim]
theorem parts_induction {motive : Json -> Prop} (null : motive .null)
    (bool : forall b, motive (.bool b)) (int : forall n, motive (.int n))
    (float : forall x, motive (.float x)) (str : forall s, motive (.str s))
    (array : forall items, (forall v, v ∈ items -> motive v) ->
      motive (.array items))
    (object : forall members : Members,
      (forall k v, (k, v) ∈ members -> motive v) -> motive (.object members)) :
    forall v, motive v := by
  intro v
  apply @Json.rec motive (fun items => forall v, v ∈ items -> motive v)
    (fun members => forall k v, (k, v) ∈ members -> motive v)
    (fun m => motive m.snd) null bool int float str array object
  · intro v hv
    cases hv
  · intro first rest hfirst hrest v hv
    rcases List.mem_cons.mp hv with heq | hv
    · rw [heq]
      exact hfirst
    · exact hrest v hv
  · intro k v hv
    cases hv
  · intro first rest hfirst hrest k v hv
    rcases List.mem_cons.mp hv with heq | hv
    · rw [← heq] at hfirst
      exact hfirst
    · exact hrest k v hv
  · intro k v hv
    exact hv

/-!
## The sorted form
-/

/-- Of one key the last member stays, as in every dictionary. -/
def sorted : Json -> Json
  | .array items => .array (sortedItems items)
  | .object members =>
      .object (Dict.ofList (κ := PyStr) (sortedMembers members)).entries
  | v => v
where
  sortedItems : List Json -> List Json
    | [] => []
    | v :: rest => sorted v :: sortedItems rest
  sortedMembers : Members -> Members
    | [] => []
    | (k, v) :: rest => (k, sorted v) :: sortedMembers rest

section Sorted

theorem sortedItems_eq (items : List Json) :
    sorted.sortedItems items = items.map sorted := by
  induction items with
  | nil => rfl
  | cons v rest ih => rw [sorted.sortedItems, ih, List.map_cons]

theorem sortedMembers_eq (members : Members) :
    sorted.sortedMembers members =
      members.map fun m => (m.fst, m.snd.sorted) := by
  induction members with
  | nil => rfl
  | cons m rest ih => rw [sorted.sortedMembers, ih, List.map_cons]

theorem sorted_array (items : List Json) :
    (Json.array items).sorted = .array (items.map sorted) := by
  rw [sorted, sortedItems_eq]

/-- The members of an object, each value sorted, as a dictionary. -/
def sortedDict (members : Members) : Dict PyStr Json :=
  Dict.ofList (members.map fun m => (m.fst, m.snd.sorted))

theorem sorted_object (members : Members) :
    (Json.object members).sorted = .object (sortedDict members).entries := by
  rw [sorted, sortedMembers_eq]
  rfl

variable {members : Members}

theorem keys_map_snd {β : Type} (f : Json -> β) :
    (members.map fun m => (m.fst, f m.snd)).map Prod.fst = members.keys := by
  rw [List.map_map]
  rfl

theorem lookup_map_snd {β : Type} (f : Json -> β) (k : PyStr) :
    (members.map fun m => (m.fst, f m.snd)).lookup k =
      (members.lookup k).map f := by
  induction members with
  | nil => rfl
  | cons m rest ih =>
      rcases m with ⟨l, v⟩
      rw [List.map_cons, List.lookup_cons, List.lookup_cons]
      cases k == l with
      | true => rfl
      | false => exact ih

theorem lookup_sortedDict (hkeys : members.keys.Nodup) (k : PyStr) :
    (sortedDict members).lookup k = (members.lookup k).map sorted := by
  have hkeys' : ((members.map fun m => (m.fst, m.snd.sorted)).map
      Prod.fst).Nodup := by
    rw [keys_map_snd]
    exact hkeys
  exact (Dict.lookup_ofList hkeys' k).trans (lookup_map_snd sorted k)

theorem mem_sortedDict {k : PyStr} {v : Json}
    (h : (k, v) ∈ (sortedDict members).entries) :
    exists w, (k, w) ∈ members ∧ v = w.sorted := by
  have hmem := Dict.mem_of_mem_ofList h
  rcases List.mem_map.mp hmem with ⟨m, hm, heq⟩
  rcases m with ⟨l, w⟩
  cases heq
  exact ⟨w, hm, rfl⟩

theorem sorted_sorted (v : Json) : v.sorted.sorted = v.sorted := by
  induction v using parts_induction with
  | null => rfl
  | bool b => rfl
  | int n => rfl
  | float x => rfl
  | str s => rfl
  | array items ih =>
      rw [sorted_array, sorted_array, List.map_map]
      apply congrArg
      exact List.map_congr_left ih
  | object members ih =>
      rw [sorted_object, sorted_object]
      have hvalues : (sortedDict members).entries.map
          (fun m => (m.fst, m.snd.sorted)) = (sortedDict members).entries := by
        apply (List.map_congr_left _).trans (List.map_id _)
        intro m hm
        rcases mem_sortedDict hm with ⟨w, hw, hsorted⟩
        have hvalue : m.snd.sorted = m.snd := by
          rw [hsorted]
          exact ih m.fst w hw
        exact Prod.ext rfl hvalue
      show Json.object (sortedDict (sortedDict members).entries).entries = _
      unfold sortedDict at hvalues ⊢
      rw [hvalues, Dict.ofList_entries]

theorem IsJson.sorted {v : Json} (h : IsJson v) : IsJson v.sorted := by
  induction v using parts_induction with
  | null => exact h
  | bool b => exact h
  | int n => exact h
  | float x => exact h
  | str s => exact h
  | array items ih =>
      rw [sorted_array]
      refine Bool.and_eq_true_iff.mpr ⟨rfl, allItems_iff.mpr ?_⟩
      intro w hw
      rcases List.mem_map.mp hw with ⟨v, hv, heq⟩
      rw [← heq]
      exact ih v hv (h.item hv)
  | object members ih =>
      rw [sorted_object]
      refine Bool.and_eq_true_iff.mpr
        ⟨decide_eq_true (sortedDict members).keys_nodup,
          allMembers_iff.mpr ?_⟩
      intro m hm
      rcases mem_sortedDict hm with ⟨w, hw, hsorted⟩
      rw [hsorted]
      exact ih m.fst w hw (h.member hw)

end Sorted

/-!
## Other orders
-/

/-- One object somewhere inside the value has its members in another order. -/
inductive Shuffled : Json -> Json -> Prop where
  | members {ms ns : Members} : ms.Perm ns ->
      Shuffled (.object ms) (.object ns)
  | item {v w : Json} (front back : List Json) : Shuffled v w ->
      Shuffled (.array (front ++ v :: back)) (.array (front ++ w :: back))
  | member {v w : Json} (front back : Members) (k : PyStr) : Shuffled v w ->
      Shuffled (.object (front ++ (k, v) :: back))
        (.object (front ++ (k, w) :: back))

/-- The same value with members in any order, at any depth. -/
def Reordered : Json -> Json -> Prop :=
  Relation.ReflTransGen Shuffled

section Reordered

variable {v w : Json}

theorem isJson_object {ms : Members} (hkeys : ms.keys.Nodup)
    (h : forall k v, (k, v) ∈ ms -> IsJson v) : IsJson (.object ms) :=
  Bool.and_eq_true_iff.mpr
    ⟨decide_eq_true hkeys, allMembers_iff.mpr fun m hm => h m.fst m.snd hm⟩

theorem isJson_array {items : List Json} (h : forall v, v ∈ items -> IsJson v) :
    IsJson (.array items) :=
  Bool.and_eq_true_iff.mpr ⟨rfl, allItems_iff.mpr h⟩

theorem Shuffled.isJson (h : Shuffled v w) (hv : IsJson v) : IsJson w := by
  induction h with
  | members hperm =>
      apply isJson_object
      · exact (hperm.map Prod.fst).nodup hv.keys_nodup
      · intro k v hmem
        exact hv.member (hperm.mem_iff.mpr hmem)
  | item front back _ ih =>
      apply isJson_array
      intro u hu
      rcases List.mem_append.mp hu with hu | hu
      · exact hv.item (List.mem_append_left _ hu)
      · rcases List.mem_cons.mp hu with heq | hu
        · rw [heq]
          exact ih (hv.item (List.mem_append_right front List.mem_cons_self))
        · exact hv.item
            (List.mem_append_right front (List.mem_cons_of_mem _ hu))
  | member front back k _ ih =>
      apply isJson_object
      · have hkeys := hv.keys_nodup
        simp only [Members.keys, List.map_append, List.map_cons] at hkeys ⊢
        exact hkeys
      · intro l u hu
        rcases List.mem_append.mp hu with hu | hu
        · exact hv.member (List.mem_append_left _ hu)
        · rcases List.mem_cons.mp hu with heq | hu
          · cases heq
            exact ih (hv.member (List.mem_append_right front List.mem_cons_self))
          · exact hv.member
              (List.mem_append_right front (List.mem_cons_of_mem _ hu))

theorem Shuffled.sorted (h : Shuffled v w) (hv : IsJson v) :
    v.sorted = w.sorted := by
  induction h with
  | @members ms ns hperm =>
      rw [sorted_object, sorted_object]
      unfold sortedDict
      rw [Dict.ofList_eq_of_perm (by rw [keys_map_snd]; exact hv.keys_nodup)
        (hperm.map fun m => (m.fst, m.snd.sorted))]
  | item front back _ ih =>
      have hitem := ih
        (hv.item (List.mem_append_right front List.mem_cons_self))
      rw [sorted_array, sorted_array, List.map_append, List.map_append,
        List.map_cons, List.map_cons, hitem]
  | member front back k _ ih =>
      have hmember := ih
        (hv.member (List.mem_append_right front List.mem_cons_self))
      rw [sorted_object, sorted_object]
      unfold sortedDict
      rw [List.map_append, List.map_append, List.map_cons, List.map_cons,
        hmember]

/-- The order of members is all that reordering changes. -/
theorem Reordered.sorted (h : Reordered v w) (hv : IsJson v) :
    IsJson w ∧ v.sorted = w.sorted := by
  induction h with
  | refl => exact ⟨hv, rfl⟩
  | tail _ hstep ih =>
      rcases ih with ⟨hu, heq⟩
      exact ⟨hstep.isJson hu, heq.trans (hstep.sorted hu)⟩

end Reordered

/-- A value as a dictionary holds it: without an order of members. -/
abbrev FreeForm := { v : Json // v.sorted = v }

def free (v : Json) : FreeForm := ⟨v.sorted, sorted_sorted v⟩

theorem free_val (v : FreeForm) : free v.val = v :=
  Subtype.ext v.property

/-!
## Comparing what dictionaries hold

Inside a container an object is compared with itself first, so the single NaN
of the decoder is the same as itself there.
-/

/-- `v is w or v == w`. -/
def alike : Json -> Json -> Bool
  | .array vs, .array ws => alikeItems vs ws
  | .object ms, .object ns => ms.length == ns.length && alikeMembers ms ns
  | v, w =>
      match v.hashKey, w.hashKey with
      | some a, some b => decide (a = b)
      | _, _ => false
where
  alikeItems : List Json -> List Json -> Bool
    | [], [] => true
    | v :: vs, w :: ws => alike v w && alikeItems vs ws
    | _, _ => false
  alikeMembers : Members -> Members -> Bool
    | [], _ => true
    | (k, v) :: rest, ns =>
        (match ns.lookup k with
          | some w => alike v w
          | none => false) && alikeMembers rest ns

section Alike

theorem alikeItems_iff {vs ws : List Json} :
    alike.alikeItems vs ws = true <->
      List.Forall₂ (fun v w => alike v w = true) vs ws := by
  induction vs generalizing ws with
  | nil =>
      cases ws with
      | nil => simp [alike.alikeItems]
      | cons w ws => simp [alike.alikeItems]
  | cons v vs ih =>
      cases ws with
      | nil => simp [alike.alikeItems]
      | cons w ws => simp [alike.alikeItems, ih]

theorem alikeMembers_iff {ms ns : Members} :
    alike.alikeMembers ms ns = true <->
      forall k v, (k, v) ∈ ms ->
        exists w, ns.lookup k = some w ∧ alike v w = true := by
  induction ms with
  | nil => simp [alike.alikeMembers]
  | cons m rest ih =>
      rcases m with ⟨k, v⟩
      rw [alike.alikeMembers, Bool.and_eq_true, ih]
      have hhead : (match ns.lookup k with
          | some w => alike v w
          | none => false) = true <->
            exists w, ns.lookup k = some w ∧ alike v w = true := by
        cases ns.lookup k with
        | none => simp
        | some w => simp
      rw [hhead]
      constructor
      · intro h l u hmem
        rcases List.mem_cons.mp hmem with heq | hmem
        · cases heq
          exact h.left
        · exact h.right l u hmem
      · intro h
        exact ⟨h k v List.mem_cons_self,
          fun l u hmem => h l u (List.mem_cons_of_mem _ hmem)⟩

/-- Whatever is not a container is compared by its hash. -/
theorem alike_scalar {v w : Json} {a : HashKey} (hv : v.hashKey = some a) :
    alike v w = true <-> w.hashKey = some a := by
  unfold alike
  split
  · cases hv
  · cases hv
  · rw [hv]
    cases w.hashKey with
    | none => simp
    | some b => simp [eq_comm]

theorem alike_array {vs : List Json} {w : Json}
    (h : alike (.array vs) w = true) :
    exists ws, w = .array ws ∧
      List.Forall₂ (fun v w => alike v w = true) vs ws := by
  cases w with
  | array ws => exact ⟨ws, rfl, alikeItems_iff.mp h⟩
  | null => cases h
  | bool b => cases h
  | int n => cases h
  | float x => cases h
  | str s => cases h
  | object ns => cases h

theorem alike_object {ms : Members} {w : Json}
    (h : alike (.object ms) w = true) :
    exists ns, w = .object ns ∧ ms.length = ns.length ∧
      forall k v, (k, v) ∈ ms ->
        exists w, ns.lookup k = some w ∧ alike v w = true := by
  cases w with
  | object ns =>
      rcases Bool.and_eq_true_iff.mp h with ⟨hlength, hmembers⟩
      exact ⟨ns, rfl, beq_iff_eq.mp hlength, alikeMembers_iff.mp hmembers⟩
  | null => cases h
  | bool b => cases h
  | int n => cases h
  | float x => cases h
  | str s => cases h
  | array ws => cases h

theorem hashKey_float_isSome (x : Double) :
    exists a, (Json.float x).hashKey = some a := by
  cases x with
  | finite negative magnitude representable => exact ⟨_, rfl⟩
  | infinite negative => exact ⟨_, rfl⟩
  | nan => exact ⟨_, rfl⟩

theorem forall₂_trans {vs ws us : List Json}
    (ih : forall v, v ∈ vs -> forall w u, alike v w = true ->
      alike w u = true -> alike v u = true)
    (hvw : List.Forall₂ (fun v w => alike v w = true) vs ws)
    (hwu : List.Forall₂ (fun v w => alike v w = true) ws us) :
    List.Forall₂ (fun v w => alike v w = true) vs us := by
  induction hvw generalizing us with
  | nil =>
      cases hwu
      exact List.Forall₂.nil
  | cons hhead _ ihtail =>
      cases hwu with
      | cons hhead' htail' =>
          exact List.Forall₂.cons (ih _ List.mem_cons_self _ _ hhead hhead')
            (ihtail (fun v hv => ih v (List.mem_cons_of_mem _ hv)) htail')

theorem alike_trans (v : Json) : forall w u, alike v w = true ->
    alike w u = true -> alike v u = true := by
  have hscalar : forall (v : Json) (a : HashKey), v.hashKey = some a ->
      forall w u, alike v w = true -> alike w u = true -> alike v u = true := by
    intro v a hv w u hvw hwu
    have hw := (alike_scalar hv).mp hvw
    exact (alike_scalar hv).mpr ((alike_scalar hw).mp hwu)
  induction v using parts_induction with
  | null => exact hscalar _ _ rfl
  | bool b => exact hscalar _ _ (hashKey_bool b)
  | int n => exact hscalar _ _ (hashKey_int n)
  | float x =>
      rcases hashKey_float_isSome x with ⟨a, ha⟩
      exact hscalar _ a ha
  | str s => exact hscalar _ _ (hashKey_str s)
  | array vs ih =>
      intro w u hvw hwu
      rcases alike_array hvw with ⟨ws, hw, hitems⟩
      rw [hw] at hwu
      rcases alike_array hwu with ⟨us, hu, hitems'⟩
      rw [hu]
      exact alikeItems_iff.mpr (forall₂_trans ih hitems hitems')
  | object ms ih =>
      intro w u hvw hwu
      rcases alike_object hvw with ⟨ns, hw, hlength, hmembers⟩
      rw [hw] at hwu
      rcases alike_object hwu with ⟨ps, hu, hlength', hmembers'⟩
      rw [hu]
      refine Bool.and_eq_true_iff.mpr
        ⟨beq_iff_eq.mpr (hlength.trans hlength'), alikeMembers_iff.mpr ?_⟩
      intro k v hv
      rcases hmembers k v hv with ⟨w', hw', halike⟩
      rcases hmembers' k w' (mem_of_lookup hw') with ⟨u', hu', halike'⟩
      exact ⟨u', hu', ih k v hv w' u' halike halike'⟩

/-- A value is like itself once it is without an order of members. -/
theorem alike_sorted (v : Json) : alike v.sorted v.sorted = true := by
  have hscalar : forall (v : Json) (a : HashKey), v.hashKey = some a ->
      alike v v = true := fun v a hv => (alike_scalar hv).mpr hv
  induction v using parts_induction with
  | null => exact hscalar _ _ rfl
  | bool b => exact hscalar _ _ (hashKey_bool b)
  | int n => exact hscalar _ _ (hashKey_int n)
  | float x =>
      rcases hashKey_float_isSome x with ⟨a, ha⟩
      exact hscalar _ a ha
  | str s => exact hscalar _ _ (hashKey_str s)
  | array items ih =>
      rw [sorted_array]
      apply alikeItems_iff.mpr
      apply List.forall₂_map_left_iff.mpr
      apply List.forall₂_map_right_iff.mpr
      exact List.forall₂_same.mpr ih
  | object members ih =>
      rw [sorted_object]
      refine Bool.and_eq_true_iff.mpr ⟨beq_self_eq_true _,
        alikeMembers_iff.mpr ?_⟩
      intro k v hv
      rcases mem_sortedDict hv with ⟨w, hw, heq⟩
      refine ⟨v, lookup_of_mem (sortedDict members).keys_nodup hv, ?_⟩
      rw [heq]
      exact ih k w hw

end Alike

end Json
end Python
end EidolonSdk
