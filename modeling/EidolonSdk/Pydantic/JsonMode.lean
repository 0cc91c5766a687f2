import EidolonSdk.Python.SortedJson

/-!
# JSON mode

What `model_dump(mode="json")` makes of dictionaries and of values without a type.
Keys that are no Unicode texts are rewritten, and two of them can become one; what
is JSON with keys that are Unicode texts is left as it is.
-/

namespace EidolonSdk
namespace Pydantic

open Python

/-!
## Filling a dictionary
-/

/-- `members[key] = value`. -/
def assign {α : Type} (members : List (PyStr × α)) (key : PyStr) (value : α) :
    List (PyStr × α) :=
  if key ∈ members.map Prod.fst then
    members.map fun m => if m.fst = key then (key, value) else m
  else members ++ [(key, value)]

/-- The dictionary of these members; of one key the last value stays. -/
def dictOf {α : Type} (members : List (PyStr × α)) : List (PyStr × α) :=
  members.foldl (fun done m => assign done m.fst m.snd) []

theorem assign_keys_nodup {α : Type} {members : List (PyStr × α)}
    (h : (members.map Prod.fst).Nodup) (key : PyStr) (value : α) :
    ((assign members key value).map Prod.fst).Nodup := by
  unfold assign
  by_cases hkey : key ∈ members.map Prod.fst
  · have hkeys : (members.map fun m => if m.fst = key then (key, value) else m).map
        Prod.fst = members.map Prod.fst := by
      rw [List.map_map]
      apply List.map_congr_left
      intro m _
      by_cases hm : m.fst = key
      · simp [hm]
      · simp [hm]
    rw [if_pos hkey, hkeys]
    exact h
  · rw [if_neg hkey, List.map_append, List.nodup_append]
    refine ⟨h, List.nodup_singleton _, ?_⟩
    intro a ha b hb heq
    rw [List.map_singleton, List.mem_singleton] at hb
    rw [heq, hb] at ha
    exact hkey ha

theorem dictOf_keys_nodup {α : Type} (members : List (PyStr × α)) :
    ((dictOf members).map Prod.fst).Nodup := by
  have hfold : forall done : List (PyStr × α), (done.map Prod.fst).Nodup ->
      ((members.foldl (fun done m => assign done m.fst m.snd) done).map
        Prod.fst).Nodup := by
    induction members with
    | nil => exact fun _ h => h
    | cons m rest ih =>
        intro done h
        exact ih _ (assign_keys_nodup h m.fst m.snd)
  exact hfold [] List.nodup_nil

theorem dictOf_eq_self {α : Type} {members : List (PyStr × α)}
    (h : (members.map Prod.fst).Nodup) : dictOf members = members := by
  have hfold : forall done : List (PyStr × α),
      ((done ++ members).map Prod.fst).Nodup ->
      members.foldl (fun done m => assign done m.fst m.snd) done =
        done ++ members := by
    clear h
    induction members with
    | nil => exact fun done _ => (List.append_nil done).symm
    | cons m rest ih =>
        intro done h
        have hnew : m.fst ∉ done.map Prod.fst := by
          rw [List.map_append, List.map_cons, List.nodup_append] at h
          exact fun hmem => h.right.right m.fst hmem m.fst List.mem_cons_self rfl
        rw [List.foldl_cons, assign, if_neg hnew, ih, List.append_assoc]
        · rfl
        · rw [List.append_assoc]
          exact h
  exact hfold [] h

/-!
## The mode
-/

/-- The keys of objects are Unicode texts. -/
def encodableKeys : Json -> Bool
  | .object members => members.all fun m => decide (Encodable m.fst)
  | _ => true

/-- Every key inside the value is a Unicode text. -/
def EncodableKeys (v : Json) : Prop :=
  v.all encodableKeys = true

/-- What JSON mode makes of a dictionary whose values were dumped, and of a value
without a type. -/
structure JsonMode where
  typed : Members -> Members
  untyped : Json -> Json
  typed_eq : forall members : Members, members.keys.Nodup ->
    (forall m, m ∈ members -> Encodable m.fst) -> typed members = members
  untyped_eq : forall v, v.IsJson -> EncodableKeys v -> untyped v = v

/-- A dictionary of values without a type. -/
def JsonMode.untypedMembers (mode : JsonMode) (members : Members) : Members :=
  mode.typed (members.map fun m => (m.fst, mode.untyped m.snd))

theorem JsonMode.untypedMembers_eq (mode : JsonMode) {members : Members}
    (hjson : (Json.object members).IsJson)
    (hkeys : EncodableKeys (.object members)) :
    mode.untypedMembers members = members := by
  have hvalues : (members.map fun m => (m.fst, mode.untyped m.snd)) = members := by
    apply (List.map_congr_left _).trans (List.map_id members)
    intro m hm
    have hvalue := mode.untyped_eq m.snd (hjson.member hm)
      (Json.all_member hkeys hm)
    exact Prod.ext rfl hvalue
  unfold JsonMode.untypedMembers
  rw [hvalues]
  apply mode.typed_eq members hjson.keys_nodup
  intro m hm
  have hself := List.all_eq_true.mp (Json.all_self hkeys) m hm
  exact of_decide_eq_true hself

/-!
### Lossy texts
-/

/-- Each of the three octets of a lone surrogate is replaced by U+FFFD. -/
def lossyText (s : PyStr) : PyStr :=
  s.flatMap fun c => if Surrogate c then [0xFFFD, 0xFFFD, 0xFFFD] else [c]

theorem lossyText_eq {s : PyStr} (h : Encodable s) : lossyText s = s := by
  induction s with
  | nil => rfl
  | cons c rest ih =>
      have hc : ¬ Surrogate c := h c List.mem_cons_self
      have hrest : Encodable rest := fun d hd => h d (List.mem_cons_of_mem c hd)
      unfold lossyText at ih ⊢
      rw [List.flatMap_cons, if_neg hc, ih hrest]
      rfl

def lossyMembers {α : Type} (members : List (PyStr × α)) : List (PyStr × α) :=
  dictOf (members.map fun m => (lossyText m.fst, m.snd))

theorem lossyMembers_eq {α : Type} {members : List (PyStr × α)}
    (hkeys : (members.map Prod.fst).Nodup)
    (h : forall m, m ∈ members -> Encodable m.fst) :
    lossyMembers members = members := by
  have hmap : (members.map fun m => (lossyText m.fst, m.snd)) = members := by
    apply (List.map_congr_left _).trans (List.map_id members)
    intro m hm
    exact Prod.ext (lossyText_eq (h m hm)) rfl
  unfold lossyMembers
  rw [hmap, dictOf_eq_self hkeys]

/-- The value with all its keys rewritten. -/
def lossy : Json -> Json
  | .array items => .array (lossyItems items)
  | .object members => .object (lossyMembers (lossyValues members))
  | v => v
where
  lossyItems : List Json -> List Json
    | [] => []
    | v :: rest => lossy v :: lossyItems rest
  lossyValues : Members -> Members
    | [] => []
    | (k, v) :: rest => (k, lossy v) :: lossyValues rest

theorem lossyItems_eq (items : List Json)
    (h : forall v, v ∈ items -> lossy v = v) : lossy.lossyItems items = items := by
  induction items with
  | nil => rfl
  | cons v rest ih =>
      rw [lossy.lossyItems, h v List.mem_cons_self,
        ih fun w hw => h w (List.mem_cons_of_mem v hw)]

theorem lossyValues_eq (members : Members)
    (h : forall k v, (k, v) ∈ members -> lossy v = v) :
    lossy.lossyValues members = members := by
  induction members with
  | nil => rfl
  | cons m rest ih =>
      rw [lossy.lossyValues, h m.fst m.snd List.mem_cons_self,
        ih fun k v hv => h k v (List.mem_cons_of_mem m hv)]

theorem lossy_eq {v : Json} (hjson : v.IsJson) (hkeys : EncodableKeys v) :
    lossy v = v := by
  induction v using Json.parts_induction with
  | null => rfl
  | bool b => rfl
  | int n => rfl
  | float x => rfl
  | str s => rfl
  | array items ih =>
      rw [lossy, lossyItems_eq items fun v hv =>
        ih v hv (hjson.item hv) (Json.all_item hkeys hv)]
  | object members ih =>
      have hvalues := lossyValues_eq members fun k v hv =>
        ih k v hv (hjson.member hv) (Json.all_member hkeys hv)
      rw [lossy, hvalues, lossyMembers_eq hjson.keys_nodup fun m hm =>
        of_decide_eq_true (List.all_eq_true.mp (Json.all_self hkeys) m hm)]

/-- JSON mode as it rewrites keys. -/
def JsonMode.lossy : JsonMode where
  typed := lossyMembers
  untyped := Pydantic.lossy
  typed_eq _ hkeys h := lossyMembers_eq hkeys h
  untyped_eq _ hjson hkeys := lossy_eq hjson hkeys

end Pydantic
end EidolonSdk
