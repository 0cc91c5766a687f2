import Mathlib.Data.List.Sort
import Mathlib.Data.List.Lex

/-!
# Dictionaries

A dictionary by its strictly sorted entries, so two dictionaries are equal
exactly when they hold the same values under the same keys, in whatever order
they were filled.
-/

namespace EidolonSdk
namespace Logic

universe u v w

variable {κ : Type u} {α : Type v}

section Lookup

variable [BEq κ] [LawfulBEq κ]

/-- In a list without a key twice an entry is found by its key. -/
theorem lookup_of_mem_nodup {entries : List (κ × α)} {key : κ} {value : α}
    (hkeys : (entries.map Prod.fst).Nodup) (h : (key, value) ∈ entries) :
    entries.lookup key = some value := by
  rcases List.append_of_mem h with ⟨front, back, hsplit⟩
  apply List.lookup_eq_some_iff.mpr
  refine ⟨front, back, hsplit, ?_⟩
  intro entry hentry
  rw [hsplit, List.map_append, List.map_cons, List.nodup_append] at hkeys
  have hne := hkeys.right.right entry.fst (List.mem_map_of_mem hentry) key
    List.mem_cons_self
  exact bne_iff_ne.mpr (Ne.symm hne)

theorem mem_of_lookup_eq {entries : List (κ × α)} {key : κ} {value : α}
    (h : entries.lookup key = some value) : (key, value) ∈ entries := by
  rcases List.lookup_eq_some_iff.mp h with ⟨front, back, hsplit, _⟩
  simp [hsplit]

/-- Where no key is there twice, looking up does not depend on the order. -/
theorem lookup_eq_of_perm {entries entries' : List (κ × α)}
    (hkeys : (entries.map Prod.fst).Nodup) (hperm : entries.Perm entries')
    (key : κ) : entries.lookup key = entries'.lookup key := by
  have hkeys' : (entries'.map Prod.fst).Nodup := (hperm.map Prod.fst).nodup hkeys
  ext value
  constructor
  · intro h
    exact lookup_of_mem_nodup hkeys' (hperm.mem_iff.mp (mem_of_lookup_eq h))
  · intro h
    exact lookup_of_mem_nodup hkeys (hperm.mem_iff.mpr (mem_of_lookup_eq h))

end Lookup

variable [LinearOrder κ]

@[ext]
structure Dict (κ : Type u) (α : Type v) [LinearOrder κ] where
  entries : List (κ × α)
  sorted : entries.Pairwise fun a b => a.fst < b.fst

instance [DecidableEq α] : DecidableEq (Dict κ α) := fun d e =>
  decidable_of_iff (d.entries = e.entries) Dict.ext_iff.symm

/-- Assignment in a sorted list of entries. -/
def put (key : κ) (value : α) : List (κ × α) -> List (κ × α)
  | [] => [(key, value)]
  | entry :: rest =>
      if key < entry.fst then (key, value) :: entry :: rest
      else if key = entry.fst then (key, value) :: rest
      else entry :: put key value rest

section Put

variable {key : κ} {value : α} {entries : List (κ × α)}

theorem mem_put {entry : κ × α} (h : entry ∈ put key value entries) :
    entry = (key, value) ∨ entry ∈ entries := by
  induction entries with
  | nil => exact Or.inl (List.mem_singleton.mp h)
  | cons first rest ih =>
      unfold put at h
      split at h
      · exact List.mem_cons.mp h
      · split at h
        · rcases List.mem_cons.mp h with heq | h
          · exact Or.inl heq
          · exact Or.inr (List.mem_cons_of_mem first h)
        · rcases List.mem_cons.mp h with heq | h
          · exact Or.inr (heq ▸ List.mem_cons_self)
          · rcases ih h with heq | h
            · exact Or.inl heq
            · exact Or.inr (List.mem_cons_of_mem first h)

theorem sorted_put (h : entries.Pairwise fun a b => a.fst < b.fst) :
    (put key value entries).Pairwise fun a b => a.fst < b.fst := by
  induction entries with
  | nil => exact List.pairwise_singleton _ _
  | cons first rest ih =>
      rcases List.pairwise_cons.mp h with ⟨hfirst, hrest⟩
      unfold put
      split
      · rename_i hlt
        apply List.pairwise_cons.mpr
        refine ⟨?_, h⟩
        intro entry hentry
        rcases List.mem_cons.mp hentry with heq | hentry
        · rw [heq]
          exact hlt
        · exact lt_trans hlt (hfirst entry hentry)
      · split
        · rename_i heq
          apply List.pairwise_cons.mpr
          refine ⟨?_, hrest⟩
          intro entry hentry
          rw [heq]
          exact hfirst entry hentry
        · rename_i hlt hne
          apply List.pairwise_cons.mpr
          refine ⟨?_, ih hrest⟩
          intro entry hentry
          rcases mem_put hentry with heq | hentry
          · rw [heq]
            exact lt_of_le_of_ne (not_lt.mp hlt) (Ne.symm hne)
          · exact hfirst entry hentry

theorem put_ne_nil : put key value entries ≠ [] := by
  cases entries with
  | nil => exact List.cons_ne_nil _ _
  | cons first rest =>
      unfold put
      split
      · exact List.cons_ne_nil _ _
      · split
        · exact List.cons_ne_nil _ _
        · exact List.cons_ne_nil _ _

theorem lookup_put [BEq κ] [LawfulBEq κ] (key' : κ) :
    (put key value entries).lookup key' =
      if key' = key then some value else entries.lookup key' := by
  induction entries with
  | nil =>
      by_cases h : key' = key
      · simp [put, h]
      · simp [put, List.lookup_cons, beq_eq_false_iff_ne.mpr h, h]
  | cons first rest ih =>
      unfold put
      split
      · by_cases h : key' = key
        · simp [h]
        · rw [List.lookup_cons, beq_eq_false_iff_ne.mpr h, if_neg h]
      · split
        · rename_i heq
          by_cases h : key' = key
          · simp [h]
          · rw [List.lookup_cons, beq_eq_false_iff_ne.mpr h, if_neg h,
              List.lookup_cons, beq_eq_false_iff_ne.mpr (heq ▸ h)]
        · rename_i hne
          by_cases h : key' = first.fst
          · have hkey : ¬ key' = key := fun heq => hne (heq ▸ h)
            rw [if_neg hkey, h, List.lookup_cons_self, List.lookup_cons_self]
          · rw [List.lookup_cons, beq_eq_false_iff_ne.mpr h, ih,
              List.lookup_cons, beq_eq_false_iff_ne.mpr h]

end Put

namespace Dict

variable {d e : Dict κ α}

def empty : Dict κ α := ⟨[], List.Pairwise.nil⟩

def keys (d : Dict κ α) : List κ := d.entries.map Prod.fst

theorem keys_nodup (d : Dict κ α) : d.keys.Nodup := by
  unfold keys
  apply List.pairwise_map.mpr
  apply d.sorted.imp
  intro a b hab
  exact ne_of_lt hab

def lookup [BEq κ] (d : Dict κ α) (key : κ) : Option α :=
  d.entries.lookup key

/-- `d[key] = value`. -/
def insert (d : Dict κ α) (key : κ) (value : α) : Dict κ α :=
  ⟨put key value d.entries, sorted_put d.sorted⟩

/-- The same keys with other values. -/
def map {β : Type w} (f : α -> β) (d : Dict κ α) : Dict κ β :=
  ⟨d.entries.map fun entry => (entry.fst, f entry.snd),
    List.pairwise_map.mpr d.sorted⟩

/-- `{**d, **entries}`; of one key the last value stays. -/
def update (d : Dict κ α) (entries : List (κ × α)) : Dict κ α :=
  entries.foldl (fun done entry => done.insert entry.fst entry.snd) d

/-- `dict(entries)`. -/
def ofList (entries : List (κ × α)) : Dict κ α :=
  empty.update entries

theorem update_ne_nil {entries : List (κ × α)}
    (h : d.entries ≠ [] ∨ entries ≠ []) : (d.update entries).entries ≠ [] := by
  induction entries generalizing d with
  | nil => exact h.resolve_right (fun hne => hne rfl)
  | cons entry rest ih => exact ih (Or.inl put_ne_nil)

variable [BEq κ] [LawfulBEq κ]

theorem lookup_eq_some {key : κ} {value : α} :
    d.lookup key = some value <-> (key, value) ∈ d.entries := by
  constructor
  · exact mem_of_lookup_eq
  · exact lookup_of_mem_nodup d.keys_nodup

theorem mem_keys {key : κ} : key ∈ d.keys <-> exists value,
    d.lookup key = some value := by
  simp [keys, lookup_eq_some]

/-- A dictionary is what it holds under each key. -/
theorem ext_lookup (h : forall key, d.lookup key = e.lookup key) : d = e := by
  apply Dict.ext
  have hmem : forall entry, entry ∈ d.entries <-> entry ∈ e.entries := by
    intro entry
    rw [← lookup_eq_some, ← lookup_eq_some, h]
  have hnodup : forall c : Dict κ α, c.entries.Nodup := fun c =>
    List.Nodup.of_map Prod.fst c.keys_nodup
  have hperm : d.entries.Perm e.entries :=
    (List.perm_ext_iff_of_nodup (hnodup d) (hnodup e)).mpr hmem
  apply List.Perm.eq_of_pairwise _ d.sorted e.sorted hperm
  intro a b _ _ hab hba
  exact absurd hab (lt_asymm hba)

theorem lookup_insert (key key' : κ) (value : α) :
    (d.insert key value).lookup key' =
      if key' = key then some value else d.lookup key' :=
  lookup_put key'

theorem lookup_update (entries : List (κ × α)) (key : κ) :
    (d.update entries).lookup key =
      (entries.reverse.lookup key).or (d.lookup key) := by
  induction entries generalizing d with
  | nil => rfl
  | cons entry rest ih =>
      unfold update at ih ⊢
      rw [List.foldl_cons, ih, List.reverse_cons, List.lookup_append,
        lookup_insert, Option.or_assoc]
      apply congrArg
      rcases entry with ⟨first, value⟩
      by_cases h : key = first
      · simp [h]
      · rw [if_neg h, List.lookup_cons, beq_eq_false_iff_ne.mpr h]
        rfl

theorem lookup_update_nodup {entries : List (κ × α)}
    (hkeys : (entries.map Prod.fst).Nodup) (key : κ) :
    (d.update entries).lookup key =
      (entries.lookup key).or (d.lookup key) := by
  rw [lookup_update]
  rw [← lookup_eq_of_perm hkeys (List.reverse_perm entries).symm]

theorem lookup_ofList {entries : List (κ × α)}
    (hkeys : (entries.map Prod.fst).Nodup) (key : κ) :
    (ofList entries).lookup key = entries.lookup key := by
  unfold ofList
  rw [lookup_update_nodup hkeys]
  exact Option.or_none

theorem mem_of_mem_ofList {entries : List (κ × α)} {entry : κ × α}
    (h : entry ∈ (ofList entries).entries) : entry ∈ entries := by
  have hlookup := lookup_eq_some.mpr h
  unfold ofList at hlookup
  rw [lookup_update] at hlookup
  apply List.mem_reverse.mp
  apply mem_of_lookup_eq
  simpa [lookup, empty] using hlookup

theorem ofList_entries (d : Dict κ α) : ofList d.entries = d := by
  apply ext_lookup
  intro key
  exact lookup_ofList d.keys_nodup key

theorem ofList_eq_of_perm {entries entries' : List (κ × α)}
    (hkeys : (entries.map Prod.fst).Nodup) (hperm : entries.Perm entries') :
    ofList entries = ofList entries' := by
  apply ext_lookup
  intro key
  rw [lookup_ofList hkeys, lookup_ofList ((hperm.map Prod.fst).nodup hkeys)]
  exact lookup_eq_of_perm hkeys hperm key

/-- Filling a dictionary again with what it was filled with changes nothing. -/
theorem update_update (d : Dict κ α) (entries : List (κ × α)) :
    d.update (d.update entries).entries = d.update entries := by
  apply ext_lookup
  intro key
  rw [lookup_update_nodup (d.update entries).keys_nodup]
  show ((d.update entries).lookup key).or (d.lookup key) = _
  rw [lookup_update, Option.or_assoc, Option.or_self]

/-!
### Restricting
-/

/-- The entries under some of the keys. -/
def restrict (p : κ -> Bool) (d : Dict κ α) : Dict κ α :=
  ⟨d.entries.filter fun entry => p entry.fst, d.sorted.filter _⟩

theorem lookup_restrict (p : κ -> Bool) (d : Dict κ α) (key : κ) :
    (d.restrict p).lookup key = if p key = true then d.lookup key else none := by
  ext value
  rw [lookup_eq_some]
  show (key, value) ∈ d.entries.filter (fun entry => p entry.fst) <-> _
  rw [List.mem_filter, ← lookup_eq_some]
  by_cases hp : p key = true
  · rw [if_pos hp]
    exact and_iff_left hp
  · rw [if_neg hp]
    exact iff_of_false (fun h => hp h.right) nofun

/-- What is under some keys depends on what is under these keys only. -/
theorem restrict_congr {p : κ -> Bool}
    (h : forall key, p key = true -> d.lookup key = e.lookup key) :
    d.restrict p = e.restrict p := by
  apply ext_lookup
  intro key
  rw [lookup_restrict, lookup_restrict]
  by_cases hp : p key = true
  · rw [if_pos hp, if_pos hp, h key hp]
  · rw [if_neg hp, if_neg hp]

/-!
### Tables that agree

Several tables that never give one key two values can be filled in in any
order.
-/

section Tables

variable {β : Type w} {table : β -> List (κ × α)}

/-- No key has two values in the tables. -/
def Agree (table : β -> List (κ × α)) : Prop :=
  forall b c key v v', (key, v) ∈ table b -> (key, v') ∈ table c -> v = v'

/-- The dictionary holds only what the tables may hold as well. -/
def Fits (d : Dict κ α) (table : β -> List (κ × α)) : Prop :=
  forall b key v v', d.lookup key = some v -> (key, v') ∈ table b -> v = v'

theorem lookup_update_agree (hagree : Agree table) (hd : d.Fits table) {b : β}
    {key : κ} {v : α} :
    (d.update (table b)).lookup key = some v <->
      (key, v) ∈ table b ∨ d.lookup key = some v := by
  rw [lookup_update, Option.or_eq_some_iff]
  have hreverse : forall v', (table b).reverse.lookup key = some v' ->
      (key, v') ∈ table b :=
    fun v' h => List.mem_reverse.mp (mem_of_lookup_eq h)
  constructor
  · intro h
    rcases h with h | ⟨_, h⟩
    · exact Or.inl (hreverse v h)
    · exact Or.inr h
  · intro h
    cases hlookup : (table b).reverse.lookup key with
    | some v' =>
        apply Or.inl
        rcases h with h | h
        · rw [hagree b b key v' v (hreverse v' hlookup) h]
        · rw [hd b key v v' h (hreverse v' hlookup)]
    | none =>
        refine Or.inr ⟨rfl, ?_⟩
        rcases h with h | h
        · rw [List.lookup_eq_none_iff] at hlookup
          have hne := hlookup (key, v) (List.mem_reverse.mpr h)
          simp at hne
        · exact h

theorem Fits.update (hagree : Agree table) (hd : d.Fits table) (b : β) :
    (d.update (table b)).Fits table := by
  intro c key v v' hlookup hmem
  rcases (lookup_update_agree hagree hd).mp hlookup with h | h
  · exact hagree b c key v v' h hmem
  · exact hd c key v v' h hmem

theorem lookup_foldl_update (hagree : Agree table) (hd : d.Fits table)
    {bs : List β} {key : κ} {v : α} :
    (bs.foldl (fun done b => done.update (table b)) d).lookup key = some v <->
      (exists b, b ∈ bs ∧ (key, v) ∈ table b) ∨ d.lookup key = some v := by
  induction bs generalizing d with
  | nil => simp
  | cons b rest ih =>
      rw [List.foldl_cons, ih (hd.update hagree b), lookup_update_agree hagree hd]
      constructor
      · intro h
        rcases h with ⟨c, hc, hmem⟩ | h | h
        · exact Or.inl ⟨c, List.mem_cons_of_mem b hc, hmem⟩
        · exact Or.inl ⟨b, List.mem_cons_self, h⟩
        · exact Or.inr h
      · intro h
        rcases h with ⟨c, hc, hmem⟩ | h
        · rcases List.mem_cons.mp hc with heq | hc
          · exact Or.inr (Or.inl (heq ▸ hmem))
          · exact Or.inl ⟨c, hc, hmem⟩
        · exact Or.inr (Or.inr h)

/-- Where the tables agree, a key has a value exactly when one of the tables
gives it that value. -/
theorem lookup_filled (hagree : Agree table) {bs : List β} {key : κ} {v : α} :
    (bs.foldl (fun done b => done.update (table b)) empty).lookup key = some v <->
      exists b, b ∈ bs ∧ (key, v) ∈ table b := by
  have hempty : (empty : Dict κ α).Fits table := by
    intro b key v v' h
    cases h
  rw [lookup_foldl_update hagree hempty]
  exact or_iff_left nofun

end Tables

end Dict

end Logic
end EidolonSdk
