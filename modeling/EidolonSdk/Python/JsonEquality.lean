import Mathlib.Data.List.Perm.Subperm
import EidolonSdk.Python.JsonValues

/-!
# Comparing JSON values

Python compares a truth value with a number as zero or one; JSON keeps them
apart.  That is the only difference: on values a JSON document can stand for,
Python's equality is sameness as JSON wherever no truth value stands against
the number it equals.
-/

namespace EidolonSdk
namespace Python
namespace Json

/-- `v == w`.  A NaN equals nothing. -/
def equals : Json -> Json -> Bool
  | .array vs, .array ws => equalItems vs ws
  | .object ms, .object ns => ms.length == ns.length && equalMembers ms ns
  | v, w =>
      match v.hashKey, w.hashKey with
      | some a, some b => decide (a = b ∧ a ≠ .nan)
      | _, _ => false
where
  equalItems : List Json -> List Json -> Bool
    | [], [] => true
    | v :: vs, w :: ws => equals v w && equalItems vs ws
    | _, _ => false
  equalMembers : Members -> Members -> Bool
    | [], _ => true
    | (k, v) :: rest, ns =>
        (match ns.lookup k with
          | some w => equals v w
          | none => false) && equalMembers rest ns

/-- `value in items`. -/
def elementOf (v : Json) (items : List Json) : Bool :=
  items.any fun item => v.equals item

/-- `isinstance(value, (int, float))`; a truth value is an `int`. -/
def isReal : Json -> Bool
  | .bool _ => true
  | .int _ => true
  | .float _ => true
  | _ => false

/-- A number of JSON. -/
def isNumber : Json -> Bool
  | .int _ => true
  | .float _ => true
  | _ => false

def HashKey.less : HashKey -> HashKey -> Bool
  | .number a, .number b => decide (a < b)
  | .number _, .infinite negative => !negative
  | .infinite negative, .number _ => negative
  | .infinite a, .infinite b => a && !b
  | _, _ => false

/-- `v < w` of two numbers. -/
def less (v w : Json) : Bool :=
  match v.hashKey, w.hashKey with
  | some a, some b => a.less b
  | _, _ => false

/-- `v <= w` of two numbers. -/
def atMost (v w : Json) : Bool :=
  v.less w || v.equals w

/-- The number a length is compared with: `isinstance(value, int)`. -/
def index? : Json -> Option Int
  | .bool b => some (if b then 1 else 0)
  | .int n => some n
  | _ => none

/-- A number without a fractional part. -/
def whole? (v : Json) : Option Int :=
  match v.number? with
  | some scaled =>
      if (doubleOne : Int) ∣ scaled then some (scaled / doubleOne) else none
  | none => none

theorem whole_scaled {v : Json} {scaled n : Int} (h : v.number? = some scaled) :
    v.whole? = some n <-> scaled = n * doubleOne := by
  have hone : (doubleOne : Int) ≠ 0 := by
    have hpos := doubleOne_pos
    omega
  unfold whole?
  rw [h]
  show (if (doubleOne : Int) ∣ scaled then
    some (scaled / doubleOne) else none) = some n <-> _
  constructor
  · intro hn
    split at hn
    · rename_i hdvd
      rw [← Option.some.inj hn, Int.ediv_mul_cancel hdvd]
    · cases hn
  · intro hn
    rw [hn, if_pos (Int.dvd_mul_left n doubleOne), Int.mul_ediv_cancel n hone]

theorem whole_int (n : Int) : whole? (.int n) = some n :=
  (whole_scaled rfl).mpr rfl

/-!
## Values of JSON
-/

/-- Finite numbers, and objects whose keys are distinct. -/
def properNode : Json -> Bool
  | .float (.finite _ _ _) => true
  | .float _ => false
  | .object members => decide (Members.keys members).Nodup
  | _ => true

def IsJson (v : Json) : Prop :=
  v.all properNode = true

instance (v : Json) : Decidable (IsJson v) :=
  inferInstanceAs (Decidable (_ = true))

theorem IsJson.item {items : List Json} {v : Json}
    (h : IsJson (.array items)) (hv : v ∈ items) : IsJson v :=
  all_item h hv

theorem IsJson.member {members : Members} {k : PyStr} {v : Json}
    (h : IsJson (.object members)) (hv : (k, v) ∈ members) : IsJson v :=
  all_member h hv

theorem IsJson.lookup {members : Members} {k : PyStr} {v : Json}
    (h : IsJson (.object members)) (hv : members.lookup k = some v) :
    IsJson v :=
  all_lookup h hv

theorem IsJson.keys_nodup {members : Members}
    (h : IsJson (.object members)) : members.keys.Nodup :=
  of_decide_eq_true (all_self (p := properNode) h)

theorem lookup_of_mem {members : Members} {k : PyStr} {v : Json}
    (hkeys : members.keys.Nodup) (h : (k, v) ∈ members) :
    members.lookup k = some v := by
  induction members with
  | nil => cases h
  | cons m rest ih =>
      rcases m with ⟨l, w⟩
      rcases List.nodup_cons.mp hkeys with ⟨hl, hrest⟩
      rcases List.mem_cons.mp h with heq | h
      · have hk : k = l := congrArg Prod.fst heq
        have hv : v = w := congrArg Prod.snd heq
        rw [hk, hv]
        exact List.lookup_cons_self
      · have hne : k ≠ l := by
          intro heq
          have hk : k ∈ rest.map Prod.fst := List.mem_map_of_mem h
          exact hl (heq ▸ hk)
        rw [List.lookup_cons, beq_eq_false_iff_ne.mpr hne]
        exact ih hrest h

/-!
## Truth values against numbers
-/

/-- Somewhere at the same place a truth value stands on one side and the number
it equals on the other. -/
inductive Mixed : Json -> Json -> Prop where
  | truthNumber {b : Bool} {w : Json} : w.isNumber = true ->
      equals (.bool b) w = true -> Mixed (.bool b) w
  | numberTruth {b : Bool} {v : Json} : v.isNumber = true ->
      equals v (.bool b) = true -> Mixed v (.bool b)
  | item {vs ws : List Json} {v w : Json} : (v, w) ∈ vs.zip ws ->
      Mixed v w -> Mixed (.array vs) (.array ws)
  | member {ms ns : Members} {k : PyStr} {v w : Json} :
      (k, v) ∈ ms -> ns.lookup k = some w -> Mixed v w ->
      Mixed (.object ms) (.object ns)

section Scalars

variable {v w : Json}

theorem hashKey_bool (b : Bool) :
    (Json.bool b).hashKey = some (.number (if b then doubleOne else 0)) := rfl

theorem hashKey_eq_none (h : v.hashKey = some .none) : v = .null := by
  cases v with
  | null => rfl
  | bool b => cases h
  | int n => cases h
  | float x => cases x <;> cases h
  | str s => cases h
  | array items => cases h
  | object members => cases h

theorem hashKey_eq_text {s : PyStr} (h : v.hashKey = some (.text s)) :
    v = .str s := by
  cases v with
  | str t => rw [HashKey.text.inj (Option.some.inj h)]
  | null => cases h
  | bool b => cases h
  | int n => cases h
  | float x => cases x <;> cases h
  | array items => cases h
  | object members => cases h

theorem hashKey_eq_number {n : Int} (h : v.hashKey = some (.number n)) :
    (exists b, v = .bool b) ∨ v.isNumber = true ∧ v.number? = some n := by
  cases v with
  | bool b => exact Or.inl ⟨b, rfl⟩
  | int m =>
      have hn := HashKey.number.inj (Option.some.inj h)
      exact Or.inr ⟨rfl, congrArg some hn⟩
  | float x =>
      cases x with
      | finite negative magnitude representable =>
          have hn := HashKey.number.inj (Option.some.inj h)
          exact Or.inr ⟨rfl, congrArg some hn⟩
      | infinite negative => cases h
      | nan => cases h
  | null => cases h
  | str s => cases h
  | array items => cases h
  | object members => cases h

theorem hashKey_of_number {n : Int} (h : v.number? = some n) :
    v.hashKey = some (.number n) := by
  cases v with
  | int m => rw [hashKey_int, Option.some.inj h]
  | float x =>
      cases x with
      | finite negative magnitude representable =>
          exact congrArg (fun n => some (HashKey.number n)) (Option.some.inj h)
      | infinite negative => cases h
      | nan => cases h
  | null => cases h
  | bool b => cases h
  | str s => cases h
  | array items => cases h
  | object members => cases h

theorem hashKey_finite {a : HashKey} (hv : IsJson v) (h : v.hashKey = some a) :
    a ≠ .nan ∧ forall negative, a ≠ .infinite negative := by
  cases v with
  | float x =>
      cases x with
      | finite negative magnitude representable =>
          rw [← Option.some.inj h]
          exact ⟨nofun, nofun⟩
      | infinite negative => cases hv
      | nan => cases hv
  | null =>
      rw [← Option.some.inj h]
      exact ⟨nofun, nofun⟩
  | bool b =>
      rw [← Option.some.inj h]
      exact ⟨nofun, nofun⟩
  | int n =>
      rw [← Option.some.inj h]
      exact ⟨nofun, nofun⟩
  | str s =>
      rw [← Option.some.inj h]
      exact ⟨nofun, nofun⟩
  | array items => cases h
  | object members => cases h

theorem equals_scalar {a b : HashKey} (hv : v.hashKey = some a)
    (hw : w.hashKey = some b) :
    equals v w = true <-> a = b ∧ a ≠ .nan := by
  unfold equals
  split
  · cases hv
  · cases hv
  · rw [hv, hw]
    exact decide_eq_true_iff

theorem same_scalar {a : HashKey} (hv : IsJson v) (hkey : v.hashKey = some a)
    (hkey' : w.hashKey = some a) (hmixed : ¬ Mixed v w) : Same v w := by
  have hequals : equals v w = true :=
    (equals_scalar hkey hkey').mpr ⟨rfl, (hashKey_finite hv hkey).left⟩
  cases a with
  | none =>
      rw [hashKey_eq_none hkey, hashKey_eq_none hkey']
      exact Same.null
  | text s =>
      rw [hashKey_eq_text hkey, hashKey_eq_text hkey']
      exact Same.str s
  | number n =>
      rcases hashKey_eq_number hkey with ⟨b, hb⟩ | ⟨hnumber, hn⟩
      · rcases hashKey_eq_number hkey' with ⟨c, hc⟩ | ⟨hnumber', _⟩
        · subst hb
          subst hc
          have hbits : (if b then (doubleOne : Int) else 0) =
              if c then (doubleOne : Int) else 0 := by
            rw [hashKey_bool] at hkey hkey'
            have hn := HashKey.number.inj (Option.some.inj hkey)
            have hn' := HashKey.number.inj (Option.some.inj hkey')
            exact hn.trans hn'.symm
          have hone := doubleOne_pos
          have hbc : b = c := by
            cases b with
            | true =>
                cases c with
                | true => rfl
                | false =>
                    simp only [if_true, Bool.false_eq_true, if_false] at hbits
                    omega
            | false =>
                cases c with
                | false => rfl
                | true =>
                    simp only [if_true, Bool.false_eq_true, if_false] at hbits
                    omega
          rw [hbc]
          exact Same.bool c
        · subst hb
          exact absurd (Mixed.truthNumber hnumber' hequals) hmixed
      · rcases hashKey_eq_number hkey' with ⟨c, hc⟩ | ⟨_, hn'⟩
        · subst hc
          exact absurd (Mixed.numberTruth hnumber hequals) hmixed
        · exact Same.number hn hn'
  | infinite negative =>
      exact absurd rfl ((hashKey_finite hv hkey).right negative)
  | nan => exact absurd rfl (hashKey_finite hv hkey).left

/-- A scalar equals only scalars of its own hash. -/
theorem same_of_equals_scalar {a : HashKey} (hv : IsJson v)
    (hkey : v.hashKey = some a) (h : equals v w = true)
    (hmixed : ¬ Mixed v w) : Same v w := by
  cases hkey' : w.hashKey with
  | some b =>
      have hab := ((equals_scalar hkey hkey').mp h).left
      subst hab
      exact same_scalar hv hkey hkey' hmixed
  | none =>
      unfold equals at h
      split at h
      · cases hkey
      · cases hkey
      · rw [hkey'] at h
        cases hkey'' : v.hashKey <;> rw [hkey''] at h <;> cases h

theorem equals_of_number {n : Int} (hv : v.number? = some n)
    (hw : w.number? = some n) : equals v w = true :=
  (equals_scalar (hashKey_of_number hv) (hashKey_of_number hw)).mpr
    ⟨rfl, nofun⟩

end Scalars

/-!
## Equality and sameness
-/

section Members

variable {ms ns : Members}

theorem lookup_isSome {k : PyStr} :
    (exists v, ns.lookup k = some v) <-> k ∈ ns.keys := by
  unfold Members.keys
  rw [← Option.isSome_iff_exists, List.lookup_isSome_iff]
  simp

/-- As many members, and none of them missing on the other side. -/
theorem mem_keys_iff (hkeys : ms.keys.Nodup) (hlength : ms.length = ns.length)
    (h : forall k v, (k, v) ∈ ms -> exists w, ns.lookup k = some w)
    (k : PyStr) : k ∈ ms.keys <-> k ∈ ns.keys := by
  have hsub : ms.keys ⊆ ns.keys := by
    intro l hl
    rcases List.mem_map.mp hl with ⟨⟨l', v⟩, hmem, heq⟩
    have hkey : l' = l := heq
    subst hkey
    exact lookup_isSome.mp (h l' v hmem)
  have hperm : ms.keys.Perm ns.keys := by
    apply (List.subperm_of_subset hkeys hsub).perm_of_length_le
    simp [Members.keys, hlength]
  exact hperm.mem_iff

theorem length_eq_of_keys (hms : ms.keys.Nodup) (hns : ns.keys.Nodup)
    (h : forall k, k ∈ ms.keys <-> k ∈ ns.keys) : ms.length = ns.length := by
  have hperm : ms.keys.Perm ns.keys := (List.perm_ext_iff_of_nodup hms hns).mpr h
  have hlength := hperm.length_eq
  simp only [Members.keys, List.length_map] at hlength
  exact hlength

end Members

mutual

theorem same_of_equals : forall {v w : Json}, IsJson v ->
    equals v w = true -> ¬ Mixed v w -> Same v w
  | .array vs, w, hv, h, hmixed => by
      cases w with
      | array ws =>
          apply Same.array
          apply same_of_equalItems vs ws (fun v hmem => hv.item hmem) h
          intro v w hzip hbad
          exact hmixed (Mixed.item hzip hbad)
      | null => cases h
      | bool b => cases h
      | int n => cases h
      | float x => cases h
      | str s => cases h
      | object ns => cases h
  | .object ms, w, hv, h, hmixed => by
      cases w with
      | object ns =>
          rcases Bool.and_eq_true_iff.mp h with ⟨hlength, hmembers⟩
          have hall := same_of_equalMembers ms ns
            (fun m hmem => hv.member hmem) hmembers
            (fun k v w hmem hw hbad => hmixed (Mixed.member hmem hw hbad))
          apply Same.object
          · exact mem_keys_iff hv.keys_nodup (beq_iff_eq.mp hlength)
              fun k v hmem =>
                let ⟨w, hw, _⟩ := hall k v hmem
                ⟨w, hw⟩
          · intro k v w hk hw
            rcases hall k v (mem_of_lookup hk) with ⟨w', hw', hsame⟩
            rw [hw] at hw'
            rw [Option.some.inj hw']
            exact hsame
      | null => cases h
      | bool b => cases h
      | int n => cases h
      | float x => cases h
      | str s => cases h
      | array ws => cases h
  | .null, w, hv, h, hmixed => same_of_equals_scalar hv rfl h hmixed
  | .bool b, w, hv, h, hmixed => same_of_equals_scalar hv rfl h hmixed
  | .int n, w, hv, h, hmixed => same_of_equals_scalar hv rfl h hmixed
  | .float (.finite _ _ _), w, hv, h, hmixed =>
      same_of_equals_scalar hv rfl h hmixed
  | .float (.infinite _), w, hv, h, hmixed => by cases hv
  | .float .nan, w, hv, h, hmixed => by cases hv
  | .str s, w, hv, h, hmixed => same_of_equals_scalar hv rfl h hmixed

theorem same_of_equalItems : forall vs ws : List Json,
    (forall v, v ∈ vs -> IsJson v) -> equals.equalItems vs ws = true ->
    (forall v w, (v, w) ∈ vs.zip ws -> ¬ Mixed v w) ->
    List.Forall₂ Same vs ws
  | [], [], _, _, _ => List.Forall₂.nil
  | [], _ :: _, _, h, _ => by cases h
  | _ :: _, [], _, h, _ => by cases h
  | v :: vs, w :: ws, hjson, h, hmixed => by
      rcases Bool.and_eq_true_iff.mp h with ⟨hhead, htail⟩
      have hhead := same_of_equals (hjson v List.mem_cons_self) hhead
        (hmixed v w List.mem_cons_self)
      exact List.Forall₂.cons hhead
        (same_of_equalItems vs ws
          (fun v' hv' => hjson v' (List.mem_cons_of_mem v hv')) htail
          (fun v' w' hzip => hmixed v' w' (List.mem_cons_of_mem _ hzip)))

theorem same_of_equalMembers : forall ms ns : Members,
    (forall m, m ∈ ms -> IsJson m.snd) ->
    equals.equalMembers ms ns = true ->
    (forall k v w, (k, v) ∈ ms -> ns.lookup k = some w -> ¬ Mixed v w) ->
    forall k v, (k, v) ∈ ms -> exists w, ns.lookup k = some w ∧ Same v w
  | [], _, _, _, _, _, _, h => by cases h
  | (l, u) :: rest, ns, hjson, h, hmixed, k, v, hmem => by
      rcases Bool.and_eq_true_iff.mp h with ⟨hhead, htail⟩
      rcases List.mem_cons.mp hmem with heq | hmem
      · cases heq
        cases hw : ns.lookup l with
        | none =>
            rw [hw] at hhead
            cases hhead
        | some w =>
            rw [hw] at hhead
            exact ⟨w, rfl, same_of_equals (hjson _ List.mem_cons_self) hhead
              (hmixed l u w List.mem_cons_self hw)⟩
      · exact same_of_equalMembers rest ns
          (fun m hm => hjson m (List.mem_cons_of_mem _ hm)) htail
          (fun k' v' w' hm => hmixed k' v' w' (List.mem_cons_of_mem _ hm))
          k v hmem

end

mutual

theorem equals_of_same : forall {v w : Json}, IsJson v -> IsJson w ->
    Same v w -> equals v w = true
  | .array vs, w, hv, hw, h => by
      cases h with
      | number hn _ => cases hn
      | array hitems =>
          exact equalItems_of_same vs _ (fun v hmem => hv.item hmem)
            (fun w hmem => hw.item hmem) hitems
  | .object ms, w, hv, hw, h => by
      cases h with
      | number hn _ => cases hn
      | @object _ ns hkeys hmembers =>
          have hlength : (ms.length == ns.length) = true :=
            beq_iff_eq.mpr
              (length_eq_of_keys hv.keys_nodup hw.keys_nodup hkeys)
          refine Bool.and_eq_true_iff.mpr ⟨hlength, ?_⟩
          apply equalMembers_of_same ms ns (fun m hmem => hv.member hmem) hw
          intro k v hmem
          have hlookup := lookup_of_mem hv.keys_nodup hmem
          rcases lookup_isSome.mpr
            ((hkeys k).mp (lookup_isSome.mp ⟨v, hlookup⟩)) with ⟨w, hw⟩
          exact ⟨w, hw, hmembers k v w hlookup hw⟩
  | .null, w, _, _, h => by
      cases h with
      | null => rfl
      | number hn _ => cases hn
  | .bool b, w, _, _, h => by
      cases h with
      | bool => exact (equals_scalar rfl rfl).mpr ⟨rfl, nofun⟩
      | number hn _ => cases hn
  | .int n, w, _, _, h => by
      cases h with
      | number hn hm => exact equals_of_number hn hm
  | .float x, w, _, _, h => by
      cases h with
      | number hn hm => exact equals_of_number hn hm
  | .str s, w, _, _, h => by
      cases h with
      | str => exact (equals_scalar rfl rfl).mpr ⟨rfl, nofun⟩
      | number hn _ => cases hn

theorem equalItems_of_same : forall vs ws : List Json,
    (forall v, v ∈ vs -> IsJson v) -> (forall w, w ∈ ws -> IsJson w) ->
    List.Forall₂ Same vs ws -> equals.equalItems vs ws = true
  | [], _, _, _, h => by
      cases h with
      | nil => rfl
  | v :: vs, _, hv, hw, h => by
      cases h with
      | @cons _ w _ ws hhead htail =>
          exact Bool.and_eq_true_iff.mpr
            ⟨equals_of_same (hv v List.mem_cons_self)
                (hw w List.mem_cons_self) hhead,
              equalItems_of_same vs ws
                (fun v' h => hv v' (List.mem_cons_of_mem v h))
                (fun w' h => hw w' (List.mem_cons_of_mem w h)) htail⟩

theorem equalMembers_of_same : forall ms ns : Members,
    (forall m, m ∈ ms -> IsJson m.snd) -> IsJson (.object ns) ->
    (forall k v, (k, v) ∈ ms ->
      exists w, ns.lookup k = some w ∧ Same v w) ->
    equals.equalMembers ms ns = true
  | [], _, _, _, _ => rfl
  | (k, v) :: rest, ns, hms, hns, h => by
      rcases h k v List.mem_cons_self with ⟨w, hw, hsame⟩
      have hhead := equals_of_same (hms _ List.mem_cons_self) (hns.lookup hw)
        hsame
      refine Bool.and_eq_true_iff.mpr ⟨?_, ?_⟩
      · rw [hw]
        exact hhead
      · exact equalMembers_of_same rest ns
          (fun m hm => hms m (List.mem_cons_of_mem _ hm)) hns
          (fun k' v' hm => h k' v' (List.mem_cons_of_mem _ hm))

end

/-- Python's equality and JSON's agree where no truth value meets a number. -/
theorem equals_iff_same {v w : Json} (hv : IsJson v) (hw : IsJson w)
    (hmixed : ¬ Mixed v w) : equals v w = true <-> Same v w := by
  constructor
  · intro h
    exact same_of_equals hv h hmixed
  · exact equals_of_same hv hw

/-!
Numbers are ordered by value.
-/

theorem less_iff {v w : Json} {a b : Int} (hv : v.number? = some a)
    (hw : w.number? = some b) : v.less w = true <-> a < b := by
  unfold less
  rw [hashKey_of_number hv, hashKey_of_number hw]
  exact decide_eq_true_iff

/-!
A number is finite, infinite or a NaN.  A NaN is neither below nor above any
number; of all others, one is at most another when it does not lie above it.
-/

theorem number_hashKey_cases {v : Json} (h : v.isNumber = true) :
    (exists n, v.hashKey = some (.number n)) ∨
      (exists negative, v.hashKey = some (.infinite negative)) ∨
      v = .float .nan := by
  cases v with
  | int n => exact Or.inl ⟨n * doubleOne, rfl⟩
  | float x =>
      cases x with
      | finite negative magnitude representable => exact Or.inl ⟨_, rfl⟩
      | infinite negative => exact Or.inr (Or.inl ⟨negative, rfl⟩)
      | nan => exact Or.inr (Or.inr rfl)
  | null => cases h
  | bool b => cases h
  | str s => cases h
  | array items => cases h
  | object members => cases h

theorem number_hashKey_isSome {v : Json} (h : v.isNumber = true) :
    exists a, v.hashKey = some a := by
  rcases number_hashKey_cases h with ⟨n, hn⟩ | ⟨negative, hn⟩ | hnan
  · exact ⟨_, hn⟩
  · exact ⟨_, hn⟩
  · exact ⟨.nan, by rw [hnan]; rfl⟩

theorem less_scalar {v w : Json} {a b : HashKey} (hv : v.hashKey = some a)
    (hw : w.hashKey = some b) : v.less w = a.less b := by
  unfold less
  rw [hv, hw]

theorem atMost_scalar {v w : Json} {a b : HashKey} (hv : v.hashKey = some a)
    (hw : w.hashKey = some b) :
    v.atMost w = true <-> a.less b = true ∨ a = b ∧ a ≠ .nan := by
  unfold atMost
  rw [Bool.or_eq_true, less_scalar hv hw, equals_scalar hv hw]

theorem not_nan_atMost {w : Json} (hw : w.isNumber = true) :
    ¬ (Json.float .nan).atMost w = true := by
  rcases number_hashKey_isSome hw with ⟨b, hb⟩
  rw [atMost_scalar (show (Json.float .nan).hashKey = some .nan from rfl) hb]
  simp [HashKey.less]

theorem not_atMost_nan {v : Json} (hv : v.isNumber = true) :
    ¬ v.atMost (.float .nan) = true := by
  rcases number_hashKey_isSome hv with ⟨a, ha⟩
  rw [atMost_scalar ha (show (Json.float .nan).hashKey = some .nan from rfl)]
  cases a with
  | nan => simp [HashKey.less]
  | none => simp [HashKey.less]
  | number n => simp [HashKey.less]
  | infinite negative => simp [HashKey.less]
  | text s => simp [HashKey.less]

theorem atMost_iff_not_less {v w : Json} (hv : v.isNumber = true)
    (hw : w.isNumber = true) (hv' : v ≠ .float .nan) (hw' : w ≠ .float .nan) :
    v.atMost w = true <-> w.less v = false := by
  rcases number_hashKey_cases hv with ⟨a, ha⟩ | ⟨a, ha⟩ | ha
  · rcases number_hashKey_cases hw with ⟨b, hb⟩ | ⟨b, hb⟩ | hb
    · rw [atMost_scalar ha hb, less_scalar hb ha]
      simp only [HashKey.less, decide_eq_true_eq, decide_eq_false_iff_not,
        HashKey.number.injEq, not_lt]
      rw [and_iff_left nofun]
      exact Int.le_iff_lt_or_eq.symm
    · rw [atMost_scalar ha hb, less_scalar hb ha]
      simp [HashKey.less]
    · exact absurd hb hw'
  · rcases number_hashKey_cases hw with ⟨b, hb⟩ | ⟨b, hb⟩ | hb
    · rw [atMost_scalar ha hb, less_scalar hb ha]
      simp [HashKey.less]
    · rw [atMost_scalar ha hb, less_scalar hb ha]
      cases a with
      | false => cases b with
        | false => simp [HashKey.less]
        | true => simp [HashKey.less]
      | true => cases b with
        | false => simp [HashKey.less]
        | true => simp [HashKey.less]
    · exact absurd hb hw'
  · exact absurd ha hv'

end Json
end Python
end EidolonSdk
