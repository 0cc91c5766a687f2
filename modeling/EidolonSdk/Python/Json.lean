import Mathlib.Data.List.Forall2
import EidolonSdk.Python.Interpreter

/-!
# Decoded JSON

What {lit}`json.loads` returns, and what Python does with such a value when the
code does not know its type: truth, text, hashing.  Objects keep the order of
their members; two documents are the same JSON value when they agree up to that
order and up to the spelling of numbers.
-/

namespace EidolonSdk
namespace Python

inductive Json where
  | null
  | bool (b : Bool)
  | int (n : Int)
  | float (x : Double)
  | str (s : PyStr)
  | array (items : List Json)
  | object (members : List (PyStr × Json))

abbrev Members := List (PyStr × Json)

/-- `members.get(key)`, or `members[key]` where a missing key matters. -/
def Members.get (members : Members) (key : String) : Option Json :=
  members.lookup (str key)

def Members.keys (members : Members) : List PyStr :=
  members.map Prod.fst

@[simp] theorem Members.get_nil (key : String) :
    Members.get [] key = none := rfl

@[simp] theorem Members.get_cons (name key : String) (v : Json)
    (rest : Members) :
    Members.get ((str name, v) :: rest) key =
      if key = name then some v else Members.get rest key :=
  lookup_str_cons name key v rest

@[simp] theorem Members.get_append (front rest : Members) (key : String) :
    Members.get (front ++ rest) key =
      (Members.get front key).or (Members.get rest key) := by
  unfold Members.get
  exact List.lookup_append

theorem Members.get_isSome {members : Members} {key : String} :
    (members.get key).isSome = true <-> str key ∈ members.keys := by
  unfold Members.get Members.keys
  simp [List.lookup_isSome_iff]

/-- No member but those named. -/
theorem Members.keys_subset_iff {members : Members} {names : List String} :
    members.keys ⊆ names.map str <->
      (members.all fun member => names.any fun name => str name == member.fst) =
        true := by
  simp [Members.keys, List.subset_def, List.all_eq_true]

theorem Members.lookup_filter (p : PyStr -> Bool) (members : Members) (k : PyStr) :
    (members.filter fun m => p m.fst).lookup k =
      if p k = true then members.lookup k else none := by
  induction members with
  | nil => simp
  | cons m rest ih =>
      rcases m with ⟨l, v⟩
      by_cases hkl : k = l
      · subst hkl
        cases hp : p k with
        | true =>
            rw [List.filter_cons_of_pos (by exact hp), List.lookup_cons_self,
              List.lookup_cons_self]
            rfl
        | false =>
            rw [List.filter_cons_of_neg (by rw [hp]; exact Bool.false_ne_true), ih, hp]
            rfl
      · cases hp : p l with
        | true =>
            rw [List.filter_cons_of_pos (by exact hp), List.lookup_cons, List.lookup_cons,
              beq_eq_false_iff_ne.mpr hkl]
            exact ih
        | false =>
            rw [List.filter_cons_of_neg (by rw [hp]; exact Bool.false_ne_true), ih,
              List.lookup_cons, beq_eq_false_iff_ne.mpr hkl]

namespace Json

/-- `bool(value)`. -/
def truthy : Json -> Bool
  | .null => false
  | .bool b => b
  | .int n => decide (n ≠ 0)
  | .float (.finite _ magnitude _) => decide (magnitude ≠ 0)
  | .float _ => true
  | .str s => !s.isEmpty
  | .array items => !items.isEmpty
  | .object members => !members.isEmpty

/-- `value or ""`. -/
def orEmpty (v : Option Json) : Json :=
  match v with
  | some v => if v.truthy then v else .str []
  | none => .str []

@[simp] theorem truthy_str (s : PyStr) : (Json.str s).truthy = !s.isEmpty := rfl

@[simp] theorem orEmpty_none : orEmpty none = .str [] := rfl

@[simp] theorem orEmpty_some_str (s : PyStr) :
    orEmpty (some (.str s)) = .str s := by
  cases s with
  | nil => rfl
  | cons c rest => rfl

/-!
## Hashing

A set keeps one of several members that compare equal; numbers compare by
value, truth values as zero and one, and the decoder hands out a single NaN.
-/

inductive HashKey where
  | none
  | number (scaled : Int)
  | infinite (negative : Bool)
  | nan
  | text (s : PyStr)
  deriving DecidableEq

/-- `hash(value)` up to collisions; `none` stands for the `TypeError` of an
unhashable value. -/
def hashKey : Json -> Option HashKey
  | .null => some .none
  | .bool b => some (.number (if b then doubleOne else 0))
  | .int n => some (.number (n * doubleOne))
  | .float (.finite negative magnitude _) =>
      some (.number (if negative then -(magnitude : Int) else magnitude))
  | .float (.infinite negative) => some (.infinite negative)
  | .float .nan => some .nan
  | .str s => some (.text s)
  | .array _ => none
  | .object _ => none

/-- `tuple(value)`. -/
def tuple : Json -> Except PyException (List Json)
  | .array items => pure items
  | .str s => pure (s.map fun c => .str [c])
  | .object members => pure (members.map fun m => .str m.fst)
  | _ => throw .typeError

@[simp] theorem tuple_array (items : List Json) :
    (Json.array items).tuple = .ok items := rfl

theorem tuple_error {v : Json} {e : PyException} (h : v.tuple = .error e) :
    e = .typeError := by
  cases v with
  | array items => cases h
  | str s => cases h
  | object members => cases h
  | null => exact (Except.error.inj h).symm
  | bool b => exact (Except.error.inj h).symm
  | int n => exact (Except.error.inj h).symm
  | float x => exact (Except.error.inj h).symm

/-- `value == n`. -/
def equalsInt (v : Json) (n : Int) : Bool :=
  v.hashKey == some (.number (n * doubleOne))

@[simp] theorem hashKey_str (s : PyStr) :
    (Json.str s).hashKey = some (.text s) := rfl

theorem hashKey_int (n : Int) :
    (Json.int n).hashKey = some (.number (n * doubleOne)) := rfl

theorem equalsInt_int {m n : Int} :
    (Json.int m).equalsInt n = true <-> m = n := by
  have hpos : (doubleOne : Int) ≠ 0 := by
    have hone := doubleOne_pos
    omega
  unfold equalsInt
  rw [hashKey_int, beq_iff_eq, Option.some.injEq, HashKey.number.injEq]
  constructor
  · intro h
    exact Int.eq_of_mul_eq_mul_right hpos h
  · intro h
    rw [h]

/-!
## Text
-/

section Text

variable (I : Interpreter)

def hexDigit (n : Nat) : CodePoint :=
  if n < 10 then Fin.ofNat 0x110000 (0x30 + n)
  else Fin.ofNat 0x110000 (0x61 + (n - 10))

/-- The lowest `digits` hexadecimal digits of `n`. -/
def hexText (digits n : Nat) : PyStr :=
  (List.range digits).reverse.map fun i => hexDigit (n / 16 ^ i % 16)

/-- One character inside `repr` of a string. -/
def reprChar (quote c : CodePoint) : PyStr :=
  if c = quote ∨ c = codePoint '\\' then [codePoint '\\', c]
  else if c = codePoint '\t' then Python.str "\\t"
  else if c = codePoint '\n' then Python.str "\\n"
  else if c = codePoint '\r' then Python.str "\\r"
  else if I.printable c then [c]
  else if c.val < 0x100 then Python.str "\\x" ++ hexText 2 c.val
  else if c.val < 0x10000 then Python.str "\\u" ++ hexText 4 c.val
  else Python.str "\\U" ++ hexText 8 c.val

/-- `repr` of a string. -/
def reprStr (s : PyStr) : PyStr :=
  let quote :=
    if codePoint '\'' ∈ s ∧ codePoint '"' ∉ s then codePoint '"'
    else codePoint '\''
  [quote] ++ s.flatMap (reprChar I quote) ++ [quote]

/-- `repr(value)`. -/
def repr : Json -> PyStr
  | .null => Python.str "None"
  | .bool true => Python.str "True"
  | .bool false => Python.str "False"
  | .int n => Python.str (toString n)
  | .float x => Python.str (I.floatRepr x)
  | .str s => reprStr I s
  | .array items =>
      Python.str "[" ++ (Python.str ", ").intercalate (reprItems items) ++
        Python.str "]"
  | .object members =>
      Python.str "\x7b" ++ (Python.str ", ").intercalate (reprMembers members) ++
        Python.str "\x7d"
where
  reprItems : List Json -> List PyStr
    | [] => []
    | v :: rest => repr v :: reprItems rest
  reprMembers : Members -> List PyStr
    | [] => []
    | (k, v) :: rest =>
        (reprStr I k ++ Python.str ": " ++ repr v) :: reprMembers rest

/-- `str(value)`. -/
def text : Json -> PyStr
  | .str s => s
  | v => v.repr I

@[simp] theorem text_str (s : PyStr) : (Json.str s).text I = s := rfl

end Text

/-!
## The same JSON value
-/

/-- The value of a number, in units of the least subnormal. -/
def number? : Json -> Option Int
  | .int n => some (n * doubleOne)
  | .float x => x.scaled?
  | _ => none

inductive Same : Json -> Json -> Prop where
  | null : Same .null .null
  | bool (b : Bool) : Same (.bool b) (.bool b)
  | number {v w : Json} {value : Int} :
      v.number? = some value -> w.number? = some value -> Same v w
  | str (s : PyStr) : Same (.str s) (.str s)
  | array {vs ws : List Json} : List.Forall₂ Same vs ws ->
      Same (.array vs) (.array ws)
  | object {ms ns : Members} :
      (forall k, k ∈ ms.keys <-> k ∈ ns.keys) ->
      (forall k v w, ms.lookup k = some v -> ns.lookup k = some w -> Same v w) ->
      Same (.object ms) (.object ns)

namespace Same

theorem str_iff {s t : PyStr} : Same (.str s) (.str t) <-> s = t := by
  constructor
  · intro h
    cases h with
    | str => rfl
    | number hv _ => cases hv
  · intro h
    exact h ▸ Same.str s

theorem int_iff {m n : Int} : Same (.int m) (.int n) <-> m = n := by
  constructor
  · intro h
    cases h with
    | number hv hw =>
        have hscaled : m * (doubleOne : Int) = n * doubleOne :=
          Option.some.inj (hv.trans hw.symm)
        have hpos : (doubleOne : Int) ≠ 0 := by
          have hone := doubleOne_pos
          omega
        exact Int.eq_of_mul_eq_mul_right hpos hscaled
  · intro h
    subst h
    exact Same.number rfl rfl

theorem array_iff {vs ws : List Json} :
    Same (.array vs) (.array ws) <-> List.Forall₂ Same vs ws := by
  constructor
  · intro h
    cases h with
    | array hitems => exact hitems
    | number hv _ => cases hv
  · exact Same.array

/-- Arrays of dumped values are the same when the values are. -/
theorem array_map_inj {α : Type} {dump : α -> Json}
    (hdump : forall a b, Same (dump a) (dump b) -> a = b) {as bs : List α}
    (h : Same (.array (as.map dump)) (.array (bs.map dump))) : as = bs := by
  have hitems := array_iff.mp h
  rw [List.forall₂_map_left_iff, List.forall₂_map_right_iff] at hitems
  exact List.forall₂_eq_eq_eq ▸ hitems.imp hdump

variable {ms ns : Members}

theorem object_keys (h : Same (.object ms) (.object ns)) (k : PyStr) :
    k ∈ ms.keys <-> k ∈ ns.keys := by
  cases h with
  | object hkeys _ => exact hkeys k
  | number hv _ => cases hv

theorem object_get (h : Same (.object ms) (.object ns)) {key : String}
    {v w : Json} (hv : ms.get key = some v) (hw : ns.get key = some w) :
    Same v w := by
  cases h with
  | object _ hmembers => exact hmembers _ v w hv hw
  | number hv _ => cases hv

/-- Objects with the members of these names are compared name by name. -/
theorem object_iff_of_names {names : List String}
    (hms : forall k, k ∈ ms.keys <-> k ∈ names.map Python.str)
    (hns : forall k, k ∈ ns.keys <-> k ∈ names.map Python.str) :
    Same (.object ms) (.object ns) <-> forall name, name ∈ names -> forall v w,
      ms.get name = some v -> ns.get name = some w -> Same v w := by
  constructor
  · intro h name _ v w hv hw
    exact h.object_get hv hw
  · intro h
    apply Same.object
    · intro k
      rw [hms, hns]
    · intro k v w hv hw
      have hmem : k ∈ ms.keys := by
        rcases List.lookup_eq_some_iff.mp hv with ⟨front, back, hsplit, _⟩
        exact List.mem_map.mpr ⟨(k, v), by simp [hsplit], rfl⟩
      rcases List.mem_map.mp ((hms k).mp hmem) with ⟨name, hname, heq⟩
      subst heq
      exact h name hname v w hv hw

/-- What is left of the same object under one choice of names. -/
theorem object_filter (p : PyStr -> Bool) (h : Same (.object ms) (.object ns)) :
    Same (.object (ms.filter fun m => p m.fst))
      (.object (ns.filter fun m => p m.fst)) := by
  have hkeys : forall (members : Members) (k : PyStr),
      k ∈ Members.keys (members.filter fun m => p m.fst) <->
        k ∈ members.keys ∧ p k = true := by
    intro members k
    simp only [Members.keys, List.mem_map, List.mem_filter]
    constructor
    · intro hk
      rcases hk with ⟨m, ⟨hm, hp⟩, rfl⟩
      exact ⟨⟨m, hm, rfl⟩, hp⟩
    · intro hk
      rcases hk with ⟨⟨m, hm, rfl⟩, hp⟩
      exact ⟨m, ⟨hm, hp⟩, rfl⟩
  cases h with
  | number hv _ => cases hv
  | object hsame hmembers =>
      apply Same.object
      · intro k
        rw [hkeys, hkeys, hsame k]
      · intro k v w hv hw
        rw [Members.lookup_filter] at hv hw
        split at hv
        · rename_i hp
          rw [if_pos hp] at hw
          exact hmembers k v w hv hw
        · cases hv

/-- An object is the same as itself when its values are; a NaN is not. -/
theorem object_self (h : forall m, m ∈ ms -> Same m.snd m.snd) :
    Same (.object ms) (.object ms) := by
  apply Same.object
  · intro k
    exact Iff.rfl
  · intro k v w hv hw
    rw [hv] at hw
    have hvw : v = w := Option.some.inj hw
    subst hvw
    rcases List.lookup_eq_some_iff.mp hv with ⟨front, back, hsplit, _⟩
    exact h (k, v) (by simp [hsplit])

/-- The members of one name are there in both objects, with one value, or in
neither. -/
theorem get_rel (h : Same (.object ms) (.object ns)) (key : String) :
    Option.Rel Same (ms.get key) (ns.get key) := by
  have hkeys : (ms.get key).isSome = (ns.get key).isSome := by
    rw [Bool.eq_iff_iff, Members.get_isSome, Members.get_isSome]
    exact h.object_keys (Python.str key)
  cases hm : ms.get key with
  | none =>
      rw [hm] at hkeys
      cases hn : ns.get key with
      | none => exact Option.Rel.none
      | some w => simp [hn] at hkeys
  | some v =>
      rw [hm] at hkeys
      cases hn : ns.get key with
      | none => simp [hn] at hkeys
      | some w => exact Option.Rel.some (h.object_get hm hn)

end Same

end Json

end Python
end EidolonSdk
