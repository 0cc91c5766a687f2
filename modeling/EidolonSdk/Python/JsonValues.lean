import EidolonSdk.Python.Json

/-!
# Every part of a JSON value

A property of a JSON value and of everything inside it, and the text
{lit}`json.dumps` writes.  The text exists unless some integer inside the value
has too many digits to be written in decimal, so a value that was written once
has only integers that can be written again.
-/

namespace EidolonSdk
namespace Python

/-- `members.get(key)`, where a missing member reads as `None`. -/
def Members.getOrNone (members : Members) (key : String) : Json :=
  (members.get key).getD .null

theorem Members.getOrNone_eq {members : Members} {key : String} {v : Json}
    (h : v ≠ .null) :
    members.getOrNone key = v <-> members.get key = some v := by
  unfold getOrNone
  cases members.get key with
  | none => simp [h.symm]
  | some w => simp

namespace Json

/-!
## Parts
-/

def all (p : Json -> Bool) : Json -> Bool
  | .array items => p (.array items) && allItems items
  | .object members => p (.object members) && allMembers members
  | v => p v
where
  allItems : List Json -> Bool
    | [] => true
    | v :: rest => all p v && allItems rest
  allMembers : Members -> Bool
    | [] => true
    | (_, v) :: rest => all p v && allMembers rest

section All

variable {p : Json -> Bool}

theorem allItems_iff {items : List Json} :
    all.allItems p items = true <-> forall v, v ∈ items -> v.all p = true := by
  induction items with
  | nil => simp [all.allItems]
  | cons v rest ih => simp [all.allItems, ih]

theorem allMembers_iff {members : Members} :
    all.allMembers p members = true <->
      forall m, m ∈ members -> m.snd.all p = true := by
  induction members with
  | nil => simp [all.allMembers]
  | cons m rest ih => simp [all.allMembers, ih]

theorem all_self {v : Json} (h : v.all p = true) : p v = true := by
  cases v with
  | array items => exact (Bool.and_eq_true_iff.mp h).left
  | object members => exact (Bool.and_eq_true_iff.mp h).left
  | null => exact h
  | bool b => exact h
  | int n => exact h
  | float x => exact h
  | str s => exact h

theorem all_item {items : List Json} {v : Json}
    (h : (Json.array items).all p = true) (hv : v ∈ items) :
    v.all p = true :=
  allItems_iff.mp (Bool.and_eq_true_iff.mp h).right v hv

theorem all_member {members : Members} {k : PyStr} {v : Json}
    (h : (Json.object members).all p = true) (hv : (k, v) ∈ members) :
    v.all p = true :=
  allMembers_iff.mp (Bool.and_eq_true_iff.mp h).right (k, v) hv

theorem mem_of_lookup {members : Members} {k : PyStr} {v : Json}
    (h : members.lookup k = some v) : (k, v) ∈ members := by
  rcases List.lookup_eq_some_iff.mp h with ⟨front, back, hsplit, _⟩
  simp [hsplit]

theorem all_lookup {members : Members} {k : PyStr} {v : Json}
    (h : (Json.object members).all p = true)
    (hv : members.lookup k = some v) : v.all p = true :=
  all_member h (mem_of_lookup hv)

theorem all_getOrNone {members : Members} {key : String} {v : Json}
    (h : (Json.object members).all p = true)
    (hv : members.getOrNone key = v) (hnull : v ≠ .null) : v.all p = true :=
  all_lookup h ((Members.getOrNone_eq hnull).mp hv)

end All

/-!
## Writing JSON
-/

/-- The integers with a decimal text; of a longer one every conversion to text
raises `ValueError`. -/
def shortInteger : Json -> Bool
  | .int n =>
      decide ((Nat.toDigits 10 n.natAbs).length ≤ Interpreter.maxStrDigits)
  | _ => true

/-- One character inside a JSON string, with `ensure_ascii=False`. -/
def escapeChar (c : CodePoint) : PyStr :=
  if c = codePoint '"' then Python.str "\\\""
  else if c = codePoint '\\' then Python.str "\\\\"
  else if c = codePoint '\n' then Python.str "\\n"
  else if c = codePoint '\r' then Python.str "\\r"
  else if c = codePoint '\t' then Python.str "\\t"
  else if c.val = 0xC then Python.str "\\f"
  else if c.val = 0x8 then Python.str "\\b"
  else if c.val < 0x20 then Python.str "\\u" ++ hexText 4 c.val
  else [c]

def quoted (s : PyStr) : PyStr :=
  Python.str "\"" ++ s.flatMap escapeChar ++ Python.str "\""

section Dumps

variable (I : Interpreter)

/-- JSON text with the separators `","` and `":"`. -/
def compactText : Json -> PyStr
  | .null => Python.str "null"
  | .bool true => Python.str "true"
  | .bool false => Python.str "false"
  | .int n => Python.str (toString n)
  | .float .nan => Python.str "NaN"
  | .float (.infinite false) => Python.str "Infinity"
  | .float (.infinite true) => Python.str "-Infinity"
  | .float x => Python.str (I.floatRepr x)
  | .str s => quoted s
  | .array items =>
      Python.str "[" ++ (Python.str ",").intercalate (compactItems items) ++
        Python.str "]"
  | .object members =>
      Python.str "\x7b" ++
        (Python.str ",").intercalate (compactMembers members) ++
        Python.str "\x7d"
where
  compactItems : List Json -> List PyStr
    | [] => []
    | v :: rest => compactText v :: compactItems rest
  compactMembers : Members -> List PyStr
    | [] => []
    | (k, v) :: rest =>
        (quoted k ++ Python.str ":" ++ compactText v) :: compactMembers rest

/-- `json.dumps(value, ensure_ascii=False, separators=(",", ":"))`. -/
def dumps (v : Json) : Except PyException PyStr :=
  if v.all shortInteger then pure (v.compactText I) else throw .valueError

/-- `f"{value}"`. -/
def format (v : Json) : Except PyException PyStr :=
  if v.all shortInteger then pure (v.text I) else throw .valueError

variable {I}

theorem dumps_eq_ok {v : Json} {s : PyStr} :
    v.dumps I = .ok s <-> v.all shortInteger = true ∧ v.compactText I = s := by
  unfold dumps
  by_cases h : v.all shortInteger = true
  · simp [h, pure, Except.pure]
  · simp [h]

theorem format_eq_ok {v : Json} (h : v.all shortInteger = true) :
    v.format I = .ok (v.text I) :=
  if_pos h

end Dumps

end Json
end Python
end EidolonSdk
