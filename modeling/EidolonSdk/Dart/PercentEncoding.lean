import EidolonSdk.Python.Interpreter
import EidolonSdk.Python.Json
import EidolonSdk.Python.Utf8

/-!
# Percent-encoding in a Dart URI

How {lit}`Uri` rewrites the text of one component: an escape of an unreserved
character is decoded, any other escape gets upper-case digits, and a character
the component does not admit is escaped or refused.  A text is left as it is
exactly when nothing in it is spelled otherwise.
-/

namespace EidolonSdk
namespace Dart

open Python

/-!
## Characters
-/

def among (marks : String) (c : CodePoint) : Bool :=
  (str marks).contains c

theorem ne_of_among {marks : String} {c d : CodePoint} (hc : among marks c = true)
    (hd : among marks d = false) : c ≠ d := by
  intro heq
  rw [heq, hd] at hc
  cases hc

/-- `_isUnreservedChar`. -/
def isUnreserved (c : CodePoint) : Bool :=
  among "ABCDEFGHIJKLMNOPQRSTUVWXYZabcdefghijklmnopqrstuvwxyz0123456789-._~" c

/-- `_isGeneralDelimiter`. -/
def isGeneralDelimiter (c : CodePoint) : Bool :=
  among ":/?#[]@" c

def isHexDigit (c : CodePoint) : Bool :=
  among "0123456789abcdefABCDEF" c

def hexDigitValue (c : CodePoint) : Nat :=
  if c.val ≤ 0x39 then c.val - 0x30 else c.val % 0x20 + 9

/-- An octet as an escape. -/
def percentEncode (octet : Byte) : PyStr :=
  [codePoint '%', asciiUpper (Json.hexDigit (octet.val / 16)),
    asciiUpper (Json.hexDigit (octet.val % 16))]

/-- `_escapeChar`. -/
def escapeChar (c : CodePoint) : PyStr :=
  (utf8Char c).flatMap percentEncode

/-!
## Spellings
-/

/-- A character that stands for itself, or an escape. -/
inductive Spelling where
  | char (c : CodePoint)
  | escape (high low : CodePoint)
  deriving DecidableEq

def spellings : PyStr -> List Spelling
  | [] => []
  | [c] => [.char c]
  | [c, d] => [.char c, .char d]
  | c :: d :: e :: rest =>
      if c = codePoint '%' ∧ isHexDigit d = true ∧ isHexDigit e = true then
        .escape d e :: spellings rest
      else .char c :: spellings (d :: e :: rest)

/-- The letters that a component writes in lower case. -/
inductive Lowered where
  | none
  | decoded
  | all
  deriving DecidableEq

/-- What a component does to its characters. -/
structure CharRule where
  allowed : CodePoint -> Bool
  lowered : Lowered := .none
  escapeDelimiters : Bool := false
  /-- A percent sign that starts no escape is refused. -/
  strict : Bool := false

namespace CharRule

variable (rule : CharRule)

def caseOf (c : CodePoint) : CodePoint :=
  if rule.lowered = .all then asciiLower c else c

/-- A character that was escaped. -/
def decodedCase (c : CodePoint) : CodePoint :=
  if rule.lowered = .none then c else asciiLower c

/-- `_normalizeEscape`, and what the component makes of any other character. -/
def normalize : Spelling -> Option PyStr
  | .char c =>
      if c = codePoint '%' then
        if rule.strict = true then none else some (str "%25")
      else if rule.allowed c then some [rule.caseOf c]
      else if rule.escapeDelimiters = false ∧ isGeneralDelimiter c = true then none
      else some (escapeChar c)
  | .escape high low =>
      let c := Fin.ofNat 0x110000 (16 * hexDigitValue high + hexDigitValue low)
      if isUnreserved c then some [rule.decodedCase c]
      else some [codePoint '%', asciiUpper high, asciiUpper low]

def readAll : List Spelling -> Option PyStr
  | [] => some []
  | spelling :: rest => do
      let text ← rule.normalize spelling
      let back ← readAll rest
      pure (text ++ back)

/-- `_normalize`; `none` stands for `FormatException`. -/
def read (s : PyStr) : Option PyStr :=
  rule.readAll (spellings s)

/-- The component leaves the spelling as it is. -/
def keeps : Spelling -> Bool
  | .char c =>
      c != codePoint '%' && rule.allowed c && rule.caseOf c == c
  | .escape high low =>
      !isUnreserved
          (Fin.ofNat 0x110000 (16 * hexDigitValue high + hexDigitValue low)) &&
        asciiUpper high == high && asciiUpper low == low

/-- Nothing in the text is spelled otherwise. -/
def Normal (s : PyStr) : Prop :=
  forall spelling, spelling ∈ spellings s -> rule.keeps spelling = true

instance (s : PyStr) : Decidable (rule.Normal s) :=
  inferInstanceAs (Decidable (forall spelling, spelling ∈ spellings s -> _))

end CharRule

/-!
## The ranges of the characters
-/

/-- The code points from `first` on. -/
theorem mem_codePoints {first count : Nat} (hlast : first + count ≤ 0x110000)
    {c : CodePoint} :
    c ∈ (List.range count).map (fun n => Fin.ofNat 0x110000 (first + n)) <->
      first ≤ c.val ∧ c.val < first + count := by
  rw [List.mem_map]
  constructor
  · intro h
    rcases h with ⟨n, hn, rfl⟩
    have hval : (Fin.ofNat 0x110000 (first + n)).val = first + n :=
      Nat.mod_eq_of_lt (by have := List.mem_range.mp hn; omega)
    have := List.mem_range.mp hn
    omega
  · intro h
    rcases h with ⟨hleast, hmost⟩
    refine ⟨c.val - first, List.mem_range.mpr (by omega), ?_⟩
    apply Fin.ext
    show (first + (c.val - first)) % 0x110000 = c.val
    omega

theorem isUnreserved_iff {c : CodePoint} :
    isUnreserved c = true <->
      (0x41 ≤ c.val ∧ c.val < 0x5B) ∨ (0x61 ≤ c.val ∧ c.val < 0x7B) ∨
        (0x30 ≤ c.val ∧ c.val < 0x3A) ∨ (0x2D ≤ c.val ∧ c.val < 0x2F) ∨
        c.val = 0x5F ∨ c.val = 0x7E := by
  have hmarks : str "ABCDEFGHIJKLMNOPQRSTUVWXYZabcdefghijklmnopqrstuvwxyz0123456789-._~" =
      (List.range 26).map (fun n => Fin.ofNat 0x110000 (0x41 + n)) ++
        ((List.range 26).map (fun n => Fin.ofNat 0x110000 (0x61 + n)) ++
          ((List.range 10).map (fun n => Fin.ofNat 0x110000 (0x30 + n)) ++
            ((List.range 2).map (fun n => Fin.ofNat 0x110000 (0x2D + n)) ++
              [0x5F, 0x7E]))) := by
    decide
  unfold isUnreserved among
  rw [List.contains_iff_mem, hmarks]
  simp only [List.mem_append, mem_codePoints (by decide : 0x41 + 26 ≤ 0x110000),
    mem_codePoints (by decide : 0x61 + 26 ≤ 0x110000),
    mem_codePoints (by decide : 0x30 + 10 ≤ 0x110000),
    mem_codePoints (by decide : 0x2D + 2 ≤ 0x110000), List.mem_cons, Fin.ext_iff,
    List.not_mem_nil, or_false]
  rfl

theorem isHexDigit_iff {c : CodePoint} :
    isHexDigit c = true <->
      (0x30 ≤ c.val ∧ c.val < 0x3A) ∨ (0x61 ≤ c.val ∧ c.val < 0x67) ∨
        (0x41 ≤ c.val ∧ c.val < 0x47) := by
  have hmarks : str "0123456789abcdefABCDEF" =
      (List.range 10).map (fun n => Fin.ofNat 0x110000 (0x30 + n)) ++
        ((List.range 6).map (fun n => Fin.ofNat 0x110000 (0x61 + n)) ++
          (List.range 6).map (fun n => Fin.ofNat 0x110000 (0x41 + n))) := by
    decide
  unfold isHexDigit among
  rw [List.contains_iff_mem, hmarks]
  simp only [List.mem_append, mem_codePoints (by decide : 0x30 + 10 ≤ 0x110000),
    mem_codePoints (by decide : 0x61 + 6 ≤ 0x110000),
    mem_codePoints (by decide : 0x41 + 6 ≤ 0x110000)]

theorem val_asciiUpper (c : CodePoint) : (asciiUpper c).val =
    if 0x61 ≤ c.val ∧ c.val ≤ 0x7A then c.val - 0x20 else c.val := by
  unfold asciiUpper
  split_ifs
  · exact Nat.mod_eq_of_lt (by omega)
  · rfl

theorem val_asciiLower (c : CodePoint) : (asciiLower c).val =
    if 0x41 ≤ c.val ∧ c.val ≤ 0x5A then c.val + 0x20 else c.val := by
  unfold asciiLower
  split_ifs
  · exact Nat.mod_eq_of_lt (by omega)
  · rfl

theorem val_hexDigit {n : Nat} (h : n < 16) :
    (Json.hexDigit n).val = if n < 10 then 0x30 + n else 0x57 + n := by
  unfold Json.hexDigit
  split_ifs
  · exact Nat.mod_eq_of_lt (by omega)
  · have hval : 0x61 + (n - 10) = 0x57 + n := by omega
    rw [hval]
    exact Nat.mod_eq_of_lt (by omega)

/-!
## What is left as it is
-/

theorem escapeChar_head {c d : CodePoint} {rest back : PyStr}
    (h : escapeChar c ++ rest = d :: back) : d = codePoint '%' := by
  unfold escapeChar utf8Char at h
  split_ifs at h
  all_goals exact (List.cons.inj h).left.symm

theorem isUnreserved_percent : isUnreserved (codePoint '%') = false := by
  rw [← Bool.not_eq_true, isUnreserved_iff]
  decide

section Normal

variable {rule : CharRule}

theorem readAll_cons_eq_some {spelling : Spelling} {rest : List Spelling}
    {text : PyStr} :
    rule.readAll (spelling :: rest) = some text <->
      exists front back, rule.normalize spelling = some front ∧
        rule.readAll rest = some back ∧ front ++ back = text := by
  rw [CharRule.readAll]
  cases rule.normalize spelling with
  | none => simp
  | some front =>
      cases rule.readAll rest with
      | none => simp
      | some back => simp

/-- The percent sign stands for itself here. -/
def Stray (c : CodePoint) (rest : PyStr) : Prop :=
  c = codePoint '%' -> forall d e back, rest = d :: e :: back ->
    ¬ (isHexDigit d = true ∧ isHexDigit e = true)

theorem keeps_of_normalize_char {c : CodePoint} {front back rest : PyStr}
    (hstray : Stray c rest) (h : rule.normalize (.char c) = some front)
    (htext : front ++ back = c :: rest) :
    rule.keeps (.char c) = true ∧ back = rest := by
  simp only [CharRule.normalize] at h
  by_cases hpercent : c = codePoint '%'
  · rw [if_pos hpercent] at h
    split at h
    · cases h
    · cases h
      have hrest : codePoint '2' :: codePoint '5' :: back = rest :=
        (List.cons.inj htext).right
      exact absurd (by decide) (hstray hpercent _ _ _ hrest.symm)
  · rw [if_neg hpercent] at h
    by_cases hallowed : rule.allowed c = true
    · rw [if_pos hallowed] at h
      cases h
      rcases List.cons.inj htext with ⟨hcase, hback⟩
      exact ⟨by simp [CharRule.keeps, hpercent, hallowed, hcase], hback⟩
    · rw [if_neg hallowed] at h
      split at h
      · cases h
      · cases h
        exact absurd (escapeChar_head htext) hpercent

theorem normalize_char {c : CodePoint} (h : rule.keeps (.char c) = true) :
    rule.normalize (.char c) = some [c] := by
  simp only [CharRule.keeps, Bool.and_eq_true, bne_iff_ne, beq_iff_eq] at h
  rcases h with ⟨⟨hpercent, hallowed⟩, hcase⟩
  simp [CharRule.normalize, hpercent, hallowed, hcase]

theorem normalize_escape {high low : CodePoint}
    (h : rule.keeps (.escape high low) = true) :
    rule.normalize (.escape high low) = some [codePoint '%', high, low] := by
  simp only [CharRule.keeps, Bool.and_eq_true, Bool.not_eq_true', beq_iff_eq] at h
  rcases h with ⟨⟨hreserved, hhigh⟩, hlow⟩
  simp only [CharRule.normalize, hreserved, hhigh, hlow, Bool.false_eq_true, if_false]

theorem keeps_escape {high low : CodePoint} {value : Nat}
    (hvalue : 16 * hexDigitValue high + hexDigitValue low = value)
    (hreserved : isUnreserved (Fin.ofNat 0x110000 value) = false)
    (hhigh : asciiUpper high = high) (hlow : asciiUpper low = low) :
    rule.keeps (.escape high low) = true := by
  simp only [CharRule.keeps, hvalue, hreserved, hhigh, hlow, Bool.not_false,
    Bool.true_and, beq_self_eq_true]

theorem decodedCase_unreserved {c : CodePoint} (h : isUnreserved c = true) :
    isUnreserved (rule.decodedCase c) = true := by
  unfold CharRule.decodedCase
  split
  · exact h
  · rw [isUnreserved_iff] at h
    rw [isUnreserved_iff, val_asciiLower]
    split_ifs <;> omega

theorem decodedCase_ne_percent {c : CodePoint} (h : isUnreserved c = true) :
    rule.decodedCase c ≠ codePoint '%' :=
  ne_of_among (decodedCase_unreserved h) isUnreserved_percent

theorem keeps_of_normalize_escape {d e : CodePoint} {front back rest : PyStr}
    (h : rule.normalize (.escape d e) = some front)
    (htext : front ++ back = codePoint '%' :: d :: e :: rest) :
    rule.keeps (.escape d e) = true ∧ back = rest := by
  simp only [CharRule.normalize] at h
  split at h
  · rename_i hunreserved
    cases h
    exact absurd (List.cons.inj htext).left (decodedCase_ne_percent hunreserved)
  · rename_i hreserved
    cases h
    rcases List.cons.inj (List.cons.inj htext).right with ⟨hhigh, htail⟩
    rcases List.cons.inj htail with ⟨hlow, hback⟩
    exact ⟨keeps_escape rfl (Bool.not_eq_true _ ▸ hreserved) hhigh hlow, hback⟩

theorem spellings_char {c : CodePoint} {rest : PyStr} (h : Stray c rest) :
    spellings (c :: rest) = .char c :: spellings rest := by
  cases rest with
  | nil => rfl
  | cons d rest =>
      cases rest with
      | nil => rfl
      | cons e rest =>
          rw [spellings, if_neg]
          intro hescape
          exact h hescape.left d e rest rfl hescape.right

/-- What the rule does to a text, spelling by spelling. -/
def CharRule.Leaves (rule : CharRule) (s : PyStr) : Prop :=
  rule.readAll (spellings s) = some s <-> rule.Normal s

theorem normal_cons {s rest : PyStr} {spelling : Spelling}
    (h : spellings s = spelling :: spellings rest) :
    rule.Normal s <-> rule.keeps spelling = true ∧ rule.Normal rest := by
  unfold CharRule.Normal
  rw [h, List.forall_mem_cons]

theorem leaves_char {c : CodePoint} {rest : PyStr} (hstray : Stray c rest)
    (ih : rule.Leaves rest) : rule.Leaves (c :: rest) := by
  unfold CharRule.Leaves at ih ⊢
  rw [normal_cons (spellings_char hstray), spellings_char hstray,
    readAll_cons_eq_some]
  constructor
  · intro h
    rcases h with ⟨front, back, hfront, hback, htext⟩
    rcases keeps_of_normalize_char hstray hfront htext with ⟨hkeeps, hrest⟩
    exact ⟨hkeeps, ih.mp (hrest ▸ hback)⟩
  · intro h
    exact ⟨[c], rest, normalize_char h.left, ih.mpr h.right, rfl⟩

theorem leaves_escape {d e : CodePoint} {rest : PyStr}
    (hspellings : spellings (codePoint '%' :: d :: e :: rest) =
      .escape d e :: spellings rest)
    (ih : rule.Leaves rest) : rule.Leaves (codePoint '%' :: d :: e :: rest) := by
  unfold CharRule.Leaves at ih ⊢
  rw [normal_cons hspellings, hspellings, readAll_cons_eq_some]
  constructor
  · intro h
    rcases h with ⟨front, back, hfront, hback, htext⟩
    rcases keeps_of_normalize_escape hfront htext with ⟨hkeeps, hrest⟩
    exact ⟨hkeeps, ih.mp (hrest ▸ hback)⟩
  · intro h
    exact ⟨_, rest, normalize_escape h.left, ih.mpr h.right, rfl⟩

/-- A component leaves a text as it is exactly when it leaves every spelling. -/
theorem read_eq_self {s : PyStr} : rule.read s = some s <-> rule.Normal s := by
  have hnil : rule.Leaves [] :=
    iff_of_true rfl fun _ h => absurd h List.not_mem_nil
  have hone : forall c, rule.Leaves [c] := fun c =>
    leaves_char (fun _ _ _ _ h => nomatch h) hnil
  induction s using spellings.induct with
  | case1 => exact hnil
  | case2 c => exact hone c
  | case3 c d => exact leaves_char (fun _ _ _ _ h => nomatch h) (hone d)
  | case4 c d e rest h ih =>
      rw [h.left]
      exact leaves_escape (by rw [spellings, if_pos ⟨rfl, h.right⟩]) ih
  | case5 c d e rest h ih =>
      apply leaves_char
      · intro hpercent d' e' back heq hdigits
        cases heq
        exact h ⟨hpercent, hdigits⟩
      · exact ih

/-!
## What is written
-/

theorem isHexDigit_hexDigit {n : Nat} (h : n < 16) :
    isHexDigit (Json.hexDigit n) = true := by
  rw [isHexDigit_iff, val_hexDigit h]
  split_ifs <;> omega

theorem isHexDigit_asciiUpper {c : CodePoint} (h : isHexDigit c = true) :
    isHexDigit (asciiUpper c) = true := by
  rw [isHexDigit_iff] at h
  rw [isHexDigit_iff, val_asciiUpper]
  split_ifs <;> omega

theorem isUnreserved_asciiUpper {c : CodePoint} (h : isHexDigit c = true) :
    isUnreserved (asciiUpper c) = true := by
  rw [isUnreserved_iff]
  have hupper := isHexDigit_iff.mp (isHexDigit_asciiUpper h)
  omega

theorem hexDigitValue_asciiUpper (c : CodePoint) :
    hexDigitValue (asciiUpper c) = hexDigitValue c := by
  unfold hexDigitValue
  rw [val_asciiUpper]
  split_ifs <;> omega

theorem hexDigitValue_hexDigit {n : Nat} (h : n < 16) :
    hexDigitValue (Json.hexDigit n) = n := by
  unfold hexDigitValue
  rw [val_hexDigit h]
  split_ifs <;> omega

theorem asciiUpper_idem (c : CodePoint) : asciiUpper (asciiUpper c) = asciiUpper c := by
  apply Fin.ext
  simp only [val_asciiUpper]
  split_ifs <;> omega

theorem percentEncode_percent : percentEncode (byte 0x25) = str "%25" := by
  decide

theorem mem_percentEncode {octet : Byte} {c : CodePoint}
    (h : c ∈ percentEncode octet) : c = codePoint '%' ∨ isUnreserved c = true := by
  have hoctet := octet.isLt
  simp only [percentEncode, List.mem_cons, List.not_mem_nil, or_false] at h
  rcases h with heq | heq | heq
  · exact Or.inl heq
  · exact Or.inr (heq ▸ isUnreserved_asciiUpper (isHexDigit_hexDigit (by omega)))
  · exact Or.inr (heq ▸ isUnreserved_asciiUpper (isHexDigit_hexDigit (by omega)))

theorem mem_escapeChar {c d : CodePoint} (h : d ∈ escapeChar c) :
    d = codePoint '%' ∨ isUnreserved d = true := by
  rcases List.mem_flatMap.mp h with ⟨octet, _, hd⟩
  exact mem_percentEncode hd

/-- The lower-case letters are unreserved. -/
theorem asciiLower_cases (c : CodePoint) :
    asciiLower c = c ∨ isUnreserved (asciiLower c) = true := by
  by_cases hupper : 0x41 ≤ c.val ∧ c.val ≤ 0x5A
  · apply Or.inr
    rw [isUnreserved_iff, val_asciiLower, if_pos hupper]
    omega
  · exact Or.inl (if_neg hupper)

theorem caseOf_cases (c : CodePoint) :
    rule.caseOf c = c ∨ isUnreserved (rule.caseOf c) = true := by
  unfold CharRule.caseOf
  split
  · exact asciiLower_cases c
  · exact Or.inl rfl

/-- What a component may write. -/
def CharRule.Writes (rule : CharRule) (c : CodePoint) : Prop :=
  c = codePoint '%' ∨ isUnreserved c = true ∨ rule.allowed c = true

theorem writes_char {c d : CodePoint} {text : PyStr}
    (h : rule.normalize (.char c) = some text) (hd : d ∈ text) :
    rule.Writes d := by
  have hplain : d = codePoint '%' ∨ isUnreserved d = true -> rule.Writes d :=
    Or.imp_right Or.inl
  simp only [CharRule.normalize] at h
  split at h
  · split at h
    · cases h
    · cases h
      rw [← percentEncode_percent] at hd
      exact hplain (mem_percentEncode hd)
  · split at h
    · rename_i hallowed
      cases h
      rw [List.mem_singleton.mp hd]
      rcases @caseOf_cases rule c with heq | hunreserved
      · exact Or.inr (Or.inr (heq.symm ▸ hallowed))
      · exact Or.inr (Or.inl hunreserved)
    · split at h
      · cases h
      · cases h
        exact hplain (mem_escapeChar hd)

theorem writes_escape {high low d : CodePoint} {text : PyStr}
    (hhigh : isHexDigit high = true) (hlow : isHexDigit low = true)
    (h : rule.normalize (.escape high low) = some text) (hd : d ∈ text) :
    rule.Writes d := by
  simp only [CharRule.normalize] at h
  split at h
  · rename_i hunreserved
    cases h
    rw [List.mem_singleton.mp hd]
    exact Or.inr (Or.inl (decodedCase_unreserved hunreserved))
  · cases h
    rcases List.mem_cons.mp hd with heq | hd
    · exact Or.inl heq
    · rcases List.mem_cons.mp hd with heq | hd
      · exact Or.inr (Or.inl (heq ▸ isUnreserved_asciiUpper hhigh))
      · rw [List.mem_singleton.mp hd]
        exact Or.inr (Or.inl (isUnreserved_asciiUpper hlow))

/-- What holds of everything written for one spelling holds of the whole text. -/
theorem read_induction {motive : PyStr -> Prop} (hnil : motive [])
    (happend : forall {front back}, motive front -> motive back ->
      motive (front ++ back))
    (hchar : forall c front, rule.normalize (.char c) = some front ->
      motive front)
    (hescape : forall high low front, isHexDigit high = true ->
      isHexDigit low = true -> rule.normalize (.escape high low) = some front ->
        motive front)
    {s text : PyStr} (h : rule.read s = some text) : motive text := by
  have hcons : forall {spelling : Spelling} {rest : List Spelling} {text : PyStr},
      rule.readAll (spelling :: rest) = some text ->
      (forall front, rule.normalize spelling = some front -> motive front) ->
      (forall back, rule.readAll rest = some back -> motive back) ->
        motive text := by
    intro spelling rest text h hfront hback
    rcases readAll_cons_eq_some.mp h with ⟨front, back, hf, hb, heq⟩
    rw [← heq]
    exact happend (hfront front hf) (hback back hb)
  have hend : forall text, rule.readAll [] = some text -> motive text := by
    intro text h
    cases h
    exact hnil
  unfold CharRule.read at h
  induction s using spellings.induct generalizing text with
  | case1 => exact hend text h
  | case2 c => exact hcons h (hchar c) hend
  | case3 c d => exact hcons h (hchar c) fun _ hb => hcons hb (hchar d) hend
  | case4 c high low rest hspelled ih =>
      rw [spellings, if_pos hspelled] at h
      exact hcons h (fun front =>
        hescape high low front hspelled.right.left hspelled.right.right) fun _ => ih
  | case5 c high low rest hspelled ih =>
      rw [spellings, if_neg hspelled] at h
      exact hcons h (hchar c) fun _ => ih

/-- A component writes escapes, unreserved characters and what it admits. -/
theorem writes_of_read {s text : PyStr} (h : rule.read s = some text) :
    forall d, d ∈ text -> rule.Writes d := by
  refine @read_induction rule (fun text => forall d, d ∈ text -> rule.Writes d)
    (fun d hd => absurd hd List.not_mem_nil) ?_
    (fun _ _ h _ => writes_char h)
    (fun _ _ _ hhigh hlow h _ => writes_escape hhigh hlow h) s text h
  intro front back hfront hback d hd
  rcases List.mem_append.mp hd with hd | hd
  · exact hfront d hd
  · exact hback d hd

/-!
## Normal texts
-/

/-- The text is read so, whatever follows it. -/
def SpelledAs (text : PyStr) (xs : List Spelling) : Prop :=
  forall rest, spellings (text ++ rest) = xs ++ spellings rest

theorem SpelledAs.append {text text' : PyStr} {xs xs' : List Spelling}
    (h : SpelledAs text xs) (h' : SpelledAs text' xs') :
    SpelledAs (text ++ text') (xs ++ xs') := by
  intro rest
  rw [List.append_assoc, h, h', List.append_assoc]

theorem SpelledAs.spellings {text : PyStr} {xs : List Spelling}
    (h : SpelledAs text xs) : spellings text = xs := by
  have hnil := h []
  rw [List.append_nil] at hnil
  exact hnil.trans (List.append_nil xs)

theorem spelledAs_char {c : CodePoint} (h : c ≠ codePoint '%') :
    SpelledAs [c] [.char c] :=
  fun _ => spellings_char fun hpercent => absurd hpercent h

theorem spelledAs_escape {high low : CodePoint} (hhigh : isHexDigit high = true)
    (hlow : isHexDigit low = true) :
    SpelledAs [codePoint '%', high, low] [.escape high low] := by
  intro rest
  show Dart.spellings (codePoint '%' :: high :: low :: rest) = _
  rw [Dart.spellings, if_pos ⟨rfl, hhigh, hlow⟩]
  rfl

/-- The rule writes a normal text. -/
def CharRule.WritesNormal (rule : CharRule) (text : PyStr) : Prop :=
  exists xs, SpelledAs text xs ∧ forall x, x ∈ xs -> rule.keeps x = true

theorem CharRule.WritesNormal.append {text text' : PyStr}
    (h : rule.WritesNormal text) (h' : rule.WritesNormal text') :
    rule.WritesNormal (text ++ text') := by
  rcases h with ⟨xs, hxs, hkeeps⟩
  rcases h' with ⟨xs', hxs', hkeeps'⟩
  refine ⟨xs ++ xs', hxs.append hxs', ?_⟩
  intro x hx
  rcases List.mem_append.mp hx with hx | hx
  · exact hkeeps x hx
  · exact hkeeps' x hx

theorem writesNormal_nil : rule.WritesNormal [] :=
  ⟨[], fun _ => rfl, fun _ h => absurd h List.not_mem_nil⟩

theorem writesNormal_flatMap {α : Type} {f : α -> PyStr} {items : List α}
    (h : forall a, a ∈ items -> rule.WritesNormal (f a)) :
    rule.WritesNormal (items.flatMap f) := by
  induction items with
  | nil => exact writesNormal_nil
  | cons a rest ih =>
      rw [List.flatMap_cons]
      exact (h a List.mem_cons_self).append
        (ih fun b hb => h b (List.mem_cons_of_mem a hb))

/-- An octet that is no unreserved character stays escaped. -/
theorem writesNormal_percentEncode {octet : Byte}
    (h : isUnreserved (Fin.ofNat 0x110000 octet.val) = false) :
    rule.WritesNormal (percentEncode octet) := by
  have hoctet := octet.isLt
  have hhigh : octet.val / 16 < 16 := by omega
  have hlow : octet.val % 16 < 16 := by omega
  have hvalue : 16 * hexDigitValue (asciiUpper (Json.hexDigit (octet.val / 16))) +
      hexDigitValue (asciiUpper (Json.hexDigit (octet.val % 16))) = octet.val := by
    rw [hexDigitValue_asciiUpper, hexDigitValue_asciiUpper,
      hexDigitValue_hexDigit hhigh, hexDigitValue_hexDigit hlow]
    omega
  refine ⟨_, spelledAs_escape (isHexDigit_asciiUpper (isHexDigit_hexDigit hhigh))
    (isHexDigit_asciiUpper (isHexDigit_hexDigit hlow)), ?_⟩
  intro x hx
  rw [List.mem_singleton.mp hx]
  exact keeps_escape hvalue h (asciiUpper_idem _) (asciiUpper_idem _)

theorem high_octet_reserved {octet : Byte} (h : 0x80 ≤ octet.val) :
    isUnreserved (Fin.ofNat 0x110000 octet.val) = false := by
  have hoctet := octet.isLt
  have hval : (Fin.ofNat 0x110000 octet.val).val = octet.val :=
    Nat.mod_eq_of_lt (by omega)
  rw [← Bool.not_eq_true, isUnreserved_iff]
  omega

/-- Whatever has to be escaped is escaped as octets that stay so. -/
theorem utf8Char_reserved {c : CodePoint} (h : isUnreserved c = false)
    {octet : Byte} (hoctet : octet ∈ utf8Char c) :
    isUnreserved (Fin.ofNat 0x110000 octet.val) = false := by
  have hc := c.isLt
  have hhigh : forall n, 0x80 ≤ n -> n < 0x100 -> octet = byte n ->
      isUnreserved (Fin.ofNat 0x110000 octet.val) = false := by
    intro n hleast hmost heq
    apply high_octet_reserved
    rw [heq, val_byte, Nat.mod_eq_of_lt hmost]
    exact hleast
  unfold utf8Char at hoctet
  split_ifs at hoctet with hascii htwo hthree
  · rw [List.mem_singleton.mp hoctet, val_byte, Nat.mod_eq_of_lt (by omega)]
    have hself : Fin.ofNat 0x110000 c.val = c := Fin.ext (Nat.mod_eq_of_lt hc)
    rw [hself]
    exact h
  · simp only [List.mem_cons, List.not_mem_nil, or_false] at hoctet
    rcases hoctet with heq | heq
    · exact hhigh _ (by omega) (by omega) heq
    · exact hhigh _ (by omega) (by omega) heq
  · simp only [List.mem_cons, List.not_mem_nil, or_false] at hoctet
    rcases hoctet with heq | heq | heq
    · exact hhigh _ (by omega) (by omega) heq
    · exact hhigh _ (by omega) (by omega) heq
    · exact hhigh _ (by omega) (by omega) heq
  · simp only [List.mem_cons, List.not_mem_nil, or_false] at hoctet
    rcases hoctet with heq | heq | heq | heq
    · exact hhigh _ (by omega) (by omega) heq
    · exact hhigh _ (by omega) (by omega) heq
    · exact hhigh _ (by omega) (by omega) heq
    · exact hhigh _ (by omega) (by omega) heq

theorem asciiLower_idem (c : CodePoint) : asciiLower (asciiLower c) = asciiLower c := by
  unfold asciiLower
  split
  · rename_i hupper
    have hlower : (Fin.ofNat 0x110000 (c.val + 0x20)).val = c.val + 0x20 :=
      Nat.mod_eq_of_lt (by omega)
    rw [if_neg]
    omega
  · rfl

theorem caseOf_idem (c : CodePoint) : rule.caseOf (rule.caseOf c) = rule.caseOf c := by
  unfold CharRule.caseOf
  split
  · exact asciiLower_idem c
  · rfl

theorem caseOf_decodedCase (c : CodePoint) :
    rule.caseOf (rule.decodedCase c) = rule.decodedCase c := by
  unfold CharRule.caseOf CharRule.decodedCase
  cases rule.lowered with
  | none => rfl
  | decoded => rfl
  | all => exact asciiLower_idem c

theorem writesNormal_char {c : CodePoint} (h : rule.keeps (.char c) = true) :
    rule.WritesNormal [c] := by
  have hpercent : c ≠ codePoint '%' := by
    simp only [CharRule.keeps, Bool.and_eq_true, bne_iff_ne] at h
    exact h.left.left
  refine ⟨_, spelledAs_char hpercent, ?_⟩
  intro x hx
  rw [List.mem_singleton.mp hx]
  exact h

/-- A component that admits the unreserved characters. -/
def CharRule.Admits (rule : CharRule) : Prop :=
  forall c, isUnreserved c = true -> rule.allowed c = true

theorem keeps_caseOf (hrule : rule.Admits) {c : CodePoint}
    (hpercent : c ≠ codePoint '%') (h : rule.allowed c = true) :
    rule.keeps (.char (rule.caseOf c)) = true := by
  have hcase : rule.caseOf c ≠ codePoint '%' ∧ rule.allowed (rule.caseOf c) = true := by
    rcases @caseOf_cases rule c with heq | hunreserved
    · rw [heq]
      exact ⟨hpercent, h⟩
    · exact ⟨ne_of_among hunreserved isUnreserved_percent, hrule _ hunreserved⟩
  simp [CharRule.keeps, hcase.left, hcase.right, caseOf_idem]

theorem normalize_char_normal (hrule : rule.Admits) {c : CodePoint} {text : PyStr}
    (h : rule.normalize (.char c) = some text) : rule.WritesNormal text := by
  simp only [CharRule.normalize] at h
  split at h
  · split at h
    · cases h
    · cases h
      rw [← percentEncode_percent]
      exact writesNormal_percentEncode isUnreserved_percent
  · rename_i hpercent
    split at h
    · rename_i hallowed
      cases h
      exact writesNormal_char (keeps_caseOf hrule hpercent hallowed)
    · rename_i hallowed
      split at h
      · cases h
      · cases h
        have hreserved : isUnreserved c = false := by
          rw [← Bool.not_eq_true]
          exact fun hunreserved => hallowed (hrule c hunreserved)
        exact writesNormal_flatMap fun octet hoctet =>
          writesNormal_percentEncode (utf8Char_reserved hreserved hoctet)

theorem normalize_escape_normal (hrule : rule.Admits) {high low : CodePoint}
    {text : PyStr} (hhigh : isHexDigit high = true) (hlow : isHexDigit low = true)
    (h : rule.normalize (.escape high low) = some text) :
    rule.WritesNormal text := by
  simp only [CharRule.normalize] at h
  split at h
  · rename_i hunreserved
    cases h
    have hallowed := hrule _ (@decodedCase_unreserved rule _ hunreserved)
    apply writesNormal_char
    simp only [CharRule.keeps, Bool.and_eq_true, bne_iff_ne, beq_iff_eq]
    exact ⟨⟨decodedCase_ne_percent hunreserved, hallowed⟩, caseOf_decodedCase _⟩
  · rename_i hreserved
    cases h
    refine ⟨_, spelledAs_escape (isHexDigit_asciiUpper hhigh)
      (isHexDigit_asciiUpper hlow), ?_⟩
    intro x hx
    rw [List.mem_singleton.mp hx]
    exact keeps_escape rfl
      (by rw [hexDigitValue_asciiUpper, hexDigitValue_asciiUpper]
          exact Bool.not_eq_true _ ▸ hreserved)
      (asciiUpper_idem _) (asciiUpper_idem _)

/-- What a component writes it leaves as it is. -/
theorem read_normal (hrule : rule.Admits) {s text : PyStr}
    (h : rule.read s = some text) : rule.Normal text := by
  have hwrites : rule.WritesNormal text :=
    read_induction writesNormal_nil CharRule.WritesNormal.append
      (fun _ _ => normalize_char_normal hrule)
      (fun _ _ _ => normalize_escape_normal hrule) h
  rcases hwrites with ⟨xs, hxs, hkeeps⟩
  unfold CharRule.Normal
  rw [hxs.spellings]
  exact hkeeps

/-- A character that is neither a percent sign nor a digit is no part of an
escape. -/
theorem spellings_append_cons {c : CodePoint} (hc : c ≠ codePoint '%')
    (hdigit : isHexDigit c = false) (s rest : PyStr) :
    spellings (s ++ c :: rest) = spellings s ++ .char c :: spellings rest := by
  have hone : spellings (c :: rest) = .char c :: spellings rest :=
    spellings_char fun heq => absurd heq hc
  have htwo : forall d, spellings (d :: c :: rest) =
      .char d :: .char c :: spellings rest := by
    intro d
    rw [← hone]
    apply spellings_char
    intro _ e f back heq hdigits
    rw [(List.cons.inj heq).left, hdigits.left] at hdigit
    cases hdigit
  induction s using spellings.induct with
  | case1 => exact hone
  | case2 d => exact htwo d
  | case3 d e =>
      have hthree : spellings (d :: e :: c :: rest) =
          .char d :: spellings (e :: c :: rest) := by
        apply spellings_char
        intro _ e' f back heq hdigits
        rw [(List.cons.inj (List.cons.inj heq).right).left, hdigits.right] at hdigit
        cases hdigit
      exact hthree.trans (congrArg (.char d :: ·) (htwo e))
  | case4 d e f s h ih =>
      rw [List.cons_append, List.cons_append, List.cons_append, spellings,
        if_pos h, ih, spellings, if_pos h]
      rfl
  | case5 d e f s h ih =>
      rw [List.cons_append, List.cons_append, List.cons_append, spellings,
        if_neg h, spellings, if_neg h]
      exact congrArg (.char d :: ·) ih

/-- Such a character parts a text into two of their own. -/
theorem normal_append_cons {c : CodePoint} (hc : rule.keeps (.char c) = true)
    (hdigit : isHexDigit c = false) {s rest : PyStr} :
    rule.Normal (s ++ c :: rest) <-> rule.Normal s ∧ rule.Normal rest := by
  have hpercent : c ≠ codePoint '%' := by
    simp only [CharRule.keeps, Bool.and_eq_true, bne_iff_ne] at hc
    exact hc.left.left
  unfold CharRule.Normal
  rw [spellings_append_cons hpercent hdigit, List.forall_mem_append,
    List.forall_mem_cons]
  simp [hc]

end Normal

end Dart
end EidolonSdk
