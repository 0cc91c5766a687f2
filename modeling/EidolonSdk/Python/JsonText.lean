import EidolonSdk.Coding.Separated
import EidolonSdk.Python.Decimal
import EidolonSdk.Python.SortedJson

/-!
# JSON text in ASCII

What {lit}`json.dumps` writes when it escapes every character that is not ASCII,
and when that text tells values apart.  A character outside the basic plane is
written as the two surrogates of UTF-16, so a string that has these two
surrogates as characters of its own is written the same.
-/

namespace EidolonSdk
namespace Python
namespace Json

open Logic Coding

/-!
## Compact text
-/

section Compact

variable (I : Interpreter) (quote : PyStr -> PyStr)

/-- JSON text with the separators `","` and `":"`, for a way to write strings. -/
def textWith : Json -> PyStr
  | .null => Python.str "null"
  | .bool true => Python.str "true"
  | .bool false => Python.str "false"
  | .int n => intText n
  | .float .nan => Python.str "NaN"
  | .float (.infinite false) => Python.str "Infinity"
  | .float (.infinite true) => Python.str "-Infinity"
  | .float x => Python.str (I.floatRepr x)
  | .str s => quote s
  | .array items =>
      Python.str "[" ++ (Python.str ",").intercalate (itemTexts items) ++
        Python.str "]"
  | .object members =>
      Python.str "\x7b" ++ (Python.str ",").intercalate (memberTexts members) ++
        Python.str "\x7d"
where
  itemTexts : List Json -> List PyStr
    | [] => []
    | v :: rest => textWith v :: itemTexts rest
  memberTexts : Members -> List PyStr
    | [] => []
    | (k, v) :: rest =>
        (quote k ++ Python.str ":" ++ textWith v) :: memberTexts rest

/-- The text of one member. -/
def memberText (m : PyStr × Json) : PyStr :=
  quote m.fst ++ codePoint ':' :: textWith I quote m.snd

end Compact

/-- The characters of a number. -/
def IsNumeral (c : CodePoint) : Prop :=
  IsDecimalDigit c ∨ c ∈ Python.str "-+.e"

instance (c : CodePoint) : Decidable (IsNumeral c) :=
  inferInstanceAs (Decidable (_ ∨ _))

/-- What is known of the text of a finite float: it consists of digits, signs, a
point and an exponent mark, has a point or an exponent mark, and can be read back
exactly. -/
structure FloatTexts (I : Interpreter) : Prop where
  numeral : forall negative magnitude representable c,
    c ∈ Python.str (I.floatRepr (.finite negative magnitude representable)) ->
    IsNumeral c
  marked : forall negative magnitude representable,
    exists c, c ∈ Python.str (I.floatRepr (.finite negative magnitude representable)) ∧
      c ∈ Python.str ".e"
  injective : forall negative magnitude representable negative' magnitude'
    representable',
    I.floatRepr (.finite negative magnitude representable) =
      I.floatRepr (.finite negative' magnitude' representable') ->
    negative = negative' ∧ magnitude = magnitude'

/-- Strings can be told apart by the way they are written, whatever follows. -/
structure Readable (quote : PyStr -> PyStr) (clean : PyStr -> Bool) : Prop where
  opens : forall s, exists rest, quote s = codePoint '"' :: rest
  reads : forall {s t u v : PyStr}, clean s = true -> clean t = true ->
    quote s ++ u = quote t ++ v -> s = t ∧ u = v

/-- The strings in a value, the keys included, are clean. -/
def spelled (clean : PyStr -> Bool) : Json -> Bool
  | .str s => clean s
  | .object members => members.all fun m => clean m.fst
  | _ => true

section Injective

variable {I : Interpreter} {quote : PyStr -> PyStr} {clean : PyStr -> Bool}

theorem itemTexts_eq (items : List Json) :
    textWith.itemTexts I quote items = items.map (textWith I quote) := by
  induction items with
  | nil => rfl
  | cons v rest ih => rw [textWith.itemTexts, ih, List.map_cons]

theorem memberTexts_eq (members : Members) :
    textWith.memberTexts I quote members = members.map (memberText I quote) := by
  induction members with
  | nil => rfl
  | cons m rest ih =>
      rw [textWith.memberTexts, ih, List.map_cons]
      unfold memberText
      rw [List.append_assoc]
      rfl

theorem textWith_array (items : List Json) :
    textWith I quote (.array items) = codePoint '[' ::
      ([codePoint ','].intercalate (items.map (textWith I quote)) ++
        [codePoint ']']) := by
  rw [textWith, itemTexts_eq]
  rfl

theorem textWith_object (members : Members) :
    textWith I quote (.object members) = codePoint '\x7b' ::
      ([codePoint ','].intercalate (members.map (memberText I quote)) ++
        [codePoint '\x7d']) := by
  rw [textWith, memberTexts_eq]
  rfl

/-- What may follow a value. -/
def Follows (u : PyStr) : Prop :=
  forall c, c ∈ u.head? -> c ∈ Python.str ",]\x7d"

theorem follows_cons {c : CodePoint} (h : c ∈ Python.str ",]\x7d") (u : PyStr) :
    Follows (c :: u) := by
  intro d hd
  cases hd
  exact h

theorem Follows.not_numeral {u : PyStr} (h : Follows u) :
    forall c, c ∈ u.head? -> ¬ IsNumeral c := by
  intro c hc
  have hall : (Python.str ",]\x7d").all (fun d => !decide (IsNumeral d)) = true := by
    decide
  simpa using List.all_eq_true.mp hall c (h c hc)

/-!
### Kinds of values
-/

inductive Kind where
  | null
  | bool (b : Bool)
  | number
  | str
  | array
  | object
  deriving DecidableEq

def kind : Json -> Kind
  | .null => .null
  | .bool b => .bool b
  | .int _ => .number
  | .float _ => .number
  | .str _ => .str
  | .array _ => .array
  | .object _ => .object

/-- The kind of the values whose text begins with this character. -/
def kindOf (c : CodePoint) : Kind :=
  if c = codePoint 'n' then .null
  else if c = codePoint 't' then .bool true
  else if c = codePoint 'f' then .bool false
  else if c = codePoint '"' then .str
  else if c = codePoint '[' then .array
  else if c = codePoint '\x7b' then .object
  else .number

theorem kindOf_numeral {c : CodePoint} (h : IsNumeral c) :
    kindOf c = .number := by
  have hne : forall d, ¬ IsNumeral d -> c ≠ d := by
    intro d hd heq
    rw [heq] at h
    exact hd h
  unfold kindOf
  rw [if_neg (hne _ (by decide)), if_neg (hne _ (by decide)),
    if_neg (hne _ (by decide)), if_neg (hne _ (by decide)),
    if_neg (hne _ (by decide)), if_neg (hne _ (by decide))]

/-- A value of JSON whose strings are clean. -/
structure Writable (clean : PyStr -> Bool) (v : Json) : Prop where
  isJson : IsJson v
  spelled : v.all (spelled clean) = true

theorem Writable.item {items : List Json} {v : Json}
    (h : Writable clean (.array items)) (hv : v ∈ items) : Writable clean v :=
  ⟨h.isJson.item hv, all_item h.spelled hv⟩

theorem Writable.member {members : Members} {k : PyStr} {v : Json}
    (h : Writable clean (.object members)) (hv : (k, v) ∈ members) :
    clean k = true ∧ Writable clean v := by
  have hkeys : (members.all fun m => clean m.fst) = true := all_self h.spelled
  exact ⟨List.all_eq_true.mp hkeys (k, v) hv,
    h.isJson.member hv, all_member h.spelled hv⟩

theorem opens_memberText (hquote : Readable quote clean) (m : PyStr × Json) :
    Opens (codePoint '\x7d') (memberText I quote m) := by
  rcases hquote.opens m.fst with ⟨rest, hrest⟩
  refine ⟨codePoint '"', rest ++ codePoint ':' :: textWith I quote m.snd, ?_,
    by decide⟩
  unfold memberText
  rw [hrest]
  rfl

theorem numeral_intText {n : Int} {c : CodePoint} (h : c ∈ intText n) :
    IsNumeral c := by
  rcases mem_intText h with heq | hdigit
  · rw [heq]
    decide
  · exact Or.inl hdigit

/-- A number is an integer or a finite float. -/
theorem number_cases {v : Json} (hv : IsJson v) (hkind : kind v = .number) :
    (exists n, v = .int n) ∨ exists negative magnitude representable,
      v = .float (.finite negative magnitude representable) := by
  cases v with
  | int n => exact Or.inl ⟨n, rfl⟩
  | float x =>
      cases x with
      | finite negative magnitude representable => exact Or.inr ⟨_, _, _, rfl⟩
      | infinite negative => cases hv
      | nan => cases hv
  | null => cases hkind
  | bool b => cases hkind
  | str s => cases hkind
  | array items => cases hkind
  | object members => cases hkind

variable (hI : FloatTexts I) (hquote : Readable quote clean)

include hI

theorem numeral_textWith {v : Json} (hv : IsJson v) (hkind : kind v = .number) :
    forall c, c ∈ textWith I quote v -> IsNumeral c := by
  rcases number_cases hv hkind with ⟨n, hn⟩ | ⟨_, _, _, hx⟩
  · rw [hn]
    exact fun c hc => numeral_intText hc
  · rw [hx]
    exact hI.numeral _ _ _

theorem textWith_number_ne_nil {v : Json} (hv : IsJson v)
    (hkind : kind v = .number) : textWith I quote v ≠ [] := by
  rcases number_cases hv hkind with ⟨n, hn⟩ | ⟨_, _, _, hx⟩
  · rw [hn]
    exact intText_ne_nil n
  · rw [hx]
    rcases hI.marked _ _ _ with ⟨c, hc, _⟩
    exact List.ne_nil_of_mem hc

/-- An integer has neither a point nor an exponent mark. -/
theorem intText_ne_floatRepr {n : Int} {negative : Bool} {magnitude : Nat}
    {representable : Representable magnitude} :
    intText n ≠ Python.str
      (I.floatRepr (.finite negative magnitude representable)) := by
  intro heq
  rcases hI.marked negative magnitude representable with ⟨c, hc, hmark⟩
  rw [← heq] at hc
  have hall : (Python.str ".e").all (fun c =>
      !decide (c = codePoint '-' ∨ IsDecimalDigit c)) = true := by
    decide
  have hnot := List.all_eq_true.mp hall c hmark
  rw [decide_eq_true (mem_intText hc)] at hnot
  cases hnot

theorem number_inj {v w : Json} (hv : IsJson v) (hw : IsJson w)
    (hkind : kind v = .number) (hkind' : kind w = .number)
    (h : textWith I quote v = textWith I quote w) : v = w := by
  rcases number_cases hv hkind with ⟨m, hm⟩ | ⟨_, _, _, hx⟩
  · rcases number_cases hw hkind' with ⟨n, hn⟩ | ⟨_, _, _, hy⟩
    · rw [hm, hn] at h ⊢
      rw [intText_inj.mp h]
    · rw [hm, hy] at h
      exact absurd h (intText_ne_floatRepr hI)
  · rcases number_cases hw hkind' with ⟨n, hn⟩ | ⟨_, _, _, hy⟩
    · rw [hx, hn] at h
      exact absurd h.symm (intText_ne_floatRepr hI)
    · rw [hx, hy] at h ⊢
      have hsame := hI.injective _ _ _ _ _ _ (str_inj.mp h)
      simp only [hsame]

include hquote

/-- The first character tells the kind. -/
theorem head_textWith {v : Json} (hv : IsJson v) :
    exists c rest, textWith I quote v = c :: rest ∧ kindOf c = kind v := by
  have hnumber : forall v : Json, IsJson v -> kind v = .number ->
      exists c rest, textWith I quote v = c :: rest ∧ kindOf c = kind v := by
    intro v hv hkind
    rcases List.exists_cons_of_ne_nil (textWith_number_ne_nil hI hv hkind)
      with ⟨c, rest, htext⟩
    have hmem : c ∈ textWith I quote v := by
      rw [htext]
      exact List.mem_cons_self
    rw [hkind]
    exact ⟨c, rest, htext, kindOf_numeral (numeral_textWith hI hv hkind c hmem)⟩
  have hkinds : kindOf (codePoint 'n') = .null ∧
      kindOf (codePoint 't') = .bool true ∧
      kindOf (codePoint 'f') = .bool false ∧
      kindOf (codePoint '"') = .str ∧ kindOf (codePoint '[') = .array ∧
      kindOf (codePoint '\x7b') = .object := by
    decide
  rcases hkinds with ⟨hnull, htrue, hfalse, hstr, harray, hobject⟩
  cases v with
  | null => exact ⟨codePoint 'n', _, rfl, hnull⟩
  | bool b =>
      cases b with
      | true => exact ⟨codePoint 't', _, rfl, htrue⟩
      | false => exact ⟨codePoint 'f', _, rfl, hfalse⟩
  | int n => exact hnumber _ hv rfl
  | float x => exact hnumber _ hv rfl
  | str s =>
      rcases hquote.opens s with ⟨rest, hs⟩
      exact ⟨codePoint '"', rest, hs, hstr⟩
  | array items => exact ⟨codePoint '[', _, textWith_array items, harray⟩
  | object members =>
      exact ⟨codePoint '\x7b', _, textWith_object members, hobject⟩

theorem kind_eq {v w : Json} {u u' : PyStr} (hv : IsJson v) (hw : IsJson w)
    (h : textWith I quote v ++ u = textWith I quote w ++ u') :
    kind v = kind w := by
  rcases head_textWith hI hquote hv with ⟨c, rest, hc, hkind⟩
  rcases head_textWith hI hquote hw with ⟨d, rest', hd, hkind'⟩
  rw [hc, hd] at h
  rw [← hkind, ← hkind', (List.cons.inj h).left]

/-- What a value is told apart from, in front of whatever may follow it. -/
def Told (I : Interpreter) (quote : PyStr -> PyStr) (clean : PyStr -> Bool)
    (v : Json) : Prop :=
  Writable clean v -> forall w, Writable clean w -> forall u u' : PyStr,
    Follows u -> Follows u' ->
    textWith I quote v ++ u = textWith I quote w ++ u' -> v = w ∧ u = u'

theorem told_number {v : Json} (hkind : kind v = .number) :
    Told I quote clean v := by
  intro hv w hw u u' hu hu' h
  have hkind' : kind w = .number := by
    rw [← kind_eq hI hquote hv.isJson hw.isJson h, hkind]
  rcases alphabet_append_inj (numeral_textWith hI hv.isJson hkind)
    (numeral_textWith hI hw.isJson hkind') hu.not_numeral hu'.not_numeral h
    with ⟨htext, hrest⟩
  exact ⟨number_inj hI hv.isJson hw.isJson hkind hkind' htext, hrest⟩

theorem opens_textWith {v : Json} (hv : IsJson v) :
    Opens (codePoint ']') (textWith I quote v) := by
  rcases head_textWith hI hquote hv with ⟨c, rest, hc, hkind⟩
  refine ⟨c, rest, hc, ?_⟩
  intro heq
  have hnumber : kindOf (codePoint ']') = .number := by decide
  rw [heq, hnumber] at hkind
  have hmem : c ∈ textWith I quote v := by
    rw [hc]
    exact List.mem_cons_self
  have hnumeral := numeral_textWith hI hv hkind.symm c hmem
  rw [heq] at hnumeral
  exact absurd hnumeral (by decide)

theorem told_array {items : List Json}
    (ih : forall v, v ∈ items -> Told I quote clean v) :
    Told I quote clean (.array items) := by
  intro hv w hw u u' hu hu' h
  have hkind := kind_eq hI hquote hv.isJson hw.isJson h
  cases w with
  | array items' =>
      rw [textWith_array, textWith_array, List.cons_append, List.cons_append,
        List.append_assoc, List.append_assoc] at h
      have hitems : items = items' ∧ u = u' :=
        intercalate_close_inj (by decide)
          (follows_cons (by decide)) (follows_cons (by decide))
          (fun x hx => opens_textWith hI hquote (hv.isJson.item hx))
          (fun y hy => opens_textWith hI hquote (hw.isJson.item hy))
          (fun x hx y hy => ih x hx (hv.item hx) y (hw.item hy))
          (List.cons.inj h).right
      exact ⟨by rw [hitems.left], hitems.right⟩
  | null => cases hkind
  | bool b => cases hkind
  | int n => cases hkind
  | float x => cases hkind
  | str s => cases hkind
  | object members => cases hkind

theorem told_object {members : Members}
    (ih : forall k v, (k, v) ∈ members -> Told I quote clean v) :
    Told I quote clean (.object members) := by
  intro hv w hw u u' hu hu' h
  have hkind := kind_eq hI hquote hv.isJson hw.isJson h
  cases w with
  | object members' =>
      rw [textWith_object, textWith_object, List.cons_append, List.cons_append,
        List.append_assoc, List.append_assoc] at h
      have hread : forall m, m ∈ members -> forall n, n ∈ members' ->
          forall u u' : PyStr, Follows u -> Follows u' ->
          memberText I quote m ++ u = memberText I quote n ++ u' ->
          m = n ∧ u = u' := by
        intro m hm n hn u u' hu hu' htext
        have hm' := hv.member (show (m.fst, m.snd) ∈ members from hm)
        have hn' := hw.member (show (n.fst, n.snd) ∈ members' from hn)
        unfold memberText at htext
        rw [List.append_assoc, List.append_assoc] at htext
        rcases hquote.reads hm'.left hn'.left htext with ⟨hkey, hrest⟩
        rcases ih m.fst m.snd hm hm'.right n.snd hn'.right u u' hu hu'
          (List.cons.inj hrest).right with ⟨hvalue, huu⟩
        exact ⟨Prod.ext hkey hvalue, huu⟩
      have hmembers : members = members' ∧ u = u' :=
        intercalate_close_inj (by decide)
          (follows_cons (by decide)) (follows_cons (by decide))
          (fun m _ => opens_memberText hquote m)
          (fun n _ => opens_memberText hquote n) hread (List.cons.inj h).right
      exact ⟨by rw [hmembers.left], hmembers.right⟩
  | null => cases hkind
  | bool b => cases hkind
  | int n => cases hkind
  | float x => cases hkind
  | str s => cases hkind
  | array items => cases hkind

theorem told (v : Json) : Told I quote clean v := by
  induction v using parts_induction with
  | int n => exact told_number hI hquote rfl
  | float x => exact told_number hI hquote rfl
  | array items ih => exact told_array hI hquote ih
  | object members ih => exact told_object hI hquote ih
  | null =>
      intro hv w hw u u' _ _ h
      have hkind := kind_eq hI hquote hv.isJson hw.isJson h
      cases w with
      | null => exact ⟨rfl, List.append_cancel_left h⟩
      | bool b => cases hkind
      | int n => cases hkind
      | float x => cases hkind
      | str s => cases hkind
      | array items => cases hkind
      | object members => cases hkind
  | bool b =>
      intro hv w hw u u' _ _ h
      have hkind := kind_eq hI hquote hv.isJson hw.isJson h
      cases w with
      | bool b' =>
          cases hkind
          exact ⟨rfl, List.append_cancel_left h⟩
      | null => cases hkind
      | int n => cases hkind
      | float x => cases hkind
      | str s => cases hkind
      | array items => cases hkind
      | object members => cases hkind
  | str s =>
      intro hv w hw u u' _ _ h
      have hkind := kind_eq hI hquote hv.isJson hw.isJson h
      cases w with
      | str t =>
          rcases hquote.reads (all_self hv.spelled) (all_self hw.spelled) h
            with ⟨hst, huu⟩
          exact ⟨by rw [hst], huu⟩
      | null => cases hkind
      | bool b => cases hkind
      | int n => cases hkind
      | float x => cases hkind
      | array items => cases hkind
      | object members => cases hkind

/-- The text tells values apart. -/
theorem textWith_inj {v w : Json} (hv : Writable clean v) (hw : Writable clean w)
    (h : textWith I quote v = textWith I quote w) : v = w := by
  have hends : Follows [] := fun c hc => absurd hc (Option.not_mem_none c)
  exact (told hI hquote v hv w hw [] [] hends hends (by rw [h])).left

end Injective

/-!
## Escaping everything outside ASCII
-/

abbrev CodeUnit := Fin 0x10000

instance neZeroCodeUnits : @NeZero Nat Zero.ofOfNat0 0x10000 := ⟨by decide⟩

/-- The code units of a character in UTF-16. -/
def utf16 (c : CodePoint) : List CodeUnit :=
  if h : c.val < 0x10000 then [⟨c.val, h⟩]
  else [Fin.ofNat 0x10000 (0xD800 + (c.val - 0x10000) / 0x400),
    Fin.ofNat 0x10000 (0xDC00 + (c.val - 0x10000) % 0x400)]

/-- `ESCAPE_DCT`. -/
def escapeDct : List (Nat × PyStr) :=
  [(0x5C, Python.str "\\\\"), (0x22, Python.str "\\\""),
    (0x8, Python.str "\\b"), (0xC, Python.str "\\f"), (0xA, Python.str "\\n"),
    (0xD, Python.str "\\r"), (0x9, Python.str "\\t")]

/-- One code unit inside a JSON string. -/
def escapeUnit (n : CodeUnit) : PyStr :=
  match escapeDct.lookup n.val with
  | some text => text
  | none =>
      if 0x20 ≤ n.val ∧ n.val ≤ 0x7E then [Fin.ofNat 0x110000 n.val]
      else Python.str "\\u" ++ hexText 4 n.val

/-- `py_encode_basestring_ascii`. -/
def asciiQuoted (s : PyStr) : PyStr :=
  Python.str "\"" ++ (s.flatMap utf16).flatMap escapeUnit ++ Python.str "\""

/-- `json.dumps(value, sort_keys=True, separators=(",", ":"))`. -/
def dumpsSorted (I : Interpreter) (v : Json) : Except PyException PyStr :=
  if v.all shortInteger then pure (textWith I asciiQuoted v.sorted)
  else throw .valueError

/-!
### Reading a code unit back
-/

def hexValue (c : CodePoint) : Nat :=
  if c.val < 0x61 then c.val - 0x30 else c.val - 0x61 + 10

/-- What follows a backslash. -/
def readEscape : PyStr -> Nat
  | [] => 0
  | c :: rest =>
      if c = codePoint 'u' then
        (rest.take 4).foldl (fun n d => n * 16 + hexValue d) 0
      else if c = codePoint 'n' then 0xA
      else if c = codePoint 'r' then 0xD
      else if c = codePoint 't' then 0x9
      else if c = codePoint 'f' then 0xC
      else if c = codePoint 'b' then 0x8
      else c.val

def readUnit : PyStr -> Nat
  | [] => 0
  | c :: rest => if c = codePoint '\\' then readEscape rest else c.val

section Units

theorem hexValue_hexDigit {n : Nat} (h : n < 16) : hexValue (hexDigit n) = n := by
  have hall : forall n, n < 16 -> hexValue (hexDigit n) = n := by decide
  exact hall n h

theorem hexText_four (n : Nat) :
    hexText 4 n = [hexDigit (n / 4096 % 16), hexDigit (n / 256 % 16),
      hexDigit (n / 16 % 16), hexDigit (n % 16)] := by
  simp [hexText, List.range_succ]

theorem readUnit_hex (n : CodeUnit) (rest : PyStr) :
    readUnit (Python.str "\\u" ++ hexText 4 n.val ++ rest) = n.val := by
  have hn := n.isLt
  have htext : Python.str "\\u" ++ hexText 4 n.val ++ rest =
      codePoint '\\' :: codePoint 'u' :: (hexText 4 n.val ++ rest) := rfl
  rw [htext, readUnit, if_pos rfl, readEscape, if_pos rfl, hexText_four]
  simp only [List.cons_append, List.nil_append, List.take_succ_cons,
    List.take_zero, List.foldl_cons, List.foldl_nil,
    hexValue_hexDigit (Nat.mod_lt _ (by decide : 0 < 16))]
  omega

theorem readUnit_escapeDct : forall e, e ∈ escapeDct -> forall rest : PyStr,
    readUnit (e.snd ++ rest) = e.fst := by
  simp only [escapeDct, List.forall_mem_cons]
  exact ⟨fun _ => rfl, fun _ => rfl, fun _ => rfl, fun _ => rfl, fun _ => rfl,
    fun _ => rfl, fun _ => rfl, List.forall_mem_nil _⟩

theorem readUnit_printable {n : CodeUnit} (rest : PyStr) (h : n.val ≠ 0x5C) :
    readUnit (Fin.ofNat 0x110000 n.val :: rest) = n.val := by
  have hval : (Fin.ofNat 0x110000 n.val).val = n.val :=
    Nat.mod_eq_of_lt (lt_trans n.isLt (by decide))
  have hne : Fin.ofNat 0x110000 n.val ≠ codePoint '\\' := by
    intro heq
    rw [heq] at hval
    exact h hval.symm
  rw [readUnit, if_neg hne, hval]

/-- A unit is read back from its text, whatever follows. -/
theorem readUnit_escapeUnit (n : CodeUnit) (rest : PyStr) :
    readUnit (escapeUnit n ++ rest) = n.val := by
  unfold escapeUnit
  cases hlookup : escapeDct.lookup n.val with
  | some text =>
      exact readUnit_escapeDct (n.val, text) (mem_of_lookup_eq hlookup) rest
  | none =>
      dsimp only
      split
      · apply readUnit_printable
        intro heq
        rw [heq] at hlookup
        cases hlookup
      · exact readUnit_hex n rest

theorem prefixFree_escapeUnit : PrefixFree escapeUnit := by
  intro m n h
  rcases h with ⟨rest, hrest⟩
  have hm := readUnit_escapeUnit m rest
  have hn := readUnit_escapeUnit n []
  rw [List.append_nil, ← hrest] at hn
  exact Fin.ext (hm.symm.trans hn)

theorem opens_escapeDct : forall e, e ∈ escapeDct ->
    Opens (codePoint '"') e.snd := by
  simp only [escapeDct, List.forall_mem_cons]
  have hslash : forall rest : PyStr,
      Opens (codePoint '"') (codePoint '\\' :: rest) :=
    fun rest => ⟨codePoint '\\', rest, rfl, by decide⟩
  exact ⟨hslash _, hslash _, hslash _, hslash _, hslash _, hslash _, hslash _,
    List.forall_mem_nil _⟩

theorem opens_escapeUnit (n : CodeUnit) :
    Opens (codePoint '"') (escapeUnit n) := by
  unfold escapeUnit
  cases hlookup : escapeDct.lookup n.val with
  | some text => exact opens_escapeDct (n.val, text) (mem_of_lookup_eq hlookup)
  | none =>
      dsimp only
      split
      · refine ⟨_, [], rfl, ?_⟩
        intro heq
        have hval : (Fin.ofNat 0x110000 n.val).val = n.val :=
          Nat.mod_eq_of_lt (lt_trans n.isLt (by decide))
        rw [heq] at hval
        rw [← hval] at hlookup
        cases hlookup
      · exact ⟨codePoint '\\', _, rfl, by decide⟩

/-!
### Surrogates
-/

def highSurrogate (c : CodePoint) : Bool :=
  decide (0xD800 ≤ c.val ∧ c.val < 0xDC00)

def lowSurrogate (c : CodePoint) : Bool :=
  decide (0xDC00 ≤ c.val ∧ c.val < 0xE000)

/-- No character is spelled as two surrogates. -/
def unsplit : PyStr -> Bool
  | c :: d :: rest => !(highSurrogate c && lowSurrogate d) && unsplit (d :: rest)
  | _ => true

theorem unsplit_tail {c : CodePoint} {s : PyStr} (h : unsplit (c :: s) = true) :
    unsplit s = true := by
  cases s with
  | nil => rfl
  | cons d rest => exact (Bool.and_eq_true_iff.mp h).right

theorem utf16_basic {c : CodePoint} (h : c.val < 0x10000) :
    utf16 c = [⟨c.val, h⟩] :=
  dif_pos h

theorem utf16_pair {c : CodePoint} (h : ¬ c.val < 0x10000) :
    exists high low : CodeUnit, utf16 c = [high, low] ∧
      high.val = 0xD800 + (c.val - 0x10000) / 0x400 ∧
      low.val = 0xDC00 + (c.val - 0x10000) % 0x400 := by
  have hc := c.isLt
  exact ⟨_, _, dif_neg h, Nat.mod_eq_of_lt (by omega),
    Nat.mod_eq_of_lt (by omega)⟩

/-- Only a low surrogate goes on like the second half of a pair. -/
theorem utf16_low {t : PyStr} {low : CodeUnit} {rest : List CodeUnit}
    (h : t.flatMap utf16 = low :: rest) (hlow : 0xDC00 ≤ low.val)
    (hlow' : low.val < 0xE000) :
    exists d t', t = d :: t' ∧ lowSurrogate d = true := by
  cases t with
  | nil => cases h
  | cons d t =>
      refine ⟨d, t, rfl, ?_⟩
      rw [List.flatMap_cons] at h
      by_cases hd : d.val < 0x10000
      · rw [utf16_basic hd] at h
        have hval : d.val = low.val :=
          congrArg Fin.val (List.cons.inj h).left
        exact decide_eq_true ⟨by omega, by omega⟩
      · rcases utf16_pair hd with ⟨high, _, hpair, hhigh, _⟩
        rw [hpair] at h
        have hval : high.val = low.val := congrArg Fin.val (List.cons.inj h).left
        have hlt := d.isLt
        omega

/-- A character outside the basic plane is not told from two surrogates only. -/
theorem utf16_mixed {c d : CodePoint} {s t : PyStr} (hc : c.val < 0x10000)
    (hd : ¬ d.val < 0x10000) (hs : unsplit (c :: s) = true)
    (h : (c :: s).flatMap utf16 = (d :: t).flatMap utf16) : False := by
  rw [List.flatMap_cons, List.flatMap_cons, utf16_basic hc] at h
  rcases utf16_pair hd with ⟨high, low, hpair, hhigh, hlow⟩
  rw [hpair] at h
  have hdlt := d.isLt
  have hval : c.val = high.val := congrArg Fin.val (List.cons.inj h).left
  rcases utf16_low (List.cons.inj h).right (by omega) (by omega)
    with ⟨e, s', heq, hsurrogate⟩
  rw [heq] at hs
  have hhighc : highSurrogate c = true := decide_eq_true ⟨by omega, by omega⟩
  have hsplit := (Bool.and_eq_true_iff.mp hs).left
  rw [hhighc, hsurrogate] at hsplit
  cases hsplit

theorem utf16_ne_nil (c : CodePoint) : utf16 c ≠ [] := by
  by_cases hc : c.val < 0x10000
  · rw [utf16_basic hc]
    exact List.cons_ne_nil _ _
  · rcases utf16_pair hc with ⟨_, _, hpair, _⟩
    rw [hpair]
    exact List.cons_ne_nil _ _

theorem utf16_inj : forall {s t : PyStr}, unsplit s = true -> unsplit t = true ->
    s.flatMap utf16 = t.flatMap utf16 -> s = t := by
  intro s
  induction s with
  | nil =>
      intro t _ _ h
      cases t with
      | nil => rfl
      | cons d t =>
          exact absurd (List.append_eq_nil_iff.mp h.symm).left (utf16_ne_nil d)
  | cons c s ih =>
      intro t hs ht h
      cases t with
      | nil => exact absurd (List.append_eq_nil_iff.mp h).left (utf16_ne_nil c)
      | cons d t =>
          have hrest := ih (unsplit_tail hs) (unsplit_tail ht)
          by_cases hc : c.val < 0x10000
          · by_cases hd : d.val < 0x10000
            · rw [List.flatMap_cons, List.flatMap_cons, utf16_basic hc,
                utf16_basic hd] at h
              have hcd : c = d := Fin.ext (Fin.mk.inj (List.cons.inj h).left)
              rw [hcd, hrest (List.cons.inj h).right]
            · exact (utf16_mixed hc hd hs h).elim
          · by_cases hd : d.val < 0x10000
            · exact (utf16_mixed hd hc ht h.symm).elim
            · rw [List.flatMap_cons, List.flatMap_cons] at h
              rcases utf16_pair hc with ⟨high, low, hpair, hhigh, hlow⟩
              rcases utf16_pair hd with ⟨high', low', hpair', hhigh', hlow'⟩
              rw [hpair, hpair'] at h
              rcases List.cons.inj h with ⟨hhigheq, htail⟩
              rcases List.cons.inj htail with ⟨hloweq, htail⟩
              have hcd : c = d := by
                apply Fin.ext
                rw [hhigheq] at hhigh
                rw [hloweq] at hlow
                omega
              rw [hcd, hrest htail]

/-- Strings without split characters are told apart. -/
theorem readable_asciiQuoted : Readable asciiQuoted unsplit where
  opens s := ⟨_, rfl⟩
  reads {s t u v} hs ht h := by
    unfold asciiQuoted at h
    rw [List.append_assoc, List.append_assoc, List.append_assoc,
      List.append_assoc] at h
    have hunits := prefixFree_escapeUnit.flatMap_stop_inj opens_escapeUnit
      (List.append_cancel_left h)
    exact ⟨utf16_inj hs ht hunits.left, hunits.right⟩

theorem spelled_sorted {clean : PyStr -> Bool} {v : Json}
    (h : v.all (spelled clean) = true) : v.sorted.all (spelled clean) = true := by
  induction v using parts_induction with
  | null => exact h
  | bool b => exact h
  | int n => exact h
  | float x => exact h
  | str s => exact h
  | array items ih =>
      rw [sorted_array]
      refine Bool.and_eq_true_iff.mpr ⟨rfl, allItems_iff.mpr ?_⟩
      intro w hw
      rcases List.mem_map.mp hw with ⟨v, hv, heq⟩
      rw [← heq]
      exact ih v hv (all_item h hv)
  | object members ih =>
      rw [sorted_object]
      have hkeys : (members.all fun m => clean m.fst) = true := all_self h
      refine Bool.and_eq_true_iff.mpr
        ⟨List.all_eq_true.mpr ?_, allMembers_iff.mpr ?_⟩
      · intro m hm
        rcases mem_sortedDict hm with ⟨w, hw, _⟩
        exact List.all_eq_true.mp hkeys (m.fst, w) hw
      · intro m hm
        rcases mem_sortedDict hm with ⟨w, hw, hsorted⟩
        rw [hsorted]
        exact ih m.fst w hw (all_member h hw)

theorem dumpsSorted_eq_ok {I : Interpreter} {v : Json} {text : PyStr} :
    dumpsSorted I v = .ok text <->
      v.all shortInteger = true ∧ textWith I asciiQuoted v.sorted = text := by
  unfold dumpsSorted
  by_cases h : v.all shortInteger = true
  · simp [h, pure, Except.pure]
  · simp [h]

/-- Values with the same text are the same, up to the order of members. -/
theorem dumpsSorted_inj {I : Interpreter} (hI : FloatTexts I) {v w : Json}
    {text : PyStr} (hv : Writable unsplit v) (hw : Writable unsplit w)
    (hvText : dumpsSorted I v = .ok text) (hwText : dumpsSorted I w = .ok text) :
    v.sorted = w.sorted := by
  apply textWith_inj hI readable_asciiQuoted
  · exact ⟨hv.isJson.sorted, spelled_sorted hv.spelled⟩
  · exact ⟨hw.isJson.sorted, spelled_sorted hw.spelled⟩
  · rw [(dumpsSorted_eq_ok.mp hvText).right, (dumpsSorted_eq_ok.mp hwText).right]

end Units

end Json
end Python
end EidolonSdk
