import EidolonSdk.Python.JsonText
import EidolonSdk.Python.Utf8

/-!
# The size of a JSON document

How many octets the compact text of a value takes in UTF-8, added up over its
parts without writing any of it: a width for every character of a string, two
brackets and the commas between the items.
-/

namespace EidolonSdk
namespace Python

/-- `len(s.encode())` of an encodable string. -/
def utf8Length (s : PyStr) : Nat :=
  (s.flatMap utf8Char).length

@[simp] theorem utf8Length_nil : utf8Length [] = 0 := rfl

@[simp] theorem utf8Length_append (s t : PyStr) :
    utf8Length (s ++ t) = utf8Length s + utf8Length t := by
  unfold utf8Length
  rw [List.flatMap_append, List.length_append]

/-- The octets of one character. -/
def utf8Width (c : CodePoint) : Nat :=
  if c.val < 0x80 then 1
  else if c.val < 0x800 then 2
  else if c.val < 0x10000 then 3
  else 4

@[simp] theorem utf8Length_cons (c : CodePoint) (s : PyStr) :
    utf8Length (c :: s) = utf8Width c + utf8Length s := by
  unfold utf8Length
  rw [List.flatMap_cons, List.length_append]
  apply congrArg (fun n => n + _)
  unfold utf8Char utf8Width
  split
  · rfl
  · split
    · rfl
    · split
      · rfl
      · rfl

/-- A text that stays below the first two-octet character. -/
theorem utf8Length_ascii {s : PyStr} (h : forall c, c ∈ s -> c.val < 0x80) :
    utf8Length s = s.length := by
  induction s with
  | nil => rfl
  | cons c rest ih =>
      rw [utf8Length_cons, ih fun d hd => h d (List.mem_cons_of_mem c hd),
        utf8Width, if_pos (h c List.mem_cons_self), List.length_cons,
        Nat.add_comm]

namespace Json

/-!
## Strings
-/

/-- The characters JSON writes as a letter after a backslash. -/
def ShortEscaped (c : CodePoint) : Prop :=
  c = codePoint '"' ∨ c = codePoint '\\' ∨ c = codePoint '\n' ∨
    c = codePoint '\r' ∨ c = codePoint '\t' ∨ c.val = 0xC ∨ c.val = 0x8

instance (c : CodePoint) : Decidable (ShortEscaped c) :=
  inferInstanceAs (Decidable (_ ∨ _))

/-- The octets of one character inside a JSON string. -/
def escapedWidth (c : CodePoint) : Nat :=
  if ShortEscaped c then 2
  else if c.val < 0x20 then 6
  else utf8Width c

theorem hexText_length (digits n : Nat) :
    (hexText digits n).length = digits := by
  unfold hexText
  rw [List.length_map, List.length_reverse, List.length_range]

theorem hexDigit_ascii (n : Nat) : (hexDigit (n % 16)).val < 0x80 := by
  have hall : forall m, m < 16 -> (hexDigit m).val < 0x80 := by decide
  exact hall (n % 16) (Nat.mod_lt n (by decide))

theorem utf8Length_hexText (digits n : Nat) :
    utf8Length (hexText digits n) = digits := by
  rw [utf8Length_ascii, hexText_length]
  intro c hc
  rcases List.mem_map.mp hc with ⟨i, _, heq⟩
  rw [← heq]
  exact hexDigit_ascii (n / 16 ^ i)

theorem utf8Length_escapeChar (c : CodePoint) :
    utf8Length (escapeChar c) = escapedWidth c := by
  unfold escapedWidth
  by_cases hshort : ShortEscaped c
  · rw [if_pos hshort]
    unfold escapeChar
    rcases hshort with h | h | h | h | h | h | h
    · rw [h]
      rfl
    · rw [h]
      rfl
    · rw [h]
      rfl
    · rw [h]
      rfl
    · rw [h]
      rfl
    · rw [Fin.ext (show c.val = (0xC : CodePoint).val from h)]
      rfl
    · rw [Fin.ext (show c.val = (0x8 : CodePoint).val from h)]
      rfl
  · rw [if_neg hshort]
    unfold ShortEscaped at hshort
    simp only [not_or] at hshort
    rcases hshort with ⟨hquote, hbackslash, hnewline, hreturn, htab, hfeed, hback⟩
    unfold escapeChar
    rw [if_neg hquote, if_neg hbackslash, if_neg hnewline, if_neg hreturn,
      if_neg htab, if_neg hfeed, if_neg hback]
    split
    · rw [utf8Length_append, utf8Length_hexText]
      rfl
    · exact (utf8Length_cons c []).trans (Nat.add_zero _)

/-- The octets of a string in JSON, without its quotes. -/
def escapedLength (s : PyStr) : Nat :=
  (s.map escapedWidth).sum

def quotedLength (s : PyStr) : Nat :=
  2 + escapedLength s

theorem utf8Length_quoted (s : PyStr) : utf8Length (quoted s) = quotedLength s := by
  have hbody : utf8Length (s.flatMap escapeChar) = escapedLength s := by
    induction s with
    | nil => rfl
    | cons c rest ih =>
        unfold escapedLength at ih ⊢
        rw [List.flatMap_cons, utf8Length_append, utf8Length_escapeChar, ih,
          List.map_cons, List.sum_cons]
  have hquote : utf8Length (Python.str "\"") = 1 := rfl
  unfold quoted quotedLength
  rw [utf8Length_append, utf8Length_append, hbody, hquote]
  omega

/-!
## Values
-/

/-- Two brackets, the items, and a comma between any two of them. -/
def listed (sizes : List Nat) : Nat :=
  2 + sizes.sum + (sizes.length - 1)

section Size

variable (I : Interpreter)

def size : Json -> Nat
  | .null => 4
  | .bool true => 4
  | .bool false => 5
  | .int n => (intText n).length
  | .float .nan => 3
  | .float (.infinite false) => 8
  | .float (.infinite true) => 9
  | .float x => utf8Length (Python.str (I.floatRepr x))
  | .str s => quotedLength s
  | .array items => listed (sizes items)
  | .object members => listed (memberSizes members)
where
  sizes : List Json -> List Nat
    | [] => []
    | v :: rest => size v :: sizes rest
  memberSizes : Members -> List Nat
    | [] => []
    | (k, v) :: rest => (quotedLength k + 1 + size v) :: memberSizes rest

def memberSize (m : PyStr × Json) : Nat :=
  quotedLength m.fst + 1 + m.snd.size I

theorem size_array (items : List Json) :
    (Json.array items).size I = listed (items.map (size I)) := by
  have hsizes : size.sizes I items = items.map (size I) := by
    induction items with
    | nil => rfl
    | cons v rest ih => rw [size.sizes, ih, List.map_cons]
  rw [size, hsizes]

theorem size_object (members : Members) :
    (Json.object members).size I = listed (members.map (memberSize I)) := by
  have hsizes : size.memberSizes I members = members.map (memberSize I) := by
    induction members with
    | nil => rfl
    | cons m rest ih =>
        rw [size.memberSizes, ih, List.map_cons]
        rfl
  rw [size, hsizes]

theorem size_int (n : Int) : (Json.int n).size I = (intText n).length := rfl

theorem size_str (s : PyStr) : (Json.str s).size I = quotedLength s := rfl

theorem utf8Length_listed {opening closing : CodePoint} {texts : List PyStr}
    (hopening : utf8Width opening = 1) (hclosing : utf8Width closing = 1) :
    utf8Length (opening :: ([codePoint ','].intercalate texts ++ [closing])) =
      listed (texts.map utf8Length) := by
  have hjoined : utf8Length ([codePoint ','].intercalate texts) =
      (texts.map utf8Length).sum + ((texts.map utf8Length).length - 1) := by
    induction texts with
    | nil => rfl
    | cons text rest ih =>
        cases rest with
        | nil => simp [List.intercalate]
        | cons next rest =>
            have hcomma : utf8Width (codePoint ',') = 1 := rfl
            rw [Coding.intercalate_cons_cons, utf8Length_append, utf8Length_cons,
              ih, hcomma]
            simp only [List.map_cons, List.sum_cons, List.length_cons]
            omega
  rw [utf8Length_cons, utf8Length_append, hjoined, hopening, utf8Length_cons,
    hclosing, utf8Length_nil]
  unfold listed
  omega

/-- The two ways of writing compact text are one. -/
theorem compactText_eq (v : Json) : v.compactText I = textWith I quoted v := by
  induction v using parts_induction with
  | null => rfl
  | bool b => cases b with
    | true => rfl
    | false => rfl
  | int n => rfl
  | float x => cases x with
    | finite negative magnitude representable => rfl
    | infinite negative => cases negative with
      | true => rfl
      | false => rfl
    | nan => rfl
  | str s => rfl
  | array items ih =>
      have hitems : compactText.compactItems I items =
          textWith.itemTexts I quoted items := by
        induction items with
        | nil => rfl
        | cons v rest ihrest =>
            rw [compactText.compactItems, textWith.itemTexts,
              ih v List.mem_cons_self,
              ihrest fun w hw => ih w (List.mem_cons_of_mem v hw)]
      rw [compactText, textWith, hitems]
  | object members ih =>
      have hmembers : compactText.compactMembers I members =
          textWith.memberTexts I quoted members := by
        induction members with
        | nil => rfl
        | cons m rest ihrest =>
            rcases m with ⟨k, v⟩
            rw [compactText.compactMembers, textWith.memberTexts,
              ih k v List.mem_cons_self,
              ihrest fun l w hw => ih l w (List.mem_cons_of_mem _ hw)]
      rw [compactText, textWith, hmembers]

theorem utf8Length_compactText (v : Json) :
    utf8Length (v.compactText I) = v.size I := by
  rw [compactText_eq]
  induction v using parts_induction with
  | null => rfl
  | bool b => cases b with
    | true => rfl
    | false => rfl
  | int n =>
      apply utf8Length_ascii
      intro c hc
      rcases mem_intText hc with heq | hdigit
      · rw [heq]
        decide
      · exact lt_of_le_of_lt hdigit.right (by decide)
  | float x => cases x with
    | finite negative magnitude representable => rfl
    | infinite negative => cases negative with
      | true => rfl
      | false => rfl
    | nan => rfl
  | str s => exact utf8Length_quoted s
  | array items ih =>
      rw [textWith_array, utf8Length_listed rfl rfl, size_array, List.map_map]
      apply congrArg
      exact List.map_congr_left ih
  | object members ih =>
      rw [textWith_object, utf8Length_listed rfl rfl, size_object, List.map_map]
      apply congrArg
      apply List.map_congr_left
      intro m hm
      have hcolon : utf8Width (codePoint ':') = 1 := rfl
      rw [Function.comp_apply, memberText, utf8Length_append, utf8Length_cons,
        utf8Length_quoted, hcolon, ih m.fst m.snd hm, memberSize]
      omega

end Size

/-!
## Documents UTF-8 can carry
-/

/-- Every string inside the value, the keys included, is encodable. -/
def EncodableValue (v : Json) : Prop :=
  v.all (spelled fun s => decide (Encodable s)) = true

theorem encodable_flatMap {α : Type} {f : α -> PyStr} {items : List α}
    (h : forall a, a ∈ items -> Encodable (f a)) : Encodable (items.flatMap f) := by
  intro c hc
  rcases List.mem_flatMap.mp hc with ⟨a, ha, hc⟩
  exact h a ha c hc

theorem encodable_hexText (digits n : Nat) : Encodable (hexText digits n) := by
  intro c hc hsurrogate
  rcases List.mem_map.mp hc with ⟨i, _, heq⟩
  have hascii : c.val < 0x80 := by
    rw [← heq]
    exact hexDigit_ascii (n / 16 ^ i)
  have hhigh : 0xD800 ≤ c.val := hsurrogate.left
  omega

theorem encodable_escapeChar {c : CodePoint} (h : ¬ Surrogate c) :
    Encodable (escapeChar c) := by
  unfold escapeChar
  split_ifs
  · exact encodable_str _
  · exact encodable_str _
  · exact encodable_str _
  · exact encodable_str _
  · exact encodable_str _
  · exact encodable_str _
  · exact encodable_str _
  · exact encodable_append.mpr ⟨encodable_str _, encodable_hexText 4 c.val⟩
  · exact encodable_cons.mpr ⟨h, encodable_nil⟩

theorem encodable_quoted {s : PyStr} (h : Encodable s) : Encodable (quoted s) := by
  have hbody : Encodable (s.flatMap escapeChar) :=
    encodable_flatMap fun c hc => encodable_escapeChar (h c hc)
  unfold quoted
  exact encodable_append.mpr
    ⟨encodable_append.mpr ⟨encodable_str _, hbody⟩, encodable_str _⟩

theorem encodable_listed {opening closing : CodePoint} {texts : List PyStr}
    (hopening : ¬ Surrogate opening) (hclosing : ¬ Surrogate closing)
    (h : forall text, text ∈ texts -> Encodable text) :
    Encodable (opening :: ([codePoint ','].intercalate texts ++ [closing])) := by
  have hjoined : Encodable ([codePoint ','].intercalate texts) := by
    induction texts with
    | nil => exact encodable_nil
    | cons text rest ih =>
        cases rest with
        | nil =>
            rw [List.intercalate_singleton]
            exact h text List.mem_cons_self
        | cons next rest =>
            rw [Coding.intercalate_cons_cons]
            exact encodable_append.mpr ⟨h text List.mem_cons_self,
              encodable_cons.mpr ⟨surrogate_codePoint ',',
                ih fun t ht => h t (List.mem_cons_of_mem text ht)⟩⟩
  exact encodable_cons.mpr ⟨hopening, encodable_append.mpr
    ⟨hjoined, encodable_cons.mpr ⟨hclosing, encodable_nil⟩⟩⟩

theorem EncodableValue.item {items : List Json} {v : Json}
    (h : EncodableValue (.array items)) (hv : v ∈ items) : EncodableValue v :=
  all_item h hv

theorem EncodableValue.member {members : Members} {k : PyStr} {v : Json}
    (h : EncodableValue (.object members)) (hv : (k, v) ∈ members) :
    Encodable k ∧ EncodableValue v := by
  have hkeys := List.all_eq_true.mp (all_self h) (k, v) hv
  exact ⟨of_decide_eq_true hkeys, all_member h hv⟩

theorem encodableValue_str {s : PyStr} (h : Encodable s) :
    EncodableValue (.str s) :=
  decide_eq_true h

theorem encodableValue_array {items : List Json}
    (h : forall v, v ∈ items -> EncodableValue v) :
    EncodableValue (.array items) :=
  Bool.and_eq_true_iff.mpr ⟨rfl, allItems_iff.mpr h⟩

theorem encodableValue_object {members : Members}
    (h : forall m, m ∈ members -> Encodable m.fst ∧ EncodableValue m.snd) :
    EncodableValue (.object members) := by
  apply Bool.and_eq_true_iff.mpr
  constructor
  · apply List.all_eq_true.mpr
    intro m hm
    exact decide_eq_true (h m hm).left
  · apply allMembers_iff.mpr
    intro m hm
    exact (h m hm).right

theorem encodable_compactText (I : Interpreter) (v : Json)
    (h : EncodableValue v) : Encodable (v.compactText I) := by
  rw [compactText_eq]
  induction v using parts_induction with
  | null => exact encodable_str "null"
  | bool b => cases b with
    | true => exact encodable_str "true"
    | false => exact encodable_str "false"
  | int n => exact encodable_str _
  | float x => cases x with
    | finite negative magnitude representable => exact encodable_str _
    | infinite negative => cases negative with
      | true => exact encodable_str "-Infinity"
      | false => exact encodable_str "Infinity"
    | nan => exact encodable_str "NaN"
  | str s => exact encodable_quoted (of_decide_eq_true h)
  | array items ih =>
      rw [textWith_array]
      apply encodable_listed (surrogate_codePoint '[') (surrogate_codePoint ']')
      intro text htext
      rcases List.mem_map.mp htext with ⟨v, hv, heq⟩
      rw [← heq]
      exact ih v hv (h.item hv)
  | object members ih =>
      rw [textWith_object]
      apply encodable_listed (surrogate_codePoint '\x7b')
        (surrogate_codePoint '\x7d')
      intro text htext
      rcases List.mem_map.mp htext with ⟨m, hm, heq⟩
      rcases h.member hm with ⟨hkey, hvalue⟩
      rw [← heq]
      exact encodable_append.mpr ⟨encodable_quoted hkey,
        encodable_cons.mpr ⟨surrogate_codePoint ':', ih m.fst m.snd hm hvalue⟩⟩

/-- A document that can be written and carried has the size of its value. -/
theorem encodeUtf8_compactText (I : Interpreter) {v : Json}
    (h : EncodableValue v) :
    exists bytes, encodeUtf8 (v.compactText I) = some bytes ∧
      bytes.length = v.size I :=
  ⟨_, encodeUtf8_of_encodable (encodable_compactText I v h),
    utf8Length_compactText I v⟩

end Json
end Python
end EidolonSdk
