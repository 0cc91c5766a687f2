import EidolonSdk.Python.JsonReader

/-!
# JSON is read back

{lit}`json.dumps` has a choice of how to write strings and of the blanks behind
commas and colons.  Whatever is chosen, {lit}`json.loads` reads the value that was
written.
-/

namespace EidolonSdk
namespace Python
namespace Json

/-- A way to write strings, and which of them are read back. -/
structure StringStyle where
  body : PyStr -> PyStr
  clean : PyStr -> Bool
  reads : forall {s : PyStr}, clean s = true -> forall rest,
    readString (body s ++ codePoint '"' :: rest) = .ok (s, rest)

/-- `ensure_ascii=False`. -/
def StringStyle.utf8 : StringStyle where
  body s := s.flatMap escapeChar
  clean _ := true
  reads {s} _ rest := readString_quoted s rest

/-- `ensure_ascii=True`. -/
def StringStyle.ascii : StringStyle where
  body s := (s.flatMap utf16).flatMap escapeUnit
  clean := unsplit
  reads := readString_asciiQuoted

structure Style where
  strings : StringStyle
  floatText : Double -> String
  /-- Commas and colons are followed by a blank. -/
  spaced : Bool

namespace Style

variable (style : Style)

def gap : PyStr :=
  if style.spaced then [codePoint ' '] else []

/-- Texts with commas between them. -/
def join (texts : List PyStr) : PyStr :=
  (codePoint ',' :: style.gap).intercalate texts

def quote (s : PyStr) : PyStr :=
  codePoint '"' :: (style.strings.body s ++ [codePoint '"'])

/-- `json.dumps(value)`, for an integer of whatever length. -/
def text : Json -> PyStr
  | .null => Python.str "null"
  | .bool true => Python.str "true"
  | .bool false => Python.str "false"
  | .int n => intText n
  | .float .nan => Python.str "NaN"
  | .float (.infinite false) => Python.str "Infinity"
  | .float (.infinite true) => Python.str "-Infinity"
  | .float x => Python.str (style.floatText x)
  | .str s => style.quote s
  | .array items =>
      codePoint '[' :: (style.join (itemTexts items) ++ [codePoint ']'])
  | .object members =>
      codePoint '\x7b' :: (style.join (memberTexts members) ++ [codePoint '\x7d'])
where
  itemTexts : List Json -> List PyStr
    | [] => []
    | v :: rest => text v :: itemTexts rest
  memberTexts : Members -> List PyStr
    | [] => []
    | (k, v) :: rest =>
        (style.quote k ++ codePoint ':' :: (style.gap ++ text v)) ::
          memberTexts rest

/-- `json.dumps(value)`. -/
def dumps (v : Json) : Except PyException PyStr :=
  if v.all shortInteger then pure (style.text v) else throw .valueError

def memberText (m : PyStr × Json) : PyStr :=
  style.quote m.fst ++ codePoint ':' :: (style.gap ++ style.text m.snd)

variable {style}

theorem dumps_eq_ok {v : Json} {s : PyStr} :
    style.dumps v = .ok s <-> v.all shortInteger = true ∧ style.text v = s := by
  unfold dumps
  by_cases h : v.all shortInteger = true
  · simp [h, pure, Except.pure]
  · simp [h]

theorem text_array (items : List Json) :
    style.text (.array items) =
      codePoint '[' :: (style.join (items.map style.text) ++ [codePoint ']']) := by
  have htexts : text.itemTexts style items = items.map style.text := by
    induction items with
    | nil => rfl
    | cons v rest ih => rw [text.itemTexts, ih, List.map_cons]
  rw [text, htexts]

theorem text_object (members : Members) :
    style.text (.object members) = codePoint '\x7b' ::
      (style.join (members.map style.memberText) ++ [codePoint '\x7d']) := by
  have htexts : text.memberTexts style members = members.map style.memberText := by
    induction members with
    | nil => rfl
    | cons m rest ih =>
        rw [text.memberTexts, ih, List.map_cons]
        rfl
  rw [text, htexts]

end Style

/-!
## Between the tokens
-/

/-- What a value may begin with: no blank, no closing bracket, nothing that is not
ASCII. -/
def Starts (c : CodePoint) : Prop :=
  isBlank c = false ∧ c ∉ Python.str "]\x7d" ∧ c.val < 0x80

instance (c : CodePoint) : Decidable (Starts c) :=
  inferInstanceAs (Decidable (_ ∧ _))

def Firm (text : PyStr) : Prop :=
  exists c rest, text = c :: rest ∧ Starts c

theorem skipBlanks_cons {c : CodePoint} (h : isBlank c = false) (rest : PyStr) :
    skipBlanks (c :: rest) = c :: rest := by
  unfold skipBlanks
  rw [List.dropWhile_cons_of_neg (by simp [h])]

theorem Firm.skipBlanks_append {text : PyStr} (h : Firm text) (rest : PyStr) :
    skipBlanks (text ++ rest) = text ++ rest := by
  rcases h with ⟨c, tail, heq, hblank, _⟩
  rw [heq]
  exact skipBlanks_cons hblank _

theorem Firm.length_pos {text : PyStr} (h : Firm text) : 0 < text.length := by
  rcases h with ⟨c, tail, heq, _⟩
  rw [heq]
  exact Nat.succ_pos _

theorem skipBlanks_gap_append (style : Style) {text : PyStr} (h : Firm text)
    (rest : PyStr) : skipBlanks (style.gap ++ (text ++ rest)) = text ++ rest := by
  unfold Style.gap
  split
  · unfold skipBlanks
    rw [List.singleton_append, List.dropWhile_cons_of_pos (by decide)]
    exact h.skipBlanks_append rest
  · exact h.skipBlanks_append rest

theorem Follows.endsNumber {rest : PyStr} (h : Follows rest) : EndsNumber rest := by
  intro c hc
  have hall : (Python.str ",]\x7d").all (fun d =>
      decide (¬ IsNumeral d ∧ d ≠ codePoint 'E')) = true := by
    decide
  exact of_decide_eq_true (List.all_eq_true.mp hall c (h c hc))

theorem follows_nil : Follows [] :=
  fun c hc => absurd hc (Option.not_mem_none c)

theorem Firm.append {text : PyStr} (h : Firm text) (rest : PyStr) :
    Firm (text ++ rest) := by
  rcases h with ⟨c, tail, heq, hc⟩
  exact ⟨c, tail ++ rest, by rw [heq]; rfl, hc⟩

section Join

variable (style : Style)

theorem join_singleton (text : PyStr) : style.join [text] = text :=
  List.intercalate_singleton

theorem join_cons_cons (text next : PyStr) (texts : List PyStr) :
    style.join (text :: next :: texts) =
      text ++ codePoint ',' :: (style.gap ++ style.join (next :: texts)) := by
  unfold Style.join
  rw [List.intercalate_cons_cons, List.append_assoc]
  rfl

theorem Firm.join {text : PyStr} (h : Firm text) (texts : List PyStr) :
    Firm (style.join (text :: texts)) := by
  cases texts with
  | nil =>
      rw [join_singleton]
      exact h
  | cons next texts =>
      rw [join_cons_cons]
      exact h.append _

theorem length_le_join {texts : List PyStr}
    (h : forall text, text ∈ texts -> Firm text) :
    texts.length ≤ (style.join texts).length := by
  induction texts with
  | nil => exact Nat.zero_le _
  | cons text texts ih =>
      have htext := (h text List.mem_cons_self).length_pos
      have hrest := ih fun t ht => h t (List.mem_cons_of_mem text ht)
      cases texts with
      | nil =>
          rw [join_singleton]
          exact htext
      | cons next texts =>
          rw [join_cons_cons]
          simp only [List.length_append, List.length_cons] at hrest ⊢
          omega

theorem length_mem_join {text : PyStr} {texts : List PyStr} (h : text ∈ texts) :
    text.length ≤ (style.join texts).length := by
  induction texts with
  | nil => cases h
  | cons first texts ih =>
      cases texts with
      | nil => rw [join_singleton, List.mem_singleton.mp h]
      | cons next texts =>
          rw [join_cons_cons, List.length_append, List.length_cons,
            List.length_append]
          rcases List.mem_cons.mp h with heq | h
          · rw [heq]
            omega
          · have hrest := ih h
            omega

end Join

section Lists

variable {α : Type} {f : α -> PyStr} {close : CodePoint} {style : Style}
  {readOne : PyStr -> Except PyException (α × PyStr)} {a : α} {items : List α}
  {s rest more : PyStr} {fuel : Nat}

theorem readItems_last (hclose : isBlank close = false)
    (hone : readOne s = .ok (a, close :: rest)) :
    readItems readOne close (fuel + 1) s = .ok ([a], rest) := by
  rw [readItems, hone, Logic.ok_bind, skipBlanks_cons hclose]
  exact if_pos rfl

theorem readItems_comma (hclose : codePoint ',' ≠ close)
    (hone : readOne s = .ok (a, codePoint ',' :: more))
    (hrest : readItems readOne close fuel (skipBlanks more) = .ok (items, rest)) :
    readItems readOne close (fuel + 1) s = .ok (a :: items, rest) := by
  rw [readItems, hone, Logic.ok_bind, skipBlanks_cons (by decide)]
  dsimp only
  rw [if_neg hclose, if_pos rfl, hrest]
  rfl

variable (style)

/-- Items that are read back one by one are read back together. -/
theorem readItems_text (hclose : close ∈ Python.str "]\x7d") (hne : items ≠ [])
    (hfirm : forall a, a ∈ items -> Firm (f a))
    (hread : forall a, a ∈ items -> forall u, Follows u ->
      readOne (f a ++ u) = .ok (a, u))
    (hfuel : items.length ≤ fuel) :
    readItems readOne close fuel (style.join (items.map f) ++ close :: rest) =
      .ok (items, rest) := by
  have hcloses : isBlank close = false ∧ close ∈ Python.str ",]\x7d" ∧
      codePoint ',' ≠ close := by
    have hall : (Python.str "]\x7d").all (fun d => decide (isBlank d = false ∧
        d ∈ Python.str ",]\x7d" ∧ codePoint ',' ≠ d)) = true := by
      decide
    exact of_decide_eq_true (List.all_eq_true.mp hall close hclose)
  induction items generalizing fuel with
  | nil => exact absurd rfl hne
  | cons a items ih =>
      have hfirst := hread a List.mem_cons_self
      cases fuel with
      | zero => exact absurd hfuel (Nat.not_succ_le_zero _)
      | succ fuel =>
          cases items with
          | nil =>
              rw [List.map_cons, List.map_nil, join_singleton]
              exact readItems_last hcloses.left
                (hfirst _ (follows_cons hcloses.right.left rest))
          | cons b items =>
              have htail := ih (List.cons_ne_nil b items)
                (fun x hx => hfirm x (List.mem_cons_of_mem a hx))
                (fun x hx => hread x (List.mem_cons_of_mem a hx))
                (Nat.le_of_succ_le_succ hfuel)
              have hb : Firm (style.join ((b :: items).map f)) :=
                (hfirm b (List.mem_cons_of_mem a List.mem_cons_self)).join style _
              rw [List.map_cons, List.map_cons, join_cons_cons, List.append_assoc]
              apply readItems_comma hcloses.right.right
                (hfirst _ (follows_cons (by decide) _))
              rw [List.append_eq, List.append_assoc, ← List.map_cons,
                skipBlanks_gap_append style hb]
              exact htail

/-- A list is read back, behind its opening bracket. -/
theorem readList_text (hclose : close ∈ Python.str "]\x7d")
    (hfirm : forall a, a ∈ items -> Firm (f a))
    (hread : forall a, a ∈ items -> forall u, Follows u ->
      readOne (f a ++ u) = .ok (a, u)) :
    readList readOne close (style.join (items.map f) ++ close :: rest) =
      .ok (items, rest) := by
  have hblank : isBlank close = false := by
    have hall : (Python.str "]\x7d").all (fun d => !isBlank d) = true := by decide
    simpa using List.all_eq_true.mp hall close hclose
  unfold readList
  cases items with
  | nil =>
      rw [List.map_nil, show style.join [] = [] from rfl, List.nil_append,
        skipBlanks_cons hblank]
      exact if_pos rfl
  | cons a items =>
      have hall : Firm (style.join ((a :: items).map f)) :=
        (hfirm a List.mem_cons_self).join style _
      have hlength : (a :: items).length ≤
          (style.join ((a :: items).map f) ++ close :: rest).length := by
        rw [List.length_append]
        apply Nat.le_add_right_of_le
        rw [← List.length_map f]
        apply length_le_join
        intro text htext
        rcases List.mem_map.mp htext with ⟨b, hb, heq⟩
        rw [← heq]
        exact hfirm b hb
      have hitems : readItems readOne close _ _ = .ok (a :: items, rest) :=
        readItems_text style hclose (List.cons_ne_nil a items) hfirm hread hlength
      rw [hall.skipBlanks_append]
      rcases hall with ⟨c, tail, heq, _, hc, _⟩
      rw [heq, List.cons_append] at hitems ⊢
      dsimp only
      rw [if_neg]
      · exact hitems
      · intro h
        rw [h] at hc
        exact hc hclose

end Lists

/-!
## Values
-/

section Values

variable {style : Style} {hook : Hook}

theorem firm_of_head {c : CodePoint} (h : Starts c) (rest : PyStr) :
    Firm (c :: rest) :=
  ⟨c, rest, rfl, h⟩

theorem Spells.head {numeral : Numeral} {text : PyStr} (h : Spells numeral text) :
    exists c rest, text = c :: rest ∧ (IsDecimalDigit c ∨
      c = codePoint '-' ∧ exists d more, rest = d :: more ∧ IsDecimalDigit d) := by
  rcases h with ⟨hwhole, fraction, exponent, _, _, htext⟩
  rcases List.exists_cons_of_ne_nil hwhole.left.left with ⟨d, tail, heq⟩
  have hd := hwhole.left.right d (by rw [heq]; exact List.mem_cons_self)
  rw [heq] at htext
  cases hnegative : numeral.negative with
  | true =>
      rw [hnegative] at htext
      exact ⟨codePoint '-', _, htext, Or.inr ⟨rfl, d, _, rfl, hd⟩⟩
  | false =>
      rw [hnegative] at htext
      exact ⟨d, _, htext, Or.inl hd⟩

/-- Neither of the first two characters is a digit. -/
def wordy : PyStr -> Bool
  | c :: d :: _ => !decide (IsDecimalDigit c) && !decide (IsDecimalDigit d)
  | _ => false

/-- No word begins like a number. -/
theorem find_words {s : PyStr} {c : CodePoint} {rest : PyStr} (hs : s = c :: rest)
    (hc : IsDecimalDigit c ∨
      c = codePoint '-' ∧ exists d more, rest = d :: more ∧ IsDecimalDigit d) :
    words.find? (fun word => word.fst.isPrefixOf s) = none := by
  have hwords : words.all (fun word => wordy word.fst) = true := by decide
  apply List.find?_eq_none.mpr
  intro word hword hprefix
  have hshape := List.all_eq_true.mp hwords word hword
  rcases List.isPrefixOf_iff_prefix.mp hprefix with ⟨t, ht⟩
  rcases word with ⟨text, v⟩
  cases text with
  | nil => cases hshape
  | cons x text =>
      cases text with
      | nil => cases hshape
      | cons y text =>
          have hdigits : ¬ IsDecimalDigit x ∧ ¬ IsDecimalDigit y := by
            simpa [wordy] using hshape
          rw [hs] at ht
          rcases List.cons.inj ht with ⟨hxc, htail⟩
          rcases hc with hc | ⟨_, d, more, hrest, hd⟩
          · exact hdigits.left (hxc ▸ hc)
          · rw [hrest] at htail
            exact hdigits.right ((List.cons.inj htail).left ▸ hd)

theorem readScalar_number {numeral : Numeral} {text rest : PyStr} {v : Json}
    (h : Spells numeral text) (hv : numeral.value = .ok v)
    (hrest : EndsNumber rest) : readScalar (text ++ rest) = .ok (v, rest) := by
  rcases h.head with ⟨c, tail, htext, hc⟩
  have hfind : words.find? (fun word => word.fst.isPrefixOf (text ++ rest)) = none := by
    apply find_words (show text ++ rest = c :: (tail ++ rest) by rw [htext]; rfl)
    rcases hc with hc | ⟨hc, d, more, heq, hd⟩
    · exact Or.inl hc
    · exact Or.inr ⟨hc, d, more ++ rest, by rw [heq]; rfl, hd⟩
  unfold readScalar
  rw [hfind]
  dsimp only
  rw [scanNumber_text h hrest]
  dsimp only
  rw [hv]
  rfl

theorem readValue_number {numeral : Numeral} {text rest : PyStr} {v : Json}
    {fuel : Nat} (h : Spells numeral text) (hv : numeral.value = .ok v)
    (hrest : EndsNumber rest) :
    readValue hook (fuel + 1) (text ++ rest) = .ok (v, rest) := by
  have hscalar := readScalar_number h hv hrest
  rcases h.head with ⟨c, tail, htext, hc⟩
  have hne : c ≠ codePoint '"' ∧ c ≠ codePoint '[' ∧ c ≠ codePoint '\x7b' := by
    rcases hc with hc | ⟨hc, _⟩
    · refine ⟨?_, ?_, ?_⟩
      all_goals
        intro heq
        rw [heq] at hc
        exact absurd hc (by decide)
    · rw [hc]
      decide
  rw [htext, List.cons_append] at hscalar ⊢
  rw [readValue, if_neg hne.left, if_neg hne.right.left, if_neg hne.right.right]
  exact hscalar

theorem starts_digit {c : CodePoint} (h : IsDecimalDigit c) : Starts c := by
  have hne : forall d, ¬ IsDecimalDigit d -> c ≠ d := by
    intro d hd heq
    rw [heq] at h
    exact hd h
  refine ⟨?_, ?_, lt_of_le_of_lt h.right (by decide)⟩
  · unfold isBlank
    simp only [Bool.or_eq_false_iff, beq_eq_false_iff_ne]
    exact ⟨⟨⟨hne _ (by decide), hne _ (by decide)⟩, hne _ (by decide)⟩,
      hne _ (by decide)⟩
  · intro hmem
    have hall : (Python.str "]\x7d").all (fun d => !decide (IsDecimalDigit d)) =
        true := by
      decide
    have hnot := List.all_eq_true.mp hall c hmem
    rw [decide_eq_true h] at hnot
    cases hnot

theorem Spells.firm {numeral : Numeral} {text : PyStr} (h : Spells numeral text) :
    Firm text := by
  rcases h.head with ⟨c, rest, htext, hc⟩
  rw [htext]
  rcases hc with hc | ⟨hc, _⟩
  · exact firm_of_head (starts_digit hc) rest
  · rw [hc]
    exact firm_of_head (by decide) rest

theorem firm_memberText (m : PyStr × Json) : Firm (style.memberText m) :=
  firm_of_head (by decide) _

/-- The value is read back in front of whatever may follow it. -/
def ReadBack (style : Style) (hook : Hook) (v : Json) : Prop :=
  forall (fuel : Nat) (rest : PyStr), (style.text v).length ≤ fuel -> Follows rest ->
    readValue hook fuel (style.text v ++ rest) = .ok (v, rest)

theorem readBack_number {numeral : Numeral} {v : Json}
    (h : Spells numeral (style.text v)) (hv : numeral.value = .ok v) :
    ReadBack style hook v := by
  intro fuel rest hfuel hrest
  have hpos := h.firm.length_pos
  cases fuel with
  | zero => omega
  | succ fuel => exact readValue_number h hv hrest.endsNumber

theorem readBack_word {v : Json} {c : CodePoint} {tail : PyStr}
    (htext : style.text v = c :: tail)
    (hc : c ≠ codePoint '"' ∧ c ≠ codePoint '[' ∧ c ≠ codePoint '\x7b')
    (h : forall rest, readScalar (c :: tail ++ rest) = .ok (v, rest)) :
    ReadBack style hook v := by
  intro fuel rest hfuel _
  rw [htext] at hfuel ⊢
  cases fuel with
  | zero => exact absurd hfuel (Nat.not_succ_le_zero _)
  | succ fuel =>
      rw [List.cons_append, readValue, if_neg hc.left, if_neg hc.right.left,
        if_neg hc.right.right]
      exact h rest

theorem readBack_str {s : PyStr} (h : style.strings.clean s = true) :
    ReadBack style hook (.str s) := by
  intro fuel rest hfuel _
  cases fuel with
  | zero => exact absurd hfuel (Nat.not_succ_le_zero _)
  | succ fuel =>
      show readValue hook (fuel + 1) (codePoint '"' ::
        (style.strings.body s ++ [codePoint '"'] ++ rest)) = _
      rw [readValue, if_pos rfl, List.append_assoc, List.singleton_append,
        style.strings.reads h]
      rfl

theorem readBack_array {items : List Json}
    (hitems : forall v, v ∈ items -> Firm (style.text v) ∧ ReadBack style hook v) :
    ReadBack style hook (.array items) := by
  intro fuel rest hfuel _
  rw [Style.text_array] at hfuel ⊢
  cases fuel with
  | zero => exact absurd hfuel (Nat.not_succ_le_zero _)
  | succ fuel =>
      have hlist : readList (readValue hook fuel) (codePoint ']')
          (style.join (items.map style.text) ++ codePoint ']' :: rest) =
            .ok (items, rest) := by
        apply readList_text style (by decide) fun v hv => (hitems v hv).left
        intro v hv u hu
        have hmem : style.text v ∈ items.map style.text := List.mem_map_of_mem hv
        have hlength := length_mem_join style hmem
        simp only [List.length_cons, List.length_append] at hfuel
        exact (hitems v hv).right fuel u (by omega) hu
      rw [List.cons_append, List.append_assoc, List.singleton_append, readValue,
        if_neg (by decide), if_pos rfl, hlist]
      rfl

theorem readMember_text {readOne : PyStr -> Except PyException (Json × PyStr)}
    {m : PyStr × Json} {u : PyStr} (hkey : style.strings.clean m.fst = true)
    (hfirm : Firm (style.text m.snd))
    (hvalue : readOne (style.text m.snd ++ u) = .ok (m.snd, u)) :
    readMember readOne (style.memberText m ++ u) = .ok (m, u) := by
  have htext : style.memberText m ++ u = codePoint '"' ::
      (style.strings.body m.fst ++ codePoint '"' :: codePoint ':' ::
        (style.gap ++ (style.text m.snd ++ u))) := by
    simp [Style.memberText, Style.quote]
  have hcolon : skipBlanks (codePoint ':' :: (style.gap ++ (style.text m.snd ++ u))) =
      codePoint ':' :: (style.gap ++ (style.text m.snd ++ u)) :=
    skipBlanks_cons (by decide) _
  rw [htext, readMember, if_pos rfl, style.strings.reads hkey, Logic.ok_bind,
    hcolon]
  dsimp only
  rw [if_pos rfl, skipBlanks_gap_append style hfirm, hvalue]
  rfl

theorem readBack_object {members : Members} (hhook : Keeps hook)
    (hkeys : members.keys.Nodup)
    (hmembers : forall m, m ∈ members -> style.strings.clean m.fst = true ∧
      Firm (style.text m.snd) ∧ ReadBack style hook m.snd) :
    ReadBack style hook (.object members) := by
  intro fuel rest hfuel _
  rw [Style.text_object] at hfuel ⊢
  cases fuel with
  | zero => exact absurd hfuel (Nat.not_succ_le_zero _)
  | succ fuel =>
      have hlist : readList (readMember (readValue hook fuel)) (codePoint '\x7d')
          (style.join (members.map style.memberText) ++ codePoint '\x7d' :: rest) =
            .ok (members, rest) := by
        apply readList_text style (by decide) fun m _ => firm_memberText m
        intro m hm u hu
        rcases hmembers m hm with ⟨hkey, hfirm, hvalue⟩
        have hmem : style.memberText m ∈ members.map style.memberText :=
          List.mem_map_of_mem hm
        have hlength := length_mem_join style hmem
        have hmember : (style.text m.snd).length ≤ (style.memberText m).length := by
          unfold Style.memberText
          simp only [List.length_append, List.length_cons]
          omega
        simp only [List.length_cons, List.length_append] at hfuel
        exact readMember_text hkey hfirm (hvalue fuel u (by omega) hu)
      rw [List.cons_append, List.append_assoc, List.singleton_append, readValue,
        if_neg (by decide), if_neg (by decide), if_pos rfl, hlist, Logic.ok_bind,
        hhook members hkeys]
      rfl

variable (hfloat : FloatNumerals style.floatText)

include hfloat

theorem firm_text {v : Json} (hv : IsJson v) : Firm (style.text v) := by
  cases v with
  | null => exact firm_of_head (by decide) _
  | bool b =>
      cases b with
      | true => exact firm_of_head (by decide) _
      | false => exact firm_of_head (by decide) _
  | int n => exact (spells_intText n).firm
  | float x =>
      cases x with
      | finite negative magnitude representable =>
          rcases hfloat.reads negative magnitude representable with ⟨_, hspells, _⟩
          exact hspells.firm
      | infinite negative => cases hv
      | nan => cases hv
  | str s => exact firm_of_head (by decide) _
  | array items =>
      rw [Style.text_array]
      exact firm_of_head (by decide) _
  | object members =>
      rw [Style.text_object]
      exact firm_of_head (by decide) _

/-- Every value of JSON is read back. -/
theorem readBack (hhook : Keeps hook) {v : Json}
    (hv : Writable style.strings.clean v) (hshort : v.all shortInteger = true) :
    ReadBack style hook v := by
  induction v using parts_induction with
  | null => exact readBack_word rfl (by decide) fun _ => rfl
  | bool b =>
      cases b with
      | true => exact readBack_word rfl (by decide) fun _ => rfl
      | false => exact readBack_word rfl (by decide) fun _ => rfl
  | int n => exact readBack_number (spells_intText n) (value_intNumeral hshort)
  | float x =>
      cases x with
      | finite negative magnitude representable =>
          rcases hfloat.reads negative magnitude representable
            with ⟨numeral, hspells, hmarked, hvalue⟩
          apply readBack_number hspells
          rw [value_float hmarked, hvalue]
      | infinite negative => cases hv.isJson
      | nan => cases hv.isJson
  | str s => exact readBack_str (all_self hv.spelled)
  | array items ih =>
      apply readBack_array
      intro v hmem
      exact ⟨firm_text hfloat (hv.isJson.item hmem),
        ih v hmem (hv.item hmem) (all_item hshort hmem)⟩
  | object members ih =>
      apply readBack_object hhook hv.isJson.keys_nodup
      intro m hm
      rcases hv.member (show (m.fst, m.snd) ∈ members from hm) with ⟨hkey, hvalue⟩
      exact ⟨hkey, firm_text hfloat hvalue.isJson,
        ih m.fst m.snd hm hvalue (all_member hshort hm)⟩

/-- {lit}`json.loads` undoes {lit}`json.dumps`. -/
theorem loads_text (hhook : Keeps hook) {v : Json}
    (hv : Writable style.strings.clean v) (hshort : v.all shortInteger = true) :
    loads hook (style.text v) = .ok v := by
  have hfirm := firm_text hfloat hv.isJson
  have hskip : skipBlanks (style.text v) = style.text v := by
    have happend := hfirm.skipBlanks_append []
    rwa [List.append_nil] at happend
  have hread := readBack hfloat hhook hv hshort ((style.text v).length + 1) []
    (Nat.le_succ _) follows_nil
  rw [List.append_nil] at hread
  have hmark : (style.text v).head? ≠ some (0xFEFF : CodePoint) := by
    rcases hfirm with ⟨c, tail, heq, _, _, hascii⟩
    rw [heq]
    intro h
    rw [Option.some.inj h] at hascii
    exact absurd hascii (by decide)
  rw [loads, if_neg hmark, decode, hskip, hread]
  rfl

end Values

/-!
## The characters of a text
-/

section Characters

variable {style : Style} {p : CodePoint -> Prop}

theorem forall_mem_gap (hgap : p (codePoint ' ')) :
    forall c, c ∈ style.gap -> p c := by
  unfold Style.gap
  split
  · exact List.forall_mem_singleton.mpr hgap
  · exact List.forall_mem_nil _

theorem forall_mem_join {texts : List PyStr} (hcomma : p (codePoint ','))
    (hgap : p (codePoint ' '))
    (h : forall text, text ∈ texts -> forall c, c ∈ text -> p c) :
    forall c, c ∈ style.join texts -> p c := by
  induction texts with
  | nil => exact List.forall_mem_nil _
  | cons text texts ih =>
      have htext := h text List.mem_cons_self
      have hrest := ih fun t ht => h t (List.mem_cons_of_mem text ht)
      cases texts with
      | nil =>
          rw [join_singleton]
          exact htext
      | cons next texts =>
          rw [join_cons_cons]
          exact List.forall_mem_append.mpr ⟨htext, List.forall_mem_cons.mpr
            ⟨hcomma, List.forall_mem_append.mpr ⟨forall_mem_gap hgap, hrest⟩⟩⟩

variable {clean : PyStr -> Bool}
  (hplain : forall c : CodePoint, 0x20 ≤ c.val -> c.val < 0x80 -> p c)
  (hbody : forall s, clean s = true -> forall c, c ∈ style.strings.body s -> p c)

include hplain

theorem forall_mem_str {s : String}
    (h : (Python.str s).all (fun c => decide (0x20 ≤ c.val ∧ c.val < 0x80)) = true) :
    forall c, c ∈ Python.str s -> p c := by
  intro c hc
  rcases of_decide_eq_true (List.all_eq_true.mp h c hc) with ⟨hlow, hhigh⟩
  exact hplain c hlow hhigh

include hbody

theorem forall_mem_quote {s : PyStr} (h : clean s = true) :
    forall c, c ∈ style.quote s -> p c := by
  have hmark : p (codePoint '"') := hplain _ (by decide) (by decide)
  exact List.forall_mem_cons.mpr ⟨hmark, List.forall_mem_append.mpr
    ⟨hbody s h, List.forall_mem_singleton.mpr hmark⟩⟩

/-- The characters of a text are those of its strings and printable ASCII ones. -/
theorem forall_mem_text (hfloat : FloatNumerals style.floatText) {v : Json}
    (hv : Writable clean v) : forall c, c ∈ style.text v -> p c := by
  have hcomma : p (codePoint ',') := hplain _ (by decide) (by decide)
  have hblank : p (codePoint ' ') := hplain _ (by decide) (by decide)
  have hnumber : forall {numeral : Numeral} {text : PyStr}, Spells numeral text ->
      forall c, c ∈ text -> p c := by
    intro numeral text hspells c hc
    rcases (hspells.inNumber c hc).range with ⟨hlow, hhigh⟩
    exact hplain c hlow hhigh
  induction v using parts_induction with
  | null => exact forall_mem_str hplain (by decide)
  | bool b =>
      cases b with
      | true => exact forall_mem_str hplain (by decide)
      | false => exact forall_mem_str hplain (by decide)
  | int n => exact hnumber (spells_intText n)
  | float x =>
      cases x with
      | finite negative magnitude representable =>
          rcases hfloat.reads negative magnitude representable with ⟨_, hspells, _⟩
          exact hnumber hspells
      | infinite negative => cases hv.isJson
      | nan => cases hv.isJson
  | str s => exact forall_mem_quote hplain hbody (all_self hv.spelled)
  | array items ih =>
      rw [Style.text_array]
      refine List.forall_mem_cons.mpr ⟨hplain _ (by decide) (by decide),
        List.forall_mem_append.mpr ⟨forall_mem_join hcomma hblank ?_,
          List.forall_mem_singleton.mpr (hplain _ (by decide) (by decide))⟩⟩
      intro text htext
      rcases List.mem_map.mp htext with ⟨v, hmem, heq⟩
      rw [← heq]
      exact ih v hmem (hv.item hmem)
  | object members ih =>
      rw [Style.text_object]
      refine List.forall_mem_cons.mpr ⟨hplain _ (by decide) (by decide),
        List.forall_mem_append.mpr ⟨forall_mem_join hcomma hblank ?_,
          List.forall_mem_singleton.mpr (hplain _ (by decide) (by decide))⟩⟩
      intro text htext
      rcases List.mem_map.mp htext with ⟨m, hm, heq⟩
      rcases hv.member (show (m.fst, m.snd) ∈ members from hm) with ⟨hkey, hvalue⟩
      rw [← heq]
      exact List.forall_mem_append.mpr ⟨forall_mem_quote hplain hbody hkey,
        List.forall_mem_cons.mpr ⟨hplain _ (by decide) (by decide),
          List.forall_mem_append.mpr ⟨forall_mem_gap hblank, ih m.fst m.snd hm hvalue⟩⟩⟩

end Characters

/-!
## Compact text
-/

/-- Compact text with every character as it is. -/
theorem compactText_eq_text (I : Interpreter) (v : Json) :
    v.compactText I = Style.text ⟨.utf8, I.floatRepr, false⟩ v := by
  rw [compactText_eq]
  induction v using parts_induction with
  | null => rfl
  | bool b => cases b with
    | true => rfl
    | false => rfl
  | int n => rfl
  | float x => cases x with
    | finite negative magnitude representable => rfl
    | infinite negative => cases negative with
      | true => rfl
      | false => rfl
    | nan => rfl
  | str s => rfl
  | array items ih =>
      rw [textWith_array, Style.text_array, List.map_congr_left ih]
      rfl
  | object members ih =>
      have hmembers : members.map (memberText I quoted) =
          members.map (Style.memberText ⟨.utf8, I.floatRepr, false⟩) := by
        apply List.map_congr_left
        intro m hm
        unfold memberText
        rw [ih m.fst m.snd hm]
        rfl
      rw [textWith_object, Style.text_object, hmembers]
      rfl

/-- Without escapes for what is not ASCII every string is read back. -/
theorem writable_utf8 {v : Json} (h : IsJson v) :
    Writable StringStyle.utf8.clean v := by
  refine ⟨h, ?_⟩
  clear h
  induction v using parts_induction with
  | null => rfl
  | bool b => rfl
  | int n => rfl
  | float x => rfl
  | str s => rfl
  | array items ih => exact Bool.and_eq_true_iff.mpr ⟨rfl, allItems_iff.mpr ih⟩
  | object members ih =>
      refine Bool.and_eq_true_iff.mpr
        ⟨List.all_eq_true.mpr fun m _ => rfl, allMembers_iff.mpr ?_⟩
      intro m hm
      exact ih m.fst m.snd hm

/-!
## Texts UTF-8 can carry
-/

theorem encodable_escapeChar_iff {c : CodePoint} :
    Encodable (escapeChar c) <-> ¬ Surrogate c := by
  refine ⟨fun h hsurrogate => ?_, encodable_escapeChar⟩
  have hhigh : 0xD800 ≤ c.val := hsurrogate.left
  have hshort : ¬ ShortEscaped c := by
    intro hparts
    rcases hparts with h | h | h | h | h | h | h
    · rw [h] at hhigh
      revert hhigh
      decide
    · rw [h] at hhigh
      revert hhigh
      decide
    · rw [h] at hhigh
      revert hhigh
      decide
    · rw [h] at hhigh
      revert hhigh
      decide
    · rw [h] at hhigh
      revert hhigh
      decide
    · omega
    · omega
  have hself : escapeChar c = [c] := by
    unfold ShortEscaped at hshort
    simp only [not_or] at hshort
    rcases hshort with ⟨hquote, hbackslash, hnewline, hreturn, htab, hfeed, hback⟩
    unfold escapeChar
    rw [if_neg hquote, if_neg hbackslash, if_neg hnewline, if_neg hreturn, if_neg htab,
      if_neg hfeed, if_neg hback, if_neg (by omega)]
  rw [hself] at h
  exact h c List.mem_cons_self hsurrogate

theorem encodable_flatMap_escapeChar {s : PyStr} :
    Encodable (s.flatMap escapeChar) <-> Encodable s := by
  induction s with
  | nil => exact Iff.rfl
  | cons c rest ih =>
      rw [List.flatMap_cons, encodable_append, encodable_escapeChar_iff, ih,
        encodable_cons]

section Carried

variable {style : Style}

theorem Style.encodable_gap : Encodable style.gap := by
  unfold Style.gap
  split
  · exact encodable_cons.mpr ⟨surrogate_codePoint ' ', encodable_nil⟩
  · exact encodable_nil

theorem Style.encodable_join {texts : List PyStr} :
    Encodable (style.join texts) <-> forall text, text ∈ texts -> Encodable text := by
  induction texts with
  | nil => exact iff_of_true encodable_nil nofun
  | cons text rest ih =>
      cases rest with
      | nil => rw [join_singleton, List.forall_mem_singleton]
      | cons next rest =>
          rw [List.forall_mem_cons, join_cons_cons, encodable_append, encodable_cons,
            encodable_append, ih]
          exact and_congr_right fun _ => ⟨fun h => h.right.right,
            fun h => ⟨surrogate_codePoint ',', style.encodable_gap, h⟩⟩

theorem Style.encodable_quote (hstrings : style.strings = .utf8) (s : PyStr) :
    Encodable (style.quote s) <-> Encodable s := by
  unfold Style.quote
  rw [hstrings, encodable_cons, encodable_append]
  show _ ∧ Encodable (s.flatMap escapeChar) ∧ _ <-> _
  rw [encodable_flatMap_escapeChar]
  exact ⟨fun h => h.right.left, fun h => ⟨surrogate_codePoint '"', h,
    encodable_cons.mpr ⟨surrogate_codePoint '"', encodable_nil⟩⟩⟩

theorem Style.encodable_memberText (hstrings : style.strings = .utf8)
    {m : PyStr × Json} (hvalue : Encodable (style.text m.snd) <-> EncodableValue m.snd) :
    Encodable (style.memberText m) <-> Encodable m.fst ∧ EncodableValue m.snd := by
  unfold Style.memberText
  rw [encodable_append, style.encodable_quote hstrings, encodable_cons,
    encodable_append, hvalue]
  exact and_congr_right fun _ => ⟨fun h => h.right.right,
    fun h => ⟨surrogate_codePoint ':', style.encodable_gap, h⟩⟩

/-- A text in which only what has to be is escaped can be carried exactly when the
strings of its value can. -/
theorem Style.encodable_text (hstrings : style.strings = .utf8) {v : Json} :
    Encodable (style.text v) <-> EncodableValue v := by
  induction v using parts_induction with
  | null => exact iff_of_true (encodable_str "null") rfl
  | bool b =>
      cases b with
      | true => exact iff_of_true (encodable_str "true") rfl
      | false => exact iff_of_true (encodable_str "false") rfl
  | int n => exact iff_of_true (encodable_str _) rfl
  | float x =>
      cases x with
      | finite negative magnitude representable =>
          exact iff_of_true (encodable_str _) rfl
      | infinite negative =>
          cases negative with
          | true => exact iff_of_true (encodable_str "-Infinity") rfl
          | false => exact iff_of_true (encodable_str "Infinity") rfl
      | nan => exact iff_of_true (encodable_str "NaN") rfl
  | str s => exact (style.encodable_quote hstrings s).trans decide_eq_true_iff.symm
  | array items ih =>
      rw [Style.text_array, encodable_cons, encodable_append, style.encodable_join,
        List.forall_mem_map]
      constructor
      · intro h
        exact encodableValue_array fun v hv => (ih v hv).mp (h.right.left v hv)
      · intro h
        exact ⟨surrogate_codePoint '[', fun v hv => (ih v hv).mpr (h.item hv),
          encodable_cons.mpr ⟨surrogate_codePoint ']', encodable_nil⟩⟩
  | object members ih =>
      rw [Style.text_object, encodable_cons, encodable_append, style.encodable_join,
        List.forall_mem_map]
      have hmember : forall m, m ∈ members -> (Encodable (style.memberText m) <->
          Encodable m.fst ∧ EncodableValue m.snd) :=
        fun m hm => style.encodable_memberText hstrings (ih m.fst m.snd hm)
      constructor
      · intro h
        exact encodableValue_object fun m hm => (hmember m hm).mp (h.right.left m hm)
      · intro h
        exact ⟨surrogate_codePoint '\x7b',
          fun m hm => (hmember m hm).mpr (h.member hm),
          encodable_cons.mpr ⟨surrogate_codePoint '\x7d', encodable_nil⟩⟩

end Carried

end Json
end Python
end EidolonSdk
