import EidolonSdk.Python.JsonText
import EidolonSdk.Python.Rounding

/-!
# Reading JSON numbers

A number is an integer unless it has a fraction or an exponent; then it is the
binary64 number nearest to its decimal value.  The text of a number ends where
another character follows, so a number is read back in front of whatever cannot
continue it.
-/

namespace EidolonSdk
namespace Python

/-- `float(text)` of a decimal number, as digits and the exponent of the last
one.  Nothing is gained by unfolding it: the numbers in it have a thousand bits. -/
@[irreducible] def Double.ofDecimal (negative : Bool) (digits : Nat) (exponent : Int) : Double :=
  let n := digits * 10 ^ exponent.toNat
  let d := 10 ^ (-exponent).toNat
  if h : roundRatio n d < doubleLimit then
    .finite negative (roundRatio n d)
      (representable_roundRatio (Nat.pow_pos (by decide)) h)
  else .infinite negative

namespace Json

def isDigit (c : CodePoint) : Bool :=
  decide (IsDecimalDigit c)

/-- The number a row of digits stands for. -/
def ofDigits (digits : PyStr) : Nat :=
  digits.foldl (fun n c => n * 10 + (c.val - 0x30)) 0

structure Numeral where
  negative : Bool
  whole : PyStr
  fraction : PyStr
  exponent : Option Int

namespace Numeral

/-- The integer or the float; an integer of too many digits is not converted. -/
def value (numeral : Numeral) : Except PyException Json :=
  if numeral.fraction = [] ∧ numeral.exponent = none then
    if Interpreter.maxStrDigits < numeral.whole.length then throw .valueError
    else
      let n := ofDigits numeral.whole
      pure (.int (if numeral.negative then -(n : Int) else n))
  else
    pure (.float (Double.ofDecimal numeral.negative
      (ofDigits (numeral.whole ++ numeral.fraction))
      (numeral.exponent.getD 0 - numeral.fraction.length)))

end Numeral

/-!
## The scanner
-/

def scanMinus (s : PyStr) : Bool × PyStr :=
  match s with
  | c :: rest => if c = codePoint '-' then (true, rest) else (false, s)
  | [] => (false, s)

/-- `0`, or digits that do not begin with one. -/
def scanWhole : PyStr -> Option (PyStr × PyStr)
  | c :: rest =>
      if c = codePoint '0' then some ([c], rest)
      else if isDigit c then
        some (c :: rest.takeWhile isDigit, rest.dropWhile isDigit)
      else none
  | [] => none

/-- A point counts in front of a digit only. -/
def scanFraction (s : PyStr) : PyStr × PyStr :=
  match s with
  | c :: rest =>
      if c = codePoint '.' ∧ rest.takeWhile isDigit ≠ [] then
        (rest.takeWhile isDigit, rest.dropWhile isDigit)
      else ([], s)
  | [] => ([], s)

def scanExponentSign (s : PyStr) : Bool × PyStr :=
  match s with
  | c :: rest =>
      if c = codePoint '-' then (true, rest)
      else if c = codePoint '+' then (false, rest)
      else (false, s)
  | [] => (false, s)

/-- An exponent mark counts in front of a digit or a sign and a digit only. -/
def scanExponent (s : PyStr) : Option Int × PyStr :=
  match s with
  | c :: rest =>
      let (negative, digits) := scanExponentSign rest
      if (c = codePoint 'e' ∨ c = codePoint 'E') ∧
          digits.takeWhile isDigit ≠ [] then
        let n := ofDigits (digits.takeWhile isDigit)
        (some (if negative then -(n : Int) else n), digits.dropWhile isDigit)
      else (none, s)
  | [] => (none, s)

/-- `_match_number`. -/
def scanNumber (s : PyStr) : Option (Numeral × PyStr) :=
  let (negative, s) := scanMinus s
  match scanWhole s with
  | some (whole, s) =>
      let (fraction, s) := scanFraction s
      let (exponent, s) := scanExponent s
      some (⟨negative, whole, fraction, exponent⟩, s)
  | none => none

/-!
## The grammar
-/

/-- What follows cannot go on with a number. -/
def EndsNumber (s : PyStr) : Prop :=
  forall c, c ∈ s.head? -> ¬ IsNumeral c ∧ c ≠ codePoint 'E'

def Digits (s : PyStr) : Prop :=
  s ≠ [] ∧ forall c, c ∈ s -> IsDecimalDigit c

/-- An exponent, with the sign it may have. -/
inductive ExponentText : Option Int -> PyStr -> Prop where
  | none : ExponentText none []
  | plain {mark : CodePoint} {digits : PyStr} :
      mark = codePoint 'e' ∨ mark = codePoint 'E' -> Digits digits ->
      ExponentText (some (ofDigits digits)) (mark :: digits)
  | plus {mark : CodePoint} {digits : PyStr} :
      mark = codePoint 'e' ∨ mark = codePoint 'E' -> Digits digits ->
      ExponentText (some (ofDigits digits)) (mark :: codePoint '+' :: digits)
  | minus {mark : CodePoint} {digits : PyStr} :
      mark = codePoint 'e' ∨ mark = codePoint 'E' -> Digits digits ->
      ExponentText (some (-(ofDigits digits : Int)))
        (mark :: codePoint '-' :: digits)

inductive FractionText : PyStr -> PyStr -> Prop where
  | none : FractionText [] []
  | digits {fraction : PyStr} : Digits fraction ->
      FractionText fraction (codePoint '.' :: fraction)

/-- No leading zero but zero itself. -/
def WholeText (whole : PyStr) : Prop :=
  Digits whole ∧ (whole.head? = some (codePoint '0') -> whole = [codePoint '0'])

def minusText (negative : Bool) : PyStr :=
  if negative then [codePoint '-'] else []

/-- The text is that of a number of JSON. -/
structure Spells (numeral : Numeral) (text : PyStr) : Prop where
  wholeText : WholeText numeral.whole
  parts : exists fraction exponent, FractionText numeral.fraction fraction ∧
    ExponentText numeral.exponent exponent ∧
    text = minusText numeral.negative ++
      (numeral.whole ++ (fraction ++ exponent))

section Scan

variable {digits rest : PyStr}

theorem takeWhile_digits (hdigits : forall c, c ∈ digits -> IsDecimalDigit c)
    (hrest : forall c, c ∈ rest.head? -> ¬ IsDecimalDigit c) :
    (digits ++ rest).takeWhile isDigit = digits ∧
      (digits ++ rest).dropWhile isDigit = rest := by
  have hall : forall c, c ∈ digits -> isDigit c = true := fun c hc =>
    decide_eq_true (hdigits c hc)
  rw [List.takeWhile_append_of_pos hall, List.dropWhile_append_of_pos hall]
  cases rest with
  | nil => simp
  | cons c rest =>
      have hc : isDigit c = false := decide_eq_false (hrest c rfl)
      simp [hc]

/-- What ends a number is no digit, no point and no exponent mark. -/
theorem EndsNumber.ne {c : CodePoint} (h : EndsNumber (c :: rest)) :
    ¬ IsDecimalDigit c ∧ c ≠ codePoint '.' ∧ c ≠ codePoint 'e' ∧
      c ≠ codePoint 'E' := by
  rcases h c rfl with ⟨hnumeral, hmark⟩
  refine ⟨fun hdigit => hnumeral (Or.inl hdigit), ?_, ?_, hmark⟩
  · intro heq
    exact hnumeral (Or.inr (by rw [heq]; decide))
  · intro heq
    exact hnumeral (Or.inr (by rw [heq]; decide))

theorem EndsNumber.not_digit (h : EndsNumber rest) :
    forall c, c ∈ rest.head? -> ¬ IsDecimalDigit c :=
  fun c hc hdigit => (h c hc).left (Or.inl hdigit)

theorem scanMinus_text (negative : Bool) {s : PyStr}
    (h : forall c, c ∈ s.head? -> IsDecimalDigit c) :
    scanMinus (minusText negative ++ s) = (negative, s) := by
  cases negative with
  | true => rfl
  | false =>
      cases s with
      | nil => rfl
      | cons c s =>
          have hc : c ≠ codePoint '-' := by
            intro heq
            have hdigit := h c rfl
            rw [heq] at hdigit
            exact not_digit_minus hdigit
          show (if c = codePoint '-' then (true, s) else (false, c :: s)) = _
          rw [if_neg hc]

theorem scanWhole_text {whole : PyStr} (h : WholeText whole)
    (hrest : forall c, c ∈ rest.head? -> ¬ IsDecimalDigit c) :
    scanWhole (whole ++ rest) = some (whole, rest) := by
  rcases h with ⟨⟨hne, hdigits⟩, hzero⟩
  cases whole with
  | nil => exact absurd rfl hne
  | cons c whole =>
      by_cases hc : c = codePoint '0'
      · rw [hc] at hzero
        rw [hc, hzero rfl]
        rfl
      · rcases takeWhile_digits (fun d hd => hdigits d (List.mem_cons_of_mem c hd))
          hrest with ⟨htake, hdrop⟩
        have hdigit : isDigit c = true :=
          decide_eq_true (hdigits c List.mem_cons_self)
        rw [List.cons_append, scanWhole, if_neg hc, if_pos hdigit, htake, hdrop]

theorem scanFraction_text {fraction text : PyStr}
    (h : FractionText fraction text)
    (hrest : forall c, c ∈ rest.head? -> ¬ IsDecimalDigit c ∧ c ≠ codePoint '.') :
    scanFraction (text ++ rest) = (fraction, rest) := by
  cases h with
  | none =>
      cases rest with
      | nil => rfl
      | cons c rest =>
          have hc := (hrest c rfl).right
          show scanFraction (c :: rest) = _
          rw [scanFraction, if_neg fun h => hc h.left]
  | digits hdigits =>
      rcases takeWhile_digits hdigits.right fun c hc => (hrest c hc).left
        with ⟨htake, hdrop⟩
      rw [List.cons_append, scanFraction, htake, hdrop,
        if_pos ⟨rfl, hdigits.left⟩]

/-- Digits behind an exponent mark, once the sign is read. -/
theorem scanExponent_digits {mark : CodePoint} {signed digits : PyStr}
    {negative : Bool} (hmark : mark = codePoint 'e' ∨ mark = codePoint 'E')
    (hdigits : Digits digits) (hrest : EndsNumber rest)
    (hsign : scanExponentSign signed = (negative, digits ++ rest)) :
    scanExponent (mark :: signed) =
      (some (if negative then -(ofDigits digits : Int) else ofDigits digits),
        rest) := by
  rcases takeWhile_digits hdigits.right hrest.not_digit with ⟨htake, hdrop⟩
  rw [scanExponent, hsign]
  dsimp only
  rw [htake, hdrop, if_pos ⟨hmark, hdigits.left⟩]

theorem scanExponentSign_none (h : Digits digits) :
    scanExponentSign (digits ++ rest) = (false, digits ++ rest) := by
  rcases h with ⟨hne, hdigits⟩
  cases digits with
  | nil => exact absurd rfl hne
  | cons c digits =>
      have hc := hdigits c List.mem_cons_self
      have hminus : c ≠ codePoint '-' := by
        intro heq
        rw [heq] at hc
        exact not_digit_minus hc
      have hplus : c ≠ codePoint '+' := by
        intro heq
        rw [heq] at hc
        exact absurd hc (by decide)
      show (if c = codePoint '-' then _ else if c = codePoint '+' then _ else _) = _
      rw [if_neg hminus, if_neg hplus]

theorem scanExponent_text {exponent : Option Int} {text : PyStr}
    (h : ExponentText exponent text) (hrest : EndsNumber rest) :
    scanExponent (text ++ rest) = (exponent, rest) := by
  cases h with
  | none =>
      cases rest with
      | nil => rfl
      | cons c rest =>
          have hne := hrest.ne.right.right
          show scanExponent (c :: rest) = _
          rw [scanExponent]
          exact if_neg fun h => h.left.elim hne.left hne.right
  | plain hmark hdigits =>
      exact scanExponent_digits hmark hdigits hrest (scanExponentSign_none hdigits)
  | plus hmark hdigits =>
      have hsign : forall s, scanExponentSign (codePoint '+' :: s) = (false, s) :=
        fun _ => rfl
      exact scanExponent_digits hmark hdigits hrest (hsign _)
  | minus hmark hdigits =>
      have hsign : forall s, scanExponentSign (codePoint '-' :: s) = (true, s) :=
        fun _ => rfl
      exact scanExponent_digits hmark hdigits hrest (hsign _)

theorem ExponentText.head {exponent : Option Int} {text : PyStr}
    (h : ExponentText exponent text) (hrest : EndsNumber rest) :
    forall c, c ∈ (text ++ rest).head? ->
      ¬ IsDecimalDigit c ∧ c ≠ codePoint '.' := by
  have hmarks : forall c : CodePoint, c = codePoint 'e' ∨ c = codePoint 'E' ->
      ¬ IsDecimalDigit c ∧ c ≠ codePoint '.' := by
    intro c hc
    rcases hc with hc | hc
    · rw [hc]
      decide
    · rw [hc]
      decide
  intro c hc
  cases h with
  | none =>
      cases rest with
      | nil => cases hc
      | cons d rest =>
          cases hc
          exact ⟨hrest.ne.left, hrest.ne.right.left⟩
  | plain hmark _ =>
      cases hc
      exact hmarks _ hmark
  | plus hmark _ =>
      cases hc
      exact hmarks _ hmark
  | minus hmark _ =>
      cases hc
      exact hmarks _ hmark

theorem FractionText.head {fraction text : PyStr} (h : FractionText fraction text)
    (hrest : forall c, c ∈ rest.head? -> ¬ IsDecimalDigit c ∧ c ≠ codePoint '.') :
    forall c, c ∈ (text ++ rest).head? -> ¬ IsDecimalDigit c := by
  intro c hc
  cases h with
  | none => exact (hrest c hc).left
  | digits _ =>
      cases hc
      decide

/-- A number is read from its text, in front of what ends it. -/
theorem scanNumber_text {numeral : Numeral} {text : PyStr}
    (h : Spells numeral text) (hrest : EndsNumber rest) :
    scanNumber (text ++ rest) = some (numeral, rest) := by
  rcases h with ⟨hwhole, fraction, exponent, hfraction, hexponent, htext⟩
  have hafter := hexponent.head hrest
  have hhead : forall c, c ∈ (numeral.whole ++ (fraction ++ (exponent ++ rest))).head? ->
      IsDecimalDigit c := by
    intro c hc
    rcases List.exists_cons_of_ne_nil hwhole.left.left with ⟨d, tail, heq⟩
    rw [heq] at hc
    cases hc
    exact hwhole.left.right c (by rw [heq]; exact List.mem_cons_self)
  rw [htext, List.append_assoc, List.append_assoc, List.append_assoc, scanNumber,
    scanMinus_text _ hhead]
  dsimp only
  rw [scanWhole_text hwhole (hfraction.head hafter)]
  dsimp only
  rw [scanFraction_text hfraction hafter, scanExponent_text hexponent hrest]

end Scan

/-!
## The characters of a number
-/

/-- A character of a number, with either exponent mark. -/
def InNumber (c : CodePoint) : Prop :=
  IsNumeral c ∨ c = codePoint 'E'

section Characters

theorem InNumber.range {c : CodePoint} (h : InNumber c) :
    0x20 ≤ c.val ∧ c.val < 0x80 := by
  rcases h with (h | h) | h
  · exact ⟨le_trans (by decide) h.left, lt_of_le_of_lt h.right (by decide)⟩
  · have hall : (Python.str "-+.e").all (fun d =>
        decide (0x20 ≤ d.val ∧ d.val < 0x80)) = true := by
      decide
    exact of_decide_eq_true (List.all_eq_true.mp hall c h)
  · rw [h]
    decide

theorem InNumber.mark {c : CodePoint} (h : c = codePoint 'e' ∨ c = codePoint 'E') :
    InNumber c := by
  rcases h with h | h
  · rw [h]
    exact Or.inl (by decide)
  · exact Or.inr h

theorem inNumber_cons {c : CodePoint} {s : PyStr} (hc : InNumber c)
    (hs : forall d, d ∈ s -> InNumber d) : forall d, d ∈ c :: s -> InNumber d :=
  List.forall_mem_cons.mpr ⟨hc, hs⟩

theorem Digits.inNumber {s : PyStr} (h : Digits s) : forall c, c ∈ s -> InNumber c :=
  fun c hc => Or.inl (Or.inl (h.right c hc))

theorem FractionText.inNumber {fraction text : PyStr}
    (h : FractionText fraction text) : forall c, c ∈ text -> InNumber c := by
  cases h with
  | none => exact List.forall_mem_nil _
  | digits hdigits => exact inNumber_cons (Or.inl (by decide)) hdigits.inNumber

theorem ExponentText.inNumber {exponent : Option Int} {text : PyStr}
    (h : ExponentText exponent text) : forall c, c ∈ text -> InNumber c := by
  cases h with
  | none => exact List.forall_mem_nil _
  | plain hmark hdigits => exact inNumber_cons (.mark hmark) hdigits.inNumber
  | plus hmark hdigits =>
      exact inNumber_cons (.mark hmark)
        (inNumber_cons (Or.inl (by decide)) hdigits.inNumber)
  | minus hmark hdigits =>
      exact inNumber_cons (.mark hmark)
        (inNumber_cons (Or.inl (by decide)) hdigits.inNumber)

theorem Spells.inNumber {numeral : Numeral} {text : PyStr} (h : Spells numeral text) :
    forall c, c ∈ text -> InNumber c := by
  rcases h with ⟨hwhole, fraction, exponent, hfraction, hexponent, htext⟩
  intro c hc
  rw [htext] at hc
  rcases List.mem_append.mp hc with hc | hc
  · cases hnegative : numeral.negative with
    | false =>
        rw [hnegative] at hc
        cases hc
    | true =>
        rw [hnegative] at hc
        rw [List.mem_singleton.mp hc]
        exact Or.inl (by decide)
  · rcases List.mem_append.mp hc with hc | hc
    · exact hwhole.left.inNumber c hc
    · rcases List.mem_append.mp hc with hc | hc
      · exact hfraction.inNumber c hc
      · exact hexponent.inNumber c hc

theorem Spells.ascii {numeral : Numeral} {text : PyStr} (h : Spells numeral text) :
    forall c, c ∈ text -> c.val < 0x80 :=
  fun c hc => (h.inNumber c hc).range.right

end Characters

/-!
## The texts of integers
-/

theorem ofDigits_append (s : PyStr) (c : CodePoint) :
    ofDigits (s ++ [c]) = ofDigits s * 10 + (c.val - 0x30) := by
  unfold ofDigits
  rw [List.foldl_append]
  rfl

theorem digitChar_spec {d : Nat} (h : d < 10) :
    (codePoint d.digitChar).val = 0x30 + d := by
  have hall : forall d, d < 10 -> (codePoint (Nat.digitChar d)).val = 0x30 + d := by
    decide
  exact hall d h

theorem naturalText_small {n : Nat} (h : n < 10) :
    naturalText n = [codePoint n.digitChar] := by
  unfold naturalText
  rw [Nat.toDigits_of_lt_base h]
  rfl

theorem naturalText_large {n : Nat} (h : 10 ≤ n) :
    naturalText n = naturalText (n / 10) ++ [codePoint (n % 10).digitChar] := by
  unfold naturalText
  rw [Nat.toDigits_of_base_le (by decide) h, List.map_append]
  rfl

theorem ofDigits_naturalText (n : Nat) : ofDigits (naturalText n) = n := by
  induction n using Nat.strong_induction_on with
  | _ n ih =>
      rcases Nat.lt_or_ge n 10 with h | h
      · have hval := digitChar_spec h
        rw [naturalText_small h]
        show 0 * 10 + ((codePoint n.digitChar).val - 0x30) = n
        omega
      · have hval := digitChar_spec (Nat.mod_lt n (by decide : 0 < 10))
        rw [naturalText_large h, ofDigits_append, ih (n / 10) (by omega), hval]
        omega

theorem wholeText_naturalText (n : Nat) : WholeText (naturalText n) := by
  refine ⟨⟨naturalText_ne_nil n, fun c hc => mem_naturalText hc⟩, ?_⟩
  induction n using Nat.strong_induction_on with
  | _ n ih =>
      rcases Nat.lt_or_ge n 10 with h | h
      · rw [naturalText_small h]
        intro hhead
        rw [Option.some.inj hhead]
      · rw [naturalText_large h,
          List.head?_append_of_ne_nil _ (naturalText_ne_nil (n / 10))]
        intro hhead
        -- The digits before the last one are those of a tenth, which is not 0.
        have htenth := ih (n / 10) (by omega) hhead
        have hzero : n / 10 = 0 := by
          rw [← ofDigits_naturalText (n / 10), htenth]
          rfl
        omega

/-- The numeral of an integer. -/
def intNumeral (n : Int) : Numeral :=
  ⟨decide (n < 0), naturalText n.natAbs, [], none⟩

theorem spells_intText (n : Int) : Spells (intNumeral n) (intText n) := by
  refine ⟨wholeText_naturalText _, [], [], FractionText.none, ExponentText.none, ?_⟩
  show intText n = minusText (decide (n < 0)) ++ (naturalText n.natAbs ++ [])
  rw [List.append_nil]
  by_cases hn : 0 ≤ n
  · have habs : n.toNat = n.natAbs := by omega
    rw [intText_nonneg hn, decide_eq_false (by omega), habs]
    rfl
  · have habs : (-n).toNat = n.natAbs := by omega
    rw [intText_neg hn, decide_eq_true (by omega), habs]
    rfl

theorem value_intNumeral {n : Int} (h : shortInteger (.int n) = true) :
    (intNumeral n).value = .ok (.int n) := by
  have hlength : (naturalText n.natAbs).length ≤ Interpreter.maxStrDigits := by
    unfold naturalText
    rw [List.length_map]
    exact of_decide_eq_true h
  unfold Numeral.value intNumeral
  dsimp only
  rw [if_pos ⟨rfl, rfl⟩, if_neg (not_lt.mpr hlength), ofDigits_naturalText]
  apply congrArg (fun m => Except.ok (Json.int m))
  by_cases hn : n < 0
  · rw [decide_eq_true hn]
    show -(n.natAbs : Int) = n
    omega
  · rw [decide_eq_false hn]
    show (n.natAbs : Int) = n
    omega

/-!
## The texts of floats
-/

/-- What is known of a way to write finite floats: the text is that of a number
with a fraction or an exponent, and reading it gives the float. -/
structure FloatNumerals (floatText : Double -> String) : Prop where
  reads : forall negative magnitude representable, exists numeral : Numeral,
    Spells numeral
      (Python.str (floatText (.finite negative magnitude representable))) ∧
    (numeral.fraction ≠ [] ∨ numeral.exponent.isSome = true) ∧
    Double.ofDecimal numeral.negative
        (ofDigits (numeral.whole ++ numeral.fraction))
        (numeral.exponent.getD 0 - numeral.fraction.length) =
      .finite negative magnitude representable

theorem value_float {numeral : Numeral}
    (h : numeral.fraction ≠ [] ∨ numeral.exponent.isSome = true) :
    numeral.value = .ok (.float (Double.ofDecimal numeral.negative
      (ofDigits (numeral.whole ++ numeral.fraction))
      (numeral.exponent.getD 0 - numeral.fraction.length))) := by
  unfold Numeral.value
  rw [if_neg]
  · rfl
  · intro hint
    rcases h with h | h
    · exact h hint.left
    · rw [hint.right] at h
      cases h

end Json
end Python
end EidolonSdk
