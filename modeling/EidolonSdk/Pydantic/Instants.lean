import EidolonSdk.Pydantic.Timestamp
import EidolonSdk.Pydantic.Validation
import EidolonSdk.Python.IsoFormat

/-!
# Instants and back

Strict models take a timestamp only as a datetime, so the canonical ones parse
a string themselves before any type is checked.  What that parser reads from the
text an instant is written as is the instant itself, whatever the instant.
-/

namespace EidolonSdk
namespace Pydantic

open Python

/-!
## The calendar

A date is found by taking out whole cycles of years and then whole months; each
step leaves what the ordinal of the date found so far does not account for.
-/

theorem daysBeforeMonth_succ {year month : Nat} (h : 1 ≤ month) :
    daysBeforeMonth year (month + 1) =
      daysBeforeMonth year month + daysInMonth year month := by
  cases month with
  | zero => omega
  | succ month => simp [daysBeforeMonth, List.range_succ]

theorem daysBeforeMonth_thirteen (year : Nat) :
    daysBeforeMonth year 13 = if isLeap year then 366 else 365 := by
  cases hleap : isLeap year with
  | true => simp [daysBeforeMonth, List.range_succ, daysInMonth, hleap]
  | false => simp [daysBeforeMonth, List.range_succ, daysInMonth, hleap]

/-- What the search for the month returns. -/
structure DateIn (year rest : Nat) (date : Nat × Nat × Nat) : Prop where
  year_eq : date.1 = year
  month_pos : 1 ≤ date.2.1
  month_le : date.2.1 ≤ 12
  day_pos : 1 ≤ date.2.2
  day_le : date.2.2 ≤ daysInMonth year date.2.1
  total : daysBeforeMonth year date.2.1 + date.2.2 = rest + 1

theorem monthOf_dateIn {year month day fuel : Nat} (hpos : 1 ≤ month)
    (hfuel : 13 ≤ month + fuel) (hmonth : month ≤ 13)
    (hday : daysBeforeMonth year month + day < daysBeforeMonth year 13) :
    DateIn year (daysBeforeMonth year month + day)
      (dateOfOrdinal.monthOf year month day fuel) := by
  induction fuel generalizing month day with
  | zero =>
      have hlast : month = 13 := by omega
      rw [hlast] at hday
      omega
  | succ fuel ih =>
      have hnext := @daysBeforeMonth_succ year month hpos
      unfold dateOfOrdinal.monthOf
      by_cases hfits : day < daysInMonth year month
      · rw [if_pos hfits]
        have hle : month ≤ 12 := by
          by_contra hgt
          have hlast : month = 13 := by omega
          rw [hlast] at hday
          omega
        exact
          { year_eq := rfl
            month_pos := hpos
            month_le := hle
            day_pos := Nat.succ_pos day
            day_le := hfits
            total := rfl }
      · rw [if_neg hfits]
        have hne : month ≠ 13 := by
          intro hlast
          rw [hlast] at hday
          omega
        have hsame : daysBeforeMonth year (month + 1) +
            (day - daysInMonth year month) =
              daysBeforeMonth year month + day := by omega
        have hrest := @ih (month + 1) (day - daysInMonth year month)
          (by omega) (by omega) (by omega) (by omega)
        rw [hsame] at hrest
        exact hrest

/-- Inside the cycles of 400, 100, 4 and 1 years. -/
theorem daysBeforeYear_cycles {a b c d : Nat} (hb : b ≤ 3) (hc : c ≤ 24)
    (hd : d ≤ 3) :
    daysBeforeYear (a * 400 + b * 100 + c * 4 + d + 1) =
      a * 146097 + b * 36524 + c * 1461 + d * 365 := by
  have hfour : (a * 400 + b * 100 + c * 4 + d) / 4 = a * 100 + b * 25 + c := by
    omega
  have hhundred : (a * 400 + b * 100 + c * 4 + d) / 100 = a * 4 + b := by
    omega
  have hcycle : (a * 400 + b * 100 + c * 4 + d) / 400 = a := by
    omega
  unfold daysBeforeYear
  rw [Nat.add_sub_cancel, hfour, hhundred, hcycle]
  omega

/-- The year whose last day ends a cycle of 4 or of 400 years. -/
theorem daysBeforeYear_last {a b c d : Nat}
    (h : (d = 4 ∧ b ≤ 3 ∧ c ≤ 23) ∨ (b = 4 ∧ c = 0 ∧ d = 0)) :
    daysBeforeYear (a * 400 + b * 100 + c * 4 + d) + 365 =
      a * 146097 + b * 36524 + c * 1461 + d * 365 := by
  have hfour : forall n : Nat, n + 3 * 365 + 365 = n + 4 * 365 := by
    intro n
    omega
  have hcentury : forall n : Nat,
      n + 3 * 36524 + 24 * 1461 + 3 * 365 + 365 =
        n + 4 * 36524 + 0 * 1461 + 0 * 365 := by
    intro n
    omega
  rcases h with ⟨hd, hb, hc⟩ | ⟨hb, hc, hd⟩
  · subst hd
    have hcycles := @daysBeforeYear_cycles a b c 3 hb
      (le_trans hc (Nat.le_succ 23)) (le_refl 3)
    have hyear : a * 400 + b * 100 + c * 4 + 4 =
        a * 400 + b * 100 + c * 4 + 3 + 1 := by omega
    rw [hyear, hcycles, hfour]
  · subst hb hc hd
    have hcycles := @daysBeforeYear_cycles a 3 24 3 (le_refl 3) (le_refl 24)
      (le_refl 3)
    have hyear : a * 400 + 4 * 100 + 0 * 4 + 0 =
        a * 400 + 3 * 100 + 24 * 4 + 3 + 1 := by omega
    rewrite [hyear, hcycles]
    exact hcentury (a * 146097)

/-- The date of an ordinal names a day of the calendar, and it is that day. -/
structure DateOf (n : Nat) (date : Nat × Nat × Nat) : Prop where
  year_pos : 1 ≤ date.1
  month_pos : 1 ≤ date.2.1
  month_le : date.2.1 ≤ 12
  day_pos : 1 ≤ date.2.2
  day_le : date.2.2 ≤ daysInMonth date.1 date.2.1
  ordinal_eq : ordinal date.1 date.2.1 date.2.2 = n

theorem dateOfOrdinal_dateOf {n : Nat} (h : 1 ≤ n) :
    DateOf n (dateOfOrdinal n) := by
  unfold dateOfOrdinal
  obtain ⟨m, rfl⟩ : exists m, n = m + 1 := ⟨n - 1, by omega⟩
  simp only [Nat.add_sub_cancel]
  generalize ha : m / 146097 = a
  generalize hb : m % 146097 / 36524 = b
  generalize hc : m % 146097 % 36524 / 1461 = c
  generalize hd : m % 146097 % 36524 % 1461 / 365 = d
  generalize he : m % 146097 % 36524 % 1461 % 365 = e
  have hm : m = a * 146097 + b * 36524 + c * 1461 + d * 365 + e := by omega
  have hsmall : b ≤ 4 ∧ c ≤ 24 ∧ d ≤ 4 ∧ e < 365 := by omega
  have hends : d = 4 ∨ b = 4 ->
      ((d = 4 ∧ b ≤ 3 ∧ c ≤ 23) ∨ (b = 4 ∧ c = 0 ∧ d = 0)) ∧ e = 0 := by
    omega
  clear ha hb hc hd he
  by_cases hlast : d = 4 ∨ b = 4
  · -- The last day of a cycle belongs to the leap year that ends it.
    rw [if_pos hlast]
    have hleap : isLeap (a * 400 + b * 100 + c * 4 + d) = true := by
      unfold isLeap
      simp
      omega
    have hmonth : daysBeforeMonth (a * 400 + b * 100 + c * 4 + d) 12 = 335 := by
      simp [daysBeforeMonth, List.range_succ, daysInMonth, hleap]
    have hyear : daysBeforeYear (a * 400 + b * 100 + c * 4 + d) + 366 =
        m + 1 := by
      rw [(hends hlast).right, Nat.add_zero] at hm
      rw [hm, ← daysBeforeYear_last (hends hlast).left]
    have hpos : 1 ≤ a * 400 + b * 100 + c * 4 + d := by omega
    refine ⟨hpos, Nat.le_add_left 1 11, le_refl 12, Nat.le_add_left 1 30,
      ?_, ?_⟩
    · show 31 ≤ 31
      exact le_refl _
    · show daysBeforeYear _ + daysBeforeMonth _ 12 + 31 = _
      rw [hmonth, Nat.add_assoc]
      exact hyear
  · rw [if_neg hlast]
    have hyear : daysBeforeYear (a * 400 + b * 100 + c * 4 + d + 1) + e = m := by
      rw [daysBeforeYear_cycles (by omega) (by omega) (by omega)]
      omega
    have hrest : e < 365 := by omega
    have hdate := @monthOf_dateIn (a * 400 + b * 100 + c * 4 + d + 1) 1 e 12
      (by decide) (by decide) (by decide) (by
        rw [daysBeforeMonth_thirteen]
        show 0 + e < _
        split
        · omega
        · omega)
    generalize dateOfOrdinal.monthOf (a * 400 + b * 100 + c * 4 + d + 1) 1 e 12 =
      date at hdate ⊢
    refine ⟨?_, hdate.month_pos, hdate.month_le, hdate.day_pos, ?_, ?_⟩
    · rw [hdate.year_eq]
      exact Nat.succ_pos _
    · rw [hdate.year_eq]
      exact hdate.day_le
    · have htotal := hdate.total
      rw [show daysBeforeMonth (a * 400 + b * 100 + c * 4 + d + 1) 1 = 0
        from rfl, Nat.zero_add] at htotal
      unfold ordinal
      rw [hdate.year_eq, Nat.add_assoc, htotal]
      omega

theorem DateOf.year_lt {n : Nat} {date : Nat × Nat × Nat} (h : DateOf n date)
    (hn : n ≤ lastOrdinal) : date.1 < 10000 := by
  have htotal := h.ordinal_eq
  have hday := h.day_pos
  unfold ordinal daysBeforeYear at htotal
  unfold lastOrdinal at hn
  by_contra hyear
  omega

/-!
## Octets of a timestamp
-/

def octets (s : PyStr) : Bytes :=
  s.map fun c => byte c.val

/-- The last decimal digit of a number. -/
def digitOctet (n : Nat) : Byte :=
  byte (0x30 + n % 10)

theorem val_digitOctet (n : Nat) : (digitOctet n).val = 0x30 + n % 10 := by
  simp only [digitOctet, val_byte]
  omega

theorem isDigitOctet_digitOctet (n : Nat) :
    isDigitOctet (0x30 + n % 10) = true := by
  simp only [isDigitOctet, Bool.and_eq_true, decide_eq_true_eq]
  omega

theorem digit_ne (n k : Nat) (h : k < 0x30 ∨ 0x39 < k) : 0x30 + n % 10 ≠ k := by
  omega

theorem octets_append (s t : PyStr) : octets (s ++ t) = octets s ++ octets t :=
  List.map_append

theorem octets_padded (width n : Nat) :
    octets (padded width n) =
      (List.range width).reverse.map fun i => digitOctet (n / 10 ^ i) := by
  unfold octets padded
  rw [List.map_map]
  apply List.map_congr_left
  intro i _
  apply Fin.ext
  simp only [Function.comp_apply, digitOctet, val_byte, Fin.val_ofNat]
  omega

def dateOctets (year month day : Nat) : Bytes :=
  [digitOctet (year / 1000), digitOctet (year / 100), digitOctet (year / 10),
    digitOctet year, byte 0x2D, digitOctet (month / 10), digitOctet month,
    byte 0x2D, digitOctet (day / 10), digitOctet day]

def timeOctets (hour minute second : Nat) : Bytes :=
  [byte 0x54, digitOctet (hour / 10), digitOctet hour, byte 0x3A,
    digitOctet (minute / 10), digitOctet minute, byte 0x3A,
    digitOctet (second / 10), digitOctet second]

/-- The fraction is left out where it is zero. -/
def fractionOctets (micros : Nat) : Bytes :=
  if micros = 0 then []
  else
    [byte 0x2E, digitOctet (micros / 100000), digitOctet (micros / 10000),
      digitOctet (micros / 1000), digitOctet (micros / 100),
      digitOctet (micros / 10), digitOctet micros]

def utcOctets : Bytes :=
  [byte 0x2B, byte 0x30, byte 0x30, byte 0x3A, byte 0x30, byte 0x30]

/-- The text of an instant with its offset spelled out. -/
def instantOctets (year month day hour minute second micros : Nat) : Bytes :=
  dateOctets year month day ++ (timeOctets hour minute second ++
    (fractionOctets micros ++ utcOctets))

/-!
## Reading the octets
-/

section Read

variable {year month day hour minute second micros : Nat}

theorem findSeparator_dateOctets (rest : Bytes) :
    findSeparator (dateOctets year month day ++ rest) = some 10 := by
  have hweek := digit_ne (month / 10) 0x57 (Or.inr (by decide))
  simp [findSeparator, dateOctets, octetAt, val_digitOctet, hweek]

theorem two_digits {n : Nat} (h : n < 100) : n / 10 % 10 * 10 + n % 10 = n := by
  omega

theorem parseDate_dateOctets (rest : Bytes) (hyear : year < 10000)
    (hmonth : month < 100) (hday : day < 100) :
    parseDate (dateOctets year month day ++ rest) 10 =
      dateOrdinal year month day := by
  have hweek := digit_ne (month / 10) 0x57 (Or.inr (by decide))
  have hfour : ((year / 1000 % 10 * 10 + year / 100 % 10) * 10 +
      year / 10 % 10) * 10 + year % 10 = year := by omega
  simp [parseDate, dateOctets, octetAt, parseDigits, val_digitOctet,
    isDigitOctet_digitOctet, hfour, two_digits hmonth, two_digits hday, hweek]

/-- The time behind the separator, with its fraction or without one. -/
theorem parseTime_instantOctets (hhour : hour ≤ 23) (hminute : minute ≤ 59)
    (hsecond : second ≤ 59) (hmicros : micros < 1000000) :
    parseTime (instantOctets year month day hour minute second micros) 11 =
      some ((hour * 3600 + minute * 60 + second) * 1000000 + micros,
        some 0) := by
  have hplus := fun n => digit_ne n 0x2B (Or.inl (by decide))
  have hminus := fun n => digit_ne n 0x2D (Or.inl (by decide))
  have hzulu := fun n => digit_ne n 0x5A (Or.inr (by decide))
  have hzero : isDigitOctet 48 = true := rfl
  have hsign : isDigitOctet 43 = false := rfl
  have htwo : hour < 100 ∧ minute < 100 ∧ second < 100 := by omega
  by_cases hwhole : micros = 0
  · simp [hwhole, instantOctets, parseTime, dateOctets, timeOctets,
      fractionOctets, utcOctets, octetAt, parseDigits, parseFields,
      val_digitOctet, isDigitOctet_digitOctet, hzero, hplus, hminus, hzulu,
      two_digits htwo.left, two_digits htwo.right.left,
      two_digits htwo.right.right, Clock.hour, Clock.minute, Clock.second,
      Clock.totalSeconds, not_lt.mpr hhour, not_lt.mpr hminute,
      not_lt.mpr hsecond]
  · have hsix : ((((micros / 100000 % 10 * 10 + micros / 10000 % 10) * 10 +
        micros / 1000 % 10) * 10 + micros / 100 % 10) * 10 +
          micros / 10 % 10) * 10 + micros % 10 = micros := by omega
    simp [hwhole, instantOctets, parseTime, parseFraction, dateOctets,
      timeOctets, fractionOctets, utcOctets, octetAt, parseDigits, parseFields,
      val_digitOctet, isDigitOctet_digitOctet, hzero, hsign, hplus, hminus,
      hzulu, hsix, two_digits htwo.left, two_digits htwo.right.left,
      two_digits htwo.right.right, Clock.hour, Clock.minute, Clock.second,
      Clock.totalSeconds, not_lt.mpr hhour, not_lt.mpr hminute,
      not_lt.mpr hsecond]

theorem readIsoFormat_instantOctets {n : Nat}
    (hdate : DateOf n (year, month, day)) (hn : n ≤ lastOrdinal)
    (hhour : hour ≤ 23) (hminute : minute ≤ 59) (hsecond : second ≤ 59)
    (hmicros : micros < 1000000) :
    readIsoFormat (instantOctets year month day hour minute second micros) =
      some (((n : Int) - epochOrdinal) * microsPerDay +
        (((hour * 3600 + minute * 60 + second) * 1000000 + micros : Nat) : Int),
        some 0) := by
  have hyear : year < 10000 := hdate.year_lt hn
  have hmonth := hdate.month_le
  have hday := hdate.day_le
  have hlong : daysInMonth year month ≤ 31 := by
    unfold daysInMonth
    split
    · split
      · decide
      · decide
    all_goals decide
  have hordinal : dateOrdinal year month day = some (n : Int) := by
    unfold dateOrdinal
    rw [if_pos ⟨hdate.year_pos, hdate.month_pos, hmonth, hdate.day_pos, hday⟩]
    exact congrArg (fun k : Nat => some (k : Int)) hdate.ordinal_eq
  dsimp only at hmonth hday
  have hparsed := @parseDate_dateOctets year month day
    (timeOctets hour minute second ++ (fractionOctets micros ++ utcOctets))
    hyear (by omega) (by omega)
  have htime := @parseTime_instantOctets year month day hour minute second
    micros hhour hminute hsecond hmicros
  have hlength : 10 < (instantOctets year month day hour minute second
      micros).length := by
    simp [instantOctets, dateOctets, timeOctets]
  have hwidth : separatorWidth (octetAt
      (instantOctets year month day hour minute second micros) 10) = 1 := by
    simp [instantOctets, dateOctets, timeOctets, octetAt, separatorWidth]
  have hseparator : findSeparator
      (instantOctets year month day hour minute second micros) = some 10 :=
    findSeparator_dateOctets _
  have hdateOf : parseDate
      (instantOctets year month day hour minute second micros) 10 =
        some (n : Int) := hparsed.trans hordinal
  simp only [readIsoFormat, hseparator, Option.bind_eq_bind, Option.bind_some,
    hdateOf, if_pos hlength, hwidth, htime]

end Read

/-!
## Reading a timestamp back
-/

/-- `value.replace("Z", "+00:00")`. -/
def replaceZulu (s : PyStr) : PyStr :=
  s.flatMap fun c => if c = codePoint 'Z' then str "+00:00" else [c]

/-- `_aware_datetime`, which runs before the type is checked.  What it takes for
a datetime is a string here: the values are decoded JSON. -/
def awareDatetime : Validator Instant
  | .str s =>
      match fromisoformat (replaceZulu s) with
      | none => .error .invalid
      | some value =>
          match value.offset with
          | none => .error .invalid
          | some offset =>
              match value.astimezoneUtc offset with
              | some instant => .ok instant
              | none => .error (.raised .overflowError)
  | _ => .error .invalid

/-- Code points of one octet, none of them `Z`. -/
def Plain (s : PyStr) : Prop :=
  forall c, c ∈ s -> c.val < 0x80 ∧ c ≠ codePoint 'Z'

theorem Plain.append {s t : PyStr} (hs : Plain s) (ht : Plain t) :
    Plain (s ++ t) := by
  intro c hc
  rcases List.mem_append.mp hc with hc | hc
  · exact hs c hc
  · exact ht c hc

theorem plain_padded (width n : Nat) : Plain (padded width n) := by
  intro c hc
  rcases List.mem_map.mp hc with ⟨i, _, rfl⟩
  have hval : (Fin.ofNat 0x110000 (0x30 + n / 10 ^ i % 10)).val =
      0x30 + n / 10 ^ i % 10 := by
    rw [Fin.val_ofNat]
    omega
  constructor
  · rw [hval]
    omega
  · intro heq
    have hzulu := congrArg Fin.val heq
    rw [hval] at hzulu
    have hz : (codePoint 'Z').val = 0x5A := rfl
    omega

theorem plain_mark (mark : Char) (hoctet : (codePoint mark).val < 0x80)
    (hzulu : mark ≠ 'Z') : Plain [codePoint mark] := by
  intro c hc
  rw [List.mem_singleton.mp hc]
  exact ⟨hoctet, fun heq => hzulu (codePoint_inj heq)⟩

theorem replaceZulu_plain {s : PyStr} (h : Plain s) :
    replaceZulu (s ++ str "Z") = s ++ str "+00:00" := by
  induction s with
  | nil => rfl
  | cons c rest ih =>
      have hrest := ih fun d hd => h d (List.mem_cons_of_mem c hd)
      unfold replaceZulu at hrest ⊢
      rw [List.cons_append, List.flatMap_cons, hrest,
        if_neg (h c List.mem_cons_self).right]
      rfl

theorem sanitizeSeparator_eq_self {s : PyStr} (h : Encodable s) :
    sanitizeSeparator s = s := by
  unfold sanitizeSeparator
  dsimp only
  split
  · rename_i p hfind
    have hsurrogate := List.find?_some hfind
    split at hsurrogate
    · rename_i c hc
      exact absurd (of_decide_eq_true hsurrogate) (h c (List.mem_of_getElem? hc))
    · cases hsurrogate
  · rfl

theorem encodeUtf8_octets {s : PyStr} (h : forall c, c ∈ s -> c.val < 0x80) :
    encodeUtf8 (sanitizeSeparator s) = some (octets s) := by
  have hencodable : Encodable s := by
    intro c hc hsur
    have hlow := h c hc
    have hhigh := hsur.left
    omega
  rw [sanitizeSeparator_eq_self hencodable, encodeUtf8_of_encodable hencodable]
  apply congrArg some
  clear hencodable
  induction s with
  | nil => rfl
  | cons c rest ih =>
      have hrest := ih fun d hd => h d (List.mem_cons_of_mem c hd)
      have hc : utf8Char c = [byte c.val] := if_pos (h c List.mem_cons_self)
      rw [List.flatMap_cons, hrest, hc]
      rfl

/-- Everything of a timestamp in front of its `Z`. -/
def clockText (year month day hour minute second micros : Nat) : PyStr :=
  padded 4 year ++ str "-" ++ padded 2 month ++ str "-" ++ padded 2 day ++
    str "T" ++ padded 2 hour ++ str ":" ++ padded 2 minute ++ str ":" ++
    padded 2 second ++
    (if micros = 0 then [] else str "." ++ padded 6 micros)

theorem plain_clockText (year month day hour minute second micros : Nat) :
    Plain (clockText year month day hour minute second micros) := by
  have hdash := plain_mark '-' (by decide) (by decide)
  have hcolon := plain_mark ':' (by decide) (by decide)
  have hfraction : Plain
      (if micros = 0 then [] else str "." ++ padded 6 micros) := by
    split
    · intro c hc
      cases hc
    · exact (plain_mark '.' (by decide) (by decide)).append
        (plain_padded 6 micros)
  have hdate := (((((plain_padded 4 year).append hdash).append
    (plain_padded 2 month)).append hdash).append (plain_padded 2 day)).append
    (plain_mark 'T' (by decide) (by decide))
  exact (((((hdate.append (plain_padded 2 hour)).append hcolon).append
    (plain_padded 2 minute)).append hcolon).append
    (plain_padded 2 second)).append hfraction

theorem octets_clockText (year month day hour minute second micros : Nat) :
    octets (clockText year month day hour minute second micros ++
      str "+00:00") =
      instantOctets year month day hour minute second micros := by
  have hfraction : octets
      (if micros = 0 then [] else str "." ++ padded 6 micros) =
        fractionOctets micros := by
    unfold fractionOctets
    split
    · rfl
    · simp only [octets_append, octets_padded, List.range_succ, List.range_zero,
        List.nil_append, List.cons_append, List.reverse_cons,
        List.reverse_nil, List.map_cons, List.map_nil,
        Nat.reducePow, Nat.div_one]
      rfl
  unfold clockText
  rw [octets_append, octets_append, hfraction]
  simp only [octets_append, octets_padded, List.range_succ, List.range_zero,
    List.nil_append, List.cons_append, List.reverse_cons,
    List.reverse_nil, List.map_cons, List.map_nil, Nat.reducePow, Nat.div_one,
    instantOctets, dateOctets, timeOctets, List.append_assoc]
  rfl

/-- The fields a timestamp is made of. -/
theorem exists_clockText (instant : Instant) :
    exists (n : Nat) (year month day hour minute second micros : Nat),
      n ≤ lastOrdinal ∧ DateOf n (year, month, day) ∧
      hour ≤ 23 ∧ minute ≤ 59 ∧ second ≤ 59 ∧ micros < 1000000 ∧
      ((n : Int) - epochOrdinal) * microsPerDay +
        (((hour * 3600 + minute * 60 + second) * 1000000 + micros : Nat) : Int) =
          instant.val ∧
      timestampText instant =
        clockText year month day hour minute second micros ++ str "Z" := by
  have hrange := instant.property
  unfold InRange minMicros maxMicros at hrange
  have hday : 1 ≤ instant.val / microsPerDay + epochOrdinal ∧
      instant.val / microsPerDay + epochOrdinal ≤ lastOrdinal := by
    unfold epochOrdinal lastOrdinal microsPerDay at *
    omega
  have hrest : 0 ≤ instant.val % microsPerDay ∧
      instant.val % microsPerDay < microsPerDay := by
    unfold microsPerDay
    omega
  have hsplit := Int.mul_ediv_add_emod instant.val microsPerDay
  refine ⟨(instant.val / microsPerDay + epochOrdinal).toNat, _, _, _, _, _, _, _,
    ?_, dateOfOrdinal_dateOf ?_, ?_, ?_, ?_, ?_, ?_, rfl⟩
  · omega
  · omega
  · unfold microsPerDay at hrest ⊢
    omega
  · omega
  · omega
  · omega
  · rw [Int.toNat_of_nonneg (by omega), Int.add_sub_cancel,
      Int.mul_comm (instant.val / microsPerDay)]
    unfold microsPerDay at *
    omega

/-- Every instant is read back from its text. -/
theorem awareDatetime_timestampText (instant : Instant) :
    awareDatetime (.str (timestampText instant)) = .ok instant := by
  rcases exists_clockText instant with ⟨n, year, month, day, hour, minute,
    second, micros, hn, hdate, hhour, hminute, hsecond, hmicros, hval, htext⟩
  have hread := readIsoFormat_instantOctets hdate hn hhour hminute hsecond
    hmicros
  rw [hval] at hread
  have hplain := plain_clockText year month day hour minute second micros
  have hoctets : forall c, c ∈ clockText year month day hour minute second
      micros ++ str "+00:00" -> c.val < 0x80 := by
    intro c hc
    rcases List.mem_append.mp hc with hc | hc
    · exact (hplain c hc).left
    · have hall : (str "+00:00").all (fun c => decide (c.val < 0x80)) = true := by
        decide
      exact of_decide_eq_true (List.all_eq_true.mp hall c hc)
  have hlength : ¬ (instantOctets year month day hour minute second
      micros).length < 7 := by
    simp [instantOctets, dateOctets, timeOctets]
  have hfits : InRange instant.val ∧ forall o, o ∈ some (0 : Int) ->
      -microsPerDay < o ∧ o < microsPerDay :=
    ⟨instant.property, instant.toDatetime.offset_range⟩
  have hiso : fromisoformat (clockText year month day hour minute second
      micros ++ str "+00:00") = some instant.toDatetime := by
    unfold fromisoformat
    rw [encodeUtf8_octets hoctets, octets_clockText]
    simp only [Option.bind_eq_bind, Option.bind_some, if_neg hlength, hread,
      dif_pos hfits]
    rfl
  have hutc : instant.toDatetime.astimezoneUtc 0 = some instant := by
    show Instant.ofMicros (instant.val - 0) = some instant
    rw [Int.sub_zero]
    exact Instant.ofMicros_val instant
  have hoffset : instant.toDatetime.offset = some 0 := rfl
  simp only [awareDatetime, htext, replaceZulu_plain hplain, hiso, hoffset,
    hutc]

end Pydantic
end EidolonSdk
