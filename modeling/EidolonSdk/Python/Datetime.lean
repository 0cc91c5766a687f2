import EidolonSdk.Python.Double

/-!
# Dates and instants

A datetime is a wall-clock reading, in microseconds since 1970, with or without
an offset from UTC.  Readings lie in the years 1 to 9999; arithmetic that would
leave them is an overflow, not another datetime.
-/

namespace EidolonSdk
namespace Python

def microsPerSecond : Int := 1000000

def microsPerDay : Int := 86400000000

/-!
## The proleptic Gregorian calendar
-/

def isLeap (year : Nat) : Bool :=
  year % 4 == 0 && (year % 100 != 0 || year % 400 == 0)

def daysInMonth (year month : Nat) : Nat :=
  match month with
  | 2 => if isLeap year then 29 else 28
  | 4 => 30
  | 6 => 30
  | 9 => 30
  | 11 => 30
  | _ => 31

def daysBeforeMonth (year month : Nat) : Nat :=
  ((List.range (month - 1)).map fun m => daysInMonth year (m + 1)).sum

def daysBeforeYear (year : Nat) : Nat :=
  (year - 1) * 365 + (year - 1) / 4 - (year - 1) / 100 + (year - 1) / 400

/-- The ordinal of a date; 0001-01-01 is day one. -/
def ordinal (year month day : Nat) : Nat :=
  daysBeforeYear year + daysBeforeMonth year month + day

/-- The ordinal of 1970-01-01. -/
def epochOrdinal : Int := 719163

/-- The ordinal of 9999-12-31. -/
def lastOrdinal : Nat := 3652059

def minMicros : Int := (1 - epochOrdinal) * microsPerDay

def maxMicros : Int := (lastOrdinal + 1 - epochOrdinal) * microsPerDay - 1

/-!
## Datetimes
-/

/-- The microseconds of a date in the years 1 to 9999. -/
def InRange (micros : Int) : Prop :=
  minMicros ≤ micros ∧ micros ≤ maxMicros

instance (micros : Int) : Decidable (InRange micros) :=
  inferInstanceAs (Decidable (_ ∧ _))

/-- A datetime whose offset is zero. -/
abbrev Instant := { micros : Int // InRange micros }

theorem inRange_zero : InRange 0 := by decide

/-- A datetime; one without an offset is naive. -/
structure Datetime where
  wall : Int
  offset : Option Int
  wall_range : InRange wall
  offset_range : forall o, o ∈ offset -> -microsPerDay < o ∧ o < microsPerDay
  deriving DecidableEq

def Instant.ofMicros (micros : Int) : Option Instant :=
  if h : InRange micros then some ⟨micros, h⟩ else none

theorem Instant.ofMicros_val (i : Instant) : Instant.ofMicros i.val = some i := by
  unfold Instant.ofMicros
  rw [dif_pos i.property]

theorem Instant.ofMicros_eq_none {micros : Int} :
    Instant.ofMicros micros = none <-> ¬ InRange micros := by
  unfold Instant.ofMicros
  by_cases h : InRange micros
  · simp [h]
  · simp [h]

/-- The point in time of an aware datetime; it may lie outside the years a
datetime in UTC can name. -/
def Datetime.instant (d : Datetime) : Option Int :=
  d.offset.map fun o => d.wall - o

/-- `value.replace(tzinfo=timezone.utc)` of a naive datetime. -/
def Datetime.assumeUtc (d : Datetime) : Int :=
  d.wall - d.offset.getD 0

/-- `value.astimezone(UTC)` of a datetime with this offset; `none` stands for
`OverflowError`. -/
def Datetime.astimezoneUtc (d : Datetime) (offset : Int) : Option Instant :=
  Instant.ofMicros (d.wall - offset)

/-- Adding whole seconds to the wall reading; `none` stands for
`OverflowError`. -/
def Datetime.addSeconds (d : Datetime) (seconds : Int) : Option Datetime :=
  if h : InRange (d.wall + seconds * microsPerSecond) then
    some ⟨d.wall + seconds * microsPerSecond, d.offset, h, d.offset_range⟩
  else
    none

/-- The instant as a datetime. -/
def Instant.toDatetime (i : Instant) : Datetime :=
  ⟨i.val, some 0, i.property, by
    intro o ho
    cases ho
    decide⟩

/-!
## Timestamps

{lit}`timestamp` divides into a binary64 number and {lit}`int` truncates it, so
a reading close to the next second can round up to it once seconds need more
than 33 bits.
-/

/-- `int(value.timestamp())` of the datetime at this point in time. -/
def wholeSeconds (micros : Int) : Int :=
  let seconds : Int := truncMagnitude (roundRatio micros.natAbs 1000000)
  if micros < 0 then -seconds else seconds

theorem wholeSeconds_eq_div {micros : Int} (h0 : 0 ≤ micros)
    (h : micros < 2 ^ 33 * microsPerSecond) :
    wholeSeconds micros = micros / microsPerSecond := by
  obtain ⟨n, rfl⟩ := Int.eq_ofNat_of_zero_le h0
  have hn : n < 2 ^ 33 * 1000000 := by
    have hcast : (n : Int) < ((2 ^ 33 * 1000000 : Nat) : Int) := h
    exact_mod_cast hcast
  have hneg : ¬ ((n : Int) < 0) := by omega
  simp only [wholeSeconds, Int.natAbs_natCast, truncMagnitude_roundRatio hn,
    if_neg hneg]
  rfl

/-- The microseconds a `float` timestamp of this magnitude names: the fraction
is scaled in binary64 and rounded half to even. -/
def microsOfMagnitude (magnitude : Nat) : Nat :=
  magnitude / doubleOne * 1000000 +
    roundHalfEven (roundRatio (magnitude % doubleOne * 1000000) doubleOne)
      doubleOne

/-- `datetime.fromtimestamp(n, tz=UTC)` of an `int`; `none` stands for the
`OverflowError`, `OSError` or `ValueError` of a year out of range. -/
def fromTimestampInt (n : Int) : Option Instant :=
  Instant.ofMicros (n * microsPerSecond)

/-- `datetime.fromtimestamp(x, tz=UTC)` of a finite `float`. -/
def fromTimestampFloat (negative : Bool) (magnitude : Nat) : Option Instant :=
  let micros : Int := microsOfMagnitude magnitude
  Instant.ofMicros (if negative then -micros else micros)

theorem microsOfMagnitude_whole (n : Nat) :
    microsOfMagnitude (n * doubleOne) = n * 1000000 := by
  have hzero : roundRatio 0 doubleOne = 0 := by
    simp [roundRatio, roundHalfEven]
  have hround : roundHalfEven 0 doubleOne = 0 := by
    simp [roundHalfEven, doubleOne_pos]
  simp [microsOfMagnitude, doubleOne_pos, hzero, hround]

theorem fromTimestampFloat_whole (k : Int) :
    fromTimestampFloat (decide (k < 0)) (k.natAbs * doubleOne) =
      fromTimestampInt k := by
  unfold fromTimestampFloat fromTimestampInt microsPerSecond
  rw [microsOfMagnitude_whole]
  apply congrArg Instant.ofMicros
  by_cases hneg : k < 0
  · simp only [hneg, decide_true, if_true]
    omega
  · simp only [hneg, decide_false, Bool.false_eq_true, if_false]
    omega

theorem natAbs_lt_of_inRange {micros : Int} (h : InRange micros) :
    micros.natAbs < 2 ^ 53 * 1000000 := by
  unfold InRange minMicros maxMicros epochOrdinal lastOrdinal microsPerDay at h
  omega

/-- The truncated second of an instant names an instant again, unless the next
second leaves the year 9999. -/
theorem inRange_wholeSeconds {micros : Int} (h : InRange micros)
    (hnext : InRange (micros + microsPerSecond)) :
    InRange (wholeSeconds micros * microsPerSecond) := by
  have hsize := natAbs_lt_of_inRange h
  unfold InRange minMicros maxMicros epochOrdinal lastOrdinal microsPerDay
    microsPerSecond at *
  unfold wholeSeconds
  by_cases hneg : micros < 0
  · have hle : truncMagnitude (roundRatio micros.natAbs 1000000) ≤
        62135596800 := truncMagnitude_le hsize (by omega)
    simp only [hneg, if_true]
    omega
  · have hle : truncMagnitude (roundRatio micros.natAbs 1000000) ≤
        253402300799 := truncMagnitude_le hsize (by omega)
    simp only [hneg, if_false]
    omega

theorem natAbs_wholeSeconds_lt {seconds : Int}
    (h : InRange (seconds * microsPerSecond)) :
    seconds.natAbs < 2 ^ 53 := by
  unfold InRange minMicros maxMicros epochOrdinal lastOrdinal microsPerDay
    microsPerSecond at h
  omega

end Python
end EidolonSdk
