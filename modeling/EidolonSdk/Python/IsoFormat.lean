import EidolonSdk.Python.Datetime
import EidolonSdk.Python.Utf8

/-!
# Reading ISO 8601

{lit}`datetime.fromisoformat` as the interpreter runs it: over the UTF-8 octets
of the string, with a terminating zero octet behind the last one.  The reader is
wider than ISO 8601 itself.  It takes week dates, any separator between date and
time, and a fraction behind any time field; it truncates a fraction to six
digits.
-/

namespace EidolonSdk
namespace Python

section Scanner

variable (text : Bytes)

/-- The octet at a position, zero past the end. -/
def octetAt (p : Nat) : Nat :=
  match text[p]? with
  | some b => b.val
  | none => 0

def isDigitOctet (n : Nat) : Bool :=
  0x30 ≤ n && n ≤ 0x39

/-- The number written by the next digits. -/
def parseDigits (p : Nat) : Nat -> Option Nat
  | 0 => some 0
  | count + 1 => do
      let front ← parseDigits p count
      if isDigitOctet (octetAt text (p + count)) then
        some (front * 10 + (octetAt text (p + count) - 0x30))
      else
        none

/-- Where the date ends, read off the octets that tell the formats apart. -/
def findSeparator : Option Nat :=
  if text.length = 7 then some 7
  else if octetAt text 4 = 0x2D then
    if octetAt text 5 = 0x57 then
      if text.length < 8 then none
      else if text.length > 8 ∧ octetAt text 8 = 0x2D then
        if text.length = 9 then none
        else if text.length > 10 ∧ isDigitOctet (octetAt text 10) then some 8
        else some 10
      else some 8
    else some 10
  else if octetAt text 4 = 0x57 then
    let digits := ((text.drop 7).takeWhile fun b => isDigitOctet b.val).length
    if digits < 2 then some (7 + digits)
    else if (7 + digits) % 2 = 0 then some 7
    else some 8
  else some 8

/-- The weekday of an ordinal, Monday first. -/
def weekday (ord : Nat) : Nat :=
  (ord + 6) % 7

/-- The ordinal of the Monday that starts ISO week one, plus seven so that it
stays a natural number. -/
def isoWeekOneMonday (year : Nat) : Nat :=
  let first := ordinal year 1 1
  let monday := first + 7 - weekday first
  if 3 < weekday first then monday + 7 else monday

/-- The ordinal of an ISO week date. -/
def isoToOrdinal (year week day : Nat) : Option Int :=
  let longYear := weekday (ordinal year 1 1) = 3 ∨
    weekday (ordinal year 1 1) = 2 ∧ isLeap year = true
  if year < 1 then none
  else if week = 0 ∨ 53 < week ∨ week = 53 ∧ ¬ longYear then none
  else if day = 0 ∨ 7 < day then none
  else some ((isoWeekOneMonday year : Int) - 7 + (week - 1) * 7 + (day - 1))

/-- The ordinal of a calendar date, unless a field is out of range. -/
def dateOrdinal (year month day : Nat) : Option Int :=
  if 1 ≤ year ∧ 1 ≤ month ∧ month ≤ 12 ∧ 1 ≤ day ∧
      day ≤ daysInMonth year month then
    some (ordinal year month day)
  else
    none

/-- The date in front of the separator. -/
def parseDate (length : Nat) : Option Int := do
  let year ← parseDigits text 0 4
  let dashed : Nat := if octetAt text 4 = 0x2D then 1 else 0
  let p := 4 + dashed
  if octetAt text p = 0x57 then do
    let week ← parseDigits text (p + 1) 2
    if p + 3 < length then
      if dashed = 1 ∧ octetAt text (p + 3) ≠ 0x2D then none
      else do
        let day ← parseDigits text (p + 3 + dashed) 1
        isoToOrdinal year week day
    else
      isoToOrdinal year week 1
  else do
    let month ← parseDigits text p 2
    if dashed = 1 ∧ octetAt text (p + 2) ≠ 0x2D then none
    else do
      let day ← parseDigits text (p + 2 + dashed) 2
      dateOrdinal year month day

/-- The fields of a time or of an offset, and whether an octet is left over. -/
structure Clock where
  fields : List Nat
  micros : Nat
  leftover : Bool

def parseFraction (stop p : Nat) (fields : List Nat) : Option Clock := do
  let digits := min 6 (stop - p)
  let value ← parseDigits text p digits
  let skipped := ((text.drop (p + digits)).takeWhile fun b =>
    isDigitOctet b.val).length
  some ⟨fields, value * 10 ^ (6 - digits),
    octetAt text (p + digits + skipped) != 0⟩

/-- Two-digit fields up to `stop`, the separator settled by the first one. -/
def parseFields (stop : Nat) :
    Nat -> Nat -> Bool -> List Nat -> Option Clock
  | 0, p, _, fields => parseFraction text stop p fields
  | count + 1, p, colons, fields => do
      let value ← parseDigits text p 2
      let next := octetAt text (p + 2)
      let colons := if fields.isEmpty then next == 0x3A else colons
      let fields := fields ++ [value]
      if stop ≤ p + 3 then some ⟨fields, 0, next != 0⟩
      else if colons && next == 0x3A then
        parseFields stop count (p + 3) colons fields
      else if next == 0x2E || next == 0x2C then
        parseFraction text stop (p + 3) fields
      else if !colons then parseFields stop count (p + 2) colons fields
      else none

def Clock.hour (c : Clock) : Nat := c.fields.getD 0 0

def Clock.minute (c : Clock) : Nat := c.fields.getD 1 0

def Clock.second (c : Clock) : Nat := c.fields.getD 2 0

def Clock.totalSeconds (c : Clock) : Nat :=
  c.hour * 3600 + c.minute * 60 + c.second

/-- The time behind the separator: its microseconds and its offset. -/
def parseTime (p : Nat) : Option (Nat × Option Int) := do
  let zone := p + ((text.drop p).takeWhile fun b =>
    b.val != 0x2B && b.val != 0x2D && b.val != 0x5A).length
  let time ← parseFields text zone 3 p false []
  if 23 < time.hour ∨ 59 < time.minute ∨ 59 < time.second then none
  else
    let micros := time.totalSeconds * 1000000 + time.micros
    if text.length ≤ zone then
      if time.leftover then none else some (micros, none)
    else if octetAt text zone = 0x5A then
      if octetAt text (zone + 1) = 0 then some (micros, some 0) else none
    else do
      let offset ← parseFields text text.length 3 (zone + 1) false []
      let sign : Int := if octetAt text zone = 0x2D then -1 else 1
      -- An offset of zero seconds is UTC, whatever its fraction says.
      let total : Int :=
        if offset.totalSeconds = 0 then 0
        else sign * (offset.totalSeconds * microsPerSecond + offset.micros)
      if offset.leftover then none else some (micros, some total)

end Scanner

/-- A surrogate may stand where the separator goes. -/
def sanitizeSeparator (s : PyStr) : PyStr :=
  let surrogateAt (p : Nat) : Bool :=
    match s[p]? with
    | some c => decide (Surrogate c)
    | none => false
  match [7, 8, 10].find? surrogateAt with
  | some p => s.set p (codePoint 'T')
  | none => s

/-- How many octets the separator takes. -/
def separatorWidth (first : Nat) : Nat :=
  if first < 0x80 then 1
  else if first / 0x10 = 0xE then 3
  else if first / 0x10 = 0xF then 4
  else 2

/-- The wall reading and the offset that the text names, before the range of
datetimes is checked. -/
def readIsoFormat (text : Bytes) : Option (Int × Option Int) := do
  let separator ← findSeparator text
  let day ← parseDate text separator
  let midnight := (day - epochOrdinal) * microsPerDay
  if separator < text.length then do
    let time ← parseTime text
      (separator + separatorWidth (octetAt text separator))
    some (midnight + time.fst, time.snd)
  else
    some (midnight, none)

/-- `datetime.fromisoformat`; `none` stands for `ValueError`. -/
def fromisoformat (s : PyStr) : Option Datetime := do
  let text ← encodeUtf8 (sanitizeSeparator s)
  if text.length < 7 then none
  else do
    let (wall, offset) ← readIsoFormat text
    if h : InRange wall ∧ forall o, o ∈ offset ->
        -microsPerDay < o ∧ o < microsPerDay then
      some ⟨wall, offset, h.left, h.right⟩
    else
      none

end Python
end EidolonSdk
