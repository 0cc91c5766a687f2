import EidolonSdk.Dart.Integers

/-!
# Dart instants

{lit}`DateTime.tryParse`: a date and perhaps a time with an offset, matched
against one pattern and then added up, whatever the single fields overflow into.
A text without an offset is a local time, so what it stands for depends on where
it is read.
-/

namespace EidolonSdk
namespace Dart

open Python

/-!
## The pattern

Every part is what it can match, with what is left behind, in the order in which
the pattern tries it.
-/

abbrev Matches (α : Type) := List (α × PyStr)

/-- `\d`, this often. -/
def digitsOf (count : Nat) (s : PyStr) : Matches Nat :=
  if (s.take count).length = count ∧ (s.take count).all isDigit = true then
    [(decimal (s.take count), s.drop count)]
  else []

/-- One of these characters. -/
def oneOf (marks : String) (s : PyStr) : Matches CodePoint :=
  match s with
  | [] => []
  | c :: rest => if among marks c then [(c, rest)] else []

/-- `?` behind one of these characters. -/
def maybeOneOf (marks : String) (s : PyStr) : Matches (Option CodePoint) :=
  (oneOf marks s).map (fun (c, s) => (some c, s)) ++ [(none, s)]

structure DateTimeFields where
  year : Int
  month : Nat
  day : Nat
  hour : Nat := 0
  minute : Nat := 0
  second : Nat := 0
  fraction : PyStr := []
  /-- Minutes east of Greenwich, where there is an offset. -/
  offset : Option Int := none
  deriving DecidableEq

/-- `([+-]?\d{4,6})`. -/
def yearPart (s : PyStr) : Matches Int :=
  (maybeOneOf "+-" s).flatMap fun (sign, s) =>
    [6, 5, 4].flatMap fun count =>
      (digitsOf count s).map fun (year, s) =>
        (if sign = some (codePoint '-') then -(year : Int) else year, s)

/-- `-?(\d\d)`, and `:?(\d\d)`. -/
def twoDigits (mark : String) (s : PyStr) : Matches Nat :=
  (maybeOneOf mark s).flatMap fun (_, s) => digitsOf 2 s

/-- `(?:[.,](\d+))?`; fewer digits than there are never help. -/
def fractionPart (s : PyStr) : Matches PyStr :=
  ((oneOf ".," s).flatMap fun (_, s) =>
    if s.takeWhile isDigit = [] then []
    else [(s.takeWhile isDigit, s.dropWhile isDigit)]) ++ [([], s)]

def secondPart (fields : DateTimeFields) (s : PyStr) : Matches DateTimeFields :=
  ((twoDigits ":" s).flatMap fun (second, s) =>
    (fractionPart s).map fun (fraction, s) => ({ fields with second, fraction }, s))
    ++ [(fields, s)]

def minutePart (fields : DateTimeFields) (s : PyStr) : Matches DateTimeFields :=
  ((twoDigits ":" s).flatMap fun (minute, s) => secondPart { fields with minute } s)
    ++ [(fields, s)]

/-- `( ?[zZ]| ?([-+])(\d\d)(?::?(\d\d))?)?`. -/
def zonePart (fields : DateTimeFields) (s : PyStr) : Matches DateTimeFields :=
  let zulu := (maybeOneOf " " s).flatMap fun (_, s) =>
    (oneOf "zZ" s).map fun (_, s) => ({ fields with offset := some 0 }, s)
  let east := (maybeOneOf " " s).flatMap fun (_, s) =>
    (oneOf "-+" s).flatMap fun (sign, s) =>
      (digitsOf 2 s).flatMap fun (hours, s) =>
        (twoDigits ":" s ++ [(0, s)]).map fun ((minutes : Nat), s) =>
          let offset : Int := 60 * hours + minutes
          ({ fields with
            offset := some (if sign = codePoint '-' then -offset else offset) }, s)
  zulu ++ east ++ [(fields, s)]

def timePart (fields : DateTimeFields) (s : PyStr) : Matches DateTimeFields :=
  ((oneOf " T" s).flatMap fun (_, s) =>
    (digitsOf 2 s).flatMap fun (hour, s) =>
      (minutePart { fields with hour } s).flatMap fun (fields, s) =>
        zonePart fields s) ++ [(fields, s)]

/-- `_parseFormat.firstMatch`. -/
def parseFormat (s : PyStr) : Option DateTimeFields :=
  let found := (yearPart s).flatMap fun (year, s) =>
    (twoDigits "-" s).flatMap fun (month, s) =>
      (twoDigits "-" s).flatMap fun (day, s) => timePart { year, month, day } s
  (found.find? fun (_, s) => s.isEmpty).map Prod.fst

/-!
## The instant
-/

/-- How far local time is ahead of a reading of it, in microseconds. -/
abbrev LocalZone := Int -> Int

def isLeapYear (year : Int) : Bool :=
  year % 4 == 0 && (year % 100 != 0 || year % 400 == 0)

/-- `_DAYS_UNTIL_MONTH`. -/
def daysUntilMonth (year : Int) (month : Nat) : Int :=
  let days := [0, 31, 59, 90, 120, 151, 181, 212, 243, 273, 304, 334]
  (days.getD month 0 : Nat) + if isLeapYear year && decide (2 ≤ month) then 1 else 0

/-- `_dayFromYear`. -/
def dayFromYear (year : Int) : Int :=
  365 * (year - 1970) + (year - 1969) / 4 - (year - 1901) / 100 +
    (year - 1601) / 400

/-- `_maxMicrosecondsSinceEpoch`. -/
def maxMicrosecondsSinceEpoch : Int := 8640000000000000000

def microsecondsPerDay : Int := 86400000000

def DateTimeFields.microseconds (fields : DateTimeFields) : Nat :=
  decimal ((fields.fraction ++ str "000000").take 6)

/-- `_brokenDownDateToValue`; `none` stands for a time out of range. -/
def DateTimeFields.value (zone : LocalZone) (fields : DateTimeFields) :
    Option Int :=
  let month : Int := fields.month - 1
  let year := fields.year + month / 12
  let days := fields.day - 1 + daysUntilMonth year (month % 12).toNat +
    dayFromYear year
  let minutes := fields.minute - fields.offset.getD 0 +
    60 * (fields.hour + 24 * days)
  let micros := fields.microseconds + 1000000 * (fields.second + 60 * minutes)
  if fields.offset.isNone ∧
      maxMicrosecondsSinceEpoch + microsecondsPerDay < micros.natAbs then none
  else
    let value := if fields.offset.isSome then micros else micros - zone micros
    if maxMicrosecondsSinceEpoch < value.natAbs then none else some value

/-- `DateTime.tryParse`, as `microsecondsSinceEpoch`. -/
def dateTimeTryParse (zone : LocalZone) (s : PyStr) : Option Int :=
  (parseFormat s).bind (DateTimeFields.value zone)

end Dart
end EidolonSdk
