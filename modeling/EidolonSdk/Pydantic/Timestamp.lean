import EidolonSdk.Python.Datetime
import EidolonSdk.Python.Text

/-!
# Timestamps on the wire

How an instant is written when a model is dumped to JSON: the date, {lit}`T`,
the time of day with its microseconds unless they are zero, and {lit}`Z`.
-/

namespace EidolonSdk
namespace Pydantic

open Python

/-- `_ord2ymd`: year, month and day of an ordinal, by cycles of 400, 100, 4 and
1 years. -/
def dateOfOrdinal (ordinal : Nat) : Nat × Nat × Nat :=
  let n := ordinal - 1
  let n400 := n / 146097
  let n := n % 146097
  let n100 := n / 36524
  let n := n % 36524
  let n4 := n / 1461
  let n := n % 1461
  let n1 := n / 365
  let day := n % 365
  let year := n400 * 400 + n100 * 100 + n4 * 4 + n1 + 1
  if n1 = 4 ∨ n100 = 4 then (year - 1, 12, 31)
  else monthOf year 1 day 12
where
  monthOf (year month day : Nat) : Nat -> Nat × Nat × Nat
    | 0 => (year, month, day + 1)
    | fuel + 1 =>
        if day < daysInMonth year month then (year, month, day + 1)
        else monthOf year (month + 1) (day - daysInMonth year month) fuel

/-- The decimal digits of a number, padded with zeros to a width. -/
def padded (width n : Nat) : PyStr :=
  (List.range width).reverse.map fun i =>
    Fin.ofNat 0x110000 (0x30 + n / 10 ^ i % 10)

/-- The instant as `model_dump(mode="json")` writes it. -/
def timestampText (instant : Instant) : PyStr :=
  let day : Int := instant.val / microsPerDay
  let micros : Nat := (instant.val % microsPerDay).toNat
  let (year, month, dayOfMonth) := dateOfOrdinal (day + epochOrdinal).toNat
  let seconds := micros / 1000000
  padded 4 year ++ str "-" ++ padded 2 month ++ str "-" ++
    padded 2 dayOfMonth ++ str "T" ++ padded 2 (seconds / 3600) ++ str ":" ++
    padded 2 (seconds / 60 % 60) ++ str ":" ++ padded 2 (seconds % 60) ++
    (if micros % 1000000 = 0 then []
      else str "." ++ padded 6 (micros % 1000000)) ++ str "Z"

example : timestampText ⟨1787054100000000, by decide⟩ =
    str "2026-08-18T11:55:00Z" := by decide

end Pydantic
end EidolonSdk
