import EidolonSdk.Python.Datetime
import EidolonSdk.Python.Interpreter

/-!
# Timestamps

The timestamp of an aware datetime is the distance from the epoch.  A naive one is
read in the zone of the process: the second of UTC is searched whose wall reading
it is, and a reading that leaves the years 1 to 9999 on the way ends the search
with a {lit}`ValueError`.
-/

namespace EidolonSdk
namespace Python

def secondsPerDay : Int := 86400

section Local

variable (I : Interpreter)

/-- `local`: the wall reading at a second of UTC, both counted from 1970. -/
def localReading (u : Int) : Option Int :=
  if InRange ((u + I.localOffset u) * microsPerSecond) then
    some (u + I.localOffset u)
  else none

/-- `local_to_seconds`: the second of UTC whose wall reading this is.  Of two the
fold decides, and in a gap the reading is moved by one of the two offsets. -/
def localToSeconds (t : Int) (fold : Bool) : Option Int := do
  let a := (← localReading I t) - t
  let u1 := t - a
  let t1 ← localReading I u1
  let settle (b : Int) : Option Int := do
    let u2 := t - b
    let t2 ← localReading I u2
    if t2 = t then some u2
    else if t1 = t then some u1
    else some (if fold then min u1 u2 else max u1 u2)
  if t1 = t then
    let u2 := if fold then u1 + secondsPerDay else u1 - secondsPerDay
    let b := (← localReading I u2) - u2
    if a = b then some u1 else settle b
  else settle (t1 - u1)

/-- `int(value.timestamp())`.  The microseconds of a naive datetime are added to
its seconds in binary64. -/
def wholeTimestamp (d : Datetime) (fold : Bool) : Except PyException Int :=
  match d.instant with
  | some micros => .ok (wholeSeconds micros)
  | none =>
      match localToSeconds I (d.wall / microsPerSecond) fold with
      | none => .error .valueError
      | some u =>
          let seconds := u * doubleOne +
            roundRatio (d.wall % microsPerSecond).natAbs 1000000
          let whole : Int := truncMagnitude (roundRatio seconds.natAbs doubleOne)
          .ok (if seconds < 0 then -whole else whole)

/-- A naive datetime has a timestamp if the search finds its second; an aware one
always has one. -/
def HasTimestamp (d : Datetime) (fold : Bool) : Prop :=
  d.offset = none ->
    (localToSeconds I (d.wall / microsPerSecond) fold).isSome = true

theorem hasTimestamp_iff {d : Datetime} {fold : Bool} :
    HasTimestamp I d fold <-> exists whole, wholeTimestamp I d fold = .ok whole := by
  unfold HasTimestamp wholeTimestamp Datetime.instant
  cases d.offset with
  | some offset => exact iff_of_true nofun ⟨_, rfl⟩
  | none =>
      simp only [Option.map_none, forall_const]
      cases localToSeconds I (d.wall / microsPerSecond) fold with
      | none => exact iff_of_false nofun nofun
      | some u => exact iff_of_true rfl ⟨_, rfl⟩

end Local

/-- A wall reading with the `fold` that tells two equal readings of a naive clock
apart. -/
structure FoldedDatetime extends Datetime where
  fold : Bool

def Instant.toFolded (i : Instant) : FoldedDatetime :=
  ⟨i.toDatetime, false⟩

end Python
end EidolonSdk
