import EidolonSdk.DeviceFoundation.Lifecycle
import EidolonSdk.Pydantic.Instants

/-!
# Four readers of timestamps

Lifecycle, erase, delivery and body mesh each bring their own reader of a
timestamp.  On strings the four are one, and none of them minds its own result.
The shift to UTC is the only step with an exception of another kind.
-/

namespace EidolonSdk
namespace DeviceFoundation

open Python Pydantic

/-- What a field validator is handed. -/
inductive WireMoment where
  | text (s : PyStr)
  | datetime (value : Datetime)
  | other

inductive ReaderError where
  /-- The {lit}`ValueError` of {lit}`datetime.fromisoformat`. -/
  | notIso
  /-- {lit}`ValueError("timestamp must be a datetime")`. -/
  | notDatetime
  /-- {lit}`ValueError("timestamp must include an offset")`. -/
  | noOffset
  /-- The {lit}`OverflowError` of {lit}`astimezone`. -/
  | overflow
  deriving DecidableEq

def ReaderError.exception : ReaderError -> PyException
  | .overflow => .overflowError
  | _ => .valueError

/-- `value.astimezone(UTC)`. -/
def toUtc (value : Datetime) (offset : Int) : Except ReaderError Instant :=
  match value.astimezoneUtc offset with
  | some instant => .ok instant
  | none => .error .overflow

/-- The datetime in UTC, if it has an offset. -/
def ofDatetime (value : Datetime) : Except ReaderError Instant :=
  match value.offset with
  | none => .error .noOffset
  | some offset => toUtc value offset

/-- `datetime.fromisoformat(value.replace("Z", "+00:00"))`. -/
def parsedIso (s : PyStr) : Except ReaderError Datetime :=
  match fromisoformat (replaceZulu s) with
  | some value => .ok value
  | none => .error .notIso

/-- `_wire_datetime`: what is not a string is left as it is. -/
def wireDatetime : WireMoment -> Except ReaderError WireMoment
  | .text s => (parsedIso s).map .datetime
  | value => .ok value

/-- A reader that calls `_wire_datetime`; its error for what is no datetime is its
own. -/
def readConverted (mistyped : ReaderError) (value : WireMoment) :
    Except ReaderError Instant := do
  match ← wireDatetime value with
  | .datetime value => ofDatetime value
  | _ => throw mistyped

/-- A reader that reads the string in place. -/
def readInPlace : WireMoment -> Except ReaderError Instant
  | .text s => parsedIso s >>= ofDatetime
  | .datetime value => ofDatetime value
  | .other => .error .noOffset

/-- `lifecycle._aware_datetime`. -/
def Lifecycle.awareDatetime : WireMoment -> Except ReaderError Instant :=
  readConverted .notDatetime

/-- `device_erase._aware`. -/
def DeviceErase.aware : WireMoment -> Except ReaderError Instant :=
  readConverted .noOffset

/-- `delivery._aware`. -/
def Delivery.aware : WireMoment -> Except ReaderError Instant :=
  readInPlace

/-- `body_mesh._wire_instant`.  It does not look at `tzinfo`, whose absence leaves a
datetime without an offset too. -/
def BodyMesh.wireInstant : WireMoment -> Except ReaderError Instant :=
  readInPlace

def timestampReaders : List (WireMoment -> Except ReaderError Instant) :=
  [Lifecycle.awareDatetime, DeviceErase.aware, Delivery.aware,
    BodyMesh.wireInstant]

/-- `value.isoformat()` of a datetime in UTC. -/
def isoformat (instant : Instant) : PyStr :=
  let day : Int := instant.val / microsPerDay
  let micros : Nat := (instant.val % microsPerDay).toNat
  let (year, month, dayOfMonth) := dateOfOrdinal (day + epochOrdinal).toNat
  let seconds := micros / 1000000
  clockText year month dayOfMonth (seconds / 3600) (seconds / 60 % 60)
    (seconds % 60) (micros % 1000000) ++ str "+00:00"

/-!
## On strings
-/

section Strings

variable {s : PyStr} {reader : WireMoment -> Except ReaderError Instant}

theorem read_text (hreader : reader ∈ timestampReaders) (s : PyStr) :
    reader (.text s) = readInPlace (.text s) := by
  have hconverted : forall mistyped,
      readConverted mistyped (.text s) = readInPlace (.text s) := by
    intro mistyped
    unfold readConverted wireDatetime readInPlace
    dsimp only
    cases parsedIso s with
    | error error => rfl
    | ok value => rfl
  simp only [timestampReaders, List.mem_cons, List.not_mem_nil, or_false] at hreader
  rcases hreader with rfl | rfl | rfl | rfl
  · exact hconverted _
  · exact hconverted _
  · rfl
  · rfl

theorem read_datetime (hreader : reader ∈ timestampReaders) (value : Datetime) :
    reader (.datetime value) = ofDatetime value := by
  simp only [timestampReaders, List.mem_cons, List.not_mem_nil, or_false] at hreader
  rcases hreader with rfl | rfl | rfl | rfl
  all_goals rfl

theorem mapError_ofDatetime (value : Datetime) :
    (ofDatetime value).mapError (fun error => Fault.ofException error.exception) =
      match value.offset with
      | none => .error .invalid
      | some offset =>
          match value.astimezoneUtc offset with
          | some instant => .ok instant
          | none => .error (.raised .overflowError) := by
  unfold ofDatetime toUtc
  cases value.offset with
  | none => rfl
  | some offset =>
      dsimp only
      cases value.astimezoneUtc offset with
      | none => rfl
      | some instant => rfl

/-- The reader is the one the strict models validate with. -/
theorem awareDatetime_str (s : PyStr) :
    Pydantic.awareDatetime (.str s) =
      (readInPlace (.text s)).mapError fun error =>
        Fault.ofException error.exception := by
  unfold Pydantic.awareDatetime readInPlace parsedIso
  dsimp only
  cases fromisoformat (replaceZulu s) with
  | none => rfl
  | some value => exact (mapError_ofDatetime value).symm

/-- The aware datetime a string names. -/
def Names (s : PyStr) (value : Datetime) (offset : Int) : Prop :=
  fromisoformat (replaceZulu s) = some value ∧ value.offset = some offset

/-- The instant of the aware datetime a string names. -/
def Denotes (s : PyStr) (instant : Instant) : Prop :=
  exists value offset, Names s value offset ∧ instant.val = value.wall - offset

theorem read_of_names {value : Datetime} {offset : Int} (h : Names s value offset) :
    readInPlace (.text s) = toUtc value offset := by
  simp only [readInPlace, parsedIso, h.left]
  show ofDatetime value = _
  simp only [ofDatetime, h.right]

theorem read_of_not_names (h : ¬ exists value offset, Names s value offset) :
    exists error, readInPlace (.text s) = .error error ∧
      error.exception = .valueError := by
  have hread : readInPlace (.text s) = parsedIso s >>= ofDatetime := rfl
  rw [hread]
  unfold parsedIso
  cases hiso : fromisoformat (replaceZulu s) with
  | none => exact ⟨.notIso, rfl, rfl⟩
  | some value =>
      cases hoffset : value.offset with
      | none =>
          refine ⟨.noOffset, ?_, rfl⟩
          show ofDatetime value = _
          simp only [ofDatetime, hoffset]
      | some offset => exact absurd ⟨value, offset, hiso, hoffset⟩ h

theorem toUtc_eq_ok {value : Datetime} {offset : Int} {instant : Instant} :
    toUtc value offset = .ok instant <-> instant.val = value.wall - offset := by
  unfold toUtc Datetime.astimezoneUtc Instant.ofMicros
  by_cases hrange : InRange (value.wall - offset)
  · simp only [dif_pos hrange]
    constructor
    · intro h
      cases h
      rfl
    · intro h
      exact congrArg Except.ok (Subtype.ext h.symm)
  · simp only [dif_neg hrange]
    refine iff_of_false nofun ?_
    intro h
    exact hrange (h ▸ instant.property)

theorem toUtc_eq_overflow {value : Datetime} {offset : Int}
    (h : ¬ InRange (value.wall - offset)) :
    toUtc value offset = .error .overflow := by
  unfold toUtc Datetime.astimezoneUtc
  rw [Instant.ofMicros_eq_none.mpr h]

/-- An instant is left where it is. -/
theorem ofDatetime_toDatetime (instant : Instant) :
    ofDatetime instant.toDatetime = .ok instant :=
  toUtc_eq_ok.mpr (Int.sub_zero instant.val).symm

theorem replaceZulu_of_plain {text : PyStr} (h : Plain text) :
    replaceZulu text = text := by
  induction text with
  | nil => rfl
  | cons c rest ih =>
      have hrest := ih fun d hd => h d (List.mem_cons_of_mem c hd)
      unfold replaceZulu at hrest ⊢
      rw [List.flatMap_cons, hrest, if_neg (h c List.mem_cons_self).right]
      rfl

/-- Both texts of an instant are one to the readers. -/
theorem replaceZulu_isoformat (instant : Instant) :
    replaceZulu (isoformat instant) = replaceZulu (timestampText instant) := by
  have hplain : forall year month day hour minute second micros : Nat,
      Plain (clockText year month day hour minute second micros ++
        str "+00:00") := by
    intro year month day hour minute second micros
    apply (plain_clockText year month day hour minute second micros).append
    intro c hc
    have hall : (str "+00:00").all (fun c =>
        decide (c.val < 0x80 ∧ c ≠ codePoint 'Z')) = true := by
      decide
    exact of_decide_eq_true (List.all_eq_true.mp hall c hc)
  have htext : timestampText instant = clockText _ _ _ _ _ _ _ ++ str "Z" := rfl
  rw [htext, replaceZulu_plain (plain_clockText _ _ _ _ _ _ _)]
  exact replaceZulu_of_plain (hplain _ _ _ _ _ _ _)

/-- The text of an instant is read as the instant. -/
theorem read_isoformat (instant : Instant) :
    readInPlace (.text (isoformat instant)) = .ok instant := by
  have hsame : readInPlace (.text (isoformat instant)) =
      readInPlace (.text (timestampText instant)) := by
    unfold readInPlace parsedIso
    dsimp only
    rw [replaceZulu_isoformat]
  have hread := (awareDatetime_str (timestampText instant)).symm.trans
    (awareDatetime_timestampText instant)
  rw [hsame]
  cases hresult : readInPlace (.text (timestampText instant)) with
  | error error =>
      rw [hresult] at hread
      cases hread
  | ok value =>
      rw [hresult] at hread
      cases hread
      rfl

end Strings

/-!
## One reading
-/

/-- The readers agree on the string: it is the instant it denotes, which none of them
moves any further, or a `ValueError`. -/
def ReadAlike (s : PyStr) : Prop :=
  (exists instant, Denotes s instant ∧
    forall reader, reader ∈ timestampReaders ->
      reader (.text s) = .ok instant ∧
        reader (.datetime instant.toDatetime) = .ok instant ∧
        reader (.text (isoformat instant)) = .ok instant) ∨
  forall reader, reader ∈ timestampReaders ->
    exists error, reader (.text s) = .error error ∧ error.exception.isValueError = true

theorem not_readAlike_of_overflow {s : PyStr}
    (h : readInPlace (.text s) = .error .overflow) : ¬ ReadAlike s := by
  have hfirst : Lifecycle.awareDatetime ∈ timestampReaders := List.mem_cons_self
  intro hparts
  rcases hparts with ⟨instant, _, hread⟩ | hrefused
  · have hok := (hread _ hfirst).left
    rw [read_text hfirst, h] at hok
    cases hok
  · rcases hrefused _ hfirst with ⟨error, hread, hvalue⟩
    rw [read_text hfirst, h] at hread
    cases hread
    cases hvalue

/-- The readers agree as long as the instant is one of the years 1 to 9999. -/
theorem readAlike_iff (s : PyStr) :
    ReadAlike s <-> forall value offset, Names s value offset ->
      InRange (value.wall - offset) := by
  constructor
  · intro h value offset hnames
    by_contra hrange
    exact not_readAlike_of_overflow
      ((read_of_names hnames).trans (toUtc_eq_overflow hrange)) h
  · intro h
    by_cases hnames : exists value offset, Names s value offset
    · rcases hnames with ⟨value, offset, hnames⟩
      have hrange := h value offset hnames
      refine Or.inl ⟨⟨_, hrange⟩, ⟨value, offset, hnames, rfl⟩, ?_⟩
      intro reader hreader
      refine ⟨?_, ?_, ?_⟩
      · rw [read_text hreader, read_of_names hnames]
        exact toUtc_eq_ok.mpr rfl
      · rw [read_datetime hreader]
        exact ofDatetime_toDatetime _
      · rw [read_text hreader]
        exact read_isoformat _
    · rcases read_of_not_names hnames with ⟨error, hread, hvalue⟩
      refine Or.inr fun reader hreader => ⟨error, ?_, ?_⟩
      · rw [read_text hreader]
        exact hread
      · rw [hvalue]
        rfl

/-!
An hour ahead of UTC, the first day of the year 1 began in the year before.
-/

theorem not_readAlike : ¬ forall s : PyStr, ReadAlike s := by
  intro h
  have hread : readInPlace (.text (str "0001-01-01T00:00:00+01:00")) =
      .error .overflow := by
    decide
  exact not_readAlike_of_overflow hread (h _)

end DeviceFoundation
end EidolonSdk
