import EidolonSdk.Pydantic.Instants

/-!
# Timestamps with an offset

How a datetime is written when a model is dumped to JSON: its wall reading, and
behind it nothing, {lit}`Z`, or an offset in hours and minutes.  An offset that is
not of whole minutes is cut, so two datetimes can have one text.
-/

namespace EidolonSdk
namespace Pydantic

open Python

/-- The offset of the datetime, if any, is one an ISO text can give. -/
def WholeMinutes (d : Datetime) : Prop :=
  forall o, o ∈ d.offset -> o % 60000000 = 0

instance (d : Datetime) : Decidable (WholeMinutes d) :=
  inferInstanceAs (Decidable (forall o, o ∈ d.offset -> _))

/-- Microseconds as sign, hours and minutes. -/
def offsetText (offset : Int) : PyStr :=
  if offset.natAbs / 1000000 = 0 then str "Z"
  else codePoint (if offset < 0 then '-' else '+') ::
    (padded 2 (offset.natAbs / 60000000 / 60) ++ codePoint ':' ::
      padded 2 (offset.natAbs / 60000000 % 60))

/-- The datetime as `model_dump(mode="json")` writes it. -/
def isoTimestamp (d : Datetime) : PyStr :=
  (timestampText ⟨d.wall, d.wall_range⟩).dropLast ++
    (d.offset.map offsetText).getD []

example : isoTimestamp ⟨1787054100000000, some 7200000000, by decide, by decide⟩ =
    str "2026-08-18T11:55:00+02:00" := by decide

theorem length_padded (width n : Nat) : (padded width n).length = width := by
  simp [padded]

theorem padded_two_inj {m n : Nat} (hm : m < 100) (hn : n < 100)
    (h : padded 2 m = padded 2 n) : m = n := by
  have hdigits : m / 10 % 10 = n / 10 % 10 ∧ m % 10 = n % 10 := by
    simp only [padded, List.range_succ, List.range_zero, List.nil_append,
      List.reverse_cons, List.reverse_nil, List.cons_append, List.map_cons,
      List.map_nil, List.cons.injEq, and_true, Fin.ext_iff, Fin.val_ofNat, pow_one,
      pow_zero, Nat.div_one] at h
    omega
  omega

theorem timestampText_inj {i j : Instant} (h : timestampText i = timestampText j) :
    i = j := by
  have hread := awareDatetime_timestampText i
  rw [h, awareDatetime_timestampText j] at hread
  exact (Except.ok.inj hread).symm

/-- A wall reading is 19 characters, and maybe a point and six digits more. -/
theorem exists_dropLast_timestampText (i : Instant) :
    exists front fraction : PyStr, front.length = 19 ∧
      (fraction = [] ∨ exists digits : PyStr, digits.length = 6 ∧
        fraction = codePoint '.' :: digits) ∧
      (timestampText i).dropLast = front ++ fraction ∧
      timestampText i = front ++ fraction ++ str "Z" := by
  rcases exists_clockText i with ⟨_, year, month, day, hour, minute, second,
    micros, _, _, _, _, _, _, _, htext⟩
  have hdrop : (timestampText i).dropLast =
      clockText year month day hour minute second micros := by
    rw [htext, show str "Z" = [codePoint 'Z'] from rfl, List.dropLast_concat]
  rw [hdrop, htext]
  refine ⟨padded 4 year ++ str "-" ++ padded 2 month ++ str "-" ++ padded 2 day ++
    str "T" ++ padded 2 hour ++ str ":" ++ padded 2 minute ++ str ":" ++
    padded 2 second, if micros = 0 then [] else str "." ++ padded 6 micros,
    ?_, ?_, rfl, rfl⟩
  · simp only [List.length_append, length_padded]
    rfl
  · split
    · exact Or.inl rfl
    · exact Or.inr ⟨padded 6 micros, length_padded 6 micros, rfl⟩

/-- No offset is written like the fraction of a second. -/
theorem offsetText_ne_fraction {offset : Option Int} {rest : PyStr} :
    (offset.map offsetText).getD [] ≠ codePoint '.' :: rest := by
  intro h
  cases offset with
  | none => cases h
  | some o =>
      have htext : offsetText o = codePoint '.' :: rest := h
      unfold offsetText at htext
      split at htext
      · exact absurd (List.cons.inj htext).left (by decide)
      · have hsign := codePoint_inj (List.cons.inj htext).left
        split at hsign
        · cases hsign
        · cases hsign

theorem offsetText_ne_nil (o : Int) : offsetText o ≠ [] := by
  unfold offsetText
  split
  · decide
  · exact List.cons_ne_nil _ _

theorem offsetSign_ne_zulu (o : Int) : (if o < 0 then '-' else '+') ≠ 'Z' := by
  split
  · decide
  · decide

theorem offsetSign_inj {m n : Int}
    (h : (if m < 0 then '-' else '+') = if n < 0 then '-' else '+') :
    m < 0 <-> n < 0 := by
  by_cases hm : m < 0
  · by_cases hn : n < 0
    · exact iff_of_true hm hn
    · rw [if_pos hm, if_neg hn] at h
      cases h
  · by_cases hn : n < 0
    · rw [if_neg hm, if_pos hn] at h
      cases h
    · exact iff_of_false hm hn

theorem offsetText_inj {m n : Int} (hm : m % 60000000 = 0) (hn : n % 60000000 = 0)
    (hmday : -microsPerDay < m ∧ m < microsPerDay)
    (hnday : -microsPerDay < n ∧ n < microsPerDay)
    (h : offsetText m = offsetText n) : m = n := by
  unfold microsPerDay at hmday hnday
  have hzulu : forall (sign : Char) (rest : PyStr), sign ≠ 'Z' ->
      str "Z" ≠ codePoint sign :: rest := by
    intro sign rest hsign heq
    exact hsign (codePoint_inj (List.cons.inj heq).left).symm
  unfold offsetText at h
  by_cases hmzero : m.natAbs / 1000000 = 0
  · by_cases hnzero : n.natAbs / 1000000 = 0
    · omega
    · rw [if_pos hmzero, if_neg hnzero] at h
      exact absurd h (hzulu _ _ (offsetSign_ne_zulu n))
  · by_cases hnzero : n.natAbs / 1000000 = 0
    · rw [if_neg hmzero, if_pos hnzero] at h
      exact absurd h.symm (hzulu _ _ (offsetSign_ne_zulu m))
    · rw [if_neg hmzero, if_neg hnzero] at h
      rcases List.cons.inj h with ⟨hsigns, htail⟩
      have hlength : (padded 2 (m.natAbs / 60000000 / 60)).length =
          (padded 2 (n.natAbs / 60000000 / 60)).length := by
        rw [length_padded, length_padded]
      rcases List.append_inj htail hlength with ⟨hhours, htail⟩
      have hhour := padded_two_inj (by omega) (by omega) hhours
      have hminute := padded_two_inj (by omega) (by omega)
        (List.cons.inj htail).right
      have hnegative := offsetSign_inj (codePoint_inj hsigns)
      omega

/-- Offsets of whole minutes, and none at all, are told apart by their texts. -/
theorem offset_eq_of_text {d e : Datetime} (hd : WholeMinutes d) (he : WholeMinutes e)
    (h : (d.offset.map offsetText).getD [] = (e.offset.map offsetText).getD []) :
    d.offset = e.offset := by
  cases hdo : d.offset with
  | none =>
      cases heo : e.offset with
      | none => rfl
      | some o =>
          rw [hdo, heo] at h
          exact absurd h.symm (offsetText_ne_nil o)
  | some o =>
      cases heo : e.offset with
      | none =>
          rw [hdo, heo] at h
          exact absurd h (offsetText_ne_nil o)
      | some o' =>
          rw [hdo, heo] at h
          exact congrArg some (offsetText_inj (hd o hdo) (he o' heo)
            (d.offset_range o hdo) (e.offset_range o' heo) h)

/-- Datetimes with offsets of whole minutes are told apart by their texts. -/
theorem isoTimestamp_inj {d e : Datetime} (hd : WholeMinutes d)
    (he : WholeMinutes e) (h : isoTimestamp d = isoTimestamp e) : d = e := by
  unfold isoTimestamp at h
  rcases exists_dropLast_timestampText ⟨d.wall, d.wall_range⟩ with
    ⟨front, fraction, hfront, hfraction, hdrop, htext⟩
  rcases exists_dropLast_timestampText ⟨e.wall, e.wall_range⟩ with
    ⟨front', fraction', hfront', hfraction', hdrop', htext'⟩
  rw [hdrop, hdrop', List.append_assoc, List.append_assoc] at h
  rcases List.append_inj h (hfront.trans hfront'.symm) with ⟨hfronts, hrest⟩
  have hparts : fraction = fraction' ∧ (d.offset.map offsetText).getD [] =
      (e.offset.map offsetText).getD [] := by
    rcases hfraction with hnil | ⟨digits, hlength, hpoint⟩
    · rcases hfraction' with hnil' | ⟨digits', _, hpoint'⟩
      · rw [hnil, hnil'] at hrest
        exact ⟨hnil.trans hnil'.symm, hrest⟩
      · rw [hnil, hpoint'] at hrest
        exact absurd hrest offsetText_ne_fraction
    · rcases hfraction' with hnil' | ⟨digits', hlength', hpoint'⟩
      · rw [hpoint, hnil'] at hrest
        exact absurd hrest.symm offsetText_ne_fraction
      · have hsame : fraction.length = fraction'.length := by
          rw [hpoint, hpoint', List.length_cons, List.length_cons, hlength,
            hlength']
        exact List.append_inj hrest hsame
  have hwall : d.wall = e.wall := by
    have htexts : timestampText ⟨d.wall, d.wall_range⟩ =
        timestampText ⟨e.wall, e.wall_range⟩ := by
      rw [htext, htext', hfronts, hparts.left]
    exact congrArg Subtype.val (timestampText_inj htexts)
  have hoffset := offset_eq_of_text hd he hparts.right
  rcases d with ⟨wall, offset, _, _⟩
  rcases e with ⟨wall', offset', _, _⟩
  cases hwall
  cases hoffset
  rfl

end Pydantic
end EidolonSdk
