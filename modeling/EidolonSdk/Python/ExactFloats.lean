import EidolonSdk.Python.JsonNumbers

/-!
# Floats written exactly

A binary64 number has a finite decimal expansion.  Multiples of one half are
written with one digit behind the point, as every shortest text does below
{lit}`1e16`; every other number with all the digits it has and the exponent of
the least subnormal.  Such a text is longer than the shortest one, but it is the
text of a number and it is read back.
-/

namespace EidolonSdk
namespace Python

open Json

/-- A decimal number that is one of binary64 is read as it is. -/
theorem Double.ofDecimal_eq {negative : Bool} {digits magnitude : Nat}
    {exponent : Int} (representable : Representable magnitude)
    (h : digits * 10 ^ exponent.toNat * doubleOne =
      magnitude * 10 ^ (-exponent).toNat) :
    Double.ofDecimal negative digits exponent =
      .finite negative magnitude representable := by
  rcases representable.right with ⟨c, hc⟩
  have hfits : c ≤ 2 ^ 53 := by
    apply Nat.le_of_lt
    have hlog : magnitude < 2 ^ 53 * 2 ^ droppedBits magnitude := by
      rw [← pow_add]
      by_cases hzero : magnitude = 0
      · rw [hzero]
        exact Nat.pow_pos (by decide)
      · apply (Nat.log2_lt hzero).mp
        unfold droppedBits
        omega
    apply Nat.lt_of_mul_lt_mul_right
    rw [Nat.mul_comm c, ← hc]
    exact hlog
  have hround : roundRatio (digits * 10 ^ exponent.toNat)
      (10 ^ (-exponent).toNat) = magnitude := by
    rw [Nat.mul_comm] at hc
    exact (roundRatio_of_fits (Nat.pow_pos (by decide)) hfits
      (by rw [h, ← hc])).trans hc.symm
  unfold Double.ofDecimal
  simp only [hround, dif_pos representable.left]

/-- Half of one, in units of the least subnormal. -/
def doubleHalf : Nat := 2 ^ 1073

def signString (negative : Bool) : String :=
  if negative then "-" else ""

def exactText : Double -> String
  | .finite negative magnitude _ =>
      if magnitude % doubleHalf = 0 then
        signString negative ++ toString (magnitude / doubleHalf / 2) ++
          (if magnitude / doubleHalf % 2 = 0 then ".0" else ".5")
      else signString negative ++ toString (magnitude * 5 ^ 1074) ++ "e-1074"
  | .infinite negative => signString negative ++ "inf"
  | .nan => "nan"

section Exact

variable {negative : Bool} {magnitude : Nat}

theorem str_sign_natural (n : Nat) (behind : String) :
    str (signString negative ++ toString n ++ behind) =
      minusText negative ++ (naturalText n ++ str behind) := by
  cases negative with
  | false => simp [str, naturalText, minusText, signString, Nat.toString_eq_repr]
  | true =>
      simp [str, naturalText, minusText, signString, Nat.toString_eq_repr]

theorem digits_single {c : CodePoint} (h : IsDecimalDigit c) : Digits [c] := by
  refine ⟨List.cons_ne_nil c [], ?_⟩
  intro d hd
  rw [List.mem_singleton.mp hd]
  exact h

/-- The numeral of a multiple of one half, the odd ones ending in five. -/
def halfNumeral (negative : Bool) (halves : Nat) : Numeral :=
  ⟨negative, naturalText (halves / 2),
    [if halves % 2 = 0 then codePoint '0' else codePoint '5'], none⟩

theorem spells_half (halves : Nat) :
    Spells (halfNumeral negative halves)
      (str (signString negative ++ toString (halves / 2) ++
        (if halves % 2 = 0 then ".0" else ".5"))) := by
  rw [str_sign_natural]
  refine ⟨wholeText_naturalText _, codePoint '.' :: (halfNumeral negative halves).fraction,
    [], FractionText.digits ?_, ExponentText.none, ?_⟩
  · unfold halfNumeral
    split
    · exact digits_single (by decide)
    · exact digits_single (by decide)
  · unfold halfNumeral
    rw [List.append_nil]
    split
    · rfl
    · rfl

theorem ofDecimal_half (representable : Representable magnitude)
    (h : magnitude % doubleHalf = 0) :
    Double.ofDecimal negative
        (ofDigits ((halfNumeral negative (magnitude / doubleHalf)).whole ++
          (halfNumeral negative (magnitude / doubleHalf)).fraction)) (0 - (1 : Nat)) =
      .finite negative magnitude representable := by
  have hone : doubleOne = 2 * doubleHalf := by
    unfold doubleOne doubleHalf
    rw [← pow_succ']
  have hmagnitude : magnitude = magnitude / doubleHalf * doubleHalf :=
    (Nat.div_mul_cancel (Nat.dvd_of_mod_eq_zero h)).symm
  generalize magnitude / doubleHalf = halves at hmagnitude
  have hdigits : ofDigits ((halfNumeral negative halves).whole ++
      (halfNumeral negative halves).fraction) = 5 * halves := by
    unfold halfNumeral
    dsimp only
    rw [ofDigits_append, ofDigits_naturalText]
    split
    · show halves / 2 * 10 + (0x30 - 0x30) = 5 * halves
      omega
    · show halves / 2 * 10 + (0x35 - 0x30) = 5 * halves
      omega
  apply Double.ofDecimal_eq representable
  rw [hdigits, hone, hmagnitude]
  show 5 * halves * 10 ^ 0 * (2 * doubleHalf) = halves * doubleHalf * 10 ^ 1
  ring

def fullNumeral (negative : Bool) (magnitude : Nat) : Numeral :=
  ⟨negative, naturalText (magnitude * 5 ^ 1074), [], some (-1074)⟩

theorem spells_full :
    Spells (fullNumeral negative magnitude)
      (str (signString negative ++ toString (magnitude * 5 ^ 1074) ++ "e-1074")) := by
  rw [str_sign_natural]
  have hdigits : Digits (str "1074") := by
    refine ⟨by decide, ?_⟩
    have hall : (str "1074").all (fun c => decide (IsDecimalDigit c)) = true := by
      decide
    intro c hc
    exact of_decide_eq_true (List.all_eq_true.mp hall c hc)
  have hexponent : ExponentText (some (-1074)) (str "e-1074") :=
    ExponentText.minus (Or.inl rfl) hdigits
  exact ⟨wholeText_naturalText _, [], str "e-1074", FractionText.none, hexponent, rfl⟩

theorem ofDecimal_full (representable : Representable magnitude) :
    Double.ofDecimal negative (ofDigits (naturalText (magnitude * 5 ^ 1074) ++ []))
        (-1074 - (0 : Nat)) =
      .finite negative magnitude representable := by
  have hten : (10 : Nat) ^ 1074 = 5 ^ 1074 * doubleOne := by
    unfold doubleOne
    rw [← Nat.mul_pow]
  have hexponent : ((-1074 - (0 : Nat) : Int)).toNat = 0 ∧
      (-(-1074 - (0 : Nat) : Int)).toNat = 1074 := ⟨rfl, rfl⟩
  apply Double.ofDecimal_eq representable
  rw [List.append_nil, ofDigits_naturalText, hexponent.left, hexponent.right,
    pow_zero, Nat.mul_one, hten, Nat.mul_assoc]

end Exact

theorem floatNumerals_exactText : FloatNumerals exactText where
  reads negative magnitude representable := by
    by_cases h : magnitude % doubleHalf = 0
    · refine ⟨halfNumeral negative (magnitude / doubleHalf), ?_,
        Or.inl (List.cons_ne_nil _ _), ofDecimal_half representable h⟩
      rw [exactText, if_pos h]
      exact spells_half _
    · refine ⟨fullNumeral negative magnitude, ?_, Or.inr rfl,
        ofDecimal_full representable⟩
      rw [exactText, if_neg h]
      exact spells_full

end Python
end EidolonSdk
