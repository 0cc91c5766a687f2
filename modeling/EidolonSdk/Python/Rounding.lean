import EidolonSdk.Python.Double

/-!
# How rounding behaves

Rounding to binary64 is monotone, leaves what fits as it is and depends on the
quotient only.  Where the quotient lies between two powers of two, the bits that
are kept are known, and rounding is that of one division.
-/

namespace EidolonSdk
namespace Python

/-!
## Rounding to a whole number
-/

section Whole

variable {a b q : Nat}

theorem le_roundHalfEven_mul (hb : 0 < b) :
    2 * a ≤ 2 * (roundHalfEven a b * b) + b := by
  have hdiv := Nat.div_add_mod a b
  have hmod := Nat.mod_lt a hb
  have hmul : (a / b + 1) * b = b * (a / b) + b := by
    rw [Nat.add_mul, Nat.one_mul, Nat.mul_comm]
  have hcomm : a / b * b = b * (a / b) := Nat.mul_comm _ _
  unfold roundHalfEven
  split
  · omega
  · split
    · omega
    · split
      · omega
      · omega

theorem roundHalfEven_eq (hlow : 2 * (q * b) < 2 * a + b)
    (hhigh : 2 * a < 2 * (q * b) + b) : roundHalfEven a b = q := by
  have hb : 0 < b := by omega
  have hle := roundHalfEven_le (a := a) hb
  have hge := le_roundHalfEven_mul (a := a) hb
  apply Nat.le_antisymm
  · by_contra hgt
    have hmul : (q + 1) * b ≤ roundHalfEven a b * b :=
      Nat.mul_le_mul_right b (by omega)
    rw [Nat.add_mul, Nat.one_mul] at hmul
    omega
  · by_contra hlt
    have hmul : (roundHalfEven a b + 1) * b ≤ q * b :=
      Nat.mul_le_mul_right b (by omega)
    rw [Nat.add_mul, Nat.one_mul] at hmul
    omega

/-- An even number is reached from half a unit below it. -/
theorem le_roundHalfEven_iff (hb : 0 < b) (hq : q % 2 = 0) :
    q ≤ roundHalfEven a b <-> 2 * (q * b) ≤ 2 * a + b := by
  constructor
  · intro h
    have hmul : q * b ≤ roundHalfEven a b * b := Nat.mul_le_mul_right b h
    have hround := roundHalfEven_le (a := a) hb
    omega
  · intro h
    by_contra hlt
    have hmul : (roundHalfEven a b + 1) * b ≤ q * b :=
      Nat.mul_le_mul_right b (by omega)
    rw [Nat.add_mul, Nat.one_mul] at hmul
    have hround := le_roundHalfEven_mul (a := a) hb
    -- Only the tie is left, and there the odd neighbour gives way.
    have heq : (roundHalfEven a b + 1) * b = q * b := by
      rw [Nat.add_mul, Nat.one_mul]
      omega
    have hnext := Nat.eq_of_mul_eq_mul_right hb heq
    have hmod : 2 * (a - roundHalfEven a b * b) = b := by
      rw [← heq, Nat.add_mul, Nat.one_mul] at h
      omega
    have hdiv : a / b = roundHalfEven a b := by
      apply Nat.div_eq_of_lt_le
      · omega
      · rw [Nat.add_mul, Nat.one_mul]
        omega
    have hrest : 2 * (a % b) = b := by
      rw [Nat.mod_eq_sub_div_mul, hdiv]
      exact hmod
    have hodd : a / b % 2 ≠ 0 := by omega
    have hup : roundHalfEven a b = a / b + 1 := by
      unfold roundHalfEven
      rw [if_neg (by omega), if_neg (by omega), if_neg hodd]
    omega

theorem roundHalfEven_mul_mul {c : Nat} (hc : 0 < c) :
    roundHalfEven (a * c) (b * c) = roundHalfEven a b := by
  have hdiv : a * c / (b * c) = a / b := Nat.mul_div_mul_right a b hc
  have hmod : a * c % (b * c) = a % b * c := Nat.mul_mod_mul_right c a b
  have hlt : forall m n : Nat, m * c < n * c <-> m < n := fun m n =>
    Nat.mul_lt_mul_right hc
  unfold roundHalfEven
  rw [hdiv, hmod, ← Nat.mul_assoc]
  simp only [hlt]

end Whole

/-!
## Rounding to binary64
-/

section Ratio

variable {n d : Nat}

theorem roundRatio_mul_mul {c : Nat} (hc : 0 < c) :
    roundRatio (n * c) (d * c) = roundRatio n d := by
  have hquot : n * c * doubleOne / (d * c) = n * doubleOne / d := by
    rw [Nat.mul_right_comm, Nat.mul_div_mul_right _ _ hc]
  have hround : forall p : Nat,
      roundHalfEven (n * c * doubleOne) (d * c * p) =
        roundHalfEven (n * doubleOne) (d * p) := by
    intro p
    rw [Nat.mul_right_comm n c, Nat.mul_right_comm d c, roundHalfEven_mul_mul hc]
  unfold roundRatio
  rw [hquot]
  exact congrArg (fun q => q * _) (hround _)

theorem droppedBits_eq {m k : Nat} (hlow : 2 ^ (52 + k) ≤ m)
    (hhigh : m < 2 ^ (53 + k)) : droppedBits m = k := by
  have hm : m ≠ 0 := by
    have hpos : 0 < 2 ^ (52 + k) := Nat.pow_pos (by decide)
    omega
  have hle : 52 + k ≤ m.log2 := (Nat.le_log2 hm).mpr hlow
  have hlt : m.log2 < 53 + k := (Nat.log2_lt hm).mpr hhigh
  unfold droppedBits
  omega

theorem roundRatio_eq {k : Nat} (hk : k ≤ 1074) (hlow : 2 ^ 52 * d ≤ n * 2 ^ k)
    (hhigh : n * 2 ^ k < 2 ^ 53 * d) :
    roundRatio n d = roundHalfEven (n * 2 ^ k) d * 2 ^ (1074 - k) := by
  have hd : 0 < d := by
    apply Nat.pos_of_ne_zero
    intro hzero
    simp [hzero] at hhigh
  have hsplit := doubleOne_split hk
  have hpos : 0 < 2 ^ (1074 - k) := Nat.pow_pos (by decide)
  have hscaled : n * doubleOne = n * 2 ^ k * 2 ^ (1074 - k) := by
    rw [hsplit, Nat.mul_assoc]
  have hdropped : droppedBits (n * doubleOne / d) = 1074 - k := by
    apply droppedBits_eq
    · rw [Nat.le_div_iff_mul_le hd, hscaled, pow_add, Nat.mul_right_comm]
      exact Nat.mul_le_mul_right _ hlow
    · rw [Nat.div_lt_iff_lt_mul hd, hscaled, pow_add, Nat.mul_right_comm (2 ^ 53)]
      exact Nat.mul_lt_mul_of_pos_right hhigh hpos
  unfold roundRatio
  rw [hdropped, hscaled]
  show roundHalfEven _ _ * _ = _
  rw [roundHalfEven_mul_mul hpos]

variable {c e : Nat}

theorem roundRatio_le_of_le (hd : 0 < d) (hc : c < 2 ^ 53)
    (h : n * doubleOne ≤ c * 2 ^ e * d) : roundRatio n d ≤ c * 2 ^ e := by
  have hdropped : droppedBits (n * doubleOne / d) ≤ e := by
    apply droppedBits_le _ (Nat.le_of_eq (Nat.add_comm 53 e))
    rw [Nat.div_lt_iff_lt_mul hd, pow_add]
    exact Nat.lt_of_le_of_lt h (Nat.mul_lt_mul_of_pos_right
      (Nat.mul_lt_mul_of_pos_right hc (Nat.pow_pos (by decide))) hd)
  unfold roundRatio
  generalize droppedBits (n * doubleOne / d) = s at hdropped
  have hpow : 2 ^ e = 2 ^ (e - s) * 2 ^ s := by
    rw [← pow_add, Nat.sub_add_cancel hdropped]
  have hround : roundHalfEven (n * doubleOne) (d * 2 ^ s) ≤ c * 2 ^ (e - s) := by
    apply roundHalfEven_le_of_le (Nat.mul_pos hd (Nat.pow_pos (by decide)))
    calc n * doubleOne ≤ c * 2 ^ e * d := h
      _ = c * 2 ^ (e - s) * (d * 2 ^ s) := by rw [hpow]; ring
  calc roundHalfEven (n * doubleOne) (d * 2 ^ s) * 2 ^ s
      ≤ c * 2 ^ (e - s) * 2 ^ s := Nat.mul_le_mul_right _ hround
    _ = c * 2 ^ e := by rw [hpow, Nat.mul_assoc]

theorem le_roundRatio_of_le (hd : 0 < d) (hc : c < 2 ^ 53)
    (h : c * 2 ^ e * d ≤ n * doubleOne) : c * 2 ^ e ≤ roundRatio n d := by
  have hquot : c * 2 ^ e ≤ n * doubleOne / d := (Nat.le_div_iff_mul_le hd).mpr h
  have hpos : forall s : Nat, 0 < d * 2 ^ s := fun s =>
    Nat.mul_pos hd (Nat.pow_pos (by decide))
  unfold roundRatio
  show _ ≤ roundHalfEven _ (d * 2 ^ droppedBits (n * doubleOne / d)) *
    2 ^ droppedBits (n * doubleOne / d)
  by_cases hs : droppedBits (n * doubleOne / d) ≤ e
  · generalize droppedBits (n * doubleOne / d) = s at hs
    have hpow : 2 ^ e = 2 ^ (e - s) * 2 ^ s := by
      rw [← pow_add, Nat.sub_add_cancel hs]
    have hround : c * 2 ^ (e - s) ≤
        roundHalfEven (n * doubleOne) (d * 2 ^ s) := by
      apply le_roundHalfEven
      rw [Nat.le_div_iff_mul_le (hpos s)]
      calc c * 2 ^ (e - s) * (d * 2 ^ s) = c * 2 ^ e * d := by rw [hpow]; ring
        _ ≤ n * doubleOne := h
    calc c * 2 ^ e = c * 2 ^ (e - s) * 2 ^ s := by rw [hpow, Nat.mul_assoc]
      _ ≤ roundHalfEven (n * doubleOne) (d * 2 ^ s) * 2 ^ s :=
          Nat.mul_le_mul_right _ hround
  · -- More bits are dropped: the quotient is above all of `2 ^ (53 + e)`.
    have hsize : 2 ^ (52 + droppedBits (n * doubleOne / d)) ≤
        n * doubleOne / d := by
      have hne : n * doubleOne / d ≠ 0 := by
        intro hzero
        rw [hzero] at hs
        simp [droppedBits] at hs
      apply (Nat.le_log2 hne).mp
      unfold droppedBits at hs ⊢
      omega
    generalize droppedBits (n * doubleOne / d) = s at hs hsize
    have hround : 2 ^ 52 ≤ roundHalfEven (n * doubleOne) (d * 2 ^ s) := by
      apply le_roundHalfEven
      rw [← Nat.div_div_eq_div_mul, Nat.le_div_iff_mul_le (Nat.pow_pos (by decide)),
        ← pow_add]
      exact hsize
    calc c * 2 ^ e ≤ 2 ^ 53 * 2 ^ e := Nat.mul_le_mul_right _ hc.le
      _ = 2 ^ 52 * 2 ^ (e + 1) := by ring
      _ ≤ 2 ^ 52 * 2 ^ s :=
          Nat.mul_le_mul_left _ (Nat.pow_le_pow_right (by decide) (by omega))
      _ ≤ roundHalfEven (n * doubleOne) (d * 2 ^ s) * 2 ^ s :=
          Nat.mul_le_mul_right _ hround

theorem whole_le_roundRatio (hd : 0 < d) (hc : c < 2 ^ 53) (h : c * d ≤ n) :
    c * doubleOne ≤ roundRatio n d := by
  unfold doubleOne
  apply le_roundRatio_of_le hd hc
  rw [Nat.mul_right_comm]
  exact Nat.mul_le_mul_right _ h

theorem roundRatio_of_fits (hd : 0 < d) (hc : c ≤ 2 ^ 53)
    (h : n * doubleOne = c * 2 ^ e * d) : roundRatio n d = c * 2 ^ e := by
  rcases Nat.lt_or_eq_of_le hc with hlt | heq
  · exact Nat.le_antisymm (roundRatio_le_of_le hd hlt (Nat.le_of_eq h))
      (le_roundRatio_of_le hd hlt (Nat.le_of_eq h.symm))
  · have hpow : c * 2 ^ e = 2 ^ 52 * 2 ^ (e + 1) := by
      rw [heq, ← pow_add, ← pow_add]
      exact congrArg _ (by omega)
    have hlt : 2 ^ 52 < 2 ^ 53 := Nat.pow_lt_pow_right (by decide) (by decide)
    rw [hpow] at h ⊢
    exact Nat.le_antisymm (roundRatio_le_of_le hd hlt (Nat.le_of_eq h))
      (le_roundRatio_of_le hd hlt (Nat.le_of_eq h.symm))

theorem representable_roundRatio (hd : 0 < d)
    (hlimit : roundRatio n d < doubleLimit) : Representable (roundRatio n d) := by
  refine ⟨hlimit, ?_⟩
  have hlow : n * doubleOne / d < 2 ^ 53 *
      2 ^ droppedBits (n * doubleOne / d) := by
    rw [← pow_add]
    by_cases hm : n * doubleOne / d = 0
    · rw [hm]
      exact Nat.pow_pos (by decide)
    · apply (Nat.log2_lt hm).mp
      unfold droppedBits
      omega
  unfold roundRatio
  show 2 ^ droppedBits (roundHalfEven _
    (d * 2 ^ droppedBits (n * doubleOne / d)) * _) ∣ roundHalfEven _
      (d * 2 ^ droppedBits (n * doubleOne / d)) * _
  generalize droppedBits (n * doubleOne / d) = s at hlow
  have hpos : 0 < d * 2 ^ s := Nat.mul_pos hd (Nat.pow_pos (by decide))
  have hround : roundHalfEven (n * doubleOne) (d * 2 ^ s) ≤ 2 ^ 53 := by
    apply roundHalfEven_le_of_le hpos
    have hlt := (Nat.div_lt_iff_lt_mul hd).mp hlow
    calc n * doubleOne ≤ 2 ^ 53 * 2 ^ s * d := hlt.le
      _ = 2 ^ 53 * (d * 2 ^ s) := by ring
  rcases Nat.lt_or_eq_of_le hround with hlt | heq
  · have hdropped : droppedBits
        (roundHalfEven (n * doubleOne) (d * 2 ^ s) * 2 ^ s) ≤ s := by
      apply droppedBits_le _ (Nat.le_of_eq (Nat.add_comm 53 s))
      rw [pow_add]
      exact Nat.mul_lt_mul_of_pos_right hlt (Nat.pow_pos (by decide))
    exact Nat.dvd_trans (Nat.pow_dvd_pow 2 hdropped) (Nat.dvd_mul_left _ _)
  · rw [heq, ← pow_add]
    apply Nat.pow_dvd_pow
    have hle := @droppedBits_le (2 ^ (53 + s)) (54 + s) (1 + s)
      (Nat.pow_lt_pow_right (by decide) (by omega)) (by omega)
    omega

theorem pow_le_roundRatio {k : Nat} :
    2 ^ (k + 54) * doubleOne ≤ roundRatio n 1 <-> 2 ^ (k + 54) - 2 ^ k ≤ n := by
  have hpos : forall m : Nat, 0 < 2 ^ m := fun m => Nat.pow_pos (by decide)
  have hone : forall m : Nat, 2 ^ m * doubleOne = 2 ^ (m + 1074) := fun m =>
    (pow_add 2 m 1074).symm
  have htwice : 2 ^ (k + 54) = 2 * 2 ^ (k + 53) := pow_succ' 2 (k + 53)
  have hhalf : 2 ^ (k + 1) = 2 * 2 ^ k := pow_succ' 2 k
  have hless : 2 ^ k ≤ 2 ^ (k + 53) := Nat.pow_le_pow_right (by decide) (by omega)
  rcases Nat.lt_or_ge n (2 ^ (k + 53)) with hsmall | hlarge
  · refine iff_of_false (Nat.not_le.mpr ?_) (by omega)
    have hle : roundRatio n 1 ≤ 2 ^ 52 * 2 ^ (k + 1 + 1074) := by
      apply roundRatio_le_of_le Nat.one_pos
        (Nat.pow_lt_pow_right (by decide) (by decide))
      calc n * doubleOne ≤ 2 ^ (k + 53) * doubleOne :=
            Nat.mul_le_mul_right _ hsmall.le
        _ = 2 ^ 52 * 2 ^ (k + 1 + 1074) * 1 := by
            rw [hone, ← pow_add, Nat.mul_one]
            exact congrArg _ (by omega)
    rw [← pow_add] at hle
    rw [hone]
    exact Nat.lt_of_le_of_lt hle (Nat.pow_lt_pow_right (by decide) (by omega))
  · rcases Nat.lt_or_ge n (2 ^ (k + 54)) with hhigh | hhuge
    · have hdropped : droppedBits (n * doubleOne / 1) = k + 1 + 1074 := by
        rw [Nat.div_one]
        apply droppedBits_eq
        · calc 2 ^ (52 + (k + 1 + 1074)) = 2 ^ (k + 53) * doubleOne := by
                rw [hone]
                exact congrArg _ (by omega)
            _ ≤ n * doubleOne := Nat.mul_le_mul_right _ hlarge
        · calc n * doubleOne < 2 ^ (k + 54) * doubleOne :=
                Nat.mul_lt_mul_of_pos_right hhigh doubleOne_pos
            _ = 2 ^ (53 + (k + 1 + 1074)) := by
                rw [hone]
                exact congrArg _ (by omega)
      have hround : roundRatio n 1 =
          roundHalfEven n (2 ^ (k + 1)) * 2 ^ (k + 1 + 1074) := by
        unfold roundRatio
        rw [hdropped]
        show roundHalfEven (n * doubleOne) (1 * 2 ^ (k + 1 + 1074)) *
          2 ^ (k + 1 + 1074) = _
        rw [Nat.one_mul, ← hone (k + 1), roundHalfEven_mul_mul doubleOne_pos]
      have hsplit : 2 ^ (k + 54) * doubleOne = 2 ^ 53 * 2 ^ (k + 1 + 1074) := by
        rw [hone, ← pow_add]
        exact congrArg _ (by omega)
      have hwhole : 2 ^ 53 * 2 ^ (k + 1) = 2 ^ (k + 54) := by
        rw [← pow_add]
        exact congrArg _ (by omega)
      rw [hround, hsplit, Nat.mul_le_mul_right_iff (hpos _),
        le_roundHalfEven_iff (hpos _) (by decide), hwhole]
      omega
    · refine iff_of_true ?_ (by omega)
      have hle : 2 ^ 52 * 2 ^ (k + 2 + 1074) ≤ roundRatio n 1 := by
        apply le_roundRatio_of_le Nat.one_pos
          (Nat.pow_lt_pow_right (by decide) (by decide))
        calc 2 ^ 52 * 2 ^ (k + 2 + 1074) * 1 = 2 ^ (k + 54) * doubleOne := by
              rw [hone, ← pow_add, Nat.mul_one]
              exact congrArg _ (by omega)
          _ ≤ n * doubleOne := Nat.mul_le_mul_right _ hhuge
      calc 2 ^ (k + 54) * doubleOne = 2 ^ 52 * 2 ^ (k + 2 + 1074) := by
            rw [hone, ← pow_add]
            exact congrArg _ (by omega)
        _ ≤ roundRatio n 1 := hle

/-- A natural number is too large for a `float` from half a unit below
{lit}`2^1024`. -/
theorem floatOfNat_eq_none :
    floatOfNat n = none <-> 2 ^ 1024 - 2 ^ 970 ≤ n := by
  have hlimit : floatOfNat n = none <-> doubleLimit ≤ roundRatio n 1 := by
    unfold floatOfNat
    split
    · rename_i h
      exact iff_of_false nofun (Nat.not_le.mpr h)
    · rename_i h
      exact iff_of_true rfl (Nat.not_lt.mp h)
  have hpow : doubleLimit = 2 ^ 1024 * doubleOne := by
    unfold doubleLimit doubleOne
    rw [← pow_add]
  have hround := @pow_le_roundRatio n 970
  simp only [Nat.reduceAdd] at hround
  rw [hlimit, hpow, hround]

theorem representable_floatOfNat {magnitude : Nat}
    (h : floatOfNat n = some magnitude) : Representable magnitude := by
  unfold floatOfNat at h
  split at h
  · rename_i hlimit
    cases h
    exact representable_roundRatio Nat.one_pos hlimit
  · cases h

theorem floatOfInt_ofNat (n : Nat) :
    floatOfInt (.ofNat n) = (floatOfNat n).map fun m => (false, m) := rfl

theorem floatOfInt_negSucc (n : Nat) :
    floatOfInt (.negSucc n) = (floatOfNat (n + 1)).map fun m => (true, m) := rfl

theorem floatOfInt_eq_none {k : Int} :
    floatOfInt k = none <-> 2 ^ 1024 - 2 ^ 970 ≤ k.natAbs := by
  cases k with
  | ofNat n =>
      rw [floatOfInt_ofNat, Option.map_eq_none_iff, floatOfNat_eq_none,
        Int.natAbs_ofNat']
  | negSucc n =>
      rw [floatOfInt_negSucc, Option.map_eq_none_iff, floatOfNat_eq_none,
        Int.natAbs_negSucc]

theorem representable_floatOfInt {k : Int} {negative : Bool} {magnitude : Nat}
    (h : floatOfInt k = some (negative, magnitude)) : Representable magnitude := by
  cases k with
  | ofNat n =>
      rw [floatOfInt_ofNat, Option.map_eq_some_iff] at h
      rcases h with ⟨m, hm, heq⟩
      rw [← (Prod.mk.inj heq).right]
      exact representable_floatOfNat hm
  | negSucc n =>
      rw [floatOfInt_negSucc, Option.map_eq_some_iff] at h
      rcases h with ⟨m, hm, heq⟩
      rw [← (Prod.mk.inj heq).right]
      exact representable_floatOfNat hm

end Ratio

end Python
end EidolonSdk
