import Mathlib.Data.Nat.Log
import Mathlib.Tactic.Ring

/-!
# Binary64 numbers

Every finite binary64 number is a whole multiple of the least subnormal
{lit}`2^-1074`, so magnitudes are natural numbers in that unit and all
arithmetic on them is exact.  Rounding happens in one place only, in
{lit}`roundRatio`, to nearest with ties to even.
-/

namespace EidolonSdk
namespace Python

/-- The number one, in units of the least subnormal. -/
def doubleOne : Nat := 2 ^ 1074

/-- The least magnitude that overflows. -/
def doubleLimit : Nat := 2 ^ 2098

/-- The quotient nearest to `a / b`, ties to even. -/
def roundHalfEven (a b : Nat) : Nat :=
  if 2 * (a % b) < b then a / b
  else if b < 2 * (a % b) then a / b + 1
  else if a / b % 2 = 0 then a / b
  else a / b + 1

/-- How many low bits a magnitude of this size cannot keep. -/
def droppedBits (magnitude : Nat) : Nat :=
  magnitude.log2 - 52

/-- The magnitude of the binary64 number nearest to `n / d`. -/
def roundRatio (n d : Nat) : Nat :=
  let shift := droppedBits (n * doubleOne / d)
  roundHalfEven (n * doubleOne) (d * 2 ^ shift) * 2 ^ shift

/-- A magnitude binary64 can hold. -/
def Representable (magnitude : Nat) : Prop :=
  magnitude < doubleLimit ∧ 2 ^ droppedBits magnitude ∣ magnitude

instance (magnitude : Nat) : Decidable (Representable magnitude) :=
  inferInstanceAs (Decidable (_ ∧ _))

/-- A Python `float`.  Zero keeps its sign. -/
inductive Double where
  | finite (negative : Bool) (magnitude : Nat)
      (representable : Representable magnitude)
  | infinite (negative : Bool)
  | nan
  deriving DecidableEq

/-- The value of a finite number, in units of the least subnormal. -/
def Double.scaled? : Double -> Option Int
  | .finite negative magnitude _ =>
      some (if negative then -(magnitude : Int) else magnitude)
  | _ => none

/-- `float(n)` of a natural number; `none` stands for `OverflowError`. -/
def floatOfNat (n : Nat) : Option Nat :=
  if roundRatio n 1 < doubleLimit then some (roundRatio n 1) else none

/-- `float(n)`, as sign and magnitude. -/
def floatOfInt : Int -> Option (Bool × Nat)
  | .ofNat n => (floatOfNat n).map fun magnitude => (false, magnitude)
  | .negSucc n => (floatOfNat (n + 1)).map fun magnitude => (true, magnitude)

/-- The whole number a magnitude truncates to. -/
def truncMagnitude (magnitude : Nat) : Nat :=
  magnitude / doubleOne

/-!
## Rounding keeps close
-/

theorem roundHalfEven_le {a b : Nat} (hb : 0 < b) :
    2 * (roundHalfEven a b * b) ≤ 2 * a + b := by
  have hdiv := Nat.div_add_mod a b
  have hmul : (a / b + 1) * b = b * (a / b) + b := by
    rw [Nat.add_mul, Nat.one_mul, Nat.mul_comm]
  have hcomm : a / b * b = b * (a / b) := Nat.mul_comm _ _
  unfold roundHalfEven
  split
  · omega
  · split
    · omega
    · split
      · omega
      · omega

/-- Rounding never crosses a multiple of the divisor that lies below. -/
theorem le_roundHalfEven {a b q : Nat} (h : q ≤ a / b) :
    q ≤ roundHalfEven a b := by
  unfold roundHalfEven
  split
  · exact h
  · split
    · omega
    · split
      · exact h
      · omega

theorem roundHalfEven_mul {b : Nat} (hb : 0 < b) (q : Nat) :
    roundHalfEven (q * b) b = q := by
  simp [roundHalfEven, hb]

/-- Rounding never crosses a multiple of the divisor that lies above. -/
theorem roundHalfEven_le_of_le {a b q : Nat} (hb : 0 < b) (h : a ≤ q * b) :
    roundHalfEven a b ≤ q := by
  rcases Nat.lt_or_ge (a / b) q with hlt | hge
  · unfold roundHalfEven
    split
    · omega
    · split
      · omega
      · split
        · omega
        · omega
  · have heq : a = q * b :=
      Nat.le_antisymm h ((Nat.le_div_iff_mul_le hb).mp hge)
    rw [heq, roundHalfEven_mul hb]

/-- Rounding to units of `1 / r` keeps the whole part of a quotient whose
distance to the next whole number is more than half a unit. -/
theorem roundHalfEven_div {n d p r : Nat} (hp : 0 < p) (hd : 0 < d)
    (hr : d < 2 * r) :
    roundHalfEven (n * (p * r)) (d * p) / r = n / d := by
  have hrpos : 0 < r := by omega
  have hdp : 0 < d * p := Nat.mul_pos hd hp
  have hn : n < (n / d + 1) * d := by
    have hlt := Nat.lt_div_mul_add (a := n) hd
    rw [Nat.add_mul, Nat.one_mul]
    exact hlt
  have hlower : n / d * r ≤ roundHalfEven (n * (p * r)) (d * p) := by
    apply le_roundHalfEven
    rw [Nat.le_div_iff_mul_le hdp]
    calc n / d * r * (d * p) = n / d * d * (p * r) := by ring
      _ ≤ n * (p * r) := Nat.mul_le_mul_right _ (Nat.div_mul_le_self n d)
  have hupper : roundHalfEven (n * (p * r)) (d * p) < (n / d + 1) * r := by
    have hround := roundHalfEven_le (a := n * (p * r)) hdp
    have hcancel : 2 * (roundHalfEven (n * (p * r)) (d * p) * d) ≤
        2 * (n * r) + d := by
      apply Nat.le_of_mul_le_mul_right _ hp
      calc 2 * (roundHalfEven (n * (p * r)) (d * p) * d) * p
          = 2 * (roundHalfEven (n * (p * r)) (d * p) * (d * p)) := by ring
        _ ≤ 2 * (n * (p * r)) + d * p := hround
        _ = (2 * (n * r) + d) * p := by ring
    have hstep : n * r + r ≤ (n / d + 1) * d * r := by
      calc n * r + r = (n + 1) * r := by ring
        _ ≤ (n / d + 1) * d * r := Nat.mul_le_mul_right _ hn
    have hlt : roundHalfEven (n * (p * r)) (d * p) * d <
        (n / d + 1) * r * d := by
      have hcomm : (n / d + 1) * r * d = (n / d + 1) * d * r := by ring
      omega
    exact Nat.lt_of_mul_lt_mul_right hlt
  exact Nat.div_eq_of_lt_le hlower hupper

theorem droppedBits_le {m j k : Nat} (h : m < 2 ^ j) (hj : j ≤ k + 53) :
    droppedBits m ≤ k := by
  unfold droppedBits
  by_cases hm : m = 0
  · subst hm
    simp
  · have hlog : m.log2 < j := (Nat.log2_lt hm).mpr h
    omega

theorem doubleOne_pos : 0 < doubleOne := by
  unfold doubleOne
  exact pow_pos Nat.two_pos 1074

theorem doubleOne_split {k : Nat} (h : k ≤ 1074) :
    doubleOne = 2 ^ k * 2 ^ (1074 - k) := by
  unfold doubleOne
  rw [← pow_add, Nat.add_sub_cancel' h]

theorem droppedBits_ratio_le {n d j : Nat} (h : n < 2 ^ j * d) :
    droppedBits (n * doubleOne / d) ≤ 1021 + j := by
  have hsize : n * doubleOne / d < 2 ^ (j + 1074) := by
    apply Nat.div_lt_of_lt_mul
    have hpow : 2 ^ (j + 1074) = 2 ^ j * doubleOne := pow_add 2 j 1074
    rw [hpow]
    calc n * doubleOne < 2 ^ j * d * doubleOne :=
          Nat.mul_lt_mul_of_pos_right h doubleOne_pos
      _ = d * (2 ^ j * doubleOne) := by ring
  exact droppedBits_le hsize (by omega)

/-- Below `2^33` seconds a number of microseconds truncates to its whole
seconds: the rounding error is smaller than the distance to the next one. -/
theorem truncMagnitude_roundRatio {n : Nat} (h : n < 2 ^ 33 * 1000000) :
    truncMagnitude (roundRatio n 1000000) = n / 1000000 := by
  have hshift : droppedBits (n * doubleOne / 1000000) ≤ 1054 :=
    droppedBits_ratio_le h
  unfold truncMagnitude roundRatio
  generalize droppedBits (n * doubleOne / 1000000) = k at hshift
  have hunit : 1000000 < 2 * 2 ^ (1074 - k) := by
    have hle : 2 ^ 20 ≤ 2 ^ (1074 - k) :=
      Nat.pow_le_pow_right (by decide) (by omega)
    omega
  show roundHalfEven (n * doubleOne) (1000000 * 2 ^ k) * 2 ^ k / doubleOne = _
  rw [doubleOne_split (show k ≤ 1074 by omega),
    Nat.mul_comm _ (2 ^ k), Nat.mul_div_mul_left _ _ (Nat.pow_pos (by decide))]
  exact roundHalfEven_div (Nat.pow_pos (by decide)) (by decide) hunit

/-!
## Rounding keeps whole numbers apart

Up to {lit}`2^53` every whole number is representable, so rounding a quotient
never moves it across one.
-/

section Whole

variable {n d m : Nat}

theorem roundRatio_le (h : n < 2 ^ 53 * d) (hm : n ≤ m * d) :
    roundRatio n d ≤ m * doubleOne := by
  have hd : 0 < d := by
    apply Nat.pos_of_ne_zero
    intro hzero
    simp [hzero] at h
  have hshift := droppedBits_ratio_le h
  unfold roundRatio
  generalize droppedBits (n * doubleOne / d) = k at hshift
  have hsplit := doubleOne_split (show k ≤ 1074 by omega)
  have hround : roundHalfEven (n * doubleOne) (d * 2 ^ k) ≤
      m * 2 ^ (1074 - k) := by
    apply roundHalfEven_le_of_le (Nat.mul_pos hd (Nat.pow_pos (by decide)))
    calc n * doubleOne ≤ m * d * doubleOne := Nat.mul_le_mul_right _ hm
      _ = m * 2 ^ (1074 - k) * (d * 2 ^ k) := by rw [hsplit]; ring
  calc roundHalfEven (n * doubleOne) (d * 2 ^ k) * 2 ^ k
      ≤ m * 2 ^ (1074 - k) * 2 ^ k := Nat.mul_le_mul_right _ hround
    _ = m * doubleOne := by rw [hsplit]; ring

theorem le_roundRatio (h : n < 2 ^ 53 * d) (hm : m * d ≤ n) :
    m * doubleOne ≤ roundRatio n d := by
  have hd : 0 < d := by
    apply Nat.pos_of_ne_zero
    intro hzero
    simp [hzero] at h
  have hshift := droppedBits_ratio_le h
  unfold roundRatio
  generalize droppedBits (n * doubleOne / d) = k at hshift
  have hsplit := doubleOne_split (show k ≤ 1074 by omega)
  have hround : m * 2 ^ (1074 - k) ≤
      roundHalfEven (n * doubleOne) (d * 2 ^ k) := by
    apply le_roundHalfEven
    rw [Nat.le_div_iff_mul_le (Nat.mul_pos hd (Nat.pow_pos (by decide)))]
    calc m * 2 ^ (1074 - k) * (d * 2 ^ k) = m * d * doubleOne := by
          rw [hsplit]; ring
      _ ≤ n * doubleOne := Nat.mul_le_mul_right _ hm
  calc m * doubleOne = m * 2 ^ (1074 - k) * 2 ^ k := by rw [hsplit]; ring
    _ ≤ roundHalfEven (n * doubleOne) (d * 2 ^ k) * 2 ^ k :=
        Nat.mul_le_mul_right _ hround

theorem roundRatio_whole (h : n < 2 ^ 53) :
    roundRatio n 1 = n * doubleOne := by
  have hlt : n < 2 ^ 53 * 1 := by omega
  exact Nat.le_antisymm (roundRatio_le hlt (by omega))
    (le_roundRatio hlt (by omega))

theorem truncMagnitude_le (h : n < 2 ^ 53 * d) (hm : n ≤ m * d) :
    truncMagnitude (roundRatio n d) ≤ m := by
  have hround : roundRatio n d ≤ m * doubleOne := roundRatio_le h hm
  unfold truncMagnitude
  calc roundRatio n d / doubleOne ≤ m * doubleOne / doubleOne :=
        Nat.div_le_div_right hround
    _ = m := Nat.mul_div_cancel _ doubleOne_pos

theorem whole_lt_doubleLimit (h : n < 2 ^ 53) : n * doubleOne < doubleLimit := by
  have hpow : 2 ^ 53 * doubleOne ≤ doubleLimit := by
    unfold doubleOne doubleLimit
    exact (pow_add 2 53 1074).symm.trans_le
      (pow_le_pow_right₀ (by decide) (by decide))
  calc n * doubleOne < 2 ^ 53 * doubleOne :=
        Nat.mul_lt_mul_of_pos_right h doubleOne_pos
    _ ≤ doubleLimit := hpow

theorem floatOfNat_whole (h : n < 2 ^ 53) :
    floatOfNat n = some (n * doubleOne) := by
  unfold floatOfNat
  rw [roundRatio_whole h, if_pos (whole_lt_doubleLimit h)]

theorem floatOfInt_whole {k : Int} (h : k.natAbs < 2 ^ 53) :
    floatOfInt k = some (decide (k < 0), k.natAbs * doubleOne) := by
  cases k with
  | ofNat n =>
      have hn : n < 2 ^ 53 := h
      simp [floatOfInt, floatOfNat_whole hn]
  | negSucc n =>
      have hn : n + 1 < 2 ^ 53 := h
      simp [floatOfInt, floatOfNat_whole hn]

end Whole

theorem representable_zero : Representable 0 := by
  constructor
  · unfold doubleLimit
    exact pow_pos Nat.two_pos 2098
  · exact Nat.dvd_zero _

theorem representable_two_pow {n : Nat} (h : 2 ^ n < doubleLimit) :
    Representable (2 ^ n) := by
  refine ⟨h, ?_⟩
  unfold droppedBits
  rw [Nat.log2_two_pow]
  exact Nat.pow_dvd_pow 2 (Nat.sub_le n 52)

theorem representable_doubleOne : Representable doubleOne := by
  have hlimit := @whole_lt_doubleLimit 1 (by decide)
  rw [Nat.one_mul] at hlimit
  exact representable_two_pow hlimit

end Python
end EidolonSdk
