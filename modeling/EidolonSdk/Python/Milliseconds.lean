import EidolonSdk.Python.Datetime
import EidolonSdk.Python.Rounding

/-!
# Milliseconds and datetimes

A number of milliseconds is divided into seconds, becomes a datetime of whole
microseconds and a timestamp again, and is multiplied back.  The datetime costs
nothing: the timestamp is the quotient.  The product may fall short, though, and
the truncation then takes a whole millisecond.
-/

namespace EidolonSdk
namespace Python

def overThousand (n : Nat) : Nat :=
  roundRatio n 1000

/-- `value.timestamp()` of a point in time after 1970. -/
def timestampOf (micros : Nat) : Nat :=
  roundRatio micros 1000000

def timesThousand (magnitude : Nat) : Nat :=
  roundRatio (magnitude * 1000) doubleOne

/-- The last millisecond of the year 9999. -/
def lastMillis : Nat := 253402300799999

/-- The product falls short of the number it was divided from: the number is in the
upper end of its power of two, and the quotient was rounded down by more than the
product can make up for. -/
def FallsShort (n : Nat) : Prop :=
  125 * 2 ^ n.log2 ≤ 64 * n ∧ 256 < n * 2 ^ (61 - n.log2) % 1000 ∧
    n * 2 ^ (61 - n.log2) % 1000 < 500

instance (n : Nat) : Decidable (FallsShort n) :=
  inferInstanceAs (Decidable (_ ∧ _ ∧ _))

/-!
## The quotient
-/

section Quotient

/-- The quotient keeps this many bits behind the point. -/
structure Kept (n k : Nat) : Prop where
  low : 2 ^ 52 * 1000 ≤ n * 2 ^ k
  high : n * 2 ^ k < 2 ^ 53 * 1000
  least : 14 ≤ k
  most : k ≤ 62

variable {n k : Nat}

def lastBits (n k : Nat) : Nat :=
  roundHalfEven (n * 2 ^ k) 1000

theorem lastBits_le (n k : Nat) :
    2 * (1000 * lastBits n k) ≤ 2 * (n * 2 ^ k) + 1000 := by
  have h := roundHalfEven_le (a := n * 2 ^ k) (show 0 < 1000 by decide)
  unfold lastBits
  omega

theorem le_lastBits (n k : Nat) :
    2 * (n * 2 ^ k) ≤ 2 * (1000 * lastBits n k) + 1000 := by
  have h := le_roundHalfEven_mul (a := n * 2 ^ k) (show 0 < 1000 by decide)
  unfold lastBits
  omega

theorem Kept.lastBits_low (h : Kept n k) : 2 ^ 52 ≤ lastBits n k := by
  apply le_roundHalfEven
  exact (Nat.le_div_iff_mul_le (by decide)).mpr h.low

theorem Kept.lastBits_high (h : Kept n k) : lastBits n k ≤ 2 ^ 53 :=
  roundHalfEven_le_of_le (by decide) h.high.le

theorem Kept.overThousand (h : Kept n k) :
    overThousand n = lastBits n k * 2 ^ (1074 - k) :=
  roundRatio_eq (h.most.trans (by decide)) h.low h.high

theorem Kept.doubleOne (h : Kept n k) :
    doubleOne = 2 ^ k * 2 ^ (1074 - k) :=
  doubleOne_split (h.most.trans (by decide))

end Quotient

/-!
## The bits of the quotient
-/

section Bits

variable {n : Nat}

def keptBits (n : Nat) : Nat :=
  if 125 * 2 ^ n.log2 ≤ 64 * n then 61 - n.log2 else 62 - n.log2

theorem kept_keptBits (hn : 0 < n) (h : n < 2 ^ 48) : Kept n (keptBits n) := by
  have hlow : 2 ^ n.log2 ≤ n := Nat.log2_self_le hn.ne'
  have hhigh : n < 2 ^ (n.log2 + 1) := Nat.lt_log2_self
  have hlog : n.log2 < 48 := (Nat.log2_lt hn.ne').mpr h
  unfold keptBits
  generalize n.log2 = j at *
  split
  · rename_i hupper
    have hpow : 2 ^ j * 2 ^ (61 - j) = 2 ^ 61 := by
      rw [← pow_add]
      exact congrArg _ (by omega)
    have hpos : 0 < 2 ^ (61 - j) := Nat.pow_pos (by decide)
    have hle := Nat.mul_le_mul_right (2 ^ (61 - j)) hupper
    have hlt := Nat.mul_lt_mul_of_pos_right hhigh hpos
    rw [Nat.mul_assoc, Nat.mul_assoc, hpow] at hle
    rw [pow_succ, Nat.mul_right_comm, hpow] at hlt
    exact ⟨by omega, by omega, by omega, by omega⟩
  · rename_i hlower
    have hpow : 2 ^ j * 2 ^ (62 - j) = 2 ^ 62 := by
      rw [← pow_add]
      exact congrArg _ (by omega)
    have hpos : 0 < 2 ^ (62 - j) := Nat.pow_pos (by decide)
    have hle := Nat.mul_le_mul_right (2 ^ (62 - j)) hlow
    have hlt := Nat.mul_lt_mul_of_pos_right (Nat.not_le.mp hlower) hpos
    rw [hpow] at hle
    rw [Nat.mul_assoc, Nat.mul_assoc, hpow] at hlt
    exact ⟨by omega, by omega, by omega, by omega⟩

end Bits

/-!
## The datetime
-/

section Moment

variable {n k : Nat}

theorem Kept.lastBits_div (h : Kept n k) : lastBits n k / 2 ^ k = n / 1000 := by
  have hpow : 2 ^ 14 ≤ 2 ^ k := Nat.pow_le_pow_right (by decide) h.least
  have hdiv := @roundHalfEven_div n 1000 1 (2 ^ k) (by decide) (by decide)
    (by omega)
  rw [Nat.one_mul, Nat.mul_one] at hdiv
  exact hdiv

theorem Kept.micros (h : Kept n k) :
    microsOfMagnitude (Python.overThousand n) = n / 1000 * 1000000 +
      roundHalfEven (roundRatio (lastBits n k % 2 ^ k * 1000000) (2 ^ k))
        Python.doubleOne := by
  have hpos : 0 < 2 ^ (1074 - k) := Nat.pow_pos (by decide)
  have hwhole : lastBits n k * 2 ^ (1074 - k) / Python.doubleOne = n / 1000 := by
    rw [h.doubleOne, Nat.mul_div_mul_right _ _ hpos, h.lastBits_div]
  have hrest : roundRatio
      (lastBits n k * 2 ^ (1074 - k) % Python.doubleOne * 1000000)
        Python.doubleOne =
      roundRatio (lastBits n k % 2 ^ k * 1000000) (2 ^ k) := by
    rw [h.doubleOne, Nat.mul_mod_mul_right, Nat.mul_right_comm,
      roundRatio_mul_mul hpos]
  unfold microsOfMagnitude
  rw [h.overThousand, hwhole, hrest]

theorem Kept.lastBits_mod (h : Kept n k) :
    lastBits n k = n / 1000 * 2 ^ k + lastBits n k % 2 ^ k := by
  have hdiv := Nat.div_add_mod (lastBits n k) (2 ^ k)
  rw [h.lastBits_div, Nat.mul_comm] at hdiv
  exact hdiv.symm

theorem scaled_eq (n k : Nat) :
    n * 2 ^ k = 1000 * (n / 1000 * 2 ^ k) + n % 1000 * 2 ^ k := by
  have hdiv := Nat.div_add_mod n 1000
  calc n * 2 ^ k = (1000 * (n / 1000) + n % 1000) * 2 ^ k := by rw [hdiv]
    _ = 1000 * (n / 1000 * 2 ^ k) + n % 1000 * 2 ^ k := by ring

/-- With twenty bits behind the point the microsecond is the right one. -/
theorem Kept.micros_eq (h : Kept n k) (hk : 20 ≤ k) :
    microsOfMagnitude (Python.overThousand n) = 1000 * n := by
  have hpow : 2 ^ 20 ≤ 2 ^ k := Nat.pow_le_pow_right (by decide) hk
  have hpos : 0 < 2 ^ k := Nat.pow_pos (by decide)
  have hlow := lastBits_le n k
  have hhigh := le_lastBits n k
  have hbits := h.lastBits_mod
  have hscaled := scaled_eq n k
  have hone := doubleOne_split (show 20 ≤ 1074 by decide)
  have hrest : n % 1000 < 1000 := Nat.mod_lt _ (by decide)
  have hdiv := Nat.div_add_mod n 1000
  have hround : roundHalfEven
      (roundRatio (lastBits n k % 2 ^ k * 1000000) (2 ^ k)) Python.doubleOne =
        1000 * (n % 1000) := by
    generalize lastBits n k % 2 ^ k = r at *
    generalize n % 1000 = b at *
    generalize 1074 - 20 = e at hone
    generalize hp : 2 ^ k = p at *
    have hunit : 0 < 2 ^ e := Nat.pow_pos (by decide)
    -- The quotient is off by less than half a microsecond, and rounding the scaled
    -- fraction keeps that bound.
    have hle : roundRatio (r * 1000000) p ≤ (1000 * b * 2 ^ 20 + 500000) * 2 ^ e := by
      apply roundRatio_le_of_le hpos (by omega)
      have hmul : (1000 * b * 2 ^ 20 + 500000) * p =
          1048576000 * (b * p) + 500000 * p := by ring
      rw [hone, ← Nat.mul_assoc, Nat.mul_right_comm _ (2 ^ e), hmul]
      exact Nat.mul_le_mul_right _ (by omega)
    have hge : (1000 * b * 2 ^ 20 - 500000) * 2 ^ e ≤ roundRatio (r * 1000000) p := by
      apply le_roundRatio_of_le hpos (by omega)
      have hwhole : 1000 * b * 2 ^ 20 * p = 1048576000 * (b * p) := by ring
      have hmul : (1000 * b * 2 ^ 20 - 500000) * p =
          1048576000 * (b * p) - 500000 * p := by
        rw [Nat.sub_mul, hwhole]
      rw [hone, ← Nat.mul_assoc, Nat.mul_right_comm _ (2 ^ e), hmul]
      exact Nat.mul_le_mul_right _ (by omega)
    generalize roundRatio (r * 1000000) p = x at *
    rw [Nat.add_mul] at hle
    rw [Nat.sub_mul] at hge
    rw [hone]
    have hmul : 1000 * b * (2 ^ 20 * 2 ^ e) = 1000 * b * 2 ^ 20 * 2 ^ e := by ring
    apply roundHalfEven_eq
    · rw [hmul]
      omega
    · rw [hmul]
      omega
  rw [h.micros, hround]
  omega

/-- With fewer bits scaling the fraction is exact. -/
theorem Kept.micros_exact (h : Kept n k) (hk : k < 20) :
    microsOfMagnitude (Python.overThousand n) = n / 1000 * 1000000 +
      roundHalfEven (lastBits n k % 2 ^ k * 1000000) (2 ^ k) := by
  have hpow : 2 ^ k ≤ 2 ^ 19 := Nat.pow_le_pow_right (by decide) (by omega)
  have hpos : 0 < 2 ^ k := Nat.pow_pos (by decide)
  have hunit : 0 < 2 ^ (1074 - k) := Nat.pow_pos (by decide)
  have hlt : lastBits n k % 2 ^ k < 2 ^ k := Nat.mod_lt _ hpos
  have hexact : roundRatio (lastBits n k % 2 ^ k * 1000000) (2 ^ k) =
      lastBits n k % 2 ^ k * 1000000 * 2 ^ (1074 - k) := by
    apply roundRatio_of_fits hpos (by omega)
    rw [h.doubleOne]
    ring
  rw [h.micros, hexact, h.doubleOne, roundHalfEven_mul_mul hunit]

theorem Kept.micros_near (h : Kept n k) (hk : k < 20) :
    2 * (microsOfMagnitude (Python.overThousand n) * 2 ^ k) ≤
        2 * (lastBits n k * 1000000) + 2 ^ k ∧
      2 * (lastBits n k * 1000000) ≤
        2 * (microsOfMagnitude (Python.overThousand n) * 2 ^ k) + 2 ^ k := by
  have hpos : 0 < 2 ^ k := Nat.pow_pos (by decide)
  have hle := roundHalfEven_le (a := lastBits n k % 2 ^ k * 1000000) hpos
  have hge := le_roundHalfEven_mul (a := lastBits n k % 2 ^ k * 1000000) hpos
  have hbits := h.lastBits_mod
  have hwhole : n / 1000 * 1000000 * 2 ^ k = 1000000 * (n / 1000 * 2 ^ k) := by
    ring
  rw [h.micros_exact hk, Nat.add_mul, hwhole]
  omega

theorem Kept.timestampOf_micros (h : Kept n k) :
    timestampOf (microsOfMagnitude (Python.overThousand n)) =
      Python.overThousand n := by
  rcases Nat.lt_or_ge k 20 with hk | hk
  · have hpow : 2 ^ k ≤ 2 ^ 19 := Nat.pow_le_pow_right (by decide) (by omega)
    have hlow := h.lastBits_low
    have hhigh := h.lastBits_high
    by_cases hedge : lastBits n k % 2 ^ k = 0
    · -- The quotient is a whole number of seconds.
      have hround : roundHalfEven 0 (2 ^ k) = 0 := by
        have hmul := roundHalfEven_mul (@Nat.pow_pos 2 k (by decide)) 0
        rwa [Nat.zero_mul] at hmul
      have hbits := h.lastBits_mod
      rw [hedge, Nat.add_zero] at hbits
      rw [h.micros_exact hk, hedge, Nat.zero_mul, hround, Nat.add_zero,
        h.overThousand, hbits]
      unfold timestampOf
      apply roundRatio_of_fits (by decide) (by omega)
      rw [h.doubleOne]
      ring
    · have hdvd : forall m, k ≤ m -> lastBits n k ≠ 2 ^ m := by
        intro m hm heq
        apply hedge
        rw [heq]
        exact Nat.mod_eq_zero_of_dvd (Nat.pow_dvd_pow 2 hm)
      have hleast := hdvd 52 (by omega)
      have hmost := hdvd 53 (by omega)
      rcases h.micros_near hk with ⟨hle, hge⟩
      have hround : roundHalfEven
          (microsOfMagnitude (Python.overThousand n) * 2 ^ k) 1000000 =
            lastBits n k := by
        apply roundHalfEven_eq
        · omega
        · omega
      unfold timestampOf
      rw [roundRatio_eq (h.most.trans (by decide)) (by omega) (by omega), hround,
        h.overThousand]
  · rw [h.micros_eq hk]
    exact (congrArg (fun m => roundRatio m (1000 * 1000)) (Nat.mul_comm 1000 n)).trans
      (roundRatio_mul_mul (by decide))

theorem Kept.micros_le (h : Kept n k) :
    microsOfMagnitude (Python.overThousand n) ≤ 1000 * n + 999 := by
  rcases Nat.lt_or_ge k 20 with hk | hk
  · have hpow : 2 ^ 14 ≤ 2 ^ k := Nat.pow_le_pow_right (by decide) h.least
    have hlow := lastBits_le n k
    rcases h.micros_near hk with ⟨hle, _⟩
    by_contra hgt
    have hmul : (1000 * n + 1000) * 2 ^ k ≤
        microsOfMagnitude (Python.overThousand n) * 2 ^ k :=
      Nat.mul_le_mul_right _ (by omega)
    have hexpand : (1000 * n + 1000) * 2 ^ k =
        1000 * (n * 2 ^ k) + 1000 * 2 ^ k := by ring
    omega
  · rw [h.micros_eq hk]
    omega

end Moment

/-!
## The product
-/

section Product

variable {n k : Nat}

theorem Kept.timesThousand (h : Kept n k) :
    timesThousand (Python.overThousand n) =
      roundRatio (1000 * lastBits n k) (2 ^ k) := by
  have hpos : 0 < 2 ^ (1074 - k) := Nat.pow_pos (by decide)
  unfold Python.timesThousand
  rw [h.overThousand, h.doubleOne, Nat.mul_right_comm, roundRatio_mul_mul hpos,
    Nat.mul_comm]

theorem Kept.product_lt (h : Kept n k) (hn : n < 2 ^ 48) :
    Python.timesThousand (Python.overThousand n) < (n + 1) * Python.doubleOne := by
  have hpow : 2 ^ 14 ≤ 2 ^ k := Nat.pow_le_pow_right (by decide) h.least
  have hpos : 0 < 2 ^ k := Nat.pow_pos (by decide)
  have hlow := lastBits_le n k
  have hone := doubleOne_split (show 1 ≤ 1074 by decide)
  generalize 1074 - 1 = e at hone
  have hunit : 0 < 2 ^ e := Nat.pow_pos (by decide)
  have hround : roundRatio (1000 * lastBits n k) (2 ^ k) ≤ (2 * n + 1) * 2 ^ e := by
    apply roundRatio_le_of_le hpos (by omega)
    have hmul : (2 * n + 1) * 2 ^ k = 2 * (n * 2 ^ k) + 2 ^ k := by ring
    rw [hone, ← Nat.mul_assoc, Nat.mul_right_comm _ (2 ^ e), hmul]
    exact Nat.mul_le_mul_right _ (by omega)
  rw [h.timesThousand]
  calc roundRatio (1000 * lastBits n k) (2 ^ k) ≤ (2 * n + 1) * 2 ^ e := hround
    _ < (2 * n + 2) * 2 ^ e := Nat.mul_lt_mul_of_pos_right (by omega) hunit
    _ = (n + 1) * Python.doubleOne := by rw [hone]; ring

theorem Kept.le_product (h : Kept n k) (hn : n < 2 ^ 48)
    (hup : n * 2 ^ k ≤ 1000 * lastBits n k) :
    n * Python.doubleOne ≤ Python.timesThousand (Python.overThousand n) := by
  rw [h.timesThousand]
  exact whole_le_roundRatio (Nat.pow_pos (by decide)) (by omega) hup

/-- A quotient that was rounded down comes back if the product rounds up again. -/
theorem Kept.le_product_iff (h : Kept n k) (hn : n < 2 ^ 48)
    (hne : n ≠ 2 ^ n.log2) {r : Nat} (hr : r ≤ 500)
    (hdown : 1000 * lastBits n k + r = n * 2 ^ k) :
    n * Python.doubleOne ≤ Python.timesThousand (Python.overThousand n) <->
      2 * r * 2 ^ (52 - n.log2) ≤ 2 ^ k := by
  have hpos : 0 < n := by
    apply Nat.pos_of_ne_zero
    intro hzero
    have hlow := h.low
    simp [hzero] at hlow
  have hlow : 2 ^ n.log2 ≤ n := Nat.log2_self_le hpos.ne'
  have hhigh : n < 2 ^ (n.log2 + 1) := Nat.lt_log2_self
  have hlog : n.log2 < 48 := (Nat.log2_lt hpos.ne').mpr hn
  have hpow : 2 ^ 14 ≤ 2 ^ k := Nat.pow_le_pow_right (by decide) h.least
  have hbits : 2 ^ n.log2 * 2 ^ (52 - n.log2) = 2 ^ 52 := by
    rw [← pow_add]
    exact congrArg _ (by omega)
  have heven : n * 2 ^ (52 - n.log2) % 2 = 0 := by
    have hstep : 2 ^ (52 - n.log2) = 2 * 2 ^ (51 - n.log2) := by
      rw [← pow_succ']
      exact congrArg _ (by omega)
    rw [hstep, Nat.mul_left_comm]
    exact Nat.mul_mod_right 2 _
  have hsize : 2 ^ n.log2 * 2 ^ k + 2 ^ k ≤ n * 2 ^ k := by
    rw [← Nat.succ_mul]
    exact Nat.mul_le_mul_right _ (by omega)
  have hupper : n * 2 ^ k < 2 * (2 ^ n.log2 * 2 ^ k) := by
    rw [pow_succ'] at hhigh
    rw [← Nat.mul_assoc]
    exact Nat.mul_lt_mul_of_pos_right hhigh (by omega)
  have hunit : 0 < 2 ^ (52 - n.log2) := Nat.pow_pos (by decide)
  generalize hj : n.log2 = j at *
  have hround : roundRatio (1000 * lastBits n k) (2 ^ k) =
      roundHalfEven (1000 * lastBits n k * 2 ^ (52 - j)) (2 ^ k) *
        2 ^ (1074 - (52 - j)) := by
    apply roundRatio_eq (by omega)
    · calc 2 ^ 52 * 2 ^ k = 2 ^ j * 2 ^ k * 2 ^ (52 - j) := by rw [← hbits]; ring
        _ ≤ 1000 * lastBits n k * 2 ^ (52 - j) :=
            Nat.mul_le_mul_right _ (by omega)
    · calc 1000 * lastBits n k * 2 ^ (52 - j)
          < 2 * (2 ^ j * 2 ^ k) * 2 ^ (52 - j) :=
            Nat.mul_lt_mul_of_pos_right (by omega) hunit
        _ = 2 * 2 ^ 52 * 2 ^ k := by rw [← hbits]; ring
        _ = 2 ^ 53 * 2 ^ k := rfl
  have hone : Python.doubleOne = 2 ^ (52 - j) * 2 ^ (1074 - (52 - j)) :=
    doubleOne_split (by omega)
  have hexpand : n * 2 ^ (52 - j) * 2 ^ k =
      1000 * lastBits n k * 2 ^ (52 - j) + r * 2 ^ (52 - j) := by
    rw [Nat.mul_right_comm, ← hdown, Nat.add_mul]
  rw [h.timesThousand, hround, hone, ← Nat.mul_assoc,
    Nat.mul_le_mul_right_iff (Nat.pow_pos (by decide)),
    le_roundHalfEven_iff (by omega) heven, hexpand, Nat.mul_assoc 2 r]
  omega

end Product

/-!
## What comes back
-/

section Return

variable {n k : Nat}

theorem lastBits_up (h : 500 < n * 2 ^ k % 1000) :
    n * 2 ^ k ≤ 1000 * lastBits n k := by
  unfold lastBits roundHalfEven
  rw [if_neg (by omega), if_pos (by omega)]
  omega

theorem lastBits_down (h : n * 2 ^ k % 1000 < 500) :
    1000 * lastBits n k + n * 2 ^ k % 1000 = n * 2 ^ k := by
  unfold lastBits roundHalfEven
  rw [if_pos (by omega)]
  omega

/-- The rest is a multiple of eight, so there are no ties. -/
theorem Kept.rest_ne (h : Kept n k) : n * 2 ^ k % 1000 ≠ 500 := by
  have hpow : 2 ^ k = 8 * 2 ^ (k - 3) := by
    have hsplit : 2 ^ k = 2 ^ 3 * 2 ^ (k - 3) := by
      rw [← pow_add, Nat.add_sub_cancel' ((by decide : 3 ≤ 14).trans h.least)]
    exact hsplit
  rw [hpow, Nat.mul_left_comm]
  omega

theorem rest_of_power (hn : n = 2 ^ n.log2) (h : n < 2 ^ 48) :
    500 < n * 2 ^ keptBits n % 1000 := by
  have hpos : 0 < n := by
    rw [hn]
    exact Nat.pow_pos (by decide)
  have hlog : n.log2 < 48 := (Nat.log2_lt hpos.ne').mpr h
  have hbits : keptBits n = 62 - n.log2 := if_neg (by omega)
  have hpow : n * 2 ^ (62 - n.log2) = 2 ^ 62 := by
    calc n * 2 ^ (62 - n.log2) = 2 ^ n.log2 * 2 ^ (62 - n.log2) := by rw [← hn]
      _ = 2 ^ 62 := by
          rw [← pow_add]
          exact congrArg _ (by omega)
  rw [hbits, hpow]
  decide

theorem le_product_iff_not_fallsShort (hn : 0 < n) (h : n < 2 ^ 48) :
    n * doubleOne ≤ timesThousand (overThousand n) <-> ¬ FallsShort n := by
  have hkept := kept_keptBits hn h
  have hlog : n.log2 < 48 := (Nat.log2_lt hn.ne').mpr h
  have htie := hkept.rest_ne
  rcases Nat.lt_or_ge 500 (n * 2 ^ keptBits n % 1000) with hup | hdown
  · refine iff_of_true (hkept.le_product h (lastBits_up hup)) ?_
    intro hparts
    rcases hparts with ⟨hupper, _, hshort⟩
    rw [keptBits, if_pos hupper] at hup
    omega
  · have hne : n ≠ 2 ^ n.log2 := by
      intro heq
      have hpower := rest_of_power heq h
      omega
    rw [hkept.le_product_iff h hne hdown (lastBits_down (by omega))]
    unfold FallsShort
    by_cases hupper : 125 * 2 ^ n.log2 ≤ 64 * n
    · have hbits : keptBits n = 61 - n.log2 := if_pos hupper
      rw [hbits] at htie hdown ⊢
      have hpow : 2 ^ (61 - n.log2) = 2 ^ 9 * 2 ^ (52 - n.log2) := by
        rw [← pow_add]
        exact congrArg _ (by omega)
      have hpos : 0 < 2 ^ (52 - n.log2) := Nat.pow_pos (by decide)
      generalize n * 2 ^ (61 - n.log2) % 1000 = r at *
      rw [hpow, Nat.mul_le_mul_right_iff hpos]
      omega
    · have hbits : keptBits n = 62 - n.log2 := if_neg hupper
      rw [hbits] at hdown ⊢
      have hpow : 2 ^ (62 - n.log2) = 2 ^ 10 * 2 ^ (52 - n.log2) := by
        rw [← pow_add]
        exact congrArg _ (by omega)
      refine iff_of_true ?_ (fun hshort => hupper hshort.1)
      generalize n * 2 ^ (62 - n.log2) % 1000 = r at *
      rw [hpow]
      exact Nat.mul_le_mul_right _ (by omega)

/-- The number of milliseconds of the datetime made of some milliseconds. -/
theorem truncMagnitude_eq_iff (hn : 0 < n) (h : n < 2 ^ 48) :
    truncMagnitude (timesThousand
        (timestampOf (microsOfMagnitude (overThousand n)))) = n <->
      ¬ FallsShort n := by
  have hkept := kept_keptBits hn h
  rw [hkept.timestampOf_micros, ← le_product_iff_not_fallsShort hn h]
  unfold truncMagnitude
  rw [← Nat.le_div_iff_mul_le doubleOne_pos]
  have hlt := (Nat.div_lt_iff_lt_mul doubleOne_pos).mpr (hkept.product_lt h)
  omega

theorem overThousand_zero : overThousand 0 = 0 := by
  simp [overThousand, roundRatio, roundHalfEven]

theorem inRange_micros_iff :
    InRange (microsOfMagnitude (overThousand n)) <-> n ≤ lastMillis := by
  have hrange : InRange (microsOfMagnitude (overThousand n)) <->
      microsOfMagnitude (overThousand n) ≤ 1000 * lastMillis + 999 := by
    unfold InRange minMicros maxMicros epochOrdinal lastOrdinal microsPerDay
      lastMillis
    omega
  rw [hrange]
  rcases Nat.lt_or_ge lastMillis n with hlate | hin
  · refine iff_of_false ?_ (by omega)
    have hquot : 253402300800 * doubleOne ≤ overThousand n := by
      apply whole_le_roundRatio (by decide) (by decide)
      unfold lastMillis at hlate
      omega
    have hdiv : 253402300800 ≤ overThousand n / doubleOne :=
      (Nat.le_div_iff_mul_le doubleOne_pos).mpr hquot
    unfold microsOfMagnitude lastMillis
    omega
  · refine iff_of_true ?_ hin
    rcases Nat.eq_zero_or_pos n with rfl | hpos
    · have hzero := microsOfMagnitude_whole 0
      simp only [Nat.zero_mul] at hzero
      rw [overThousand_zero, hzero]
      exact Nat.zero_le _
    · have hle := (kept_keptBits hpos (by unfold lastMillis at hin; omega)).micros_le
      omega

end Return

end Python
end EidolonSdk
