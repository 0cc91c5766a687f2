import EidolonSdk.Python.Text

/-!
# Decimal text

The text of an integer: its characters, and that it tells integers apart.
-/

namespace EidolonSdk
namespace Python

/-- `str(n)`. -/
def intText (n : Int) : PyStr :=
  str (toString n)

def naturalText (n : Nat) : PyStr :=
  (Nat.toDigits 10 n).map codePoint

theorem intText_nonneg {n : Int} (h : 0 ≤ n) :
    intText n = naturalText n.toNat := by
  unfold intText naturalText str
  rw [Int.toString_eq_repr, Int.repr_eq_if, if_pos h, Nat.toList_repr]

theorem intText_neg {n : Int} (h : ¬ 0 ≤ n) :
    intText n = codePoint '-' :: naturalText (-n).toNat := by
  unfold intText naturalText str
  rw [Int.toString_eq_repr, Int.repr_eq_if, if_neg h, String.toList_append,
    Nat.toList_repr, List.map_append]
  rfl

/-- One of the ten digits. -/
def IsDecimalDigit (c : CodePoint) : Prop :=
  0x30 ≤ c.val ∧ c.val ≤ 0x39

instance (c : CodePoint) : Decidable (IsDecimalDigit c) :=
  inferInstanceAs (Decidable (_ ∧ _))

theorem mem_naturalText {n : Nat} {c : CodePoint} (h : c ∈ naturalText n) :
    IsDecimalDigit c := by
  rcases List.mem_map.mp h with ⟨d, hd, heq⟩
  have hdigit := Nat.isDigit_of_mem_toDigits (by decide) (le_refl 10) hd
  rcases Bool.and_eq_true_iff.mp hdigit with ⟨hlow, hhigh⟩
  rw [← heq]
  exact ⟨of_decide_eq_true hlow, of_decide_eq_true hhigh⟩

theorem naturalText_inj {m n : Nat} : naturalText m = naturalText n <-> m = n := by
  constructor
  · intro h
    have hdigits := List.map_injective_iff.mpr codePoint_inj h
    rw [← Nat.ofDigitChars_ten_toDigits (n := m), hdigits,
      Nat.ofDigitChars_ten_toDigits]
  · intro h
    rw [h]

theorem naturalText_ne_nil (n : Nat) : naturalText n ≠ [] := by
  intro h
  exact Nat.toDigits_ne_nil (List.map_eq_nil_iff.mp h)

theorem mem_intText {n : Int} {c : CodePoint} (h : c ∈ intText n) :
    c = codePoint '-' ∨ IsDecimalDigit c := by
  by_cases hn : 0 ≤ n
  · rw [intText_nonneg hn] at h
    exact Or.inr (mem_naturalText h)
  · rw [intText_neg hn] at h
    rcases List.mem_cons.mp h with heq | h
    · exact Or.inl heq
    · exact Or.inr (mem_naturalText h)

theorem not_digit_minus : ¬ IsDecimalDigit (codePoint '-') := by
  intro h
  have hlow : 0x30 ≤ 0x2D := h.left
  omega

/-- Natural numbers are told from negative ones by the first character. -/
theorem naturalText_ne_minus {n : Nat} {rest : PyStr} :
    naturalText n ≠ codePoint '-' :: rest := by
  intro h
  have hmem : codePoint '-' ∈ naturalText n := by
    rw [h]
    exact List.mem_cons_self
  exact not_digit_minus (mem_naturalText hmem)

@[simp] theorem intText_inj {m n : Int} : intText m = intText n <-> m = n := by
  constructor
  · intro h
    by_cases hm : 0 ≤ m
    · rw [intText_nonneg hm] at h
      by_cases hn : 0 ≤ n
      · rw [intText_nonneg hn, naturalText_inj] at h
        omega
      · rw [intText_neg hn] at h
        exact absurd h naturalText_ne_minus
    · rw [intText_neg hm] at h
      by_cases hn : 0 ≤ n
      · rw [intText_nonneg hn] at h
        exact absurd h.symm naturalText_ne_minus
      · rw [intText_neg hn, List.cons.injEq, naturalText_inj] at h
        omega
  · intro h
    rw [h]

theorem intText_ne_nil (n : Int) : intText n ≠ [] := by
  by_cases hn : 0 ≤ n
  · rw [intText_nonneg hn]
    exact naturalText_ne_nil n.toNat
  · rw [intText_neg hn]
    exact List.cons_ne_nil _ _

end Python
end EidolonSdk
