import EidolonSdk.Python.JsonText

/-!
# Floats in units

Every float is a whole number of least subnormals.  An interpreter that writes
this number for the text of a float tells all of them apart.
-/

namespace EidolonSdk
namespace Python

/-- Floats in units of the least subnormal, and one as it is usually written. -/
def unitsRepr : Double -> String
  | .finite negative magnitude _ =>
      if negative = false ∧ magnitude = roundRatio 5 100 then "0.05"
      else (if negative then "-" else "") ++ toString magnitude ++ "e0"
  | .infinite negative => if negative then "-inf" else "inf"
  | .nan => "nan"

def unitsInterpreter : Interpreter :=
  { asciiInterpreter with floatRepr := unitsRepr }

section Units

variable {negative : Bool} {magnitude : Nat} {representable : Representable magnitude}

def signText (negative : Bool) : PyStr :=
  if negative then [codePoint '-'] else []

/-- The text of a float other than the usual one. -/
theorem unitsRepr_other (h : ¬ (negative = false ∧ magnitude = roundRatio 5 100)) :
    str (unitsRepr (.finite negative magnitude representable)) =
      signText negative ++ (naturalText magnitude ++ str "e0") := by
  unfold unitsRepr
  simp only [if_neg h]
  cases negative with
  | false => simp [str, naturalText, signText, Nat.toString_eq_repr]
  | true => simp [str, naturalText, signText, Nat.toString_eq_repr]

theorem unitsRepr_usual (h : negative = false ∧ magnitude = roundRatio 5 100) :
    str (unitsRepr (.finite negative magnitude representable)) = str "0.05" := by
  unfold unitsRepr
  simp only [if_pos h]

theorem mem_unitsRepr_other {c : CodePoint}
    (h : c ∈ signText negative ++ (naturalText magnitude ++ str "e0")) :
    IsDecimalDigit c ∨ c = codePoint '-' ∨ c = codePoint 'e' := by
  rcases List.mem_append.mp h with h | h
  · cases negative with
    | false => cases h
    | true => exact Or.inr (Or.inl (List.mem_singleton.mp h))
  · rcases List.mem_append.mp h with h | h
    · exact Or.inl (mem_naturalText h)
    · have hmem : c ∈ [codePoint 'e', codePoint '0'] := h
      rcases List.mem_cons.mp hmem with heq | hmem
      · exact Or.inr (Or.inr heq)
      · rw [List.mem_singleton.mp hmem]
        exact Or.inl (by decide)

theorem unitsRepr_ne_usual :
    str "0.05" ≠ signText negative ++ (naturalText magnitude ++ str "e0") := by
  intro h
  have hmem : codePoint '.' ∈ str "0.05" := by decide
  rw [h] at hmem
  rcases mem_unitsRepr_other hmem with hdigit | heq | heq
  · exact absurd hdigit (by decide)
  · exact absurd heq (by decide)
  · exact absurd heq (by decide)

theorem unitsRepr_other_inj {negative' : Bool} {magnitude' : Nat}
    (h : signText negative ++ (naturalText magnitude ++ str "e0") =
      signText negative' ++ (naturalText magnitude' ++ str "e0")) :
    negative = negative' ∧ magnitude = magnitude' := by
  rw [← List.append_assoc, ← List.append_assoc] at h
  have hsigned := List.append_cancel_right h
  cases negative with
  | false =>
      cases negative' with
      | false => exact ⟨rfl, naturalText_inj.mp hsigned⟩
      | true => exact absurd hsigned naturalText_ne_minus
  | true =>
      cases negative' with
      | false => exact absurd hsigned.symm naturalText_ne_minus
      | true => exact ⟨rfl, naturalText_inj.mp (List.cons.inj hsigned).right⟩

theorem floatTexts_unitsInterpreter : Json.FloatTexts unitsInterpreter where
  numeral negative magnitude representable c hc := by
    by_cases h : negative = false ∧ magnitude = roundRatio 5 100
    · have hall : (str "0.05").all (fun c => decide (Json.IsNumeral c)) = true := by
        decide
      rw [show str (unitsInterpreter.floatRepr _) = _ from unitsRepr_usual h] at hc
      exact of_decide_eq_true (List.all_eq_true.mp hall c hc)
    · rw [show str (unitsInterpreter.floatRepr _) = _ from unitsRepr_other h] at hc
      rcases mem_unitsRepr_other hc with hdigit | heq | heq
      · exact Or.inl hdigit
      · rw [heq]
        decide
      · rw [heq]
        decide
  marked negative magnitude representable := by
    by_cases h : negative = false ∧ magnitude = roundRatio 5 100
    · rw [show str (unitsInterpreter.floatRepr _) = _ from unitsRepr_usual h]
      exact ⟨codePoint '.', by decide, by decide⟩
    · rw [show str (unitsInterpreter.floatRepr _) = _ from unitsRepr_other h]
      refine ⟨codePoint 'e', ?_, by decide⟩
      apply List.mem_append_right
      apply List.mem_append_right
      exact List.mem_cons_self
  injective negative magnitude representable negative' magnitude' representable'
      heq := by
    have htext := str_inj.mpr heq
    by_cases h : negative = false ∧ magnitude = roundRatio 5 100
    · rw [show str (unitsInterpreter.floatRepr _) = _ from unitsRepr_usual h] at htext
      by_cases h' : negative' = false ∧ magnitude' = roundRatio 5 100
      · exact ⟨h.left.trans h'.left.symm, h.right.trans h'.right.symm⟩
      · rw [show str (unitsInterpreter.floatRepr _) = _ from unitsRepr_other h'] at htext
        exact absurd htext unitsRepr_ne_usual
    · rw [show str (unitsInterpreter.floatRepr _) = _ from unitsRepr_other h] at htext
      by_cases h' : negative' = false ∧ magnitude' = roundRatio 5 100
      · rw [show str (unitsInterpreter.floatRepr _) = _ from unitsRepr_usual h'] at htext
        exact absurd htext.symm unitsRepr_ne_usual
      · rw [show str (unitsInterpreter.floatRepr _) = _ from unitsRepr_other h'] at htext
        exact unitsRepr_other_inj htext

end Units

end Python
end EidolonSdk
