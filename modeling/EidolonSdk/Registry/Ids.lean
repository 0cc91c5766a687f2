import EidolonSdk.Python.Json
import EidolonSdk.Python.Regex

/-!
# Registry identifiers

The portable identifiers of the registry, and the check every one of them passes.
The pattern is anchored with {lit}`$` and asked with {lit}`match`, so it takes an
identifier with a newline behind it for an identifier.
-/

namespace EidolonSdk
namespace Registry

open Python

/-- `[A-Za-z0-9_-]`. -/
def isIdChar (c : CodePoint) : Bool :=
  (0x41 ≤ c.val && c.val ≤ 0x5A) || (0x61 ≤ c.val && c.val ≤ 0x7A) ||
    (0x30 ≤ c.val && c.val ≤ 0x39) || c.val == 0x5F || c.val == 0x2D

/-- `ID_PATTERN`. -/
def idPattern : Regex :=
  Regex.anchored isIdChar 1 (some 64)

section Validate

variable (I : Interpreter)

/-- The text of the `ValueError`. -/
def refusalText (fieldName value : PyStr) : PyStr :=
  fieldName ++ str " must be 1-64 chars of [A-Za-z0-9_-]; got " ++ Json.reprStr I value

/-- `validate_registry_id`; the error is a `ValueError`. -/
def validateRegistryId (value fieldName : PyStr) : Except PyStr PyStr :=
  if idPattern.isMatch value = false then .error (refusalText I fieldName value)
  else .ok value

/-!
## The portable language
-/

/-- Between 1 and 64 characters, all of them portable. -/
def Portable (s : PyStr) : Prop :=
  1 ≤ s.length ∧ s.length ≤ 64 ∧ forall c, c ∈ s -> isIdChar c = true

instance (s : PyStr) : Decidable (Portable s) :=
  inferInstanceAs (Decidable (_ ∧ _ ∧ _))

theorem isRun_iff_portable {s : PyStr} :
    Regex.IsRun isIdChar 1 (some 64) s <-> Portable s := by
  simp [Regex.IsRun, Regex.Admits, Portable, and_comm, and_assoc]

theorem isMatch_idPattern {s : PyStr} :
    idPattern.isMatch s = true <->
      exists t, Portable t ∧ (s = t ∨ s = t ++ [newline]) := by
  simp only [idPattern, Regex.isMatch_anchored, isRun_iff_portable]

theorem not_portable_newline (t : PyStr) : ¬ Portable (t ++ [newline]) := by
  intro h
  have hchar := h.right.right newline (List.mem_append_right t List.mem_cons_self)
  exact absurd hchar (by decide)

theorem validateRegistryId_eq_ok {fieldName s r : PyStr} :
    validateRegistryId I s fieldName = .ok r <->
      idPattern.isMatch s = true ∧ s = r := by
  unfold validateRegistryId
  cases idPattern.isMatch s with
  | false => simp
  | true => simp

theorem validateRegistryId_eq_error {fieldName s text : PyStr} :
    validateRegistryId I s fieldName = .error text <->
      idPattern.isMatch s = false ∧ refusalText I fieldName s = text := by
  unfold validateRegistryId
  cases idPattern.isMatch s with
  | false => simp
  | true => simp

/-- The portable strings are returned and all others are refused. -/
def Accepts (fieldName s : PyStr) : Prop :=
  (validateRegistryId I s fieldName = .ok s <-> Portable s) ∧
    (¬ Portable s -> validateRegistryId I s fieldName =
      .error (refusalText I fieldName s))

/-- The check and the language differ on a portable string with a newline behind
it, and there only. -/
theorem validate_registry_id_iff (fieldName s : PyStr) :
    Accepts I fieldName s <-> ¬ exists t, Portable t ∧ s = t ++ [newline] := by
  constructor
  · intro h hline
    rcases hline with ⟨t, ht, hs⟩
    have hmatch : idPattern.isMatch s = true :=
      isMatch_idPattern.mpr ⟨t, ht, Or.inr hs⟩
    have hportable : Portable s :=
      h.left.mp ((validateRegistryId_eq_ok I).mpr ⟨hmatch, rfl⟩)
    rw [hs] at hportable
    exact not_portable_newline t hportable
  · intro hline
    have hmatch : idPattern.isMatch s = true <-> Portable s := by
      rw [isMatch_idPattern]
      constructor
      · intro hparts
        rcases hparts with ⟨t, ht, hs | hs⟩
        · exact hs ▸ ht
        · exact absurd ⟨t, ht, hs⟩ hline
      · exact fun h => ⟨s, h, Or.inl rfl⟩
    constructor
    · rw [validateRegistryId_eq_ok, and_iff_left rfl]
      exact hmatch
    · intro hnot
      rw [validateRegistryId_eq_error, and_iff_left rfl, ← Bool.not_eq_true, hmatch]
      exact hnot

/-- An identifier and a newline. -/
theorem not_validate_registry_id :
    ¬ forall (I : Interpreter) (fieldName s : PyStr), Accepts I fieldName s := by
  intro h
  have hlamp : Portable (str "lamp") :=
    ⟨by decide, by decide, List.all_eq_true.mp (by decide)⟩
  have hmatch : idPattern.isMatch (str "lamp" ++ [newline]) = true :=
    isMatch_idPattern.mpr ⟨str "lamp", hlamp, Or.inr rfl⟩
  have hreturned : validateRegistryId asciiInterpreter (str "lamp" ++ [newline])
      (str "id") = .ok (str "lamp" ++ [newline]) :=
    (validateRegistryId_eq_ok asciiInterpreter).mpr ⟨hmatch, rfl⟩
  exact not_portable_newline (str "lamp")
    ((h asciiInterpreter (str "id") (str "lamp" ++ [newline])).left.mp hreturned)

end Validate

end Registry
end EidolonSdk
