import Mathlib.Data.List.DropRight
import Mathlib.Data.Set.Function

/-!
# Python text

A Python string is a sequence of code points, lone surrogates included: a JSON
document may spell one as an escape, and only encoding the string to UTF-8
refuses it.  Strings are therefore lists over all code points, and being
encodable is a property of a string rather than of its type.
-/

namespace EidolonSdk
namespace Python

abbrev CodePoint := Fin 0x110000

abbrev PyStr := List CodePoint

instance neZeroCodePoints : @NeZero Nat Zero.ofOfNat0 0x110000 := ⟨by decide⟩

instance lawfulBEqCodePoint : LawfulBEq CodePoint := inferInstance

instance lawfulBEqPyStr : LawfulBEq PyStr := inferInstance

def codePoint (c : Char) : CodePoint :=
  ⟨c.toNat, by
    rcases c.valid with h | h
    · have h' : c.toNat < 0xD800 := h
      omega
    · exact h.right⟩

theorem codePoint_inj : Function.Injective codePoint := by
  intro a b h
  have hval : a.toNat = b.toNat := by
    simpa [codePoint] using h
  exact Char.toNat_inj.mp hval

/-- A literal of the source. -/
def str (s : String) : PyStr :=
  s.toList.map codePoint

@[simp] theorem str_inj {a b : String} : str a = str b <-> a = b := by
  constructor
  · intro h
    exact String.toList_inj.mp (List.map_injective_iff.mpr codePoint_inj h)
  · intro h
    rw [h]

@[simp] theorem str_eq_nil {a : String} : str a = [] <-> a = "" :=
  str_inj (b := "")

/-- Looking up a literal among literals. -/
theorem lookup_str_cons {α : Type} (name key : String) (v : α)
    (rest : List (PyStr × α)) :
    ((str name, v) :: rest).lookup (str key) =
      if key = name then some v else rest.lookup (str key) := by
  by_cases h : key = name
  · subst h
    simp
  · have hne : (str key == str name) = false := by
      simpa using h
    simp [List.lookup_cons, hne, h]

/-!
## Encodable strings
-/

def Surrogate (c : CodePoint) : Prop :=
  0xD800 ≤ c.val ∧ c.val ≤ 0xDFFF

instance (c : CodePoint) : Decidable (Surrogate c) :=
  inferInstanceAs (Decidable (_ ∧ _))

/-- The strings UTF-8 can carry. -/
def Encodable (s : PyStr) : Prop :=
  forall c, c ∈ s -> ¬ Surrogate c

instance (s : PyStr) : Decidable (Encodable s) :=
  List.decidableBAll _ s

theorem surrogate_codePoint (c : Char) : ¬ Surrogate (codePoint c) := by
  intro h
  have hvalid : c.toNat < 0xD800 ∨ 0xDFFF < c.toNat ∧ c.toNat < 0x110000 :=
    c.valid
  have hlow : 0xD800 ≤ c.toNat := h.left
  have hhigh : c.toNat ≤ 0xDFFF := h.right
  omega

@[simp] theorem encodable_nil : Encodable [] := by
  intro c hc
  cases hc

@[simp] theorem encodable_append {s t : PyStr} :
    Encodable (s ++ t) <-> Encodable s ∧ Encodable t := by
  simp only [Encodable, List.mem_append, or_imp, forall_and]

@[simp] theorem encodable_cons {c : CodePoint} {s : PyStr} :
    Encodable (c :: s) <-> ¬ Surrogate c ∧ Encodable s := by
  simp [Encodable]

@[simp] theorem encodable_str (s : String) : Encodable (str s) := by
  intro c hc
  rcases List.mem_map.mp hc with ⟨d, _, rfl⟩
  exact surrogate_codePoint d

/-!
## Whitespace
-/

/-- `str.isspace` of one character. -/
def isSpace (c : CodePoint) : Bool :=
  (0x9 ≤ c.val && c.val ≤ 0xd) || (0x1c ≤ c.val && c.val ≤ 0x20) ||
    c.val == 0x85 || c.val == 0xa0 || c.val == 0x1680 ||
    (0x2000 ≤ c.val && c.val ≤ 0x200a) || c.val == 0x2028 ||
    c.val == 0x2029 || c.val == 0x202f || c.val == 0x205f || c.val == 0x3000

theorem not_surrogate_of_isSpace {c : CodePoint} (h : isSpace c = true) :
    ¬ Surrogate c := by
  intro hs
  simp only [isSpace, Bool.or_eq_true, Bool.and_eq_true, decide_eq_true_eq,
    beq_iff_eq] at h
  unfold Surrogate at hs
  omega

/-- `str.strip` without an argument. -/
def strip (s : PyStr) : PyStr :=
  (s.dropWhile isSpace).rdropWhile isSpace

/-- What `strip` takes off is whitespace, on both sides. -/
theorem exists_strip_append (s : PyStr) :
    exists front back : PyStr,
      (forall c, c ∈ front -> isSpace c = true) ∧
        (forall c, c ∈ back -> isSpace c = true) ∧
        s = front ++ (strip s ++ back) := by
  refine ⟨s.takeWhile isSpace, (s.dropWhile isSpace).rtakeWhile isSpace,
    fun c hc => List.mem_takeWhile_imp hc, ?_, ?_⟩
  · intro c hc
    have hc' : c ∈ (s.dropWhile isSpace).reverse.takeWhile isSpace := by
      simpa [List.rtakeWhile] using hc
    exact List.mem_takeWhile_imp hc'
  · have hdrop : strip s ++ (s.dropWhile isSpace).rtakeWhile isSpace =
        s.dropWhile isSpace := by
      unfold strip List.rdropWhile List.rtakeWhile
      rw [← List.reverse_append, List.takeWhile_append_dropWhile,
        List.reverse_reverse]
    rw [hdrop, List.takeWhile_append_dropWhile]

theorem encodable_strip {s : PyStr} : Encodable (strip s) <-> Encodable s := by
  rcases exists_strip_append s with ⟨front, back, hfront, hback, hs⟩
  have hf : Encodable front := fun c hc => not_surrogate_of_isSpace (hfront c hc)
  have hb : Encodable back := fun c hc => not_surrogate_of_isSpace (hback c hc)
  constructor
  · intro h
    rw [hs]
    simp [hf, hb, h]
  · intro h
    rw [hs] at h
    simp [hf, hb] at h
    exact h

theorem strip_eq_self {s : PyStr} (h : forall c, c ∈ s -> isSpace c = false) :
    strip s = s := by
  have hdrop : s.dropWhile isSpace = s := by
    apply List.dropWhile_eq_self_iff.mpr
    intro hpos
    simp [h _ (List.getElem_mem hpos)]
  unfold strip
  rw [hdrop]
  apply List.rdropWhile_eq_self_iff.mpr
  intro hne
  simp [h _ (List.getLast_mem hne)]

@[simp] theorem strip_strip (s : PyStr) : strip (strip s) = strip s := by
  have hdrop : (strip s).dropWhile isSpace = strip s := by
    apply List.dropWhile_eq_self_iff.mpr
    intro hpos
    -- The first character that is left is the first one that was not dropped.
    have hprefix : strip s <+: s.dropWhile isSpace :=
      List.rdropWhile_prefix isSpace _
    have hpos' : 0 < (s.dropWhile isSpace).length :=
      lt_of_lt_of_le hpos hprefix.length_le
    have hhead : (strip s)[0] = (s.dropWhile isSpace)[0] :=
      hprefix.getElem hpos
    rw [hhead]
    exact List.dropWhile_eq_self_iff.mp (List.dropWhile_idempotent isSpace s) hpos'
  show ((strip s).dropWhile isSpace).rdropWhile isSpace = strip s
  rw [hdrop]
  exact List.rdropWhile_idempotent isSpace _

/-!
## Taking strings apart
-/

def startsWith (s start : PyStr) : Bool :=
  start.isPrefixOf s

/-- `str.partition` at a one-character separator. -/
def partition (s : PyStr) (sep : CodePoint) : PyStr × PyStr × PyStr :=
  match s.dropWhile (fun c => c != sep) with
  | [] => (s, [], [])
  | c :: rest => (s.takeWhile (fun c => c != sep), [c], rest)

theorem partition_append {s rest : PyStr} {sep : CodePoint}
    (h : sep ∉ s) :
    partition (s ++ sep :: rest) sep = (s, [sep], rest) := by
  have hs : forall c, c ∈ s -> (c != sep) = true := by
    intro c hc
    have hne : c ≠ sep := by
      intro heq
      exact h (heq ▸ hc)
    simpa using hne
  unfold partition
  rw [List.dropWhile_append_of_pos hs, List.takeWhile_append_of_pos hs]
  simp

/-- `str.rpartition` at a one-character separator. -/
def rpartition (s : PyStr) (sep : CodePoint) : PyStr × PyStr × PyStr :=
  match partition s.reverse sep with
  | (back, [], _) => ([], [], back.reverse)
  | (back, found, front) => (front.reverse, found, back.reverse)

theorem rpartition_append {s rest : PyStr} {sep : CodePoint}
    (h : sep ∉ rest) :
    rpartition (s ++ sep :: rest) sep = (s, [sep], rest) := by
  have hreverse : (s ++ sep :: rest).reverse =
      rest.reverse ++ sep :: s.reverse := by
    simp
  have hback : sep ∉ rest.reverse := fun hmem => h (List.mem_reverse.mp hmem)
  unfold rpartition
  rw [hreverse, partition_append hback]
  simp

end Python
end EidolonSdk
