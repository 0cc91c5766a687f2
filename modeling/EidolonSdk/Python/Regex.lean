import EidolonSdk.Python.Text

/-!
# Regular expressions of Python

Patterns that are sequences of anchors and of repeated character classes, and
where a match of one can end.  {lit}`match` asks for a match that begins at the
first character, {lit}`fullmatch` for one that covers the text.  The anchor at the
end also holds in front of a newline that ends the text.
-/

namespace EidolonSdk
namespace Python

inductive Piece where
  /-- `^`. -/
  | start
  /-- `[allows]{least,most}`; without `most` as often as possible. -/
  | run (allows : CodePoint -> Bool) (least : Nat) (most : Option Nat)
  /-- `$`. -/
  | stop

abbrev Regex := List Piece

/-- A place in a text: what is behind it and what is in front of it. -/
abbrev Spot := PyStr × PyStr

def newline : CodePoint :=
  codePoint '\n'

namespace Regex

/-- A run may have this length. -/
def Admits (least : Nat) (most : Option Nat) (length : Nat) : Prop :=
  least ≤ length ∧ forall bound, most = some bound -> length ≤ bound

instance (least : Nat) (most : Option Nat) (length : Nat) :
    Decidable (Admits least most length) :=
  match most with
  | none => decidable_of_iff (least ≤ length) ⟨fun h => ⟨h, nofun⟩, And.left⟩
  | some bound =>
      decidable_of_iff (least ≤ length ∧ length ≤ bound)
        ⟨fun h => ⟨h.left, fun _ heq => Option.some.inj heq ▸ h.right⟩,
          fun h => ⟨h.left, h.right bound rfl⟩⟩

/-- The longest run comes first. -/
def runEnds (allows : CodePoint -> Bool) (least : Nat) (most : Option Nat)
    (spot : Spot) : List Spot :=
  let longest := (spot.snd.takeWhile allows).length
  ((List.range (longest + 1)).reverse.filter fun length =>
    decide (Admits least most length)).map fun length =>
      (spot.fst ++ spot.snd.take length, spot.snd.drop length)

def pieceEnds : Piece -> Spot -> List Spot
  | .start, spot => if spot.fst = [] then [spot] else []
  | .run allows least most, spot => runEnds allows least most spot
  | .stop, spot => if spot.snd = [] ∨ spot.snd = [newline] then [spot] else []

/-- Where a match that begins here can end, in the order they are tried. -/
def ends : Regex -> Spot -> List Spot
  | [], spot => [spot]
  | piece :: rest, spot => (pieceEnds piece spot).flatMap (ends rest)

/-- `pattern.match(s)` is not `None`. -/
def isMatch (pattern : Regex) (s : PyStr) : Bool :=
  !(pattern.ends ([], s)).isEmpty

/-- `pattern.fullmatch(s)` is not `None`. -/
def isFullmatch (pattern : Regex) (s : PyStr) : Bool :=
  (pattern.ends ([], s)).any fun spot => spot.snd.isEmpty

/-!
## Runs
-/

section Runs

variable {allows : CodePoint -> Bool} {least : Nat} {most : Option Nat}

/-- The characters and the number of them a run may have. -/
def IsRun (allows : CodePoint -> Bool) (least : Nat) (most : Option Nat)
    (t : PyStr) : Prop :=
  t.all allows = true ∧ Admits least most t.length

instance (t : PyStr) : Decidable (IsRun allows least most t) :=
  inferInstanceAs (Decidable (_ ∧ _))

theorem all_take_takeWhile {s : PyStr} {length : Nat}
    (h : length ≤ (s.takeWhile allows).length) :
    (s.take length).all allows = true := by
  rw [List.all_eq_true]
  intro c hc
  have hprefix : s.takeWhile allows <+: s := List.takeWhile_prefix allows
  have htake : s.take length = (s.takeWhile allows).take length := by
    rcases hprefix with ⟨rest, hrest⟩
    calc s.take length = (s.takeWhile allows ++ rest).take length := by rw [hrest]
      _ = (s.takeWhile allows).take length := List.take_append_of_le_length h
  rw [htake] at hc
  exact List.mem_takeWhile_imp (List.mem_of_mem_take hc)

theorem length_le_takeWhile {front back : PyStr} (h : front.all allows = true) :
    front.length ≤ ((front ++ back).takeWhile allows).length := by
  rw [List.takeWhile_append_of_pos (List.all_eq_true.mp h), List.length_append]
  exact Nat.le_add_right _ _

theorem mem_runEnds {spot fin : Spot} :
    fin ∈ runEnds allows least most spot <->
      exists t, IsRun allows least most t ∧ spot.snd = t ++ fin.snd ∧
        fin.fst = spot.fst ++ t := by
  rcases spot with ⟨front, back⟩
  rcases fin with ⟨front', back'⟩
  simp only [runEnds, List.mem_map, List.mem_filter, List.mem_reverse,
    List.mem_range, decide_eq_true_eq, Prod.mk.injEq]
  constructor
  · intro h
    rcases h with ⟨length, ⟨hlength, hadmits⟩, hfront, hback⟩
    have hle : length ≤ back.length :=
      (Nat.le_of_lt_succ hlength).trans (List.takeWhile_prefix allows).length_le
    refine ⟨back.take length, ⟨all_take_takeWhile (Nat.le_of_lt_succ hlength), ?_⟩,
      ?_, hfront.symm⟩
    · rw [List.length_take_of_le hle]
      exact hadmits
    · rw [← hback, List.take_append_drop]
  · intro h
    rcases h with ⟨t, ⟨hall, hadmits⟩, hback, hfront⟩
    refine ⟨t.length, ⟨Nat.lt_succ_of_le ?_, hadmits⟩, ?_, ?_⟩
    · rw [hback]
      exact length_le_takeWhile hall
    · rw [hback, List.take_left, hfront]
    · rw [hback, List.drop_left]

end Runs

/-!
## An anchored class
-/

/-- `^[allows]{least,most}$`. -/
def anchored (allows : CodePoint -> Bool) (least : Nat) (most : Option Nat) : Regex :=
  [.start, .run allows least most, .stop]

section Anchored

variable {allows : CodePoint -> Bool} {least : Nat} {most : Option Nat} {s : PyStr}

theorem mem_ends_anchored {fin : Spot} :
    fin ∈ (anchored allows least most).ends ([], s) <->
      IsRun allows least most fin.fst ∧ s = fin.fst ++ fin.snd ∧
        (fin.snd = [] ∨ fin.snd = [newline]) := by
  have hstop : forall spot : Spot, fin ∈ ends [.stop] spot <->
      fin = spot ∧ (fin.snd = [] ∨ fin.snd = [newline]) := by
    intro spot
    by_cases hend : spot.snd = [] ∨ spot.snd = [newline]
    · simp only [ends, pieceEnds, if_pos hend, List.flatMap_singleton,
        List.mem_singleton]
      constructor
      · intro heq
        rcases heq with rfl
        exact ⟨rfl, hend⟩
      · exact And.left
    · simp only [ends, pieceEnds, if_neg hend, List.flatMap_nil, List.not_mem_nil,
        false_iff]
      intro hparts
      rcases hparts with ⟨rfl, h⟩
      exact hend h
  have hends : (anchored allows least most).ends ([], s) =
      (runEnds allows least most ([], s)).flatMap (ends [.stop]) := by
    simp [anchored, ends, pieceEnds]
  rw [hends, List.mem_flatMap]
  constructor
  · intro h
    rcases h with ⟨spot, hspot, hfin⟩
    rcases (hstop spot).mp hfin with ⟨rfl, hend⟩
    rcases mem_runEnds.mp hspot with ⟨t, hrun, hs, ht⟩
    have hfst : fin.fst = t := ht.trans (List.nil_append t)
    rw [hfst]
    exact ⟨hrun, hs, hend⟩
  · intro h
    rcases h with ⟨hrun, hs, hend⟩
    exact ⟨fin, mem_runEnds.mpr ⟨fin.fst, hrun, hs, (List.nil_append _).symm⟩,
      (hstop fin).mpr ⟨rfl, hend⟩⟩

/-- `match` overlooks a newline at the end. -/
theorem isMatch_anchored :
    (anchored allows least most).isMatch s = true <->
      exists t, IsRun allows least most t ∧ (s = t ∨ s = t ++ [newline]) := by
  simp only [isMatch, Bool.not_eq_true', List.isEmpty_eq_false_iff_exists_mem,
    mem_ends_anchored]
  constructor
  · intro h
    rcases h with ⟨fin, hrun, hs, hend⟩
    refine ⟨fin.fst, hrun, ?_⟩
    rcases hend with hnil | hline
    · rw [hnil, List.append_nil] at hs
      exact Or.inl hs
    · rw [hline] at hs
      exact Or.inr hs
  · intro h
    rcases h with ⟨t, hrun, hs | hs⟩
    · exact ⟨(t, []), hrun, hs.trans (List.append_nil t).symm, Or.inl rfl⟩
    · exact ⟨(t, [newline]), hrun, hs, Or.inr rfl⟩

/-- `fullmatch` does not. -/
theorem isFullmatch_anchored :
    (anchored allows least most).isFullmatch s = true <->
      IsRun allows least most s := by
  simp only [isFullmatch, List.any_eq_true, List.isEmpty_iff, mem_ends_anchored]
  constructor
  · intro h
    rcases h with ⟨fin, ⟨hrun, hs, _⟩, hnil⟩
    rw [hnil, List.append_nil] at hs
    rw [hs]
    exact hrun
  · intro h
    exact ⟨(s, []), ⟨h, (List.append_nil s).symm, Or.inl rfl⟩, rfl⟩

end Anchored

end Regex

end Python
end EidolonSdk
