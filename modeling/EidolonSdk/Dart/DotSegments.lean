import EidolonSdk.Coding.Cut
import EidolonSdk.Dart.PercentEncoding

/-!
# Dot segments

A path is taken apart at its slashes, its dot segments are resolved against the
segments in front of them, and what is left is joined again.  Of an absolute path
an absolute path is left, and nothing changes exactly when no segment is a dot
segment.
-/

namespace EidolonSdk
namespace Dart

open Python Coding

def segments (path : PyStr) : List PyStr :=
  path.splitOn (codePoint '/')

def joinSegments (pieces : List PyStr) : PyStr :=
  [codePoint '/'].intercalate pieces

/-- One segment of a path, and whether a slash has to follow in the end. -/
def dotStep (state : List PyStr × Bool) (segment : PyStr) :
    List PyStr × Bool :=
  if segment = str ".." then
    match state.fst.dropLast with
    | [] => (if state.fst = [] then [] else [[]], true)
    | output => (output, true)
  else if segment = str "." then (state.fst, true)
  else (state.fst ++ [segment], false)

/-- What is joined in the end. -/
def closed (state : List PyStr × Bool) : List PyStr :=
  if state.snd then state.fst ++ [[]] else state.fst

/-- `_removeDotSegments`. -/
def removeDotSegments (path : PyStr) : PyStr :=
  joinSegments (closed ((segments path).foldl dotStep ([], false)))

/-- No segment is a dot segment. -/
def NoDots (pieces : List PyStr) : Prop :=
  forall piece, piece ∈ pieces -> piece ≠ str "." ∧ piece ≠ str ".."

/-!
## What is left
-/

section Steps

variable {state : List PyStr × Bool} {pieces : List PyStr} {segment : PyStr}

theorem dotStep_plain (h : segment ≠ str "." ∧ segment ≠ str "..") :
    dotStep state segment = (state.fst ++ [segment], false) := by
  unfold dotStep
  rw [if_neg h.right, if_neg h.left]

theorem foldl_plain (h : NoDots pieces) (output : List PyStr) :
    pieces.foldl dotStep (output, false) = (output ++ pieces, false) := by
  induction pieces generalizing output with
  | nil => simp
  | cons piece rest ih =>
      rw [List.foldl_cons, dotStep_plain (h piece List.mem_cons_self),
        ih fun other hother => h other (List.mem_cons_of_mem piece hother)]
      simp

/-- Segments of the path or empty ones, and no dot segments. -/
def Drawn (pieces : List PyStr) (output : List PyStr) : Prop :=
  NoDots output ∧ forall piece, piece ∈ output -> piece = [] ∨ piece ∈ pieces

theorem noDots_nil_cons {output : List PyStr} (h : NoDots output) :
    NoDots ([] :: output) := by
  intro piece hpiece
  rcases List.mem_cons.mp hpiece with heq | hpiece
  · rw [heq]
    exact ⟨by decide, by decide⟩
  · exact h piece hpiece

theorem Drawn.empty : Drawn pieces [[]] := by
  constructor
  · exact noDots_nil_cons fun _ h => absurd h List.not_mem_nil
  · intro piece hpiece
    exact Or.inl (List.mem_singleton.mp hpiece)

theorem Drawn.append {output output' : List PyStr} (h : Drawn pieces output)
    (h' : Drawn pieces output') : Drawn pieces (output ++ output') := by
  constructor
  · intro piece hpiece
    rcases List.mem_append.mp hpiece with hpiece | hpiece
    · exact h.left piece hpiece
    · exact h'.left piece hpiece
  · intro piece hpiece
    rcases List.mem_append.mp hpiece with hpiece | hpiece
    · exact h.right piece hpiece
    · exact h'.right piece hpiece

theorem Drawn.dropLast {output : List PyStr} (h : Drawn pieces output) :
    Drawn pieces output.dropLast :=
  ⟨fun piece hpiece => h.left piece (List.dropLast_subset output hpiece),
    fun piece hpiece => h.right piece (List.dropLast_subset output hpiece)⟩

theorem drawn_dotStep (h : Drawn pieces state.fst) (hsegment : segment ∈ pieces) :
    Drawn pieces (dotStep state segment).fst := by
  unfold dotStep
  split
  · have hdrop := h.dropLast
    split
    · split
      · exact ⟨fun _ h => absurd h List.not_mem_nil,
          fun _ h => absurd h List.not_mem_nil⟩
      · exact Drawn.empty
    · exact hdrop
  · rename_i hparent
    split
    · exact h
    · rename_i hself
      refine h.append ⟨?_, ?_⟩
      · intro piece hpiece
        rw [List.mem_singleton.mp hpiece]
        exact ⟨hself, hparent⟩
      · intro piece hpiece
        rw [List.mem_singleton.mp hpiece]
        exact Or.inr hsegment

theorem drawn_foldl {rest : List PyStr} (hrest : forall piece, piece ∈ rest ->
    piece ∈ pieces) (h : Drawn pieces state.fst) :
    Drawn pieces (rest.foldl dotStep state).fst := by
  induction rest generalizing state with
  | nil => exact h
  | cons piece rest ih =>
      rw [List.foldl_cons]
      exact ih (fun other hother => hrest other (List.mem_cons_of_mem piece hother))
        (drawn_dotStep h (hrest piece List.mem_cons_self))

theorem drawn_closed (h : Drawn pieces state.fst) : Drawn pieces (closed state) := by
  unfold closed
  split
  · exact h.append Drawn.empty
  · exact h

/-- The output begins with the empty segment in front of the first slash. -/
def Rooted (state : List PyStr × Bool) : Prop :=
  exists rest, state.fst = [] :: rest

/-- And something stands behind that slash. -/
def Grown (state : List PyStr × Bool) : Prop :=
  exists rest, closed state = [] :: rest ∧ rest ≠ []

theorem rooted_dotStep (h : Rooted state) :
    Rooted (dotStep state segment) ∧ Grown (dotStep state segment) := by
  rcases h with ⟨rest, hrest⟩
  unfold Rooted Grown dotStep closed
  split
  · rw [hrest]
    cases rest with
    | nil => exact ⟨⟨[], rfl⟩, [[]], rfl, List.cons_ne_nil _ _⟩
    | cons piece rest =>
        exact ⟨⟨_, rfl⟩, (piece :: rest).dropLast ++ [[]], rfl, by simp⟩
  · split
    · exact ⟨⟨rest, hrest⟩, rest ++ [[]], by simp [hrest], by simp⟩
    · exact ⟨⟨rest ++ [segment], by simp [hrest]⟩, rest ++ [segment],
        by simp [hrest], by simp⟩

theorem rooted_foldl (h : Rooted state) : Rooted (pieces.foldl dotStep state) := by
  induction pieces generalizing state with
  | nil => exact h
  | cons piece rest ih => exact ih (rooted_dotStep h).left

theorem grown_foldl (h : Rooted state) (hpieces : pieces ≠ []) :
    Grown (pieces.foldl dotStep state) := by
  rcases List.eq_nil_or_concat pieces with heq | ⟨front, last, heq⟩
  · exact absurd heq hpieces
  · rw [heq, List.concat_eq_append, List.foldl_append]
    exact (rooted_dotStep (rooted_foldl h)).right

end Steps

/-!
## Paths
-/

theorem slash_not_mem_segments {path piece : PyStr} (h : piece ∈ segments path) :
    codePoint '/' ∉ piece := by
  unfold segments at h
  induction path generalizing piece with
  | nil =>
      rw [List.splitOn_nil] at h
      rw [List.mem_singleton.mp h]
      exact List.not_mem_nil
  | cons c rest ih =>
      rw [List.splitOn_cons_eq_if_modifyHead] at h
      split at h
      · rcases List.mem_cons.mp h with heq | h
        · rw [heq]
          exact List.not_mem_nil
        · exact ih h
      · rename_i hc
        rcases List.exists_cons_of_ne_nil (List.splitOn_ne_nil (codePoint '/') rest)
          with ⟨first, others, heq⟩
        rw [heq, List.modifyHead_cons] at h
        rcases List.mem_cons.mp h with hpiece | h
        · rw [hpiece]
          intro hmem
          rcases List.mem_cons.mp hmem with hslash | hmem
          · exact hc (beq_iff_eq.mpr hslash.symm)
          · exact ih (heq ▸ List.mem_cons_self) hmem
        · exact ih (heq ▸ List.mem_cons_of_mem first h)

theorem joinSegments_segments (path : PyStr) :
    joinSegments (segments path) = path :=
  List.intercalate_splitOn (codePoint '/')

theorem drawn_removed (path : PyStr) : Drawn (segments path)
    (closed ((segments path).foldl dotStep ([], false))) :=
  drawn_closed (drawn_foldl (fun _ h => h)
    ⟨fun _ h => absurd h List.not_mem_nil, fun _ h => absurd h List.not_mem_nil⟩)

theorem removeDotSegments_eq_self {path : PyStr} :
    removeDotSegments path = path <-> NoDots (segments path) := by
  constructor
  · intro h
    have hdrawn := drawn_removed path
    have hne : closed ((segments path).foldl dotStep ([], false)) ≠ [] := by
      intro hnil
      have hpath : joinSegments [] = path := hnil ▸ h
      rw [← hpath] at hnil
      exact absurd hnil (List.cons_ne_nil [] [])
    have hsplit : segments path =
        closed ((segments path).foldl dotStep ([], false)) := by
      have hpieces : forall piece,
          piece ∈ closed ((segments path).foldl dotStep ([], false)) ->
            codePoint '/' ∉ piece := by
        intro piece hpiece
        rcases hdrawn.right piece hpiece with heq | hmem
        · rw [heq]
          exact List.not_mem_nil
        · exact slash_not_mem_segments hmem
      exact (congrArg segments h).symm.trans
        (List.splitOn_intercalate (codePoint '/') hpieces hne)
    rw [hsplit]
    exact hdrawn.left
  · intro h
    unfold removeDotSegments
    rw [foldl_plain h]
    exact joinSegments_segments path

/-- An absolute path stays one. -/
theorem removeDotSegments_absolute (rest : PyStr) :
    exists back, removeDotSegments (codePoint '/' :: rest) =
      codePoint '/' :: back := by
  have hsegments : segments (codePoint '/' :: rest) = [] :: segments rest := by
    unfold segments
    rw [List.splitOn_cons_eq_if_modifyHead, if_pos (beq_self_eq_true _)]
  have hgrown : Grown ((segments rest).foldl dotStep ([[]], false)) :=
    grown_foldl ⟨[], rfl⟩ (List.splitOn_ne_nil _ rest)
  rcases hgrown with ⟨pieces, hclosed, hpieces⟩
  have hfirst : dotStep ([], false) [] = ([[]], false) := rfl
  unfold removeDotSegments joinSegments
  rw [hsegments, List.foldl_cons, hfirst, hclosed,
    List.intercalate_cons_of_ne_nil hpieces]
  exact ⟨_, rfl⟩

/-!
## Characters and spellings of a path
-/

theorem joinSegments_singleton (piece : PyStr) : joinSegments [piece] = piece :=
  List.intercalate_singleton

theorem joinSegments_cons (piece next : PyStr) (rest : List PyStr) :
    joinSegments (piece :: next :: rest) =
      piece ++ codePoint '/' :: joinSegments (next :: rest) := by
  unfold joinSegments
  rw [List.intercalate_cons_of_ne_nil (List.cons_ne_nil next rest)]
  simp

theorem mem_joinSegments {pieces : List PyStr} {c : CodePoint}
    (h : c ∈ joinSegments pieces) :
    c = codePoint '/' ∨ exists piece, piece ∈ pieces ∧ c ∈ piece := by
  induction pieces with
  | nil => cases h
  | cons piece rest ih =>
      cases rest with
      | nil =>
          rw [joinSegments_singleton] at h
          exact Or.inr ⟨piece, List.mem_cons_self, h⟩
      | cons next rest =>
          rw [joinSegments_cons] at h
          rcases List.mem_append.mp h with h | h
          · exact Or.inr ⟨piece, List.mem_cons_self, h⟩
          · rcases List.mem_cons.mp h with heq | h
            · exact Or.inl heq
            · rcases ih h with heq | ⟨other, hother, hc⟩
              · exact Or.inl heq
              · exact Or.inr ⟨other, List.mem_cons_of_mem piece hother, hc⟩

theorem mem_of_mem_piece {pieces : List PyStr} {piece : PyStr} {c : CodePoint}
    (hpiece : piece ∈ pieces) (h : c ∈ piece) : c ∈ joinSegments pieces := by
  induction pieces with
  | nil => cases hpiece
  | cons first rest ih =>
      cases rest with
      | nil =>
          rw [List.mem_singleton.mp hpiece] at h
          rw [joinSegments_singleton]
          exact h
      | cons next rest =>
          rw [joinSegments_cons]
          rcases List.mem_cons.mp hpiece with heq | hpiece
          · exact List.mem_append_left _ (heq ▸ h)
          · exact List.mem_append_right _ (List.mem_cons_of_mem _ (ih hpiece))

/-- Nothing but slashes is added. -/
theorem mem_removeDotSegments {path : PyStr} {c : CodePoint}
    (h : c ∈ removeDotSegments path) : c ∈ path ∨ c = codePoint '/' := by
  rcases mem_joinSegments h with heq | ⟨piece, hpiece, hc⟩
  · exact Or.inr heq
  · rcases (drawn_removed path).right piece hpiece with heq | hmem
    · rw [heq] at hc
      cases hc
    · left
      rw [← joinSegments_segments path]
      exact mem_of_mem_piece hmem hc

section Normal

variable {rule : CharRule}

theorem normal_joinSegments (hslash : rule.keeps (.char (codePoint '/')) = true)
    {pieces : List PyStr} :
    rule.Normal (joinSegments pieces) <->
      forall piece, piece ∈ pieces -> rule.Normal piece := by
  have hdigit : isHexDigit (codePoint '/') = false := by decide
  induction pieces with
  | nil =>
      exact iff_of_true (fun _ h => absurd h List.not_mem_nil)
        fun _ h => absurd h List.not_mem_nil
  | cons piece rest ih =>
      cases rest with
      | nil => rw [joinSegments_singleton, List.forall_mem_singleton]
      | cons next rest =>
          have hpieces := (normal_append_cons (s := piece) hslash hdigit).trans
            (and_congr_right fun _ => ih)
          rw [joinSegments_cons, List.forall_mem_cons (a := piece)]
          exact hpieces

/-- What is left of a normal path is normal. -/
theorem normal_removeDotSegments
    (hslash : rule.keeps (.char (codePoint '/')) = true) {path : PyStr}
    (h : rule.Normal path) : rule.Normal (removeDotSegments path) := by
  rw [← joinSegments_segments path, normal_joinSegments hslash] at h
  unfold removeDotSegments
  rw [normal_joinSegments hslash]
  intro piece hpiece
  rcases (drawn_removed path).right piece hpiece with heq | hmem
  · rw [heq]
    exact fun _ h => absurd h List.not_mem_nil
  · exact h piece hmem

end Normal

end Dart
end EidolonSdk
