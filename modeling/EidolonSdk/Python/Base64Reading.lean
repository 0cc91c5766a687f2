import EidolonSdk.Python.Base64

/-!
# What the lenient reader accepts

The reader looks at letters and pads only.  It overlooks pads in front of the
first two letters of a group and a single one in front of the third, and two pads
behind the second letter end the text, whatever follows them.
-/

namespace EidolonSdk
namespace Python

/-- A letter of either alphabet. -/
def isB64Letter (c : CodePoint) : Bool :=
  (b64Value c).isSome

/-- What the reader does not skip. -/
def isB64Significant (c : CodePoint) : Bool :=
  c == b64Pad || isB64Letter c

def b64Pads (n : Nat) : PyStr :=
  List.replicate n b64Pad

/-- The octets of four letters. -/
def quadBytes (w x y z : Nat) : Bytes :=
  [byte (w * 4 + x / 16), byte (x % 16 * 16 + y / 4), byte (y % 4 * 64 + z)]

/-- Groups of four letters, with the pads the reader overlooks. -/
inductive Quads : PyStr -> Bytes -> Prop where
  | nil : Quads [] []
  | cons {a b c d : CodePoint} {w x y z : Nat} {rest : PyStr} {bytes : Bytes}
      (i j k : Nat) (hk : k ≤ 1)
      (ha : b64Value a = some w) (hb : b64Value b = some x)
      (hc : b64Value c = some y) (hd : b64Value d = some z)
      (hrest : Quads rest bytes) :
      Quads (b64Pads i ++ a :: (b64Pads j ++ b :: (b64Pads k ++ c :: d :: rest)))
        (quadBytes w x y z ++ bytes)

/-- Two letters that stand for one octet, the two pads behind them and anything
else. -/
def EndsInOctet (t : PyStr) (tail : Bytes) : Prop :=
  exists (i j : Nat) (a b : CodePoint) (w x : Nat) (rest : PyStr),
    b64Value a = some w ∧ b64Value b = some x ∧
      t = b64Pads i ++ a :: (b64Pads j ++ b :: b64Pad :: b64Pad :: rest) ∧
      tail = [byte (w * 4 + x / 16)]

/-- The letters and pads of the text are groups and one octet more. -/
def SpellsLoosely (t : PyStr) (bytes : Bytes) : Prop :=
  exists (groups ending : PyStr) (front tail : Bytes),
    t.filter isB64Significant = groups ++ ending ∧ Quads groups front ∧
      EndsInOctet ending tail ∧ bytes = front ++ tail

/-!
## One character
-/

section Step

variable {c : CodePoint} {v position left pads : Nat} {t : PyStr}

theorem decodeQuads_skip (h : isB64Significant c = false) :
    decodeQuads position left pads (c :: t) = decodeQuads position left pads t := by
  simp only [isB64Significant, isB64Letter, Bool.or_eq_false_iff,
    beq_eq_false_iff_ne, Option.isSome_eq_false_iff, Option.isNone_iff_eq_none] at h
  rw [decodeQuads, if_neg h.1, h.2]

theorem decodeQuads_early_pad (h : position < 2) :
    decodeQuads position left pads (b64Pad :: t) =
      decodeQuads position left pads t := by
  rw [decodeQuads, if_pos rfl, if_neg (by omega)]

theorem decodeQuads_two_pad :
    decodeQuads 2 left 0 (b64Pad :: t) = decodeQuads 2 left 1 t := by
  rw [decodeQuads, if_pos rfl, if_pos (by decide), if_neg (by decide)]

theorem decodeQuads_two_pads :
    decodeQuads 2 left 1 (b64Pad :: t) = some [] := by
  rw [decodeQuads, if_pos rfl, if_pos (by decide), if_pos (by decide)]

theorem decodeQuads_three_pad :
    decodeQuads 3 left pads (b64Pad :: t) = some [] := by
  rw [decodeQuads, if_pos rfl, if_pos (by omega), if_pos (by omega)]

theorem decodeQuads_early_pads (h : position < 2) (i : Nat) :
    decodeQuads position left pads (b64Pads i ++ t) =
      decodeQuads position left pads t := by
  induction i with
  | zero => rfl
  | succ i ih =>
      exact (decodeQuads_early_pad h).trans ih

end Step

/-- Only letters and pads count. -/
theorem decodeQuads_filter (t : PyStr) :
    forall position left pads : Nat,
      decodeQuads position left pads (t.filter isB64Significant) =
        decodeQuads position left pads t := by
  induction t with
  | nil =>
      intro position left pads
      rfl
  | cons c rest ih =>
      intro position left pads
      by_cases hc : isB64Significant c = true
      · rw [List.filter_cons_of_pos hc]
        simp only [decodeQuads, ih]
      · rw [List.filter_cons_of_neg hc,
          decodeQuads_skip (Bool.eq_false_iff.mpr hc), ih]

theorem decodeQuads_third {c : CodePoint} {y k left : Nat} {rest : PyStr}
    (hk : k ≤ 1) (hc : b64Value c = some y) :
    decodeQuads 2 left 0 (b64Pads k ++ c :: rest) =
      (decodeQuads 3 (y % 4) 0 rest).map (byte (left * 16 + y / 4) :: ·) := by
  rcases Nat.le_one_iff_eq_zero_or_eq_one.mp hk with rfl | rfl
  · exact decodeQuads_two hc _
  · exact decodeQuads_two_pad.trans (decodeQuads_two hc _)

theorem decodeQuads_group {a b c d : CodePoint} {w x y z i j k left pads : Nat}
    {rest : PyStr} (hk : k ≤ 1)
    (ha : b64Value a = some w) (hb : b64Value b = some x)
    (hc : b64Value c = some y) (hd : b64Value d = some z) :
    decodeQuads 0 left pads
        (b64Pads i ++ a :: (b64Pads j ++ b :: (b64Pads k ++ c :: d :: rest))) =
      (decodeQuads 0 0 0 rest).map (quadBytes w x y z ++ ·) := by
  rw [decodeQuads_early_pads (by decide), decodeQuads_zero ha,
    decodeQuads_early_pads (by decide), decodeQuads_one hb, decodeQuads_third hk hc,
    decodeQuads_three hd, Option.map_map, Option.map_map]
  rfl

theorem decodeQuads_quads {groups : PyStr} {front : Bytes}
    (h : Quads groups front) (ending : PyStr) :
    decodeQuads 0 0 0 (groups ++ ending) =
      (decodeQuads 0 0 0 ending).map (front ++ ·) := by
  induction h with
  | nil =>
      cases hend : decodeQuads 0 0 0 ending with
      | none => exact hend
      | some bytes => exact hend
  | cons i j k hk ha hb hc hd hrest ih =>
      simp only [List.append_assoc, List.cons_append]
      rw [decodeQuads_group hk ha hb hc hd, ih]
      cases decodeQuads 0 0 0 ending with
      | none => rfl
      | some bytes => simp

theorem EndsInOctet.decodeQuads {t : PyStr} {tail : Bytes} (h : EndsInOctet t tail) :
    decodeQuads 0 0 0 t = some tail := by
  rcases h with ⟨i, j, a, b, w, x, rest, ha, hb, rfl, rfl⟩
  rw [decodeQuads_early_pads (by decide), decodeQuads_zero ha,
    decodeQuads_early_pads (by decide), decodeQuads_one hb, decodeQuads_two_pad,
    decodeQuads_two_pads]
  rfl

/-!
## The whole text
-/

/-- Pads in front, then nothing or a letter. -/
theorem exists_pads {t : PyStr} (h : forall c, c ∈ t -> isB64Significant c = true) :
    exists (i : Nat) (rest : PyStr), t = b64Pads i ++ rest ∧
      (rest = [] ∨ exists (c : CodePoint) (v : Nat) (rest' : PyStr),
        rest = c :: rest' ∧ b64Value c = some v) := by
  induction t with
  | nil => exact ⟨0, [], rfl, Or.inl rfl⟩
  | cons c t ih =>
      by_cases hc : c = b64Pad
      · rcases ih (fun d hd => h d (List.mem_cons_of_mem c hd)) with
          ⟨i, rest, ht, hrest⟩
        refine ⟨i + 1, rest, ?_, hrest⟩
        rw [hc, ht]
        rfl
      · have hletter := h c List.mem_cons_self
        simp only [isB64Significant, isB64Letter, Bool.or_eq_true, beq_iff_eq, hc,
          false_or] at hletter
        rcases Option.isSome_iff_exists.mp hletter with ⟨v, hv⟩
        exact ⟨0, c :: t, rfl, Or.inr ⟨c, v, t, rfl, hv⟩⟩

/-- What is not over after its third letter has a fourth. -/
theorem exists_fourth {t : PyStr} {bytes : Bytes} {left : Nat}
    (h : forall c, c ∈ t -> isB64Significant c = true)
    (hdecode : decodeQuads 3 left 0 t = some bytes) (hne : bytes ≠ []) :
    exists (d : CodePoint) (z : Nat) (rest : PyStr) (tail : Bytes),
      t = d :: rest ∧ b64Value d = some z ∧ decodeQuads 0 0 0 rest = some tail ∧
        bytes = byte (left * 64 + z) :: tail := by
  rcases exists_pads h with ⟨i, rest, rfl, hrest⟩
  cases i with
  | succ i =>
      have hempty : some [] = some bytes := decodeQuads_three_pad.symm.trans hdecode
      exact absurd (Option.some.inj hempty).symm hne
  | zero =>
      rcases hrest with rfl | ⟨d, z, rest, rfl, hd⟩
      · exact nomatch hdecode
      · have hread := (decodeQuads_three hd rest).symm.trans hdecode
        rcases Option.map_eq_some_iff.mp hread with ⟨tail, htail, rfl⟩
        exact ⟨d, z, rest, tail, rfl, hd, htail, rfl⟩

/-- What is not over after its second letter has two more. -/
theorem exists_third {t : PyStr} {bytes : Bytes} {left : Nat}
    (h : forall c, c ∈ t -> isB64Significant c = true)
    (hdecode : decodeQuads 2 left 0 t = some bytes)
    (hlength : bytes.length % 3 = 0) :
    (exists rest, t = b64Pad :: b64Pad :: rest ∧ bytes = []) ∨
      exists (c d : CodePoint) (y z k : Nat) (rest : PyStr) (tail : Bytes),
        k ≤ 1 ∧ b64Value c = some y ∧ b64Value d = some z ∧
        t = b64Pads k ++ c :: d :: rest ∧ decodeQuads 0 0 0 rest = some tail ∧
        bytes = byte (left * 16 + y / 4) :: byte (y % 4 * 64 + z) :: tail := by
  rcases exists_pads h with ⟨k, t, rfl, hrest⟩
  rcases Nat.lt_or_ge k 2 with hk | hk
  · rcases hrest with rfl | ⟨c, y, t, rfl, hc⟩
    · rcases Nat.le_one_iff_eq_zero_or_eq_one.mp (Nat.le_of_lt_succ hk) with rfl | rfl
      · exact nomatch hdecode
      · exact nomatch hdecode
    · rw [decodeQuads_third (Nat.le_of_lt_succ hk) hc, Option.map_eq_some_iff]
        at hdecode
      rcases hdecode with ⟨third, hdecode, rfl⟩
      have hsignificant : forall e, e ∈ t -> isB64Significant e = true := fun e he =>
        h e (List.mem_append_right _ (List.mem_cons_of_mem c he))
      have hne : third ≠ [] := by
        intro heq
        rcases heq with rfl
        cases hlength
      rcases exists_fourth hsignificant hdecode hne with
        ⟨d, z, rest, tail, rfl, hd, htail, rfl⟩
      exact Or.inr ⟨c, d, y, z, k, rest, tail, Nat.le_of_lt_succ hk, hc, hd, rfl,
        htail, rfl⟩
  · have hpads : b64Pads k ++ t = b64Pad :: b64Pad :: (b64Pads (k - 2) ++ t) := by
      rw [← Nat.sub_add_cancel hk]
      rfl
    rw [hpads] at hdecode ⊢
    have hempty : some [] = some bytes :=
      (decodeQuads_two_pad.trans decodeQuads_two_pads).symm.trans hdecode
    exact Or.inl ⟨_, rfl, (Option.some.inj hempty).symm⟩

/-- The text ends in one octet, or starts with a whole group. -/
theorem endsInOctet_or_group {t : PyStr} {bytes : Bytes}
    (h : forall c, c ∈ t -> isB64Significant c = true)
    (hdecode : decodeQuads 0 0 0 t = some bytes) (hlength : bytes.length % 3 = 1) :
    EndsInOctet t bytes ∨
      exists (a b c d : CodePoint) (w x y z i j k : Nat) (rest : PyStr)
        (tail : Bytes), k ≤ 1 ∧
        b64Value a = some w ∧ b64Value b = some x ∧ b64Value c = some y ∧
        b64Value d = some z ∧
        t = b64Pads i ++ a :: (b64Pads j ++ b :: (b64Pads k ++ c :: d :: rest)) ∧
        decodeQuads 0 0 0 rest = some tail ∧ bytes = quadBytes w x y z ++ tail := by
  rcases exists_pads h with ⟨i, t, rfl, rfl | ⟨a, w, t, rfl, ha⟩⟩
  · rw [decodeQuads_early_pads (by decide)] at hdecode
    cases hdecode
    cases hlength
  have h1 : forall c, c ∈ t -> isB64Significant c = true := fun c hc =>
    h c (List.mem_append_right _ (List.mem_cons_of_mem a hc))
  rw [decodeQuads_early_pads (by decide), decodeQuads_zero ha] at hdecode
  rcases exists_pads h1 with ⟨j, t, rfl, rfl | ⟨b, x, t, rfl, hb⟩⟩
  · rw [decodeQuads_early_pads (by decide)] at hdecode
    cases hdecode
  have h2 : forall c, c ∈ t -> isB64Significant c = true := fun c hc =>
    h1 c (List.mem_append_right _ (List.mem_cons_of_mem b hc))
  rw [decodeQuads_early_pads (by decide), decodeQuads_one hb,
    Option.map_eq_some_iff] at hdecode
  rcases hdecode with ⟨second, hdecode, rfl⟩
  rw [List.length_cons] at hlength
  rcases exists_third h2 hdecode (by omega) with ⟨rest, rfl, rfl⟩ |
    ⟨c, d, y, z, k, rest, tail, hk, hc, hd, rfl, htail, rfl⟩
  · exact Or.inl ⟨i, j, a, b, w, x, rest, ha, hb, rfl, rfl⟩
  · exact Or.inr ⟨a, b, c, d, w, x, y, z, i, j, k, rest, tail, hk, ha, hb, hc, hd,
      rfl, htail, rfl⟩

theorem quads_of_decode :
    forall (n : Nat) {t : PyStr} {bytes : Bytes}, t.length ≤ n ->
      (forall c, c ∈ t -> isB64Significant c = true) ->
      decodeQuads 0 0 0 t = some bytes -> bytes.length % 3 = 1 ->
      exists (groups ending : PyStr) (front tail : Bytes),
        t = groups ++ ending ∧ Quads groups front ∧ EndsInOctet ending tail ∧
          bytes = front ++ tail := by
  intro n
  induction n with
  | zero =>
      intro t bytes hn h hdecode hlength
      have ht : t = [] := List.length_eq_zero_iff.mp (Nat.le_zero.mp hn)
      rw [ht] at hdecode
      cases hdecode
      cases hlength
  | succ n ih =>
      intro t bytes hn h hdecode hlength
      rcases endsInOctet_or_group h hdecode hlength with hend |
        ⟨a, b, c, d, w, x, y, z, i, j, k, rest, tail, hk, ha, hb, hc, hd, rfl,
          htail, rfl⟩
      · exact ⟨[], t, [], bytes, rfl, Quads.nil, hend, rfl⟩
      · have hrest : forall e, e ∈ rest -> isB64Significant e = true := by
          intro e he
          apply h
          simp [he]
        have hshort : rest.length ≤ n := by
          simp only [List.length_append, List.length_cons] at hn
          omega
        have htailLength : tail.length % 3 = 1 := by
          have hquad : (quadBytes w x y z ++ tail).length = tail.length + 3 := by
            simp [quadBytes]
          omega
        rcases ih hshort hrest htail htailLength with
          ⟨groups, ending, front, last, rfl, hgroups, hend, rfl⟩
        refine ⟨_, ending, _, last, ?_,
          Quads.cons i j k hk ha hb hc hd hgroups, hend, ?_⟩
        · simp
        · simp

/-- What the reader makes of a text that stands for one octet more than its
groups. -/
theorem decodeQuads_iff_spellsLoosely {t : PyStr} {bytes : Bytes}
    (hlength : bytes.length % 3 = 1) :
    decodeQuads 0 0 0 t = some bytes <-> SpellsLoosely t bytes := by
  constructor
  · intro h
    rw [← decodeQuads_filter] at h
    exact quads_of_decode _ (Nat.le_refl _)
      (fun c hc => (List.mem_filter.mp hc).right) h hlength
  · intro hparts
    rcases hparts with ⟨groups, ending, front, tail, ht, hgroups, hend, rfl⟩
    rw [← decodeQuads_filter, ht, decodeQuads_quads hgroups, hend.decodeQuads]
    rfl

end Python
end EidolonSdk
