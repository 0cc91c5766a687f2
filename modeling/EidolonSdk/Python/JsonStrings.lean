import EidolonSdk.Python.JsonSize

/-!
# Reading JSON strings

What {lit}`scanstring` of the standard decoder reads, in two passes.  The first
one takes the text apart into plain characters and escapes, up to the closing
quote; the second one joins two escapes in a row that are the halves of one
character.  A half that was written as a plain character is never joined.
-/

namespace EidolonSdk
namespace Python
namespace Json

/-- One character of the text of a JSON string, or one escape. -/
inductive StringPart where
  | plain (c : CodePoint)
  | escaped (n : CodeUnit)

/-- `BACKSLASH`: what a letter after a backslash stands for. -/
def backslash : List (CodePoint × CodeUnit) :=
  [(codePoint '"', 0x22), (codePoint '\\', 0x5C), (codePoint '/', 0x2F),
    (codePoint 'b', 0x8), (codePoint 'f', 0xC), (codePoint 'n', 0xA),
    (codePoint 'r', 0xD), (codePoint 't', 0x9)]

/-- The value of a hexadecimal digit in either case. -/
def nibble (c : CodePoint) : Option Nat :=
  if 0x30 ≤ c.val ∧ c.val ≤ 0x39 then some (c.val - 0x30)
  else if 0x61 ≤ c.val ∧ c.val ≤ 0x66 then some (c.val - 0x61 + 10)
  else if 0x41 ≤ c.val ∧ c.val ≤ 0x46 then some (c.val - 0x41 + 10)
  else none

/-- `_decode_uXXXX`. -/
def decodeHex (a b c d : CodePoint) : Option CodeUnit := do
  let a ← nibble a
  let b ← nibble b
  let c ← nibble c
  let d ← nibble d
  some (Fin.ofNat 0x10000 (((a * 16 + b) * 16 + c) * 16 + d))

/-- The parts up to the closing quote, and what follows it. -/
def scanString : PyStr -> Except PyException (List StringPart × PyStr)
  | [] => throw .valueError
  | c :: rest =>
      if c = codePoint '"' then pure ([], rest)
      else if c = codePoint '\\' then
        match rest with
        | [] => throw .valueError
        | e :: rest =>
            if e = codePoint 'u' then
              match rest with
              | h1 :: h2 :: h3 :: h4 :: rest =>
                  match decodeHex h1 h2 h3 h4 with
                  | some n =>
                      (scanString rest).map fun r => (.escaped n :: r.fst, r.snd)
                  | none => throw .valueError
              | _ => throw .valueError
            else
              match backslash.lookup e with
              | some n =>
                  (scanString rest).map fun r => (.escaped n :: r.fst, r.snd)
              | none => throw .valueError
      else if c.val < 0x20 then throw .valueError
      else (scanString rest).map fun r => (.plain c :: r.fst, r.snd)

def isHighUnit (n : CodeUnit) : Bool :=
  decide (0xD800 ≤ n.val ∧ n.val < 0xDC00)

def isLowUnit (n : CodeUnit) : Bool :=
  decide (0xDC00 ≤ n.val ∧ n.val < 0xE000)

/-- The character two halves stand for. -/
def joinUnits (high low : CodeUnit) : CodePoint :=
  Fin.ofNat 0x110000
    (0x10000 + (high.val - 0xD800) * 0x400 + (low.val - 0xDC00))

def ofUnit (n : CodeUnit) : CodePoint :=
  ⟨n.val, Nat.lt_trans n.isLt (by decide)⟩

def joinParts : List StringPart -> PyStr
  | [] => []
  | .plain c :: rest => c :: joinParts rest
  | .escaped n :: .escaped m :: rest =>
      if isHighUnit n && isLowUnit m then joinUnits n m :: joinParts rest
      else ofUnit n :: joinParts (.escaped m :: rest)
  | .escaped n :: rest => ofUnit n :: joinParts rest

/-- A string, behind its opening quote. -/
def readString (s : PyStr) : Except PyException (PyStr × PyStr) :=
  (scanString s).map fun r => (joinParts r.fst, r.snd)

/-!
## One part
-/

/-- This text is read as this part. -/
def ReadAs (text : PyStr) (part : StringPart) : Prop :=
  forall rest, scanString (text ++ rest) =
    (scanString rest).map fun r => (part :: r.fst, r.snd)

theorem scanString_close (rest : PyStr) :
    scanString (codePoint '"' :: rest) = .ok ([], rest) := by
  rw [scanString.eq_def]
  exact if_pos rfl

theorem readAs_plain {c : CodePoint} (hquote : c ≠ codePoint '"')
    (hbackslash : c ≠ codePoint '\\') (hcontrol : 0x20 ≤ c.val) :
    ReadAs [c] (.plain c) := by
  intro rest
  rw [List.singleton_append, scanString.eq_def]
  dsimp only
  rw [if_neg hquote, if_neg hbackslash, if_neg (by omega)]

theorem readAs_letter {e : CodePoint} {n : CodeUnit} (hletter : e ≠ codePoint 'u')
    (hlookup : backslash.lookup e = some n) :
    ReadAs [codePoint '\\', e] (.escaped n) := by
  intro rest
  show scanString (codePoint '\\' :: e :: rest) = _
  rw [scanString.eq_def]
  dsimp only
  rw [if_neg (by decide), if_pos rfl, if_neg hletter, hlookup]

theorem nibble_hexDigit {n : Nat} (h : n < 16) : nibble (hexDigit n) = some n := by
  have hall : forall n, n < 16 -> nibble (hexDigit n) = some n := by decide
  exact hall n h

theorem decodeHex_hexText (n : CodeUnit) :
    decodeHex (hexDigit (n.val / 4096 % 16)) (hexDigit (n.val / 256 % 16))
      (hexDigit (n.val / 16 % 16)) (hexDigit (n.val % 16)) = some n := by
  have hn := n.isLt
  have hlt : forall m : Nat, m % 16 < 16 := fun m => Nat.mod_lt m (by decide)
  unfold decodeHex
  rw [nibble_hexDigit (hlt _), nibble_hexDigit (hlt _), nibble_hexDigit (hlt _),
    nibble_hexDigit (hlt _)]
  apply congrArg some
  apply Fin.ext
  show ((_ * 16 + _) * 16 + _) % 0x10000 = n.val
  omega

theorem readAs_hex (n : CodeUnit) :
    ReadAs (Python.str "\\u" ++ hexText 4 n.val) (.escaped n) := by
  intro rest
  rw [hexText_four]
  show scanString (codePoint '\\' :: codePoint 'u' :: hexDigit _ :: hexDigit _ ::
    hexDigit _ :: hexDigit _ :: rest) = _
  rw [scanString.eq_def]
  dsimp only
  rw [if_neg (by decide), if_pos rfl, if_pos rfl, decodeHex_hexText]

/-- A row of texts is read part by part, up to the closing quote. -/
theorem scanString_flatMap {α : Type} {f : α -> PyStr} {part : α -> StringPart}
    {items : List α} (h : forall a, a ∈ items -> ReadAs (f a) (part a))
    (rest : PyStr) :
    scanString (items.flatMap f ++ codePoint '"' :: rest) =
      .ok (items.map part, rest) := by
  induction items with
  | nil => exact scanString_close rest
  | cons a items ih =>
      rw [List.flatMap_cons, List.append_assoc, h a List.mem_cons_self,
        ih fun b hb => h b (List.mem_cons_of_mem a hb)]
      rfl

/-!
## Strings written with every character they have
-/

/-- How {lit}`escapeChar` writes a character. -/
def partOf (c : CodePoint) : StringPart :=
  if h : ShortEscaped c ∨ c.val < 0x20 then
    .escaped ⟨c.val, by
      rcases h with h | h
      · rcases h with h | h | h | h | h | h | h
        all_goals first | omega | (rw [h]; decide)
      · omega⟩
  else .plain c

theorem readAs_escapeChar (c : CodePoint) : ReadAs (escapeChar c) (partOf c) := by
  by_cases hshort : ShortEscaped c
  · have hletter : forall (e : CodePoint) (n : CodeUnit), e ≠ codePoint 'u' ->
        backslash.lookup e = some n -> n.val = c.val ->
        escapeChar c = [codePoint '\\', e] -> ReadAs (escapeChar c) (partOf c) := by
      intro e n he hlookup hval htext
      have hpart : partOf c = .escaped n := by
        rw [partOf, dif_pos (Or.inl hshort)]
        exact congrArg StringPart.escaped (Fin.ext hval.symm)
      rw [htext, hpart]
      exact readAs_letter he hlookup
    have hfeed : forall n : CodePoint, c.val = n.val -> c = n := fun n h => Fin.ext h
    rcases hshort with h | h | h | h | h | h | h
    · exact hletter (codePoint '"') 0x22 (by decide) rfl (by rw [h]; rfl)
        (by rw [h]; rfl)
    · exact hletter (codePoint '\\') 0x5C (by decide) rfl (by rw [h]; rfl)
        (by rw [h]; rfl)
    · exact hletter (codePoint 'n') 0xA (by decide) rfl (by rw [h]; rfl)
        (by rw [h]; rfl)
    · exact hletter (codePoint 'r') 0xD (by decide) rfl (by rw [h]; rfl)
        (by rw [h]; rfl)
    · exact hletter (codePoint 't') 0x9 (by decide) rfl (by rw [h]; rfl)
        (by rw [h]; rfl)
    · exact hletter (codePoint 'f') 0xC (by decide) rfl h.symm
        (by rw [hfeed 0xC h]; rfl)
    · exact hletter (codePoint 'b') 0x8 (by decide) rfl h.symm
        (by rw [hfeed 0x8 h]; rfl)
  · have hrest := hshort
    unfold ShortEscaped at hrest
    simp only [not_or] at hrest
    rcases hrest with ⟨hquote, hbackslash, hnewline, hreturn, htab, hfeed, hback⟩
    unfold escapeChar
    rw [if_neg hquote, if_neg hbackslash, if_neg hnewline, if_neg hreturn,
      if_neg htab, if_neg hfeed, if_neg hback]
    split
    · rename_i hcontrol
      rw [partOf, dif_pos (Or.inr hcontrol)]
      exact readAs_hex ⟨c.val, by omega⟩
    · rename_i hcontrol
      rw [partOf, dif_neg (not_or.mpr ⟨hshort, hcontrol⟩)]
      exact readAs_plain hquote hbackslash (by omega)

theorem joinParts_plain (c : CodePoint) (rest : List StringPart) :
    joinParts (.plain c :: rest) = c :: joinParts rest :=
  rfl

theorem joinParts_escaped {n : CodeUnit} {rest : List StringPart}
    (h : isHighUnit n = true ->
      forall m more, rest = .escaped m :: more -> isLowUnit m = false) :
    joinParts (.escaped n :: rest) = ofUnit n :: joinParts rest := by
  cases rest with
  | nil => rfl
  | cons part more =>
      cases part with
      | plain c => rfl
      | escaped m =>
          rw [joinParts]
          cases hhigh : isHighUnit n with
          | false => rfl
          | true =>
              rw [h hhigh m more rfl]
              rfl

theorem joinParts_partOf (s : PyStr) : joinParts (s.map partOf) = s := by
  induction s with
  | nil => rfl
  | cons c rest ih =>
      rw [List.map_cons, partOf]
      split
      · rename_i h
        have hlow : c.val < 0x80 := by
          rcases h with h | h
          · rcases h with h | h | h | h | h | h | h
            all_goals first | omega | (rw [h]; decide)
          · omega
        have hhigh : isHighUnit ⟨c.val, by omega⟩ = false :=
          decide_eq_false fun h => by
            have hle : 0xD800 ≤ c.val := h.left
            omega
        rw [joinParts_escaped (by simp [hhigh]), ih]
        rfl
      · rw [joinParts_plain, ih]

/-- A string written without escaping what is not ASCII is read back. -/
theorem readString_quoted (s rest : PyStr) :
    readString (s.flatMap escapeChar ++ codePoint '"' :: rest) = .ok (s, rest) := by
  unfold readString
  rw [scanString_flatMap fun c _ => readAs_escapeChar c]
  exact congrArg (fun t => Except.ok (t, rest)) (joinParts_partOf s)

/-!
## Strings written in ASCII
-/

/-- How {lit}`escapeUnit` writes a code unit. -/
def partOfUnit (n : CodeUnit) : StringPart :=
  if (escapeDct.lookup n.val).isNone ∧ 0x20 ≤ n.val ∧ n.val ≤ 0x7E then
    .plain (ofUnit n)
  else .escaped n

theorem readAs_escapeDct : forall e, e ∈ escapeDct -> forall n : CodeUnit,
    n.val = e.fst -> ReadAs e.snd (.escaped n) := by
  have hentry : forall (e : CodePoint) (m n : CodeUnit), e ≠ codePoint 'u' ->
      backslash.lookup e = some m -> n.val = m.val ->
      ReadAs [codePoint '\\', e] (.escaped n) := by
    intro e m n he hlookup hval
    rw [Fin.ext hval]
    exact readAs_letter he hlookup
  simp only [escapeDct, List.forall_mem_cons]
  exact ⟨fun n h => hentry (codePoint '\\') 0x5C n (by decide) rfl h,
    fun n h => hentry (codePoint '"') 0x22 n (by decide) rfl h,
    fun n h => hentry (codePoint 'b') 0x8 n (by decide) rfl h,
    fun n h => hentry (codePoint 'f') 0xC n (by decide) rfl h,
    fun n h => hentry (codePoint 'n') 0xA n (by decide) rfl h,
    fun n h => hentry (codePoint 'r') 0xD n (by decide) rfl h,
    fun n h => hentry (codePoint 't') 0x9 n (by decide) rfl h,
    List.forall_mem_nil _⟩

theorem readAs_escapeUnit (n : CodeUnit) :
    ReadAs (escapeUnit n) (partOfUnit n) := by
  unfold escapeUnit partOfUnit
  cases hlookup : escapeDct.lookup n.val with
  | some text =>
      dsimp only
      rw [if_neg (by simp)]
      exact readAs_escapeDct (n.val, text) (Logic.mem_of_lookup_eq hlookup) n rfl
  | none =>
      dsimp only
      have hne : forall m : Nat, (escapeDct.lookup m).isSome = true -> n.val ≠ m := by
        intro m hm heq
        rw [← heq, hlookup] at hm
        cases hm
      by_cases hprintable : 0x20 ≤ n.val ∧ n.val ≤ 0x7E
      · have hval : Fin.ofNat 0x110000 n.val = ofUnit n :=
          Fin.ext (Nat.mod_eq_of_lt (Nat.lt_trans n.isLt (by decide)))
        rw [if_pos hprintable, if_pos ⟨rfl, hprintable⟩, hval]
        apply readAs_plain
        · intro heq
          exact hne 0x22 (by decide) (congrArg Fin.val heq)
        · intro heq
          exact hne 0x5C (by decide) (congrArg Fin.val heq)
        · exact hprintable.left
      · rw [if_neg hprintable, if_neg fun h => hprintable h.right]
        exact readAs_hex n

theorem partOfUnit_eq_escaped {n m : CodeUnit} (h : partOfUnit n = .escaped m) :
    n = m := by
  unfold partOfUnit at h
  split at h
  · cases h
  · exact StringPart.escaped.inj h

/-- Only two halves in a row are joined. -/
theorem joinParts_partOfUnit {n : CodeUnit} {units : List CodeUnit}
    (h : isHighUnit n = true -> forall m, m ∈ units.head? -> isLowUnit m = false) :
    joinParts ((n :: units).map partOfUnit) =
      ofUnit n :: joinParts (units.map partOfUnit) := by
  rw [List.map_cons, partOfUnit]
  split
  · exact joinParts_plain (ofUnit n) _
  · apply joinParts_escaped
    intro hhigh m more heq
    cases units with
    | nil => cases heq
    | cons u units =>
        rw [← partOfUnit_eq_escaped (List.cons.inj heq).left]
        exact h hhigh u rfl

theorem joinParts_pair {high low : CodeUnit} (hhigh : isHighUnit high = true)
    (hlow : isLowUnit low = true) (units : List CodeUnit) :
    joinParts ((high :: low :: units).map partOfUnit) =
      joinUnits high low :: joinParts (units.map partOfUnit) := by
  have hparts : partOfUnit high = .escaped high ∧ partOfUnit low = .escaped low := by
    have hhigh' := of_decide_eq_true hhigh
    have hlow' := of_decide_eq_true hlow
    unfold partOfUnit
    exact ⟨if_neg (by omega), if_neg (by omega)⟩
  rw [List.map_cons, List.map_cons, hparts.left, hparts.right, joinParts, hhigh,
    hlow]
  rfl

theorem joinParts_utf16 {s : PyStr} (h : unsplit s = true) :
    joinParts ((s.flatMap utf16).map partOfUnit) = s := by
  induction s with
  | nil => rfl
  | cons c rest ih =>
      have hrest := ih (unsplit_tail h)
      rw [List.flatMap_cons]
      by_cases hc : c.val < 0x10000
      · rw [utf16_basic hc, List.singleton_append, joinParts_partOfUnit, hrest]
        · rfl
        · intro hhigh m hm
          cases hunits : rest.flatMap utf16 with
          | nil =>
              rw [hunits] at hm
              cases hm
          | cons u units =>
              rw [hunits] at hm
              cases hm
              apply decide_eq_false
              intro hlow
              rcases utf16_low hunits hlow.left hlow.right
                with ⟨d, t, heq, hsurrogate⟩
              rw [heq] at h
              have hsplit := (Bool.and_eq_true_iff.mp h).left
              have hhigh' : highSurrogate c = true := hhigh
              rw [hhigh', hsurrogate] at hsplit
              cases hsplit
      · rcases utf16_pair hc with ⟨high, low, hpair, hhigh, hlow⟩
        have hlt := c.isLt
        rw [hpair, List.cons_append, List.singleton_append,
          joinParts_pair (decide_eq_true (by omega)) (decide_eq_true (by omega)),
          hrest]
        apply congrArg (· :: rest)
        apply Fin.ext
        show (0x10000 + _ + _) % 0x110000 = _
        omega

/-- A string written in ASCII is read back, if no character of it is split. -/
theorem readString_asciiQuoted {s : PyStr} (h : unsplit s = true) (rest : PyStr) :
    readString ((s.flatMap utf16).flatMap escapeUnit ++ codePoint '"' :: rest) =
      .ok (s, rest) := by
  unfold readString
  rw [scanString_flatMap fun n _ => readAs_escapeUnit n]
  exact congrArg (fun t => Except.ok (t, rest)) (joinParts_utf16 h)

/-- An encodable string has no halves of characters at all. -/
theorem unsplit_of_encodable {s : PyStr} (h : Encodable s) : unsplit s = true := by
  induction s with
  | nil => rfl
  | cons c rest ih =>
      rcases encodable_cons.mp h with ⟨hc, hrest⟩
      cases rest with
      | nil => rfl
      | cons d rest =>
          have hhigh : highSurrogate c = false := by
            apply decide_eq_false
            intro hc'
            exact hc ⟨hc'.left, by omega⟩
          rw [unsplit, hhigh, ih hrest]
          rfl

end Json
end Python
end EidolonSdk
