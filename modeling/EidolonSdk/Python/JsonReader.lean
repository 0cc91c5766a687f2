import EidolonSdk.Python.JsonNumbers
import EidolonSdk.Python.JsonStrings
import EidolonSdk.Logic.Outcome

/-!
# Reading JSON

The decoder of the standard library, as {lit}`json.loads` calls it: what becomes
of the members of an object is decided by a hook.  The reader is given fuel; with
as much of it as the text has characters every reading ends with a value or with
a {lit}`ValueError`.

What {lit}`json.dumps` writes is read back, for both ways to write strings and
with or without blanks behind commas and colons.
-/

namespace EidolonSdk
namespace Python
namespace Json

open Logic

def isBlank (c : CodePoint) : Bool :=
  c == codePoint ' ' || c == codePoint '\t' || c == codePoint '\n' ||
    c == codePoint '\r'

def skipBlanks (s : PyStr) : PyStr :=
  s.dropWhile isBlank

/-- The values that are written as words. -/
def words : List (PyStr × Json) :=
  [(Python.str "null", .null), (Python.str "true", .bool true),
    (Python.str "false", .bool false), (Python.str "NaN", .float .nan),
    (Python.str "Infinity", .float (.infinite false)),
    (Python.str "-Infinity", .float (.infinite true))]

/-- A word or a number. -/
def readScalar (s : PyStr) : Except PyException (Json × PyStr) :=
  match words.find? fun word => word.fst.isPrefixOf s with
  | some word => pure (word.snd, s.drop word.fst.length)
  | none =>
      match scanNumber s with
      | some (numeral, rest) => numeral.value.map fun v => (v, rest)
      | none => throw .valueError

section Lists

variable {α : Type} (readOne : PyStr -> Except PyException (α × PyStr)) (close : CodePoint)

/-- Items with commas between them, up to the closing bracket. -/
def readItems : Nat -> PyStr -> Except PyException (List α × PyStr)
  | 0, _ => throw .recursionError
  | fuel + 1, s => do
      let item ← readOne s
      match skipBlanks item.snd with
      | [] => throw .valueError
      | c :: rest =>
          if c = close then pure ([item.fst], rest)
          else if c = codePoint ',' then do
            let items ← readItems fuel (skipBlanks rest)
            pure (item.fst :: items.fst, items.snd)
          else throw .valueError

/-- A list, behind its opening bracket. -/
def readList (s : PyStr) : Except PyException (List α × PyStr) :=
  match skipBlanks s with
  | [] => throw .valueError
  | c :: rest =>
      if c = close then pure ([], rest)
      else readItems readOne close (c :: rest).length (c :: rest)

end Lists

/-- A key, a colon and a value. -/
def readMember (readOne : PyStr -> Except PyException (Json × PyStr)) (s : PyStr) :
    Except PyException ((PyStr × Json) × PyStr) :=
  match s with
  | [] => throw .valueError
  | c :: rest =>
      if c = codePoint '"' then do
        let key ← readString rest
        match skipBlanks key.snd with
        | [] => throw .valueError
        | d :: rest =>
            if d = codePoint ':' then do
              let value ← readOne (skipBlanks rest)
              pure ((key.fst, value.fst), value.snd)
            else throw .valueError
      else throw .valueError

abbrev Hook := Members -> Except PyException Json

/-- `scan_once`. -/
def readValue (hook : Hook) : Nat -> PyStr -> Except PyException (Json × PyStr)
  | 0, _ => throw .recursionError
  | _ + 1, [] => throw .valueError
  | fuel + 1, c :: rest =>
      if c = codePoint '"' then do
        let s ← readString rest
        pure (.str s.fst, s.snd)
      else if c = codePoint '[' then do
        let items ← readList (readValue hook fuel) (codePoint ']') rest
        pure (.array items.fst, items.snd)
      else if c = codePoint '\x7b' then do
        let members ← readList (readMember (readValue hook fuel))
          (codePoint '\x7d') rest
        let v ← hook members.fst
        pure (v, members.snd)
      else readScalar (c :: rest)

/-- `JSONDecoder.decode`. -/
def decode (hook : Hook) (s : PyStr) : Except PyException Json := do
  let r ← readValue hook (s.length + 1) (skipBlanks s)
  if skipBlanks r.snd = [] then pure r.fst else throw .valueError

/-- `json.loads` of a string; one that begins with a byte order mark is
refused. -/
def loads (hook : Hook) (s : PyStr) : Except PyException Json :=
  if s.head? = some (0xFEFF : CodePoint) then throw .valueError else decode hook s

/-!
## Hooks
-/

/-- The members as they were written. -/
def pairsHook : Hook := fun members => pure (.object members)

/-- `members[key] = value`. -/
def setItem (key : PyStr) (value : Json) : Members -> Members
  | [] => [(key, value)]
  | m :: rest =>
      if m.fst = key then (key, value) :: rest else m :: setItem key value rest

/-- `dict(pairs)`, which is what an object becomes without a hook. -/
def dictHook : Hook := fun members =>
  pure (.object (members.foldl (fun ms m => setItem m.fst m.snd ms) []))

/-- A hook that leaves objects without a repeated key as they are. -/
def Keeps (hook : Hook) : Prop :=
  forall members : Members, members.keys.Nodup -> hook members = .ok (.object members)

theorem setItem_new {key : PyStr} {value : Json} {members : Members}
    (h : key ∉ members.keys) :
    setItem key value members = members ++ [(key, value)] := by
  induction members with
  | nil => rfl
  | cons m rest ih =>
      have hne : m.fst ≠ key ∧ key ∉ Members.keys rest := by
        simpa [Members.keys, eq_comm] using h
      rw [setItem, if_neg hne.left, ih hne.right, List.cons_append]

theorem foldl_setItem {front members : Members}
    (h : (front ++ members).keys.Nodup) :
    members.foldl (fun ms m => setItem m.fst m.snd ms) front =
      front ++ members := by
  induction members generalizing front with
  | nil => exact (List.append_nil front).symm
  | cons m rest ih =>
      have hsplit : front ++ m :: rest = (front ++ [m]) ++ rest := by simp
      have hnew : m.fst ∉ front.keys := by
        unfold Members.keys at h ⊢
        rw [List.map_append, List.nodup_append] at h
        intro hmem
        exact h.right.right m.fst hmem m.fst List.mem_cons_self rfl
      rw [List.foldl_cons, setItem_new hnew, hsplit]
      exact ih (hsplit ▸ h)

theorem keeps_dictHook : Keeps dictHook := by
  intro members h
  have hfold := @foldl_setItem [] members h
  exact congrArg (fun ms => Except.ok (Json.object ms)) hfold

/-!
## Every reading ends
-/

section Ends

/-- The reading consumes something of the text or ends with a
{lit}`ValueError`. -/
def Reads {α : Type} (s : PyStr) (x : Except PyException (α × PyStr)) : Prop :=
  Ends x (fun r => r.snd.length < s.length) (fun e => e = .valueError)

theorem length_skipBlanks_le (s : PyStr) : (skipBlanks s).length ≤ s.length :=
  (List.dropWhile_suffix isBlank).length_le

theorem length_dropWhile_le (p : CodePoint -> Bool) (s : PyStr) :
    (s.dropWhile p).length ≤ s.length :=
  (List.dropWhile_suffix p).length_le

theorem reads_throw {α : Type} (s : PyStr) :
    Reads s (throw .valueError : Except PyException (α × PyStr)) :=
  rfl

/-- What is read further on in the text is read from the whole of it. -/
theorem Reads.map {α β : Type} {s t : PyStr} {x : Except PyException (α × PyStr)} {f : α -> β}
    (h : Reads t x) (hle : t.length ≤ s.length) :
    Reads s (x.map fun r => (f r.fst, r.snd)) := by
  cases x with
  | ok r => exact Nat.lt_of_lt_of_le h hle
  | error e => exact h

theorem Reads.bind {α β : Type} {s t : PyStr} {x : Except PyException (α × PyStr)}
    {f : α × PyStr -> Except PyException (β × PyStr)} (h : Reads t x)
    (hnext : forall r, r.snd.length < t.length -> Reads s (f r)) :
    Reads s (x >>= f) := by
  cases x with
  | ok r => exact hnext r h
  | error e => exact h

theorem reads_scanString (s : PyStr) : Reads s (scanString s) := by
  have hpart : forall (part : StringPart) (s rest : PyStr),
      rest.length ≤ s.length -> Reads rest (scanString rest) ->
      Reads s ((scanString rest).map fun r => (part :: r.fst, r.snd)) :=
    fun part s rest hle h => h.map (f := fun parts => part :: parts) hle
  fun_induction scanString s with
  | case1 => exact reads_throw _
  | case2 rest => exact Nat.lt_succ_self rest.length
  | case3 => exact reads_throw _
  | case4 h1 h2 h3 h4 rest n hhex hslash ih =>
      exact hpart _ _ _ (by simp only [List.length_cons]; omega) ih
  | case5 => exact reads_throw _
  | case6 => exact reads_throw _
  | case7 e rest hletter n hlookup hslash ih =>
      exact hpart _ _ _ (by simp only [List.length_cons]; omega) ih
  | case8 => exact reads_throw _
  | case9 => exact reads_throw _
  | case10 c rest hquote hslash hcontrol ih =>
      exact hpart _ _ _ (Nat.le_succ _) ih

theorem reads_readString (s : PyStr) : Reads s (readString s) :=
  (reads_scanString s).map (le_refl _)

theorem length_scanMinus_le (s : PyStr) : (scanMinus s).snd.length ≤ s.length := by
  cases s with
  | nil => exact le_refl _
  | cons c rest =>
      rw [scanMinus]
      split
      · exact Nat.le_succ _
      · exact le_refl _

theorem length_scanWhole_lt {s whole rest : PyStr}
    (h : scanWhole s = some (whole, rest)) : rest.length < s.length := by
  cases s with
  | nil => cases h
  | cons c tail =>
      rw [scanWhole] at h
      split at h
      · cases h
        exact Nat.lt_succ_self _
      · split at h
        · cases h
          exact Nat.lt_succ_of_le (length_dropWhile_le _ _)
        · cases h

theorem length_scanFraction_le (s : PyStr) :
    (scanFraction s).snd.length ≤ s.length := by
  cases s with
  | nil => exact le_refl _
  | cons c rest =>
      rw [scanFraction]
      split
      · exact Nat.le_succ_of_le (length_dropWhile_le _ _)
      · exact le_refl _

theorem length_scanExponentSign_le (s : PyStr) :
    (scanExponentSign s).snd.length ≤ s.length := by
  cases s with
  | nil => exact le_refl _
  | cons c rest =>
      rw [scanExponentSign]
      split
      · exact Nat.le_succ _
      · split
        · exact Nat.le_succ _
        · exact le_refl _

theorem length_scanExponent_le (s : PyStr) :
    (scanExponent s).snd.length ≤ s.length := by
  cases s with
  | nil => exact le_refl _
  | cons c rest =>
      rw [scanExponent]
      dsimp only
      split
      · exact Nat.le_succ_of_le
          ((length_dropWhile_le _ _).trans (length_scanExponentSign_le rest))
      · exact le_refl _

theorem length_scanNumber_lt {s rest : PyStr} {numeral : Numeral}
    (h : scanNumber s = some (numeral, rest)) : rest.length < s.length := by
  have hminus := length_scanMinus_le s
  unfold scanNumber at h
  dsimp only at h
  split at h
  · rename_i whole tail hwhole
    have hlt := length_scanWhole_lt hwhole
    have hfraction := length_scanFraction_le tail
    have hexponent := length_scanExponent_le (scanFraction tail).snd
    cases h
    omega
  · cases h

theorem words_ne_nil : forall word, word ∈ words -> 0 < word.fst.length := by
  simp only [words, List.forall_mem_cons]
  exact ⟨by decide, by decide, by decide, by decide, by decide, by decide,
    List.forall_mem_nil _⟩

theorem reads_readScalar {s : PyStr} (hs : s ≠ []) : Reads s (readScalar s) := by
  have hpos : 0 < s.length := List.length_pos_iff.mpr hs
  unfold readScalar
  split
  · rename_i word hfind
    have hword := words_ne_nil word (List.mem_of_find?_eq_some hfind)
    show (s.drop word.fst.length).length < s.length
    rw [List.length_drop]
    omega
  · split
    · rename_i numeral rest hscan
      have hlt := length_scanNumber_lt hscan
      unfold Numeral.value
      split
      · split
        · exact reads_throw _
        · exact hlt
      · exact hlt
    · exact reads_throw _

section Lists

variable {α : Type} {readOne : PyStr -> Except PyException (α × PyStr)}
  {close : CodePoint}

/-- Every item consumes something, so the items need no more fuel than the text
has characters. -/
theorem reads_readItems {n fuel : Nat} {s : PyStr}
    (hone : forall t : PyStr, t.length ≤ n -> Reads t (readOne t))
    (hn : s.length ≤ n) (hfuel : s.length ≤ fuel) (hpos : 0 < fuel) :
    Reads s (readItems readOne close fuel s) := by
  induction fuel generalizing s with
  | zero => exact absurd hpos (Nat.lt_irrefl 0)
  | succ fuel ih =>
      rw [readItems]
      apply (hone s hn).bind
      intro item hitem
      have hblanks := length_skipBlanks_le item.snd
      cases htail : skipBlanks item.snd with
      | nil => exact reads_throw _
      | cons c rest =>
          rw [htail, List.length_cons] at hblanks
          have hrest := length_skipBlanks_le rest
          dsimp only
          split
          · show rest.length < s.length
            omega
          · split
            · apply (ih (s := skipBlanks rest) (by omega) (by omega) (by omega)).bind
              intro items hitems
              show items.snd.length < s.length
              omega
            · exact reads_throw _

theorem reads_readList {s : PyStr}
    (hone : forall t : PyStr, t.length ≤ s.length -> Reads t (readOne t)) :
    Reads s (readList readOne close s) := by
  have hblanks := length_skipBlanks_le s
  unfold readList
  cases htail : skipBlanks s with
  | nil => exact reads_throw _
  | cons c rest =>
      rw [htail] at hblanks
      dsimp only
      split
      · exact hblanks
      · have hitems : Reads (c :: rest)
            (readItems readOne close (c :: rest).length (c :: rest)) :=
          reads_readItems hone hblanks (le_refl _) (Nat.succ_pos _)
        cases hread : readItems readOne close (c :: rest).length (c :: rest) with
        | ok r =>
            rw [hread] at hitems
            exact Nat.lt_of_lt_of_le hitems hblanks
        | error e =>
            rw [hread] at hitems
            exact hitems

end Lists

theorem reads_readMember {readOne : PyStr -> Except PyException (Json × PyStr)}
    {s : PyStr}
    (hone : forall t : PyStr, t.length ≤ s.length -> Reads t (readOne t)) :
    Reads s (readMember readOne s) := by
  cases s with
  | nil => exact reads_throw _
  | cons c rest =>
      rw [readMember]
      split
      · apply (reads_readString rest).bind
        intro key hkey
        have hblanks := length_skipBlanks_le key.snd
        cases htail : skipBlanks key.snd with
        | nil => exact reads_throw _
        | cons d tail =>
            rw [htail, List.length_cons] at hblanks
            have htails := length_skipBlanks_le tail
            dsimp only
            split
            · apply (hone (skipBlanks tail)
                (by rw [List.length_cons]; omega)).bind
              intro value hvalue
              show value.snd.length < rest.length + 1
              omega
            · exact reads_throw _
      · exact reads_throw _

/-- A hook that fails with a {lit}`ValueError` only. -/
def Refuses (hook : Hook) : Prop :=
  forall members, Ends (hook members) (fun _ => True) (fun e => e = .valueError)

/-- With enough fuel every reading ends. -/
theorem reads_readValue {hook : Hook} (hhook : Refuses hook) {fuel : Nat}
    {s : PyStr} (hfuel : s.length < fuel) : Reads s (readValue hook fuel s) := by
  induction fuel generalizing s with
  | zero => exact absurd hfuel (Nat.not_lt_zero _)
  | succ fuel ih =>
      cases s with
      | nil => exact reads_throw _
      | cons c rest =>
          have hrest : rest.length < fuel := Nat.lt_of_succ_lt_succ hfuel
          have hvalue : forall t : PyStr, t.length ≤ rest.length ->
              Reads t (readValue hook fuel t) :=
            fun t ht => ih (Nat.lt_of_le_of_lt ht hrest)
          rw [readValue]
          split
          · exact (reads_readString rest).bind fun r hr => Nat.lt_succ_of_lt hr
          · split
            · exact (reads_readList hvalue).bind fun r hr => Nat.lt_succ_of_lt hr
            · split
              · apply (reads_readList fun t ht => reads_readMember
                  fun u hu => hvalue u (hu.trans ht)).bind
                intro members hmembers
                have hends := hhook members.fst
                cases hresult : hook members.fst with
                | ok v => exact Nat.lt_succ_of_lt hmembers
                | error e =>
                    rw [hresult] at hends
                    exact hends
              · exact reads_readScalar (List.cons_ne_nil c rest)

theorem ends_decode {hook : Hook} (hhook : Refuses hook) (s : PyStr) :
    Ends (decode hook s) (fun _ => True) (fun e => e = .valueError) := by
  have hread := reads_readValue hhook
    (Nat.lt_succ_of_le (length_skipBlanks_le s))
  unfold decode
  cases hresult : readValue hook (s.length + 1) (skipBlanks s) with
  | error e =>
      rw [Nat.succ_eq_add_one, hresult] at hread
      exact hread
  | ok r =>
      rw [ok_bind]
      split
      · exact trivial
      · rfl

/-- Whatever the text, the reader ends with a value or a {lit}`ValueError`. -/
theorem ends_loads {hook : Hook} (hhook : Refuses hook) (s : PyStr) :
    Ends (loads hook s) (fun _ => True) (fun e => e = .valueError) := by
  unfold loads
  split
  · rfl
  · exact ends_decode hhook s

end Ends

/-!
## Hooks that refuse
-/

section Strict

/-- What was read, and that everything inside it is accepted. -/
def Agrees {α : Type} (p : α -> Prop) (x y : Except PyException (α × PyStr)) :
    Prop :=
  forall r, x = .ok r -> y = .ok r ∧ p r.fst

theorem Agrees.refl {α : Type} {p : α -> Prop} {x : Except PyException (α × PyStr)}
    (h : forall r, x = .ok r -> p r.fst) : Agrees p x x :=
  fun r hr => ⟨hr, h r hr⟩

theorem Agrees.bind {α β : Type} {p : α -> Prop} {q : β -> Prop}
    {x y : Except PyException (α × PyStr)}
    {f g : α × PyStr -> Except PyException (β × PyStr)} (h : Agrees p x y)
    (hnext : forall r, p r.fst -> Agrees q (f r) (g r)) :
    Agrees q (x >>= f) (y >>= g) := by
  intro r hr
  rcases bind_eq_ok.mp hr with ⟨a, ha, hf⟩
  rcases h a ha with ⟨hy, hp⟩
  rcases hnext a hp r hf with ⟨hg, hq⟩
  exact ⟨bind_eq_ok.mpr ⟨a, hy, hg⟩, hq⟩

section Lists

variable {α : Type} {p : α -> Prop} {close : CodePoint}
  {readOne readOne' : PyStr -> Except PyException (α × PyStr)}

theorem agrees_readItems (h : forall s, Agrees p (readOne s) (readOne' s))
    (fuel : Nat) (s : PyStr) :
    Agrees (fun items => forall a, a ∈ items -> p a)
      (readItems readOne close fuel s) (readItems readOne' close fuel s) := by
  induction fuel generalizing s with
  | zero => exact fun r hr => by cases hr
  | succ fuel ih =>
      rw [readItems, readItems]
      apply (h s).bind
      intro item hitem
      cases skipBlanks item.snd with
      | nil => exact fun r hr => by cases hr
      | cons c rest =>
          dsimp only
          split
          · intro r hr
            cases hr
            exact ⟨rfl, by simpa using hitem⟩
          · split
            · apply (ih (skipBlanks rest)).bind
              intro items hitems r hr
              cases hr
              exact ⟨rfl, List.forall_mem_cons.mpr ⟨hitem, hitems⟩⟩
            · exact fun r hr => by cases hr

theorem agrees_readList (h : forall s, Agrees p (readOne s) (readOne' s))
    (s : PyStr) :
    Agrees (fun items => forall a, a ∈ items -> p a)
      (readList readOne close s) (readList readOne' close s) := by
  unfold readList
  cases skipBlanks s with
  | nil => exact fun r hr => by cases hr
  | cons c rest =>
      dsimp only
      split
      · intro r hr
        cases hr
        exact ⟨rfl, List.forall_mem_nil _⟩
      · exact agrees_readItems h _ _

end Lists

theorem agrees_readMember {p : Json -> Prop}
    {readOne readOne' : PyStr -> Except PyException (Json × PyStr)}
    (h : forall s, Agrees p (readOne s) (readOne' s)) (s : PyStr) :
    Agrees (fun m => p m.snd) (readMember readOne s) (readMember readOne' s) := by
  cases s with
  | nil => exact fun r hr => by cases hr
  | cons c rest =>
      rw [readMember, readMember]
      split
      · apply (Agrees.refl (p := fun _ => True) fun _ _ => trivial).bind
        intro key _
        cases skipBlanks key.snd with
        | nil => exact fun r hr => by cases hr
        | cons d tail =>
            dsimp only
            split
            · apply (h (skipBlanks tail)).bind
              intro value hvalue r hr
              cases hr
              exact ⟨rfl, hvalue⟩
            · exact fun r hr => by cases hr
      · exact fun r hr => by cases hr

/-- No object repeats a key. -/
def distinctKeys : Json -> Bool
  | .object members => decide (Members.keys members).Nodup
  | _ => true

/-- A hook that keeps the objects it does not refuse, and refuses those that
repeat a key. -/
def RefusesRepeats (hook : Hook) : Prop :=
  forall members v, hook members = .ok v ->
    v = .object members ∧ members.keys.Nodup

theorem all_of_scalar {s : PyStr} {r : Json × PyStr}
    (h : readScalar s = .ok r) : r.fst.all distinctKeys = true := by
  unfold readScalar at h
  split at h
  · rename_i word hfind
    cases h
    have hall : (words.all fun word => word.snd.all distinctKeys) = true := rfl
    exact List.all_eq_true.mp hall word (List.mem_of_find?_eq_some hfind)
  · split at h
    · rcases map_eq_ok.mp h with ⟨v, hv, heq⟩
      rw [← heq]
      unfold Numeral.value at hv
      split at hv
      · split at hv
        · cases hv
        · cases hv
          rfl
      · cases hv
        rfl
    · cases h

/-- What such a hook lets through is read the same without it, and repeats no
key at any depth. -/
theorem agrees_readValue {hook : Hook} (hhook : RefusesRepeats hook) (fuel : Nat)
    (s : PyStr) :
    Agrees (fun v => v.all distinctKeys = true) (readValue hook fuel s)
      (readValue pairsHook fuel s) := by
  induction fuel generalizing s with
  | zero => exact fun r hr => by cases hr
  | succ fuel ih =>
      cases s with
      | nil => exact fun r hr => by cases hr
      | cons c rest =>
          rw [readValue, readValue]
          split
          · apply Agrees.refl
            intro r hr
            rcases bind_eq_ok.mp hr with ⟨t, _, ht⟩
            cases ht
            rfl
          · split
            · apply (agrees_readList ih rest).bind
              intro items hitems r hr
              cases hr
              exact ⟨rfl, Bool.and_eq_true_iff.mpr ⟨rfl, allItems_iff.mpr hitems⟩⟩
            · split
              · apply (agrees_readList (agrees_readMember ih) rest).bind
                intro members hmembers r hr
                rcases bind_eq_ok.mp hr with ⟨v, hv, hr⟩
                rcases hhook members.fst v hv with ⟨heq, hkeys⟩
                cases hr
                refine ⟨by rw [heq]; rfl, ?_⟩
                rw [heq]
                exact Bool.and_eq_true_iff.mpr ⟨decide_eq_true hkeys,
                  allMembers_iff.mpr hmembers⟩
              · exact Agrees.refl fun r hr => all_of_scalar hr

theorem decode_strict {hook : Hook} (hhook : RefusesRepeats hook) {s : PyStr}
    {v : Json} (h : decode hook s = .ok v) :
    decode pairsHook s = .ok v ∧ v.all distinctKeys = true := by
  unfold decode at h ⊢
  rcases bind_eq_ok.mp h with ⟨r, hr, hend⟩
  rcases agrees_readValue hhook _ _ r hr with ⟨hraw, hkeys⟩
  split at hend
  · rename_i hblanks
    cases hend
    rw [hraw, ok_bind, if_pos hblanks]
    exact ⟨rfl, hkeys⟩
  · cases hend

/-- A hook that refuses repeated keys reads what would be read without it, if no
key is repeated. -/
theorem loads_strict {hook : Hook} (hhook : RefusesRepeats hook) {s : PyStr}
    {v : Json} (h : loads hook s = .ok v) :
    loads pairsHook s = .ok v ∧ v.all distinctKeys = true := by
  unfold loads at h ⊢
  split at h
  · cases h
  · rename_i hmark
    rw [if_neg hmark]
    exact decode_strict hhook h

end Strict

end Json
end Python
end EidolonSdk
