import EidolonSdk.Coding.Cut
import EidolonSdk.Dart.PercentEncoding

/-!
# Parts of a URI

The text of a URI with a scheme and an authority is cut into its parts at the
marks that end them.  A backslash in front of the query counts as a slash, and
between brackets nothing is a mark.  Parts that are free of the marks that would
end them are found again in their text.
-/

namespace EidolonSdk
namespace Dart

open Python Coding

/-- The parts of a URI as they are written. -/
@[ext] structure UriParts where
  scheme : PyStr
  userInfo : Option PyStr
  host : PyStr
  port : Option PyStr
  path : PyStr
  query : Option PyStr
  fragment : Option PyStr
  deriving DecidableEq

namespace UriParts

def authority (p : UriParts) : PyStr :=
  match p.userInfo with
  | none => p.host ++ behind (codePoint ':') p.port
  | some userInfo =>
      userInfo ++ codePoint '@' :: (p.host ++ behind (codePoint ':') p.port)

def text (p : UriParts) : PyStr :=
  p.scheme ++ str "://" ++ p.authority ++ p.path ++
    behind (codePoint '?') p.query ++ behind (codePoint '#') p.fragment

end UriParts

def slash (c : CodePoint) : CodePoint :=
  if c = codePoint '\\' then codePoint '/' else c

/-!
## Cutting
-/

/-- What stands in front of the first of these marks, and the rest. -/
def upTo (marks : String) (s : PyStr) : PyStr × PyStr :=
  (s.takeWhile fun c => !among marks c, s.dropWhile fun c => !among marks c)

/-- A host with its port, and the rest.  Brackets have to be closed first. -/
def scanHost (s : PyStr) : PyStr × PyStr :=
  if s.head? = some (codePoint '[') then
    match cut (codePoint ']') s with
    | (front, some back) =>
        let (more, rest) := upTo "@/?#\\" back
        (front ++ codePoint ']' :: more, rest)
    | (_, none) => (s, [])
  else upTo "@/?#\\" s

/-- The user information, the host with its port, and the rest.  Of two at signs
the first would belong to the user information, which has to be free of them. -/
def scanAuthority (s : PyStr) : Option (Option PyStr × PyStr × PyStr) :=
  match scanHost s with
  | (front, c :: rest) =>
      if c = codePoint '@' then
        let (hostPort, back) := scanHost rest
        if back.head? = some (codePoint '@') then none
        else some (some front, hostPort, back)
      else some (none, front, c :: rest)
  | (hostPort, []) => some (none, hostPort, [])

/-- A port is behind the first colon that is in no brackets. -/
def splitHost (s : PyStr) : Option (PyStr × Option PyStr) :=
  if s.head? = some (codePoint '[') then
    match cut (codePoint ']') s with
    | (front, some back) =>
        let (more, port) := cut (codePoint ':') back
        some (front ++ codePoint ']' :: more, port)
    | (_, none) => none
  else some (cut (codePoint ':') s)

/-- The parts behind the two slashes. -/
def splitBehind (scheme s : PyStr) : Option UriParts :=
  (scanAuthority s).bind fun (userInfo, hostPort, back) =>
    (splitHost hostPort).map fun (host, port) =>
      let (front, fragment) := cut (codePoint '#') back
      let (path, query) := cut (codePoint '?') front
      { scheme, userInfo, host, port
        path := path.map slash
        query, fragment }

def splitUri (s : PyStr) : Option UriParts :=
  match upTo ":/?#\\" s with
  | (scheme, c :: d :: e :: rest) =>
      if c = codePoint ':' ∧ slash d = codePoint '/' ∧ slash e = codePoint '/' then
        splitBehind scheme rest
      else none
  | _ => none

/-!
## Parts that can be found again
-/

/-- None of the marks occurs. -/
def Free (marks : String) (s : PyStr) : Prop :=
  forall c, c ∈ s -> among marks c = false

section Free

variable {marks : String} {s t : PyStr}

theorem Free.not_mem (h : Free marks s) {c : CodePoint}
    (hc : among marks c = true) : c ∉ s := by
  intro hmem
  rw [h c hmem] at hc
  cases hc

theorem Free.append (hs : Free marks s) (ht : Free marks t) :
    Free marks (s ++ t) := by
  intro c hc
  rcases List.mem_append.mp hc with hc | hc
  · exact hs c hc
  · exact ht c hc

theorem Free.cons {c : CodePoint} (hc : among marks c = false)
    (hs : Free marks s) : Free marks (c :: s) := by
  intro d hd
  rcases List.mem_cons.mp hd with heq | hd
  · exact heq ▸ hc
  · exact hs d hd

theorem Free.behind {mark : CodePoint} (hmark : among marks mark = false)
    {part : Option PyStr} (h : forall s, part = some s -> Free marks s) :
    Free marks (behind mark part) := by
  cases part with
  | none => exact fun c hc => absurd hc List.not_mem_nil
  | some s => exact Free.cons hmark (h s rfl)

theorem Free.weaken {marks' : String} (h : Free marks s)
    (hmarks : forall c, among marks' c = true -> among marks c = true) :
    Free marks' s := by
  intro c hc
  by_contra hlisted
  have hlisted' := hmarks c (Bool.not_eq_false _ ▸ hlisted)
  rw [h c hc] at hlisted'
  cases hlisted'

end Free

/-- The marks of a part do not occur where they would end it. -/
structure UriParts.Delimited (p : UriParts) : Prop where
  scheme : Free ":/?#\\" p.scheme
  userInfo : forall s, p.userInfo = some s -> Free "@/?#\\[" s
  host : Free "@/?#\\" p.host
  brackets : Free "[:" p.host ∨ exists inner,
    p.host = codePoint '[' :: inner ++ [codePoint ']'] ∧ codePoint ']' ∉ inner
  port : forall s, p.port = some s -> Free "@/?#\\" s
  path : exists rest, p.path = behind (codePoint '/') rest
  pathFree : Free "?#\\" p.path
  query : forall s, p.query = some s -> Free "#" s

section Delimited

variable {p : UriParts} {marks : String} {front back : PyStr}

/-- What stands here ends a part at once. -/
def Ends (marks : String) (s : PyStr) : Prop :=
  forall c, s.head? = some c -> among marks c = true

theorem upTo_append (hfront : Free marks front) (hback : Ends marks back) :
    upTo marks (front ++ back) = (front, back) := by
  have hall : forall c, c ∈ front -> (!among marks c) = true := by
    intro c hc
    rw [hfront c hc]
    rfl
  unfold upTo
  rw [List.takeWhile_append_of_pos hall, List.dropWhile_append_of_pos hall]
  cases back with
  | nil => simp
  | cons c rest =>
      have hc : (!among marks c) = false := by
        rw [hback c rfl]
        rfl
      rw [List.takeWhile_cons_of_neg (by rw [hc]; nofun),
        List.dropWhile_cons_of_neg (by rw [hc]; nofun), List.append_nil]

theorem Ends.not_open (h : Ends "@/?#\\" back) :
    back.head? ≠ some (codePoint '[') :=
  fun heq => absurd (h _ heq) (by decide)

theorem not_open_append (hfront : Free "[" front)
    (hback : back.head? ≠ some (codePoint '[')) :
    (front ++ back).head? ≠ some (codePoint '[') := by
  cases front with
  | nil => exact hback
  | cons c rest =>
      intro h
      exact hfront.not_mem (c := codePoint '[') (by decide)
        (Option.some.inj h ▸ List.mem_cons_self)

theorem not_open_behind (port : Option PyStr) :
    (behind (codePoint ':') port).head? ≠ some (codePoint '[') := by
  cases port with
  | none => nofun
  | some digits => exact fun h => absurd (Option.some.inj h) (by decide)

theorem open_brackets (inner back : PyStr) :
    (codePoint '[' :: inner ++ codePoint ']' :: back).head? =
      some (codePoint '[') := rfl

theorem cut_brackets {inner back : PyStr} (hinner : codePoint ']' ∉ inner) :
    cut (codePoint ']') (codePoint '[' :: inner ++ codePoint ']' :: back) =
      (codePoint '[' :: inner, some back) := by
  have hfront : codePoint ']' ∉ codePoint '[' :: inner := by
    intro hmem
    rcases List.mem_cons.mp hmem with heq | hmem
    · exact absurd heq (by decide)
    · exact hinner hmem
  exact cut_append hfront (some back)

theorem splitHost_delimited {host : PyStr} {port : Option PyStr}
    (h : Free "[:" host ∨ exists inner,
      host = codePoint '[' :: inner ++ [codePoint ']'] ∧ codePoint ']' ∉ inner) :
    splitHost (host ++ behind (codePoint ':') port) = some (host, port) := by
  unfold splitHost
  rcases h with hfree | ⟨inner, heq, hinner⟩
  · have hcut := cut_append (hfree.not_mem (c := codePoint ':') (by decide)) port
    have hopen : Free "[" host := hfree.weaken fun c hc =>
      List.contains_iff_mem.mpr (List.mem_cons.mpr (Or.inl (List.mem_singleton.mp
        (List.contains_iff_mem.mp hc))))
    rw [if_neg (not_open_append hopen (not_open_behind port)), hcut]
  · have hport : cut (codePoint ':') (behind (codePoint ':') port) = ([], port) :=
      cut_append (List.not_mem_nil (a := codePoint ':')) port
    have htext : codePoint '[' :: inner ++ [codePoint ']'] ++
        behind (codePoint ':') port =
          codePoint '[' :: inner ++ codePoint ']' :: behind (codePoint ':') port := by
      simp
    rw [heq, htext, if_pos (open_brackets inner _), cut_brackets hinner]
    simp only [hport]

/-- A delimited host is found again, with its port. -/
theorem UriParts.Delimited.scanHost (h : p.Delimited)
    (hback : Ends "@/?#\\" back) :
    Dart.scanHost (p.host ++ behind (codePoint ':') p.port ++ back) =
      (p.host ++ behind (codePoint ':') p.port, back) := by
  have hport : Free "@/?#\\" (behind (codePoint ':') p.port) :=
    Free.behind (by decide) h.port
  unfold Dart.scanHost
  rcases h.brackets with hfree | ⟨inner, heq, hinner⟩
  · have hopen : Free "[" p.host := hfree.weaken fun c hc =>
      List.contains_iff_mem.mpr (List.mem_cons.mpr (Or.inl (List.mem_singleton.mp
        (List.contains_iff_mem.mp hc))))
    have hhead : (behind (codePoint ':') p.port ++ back).head? ≠
        some (codePoint '[') := by
      cases hp : p.port with
      | none => exact hback.not_open
      | some digits => exact fun h => absurd (Option.some.inj h) (by decide)
    rw [List.append_assoc, if_neg (not_open_append hopen hhead), ← List.append_assoc,
      upTo_append (h.host.append hport) hback]
  · have htext : codePoint '[' :: inner ++ [codePoint ']'] ++
        behind (codePoint ':') p.port ++ back = codePoint '[' :: inner ++
          codePoint ']' :: (behind (codePoint ':') p.port ++ back) := by
      simp
    rw [heq, htext, if_pos (open_brackets inner _), cut_brackets hinner]
    simp only [upTo_append hport hback]
    simp

/-- What stands behind the authority. -/
def UriParts.tail (p : UriParts) : PyStr :=
  p.path ++ behind (codePoint '?') p.query ++ behind (codePoint '#') p.fragment

theorem UriParts.Delimited.ends_tail (h : p.Delimited) :
    Ends "/?#" p.tail := by
  rcases h.path with ⟨rest, hrest⟩
  intro c hc
  unfold UriParts.tail at hc
  rw [hrest] at hc
  cases rest with
  | some rest =>
      rw [← Option.some.inj hc]
      decide
  | none =>
      cases hquery : p.query with
      | some query =>
          rw [hquery] at hc
          rw [← Option.some.inj hc]
          decide
      | none =>
          rw [hquery] at hc
          cases hfragment : p.fragment with
          | some fragment =>
              rw [hfragment] at hc
              rw [← Option.some.inj hc]
              decide
          | none =>
              rw [hfragment] at hc
              cases hc

theorem Ends.weaken {marks' : String} (h : Ends marks back)
    (hmarks : forall c, among marks c = true -> among marks' c = true) :
    Ends marks' back :=
  fun c hc => hmarks c (h c hc)

theorem scanAuthority_text (h : p.Delimited) :
    scanAuthority (p.authority ++ p.tail) =
      some (p.userInfo, p.host ++ behind (codePoint ':') p.port, p.tail) := by
  have hends : Ends "@/?#\\" p.tail := h.ends_tail.weaken fun c hc =>
    List.contains_iff_mem.mpr (List.mem_cons_of_mem _
      (List.mem_append_left (str "\\") (List.contains_iff_mem.mp hc)))
  have hat : p.tail.head? ≠ some (codePoint '@') := by
    intro heq
    exact absurd (h.ends_tail _ heq) (by decide)
  have hhost := h.scanHost hends
  unfold scanAuthority UriParts.authority
  cases huser : p.userInfo with
  | none =>
      simp only [hhost]
      cases htail : p.tail with
      | nil => rfl
      | cons c rest =>
          rw [htail] at hat
          simp only [if_neg fun heq => hat (congrArg some heq)]
  | some userInfo =>
      have hfree := h.userInfo userInfo huser
      have hmarks : Free "@/?#\\" userInfo := hfree.weaken fun c hc =>
        List.contains_iff_mem.mpr (List.mem_append_left (str "[")
          (List.contains_iff_mem.mp hc))
      have hopen : Free "[" userInfo := hfree.weaken fun c hc =>
        List.contains_iff_mem.mpr (List.mem_append_right (str "@/?#\\")
          (List.contains_iff_mem.mp hc))
      have hscan : Dart.scanHost (userInfo ++ codePoint '@' ::
          (p.host ++ behind (codePoint ':') p.port ++ p.tail)) =
            (userInfo, codePoint '@' ::
              (p.host ++ behind (codePoint ':') p.port ++ p.tail)) := by
        have hmark : Ends "@/?#\\" (codePoint '@' ::
            (p.host ++ behind (codePoint ':') p.port ++ p.tail)) := by
          intro c hc
          rw [← Option.some.inj hc]
          decide
        unfold Dart.scanHost
        rw [if_neg (not_open_append hopen hmark.not_open),
          upTo_append hmarks hmark]
      rw [List.append_assoc, List.cons_append, hscan]
      simp only [if_true, hhost, if_neg hat]

theorem text_eq (p : UriParts) :
    p.text = p.scheme ++ str "://" ++ (p.authority ++ p.tail) := by
  simp [UriParts.text, UriParts.tail]

theorem map_slash {s : PyStr} (h : Free "?#\\" s) : s.map slash = s := by
  refine (List.map_congr_left ?_).trans (List.map_id s)
  intro c hc
  have hne : c ≠ codePoint '\\' := by
    intro heq
    exact h.not_mem (c := codePoint '\\') (by decide) (heq ▸ hc)
  exact if_neg hne

theorem splitBehind_text (h : p.Delimited) :
    splitBehind p.scheme (p.authority ++ p.tail) = some p := by
  have hfront : Free "#" (p.path ++ behind (codePoint '?') p.query) := by
    refine Free.append (h.pathFree.weaken ?_) (Free.behind (by decide) h.query)
    intro c hc
    exact List.contains_iff_mem.mpr (List.mem_cons_of_mem _
      (List.mem_cons.mpr (Or.inl (List.mem_singleton.mp
        (List.contains_iff_mem.mp hc)))))
  have hfragment := cut_append (hfront.not_mem (c := codePoint '#')
    (by decide)) p.fragment
  have hquery := cut_append (h.pathFree.not_mem (c := codePoint '?')
    (by decide)) p.query
  have hhost := @splitHost_delimited _ p.port h.brackets
  unfold splitBehind
  rw [scanAuthority_text h]
  simp only [Option.bind_some, hhost, Option.map_some, UriParts.tail, hfragment,
    hquery, map_slash h.pathFree]

/-- Delimited parts are found again in their text. -/
theorem splitUri_text (h : p.Delimited) : splitUri p.text = some p := by
  have hmark : Ends ":/?#\\" (str "://" ++ (p.authority ++ p.tail)) := by
    intro c hc
    rw [← Option.some.inj hc]
    decide
  have hscheme := upTo_append h.scheme hmark
  unfold splitUri
  rw [text_eq, List.append_assoc, hscheme]
  exact (if_pos (by decide)).trans (splitBehind_text h)

end Delimited

/-!
## What a text is cut into
-/

section Cutting

variable {p : UriParts} {marks : String} {s : PyStr}

theorem ends_upTo (marks : String) (s : PyStr) : Ends marks (upTo marks s).snd := by
  intro c hc
  have hstop := List.head?_dropWhile_not (fun c => !among marks c) s
  rw [show (s.dropWhile fun c => !among marks c).head? = some c from hc] at hstop
  simpa using hstop

theorem ends_scanHost (s : PyStr) : Ends "@/?#\\" (scanHost s).snd := by
  unfold scanHost
  split
  · split
    · exact ends_upTo _ _
    · exact nofun
  · exact ends_upTo _ _

theorem ends_scanAuthority {userInfo : Option PyStr} {hostPort back : PyStr}
    (h : scanAuthority s = some (userInfo, hostPort, back)) :
    Ends "/?#\\" back := by
  have hmarks : forall {s : PyStr}, Ends "@/?#\\" s ->
      s.head? ≠ some (codePoint '@') -> Ends "/?#\\" s := by
    intro s hs hat c hc
    rcases List.mem_cons.mp (List.contains_iff_mem.mp (hs c hc)) with heq | hmem
    · exact absurd (heq ▸ hc) hat
    · exact List.contains_iff_mem.mpr hmem
  have hfirst := ends_scanHost s
  unfold scanAuthority at h
  cases hscan : scanHost s with
  | mk front rest =>
      rw [hscan] at h hfirst
      cases rest with
      | nil =>
          cases h
          exact nofun
      | cons c rest =>
          simp only at h
          split at h
          · have hagain := ends_scanHost rest
            split at h
            · cases h
            · rename_i hat
              cases h
              exact hmarks hagain hat
          · rename_i hc
            cases h
            exact hmarks hfirst fun heq => hc (Option.some.inj heq)

/-- The path starts at a slash. -/
theorem path_ends (h : Ends "/?#\\" s) : exists rest,
    (cut (codePoint '?') (cut (codePoint '#') s).fst).fst.map slash =
      behind (codePoint '/') rest := by
  cases s with
  | nil => exact ⟨none, rfl⟩
  | cons c rest =>
      have hc : c ∈ [codePoint '/', codePoint '?', codePoint '#', codePoint '\\'] :=
        List.contains_iff_mem.mp (h c rfl)
      have hslash : c ≠ codePoint '#' -> c ≠ codePoint '?' ->
          slash c = codePoint '/' -> exists rest',
            (cut (codePoint '?') (cut (codePoint '#') (c :: rest)).fst).fst.map
              slash = behind (codePoint '/') rest' := by
        intro hhash hquery heq
        rw [cut, if_neg hhash, cut, if_neg hquery, List.map_cons, heq]
        exact ⟨some _, rfl⟩
      simp only [List.mem_cons, List.not_mem_nil, or_false] at hc
      rcases hc with heq | heq | heq | heq
      · exact hslash (by rw [heq]; decide) (by rw [heq]; decide) (by rw [heq]; decide)
      · exact ⟨none, by rw [heq, cut, if_neg (by decide), cut, if_pos rfl]; rfl⟩
      · exact ⟨none, by rw [heq, cut, if_pos rfl]; rfl⟩
      · exact hslash (by rw [heq]; decide) (by rw [heq]; decide) (by rw [heq]; decide)

theorem splitUri_path (h : splitUri s = some p) :
    exists rest, p.path = behind (codePoint '/') rest := by
  unfold splitUri at h
  split at h
  · split at h
    · rcases Option.bind_eq_some_iff.mp h with ⟨⟨userInfo, hostPort, back⟩, hscan, h⟩
      rcases Option.map_eq_some_iff.mp h with ⟨_, _, heq⟩
      rw [← heq]
      exact path_ends (ends_scanAuthority hscan)
    · cases h
  · cases h

end Cutting

end Dart
end EidolonSdk
