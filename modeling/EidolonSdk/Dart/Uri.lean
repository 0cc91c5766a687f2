import EidolonSdk.Dart.DotSegments
import EidolonSdk.Dart.Integers
import EidolonSdk.Dart.UriParts

/-!
# Dart URIs

{lit}`Uri.tryParse` and {lit}`Uri.toString`, as far as URIs with a scheme and an
authority go.  A text of plain characters is taken as it is, but for the usual port
of its scheme.  Of any other text each part is brought into a normal form: scheme
and host in lower case, no default port, no dot segments, and every character
escaped as its component wants it.
-/

namespace EidolonSdk
namespace Dart

open Python Coding

/-!
## Normal forms
-/

def isSchemeCharacter (c : CodePoint) : Bool :=
  among ("ABCDEFGHIJKLMNOPQRSTUVWXYZabcdefghijklmnopqrstuvwxyz" ++
    "0123456789+-.") c

/-- `_makeScheme`. -/
def makeScheme (scheme : PyStr) : Option PyStr :=
  if (scheme.head?.all fun c => !among "0123456789+-." c) = true ∧
      scheme ≠ [] ∧ scheme.all isSchemeCharacter = true then
    some (scheme.map asciiLower)
  else none

def isSubDelimiter (c : CodePoint) : Bool :=
  among "!$&'()*+,;=" c

def userInfoRule : CharRule where
  allowed c := isUnreserved c || isSubDelimiter c || among ":" c

def regNameRule : CharRule where
  allowed c := isUnreserved c || isSubDelimiter c
  lowered := .all

/-- The one of zones in an address. -/
def zoneRule : CharRule where
  allowed := isUnreserved
  lowered := .decoded
  escapeDelimiters := true
  strict := true

def pathRule : CharRule where
  allowed c := isUnreserved c || isSubDelimiter c || among ":@/" c
  escapeDelimiters := true

/-- The one of fragments too. -/
def queryRule : CharRule where
  allowed c := isUnreserved c || isSubDelimiter c || among ":@/?" c
  escapeDelimiters := true

/-- A part that may be missing. -/
def CharRule.readIf (rule : CharRule) : Option PyStr -> Option (Option PyStr)
  | none => some none
  | some s => (rule.read s).map some

/-- `_makeUserInfo`, where there is one. -/
def makeUserInfo : Option PyStr -> Option PyStr
  | none => some []
  | some userInfo => userInfoRule.read userInfo

def isIpv4 (s : PyStr) : Bool :=
  let parts := s.splitOn (codePoint '.')
  parts.length == 4 && parts.all fun part =>
    !part.isEmpty && part.all isDigit && decide (decimal part ≤ 255)

def isHexGroup (s : PyStr) : Bool :=
  !s.isEmpty && decide (s.length ≤ 4) && s.all isHexDigit

/-- A colon at the end has to be one of two. -/
def trimColon : List PyStr -> Option (List PyStr)
  | [] :: [] :: rest => some ([] :: rest)
  | [] :: _ => none
  | pieces => some pieces

/-- `parseIPv6Address`. -/
def isIpv6 (s : PyStr) : Bool :=
  (s.all fun c => isHexDigit c || among ":." c) &&
    match (trimColon (s.splitOn (codePoint ':'))).bind
        (fun pieces => trimColon pieces.reverse) with
    | some (last :: front) =>
        let wide := isIpv4 last
        let groups := front.length + 1 + wide.toNat
        let gaps := (last :: front).countP List.isEmpty
        (wide || last.isEmpty || isHexGroup last) &&
          (front.all fun piece => piece.isEmpty || isHexGroup piece) &&
          (if gaps = 0 then groups == 8 else gaps == 1 && decide (groups ≤ 7))
    | _ => false

/-- What `Uri.parse` makes of a text where its documentation does not say: whether it
takes as it is a port that starts with a zero, or a last segment of one dot in front
of a query or a fragment, and what it takes for the address of a later version. -/
structure Scanner where
  zeroPort : Bool
  lastDot : Bool
  future : PyStr -> Option PyStr
  future_plain : forall s text, future s = some text ->
    text.all (fun c => isUnreserved c || isSubDelimiter c || among ":" c) = true

/-- `parseIPv6Address`, where the address does not start with the letter of a later
version. -/
def Scanner.readAddress (scan : Scanner) (address : PyStr) : Option PyStr :=
  if address.head?.any (among "vV") = true then scan.future address
  else if isIpv6 address = true then some (address.map asciiLower)
  else none

/-- The name of a zone behind its percent sign, which may be escaped itself. -/
def zoneName (zone : PyStr) : PyStr :=
  if zone.take 2 = str "25" then zone.drop 2 else zone

def readZone : Option PyStr -> Option (Option PyStr)
  | none => some none
  | some zone => (zoneRule.read (zoneName zone)).map fun name =>
      some (str "25" ++ name)

/-- An address between its brackets. -/
def makeAddress (scan : Scanner) (inner : PyStr) : Option PyStr :=
  let (address, zone) := cut (codePoint '%') inner
  (scan.readAddress address).bind fun text =>
    (readZone zone).map fun zone => text ++ behind (codePoint '%') zone

/-- `_makeHost`. -/
def makeHost (scan : Scanner) (host : PyStr) : Option PyStr :=
  match host with
  | [] => some []
  | c :: rest =>
      if c = codePoint '[' then
        if rest.getLast? = some (codePoint ']') then
          (makeAddress scan rest.dropLast).map fun inner =>
            codePoint '[' :: inner ++ [codePoint ']']
        else none
      else regNameRule.read host

/-- `_defaultPort`. -/
def defaultPort (scheme : PyStr) : Int :=
  if scheme = str "http" then 80 else if scheme = str "https" then 443 else 0

/-- `_makePort`, behind the reading of the digits. -/
def makePort (scheme : PyStr) : Option PyStr -> Option (Option Int)
  | none => some none
  | some [] => some none
  | some digits =>
      (intTryParse digits).map fun n =>
        if n = defaultPort scheme then none else some n

/-- `_makePath`, behind an authority. -/
def makePath (path : PyStr) : Option PyStr :=
  (pathRule.read path).map removeDotSegments

/-!
## Plain texts
-/

def isPlain (c : CodePoint) : Bool :=
  isUnreserved c || isSubDelimiter c

def isPlainScheme (scheme : PyStr) : Bool :=
  scheme.head?.any (among "abcdefghijklmnopqrstuvwxyz") &&
    scheme.all (among ("abcdefghijklmnopqrstuvwxyz" ++ "0123456789+-."))

namespace Scanner

variable (scan : Scanner)

def isPlainPort (digits : PyStr) : Bool :=
  !digits.isEmpty && digits.all isDigit &&
    (scan.zeroPort || digits.head? != some (codePoint '0'))

/-- The segments that must not be dots. -/
def checked (p : UriParts) : List PyStr :=
  if scan.lastDot = true ∧ (p.query.isSome || p.fragment.isSome) = true ∧
      (segments p.path).getLast? = some (str ".") then
    (segments p.path).dropLast
  else segments p.path

/-- `isSimple`, for a text without backslashes. -/
def isSimple (p : UriParts) : Bool :=
  isPlainScheme p.scheme && p.userInfo.isNone &&
    (p.host.all fun c => isPlain c && asciiLower c == c) &&
    p.port.all scan.isPlainPort &&
    (p.path.all fun c => isPlain c || among "/" c) &&
    ((scan.checked p).all fun piece => piece != str "." && piece != str "..") &&
    (p.query.all fun query => query.all fun c => isPlain c || among "?" c) &&
    p.fragment.all fun fragment => fragment.all fun c => isPlain c || among "?" c

end Scanner

/-- The port a text of this scheme does without. -/
def usualPort (scheme : PyStr) : Option PyStr :=
  if scheme = str "http" then some (str "80")
  else if scheme = str "https" then some (str "443")
  else none

/-!
## URIs
-/

/-- `Uri`, its port as it is printed. -/
structure Uri where
  scheme : PyStr
  userInfo : PyStr
  host : PyStr
  port : Option PyStr
  path : PyStr
  query : Option PyStr
  fragment : Option PyStr
  deriving DecidableEq

/-- `_SimpleUri`. -/
def UriParts.simple (p : UriParts) : Uri where
  scheme := p.scheme
  userInfo := []
  host := p.host
  port := if p.port = usualPort p.scheme then none else p.port
  path := p.path
  query := p.query
  fragment := p.fragment

/-- `_Uri.notSimple`. -/
def UriParts.normalize (scan : Scanner) (p : UriParts) : Option Uri := do
  let scheme ← makeScheme p.scheme
  let userInfo ← makeUserInfo p.userInfo
  let host ← makeHost scan p.host
  let port ← makePort scheme p.port
  let path ← makePath p.path
  let query ← queryRule.readIf p.query
  let fragment ← queryRule.readIf p.fragment
  pure { scheme, userInfo, host, port := port.map intText, path, query, fragment }

/-- No user information is as good as an empty one. -/
def shownUserInfo (userInfo : PyStr) : Option PyStr :=
  if userInfo = [] then none else some userInfo

namespace Uri

/-- `Uri.tryParse`, where there is an authority. -/
def tryParse (scan : Scanner) (s : PyStr) : Option Uri :=
  (splitUri s).bind fun p =>
    if p.text = s ∧ scan.isSimple p = true then some p.simple else p.normalize scan

def parts (u : Uri) : UriParts where
  scheme := u.scheme
  userInfo := shownUserInfo u.userInfo
  host := u.host
  port := u.port
  path := u.path
  query := u.query
  fragment := u.fragment

/-- `Uri.toString`. -/
def toString (u : Uri) : PyStr :=
  u.parts.text

end Uri

/-!
## Parts in normal form
-/

def AddressNormal (scan : Scanner) (inner : PyStr) : Prop :=
  scan.readAddress (cut (codePoint '%') inner).fst =
      some (cut (codePoint '%') inner).fst ∧
    forall zone, (cut (codePoint '%') inner).snd = some zone ->
      zone.take 2 = str "25" ∧ zoneRule.Normal (zone.drop 2)

def HostNormal (scan : Scanner) (host : PyStr) : Prop :=
  if host.head? = some (codePoint '[') then AddressNormal scan host.tail.dropLast
  else regNameRule.Normal host

/-- The parts are written the way they are printed. -/
structure UriParts.Normal (scan : Scanner) (p : UriParts) : Prop where
  scheme : p.scheme.map asciiLower = p.scheme
  userInfo : forall s, p.userInfo = some s -> s ≠ [] ∧ userInfoRule.Normal s
  host : HostNormal scan p.host
  port : forall s, p.port = some s -> exists n, s = intText n ∧ inInt64 n ∧
    n ≠ defaultPort p.scheme
  path : pathRule.Normal p.path
  dots : NoDots (segments p.path)
  query : forall s, p.query = some s -> queryRule.Normal s
  fragment : forall s, p.fragment = some s -> queryRule.Normal s

/-- The parts are printed as they are written. -/
def UriParts.Kept (scan : Scanner) (p : UriParts) : Prop :=
  if scan.isSimple p = true then p.port = none ∨ p.port ≠ usualPort p.scheme
  else p.Normal scan

/-- A text without backslashes whose parts are printed as they are written. -/
def Uri.IsNormal (scan : Scanner) (s : PyStr) : Prop :=
  exists p, splitUri s = some p ∧ p.text = s ∧ p.Kept scan

/-- What becomes of each part. -/
structure UriParts.Normalizes (scan : Scanner) (p : UriParts) (u : Uri) : Prop where
  scheme : makeScheme p.scheme = some u.scheme
  userInfo : makeUserInfo p.userInfo = some u.userInfo
  host : makeHost scan p.host = some u.host
  port : exists port, makePort u.scheme p.port = some port ∧
    u.port = port.map intText
  path : makePath p.path = some u.path
  query : queryRule.readIf p.query = some u.query
  fragment : queryRule.readIf p.fragment = some u.fragment

theorem normalizes_of_eq_some {scan : Scanner} {p : UriParts} {u : Uri}
    (h : p.normalize scan = some u) : p.Normalizes scan u := by
  unfold UriParts.normalize at h
  simp only [bind, Option.bind_eq_some_iff] at h
  rcases h with ⟨scheme, hscheme, userInfo, huser, host, hhost, port, hport, path,
    hpath, query, hquery, fragment, hfragment, heq⟩
  cases heq
  exact ⟨hscheme, huser, hhost, ⟨port, hport, rfl⟩, hpath, hquery, hfragment⟩

section Rules

variable {rule : CharRule}

theorem admits_path : pathRule.Admits := by
  intro c h
  simp [pathRule, h]

/-- None of the marks is ever written. -/
def CharRule.omits (rule : CharRule) (marks : String) : Bool :=
  (str marks).all fun c =>
    c != codePoint '%' && !isUnreserved c && !rule.allowed c

theorem free_of_writes {marks : String} (hmarks : rule.omits marks = true)
    {text : PyStr} (h : forall c, c ∈ text -> rule.Writes c) : Free marks text := by
  intro c hc
  by_contra hlisted
  rw [Bool.not_eq_false] at hlisted
  have hmark := List.all_eq_true.mp hmarks c (List.contains_iff_mem.mp hlisted)
  simp only [Bool.and_eq_true, bne_iff_ne, Bool.not_eq_true'] at hmark
  rcases hmark with ⟨⟨hpercent, hreserved⟩, hallowed⟩
  rcases h c hc with heq | hwrites | hwrites
  · exact hpercent heq
  · rw [hreserved] at hwrites
    cases hwrites
  · rw [hallowed] at hwrites
    cases hwrites

theorem free_of_all {marks : String} {listed : CodePoint -> Bool} {s : PyStr}
    (hmarks : (str marks).all (fun c => !listed c) = true)
    (h : s.all listed = true) : Free marks s := by
  intro c hc
  by_contra hmark
  rw [Bool.not_eq_false] at hmark
  have hunlisted := List.all_eq_true.mp hmarks c (List.contains_iff_mem.mp hmark)
  rw [List.all_eq_true.mp h c hc] at hunlisted
  cases hunlisted

theorem readIf_eq_self {part : Option PyStr} :
    rule.readIf part = some part <->
      forall s, part = some s -> rule.Normal s := by
  cases part with
  | none => simp [CharRule.readIf]
  | some s =>
      have hread := @read_eq_self rule s
      simp [CharRule.readIf, hread]

theorem free_of_readIf {marks : String} (hmarks : rule.omits marks = true)
    {part part' : Option PyStr} (h : rule.readIf part = some part') :
    forall s, part' = some s -> Free marks s := by
  intro s hs
  subst hs
  cases part with
  | none => cases h
  | some t =>
      rcases Option.map_eq_some_iff.mp h with ⟨text, htext, heq⟩
      cases heq
      exact free_of_writes hmarks (writes_of_read htext)

end Rules

section Parts

variable {scan : Scanner}

theorem makeScheme_eq {scheme text : PyStr} (h : makeScheme scheme = some text) :
    text = scheme.map asciiLower := by
  unfold makeScheme at h
  split at h
  · exact (Option.some.inj h).symm
  · cases h

theorem free_makeScheme {scheme text : PyStr} (h : makeScheme scheme = some text) :
    Free ":/?#\\" text := by
  have hall : (str ("ABCDEFGHIJKLMNOPQRSTUVWXYZabcdefghijklmnopqrstuvwxyz" ++
      "0123456789+-.")).all (fun c => !among ":/?#\\" (asciiLower c)) = true := by
    decide
  have hchars : scheme.all isSchemeCharacter = true := by
    unfold makeScheme at h
    split at h
    · rename_i hscheme
      exact hscheme.right.right
    · cases h
  rw [makeScheme_eq h]
  intro c hc
  rcases List.mem_map.mp hc with ⟨d, hd, heq⟩
  have hlisted := List.all_eq_true.mp hall d
    (List.contains_iff_mem.mp (List.all_eq_true.mp hchars d hd))
  rw [← heq]
  simpa using hlisted

theorem shownUserInfo_eq_iff {part : Option PyStr} {text : PyStr}
    (h : makeUserInfo part = some text) :
    shownUserInfo text = part <->
      forall s, part = some s -> s ≠ [] ∧ userInfoRule.Normal s := by
  cases part with
  | none =>
      cases h
      simp [shownUserInfo]
  | some s =>
      have hread : userInfoRule.read s = some text := h
      unfold shownUserInfo
      by_cases hnil : text = []
      · rw [if_pos hnil]
        apply iff_of_false nofun
        intro hnormal
        rcases hnormal s rfl with ⟨hne, hs⟩
        rw [read_eq_self.mpr hs] at hread
        exact hne ((Option.some.inj hread).trans hnil)
      · rw [if_neg hnil, Option.some.injEq]
        constructor
        · intro heq t ht
          cases ht
          rw [heq] at hread hnil
          exact ⟨hnil, read_eq_self.mp hread⟩
        · intro hnormal
          rw [read_eq_self.mpr (hnormal s rfl).right] at hread
          exact (Option.some.inj hread).symm

theorem free_makeUserInfo {part : Option PyStr} {text : PyStr}
    (h : makeUserInfo part = some text) : Free "@/?#\\[" text := by
  cases part with
  | none =>
      cases h
      exact fun c hc => absurd hc List.not_mem_nil
  | some s =>
      exact @free_of_writes userInfoRule _ (by decide) _
        (writes_of_read h)

theorem isIpv6_chars {s : PyStr} (h : isIpv6 s = true) {c : CodePoint}
    (hc : c ∈ s) : c ∈ str "0123456789abcdefABCDEF:." := by
  have hall := List.all_eq_true.mp (Bool.and_eq_true_iff.mp h).left c hc
  have hsplit : str "0123456789abcdefABCDEF:." =
      str "0123456789abcdefABCDEF" ++ str ":." := by decide
  rw [hsplit]
  rcases Bool.or_eq_true_iff.mp hall with hdigit | hmark
  · exact List.mem_append_left _ (List.contains_iff_mem.mp hdigit)
  · exact List.mem_append_right _ (List.contains_iff_mem.mp hmark)

theorem free_readAddress {address text : PyStr}
    (h : scan.readAddress address = some text) : Free "@/?#\\]%" text := by
  unfold Scanner.readAddress at h
  split at h
  · exact free_of_all (by decide) (scan.future_plain _ _ h)
  · split at h
    · rename_i haddress
      have hall : (str "0123456789abcdefABCDEF:.").all
          (fun c => !among "@/?#\\]%" (asciiLower c)) = true := by decide
      rw [← Option.some.inj h]
      intro c hc
      rcases List.mem_map.mp hc with ⟨d, hd, heq⟩
      have hlisted := List.all_eq_true.mp hall d (isIpv6_chars haddress hd)
      rw [← heq]
      simpa using hlisted
    · cases h

theorem readZone_eq_iff {zone read : Option PyStr} (h : readZone zone = some read) :
    read = zone <-> forall name, zone = some name ->
      name.take 2 = str "25" ∧ zoneRule.Normal (name.drop 2) := by
  cases zone with
  | none =>
      cases h
      simp
  | some zone =>
      rcases Option.map_eq_some_iff.mp h with ⟨name, hname, heq⟩
      rw [← heq, Option.some.injEq]
      constructor
      · intro hsame zone' hzone
        cases hzone
        have htake : zone.take 2 = str "25" := by
          rw [← hsame]
          rfl
        have hdrop : zone.drop 2 = name := by
          rw [← hsame]
          rfl
        unfold zoneName at hname
        rw [if_pos htake, hdrop] at hname
        rw [hdrop]
        exact ⟨htake, read_eq_self.mp hname⟩
      · intro hnormal
        rcases hnormal zone rfl with ⟨htake, hdrop⟩
        unfold zoneName at hname
        rw [if_pos htake, read_eq_self.mpr hdrop] at hname
        rw [← Option.some.inj hname, ← htake, List.take_append_drop]

theorem free_readZone {zone read : Option PyStr} (h : readZone zone = some read) :
    Free "@/?#\\]" (behind (codePoint '%') read) := by
  cases zone with
  | none =>
      cases h
      exact fun c hc => absurd hc List.not_mem_nil
  | some zone =>
      rcases Option.map_eq_some_iff.mp h with ⟨name, hname, heq⟩
      rw [← heq]
      have hwritten : Free "@/?#\\]" name :=
        free_of_writes (by decide) (writes_of_read hname)
      have hmark : Free "@/?#\\]" (str "25") := by
        intro c hc
        have hall : (str "25").all (fun c => !among "@/?#\\]" c) = true := by
          decide
        simpa using List.all_eq_true.mp hall c hc
      exact Free.cons (by decide) (hmark.append hwritten)

/-- What an address is made of. -/
theorem makeAddress_eq_some {inner text : PyStr}
    (h : makeAddress scan inner = some text) :
    exists address zone,
      scan.readAddress (cut (codePoint '%') inner).fst = some address ∧
        readZone (cut (codePoint '%') inner).snd = some zone ∧
        text = address ++ behind (codePoint '%') zone := by
  rcases Option.bind_eq_some_iff.mp h with ⟨address, haddress, h⟩
  rcases Option.map_eq_some_iff.mp h with ⟨zone, hzone, heq⟩
  exact ⟨address, zone, haddress, hzone, heq.symm⟩

theorem makeAddress_eq_iff {inner text : PyStr}
    (h : makeAddress scan inner = some text) :
    text = inner <-> AddressNormal scan inner := by
  rcases makeAddress_eq_some h with ⟨address, zone, haddress, hzone, htext⟩
  have hcut : cut (codePoint '%') text = (address, zone) := by
    rw [htext]
    exact cut_append ((free_readAddress haddress).not_mem (by decide)) zone
  unfold AddressNormal
  rw [← readZone_eq_iff hzone, haddress, Option.some.injEq]
  constructor
  · intro heq
    rw [heq] at hcut
    exact ⟨(congrArg Prod.fst hcut).symm, (congrArg Prod.snd hcut).symm⟩
  · intro hnormal
    rw [htext, hnormal.left, hnormal.right, behind_cut]

theorem free_makeAddress {inner text : PyStr}
    (h : makeAddress scan inner = some text) : Free "@/?#\\]" text := by
  rcases makeAddress_eq_some h with ⟨address, zone, haddress, hzone, htext⟩
  rw [htext]
  refine Free.append ((free_readAddress haddress).weaken ?_) (free_readZone hzone)
  intro c hc
  exact List.contains_iff_mem.mpr
    (List.mem_append_left (str "%") (List.contains_iff_mem.mp hc))

/-- A host is an address in brackets or a registered name. -/
theorem makeHost_cases {host text : PyStr} (h : makeHost scan host = some text) :
    (exists inner written, host = codePoint '[' :: inner ++ [codePoint ']'] ∧
      makeAddress scan inner = some written ∧
      text = codePoint '[' :: written ++ [codePoint ']']) ∨
    host.head? ≠ some (codePoint '[') ∧ regNameRule.read host = some text := by
  cases host with
  | nil =>
      cases h
      exact Or.inr ⟨nofun, rfl⟩
  | cons c rest =>
      by_cases hc : c = codePoint '['
      · simp only [makeHost, if_pos hc] at h
        split at h
        · rename_i hclosed
          rcases List.getLast?_eq_some_iff.mp hclosed with ⟨inner, hinner⟩
          rw [hinner, List.dropLast_concat] at h
          rcases Option.map_eq_some_iff.mp h with ⟨written, hwritten, heq⟩
          exact Or.inl ⟨inner, written, by rw [hinner, hc]; rfl, hwritten, heq.symm⟩
        · cases h
      · simp only [makeHost, if_neg hc] at h
        exact Or.inr ⟨fun heq => hc (Option.some.inj heq), h⟩

theorem makeHost_eq_iff {host text : PyStr} (h : makeHost scan host = some text) :
    text = host <-> HostNormal scan host := by
  unfold HostNormal
  rcases makeHost_cases h with ⟨inner, written, hhost, hwritten, htext⟩ |
    ⟨hname, hread⟩
  · have hinner : host.tail.dropLast = inner := by
      rw [hhost]
      exact List.dropLast_concat
    have hopen : host.head? = some (codePoint '[') := by
      rw [hhost]
      rfl
    rw [if_pos hopen, hinner, ← makeAddress_eq_iff hwritten, htext, hhost]
    simp
  · rw [if_neg hname]
    constructor
    · intro heq
      exact read_eq_self.mp (heq ▸ hread)
    · intro hnormal
      rw [read_eq_self.mpr hnormal] at hread
      exact (Option.some.inj hread).symm

theorem free_makeHost {host text : PyStr} (h : makeHost scan host = some text) :
    Free "@/?#\\" text := by
  rcases makeHost_cases h with ⟨inner, written, _, hwritten, htext⟩ | ⟨_, hread⟩
  · have hfree : Free "@/?#\\" written :=
      (free_makeAddress hwritten).weaken fun c hc => List.contains_iff_mem.mpr
        (List.mem_append_left (str "]") (List.contains_iff_mem.mp hc))
    rw [htext]
    exact Free.append (Free.cons (by decide) hfree)
      (Free.cons (by decide) fun c hc => absurd hc List.not_mem_nil)
  · exact @free_of_writes regNameRule _ (by decide) _ (writes_of_read hread)

theorem brackets_makeHost {host text : PyStr} (h : makeHost scan host = some text) :
    Free "[:" text ∨ exists inner,
      text = codePoint '[' :: inner ++ [codePoint ']'] ∧ codePoint ']' ∉ inner := by
  rcases makeHost_cases h with ⟨inner, written, _, hwritten, htext⟩ | ⟨_, hread⟩
  · exact Or.inr ⟨written, htext, (free_makeAddress hwritten).not_mem (by decide)⟩
  · exact Or.inl (@free_of_writes regNameRule _ (by decide) _ (writes_of_read hread))

theorem makePort_some {scheme digits : PyStr} {port : Option Int}
    (h : makePort scheme (some digits) = some port) :
    digits = [] ∧ port = none ∨ exists n, intTryParse digits = some n ∧
      port = if n = defaultPort scheme then none else some n := by
  cases digits with
  | nil => exact Or.inl ⟨rfl, (Option.some.inj h).symm⟩
  | cons c rest =>
      rcases Option.map_eq_some_iff.mp h with ⟨n, hn, heq⟩
      exact Or.inr ⟨n, hn, heq.symm⟩

theorem makePort_eq_iff {scheme : PyStr} {part : Option PyStr} {port : Option Int}
    (h : makePort scheme part = some port) :
    port.map intText = part <-> forall s, part = some s ->
      exists n, s = intText n ∧ inInt64 n ∧ n ≠ defaultPort scheme := by
  cases part with
  | none =>
      cases h
      simp
  | some digits =>
      have hport := makePort_some h
      constructor
      · intro heq s hs
        cases hs
        rcases Option.map_eq_some_iff.mp heq with ⟨n, hn, htext⟩
        rcases hport with ⟨_, hnone⟩ | ⟨m, hm, hshown⟩
        · rw [hnone] at hn
          cases hn
        · rw [hn] at hshown
          split at hshown
          · cases hshown
          · rename_i hdefault
            cases hshown
            exact ⟨n, htext.symm, inInt64_of_intTryParse hm, hdefault⟩
      · intro hnormal
        rcases hnormal digits rfl with ⟨n, htext, hn, hdefault⟩
        have hparse := intTryParse_intText hn
        rw [← htext] at hparse
        rcases hport with ⟨hnil, _⟩ | ⟨m, hm, hshown⟩
        · exact absurd (htext.symm.trans hnil) (intText_ne_nil n)
        · rw [hparse] at hm
          cases hm
          rw [hshown, if_neg hdefault, htext]
          rfl

theorem free_intText (n : Int) : Free "@/?#\\" (intText n) := by
  have hall : (str "-0123456789").all (fun c => !among "@/?#\\" c) = true := by
    decide
  intro c hc
  have hlisted : c ∈ str "-0123456789" := by
    rcases mem_intText hc with heq | hdigit
    · rw [heq]
      exact List.mem_cons_self
    · exact List.mem_cons_of_mem _
        (List.contains_iff_mem.mp (isDigit_of_decimal hdigit))
  simpa using List.all_eq_true.mp hall c hlisted

theorem keeps_slash : pathRule.keeps (.char (codePoint '/')) = true := by
  decide

theorem makePath_eq_iff {path text : PyStr} (h : makePath path = some text) :
    text = path <-> pathRule.Normal path ∧ NoDots (segments path) := by
  rcases Option.map_eq_some_iff.mp h with ⟨read, hread, hremoved⟩
  constructor
  · intro heq
    have hnormal : pathRule.Normal path := by
      rw [← heq, ← hremoved]
      exact normal_removeDotSegments keeps_slash (read_normal admits_path hread)
    rw [read_eq_self.mpr hnormal] at hread
    cases hread
    exact ⟨hnormal, removeDotSegments_eq_self.mp (hremoved.trans heq)⟩
  · intro hnormal
    rw [read_eq_self.mpr hnormal.left] at hread
    cases hread
    exact hremoved.symm.trans (removeDotSegments_eq_self.mpr hnormal.right)

theorem makePath_absolute {rest : Option PyStr} {text : PyStr}
    (h : makePath (behind (codePoint '/') rest) = some text) :
    exists back, text = behind (codePoint '/') back := by
  rcases Option.map_eq_some_iff.mp h with ⟨read, hread, hremoved⟩
  cases rest with
  | none =>
      cases hread
      exact ⟨none, hremoved.symm⟩
  | some rest =>
      have hspelled : spellings (codePoint '/' :: rest) =
          .char (codePoint '/') :: spellings rest :=
        spellings_char fun heq => absurd heq (by decide)
      unfold CharRule.read behind at hread
      rw [hspelled] at hread
      rcases readAll_cons_eq_some.mp hread with ⟨front, back, hfront, _, hjoined⟩
      rw [normalize_char keeps_slash] at hfront
      cases hfront
      rcases removeDotSegments_absolute back with ⟨tail, htail⟩
      rw [← hjoined] at hremoved
      exact ⟨some tail, hremoved.symm.trans htail⟩

theorem free_makePath {path text : PyStr} (h : makePath path = some text) :
    Free "?#\\" text := by
  rcases Option.map_eq_some_iff.mp h with ⟨read, hread, hremoved⟩
  have hfree : Free "?#\\" read :=
    @free_of_writes pathRule _ (by decide) _ (writes_of_read hread)
  rw [← hremoved]
  intro c hc
  rcases mem_removeDotSegments hc with hc | heq
  · exact hfree c hc
  · rw [heq]
    decide

end Parts

/-!
## What is printed
-/

section Printed

variable {scan : Scanner} {p : UriParts} {u : Uri} {s : PyStr}

theorem delimited_parts (h : p.Normalizes scan u)
    (hpath : exists rest, p.path = behind (codePoint '/') rest) :
    u.parts.Delimited where
  scheme := free_makeScheme h.scheme
  userInfo t ht := by
    have hshown : shownUserInfo u.userInfo = some t := ht
    unfold shownUserInfo at hshown
    split at hshown
    · cases hshown
    · cases hshown
      exact free_makeUserInfo h.userInfo
  host := free_makeHost h.host
  brackets := brackets_makeHost h.host
  port t ht := by
    rcases h.port with ⟨port, _, hshown⟩
    rw [show u.port = some t from ht] at hshown
    rcases Option.map_eq_some_iff.mp hshown.symm with ⟨n, _, heq⟩
    rw [← heq]
    exact free_intText n
  path := by
    rcases hpath with ⟨rest, hrest⟩
    have hparsed := h.path
    rw [hrest] at hparsed
    exact makePath_absolute hparsed
  pathFree := free_makePath h.path
  query := free_of_readIf (by decide) h.query

/-- Nothing changes exactly when every part is in normal form. -/
theorem parts_eq_iff (h : p.Normalizes scan u) : u.parts = p <-> p.Normal scan := by
  have hscheme := makeScheme_eq h.scheme
  have huser := shownUserInfo_eq_iff h.userInfo
  have hhost := makeHost_eq_iff h.host
  rcases h.port with ⟨port, hread, hshown⟩
  have hport := makePort_eq_iff hread
  rw [← hshown] at hport
  have hpath := makePath_eq_iff h.path
  rw [UriParts.ext_iff]
  constructor
  · intro heq
    rcases heq with ⟨hs, hu, hh, hp, hpa, hq, hf⟩
    have hquery := h.query
    have hfragment := h.fragment
    rw [show u.query = p.query from hq] at hquery
    rw [show u.fragment = p.fragment from hf] at hfragment
    rcases hpath.mp hpa with ⟨hnormal, hdots⟩
    exact
      { scheme := hscheme.symm.trans hs
        userInfo := huser.mp hu
        host := hhost.mp hh
        port := (show u.scheme = p.scheme from hs) ▸ hport.mp hp
        path := hnormal
        dots := hdots
        query := readIf_eq_self.mp hquery
        fragment := readIf_eq_self.mp hfragment }
  · intro hnormal
    have hs : u.scheme = p.scheme := hscheme.trans hnormal.scheme
    have hquery := (readIf_eq_self.mpr hnormal.query).symm.trans h.query
    have hfragment := (readIf_eq_self.mpr hnormal.fragment).symm.trans h.fragment
    rw [hs] at hport
    exact ⟨hs, huser.mpr hnormal.userInfo, hhost.mpr hnormal.host,
      hport.mpr hnormal.port, hpath.mpr ⟨hnormal.path, hnormal.dots⟩,
      (Option.some.inj hquery).symm, (Option.some.inj hfragment).symm⟩

/-- What is plain. -/
structure UriParts.Plain (p : UriParts) : Prop where
  scheme : p.scheme.all (among ("abcdefghijklmnopqrstuvwxyz" ++ "0123456789+-.")) =
    true
  userInfo : p.userInfo = none
  host : (p.host.all fun c => isPlain c && asciiLower c == c) = true
  port : forall digits, p.port = some digits -> digits.all isDigit = true
  path : (p.path.all fun c => isPlain c || among "/" c) = true
  query : forall query, p.query = some query ->
    (query.all fun c => isPlain c || among "?" c) = true

theorem plain_of_isSimple (h : scan.isSimple p = true) :
    p.Plain := by
  simp only [Scanner.isSimple, isPlainScheme, Bool.and_eq_true,
    Option.isNone_iff_eq_none] at h
  rcases h with ⟨⟨⟨⟨⟨⟨⟨hscheme, huser⟩, hhost⟩, hport⟩, hpath⟩, _⟩, hquery⟩, _⟩
  refine ⟨hscheme.right, huser, hhost, ?_, hpath, ?_⟩
  · intro digits hdigits
    rw [hdigits, Option.all_some] at hport
    simp only [Scanner.isPlainPort, Bool.and_eq_true] at hport
    exact hport.left.right
  · intro query hsome
    rw [hsome, Option.all_some] at hquery
    exact hquery

/-- The parts of a plain text, without its usual port. -/
theorem delimited_simple (h : p.Plain)
    (hpath : exists rest, p.path = behind (codePoint '/') rest) :
    p.simple.parts.Delimited where
  scheme := free_of_all (by decide) h.scheme
  userInfo _ hs := nomatch hs
  host := free_of_all (by decide) h.host
  brackets := Or.inl (free_of_all (by decide) h.host)
  port t ht := by
    have hshown : (if p.port = usualPort p.scheme then none else p.port) = some t := ht
    split at hshown
    · cases hshown
    · exact free_of_all (by decide) (h.port t hshown)
  path := hpath
  pathFree := free_of_all (by decide) h.path
  query t ht := free_of_all (by decide) (h.query t ht)

theorem simple_parts_iff (h : p.Plain) :
    p.simple.parts = p <-> p.port = none ∨ p.port ≠ usualPort p.scheme := by
  rw [UriParts.ext_iff]
  constructor
  · intro heq
    have hport : (if p.port = usualPort p.scheme then none else p.port) = p.port :=
      heq.right.right.right.left
    split at hport
    · exact Or.inl hport.symm
    · rename_i husual
      exact Or.inr husual
  · intro hport
    refine ⟨rfl, h.userInfo.symm, rfl, ?_, rfl, rfl, rfl⟩
    show (if p.port = usualPort p.scheme then none else p.port) = p.port
    split
    · rename_i husual
      rcases hport with hnone | hunusual
      · exact hnone.symm
      · exact absurd husual hunusual
    · rfl

/-- A URI is printed as it was written exactly when its parts are and no backslash
stands for a slash. -/
theorem printed_iff (hsplit : splitUri s = some p) (h : u.parts.Delimited) :
    u.toString = s <-> u.parts = p ∧ p.text = s := by
  constructor
  · intro heq
    have hagain := splitUri_text h
    rw [show u.parts.text = s from heq, hsplit] at hagain
    have hself := (Option.some.inj hagain).symm
    refine ⟨hself, ?_⟩
    rw [← hself]
    exact heq
  · intro hparts
    show u.parts.text = s
    rw [hparts.left, hparts.right]

/-- A URI is printed as it was written exactly when it was in normal form. -/
theorem Uri.toString_eq_iff (h : Uri.tryParse scan s = some u) :
    u.toString = s <-> Uri.IsNormal scan s := by
  rcases Option.bind_eq_some_iff.mp h with ⟨p, hsplit, hread⟩
  have hpath := splitUri_path hsplit
  have hnormal : Uri.IsNormal scan s <-> p.text = s ∧ p.Kept scan := by
    unfold Uri.IsNormal
    constructor
    · intro hnormal
      rcases hnormal with ⟨p', hsplit', hkept⟩
      rw [hsplit] at hsplit'
      cases hsplit'
      exact hkept
    · exact fun hkept => ⟨p, hsplit, hkept⟩
  have hparts : u.parts.Delimited ∧
      (p.text = s -> (u.parts = p <-> p.Kept scan)) := by
    unfold UriParts.Kept
    split at hread
    · rename_i hsimple
      cases hread
      have hplain := plain_of_isSimple hsimple.right
      refine ⟨delimited_simple hplain hpath, fun _ => ?_⟩
      rw [if_pos hsimple.right, simple_parts_iff hplain]
    · rename_i hsimple
      have hnormalizes := normalizes_of_eq_some hread
      refine ⟨delimited_parts hnormalizes hpath, fun htext => ?_⟩
      rw [if_neg fun h => hsimple ⟨htext, h⟩, parts_eq_iff hnormalizes]
  rw [hnormal, printed_iff hsplit hparts.left]
  constructor
  · exact fun h => ⟨h.right, (hparts.right h.right).mp h.left⟩
  · exact fun h => ⟨(hparts.right h.left).mpr h.right, h.left⟩

end Printed

end Dart
end EidolonSdk
