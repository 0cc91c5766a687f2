import EidolonSdk.Python.Utf8

/-!
# Event streams and their parser

An event stream is a text of lines.  A line feed, a carriage return or both end a
line; a field line sets or extends what the next empty line dispatches, and a line
that begins with a colon is a comment.  The parser goes through the stream one
character at a time.
-/

namespace EidolonSdk
namespace Streaming

open Python

/-- What is dispatched to the reader of a stream. -/
structure Message where
  event : PyStr
  data : PyStr
  lastEventId : PyStr
  deriving DecidableEq

def lineFeed : CodePoint := codePoint '\n'

def carriageReturn : CodePoint := codePoint '\r'

structure ParserState where
  /-- What has been read of the line that has not ended. -/
  line : PyStr
  /-- A line feed would belong to the carriage return in front of it. -/
  afterReturn : Bool
  data : PyStr
  event : PyStr
  lastEventId : PyStr

namespace ParserState

/-- Between two messages. -/
def idle (lastEventId : PyStr) : ParserState :=
  ⟨[], false, [], [], lastEventId⟩

def processField (field value : PyStr) (s : ParserState) : ParserState :=
  if field = str "event" then { s with event := value }
  else if field = str "data" then { s with data := s.data ++ value ++ [lineFeed] }
  else if field = str "id" then
    if codePoint '\x00' ∈ value then s else { s with lastEventId := value }
  -- `retry` only sets how long the reader waits before it connects again.
  else s

def dispatch (s : ParserState) : ParserState × Option Message :=
  if s.data = [] then ({ s with event := [] }, none)
  else
    ({ s with data := [], event := [] },
      some ⟨if s.event = [] then str "message" else s.event,
        if s.data.getLast? = some lineFeed then s.data.dropLast else s.data,
        s.lastEventId⟩)

/-- Without the one space that may stand behind the colon. -/
def dropSpace (value : PyStr) : PyStr :=
  if value.head? = some (codePoint ' ') then value.tail else value

def processLine (line : PyStr) (s : ParserState) : ParserState × Option Message :=
  match line with
  | [] => s.dispatch
  | c :: _ =>
      if c = codePoint ':' then (s, none)
      else
        let parts := partition line (codePoint ':')
        (s.processField parts.fst (dropSpace parts.snd.snd), none)

def step (s : ParserState) (c : CodePoint) : ParserState × Option Message :=
  if c = lineFeed ∧ s.afterReturn = true then ({ s with afterReturn := false }, none)
  else if c = lineFeed ∨ c = carriageReturn then
    processLine s.line
      { s with line := [], afterReturn := decide (c = carriageReturn) }
  else ({ s with line := s.line ++ [c], afterReturn := false }, none)

/-- Read a text; the messages are those dispatched while it is read. -/
def feed (s : ParserState) : PyStr -> ParserState × List Message
  | [] => (s, [])
  | c :: rest =>
      let next := s.step c
      let later := feed next.fst rest
      (later.fst, next.snd.toList ++ later.snd)

end ParserState

/-- Read a whole stream; `none` where it is not UTF-8.  A byte order mark in front
is no part of it, and what no empty line has dispatched at its end is dropped. -/
def parse (stream : Bytes) : Option (List Message) :=
  (decodeUtf8 stream).map fun s =>
    ((ParserState.idle []).feed
      (if s.head? = some (0xFEFF : CodePoint) then s.tail else s)).snd

/-- No character ends a line. -/
def OneLine (s : PyStr) : Prop :=
  forall c, c ∈ s -> c ≠ lineFeed ∧ c ≠ carriageReturn

instance (s : PyStr) : Decidable (OneLine s) :=
  List.decidableBAll _ s

theorem oneLine_append {s t : PyStr} : OneLine (s ++ t) <-> OneLine s ∧ OneLine t :=
  List.forall_mem_append

theorem oneLine_of_printable {s : PyStr} (h : forall c, c ∈ s -> 0x20 ≤ c.val) :
    OneLine s := by
  intro c hc
  have hlow := h c hc
  constructor
  · intro heq
    rw [heq] at hlow
    exact absurd hlow (by decide)
  · intro heq
    rw [heq] at hlow
    exact absurd hlow (by decide)

/-!
## Reading in parts
-/

/-- Reading the text leads from one state to the other and dispatches the
messages. -/
def Feeds (s : ParserState) (text : PyStr) (t : ParserState)
    (messages : List Message) : Prop :=
  s.feed text = (t, messages)

namespace Feeds

variable {s t u : ParserState} {text more : PyStr} {messages later : List Message}

theorem nil (s : ParserState) : Feeds s [] s [] := rfl

theorem cons {c : CodePoint} {m : Option Message} (hstep : s.step c = (t, m))
    (h : Feeds t text u messages) : Feeds s (c :: text) u (m.toList ++ messages) := by
  unfold Feeds at h ⊢
  rw [ParserState.feed, hstep]
  dsimp only
  rw [h]

/-- A stream may be cut anywhere. -/
theorem append (h : Feeds s text t messages) (hmore : Feeds t more u later) :
    Feeds s (text ++ more) u (messages ++ later) := by
  induction text generalizing s messages with
  | nil =>
      cases h
      exact hmore
  | cons c rest ih =>
      cases h
      rw [List.cons_append, List.append_assoc]
      exact (ih rfl).cons rfl

/-- The characters of a line wait for its end. -/
theorem open_line {line : PyStr} (h : OneLine line) (hs : s.afterReturn = false) :
    Feeds s line { s with line := s.line ++ line } [] := by
  induction line generalizing s with
  | nil =>
      rw [List.append_nil]
      exact nil s
  | cons c rest ih =>
      rcases List.forall_mem_cons.mp h with ⟨hc, hrest⟩
      have hstep : s.step c = ({ s with line := s.line ++ [c] }, none) := by
        unfold ParserState.step
        rw [if_neg fun heq => hc.left heq.left, if_neg (not_or.mpr hc), hs]
      have hopen := ih hrest (s := { s with line := s.line ++ [c] }) hs
      rw [List.append_assoc] at hopen
      exact hopen.cons hstep

/-- One line is processed at its line feed. -/
theorem line {line : PyStr} {m : Option Message} (h : OneLine line)
    (hs : s.line = [] ∧ s.afterReturn = false)
    (hline : s.processLine line = (t, m)) :
    Feeds s (line ++ [lineFeed]) t m.toList := by
  have hopen := open_line h hs.right
  rw [hs.left, List.nil_append] at hopen
  have hend : ParserState.step { s with line := line } lineFeed = (t, m) := by
    unfold ParserState.step
    rw [if_neg (by simp [hs.right]), if_pos (Or.inl rfl),
      decide_eq_false (show ¬ lineFeed = carriageReturn by decide)]
    rcases s with ⟨_, _, data, event, lastEventId⟩
    rcases hs with ⟨rfl, rfl⟩
    exact hline
  have hlast : Feeds { s with line := line } [lineFeed] t (m.toList ++ []) :=
    (nil t).cons hend
  rw [List.append_nil] at hlast
  exact hopen.append hlast

/-- A field line, with the space that a value may begin with. -/
theorem field {name value : PyStr} (hname : OneLine name) (hne : name ≠ [])
    (hcolon : codePoint ':' ∉ name) (hvalue : OneLine value)
    (hs : s.line = [] ∧ s.afterReturn = false) :
    Feeds s (name ++ str ": " ++ value ++ [lineFeed]) (s.processField name value) [] := by
  have hone : OneLine (name ++ str ": " ++ value) :=
    oneLine_append.mpr ⟨oneLine_append.mpr ⟨hname, by decide⟩, hvalue⟩
  have hline : s.processLine (name ++ str ": " ++ value) =
      (s.processField name value, none) := by
    have hparts : partition (name ++ str ": " ++ value) (codePoint ':') =
        (name, [codePoint ':'], codePoint ' ' :: value) := by
      rw [List.append_assoc]
      exact partition_append hcolon
    rcases List.exists_cons_of_ne_nil hne with ⟨c, rest, heq⟩
    have hc : c ≠ codePoint ':' := by
      intro h
      rw [heq, h] at hcolon
      exact hcolon List.mem_cons_self
    rw [heq] at hparts ⊢
    show (if c = codePoint ':' then _ else _) = _
    rw [if_neg hc, hparts]
    rfl
  exact line hone hs hline

theorem comment {text : PyStr} (h : OneLine text)
    (hs : s.line = [] ∧ s.afterReturn = false) :
    Feeds s (codePoint ':' :: text ++ [lineFeed]) s [] :=
  line (List.forall_mem_cons.mpr ⟨by decide, h⟩) hs (if_pos rfl)

theorem blank (hs : s.line = [] ∧ s.afterReturn = false) :
    Feeds s [lineFeed] s.dispatch.fst s.dispatch.snd.toList :=
  line (List.forall_mem_nil _) hs rfl

end Feeds

end Streaming
end EidolonSdk
