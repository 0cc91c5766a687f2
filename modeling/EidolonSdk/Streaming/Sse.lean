import EidolonSdk.Python.ExactFloats
import EidolonSdk.Python.JsonRoundTrip
import EidolonSdk.Python.JsonSize
import EidolonSdk.Streaming.EventStream

/-!
# Server-sent events

A frame is written without any escaping but that of JSON.  No line break gets into
its fields, so every event comes out of the parser as one message, whatever stands
around it.
-/

namespace EidolonSdk
namespace Streaming

open Python Json

def sseHeartbeatComment : PyStr :=
  str "keepalive"

/-- `str.encode("utf-8")`. -/
def encode (s : PyStr) : Except PyException Bytes :=
  match encodeUtf8 s with
  | some encoded => pure encoded
  | none => throw .unicodeEncodeError

def encodeSseComment (comment : PyStr) : Except PyException Bytes :=
  encode (str ": " ++ comment ++ str "\n\n")

/-- `str.replace` of one character by another. -/
def replaceChar (old new : CodePoint) (s : PyStr) : PyStr :=
  s.map fun c => if c = old then new else c

/-- Line breaks in an id become spaces. -/
def cleanId (eventId : PyStr) : PyStr :=
  replaceChar carriageReturn (codePoint ' ')
    (replaceChar lineFeed (codePoint ' ') eventId)

/-- The line with the id, for one that is neither missing nor empty. -/
def stamp : Option PyStr -> PyStr
  | none => []
  | some eventId =>
      if eventId = [] then [] else str "id: " ++ cleanId eventId ++ str "\n"

/-- `json.dumps(data, ensure_ascii=False)`. -/
def dataStyle (floatText : Double -> String) : Style :=
  ⟨.utf8, floatText, true⟩

def eventText (eventId : Option PyStr) (event data : PyStr) : PyStr :=
  stamp eventId ++ (str "event: " ++ event ++ str "\n" ++
    (str "data: " ++ data ++ str "\n\n"))

def encodeSseEvent (floatText : Double -> String) (event : PyStr) (data : Members)
    (eventId : Option PyStr) : Except PyException Bytes := do
  let text ← (dataStyle floatText).dumps (.object data)
  encode (eventText eventId event text)

/-!
## Frames
-/

structure SseEvent where
  event : PyStr
  data : Members
  eventId : Option PyStr
  event_ne_nil : event ≠ []
  oneLine : OneLine event
  isJson : IsJson (.object data)
  noNul : forall id, eventId = some id -> codePoint '\x00' ∉ id

inductive Frame where
  | comment (text : PyStr) (oneLine : OneLine text)
  | event (e : SseEvent)

namespace Frame

/-- `encode_sse_comment()`. -/
def heartbeat : Frame :=
  .comment sseHeartbeatComment (by decide)

def encoded (floatText : Double -> String) : Frame -> Except PyException Bytes
  | .comment text _ => encodeSseComment text
  | .event e => encodeSseEvent floatText e.event e.data e.eventId

def text (floatText : Double -> String) : Frame -> PyStr
  | .comment text _ => str ": " ++ text ++ str "\n\n"
  | .event e =>
      eventText e.eventId e.event ((dataStyle floatText).text (.object e.data))

def sseEvent? : Frame -> Option SseEvent
  | .comment _ _ => none
  | .event e => some e

/-- Nothing in the frame keeps it from being written: no lone surrogate, and no
integer that is too long for a text. -/
def Sendable : Frame -> Prop
  | .comment text _ => Encodable text
  | .event e => Encodable e.event ∧ EncodableValue (.object e.data) ∧
      (Json.object e.data).all shortInteger = true ∧
      forall id, e.eventId = some id -> Encodable id

end Frame

/-- The ids that mean a position. -/
def positions (events : List SseEvent) : List PyStr :=
  (events.filterMap SseEvent.eventId).filter fun id => decide (id ≠ [])

/-- The most recent of them, without line breaks. -/
def cursor (events : List SseEvent) : PyStr :=
  match (positions events).getLast? with
  | some id => cleanId id
  | none => []

/-!
## One frame
-/

section Replace

variable {old new c : CodePoint} {s : PyStr}

theorem mem_replaceChar (h : c ∈ replaceChar old new s) :
    c = new ∨ c ∈ s ∧ c ≠ old := by
  rcases List.mem_map.mp h with ⟨d, hd, heq⟩
  by_cases hold : d = old
  · rw [if_pos hold] at heq
    exact Or.inl heq.symm
  · rw [if_neg hold] at heq
    rw [← heq]
    exact Or.inr ⟨hd, hold⟩

theorem mem_cleanId (h : c ∈ cleanId s) :
    c = codePoint ' ' ∨ c ∈ s ∧ c ≠ lineFeed ∧ c ≠ carriageReturn := by
  rcases mem_replaceChar h with h | ⟨h, hreturn⟩
  · exact Or.inl h
  · rcases mem_replaceChar h with h | ⟨h, hfeed⟩
    · exact Or.inl h
    · exact Or.inr ⟨h, hfeed, hreturn⟩

theorem oneLine_cleanId (s : PyStr) : OneLine (cleanId s) := by
  intro c hc
  rcases mem_cleanId hc with h | ⟨_, h⟩
  · rw [h]
    decide
  · exact h

end Replace

/-- What a frame does to the last event id. -/
def moveCursor (last : PyStr) : Option PyStr -> PyStr
  | none => last
  | some eventId => if eventId = [] then last else cleanId eventId

open ParserState in
theorem feeds_stamp (last : PyStr) {eventId : Option PyStr}
    (h : forall id, eventId = some id -> codePoint '\x00' ∉ id) :
    Feeds (idle last) (stamp eventId) (idle (moveCursor last eventId)) [] := by
  cases eventId with
  | none => exact .nil _
  | some id =>
      unfold stamp moveCursor
      dsimp only
      by_cases hid : id = []
      · rw [if_pos hid, if_pos hid]
        exact .nil _
      · have hnul : codePoint '\x00' ∉ cleanId id := by
          intro hmem
          rcases mem_cleanId hmem with heq | ⟨hmem, _⟩
          · exact absurd heq (by decide)
          · exact h id rfl hmem
        have hfield : (idle last).processField (str "id") (cleanId id) =
            idle (cleanId id) := by
          unfold processField
          rw [if_neg (by decide), if_neg (by decide), if_pos rfl, if_neg hnul]
          rfl
        have hline := Feeds.field (show OneLine (str "id") by decide) (by decide)
          (by decide) (oneLine_cleanId id) (show (idle last).line = [] ∧ _ from
            ⟨rfl, rfl⟩)
        rw [hfield] at hline
        rw [if_neg hid, if_neg hid, show str "id: " = str "id" ++ str ": " by decide]
        exact hline

/-- An event is one message, and then the parser is between two messages again. -/
theorem feeds_eventText (last : PyStr) {eventId : Option PyStr} {event data : PyStr}
    (hid : forall id, eventId = some id -> codePoint '\x00' ∉ id)
    (hevent : OneLine event) (hne : event ≠ []) (hdata : OneLine data) :
    Feeds (.idle last) (eventText eventId event data)
      (.idle (moveCursor last eventId))
      [⟨event, data, moveCursor last eventId⟩] := by
  have hstamp := feeds_stamp last hid
  generalize moveCursor last eventId = now at hstamp ⊢
  have hname : Feeds (.idle now) (str "event: " ++ event ++ str "\n")
      ⟨[], false, [], event, now⟩ [] := by
    rw [show str "event: " = str "event" ++ str ": " by decide]
    exact Feeds.field (by decide) (by decide) (by decide) hevent ⟨rfl, rfl⟩
  have hbody : Feeds ⟨[], false, [], event, now⟩ (str "data: " ++ data ++ [lineFeed])
      ⟨[], false, data ++ [lineFeed], event, now⟩ [] := by
    rw [show str "data: " = str "data" ++ str ": " by decide]
    exact Feeds.field (by decide) (by decide) (by decide) hdata ⟨rfl, rfl⟩
  have hend : Feeds ⟨[], false, data ++ [lineFeed], event, now⟩ [lineFeed]
      (.idle now) [⟨event, data, now⟩] := by
    have hblank := Feeds.blank
      (show (ParserState.mk [] false (data ++ [lineFeed]) event now).line = [] ∧ _
        from ⟨rfl, rfl⟩)
    unfold ParserState.dispatch at hblank
    simpa [hne, ParserState.idle] using hblank
  have hrest := hbody.append hend
  rw [List.append_assoc] at hrest
  exact hstamp.append (hname.append hrest)

theorem feeds_comment (last : PyStr) {text : PyStr} (h : OneLine text) :
    Feeds (.idle last) (str ": " ++ text ++ str "\n\n") (.idle last) [] := by
  have hline : Feeds (.idle last) (codePoint ':' :: (codePoint ' ' :: text) ++ [lineFeed])
      (.idle last) [] :=
    Feeds.comment (List.forall_mem_cons.mpr ⟨by decide, h⟩) ⟨rfl, rfl⟩
  have hblank : Feeds (.idle last) [lineFeed] (.idle last) [] := .blank ⟨rfl, rfl⟩
  have hboth := hline.append hblank
  rw [List.append_assoc] at hboth
  exact hboth

/-!
## The text of the data
-/

theorem printable_escapeChar {c d : CodePoint} (h : d ∈ escapeChar c) :
    0x20 ≤ d.val := by
  have hplain : forall t : String,
      (str t).all (fun c => decide (0x20 ≤ c.val)) = true -> d ∈ str t ->
        0x20 ≤ d.val :=
    fun t hall hd => of_decide_eq_true (List.all_eq_true.mp hall d hd)
  unfold escapeChar at h
  split_ifs at h with _ _ _ _ _ _ _ hlow
  · exact hplain _ (by decide) h
  · exact hplain _ (by decide) h
  · exact hplain _ (by decide) h
  · exact hplain _ (by decide) h
  · exact hplain _ (by decide) h
  · exact hplain _ (by decide) h
  · exact hplain _ (by decide) h
  · rcases List.mem_append.mp h with h | h
    · exact hplain _ (by decide) h
    · rcases List.mem_map.mp h with ⟨i, _, heq⟩
      have hall : forall m, m < 16 -> 0x20 ≤ (hexDigit m).val := by decide
      rw [← heq]
      exact hall _ (Nat.mod_lt _ (by decide))
  · rw [List.mem_singleton.mp h]
    exact not_lt.mp hlow

section Text

variable {floatText : Double -> String}

/-- The escapes of JSON leave no line break in a text. -/
theorem oneLine_text (hfloat : FloatNumerals floatText) {v : Json} (hv : IsJson v) :
    OneLine ((dataStyle floatText).text v) := by
  apply oneLine_of_printable
  apply forall_mem_text (fun _ hlow _ => hlow) _ hfloat (writable_utf8 hv)
  intro s _ c hc
  rcases List.mem_flatMap.mp hc with ⟨d, _, hc⟩
  exact printable_escapeChar hc

end Text

/-!
## A whole stream
-/

section Stream

variable {floatText : Double -> String}

/-- The messages of events, for a reader that has an id already. -/
def messages (floatText : Double -> String) (last : PyStr) :
    List SseEvent -> List Message
  | [] => []
  | e :: rest =>
      ⟨e.event, (dataStyle floatText).text (.object e.data),
          moveCursor last e.eventId⟩ ::
        messages floatText (moveCursor last e.eventId) rest

theorem feeds_frames (hfloat : FloatNumerals floatText) (frames : List Frame)
    (last : PyStr) : exists now,
    Feeds (.idle last) (frames.flatMap (Frame.text floatText)) (.idle now)
      (messages floatText last (frames.filterMap Frame.sseEvent?)) := by
  induction frames generalizing last with
  | nil => exact ⟨last, .nil _⟩
  | cons frame rest ih =>
      cases frame with
      | comment text hone =>
          rcases ih last with ⟨now, hrest⟩
          exact ⟨now, (feeds_comment last hone).append hrest⟩
      | event e =>
          rcases ih (moveCursor last e.eventId) with ⟨now, hrest⟩
          have hfirst := feeds_eventText last e.noNul e.oneLine e.event_ne_nil
            (oneLine_text hfloat e.isJson)
          exact ⟨now, hfirst.append hrest⟩

/-- The id a message comes with. -/
theorem getElem?_messages (last : PyStr) (events : List SseEvent) (i : Nat) :
    (messages floatText last events)[i]? = events[i]?.map fun e =>
      ⟨e.event, (dataStyle floatText).text (.object e.data),
        ((events.take (i + 1)).map SseEvent.eventId).foldl moveCursor last⟩ := by
  induction events generalizing last i with
  | nil => rfl
  | cons e rest ih =>
      cases i with
      | zero => rfl
      | succ i =>
          rw [messages, List.getElem?_cons_succ, List.getElem?_cons_succ,
            ih (moveCursor last e.eventId) i]
          rfl

theorem length_messages (last : PyStr) (events : List SseEvent) :
    (messages floatText last events).length = events.length := by
  induction events generalizing last with
  | nil => rfl
  | cons e rest ih =>
      rw [messages, List.length_cons, ih, List.length_cons]

/-- Going through the events leaves the id of the last one that has a position. -/
theorem foldl_moveCursor (last : PyStr) (events : List SseEvent) :
    (events.map SseEvent.eventId).foldl moveCursor last =
      match (positions events).getLast? with
      | some id => cleanId id
      | none => last := by
  induction events generalizing last with
  | nil => rfl
  | cons e rest ih =>
      rw [List.map_cons, List.foldl_cons, ih]
      unfold positions
      cases hid : e.eventId with
      | none =>
          rw [List.filterMap_cons_none hid]
          rfl
      | some id =>
          rw [List.filterMap_cons_some hid]
          by_cases hempty : id = []
          · rw [List.filter_cons_of_neg (by simp [hempty])]
            unfold moveCursor
            dsimp only
            rw [if_pos hempty]
          · rw [List.filter_cons_of_pos (by simp [hempty]), List.getLast?_cons]
            unfold moveCursor
            dsimp only
            rw [if_neg hempty]
            cases ((rest.filterMap SseEvent.eventId).filter
              fun id => decide (id ≠ [])).getLast? with
            | none => rfl
            | some later => rfl

theorem encode_eq_ok {s : PyStr} {bytes : Bytes} :
    encode s = .ok bytes <-> encodeUtf8 s = some bytes := by
  unfold encode
  cases encodeUtf8 s with
  | none => simp
  | some encoded => simp [pure, Except.pure]

/-- What is sent for a frame is its text, and its data can be written. -/
theorem encoded_eq_ok {frame : Frame} {bytes : Bytes}
    (h : frame.encoded floatText = .ok bytes) :
    encodeUtf8 (frame.text floatText) = some bytes ∧
      forall e, frame.sseEvent? = some e ->
        (Json.object e.data).all shortInteger = true := by
  cases frame with
  | comment text hone => exact ⟨encode_eq_ok.mp h, nofun⟩
  | event e =>
      rcases Logic.bind_eq_ok.mp h with ⟨text, htext, hencode⟩
      rcases Style.dumps_eq_ok.mp htext with ⟨hshort, rfl⟩
      refine ⟨encode_eq_ok.mp hencode, ?_⟩
      intro e' heq
      rw [← Option.some.inj heq]
      exact hshort

theorem encoded_frames {frames : List Frame} {chunks : List Bytes}
    (h : frames.mapM (Frame.encoded floatText) = .ok chunks) :
    encodeUtf8 (frames.flatMap (Frame.text floatText)) = some chunks.flatten ∧
      forall e, e ∈ frames.filterMap Frame.sseEvent? ->
        (Json.object e.data).all shortInteger = true := by
  induction frames generalizing chunks with
  | nil =>
      cases h
      exact ⟨rfl, List.forall_mem_nil _⟩
  | cons frame rest ih =>
      rw [List.mapM_cons] at h
      rcases Logic.bind_eq_ok.mp h with ⟨bytes, hframe, h⟩
      rcases Logic.bind_eq_ok.mp h with ⟨later, hrest, heq⟩
      cases heq
      rcases encoded_eq_ok hframe with ⟨hbytes, hshort⟩
      rcases ih hrest with ⟨hlater, hshorts⟩
      rcases encodeUtf8_eq_some.mp hbytes with ⟨htext, rfl⟩
      rcases encodeUtf8_eq_some.mp hlater with ⟨htexts, hflatten⟩
      constructor
      · rw [List.flatMap_cons, List.flatten_cons, ← hflatten, ← List.flatMap_append]
        exact encodeUtf8_of_encodable (encodable_append.mpr ⟨htext, htexts⟩)
      · intro e he
        rcases List.mem_filterMap.mp he with ⟨f, hf, hfe⟩
        rcases List.mem_cons.mp hf with heq | hf
        · exact hshort e (heq ▸ hfe)
        · exact hshorts e (List.mem_filterMap.mpr ⟨f, hf, hfe⟩)

theorem encodable_eventText {eventId : Option PyStr} {event data : PyStr}
    (hid : forall id, eventId = some id -> Encodable id) (hevent : Encodable event)
    (hdata : Encodable data) : Encodable (eventText eventId event data) := by
  have hstamp : Encodable (stamp eventId) := by
    cases eventId with
    | none => exact encodable_nil
    | some id =>
        unfold stamp
        dsimp only
        split
        · exact encodable_nil
        · have hclean : Encodable (cleanId id) := by
            intro c hc
            rcases mem_cleanId hc with heq | ⟨hc, _⟩
            · rw [heq]
              exact surrogate_codePoint ' '
            · exact hid id rfl c hc
          simp [hclean]
  unfold eventText
  simp [hstamp, hevent, hdata]

theorem encoded_of_sendable {frame : Frame} (h : frame.Sendable) :
    exists bytes, frame.encoded floatText = .ok bytes := by
  cases frame with
  | comment text hone =>
      have htext : Encodable (str ": " ++ text ++ str "\n\n") := by
        have h : Encodable text := h
        simp [h]
      exact ⟨_, encode_eq_ok.mpr (encodeUtf8_of_encodable htext)⟩
  | event e =>
      rcases h with ⟨hevent, hdata, hshort, hid⟩
      have htext := encodable_eventText hid hevent
        (((dataStyle floatText).encodable_text rfl).mpr hdata)
      exact ⟨_, Logic.bind_eq_ok.mpr ⟨_, Style.dumps_eq_ok.mpr ⟨hshort, rfl⟩,
        encode_eq_ok.mpr (encodeUtf8_of_encodable htext)⟩⟩

theorem exists_chunks {frames : List Frame}
    (h : forall frame, frame ∈ frames -> frame.Sendable) :
    exists chunks, frames.mapM (Frame.encoded floatText) = .ok chunks := by
  induction frames with
  | nil => exact ⟨[], rfl⟩
  | cons frame rest ih =>
      rcases List.forall_mem_cons.mp h with ⟨hframe, hrest⟩
      rcases encoded_of_sendable hframe with ⟨bytes, hbytes⟩
      rcases ih hrest with ⟨chunks, hchunks⟩
      refine ⟨bytes :: chunks, ?_⟩
      rw [List.mapM_cons, hbytes, Logic.ok_bind, hchunks]
      rfl

/-- No stream of frames begins with a byte order mark. -/
theorem head_frames (frames : List Frame) :
    (frames.flatMap (Frame.text floatText)).head? ≠ some (0xFEFF : CodePoint) := by
  cases frames with
  | nil => nofun
  | cons frame rest =>
      have hhead : exists c tail, frame.text floatText = c :: tail ∧ c.val < 0x80 := by
        cases frame with
        | comment text hone => exact ⟨codePoint ':', _, rfl, by decide⟩
        | event e =>
            have hevent : forall id : Option PyStr, stamp id = [] ∨
                exists tail, stamp id = codePoint 'i' :: tail := by
              intro id
              cases id with
              | none => exact Or.inl rfl
              | some id =>
                  unfold stamp
                  dsimp only
                  split
                  · exact Or.inl rfl
                  · exact Or.inr ⟨_, rfl⟩
            unfold Frame.text eventText
            dsimp only
            rcases hevent e.eventId with hstamp | ⟨tail, hstamp⟩
            · rw [hstamp]
              exact ⟨codePoint 'e', _, rfl, by decide⟩
            · rw [hstamp]
              exact ⟨codePoint 'i', _, rfl, by decide⟩
      rcases hhead with ⟨c, tail, heq, hc⟩
      rw [List.flatMap_cons, heq]
      intro h
      rw [Option.some.inj h] at hc
      exact absurd hc (by decide)

/-- Every event that is sent arrives as one message, in its place, under its name,
with its data and with the id of the last position before it; whatever can be
written can be sent. -/
theorem parse_encoded_frames (floatText : Double -> String)
    (hfloat : FloatNumerals floatText) (frames : List Frame) :
    (forall chunks, frames.mapM (Frame.encoded floatText) = .ok chunks ->
      exists received, parse chunks.flatten = some received ∧
        received.length = (frames.filterMap Frame.sseEvent?).length ∧
        forall i e, (frames.filterMap Frame.sseEvent?)[i]? = some e ->
          exists m, received[i]? = some m ∧ m.event = e.event ∧
            loads dictHook m.data = .ok (.object e.data) ∧
            m.lastEventId = cursor ((frames.filterMap Frame.sseEvent?).take (i + 1))) ∧
    ((forall frame, frame ∈ frames -> frame.Sendable) ->
      exists chunks, frames.mapM (Frame.encoded floatText) = .ok chunks) := by
  refine ⟨?_, exists_chunks⟩
  intro chunks h
  rcases encoded_frames h with ⟨hencode, hshort⟩
  rcases feeds_frames hfloat frames [] with ⟨now, hfeeds⟩
  have hparse : parse chunks.flatten =
      some (messages floatText [] (frames.filterMap Frame.sseEvent?)) := by
    unfold parse
    rw [decodeUtf8_encodeUtf8 hencode, Option.map_some, if_neg (head_frames frames),
      hfeeds]
  refine ⟨_, hparse, length_messages [] _, ?_⟩
  intro i e he
  refine ⟨_, by rw [getElem?_messages, he]; rfl, rfl, ?_, foldl_moveCursor [] _⟩
  exact loads_text hfloat keeps_dictHook (writable_utf8 e.isJson)
    (hshort e (List.mem_of_getElem? he))

/-- One event with a position that tries to begin a field of its own, a heartbeat,
and one event without a position. -/
def resumedFrames : List Frame :=
  [.event ⟨str "e", [(str "text", .str (str "a\nb"))], some (str "7\nid: 8"),
      by decide, by decide, by decide, by
        intro id hid
        rw [← Option.some.inj hid]
        decide⟩,
    Frame.heartbeat,
    .event ⟨str "f", [], none, by decide, by decide, by decide, nofun⟩]

theorem parse_encoded_frames_resumed : exists chunks received m,
    resumedFrames.mapM (Frame.encoded exactText) = .ok chunks ∧
      parse chunks.flatten = some received ∧ received.length = 2 ∧
      received[1]? = some m ∧ m.event = str "f" ∧
      m.lastEventId = str "7 id: 8" := by
  rcases parse_encoded_frames exactText floatNumerals_exactText resumedFrames
    with ⟨hparse, hsend⟩
  have hsendable : forall frame, frame ∈ resumedFrames -> frame.Sendable := by
    have htext : EncodableValue (.object [(str "text", .str (str "a\nb"))]) :=
      encodableValue_object (List.forall_mem_singleton.mpr
        ⟨encodable_str _, encodableValue_str (encodable_str _)⟩)
    have hempty : EncodableValue (.object []) :=
      encodableValue_object (List.forall_mem_nil _)
    refine List.forall_mem_cons.mpr ⟨⟨encodable_str _, htext, by decide, ?_⟩,
      List.forall_mem_cons.mpr ⟨encodable_str _,
        List.forall_mem_cons.mpr ⟨⟨encodable_str _, hempty, by decide, nofun⟩,
          List.forall_mem_nil _⟩⟩⟩
    intro id hid
    rw [← Option.some.inj hid]
    exact encodable_str _
  rcases hsend hsendable with ⟨chunks, hchunks⟩
  rcases hparse chunks hchunks with ⟨received, hreceived, hlength, hmessages⟩
  rcases hmessages 1 _ rfl with ⟨m, hm, hname, _, hid⟩
  exact ⟨chunks, received, m, hchunks, hreceived, hlength, hm, hname,
    hid.trans (by decide)⟩

end Stream

end Streaming
end EidolonSdk
