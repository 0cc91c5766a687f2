import EidolonSdk.DeviceFoundation.Lifecycle
import EidolonSdk.DialogueControl.TurnDecision
import EidolonSdk.Pydantic.Wire

/-!
# Transcripts of the role-group stream

A capture ends with a frame that carries its transcript.  A transcript that says
something comes with the metadata of its commitment, which has to be one of the
push-to-talk boundary and of this very text; an empty capture comes without.
-/

namespace EidolonSdk
namespace Control

open Python Pydantic Support DialogueControl
open DeviceFoundation (isAlphanumeric)

/-- `^[A-Za-z0-9_.:-]+$`. -/
def identifierRule : StrRule :=
  { minLength := 1, maxLength := some 128
    pattern := fun s => !s.isEmpty &&
      s.all fun c => isAlphanumeric c || (str "_.:-").contains c }

def transcriptTextRule : StrRule :=
  { maxLength := some 32768 }

section Hash

variable (hash : Sha256)

/-- `Transcript.committed_ptt`. -/
def committedPtt (text : PyStr) (commitment : Option Members) :
    Except PyException Unit :=
  if (strip text).isEmpty then
    if commitment.isSome then throw .valueError else pure ()
  else do
    let decision ← CommittedTurnDecision.fromMetadata
      ((commitment.map Json.object).getD .null)
    if decision.evidence.boundary ≠ .pttSegment then throw .valueError
    if (← decision.matchesText hash (some text)) = false then throw .valueError

structure Transcript where
  captureId : ConStr identifierRule
  text : ConStr transcriptTextRule
  commitment : Option Members
  committed : committedPtt hash text.val commitment = .ok ()

namespace Transcript

/-- `dict | None`. -/
def validCommitment : Validator (Option Members)
  | .null => .ok none
  | .object members => .ok (some members)
  | _ => .error .invalid

def fieldNames : List String :=
  ["type", "capture_id", "text", "commitment"]

/-- The model after its own validator. -/
def checked (captureId : ConStr identifierRule)
    (text : ConStr transcriptTextRule) (commitment : Option Members) :
    Validated (Transcript hash) :=
  match h : committedPtt hash text.val commitment with
  | .ok () => .ok ⟨captureId, text, commitment, h⟩
  | .error e => .error (.ofException e)

/-- `Transcript.model_validate`. -/
def validate : Validator (Transcript hash) :=
  validModel fun members => do
    let (_, captureId, text, commitment, _) ←
      (required members "type" (Wire.literal "transcript").validate).both
        ((required members "capture_id" (validStr identifierRule)).both
          ((required members "text" (validStr transcriptTextRule)).both
            ((withDefault members "commitment" none validCommitment).both
              (onlyMembers members fieldNames))))
    checked hash captureId text commitment

/-- The frame of a text with a commitment, or without the member. -/
def frame (captureId : ConStr identifierRule) (text : PyStr)
    (commitment : Option Json) : Members :=
  [(str "type", .str (str "transcript")),
      (str "capture_id", .str captureId.val), (str "text", .str text)] ++
    match commitment with
    | some value => [(str "commitment", value)]
    | none => []

end Transcript

end Hash

/-!
## What is accepted
-/

section Accepted

variable {hash : Sha256} {captureId : ConStr identifierRule} {text : PyStr}

theorem accepts_transcriptText :
    transcriptTextRule.Accepts text <->
      Encodable text ∧ text.length ≤ 32768 := by
  simp [StrRule.Accepts, transcriptTextRule]

theorem Transcript.accepts_checked {text : ConStr transcriptTextRule}
    {commitment : Option Members} :
    Accepts (checked hash captureId text commitment) <->
      committedPtt hash text.val commitment = .ok () := by
  unfold checked Accepts
  split
  · rename_i h
    exact iff_of_true ⟨_, rfl⟩ h
  · rename_i e h
    rw [h]
    exact iff_of_false nofun nofun

/-- A member that is left out is held as `None`. -/
def Held (commitment : Option Json) (held : Option Members) : Prop :=
  commitment = none ∧ held = none ∨
    exists value, commitment = some value ∧
      Transcript.validCommitment value = .ok held

theorem Transcript.frame_get (captureId : ConStr identifierRule) (text : PyStr)
    (commitment : Option Json) :
    (frame captureId text commitment).get "type" =
        some (.str (str "transcript")) ∧
      (frame captureId text commitment).get "capture_id" =
        some (.str captureId.val) ∧
      (frame captureId text commitment).get "text" = some (.str text) ∧
      (frame captureId text commitment).get "commitment" = commitment ∧
      (frame captureId text commitment).keys ⊆ fieldNames.map str := by
  cases commitment with
  | none => simp [frame, Members.keys, fieldNames]
  | some value => simp [frame, Members.keys, fieldNames]

theorem Transcript.accepts_frame {commitment : Option Json} :
    Accepts (validate hash (.object (frame captureId text commitment))) <->
      transcriptTextRule.Accepts text ∧
        exists held, Held commitment held ∧
          committedPtt hash text held = .ok () := by
  rcases frame_get captureId text commitment with
    ⟨htype, hcapture, htext, hcommitment, hknown⟩
  have hvalidate : Accepts (validate hash
      (.object (frame captureId text commitment))) <-> _ := accepts_bind
  rw [hvalidate]
  constructor
  · intro h
    rcases h with ⟨⟨_, captured, said, held, _⟩, hfields, hchecked⟩
    simp only [Validated.both_eq_ok, required_eq_ok, withDefault_eq_ok, htext,
      hcommitment, validStr_ok_iff] at hfields
    rcases hfields with ⟨_, _, ⟨_, hvalue, hsaid⟩, hheld, _⟩
    cases hvalue
    rw [Json.str.inj hsaid]
    exact ⟨said.property, held, hheld, accepts_checked.mp hchecked⟩
  · intro h
    rcases h with ⟨haccepts, held, hheld, hcommitted⟩
    refine ⟨⟨(), captureId, ⟨text, haccepts⟩, held, ()⟩, ?_,
      accepts_checked.mpr hcommitted⟩
    simp only [Validated.both_eq_ok, required_eq_ok, withDefault_eq_ok, htype,
      hcapture, htext, hcommitment, validStr_ok_iff, onlyMembers_eq_ok]
    exact ⟨⟨_, rfl, (Wire.literal "transcript").validate_dump ()⟩,
      ⟨_, rfl, rfl⟩, ⟨_, rfl, rfl⟩, hheld, hknown⟩

theorem strip_ne_nil {s : PyStr} (h : strip s ≠ []) : s ≠ [] := by
  intro heq
  rcases heq with rfl
  exact h rfl

theorem committedPtt_blank {held : Option Members} (h : strip text = []) :
    committedPtt hash text held = .ok () <-> held = none := by
  have hempty : (strip text).isEmpty = true := List.isEmpty_iff.mpr h
  unfold committedPtt
  rw [if_pos hempty]
  cases held with
  | none => exact iff_of_true rfl rfl
  | some members => exact iff_of_false nofun nofun

theorem committedPtt_said {members : Members} {decision : CommittedTurnDecision}
    (h : strip text ≠ [])
    (hdecision : CommittedTurnDecision.fromMetadata (.object members) =
      .ok decision) :
    committedPtt hash text (some members) = .ok () <->
      decision.evidence.boundary = .pttSegment ∧
        decision.matchesText hash (some text) = .ok true := by
  have hempty : ¬ (strip text).isEmpty = true := fun heq =>
    h (List.isEmpty_iff.mp heq)
  unfold committedPtt
  rw [if_neg hempty]
  simp only [Option.map_some, Option.getD_some, hdecision, Logic.ok_bind,
    Logic.refused_bind_eq_ok, not_not]
  apply and_congr_right
  intro _
  cases decision.matchesText hash (some text) with
  | error e => exact iff_of_false nofun nofun
  | ok b =>
      cases b with
      | true => exact iff_of_true rfl rfl
      | false => exact iff_of_false nofun nofun

/-- The two texts are no collision of the hash. -/
def NoCollision (hash : Sha256) (text other : PyStr) : Prop :=
  forall x y, encodeUtf8 (strip text) = some x ->
    encodeUtf8 (strip other) = some y -> hash.digest x = hash.digest y -> x = y

/-- The digest of one text is matched by the texts that are the same when
trimmed. -/
theorem matchesText_created {committed : PyStr} {boundary : TurnCommitBoundary}
    {eotScore : Json} {decision : CommittedTurnDecision}
    (hcreated : CommittedTurnDecision.create hash committed boundary eotScore =
      .ok decision)
    (hcollision : NoCollision hash committed text) (h : strip text ≠ []) :
    decision.matchesText hash (some text) = .ok true <->
      strip text = strip committed := by
  rcases CommittedTurnDecision.create_eq_ok.mp hcreated with
    ⟨_, bytes, _, hbytes, rfl⟩
  rw [CommittedTurnDecision.matchesText_eq_true]
  constructor
  · intro hmatches
    rcases hmatches with ⟨_, said, hsaid, hdigest⟩
    have heq := hcollision bytes said hbytes hsaid
      (Sha256.hexdigest_eq_iff.mp hdigest)
    rw [← heq] at hsaid
    exact encodeUtf8_inj hsaid hbytes
  · intro heq
    exact ⟨strip_ne_nil h, bytes, heq ▸ hbytes, rfl⟩

theorem heldNone_iff {commitment : Option Json} :
    Held commitment none <-> commitment = none ∨ commitment = some .null := by
  have hnull : forall value, Transcript.validCommitment value = .ok none <->
      value = .null := by
    intro value
    cases value with
    | null => exact iff_of_true rfl rfl
    | object members => exact iff_of_false nofun nofun
    | bool b => exact iff_of_false nofun nofun
    | int n => exact iff_of_false nofun nofun
    | float x => exact iff_of_false nofun nofun
    | str s => exact iff_of_false nofun nofun
    | array items => exact iff_of_false nofun nofun
  unfold Held
  simp only [and_true, hnull, exists_eq_right]

theorem held_some_iff {members : Members} {held : Option Members} :
    Held (some (.object members)) held <-> held = some members := by
  simp [Held, Transcript.validCommitment, eq_comm]

end Accepted

/-- Metadata comes back as it was created, and a transcript is accepted with it
exactly if it is what was committed at the push-to-talk boundary; a transcript
that says nothing is accepted without a commitment only. -/
theorem committed_transcript_bound (hash : Sha256) {committed : PyStr}
    (boundary : TurnCommitBoundary) {eotScore : Json}
    (hcommitted : Encodable committed) (hscore : IsScore eotScore) :
    exists decision,
      CommittedTurnDecision.create hash committed boundary eotScore =
        .ok decision ∧
      CommittedTurnDecision.fromMetadata (.object decision.asMetadata) =
        .ok decision ∧
      forall (captureId : ConStr identifierRule) (text : PyStr),
        text.length ≤ 32768 ->
        (NoCollision hash committed text ->
          (Accepts (Transcript.validate hash (.object (Transcript.frame captureId
              text (some (.object decision.asMetadata))))) <->
            strip text ≠ [] ∧ boundary = .pttSegment ∧
              strip text = strip committed)) ∧
        (strip text = [] -> forall commitment,
          (Accepts (Transcript.validate hash
              (.object (Transcript.frame captureId text commitment))) <->
            commitment = none ∨ commitment = some .null)) := by
  rcases CommittedTurnDecision.create_ok hash boundary hcommitted hscore with
    ⟨decision, hcreated⟩
  have hparsed := CommittedTurnDecision.fromMetadata_asMetadata
    (CommittedTurnDecision.create_committed hcreated)
  refine ⟨decision, hcreated, hparsed, ?_⟩
  intro captureId text hlength
  constructor
  · intro hcollision
    rw [Transcript.accepts_frame, accepts_transcriptText]
    simp only [held_some_iff, exists_eq_left]
    by_cases hblank : strip text = []
    · rw [committedPtt_blank hblank]
      exact iff_of_false (fun h => nomatch h.right) fun h => h.left hblank
    · rw [committedPtt_said hblank hparsed,
        matchesText_created hcreated hcollision hblank,
        CommittedTurnDecision.create_boundary hcreated, and_iff_right hblank]
      apply and_iff_right_of_imp
      intro h
      rw [← encodable_strip, h.right, encodable_strip]
      exact ⟨hcommitted, hlength⟩
  · intro hblank commitment
    have hencodable : Encodable text := by
      rw [← encodable_strip, hblank]
      exact encodable_nil
    rw [Transcript.accepts_frame, accepts_transcriptText,
      and_iff_right ⟨hencodable, hlength⟩]
    simp only [committedPtt_blank hblank, exists_eq_right]
    exact heldNone_iff

/-- SHA-256 of the transcript `hello`. -/
def helloDigest : Bytes :=
  [44, 242, 77, 186, 95, 176, 163, 14, 38, 232, 59,
    42, 197, 185, 226, 158, 27, 22, 30, 92, 31, 167,
    66, 94, 115, 4, 51, 98, 147, 139, 152, 36]

def helloHash : Sha256 where
  digest _ := helloDigest
  digest_length _ := rfl

def helloCapture : ConStr identifierRule :=
  ⟨str "capture", by decide⟩

theorem committed_transcript_bound_hello :
    exists decision,
      CommittedTurnDecision.create helloHash (str "hello") .pttSegment .null =
        .ok decision ∧
      Accepts (Transcript.validate helloHash
        (.object (Transcript.frame helloCapture (str " hello ")
          (some (.object decision.asMetadata))))) ∧
      ¬ Accepts (Transcript.validate helloHash
        (.object (Transcript.frame helloCapture (str " ")
          (some (.object decision.asMetadata))))) := by
  rcases committed_transcript_bound helloHash .pttSegment
      (encodable_str "hello") (Or.inl rfl) with
    ⟨decision, hcreated, _, hframes⟩
  have hstrip : strip (str " hello ") = strip (str "hello") := by
    decide
  have hcollision : NoCollision helloHash (str "hello") (str " hello ") := by
    intro x y hx hy _
    rw [hstrip, hx] at hy
    exact Option.some.inj hy
  refine ⟨decision, hcreated, ?_, ?_⟩
  · exact ((hframes helloCapture (str " hello ") (by decide)).left
      hcollision).mpr ⟨by decide, rfl, hstrip⟩
  · rw [(hframes helloCapture (str " ") (by decide)).right
      (by decide)]
    exact fun h => h.elim nofun nofun

end Control
end EidolonSdk
