import EidolonSdk.Logic.Outcome
import EidolonSdk.Python.JsonEquality
import EidolonSdk.Python.Rounding
import EidolonSdk.Support.Primitives

/-!
# Committed turns

A committed turn carries the digest of the trimmed transcript it was committed
with.  It leaves the process as metadata and comes back through a strict parser,
which trusts none of its members.
-/

namespace EidolonSdk
namespace DialogueControl

open Python Support

inductive TurnCommitBoundary where
  | frameworkCompleted
  | pttSegment
  deriving DecidableEq

namespace TurnCommitBoundary

def value : TurnCommitBoundary -> String
  | .frameworkCompleted => "framework_completed_turn"
  | .pttSegment => "ptt_segment_commit"

/-- `TurnCommitBoundary(text)`. -/
def ofValue (text : PyStr) : Except PyException TurnCommitBoundary :=
  match [frameworkCompleted, pttSegment].find? fun b => str b.value == text with
  | some boundary => .ok boundary
  | none => .error .valueError

end TurnCommitBoundary

structure CommittedTurnEvidence where
  boundary : TurnCommitBoundary
  transcriptFinal : Bool
  vadTerminal : Bool
  transcriptSha256 : PyStr
  eotScore : Option Double := none

def CommittedTurnEvidence.asMetadata (evidence : CommittedTurnEvidence) :
    Members :=
  [(str "boundary", .str (str evidence.boundary.value)),
      (str "transcript_final", .bool evidence.transcriptFinal),
      (str "vad_terminal", .bool evidence.vadTerminal),
      (str "transcript_sha256", .str evidence.transcriptSha256)] ++
    match evidence.eotScore with
    | some score => [(str "eot_score", .float score)]
    | none => []

def turnDecisionSchemaVersion : Int := 1

structure CommittedTurnDecision where
  evidence : CommittedTurnEvidence
  schemaVersion : Int := turnDecisionSchemaVersion

/-!
## Reading members
-/

def mapping : Json -> Except PyException Members
  | .object members => .ok members
  | _ => .error .valueError

def nonemptyString : Json -> Except PyException PyStr
  | .str s => if (strip s).isEmpty then .error .valueError else .ok (strip s)
  | _ => .error .valueError

/-- `float(value)` of a value that has to be a number. -/
def float : Json -> Except PyException Double
  | .int n =>
      match floatOfInt n with
      | some (negative, magnitude) =>
          if h : Representable magnitude then .ok (.finite negative magnitude h)
          else .error .overflowError
      | none => .error .overflowError
  | .float x => .ok x
  | _ => .error .valueError

/-- Finite, and between 0 and 1. -/
def InUnitRange (x : Double) : Prop :=
  exists scaled, x.scaled? = some scaled ∧ 0 ≤ scaled ∧ scaled ≤ doubleOne

instance (x : Double) : Decidable (InUnitRange x) :=
  match h : x.scaled? with
  | some scaled =>
      decidable_of_iff (0 ≤ scaled ∧ scaled ≤ doubleOne) ⟨fun hle => ⟨scaled, h, hle⟩,
        fun ⟨_, hother, hle⟩ => Option.some.inj (h.symm.trans hother) ▸ hle⟩
  | none => .isFalse fun ⟨_, hsome, _⟩ => nomatch h.symm.trans hsome

def score (value : Json) : Except PyException Double := do
  let result ← float value
  if InUnitRange result then pure result else throw .valueError

def optionalScore : Json -> Except PyException (Option Double)
  | .null => .ok none
  | value => (score value).map some

/-!
## Decisions
-/

section Digest

variable (hash : Sha256)

def committedTurnTextSha256 (text : PyStr) : Except PyException PyStr :=
  match encodeUtf8 (strip text) with
  | some bytes => .ok (hash.hexdigest bytes)
  | none => .error .unicodeEncodeError

namespace CommittedTurnDecision

def create (text : PyStr) (boundary : TurnCommitBoundary) (eotScore : Json) :
    Except PyException CommittedTurnDecision := do
  let normalizedScore ← optionalScore eotScore
  let digest ← committedTurnTextSha256 hash text
  pure
    { evidence :=
        { boundary
          transcriptFinal := true
          vadTerminal := true
          transcriptSha256 := digest
          eotScore := normalizedScore } }

def asMetadata (decision : CommittedTurnDecision) : Members :=
  [(str "schema_version", .int decision.schemaVersion),
    (str "decision", .str (str "commit")),
    (str "evidence", .object decision.evidence.asMetadata)]

/-- A number, and no truth value, that is the version. -/
def supported : Json -> Bool
  | .bool _ => false
  | version => version.equalsInt turnDecisionSchemaVersion

/-- `value is True`. -/
def isTrue : Json -> Bool
  | .bool b => b
  | _ => false

/-- The lower-case hexadecimal digits. -/
def isHexDigest (digest : PyStr) : Bool :=
  digest.length == 64 &&
    digest.all fun c => (str "0123456789abcdef").contains c

def fromMetadata (value : Json) : Except PyException CommittedTurnDecision := do
  let root ← mapping value
  if supported (root.getOrNone "schema_version") = false then throw .valueError
  if (root.getOrNone "decision").equals (.str (str "commit")) = false then
    throw .valueError
  let evidence ← mapping (root.getOrNone "evidence")
  if isTrue (evidence.getOrNone "transcript_final") = false ∨
      isTrue (evidence.getOrNone "vad_terminal") = false then
    throw .valueError
  let digest ← nonemptyString (evidence.getOrNone "transcript_sha256")
  if isHexDigest digest = false then throw .valueError
  let boundary ←
    TurnCommitBoundary.ofValue (← nonemptyString (evidence.getOrNone "boundary"))
  let eotScore ← optionalScore (evidence.getOrNone "eot_score")
  pure
    { schemaVersion := turnDecisionSchemaVersion
      evidence :=
        { boundary
          transcriptFinal := true
          vadTerminal := true
          transcriptSha256 := digest
          eotScore } }

def matchesText (decision : CommittedTurnDecision) :
    Option PyStr -> Except PyException Bool
  | none => .ok false
  | some [] => .ok false
  | some text => do
      let digest ← committedTurnTextSha256 hash text
      pure (decision.evidence.transcriptSha256 == digest)

end CommittedTurnDecision

end Digest

/-!
## Scores
-/

/-- A score the caller may give: none, or a number from 0 to 1. -/
def IsScore (value : Json) : Prop :=
  value = .null ∨
    exists scaled, value.number? = some scaled ∧ 0 ≤ scaled ∧ scaled ≤ doubleOne

theorem score_float {x : Double} (h : InUnitRange x) :
    optionalScore (.float x) = .ok (some x) := by
  have hscore : score (.float x) = .ok x := if_pos h
  show (score (.float x)).map some = .ok (some x)
  rw [hscore]
  rfl

theorem inUnitRange_of_optionalScore {value : Json} {x : Double}
    (h : optionalScore value = .ok (some x)) : InUnitRange x := by
  have hscore : score value = .ok x := by
    cases value with
    | null => cases h
    | bool b => cases h
    | str s => cases h
    | array items => cases h
    | object members => cases h
    | int n =>
        rcases Logic.map_eq_ok.mp h with ⟨y, hy, heq⟩
        rw [hy, Option.some.inj heq]
    | float y =>
        rcases Logic.map_eq_ok.mp h with ⟨z, hz, heq⟩
        rw [hz, Option.some.inj heq]
  rcases Logic.bind_eq_ok.mp hscore with ⟨y, _, hrange⟩
  split at hrange
  · rename_i hy
    rw [← Except.ok.inj hrange]
    exact hy
  · cases hrange

/-- An integer between 0 and 1 is one of them. -/
theorem score_int {n : Int} (h : 0 ≤ n * doubleOne ∧ n * doubleOne ≤ doubleOne) :
    exists x, score (.int n) = .ok x := by
  have hpos := doubleOne_pos
  have hn : n = 0 ∨ n = 1 := by
    have hleast : 0 ≤ n := by
      by_contra hneg
      have := Int.mul_neg_of_neg_of_pos (not_le.mp hneg)
        (Int.natCast_pos.mpr hpos)
      omega
    have hmost : n ≤ 1 := by
      by_contra hgt
      have : (2 : Int) * doubleOne ≤ n * doubleOne :=
        Int.mul_le_mul_of_nonneg_right (by omega) (by omega)
      omega
    omega
  rcases hn with rfl | rfl
  · exact ⟨.finite false 0 (by decide +kernel), by decide +kernel⟩
  · exact ⟨.finite false doubleOne (by decide +kernel), by decide +kernel⟩

theorem IsScore.optionalScore_ok {value : Json} (h : IsScore value) :
    exists normalized, optionalScore value = .ok normalized := by
  rcases h with rfl | ⟨scaled, hnumber, hrange⟩
  · exact ⟨none, rfl⟩
  · cases value with
    | int n =>
        cases hnumber
        rcases score_int hrange with ⟨x, hx⟩
        exact ⟨some x, Logic.map_eq_ok.mpr ⟨x, hx, rfl⟩⟩
    | float x => exact ⟨some x, score_float ⟨scaled, hnumber, hrange⟩⟩
    | null => cases hnumber
    | bool b => cases hnumber
    | str s => cases hnumber
    | array items => cases hnumber
    | object members => cases hnumber

/-!
## The round trip
-/

/-- What a parsed or a created decision is like. -/
structure IsCommitted (decision : CommittedTurnDecision) : Prop where
  version : decision.schemaVersion = turnDecisionSchemaVersion
  final : decision.evidence.transcriptFinal = true
  terminal : decision.evidence.vadTerminal = true
  digest : CommittedTurnDecision.isHexDigest
    decision.evidence.transcriptSha256 = true
  score : forall x, decision.evidence.eotScore = some x -> InUnitRange x

theorem hexDigit_listed {n : Nat} (h : n < 16) :
    (str "0123456789abcdef").contains (Json.hexDigit n) = true ∧
      isSpace (Json.hexDigit n) = false := by
  revert n
  decide

theorem isHexDigest_hexdigest (hash : Sha256) (message : Bytes) :
    CommittedTurnDecision.isHexDigest (hash.hexdigest message) = true := by
  unfold CommittedTurnDecision.isHexDigest
  rw [hash.hexdigest_length, Bool.and_eq_true]
  refine ⟨rfl, List.all_eq_true.mpr ?_⟩
  intro c hc
  rcases mem_hex hc with ⟨n, hn, rfl⟩
  exact (hexDigit_listed hn).left

/-- No digit is a blank, so stripping a digest leaves it as it is. -/
theorem nonemptyString_digest {digest : PyStr}
    (h : CommittedTurnDecision.isHexDigest digest = true) :
    nonemptyString (.str digest) = .ok digest := by
  rcases Bool.and_eq_true_iff.mp h with ⟨hlength, hlisted⟩
  have hblank : ((str "0123456789abcdef").all fun c => !isSpace c) = true := by
    decide
  have hstrip : strip digest = digest := by
    apply strip_eq_self
    intro c hc
    have hlist := List.contains_iff_mem.mp (List.all_eq_true.mp hlisted c hc)
    exact Bool.not_eq_true' _ ▸ List.all_eq_true.mp hblank c hlist
  have hne : digest.isEmpty = false := by
    rw [List.isEmpty_eq_false_iff]
    intro heq
    rcases heq with rfl
    cases hlength
  show (if (strip digest).isEmpty = true then Except.error PyException.valueError
    else Except.ok (strip digest)) = _
  rw [hstrip, hne]
  rfl

namespace TurnCommitBoundary

theorem ofValue_value (boundary : TurnCommitBoundary) :
    ofValue (str boundary.value) = .ok boundary := by
  cases boundary with
  | frameworkCompleted => decide
  | pttSegment => decide

theorem nonemptyString_value (boundary : TurnCommitBoundary) :
    nonemptyString (.str (str boundary.value)) =
      .ok (str boundary.value) := by
  cases boundary with
  | frameworkCompleted => decide
  | pttSegment => decide

end TurnCommitBoundary

namespace CommittedTurnDecision

theorem evidence_get (evidence : CommittedTurnEvidence) :
    evidence.asMetadata.getOrNone "boundary" =
        .str (str evidence.boundary.value) ∧
      evidence.asMetadata.getOrNone "transcript_final" =
        .bool evidence.transcriptFinal ∧
      evidence.asMetadata.getOrNone "vad_terminal" =
        .bool evidence.vadTerminal ∧
      evidence.asMetadata.getOrNone "transcript_sha256" =
        .str evidence.transcriptSha256 ∧
      evidence.asMetadata.getOrNone "eot_score" =
        (evidence.eotScore.map Json.float).getD .null := by
  cases hscore : evidence.eotScore with
  | none => simp [CommittedTurnEvidence.asMetadata, Members.getOrNone, hscore]
  | some x => simp [CommittedTurnEvidence.asMetadata, Members.getOrNone, hscore]

theorem optionalScore_metadata {eotScore : Option Double}
    (h : forall x, eotScore = some x -> InUnitRange x) :
    optionalScore ((eotScore.map Json.float).getD .null) = .ok eotScore := by
  cases eotScore with
  | none => rfl
  | some x => exact score_float (h x rfl)

theorem root_get (decision : CommittedTurnDecision) :
    decision.asMetadata.getOrNone "schema_version" =
        .int decision.schemaVersion ∧
      decision.asMetadata.getOrNone "decision" = .str (str "commit") ∧
      decision.asMetadata.getOrNone "evidence" =
        .object decision.evidence.asMetadata := by
  simp [asMetadata, Members.getOrNone]

/-- The parser gives back the decision the metadata was made of. -/
theorem fromMetadata_asMetadata {decision : CommittedTurnDecision}
    (h : IsCommitted decision) :
    fromMetadata (.object decision.asMetadata) = .ok decision := by
  rcases decision with ⟨⟨boundary, final, terminal, digest, eotScore⟩, version⟩
  rcases h with ⟨rfl, rfl, rfl, hdigest, hscore⟩
  rcases root_get ⟨⟨boundary, true, true, digest, eotScore⟩,
    turnDecisionSchemaVersion⟩ with ⟨hversion, hcommit, hevidence⟩
  rcases evidence_get ⟨boundary, true, true, digest, eotScore⟩ with
    ⟨hboundary, hfinal, hterminal, htext, hgiven⟩
  have hsupported : supported (.int turnDecisionSchemaVersion) = true := by
    decide +kernel
  have hequals : (Json.str (str "commit")).equals (.str (str "commit")) = true :=
    by decide
  simp only [fromMetadata, mapping, Logic.ok_bind, hversion, hcommit, hevidence,
    hboundary, hfinal, hterminal, htext, hgiven, hsupported, hequals, isTrue,
    nonemptyString_digest hdigest, hdigest, boundary.nonemptyString_value,
    boundary.ofValue_value, optionalScore_metadata hscore]
  rfl

/-- What the parser lets through. -/
theorem fromMetadata_committed {value : Json} {decision : CommittedTurnDecision}
    (h : fromMetadata value = .ok decision) : IsCommitted decision := by
  simp only [fromMetadata, Logic.bind_eq_ok, Logic.refused_bind_eq_ok] at h
  rcases h with ⟨_, _, _, _, _, _, _, digest, _, hdigest, _, _, boundary, _,
    eotScore, hscore, heq⟩
  rw [← Except.ok.inj heq]
  refine ⟨rfl, rfl, rfl, Bool.eq_true_of_not_eq_false hdigest, ?_⟩
  intro x hx
  rw [show eotScore = some x from hx] at hscore
  exact inUnitRange_of_optionalScore hscore

theorem create_eq_ok {hash : Sha256} {text : PyStr}
    {boundary : TurnCommitBoundary} {eotScore : Json}
    {decision : CommittedTurnDecision} :
    create hash text boundary eotScore = .ok decision <->
      exists normalized bytes, optionalScore eotScore = .ok normalized ∧
        encodeUtf8 (strip text) = some bytes ∧
        decision = ⟨⟨boundary, true, true, hash.hexdigest bytes, normalized⟩,
          turnDecisionSchemaVersion⟩ := by
  unfold create committedTurnTextSha256
  simp only [Logic.bind_eq_ok]
  cases encodeUtf8 (strip text) with
  | none => simp
  | some bytes =>
      simp [pure, Except.pure, eq_comm]

/-- A text is matched if something is in it and its trimmed form has the
digest. -/
theorem matchesText_eq_true {hash : Sha256} {decision : CommittedTurnDecision}
    {text : PyStr} :
    decision.matchesText hash (some text) = .ok true <->
      text ≠ [] ∧ exists bytes, encodeUtf8 (strip text) = some bytes ∧
        decision.evidence.transcriptSha256 = hash.hexdigest bytes := by
  cases text with
  | nil => exact iff_of_false nofun fun h => h.left rfl
  | cons c rest =>
      have hmatches : decision.matchesText hash (some (c :: rest)) =
          committedTurnTextSha256 hash (c :: rest) >>= fun digest =>
            pure (decision.evidence.transcriptSha256 == digest) := rfl
      rw [hmatches, Logic.bind_eq_ok]
      unfold committedTurnTextSha256
      cases encodeUtf8 (strip (c :: rest)) with
      | none => simp
      | some bytes => simp [pure, Except.pure]

theorem create_boundary {hash : Sha256} {text : PyStr}
    {boundary : TurnCommitBoundary} {eotScore : Json}
    {decision : CommittedTurnDecision}
    (h : create hash text boundary eotScore = .ok decision) :
    decision.evidence.boundary = boundary := by
  rcases create_eq_ok.mp h with ⟨_, _, _, _, rfl⟩
  rfl

theorem create_ok (hash : Sha256) {text : PyStr} (boundary : TurnCommitBoundary)
    {eotScore : Json} (htext : Encodable text) (hscore : IsScore eotScore) :
    exists decision, create hash text boundary eotScore = .ok decision := by
  rcases hscore.optionalScore_ok with ⟨normalized, hnormalized⟩
  have hbytes := encodeUtf8_of_encodable (encodable_strip.mpr htext)
  exact ⟨_, create_eq_ok.mpr ⟨normalized, _, hnormalized, hbytes, rfl⟩⟩

theorem create_committed {hash : Sha256} {text : PyStr}
    {boundary : TurnCommitBoundary} {eotScore : Json}
    {decision : CommittedTurnDecision}
    (h : create hash text boundary eotScore = .ok decision) :
    IsCommitted decision := by
  rcases create_eq_ok.mp h with ⟨normalized, bytes, hscore, _, rfl⟩
  refine ⟨rfl, rfl, rfl, isHexDigest_hexdigest hash bytes, ?_⟩
  intro x hx
  rw [show normalized = some x from hx] at hscore
  exact inUnitRange_of_optionalScore hscore

end CommittedTurnDecision

/-!
## What escapes from the parser
-/

/-- An integer beyond the largest `float`. -/
def BeyondFloat (n : Int) : Prop :=
  2 ^ 1024 - 2 ^ 970 ≤ n.natAbs

theorem float_eq_error {value : Json} {e : PyException} :
    float value = .error e <->
      (value.isNumber = false ∧ e = .valueError) ∨
        exists n, value = .int n ∧ BeyondFloat n ∧ e = .overflowError := by
  cases value with
  | int n =>
      simp only [float, Json.isNumber, BeyondFloat, ← floatOfInt_eq_none]
      cases hfloat : floatOfInt n with
      | none => simp [hfloat, eq_comm]
      | some pair =>
          rcases pair with ⟨negative, magnitude⟩
          simp only [dif_pos (representable_floatOfInt hfloat)]
          simp [hfloat]
  | float x => simp [float, Json.isNumber]
  | null => simp [float, Json.isNumber, eq_comm]
  | bool b => simp [float, Json.isNumber, eq_comm]
  | str s => simp [float, Json.isNumber, eq_comm]
  | array items => simp [float, Json.isNumber, eq_comm]
  | object members => simp [float, Json.isNumber, eq_comm]

theorem score_overflow {value : Json} :
    score value = .error .overflowError <->
      exists n, value = .int n ∧ BeyondFloat n := by
  unfold score
  rw [Logic.bind_eq_error, float_eq_error]
  constructor
  · intro h
    rcases h with (⟨_, h⟩ | ⟨n, hvalue, hbeyond, _⟩) | ⟨x, _, hrange⟩
    · cases h
    · exact ⟨n, hvalue, hbeyond⟩
    · split at hrange
      · cases hrange
      · cases hrange
  · intro h
    rcases h with ⟨n, hvalue, hbeyond⟩
    exact Or.inl (Or.inr ⟨n, hvalue, hbeyond, rfl⟩)

theorem score_error {value : Json} {e : PyException}
    (h : score value = .error e) : e = .valueError ∨ e = .overflowError := by
  unfold score at h
  rw [Logic.bind_eq_error, float_eq_error] at h
  rcases h with (⟨_, h⟩ | ⟨_, _, _, h⟩) | ⟨x, _, hrange⟩
  · exact Or.inl h
  · exact Or.inr h
  · split at hrange
    · cases hrange
    · cases hrange
      exact Or.inl rfl

theorem optionalScore_eq {value : Json} (h : value ≠ .null) :
    optionalScore value = (score value).map some := by
  cases value with
  | null => exact absurd rfl h
  | bool b => rfl
  | int n => rfl
  | float x => rfl
  | str s => rfl
  | array items => rfl
  | object members => rfl

theorem optionalScore_error {value : Json} {e : PyException} :
    optionalScore value = .error e <-> value ≠ .null ∧ score value = .error e := by
  by_cases hnull : value = .null
  · subst hnull
    exact iff_of_false nofun (fun h => h.left rfl)
  · rw [optionalScore_eq hnull, Logic.map_eq_error, and_iff_right hnull]

theorem mapping_error {value : Json} {e : PyException}
    (h : mapping value = .error e) : e = .valueError := by
  cases value with
  | object members => cases h
  | null => cases h; rfl
  | bool b => cases h; rfl
  | int n => cases h; rfl
  | float x => cases h; rfl
  | str s => cases h; rfl
  | array items => cases h; rfl

theorem nonemptyString_error {value : Json} {e : PyException}
    (h : nonemptyString value = .error e) : e = .valueError := by
  cases value with
  | str s =>
      simp only [nonemptyString] at h
      split at h
      · cases h
        rfl
      · cases h
  | null => cases h; rfl
  | bool b => cases h; rfl
  | int n => cases h; rfl
  | float x => cases h; rfl
  | array items => cases h; rfl
  | object members => cases h; rfl

theorem TurnCommitBoundary.ofValue_error {text : PyStr} {e : PyException}
    (h : ofValue text = .error e) : e = .valueError := by
  unfold ofValue at h
  split at h
  · cases h
  · cases h
    rfl

namespace CommittedTurnDecision

/-- The parser gets as far as the score: everything in front of it is in order. -/
def ReachesScore (value given : Json) : Prop :=
  exists root evidence digest text boundary,
    mapping value = .ok root ∧
    supported (root.getOrNone "schema_version") = true ∧
    (root.getOrNone "decision").equals (.str (str "commit")) = true ∧
    mapping (root.getOrNone "evidence") = .ok evidence ∧
    (isTrue (evidence.getOrNone "transcript_final") = true ∧
      isTrue (evidence.getOrNone "vad_terminal") = true) ∧
    nonemptyString (evidence.getOrNone "transcript_sha256") = .ok digest ∧
    isHexDigest digest = true ∧
    nonemptyString (evidence.getOrNone "boundary") = .ok text ∧
    TurnCommitBoundary.ofValue text = .ok boundary ∧
    evidence.getOrNone "eot_score" = given

/-- However the parser fails: with a `ValueError`, or at the score. -/
theorem fromMetadata_error {value : Json} {e : PyException}
    (h : fromMetadata value = .error e) :
    e = .valueError ∨ exists given, ReachesScore value given ∧
      optionalScore given = .error e := by
  simp only [fromMetadata, Logic.bind_eq_error, Logic.refused_bind_eq_error,
    Bool.not_eq_false, not_or] at h
  rcases h with h | ⟨root, hroot, h⟩
  · exact Or.inl (mapping_error h)
  rcases h with ⟨_, h⟩ | ⟨hversion, h⟩
  · exact Or.inl h.symm
  rcases h with ⟨_, h⟩ | ⟨hcommit, h⟩
  · exact Or.inl h.symm
  rcases h with h | ⟨evidence, hevidence, h⟩
  · exact Or.inl (mapping_error h)
  rcases h with ⟨_, h⟩ | ⟨hfinal, h⟩
  · exact Or.inl h.symm
  rcases h with h | ⟨digest, hdigest, h⟩
  · exact Or.inl (nonemptyString_error h)
  rcases h with ⟨_, h⟩ | ⟨hhex, h⟩
  · exact Or.inl h.symm
  rcases h with h | ⟨text, htext, h⟩
  · exact Or.inl (nonemptyString_error h)
  rcases h with h | ⟨boundary, hboundary, h⟩
  · exact Or.inl (TurnCommitBoundary.ofValue_error h)
  rcases h with h | ⟨given, _, h⟩
  · exact Or.inr ⟨_, ⟨root, evidence, digest, text, boundary, hroot, hversion,
      hcommit, hevidence, hfinal, hdigest, hhex, htext, hboundary, rfl⟩, h⟩
  · cases h

theorem fromMetadata_of_reaches {value given : Json} {e : PyException}
    (h : ReachesScore value given) (hscore : optionalScore given = .error e) :
    fromMetadata value = .error e := by
  rcases h with ⟨root, evidence, digest, text, boundary, hroot, hversion, hcommit,
    hevidence, hfinal, hdigest, hhex, htext, hboundary, rfl⟩
  simp only [fromMetadata, Logic.ok_bind, hroot, hversion, hcommit, hevidence,
    hfinal.left, hfinal.right, hdigest, hhex, htext, hboundary, hscore]
  rfl

/-- The parser ends as it promises, and what it gives back survives its own
metadata. -/
def StrictlyParsed (value : Json) : Prop :=
  ((exists decision, fromMetadata value = .ok decision) ∨
    exists e, fromMetadata value = .error e ∧ e.isValueError = true) ∧
  forall decision, fromMetadata value = .ok decision ->
    fromMetadata (.object decision.asMetadata) = .ok decision ∧
      forall x, decision.evidence.eotScore = some x -> InUnitRange x

theorem strictlyParsed_iff (value : Json) :
    StrictlyParsed value <->
      ¬ exists n, ReachesScore value (.int n) ∧ BeyondFloat n := by
  have hround : forall decision, fromMetadata value = .ok decision ->
      fromMetadata (.object decision.asMetadata) = .ok decision ∧
        forall x, decision.evidence.eotScore = some x -> InUnitRange x := by
    intro decision h
    have hcommitted := fromMetadata_committed h
    exact ⟨fromMetadata_asMetadata hcommitted, hcommitted.score⟩
  constructor
  · intro h hescapes
    rcases hescapes with ⟨n, hreaches, hbeyond⟩
    have hscore : optionalScore (.int n) = .error .overflowError :=
      optionalScore_error.mpr ⟨nofun, score_overflow.mpr ⟨n, rfl, hbeyond⟩⟩
    have herror := fromMetadata_of_reaches hreaches hscore
    rcases h.left with ⟨decision, hok⟩ | ⟨e, hfails, hvalue⟩
    · rw [herror] at hok
      cases hok
    · rw [herror] at hfails
      cases hfails
      cases hvalue
  · intro h
    refine ⟨?_, hround⟩
    cases hresult : fromMetadata value with
    | ok decision => exact Or.inl ⟨decision, rfl⟩
    | error e =>
        refine Or.inr ⟨e, rfl, ?_⟩
        rcases fromMetadata_error hresult with rfl | ⟨given, hreaches, hscore⟩
        · rfl
        · have hfails := (optionalScore_error.mp hscore).right
          rcases score_error hfails with rfl | rfl
          · rfl
          · rcases score_overflow.mp hfails with ⟨n, rfl, hbeyond⟩
            exact absurd ⟨n, hreaches, hbeyond⟩ h

/-- Metadata in order, but for a score of four hundred digits. -/
def hugeScore : Json :=
  .object
    [(str "schema_version", .int 1), (str "decision", .str (str "commit")),
      (str "evidence", .object
        [(str "boundary", .str (str "ptt_segment_commit")),
          (str "transcript_final", .bool true), (str "vad_terminal", .bool true),
          (str "transcript_sha256", .str (List.replicate 64 (codePoint 'a'))),
          (str "eot_score", .int (10 ^ 400))])]

theorem hugeScore_escapes :
    fromMetadata hugeScore = .error .overflowError ∧ ¬ StrictlyParsed hugeScore := by
  have herror : fromMetadata hugeScore = .error .overflowError := by
    apply @fromMetadata_of_reaches hugeScore (.int (10 ^ 400))
    · exact ⟨_, _, List.replicate 64 (codePoint 'a'), str "ptt_segment_commit",
        .pttSegment, rfl, by decide +kernel, by decide +kernel, rfl,
        ⟨rfl, rfl⟩, by decide, by decide, by decide,
        by decide, rfl⟩
    · refine optionalScore_error.mpr ⟨nofun, score_overflow.mpr ⟨_, rfl, ?_⟩⟩
      unfold BeyondFloat
      decide +kernel
  refine ⟨herror, ?_⟩
  intro h
  rcases h.left with ⟨decision, hok⟩ | ⟨e, hfails, hvalue⟩
  · rw [herror] at hok
    cases hok
  · rw [herror] at hfails
    cases hfails
    cases hvalue

end CommittedTurnDecision

end DialogueControl
end EidolonSdk
