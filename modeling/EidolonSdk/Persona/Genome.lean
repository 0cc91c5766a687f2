import EidolonSdk.Pydantic.Documents

/-!
# Persona genomes

The parts of a genome, each with its fields and their defaults.  Every part but
the provenance is a stored document: of the keys it does not know it drops those
that carry nothing and refuses the others.  The provenance keeps whatever it is
given.
-/

namespace EidolonSdk
namespace Persona

open Python Pydantic Logic

inductive RelationshipStage where
  | new
  | familiar
  | trusted
  | deep
  deriving DecidableEq

namespace RelationshipStage

def spell : RelationshipStage -> String
  | new => "new"
  | familiar => "familiar"
  | trusted => "trusted"
  | deep => "deep"

def stages : List RelationshipStage := [new, familiar, trusted, deep]

theorem find_spell (stage : RelationshipStage) :
    stages.find? (fun other => other.spell == stage.spell) = some stage := by
  cases stage with
  | new => rfl
  | familiar => rfl
  | trusted => rfl
  | deep => rfl

def codec : Codec RelationshipStage :=
  Codec.literal stages spell find_spell

end RelationshipStage

/-- A decimal with two digits between 0 and 1, as the source writes it. -/
def hundredths (n : Nat) (h : Representable (roundRatio n 100) ∧
    roundRatio n 100 ≤ doubleOne := by decide +kernel) : UnitFloat :=
  ⟨.finite false (roundRatio n 100) h.left, nofun, h.right⟩

theorem half_inUnit : Representable (roundRatio 50 100) ∧
    roundRatio 50 100 ≤ doubleOne := by
  decide +kernel

/-!
## Parts
-/

structure PersonaTraitState where
  value : UnitFloat
  confidence : UnitFloat
  lastChangedAt : Option Datetime
  source : PyStr
  deriving DecidableEq

structure PersonaEvidenceRef where
  kind : PyStr
  refId : PyStr
  summary : PyStr
  confidence : UnitFloat
  deriving DecidableEq

structure PersonaConstitution where
  name : PyStr
  archetype : PyStr
  selfConcept : PyStr
  values : List PyStr
  boundaries : List PyStr
  deriving DecidableEq

structure PersonaCharacter where
  portrait : PyStr
  traits : Dict PyStr PersonaTraitState
  tensions : List PyStr
  growthEdges : List PyStr
  deriving DecidableEq

structure PersonaRelationship where
  stage : RelationshipStage
  narrative : PyStr
  safetyBoundaries : List PyStr
  deriving DecidableEq

structure PersonaExpression where
  voicePortrait : PyStr
  behaviorGuidance : List PyStr
  dialogueExamples : List PyStr
  modalityNotes : Dict PyStr PyStr
  signaturePhrases : Dict PyStr PyStr
  deriving DecidableEq

structure PersonaMemoryPolicy where
  recallPolicy : Dict PyStr Json.FreeForm
  relationPolicies : Dict PyStr Json.FreeForm

structure PersonaEvolutionPolicy where
  enabled : Bool
  autoApplyLowRisk : Bool
  maxDeltaPerCommit : UnitFloat
  reviewRequiredTraits : List PyStr
  deriving DecidableEq

def provenanceNames : List String :=
  ["origin", "base_genome_id", "source_preset_id", "source_preset_revision",
    "evidence_refs"]

structure PersonaProvenance where
  origin : PyStr
  baseGenomeId : Option PyStr
  sourcePresetId : Option (ConStr { maxLength := some 64 })
  sourcePresetRevision : Option (ConStr { maxLength := some 32 })
  evidenceRefs : List PersonaEvidenceRef
  extra : Fields.Extras provenanceNames

/-- The name of a genome is more than whitespace. -/
structure PersonaGenome where
  constitution : PersonaConstitution
  character : PersonaCharacter
  relationship : PersonaRelationship
  expression : PersonaExpression
  memoryPolicy : PersonaMemoryPolicy
  evolutionPolicy : PersonaEvolutionPolicy
  provenance : PersonaProvenance
  named : strip constitution.name ≠ []

/-!
## Defaults
-/

def PersonaCharacter.default : PersonaCharacter :=
  ⟨[], Dict.empty, [], []⟩

def PersonaRelationship.default : PersonaRelationship :=
  ⟨.new, [], []⟩

def PersonaExpression.default : PersonaExpression :=
  ⟨[], [], [], Dict.empty, Dict.empty⟩

def PersonaMemoryPolicy.default : PersonaMemoryPolicy :=
  ⟨Dict.empty, Dict.empty⟩

def PersonaEvolutionPolicy.default : PersonaEvolutionPolicy :=
  ⟨true, false, hundredths 5, []⟩

def noExtras : Fields.Extras provenanceNames :=
  ⟨Dict.empty, List.forall_mem_nil _⟩

def PersonaProvenance.default : PersonaProvenance :=
  ⟨str "template", none, none, none, [], noExtras⟩

/-!
## Documents
-/

open Fields

section Documents

variable (L : Lax)

def PersonaTraitState.fields : Fields PersonaTraitState :=
  (field "value" (Codec.unitFloat L) (some (hundredths 50))
    |>.and (field "confidence" (Codec.unitFloat L) (some (hundredths 50)))
    |>.and (optional "last_changed_at" (Codec.moment L) Codec.moment_ne_null)
    |>.and (field "source" Codec.text (some (str "template")))).map
    (fun (((value, confidence), lastChangedAt), source) =>
      ⟨value, confidence, lastChangedAt, source⟩)
    (fun t => (((t.value, t.confidence), t.lastChangedAt), t.source))
    (fun _ => rfl)

theorem PersonaTraitState.names_fields : (PersonaTraitState.fields L).names =
    ["value", "confidence", "last_changed_at", "source"] := rfl

def PersonaEvidenceRef.fields : Fields PersonaEvidenceRef :=
  (field "kind" Codec.text none
    |>.and (field "ref_id" Codec.text none)
    |>.and (field "summary" Codec.text (some []))
    |>.and (field "confidence" (Codec.unitFloat L) (some (hundredths 50)))).map
    (fun (((kind, refId), summary), confidence) =>
      ⟨kind, refId, summary, confidence⟩)
    (fun r => (((r.kind, r.refId), r.summary), r.confidence))
    (fun _ => rfl)

def PersonaConstitution.fields : Fields PersonaConstitution :=
  (field "name" Codec.text none
    |>.and (field "archetype" Codec.text (some (str "companion")))
    |>.and (field "self_concept" Codec.text (some []))
    |>.and (field "values" Codec.text.list (some []))
    |>.and (field "boundaries" Codec.text.list (some []))).map
    (fun ((((name, archetype), selfConcept), values), boundaries) =>
      ⟨name, archetype, selfConcept, values, boundaries⟩)
    (fun c => ((((c.name, c.archetype), c.selfConcept), c.values), c.boundaries))
    (fun _ => rfl)

def PersonaCharacter.fields : Fields PersonaCharacter :=
  (field "portrait" Codec.text (some [])
    |>.and (field "traits" ((PersonaTraitState.fields L).document.dict L.json)
      (some Dict.empty))
    |>.and (field "tensions" Codec.text.list (some []))
    |>.and (field "growth_edges" Codec.text.list (some []))).map
    (fun (((portrait, traits), tensions), growthEdges) =>
      ⟨portrait, traits, tensions, growthEdges⟩)
    (fun c => (((c.portrait, c.traits), c.tensions), c.growthEdges))
    (fun _ => rfl)

def PersonaRelationship.fields : Fields PersonaRelationship :=
  (field "stage" RelationshipStage.codec (some .new)
    |>.and (field "narrative" Codec.text (some []))
    |>.and (field "safety_boundaries" Codec.text.list (some []))).map
    (fun ((stage, narrative), safetyBoundaries) =>
      ⟨stage, narrative, safetyBoundaries⟩)
    (fun r => ((r.stage, r.narrative), r.safetyBoundaries))
    (fun _ => rfl)

def PersonaExpression.fields : Fields PersonaExpression :=
  (field "voice_portrait" Codec.text (some [])
    |>.and (field "behavior_guidance" Codec.text.list (some []))
    |>.and (field "dialogue_examples" Codec.text.list (some []))
    |>.and (field "modality_notes" (Codec.text.dict L.json) (some Dict.empty))
    |>.and (field "signature_phrases" (Codec.text.dict L.json) (some Dict.empty))).map
    (fun ((((voicePortrait, behaviorGuidance), dialogueExamples),
        modalityNotes), signaturePhrases) =>
      ⟨voicePortrait, behaviorGuidance, dialogueExamples, modalityNotes,
        signaturePhrases⟩)
    (fun e => ((((e.voicePortrait, e.behaviorGuidance), e.dialogueExamples),
      e.modalityNotes), e.signaturePhrases))
    (fun _ => rfl)

def PersonaMemoryPolicy.fields : Fields PersonaMemoryPolicy :=
  (field "recall_policy" ((Codec.freeForm L).dict L.json) (some Dict.empty)
    |>.and (field "relation_policies" ((Codec.freeForm L).dict L.json)
      (some Dict.empty))).map
    (fun (recallPolicy, relationPolicies) => ⟨recallPolicy, relationPolicies⟩)
    (fun p => (p.recallPolicy, p.relationPolicies))
    (fun _ => rfl)

def PersonaEvolutionPolicy.fields : Fields PersonaEvolutionPolicy :=
  (field "enabled" (Codec.boolean L) (some true)
    |>.and (field "auto_apply_low_risk" (Codec.boolean L) (some false))
    |>.and (field "max_delta_per_commit" (Codec.unitFloat L)
      (some (hundredths 5)))
    |>.and (field "review_required_traits" Codec.text.list (some []))).map
    (fun (((enabled, autoApplyLowRisk), maxDeltaPerCommit),
        reviewRequiredTraits) =>
      ⟨enabled, autoApplyLowRisk, maxDeltaPerCommit, reviewRequiredTraits⟩)
    (fun p => (((p.enabled, p.autoApplyLowRisk), p.maxDeltaPerCommit),
      p.reviewRequiredTraits))
    (fun _ => rfl)

/-- The fields of a provenance without its extra members. -/
abbrev ProvenanceFields : Type :=
  (((PyStr × Option PyStr) × Option (ConStr { maxLength := some 64 })) ×
    Option (ConStr { maxLength := some 32 })) × List PersonaEvidenceRef

def provenanceFields : Fields ProvenanceFields :=
  field "origin" Codec.text (some (str "template"))
    |>.and (optional "base_genome_id" Codec.text Codec.text_ne_null)
    |>.and (optional "source_preset_id" (Codec.constrained _)
      Codec.constrained_ne_null)
    |>.and (optional "source_preset_revision" (Codec.constrained _)
      Codec.constrained_ne_null)
    |>.and (field "evidence_refs" (PersonaEvidenceRef.fields L).document.list
      (some []))

def PersonaProvenance.codec : Codec PersonaProvenance :=
  ((provenanceFields L).openDocument L).map
    (fun (((((origin, baseGenomeId), sourcePresetId), sourcePresetRevision),
        evidenceRefs), extra) =>
      ⟨origin, baseGenomeId, sourcePresetId, sourcePresetRevision,
        evidenceRefs, extra⟩)
    (fun p => (((((p.origin, p.baseGenomeId), p.sourcePresetId),
      p.sourcePresetRevision), p.evidenceRefs), p.extra))
    (fun _ => rfl)

def schemaVersion : Codec Unit :=
  Codec.literal [()] (fun _ => "eidolon.persona_genome") (fun _ => rfl)

/-- The fields of a genome. -/
abbrev GenomeFields : Type :=
  ((((((Unit × PersonaConstitution) × PersonaCharacter) × PersonaRelationship) ×
    PersonaExpression) × PersonaMemoryPolicy) × PersonaEvolutionPolicy) ×
      PersonaProvenance

def genomeFields : Fields GenomeFields :=
  field "schema_version" schemaVersion (some ())
    |>.and (field "constitution" PersonaConstitution.fields.document none)
    |>.and (field "character" (PersonaCharacter.fields L).document
      (some PersonaCharacter.default))
    |>.and (field "relationship" PersonaRelationship.fields.document
      (some PersonaRelationship.default))
    |>.and (field "expression" (PersonaExpression.fields L).document
      (some PersonaExpression.default))
    |>.and (field "memory_policy" (PersonaMemoryPolicy.fields L).document
      (some PersonaMemoryPolicy.default))
    |>.and (field "evolution_policy" (PersonaEvolutionPolicy.fields L).document
      (some PersonaEvolutionPolicy.default))
    |>.and (field "provenance" (PersonaProvenance.codec L)
      (some PersonaProvenance.default))

/-- `_ensure_named_identity`. -/
def ensureNamedIdentity (g : GenomeFields) : Prop :=
  strip g.1.1.1.1.1.1.2.name ≠ []

instance : DecidablePred ensureNamedIdentity := fun _ =>
  inferInstanceAs (Decidable (_ ≠ _))

def PersonaGenome.fields : Fields PersonaGenome :=
  ((genomeFields L).such ensureNamedIdentity).map
    (fun ⟨(((((((_, constitution), character), relationship), expression),
        memoryPolicy), evolutionPolicy), provenance), named⟩ =>
      ⟨constitution, character, relationship, expression, memoryPolicy,
        evolutionPolicy, provenance, named⟩)
    (fun g => ⟨((((((((), g.constitution), g.character), g.relationship),
      g.expression), g.memoryPolicy), g.evolutionPolicy), g.provenance),
      g.named⟩)
    (fun _ => rfl)

def PersonaGenome.codec : Codec PersonaGenome :=
  (PersonaGenome.fields L).document

/-!
## What a dump keeps
-/

/-- The parts of a genome that have no type are JSON. -/
structure JsonValued (g : PersonaGenome) : Prop where
  recalled : forall k v, (k, v) ∈ g.memoryPolicy.recallPolicy.entries ->
    v.val.IsJson
  relations : forall k v, (k, v) ∈ g.memoryPolicy.relationPolicies.entries ->
    v.val.IsJson
  extra : forall k v, (k, v) ∈ g.provenance.extra.val.entries -> v.val.IsJson

/-- Its time of change, if any, is one an ISO text can give. -/
def PersonaTraitState.Dated (t : PersonaTraitState) : Prop :=
  forall d, d ∈ t.lastChangedAt -> WholeMinutes d

/-- Every key of a dictionary is a Unicode text. -/
def UnicodeKeys {α : Type} (d : Dict PyStr α) : Prop :=
  forall k, k ∈ d.keys -> Encodable k

/-- What is free of form is JSON, every key at any depth is a Unicode text, and
every time of change can be written with its offset. -/
structure Dumpable (g : PersonaGenome) : Prop extends JsonValued g where
  traits : UnicodeKeys g.character.traits
  dated : forall k t, (k, t) ∈ g.character.traits.entries -> t.Dated
  modalityNotes : UnicodeKeys g.expression.modalityNotes
  signaturePhrases : UnicodeKeys g.expression.signaturePhrases
  recallPolicy : UnicodeKeys g.memoryPolicy.recallPolicy
  recallValues : forall k v, (k, v) ∈ g.memoryPolicy.recallPolicy.entries ->
    EncodableKeys v.val
  relationPolicies : UnicodeKeys g.memoryPolicy.relationPolicies
  relationValues : forall k v, (k, v) ∈ g.memoryPolicy.relationPolicies.entries ->
    EncodableKeys v.val
  extraValues : forall k v, (k, v) ∈ g.provenance.extra.val.entries ->
    EncodableKeys v.val

section Kept

variable {L} {mode : DumpMode}

theorem UnicodeKeys.kept {α : Type} {codec : Codec α} {d : Dict PyStr α}
    (h : UnicodeKeys d)
    (hvalues : forall k a, (k, a) ∈ d.entries -> codec.Kept mode a) :
    (codec.dict L.json).Kept mode d :=
  fun k a ha => ⟨h k (List.mem_map_of_mem ha), hvalues k a ha⟩

theorem PersonaTraitState.Dated.kept {t : PersonaTraitState} (h : t.Dated) :
    (PersonaTraitState.fields L).Kept mode t :=
  ⟨⟨⟨trivial, trivial⟩, h⟩, trivial⟩

theorem PersonaEvidenceRef.kept (r : PersonaEvidenceRef) :
    (PersonaEvidenceRef.fields L).Kept mode r :=
  ⟨⟨⟨trivial, trivial⟩, trivial⟩, trivial⟩

theorem PersonaConstitution.kept (c : PersonaConstitution) :
    PersonaConstitution.fields.Kept mode c :=
  ⟨⟨⟨⟨trivial, trivial⟩, trivial⟩, fun _ _ => trivial⟩, fun _ _ => trivial⟩

theorem PersonaRelationship.kept (r : PersonaRelationship) :
    PersonaRelationship.fields.Kept mode r :=
  ⟨⟨trivial, trivial⟩, fun _ _ => trivial⟩

theorem PersonaEvolutionPolicy.kept (p : PersonaEvolutionPolicy) :
    (PersonaEvolutionPolicy.fields L).Kept mode p :=
  ⟨⟨⟨trivial, trivial⟩, trivial⟩, fun _ _ => trivial⟩

variable {g : PersonaGenome}

theorem Dumpable.keptTraits (h : Dumpable g) :
    ((PersonaTraitState.fields L).document.dict L.json).Kept mode
      g.character.traits :=
  h.traits.kept fun k t ht => (h.dated k t ht).kept

theorem Dumpable.character (h : Dumpable g) :
    (PersonaCharacter.fields L).Kept mode g.character :=
  ⟨⟨⟨trivial, h.keptTraits⟩, fun _ _ => trivial⟩, fun _ _ => trivial⟩

theorem Dumpable.expression (h : Dumpable g) :
    (PersonaExpression.fields L).Kept mode g.expression :=
  ⟨⟨⟨⟨trivial, fun _ _ => trivial⟩, fun _ _ => trivial⟩,
    h.modalityNotes.kept (L := L) fun _ _ _ => trivial⟩,
    h.signaturePhrases.kept (L := L) fun _ _ _ => trivial⟩

theorem Dumpable.memoryPolicy (h : Dumpable g) :
    (PersonaMemoryPolicy.fields L).Kept mode g.memoryPolicy :=
  ⟨h.recallPolicy.kept (L := L) fun k v hv =>
      ⟨h.recalled k v hv, h.recallValues k v hv⟩,
    h.relationPolicies.kept (L := L) fun k v hv =>
      ⟨h.relations k v hv, h.relationValues k v hv⟩⟩

theorem Dumpable.keptExtra (h : Dumpable g)
    (hextra : forall k v, (k, v) ∈ g.provenance.extra.val.entries ->
      mode.keeps v.val = true) :
    forall k v, (k, v) ∈ g.provenance.extra.val.entries ->
      KeptExtra mode v.val :=
  fun k v hv => ⟨⟨h.extra k v hv, h.extraValues k v hv⟩, hextra k v hv⟩

theorem Dumpable.provenance (h : Dumpable g)
    (hextra : forall k v, (k, v) ∈ g.provenance.extra.val.entries ->
      mode.keeps v.val = true) :
    (PersonaProvenance.codec L).Kept mode g.provenance :=
  ⟨⟨⟨⟨⟨trivial, fun _ _ => trivial⟩, fun _ _ => trivial⟩, fun _ _ => trivial⟩,
    fun r _ => r.kept⟩, h.keptExtra hextra⟩

theorem Dumpable.kept (h : Dumpable g)
    (hextra : forall k v, (k, v) ∈ g.provenance.extra.val.entries ->
      mode.keeps v.val = true) :
    (PersonaGenome.codec L).Kept mode g :=
  ⟨⟨⟨⟨⟨⟨⟨trivial, g.constitution.kept⟩, h.character⟩,
    g.relationship.kept⟩, h.expression⟩, h.memoryPolicy⟩,
    g.evolutionPolicy.kept⟩, h.provenance hextra⟩

end Kept

end Documents

/-!
## The template
-/

def defaultPersonaValues : List PyStr :=
  [str "温暖而不空泛", str "诚实说明不确定性", str "尊重 owner 的主权和最终选择"]

def defaultPersonaBoundaries : List PyStr :=
  [str "不假装记得未提供或没有证据的事实", str "明确遵守安全与隐私边界"]

def defaultPersonaBehaviorGuidance : List PyStr :=
  [str "直接回应 owner 当前的意图，说够就停；不默认补建议或追问。",
    str "让记忆形成连续性，但不编造记忆。"]

def defaultPortrait : PyStr := str "一个沉稳、专注、愿意长期理解 owner 的伙伴。"

def defaultVoicePortrait : PyStr := str "温暖、清晰、具体，不用空泛语言填补回应。"

/-- `PersonaTraitState(value=value)`. -/
def PersonaTraitState.ofValue (value : UnitFloat) : PersonaTraitState :=
  ⟨value, hundredths 50, none, str "template"⟩

def defaultTraits : Dict PyStr PersonaTraitState :=
  Dict.ofList
    [(str "core.extraversion", .ofValue (hundredths 50)),
      (str "core.intimacy", .ofValue (hundredths 35)),
      (str "core.vulnerability", .ofValue (hundredths 25)),
      (str "core.structure", .ofValue (hundredths 55)),
      (str "core.directiveness", .ofValue (hundredths 45)),
      (str "core.grounding", .ofValue (hundredths 65)),
      (str "core.imagination", .ofValue (hundredths 55)),
      (str "core.playfulness", .ofValue (hundredths 50)),
      (str "core.reflection_depth", .ofValue (hundredths 55))]

def defaultMemoryPolicy : PersonaMemoryPolicy where
  recallPolicy := Dict.ofList
    [(str "scope", Json.free (.str (str "owner_companion"))),
      (str "use_memory_as_evidence", Json.free (.bool true))]
  relationPolicies := Dict.empty

def defaultEvolutionPolicy : PersonaEvolutionPolicy where
  enabled := true
  autoApplyLowRisk := false
  maxDeltaPerCommit := hundredths 5
  reviewRequiredTraits := [str "core.intimacy", str "core.vulnerability"]

/-- A string with constraints, or `None`. -/
def constrainedOrNone (rule : StrRule) :
    Option PyStr -> Option (Option (ConStr rule))
  | none => some none
  | some s => if h : rule.Accepts s then some (some ⟨s, h⟩) else none

/-- Where a genome comes from. -/
structure Origin where
  origin : PyStr
  baseGenomeId : Option PyStr
  sourcePresetId : Option PyStr
  sourcePresetRevision : Option PyStr

def Origin.provenance (origin : Origin) : Option PersonaProvenance := do
  let sourcePresetId ← constrainedOrNone _ origin.sourcePresetId
  let sourcePresetRevision ← constrainedOrNone _ origin.sourcePresetRevision
  some ⟨origin.origin, origin.baseGenomeId, sourcePresetId,
    sourcePresetRevision, [], noExtras⟩

def buildDefaultPersonaGenome (name archetype : PyStr) (origin : Origin) :
    Option PersonaGenome := do
  let provenance ← origin.provenance
  if h : strip name ≠ [] then
    some
      { constitution :=
          { name
            archetype := if archetype = [] then str "companion" else archetype
            selfConcept := []
            values := defaultPersonaValues
            boundaries := defaultPersonaBoundaries }
        character :=
          { portrait := defaultPortrait
            traits := defaultTraits
            tensions := []
            growthEdges := [] }
        relationship := .default
        expression :=
          { voicePortrait := defaultVoicePortrait
            behaviorGuidance := defaultPersonaBehaviorGuidance
            dialogueExamples := []
            modalityNotes := Dict.empty
            signaturePhrases := Dict.empty }
        memoryPolicy := defaultMemoryPolicy
        evolutionPolicy := defaultEvolutionPolicy
        provenance
        named := h }
  else none

/-- The template under a name. -/
def template (name : PyStr) (baseGenomeId : Option PyStr)
    (h : strip name ≠ []) : PersonaGenome where
  constitution := ⟨name, str "companion", [], defaultPersonaValues,
    defaultPersonaBoundaries⟩
  character := ⟨defaultPortrait, defaultTraits, [], []⟩
  relationship := .default
  expression := .default
  memoryPolicy := defaultMemoryPolicy
  evolutionPolicy := defaultEvolutionPolicy
  provenance := { PersonaProvenance.default with baseGenomeId }
  named := h

theorem named_ada : strip (str "Ada") ≠ [] := by decide

theorem mem_defaultPolicy {k : PyStr} {v : Json.FreeForm}
    (h : (k, v) ∈ defaultMemoryPolicy.recallPolicy.entries) :
    (k = str "scope" ∧ v = Json.free (.str (str "owner_companion"))) ∨
      (k = str "use_memory_as_evidence" ∧ v = Json.free (.bool true)) := by
  have hmem := Dict.mem_of_mem_ofList h
  simpa only [List.mem_cons, List.not_mem_nil, or_false, Prod.mk.injEq] using hmem

theorem mem_defaultTraits {k : PyStr} {t : PersonaTraitState}
    (h : (k, t) ∈ defaultTraits.entries) :
    Encodable k ∧ t.lastChangedAt = none := by
  have hmem := Dict.mem_of_mem_ofList h
  simp only [List.mem_cons, List.not_mem_nil, or_false, Prod.mk.injEq] at hmem
  rcases hmem with h | h | h | h | h | h | h | h | h
  all_goals exact ⟨h.left ▸ encodable_str _, h.right ▸ rfl⟩

theorem dumpable_template {name : PyStr} {baseGenomeId : Option PyStr}
    {h : strip name ≠ []} : Dumpable (template name baseGenomeId h) where
  recalled k v hv := by
    rcases mem_defaultPolicy hv with ⟨_, hv⟩ | ⟨_, hv⟩
    · rw [hv]
      rfl
    · rw [hv]
      rfl
  relations _ _ hv := absurd hv List.not_mem_nil
  extra _ _ hv := absurd hv List.not_mem_nil
  traits k hk := by
    rcases List.mem_map.mp hk with ⟨e, he, heq⟩
    rw [← heq]
    exact (mem_defaultTraits he).left
  dated k t ht d hd := by
    rw [(mem_defaultTraits ht).right] at hd
    cases hd
  modalityNotes _ hk := absurd hk List.not_mem_nil
  signaturePhrases _ hk := absurd hk List.not_mem_nil
  recallPolicy k hk := by
    rcases List.mem_map.mp hk with ⟨e, he, heq⟩
    rw [← heq]
    rcases mem_defaultPolicy he with ⟨hkey, _⟩ | ⟨hkey, _⟩
    · rw [hkey]
      exact encodable_str _
    · rw [hkey]
      exact encodable_str _
  recallValues k v hv := by
    rcases mem_defaultPolicy hv with ⟨_, hv⟩ | ⟨_, hv⟩
    · rw [hv]
      rfl
    · rw [hv]
      rfl
  relationPolicies _ hk := absurd hk List.not_mem_nil
  relationValues _ _ hv := absurd hv List.not_mem_nil
  extraValues _ _ hv := absurd hv List.not_mem_nil

/-!
### What JSON mode changes
-/

/-- A genome with one note, for a modality whose name is a lone surrogate. -/
def surrogateNote : PersonaGenome :=
  { template (str "Ada") none named_ada with
    character := .default
    expression :=
      { PersonaExpression.default with
        modalityNotes := Dict.ofList [([0xD800], str "softly")] } }

theorem jsonValued_surrogateNote : JsonValued surrogateNote :=
  have h : Dumpable (template (str "Ada") none named_ada) := dumpable_template
  ⟨h.recalled, h.relations, h.extra⟩

/-- A genome with one trait, which was changed at this time. -/
def changedAt (d : Datetime) : PersonaGenome :=
  { template (str "Ada") none named_ada with
    character :=
      { PersonaCharacter.default with
        traits := Dict.ofList [(str "core.playfulness",
          ⟨hundredths 50, hundredths 50, some d, str "evolution"⟩)] } }

theorem jsonValued_changedAt (d : Datetime) : JsonValued (changedAt d) :=
  have h : Dumpable (template (str "Ada") none named_ada) := dumpable_template
  ⟨h.recalled, h.relations, h.extra⟩

theorem dumpable_changedAt {d : Datetime} (hd : WholeMinutes d) :
    Dumpable (changedAt d) :=
  have h : Dumpable (template (str "Ada") none named_ada) := dumpable_template
  { h with
    traits := fun k hk => by
      rw [List.mem_singleton.mp hk]
      exact encodable_str _
    dated := fun k t ht e he => by
      cases List.mem_singleton.mp ht
      cases he
      exact hd }

/-- An offset of a minute and a half, and the one it is written as. -/
def lateOffset : Datetime :=
  ⟨1787054100000000, some 90000000, by decide, by decide⟩

def writtenOffset : Datetime :=
  ⟨1787054100000000, some 60000000, by decide, by decide⟩

theorem writtenOffset_whole : WholeMinutes writtenOffset := by
  decide

theorem traits_lateOffset : (changedAt writtenOffset).character.traits ≠
    (changedAt lateOffset).character.traits := by
  intro h
  have htimes := congrArg (fun traits : Dict PyStr PersonaTraitState =>
    traits.entries.map fun e => e.snd.lastChangedAt) h
  exact absurd htimes (by decide)

/-- Their genomes are not told apart by a dump. -/
theorem members_lateOffset (mode : DumpMode) :
    (PersonaGenome.fields Lax.plain).members mode (changedAt lateOffset) =
      (PersonaGenome.fields Lax.plain).members mode (changedAt writtenOffset) := by
  cases mode with
  | full => rfl
  | excludeNone => rfl

end Persona
end EidolonSdk
