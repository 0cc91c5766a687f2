import EidolonSdk.Persona.Authoring

/-!
# The form

Editing a persona, opening the form on a stored genome, and creating a genome
from a draft.  A form that is saved as it was opened changes nothing but where
the genome comes from.
-/

namespace EidolonSdk
namespace Persona

open Python Pydantic Logic

/-!
## Editing
-/

section Editing

variable {L : Lax} {g : PersonaGenome}

/-- What is authored on a genome that can be dumped can be dumped. -/
theorem dumpable_authoredGenome (hg : Dumpable g) {a : PersonaAuthoring}
    (ha : a.Dumpable) (baseGenomeId : PyStr) :
    Dumpable (authoredGenome g a baseGenomeId) where
  toJsonValued := ⟨hg.recalled, hg.relations, hg.extra⟩
  traits := by
    show UnicodeKeys ((a.traits.map fun traits =>
      traits.map TraitSettings.state).getD g.character.traits)
    cases htraits : a.traits with
    | none => exact hg.traits
    | some traits =>
        intro k hk
        apply ha.traits traits htraits k
        have hkeys : (traits.map TraitSettings.state).keys = traits.keys :=
          List.map_map
        rw [← hkeys]
        exact hk
  dated := by
    show forall k t, (k, t) ∈ ((a.traits.map fun traits =>
      traits.map TraitSettings.state).getD g.character.traits).entries -> t.Dated
    cases htraits : a.traits with
    | none => exact hg.dated
    | some traits =>
        intro k t ht
        rcases List.mem_map.mp ht with ⟨e, he, heq⟩
        cases heq
        exact ha.dated traits htraits e.fst e.snd he
  modalityNotes := by
    show UnicodeKeys (a.modalityNotes.getD g.expression.modalityNotes)
    cases hnotes : a.modalityNotes with
    | none => exact hg.modalityNotes
    | some notes => exact ha.modalityNotes notes hnotes
  signaturePhrases := hg.signaturePhrases
  recallPolicy := hg.recallPolicy
  recallValues := hg.recallValues
  relationPolicies := hg.relationPolicies
  relationValues := hg.relationValues
  extraValues := hg.extraValues

theorem getD_getD {α : Type} (setting : Option α) (old : α) :
    setting.getD (setting.getD old) = setting.getD old := by
  cases setting with
  | none => rfl
  | some a => rfl

/-- What is authored again is there already. -/
theorem authoredGenome_authoredGenome (g : PersonaGenome) (a : PersonaAuthoring)
    (baseGenomeId : PyStr) :
    authoredGenome (authoredGenome g a baseGenomeId) a baseGenomeId =
      authoredGenome g a baseGenomeId := by
  simp only [authoredGenome, getD_getD]

/-- `PersonaAuthoring()`. -/
def PersonaAuthoring.unset : PersonaAuthoring :=
  ⟨none, none, none, none, none, none, none, none, none, none, none, none⟩

theorem dumpable_unset : PersonaAuthoring.unset.Dumpable where
  modalityNotes _ h := nomatch h
  traits _ h := nomatch h
  dated _ h := nomatch h

/-- A calmer persona without values of its own. -/
def calmer : PersonaAuthoring :=
  { PersonaAuthoring.unset with
    selfConcept := some (str "  calm ")
    values := some [] }

theorem dumpable_calmer : calmer.Dumpable where
  modalityNotes _ h := nomatch h
  traits _ h := nomatch h
  dated _ h := nomatch h

/-- One trait and nothing else. -/
def livelier : PersonaAuthoring :=
  { PersonaAuthoring.unset with
    traits := some (Dict.ofList
      [(str "core.playfulness", ⟨some (hundredths 70), none, none, none⟩)]) }

theorem dumpable_livelier : livelier.Dumpable where
  modalityNotes _ h := nomatch h
  traits traits h k hk := by
    cases h
    rw [List.mem_singleton.mp hk]
    exact encodable_str _
  dated traits h k s hs d hd := by
    cases h
    cases List.mem_singleton.mp hs
    cases hd

theorem renamed_surrogateNote :
    (applyPersonaAuthoring Lax.plain surrogateNote .unset (str "pg_1")).toOption.any
      (fun edited => edited.expression.modalityNotes !=
        surrogateNote.expression.modalityNotes) = true := by
  decide +kernel

end Editing

/-!
## Opening the form
-/

/-- The traits of a genome are objects, and each knows which of its fields were
set. -/
structure TraitInstances (g : PersonaGenome) where
  traits : Dict PyStr TraitSettings
  states : traits.map TraitSettings.state = g.character.traits

def personaAuthoringOf (genome : PersonaGenome)
    (instances : TraitInstances genome) : PersonaAuthoring where
  archetype := some genome.constitution.archetype
  selfConcept := some genome.constitution.selfConcept
  values := some genome.constitution.values
  boundaries := some genome.constitution.boundaries
  characterPortrait := some genome.character.portrait
  traits := some instances.traits
  relationshipNarrative := some genome.relationship.narrative
  safetyBoundaries := some genome.relationship.safetyBoundaries
  voicePortrait := some genome.expression.voicePortrait
  behaviorGuidance := some genome.expression.behaviorGuidance
  dialogueExamples := some genome.expression.dialogueExamples
  modalityNotes := some genome.expression.modalityNotes

/-- The genome from which the outer whitespace of the texts a person writes is
gone, and which the owner has authored from the one with this id. -/
def savedUnchanged (g : PersonaGenome) (baseGenomeId : PyStr) :
    PersonaGenome where
  constitution :=
    { g.constitution with
      archetype := strip g.constitution.archetype
      selfConcept := strip g.constitution.selfConcept }
  character := { g.character with portrait := strip g.character.portrait }
  relationship :=
    { g.relationship with narrative := strip g.relationship.narrative }
  expression :=
    { g.expression with voicePortrait := strip g.expression.voicePortrait }
  memoryPolicy := g.memoryPolicy
  evolutionPolicy := g.evolutionPolicy
  provenance :=
    { g.provenance with
      origin := str "owner_authored"
      baseGenomeId := some baseGenomeId }
  named := g.named

section Opening

variable {L : Lax} {g : PersonaGenome}

theorem authoredGenome_personaAuthoringOf (instances : TraitInstances g)
    (baseGenomeId : PyStr) :
    authoredGenome g (personaAuthoringOf g instances) baseGenomeId =
      savedUnchanged g baseGenomeId := by
  unfold authoredGenome personaAuthoringOf savedUnchanged
  simp only [Option.map_some, Option.getD_some, instances.states]

/-- The form of a genome that can be dumped can be dumped. -/
theorem dumpable_personaAuthoringOf (hg : Dumpable g)
    (instances : TraitInstances g) :
    (personaAuthoringOf g instances).Dumpable where
  modalityNotes notes h := by
    cases h
    exact hg.modalityNotes
  traits traits h k hk := by
    cases h
    apply hg.traits k
    have hkeys : (instances.traits.map TraitSettings.state).keys =
        instances.traits.keys := List.map_map
    rw [← instances.states, hkeys]
    exact hk
  dated traits h k s hs := by
    cases h
    apply hg.dated k
    rw [← instances.states]
    exact List.mem_map_of_mem (f := fun e => (e.fst, e.snd.state)) hs

/-- An object all of whose fields were set. -/
def TraitSettings.ofState (t : PersonaTraitState) : TraitSettings :=
  ⟨some t.value, some t.confidence, some t.lastChangedAt, some t.source⟩

@[simp] theorem TraitSettings.state_ofState (t : PersonaTraitState) :
    (TraitSettings.ofState t).state = t := rfl

def TraitInstances.ofStates (g : PersonaGenome) : TraitInstances g where
  traits := g.character.traits.map TraitSettings.ofState
  states := by
    apply Dict.ext
    show (List.map _ (List.map _ g.character.traits.entries)) = _
    rw [List.map_map]
    exact List.map_id _

end Opening

/-!
## Creating a genome
-/

structure PersonaAuthoringDraft where
  archetype : PyStr
  selfConcept : PyStr
  characterPortrait : PyStr
  relationshipNarrative : PyStr
  voicePortrait : PyStr
  values : List PyStr
  boundaries : List PyStr
  safetyBoundaries : List PyStr
  behaviorGuidance : List PyStr
  dialogueExamples : List PyStr
  modalityNotes : Dict PyStr PyStr
  traits : Dict PyStr TraitSettings
  name : PyStr
  named : strip name ≠ []

def buildPersonaGenomeFromDraft (draft : PersonaAuthoringDraft)
    (origin : Origin) : Option PersonaGenome := do
  let base ← buildDefaultPersonaGenome (strip draft.name) draft.archetype origin
  some
    { base with
      constitution :=
        { base.constitution with
          selfConcept := strip draft.selfConcept
          values := draft.values
          boundaries := draft.boundaries }
      character :=
        { base.character with
          portrait := strip draft.characterPortrait
          traits := base.character.traits.update
            (draft.traits.map TraitSettings.state).entries }
      relationship :=
        { PersonaRelationship.default with
          narrative := strip draft.relationshipNarrative
          safetyBoundaries := draft.safetyBoundaries }
      expression :=
        { PersonaExpression.default with
          voicePortrait := strip draft.voicePortrait
          behaviorGuidance := draft.behaviorGuidance
          dialogueExamples := draft.dialogueExamples
          modalityNotes := draft.modalityNotes } }

/-- A value inside `model_dump()`: a datetime stays an object. -/
inductive Plain where
  | json (v : Json)
  | moment (m : Datetime)

def Plain.read {α : Type} (codec : Codec α) : Plain -> Option α
  | .json v => codec.validate v
  | .moment _ => none

def Plain.readMoment (L : Lax) : Plain -> Option (Option Datetime)
  | .json .null => some none
  | .json v => ((Codec.moment L).validate v).map some
  | .moment m => some (some m)

/-- `_carries_nothing`. -/
def Plain.carriesNothing : Plain -> Bool
  | .json v => Fields.carriesNothing v
  | .moment _ => false

/-- `model_dump()` of a trait state. -/
def PersonaTraitState.modelDump (t : PersonaTraitState) : List (PyStr × Plain) :=
  [(str "value", .json (.float t.value.val)),
    (str "confidence", .json (.float t.confidence.val)),
    (str "last_changed_at",
      match t.lastChangedAt with
      | some m => .moment m
      | none => .json .null),
    (str "source", .json (.str t.source))]

/-- A field that may be missing. -/
def settingOf {α : Type} (name : String) (read : Plain -> Option α)
    (members : List (PyStr × Plain)) : Option (Option α) :=
  match members.lookup (str name) with
  | some v => (read v).map some
  | none => some none

/-- `PersonaTraitState.model_validate` of what a dump holds. -/
def TraitSettings.ofPlain (L : Lax) (members : List (PyStr × Plain)) :
    Option TraitSettings :=
  if members.all fun m =>
      modelled (PersonaTraitState.fields L).names m.fst ||
        m.snd.carriesNothing then do
    let value ← settingOf "value" (Plain.read (Codec.unitFloat L)) members
    let confidence ←
      settingOf "confidence" (Plain.read (Codec.unitFloat L)) members
    let lastChangedAt ← settingOf "last_changed_at" (Plain.readMoment L) members
    let source ← settingOf "source" (Plain.read Codec.text) members
    some ⟨value, confidence, lastChangedAt, source⟩
  else none

/-- `authoring.model_dump()`: what was not set has its default. -/
structure AuthoringFields where
  archetype : PyStr
  selfConcept : PyStr
  characterPortrait : PyStr
  relationshipNarrative : PyStr
  voicePortrait : PyStr
  values : List PyStr
  boundaries : List PyStr
  safetyBoundaries : List PyStr
  behaviorGuidance : List PyStr
  dialogueExamples : List PyStr
  modalityNotes : Dict PyStr PyStr
  traits : Dict PyStr (List (PyStr × Plain))

def PersonaAuthoring.modelDump (a : PersonaAuthoring) : AuthoringFields where
  archetype := a.archetype.getD (str "companion")
  selfConcept := a.selfConcept.getD []
  characterPortrait := a.characterPortrait.getD defaultPortrait
  relationshipNarrative := a.relationshipNarrative.getD []
  voicePortrait := a.voicePortrait.getD defaultVoicePortrait
  values := a.values.getD defaultPersonaValues
  boundaries := a.boundaries.getD defaultPersonaBoundaries
  safetyBoundaries := a.safetyBoundaries.getD []
  behaviorGuidance := a.behaviorGuidance.getD defaultPersonaBehaviorGuidance
  dialogueExamples := a.dialogueExamples.getD []
  modalityNotes := a.modalityNotes.getD Dict.empty
  traits := (a.traits.getD Dict.empty).map fun s => s.state.modelDump

/-- Without an authoring every field has its default. -/
def PersonaAuthoringDraft.forCompanion (L : Lax)
    (authoring : Option PersonaAuthoring) (name : PyStr) :
    Option PersonaAuthoringDraft := do
  let fields := (authoring.getD PersonaAuthoring.unset).modelDump
  let traits ← fields.traits.entries.mapM fun e =>
    (TraitSettings.ofPlain L e.snd).map fun s => (e.fst, s)
  if named : strip name ≠ [] then
    some
      { archetype := fields.archetype
        selfConcept := fields.selfConcept
        characterPortrait := fields.characterPortrait
        relationshipNarrative := fields.relationshipNarrative
        voicePortrait := fields.voicePortrait
        values := fields.values
        boundaries := fields.boundaries
        safetyBoundaries := fields.safetyBoundaries
        behaviorGuidance := fields.behaviorGuidance
        dialogueExamples := fields.dialogueExamples
        modalityNotes := fields.modalityNotes
        traits := Dict.ofList traits
        name
        named }
  else none

section Creating

variable {L : Lax} {g : PersonaGenome} {draft : PersonaAuthoringDraft}
variable {origin : Origin}

theorem PersonaTraitState.modelled_modelDump (t : PersonaTraitState) :
    forall m, m ∈ t.modelDump ->
      modelled (PersonaTraitState.fields L).names m.fst = true := by
  intro m hm
  rw [PersonaTraitState.names_fields]
  have hkey : m.fst ∈ t.modelDump.map Prod.fst := List.mem_map_of_mem hm
  have hkeys : t.modelDump.map Prod.fst =
      ["value", "confidence", "last_changed_at", "source"].map str := rfl
  rw [hkeys] at hkey
  rcases List.mem_map.mp hkey with ⟨name, hname, heq⟩
  exact modelled_iff.mpr ⟨name, hname, heq⟩

theorem settingOf_some {α : Type} {name : String} {read : Plain -> Option α}
    {members : List (PyStr × Plain)} {v : Plain} {a : α}
    (hv : members.lookup (str name) = some v) (ha : read v = some a) :
    settingOf name read members = some (some a) := by
  unfold settingOf
  rw [hv]
  exact congrArg (Option.map some) ha

theorem PersonaTraitState.ofPlain_modelDump (t : PersonaTraitState) :
    TraitSettings.ofPlain L t.modelDump = some (TraitSettings.ofState t) := by
  have hall : (t.modelDump.all fun m =>
      modelled (PersonaTraitState.fields L).names m.fst ||
        m.snd.carriesNothing) = true := by
    apply List.all_eq_true.mpr
    intro m hm
    rw [t.modelled_modelDump m hm]
    rfl
  have hmoment : settingOf "last_changed_at" (Plain.readMoment L) t.modelDump =
      some (some t.lastChangedAt) := by
    cases hlast : t.lastChangedAt with
    | none =>
        exact settingOf_some
          (v := .json .null) (by simp [modelDump, lookup_str_cons, hlast]) rfl
    | some m =>
        exact settingOf_some
          (v := .moment m) (by simp [modelDump, lookup_str_cons, hlast]) rfl
  have hvalue : settingOf "value" (Plain.read (Codec.unitFloat L)) t.modelDump =
      some (some t.value) :=
    settingOf_some (v := .json (.float t.value.val))
      (by simp [modelDump])
      ((Codec.unitFloat L).validate_dump .full t.value trivial)
  have hconfidence : settingOf "confidence" (Plain.read (Codec.unitFloat L))
      t.modelDump = some (some t.confidence) :=
    settingOf_some (v := .json (.float t.confidence.val))
      (by simp [modelDump, lookup_str_cons])
      ((Codec.unitFloat L).validate_dump .full t.confidence trivial)
  have hsource : settingOf "source" (Plain.read Codec.text) t.modelDump =
      some (some t.source) :=
    settingOf_some (v := .json (.str t.source))
      (by simp [modelDump, lookup_str_cons])
      (Codec.text.validate_dump .full t.source trivial)
  unfold TraitSettings.ofPlain
  rw [if_pos hall, hvalue, hconfidence, hmoment, hsource]
  rfl

/-- Every trait of a form comes back with all its fields set. -/
theorem mapM_ofPlain (traits : Dict PyStr TraitSettings) :
    ((traits.map fun s => s.state.modelDump).entries.mapM fun e =>
        (TraitSettings.ofPlain L e.snd).map fun s => (e.fst, s)) =
      some (traits.map fun s => .ofState s.state).entries := by
  apply Codec.mapM_eq_some.mpr
  apply List.forall₂_map_left_iff.mpr
  apply List.forall₂_map_right_iff.mpr
  apply List.forall₂_same.mpr
  intro e _
  rw [e.snd.state.ofPlain_modelDump]
  rfl

/-- What a form is read as, and the draft it makes. -/
theorem forCompanion_personaAuthoringOf (instances : TraitInstances g)
    (name : PyStr) (named : strip name ≠ []) :
    PersonaAuthoringDraft.forCompanion L
        (some (personaAuthoringOf g instances)) name =
      some
        { archetype := g.constitution.archetype
          selfConcept := g.constitution.selfConcept
          characterPortrait := g.character.portrait
          relationshipNarrative := g.relationship.narrative
          voicePortrait := g.expression.voicePortrait
          values := g.constitution.values
          boundaries := g.constitution.boundaries
          safetyBoundaries := g.relationship.safetyBoundaries
          behaviorGuidance := g.expression.behaviorGuidance
          dialogueExamples := g.expression.dialogueExamples
          modalityNotes := g.expression.modalityNotes
          traits := instances.traits.map fun s => .ofState s.state
          name
          named } := by
  have htraits := mapM_ofPlain (L := L) instances.traits
  unfold PersonaAuthoringDraft.forCompanion
  simp only [Option.getD_some, personaAuthoringOf, PersonaAuthoring.modelDump]
  rw [htraits]
  simp only [Option.bind_eq_bind, Option.bind_some, dif_pos named,
    Dict.ofList_entries]

theorem state_map_ofState (traits : Dict PyStr TraitSettings) :
    (traits.map fun s => TraitSettings.ofState s.state).map TraitSettings.state =
      traits.map TraitSettings.state := by
  apply Dict.ext
  exact List.map_map

theorem archetype_buildDefault {name archetype : PyStr} {base : PersonaGenome}
    (h : buildDefaultPersonaGenome name archetype origin = some base) :
    base.constitution.archetype =
      if archetype = [] then str "companion" else archetype := by
  rcases Option.bind_eq_some_iff.mp h with ⟨provenance, _, hbase⟩
  by_cases hnamed : strip name ≠ []
  · rw [dif_pos hnamed] at hbase
    rw [← Option.some.inj hbase]
  · rw [dif_neg hnamed] at hbase
    cases hbase

/-- The archetype a template has is one it can be built with again. -/
theorem buildDefault_archetype {name archetype : PyStr} {base : PersonaGenome}
    (h : buildDefaultPersonaGenome name archetype origin = some base) :
    buildDefaultPersonaGenome name base.constitution.archetype origin =
      some base := by
  rw [archetype_buildDefault h]
  by_cases harchetype : archetype = []
  · rw [if_pos harchetype]
    rw [harchetype] at h
    exact h
  · rw [if_neg harchetype]
    exact h

theorem creation_fixed_point
    (h : buildPersonaGenomeFromDraft draft origin = some g)
    (instances : TraitInstances g) :
    exists again, PersonaAuthoringDraft.forCompanion L
        (some (personaAuthoringOf g instances)) draft.name = some again ∧
      buildPersonaGenomeFromDraft again origin = some g := by
  refine ⟨_, forCompanion_personaAuthoringOf instances draft.name draft.named, ?_⟩
  rcases Option.bind_eq_some_iff.mp h with ⟨base, hbase, hg⟩
  have htraits : instances.traits.map TraitSettings.state =
      base.character.traits.update
        (draft.traits.map TraitSettings.state).entries := by
    rw [instances.states, ← Option.some.inj hg]
  unfold buildPersonaGenomeFromDraft
  have hagain : buildDefaultPersonaGenome (strip draft.name)
      g.constitution.archetype origin = some base := by
    rw [← Option.some.inj hg]
    exact buildDefault_archetype hbase
  simp only [hagain, Option.bind_eq_bind, Option.bind_some, state_map_ofState,
    htraits, Dict.update_update]
  rw [← hg]
  simp only [← Option.some.inj hg, strip_strip]

/-- A draft without an archetype, and with one trait of its own. -/
def rememberingDraft : PersonaAuthoringDraft where
  archetype := []
  selfConcept := str " 我记得 "
  characterPortrait := defaultPortrait
  relationshipNarrative := []
  voicePortrait := defaultVoicePortrait
  values := defaultPersonaValues
  boundaries := []
  safetyBoundaries := []
  behaviorGuidance := defaultPersonaBehaviorGuidance
  dialogueExamples := []
  modalityNotes := Dict.empty
  traits := Dict.ofList
    [(str "core.playfulness", ⟨some (hundredths 70), none, none, none⟩)]
  name := str "小南"
  named := by decide

def ownerAuthored : Origin :=
  ⟨str "owner_authored", none, some (str "companion"), none⟩

theorem isSome_rememberingDraft :
    (buildPersonaGenomeFromDraft rememberingDraft ownerAuthored).isSome = true := by
  decide

theorem creation_fixed_point_remembering :
    let g := (buildPersonaGenomeFromDraft rememberingDraft ownerAuthored).get
      isSome_rememberingDraft
    exists again, PersonaAuthoringDraft.forCompanion Lax.plain
        (some (personaAuthoringOf g (TraitInstances.ofStates g)))
        rememberingDraft.name = some again ∧
      buildPersonaGenomeFromDraft again ownerAuthored = some g :=
  creation_fixed_point (Option.some_get _).symm (TraitInstances.ofStates _)

end Creating

end Persona
end EidolonSdk
