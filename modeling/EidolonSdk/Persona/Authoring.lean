import EidolonSdk.Persona.Genome
import EidolonSdk.Python.Assignment

/-!
# Authoring a persona

What a person writes is applied to a stored genome by dumping the genome,
assigning the fields that were set, and validating the whole again; and a
committed genome is read back as what a person wrote.
-/

namespace EidolonSdk
namespace Persona

open Python Pydantic Logic

/-!
## What was set

A model knows which of its fields were set.  The others have their defaults and
are left out of a dump with {lit}`exclude_unset=True`.
-/

structure TraitSettings where
  value : Option UnitFloat
  confidence : Option UnitFloat
  lastChangedAt : Option (Option Datetime)
  source : Option PyStr

/-- The trait state itself. -/
def TraitSettings.state (s : TraitSettings) : PersonaTraitState :=
  ⟨s.value.getD (hundredths 50 half_inUnit), s.confidence.getD (hundredths 50 half_inUnit),
    s.lastChangedAt.getD none, s.source.getD (str "template")⟩

structure PersonaAuthoring where
  archetype : Option PyStr
  selfConcept : Option PyStr
  characterPortrait : Option PyStr
  relationshipNarrative : Option PyStr
  voicePortrait : Option PyStr
  values : Option (List PyStr)
  boundaries : Option (List PyStr)
  safetyBoundaries : Option (List PyStr)
  behaviorGuidance : Option (List PyStr)
  dialogueExamples : Option (List PyStr)
  modalityNotes : Option (Dict PyStr PyStr)
  traits : Option (Dict PyStr TraitSettings)

section Dumps

variable (L : Lax)

def momentOrNull : Option Datetime -> Json
  | some m => (Codec.moment L).dump .full m
  | none => .null

open Fields in
/-- `model_dump(mode="json", exclude_unset=True)` of a trait state. -/
def TraitSettings.members (s : TraitSettings) : Members :=
  setMember "value" ((Codec.unitFloat L).dump .full) s.value ++
    setMember "confidence" ((Codec.unitFloat L).dump .full) s.confidence ++
    setMember "last_changed_at" (momentOrNull L) s.lastChangedAt ++
    setMember "source" (Codec.text.dump .full) s.source

def TraitSettings.dump (s : TraitSettings) : Json :=
  .object (s.members L)

def traitsDump (traits : Dict PyStr TraitSettings) : Json :=
  .object (L.json.typed (traits.entries.map fun e => (e.fst, e.snd.dump L)))

open Fields in
/-- `authored.model_dump(mode="json", exclude_unset=True)` -/
def PersonaAuthoring.items (a : PersonaAuthoring) : Members :=
  setMember "archetype" (Codec.text.dump .full) a.archetype ++
    setMember "self_concept" (Codec.text.dump .full) a.selfConcept ++
    setMember "character_portrait" (Codec.text.dump .full)
      a.characterPortrait ++
    setMember "relationship_narrative" (Codec.text.dump .full)
      a.relationshipNarrative ++
    setMember "voice_portrait" (Codec.text.dump .full) a.voicePortrait ++
    setMember "values" (Codec.text.list.dump .full) a.values ++
    setMember "boundaries" (Codec.text.list.dump .full) a.boundaries ++
    setMember "safety_boundaries" (Codec.text.list.dump .full)
      a.safetyBoundaries ++
    setMember "behavior_guidance" (Codec.text.list.dump .full)
      a.behaviorGuidance ++
    setMember "dialogue_examples" (Codec.text.list.dump .full)
      a.dialogueExamples ++
    setMember "modality_notes" ((Codec.text.dict L.json).dump .full)
      a.modalityNotes ++
    setMember "traits" (traitsDump L) a.traits

/-- Every key a person wrote is a Unicode text, and every time of change can be
written with its offset. -/
structure PersonaAuthoring.Dumpable (a : PersonaAuthoring) : Prop where
  modalityNotes : forall notes, notes ∈ a.modalityNotes -> UnicodeKeys notes
  traits : forall traits, traits ∈ a.traits -> UnicodeKeys traits
  dated : forall traits, traits ∈ a.traits -> forall k s, (k, s) ∈ traits.entries ->
    s.state.Dated

/-!
## Applying it
-/

def paths : List (String × String × String) :=
  [("archetype", "constitution", "archetype"),
    ("self_concept", "constitution", "self_concept"),
    ("values", "constitution", "values"),
    ("boundaries", "constitution", "boundaries"),
    ("character_portrait", "character", "portrait"),
    ("traits", "character", "traits"),
    ("relationship_narrative", "relationship", "narrative"),
    ("safety_boundaries", "relationship", "safety_boundaries"),
    ("voice_portrait", "expression", "voice_portrait"),
    ("behavior_guidance", "expression", "behavior_guidance"),
    ("dialogue_examples", "expression", "dialogue_examples"),
    ("modality_notes", "expression", "modality_notes")]

/-- `value.strip() if isinstance(value, str) else value` -/
def stripped : Json -> Json
  | .str s => .str (strip s)
  | v => v

/-- One round of the loop over the fields that were set. -/
def assignAuthored (payload : Members) (item : PyStr × Json) :
    Except PyException Members :=
  match paths.find? fun path => str path.1 == item.fst with
  | some (_, section', key) =>
      setIn payload (str section', str key) (stripped item.snd)
  | none => throw .keyError

/-- The two assignments of `payload["provenance"].update`. -/
def provenanceEdits (baseGenomeId : PyStr) : List Edit :=
  [((str "provenance", str "origin"), .str (str "owner_authored")),
    ((str "provenance", str "base_genome_id"), .str baseGenomeId)]

def applyPersonaAuthoring (base : PersonaGenome) (authored : PersonaAuthoring)
    (baseGenomeId : PyStr) : Validated PersonaGenome := do
  let payload := (PersonaGenome.fields L).members .full base
  let payload ← ((authored.items L).foldlM assignAuthored payload).mapError .raised
  let payload ← (setAll payload (provenanceEdits baseGenomeId)).mapError .raised
  match (PersonaGenome.codec L).validate (.object payload) with
  | some genome => .ok genome
  | none => .error .invalid

/-!
## What applying it does
-/

/-- The genome with the fields that were set, and its new provenance. -/
def authoredGenome (g : PersonaGenome) (a : PersonaAuthoring)
    (baseGenomeId : PyStr) : PersonaGenome where
  constitution :=
    { g.constitution with
      archetype := (a.archetype.map strip).getD g.constitution.archetype
      selfConcept := (a.selfConcept.map strip).getD g.constitution.selfConcept
      values := a.values.getD g.constitution.values
      boundaries := a.boundaries.getD g.constitution.boundaries }
  character :=
    { g.character with
      portrait := (a.characterPortrait.map strip).getD g.character.portrait
      traits := (a.traits.map fun traits =>
        traits.map TraitSettings.state).getD g.character.traits }
  relationship :=
    { g.relationship with
      narrative :=
        (a.relationshipNarrative.map strip).getD g.relationship.narrative
      safetyBoundaries :=
        a.safetyBoundaries.getD g.relationship.safetyBoundaries }
  expression :=
    { g.expression with
      voicePortrait := (a.voicePortrait.map strip).getD g.expression.voicePortrait
      behaviorGuidance := a.behaviorGuidance.getD g.expression.behaviorGuidance
      dialogueExamples := a.dialogueExamples.getD g.expression.dialogueExamples
      modalityNotes := a.modalityNotes.getD g.expression.modalityNotes }
  memoryPolicy := g.memoryPolicy
  evolutionPolicy := g.evolutionPolicy
  provenance :=
    { g.provenance with
      origin := str "owner_authored"
      baseGenomeId := some baseGenomeId }
  named := g.named

def strippedText (s : PyStr) : Json :=
  .str (strip s)

/-- The assignments an authoring makes. -/
def authoredEdits (a : PersonaAuthoring) : List Edit :=
  setEdit "constitution" "archetype" strippedText a.archetype ++
    setEdit "constitution" "self_concept" strippedText a.selfConcept ++
    setEdit "character" "portrait" strippedText a.characterPortrait ++
    setEdit "relationship" "narrative" strippedText a.relationshipNarrative ++
    setEdit "expression" "voice_portrait" strippedText a.voicePortrait ++
    setEdit "constitution" "values" (Codec.text.list.dump .full) a.values ++
    setEdit "constitution" "boundaries" (Codec.text.list.dump .full)
      a.boundaries ++
    setEdit "relationship" "safety_boundaries" (Codec.text.list.dump .full)
      a.safetyBoundaries ++
    setEdit "expression" "behavior_guidance" (Codec.text.list.dump .full)
      a.behaviorGuidance ++
    setEdit "expression" "dialogue_examples" (Codec.text.list.dump .full)
      a.dialogueExamples ++
    setEdit "expression" "modality_notes" ((Codec.text.dict L.json).dump .full)
      a.modalityNotes ++
    setEdit "character" "traits" (traitsDump L) a.traits

/-- All assignments of one application. -/
def allEdits (a : PersonaAuthoring) (baseGenomeId : PyStr) : List Edit :=
  authoredEdits L a ++ provenanceEdits baseGenomeId

end Dumps

section Edits

variable {L : Lax} {a : PersonaAuthoring}

/-- The loop over these items makes these assignments. -/
def Assigns (items : Members) (edits : List Edit) : Prop :=
  forall payload, items.foldlM assignAuthored payload = setAll payload edits

theorem Assigns.append {items items' : Members} {edits edits' : List Edit}
    (h : Assigns items edits) (h' : Assigns items' edits') :
    Assigns (items ++ items') (edits ++ edits') := by
  intro payload
  rw [List.foldlM_append, setAll_append, h]
  apply bind_congr
  intro middle
  exact h' middle

theorem assigns_setMember {γ : Type} {name path key : String}
    {dump value : γ -> Json} {setting : Option γ}
    (hpath : paths.find? (fun p => str p.1 == str name) =
      some (name, path, key))
    (hvalue : forall c, stripped (dump c) = value c) :
    Assigns (Fields.setMember name dump setting)
      (setEdit path key value setting) := by
  intro payload
  cases setting with
  | none => rfl
  | some c =>
      have hround : assignAuthored payload (str name, dump c) =
          setIn payload (str path, str key) (value c) := by
        unfold assignAuthored
        rw [hpath, ← hvalue c]
      show (assignAuthored payload (str name, dump c) >>= fun payload =>
        pure payload) = (setIn payload (str path, str key) (value c) >>= _)
      rw [hround]
      rfl

theorem assigns_items : Assigns (a.items L) (authoredEdits L a) :=
  assigns_setMember rfl (fun _ => rfl)
    |>.append (assigns_setMember rfl fun _ => rfl)
    |>.append (assigns_setMember rfl fun _ => rfl)
    |>.append (assigns_setMember rfl fun _ => rfl)
    |>.append (assigns_setMember rfl fun _ => rfl)
    |>.append (assigns_setMember rfl fun _ => rfl)
    |>.append (assigns_setMember rfl fun _ => rfl)
    |>.append (assigns_setMember rfl fun _ => rfl)
    |>.append (assigns_setMember rfl fun _ => rfl)
    |>.append (assigns_setMember rfl fun _ => rfl)
    |>.append (assigns_setMember rfl fun _ => rfl)
    |>.append (assigns_setMember rfl fun _ => rfl)

/-- The places an application reaches, in the order it reaches them. -/
def editPlaces : List (PyStr × PyStr) :=
  [(str "constitution", str "archetype"),
    (str "constitution", str "self_concept"),
    (str "character", str "portrait"),
    (str "relationship", str "narrative"),
    (str "expression", str "voice_portrait"),
    (str "constitution", str "values"),
    (str "constitution", str "boundaries"),
    (str "relationship", str "safety_boundaries"),
    (str "expression", str "behavior_guidance"),
    (str "expression", str "dialogue_examples"),
    (str "expression", str "modality_notes"),
    (str "character", str "traits"),
    (str "provenance", str "origin"),
    (str "provenance", str "base_genome_id")]

theorem places_allEdits {baseGenomeId : PyStr} :
    List.Sublist ((allEdits L a baseGenomeId).map Prod.fst) editPlaces := by
  unfold allEdits authoredEdits
  simp only [List.map_append]
  exact paths_setEdit _ _ _ _
    |>.append (paths_setEdit _ _ _ _) |>.append (paths_setEdit _ _ _ _)
    |>.append (paths_setEdit _ _ _ _) |>.append (paths_setEdit _ _ _ _)
    |>.append (paths_setEdit _ _ _ _) |>.append (paths_setEdit _ _ _ _)
    |>.append (paths_setEdit _ _ _ _) |>.append (paths_setEdit _ _ _ _)
    |>.append (paths_setEdit _ _ _ _) |>.append (paths_setEdit _ _ _ _)
    |>.append (paths_setEdit _ _ _ _) |>.append (List.Sublist.refl _)

theorem nodup_allEdits {baseGenomeId : PyStr} :
    ((allEdits L a baseGenomeId).map Prod.fst).Nodup :=
  places_allEdits.nodup (by decide)

end Edits

/-!
## The dump of a genome
-/

section Dump

variable {L : Lax} {mode : DumpMode} {g : PersonaGenome}

theorem get_constitution :
    Members.get ((PersonaGenome.fields L).members mode g) "constitution" =
      some (.object (PersonaConstitution.fields.members mode g.constitution)) := by
  simp [PersonaGenome.fields, genomeFields, Fields.document]

theorem get_character :
    Members.get ((PersonaGenome.fields L).members mode g) "character" =
      some (.object ((PersonaCharacter.fields L).members mode g.character)) := by
  simp [PersonaGenome.fields, genomeFields, Fields.document]

theorem get_relationship :
    Members.get ((PersonaGenome.fields L).members mode g) "relationship" =
      some (.object
        (PersonaRelationship.fields.members mode g.relationship)) := by
  simp [PersonaGenome.fields, genomeFields, Fields.document]

theorem get_expression :
    Members.get ((PersonaGenome.fields L).members mode g) "expression" =
      some (.object ((PersonaExpression.fields L).members mode g.expression)) := by
  simp [PersonaGenome.fields, genomeFields, Fields.document]

theorem get_memoryPolicy :
    Members.get ((PersonaGenome.fields L).members mode g) "memory_policy" =
      some (.object
        ((PersonaMemoryPolicy.fields L).members mode g.memoryPolicy)) := by
  simp [PersonaGenome.fields, genomeFields, Fields.document]

theorem get_evolutionPolicy :
    Members.get ((PersonaGenome.fields L).members mode g) "evolution_policy" =
      some (.object
        ((PersonaEvolutionPolicy.fields L).members mode g.evolutionPolicy)) := by
  simp [PersonaGenome.fields, genomeFields, Fields.document]

theorem get_schemaVersion :
    Members.get ((PersonaGenome.fields L).members mode g) "schema_version" =
      some (.str (str "eidolon.persona_genome")) := by
  simp [PersonaGenome.fields, genomeFields, schemaVersion, Codec.literal,
    Codec.scalar, Codec.scalarOf]

/-- The members of a provenance, the extra ones last. -/
def provenanceMembers (L : Lax) (mode : DumpMode) (p : PersonaProvenance) :
    Members :=
  (provenanceFields L).members mode
      ((((p.origin, p.baseGenomeId), p.sourcePresetId), p.sourcePresetRevision),
        p.evidenceRefs) ++
    Fields.extraMembers L mode p.extra

theorem get_provenance :
    Members.get ((PersonaGenome.fields L).members mode g) "provenance" =
      some (.object (provenanceMembers L mode g.provenance)) := by
  simp [PersonaGenome.fields, genomeFields, PersonaProvenance.codec, Codec.map,
    Fields.openDocument]
  rfl

theorem present_of_get {payload inner : Members} {path key : String}
    (hpath : payload.get path = some (.object inner))
    (hkey : (Members.get inner key).isSome = true) :
    Present payload (str path, str key) :=
  ⟨inner, hpath, Members.get_isSome.mp hkey⟩

theorem present_editPlaces {place : PyStr × PyStr} (h : place ∈ editPlaces) :
    Present ((PersonaGenome.fields L).members .full g) place := by
  simp only [editPlaces, List.mem_cons, List.not_mem_nil, or_false] at h
  rcases h with h | h | h | h | h | h | h | h | h | h | h | h | h | h
  all_goals rw [h]
  · exact present_of_get get_constitution (by simp [PersonaConstitution.fields])
  · exact present_of_get get_constitution (by simp [PersonaConstitution.fields])
  · exact present_of_get get_character (by simp [PersonaCharacter.fields])
  · exact present_of_get get_relationship (by simp [PersonaRelationship.fields])
  · exact present_of_get get_expression (by simp [PersonaExpression.fields])
  · exact present_of_get get_constitution (by simp [PersonaConstitution.fields])
  · exact present_of_get get_constitution (by simp [PersonaConstitution.fields])
  · exact present_of_get get_relationship (by simp [PersonaRelationship.fields])
  · exact present_of_get get_expression (by simp [PersonaExpression.fields])
  · exact present_of_get get_expression (by simp [PersonaExpression.fields])
  · exact present_of_get get_expression (by simp [PersonaExpression.fields])
  · exact present_of_get get_character (by simp [PersonaCharacter.fields])
  · exact present_of_get get_provenance
      (by simp [provenanceMembers, provenanceFields])
  · exact present_of_get get_provenance
      (by
        cases hbase : g.provenance.baseGenomeId with
        | none => simp [provenanceMembers, provenanceFields, Fields.optional, hbase]
        | some s => simp [provenanceMembers, provenanceFields, Fields.optional, hbase])

end Dump

/-!
## Reading it back
-/

section Reading

variable {L : Lax}

theorem validate_momentOrNull {members : Members}
    {setting : Option (Option Datetime)}
    (hget : members.get "last_changed_at" = setting.map (momentOrNull L))
    (hdated : forall d, d ∈ setting.getD none -> WholeMinutes d) :
    (Fields.optional "last_changed_at" (Codec.moment L)
      Codec.moment_ne_null).read members = some (setting.getD none) := by
  cases setting with
  | none => simp only [Fields.optional, hget]; rfl
  | some m =>
      cases m with
      | none => simp only [Fields.optional, hget]; rfl
      | some m =>
          exact Fields.read_optional_get hget
            ((Codec.moment L).validate_dump .full m (hdated m rfl))
            (Codec.moment_ne_null .full m)

/-- A field of a trait state, set or left to its default. -/
theorem read_setting {α : Type} {name : String} {codec : Codec α} {default : α}
    {members : Members} {setting : Option α}
    (hget : members.get name = setting.map (codec.dump .full))
    (hkept : forall a, codec.Kept .full a) :
    (Fields.field name codec (some default)).read members =
      some (setting.getD default) := by
  cases setting with
  | none => simp only [Fields.field, hget]; rfl
  | some a =>
      rw [Fields.read_field_get hget, codec.validate_dump .full a (hkept a)]
      rfl

theorem TraitSettings.retired (s : TraitSettings) :
    (PersonaTraitState.fields L).Retired (s.members L) := by
  refine Fields.retired_append _ (Fields.retired_append _ (Fields.retired_append _
    ?_ ?_) ?_) ?_
  · exact Fields.retired_setMember _ (by simp [PersonaTraitState.names_fields])
  · exact Fields.retired_setMember _ (by simp [PersonaTraitState.names_fields])
  · exact Fields.retired_setMember _ (by simp [PersonaTraitState.names_fields])
  · exact Fields.retired_setMember _ (by simp [PersonaTraitState.names_fields])

theorem TraitSettings.validate_dump {s : TraitSettings} (h : s.state.Dated) :
    (PersonaTraitState.fields L).document.validate (s.dump L) =
      some s.state := by
  apply (Fields.load_eq_some _).mpr
  refine ⟨s.retired, Fields.read_map_some (a := (((_, _), _), _)) ?_ rfl⟩
  apply Fields.read_and_some
  · apply Fields.read_and_some
    · apply Fields.read_and_some
      · exact read_setting (by simp [TraitSettings.members]) fun _ => trivial
      · exact read_setting (by simp [TraitSettings.members]) fun _ => trivial
    · exact validate_momentOrNull (by simp [TraitSettings.members]) h
  · exact read_setting (by simp [TraitSettings.members]) fun _ => trivial

theorem validate_traitsDump {traits : Dict PyStr TraitSettings}
    (hkeys : UnicodeKeys traits)
    (hdated : forall k s, (k, s) ∈ traits.entries -> s.state.Dated) :
    ((PersonaTraitState.fields L).document.dict L.json).validate
        (traitsDump L traits) =
      some (traits.map TraitSettings.state) := by
  have hentries := Codec.entries_map (PersonaTraitState.fields L).document
    (TraitSettings.dump L) TraitSettings.state
    fun k s (hs : (k, s) ∈ traits.entries) =>
      TraitSettings.validate_dump (hdated k s hs)
  show (Codec.entries _ (L.json.typed _)).map Dict.ofList = _
  rw [Codec.typed_entries L.json _ traits fun k s hs =>
      hkeys k (List.mem_map_of_mem hs),
    hentries, Option.map_some, Dict.ofList_entries]

variable {g : PersonaGenome} {a : PersonaAuthoring} {baseGenomeId : PyStr}
variable {inner : Members}

/-- What a section of the payload holds after all assignments. -/
def Holds (L : Lax) (a : PersonaAuthoring) (baseGenomeId : PyStr) (path : String)
    (before inner : Members) : Prop :=
  inner.keys = before.keys ∧ forall key, inner.lookup key =
    ((allEdits L a baseGenomeId).lookup (str path, key)).or (before.lookup key)

theorem lookup_provenanceEdits (path key : String) :
    (provenanceEdits baseGenomeId).lookup (str path, str key) =
      (if path = "provenance" ∧ key = "origin" then
        some (.str (str "owner_authored")) else none).or
      (if path = "provenance" ∧ key = "base_genome_id" then
        some (.str baseGenomeId) else none) := by
  have hedits : provenanceEdits baseGenomeId =
      setEdit "provenance" "origin" Json.str (some (str "owner_authored")) ++
        setEdit "provenance" "base_genome_id" Json.str (some baseGenomeId) := rfl
  rw [hedits, List.lookup_append, lookup_setEdit, lookup_setEdit]
  rfl

/-- What is found in a section, key by key. -/
theorem Holds.get {path : String} {before : Members}
    (h : Holds L a baseGenomeId path before inner) (key : String) :
    inner.get key = ((authoredEdits L a).lookup (str path, str key)).or
      (((provenanceEdits baseGenomeId).lookup (str path, str key)).or
        (before.get key)) := by
  rw [← Option.or_assoc, ← List.lookup_append]
  exact h.right (str key)

theorem read_authored_text {name : String} {default setting : Option PyStr}
    {old : PyStr} (hget : inner.get name =
      (setting.map strippedText).or (some (Codec.text.dump .full old))) :
    (Fields.field name Codec.text default).read inner =
      some ((setting.map strip).getD old) :=
  Fields.read_field_edited .full hget trivial fun _ _ => rfl

theorem validate_constitution (h : Holds L a baseGenomeId "constitution"
      (PersonaConstitution.fields.members .full g.constitution) inner) :
    PersonaConstitution.fields.document.validate (.object inner) =
      some (authoredGenome g a baseGenomeId).constitution := by
  apply (Fields.load_eq_some _).mpr
  refine ⟨Fields.retired_of_keys _ h.left,
    Fields.read_map_some (a := ((((_, _), _), _), _)) ?_ rfl⟩
  have hget := h.get
  simp only [authoredEdits, List.lookup_append, lookup_setEdit,
    lookup_provenanceEdits] at hget
  apply Fields.read_and_some
  · apply Fields.read_and_some
    · apply Fields.read_and_some
      · apply Fields.read_and_some
        · exact Fields.read_field_kept .full
            (by simp [hget, PersonaConstitution.fields]) trivial
        · exact read_authored_text (by simp [hget, PersonaConstitution.fields])
      · exact read_authored_text (by simp [hget, PersonaConstitution.fields])
    · exact Fields.read_field_replaced .full
        (by simp [hget, PersonaConstitution.fields]) (fun _ _ => trivial) fun _ _ _ _ => trivial
  · exact Fields.read_field_replaced .full
      (by simp [hget, PersonaConstitution.fields]) (fun _ _ => trivial) fun _ _ _ _ => trivial

theorem validate_character (hg : Dumpable g) (ha : a.Dumpable)
    (h : Holds L a baseGenomeId "character"
      ((PersonaCharacter.fields L).members .full g.character) inner) :
    (PersonaCharacter.fields L).document.validate (.object inner) =
      some (authoredGenome g a baseGenomeId).character := by
  apply (Fields.load_eq_some _).mpr
  refine ⟨Fields.retired_of_keys _ h.left,
    Fields.read_map_some (a := (((_, _), _), _)) ?_ rfl⟩
  have hget := h.get
  simp only [authoredEdits, List.lookup_append, lookup_setEdit,
    lookup_provenanceEdits] at hget
  apply Fields.read_and_some
  · apply Fields.read_and_some
    · apply Fields.read_and_some
      · exact read_authored_text (by simp [hget, PersonaCharacter.fields])
      · exact Fields.read_field_edited .full
          (by simp [hget, PersonaCharacter.fields]) hg.keptTraits
          fun traits htraits => validate_traitsDump (ha.traits traits htraits)
            (ha.dated traits htraits)
    · exact Fields.read_field_kept .full
        (by simp [hget, PersonaCharacter.fields]) fun _ _ => trivial
  · exact Fields.read_field_kept .full
      (by simp [hget, PersonaCharacter.fields]) fun _ _ => trivial

theorem validate_relationship (h : Holds L a baseGenomeId "relationship"
      (PersonaRelationship.fields.members .full g.relationship) inner) :
    PersonaRelationship.fields.document.validate (.object inner) =
      some (authoredGenome g a baseGenomeId).relationship := by
  apply (Fields.load_eq_some _).mpr
  refine ⟨Fields.retired_of_keys _ h.left,
    Fields.read_map_some (a := ((_, _), _)) ?_ rfl⟩
  have hget := h.get
  simp only [authoredEdits, List.lookup_append, lookup_setEdit,
    lookup_provenanceEdits] at hget
  apply Fields.read_and_some
  · apply Fields.read_and_some
    · exact Fields.read_field_kept .full
        (by simp [hget, PersonaRelationship.fields]) trivial
    · exact read_authored_text (by simp [hget, PersonaRelationship.fields])
  · exact Fields.read_field_replaced .full
      (by simp [hget, PersonaRelationship.fields]) (fun _ _ => trivial) fun _ _ _ _ => trivial

theorem validate_expression (hg : Dumpable g) (ha : a.Dumpable)
    (h : Holds L a baseGenomeId "expression"
      ((PersonaExpression.fields L).members .full g.expression) inner) :
    (PersonaExpression.fields L).document.validate (.object inner) =
      some (authoredGenome g a baseGenomeId).expression := by
  apply (Fields.load_eq_some _).mpr
  refine ⟨Fields.retired_of_keys _ h.left,
    Fields.read_map_some (a := ((((_, _), _), _), _)) ?_ rfl⟩
  have hget := h.get
  simp only [authoredEdits, List.lookup_append, lookup_setEdit,
    lookup_provenanceEdits] at hget
  apply Fields.read_and_some
  · apply Fields.read_and_some
    · apply Fields.read_and_some
      · apply Fields.read_and_some
        · exact read_authored_text (by simp [hget, PersonaExpression.fields])
        · exact Fields.read_field_replaced .full
            (by simp [hget, PersonaExpression.fields]) (fun _ _ => trivial) fun _ _ _ _ => trivial
      · exact Fields.read_field_replaced .full
          (by simp [hget, PersonaExpression.fields]) (fun _ _ => trivial) fun _ _ _ _ => trivial
    · exact Fields.read_field_replaced .full
        (by simp [hget, PersonaExpression.fields])
        (hg.modalityNotes.kept (L := L) fun _ _ _ => trivial)
        fun notes hnotes => (ha.modalityNotes notes hnotes).kept (L := L)
          fun _ _ _ => trivial
  · exact Fields.read_field_kept .full (by simp [hget, PersonaExpression.fields])
      (hg.signaturePhrases.kept (L := L) fun _ _ _ => trivial)

/-- Elsewhere nothing is assigned. -/
theorem lookup_elsewhere {path key : PyStr} (h : (path, key) ∉ editPlaces) :
    (allEdits L a baseGenomeId).lookup (path, key) = none := by
  cases hfound : (allEdits L a baseGenomeId).lookup (path, key) with
  | none => rfl
  | some v =>
      exact absurd (places_allEdits.subset
        (List.mem_map_of_mem (mem_of_lookup_eq hfound))) h

theorem validate_provenance (hg : Dumpable g)
    (h : Holds L a baseGenomeId "provenance"
      (provenanceMembers L .full g.provenance) inner) :
    (PersonaProvenance.codec L).validate (.object inner) =
      some (authoredGenome g a baseGenomeId).provenance := by
  have hextra : forall key, key ∈ ["source_preset_id", "source_preset_revision"] ->
      (Fields.extraMembers L .full g.provenance.extra).get key = none := by
    intro key hkey
    apply Fields.get_extraMembers
    rcases List.mem_cons.mp hkey with heq | hkey
    · simp [heq, provenanceNames]
    · simp [List.mem_singleton.mp hkey, provenanceNames]
  have hget := h.get
  simp only [authoredEdits, List.lookup_append, lookup_setEdit,
    lookup_provenanceEdits] at hget
  have hread : (provenanceFields L).read inner =
      some ((((str "owner_authored", some baseGenomeId),
        g.provenance.sourcePresetId), g.provenance.sourcePresetRevision),
        g.provenance.evidenceRefs) := by
    apply Fields.read_and_some
    · apply Fields.read_and_some
      · apply Fields.read_and_some
        · apply Fields.read_and_some
          · exact Fields.read_field_kept .full (by simp [hget]; rfl) trivial
          · exact Fields.read_optional_get
              (hget "base_genome_id" |>.trans (by simp; rfl)) rfl
              (fun h => Json.noConfusion h)
        · exact Fields.read_optional_kept .full
            (by simp [hget, provenanceMembers, provenanceFields, hextra]) fun _ _ => trivial
      · exact Fields.read_optional_kept .full
          (by simp [hget, provenanceMembers, provenanceFields, hextra]) fun _ _ => trivial
    · exact Fields.read_field_kept .full
        (by simp [hget, provenanceMembers, provenanceFields]) fun r _ => r.kept
  have hkeys : (provenanceMembers L .full g.provenance).keys.Nodup := by
    have hjson := (PersonaProvenance.codec L).isJson_dump .full g.provenance
      (hg.provenance fun _ _ _ => rfl)
    exact Json.IsJson.keys_nodup hjson
  have hextras : Fields.extrasOf provenanceNames inner =
      some g.provenance.extra := by
    apply (Fields.extrasOf_congr hkeys (by rw [h.left]; exact hkeys) _).trans
    · exact Fields.extrasOf_dump (provenanceFields L) (hg.keptExtra fun _ _ _ => rfl)
    · intro k hk
      have hplaces : forall place, place ∈ editPlaces ->
          place.fst = str "provenance" ->
          modelled provenanceNames place.snd = true := by
        decide
      have helsewhere : (str "provenance", k) ∉ editPlaces := by
        intro hmem
        rw [hplaces _ hmem rfl] at hk
        cases hk
      rw [h.right, lookup_elsewhere helsewhere, Option.none_or]
  show (Option.map _ ((provenanceFields L).read inner >>= fun _ =>
    Fields.extrasOf provenanceNames inner >>= _)) = _
  rw [hread, hextras]
  rfl

/-- A section in which nothing is assigned. -/
theorem validate_untouched {α : Type} {fields : Fields α} {x : α} {path : String}
    (hx : fields.Kept .full x)
    (hpath : forall place, place ∈ editPlaces -> place.fst ≠ str path)
    (h : Holds L a baseGenomeId path (fields.members .full x) inner) :
    fields.document.validate (.object inner) = some x := by
  apply (Fields.load_eq_some _).mpr
  refine ⟨Fields.retired_of_keys _ h.left, ?_⟩
  rw [← fields.read_members .full x hx]
  apply fields.read_congr_get
  intro name _
  have helsewhere : (str path, str name) ∉ editPlaces :=
    fun hmem => hpath _ hmem rfl
  show inner.lookup (str name) = _
  rw [h.right, lookup_elsewhere helsewhere, Option.none_or]
  rfl

theorem Holds.of_edited {before after : Members} {path : String}
    {members : Members}
    (h : Edited before after (allEdits L a baseGenomeId))
    (hpath : before.get path = some (.object members)) :
    exists inner, after.get path = some (.object inner) ∧
      Holds L a baseGenomeId path members inner := by
  rcases h.inside (str path) members hpath with ⟨inner, hinner, hkeys, hlookup⟩
  exact ⟨inner, hinner, hkeys, hlookup⟩

theorem validate_edited {after : Members} (hg : Dumpable g) (ha : a.Dumpable)
    (h : Edited ((PersonaGenome.fields L).members .full g) after
      (allEdits L a baseGenomeId)) :
    (PersonaGenome.codec L).validate (.object after) =
      some (authoredGenome g a baseGenomeId) := by
  rcases Holds.of_edited h get_constitution with ⟨_, hconstitution, hc⟩
  rcases Holds.of_edited h get_character with ⟨_, hcharacter, hch⟩
  rcases Holds.of_edited h get_relationship with ⟨_, hrelationship, hr⟩
  rcases Holds.of_edited h get_expression with ⟨_, hexpression, he⟩
  rcases Holds.of_edited h get_memoryPolicy with ⟨_, hmemory, hm⟩
  rcases Holds.of_edited h get_evolutionPolicy with ⟨_, hpolicy, hp⟩
  rcases Holds.of_edited h get_provenance with ⟨_, hprovenance, hpr⟩
  have hschema : after.get "schema_version" =
      some (.str (str "eidolon.persona_genome")) := by
    rw [← get_schemaVersion]
    apply h.outside
    intro inner hinner
    have hget := get_schemaVersion.symm.trans hinner
    cases hget
  apply (Fields.load_eq_some _).mpr
  refine ⟨Fields.retired_of_keys _ h.keys, Fields.read_map_some
    (a := ⟨((((((((), _), _), _), _), _), _), _),
      (authoredGenome g a baseGenomeId).named⟩) ?_ rfl⟩
  apply Fields.read_such_some
  apply Fields.read_and_some
  · apply Fields.read_and_some
    · apply Fields.read_and_some
      · apply Fields.read_and_some
        · apply Fields.read_and_some
          · apply Fields.read_and_some
            · apply Fields.read_and_some
              · exact Fields.read_field_get hschema
              · exact (Fields.read_field_get hconstitution).trans (validate_constitution hc)
            · exact (Fields.read_field_get hcharacter).trans (validate_character hg ha hch)
          · exact (Fields.read_field_get hrelationship).trans (validate_relationship hr)
        · exact (Fields.read_field_get hexpression).trans (validate_expression hg ha he)
      · exact (Fields.read_field_get hmemory).trans
          (validate_untouched hg.memoryPolicy (by decide) hm)
    · exact (Fields.read_field_get hpolicy).trans
        (validate_untouched g.evolutionPolicy.kept (by decide) hp)
  · exact (Fields.read_field_get hprovenance).trans (validate_provenance hg hpr)

/-- Applying an authoring never fails, and this is what it returns. -/
theorem applyPersonaAuthoring_eq (hg : Dumpable g) (ha : a.Dumpable) :
    applyPersonaAuthoring L g a baseGenomeId =
      .ok (authoredGenome g a baseGenomeId) := by
  have hpresent : forall edit, edit ∈ allEdits L a baseGenomeId ->
      Present ((PersonaGenome.fields L).members .full g) edit.fst :=
    fun edit hedit => present_editPlaces
      (places_allEdits.subset (List.mem_map_of_mem hedit))
  rcases setAll_edited nodup_allEdits hpresent with ⟨after, hafter, hedited⟩
  have hvalid := validate_edited hg ha hedited
  unfold allEdits at hafter
  rw [setAll_append, ← assigns_items] at hafter
  unfold applyPersonaAuthoring
  cases hloop : (a.items L).foldlM assignAuthored
      ((PersonaGenome.fields L).members .full g) with
  | error e =>
      rw [hloop] at hafter
      cases hafter
  | ok middle =>
      rw [hloop] at hafter
      have hrest : setAll middle (provenanceEdits baseGenomeId) = .ok after :=
        hafter
      simp only [hloop, Except.mapError, hrest, hvalid, bind, Except.bind]

/-- What is applied depends on the dumps of the genome and of the authoring. -/
theorem applyPersonaAuthoring_congr {g' : PersonaGenome} {a' : PersonaAuthoring}
    (hg : (PersonaGenome.fields L).members .full g =
      (PersonaGenome.fields L).members .full g')
    (ha : a.items L = a'.items L) :
    applyPersonaAuthoring L g a baseGenomeId =
      applyPersonaAuthoring L g' a' baseGenomeId := by
  unfold applyPersonaAuthoring
  rw [hg, ha]

end Reading

end Persona
end EidolonSdk
