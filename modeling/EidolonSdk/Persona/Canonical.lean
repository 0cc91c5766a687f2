import EidolonSdk.Persona.Genome
import EidolonSdk.Python.FloatUnits
import EidolonSdk.Support.Sha256

/-!
# Canonical genomes

How a genome is stored and read again, its canonical text, and its hash.  Null
members are left out of what is stored and come back as the defaults they were.
-/

namespace EidolonSdk
namespace Persona

open Python Pydantic Logic Support

/-- A genome, or the document of one. -/
inductive GenomeSource where
  | genome (g : PersonaGenome)
  | document (members : Members)

section Functions

variable (L : Lax)

/-- `PersonaGenome.model_validate`. -/
def modelValidate (members : Members) : Validated PersonaGenome :=
  match (PersonaGenome.codec L).validate (.object members) with
  | some genome => .ok genome
  | none => .error .invalid

def normalizePersonaGenome : Option GenomeSource -> Validated PersonaGenome
  | some (.genome g) => .ok g
  | none => .error (.raised .valueError)
  | some (.document members) =>
      if members.isEmpty then .error (.raised .valueError)
      else if (members.getOrNone "schema_version").equals
          (.str (str "eidolon.persona_genome")) = false then
        .error (.raised .valueError)
      else modelValidate L members

/-- `genome.model_dump(mode="json", exclude_none=True)`. -/
def personaGenomeToJson (genome : PersonaGenome) : Members :=
  (PersonaGenome.fields L).members .excludeNone genome

def GenomeSource.model : GenomeSource -> Validated PersonaGenome
  | .genome g => .ok g
  | .document members => modelValidate L members

variable (I : Interpreter)

def canonicalPersonaGenomeJson (source : GenomeSource) : Validated PyStr := do
  let model ← source.model L
  (Json.dumpsSorted I (.object (personaGenomeToJson L model))).mapError .raised

def personaGenomeHash (sha256 : Sha256) (source : GenomeSource) :
    Validated PyStr := do
  let text ← canonicalPersonaGenomeJson L I source
  match encodeUtf8 text with
  | some message => .ok (str "pg_" ++ (sha256.hexdigest message).take 32)
  | none => .error (.raised .unicodeEncodeError)

end Functions

/-!
## Stored genomes
-/

/-- The genome can be dumped, and no extra member of its provenance is null. -/
structure Storable (g : PersonaGenome) : Prop extends Dumpable g where
  present : forall k v, (k, v) ∈ g.provenance.extra.val.entries ->
    v.val ≠ .null

section Stored

variable {L : Lax} {I : Interpreter} {g : PersonaGenome}

theorem keeps_of_ne_null {v : Json} (h : v ≠ .null) :
    DumpMode.excludeNone.keeps v = true := by
  cases v with
  | null => exact absurd rfl h
  | bool b => rfl
  | int n => rfl
  | float x => rfl
  | str s => rfl
  | array items => rfl
  | object members => rfl

theorem Storable.kept (h : Storable g) :
    (PersonaGenome.codec L).Kept .excludeNone g :=
  h.toDumpable.kept fun k v hv => keeps_of_ne_null (h.present k v hv)

theorem modelValidate_eq_ok {members : Members} :
    modelValidate L members = .ok g <->
      (PersonaGenome.codec L).validate (.object members) = some g := by
  unfold modelValidate
  cases (PersonaGenome.codec L).validate (.object members) with
  | none => simp
  | some other => simp

theorem validate_personaGenomeToJson (h : Storable g) :
    (PersonaGenome.codec L).validate (.object (personaGenomeToJson L g)) =
      some g :=
  (PersonaGenome.codec L).validate_dump .excludeNone g h.kept

theorem isJson_personaGenomeToJson (h : Storable g) :
    (Json.object (personaGenomeToJson L g)).IsJson :=
  (PersonaGenome.codec L).isJson_dump .excludeNone g h.kept

theorem normalize_personaGenomeToJson (h : Storable g) :
    normalizePersonaGenome L (some (.document (personaGenomeToJson L g))) =
      .ok g := by
  have hschema : (personaGenomeToJson L g).get "schema_version" =
      some (.str (str "eidolon.persona_genome")) := by
    simp [personaGenomeToJson, PersonaGenome.fields, genomeFields, schemaVersion,
      Codec.literal, Codec.scalar, Codec.scalarOf]
  have hnonempty : (personaGenomeToJson L g).isEmpty = false := by
    cases hmembers : personaGenomeToJson L g with
    | nil =>
        rw [hmembers] at hschema
        cases hschema
    | cons m rest => rfl
  have hequals : ((personaGenomeToJson L g).getOrNone "schema_version").equals
      (.str (str "eidolon.persona_genome")) = true := by
    unfold Members.getOrNone
    rw [hschema]
    decide
  unfold normalizePersonaGenome
  simp only [hnonempty, hequals, Bool.false_eq_true, Bool.true_eq_false, if_false]
  exact modelValidate_eq_ok.mpr (validate_personaGenomeToJson h)

/-- The order of members is nothing a document says. -/
theorem model_reordered (h : Storable g) {members : Members}
    (hmembers : Json.Reordered (.object (personaGenomeToJson L g))
      (.object members)) :
    GenomeSource.model L (.document members) = .ok g := by
  apply modelValidate_eq_ok.mpr
  rw [(PersonaGenome.codec L).validate_reordered (isJson_personaGenomeToJson h)
    hmembers, validate_personaGenomeToJson h]

/-- The hash rests on the genome a document is read as. -/
theorem personaGenomeHash_congr {sha256 : Sha256} {source other : GenomeSource}
    (h : source.model L = other.model L) :
    personaGenomeHash L I sha256 source = personaGenomeHash L I sha256 other := by
  unfold personaGenomeHash canonicalPersonaGenomeJson
  rw [h]

theorem canonicalPersonaGenomeJson_eq_ok {text : PyStr} :
    canonicalPersonaGenomeJson L I (.genome g) = .ok text <->
      Json.dumpsSorted I (.object (personaGenomeToJson L g)) = .ok text := by
  show (Json.dumpsSorted I _).mapError Fault.raised = .ok text <-> _
  cases Json.dumpsSorted I (.object (personaGenomeToJson L g)) with
  | error e => simp [Except.mapError]
  | ok other => simp [Except.mapError]

/-- No string of the stored genome spells a character as two surrogates. -/
def Unsplit (L : Lax) (g : PersonaGenome) : Prop :=
  (Json.object (personaGenomeToJson L g)).all (Json.spelled Json.unsplit) = true

theorem writable_personaGenomeToJson (h : Storable g) (hunsplit : Unsplit L g) :
    Json.Writable Json.unsplit (.object (personaGenomeToJson L g)) :=
  ⟨isJson_personaGenomeToJson h, hunsplit⟩

/-- A genome is read from the sorted form of its document. -/
theorem validate_sorted_personaGenomeToJson (h : Storable g) :
    (PersonaGenome.codec L).validate
        (Json.object (personaGenomeToJson L g)).sorted = some g := by
  rw [(PersonaGenome.codec L).validate_sorted _ (isJson_personaGenomeToJson h),
    validate_personaGenomeToJson h]

theorem canonicalPersonaGenomeJson_inj (hI : Json.FloatTexts I)
    {g' : PersonaGenome} {text : PyStr} (h : Storable g) (h' : Storable g')
    (hunsplit : Unsplit L g) (hunsplit' : Unsplit L g')
    (htext : canonicalPersonaGenomeJson L I (.genome g) = .ok text)
    (htext' : canonicalPersonaGenomeJson L I (.genome g') = .ok text) :
    g = g' := by
  have hsorted := Json.dumpsSorted_inj hI
    (writable_personaGenomeToJson h hunsplit)
    (writable_personaGenomeToJson h' hunsplit')
    (canonicalPersonaGenomeJson_eq_ok.mp htext)
    (canonicalPersonaGenomeJson_eq_ok.mp htext')
  have hread := validate_sorted_personaGenomeToJson (L := L) h
  rw [hsorted, validate_sorted_personaGenomeToJson h'] at hread
  exact (Option.some.inj hread).symm

/-- Storing a genome loses nothing, and its canonical text stands for it. -/
structure StoredFaithfully (L : Lax) (I : Interpreter) (sha256 : Sha256)
    (g : PersonaGenome) : Prop where
  normalized : normalizePersonaGenome L
    (some (.document (personaGenomeToJson L g))) = .ok g
  hashed : forall members : Members,
    Json.Reordered (.object (personaGenomeToJson L g)) (.object members) ->
    personaGenomeHash L I sha256 (.document members) =
      personaGenomeHash L I sha256 (.genome g)
  addressed : forall (g' : PersonaGenome) (text : PyStr), Storable g' ->
    Unsplit L g -> Unsplit L g' ->
    canonicalPersonaGenomeJson L I (.genome g) = .ok text ->
    canonicalPersonaGenomeJson L I (.genome g') = .ok text -> g = g'

/-- A genome without traits, and with what it thinks of itself. -/
def bare (selfConcept : PyStr) : PersonaGenome :=
  let base := template (str "Ada") none named_ada
  { base with
    constitution := { base.constitution with selfConcept }
    character := .default }

theorem storable_bare (selfConcept : PyStr) : Storable (bare selfConcept) :=
  have h : Dumpable (template (str "Ada") none named_ada) := dumpable_template
  { h with
    traits := fun _ hk => absurd hk List.not_mem_nil
    dated := fun _ _ ht => absurd ht List.not_mem_nil
    present := fun _ _ hv => absurd hv List.not_mem_nil }

/-- A note named by a lone surrogate, and no traits. -/
theorem stored_surrogateNote :
    (normalizePersonaGenome Lax.plain (some (.document
      (personaGenomeToJson Lax.plain surrogateNote)))).toOption.any
      (fun read => read.expression.modalityNotes !=
        surrogateNote.expression.modalityNotes) = true := by
  decide +kernel

theorem storable_changedAt {d : Datetime} (hd : WholeMinutes d) :
    Storable (changedAt d) :=
  { dumpable_changedAt hd with
    present := fun _ _ hv => absurd hv List.not_mem_nil }

end Stored

end Persona
end EidolonSdk
