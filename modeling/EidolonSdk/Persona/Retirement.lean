import EidolonSdk.Persona.Genome
import EidolonSdk.Pydantic.Focus

/-!
# Retiring keys

Where the stored documents inside the document of a genome are, and what a key
none of them knows does there: nothing when it carries nothing, and a refusal
otherwise.  The provenance and the free-form maps are no stored documents.
-/

namespace EidolonSdk
namespace Persona

open Python Pydantic Logic

/-- The fields of a stored document inside the document of a genome, and how
another one is put in its place. -/
inductive Site (L : Lax) : (α : Type) -> Fields α -> (Json -> Json) -> Prop where
  | genome : Site L PersonaGenome (PersonaGenome.fields L) id
  | constitution {front : Members} (back : Members) :
      str "constitution" ∉ front.keys ->
      Site L PersonaConstitution PersonaConstitution.fields
        (around "constitution" front back)
  | character {front : Members} (back : Members) :
      str "character" ∉ front.keys ->
      Site L PersonaCharacter (PersonaCharacter.fields L)
        (around "character" front back)
  | relationship {front : Members} (back : Members) :
      str "relationship" ∉ front.keys ->
      Site L PersonaRelationship PersonaRelationship.fields
        (around "relationship" front back)
  | expression {front : Members} (back : Members) :
      str "expression" ∉ front.keys ->
      Site L PersonaExpression (PersonaExpression.fields L)
        (around "expression" front back)
  | memoryPolicy {front : Members} (back : Members) :
      str "memory_policy" ∉ front.keys ->
      Site L PersonaMemoryPolicy (PersonaMemoryPolicy.fields L)
        (around "memory_policy" front back)
  | evolutionPolicy {front : Members} (back : Members) :
      str "evolution_policy" ∉ front.keys ->
      Site L PersonaEvolutionPolicy (PersonaEvolutionPolicy.fields L)
        (around "evolution_policy" front back)
  | trait {front front' : Members} (back back' before after : Members)
      (name : PyStr) : str "character" ∉ front.keys ->
      str "traits" ∉ front'.keys ->
      Site L PersonaTraitState (PersonaTraitState.fields L) fun v =>
        around "character" front back (around "traits" front' back'
          (.object (before ++ (name, v) :: after)))
  | evidence {front front' : Members} (back back' : Members)
      (before after : List Json) : str "provenance" ∉ front.keys ->
      str "evidence_refs" ∉ front'.keys ->
      Site L PersonaEvidenceRef (PersonaEvidenceRef.fields L) fun v =>
        around "provenance" front back (around "evidence_refs" front' back'
          (.array (before ++ v :: after)))

/-- One key more, which its stored document does not know and which carries
nothing. -/
inductive Padded (L : Lax) : Json -> Json -> Prop where
  | key {α : Type} {fields : Fields α} {put : Json -> Json}
      (site : Site L α fields put) (front back : Members) {k : PyStr} {v : Json} :
      modelled fields.names k = false -> Fields.carriesNothing v = true ->
      Padded L (put (.object (front ++ back)))
        (put (.object (front ++ (k, v) :: back)))

section Sites

variable {L : Lax} {α : Type} {fields : Fields α} {put : Json -> Json}

open Fields in
/-- Every stored document is read where it stands. -/
theorem Site.focus (site : Site L α fields put) :
    (PersonaGenome.codec L).Focus put fields.document := by
  have hprovenance : (PersonaGenome.fields L).Focus "provenance"
      (PersonaProvenance.codec L) := (focus_field _ _ _).right.such.map
  have hcharacter : (PersonaGenome.fields L).Focus "character"
      (PersonaCharacter.fields L).document :=
    (focus_field _ _ _).right.left.left.left.left.left.such.map
  cases site with
  | genome => exact Codec.Focus.refl _
  | constitution back hfront =>
      exact ((focus_field _ _ _).right.left.left.left.left.left.left.such.map :
        (PersonaGenome.fields L).Focus "constitution" _).document hfront back
  | character back hfront => exact hcharacter.document hfront back
  | relationship back hfront =>
      exact ((focus_field _ _ _).right.left.left.left.left.such.map :
        (PersonaGenome.fields L).Focus "relationship" _).document hfront back
  | expression back hfront =>
      exact ((focus_field _ _ _).right.left.left.left.such.map :
        (PersonaGenome.fields L).Focus "expression" _).document hfront back
  | memoryPolicy back hfront =>
      exact ((focus_field _ _ _).right.left.left.such.map :
        (PersonaGenome.fields L).Focus "memory_policy" _).document hfront back
  | evolutionPolicy back hfront =>
      exact ((focus_field _ _ _).right.left.such.map :
        (PersonaGenome.fields L).Focus "evolution_policy" _).document hfront back
  | trait back back' before after name hfront hfront' =>
      have htraits : (PersonaCharacter.fields L).Focus "traits"
          ((PersonaTraitState.fields L).document.dict L.json) :=
        (focus_field _ _ _).right.left.left.map
      exact ((hcharacter.document hfront back).comp
        (htraits.document hfront' back')).comp
          (Codec.focus_dict _ L.json before after name)
  | evidence back back' before after hfront hfront' =>
      have hevidence : (provenanceFields L).Focus "evidence_refs"
          (PersonaEvidenceRef.fields L).document.list := (focus_field _ _ _).right
      exact ((hprovenance.document hfront back).comp
        (hevidence.openDocument hfront' back').map).comp
          (Codec.focus_list _ before after)

/-!
## Smaller documents
-/

theorem sizeOf_middle {β : Type} [SizeOf β] (front back : List β) {a b : β}
    (h : sizeOf a < sizeOf b) :
    sizeOf (front ++ a :: back) < sizeOf (front ++ b :: back) := by
  induction front with
  | nil => simpa using h
  | cons c rest ih => simpa using ih

theorem sizeOf_without {β : Type} [SizeOf β] (front back : List β) (a : β) :
    sizeOf (front ++ back) < sizeOf (front ++ a :: back) := by
  induction front with
  | nil => simp
  | cons c rest ih => simpa using ih

theorem sizeOf_member {front back : Members} {k : PyStr} {v w : Json}
    (h : sizeOf v < sizeOf w) :
    sizeOf (Json.object (front ++ (k, v) :: back)) <
      sizeOf (Json.object (front ++ (k, w) :: back)) := by
  have hpair : sizeOf (k, v) < sizeOf (k, w) := by simpa using h
  simpa using sizeOf_middle front back hpair

theorem Site.sizeOf_lt (site : Site L α fields put) {v w : Json}
    (h : sizeOf v < sizeOf w) : sizeOf (put v) < sizeOf (put w) := by
  cases site with
  | genome => exact h
  | constitution => exact sizeOf_member h
  | character => exact sizeOf_member h
  | relationship => exact sizeOf_member h
  | expression => exact sizeOf_member h
  | memoryPolicy => exact sizeOf_member h
  | evolutionPolicy => exact sizeOf_member h
  | trait => exact sizeOf_member (sizeOf_member (sizeOf_member h))
  | evidence back back' before after =>
      have hitems : sizeOf (Json.array (before ++ v :: after)) <
          sizeOf (Json.array (before ++ w :: after)) := by
        simpa using sizeOf_middle before after h
      exact sizeOf_member (sizeOf_member hitems)

/-!
## What a document loses
-/

variable {document : Json} {g : PersonaGenome}

theorem Padded.validate {padded : Json} (h : Padded L document padded) :
    (PersonaGenome.codec L).validate padded =
      (PersonaGenome.codec L).validate document := by
  cases h with
  | key site front back hk hv =>
      exact site.focus.congr _ _ (Fields.validate_padded hk hv)

theorem validate_of_padded {padded : Json}
    (h : Relation.ReflTransGen (Padded L) document padded) :
    (PersonaGenome.codec L).validate padded =
      (PersonaGenome.codec L).validate document := by
  induction h with
  | refl => rfl
  | tail _ hstep ih => rw [hstep.validate, ih]

/-- What an accepted document holds under unknown keys carries nothing. -/
theorem carriesNothing_of_accepted (site : Site L α fields put) {ms : Members}
    (h : (PersonaGenome.codec L).validate (put (.object ms)) = some g)
    {k : PyStr} {v : Json} (hmem : (k, v) ∈ ms)
    (hk : modelled fields.names k = false) : Fields.carriesNothing v = true := by
  rcases List.append_of_mem hmem with ⟨front, back, hsplit⟩
  cases hv : Fields.carriesNothing v with
  | true => rfl
  | false =>
      rw [hsplit, site.focus.refuse _ (Fields.validate_refused hk hv)] at h
      cases h

/-- No stored document inside has a key it does not know. -/
def Current (L : Lax) (document : Json) : Prop :=
  forall (α : Type) (fields : Fields α) (put : Json -> Json) (ms : Members),
    Site L α fields put -> document = put (.object ms) ->
    forall k, k ∈ ms.keys -> modelled fields.names k = true

/-- A document that is accepted is one with known keys only, padded. -/
theorem exists_current (h : (PersonaGenome.codec L).validate document = some g) :
    exists current, Current L current ∧
      Relation.ReflTransGen (Padded L) current document := by
  -- The induction is on the size: one unknown key less is a smaller document.
  induction hsize : sizeOf document using Nat.strong_induction_on
    generalizing document with
  | _ n ih =>
      by_cases hcurrent : Current L document
      · exact ⟨document, hcurrent, Relation.ReflTransGen.refl⟩
      · unfold Current at hcurrent
        push Not at hcurrent
        rcases hcurrent with ⟨α, fields, put, ms, site, hdocument, k, hk, hunknown⟩
        rw [ne_eq, Bool.not_eq_true] at hunknown
        rcases List.mem_map.mp hk with ⟨⟨k', v⟩, hmem, heq⟩
        cases heq
        rw [hdocument] at h
        have hempty := carriesNothing_of_accepted site h hmem hunknown
        rcases List.append_of_mem hmem with ⟨front, back, hsplit⟩
        rw [hsplit] at h hdocument
        have hpadded : Padded L (put (.object (front ++ back)))
            (put (.object (front ++ (k', v) :: back))) :=
          Padded.key site front back hunknown hempty
        rw [hpadded.validate] at h
        have hsmaller : sizeOf (put (.object (front ++ back))) < n := by
          rw [← hsize, hdocument]
          apply site.sizeOf_lt
          simpa using sizeOf_without front back (k', v)
        rcases ih _ hsmaller h rfl with ⟨current, hcurrent, hreach⟩
        rw [hdocument]
        exact ⟨current, hcurrent, hreach.tail hpadded⟩

/-- How unknown keys are dealt with in a document that is read as this genome. -/
structure RetiresFaithfully (L : Lax) (document : Json) (g : PersonaGenome) :
    Prop where
  empty : forall {α : Type} {fields : Fields α} {put : Json -> Json}
    {ms : Members}, Site L α fields put -> document = put (.object ms) ->
    forall k v, (k, v) ∈ ms -> modelled fields.names k = false ->
      Fields.carriesNothing v = true
  current : exists current, Current L current ∧
    Relation.ReflTransGen (Padded L) current document
  removed : forall document', Relation.ReflTransGen (Padded L) document' document ->
    (PersonaGenome.codec L).validate document' = some g
  added : forall document', Relation.ReflTransGen (Padded L) document document' ->
    (PersonaGenome.codec L).validate document' = some g
  refused : forall {α : Type} {fields : Fields α} {put : Json -> Json}
    {front back : Members} {k : PyStr} {v : Json}, Site L α fields put ->
    document = put (.object (front ++ back)) ->
    modelled fields.names k = false -> Fields.carriesNothing v = false ->
    (PersonaGenome.codec L).validate
      (put (.object (front ++ (k, v) :: back))) = none

theorem retirement_loses_nothing
    (h : (PersonaGenome.codec L).validate document = some g) :
    RetiresFaithfully L document g where
  empty site heq _ _ hmem hk := by
    rw [heq] at h
    exact carriesNothing_of_accepted site h hmem hk
  current := exists_current h
  removed _ hremoved := (validate_of_padded hremoved).symm.trans h
  added _ hadded := (validate_of_padded hadded).trans h
  refused site _ hk hv := site.focus.refuse _ (Fields.validate_refused hk hv)

/-- The stored template, with a key of an earlier version. -/
def earlierTemplate (L : Lax) : Json :=
  .object ((PersonaGenome.fields L).members .full
    (template (str "Ada") none named_ada) ++ [(str "prompt", .str [])])

theorem validate_earlierTemplate :
    (PersonaGenome.codec L).validate (earlierTemplate L) =
      some (template (str "Ada") none (by decide)) := by
  have hunknown : modelled (PersonaGenome.fields L).names (str "prompt") =
      false := by
    have hnames : (PersonaGenome.fields L).names =
        ["schema_version", "constitution", "character", "relationship",
          "expression", "memory_policy", "evolution_policy", "provenance"] := rfl
    rw [hnames]
    decide
  have hdump := (PersonaGenome.codec L).validate_dump .full
    (template (str "Ada") none (by decide))
    (dumpable_template.kept fun _ _ hv => absurd hv List.not_mem_nil)
  refine (Fields.validate_padded hunknown rfl).trans ?_
  rw [List.append_nil]
  exact hdump

theorem retirement_loses_nothing_template :
    RetiresFaithfully Lax.plain (earlierTemplate Lax.plain)
      (template (str "Ada") none (by decide)) :=
  retirement_loses_nothing validate_earlierTemplate

end Sites

end Persona
end EidolonSdk
