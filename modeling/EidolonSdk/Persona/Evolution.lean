import Mathlib.Algebra.Order.Group.Abs
import EidolonSdk.Logic.Guards
import EidolonSdk.Persona.Genome

/-!
# Evolution within bounds

A proposal is checked against the genome it would replace and nothing else.  The
policy that limits the change is among the parts it must leave alone, so what
holds of one step adds up over a whole run.
-/

namespace EidolonSdk
namespace Persona

open Python Pydantic Logic

/-!
## Comparing parts
-/

/-- A dictionary of values without a type, as a value. -/
def asObject (d : Dict PyStr Json.FreeForm) : Json :=
  .object (d.entries.map fun e => (e.fst, e.snd.val))

theorem asObject_sorted (d : Dict PyStr Json.FreeForm) :
    (asObject d).sorted = asObject d := by
  unfold asObject
  rw [Json.sorted_object]
  unfold Json.sortedDict
  rw [List.map_map]
  have hvalues : d.entries.map ((fun m : PyStr × Json => (m.fst, m.snd.sorted)) ∘
      fun e => (e.fst, e.snd.val)) = d.entries.map fun e => (e.fst, e.snd.val) := by
    apply List.map_congr_left
    intro e _
    exact Prod.ext rfl e.snd.property
  have hsorted : (d.entries.map fun e => (e.fst, e.snd.val)).Pairwise
      fun a b => a.fst < b.fst :=
    List.pairwise_map.mpr d.sorted
  rw [hvalues]
  exact congrArg (fun e : Dict PyStr Json => Json.object e.entries)
    (Dict.ofList_entries ⟨_, hsorted⟩)

/-- `==` of two memory policies. -/
def PersonaMemoryPolicy.equals (p q : PersonaMemoryPolicy) : Bool :=
  Json.alike (asObject p.recallPolicy) (asObject q.recallPolicy) &&
    Json.alike (asObject p.relationPolicies) (asObject q.relationPolicies)

/-- `==` of two evolution policies; the two zeros are one number. -/
def PersonaEvolutionPolicy.equals (p q : PersonaEvolutionPolicy) : Bool :=
  p.enabled == q.enabled && p.autoApplyLowRisk == q.autoApplyLowRisk &&
    p.maxDeltaPerCommit.scaled == q.maxDeltaPerCommit.scaled &&
    p.reviewRequiredTraits == q.reviewRequiredTraits

theorem PersonaMemoryPolicy.equals_self (p : PersonaMemoryPolicy) :
    p.equals p = true := by
  have hself : forall d : Dict PyStr Json.FreeForm,
      Json.alike (asObject d) (asObject d) = true := by
    intro d
    rw [← asObject_sorted]
    exact Json.alike_sorted (asObject d)
  exact Bool.and_eq_true_iff.mpr
    ⟨hself p.recallPolicy, hself p.relationPolicies⟩

theorem PersonaMemoryPolicy.equals_trans {p q r : PersonaMemoryPolicy}
    (hpq : p.equals q = true) (hqr : q.equals r = true) : p.equals r = true := by
  rcases Bool.and_eq_true_iff.mp hpq with ⟨hrecall, hrelation⟩
  rcases Bool.and_eq_true_iff.mp hqr with ⟨hrecall', hrelation'⟩
  exact Bool.and_eq_true_iff.mpr
    ⟨Json.alike_trans _ _ _ hrecall hrecall',
      Json.alike_trans _ _ _ hrelation hrelation'⟩

theorem PersonaEvolutionPolicy.equals_iff {p q : PersonaEvolutionPolicy} :
    p.equals q = true <-> p.enabled = q.enabled ∧
      p.autoApplyLowRisk = q.autoApplyLowRisk ∧
      p.maxDeltaPerCommit.scaled = q.maxDeltaPerCommit.scaled ∧
      p.reviewRequiredTraits = q.reviewRequiredTraits := by
  simp [equals, and_assoc]

/-!
## The check
-/

/-- A proposal refers to the genome it starts from and carries evidence. -/
structure PersonaEvolutionProposalEvent where
  baseGenomeId : PyStr
  rationale : PyStr
  proposedGenome : PersonaGenome
  evidenceRefs : List PersonaEvidenceRef
  lineage : proposedGenome.provenance.baseGenomeId = some baseGenomeId
  evidenced : evidenceRefs ≠ []

/-- How the check ends when it does not return. -/
inductive EvolutionError where
  | valueError (text : PyStr)
  | keyError (key : PyStr)
  deriving DecidableEq

def refuseIf (c : Prop) [Decidable c] (text : PyStr) :
    Except EvolutionError Unit :=
  if c then throw (.valueError text) else pure ()

/-- One round of the loop over the traits. -/
def validateTrait (candidate : Dict PyStr PersonaTraitState) (most : Int)
    (entry : PyStr × PersonaTraitState) : Except EvolutionError Unit :=
  match candidate.lookup entry.fst with
  | none => throw (.keyError entry.fst)
  | some after =>
      refuseIf (most < |after.value.scaled - entry.snd.value.scaled|)
        (str "persona trait delta exceeds max_delta_per_commit: " ++ entry.fst)

/-- `stages.index(stage)`. -/
def RelationshipStage.index (stage : RelationshipStage) : Nat :=
  stages.idxOf stage

def validatePersonaEvolution (current : PersonaGenome)
    (proposal : PersonaEvolutionProposalEvent) : Except EvolutionError Unit := do
  let candidate := proposal.proposedGenome
  refuseIf (current.evolutionPolicy.enabled = false)
    (str "persona evolution is disabled")
  refuseIf (strip proposal.rationale = [] ∨ proposal.evidenceRefs = [])
    (str "persona evolution requires rationale and evidence")
  refuseIf (candidate.constitution ≠ current.constitution)
    (str "memory-driven evolution cannot rewrite the constitution")
  refuseIf (candidate.memoryPolicy.equals current.memoryPolicy = false)
    (str "memory-driven evolution cannot rewrite memory_policy")
  refuseIf (candidate.evolutionPolicy.equals current.evolutionPolicy = false)
    (str "memory-driven evolution cannot rewrite evolution_policy")
  refuseIf (candidate.relationship.narrative ≠ current.relationship.narrative ∨
      candidate.relationship.safetyBoundaries ≠
        current.relationship.safetyBoundaries)
    (str "memory-driven evolution cannot rewrite relationship agreements")
  refuseIf (candidate.character.traits.keys ≠ current.character.traits.keys)
    (str "persona evolution cannot add or remove traits")
  current.character.traits.entries.forM
    (validateTrait candidate.character.traits
      current.evolutionPolicy.maxDeltaPerCommit.scaled)
  refuseIf (candidate.relationship.stage.index < current.relationship.stage.index ∨
      current.relationship.stage.index + 1 < candidate.relationship.stage.index)
    (str "relationship stage evolution must move forward one step at most")

/-- What the check leaves to a step. -/
structure Step (current next : PersonaGenome) : Prop where
  enabled : current.evolutionPolicy.enabled = true
  constitution : next.constitution = current.constitution
  memory : next.memoryPolicy.equals current.memoryPolicy = true
  policy : next.evolutionPolicy.equals current.evolutionPolicy = true
  narrative : next.relationship.narrative = current.relationship.narrative
  safety : next.relationship.safetyBoundaries =
    current.relationship.safetyBoundaries
  names : next.character.traits.keys = current.character.traits.keys
  drift : forall name before after,
    current.character.traits.lookup name = some before ->
    next.character.traits.lookup name = some after ->
    |after.value.scaled - before.value.scaled| ≤
      current.evolutionPolicy.maxDeltaPerCommit.scaled
  forward : current.relationship.stage.index ≤ next.relationship.stage.index
  oneStage : next.relationship.stage.index ≤
    current.relationship.stage.index + 1

section Check

variable {current : PersonaGenome} {proposal : PersonaEvolutionProposalEvent}

theorem guard_refuseIf (c : Prop) [Decidable c] (text : PyStr) :
    Guard (refuseIf c text) (fun _ => False) False (¬ c) :=
  guard_refuse id

theorem guard_validateTrait {candidate : Dict PyStr PersonaTraitState}
    {most : Int} {entry : PyStr × PersonaTraitState} :
    Guard (validateTrait candidate most entry) (fun _ => False) False
      (exists after, candidate.lookup entry.fst = some after ∧
        |after.value.scaled - entry.snd.value.scaled| ≤ most) := by
  unfold validateTrait
  cases candidate.lookup entry.fst with
  | none => exact (guard_throw _).iff Iff.rfl (by simp)
  | some after => exact (guard_refuseIf _ _).iff Iff.rfl (by simp)

theorem step_of_validatePersonaEvolution
    (h : validatePersonaEvolution current proposal = .ok ()) :
    Step current proposal.proposedGenome := by
  have hguard : Guard (validatePersonaEvolution current proposal) (fun _ => False)
      _ _ :=
    (guard_refuseIf _ _).andThen fun _ => (guard_refuseIf _ _).andThen fun _ =>
    (guard_refuseIf _ _).andThen fun _ => (guard_refuseIf _ _).andThen fun _ =>
    (guard_refuseIf _ _).andThen fun _ => (guard_refuseIf _ _).andThen fun _ =>
    (guard_refuseIf _ _).andThen fun _ =>
    (guard_forM fun _ _ => guard_validateTrait).andThen fun _ =>
    guard_refuseIf _ _
  rcases hguard.passes_iff.mp h with ⟨henabled, _, hconstitution, hmemory, hpolicy,
    hrelation, hnames, htraits, hstage⟩
  rw [not_or, not_not, not_not] at hrelation
  rw [not_or, not_lt, not_lt] at hstage
  refine ⟨Bool.eq_true_of_not_eq_false henabled, not_not.mp hconstitution,
    Bool.eq_true_of_not_eq_false hmemory, Bool.eq_true_of_not_eq_false hpolicy,
    hrelation.left, hrelation.right, not_not.mp hnames, ?_, hstage.left,
    hstage.right⟩
  intro name before after hbefore hafter
  rcases htraits (name, before) (Dict.lookup_eq_some.mp hbefore) with
    ⟨after', hafter', hdelta⟩
  rw [hafter] at hafter'
  cases hafter'
  exact hdelta

end Check

/-!
## Runs
-/

/-- After this many accepted proposals the genome is this one. -/
inductive Evolves (start : PersonaGenome) : Nat -> PersonaGenome -> Prop where
  | refl : Evolves start 0 start
  | step {n : Nat} {current : PersonaGenome}
      (proposal : PersonaEvolutionProposalEvent) : Evolves start n current ->
      validatePersonaEvolution current proposal = .ok () ->
      Evolves start (n + 1) proposal.proposedGenome

/-- How far a genome is from the one the run started with. -/
structure WithinBounds (start genome : PersonaGenome) (n : Nat) : Prop where
  constitution : genome.constitution = start.constitution
  memory : genome.memoryPolicy.equals start.memoryPolicy = true
  policy : genome.evolutionPolicy.equals start.evolutionPolicy = true
  narrative : genome.relationship.narrative = start.relationship.narrative
  safety : genome.relationship.safetyBoundaries =
    start.relationship.safetyBoundaries
  names : genome.character.traits.keys = start.character.traits.keys
  drift : forall name before after,
    start.character.traits.lookup name = some before ->
    genome.character.traits.lookup name = some after ->
    |after.value.scaled - before.value.scaled| ≤
      n * start.evolutionPolicy.maxDeltaPerCommit.scaled
  unit : forall name after, genome.character.traits.lookup name = some after ->
    0 ≤ after.value.scaled ∧ after.value.scaled ≤ doubleOne
  forward : start.relationship.stage.index ≤ genome.relationship.stage.index
  stages : genome.relationship.stage.index ≤ start.relationship.stage.index + n
  disabled : start.evolutionPolicy.enabled = false -> n = 0

section Runs

variable {start current next : PersonaGenome} {n : Nat}

theorem withinBounds_self (genome : PersonaGenome) :
    WithinBounds genome genome 0 where
  constitution := rfl
  memory := PersonaMemoryPolicy.equals_self genome.memoryPolicy
  policy := PersonaEvolutionPolicy.equals_iff.mpr ⟨rfl, rfl, rfl, rfl⟩
  narrative := rfl
  safety := rfl
  names := rfl
  drift name before after hbefore hafter := by
    rw [hbefore] at hafter
    cases hafter
    simp
  unit _ after _ := UnitFloat.scaled_bounds after.value
  forward := le_refl _
  stages := le_refl _
  disabled _ := rfl

theorem WithinBounds.step (h : WithinBounds start current n)
    (hstep : Step current next) : WithinBounds start next (n + 1) where
  constitution := hstep.constitution.trans h.constitution
  memory := PersonaMemoryPolicy.equals_trans hstep.memory h.memory
  policy := by
    have hcurrent := PersonaEvolutionPolicy.equals_iff.mp h.policy
    have hnext := PersonaEvolutionPolicy.equals_iff.mp hstep.policy
    exact PersonaEvolutionPolicy.equals_iff.mpr
      ⟨hnext.1.trans hcurrent.1, hnext.2.1.trans hcurrent.2.1,
        hnext.2.2.1.trans hcurrent.2.2.1, hnext.2.2.2.trans hcurrent.2.2.2⟩
  narrative := hstep.narrative.trans h.narrative
  safety := hstep.safety.trans h.safety
  names := hstep.names.trans h.names
  drift name before after hbefore hafter := by
    -- The trait is there in between as well, and the limit there is the limit
    -- the run started with.
    have hkey : name ∈ current.character.traits.keys := by
      rw [h.names]
      exact Dict.mem_keys.mpr ⟨before, hbefore⟩
    rcases Dict.mem_keys.mp hkey with ⟨between, hbetween⟩
    have hrun := h.drift name before between hbefore hbetween
    have hlast := hstep.drift name between after hbetween hafter
    have hlimit : current.evolutionPolicy.maxDeltaPerCommit.scaled =
        start.evolutionPolicy.maxDeltaPerCommit.scaled :=
      (PersonaEvolutionPolicy.equals_iff.mp h.policy).2.2.1
    rw [hlimit] at hlast
    calc |after.value.scaled - before.value.scaled|
        ≤ |after.value.scaled - between.value.scaled| +
            |between.value.scaled - before.value.scaled| := abs_sub_le _ _ _
      _ ≤ start.evolutionPolicy.maxDeltaPerCommit.scaled +
            n * start.evolutionPolicy.maxDeltaPerCommit.scaled :=
          add_le_add hlast hrun
      _ = ((n + 1 : Nat) : Int) *
            start.evolutionPolicy.maxDeltaPerCommit.scaled := by
          push_cast
          ring
  unit _ after _ := UnitFloat.scaled_bounds after.value
  forward := le_trans h.forward hstep.forward
  stages := by
    have hstage := hstep.oneStage
    have hrun := h.stages
    omega
  disabled hoff := by
    have henabled := (PersonaEvolutionPolicy.equals_iff.mp h.policy).1
    rw [hstep.enabled, hoff] at henabled
    cases henabled

theorem evolves_within_bounds (h : Evolves start n current) :
    WithinBounds start current n := by
  induction h with
  | refl => exact withinBounds_self start
  | step proposal _ hcheck ih =>
      exact ih.step (step_of_validatePersonaEvolution hcheck)

/-- One accepted step: more familiar, and a little more intimate. -/
def closer : PersonaEvolutionProposalEvent where
  baseGenomeId := str "pg_1"
  rationale := str "a month of daily talks"
  proposedGenome :=
    let base := template (str "Ada") (some (str "pg_1")) named_ada
    { base with
      character :=
        { base.character with
          traits := base.character.traits.insert (str "core.intimacy")
            (.ofValue (hundredths 38)) }
      relationship := { base.relationship with stage := .familiar } }
  evidenceRefs := [⟨str "memory", str "m-1", [], hundredths 50 half_inUnit⟩]
  lineage := rfl
  evidenced := List.cons_ne_nil _ _

theorem closer_within_bounds :
    WithinBounds (template (str "Ada") none (by decide))
      closer.proposedGenome 1 :=
  evolves_within_bounds (.step closer .refl (by decide +kernel))

end Runs

end Persona
end EidolonSdk
