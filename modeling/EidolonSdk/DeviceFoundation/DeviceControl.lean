import Mathlib.Data.Prod.Lex
import EidolonSdk.DeviceFoundation.Lifecycle
import EidolonSdk.Logic.Highest

/-!
# Configuration corrections

A configuration answer carries the reference the Authority holds.  Whether a
Body takes it is decided pair by pair; this module says where a sequence of
such decisions ends.
-/

namespace EidolonSdk
namespace DeviceFoundation

open Pydantic Logic

inductive DeviceRefCorrection where
  | none
  | adopt
  | refuse
  deriving DecidableEq

/-- The pair that orders references of one Claim. -/
def DeviceRef.order (ref : DeviceRef) : Int ×ₗ Int :=
  toLex (ref.claimGeneration.val, ref.trustEpoch.val)

/-- Who is asking, and which lineage of the Owner Domain answers. -/
def DeviceRef.identity (ref : DeviceRef) :
    DeviceInstanceId × OwnerDomainId × IntFrom 1 :=
  (ref.deviceInstanceId, ref.ownerDomainId, ref.ownerDomainGeneration)

def classifyAuthorityDeviceRef (held answered : DeviceRef) :
    DeviceRefCorrection :=
  if answered.deviceInstanceId ≠ held.deviceInstanceId ∨
      answered.ownerDomainId ≠ held.ownerDomainId ∨
      answered.ownerDomainGeneration ≠ held.ownerDomainGeneration then
    .refuse
  else if answered.order = held.order then
    .none
  else if answered.order > held.order then
    .adopt
  else
    .refuse

/-- The reference a Body holds after one answer. -/
def corrected (held answered : DeviceRef) : DeviceRef :=
  if classifyAuthorityDeviceRef held answered = .adopt then answered else held

/-- The reference a Body holds after a sequence of answers. -/
def correctedAll (held : DeviceRef) (answers : List DeviceRef) : DeviceRef :=
  answers.foldl corrected held

theorem same_identity_iff {held answered : DeviceRef} :
    answered.identity = held.identity <->
      ¬ (answered.deviceInstanceId ≠ held.deviceInstanceId ∨
        answered.ownerDomainId ≠ held.ownerDomainId ∨
        answered.ownerDomainGeneration ≠ held.ownerDomainGeneration) := by
  unfold DeviceRef.identity
  rw [Prod.mk.injEq, Prod.mk.injEq]
  simp only [not_or, not_not]

/-- Nothing is adopted across identities, and within one only what is newer. -/
theorem adopt_iff {held answered : DeviceRef} :
    classifyAuthorityDeviceRef held answered = .adopt <->
      answered.identity = held.identity ∧ held.order < answered.order := by
  unfold classifyAuthorityDeviceRef
  rw [same_identity_iff]
  split
  · rename_i hforeign
    simp [hforeign]
  · rename_i hsame
    split
    · rename_i horder
      simp [horder]
    · split
      · rename_i hnewer
        simp [hsame, hnewer]
      · rename_i holder
        simp [holder]

/-- Identity and order together are the whole reference. -/
theorem DeviceRef.eq_of_identity_order (a b : DeviceRef)
    (hidentity : a.identity = b.identity) (horder : a.order = b.order) :
    a = b := by
  unfold DeviceRef.identity at hidentity
  rw [Prod.mk.injEq, Prod.mk.injEq] at hidentity
  have hpair := congrArg ofLex horder
  unfold DeviceRef.order at hpair
  simp only [ofLex_toLex, Prod.mk.injEq] at hpair
  rcases hidentity with ⟨hdevice, howner, hgeneration⟩
  exact DeviceRef.ext hdevice howner hgeneration (Subtype.ext hpair.left)
    (Subtype.ext hpair.right)

theorem corrected_eq_keepHigher :
    corrected = keepHigher DeviceRef.identity DeviceRef.order := by
  funext held answered
  unfold corrected keepHigher
  simp only [adopt_iff]

theorem correctedAll_eq_highest (held : DeviceRef) (answers : List DeviceRef) :
    correctedAll held answers =
      highest DeviceRef.identity DeviceRef.order held answers := by
  unfold correctedAll highest
  rw [corrected_eq_keepHigher]

/-- The reference held in the end is the newest of its identity among all that
were held or answered, whatever the order of the answers. -/
theorem corrections_converge (held : DeviceRef) (answers : List DeviceRef) :
    correctedAll held answers ∈
        contenders DeviceRef.identity held answers ∧
      (forall ref, ref ∈ contenders DeviceRef.identity held answers ->
        ref.order ≤ (correctedAll held answers).order) ∧
      (forall ref, ref ∈ contenders DeviceRef.identity held answers ->
        (forall other, other ∈ contenders DeviceRef.identity held answers ->
          other.order ≤ ref.order) ->
        ref = correctedAll held answers) ∧
      (forall answers', (forall ref, ref ∈ answers <-> ref ∈ answers') ->
        correctedAll held answers' = correctedAll held answers) ∧
      (forall pre suf, answers = pre ++ suf ->
        (correctedAll held pre).order ≤ (correctedAll held answers).order ∧
          (correctedAll held pre).identity = held.identity) := by
  refine ⟨?_, ?_, ?_, ?_, ?_⟩
  · rw [correctedAll_eq_highest]
    exact highest_mem held answers
  · intro ref hmem
    rw [correctedAll_eq_highest]
    exact contender_le_highest hmem
  · intro ref hmem hmax
    rw [correctedAll_eq_highest]
    exact eq_highest DeviceRef.eq_of_identity_order hmem hmax
  · intro answers' h
    rw [correctedAll_eq_highest, correctedAll_eq_highest]
    exact (highest_eq_of_mem_iff DeviceRef.eq_of_identity_order h).symm
  · intro pre suf hanswers
    constructor
    · have hsplit : correctedAll held answers =
          correctedAll (correctedAll held pre) suf := by
        rw [hanswers]
        exact List.foldl_append
      rw [hsplit, correctedAll_eq_highest _ suf]
      exact rank_le_highest _ suf
    · rw [correctedAll_eq_highest]
      exact highest_class held pre

end DeviceFoundation
end EidolonSdk
