import EidolonSdk.DeviceFoundation.Lifecycle
import Mathlib.Data.List.Nodup

/-!
# Actors

Who acts, and with which scopes.  The scopes of an actor pass through a
validator of the repository's own before any type is checked, so what it does
with values of other types decides how a wrong actor is refused.
-/

namespace EidolonSdk
namespace DeviceFoundation

open Python Pydantic

/-!
## Granted scopes
-/

def GrantsScopes (scopes : List PyStr) : Prop :=
  scopes ≠ [] ∧ scopes.Nodup ∧ forall scope, scope ∈ scopes -> strip scope ≠ []

instance (scopes : List PyStr) : Decidable (GrantsScopes scopes) :=
  inferInstanceAs (Decidable (_ ∧ _))

abbrev GrantedScopes := { scopes : List PyStr // GrantsScopes scopes }

/-- `any(not item.strip() for item in items)`: only a string can be stripped. -/
def anyBlank : List Json -> Except PyException Bool
  | [] => .ok false
  | .str s :: rest => if (strip s).isEmpty then .ok true else anyBlank rest
  | _ :: _ => .error .attributeError

/-- `len(items) == len(set(items))`, where a set takes hashable values only. -/
def allDistinct (items : List Json) : Except PyException Bool :=
  if items.all fun item => item.hashKey.isSome then
    .ok (decide (items.map Json.hashKey).Nodup)
  else
    .error .typeError

/-- `ActorRef._unique_scopes`, which runs before the items are checked to be
strings. -/
def uniqueScopes : Json -> Validated (List Json)
  | .array items =>
      match allDistinct items with
      | .error e => .error (.raised e)
      | .ok false => .error .invalid
      | .ok true =>
          match anyBlank items with
          | .error e => .error (.raised e)
          | .ok true => .error .invalid
          | .ok false => .ok items
  | _ => .error .invalid

/-- `tuple[str, ...]` in strict mode. -/
def stringItems : List Json -> Option (List PyStr)
  | [] => some []
  | .str s :: rest => (stringItems rest).map (s :: ·)
  | _ :: _ => none

/-- `granted_scopes`; by the time of the last check the scopes are known to be
distinct and not blank. -/
def validScopes (value : Json) : Validated GrantedScopes :=
  match uniqueScopes value with
  | .error fault => .error fault
  | .ok items =>
      match stringItems items with
      | some scopes =>
          if h : GrantsScopes scopes then .ok ⟨scopes, h⟩ else .error .invalid
      | none => .error .invalid

def dumpScopes (scopes : List PyStr) : Json :=
  .array (scopes.map .str)

theorem anyBlank_strings {scopes : List PyStr}
    (h : forall scope, scope ∈ scopes -> strip scope ≠ []) :
    anyBlank (scopes.map .str) = .ok false := by
  induction scopes with
  | nil => rfl
  | cons scope rest ih =>
      have hscope : strip scope ≠ [] := h scope List.mem_cons_self
      have hrest := ih fun s hs => h s (List.mem_cons_of_mem _ hs)
      simp [anyBlank, hscope, hrest]

theorem allDistinct_strings {scopes : List PyStr} (h : scopes.Nodup) :
    allDistinct (scopes.map .str) = .ok true := by
  have hkeys : (scopes.map (Json.hashKey ∘ Json.str)).Nodup := by
    apply List.Nodup.map_on _ h
    intro s _ t _ hst
    simpa using hst
  have hhashable : ((scopes.map Json.str).all fun item =>
      item.hashKey.isSome) = true := by
    simp
  simp [allDistinct, hhashable, hkeys]

theorem stringItems_strings (scopes : List PyStr) :
    stringItems (scopes.map .str) = some scopes := by
  induction scopes with
  | nil => rfl
  | cons scope rest ih => simp [stringItems, ih]

theorem validScopes_dump (scopes : GrantedScopes) :
    validScopes (dumpScopes scopes.val) = .ok scopes := by
  rcases scopes.property with ⟨_, hdistinct, hblank⟩
  simp [validScopes, uniqueScopes, dumpScopes, allDistinct_strings hdistinct,
    anyBlank_strings hblank, stringItems_strings, scopes.property]

/-!
## What escapes from the scopes
-/

/-- A value that is not a string comes before any blank string. -/
def StripFails : List Json -> Prop
  | [] => False
  | .str s :: rest => strip s ≠ [] ∧ StripFails rest
  | _ :: _ => True

theorem anyBlank_eq_error {items : List Json} {e : PyException} :
    anyBlank items = .error e <-> StripFails items ∧ e = .attributeError := by
  induction items with
  | nil => simp [anyBlank, StripFails]
  | cons item rest ih =>
      cases item with
      | str s =>
          by_cases hs : strip s = []
          · simp [anyBlank, StripFails, hs]
          · simp [anyBlank, StripFails, hs, ih]
      | null => simp [anyBlank, StripFails, eq_comm]
      | bool b => simp [anyBlank, StripFails, eq_comm]
      | int n => simp [anyBlank, StripFails, eq_comm]
      | float x => simp [anyBlank, StripFails, eq_comm]
      | array items => simp [anyBlank, StripFails, eq_comm]
      | object members => simp [anyBlank, StripFails, eq_comm]

/-- The scopes that are refused with the `AttributeError` of `strip`: hashable,
pairwise distinct, and not all strings. -/
def ScopesEscape (value : Json) : Prop :=
  exists items, value = .array items ∧
    (forall item, item ∈ items -> item.hashKey.isSome = true) ∧
    (items.map Json.hashKey).Nodup ∧ StripFails items

theorem validScopes_raised {value : Json} {e : PyException} :
    validScopes value = .error (.raised e) <->
      uniqueScopes value = .error (.raised e) := by
  unfold validScopes
  split
  · rename_i fault h
    rw [h]
    simp
  · rename_i items h
    rw [h]
    split
    · split
      · simp
      · simp
    · simp

theorem allDistinct_ok {items : List Json} :
    allDistinct items = .ok true <->
      (forall item, item ∈ items -> item.hashKey.isSome = true) ∧
        (items.map Json.hashKey).Nodup := by
  unfold allDistinct
  split
  · rename_i h
    simp only [Except.ok.injEq, decide_eq_true_eq]
    exact ⟨fun hnodup => ⟨List.all_eq_true.mp h, hnodup⟩, fun h => h.right⟩
  · rename_i h
    constructor
    · intro h'
      cases h'
    · intro h'
      exact absurd (List.all_eq_true.mpr h'.left) h

theorem allDistinct_error {items : List Json} {e : PyException}
    (h : allDistinct items = .error e) : e = .typeError := by
  unfold allDistinct at h
  split at h
  · cases h
  · exact (Except.error.inj h).symm

theorem uniqueScopes_escape {value : Json} (h : ScopesEscape value) :
    uniqueScopes value = .error (.raised .attributeError) := by
  rcases h with ⟨items, rfl, hhash, hnodup, hstrip⟩
  have hdistinct := allDistinct_ok.mpr ⟨hhash, hnodup⟩
  have hblank := anyBlank_eq_error.mpr ⟨hstrip, rfl⟩
  simp only [uniqueScopes, hdistinct, hblank]

theorem uniqueScopes_raised {value : Json} {e : PyException}
    (h : uniqueScopes value = .error (.raised e)) :
    e = .typeError ∨ (e = .attributeError ∧ ScopesEscape value) := by
  unfold uniqueScopes at h
  split at h
  · rename_i items
    split at h
    · rename_i e' herror
      rw [allDistinct_error herror] at h
      cases h
      exact Or.inl rfl
    · cases h
    · rename_i hdistinct
      rcases allDistinct_ok.mp hdistinct with ⟨hhash, hnodup⟩
      split at h
      · rename_i e' herror
        rcases anyBlank_eq_error.mp herror with ⟨hstrip, rfl⟩
        cases h
        exact Or.inr ⟨rfl, items, rfl, hhash, hnodup, hstrip⟩
      · cases h
      · cases h
  · cases h

/-!
## Controllers
-/

inductive AuthenticationStrength where
  | software
  | hardwareBacked
  | physicalPresence
  deriving DecidableEq

def AuthenticationStrength.word : AuthenticationStrength -> String
  | .software => "software"
  | .hardwareBacked => "hardware-backed"
  | .physicalPresence => "physical-presence"

def AuthenticationStrength.words : List (String × AuthenticationStrength) :=
  [.software, .hardwareBacked, .physicalPresence].map fun strength =>
    (strength.word, strength)

theorem AuthenticationStrength.validWord_word
    (strength : AuthenticationStrength) :
    validWord words (.str (str strength.word)) = .ok strength := by
  cases strength with
  | software => simp [validWord, words, word]
  | hardwareBacked => simp [validWord, words, word]
  | physicalPresence => simp [validWord, words, word]

/-- An actor whose type is always `controller`. -/
structure ControllerActorRef where
  principalId : ConStr identifierRule
  ownerDomainId : OwnerDomainId
  grantedScopes : GrantedScopes
  authenticationStrength : AuthenticationStrength
  deriving DecidableEq

namespace ControllerActorRef

/-- `model_dump(mode="json")`. -/
def dump (actor : ControllerActorRef) : Json :=
  .object
    [(str "principal_id", .str actor.principalId.val),
      (str "principal_type", .str (str "controller")),
      (str "owner_domain_id", .str actor.ownerDomainId.val),
      (str "granted_scopes", dumpScopes actor.grantedScopes.val),
      (str "authentication_strength",
        .str (str actor.authenticationStrength.word))]

def fieldNames : List String :=
  ["principal_id", "principal_type", "owner_domain_id", "granted_scopes",
    "authentication_strength"]

/-- `ControllerActorRef.model_validate`. -/
def validate : Validator ControllerActorRef :=
  validModel fun members =>
    ((required members "principal_id" (validStr identifierRule)).both
      ((withDefault members "principal_type" ()
          (validWord [("controller", ())])).both
        ((required members "owner_domain_id" (validNominal "owner-")).both
          ((required members "granted_scopes" validScopes).both
            ((required members "authentication_strength"
                (validWord AuthenticationStrength.words)).both
              (onlyMembers members fieldNames)))))).map
      fun (principal, _, owner, scopes, strength, _) =>
        ⟨principal, owner, scopes, strength⟩

theorem validate_dump (actor : ControllerActorRef) :
    validate actor.dump = .ok actor := by
  have hword : validWord [("controller", ())] (.str (str "controller")) =
      .ok () := by
    simp [validWord]
  simp [validate, validModel, dump, required, withDefault, validStr_val,
    validNominal_val, validScopes_dump, hword,
    AuthenticationStrength.validWord_word, onlyMembers, fieldNames,
    Validated.both_ok, Except.map]

/-- What escapes from an actor escapes from its scopes. -/
theorem validate_raised {value : Json} {e : PyException} :
    validate value = .error (.raised e) <->
      exists (members : Members) (scopes : Json), value = .object members ∧
        members.get "granted_scopes" = some scopes ∧
        validScopes scopes = .error (.raised e) := by
  unfold validate validModel
  split
  · rename_i members
    rw [Validated.map_raised,
      (quiet_required (quiet_validStr _)).both_raised,
      (quiet_withDefault (quiet_validWord _)).both_raised,
      (quiet_required (quiet_validNominal _)).both_raised,
      ((quiet_required (quiet_validWord _)).both
        (quiet_onlyMembers _ _)).raised_both]
    unfold required
    cases hscopes : Members.get members "granted_scopes" with
    | none =>
        constructor
        · intro h
          cases h
        · intro hparts
          rcases hparts with ⟨members', scopes, hobject, hget, _⟩
          cases hobject
          rw [hscopes] at hget
          cases hget
    | some scopes =>
        constructor
        · intro h
          exact ⟨members, scopes, rfl, hscopes, h⟩
        · intro hparts
          rcases hparts with ⟨members', scopes', hobject, hget, h⟩
          cases hobject
          rw [hscopes] at hget
          cases hget
          exact h
  · rename_i hobject
    constructor
    · intro h
      cases h
    · intro hparts
      rcases hparts with ⟨members, _, heq, _⟩
      exact absurd heq (hobject members)

end ControllerActorRef

end DeviceFoundation
end EidolonSdk
