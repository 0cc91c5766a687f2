import EidolonSdk.Logic.Outcome
import EidolonSdk.Pydantic.Validation
import EidolonSdk.Support.Primitives

/-!
# Wire identifiers, references and actors

The models every Admission and Device Control message is built from.  A value
of these types satisfies the constraints of its fields; {lit}`dump` is its JSON
form and {lit}`validate` reads that form back.
-/

namespace EidolonSdk
namespace DeviceFoundation

open Python Pydantic Support

/-!
## Patterns
-/

def isAlphanumeric (c : CodePoint) : Bool :=
  (0x30 ≤ c.val && c.val ≤ 0x39) || (0x41 ≤ c.val && c.val ≤ 0x5A) ||
    (0x61 ≤ c.val && c.val ≤ 0x7A)

def isLowerHex (c : CodePoint) : Bool :=
  (0x30 ≤ c.val && c.val ≤ 0x39) || (0x61 ≤ c.val && c.val ≤ 0x66)

/-- `^[A-Za-z0-9][A-Za-z0-9._:-]*$`. -/
def matchesIdentifier : PyStr -> Bool
  | [] => false
  | c :: rest =>
      isAlphanumeric c &&
        rest.all fun d => isAlphanumeric d || (str "._:-").contains d

/-- `^[A-Za-z0-9_-]+$`. -/
def matchesBase64Url (s : PyStr) : Bool :=
  !s.isEmpty && s.all fun c => isAlphanumeric c || (str "_-").contains c

/-- A fixed word followed by 64 lower-case hexadecimal digits. -/
def matchesDigest (word : String) (s : PyStr) : Bool :=
  startsWith s (str word) && (s.drop word.length).length == 64 &&
    (s.drop word.length).all isLowerHex

def identifierRule : StrRule :=
  { minLength := 3, maxLength := some 128, pattern := matchesIdentifier }

/-- `min_length=3, max_length=128` without a pattern. -/
def nameRule : StrRule :=
  { minLength := 3, maxLength := some 128 }

def digestRule : StrRule :=
  { pattern := matchesDigest "sha256:" }

def deviceInstanceIdRule : StrRule :=
  { minLength := 80, maxLength := some 80
    pattern := matchesDigest "device-instance-" }

theorem accepts_zeroDeviceInstance : deviceInstanceIdRule.Accepts
    (str "device-instance-" ++ List.replicate 64 (codePoint '0')) := by
  decide

def nonceRule : StrRule :=
  { minLength := 16, maxLength := some 128, pattern := matchesBase64Url }

def publicKeySpkiRule : StrRule :=
  { minLength := 120, maxLength := some 256, pattern := matchesBase64Url }

def deviceSignatureRule : StrRule :=
  { minLength := 86, maxLength := some 86, pattern := matchesBase64Url }

abbrev DeviceInstanceId := ConStr deviceInstanceIdRule

/-!
## Nominal identifiers

A root model leaves its string as it is; only the length and the namespace are
checked.
-/

def InNamespace (namespaceWord : String) (s : PyStr) : Prop :=
  3 ≤ s.length ∧ s.length ≤ 128 ∧ startsWith s (str namespaceWord) = true

instance (namespaceWord : String) (s : PyStr) :
    Decidable (InNamespace namespaceWord s) :=
  inferInstanceAs (Decidable (_ ∧ _))

abbrev NominalId (namespaceWord : String) :=
  { s : PyStr // InNamespace namespaceWord s }

abbrev OwnerDomainId := NominalId "owner-"

theorem inNamespace_ownerA : InNamespace "owner-" (str "owner-a") := by decide

abbrev BusinessOwnerId := NominalId "owner_"

def validNominal (namespaceWord : String) : Validator (NominalId namespaceWord)
  | .str s =>
      if h : InNamespace namespaceWord s then .ok ⟨s, h⟩ else .error .invalid
  | _ => .error .invalid

theorem validNominal_val {namespaceWord : String}
    (id : NominalId namespaceWord) :
    validNominal namespaceWord (.str id.val) = .ok id := by
  unfold validNominal
  exact dif_pos id.property

theorem quiet_validNominal (namespaceWord : String) (value : Json) :
    Quiet (validNominal namespaceWord value) := by
  unfold validNominal
  split
  · split
    · exact quiet_ok _
    · exact quiet_invalid
  · exact quiet_invalid

/-!
## Device references
-/

@[ext] structure DeviceRef where
  deviceInstanceId : DeviceInstanceId
  ownerDomainId : OwnerDomainId
  ownerDomainGeneration : IntFrom 1
  claimGeneration : IntFrom 1
  trustEpoch : IntFrom 1
  deriving DecidableEq

namespace DeviceRef

/-- `model_dump(mode="json")`. -/
def dump (ref : DeviceRef) : Json :=
  .object
    [(str "device_instance_id", .str ref.deviceInstanceId.val),
      (str "owner_domain_id", .str ref.ownerDomainId.val),
      (str "owner_domain_generation", .int ref.ownerDomainGeneration.val),
      (str "claim_generation", .int ref.claimGeneration.val),
      (str "trust_epoch", .int ref.trustEpoch.val)]

def fieldNames : List String :=
  ["device_instance_id", "owner_domain_id", "owner_domain_generation",
    "claim_generation", "trust_epoch"]

/-- `DeviceRef.model_validate`. -/
def validate : Validator DeviceRef :=
  validModel fun members =>
    ((required members "device_instance_id" (validStr deviceInstanceIdRule)).both
      ((required members "owner_domain_id" (validNominal "owner-")).both
        ((required members "owner_domain_generation" (validInt 1)).both
          ((required members "claim_generation" (validInt 1)).both
            ((required members "trust_epoch" (validInt 1)).both
              (onlyMembers members fieldNames)))))).map
      fun (device, owner, generation, claim, epoch, _) =>
        ⟨device, owner, generation, claim, epoch⟩

theorem dump_self (ref : DeviceRef) : Json.Same ref.dump ref.dump := by
  apply Json.Same.object_self
  intro m hm
  simp only [List.mem_cons, List.not_mem_nil, or_false] at hm
  rcases hm with rfl | rfl | rfl | rfl | rfl
  · exact Json.Same.str _
  · exact Json.Same.str _
  all_goals exact Json.Same.int_iff.mpr rfl

/-- The JSON form determines the reference. -/
theorem eq_of_same_dump {a b : DeviceRef} (h : Json.Same a.dump b.dump) :
    a = b := by
  have hdevice := h.get_rel "device_instance_id"
  have howner := h.get_rel "owner_domain_id"
  have hgeneration := h.get_rel "owner_domain_generation"
  have hclaim := h.get_rel "claim_generation"
  have hepoch := h.get_rel "trust_epoch"
  simp [Json.Same.str_iff, Json.Same.int_iff] at hdevice howner hgeneration
  simp [Json.Same.int_iff] at hclaim hepoch
  exact DeviceRef.ext (Subtype.ext hdevice) (Subtype.ext howner)
    (Subtype.ext hgeneration) (Subtype.ext hclaim) (Subtype.ext hepoch)

theorem validate_dump (ref : DeviceRef) : validate ref.dump = .ok ref := by
  simp [validate, validModel, dump, required, validStr_val, validNominal_val,
    validInt_val, onlyMembers, fieldNames, Validated.both_ok, Except.map]

theorem quiet_validate (value : Json) : Quiet (validate value) := by
  unfold validate validModel
  split
  · exact Quiet.map
      ((quiet_required (quiet_validStr _)).both
        ((quiet_required (quiet_validNominal _)).both
          ((quiet_required (quiet_validInt _)).both
            ((quiet_required (quiet_validInt _)).both
              ((quiet_required (quiet_validInt _)).both
                (quiet_onlyMembers _ _))))))
  · exact quiet_invalid

end DeviceRef

end DeviceFoundation
end EidolonSdk
