import EidolonSdk.DeviceFoundation.Actors
import EidolonSdk.Pydantic.Wire

/-!
# References on the wire

The wire forms of the identifiers, references and actors that the Admission and
Body messages are built from.
-/

namespace EidolonSdk
namespace DeviceFoundation

open Python Pydantic

def nominal (namespaceWord : String) : Wire (NominalId namespaceWord) where
  dump id := .str id.val
  validate := validNominal namespaceWord
  validate_dump := validNominal_val

def DeviceRef.wire : Wire DeviceRef where
  dump := dump
  validate := validate
  validate_dump := validate_dump

def ControllerActorRef.wire : Wire ControllerActorRef where
  dump := dump
  validate := validate
  validate_dump := validate_dump

structure ManifestRef where
  manifestId : ConStr identifierRule
  revision : IntFrom 1
  digest : ConStr digestRule
  deriving DecidableEq

namespace ManifestRef

def dump (ref : ManifestRef) : Json :=
  .object
    [(str "manifest_id", (Wire.text identifierRule).dump ref.manifestId),
      (str "revision", (Wire.integer 1).dump ref.revision),
      (str "digest", (Wire.text digestRule).dump ref.digest)]

def fieldNames : List String :=
  ["manifest_id", "revision", "digest"]

def validate : Validator ManifestRef :=
  validModel fun members =>
    ((required members "manifest_id" (Wire.text identifierRule).validate).both
      ((required members "revision" (Wire.integer 1).validate).both
        ((required members "digest" (Wire.text digestRule).validate).both
          (onlyMembers members fieldNames)))).map
      fun (manifestId, revision, digest, _) => ⟨manifestId, revision, digest⟩

theorem validate_dump (ref : ManifestRef) : validate ref.dump = .ok ref := by
  simp [validate, validModel, dump, required, Wire.validate_dump, onlyMembers,
    fieldNames, Validated.both_ok, Except.map]

def wire : Wire ManifestRef where
  dump := dump
  validate := validate
  validate_dump := validate_dump

end ManifestRef

end DeviceFoundation
end EidolonSdk
