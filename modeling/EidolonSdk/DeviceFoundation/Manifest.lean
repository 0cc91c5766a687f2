import EidolonSdk.DeviceFoundation.Lifecycle

/-!
# Capability manifests

A manifest is kept as the object a device sent; its shape is checked, and its
digest is taken over its canonical form.
-/

namespace EidolonSdk
namespace DeviceFoundation

open Python Pydantic Support

/-!
## The canonical shape
-/

/-- A member of an exact object: the names it goes by, whether it has to be
there, and what its value has to satisfy. -/
structure Member where
  names : List String
  required : Bool := true
  check : Json -> Bool

/-- The name under which a member is found; the first one that is present. -/
def Member.found (member : Member) (members : Members) : Option String :=
  member.names.find? fun name => (members.get name).isSome

def Member.holds (member : Member) (members : Members) : Bool :=
  match (member.found members).bind members.get with
  | some value => member.check value
  | none => !member.required

/-- A strict model that forbids extra members. -/
def acceptsObject (fields : List Member) : Json -> Bool
  | .object members =>
      fields.all (fun field => field.holds members) &&
        members.all fun member =>
          fields.any fun field =>
            (field.found members).any fun name => str name == member.fst
  | _ => false

def acceptsStr (rule : StrRule) : Json -> Bool
  | .str s => decide (rule.Accepts s)
  | _ => false

def acceptsBool : Json -> Bool
  | .bool _ => true
  | _ => false

def acceptsIntBetween (least most : Int) : Json -> Bool
  | .int n => decide (least ≤ n ∧ n ≤ most)
  | _ => false

def acceptsDict : Json -> Bool
  | .object _ => true
  | _ => false

def acceptsWord (words : List String) : Json -> Bool
  | .str s => words.any fun word => str word == s
  | _ => false

/-- A literal is compared with `==`, so that `True` is one. -/
def acceptsLiteralInt (n : Int) (value : Json) : Bool :=
  value.equalsInt n

def acceptsArray (most : Nat) (check : Json -> Bool) : Json -> Bool
  | .array items => decide (items.length ≤ most) && items.all check
  | _ => false

/-- `min_length=1, max_length=128`. -/
def labelRule : StrRule :=
  { minLength := 1, maxLength := some 128 }

def manifestProperty : Json -> Bool :=
  acceptsObject
    [{ names := ["name"], check := acceptsStr labelRule },
      { names := ["schema", "schema_"], check := acceptsDict },
      { names := ["observable"], check := acceptsBool },
      { names := ["writable"], check := acceptsBool }]

def manifestAction : Json -> Bool :=
  acceptsObject
    [{ names := ["name"], check := acceptsStr labelRule },
      { names := ["version"], check := acceptsIntBetween 1 65535 },
      { names := ["input_schema"], check := acceptsDict },
      { names := ["output_schema"], check := acceptsDict },
      { names := ["idempotent"], check := acceptsBool }]

def manifestEvent : Json -> Bool :=
  acceptsObject
    [{ names := ["name"], check := acceptsStr labelRule },
      { names := ["data_schema"], check := acceptsDict }]

/-- A codec is any string. -/
def acceptsText : Json -> Bool
  | .str _ => true
  | _ => false

def manifestMedia : Json -> Bool :=
  acceptsObject
    [{ names := ["kind"], check := acceptsWord ["audio", "video"] },
      { names := ["direction"]
        check := acceptsWord ["publish", "subscribe", "bidirectional"] },
      { names := ["codecs"], required := false
        check := acceptsArray 32 acceptsText }]

/-- The title says something. -/
def manifestTitle : Json -> Bool
  | .str s => decide (labelRule.Accepts s) && !(strip s).isEmpty
  | _ => false

/-- `DeviceCapabilityManifest.model_validate` accepts the document. -/
def deviceCapabilityManifest (document : Members) : Bool :=
  acceptsObject
    [{ names := ["schema_version"], check := acceptsLiteralInt 1 },
      { names := ["title"], check := manifestTitle },
      { names := ["properties"], check := acceptsArray 64 manifestProperty },
      { names := ["actions"], check := acceptsArray 64 manifestAction },
      { names := ["events"], check := acceptsArray 64 manifestEvent },
      { names := ["media"], check := acceptsArray 16 manifestMedia }]
    (.object document)

/-!
## Documents with their digest
-/

section Digest

variable (hash : Sha256) (canonical : Rfc8785)

def manifestDigest (document : Members) : Except PyException PyStr := do
  let bytes ← canonical.dumps (.object document)
  pure (str "sha256:" ++ hash.hexdigest bytes)

structure ManifestDocument where
  manifestId : ConStr nameRule
  revision : IntFrom 1
  digest : ConStr digestRule
  document : Members
  declares : deviceCapabilityManifest document = true
  describes : manifestDigest hash canonical document = .ok digest.val

variable {hash canonical}

theorem ManifestDocument.canonical_form
    (manifest : ManifestDocument hash canonical) :
    exists bytes, canonical.dumps (.object manifest.document) = .ok bytes ∧
      manifest.digest.val = str "sha256:" ++ hash.hexdigest bytes := by
  rcases Logic.bind_eq_ok.mp manifest.describes with ⟨bytes, hbytes, hdigest⟩
  exact ⟨bytes, hbytes, (Except.ok.inj hdigest).symm⟩

/-- The canonical forms of the two documents are no collision of the hash. -/
def ManifestDocument.NoCollision (a b : ManifestDocument hash canonical) :
    Prop :=
  forall x y, canonical.dumps (.object a.document) = .ok x ->
    canonical.dumps (.object b.document) = .ok y ->
    hash.digest x = hash.digest y -> x = y

/-- Unless two documents collide, equal digests are digests of one JSON
value. -/
theorem ManifestDocument.same_of_digest_eq (hcanonical : canonical.Injective)
    {a b : ManifestDocument hash canonical} (hcollision : a.NoCollision b)
    (h : a.digest = b.digest) :
    Json.Same (.object a.document) (.object b.document) := by
  rcases a.canonical_form with ⟨x, hx, hdigest⟩
  rcases b.canonical_form with ⟨y, hy, hdigest'⟩
  have htext : str "sha256:" ++ hash.hexdigest x =
      str "sha256:" ++ hash.hexdigest y := by
    rw [← hdigest, ← hdigest', h]
  have hbytes : x = y :=
    hcollision x y hx hy (hex_inj (List.append_cancel_left htext))
  subst hbytes
  exact hcanonical _ _ x hx hy

end Digest

end DeviceFoundation
end EidolonSdk
