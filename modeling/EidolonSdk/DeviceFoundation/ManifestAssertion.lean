import EidolonSdk.DeviceFoundation.SignedDocuments

/-!
# What a manifest assertion authenticates

A device signs the digest of its manifest, not the manifest.  The digest stands
for the document; the manifest's identifier and its revision are outside of it
and outside of the signed document.
-/

namespace EidolonSdk
namespace DeviceFoundation

open Python Pydantic Support

section Authentication

variable {hash : Sha256} {canonical : Rfc8785}

/-- Two manifests say the same in every field. -/
structure ManifestDocument.Agrees (a b : ManifestDocument hash canonical) :
    Prop where
  manifestId : a.manifestId = b.manifestId
  revision : a.revision = b.revision
  digest : a.digest = b.digest
  document : Json.Same (.object a.document) (.object b.document)

/-- Two assertions say the same; they may come with different keys and
signatures. -/
structure AssertDeviceManifest.Agrees
    (a b : AssertDeviceManifest hash canonical) : Prop where
  deviceRef : a.deviceRef = b.deviceRef
  nonce : a.nonce = b.nonce
  manifest : a.manifest.Agrees b.manifest

/-- One signed document is shared by all assertions that differ in the
manifest's identifier or revision only. -/
theorem AssertDeviceManifest.agrees_iff (hcanonical : canonical.Injective)
    (a b : AssertDeviceManifest hash canonical)
    (hcollision : a.manifest.NoCollision b.manifest)
    (h : Json.Same (.object a.signingDocument) (.object b.signingDocument)) :
    a.Agrees b <->
      a.manifest.manifestId = b.manifest.manifestId ∧
        a.manifest.revision = b.manifest.revision := by
  rcases AssertDeviceManifest.signingDocument_inj h with
    ⟨href, hnonce, hdigest⟩
  constructor
  · intro hagrees
    exact ⟨hagrees.manifest.manifestId, hagrees.manifest.revision⟩
  · intro hunsigned
    have hdocument :=
      ManifestDocument.same_of_digest_eq hcanonical hcollision hdigest
    exact ⟨href, hnonce, hunsigned.left, hunsigned.right, hdigest, hdocument⟩

end Authentication

/-!
One lamp asserts one document as its first and as its second revision.
-/

def lampDocument : Members :=
  [(str "schema_version", .int 1), (str "title", .str (str "Lamp")),
    (str "properties", .array []), (str "actions", .array []),
    (str "events", .array []), (str "media", .array [])]

def lampForm : Bytes :=
  (str "\x7b\"actions\":[],\"events\":[],\"media\":[],\"properties\":[],").flatMap
      utf8Char ++
    (str "\"schema_version\":1,\"title\":\"Lamp\"\x7d").flatMap utf8Char

def lampDigest : Bytes :=
  [5, 195, 66, 144, 54, 86, 127, 231, 252, 196, 202, 220, 117, 171, 147, 41,
    210, 139, 42, 186, 211, 177, 60, 175, 107, 228, 146, 14, 215, 46, 49, 165]

def lampHash : Sha256 where
  digest _ := lampDigest
  digest_length _ := rfl

noncomputable def lampCanonical : Rfc8785 :=
  Rfc8785.oneDocument (.object lampDocument) lampForm

noncomputable def lampManifest (revision : IntFrom 1) :
    ManifestDocument lampHash lampCanonical where
  manifestId := ⟨str "lamp", by decide⟩
  revision := revision
  digest := ⟨str "sha256:" ++ hex lampDigest, by decide⟩
  document := lampDocument
  declares := by decide +kernel
  describes := by
    unfold manifestDigest
    rw [lampCanonical, Rfc8785.oneDocument_dumps]
    rfl

noncomputable def lampAssertion (revision : IntFrom 1)
    (signature : ConStr deviceSignatureRule) :
    AssertDeviceManifest lampHash lampCanonical where
  deviceRef :=
    { deviceInstanceId := sampleDeviceInstanceId
      ownerDomainId := ⟨str "owner-lamp", by decide⟩
      ownerDomainGeneration := IntFrom.lowest 1
      claimGeneration := IntFrom.lowest 1
      trustEpoch := IntFrom.lowest 1 }
  manifest := lampManifest revision
  nonce := ⟨str "nonce-0000000000", by decide⟩
  publicKeySpki := samplePublicKeySpki
  deviceSignature := signature

theorem lampDocument_self :
    Json.Same (.object lampDocument) (.object lampDocument) := by
  apply Json.Same.object_self
  intro m hm
  simp only [lampDocument, List.mem_cons, List.not_mem_nil, or_false] at hm
  rcases hm with rfl | rfl | rfl | rfl | rfl | rfl
  · exact Json.Same.int_iff.mpr rfl
  · exact Json.Same.str _
  all_goals exact Json.Same.array List.Forall₂.nil

theorem lampCanonical_injective : lampCanonical.Injective :=
  Rfc8785.oneDocument_injective lampForm lampDocument_self

theorem lampManifest_noCollision (revision revision' : IntFrom 1) :
    (lampManifest revision).NoCollision (lampManifest revision') := by
  intro x y hx hy _
  exact Except.ok.inj (hx.symm.trans hy)

/-- The signed document of both revisions is one and the same. -/
theorem revision_outside_signature :
    ¬ (lampCanonical.Injective ->
      (lampManifest ⟨1, by decide⟩).NoCollision
        (lampManifest ⟨2, by decide⟩) ->
      (lampAssertion ⟨1, by decide⟩ sampleDeviceSignature).signingDocument =
        (lampAssertion ⟨2, by decide⟩ sampleDeviceSignature).signingDocument ->
      (lampAssertion ⟨1, by decide⟩ sampleDeviceSignature).Agrees
        (lampAssertion ⟨2, by decide⟩ sampleDeviceSignature)) := by
  intro h
  have hagrees := h lampCanonical_injective (lampManifest_noCollision _ _) rfl
  have hrevision : (1 : Int) = 2 :=
    congrArg Subtype.val hagrees.manifest.revision
  exact absurd hrevision (by decide)

theorem agrees_iff_other_signature :
    (lampAssertion ⟨1, by decide⟩ sampleDeviceSignature).Agrees
      (lampAssertion ⟨1, by decide⟩ otherDeviceSignature) := by
  have hdump := DeviceRef.dump_self
    (lampAssertion ⟨1, by decide⟩ sampleDeviceSignature).deviceRef
  have hself : Json.Same
      (.object (lampAssertion ⟨1, by decide⟩ sampleDeviceSignature).signingDocument)
      (.object (lampAssertion ⟨1, by decide⟩ otherDeviceSignature).signingDocument) := by
    apply Json.Same.object_self
    intro m hm
    simp only [AssertDeviceManifest.signingDocument, List.mem_cons,
      List.not_mem_nil, or_false] at hm
    rcases hm with rfl | rfl | rfl | rfl
    · exact hdump
    all_goals exact Json.Same.str _
  exact (AssertDeviceManifest.agrees_iff lampCanonical_injective _ _
    (lampManifest_noCollision _ _) hself).mpr ⟨rfl, rfl⟩

end DeviceFoundation
end EidolonSdk
