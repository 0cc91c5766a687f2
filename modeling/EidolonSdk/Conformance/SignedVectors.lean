import EidolonSdk.Conformance.FieldInventory
import EidolonSdk.DeviceFoundation.CommissioningVoucher
import EidolonSdk.DeviceFoundation.EraseAcks
import EidolonSdk.Python.JsonPlaces

/-!
# The negative matrix of a signed document

A golden vector of a signed document lists the leaves of the document, and the
check changes one leaf after the other: no changed document may verify.  The
leaves are texts, and a change looks its leaf up by splitting the text again.
-/

namespace EidolonSdk
namespace Conformance

open Python DeviceFoundation Support

/-!
## Leaves
-/

/-- {lit}`_leaf_paths`. -/
def leafPaths : Json -> PyStr -> List PyStr
  | .object members, path =>
      (memberPaths members path).insertionSort fun s t => s ≤ t
  | _, path => [path]
where
  memberPaths : Members -> PyStr -> List PyStr
    | [], _ => []
    | (k, item) :: rest, path =>
        leafPaths item (extend path (.key k)) ++ memberPaths rest path

/-- How a check ends that does not count: {lit}`ConformanceError` with its text,
the one of {lit}`canonical_bytes`, or an exception from elsewhere. -/
inductive VectorFailure where
  | conformanceError (text : PyStr)
  | notIJson
  | foreign (e : PyException)
  deriving DecidableEq

/-- The change of one value. -/
def mutateValue (path : PyStr) : Json -> Except VectorFailure Json
  | .int n => .ok (.int (n + 1))
  | .str s => .ok (.str (s ++ str "-mutated"))
  | _ => .error (.conformanceError
      (path ++ str ": nothing sensible to mutate at a non-scalar leaf"))

def mutateAt (path : PyStr) : List PyStr -> Json -> Except VectorFailure Json
  | [], value => mutateValue path value
  | step :: rest, .object members =>
      match members.lookup step with
      | some target => (mutateAt path rest target).map fun changed =>
          .object (Members.assign step changed members)
      | none => .error (.foreign .keyError)
  | _ :: _, _ => .error (.foreign .typeError)

/-- {lit}`_mutate_leaf`. -/
def mutateLeaf (document : Json) (path : PyStr) : Except VectorFailure Json :=
  mutateAt path (path.splitOn (codePoint '.')) document

/-!
## The text of a place
-/

/-- The path of a place. -/
def placeText (path : PyStr) (place : Json.Place) : PyStr :=
  render path (place.map .key)

/-- A key that a path gives back. -/
def PlainKey (k : PyStr) : Prop :=
  k ≠ [] ∧ codePoint '.' ∉ k

instance (k : PyStr) : Decidable (PlainKey k) :=
  inferInstanceAs (Decidable (_ ∧ _))

/-- Every key on the way to a leaf is plain. -/
def PlainKeys (document : Json) : Prop :=
  forall place, place ∈ document.leaves -> forall k, k ∈ place -> PlainKey k

instance (document : Json) : Decidable (PlainKeys document) :=
  inferInstanceAs (Decidable (forall place, place ∈ _ -> forall k, k ∈ place -> _))

theorem placeText_cons (path : PyStr) (k : PyStr) (rest : Json.Place) :
    placeText path (k :: rest) = placeText (extend path (.key k)) rest := rfl

theorem placeText_of_ne_nil {path : PyStr} (h : path ≠ []) (place : Json.Place) :
    placeText path place = path ++ place.flatMap fun k => str "." ++ k := by
  induction place generalizing path with
  | nil => exact (List.append_nil path).symm
  | cons k rest ih =>
      have hextend : extend path (.key k) = path ++ (str "." ++ k) := by
        show (if path = [] then k else path ++ str "." ++ k) = _
        rw [if_neg h, List.append_assoc]
      have hne : extend path (.key k) ≠ [] := by
        rw [hextend]
        exact fun hnil => h (List.append_eq_nil_iff.mp hnil).left
      rw [placeText_cons, ih hne, hextend, List.flatMap_cons, List.append_assoc]

theorem intercalate_cons (k : PyStr) (rest : Json.Place) :
    [codePoint '.'].intercalate (k :: rest) =
      k ++ rest.flatMap fun l => str "." ++ l := by
  induction rest generalizing k with
  | nil => simp
  | cons l rest ih =>
      have hstep : [codePoint '.'].intercalate (k :: l :: rest) =
          k ++ ([codePoint '.'] ++ [codePoint '.'].intercalate (l :: rest)) := by
        simp [List.intercalate]
      rw [hstep, ih l, List.flatMap_cons]
      simp only [List.append_assoc]
      rfl

theorem placeText_nil_eq {place : Json.Place} (h : forall k, k ∈ place -> PlainKey k) :
    placeText [] place = [codePoint '.'].intercalate place := by
  cases place with
  | nil => rfl
  | cons k rest =>
      have hk := (h k List.mem_cons_self).left
      show placeText k rest = _
      rw [placeText_of_ne_nil hk, intercalate_cons]

/-- Splitting the path of a place gives the place back. -/
theorem splitOn_placeText {place : Json.Place} (hne : place ≠ [])
    (h : forall k, k ∈ place -> PlainKey k) :
    (placeText [] place).splitOn (codePoint '.') = place := by
  rw [placeText_nil_eq h]
  exact List.splitOn_intercalate (codePoint '.') (fun k hk => (h k hk).right) hne

/-- The paths are the texts of the leaves. -/
theorem leafPaths_perm (v : Json) (path : PyStr) :
    (leafPaths v path).Perm (v.leaves.map (placeText path)) := by
  induction v using Json.parts_induction generalizing path with
  | object members ih =>
      have hall : forall front : Members, (forall m, m ∈ front -> m ∈ members) ->
          (leafPaths.memberPaths front path).Perm
            ((Json.leaves.memberLeaves front).map (placeText path)) := by
        intro front
        induction front with
        | nil => exact fun _ => List.Perm.nil
        | cons m rest ihrest =>
            rcases m with ⟨k, u⟩
            intro hmem
            have hfirst := ih k u (hmem (k, u) List.mem_cons_self)
              (extend path (.key k))
            have hrest := ihrest fun m' hm' => hmem m' (List.mem_cons_of_mem _ hm')
            rw [leafPaths.memberPaths, Json.leaves.memberLeaves, List.map_append,
              List.map_map]
            exact hfirst.append hrest
      rw [leafPaths, Json.leaves]
      exact (List.perm_insertionSort _ _).trans (hall members fun _ hm => hm)
  | null => exact List.Perm.refl _
  | bool b => exact List.Perm.refl _
  | int n => exact List.Perm.refl _
  | float x => exact List.Perm.refl _
  | str s => exact List.Perm.refl _
  | array items ih => exact List.Perm.refl _

/-!
## Changing a leaf
-/

/-- What the keys of a path lead to. -/
def standsAt (document : Json) (path : PyStr) : Option Json :=
  document.at? (path.splitOn (codePoint '.'))

/-- A value that can be changed. -/
def isText : Json -> Bool
  | .int _ => true
  | .str _ => true
  | _ => false

/-- A document with another value at one leaf. -/
structure Changes (document : Json) (path : PyStr) (changed : Json) : Prop where
  paths : leafPaths changed [] = leafPaths document []
  here : standsAt changed path ≠ standsAt document path
  elsewhere : forall other, other ∈ leafPaths document [] -> other ≠ path ->
    standsAt changed other = standsAt document other

theorem mutateValue_eq_ok {path : PyStr} {value changed : Json}
    (h : mutateValue path value = .ok changed) :
    isText value = true ∧ changed.isObject = false ∧ changed ≠ value := by
  cases value with
  | int n =>
      cases h
      refine ⟨rfl, rfl, fun heq => ?_⟩
      have hsucc := Json.int.inj heq
      omega
  | str s =>
      cases h
      refine ⟨rfl, rfl, fun heq => ?_⟩
      have hlength := congrArg List.length (Json.str.inj heq)
      rw [List.length_append] at hlength
      have hlong : 0 < (str "-mutated").length := by decide
      omega
  | null => cases h
  | bool b => cases h
  | float x => cases h
  | array items => cases h
  | object members => cases h

theorem mutateValue_isText (path : PyStr) {value : Json} (h : isText value = true) :
    exists changed, mutateValue path value = .ok changed := by
  cases value with
  | int n => exact ⟨_, rfl⟩
  | str s => exact ⟨_, rfl⟩
  | null => cases h
  | bool b => cases h
  | float x => cases h
  | array items => cases h
  | object members => cases h

/-- Where there is a value, it is changed in its place. -/
theorem mutateAt_eq {path : PyStr} {place : Json.Place} {v value : Json}
    (h : v.at? place = some value) :
    mutateAt path place v =
      (mutateValue path value).map fun changed => Json.put changed place v := by
  induction place generalizing v with
  | nil =>
      cases h
      rw [mutateAt]
      cases mutateValue path value with
      | ok changed => rfl
      | error e => rfl
  | cons k rest ih =>
      rcases Json.at?_cons_eq_some.mp h with ⟨members, inner, rfl, hlookup, hrest⟩
      rw [mutateAt, hlookup]
      dsimp only
      rw [ih hrest]
      cases mutateValue path value with
      | ok changed => exact congrArg Except.ok (Json.put_cons hlookup).symm
      | error e => rfl

section Leaves

variable {document : Json}

theorem leaf_ne_nil (hobject : document.isObject = true) {place : Json.Place}
    (h : place ∈ document.leaves) : place ≠ [] := by
  cases document with
  | object members =>
      rcases Json.mem_memberLeaves.mp h with ⟨k, _, rest, _, _, rfl⟩
      exact List.cons_ne_nil k rest
  | null => cases hobject
  | bool b => cases hobject
  | int n => cases hobject
  | float x => cases hobject
  | str s => cases hobject
  | array items => cases hobject

/-- The places and the paths name the leaves equally well. -/
theorem mem_leafPaths (hobject : document.isObject = true)
    (hplain : PlainKeys document) {path : PyStr} :
    path ∈ leafPaths document [] <->
      path.splitOn (codePoint '.') ∈ document.leaves := by
  rw [(leafPaths_perm document []).mem_iff, List.mem_map]
  constructor
  · intro hparts
    rcases hparts with ⟨place, hplace, rfl⟩
    rw [splitOn_placeText (leaf_ne_nil hobject hplace) (hplain place hplace)]
    exact hplace
  · intro h
    refine ⟨_, h, ?_⟩
    rw [placeText_nil_eq (hplain _ h)]
    exact List.intercalate_splitOn (codePoint '.')

theorem leafPaths_nodup (hdocument : document.IsJson)
    (hobject : document.isObject = true) (hplain : PlainKeys document) :
    (leafPaths document []).Nodup := by
  rw [(leafPaths_perm document []).nodup_iff]
  refine List.Nodup.map_on ?_ (Json.leaves_nodup hdocument)
  intro place hplace place' hplace' heq
  rw [← splitOn_placeText (leaf_ne_nil hobject hplace) (hplain place hplace), heq,
    splitOn_placeText (leaf_ne_nil hobject hplace') (hplain place' hplace')]

theorem leafPaths_sorted (v : Json) (path : PyStr) :
    (leafPaths v path).Pairwise fun s t => s ≤ t := by
  cases v with
  | object members =>
      rw [leafPaths]
      exact List.pairwise_insertionSort _ _
  | null => exact List.pairwise_singleton _ _
  | bool b => exact List.pairwise_singleton _ _
  | int n => exact List.pairwise_singleton _ _
  | float x => exact List.pairwise_singleton _ _
  | str s => exact List.pairwise_singleton _ _
  | array items => exact List.pairwise_singleton _ _

/-- The paths depend on the leaves only. -/
theorem leafPaths_congr {v w : Json} (h : v.leaves = w.leaves) (path : PyStr) :
    leafPaths v path = leafPaths w path := by
  have hperm := (leafPaths_perm v path).trans
    (h ▸ (leafPaths_perm w path).symm)
  exact hperm.eq_of_pairwise' (leafPaths_sorted v path) (leafPaths_sorted w path)

theorem changes_put (hdocument : document.IsJson)
    (hobject : document.isObject = true) (hplain : PlainKeys document)
    {path : PyStr} {value w : Json} (hvalue : standsAt document path = some value)
    (hleaf : value.isObject = false) (hw : w.isObject = false) (hne : w ≠ value) :
    Changes document path (Json.put w (path.splitOn (codePoint '.')) document) where
  paths := leafPaths_congr (Json.leaves_put hvalue hleaf hw) []
  here := by
    unfold standsAt at hvalue ⊢
    rw [Json.at?_put hvalue, hvalue]
    exact fun heq => hne (Option.some.inj heq)
  elsewhere other hother hdiffers := by
    rcases (Json.mem_leaves hdocument).mp ((mem_leafPaths hobject hplain).mp hother)
      with ⟨value', hvalue', hleaf'⟩
    unfold standsAt at hvalue ⊢
    rw [hvalue']
    refine Json.at?_put_other hvalue hleaf hvalue' (fun heq => ?_) hleaf'
    have hjoined := congrArg [codePoint '.'].intercalate heq
    rw [List.intercalate_splitOn, List.intercalate_splitOn] at hjoined
    exact hdiffers hjoined

/-- The matrix has every leaf once; each of its paths leads to its own leaf, and a
change there reaches no other. -/
theorem matrix_covers (hdocument : document.IsJson)
    (hobject : document.isObject = true) (hplain : PlainKeys document) :
    (leafPaths document []).Nodup ∧
      (forall path, path ∈ leafPaths document [] <->
        exists value, standsAt document path = some value ∧
          value.isObject = false) ∧
      forall path value, standsAt document path = some value ->
        value.isObject = false ->
        if isText value = true then
          exists changed, mutateLeaf document path = .ok changed ∧
            Changes document path changed
        else mutateLeaf document path = .error (.conformanceError
          (path ++ str ": nothing sensible to mutate at a non-scalar leaf")) := by
  refine ⟨leafPaths_nodup hdocument hobject hplain, fun path => ?_, ?_⟩
  · rw [mem_leafPaths hobject hplain]
    exact Json.mem_leaves hdocument
  · intro path value hvalue hleaf
    have hmutate : mutateLeaf document path = _ := mutateAt_eq hvalue
    rw [hmutate]
    split
    · rename_i htext
      rcases mutateValue_isText path htext with ⟨w, hw⟩
      rcases mutateValue_eq_ok hw with ⟨_, hplainLeaf, hne⟩
      rw [hw]
      exact ⟨_, rfl, changes_put hdocument hobject hplain hvalue hleaf hplainLeaf hne⟩
    · rename_i htext
      cases value with
      | int n => exact absurd rfl htext
      | str s => exact absurd rfl htext
      | object members => cases hleaf
      | null => rfl
      | bool b => rfl
      | float x => rfl
      | array items => rfl

end Leaves

/-- One leaf two levels down, one at the top. -/
def sampleVectorDocument : Json :=
  .object [(str "ref", .object [(str "n", .int 1)]), (str "id", .str (str "a"))]

theorem matrix_covers_nested :
    exists changed, mutateLeaf sampleVectorDocument (str "ref.n") = .ok changed ∧
      Changes sampleVectorDocument (str "ref.n") changed := by
  have hcovers := matrix_covers (show sampleVectorDocument.IsJson by decide) rfl
    (by decide)
  have hleaf := hcovers.right.right (str "ref.n") (.int 1) rfl rfl
  rw [if_pos (show isText (.int 1) = true from rfl)] at hleaf
  exact hleaf

/-!
## The check of a vector
-/

/-- What the check reads of a golden vector. -/
structure SignedVector where
  document : Json
  canonicalUtf8 : PyStr
  canonicalSha256 : PyStr
  signatureAlgorithm : PyStr
  signatureEncoding : PyStr
  publicKeySpki : PyStr
  keyId : PyStr
  signature : PyStr
  mutateEachFieldMustFail : List PyStr

/-- {lit}`_b64url_decode`. -/
def vectorBytes (value : PyStr) : Except VectorFailure Bytes :=
  match urlsafeB64Decode (filled value) with
  | some raw => .ok raw
  | none => .error (.foreign .valueError)

/-- {lit}`canonical_bytes`. -/
def vectorCanonical (canonical : Rfc8785) (value : Json) :
    Except VectorFailure Bytes :=
  match canonical.dumps value with
  | .ok form => .ok form
  | .error e =>
      if e.isValueError = true ∨ e = .typeError then .error .notIJson
      else .error (.foreign e)

/-- An exception from elsewhere. -/
def foreign {α : Type} : Except PyException α -> Except VectorFailure α
  | .ok a => .ok a
  | .error e => .error (.foreign e)

def ensure (p : Prop) [Decidable p] (message : PyStr) : Except VectorFailure Unit :=
  if p then .ok () else .error (.conformanceError message)

section Check

variable {P : LocatorPrimitives} (D : DeviceKeys P)

/-- {lit}`_verify_raw_p256`. -/
def verifyRawP256 (publicKeySpki : PyStr) (document : Json) (signature : PyStr) :
    Except VectorFailure Bool := do
  let raw ← vectorBytes signature
  ensure (raw.length = 64) (str "proof signature is not 64-byte R||S")
  let octets ← vectorBytes publicKeySpki
  let key ← foreign (D.loadDerPublicKey octets)
  let der := P.encodeDssSignature (fromBytesBig (raw.take 32))
    (fromBytesBig (raw.drop 32))
  let signed ← vectorCanonical P.canonical document
  match P.verify key der signed with
  | .valid => .ok true
  | .invalidSignature => .ok false
  | .failure e => .error (.foreign e)

/-- One row of the matrix. -/
def checkMutation (name : PyStr) (vector : SignedVector) (member : PyStr) :
    Except VectorFailure Unit := do
  let changed ← mutateLeaf vector.document member
  let verified ← verifyRawP256 D vector.publicKeySpki changed vector.signature
  ensure (verified = false)
    (name ++ str ": mutating " ++ member ++ str " did not invalidate the proof")

/-- {lit}`_check_signed_document_vector`. -/
def checkSignedDocumentVector (name : PyStr) (vector : SignedVector)
    (rebuilt : Json) : Except VectorFailure Nat := do
  let canonical ← vectorCanonical P.canonical vector.document
  let text ← foreign (decodeText canonical)
  ensure (text = vector.canonicalUtf8)
    (name ++ str ": canonical_utf8 is not RFC 8785 of its own document")
  ensure (str "sha256:" ++ P.hash.hexdigest canonical = vector.canonicalSha256)
    (name ++ str ": canonical digest does not describe the document")
  let emitted ← vectorCanonical P.canonical rebuilt
  ensure (emitted = canonical)
    (name ++ str ": the canonical builder no longer emits these bytes")
  ensure (vector.signatureAlgorithm = str "ES256")
    (name ++ str ": names a signature algorithm this check does not use")
  ensure (vector.signatureEncoding = str "64-byte-r-concat-s-base64url-no-padding")
    (name ++ str ": names a signature encoding this check does not use")
  let octets ← vectorBytes vector.publicKeySpki
  ensure (str "sha256:" ++ P.hash.hexdigest octets = vector.keyId)
    (name ++ str ": key_id does not describe the published key")
  let verified ← verifyRawP256 D vector.publicKeySpki vector.document vector.signature
  ensure (verified = true) (name ++ str ": the published signature does not verify")
  ensure (vector.mutateEachFieldMustFail.insertionSort (fun s t => s ≤ t) =
      leafPaths vector.document [])
    (name ++ str ": the negative matrix is not the document's own members")
  vector.mutateEachFieldMustFail.forM (checkMutation D name vector)
  .ok (1 + vector.mutateEachFieldMustFail.length)

end Check

/-!
## What passes
-/

theorem ensure_eq_ok {p : Prop} [Decidable p] {message : PyStr} {u : Unit} :
    ensure p message = .ok u <-> p := by
  unfold ensure
  split
  · rename_i h
    exact iff_of_true rfl h
  · rename_i h
    exact iff_of_false nofun h

theorem foreign_eq_ok {α : Type} {x : Except PyException α} {a : α} :
    foreign x = .ok a <-> x = .ok a := by
  cases x with
  | ok b => exact ⟨fun h => congrArg _ (Except.ok.inj h),
      fun h => congrArg _ (Except.ok.inj h)⟩
  | error e => exact iff_of_false nofun nofun

theorem vectorBytes_eq_ok {value : PyStr} {raw : Bytes} :
    vectorBytes value = .ok raw <-> urlsafeB64Decode (filled value) = some raw := by
  unfold vectorBytes
  cases urlsafeB64Decode (filled value) with
  | some octets => exact ⟨fun h => congrArg _ (Except.ok.inj h),
      fun h => congrArg _ (Option.some.inj h)⟩
  | none => exact iff_of_false nofun nofun

theorem vectorCanonical_eq_ok {canonical : Rfc8785} {value : Json} {form : Bytes} :
    vectorCanonical canonical value = .ok form <-> canonical.dumps value = .ok form := by
  unfold vectorCanonical
  cases canonical.dumps value with
  | ok form' => exact ⟨fun h => congrArg _ (Except.ok.inj h),
      fun h => congrArg _ (Except.ok.inj h)⟩
  | error e =>
      dsimp only
      split
      · exact iff_of_false nofun nofun
      · exact iff_of_false nofun nofun

section Passes

variable {P : LocatorPrimitives} {D : DeviceKeys P}
variable {vector : SignedVector} {rebuilt : Json}

/-- What a vector that passes says about its document. -/
structure Certified (D : DeviceKeys P) (vector : SignedVector) (rebuilt : Json) :
    Prop where
  /-- The bytes, their digest, the builder and the key's name belong together. -/
  described : exists canonical octets,
    P.canonical.dumps vector.document = .ok canonical ∧
      P.canonical.dumps rebuilt = .ok canonical ∧
      decodeText canonical = .ok vector.canonicalUtf8 ∧
      str "sha256:" ++ P.hash.hexdigest canonical = vector.canonicalSha256 ∧
      urlsafeB64Decode (filled vector.publicKeySpki) = some octets ∧
      str "sha256:" ++ P.hash.hexdigest octets = vector.keyId
  algorithm : vector.signatureAlgorithm = str "ES256"
  encoding : vector.signatureEncoding = str "64-byte-r-concat-s-base64url-no-padding"
  verifies : verifyRawP256 D vector.publicKeySpki vector.document vector.signature =
    .ok true
  matrix : vector.mutateEachFieldMustFail.Perm (leafPaths vector.document [])
  /-- Every leaf can be changed, and no change verifies. -/
  refuses : forall place value, vector.document.at? place = some value ->
    value.isObject = false ->
      exists changed, mutateValue (placeText [] place) value = .ok changed ∧
        verifyRawP256 D vector.publicKeySpki
          (Json.put changed place vector.document) vector.signature = .ok false

theorem checkMutation_eq_ok {name member : PyStr} {value : Json}
    (hvalue : standsAt vector.document member = some value) :
    checkMutation D name vector member = .ok () <->
      exists changed, mutateValue member value = .ok changed ∧
        verifyRawP256 D vector.publicKeySpki
          (Json.put changed (member.splitOn (codePoint '.')) vector.document)
          vector.signature = .ok false := by
  have hmutate : mutateLeaf vector.document member = _ := mutateAt_eq hvalue
  unfold checkMutation
  simp only [Logic.bind_eq_ok, hmutate, Logic.map_eq_ok, ensure_eq_ok]
  constructor
  · intro h
    rcases h with ⟨_, ⟨changed, hchanged, rfl⟩, verified, hverified, rfl⟩
    exact ⟨changed, hchanged, hverified⟩
  · intro h
    rcases h with ⟨changed, hchanged, hverified⟩
    exact ⟨_, ⟨changed, hchanged, rfl⟩, false, hverified, rfl⟩

/-- A list that sorts to the paths is a rearrangement of them. -/
theorem sorted_eq_leafPaths {paths : List PyStr} {v : Json} :
    paths.insertionSort (fun s t => s ≤ t) = leafPaths v [] <->
      paths.Perm (leafPaths v []) := by
  have hperm := List.perm_insertionSort (fun s t => s ≤ t) paths
  constructor
  · intro h
    rw [← h]
    exact hperm.symm
  · intro h
    exact (hperm.trans h).eq_of_pairwise' (List.pairwise_insertionSort _ _)
      (leafPaths_sorted v [])

/-- The rows of the matrix, one for each leaf. -/
theorem mutations_eq_ok {name : PyStr} (hdocument : vector.document.IsJson)
    (hobject : vector.document.isObject = true) (hplain : PlainKeys vector.document)
    (hmatrix : vector.mutateEachFieldMustFail.Perm (leafPaths vector.document [])) :
    vector.mutateEachFieldMustFail.forM (checkMutation D name vector) = .ok () <->
      forall place value, vector.document.at? place = some value ->
        value.isObject = false ->
          exists changed, mutateValue (placeText [] place) value = .ok changed ∧
            verifyRawP256 D vector.publicKeySpki
              (Json.put changed place vector.document) vector.signature =
                .ok false := by
  rw [Logic.forM_eq_ok]
  constructor
  · intro h place value hvalue hleaf
    have hplace := (Json.mem_leaves hdocument).mpr ⟨value, hvalue, hleaf⟩
    have hsplit := splitOn_placeText (leaf_ne_nil hobject hplace)
      (hplain place hplace)
    have hmember : placeText [] place ∈ vector.mutateEachFieldMustFail := by
      rw [hmatrix.mem_iff, mem_leafPaths hobject hplain, hsplit]
      exact hplace
    have hstands : standsAt vector.document (placeText [] place) = some value := by
      unfold standsAt
      rw [hsplit]
      exact hvalue
    rcases (checkMutation_eq_ok hstands).mp (h _ hmember)
      with ⟨changed, hchanged, hverified⟩
    rw [hsplit] at hverified
    exact ⟨changed, hchanged, hverified⟩
  · intro h member hmember
    have hleaf := (mem_leafPaths hobject hplain).mp (hmatrix.mem_iff.mp hmember)
    rcases (Json.mem_leaves hdocument).mp hleaf with ⟨value, hvalue, hvalueLeaf⟩
    have htext : placeText [] (member.splitOn (codePoint '.')) = member := by
      rw [placeText_nil_eq (hplain _ hleaf)]
      exact List.intercalate_splitOn (codePoint '.')
    rcases h _ value hvalue hvalueLeaf with ⟨changed, hchanged, hverified⟩
    rw [htext] at hchanged
    exact (checkMutation_eq_ok hvalue).mpr ⟨changed, hchanged, hverified⟩

/-- A vector passes exactly when it describes its document and no document with
one leaf changed verifies. -/
theorem vector_passes_iff {name : PyStr} (hdocument : vector.document.IsJson)
    (hobject : vector.document.isObject = true) (hplain : PlainKeys vector.document)
    {count : Nat} :
    checkSignedDocumentVector D name vector rebuilt = .ok count <->
      count = 1 + vector.document.leaves.length ∧ Certified D vector rebuilt := by
  have hcount : forall h : vector.mutateEachFieldMustFail.Perm
      (leafPaths vector.document []), vector.mutateEachFieldMustFail.length =
        vector.document.leaves.length := by
    intro h
    rw [h.length_eq, (leafPaths_perm vector.document []).length_eq, List.length_map]
  unfold checkSignedDocumentVector
  simp only [Logic.bind_eq_ok, vectorCanonical_eq_ok, foreign_eq_ok, ensure_eq_ok,
    vectorBytes_eq_ok, sorted_eq_leafPaths, exists_const]
  constructor
  · intro hparts
    rcases hparts with ⟨canonical, hcanonical, text, htext, rfl, hdigest, emitted,
      hemitted, rfl, halgorithm, hencoding, octets, hoctets, hkey, verified,
      hverified, rfl, hmatrix, _, hrows, hdone⟩
    refine ⟨?_, ⟨emitted, octets, hcanonical, hemitted, htext, hdigest, hoctets, hkey⟩,
      halgorithm, hencoding, hverified, hmatrix,
      (mutations_eq_ok hdocument hobject hplain hmatrix).mp hrows⟩
    rw [← Except.ok.inj hdone, hcount hmatrix]
  · intro hparts
    rcases hparts with ⟨rfl, h⟩
    rcases h.described with ⟨canonical, octets, hcanonical, hrebuilt, htext, hdigest,
      hoctets, hkey⟩
    refine ⟨canonical, hcanonical, vector.canonicalUtf8, htext, rfl, hdigest, canonical,
      hrebuilt, rfl, h.algorithm, h.encoding, octets, hoctets, hkey, true, h.verifies,
      rfl, h.matrix, (), (mutations_eq_ok hdocument hobject hplain h.matrix).mpr h.refuses,
      ?_⟩
    rw [hcount h.matrix]

end Passes

/-!
### The recorded request for a configuration

It is made by the device that erased its data above.
-/

def configurationDocument : Json :=
  .object (deviceControlConfigurationProofDocument deviceAck.deviceRef
    (str "Y29uZmlndXJhdGlvbi1ub25jZQ"))

@[irreducible]
def configurationForm : Bytes :=
  Rfc8785.plainForm configurationDocument

def configurationSigned : OneSignature where
  signed := configurationForm
  numbers := (
    0xbe748062a10b0069c3cf3336899bc2bb9a9f273f4fae150788f98ee66cbab47b,
    0x408275d0767cc31028161c934955d923245246cc70c1c3cac7bcc221f19e7a2b)
  first_lt := by decide
  second_lt := by decide
  ne_least := by decide

/-- The key of the device, which signed the request. -/
def configurationPrimitives : LocatorPrimitives :=
  { devicePrimitives with
    verify := fun _ signature message =>
      checkSignature configurationSigned signature message }

def configurationReader : DeviceKeys configurationPrimitives where
  loadDerPublicKey octets :=
    if octets = spkiDer devicePoint then .ok () else .error .valueError

def configurationVector : SignedVector where
  document := configurationDocument
  canonicalUtf8 := (decodeUtf8 configurationForm).getD []
  canonicalSha256 := str "sha256:" ++ sha256.hexdigest configurationForm
  signatureAlgorithm := str "ES256"
  signatureEncoding := str "64-byte-r-concat-s-base64url-no-padding"
  publicKeySpki := urlsafeB64Unpadded (spkiDer devicePoint)
  keyId := str "sha256:" ++ sha256.hexdigest (spkiDer devicePoint)
  signature := urlsafeB64Unpadded
    (bigEndian 32 configurationSigned.numbers.fst ++
      bigEndian 32 configurationSigned.numbers.snd)
  mutateEachFieldMustFail := ["device_ref.claim_generation",
    "device_ref.device_instance_id", "device_ref.owner_domain_generation",
    "device_ref.owner_domain_id", "device_ref.trust_epoch", "nonce",
    "operation_type"].map str

theorem vector_passes_sample :
    checkSignedDocumentVector configurationReader (str "sample.json")
        configurationVector configurationDocument = .ok 8 ∧
      Certified configurationReader configurationVector configurationDocument := by
  have hpasses : checkSignedDocumentVector configurationReader (str "sample.json")
      configurationVector configurationDocument = .ok 8 := by decide +kernel
  have hcertified := (vector_passes_iff (show configurationVector.document.IsJson by
    decide +kernel) rfl (by decide +kernel)).mp hpasses
  exact ⟨hpasses, hcertified.right⟩

end Conformance
end EidolonSdk
