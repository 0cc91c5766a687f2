import EidolonSdk.Dart.DateTime
import EidolonSdk.Dart.Uri
import EidolonSdk.DeviceFoundation.DartBinding
import EidolonSdk.Support.Primitives

/-!
# Directories in the Dart binding

The generated reader of a directory and what it writes again.  Everything is kept
as it was read, but the URI of an endpoint: that one is parsed and printed, and
comes out as it went in only where it was in normal form.
-/

namespace EidolonSdk
namespace DeviceFoundation

open Python Logic Dart

/-!
## Values
-/

/-- `_digest`. -/
def digestText (value : Json) : Reading PyStr :=
  patternText value 71 (matchesDigest "sha256:") "Invalid SHA-256 digest"

/-- `_signature`. -/
def signatureText (value : Json) : Reading PyStr :=
  patternText value 86 (fun s => s.length == 86 && matchesBase64Url s)
    "Invalid P-256 signature"

/-- `Uri.tryParse`, where the scheme is `https` and there is a host. -/
def httpsUri? (scan : Scanner) (s : PyStr) : Option Uri :=
  (Uri.tryParse scan s).filter fun u => u.scheme == str "https" && !u.host.isEmpty

/-- `value as String? ?? ''`. -/
def castString : Json -> Reading PyStr
  | .str s => pure s
  | .null => pure []
  | _ => throw .typeError

/-- A list that has items, and not too many of them. -/
def boundedList? (value : Json) (maximum : Nat) : Option (List Json) :=
  match value with
  | .array items =>
      if items ≠ [] ∧ items.length ≤ maximum then some items else none
  | _ => none

/-!
## Endpoints
-/

structure AuthorityEndpointV1 where
  authority : PyStr
  logicalAudience : PyStr
  uri : Uri
  transportProfile : PyStr
  priority : Int
  deriving DecidableEq

namespace AuthorityEndpointV1

def keys : List String :=
  ["authority", "logical_audience", "uri", "transport_profile", "priority"]

def authorities : List PyStr :=
  ["admission", "device-control", "body-mesh", "companion"].map str

def profiles : List PyStr :=
  ["https-json", "mqtt-tls", "nats-tls"].map str

def fromMap (scan : Scanner) (value : Members) : Reading AuthorityEndpointV1 := do
  exactKeys value keys "Invalid Authority endpoint fields"
  let authority ← boundedText (value.getOrNone "authority") 32
  let audience ← boundedText (value.getOrNone "logical_audience") 128
  let text ← boundedText (value.getOrNone "uri") 2048
  let profile ← boundedText (value.getOrNone "transport_profile") 32
  let message := "Invalid Authority endpoint"
  let uri ← orThrow (httpsUri? scan text) message
  let priority ← orThrow (int? (value.getOrNone "priority")) message
  throwIf (authority ∉ authorities ∨ profile ∉ profiles ∨ priority < 0 ∨
    65535 < priority) message
  pure
    { authority
      logicalAudience := audience
      uri
      transportProfile := profile
      priority }

/-- An item of the list of endpoints. -/
def fromItem (scan : Scanner) : Json -> Reading AuthorityEndpointV1
  | .object value => fromMap scan value
  | _ => throw (.formatException "Invalid Authority endpoint")

def toJson (endpoint : AuthorityEndpointV1) : Members :=
  [(str "authority", .str endpoint.authority),
    (str "logical_audience", .str endpoint.logicalAudience),
    (str "uri", .str endpoint.uri.toString),
    (str "transport_profile", .str endpoint.transportProfile),
    (str "priority", .int endpoint.priority)]

end AuthorityEndpointV1

/-!
## Directories
-/

structure OwnerDomainDescriptorV1 where
  ownerDomainId : PyStr
  ownerDomainGeneration : Int
  directoryRevision : Int
  descriptorUri : PyStr
  endpoints : List AuthorityEndpointV1
  trustRootRefs : List PyStr
  issuedAt : PyStr
  expiresAt : PyStr
  signingKeyId : PyStr
  signature : PyStr
  deriving DecidableEq

namespace OwnerDomainDescriptorV1

def keys : List String :=
  ["owner_domain_id", "owner_domain_generation", "directory_revision",
    "descriptor_uri", "trust_root_refs", "endpoints", "issued_at", "expires_at",
    "signing_key_id", "signature"]

/-- `OwnerDomainDescriptorV1.fromJson`. -/
def fromMap (scan : Scanner) (zone : LocalZone) (value : Members) :
    Reading OwnerDomainDescriptorV1 := do
  exactKeys value keys "Invalid Owner Domain descriptor fields"
  let ownerDomainId ← boundedText (value.getOrNone "owner_domain_id") 128
  let descriptorUri ← boundedText (value.getOrNone "descriptor_uri") 2048
  let issuedText ← castString (value.getOrNone "issued_at")
  let expiresText ← castString (value.getOrNone "expires_at")
  let message := "Invalid Owner Domain descriptor"
  let generation ←
    orThrow (positive? (value.getOrNone "owner_domain_generation")) message
  let revision ←
    orThrow (positive? (value.getOrNone "directory_revision")) message
  let _ ← orThrow (httpsUri? scan descriptorUri) message
  let roots ←
    orThrow (boundedList? (value.getOrNone "trust_root_refs") 16) message
  let rawEndpoints ←
    orThrow (boundedList? (value.getOrNone "endpoints") 32) message
  let issuedAt ← orThrow (dateTimeTryParse zone issuedText) message
  let expiresAt ← orThrow (dateTimeTryParse zone expiresText) message
  throwIf (¬ issuedAt < expiresAt) message
  let trustRootRefs ← readList digestText roots
  throwIf (¬ trustRootRefs.Nodup) "Duplicate Owner root reference"
  let endpoints ← readList (AuthorityEndpointV1.fromItem scan) rawEndpoints
  let signingKeyId ← digestText (value.getOrNone "signing_key_id")
  let signature ← signatureText (value.getOrNone "signature")
  pure
    { ownerDomainId
      ownerDomainGeneration := generation
      directoryRevision := revision
      descriptorUri
      endpoints
      trustRootRefs
      issuedAt := issuedText
      expiresAt := expiresText
      signingKeyId
      signature }

def toJson (descriptor : OwnerDomainDescriptorV1) : Members :=
  [(str "owner_domain_id", .str descriptor.ownerDomainId),
    (str "owner_domain_generation", .int descriptor.ownerDomainGeneration),
    (str "directory_revision", .int descriptor.directoryRevision),
    (str "descriptor_uri", .str descriptor.descriptorUri),
    (str "trust_root_refs", .array (descriptor.trustRootRefs.map .str)),
    (str "endpoints",
      .array (descriptor.endpoints.map fun item => .object item.toJson)),
    (str "issued_at", .str descriptor.issuedAt),
    (str "expires_at", .str descriptor.expiresAt),
    (str "signing_key_id", .str descriptor.signingKeyId),
    (str "signature", .str descriptor.signature)]

end OwnerDomainDescriptorV1

/-!
## What is read
-/

/-- The keys of an object are these. -/
def HasKeys (value : Members) (keys : List String) : Prop :=
  value.keys ⊆ keys.map str ∧ keys.map str ⊆ value.keys

/-- What an endpoint is read from. -/
structure AuthorityEndpointV1.ReadFrom (scan : Scanner) (value : Members)
    (endpoint : AuthorityEndpointV1) : Prop where
  keys : HasKeys value AuthorityEndpointV1.keys
  authority : boundedText (value.getOrNone "authority") 32 =
    .ok endpoint.authority
  audience : boundedText (value.getOrNone "logical_audience") 128 =
    .ok endpoint.logicalAudience
  uri : exists text, boundedText (value.getOrNone "uri") 2048 = .ok text ∧
    httpsUri? scan text = some endpoint.uri
  profile : boundedText (value.getOrNone "transport_profile") 32 =
    .ok endpoint.transportProfile
  priority : int? (value.getOrNone "priority") = some endpoint.priority
  words : endpoint.authority ∈ AuthorityEndpointV1.authorities ∧
    endpoint.transportProfile ∈ AuthorityEndpointV1.profiles ∧
    0 ≤ endpoint.priority ∧ endpoint.priority ≤ 65535

/-- What a directory is read from. -/
structure OwnerDomainDescriptorV1.ReadFrom (scan : Scanner) (zone : LocalZone)
    (value : Members) (descriptor : OwnerDomainDescriptorV1) : Prop where
  keys : HasKeys value OwnerDomainDescriptorV1.keys
  ownerDomainId : boundedText (value.getOrNone "owner_domain_id") 128 =
    .ok descriptor.ownerDomainId
  descriptorUri : boundedText (value.getOrNone "descriptor_uri") 2048 =
    .ok descriptor.descriptorUri
  issuedText : castString (value.getOrNone "issued_at") = .ok descriptor.issuedAt
  expiresText : castString (value.getOrNone "expires_at") =
    .ok descriptor.expiresAt
  generation : positive? (value.getOrNone "owner_domain_generation") =
    some descriptor.ownerDomainGeneration
  revision : positive? (value.getOrNone "directory_revision") =
    some descriptor.directoryRevision
  published : (httpsUri? scan descriptor.descriptorUri).isSome = true
  roots : exists items,
    boundedList? (value.getOrNone "trust_root_refs") 16 = some items ∧
      readList digestText items = .ok descriptor.trustRootRefs
  roots_unique : descriptor.trustRootRefs.Nodup
  endpoints : exists items,
    boundedList? (value.getOrNone "endpoints") 32 = some items ∧
      readList (AuthorityEndpointV1.fromItem scan) items = .ok descriptor.endpoints
  window : exists issuedAt expiresAt,
    dateTimeTryParse zone descriptor.issuedAt = some issuedAt ∧
      dateTimeTryParse zone descriptor.expiresAt = some expiresAt ∧
      issuedAt < expiresAt
  signingKeyId : digestText (value.getOrNone "signing_key_id") =
    .ok descriptor.signingKeyId
  signature : signatureText (value.getOrNone "signature") =
    .ok descriptor.signature

section ReadFrom

variable {scan : Scanner} {value : Members}

theorem exactKeys_bind_eq_ok {keys : List String} {message : String} {α : Type}
    {rest : Reading α} {a : α} :
    (exactKeys value keys message >>= fun _ => rest) = .ok a <->
      HasKeys value keys ∧ rest = .ok a := by
  rw [bind_eq_ok]
  simp only [exactKeys_eq_ok]
  constructor
  · intro h
    rcases h with ⟨_, hkeys, hrest⟩
    exact ⟨hkeys, hrest⟩
  · intro h
    exact ⟨(), h.left, h.right⟩

theorem AuthorityEndpointV1.fromMap_eq_ok {endpoint : AuthorityEndpointV1} :
    fromMap scan value = .ok endpoint <-> ReadFrom scan value endpoint := by
  unfold fromMap
  rw [exactKeys_bind_eq_ok]
  simp only [bind_eq_ok, orThrow_eq_ok, throwIf_eq_ok, not_or, not_not, not_lt]
  constructor
  · intro h
    rcases h with ⟨hkeys, authority, hauthority, audience, haudience, text, htext,
      profile, hprofile, uri, huri, priority, hpriority, _, hwords, heq⟩
    cases heq
    exact ⟨hkeys, hauthority, haudience, ⟨text, htext, huri⟩, hprofile, hpriority,
      hwords⟩
  · intro h
    rcases h.uri with ⟨text, htext, huri⟩
    exact ⟨h.keys, _, h.authority, _, h.audience, text, htext, _, h.profile, _,
      huri, _, h.priority, (), h.words, rfl⟩

theorem AuthorityEndpointV1.fromItem_eq_ok {item : Json}
    {endpoint : AuthorityEndpointV1} :
    fromItem scan item = .ok endpoint <->
      exists value, item = .object value ∧ ReadFrom scan value endpoint := by
  cases item with
  | object value =>
      rw [show fromItem scan (.object value) = fromMap scan value from rfl, fromMap_eq_ok]
      simp
  | null => exact iff_of_false nofun nofun
  | bool b => exact iff_of_false nofun nofun
  | int n => exact iff_of_false nofun nofun
  | float x => exact iff_of_false nofun nofun
  | str s => exact iff_of_false nofun nofun
  | array items => exact iff_of_false nofun nofun

theorem OwnerDomainDescriptorV1.fromMap_eq_ok {zone : LocalZone}
    {descriptor : OwnerDomainDescriptorV1} :
    fromMap scan zone value = .ok descriptor <->
      ReadFrom scan zone value descriptor := by
  unfold fromMap
  rw [exactKeys_bind_eq_ok]
  simp only [bind_eq_ok, orThrow_eq_ok, throwIf_eq_ok, not_not]
  constructor
  · intro h
    rcases h with ⟨hkeys, owner, howner, uri, huri, issued, hissued, expires,
      hexpires, generation, hgeneration, revision, hrevision, _, hpublished, items,
      hitems, raw, hraw, issuedAt, hissuedAt, expiresAt, hexpiresAt, _, hwindow,
      roots, hroots, _, hunique, endpoints, hendpoints, keyId, hkeyId, signature,
      hsignature, heq⟩
    cases heq
    exact
      { keys := hkeys
        ownerDomainId := howner
        descriptorUri := huri
        issuedText := hissued
        expiresText := hexpires
        generation := hgeneration
        revision := hrevision
        published := Option.isSome_iff_exists.mpr ⟨_, hpublished⟩
        roots := ⟨items, hitems, hroots⟩
        roots_unique := hunique
        endpoints := ⟨raw, hraw, hendpoints⟩
        window := ⟨issuedAt, expiresAt, hissuedAt, hexpiresAt, hwindow⟩
        signingKeyId := hkeyId
        signature := hsignature }
  · intro h
    rcases Option.isSome_iff_exists.mp h.published with ⟨u, hpublished⟩
    rcases h.roots with ⟨items, hitems, hroots⟩
    rcases h.endpoints with ⟨raw, hraw, hendpoints⟩
    rcases h.window with ⟨issuedAt, expiresAt, hissuedAt, hexpiresAt, hwindow⟩
    exact ⟨h.keys, _, h.ownerDomainId, _, h.descriptorUri, _, h.issuedText, _,
      h.expiresText, _, h.generation, _, h.revision, u, hpublished, items, hitems,
      raw, hraw, issuedAt, hissuedAt, expiresAt, hexpiresAt, (), hwindow, _, hroots,
      (), h.roots_unique, _, hendpoints, _, h.signingKeyId, _, h.signature, rfl⟩

end ReadFrom

/-!
## What is written again
-/

section Written

variable {scan : Scanner} {value : Members}

theorem HasKeys.mem_iff {keys : List String} (h : HasKeys value keys) (k : PyStr) :
    k ∈ value.keys <-> k ∈ keys.map str :=
  ⟨fun hk => h.left hk, fun hk => h.right hk⟩

theorem get_str_of_getOrNone {name : String} {s : PyStr}
    (h : value.getOrNone name = .str s) : value.get name = some (.str s) :=
  (@Members.getOrNone_eq value name (.str s) (fun hnull => nomatch hnull)).mp h

theorem get_int_of_getOrNone {name : String} {n : Int}
    (h : value.getOrNone name = .int n) : value.get name = some (.int n) :=
  (@Members.getOrNone_eq value name (.int n) (fun hnull => nomatch hnull)).mp h

theorem get_array_of_getOrNone {name : String} {items : List Json}
    (h : value.getOrNone name = .array items) :
    value.get name = some (.array items) :=
  (@Members.getOrNone_eq value name (.array items) (fun hnull => nomatch hnull)).mp h

theorem tryParse_of_httpsUri {s : PyStr} {u : Uri} (h : httpsUri? scan s = some u) :
    Uri.tryParse scan s = some u :=
  (Option.filter_eq_some_iff.mp h).left

/-- The member that has to be in normal form. -/
def NormalMember (scan : Scanner) (value : Members) : Prop :=
  forall text, value.get "uri" = some (.str text) -> Uri.IsNormal scan text

theorem AuthorityEndpointV1.same_iff {endpoint : AuthorityEndpointV1}
    (h : ReadFrom scan value endpoint) :
    Json.Same (.object endpoint.toJson) (.object value) <->
      NormalMember scan value := by
  rcases h.uri with ⟨text, htext, huri⟩
  have hauthority := get_str_of_getOrNone (boundedText_eq_ok.mp h.authority).left
  have haudience := get_str_of_getOrNone (boundedText_eq_ok.mp h.audience).left
  have hget := get_str_of_getOrNone (boundedText_eq_ok.mp htext).left
  have hprofile := get_str_of_getOrNone (boundedText_eq_ok.mp h.profile).left
  have hpriority := get_int_of_getOrNone (int?_eq_some.mp h.priority).left
  have hprinted := Uri.toString_eq_iff (tryParse_of_httpsUri huri)
  rw [@Json.Same.object_iff_of_names _ _ keys (fun k => Iff.rfl) h.keys.mem_iff]
  constructor
  · intro hsame text' hget'
    have htexts : text' = text := by
      rw [hget] at hget'
      cases hget'
      rfl
    subst htexts
    exact hprinted.mp (Json.Same.str_iff.mp
      (hsame "uri" (by decide) _ _ rfl hget))
  · intro hnormal name hname v w hv hw
    simp only [keys, List.mem_cons, List.not_mem_nil, or_false] at hname
    rcases hname with rfl | rfl | rfl | rfl | rfl
    · cases hv
      cases hauthority.symm.trans hw
      exact Json.Same.str _
    · cases hv
      cases haudience.symm.trans hw
      exact Json.Same.str _
    · cases hv
      cases hget.symm.trans hw
      exact Json.Same.str_iff.mpr (hprinted.mpr (hnormal text hget))
    · cases hv
      cases hprofile.symm.trans hw
      exact Json.Same.str _
    · cases hv
      cases hpriority.symm.trans hw
      exact Json.Same.int_iff.mpr rfl

theorem castString_eq_ok {v : Json} {s : PyStr} :
    castString v = .ok s <-> v = .str s ∨ (v = .null ∧ s = []) := by
  cases v with
  | str t => simp [castString, pure, Except.pure]
  | null => simp [castString, pure, Except.pure, eq_comm]
  | bool b => exact iff_of_false nofun (by simp)
  | int n => exact iff_of_false nofun (by simp)
  | float x => exact iff_of_false nofun (by simp)
  | array items => exact iff_of_false nofun (by simp)
  | object members => exact iff_of_false nofun (by simp)

/-- An instant that is read was a string: nothing stands for no instant. -/
theorem get_of_castString {zone : LocalZone} {name : String} {s : PyStr}
    {instant : Int} (h : castString (value.getOrNone name) = .ok s)
    (hinstant : dateTimeTryParse zone s = some instant) :
    value.get name = some (.str s) := by
  rcases castString_eq_ok.mp h with hstr | ⟨_, hempty⟩
  · exact get_str_of_getOrNone hstr
  · subst hempty
    cases hinstant

theorem boundedList?_eq_some {v : Json} {maximum : Nat} {items : List Json} :
    boundedList? v maximum = some items <->
      v = .array items ∧ items ≠ [] ∧ items.length ≤ maximum := by
  cases v with
  | array items' =>
      simp only [boundedList?, Option.ite_none_right_eq_some, Option.some.injEq,
        Json.array.injEq]
      constructor
      · intro h
        rcases h with ⟨hbound, rfl⟩
        exact ⟨rfl, hbound⟩
      · intro h
        rcases h with ⟨rfl, hbound⟩
        exact ⟨hbound, rfl⟩
  | null => simp [boundedList?]
  | bool b => simp [boundedList?]
  | int n => simp [boundedList?]
  | float x => simp [boundedList?]
  | str s => simp [boundedList?]
  | object members => simp [boundedList?]

theorem same_roots {items : List Json} {roots : List PyStr}
    (h : readList digestText items = .ok roots) :
    Json.Same (.array (roots.map .str)) (.array items) := by
  rw [Json.Same.array_iff, List.forall₂_map_left_iff]
  refine List.Forall₂.imp ?_ (List.Forall₂.flip (readList_eq_ok.mp h))
  intro root item hitem
  rw [(patternText_eq_ok.mp hitem).left]
  exact Json.Same.str root

/-- The objects among these items have the member in normal form. -/
def NormalItems (scan : Scanner) (items : List Json) : Prop :=
  forall endpoint, Json.object endpoint ∈ items -> NormalMember scan endpoint

theorem same_endpoints_iff {items : List Json}
    {endpoints : List AuthorityEndpointV1}
    (h : readList (AuthorityEndpointV1.fromItem scan) items = .ok endpoints) :
    Json.Same (.array (endpoints.map fun item => .object item.toJson))
      (.array items) <-> NormalItems scan items := by
  rw [Json.Same.array_iff, List.forall₂_map_left_iff]
  have hread := readList_eq_ok.mp h
  clear h
  induction hread with
  | nil => exact iff_of_true .nil (fun _ hmem => nomatch hmem)
  | cons hitem _ ih =>
      rcases AuthorityEndpointV1.fromItem_eq_ok.mp hitem with ⟨members, rfl, hfrom⟩
      rw [List.forall₂_cons, AuthorityEndpointV1.same_iff hfrom]
      constructor
      · intro h endpoint hendpoint
        rcases List.mem_cons.mp hendpoint with heq | hrest
        · cases heq
          exact h.left
        · exact ih.mp h.right endpoint hrest
      · intro h
        exact ⟨h members List.mem_cons_self,
          ih.mpr fun endpoint hrest => h endpoint (List.mem_cons_of_mem _ hrest)⟩

theorem OwnerDomainDescriptorV1.same_iff {zone : LocalZone}
    {descriptor : OwnerDomainDescriptorV1} (h : ReadFrom scan zone value descriptor) :
    Json.Same (.object descriptor.toJson) (.object value) <->
      forall items, value.get "endpoints" = some (.array items) ->
        NormalItems scan items := by
  rcases h.roots with ⟨rootItems, hrootItems, hroots⟩
  rcases h.endpoints with ⟨items, hitems, hendpoints⟩
  rcases h.window with ⟨issuedAt, expiresAt, hissuedAt, hexpiresAt, _⟩
  have howner := get_str_of_getOrNone (boundedText_eq_ok.mp h.ownerDomainId).left
  have hgeneration :=
    get_int_of_getOrNone (positive?_eq_some.mp h.generation).left
  have hrevision := get_int_of_getOrNone (positive?_eq_some.mp h.revision).left
  have huri := get_str_of_getOrNone (boundedText_eq_ok.mp h.descriptorUri).left
  have hrootsGet :=
    get_array_of_getOrNone (boundedList?_eq_some.mp hrootItems).left
  have hget := get_array_of_getOrNone (boundedList?_eq_some.mp hitems).left
  have hissued := get_of_castString h.issuedText hissuedAt
  have hexpires := get_of_castString h.expiresText hexpiresAt
  have hkeyId := get_str_of_getOrNone (patternText_eq_ok.mp h.signingKeyId).left
  have hsignature := get_str_of_getOrNone (patternText_eq_ok.mp h.signature).left
  have hsame := same_endpoints_iff hendpoints
  rw [@Json.Same.object_iff_of_names _ _ keys (fun k => Iff.rfl) h.keys.mem_iff]
  constructor
  · intro hmembers items' hget'
    cases hget.symm.trans hget'
    exact hsame.mp (hmembers "endpoints" (by decide) _ _ rfl hget)
  · intro hnormal name hname v w hv hw
    simp only [keys, List.mem_cons, List.not_mem_nil, or_false] at hname
    rcases hname with rfl | rfl | rfl | rfl | rfl | rfl | rfl | rfl | rfl | rfl
    · cases hv
      cases howner.symm.trans hw
      exact Json.Same.str _
    · cases hv
      cases hgeneration.symm.trans hw
      exact Json.Same.int_iff.mpr rfl
    · cases hv
      cases hrevision.symm.trans hw
      exact Json.Same.int_iff.mpr rfl
    · cases hv
      cases huri.symm.trans hw
      exact Json.Same.str _
    · cases hv
      cases hrootsGet.symm.trans hw
      exact same_roots hroots
    · cases hv
      cases hget.symm.trans hw
      exact hsame.mpr (hnormal items hget)
    · cases hv
      cases hissued.symm.trans hw
      exact Json.Same.str _
    · cases hv
      cases hexpires.symm.trans hw
      exact Json.Same.str _
    · cases hv
      cases hkeyId.symm.trans hw
      exact Json.Same.str _
    · cases hv
      cases hsignature.symm.trans hw
      exact Json.Same.str _

/-- Everything but the signature. -/
def signedMembers (value : Members) : Members :=
  value.filter fun m => m.fst != str "signature"

/-- One document is the other, member for member, and what is signed of it has the
same canonical form. -/
def Preserves (written read : Members) : Prop :=
  Json.Same (.object written) (.object read) ∧
    forall canonical : Support.Rfc8785, canonical.Respects ->
      canonical.dumps (.object (signedMembers written)) =
        canonical.dumps (.object (signedMembers read))

theorem directory_preserved_iff {zone : LocalZone}
    {descriptor : OwnerDomainDescriptorV1}
    (h : OwnerDomainDescriptorV1.fromMap scan zone value = .ok descriptor) :
    Preserves descriptor.toJson value <->
      forall items, value.get "endpoints" = some (.array items) ->
        NormalItems scan items := by
  have hsame :=
    OwnerDomainDescriptorV1.same_iff (OwnerDomainDescriptorV1.fromMap_eq_ok.mp h)
  constructor
  · intro hpreserves
    exact hsame.mp hpreserves.left
  · intro hnormal
    refine ⟨hsame.mpr hnormal, ?_⟩
    intro canonical hcanonical
    exact hcanonical _ _
      (Json.Same.object_filter (fun k => k != str "signature") (hsame.mpr hnormal))

end Written

/-!
### A sample directory
-/

/-- An endpoint at this address. -/
def sampleWireEndpoint (uri : String) : Members :=
  [(str "authority", .str (str "admission")),
    (str "logical_audience", .str (str "eidolon-admission")),
    (str "uri", .str (str uri)),
    (str "transport_profile", .str (str "https-json")),
    (str "priority", .int 0)]

def sampleWireDigest : PyStr :=
  str "sha256:" ++ List.replicate 64 (codePoint '0')

/-- A directory of that endpoint. -/
def sampleWireDirectory (uri : String) : Members :=
  [(str "owner_domain_id", .str (str "owner-a")),
    (str "owner_domain_generation", .int 1),
    (str "directory_revision", .int 1),
    (str "descriptor_uri", .str (str "https://hub.example/directory")),
    (str "trust_root_refs", .array [.str sampleWireDigest]),
    (str "endpoints", .array [.object (sampleWireEndpoint uri)]),
    (str "issued_at", .str (str "1970-01-01T00:00:01Z")),
    (str "expires_at", .str (str "1970-01-01T00:15:00Z")),
    (str "signing_key_id", .str sampleWireDigest),
    (str "signature", .str (List.replicate 86 (codePoint 'A')))]

/-- It leaves zeros and dots to the slower path. -/
def sampleScanner : Scanner :=
  ⟨false, false, fun _ => none, nofun⟩

def sampleWireUri : Uri where
  scheme := str "https"
  userInfo := []
  host := str "hub.example"
  port := none
  path := str "/admission"
  query := none
  fragment := none

/-- What the binding makes of it. -/
def sampleWireRead : OwnerDomainDescriptorV1 where
  ownerDomainId := str "owner-a"
  ownerDomainGeneration := 1
  directoryRevision := 1
  descriptorUri := str "https://hub.example/directory"
  endpoints :=
    [{ authority := str "admission"
       logicalAudience := str "eidolon-admission"
       uri := sampleWireUri
       transportProfile := str "https-json"
       priority := 0 }]
  trustRootRefs := [sampleWireDigest]
  issuedAt := str "1970-01-01T00:00:01Z"
  expiresAt := str "1970-01-01T00:15:00Z"
  signingKeyId := sampleWireDigest
  signature := List.replicate 86 (codePoint 'A')

theorem sampleWireRead_normal :
    OwnerDomainDescriptorV1.fromMap sampleScanner (fun _ => 0)
      (sampleWireDirectory "https://hub.example/admission") = .ok sampleWireRead := by
  decide +kernel

theorem directory_preserved_iff_sample :
    Preserves sampleWireRead.toJson
      (sampleWireDirectory "https://hub.example/admission") := by
  apply (directory_preserved_iff sampleWireRead_normal).mpr
  intro items hitems endpoint hendpoint text htext
  cases hitems
  cases List.mem_singleton.mp hendpoint
  cases htext
  have hparsed : Uri.tryParse sampleScanner (str "https://hub.example/admission") =
      some sampleWireUri := by
    decide +kernel
  exact (Uri.toString_eq_iff hparsed).mp (by decide)

/-- A host in capitals is read, and printed in lower case. -/
theorem directory_not_preserved :
    OwnerDomainDescriptorV1.fromMap sampleScanner (fun _ => 0)
        (sampleWireDirectory "https://HUB.example/admission") = .ok sampleWireRead ∧
      ¬ Preserves sampleWireRead.toJson
        (sampleWireDirectory "https://HUB.example/admission") := by
  refine ⟨by decide +kernel, ?_⟩
  intro hpreserves
  have hendpoints := Json.Same.array_iff.mp
    (@Json.Same.object_get _ _ hpreserves.left "endpoints" _ _ rfl rfl)
  cases hendpoints with
  | cons hendpoint _ =>
      have huri := Json.Same.str_iff.mp
        (@Json.Same.object_get _ _ hendpoint "uri" _ _ rfl rfl)
      revert huri
      decide

end DeviceFoundation
end EidolonSdk
