import Mathlib.Data.List.Lex
import EidolonSdk.DeviceFoundation.AuthorityLocator
import EidolonSdk.Logic.SortedBy
import EidolonSdk.Pydantic.Validation
import EidolonSdk.Support.CanonicalJson
import EidolonSdk.Support.Der

/-!
# Resolving

What a locator answers: the endpoints of one authority, best route first.
-/

namespace EidolonSdk
namespace DeviceFoundation

open Python Logic Pydantic Support

/-!
## Valid directories
-/

def AuthorityEndpoint.identity (endpoint : AuthorityEndpoint) :
    LogicalAuthority × PyStr × PyStr :=
  (endpoint.authority, endpoint.logicalAudience, endpoint.uri)

def isHttpsUri (uri : PyStr) : Bool :=
  startsWith uri (str "https://")

def audienceRule : StrRule :=
  { minLength := 1, maxLength := some 128 }

def uriRule : StrRule :=
  { maxLength := some 2048, pattern := isHttpsUri }

def transportProfileRule : StrRule :=
  { pattern := fun profile =>
      ["https-json", "mqtt-tls", "nats-tls"].any fun word =>
        str word == profile }

/-- `^sha256:[0-9a-f]\x7b64\x7d$`, and the same check written out by hand. -/
def isSha256Reference (s : PyStr) : Bool :=
  startsWith s (str "sha256:") && s.length == 71 &&
    (s.drop 7).all fun c => (str "0123456789abcdef").contains c

/-- `^[A-Za-z0-9_-]\x7b86\x7d$`. -/
def isRawSignature (s : PyStr) : Bool :=
  s.length == 86 && s.all fun c =>
    (0x30 ≤ c.val && c.val ≤ 0x39) || (0x41 ≤ c.val && c.val ≤ 0x5A) ||
      (0x61 ≤ c.val && c.val ≤ 0x7A) || (str "_-").contains c

structure AuthorityEndpoint.Valid (endpoint : AuthorityEndpoint) : Prop where
  logicalAudience : audienceRule.Accepts endpoint.logicalAudience
  uri : uriRule.Accepts endpoint.uri
  transportProfile : transportProfileRule.Accepts endpoint.transportProfile
  priority : 0 ≤ endpoint.priority ∧ endpoint.priority ≤ 65535

/-- Everything the model checks. -/
structure OwnerDomainDescriptor.Valid (descriptor : OwnerDomainDescriptor) :
    Prop where
  ownerDomainId : audienceRule.Accepts descriptor.ownerDomainId
  ownerDomainGeneration : 1 ≤ descriptor.ownerDomainGeneration
  directoryRevision : 1 ≤ descriptor.directoryRevision
  descriptorUri : uriRule.Accepts descriptor.descriptorUri
  roots_nonempty : descriptor.trustRootRefs ≠ []
  roots_unique : descriptor.trustRootRefs.Nodup
  roots : forall root, root ∈ descriptor.trustRootRefs ->
    isSha256Reference root = true
  endpoints_nonempty : descriptor.endpoints ≠ []
  endpoints : forall endpoint, endpoint ∈ descriptor.endpoints -> endpoint.Valid
  endpoints_unique : DistinctKeys AuthorityEndpoint.identity descriptor.endpoints
  window : descriptor.issuedAt.val < descriptor.expiresAt.val
  signingKeyId : isSha256Reference descriptor.signingKeyId = true
  signature : isRawSignature descriptor.signature = true

/-!
## Resolving
-/

/-- `(item.priority, item.logical_audience, item.uri)`. -/
def AuthorityEndpoint.route (endpoint : AuthorityEndpoint) :
    Int ×ₗ (PyStr ×ₗ PyStr) :=
  toLex (endpoint.priority, toLex (endpoint.logicalAudience, endpoint.uri))

/-- The endpoints of one authority, best route first. -/
def OwnerDomainDescriptor.routes (descriptor : OwnerDomainDescriptor)
    (authority : LogicalAuthority) : List AuthorityEndpoint :=
  sortedBy AuthorityEndpoint.route
    (descriptor.endpoints.filter fun endpoint => endpoint.authority = authority)

def requireRoutes (authority : LogicalAuthority)
    (endpoints : List AuthorityEndpoint) :
    Except LocatorFailure (List AuthorityEndpoint) :=
  if endpoints.isEmpty then
    throw (.authorityLocatorError
      (str "descriptor has no " ++ authority.value ++ str " endpoint"))
  else
    pure endpoints

def resolveAt (accepted : Option OwnerDomainDescriptor)
    (authority : LogicalAuthority) (now : Instant) :
    Except LocatorFailure (List AuthorityEndpoint) :=
  match accepted with
  | none => locatorError "AuthorityDiscoveryRequired"
  | some descriptor => do
      refuseWhen (descriptor.expiresAt.val ≤ now.val)
        "AuthorityDiscoveryRequired"
      requireRoutes authority (descriptor.routes authority)

def AuthorityLocator.resolve (self : AuthorityLocator) (ownerDomainId : PyStr)
    (authority : LogicalAuthority) (now : Datetime) :
    Except LocatorFailure (List AuthorityEndpoint) := do
  let now ← utc now
  refuseWhen (ownerDomainId != self.trustAnchor.ownerDomainId)
    "requested Owner Domain is not commissioned"
  resolveAt self.accepted authority now

/-!
## What an answer is

Inside one authority two endpoints differ in audience or address, so no two
share a route and the order of the directory does not show.
-/

theorem distinct_routes {descriptor : OwnerDomainDescriptor}
    (h : DistinctKeys AuthorityEndpoint.identity descriptor.endpoints)
    (authority : LogicalAuthority) :
    DistinctKeys AuthorityEndpoint.route
      (descriptor.endpoints.filter fun endpoint =>
        endpoint.authority = authority) := by
  have hfiltered := List.Pairwise.filter
    (fun endpoint : AuthorityEndpoint => endpoint.authority = authority) h
  apply List.Pairwise.imp_of_mem _ hfiltered
  intro a b ha hb hne hroute
  have hauthority : a.authority = b.authority := by
    have ha' := (List.mem_filter.mp ha).right
    have hb' := (List.mem_filter.mp hb).right
    simp only [decide_eq_true_eq] at ha' hb'
    rw [ha', hb']
  have hrest := congrArg (fun route => (ofLex (ofLex route).2)) hroute
  have haudience : a.logicalAudience = b.logicalAudience :=
    congrArg Prod.fst hrest
  have huri : a.uri = b.uri := congrArg Prod.snd hrest
  apply hne
  unfold AuthorityEndpoint.identity
  rw [hauthority, haudience, huri]

section Routes

variable {descriptor : OwnerDomainDescriptor} {authority : LogicalAuthority}

theorem mem_routes {endpoint : AuthorityEndpoint} :
    endpoint ∈ descriptor.routes authority <->
      endpoint ∈ descriptor.endpoints ∧ endpoint.authority = authority := by
  unfold OwnerDomainDescriptor.routes
  rw [mem_sortedBy, List.mem_filter, decide_eq_true_eq]

theorem routes_perm :
    (descriptor.routes authority).Perm
      (descriptor.endpoints.filter fun endpoint =>
        endpoint.authority = authority) :=
  sortedBy_perm _ _

theorem routes_lt
    (h : DistinctKeys AuthorityEndpoint.identity descriptor.endpoints) :
    (descriptor.routes authority).Pairwise fun a b => a.route < b.route :=
  sortedBy_lt (distinct_routes h authority)

theorem routes_eq_of_perm
    (h : DistinctKeys AuthorityEndpoint.identity descriptor.endpoints)
    {endpoints : List AuthorityEndpoint}
    (hperm : descriptor.endpoints.Perm endpoints) :
    ({ descriptor with endpoints := endpoints }).routes authority =
      descriptor.routes authority :=
  (sortedBy_eq_of_perm (distinct_routes h authority)
    (hperm.filter fun endpoint => endpoint.authority = authority)).symm

end Routes

/-!
## Answers and refusals
-/

section Resolve

variable {self : AuthorityLocator} {ownerDomainId : PyStr}
variable {authority : LogicalAuthority} {now : Datetime} {instant : Instant}

/-- Nothing was accepted, it has expired, or no endpoint names the authority. -/
def OffersNothing (accepted : Option OwnerDomainDescriptor)
    (authority : LogicalAuthority) (instant : Instant) : Prop :=
  match accepted with
  | none => True
  | some descriptor =>
      descriptor.expiresAt.val ≤ instant.val ∨
        forall endpoint, endpoint ∈ descriptor.endpoints ->
          endpoint.authority ≠ authority

def IsLocatorError {α : Type} (x : Except LocatorFailure α) : Prop :=
  exists message, x = .error (.authorityLocatorError message)

theorem locatorError_isLocatorError {α : Type} (message : String) :
    IsLocatorError (locatorError message : Except LocatorFailure α) :=
  ⟨str message, rfl⟩

theorem utc_of_offset {offset : Int} (h : now.offset = some offset) :
    utc now = match now.astimezoneUtc offset with
      | some instant => .ok instant
      | none => .error (.foreign .overflowError) := by
  unfold utc
  rw [h]
  rfl

theorem resolveAt_some (descriptor : OwnerDomainDescriptor) :
    resolveAt (some descriptor) authority instant =
      if descriptor.expiresAt.val ≤ instant.val then
        locatorError "AuthorityDiscoveryRequired"
      else
        requireRoutes authority (descriptor.routes authority) := by
  unfold resolveAt refuseWhen
  by_cases h : descriptor.expiresAt.val ≤ instant.val
  · simp only [h, decide_true, if_true]
    rfl
  · simp only [h, decide_false, if_false]
    rfl

theorem resolve_of_utc (hutc : utc now = .ok instant) :
    self.resolve ownerDomainId authority now =
      if ownerDomainId = self.trustAnchor.ownerDomainId then
        resolveAt self.accepted authority instant
      else
        locatorError "requested Owner Domain is not commissioned" := by
  unfold AuthorityLocator.resolve
  rw [hutc, Logic.ok_bind]
  unfold refuseWhen
  by_cases h : ownerDomainId = self.trustAnchor.ownerDomainId
  · have hsame : (ownerDomainId != self.trustAnchor.ownerDomainId) = false := by
      simp [h]
    rw [hsame, if_pos h]
    rfl
  · have hdiffers :
        (ownerDomainId != self.trustAnchor.ownerDomainId) = true := by
      simp [h]
    rw [hdiffers, if_neg h]
    rfl

theorem routes_ne_nil {descriptor : OwnerDomainDescriptor} :
    descriptor.routes authority ≠ [] <->
      exists endpoint, endpoint ∈ descriptor.endpoints ∧
        endpoint.authority = authority := by
  constructor
  · intro h
    rcases List.exists_mem_of_ne_nil _ h with ⟨endpoint, hmem⟩
    exact ⟨endpoint, mem_routes.mp hmem⟩
  · intro h
    rcases h with ⟨endpoint, hmem⟩
    exact List.ne_nil_of_mem (mem_routes.mpr hmem)

theorem requireRoutes_of_ne_nil {endpoints : List AuthorityEndpoint}
    (h : endpoints ≠ []) :
    requireRoutes authority endpoints = .ok endpoints := by
  cases endpoints with
  | nil => exact absurd rfl h
  | cons endpoint rest => rfl

/-- The four reasons to refuse. -/
theorem resolve_refuses (hutc : utc now = .ok instant)
    (h : ownerDomainId ≠ self.trustAnchor.ownerDomainId ∨
      OffersNothing self.accepted authority instant) :
    IsLocatorError (self.resolve ownerDomainId authority now) := by
  rw [resolve_of_utc hutc]
  by_cases hdomain : ownerDomainId = self.trustAnchor.ownerDomainId
  · rw [if_pos hdomain]
    have hnothing := h.resolve_left (not_not.mpr hdomain)
    cases haccepted : self.accepted with
    | none => exact locatorError_isLocatorError _
    | some descriptor =>
        rw [haccepted] at hnothing
        rw [resolveAt_some]
        by_cases hexpired : descriptor.expiresAt.val ≤ instant.val
        · rw [if_pos hexpired]
          exact locatorError_isLocatorError _
        · rw [if_neg hexpired]
          have hnone := hnothing.resolve_left hexpired
          have hnil : descriptor.routes authority = [] := by
            by_contra hroutes
            rcases routes_ne_nil.mp hroutes with ⟨endpoint, hmem, hauthority⟩
            exact hnone endpoint hmem hauthority
          rw [hnil]
          exact ⟨_, rfl⟩
  · rw [if_neg hdomain]
    exact locatorError_isLocatorError _

theorem resolve_answers {descriptor : OwnerDomainDescriptor}
    (hutc : utc now = .ok instant)
    (hdomain : ownerDomainId = self.trustAnchor.ownerDomainId)
    (haccepted : self.accepted = some descriptor)
    (hlive : instant.val < descriptor.expiresAt.val)
    (hendpoint : exists endpoint, endpoint ∈ descriptor.endpoints ∧
      endpoint.authority = authority) :
    self.resolve ownerDomainId authority now =
      .ok (descriptor.routes authority) := by
  rw [resolve_of_utc hutc, if_pos hdomain, haccepted, resolveAt_some,
    if_neg (not_le.mpr hlive)]
  exact requireRoutes_of_ne_nil (routes_ne_nil.mpr hendpoint)

end Resolve

/-!
## A sample directory
-/

def instantOf (micros : Int) (h : InRange micros) : Instant := ⟨micros, h⟩

/-- Certificates are their texts; the signing certificate starts at the given
time and every signature holds. -/
def samplePrimitives (start : Instant) : LocatorPrimitives where
  hash :=
    { digest := fun _ => List.replicate 32 0
      digest_length := fun _ => List.length_replicate }
  canonical := { dumps := fun _ => .ok [] }
  PublicKey := PyStr
  isP256 _ := true
  loadPemPublicKey key := .ok key
  publicBytesPem key := key
  publicBytesDer _ := []
  Certificate := PyStr
  loadPemCertificate certificate := .ok certificate
  certificateKey certificate := certificate
  notValidBefore certificate :=
    if certificate = str "leaf" then start else instantOf 0 inRange_zero
  notValidAfter _ := instantOf 1000000000 (by decide)
  basicConstraintsCa certificate := some (certificate != str "leaf")
  codeSigningUsage certificate := some (certificate == str "leaf")
  verifyCertificate _ _ := .valid
  verify _ _ _ := .valid
  encodeDssSignature _ _ := []

def sampleAnchor : OwnerDomainTrustAnchor where
  ownerDomainId := str "owner-a"
  ownerRootCertificatePem := str "root"
  authoritySigningCertificatePem := str "leaf"
  trustEpoch := 1

def sampleKeyId : PyStr :=
  str "sha256:" ++ List.replicate 64 (codePoint '0')

def sampleDescriptor : OwnerDomainDescriptor where
  ownerDomainId := str "owner-a"
  ownerDomainGeneration := 1
  directoryRevision := 1
  descriptorUri := str "https://hub.example/directory"
  trustRootRefs := [sampleKeyId]
  endpoints :=
    [{ authority := .admission
       logicalAudience := str "eidolon-admission"
       uri := str "https://hub.example/admission"
       transportProfile := str "https-json"
       priority := 0 }]
  issuedAt := instantOf 1000000 (by decide)
  expiresAt := instantOf 900000000 (by decide)
  signingKeyId := sampleKeyId
  signature := List.replicate 86 (codePoint 'A')

theorem sampleDescriptor_valid : sampleDescriptor.Valid where
  ownerDomainId := by decide
  ownerDomainGeneration := by decide
  directoryRevision := by decide
  descriptorUri := by decide
  roots_nonempty := nofun
  roots_unique := List.nodup_singleton _
  roots := by decide
  endpoints_nonempty := nofun
  endpoints := by
    intro endpoint hmem
    rw [List.mem_singleton.mp hmem]
    exact
      { logicalAudience := by decide
        uri := by decide
        transportProfile := by decide
        priority := by decide }
  endpoints_unique := List.pairwise_singleton _ _
  window := by decide
  signingKeyId := by decide
  signature := by decide

def sampleCall : LocatorCall :=
  ⟨sampleDescriptor, (instantOf 5000000 (by decide)).toDatetime⟩

def lateStart : Instant := instantOf 2000000 (by decide)

def earlyStart : Instant := instantOf 0 inRange_zero

/-!
## Reachable locators
-/

section Reachable

variable (P : LocatorPrimitives)

theorem after_trustAnchor (anchor : OwnerDomainTrustAnchor)
    (calls : List LocatorCall) :
    (AuthorityLocator.after P anchor calls).trustAnchor = anchor := by
  rw [after_eq_register]

/-- What a locator holds was put there by one of its calls. -/
theorem accepted_by_call {anchor : OwnerDomainTrustAnchor}
    {calls : List LocatorCall} {descriptor : OwnerDomainDescriptor}
    (h : (AuthorityLocator.after P anchor calls).accepted = some descriptor) :
    exists pre c suf, calls = pre ++ c :: suf ∧ c.candidate = descriptor ∧
      (AuthorityLocator.after P anchor pre).Accepts P c := by
  induction calls using List.reverseRecOn with
  | nil => cases h
  | append_singleton calls c ih =>
      have hlast : AuthorityLocator.after P anchor (calls ++ [c]) =
          AuthorityLocator.call P (AuthorityLocator.after P anchor calls) c := by
        unfold AuthorityLocator.after
        rw [List.foldl_append]
        rfl
      rw [hlast] at h
      by_cases haccepts : (AuthorityLocator.after P anchor calls).Accepts P c
      · rw [haccepts.acceptable.left] at h
        exact ⟨calls, c, [], rfl, Option.some.inj h, haccepts⟩
      · rw [AuthorityLocator.call_refused haccepts] at h
        rcases ih h with ⟨pre, c', suf, hcalls, hcandidate, haccepts'⟩
        refine ⟨pre, c', suf ++ [c], ?_, hcandidate, haccepts'⟩
        rw [hcalls]
        simp

def AllValid (calls : List LocatorCall) : Prop :=
  forall c, c ∈ calls -> c.candidate.Valid

theorem accepted_valid {anchor : OwnerDomainTrustAnchor}
    {calls : List LocatorCall} {descriptor : OwnerDomainDescriptor}
    (hvalid : AllValid calls)
    (h : (AuthorityLocator.after P anchor calls).accepted = some descriptor) :
    descriptor.Valid := by
  rcases accepted_by_call P h with ⟨pre, c, suf, hcalls, hcandidate, _⟩
  rw [← hcandidate]
  apply hvalid
  rw [hcalls]
  simp

/-- Whatever calls a locator got, at every time of the years UTC can name it
answers with the endpoints of the authority, in the order of their routes and
not of the directory, or refuses.  At any other time nothing is answered. -/
theorem resolve_exact (anchor : OwnerDomainTrustAnchor)
    (calls : List LocatorCall) (hvalid : AllValid calls)
    (ownerDomainId : PyStr) (authority : LogicalAuthority) (now : Datetime)
    (offset : Int) (haware : now.offset = some offset) :
    (now.astimezoneUtc offset = none ->
      (AuthorityLocator.after P anchor calls).resolve ownerDomainId authority
        now = .error (.foreign .overflowError)) ∧
    forall instant, now.astimezoneUtc offset = some instant ->
      ((ownerDomainId ≠ anchor.ownerDomainId ∨
          OffersNothing (AuthorityLocator.after P anchor calls).accepted
            authority instant) ->
        IsLocatorError ((AuthorityLocator.after P anchor calls).resolve
          ownerDomainId authority now)) ∧
      forall descriptor,
        (AuthorityLocator.after P anchor calls).accepted = some descriptor ->
        ownerDomainId = anchor.ownerDomainId ->
        instant.val < descriptor.expiresAt.val ->
        (exists endpoint, endpoint ∈ descriptor.endpoints ∧
          endpoint.authority = authority) ->
        exists endpoints,
          (AuthorityLocator.after P anchor calls).resolve ownerDomainId
            authority now = .ok endpoints ∧
          endpoints ≠ [] ∧
          endpoints.Nodup ∧
          endpoints.Perm (descriptor.endpoints.filter fun endpoint =>
            endpoint.authority = authority) ∧
          endpoints.Pairwise (fun a b => a.route < b.route) ∧
          forall permuted, descriptor.endpoints.Perm permuted ->
            ({ trustAnchor := anchor,
               accepted := some { descriptor with endpoints := permuted } } :
              AuthorityLocator).resolve ownerDomainId authority now =
              .ok endpoints := by
  have hutc := utc_of_offset haware
  constructor
  · intro hrange
    rw [hrange] at hutc
    unfold AuthorityLocator.resolve
    rw [hutc]
    rfl
  intro instant hinstant
  rw [hinstant] at hutc
  have hanchor := after_trustAnchor P anchor calls
  constructor
  · intro h
    apply resolve_refuses hutc
    rw [hanchor]
    exact h
  intro descriptor haccepted hdomain hlive hendpoint
  have hunique := (accepted_valid P hvalid haccepted).endpoints_unique
  have hlt := @routes_lt _ authority hunique
  refine ⟨descriptor.routes authority, ?_, routes_ne_nil.mpr hendpoint,
    ?_, routes_perm, hlt, ?_⟩
  · apply resolve_answers hutc _ haccepted hlive hendpoint
    rw [hanchor]
    exact hdomain
  · apply hlt.imp
    intro a b hab heq
    rw [heq] at hab
    exact lt_irrefl _ hab
  · intro permuted hperm
    rw [← routes_eq_of_perm hunique hperm]
    refine resolve_answers hutc hdomain rfl hlive ?_
    rcases hendpoint with ⟨endpoint, hmem, hauthority⟩
    exact ⟨endpoint, hperm.mem_iff.mp hmem, hauthority⟩

end Reachable

/-- The first hour of the year 1, an hour east of Greenwich. -/
def firstHour : Datetime :=
  ⟨minMicros, some 3600000000, by decide, by
    intro offset h
    cases h
    decide⟩

theorem first_hour_not_refused :
    (AuthorityLocator.after (samplePrimitives earlyStart) sampleAnchor
      []).accepted = none ∧
    (AuthorityLocator.after (samplePrimitives earlyStart) sampleAnchor
      []).resolve (str "owner-a") .admission firstHour =
        .error (.foreign .overflowError) := by
  constructor
  · rfl
  · rfl

/-!
## A directory with three routes

A root with an authority under it, and a directory the authority signed.
-/

inductive Party where
  | root
  | authority
  deriving DecidableEq

namespace Party

/-- Two self-made certificates of ten and of two years; the second is for signing
only. -/
def certificateDer : Party -> Bytes
  | .root => [
      0x308201413081e7a003020102020101300a06082a8648ce3d0403023010310e30,
      0x0c06035504030c056f776e6572301e170d3236303130313030303030305a170d,
      0x3336303130313030303030305a3010310e300c06035504030c056f776e657230,
      0x59301306072a8648ce3d020106082a8648ce3d0301070342000422b2886faacd,
      0xbb5d2b7d79b9ee688b1a8f211eddc52ca38e860ad92ada3cec2e3608fb9c1af1,
      0x504e5709b3cf7e9d4ca5bd04816845aff724569da0b820420876a3323030300f,
      0x0603551d130101ff040530030101ff301d0603551d0e04160414d8a386b0e93e,
      0xe46c70c6d1abce7e5859de8186a8300a06082a8648ce3d040302034900304602,
      0x210088242a30b612a9d2d1293a559e6acb13049d6de2b4f28132cbc80fcd8e72,
      0x89ca022100b97a03df3149a03afe44f279f3471a8389423587b132930587b8ba].flatMap (bigEndian 32) ++
      bigEndian 5 0x0a07ff5f11
  | .authority => [
      0x308201793082011ea003020102020102300a06082a8648ce3d0403023010310e,
      0x300c06035504030c056f776e6572301e170d3236303130313030303030305a17,
      0x0d3238303130313030303030305a30143112301006035504030c09617574686f,
      0x726974793059301306072a8648ce3d020106082a8648ce3d03010703420004d6,
      0xc248f8eeb6b326a896afeb3692d37aa232be18ad38ed5ee4ce5ea0093c7b3a98,
      0x04f44750447941734afb01a908e93e78a99dc36ed0737e8bde255051e50d76a3,
      0x653063300c0603551d130101ff0402300030130603551d25040c300a06082b06,
      0x010505070303301d0603551d0e041604140faecb1397c63dd02c0c812b2f1c65,
      0xbc473e9dfe301f0603551d23041830168014d8a386b0e93ee46c70c6d1abce7e,
      0x5859de8186a8300a06082a8648ce3d0403020349003046022100983b88fafe76,
      0xa77291b31af3c32e7785b9026c2f38239d69af07a89b0a9f1a0f022100e0c81f].flatMap (bigEndian 32) ++
      bigEndian 29 0xa59e82d339948f32e15e868c2b401c130022c1d624ec225647426e9f9d

def certificatePem (party : Party) : PyStr :=
  pem "CERTIFICATE" party.certificateDer

/-- The numbers of the public key. -/
def point : Party -> Nat × Nat
  | .root => (
    0x22b2886faacdbb5d2b7d79b9ee688b1a8f211eddc52ca38e860ad92ada3cec2e,
    0x3608fb9c1af1504e5709b3cf7e9d4ca5bd04816845aff724569da0b820420876)
  | .authority => (
    0xd6c248f8eeb6b326a896afeb3692d37aa232be18ad38ed5ee4ce5ea0093c7b3a,
    0x9804f44750447941734afb01a908e93e78a99dc36ed0737e8bde255051e50d76)

def publicKeyDer (party : Party) : Bytes :=
  spkiDer party.point

def publicKeyPem (party : Party) : PyStr :=
  pem "PUBLIC KEY" party.publicKeyDer

/-- The name of the key. -/
def keyId (party : Party) : PyStr :=
  str "sha256:" ++ sha256.hexdigest party.publicKeyDer

def ofPublicKeyPem (pem : PyStr) : Except PyException Party :=
  if pem = root.publicKeyPem then .ok root
  else if pem = authority.publicKeyPem then .ok authority
  else .error .valueError

def ofCertificatePem (pem : PyStr) : Except PyException Party :=
  if pem = root.certificatePem then .ok root
  else if pem = authority.certificatePem then .ok authority
  else .error .valueError

theorem ofPublicKeyPem_publicKeyPem (party : Party) :
    ofPublicKeyPem party.publicKeyPem = .ok party := by
  unfold ofPublicKeyPem
  cases party with
  | root => rw [if_pos rfl]
  | authority =>
      have hne : authority.publicKeyPem ≠ root.publicKeyPem := by decide +kernel
      rw [if_neg hne, if_pos rfl]

end Party

/-- The numbers of the signature the authority made of the directory. -/
def homeSignature : Nat × Nat := (
  0x8e5eb5768512a17229462ff2bc60f1ec525d1c90e6c4909bf3c72fa5f6360e1b,
  0xebeba9cc148497b161fd8675a0586f4d72e7af403d5603800c592b244d60d3f4)

def homeDirectory : OwnerDomainDescriptor where
  ownerDomainId := str "owner-domain_01"
  ownerDomainGeneration := 3
  directoryRevision := 7
  descriptorUri := str "https://host-a.owner.test/api/device-onboarding/v1/descriptor"
  trustRootRefs := [Party.root.keyId]
  endpoints :=
    [{ authority := .deviceControl
       logicalAudience := str "eidolon-device-control"
       uri := str "https://host-a.owner.test/api/device-control/v1"
       transportProfile := str "https-json"
       priority := 10 },
      { authority := .admission
        logicalAudience := str "eidolon-admission"
        uri := str "https://host-b.owner.test/api/admission/v1"
        transportProfile := str "https-json"
        priority := 20 },
      { authority := .admission
        logicalAudience := str "eidolon-admission"
        uri := str "https://host-a.owner.test/api/admission/v1"
        transportProfile := str "https-json"
        priority := 10 }]
  issuedAt := instantOf 1787011200000000 (by decide)
  expiresAt := instantOf 1818547200000000 (by decide)
  signingKeyId := Party.authority.keyId
  signature := urlsafeB64Unpadded
    (bigEndian 32 homeSignature.fst ++ bigEndian 32 homeSignature.snd)

/-- The canonical form of its signing document. -/
@[irreducible]
def homeForm : Bytes :=
  Rfc8785.plainForm homeDirectory.signingDocument

/-- What the authority signed. -/
def homeSigned : OneSignature where
  signed := homeForm
  numbers := homeSignature
  first_lt := by decide
  second_lt := by decide
  ne_least := by decide

/-- A key that signed one text verifies. -/
def checkSignature (only : OneSignature) (signature message : Bytes) :
    SignatureCheck :=
  if signature = only.sign message then .valid else .invalidSignature

theorem checkSignature_eq_valid {only : OneSignature} {signature message : Bytes} :
    checkSignature only signature message = .valid <->
      signature = only.sign message := by
  unfold checkSignature
  split
  · rename_i h
    exact iff_of_true rfl h
  · rename_i h
    exact iff_of_false nofun h

def Party.verify : Party -> Bytes -> Bytes -> SignatureCheck
  | .root, _, _ => .invalidSignature
  | .authority, signature, message => checkSignature homeSigned signature message

/-- The start of 2026. -/
theorem homeStart_inRange : InRange 1767225600000000 := by decide

/-- The two keys and their certificates, with the digests and canonical forms there
are. -/
def homePrimitives : LocatorPrimitives where
  hash := sha256
  canonical := Rfc8785.plain
  PublicKey := Party
  isP256 _ := true
  loadPemPublicKey := Party.ofPublicKeyPem
  publicBytesPem := Party.publicKeyPem
  publicBytesDer := Party.publicKeyDer
  Certificate := Party
  loadPemCertificate := Party.ofCertificatePem
  certificateKey certificate := certificate
  notValidBefore _ := instantOf 1767225600000000 homeStart_inRange
  notValidAfter
    | .root => instantOf 2082758400000000 (by decide)
    | .authority => instantOf 1830297600000000 (by decide)
  basicConstraintsCa certificate := some (certificate == .root)
  codeSigningUsage
    | .root => none
    | .authority => some true
  verifyCertificate
    | .root, _ => .valid
    | .authority, _ => .invalidSignature
  verify := Party.verify
  encodeDssSignature r s := derSignature (r, s)

instance : DecidableEq homePrimitives.PublicKey :=
  inferInstanceAs (DecidableEq Party)

def homeAnchor : OwnerDomainTrustAnchor where
  ownerDomainId := str "owner-domain_01"
  ownerRootCertificatePem := Party.root.certificatePem
  authoritySigningCertificatePem := Party.authority.certificatePem
  trustEpoch := 1

/-- Two weeks after it was issued. -/
def homeCall : LocatorCall :=
  ⟨homeDirectory, (instantOf 1788220800000000 (by decide)).toDatetime⟩

theorem homeDirectory_valid : homeDirectory.Valid where
  ownerDomainId := by decide
  ownerDomainGeneration := by decide
  directoryRevision := by decide
  descriptorUri := by decide
  roots_nonempty := nofun
  roots_unique := List.nodup_singleton _
  roots := by
    intro root hroot
    rw [List.mem_singleton.mp hroot]
    decide +kernel
  endpoints_nonempty := nofun
  endpoints := by
    intro endpoint hmem
    simp only [homeDirectory, List.mem_cons, List.not_mem_nil, or_false] at hmem
    rcases hmem with rfl | rfl | rfl
    · exact ⟨by decide, by decide, by decide, by decide⟩
    · exact ⟨by decide, by decide, by decide, by decide⟩
    · exact ⟨by decide, by decide, by decide, by decide⟩
  endpoints_unique := by
    unfold DistinctKeys
    decide
  window := by decide
  signingKeyId := by decide +kernel
  signature := by decide +kernel

theorem homeForm_dumps :
    Rfc8785.plain.dumps homeDirectory.signingDocument = .ok homeForm := by
  unfold homeForm
  exact Rfc8785.plain_dumps (by decide +kernel)

/-- The routes come in the order of their priorities, which is not that of the
directory. -/
theorem resolve_exact_sample :
    (AuthorityLocator.after homePrimitives homeAnchor [homeCall]).accepted =
      some homeDirectory ∧
    exists endpoints,
      (AuthorityLocator.after homePrimitives homeAnchor [homeCall]).resolve
        (str "owner-domain_01") .admission homeCall.now = .ok endpoints ∧
      endpoints.Perm (homeDirectory.endpoints.filter fun endpoint =>
        endpoint.authority = .admission) ∧
      endpoints.Pairwise fun a b => a.route < b.route := by
  have haccepted : (AuthorityLocator.after homePrimitives homeAnchor
      [homeCall]).accepted = some homeDirectory := by
    decide +kernel
  have hvalid : AllValid [homeCall] := by
    intro c hc
    rw [List.mem_singleton.mp hc]
    exact homeDirectory_valid
  have hexact := resolve_exact homePrimitives homeAnchor [homeCall] hvalid
    (str "owner-domain_01") .admission homeCall.now 0 rfl
  have hanswer := (hexact.right (instantOf 1788220800000000 (by decide))
    (by decide)).right homeDirectory haccepted rfl (by decide)
    ⟨_, List.mem_cons_of_mem _ List.mem_cons_self, rfl⟩
  rcases hanswer with ⟨endpoints, hresolve, _, _, hperm, hordered, _⟩
  exact ⟨haccepted, endpoints, hresolve, hperm, hordered⟩

end DeviceFoundation
end EidolonSdk
