import EidolonSdk.Body.CapabilityManifest
import EidolonSdk.Python.Datetime

/-!
# The device blackboard of one owner

What a companion may see of its owner's devices.  A snapshot carries the proof
that it files every entry under its own id, so the entries of an answer have
distinct ids.  Nothing makes the timestamps of a snapshot aware of their zone,
and comparing one that is not with the reader's clock is an exception.
-/

namespace EidolonSdk
namespace Body

open Python Pydantic Logic

/-!
## Entries
-/

inductive RuntimeDeviceStatus where
  | registeredWaitingTransport
  | online
  deriving DecidableEq

inductive CapabilityVisibility where
  | owner
  | boundCompanion
  deriving DecidableEq

/-- `min_length=least, max_length=most`. -/
def lengthRule (least most : Nat) : StrRule :=
  { minLength := least, maxLength := some most }

def aliasesRule : LengthRule :=
  { most := some 32 }

structure RuntimeDeviceEntry (I : Interpreter) where
  deviceId : ConStr (lengthRule 1 128)
  registrationId : ConStr (lengthRule 1 128)
  providerCompanionId : Option (ConStr (lengthRule 0 128))
  providerCompanionName : ConStr (lengthRule 0 128)
  name : ConStr (lengthRule 0 128)
  aliases : Tuple aliasesRule PyStr
  visibility : CapabilityVisibility
  capabilities : Tuple {} (CapabilityDeclaration I)
  manifestRevision : ConStr (lengthRule 1 128)
  status : RuntimeDeviceStatus
  registeredAt : Datetime
  leaseExpiresAt : Datetime
  lastSeenAt : Option Datetime
  roomName : ConStr (lengthRule 0 256)
  participantSid : ConStr (lengthRule 0 128)
  presenceRevision : ConStr (lengthRule 0 128)

/-- `a > b` of two datetimes. -/
def later (a b : Datetime) : Except PyException Bool :=
  match a.instant, b.instant with
  | some i, some j => pure (decide (j < i))
  | none, none => pure (decide (b.wall < a.wall))
  | _, _ => throw .typeError

def RuntimeDeviceEntry.isOnline {I : Interpreter} (entry : RuntimeDeviceEntry I)
    (now : Datetime) : Except PyException Bool :=
  if entry.status = .online then later entry.leaseExpiresAt now else pure false

/-!
## Snapshots
-/

structure OwnerDeviceBlackboardSnapshot (I : Interpreter) where
  ownerId : ConStr (lengthRule 1 64)
  epoch : ConStr (lengthRule 1 128)
  revision : IntFrom 1
  ready : Bool
  hubLeaseExpiresAt : Datetime
  updatedAt : Datetime
  devices : List (PyStr × RuntimeDeviceEntry I)
  keys_unique : (devices.map Prod.fst).Nodup
  keys_match : forall m, m ∈ devices -> m.fst = m.snd.deviceId.val

namespace OwnerDeviceBlackboardSnapshot

variable {I : Interpreter} (snapshot : OwnerDeviceBlackboardSnapshot I)

/-- `devices.values()`. -/
def entries : List (RuntimeDeviceEntry I) :=
  snapshot.devices.map Prod.snd

def isAvailable (now : Datetime) : Except PyException Bool :=
  if snapshot.ready then later snapshot.hubLeaseExpiresAt now else pure false

/-- The tests of the loop; an entry that fails one is passed over. -/
def shows (requesterCompanionId : PyStr) (now : Datetime)
    (entry : RuntimeDeviceEntry I) : Except PyException Bool := do
  let online ← entry.isOnline now
  match entry.providerCompanionId with
  | none => pure false
  | some provider =>
      pure (online && decide (provider.val ≠ []) &&
        !decide (entry.visibility = .boundCompanion ∧
          provider.val ≠ requesterCompanionId))

def visibleDevices (requesterCompanionId : PyStr) (now : Datetime) :
    Except PyException (List (RuntimeDeviceEntry I)) := do
  let available ← snapshot.isAvailable now
  if available = false then pure []
  else do
    let visible ← sieve (shows requesterCompanionId now) snapshot.entries
    pure (sortedBy (fun entry => entry.deviceId.val) visible)

end OwnerDeviceBlackboardSnapshot

/-!
## Reading a snapshot
-/

/-- How pydantic reads JSON that is not strict: the text itself, and the values
of the scalar fields. -/
structure LaxReader where
  json : Bytes -> Option Json
  integer : LaxInt
  boolean : Json -> Option Bool
  datetime : Json -> Option Datetime
  literal : Int -> Json -> Bool

def lax {α : Type} (read : Json -> Option α) : Validator α :=
  fun value =>
    match read value with
    | some a => .ok a
    | none => .error .invalid

/-- `T | None`. -/
def optional {α : Type} (validate : Validator α) : Validator (Option α)
  | .null => .ok none
  | value => (validate value).map some

def emptyText (most : Nat) : ConStr (lengthRule 0 most) :=
  ⟨[], encodable_nil, Nat.zero_le _, by simp [lengthRule], rfl⟩

section Read

variable (I : Interpreter) (reader : LaxReader)

def runtimeDeviceEntryFields : List String :=
  ["device_id", "registration_id", "provider_companion_id",
    "provider_companion_name", "name", "aliases", "visibility", "capabilities",
    "manifest_revision", "status", "registered_at", "lease_expires_at",
    "last_seen_at", "room_name", "participant_sid", "presence_revision"]

/-- `RuntimeDeviceEntry.model_validate`. -/
def RuntimeDeviceEntry.validate : Validator (RuntimeDeviceEntry I) :=
  validModel fun members =>
    ((required members "device_id" (validStr (lengthRule 1 128))).both
    ((required members "registration_id" (validStr (lengthRule 1 128))).both
    ((withDefault members "provider_companion_id" none
      (optional (validStr (lengthRule 0 128)))).both
    ((withDefault members "provider_companion_name" (emptyText 128)
      (validStr (lengthRule 0 128))).both
    ((withDefault members "name" (emptyText 128)
      (validStr (lengthRule 0 128))).both
    ((withDefault members "aliases" ⟨[], by decide⟩
      (validTuple aliasesRule Wire.anyText.validate)).both
    ((withDefault members "visibility" .owner (validWord
      [("owner", CapabilityVisibility.owner),
        ("bound_companion", .boundCompanion)])).both
    ((withDefault members "capabilities" ⟨[], Nat.zero_le _, rfl⟩
      (validTuple {} (CapabilityDeclaration.validate I reader.integer))).both
    ((required members "manifest_revision" (validStr (lengthRule 1 128))).both
    ((withDefault members "status" .registeredWaitingTransport (validWord
      [("registered_waiting_transport",
        RuntimeDeviceStatus.registeredWaitingTransport),
        ("online", .online)])).both
    ((required members "registered_at" (lax reader.datetime)).both
    ((required members "lease_expires_at" (lax reader.datetime)).both
    ((withDefault members "last_seen_at" none
      (optional (lax reader.datetime))).both
    ((withDefault members "room_name" (emptyText 256)
      (validStr (lengthRule 0 256))).both
    ((withDefault members "participant_sid" (emptyText 128)
      (validStr (lengthRule 0 128))).both
    ((withDefault members "presence_revision" (emptyText 128)
      (validStr (lengthRule 0 128))).both
    (onlyMembers members runtimeDeviceEntryFields))))))))))))))))).map
      fun (device, registration, provider, providerName, name, aliases,
          visibility, capabilities, revision, status, registered, lease, seen,
          room, participant, presence, _) =>
        ⟨device, registration, provider, providerName, name, aliases,
          visibility, capabilities, revision, status, registered, lease, seen,
          room, participant, presence⟩

/-- The values of a dictionary. -/
def validValues {α : Type} (validate : Validator α) :
    Members -> Validated (List (PyStr × α))
  | [] => .ok []
  | (key, value) :: rest =>
      ((validate value).both (validValues validate rest)).map fun (a, as) =>
        (key, a) :: as

def validDevices : Validator (List (PyStr × RuntimeDeviceEntry I))
  | .object members => validValues (RuntimeDeviceEntry.validate I reader) members
  | _ => .error .invalid

def snapshotFields : List String :=
  ["schema_version", "owner_id", "epoch", "revision", "ready",
    "hub_lease_expires_at", "updated_at", "devices"]

/-- `OwnerDeviceBlackboardSnapshot.model_validate`. -/
def OwnerDeviceBlackboardSnapshot.validate :
    Validator (OwnerDeviceBlackboardSnapshot I) :=
  validModel fun members => do
    let (_, owner, epoch, revision, ready, hub, updated, devices, _) ←
      ((withDefault members "schema_version" ()
        (lax fun value => if reader.literal 2 value then some () else none)).both
      ((required members "owner_id" (validStr (lengthRule 1 64))).both
      ((required members "epoch" (validStr (lengthRule 1 128))).both
      ((required members "revision" (lax fun value => do
        let n ← reader.integer value
        if h : 1 ≤ n then some (⟨n, h⟩ : IntFrom 1) else none)).both
      ((withDefault members "ready" false (lax reader.boolean)).both
      ((required members "hub_lease_expires_at" (lax reader.datetime)).both
      ((required members "updated_at" (lax reader.datetime)).both
      ((withDefault members "devices" [] (validDevices I reader)).both
      (onlyMembers members snapshotFields)))))))))
    if h : forall m, m ∈ dictOf devices -> m.fst = m.snd.deviceId.val then
      .ok ⟨owner, epoch, revision, ready, hub, updated, dictOf devices,
        dictOf_keys_nodup devices, h⟩
    else .error .invalid

/-- Both refusals are `ValueError`s. -/
def OwnerDeviceBlackboardSnapshot.fromBytes (value : Bytes)
    (expectedOwnerId : Option PyStr) :
    Validated (OwnerDeviceBlackboardSnapshot I) :=
  match reader.json value with
  | none => .error .invalid
  | some document => do
      let snapshot ← OwnerDeviceBlackboardSnapshot.validate I reader document
      match expectedOwnerId with
      | none => .ok snapshot
      | some expected =>
          if snapshot.ownerId.val ≠ expected then .error .invalid
          else .ok snapshot

end Read

/-!
## What a companion sees
-/

/-- A datetime that knows its offset. -/
abbrev AwareDatetime := { d : Datetime // d.instant.isSome = true }

def AwareDatetime.point (now : AwareDatetime) : Int :=
  now.val.instant.get now.property

section Visibility

variable {I : Interpreter}

/-- A lease that can be compared with an aware clock. -/
def Runs (lease : Datetime) (now : AwareDatetime) : Prop :=
  exists expiry, lease.instant = some expiry ∧ now.point < expiry

structure Visible (entry : RuntimeDeviceEntry I) (requester : PyStr)
    (now : AwareDatetime) : Prop where
  online : entry.status = .online
  lease : Runs entry.leaseExpiresAt now
  provider : exists provider, entry.providerCompanionId = some provider ∧
    provider.val ≠ [] ∧
    (entry.visibility = .owner ∨ provider.val = requester)

/-- The answer is strictly sorted and has exactly the visible entries, if the
snapshot is available, and nothing otherwise. -/
structure Exact (snapshot : OwnerDeviceBlackboardSnapshot I) (requester : PyStr)
    (now : AwareDatetime) (answer : List (RuntimeDeviceEntry I)) : Prop where
  sorted : answer.Pairwise fun a b => a.deviceId.val < b.deviceId.val
  mem_iff : forall entry, entry ∈ answer <->
    snapshot.ready = true ∧ Runs snapshot.hubLeaseExpiresAt now ∧
      entry ∈ snapshot.entries ∧ Visible entry requester now

/-- Every lease the answer depends on is aware. -/
def Comparable (snapshot : OwnerDeviceBlackboardSnapshot I)
    (now : AwareDatetime) : Prop :=
  snapshot.ready = true ->
    snapshot.hubLeaseExpiresAt.instant.isSome = true ∧
    (Runs snapshot.hubLeaseExpiresAt now ->
      forall entry, entry ∈ snapshot.entries -> entry.status = .online ->
        entry.leaseExpiresAt.instant.isSome = true)

variable {requester : PyStr} {now : AwareDatetime}

theorem instant_eq_point : now.val.instant = some now.point :=
  (Option.some_get now.property).symm

theorem later_aware (now : AwareDatetime) {lease : Datetime}
    (h : lease.instant.isSome = true) :
    exists answer, later lease now.val = .ok answer ∧
      (answer = true <-> Runs lease now) := by
  rcases Option.isSome_iff_exists.mp h with ⟨expiry, hexpiry⟩
  refine ⟨decide (now.point < expiry), ?_, ?_⟩
  · unfold later
    rw [hexpiry, instant_eq_point]
    rfl
  · simp [Runs, hexpiry]

theorem later_naive (now : AwareDatetime) {lease : Datetime}
    (h : ¬ lease.instant.isSome = true) :
    later lease now.val = .error .typeError := by
  rw [Option.not_isSome_iff_eq_none] at h
  unfold later
  rw [h, instant_eq_point]
  rfl

/-- Both callers ask for the lease after a condition of their own. -/
theorem gated_aware {p : Prop} [Decidable p] (now : AwareDatetime)
    {lease : Datetime} (h : p -> lease.instant.isSome = true) :
    exists answer,
      (if p then later lease now.val else pure false) = .ok answer ∧
        (answer = true <-> p ∧ Runs lease now) := by
  by_cases hp : p
  · rcases later_aware now (h hp) with ⟨answer, hanswer, hiff⟩
    refine ⟨answer, ?_, ?_⟩
    · rw [if_pos hp]
      exact hanswer
    · rw [hiff, and_iff_right hp]
  · refine ⟨false, if_neg hp, ?_⟩
    exact iff_of_false Bool.false_ne_true fun hall => hp hall.left

theorem gated_naive {p : Prop} [Decidable p] (now : AwareDatetime)
    {lease : Datetime} (hp : p) (h : ¬ lease.instant.isSome = true) :
    (if p then later lease now.val else pure false) = .error .typeError := by
  rw [if_pos hp]
  exact later_naive now h

/-- The loop decides about an entry it can look at. -/
theorem shows_aware {entry : RuntimeDeviceEntry I}
    (h : entry.status = .online -> entry.leaseExpiresAt.instant.isSome = true) :
    exists answer,
      OwnerDeviceBlackboardSnapshot.shows requester now.val entry = .ok answer ∧
        (answer = true <-> Visible entry requester now) := by
  have honline : exists online, entry.isOnline now.val = .ok online ∧
      (online = true <-> entry.status = .online ∧
        Runs entry.leaseExpiresAt now) :=
    gated_aware now h
  rcases honline with ⟨online, hrun, hiff⟩
  unfold OwnerDeviceBlackboardSnapshot.shows
  rw [hrun]
  cases hprovider : entry.providerCompanionId with
  | none =>
      refine ⟨false, rfl, ?_⟩
      apply iff_of_false Bool.false_ne_true
      intro hvisible
      rcases hvisible.provider with ⟨provider, heq, _⟩
      rw [hprovider] at heq
      cases heq
  | some provider =>
      refine ⟨_, rfl, ?_⟩
      rw [Bool.and_eq_true, Bool.and_eq_true, hiff, decide_eq_true_iff,
        Bool.not_eq_true', decide_eq_false_iff_not, not_and, not_not]
      have hvisibility : (entry.visibility = .boundCompanion ->
          provider.val = requester) <->
          entry.visibility = .owner ∨ provider.val = requester := by
        cases entry.visibility with
        | owner => simp
        | boundCompanion => simp
      rw [hvisibility]
      constructor
      · intro hall
        exact ⟨hall.left.left.left, hall.left.left.right, provider, hprovider,
          hall.left.right, hall.right⟩
      · intro hvisible
        rcases hvisible.provider with ⟨provider', heq, hne, hseen⟩
        rw [hprovider] at heq
        cases heq
        exact ⟨⟨⟨hvisible.online, hvisible.lease⟩, hne⟩, hseen⟩

theorem shows_naive {entry : RuntimeDeviceEntry I}
    (hstatus : entry.status = .online)
    (h : ¬ entry.leaseExpiresAt.instant.isSome = true) :
    OwnerDeviceBlackboardSnapshot.shows requester now.val entry =
      .error .typeError := by
  have honline : entry.isOnline now.val = .error .typeError :=
    gated_naive now hstatus h
  unfold OwnerDeviceBlackboardSnapshot.shows
  rw [honline]
  rfl

variable {snapshot : OwnerDeviceBlackboardSnapshot I}

/-- Entries are filed under their ids, and a dictionary has no key twice. -/
theorem entries_distinct :
    DistinctKeys (fun entry => entry.deviceId.val) snapshot.entries := by
  have hkeys : snapshot.devices.map Prod.fst =
      snapshot.devices.map fun m => m.snd.deviceId.val :=
    List.map_congr_left fun m hm => snapshot.keys_match m hm
  have hunique := snapshot.keys_unique
  rw [hkeys] at hunique
  unfold DistinctKeys OwnerDeviceBlackboardSnapshot.entries
  rw [List.pairwise_map]
  exact List.pairwise_map.mp hunique

/-- What the loop keeps, where it looks at every entry. -/
def keeps (requester : PyStr) (now : Datetime) (entry : RuntimeDeviceEntry I) :
    Bool :=
  match OwnerDeviceBlackboardSnapshot.shows requester now entry with
  | .ok answer => answer
  | .error _ => false

def VisibleEntries (snapshot : OwnerDeviceBlackboardSnapshot I)
    (requester : PyStr) (now : AwareDatetime) : List (RuntimeDeviceEntry I) :=
  sortedBy (fun entry => entry.deviceId.val)
    (snapshot.entries.filter (keeps requester now.val))

/-- The leases of the devices that are online are aware. -/
def LeasesAware (snapshot : OwnerDeviceBlackboardSnapshot I) : Prop :=
  forall entry, entry ∈ snapshot.entries -> entry.status = .online ->
    entry.leaseExpiresAt.instant.isSome = true

theorem keeps_iff (h : LeasesAware snapshot) {entry : RuntimeDeviceEntry I}
    (hentry : entry ∈ snapshot.entries) :
    OwnerDeviceBlackboardSnapshot.shows requester now.val entry =
        .ok (keeps requester now.val entry) ∧
      (keeps requester now.val entry = true <-> Visible entry requester now) := by
  rcases shows_aware (h entry hentry) with ⟨answer, hanswer, hiff⟩
  have hkeeps : keeps requester now.val entry = answer := by
    unfold keeps
    rw [hanswer]
  rw [hkeeps]
  exact ⟨hanswer, hiff⟩

theorem visibleEntries_lt :
    (VisibleEntries snapshot requester now).Pairwise fun a b =>
      a.deviceId.val < b.deviceId.val :=
  sortedBy_lt (entries_distinct.filter _)

theorem mem_visibleEntries (h : LeasesAware snapshot)
    {entry : RuntimeDeviceEntry I} :
    entry ∈ VisibleEntries snapshot requester now <->
      entry ∈ snapshot.entries ∧ Visible entry requester now := by
  unfold VisibleEntries
  rw [mem_sortedBy, List.mem_filter]
  apply and_congr_right
  intro hentry
  exact (keeps_iff h hentry).right

theorem isAvailable_aware
    (h : snapshot.ready = true ->
      snapshot.hubLeaseExpiresAt.instant.isSome = true) :
    exists available, snapshot.isAvailable now.val = .ok available ∧
      (available = true <-> snapshot.ready = true ∧
        Runs snapshot.hubLeaseExpiresAt now) :=
  gated_aware now h

/-- The ends of a call: nothing is available, the visible entries, and an
exception over the hub's lease or over an entry's. -/
theorem visibleDevices_unavailable
    (h : snapshot.isAvailable now.val = .ok false) :
    snapshot.visibleDevices requester now.val = .ok [] := by
  unfold OwnerDeviceBlackboardSnapshot.visibleDevices
  rw [h]
  rfl

theorem visibleDevices_available
    (h : snapshot.isAvailable now.val = .ok true)
    (hleases : LeasesAware snapshot) :
    snapshot.visibleDevices requester now.val =
      .ok (VisibleEntries snapshot requester now) := by
  unfold OwnerDeviceBlackboardSnapshot.visibleDevices
  rw [h]
  show (sieve _ snapshot.entries >>= fun visible =>
    pure (sortedBy (fun entry => entry.deviceId.val) visible)) = _
  rw [sieve_eq_filter fun entry hentry => (keeps_iff hleases hentry).left]
  rfl

theorem visibleDevices_hub_naive (hready : snapshot.ready = true)
    (h : ¬ snapshot.hubLeaseExpiresAt.instant.isSome = true) :
    exists e, snapshot.visibleDevices requester now.val = .error e := by
  have hanswer : snapshot.isAvailable now.val = .error .typeError :=
    gated_naive now hready h
  refine ⟨.typeError, ?_⟩
  unfold OwnerDeviceBlackboardSnapshot.visibleDevices
  rw [hanswer]
  rfl

theorem visibleDevices_naive
    (h : snapshot.isAvailable now.val = .ok true)
    (hleases : ¬ LeasesAware snapshot) :
    exists e, snapshot.visibleDevices requester now.val = .error e := by
  simp only [LeasesAware, not_forall] at hleases
  rcases hleases with ⟨entry, hentry, hstatus, hnaive⟩
  have hshows : OwnerDeviceBlackboardSnapshot.shows requester now.val entry =
      .error .typeError := shows_naive hstatus hnaive
  rcases sieve_error hentry hshows with ⟨e, he⟩
  refine ⟨e, ?_⟩
  unfold OwnerDeviceBlackboardSnapshot.visibleDevices
  rw [h]
  show (sieve _ snapshot.entries >>= fun visible =>
    pure (sortedBy (fun entry => entry.deviceId.val) visible)) = _
  rw [he]
  rfl

theorem exact_nil (h : ¬ (snapshot.ready = true ∧
      Runs snapshot.hubLeaseExpiresAt now)) :
    Exact snapshot requester now [] where
  sorted := List.Pairwise.nil
  mem_iff entry := by
    apply iff_of_false (List.not_mem_nil)
    intro hall
    exact h ⟨hall.left, hall.right.left⟩

theorem exact_visibleEntries
    (h : snapshot.ready = true ∧ Runs snapshot.hubLeaseExpiresAt now)
    (hleases : LeasesAware snapshot) :
    Exact snapshot requester now (VisibleEntries snapshot requester now) where
  sorted := visibleEntries_lt
  mem_iff entry := by
    rw [mem_visibleEntries hleases, and_iff_right h.left, and_iff_right h.right]

theorem not_exact_of_error
    (h : exists e, snapshot.visibleDevices requester now.val = .error e) :
    ¬ exists answer, snapshot.visibleDevices requester now.val = .ok answer ∧
      Exact snapshot requester now answer := by
  intro hexact
  rcases h with ⟨e, he⟩
  rcases hexact with ⟨answer, hok, _⟩
  rw [he] at hok
  cases hok

end Visibility

/-- Visibility is exact where the leases it depends on are aware, and fails with
an exception elsewhere. -/
theorem visible_devices_exact_iff (I : Interpreter)
    (snapshot : OwnerDeviceBlackboardSnapshot I) (requester : PyStr)
    (now : AwareDatetime) :
    (exists answer, snapshot.visibleDevices requester now.val = .ok answer ∧
        Exact snapshot requester now answer) <->
      Comparable snapshot now := by
  by_cases hhub : snapshot.ready = true ->
      snapshot.hubLeaseExpiresAt.instant.isSome = true
  · rcases isAvailable_aware hhub with ⟨available, hanswer, hiff⟩
    cases available with
    | false =>
        have hclosed : ¬ (snapshot.ready = true ∧
            Runs snapshot.hubLeaseExpiresAt now) := by
          intro hopen
          cases hiff.mpr hopen
        apply iff_of_true
        · exact ⟨[], visibleDevices_unavailable hanswer, exact_nil hclosed⟩
        · intro hready
          exact ⟨hhub hready, fun hruns => absurd ⟨hready, hruns⟩ hclosed⟩
    | true =>
        have hopen := hiff.mp rfl
        by_cases hleases : LeasesAware snapshot
        · apply iff_of_true
          · exact ⟨_, visibleDevices_available hanswer hleases,
              exact_visibleEntries hopen hleases⟩
          · intro hready
            exact ⟨hhub hready, fun _ => hleases⟩
        · apply iff_of_false
          · exact not_exact_of_error (visibleDevices_naive hanswer hleases)
          · intro h
            exact hleases ((h hopen.left).right hopen.right)
  · rw [Classical.not_imp] at hhub
    apply iff_of_false
    · exact not_exact_of_error (visibleDevices_hub_naive hhub.left hhub.right)
    · intro h
      exact hhub.right (h hhub.left).left

/-!
## Visibility over time

Every lease is compared with the clock in the same direction, so what has expired
for an earlier clock has expired for a later one.
-/

section Time

variable {I : Interpreter} {requester : PyStr} {now now' : AwareDatetime}

theorem Runs.earlier {lease : Datetime} (h : Runs lease now')
    (hnow : now.point ≤ now'.point) : Runs lease now := by
  rcases h with ⟨expiry, hexpiry, hlt⟩
  exact ⟨expiry, hexpiry, lt_of_le_of_lt hnow hlt⟩

theorem Visible.earlier {entry : RuntimeDeviceEntry I}
    (h : Visible entry requester now') (hnow : now.point ≤ now'.point) :
    Visible entry requester now :=
  ⟨h.online, h.lease.earlier hnow, h.provider⟩

variable {snapshot : OwnerDeviceBlackboardSnapshot I}

/-- The answers of two clocks, the later of which has fewer items. -/
theorem Exact.sublist {before after : List (RuntimeDeviceEntry I)}
    (h : Exact snapshot requester now before)
    (h' : Exact snapshot requester now' after) (hnow : now.point ≤ now'.point) :
    after.Sublist before := by
  apply sublist_of_lt h'.sorted h.sorted
  intro entry hentry
  rcases (h'.mem_iff entry).mp hentry with ⟨hready, hhub, hmem, hvisible⟩
  exact (h.mem_iff entry).mpr
    ⟨hready, hhub.earlier hnow, hmem, hvisible.earlier hnow⟩

/-- The timestamps a call compares are aware. -/
structure TimestampsAware (snapshot : OwnerDeviceBlackboardSnapshot I) : Prop where
  hub : snapshot.hubLeaseExpiresAt.instant.isSome = true
  leases : LeasesAware snapshot

theorem TimestampsAware.exact (h : TimestampsAware snapshot) (requester : PyStr)
    (now : AwareDatetime) :
    exists answer, snapshot.visibleDevices requester now.val = .ok answer ∧
      Exact snapshot requester now answer := by
  have havailable : exists available, snapshot.isAvailable now.val = .ok available ∧
      (available = true <-> snapshot.ready = true ∧
        Runs snapshot.hubLeaseExpiresAt now) :=
    isAvailable_aware fun _ => h.hub
  rcases havailable with ⟨available, hanswer, hiff⟩
  cases available with
  | false =>
      exact ⟨[], visibleDevices_unavailable hanswer,
        exact_nil fun hopen => Bool.false_ne_true (hiff.mpr hopen)⟩
  | true =>
      exact ⟨_, visibleDevices_available hanswer h.leases,
        exact_visibleEntries (hiff.mp rfl) h.leases⟩

/-- The entry names a companion that provides it, and lets the requester see it. -/
def Permits (entry : RuntimeDeviceEntry I) (requester : PyStr) : Prop :=
  exists provider, entry.providerCompanionId = some provider ∧ provider.val ≠ [] ∧
    (entry.visibility = .owner ∨ provider.val = requester)

end Time

/-- A clock of this many microseconds, in UTC. -/
def clockAt (micros : Instant) : AwareDatetime :=
  ⟨micros.toDatetime, rfl⟩

/-- A snapshot with one lamp that is online. -/
def lampSnapshot : OwnerDeviceBlackboardSnapshot asciiInterpreter where
  ownerId := ⟨str "owner-1", by decide⟩
  epoch := ⟨str "epoch-1", by decide⟩
  revision := ⟨1, by decide⟩
  ready := true
  hubLeaseExpiresAt := (Instant.toDatetime ⟨1893456000000000, by decide⟩)
  updatedAt := (Instant.toDatetime ⟨1767225600000000, by decide⟩)
  devices := [(str "lamp", {
    deviceId := ⟨str "lamp", by decide⟩
    registrationId := ⟨str "r-1", by decide⟩
    providerCompanionId := some ⟨str "box", by decide⟩
    providerCompanionName := emptyText 128
    name := emptyText 128
    aliases := ⟨[], by decide⟩
    visibility := .owner
    capabilities := ⟨[], Nat.zero_le _, rfl⟩
    manifestRevision := ⟨str "m-1", by decide⟩
    status := .online
    registeredAt := (Instant.toDatetime ⟨1767225600000000, by decide⟩)
    leaseExpiresAt := (Instant.toDatetime ⟨1893456000000000, by decide⟩)
    lastSeenAt := none
    roomName := emptyText 256
    participantSid := emptyText 128
    presenceRevision := emptyText 128 })]
  keys_unique := List.nodup_singleton _
  keys_match := by simp

theorem timestampsAware_lamp : TimestampsAware lampSnapshot where
  hub := rfl
  leases := by
    intro entry hentry _
    rw [List.mem_singleton.mp hentry]
    rfl

def naiveLease : Datetime :=
  ⟨1893456000000000, none, by decide, nofun⟩

/-- A ready snapshot whose times are written without an offset. -/
def sampleBytes : Bytes :=
  (str ("\x7b\"owner_id\":\"owner-1\",\"epoch\":\"epoch-1\",\"revision\":1," ++
    "\"ready\":true,\"hub_lease_expires_at\":\"2030-01-01T00:00:00\"," ++
    "\"updated_at\":\"2030-01-01T00:00:00\"\x7d")).flatMap utf8Char

def sampleReader : LaxReader where
  json _ := some (.object
    [(str "owner_id", .str (str "owner-1")),
      (str "epoch", .str (str "epoch-1")), (str "revision", .int 1),
      (str "ready", .bool true),
      (str "hub_lease_expires_at", .str (str "2030-01-01T00:00:00")),
      (str "updated_at", .str (str "2030-01-01T00:00:00"))])
  integer _ := some 1
  boolean
    | .bool b => some b
    | _ => none
  datetime _ := some naiveLease
  literal n value := value.equalsInt n

/-- The clock of a reader, in UTC. -/
def sampleClock : AwareDatetime :=
  ⟨Instant.toDatetime ⟨1767225600000000, by decide⟩, rfl⟩

theorem naive_lease_raises :
    exists snapshot, OwnerDeviceBlackboardSnapshot.fromBytes asciiInterpreter
        sampleReader sampleBytes none = .ok snapshot ∧
      ¬ exists answer,
        snapshot.visibleDevices (str "box") sampleClock.val = .ok answer := by
  refine ⟨⟨⟨str "owner-1", by decide⟩, ⟨str "epoch-1", by decide⟩,
    ⟨1, by decide⟩, true, naiveLease, naiveLease, [], List.nodup_nil,
    List.forall_mem_nil _⟩, rfl, ?_⟩
  intro h
  rcases h with ⟨answer, h⟩
  cases h

end Body
end EidolonSdk
