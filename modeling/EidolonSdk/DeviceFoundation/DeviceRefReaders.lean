import EidolonSdk.DeviceFoundation.ContractReaders

/-!
# Who accepts a device reference

The outline of a device reference is what no reader goes without.  Inside of it,
Python asks for integers, a schema for the grammar of an Owner Domain, and Dart
for both and for integers of 64 bits.
-/

namespace EidolonSdk
namespace DeviceFoundation

open Python Pydantic Logic Dart

def counterNames : List String :=
  ["owner_domain_generation", "claim_generation", "trust_epoch"]

theorem forall_counterNames {p : String -> Prop} :
    (forall name, name ∈ counterNames -> p name) <->
      p "owner_domain_generation" ∧ p "claim_generation" ∧ p "trust_epoch" := by
  simp [counterNames]

structure DeviceRefOutline (members : Members) : Prop where
  known : members.keys ⊆ DeviceRef.fieldNames.map str
  device : MemberAt members "device_instance_id" (IsText IsDeviceInstanceId)
  owner : MemberAt members "owner_domain_id" (IsText (InNamespace "owner-"))
  counters : forall name, name ∈ counterNames -> MemberAt members name IsCounter

/-- The Owner Domain is written in its grammar. -/
def OwnerInGrammar (members : Members) : Prop :=
  MemberIf members "owner_domain_id" fun value =>
    forall s, value = .str s -> matchesNamespace "owner-" s = true

/-- The counters have the property. -/
def CountersAre (members : Members) (p : Json -> Prop) : Prop :=
  forall name, name ∈ counterNames -> MemberIf members name p

/-!
## Owner Domains
-/

section Owner

variable {s : PyStr} {value : Json}

theorem ownerNamespace_ascii : AsciiOnly (matchesNamespace "owner-") :=
  matchesNamespace_ascii (by decide)

/-- The grammar asks for more than the prefix. -/
theorem startsWith_of_matches (h : matchesNamespace "owner-" s = true) :
    startsWith s (str "owner-") = true ∧ 7 ≤ s.length := by
  rcases Bool.and_eq_true_iff.mp h with ⟨hstart, hidentifier⟩
  have hrest : 1 ≤ (s.drop 6).length := by
    apply List.length_pos_iff.mpr
    intro hnil
    have hempty : s.drop "owner-".length = [] := hnil
    rw [hempty] at hidentifier
    cases hidentifier
  rw [List.length_drop] at hrest
  exact ⟨hstart, by omega⟩

theorem admits_owner :
    CommonSchemas.ownerDomainIdText.Admits s <->
      InNamespace "owner-" s ∧ matchesNamespace "owner-" s = true := by
  unfold JsonSchema.Text.Admits CommonSchemas.ownerDomainIdText InNamespace
  rw [Option.all_some, decide_eq_true_iff]
  constructor
  · intro h
    rcases h with ⟨hleast, hmost, hpattern⟩
    exact ⟨⟨hleast, hmost, (startsWith_of_matches hpattern).left⟩, hpattern⟩
  · intro h
    exact ⟨h.left.left, h.left.right.left, h.right⟩

theorem parses_owner :
    ((s ≠ [] ∧ Dart.length s ≤ 128) ∧ matchesNamespace "owner-" s = true) <->
      InNamespace "owner-" s ∧ matchesNamespace "owner-" s = true := by
  apply and_congr_left
  intro hpattern
  rcases startsWith_of_matches hpattern with ⟨hstart, hlength⟩
  rw [ownerNamespace_ascii.length_eq hpattern]
  constructor
  · intro h
    exact ⟨by omega, h.right, hstart⟩
  · intro h
    refine ⟨?_, h.right.left⟩
    intro hnil
    rw [hnil] at hlength
    cases hlength

theorem validNominal_ok_iff {word : String} {id : NominalId word} :
    validNominal word value = .ok id <-> value = .str id.val := by
  constructor
  · intro h
    cases value with
    | str t =>
        simp only [validNominal] at h
        split at h
        · rw [← Except.ok.inj h]
        · cases h
    | null => cases h
    | bool b => cases h
    | int n => cases h
    | float x => cases h
    | array items => cases h
    | object members => cases h
  · intro h
    rw [h]
    exact validNominal_val id

theorem accepts_nominal {word : String} :
    Accepts (validNominal word value) <-> IsText (InNamespace word) value := by
  constructor
  · intro h
    rcases h with ⟨id, hid⟩
    exact ⟨id.val, validNominal_ok_iff.mp hid, id.property⟩
  · intro h
    rcases h with ⟨s, heq, hs⟩
    exact ⟨⟨s, hs⟩, validNominal_ok_iff.mpr heq⟩

end Owner

/-!
## The three readers
-/

section Readers

variable {members : Members}

theorem DeviceRefV1.fromMap_eq_ok {ref : DeviceRefV1} :
    DeviceRefV1.fromMap members = .ok ref <->
      (members.keys ⊆ DeviceRef.fieldNames.map str ∧
        DeviceRef.fieldNames.map str ⊆ members.keys) ∧
      positive? (members.getOrNone "owner_domain_generation") =
        some ref.ownerDomainGeneration ∧
      positive? (members.getOrNone "claim_generation") =
        some ref.claimGeneration ∧
      positive? (members.getOrNone "trust_epoch") = some ref.trustEpoch ∧
      DeviceInstanceIdV1.parse (members.getOrNone "device_instance_id") =
        .ok ref.deviceInstanceId ∧
      OwnerDomainIdV1.parse (members.getOrNone "owner_domain_id") =
        .ok ref.ownerDomainId := by
  unfold DeviceRefV1.fromMap
  simp only [bind_eq_ok, exactKeys_eq_ok, orThrow_eq_ok]
  constructor
  · intro h
    rcases h with ⟨_, hkeys, domain, hdomain, claim, hclaim, epoch, hepoch,
      device, hdevice, owner, howner, heq⟩
    cases heq
    exact ⟨hkeys, hdomain, hclaim, hepoch, hdevice, howner⟩
  · intro h
    rcases h with ⟨hkeys, hdomain, hclaim, hepoch, hdevice, howner⟩
    exact ⟨(), hkeys, _, hdomain, _, hclaim, _, hepoch, _, hdevice, _, howner,
      rfl⟩

/-- What the readers decide, put together from the members. -/
theorem deviceRef_reads {owner counter ownerPoint counterPoint : Json -> Prop}
    (howner : forall value,
      Reads (owner value) (IsText (InNamespace "owner-") value)
        (ownerPoint value))
    (hcounter : forall value,
      Reads (counter value) (IsCounter value) (counterPoint value)) :
    Reads
      (members.keys ⊆ DeviceRef.fieldNames.map str ∧
        MemberAt members "device_instance_id" (IsText IsDeviceInstanceId) ∧
        MemberAt members "owner_domain_id" owner ∧
        forall name, name ∈ counterNames -> MemberAt members name counter)
      (DeviceRefOutline members)
      (MemberIf members "owner_domain_id" ownerPoint ∧
        CountersAre members counterPoint) := by
  have hnames : Reads _ _ (CountersAre members counterPoint) :=
    Reads.forall fun name _ => memberAt_reads hcounter
  have hparts :=
    (@memberAt_reads members "owner_domain_id" _ _ _ howner).and hnames
  constructor
  · intro h
    rcases h with ⟨hknown, hdevice, howner, hcounters⟩
    rcases hparts.mp ⟨howner, hcounters⟩ with ⟨⟨howner, hcounters⟩, hpoints⟩
    exact ⟨⟨hknown, hdevice, howner, hcounters⟩, hpoints⟩
  · intro h
    rcases h with ⟨houtline, hpoints⟩
    rcases hparts.mpr ⟨⟨houtline.owner, houtline.counters⟩, hpoints⟩ with
      ⟨howner, hcounters⟩
    exact ⟨houtline.known, houtline.device, howner, hcounters⟩

theorem deviceRef_python_reads :
    Reads (Accepts (DeviceRef.validate (.object members)))
      (DeviceRefOutline members) (CountersAre members Spelled) := by
  have hparts := @deviceRef_reads members _ _ (fun _ => True) _
    (fun _ => Reads.of_outline accepts_nominal) (fun _ => accepts_counter)
  have hdevice : forall value,
      Accepts (validStr deviceInstanceIdRule value) <->
        IsText IsDeviceInstanceId value := fun _ =>
    accepts_text.trans (isText_congr fun _ => accepts_deviceInstanceId)
  have haccepts : Accepts (DeviceRef.validate (.object members)) <->
      members.keys ⊆ DeviceRef.fieldNames.map str ∧
        MemberAt members "device_instance_id" (IsText IsDeviceInstanceId) ∧
        MemberAt members "owner_domain_id"
          (fun value => Accepts (validNominal "owner-" value)) ∧
        forall name, name ∈ counterNames ->
          MemberAt members name fun value => Accepts (validInt 1 value) := by
    rw [← memberAt_congr hdevice, forall_counterNames]
    unfold DeviceRef.validate validModel
    rw [accepts_map]
    simp only [accepts_both, accepts_required, accepts_onlyMembers]
    constructor
    · intro h
      rcases h with ⟨hdevice, howner, hdomain, hclaim, hepoch, hknown⟩
      exact ⟨hknown, hdevice, howner, hdomain, hclaim, hepoch⟩
    · intro h
      rcases h with ⟨hknown, hdevice, howner, hdomain, hclaim, hepoch⟩
      exact ⟨hdevice, howner, hdomain, hclaim, hepoch, hknown⟩
  exact haccepts.trans (hparts.trans (and_congr_right fun _ =>
    and_iff_right fun _ _ => trivial))

theorem deviceRef_schema_reads :
    Reads (CommonSchemas.deviceRef (.object members) = true)
      (DeviceRefOutline members) (OwnerInGrammar members) := by
  have howner : forall value,
      Reads (JsonSchema.string CommonSchemas.ownerDomainIdText value = true)
        (IsText (InNamespace "owner-") value)
        (forall s, value = .str s -> matchesNamespace "owner-" s = true) :=
    fun _ => JsonSchema.string_iff.trans (isText_reads fun _ => admits_owner)
  have hparts := @deviceRef_reads members _ _ _ (fun _ => True) howner
    (fun _ => Reads.of_outline integer_one_iff)
  have hdevice : forall value,
      JsonSchema.string CommonSchemas.deviceInstanceIdText value = true <->
        IsText IsDeviceInstanceId value := fun _ =>
    JsonSchema.string_iff.trans
      (isText_congr fun _ => admits_deviceInstanceId)
  have haccepts : CommonSchemas.deviceRef (.object members) = true <->
      members.keys ⊆ DeviceRef.fieldNames.map str ∧
        MemberAt members "device_instance_id" (IsText IsDeviceInstanceId) ∧
        MemberAt members "owner_domain_id"
          (fun value =>
            JsonSchema.string CommonSchemas.ownerDomainIdText value = true) ∧
        forall name, name ∈ counterNames ->
          MemberAt members name fun value =>
            JsonSchema.integer 1 none value = true := by
    rw [← memberAt_congr hdevice, forall_counterNames]
    unfold CommonSchemas.deviceRef
    rw [JsonSchema.object_iff]
    simp only [List.forall_mem_cons, List.not_mem_nil, false_imp_iff,
      implies_true, and_true, JsonSchema.Property.required_iff]
    exact and_comm
  exact haccepts.trans (hparts.trans (and_congr_right fun _ =>
    and_iff_left fun _ _ _ _ => trivial))

theorem deviceRef_dart_reads :
    Reads (exists ref, DeviceRefV1.fromJson (.object members) = .ok ref)
      (DeviceRefOutline members)
      (OwnerInGrammar members ∧
        CountersAre members fun value => Spelled value ∧ Narrow value) := by
  have howner : forall value,
      Reads (exists s, OwnerDomainIdV1.parse value = .ok s)
        (IsText (InNamespace "owner-") value)
        (forall s, value = .str s -> matchesNamespace "owner-" s = true) :=
    fun _ => patternText_ok.trans (isText_reads fun _ => parses_owner)
  have hparts := @deviceRef_reads members _ _ _ _ howner
    (fun _ => positive?_reads)
  have hdevice : forall value,
      (exists s, DeviceInstanceIdV1.parse value = .ok s) <->
        IsText IsDeviceInstanceId value := fun _ =>
    patternText_ok.trans
      (isText_congr fun _ => parses_deviceInstanceId)
  have haccepts : (exists ref, DeviceRefV1.fromJson (.object members) = .ok ref) <->
      members.keys ⊆ DeviceRef.fieldNames.map str ∧
        MemberAt members "device_instance_id" (IsText IsDeviceInstanceId) ∧
        MemberAt members "owner_domain_id"
          (fun value => exists s, OwnerDomainIdV1.parse value = .ok s) ∧
        forall name, name ∈ counterNames ->
          MemberAt members name fun value =>
            exists n, positive? value = some n := by
    have hcounter : forall name,
        (exists n, positive? (members.getOrNone name) = some n) <->
          MemberAt members name fun value => exists n, positive? value = some n :=
      fun name => @memberAt_getOrNone members name
        (fun value => exists n, positive? value = some n) (fun ⟨_, h⟩ => nomatch h)
    have hid := @memberAt_getOrNone members "device_instance_id"
      (fun value => exists s, DeviceInstanceIdV1.parse value = .ok s)
      (fun ⟨_, h⟩ => nomatch h)
    have howner := @memberAt_getOrNone members "owner_domain_id"
      (fun value => exists s, OwnerDomainIdV1.parse value = .ok s)
      (fun ⟨_, h⟩ => nomatch h)
    rw [← memberAt_congr hdevice, forall_counterNames]
    constructor
    · intro h
      rcases h with ⟨ref, h⟩
      rcases DeviceRefV1.fromMap_eq_ok.mp h with
        ⟨⟨hknown, _⟩, hdomain, hclaim, hepoch, hdevice, hread⟩
      exact ⟨hknown, hid.mp ⟨_, hdevice⟩, howner.mp ⟨_, hread⟩,
        (hcounter _).mp ⟨_, hdomain⟩, (hcounter _).mp ⟨_, hclaim⟩,
        (hcounter _).mp ⟨_, hepoch⟩⟩
    · intro h
      rcases h with ⟨hknown, hdeviceAt, hownerAt, hdomainAt, hclaimAt, hepochAt⟩
      rcases hid.mpr hdeviceAt with ⟨device, hread⟩
      rcases howner.mpr hownerAt with ⟨owner, hownerRead⟩
      rcases (hcounter _).mpr hdomainAt with ⟨domain, hdomain⟩
      rcases (hcounter _).mpr hclaimAt with ⟨claim, hclaim⟩
      rcases (hcounter _).mpr hepochAt with ⟨epoch, hepoch⟩
      refine ⟨⟨device, owner, domain, claim, epoch⟩,
        DeviceRefV1.fromMap_eq_ok.mpr ⟨⟨hknown, ?_⟩, hdomain, hclaim, hepoch,
          hread, hownerRead⟩⟩
      simp only [DeviceRef.fieldNames, List.map_cons, List.map_nil,
        List.cons_subset, List.nil_subset, and_true]
      exact ⟨hdeviceAt.mem_keys, hownerAt.mem_keys, hdomainAt.mem_keys,
        hclaimAt.mem_keys, hepochAt.mem_keys⟩
  exact haccepts.trans hparts

/-!
## Agreement
-/

/-- What Python holds, as Dart holds it. -/
def DeviceRef.inDart (ref : DeviceRef) : DeviceRefV1 :=
  ⟨ref.deviceInstanceId.val, ref.ownerDomainId.val,
    ref.ownerDomainGeneration.val, ref.claimGeneration.val, ref.trustEpoch.val⟩

theorem DeviceRef.validate_get {ref : DeviceRef}
    (h : DeviceRef.validate (.object members) = .ok ref) :
    members.get "device_instance_id" = some (.str ref.deviceInstanceId.val) ∧
      members.get "owner_domain_id" = some (.str ref.ownerDomainId.val) ∧
      members.get "owner_domain_generation" =
        some (.int ref.ownerDomainGeneration.val) ∧
      members.get "claim_generation" = some (.int ref.claimGeneration.val) ∧
      members.get "trust_epoch" = some (.int ref.trustEpoch.val) := by
  rcases Validated.map_eq_ok.mp h with
    ⟨⟨device, owner, domain, claim, epoch, _⟩, hfields, heq⟩
  subst heq
  simp only [Validated.both_eq_ok, required_eq_ok, validStr_ok_iff,
    validNominal_ok_iff, validInt_ok_iff, exists_eq_right] at hfields
  exact ⟨hfields.left, hfields.right.left, hfields.right.right.left,
    hfields.right.right.right.left, hfields.right.right.right.right.left⟩

/-- Both bindings hold the members of the document. -/
theorem deviceRef_values_eq {ref : DeviceRef} {ref' : DeviceRefV1}
    (h : DeviceRef.validate (.object members) = .ok ref)
    (h' : DeviceRefV1.fromJson (.object members) = .ok ref') :
    ref' = ref.inDart := by
  rcases DeviceRef.validate_get h with ⟨hdevice, howner, hdomain, hclaim, hepoch⟩
  rcases DeviceRefV1.fromMap_eq_ok.mp h' with
    ⟨_, hdomain', hclaim', hepoch', hdevice', howner'⟩
  rw [positive?_eq_some, getOrNone_int] at hdomain' hclaim' hepoch'
  have hdevice'' := getOrNone_str.mp (patternText_eq_ok.mp hdevice').left
  have howner'' := getOrNone_str.mp (patternText_eq_ok.mp howner').left
  apply DeviceRefV1.ext
  · exact Json.str.inj (Option.some.inj (hdevice''.symm.trans hdevice))
  · exact Json.str.inj (Option.some.inj (howner''.symm.trans howner))
  · exact Json.int.inj (Option.some.inj (hdomain'.left.symm.trans hdomain))
  · exact Json.int.inj (Option.some.inj (hclaim'.left.symm.trans hclaim))
  · exact Json.int.inj (Option.some.inj (hepoch'.left.symm.trans hepoch))

end Readers

/-- The three readers decide alike, and the bindings hold the same values. -/
def DeviceRefReadersAgree (value : Json) : Prop :=
  ((Accepts (DeviceRef.validate value) <->
      exists ref, DeviceRefV1.fromJson value = .ok ref) ∧
    (Accepts (DeviceRef.validate value) <->
      CommonSchemas.deviceRef value = true)) ∧
  forall ref ref', DeviceRef.validate value = .ok ref ->
    DeviceRefV1.fromJson value = .ok ref' -> ref' = ref.inDart

/-- The three of them decide alike about the string of an Owner Domain. -/
def OwnerDomainIdReadersAgree (s : PyStr) : Prop :=
  (Accepts (validNominal "owner-" (.str s)) <->
      exists owner, OwnerDomainIdV1.parse (.str s) = .ok owner) ∧
    (Accepts (validNominal "owner-" (.str s)) <->
      JsonSchema.string CommonSchemas.ownerDomainIdText (.str s) = true)

theorem deviceRef_refused {value : Json}
    (h : forall members, value ≠ .object members) :
    ¬ Accepts (DeviceRef.validate value) ∧
      (¬ exists ref, DeviceRefV1.fromJson value = .ok ref) ∧
      ¬ CommonSchemas.deviceRef value = true := by
  refine ⟨?_, ?_, ?_⟩
  · intro haccepts
    rcases accepts_validModel.mp haccepts with ⟨members, heq, _⟩
    exact h members heq
  · intro haccepts
    rcases haccepts with ⟨ref, href⟩
    rcases fromObject_eq_ok.mp href with ⟨members, heq, _⟩
    exact h members heq
  · intro haccepts
    rcases JsonSchema.object_is_object haccepts with ⟨members, heq⟩
    exact h members heq

theorem owner_readers_agree_iff (s : PyStr) :
    OwnerDomainIdReadersAgree s <->
      (InNamespace "owner-" s -> matchesNamespace "owner-" s = true) := by
  have htext : forall p : PyStr -> Prop, IsText p (.str s) <-> p s := by
    intro p
    simp [IsText]
  unfold OwnerDomainIdReadersAgree OwnerDomainIdV1.parse
  rw [accepts_nominal, patternText_ok, JsonSchema.string_iff]
  change (IsText _ _ <-> IsText _ _) ∧ (IsText _ _ <-> IsText _ _) <-> _
  rw [htext, htext, htext, parses_owner, admits_owner]
  tauto

/-- The readers agree on a document unless an Owner Domain has the prefix and
not the grammar, or a counter is a whole number that is spelled as a float or
does not fit 64 bits. -/
theorem device_ref_readers_agree_iff (value : Json) (s : PyStr) :
    (DeviceRefReadersAgree value <->
      forall members, value = .object members -> DeviceRefOutline members ->
        (OwnerInGrammar members ∧ CountersAre members Spelled ∧
            CountersAre members Narrow) ∨
          (¬ OwnerInGrammar members ∧ ¬ CountersAre members Spelled)) ∧
    (OwnerDomainIdReadersAgree s <->
      (InNamespace "owner-" s -> matchesNamespace "owner-" s = true)) := by
  refine ⟨?_, owner_readers_agree_iff s⟩
  by_cases hobject : exists members, value = .object members
  · rcases hobject with ⟨members, rfl⟩
    have hagree := (@deviceRef_python_reads members).agree_three
      deviceRef_dart_reads deviceRef_schema_reads
    have hsplit : CountersAre members (fun v => Spelled v ∧ Narrow v) <->
        CountersAre members Spelled ∧ CountersAre members Narrow := by
      simp only [CountersAre, MemberIf, forall_and]
    unfold DeviceRefReadersAgree
    rw [and_iff_left fun ref ref' h h' => deviceRef_values_eq h h', hagree,
      hsplit]
    constructor
    · intro h members' heq houtline
      cases heq
      rcases h houtline with hall | hnone
      · rcases hall with ⟨hspelled, ⟨hgrammar, _, hnarrow⟩, _⟩
        exact Or.inl ⟨hgrammar, hspelled, hnarrow⟩
      · exact Or.inr ⟨hnone.right.right, hnone.left⟩
    · intro h houtline
      rcases h members rfl houtline with hall | hnone
      · rcases hall with ⟨hgrammar, hspelled, hnarrow⟩
        exact Or.inl ⟨hspelled, ⟨hgrammar, hspelled, hnarrow⟩, hgrammar⟩
      · exact Or.inr ⟨hnone.right, fun hdart => hnone.left hdart.left,
          hnone.left⟩
  · have hnone : forall members, value ≠ .object members := fun members heq =>
      hobject ⟨members, heq⟩
    rcases deviceRef_refused hnone with ⟨hpython, hdart, hschema⟩
    apply iff_of_true
    · exact ⟨⟨iff_of_false hpython hdart, iff_of_false hpython hschema⟩,
        fun ref _ href => absurd ⟨ref, href⟩ hpython⟩
    · intro members heq
      exact absurd heq (hnone members)

/-- A reference whose Owner Domain is the bare prefix. -/
def barePrefix : Json :=
  .object
    [(str "device_instance_id",
        .str (str "device-instance-" ++ List.replicate 64 0x61)),
      (str "owner_domain_id", .str (str "owner-")),
      (str "owner_domain_generation", .int 1),
      (str "claim_generation", .int 1),
      (str "trust_epoch", .int 1)]

theorem bare_prefix_known_to_python_only :
    (exists ref, DeviceRef.validate barePrefix = .ok ref) ∧
      DeviceRefV1.fromJson barePrefix = .error (.formatException
        "Business Owner ID is not an Owner Domain ID") ∧
      CommonSchemas.deviceRef barePrefix = false ∧
      ¬ OwnerDomainIdReadersAgree (str "owner-") := by
  refine ⟨?_, by decide, by decide, ?_⟩
  · exact ⟨⟨⟨str "device-instance-" ++ List.replicate 64 0x61, by decide⟩,
      ⟨str "owner-", by decide⟩, ⟨1, by decide⟩, ⟨1, by decide⟩,
      ⟨1, by decide⟩⟩, by decide⟩
  · intro h
    rcases h.left.mp ⟨⟨str "owner-", by decide⟩, by decide⟩ with
      ⟨owner, howner⟩
    have hpattern := (patternText_eq_ok.mp howner).right.right
    rw [← Json.str.inj (patternText_eq_ok.mp howner).left] at hpattern
    revert hpattern
    decide

end DeviceFoundation
end EidolonSdk
