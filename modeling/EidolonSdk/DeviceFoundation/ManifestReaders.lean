import EidolonSdk.DeviceFoundation.ContractReaders
import EidolonSdk.DeviceFoundation.Manifest

/-!
# Who accepts a capability manifest

A manifest is read by the Python model and by a validator of its schema.  They
ask for the same members and the same bounds, at every depth; they part where
the schema wants a name to say something, where it takes a number as JSON and
not as Python has it, and where Python takes a member by its field name.
-/

namespace EidolonSdk
namespace DeviceFoundation

open Python Pydantic Logic

/-!
## Exact objects
-/

section AcceptsObject

variable {members : Members}

theorem Member.found_single {name : String} {required : Bool}
    {check : Json -> Bool} {n : String} :
    Member.found { names := [name], required, check } members = some n <->
      n = name ∧ str name ∈ members.keys := by
  rw [← Members.get_isSome]
  unfold Member.found
  cases hfound : (members.get name).isSome with
  | true => simp [hfound, eq_comm]
  | false => simp [hfound]

theorem Member.holds_single {name : String} {required : Bool}
    {check : Json -> Bool} :
    Member.holds { names := [name], required, check } members =
      match members.get name with
      | some value => check value
      | none => !required := by
  unfold Member.holds Member.found
  cases hget : members.get name with
  | none => simp [hget]
  | some value => simp [hget]

theorem Member.required_iff {name : String} {check : Json -> Bool} :
    Member.holds { names := [name], check } members = true <->
      MemberAt members name fun value => check value = true := by
  rw [Member.holds_single]
  unfold MemberAt
  cases members.get name with
  | none => simp
  | some value => simp

theorem Member.optional_iff {name : String} {check : Json -> Bool} :
    Member.holds { names := [name], required := false, check } members = true <->
      MemberIf members name fun value => check value = true := by
  rw [Member.holds_single]
  unfold MemberIf
  cases members.get name with
  | none => simp
  | some value => simp

theorem acceptsObject_iff {fields : List Member} :
    acceptsObject fields (.object members) = true <->
      (forall field, field ∈ fields -> field.holds members = true) ∧
        forall key, key ∈ members.keys ->
          exists field, field ∈ fields ∧ exists name,
            field.found members = some name ∧ str name = key := by
  simp [acceptsObject, Members.keys, Option.any_eq_true]

theorem acceptsObject_is_object {fields : List Member} {value : Json}
    (h : acceptsObject fields value = true) :
    exists members, value = .object members := by
  cases value with
  | object members => exact ⟨members, rfl⟩
  | null => cases h
  | bool b => cases h
  | int n => cases h
  | float x => cases h
  | str s => cases h
  | array items => cases h

/-- Where every member goes by one name, no other name may occur. -/
theorem acceptsObject_single {fields : List Member} {names : List String}
    (hnames : fields.map Member.names = names.map fun name => [name]) :
    acceptsObject fields (.object members) = true <->
      members.keys ⊆ names.map str ∧
        forall field, field ∈ fields -> field.holds members = true := by
  rw [acceptsObject_iff, and_comm]
  apply and_congr_left
  intro _
  constructor
  · intro h key hkey
    rcases h key hkey with ⟨field, hfield, name, hfound, heq⟩
    have hmem := List.mem_map_of_mem (f := Member.names) hfield
    rw [hnames] at hmem
    rcases List.mem_map.mp hmem with ⟨own, hown, hsingle⟩
    have hname : name = own := by
      rcases field with ⟨_, _, _⟩
      cases hsingle
      exact (Member.found_single.mp hfound).left
    exact List.mem_map.mpr ⟨own, hown, hname ▸ heq⟩
  · intro h key hkey
    rcases List.mem_map.mp (h hkey) with ⟨name, hname, heq⟩
    have hmem : [name] ∈ fields.map Member.names := by
      rw [hnames]
      exact List.mem_map_of_mem (f := fun name => [name]) hname
    rcases List.mem_map.mp hmem with ⟨field, hfield, hsingle⟩
    refine ⟨field, hfield, name, ?_, heq⟩
    rcases field with ⟨_, _, _⟩
    cases hsingle
    exact Member.found_single.mpr ⟨rfl, heq ▸ hkey⟩

end AcceptsObject

/-!
## Values of a manifest
-/

def IsArray (most : Nat) (p : Json -> Prop) (value : Json) : Prop :=
  exists items, value = .array items ∧ items.length ≤ most ∧
    forall item, item ∈ items -> p item

def IsObject (p : Members -> Prop) (value : Json) : Prop :=
  exists members, value = .object members ∧ p members

/-- Whatever is in the array has the property. -/
def EachItem (p : Json -> Prop) (value : Json) : Prop :=
  forall items, value = .array items -> forall item, item ∈ items -> p item

def IsBool (value : Json) : Prop :=
  exists b, value = .bool b

def IsDict (value : Json) : Prop :=
  IsObject (fun _ => True) value

/-- A version of an action, however it is spelled. -/
def IsVersion (value : Json) : Prop :=
  exists n, value.whole? = some n ∧ 1 ≤ n ∧ n ≤ 65535

/-- One, or what Python compares equal with it. -/
def IsOne (value : Json) : Prop :=
  value.equalsInt 1 = true

section Values

variable {value : Json}

theorem array_reads {check : Json -> Bool} {p a : Json -> Prop} {most : Nat}
    (h : forall item, Reads (check item = true) (p item) (a item)) :
    Reads (IsArray most (fun item => check item = true) value)
      (IsArray most p value) (EachItem a value) := by
  apply Reads.within fun _ _ => Json.array.inj
  intro items
  have hitems := @Reads.forall _ (fun item => item ∈ items) _ _ _ fun item _ =>
    h item
  constructor
  · intro hchecked
    rcases hitems.mp hchecked.right with ⟨hp, ha⟩
    exact ⟨⟨hchecked.left, hp⟩, ha⟩
  · intro hp
    exact ⟨hp.left.left, hitems.mpr ⟨hp.left.right, hp.right⟩⟩

theorem acceptsArray_iff {check : Json -> Bool} {most : Nat} :
    acceptsArray most check value = true <->
      IsArray most (fun item => check item = true) value := by
  cases value with
  | array items => simp [acceptsArray, IsArray]
  | null => simp [acceptsArray, IsArray]
  | bool b => simp [acceptsArray, IsArray]
  | int n => simp [acceptsArray, IsArray]
  | float x => simp [acceptsArray, IsArray]
  | str s => simp [acceptsArray, IsArray]
  | object members => simp [acceptsArray, IsArray]

theorem object_reads {check : Json -> Bool} {p a : Members -> Prop}
    (hobject : check value = true -> exists members, value = .object members)
    (h : forall members, Reads (check (.object members) = true) (p members)
      (a members)) :
    Reads (check value = true) (IsObject p value)
      (forall members, value = .object members -> a members) := by
  have hwithin := @Reads.within _ _ Json.object (fun _ _ => Json.object.inj) _ _ _
    value h
  refine Iff.trans ?_ hwithin
  constructor
  · intro hcheck
    rcases hobject hcheck with ⟨members, heq⟩
    exact ⟨members, heq, heq ▸ hcheck⟩
  · intro hcheck
    rcases hcheck with ⟨members, heq, hcheck⟩
    rw [heq]
    exact hcheck

theorem acceptsStr_iff {rule : StrRule} :
    acceptsStr rule value = true <-> IsText rule.Accepts value := by
  cases value with
  | str s => simp [acceptsStr, IsText]
  | null => exact iff_of_false Bool.false_ne_true (not_isText fun _ h => by cases h)
  | bool b => exact iff_of_false Bool.false_ne_true (not_isText fun _ h => by cases h)
  | int n => exact iff_of_false Bool.false_ne_true (not_isText fun _ h => by cases h)
  | float x => exact iff_of_false Bool.false_ne_true (not_isText fun _ h => by cases h)
  | array items => exact iff_of_false Bool.false_ne_true (not_isText fun _ h => by cases h)
  | object members => exact iff_of_false Bool.false_ne_true (not_isText fun _ h => by cases h)

theorem acceptsBool_iff : acceptsBool value = true <-> IsBool value := by
  cases value with
  | bool b => exact iff_of_true rfl ⟨b, rfl⟩
  | null => exact iff_of_false nofun nofun
  | str s => exact iff_of_false nofun nofun
  | int n => exact iff_of_false nofun nofun
  | float x => exact iff_of_false nofun nofun
  | array items => exact iff_of_false nofun nofun
  | object members => exact iff_of_false nofun nofun

theorem acceptsDict_iff : acceptsDict value = true <-> IsDict value := by
  cases value with
  | object members => exact iff_of_true rfl ⟨members, rfl, trivial⟩
  | null => exact iff_of_false nofun nofun
  | str s => exact iff_of_false nofun nofun
  | int n => exact iff_of_false nofun nofun
  | float x => exact iff_of_false nofun nofun
  | array items => exact iff_of_false nofun nofun
  | bool b => exact iff_of_false nofun nofun

theorem acceptsText_iff :
    acceptsText value = true <-> IsText (fun _ => True) value := by
  cases value with
  | str s => exact iff_of_true rfl ⟨s, rfl, trivial⟩
  | null => exact iff_of_false nofun nofun
  | bool b => exact iff_of_false nofun nofun
  | int n => exact iff_of_false nofun nofun
  | float x => exact iff_of_false nofun nofun
  | array items => exact iff_of_false nofun nofun
  | object members => exact iff_of_false nofun nofun

theorem acceptsWord_iff {words : List String} :
    acceptsWord words value = true <-> IsWord words value :=
  enum_isWord

/-- The version as Python takes it. -/
theorem acceptsVersion_reads :
    Reads (acceptsIntBetween 1 65535 value = true) (IsVersion value)
      (Spelled value) := by
  cases value with
  | int n =>
      unfold Reads IsVersion Spelled
      rw [Json.whole_int]
      simp [acceptsIntBetween]
  | null => exact iff_of_false nofun fun h => nomatch h.right
  | bool b => exact iff_of_false nofun fun h => nomatch h.right
  | float x => exact iff_of_false nofun fun h => nomatch h.right
  | str s => exact iff_of_false nofun fun h => nomatch h.right
  | array items => exact iff_of_false nofun fun h => nomatch h.right
  | object members => exact iff_of_false nofun fun h => nomatch h.right

theorem integer_version_iff :
    JsonSchema.integer 1 (some 65535) value = true <-> IsVersion value := by
  rw [JsonSchema.integer_iff]
  simp [IsVersion]

/-- Only the truth value is one in Python and not in JSON. -/
theorem constInteger_one_reads :
    Reads (JsonSchema.constInteger 1 value = true) (IsOne value)
      (value ≠ .bool true) := by
  have hscaled : forall {scaled : Int}, value.number? = some scaled ->
      value.hashKey = some (.number scaled) ->
        (JsonSchema.constInteger 1 value = true <-> IsOne value) := by
    intro scaled hnumber hkey
    unfold JsonSchema.constInteger IsOne Json.equalsInt
    rw [beq_iff_eq, Json.whole_scaled hnumber, hkey, beq_iff_eq,
      Option.some.injEq, Json.HashKey.number.injEq]
  cases value with
  | int n => exact (hscaled rfl rfl).trans (and_iff_left fun h => by cases h).symm
  | float x =>
      cases x with
      | finite negative magnitude h =>
          exact (hscaled rfl rfl).trans (and_iff_left fun h => by cases h).symm
      | infinite negative =>
          exact iff_of_false Bool.false_ne_true fun h => Bool.false_ne_true h.left
      | nan => exact iff_of_false Bool.false_ne_true fun h => Bool.false_ne_true h.left
  | bool b =>
      cases b with
      | false =>
          have hzero : (Json.bool false).equalsInt 1 = false := by decide +kernel
          exact iff_of_false (fun h => by cases h) fun h => by
            rw [IsOne, hzero] at h
            exact Bool.false_ne_true h.left
      | true => exact iff_of_false (fun h => by cases h) fun h => h.right rfl
  | null => exact iff_of_false Bool.false_ne_true fun h => Bool.false_ne_true h.left
  | str s => exact iff_of_false Bool.false_ne_true fun h => Bool.false_ne_true h.left
  | array items => exact iff_of_false Bool.false_ne_true fun h => Bool.false_ne_true h.left
  | object members => exact iff_of_false Bool.false_ne_true fun h => Bool.false_ne_true h.left

theorem anyObject_iff : JsonSchema.anyObject value = true <-> IsDict value :=
  acceptsDict_iff

theorem boolean_iff : JsonSchema.boolean value = true <-> IsBool value :=
  acceptsBool_iff

theorem schemaArray_iff {items : JsonSchema.Schema} {most : Nat} :
    JsonSchema.array most items value = true <->
      IsArray most (fun item => items item = true) value :=
  JsonSchema.array_iff

theorem accepts_label {s : PyStr} :
    labelRule.Accepts s <-> IsLabel s ∧ Encodable s := by
  simp [StrRule.Accepts, labelRule, IsLabel, and_comm]

theorem admits_label {s : PyStr} :
    CommonSchemas.labelText.Admits s <->
      IsLabel s ∧ JsonSchema.saysSomething s = true := by
  simp [JsonSchema.Text.Admits, CommonSchemas.labelText, IsLabel, and_assoc]

end Values

/-!
## The parts
-/

/-- The string has the property. -/
def TextAt (members : Members) (name : String) (p : PyStr -> Prop) : Prop :=
  MemberIf members name fun value => forall s, value = .str s -> p s

/-- A property whose parameters are the member of this name. -/
def SpelledProperty (spelling : String) (members : Members) : Prop :=
  members.keys ⊆ ["name", spelling, "observable", "writable"].map str ∧
    MemberAt members "name" (IsText IsLabel) ∧
    MemberAt members spelling IsDict ∧
    MemberAt members "observable" IsBool ∧
    MemberAt members "writable" IsBool

def PropertyOutline (members : Members) : Prop :=
  SpelledProperty "schema" members ∨ SpelledProperty "schema_" members

def ActionOutline (members : Members) : Prop :=
  members.keys ⊆ ["name", "version", "input_schema", "output_schema",
      "idempotent"].map str ∧
    MemberAt members "name" (IsText IsLabel) ∧
    MemberAt members "version" IsVersion ∧
    MemberAt members "input_schema" IsDict ∧
    MemberAt members "output_schema" IsDict ∧
    MemberAt members "idempotent" IsBool

def EventOutline (members : Members) : Prop :=
  members.keys ⊆ ["name", "data_schema"].map str ∧
    MemberAt members "name" (IsText IsLabel) ∧
    MemberAt members "data_schema" IsDict

def MediaOutline (members : Members) : Prop :=
  members.keys ⊆ ["kind", "direction", "codecs"].map str ∧
    MemberAt members "kind" (IsWord ["audio", "video"]) ∧
    MemberAt members "direction"
      (IsWord ["publish", "subscribe", "bidirectional"]) ∧
    MemberIf members "codecs" (IsArray 32 (IsText fun _ => True))

/-- Codecs that have the property. -/
def CodecsAre (members : Members) (p : PyStr -> Prop) : Prop :=
  MemberIf members "codecs"
    (EachItem fun item => forall s, item = .str s -> p s)

section Parts

variable {members : Members}

theorem member_congr {p q : Json -> Prop} {name : String}
    (h : forall {value}, p value <-> q value) :
    MemberAt members name p <-> MemberAt members name q :=
  memberAt_congr fun _ => h

theorem name_python_reads :
    Reads (MemberAt members "name" fun value => acceptsStr labelRule value = true)
      (MemberAt members "name" (IsText IsLabel))
      (TextAt members "name" Encodable) :=
  memberAt_reads fun _ =>
    acceptsStr_iff.trans (isText_reads fun _ => accepts_label)

theorem name_schema_reads :
    Reads
      (MemberAt members "name" fun value =>
        JsonSchema.string CommonSchemas.labelText value = true)
      (MemberAt members "name" (IsText IsLabel))
      (TextAt members "name" fun s => JsonSchema.saysSomething s = true) :=
  memberAt_reads fun _ =>
    JsonSchema.string_iff.trans (isText_reads fun _ => admits_label)

/-- Under the field's name the parameters are unknown to the schema. -/
theorem propertyOutline_schema :
    SpelledProperty "schema" members <->
      PropertyOutline members ∧ str "schema_" ∉ members.keys := by
  constructor
  · intro h
    refine ⟨Or.inl h, ?_⟩
    intro hkey
    exact absurd (h.left hkey) (by decide)
  · intro h
    rcases h with ⟨houtline | houtline, hkey⟩
    · exact houtline
    · exact absurd houtline.right.right.left.mem_keys hkey

theorem propertyOutline_of_schema (h : members.get "schema" ≠ none) :
    PropertyOutline members <-> SpelledProperty "schema" members := by
  have hkey : str "schema" ∈ members.keys := by
    rw [← Members.get_isSome, Option.isSome_iff_ne_none]
    exact h
  constructor
  · intro houtline
    rcases houtline with houtline | houtline
    · exact houtline
    · exact absurd (houtline.left hkey) (by decide)
  · exact Or.inl

theorem propertyOutline_of_field (h : members.get "schema" = none) :
    PropertyOutline members <-> SpelledProperty "schema_" members := by
  constructor
  · intro houtline
    rcases houtline with houtline | houtline
    · rcases houtline.right.right.left with ⟨value, hget, _⟩
      cases h.symm.trans hget
    · exact houtline
  · exact Or.inr

/-- Python reads the parameters under the first name that is there. -/
theorem manifestProperty_spelled {spelling : String}
    (h : Member.found { names := ["schema", "schema_"], check := acceptsDict }
      members = Member.found { names := [spelling], check := acceptsDict }
        members) :
    Reads (manifestProperty (.object members) = true)
      (SpelledProperty spelling members)
      (TextAt members "name" Encodable) := by
  have hproperty : manifestProperty (.object members) =
      acceptsObject
        [{ names := ["name"], check := acceptsStr labelRule },
          { names := [spelling], check := acceptsDict },
          { names := ["observable"], check := acceptsBool },
          { names := ["writable"], check := acceptsBool }]
        (.object members) := by
    simp only [manifestProperty, acceptsObject, List.all_cons, List.any_cons,
      Member.holds, h]
  rw [hproperty, @acceptsObject_single members _ ["name", spelling,
    "observable", "writable"] rfl]
  simp only [List.forall_mem_cons, List.not_mem_nil, false_imp_iff,
    implies_true, and_true, Member.required_iff]
  apply Reads.and_left Iff.rfl
  apply Reads.and_right name_python_reads
  rw [member_congr acceptsDict_iff, member_congr acceptsBool_iff,
    member_congr acceptsBool_iff]

theorem property_python_reads :
    Reads (manifestProperty (.object members) = true) (PropertyOutline members)
      (TextAt members "name" Encodable) := by
  cases hget : members.get "schema" with
  | some value =>
      rw [propertyOutline_of_schema (hget ▸ nofun)]
      apply manifestProperty_spelled
      simp [Member.found, hget]
  | none =>
      rw [propertyOutline_of_field hget]
      apply manifestProperty_spelled
      simp [Member.found, hget]

theorem property_schema_reads :
    Reads (CommonSchemas.manifestProperty (.object members) = true)
      (PropertyOutline members)
      (TextAt members "name" (fun s => JsonSchema.saysSomething s = true) ∧
        str "schema_" ∉ members.keys) := by
  have hspelled : Reads (CommonSchemas.manifestProperty (.object members) = true)
      (SpelledProperty "schema" members)
      (TextAt members "name" fun s => JsonSchema.saysSomething s = true) := by
    unfold CommonSchemas.manifestProperty
    rw [JsonSchema.object_iff, and_comm]
    simp only [List.forall_mem_cons, List.not_mem_nil, false_imp_iff,
      implies_true, and_true, JsonSchema.Property.required_iff]
    apply Reads.and_left Iff.rfl
    apply Reads.and_right name_schema_reads
    exact and_congr (member_congr anyObject_iff)
      (and_congr (member_congr boolean_iff) (member_congr boolean_iff))
  unfold Reads at hspelled ⊢
  rw [hspelled, propertyOutline_schema, and_assoc, and_comm (b := TextAt _ _ _)]

theorem action_python_reads :
    Reads (manifestAction (.object members) = true) (ActionOutline members)
      (TextAt members "name" Encodable ∧ MemberIf members "version" Spelled) := by
  unfold manifestAction
  rw [@acceptsObject_single members _ ["name", "version", "input_schema",
    "output_schema", "idempotent"] rfl]
  simp only [List.forall_mem_cons, List.not_mem_nil, false_imp_iff,
    implies_true, and_true, Member.required_iff]
  apply Reads.and_left Iff.rfl
  apply Reads.and name_python_reads
  apply Reads.and_right (memberAt_reads fun value => @acceptsVersion_reads value)
  rw [member_congr acceptsDict_iff, member_congr acceptsDict_iff,
    member_congr acceptsBool_iff]

theorem action_schema_reads :
    Reads (CommonSchemas.manifestAction (.object members) = true)
      (ActionOutline members)
      (TextAt members "name" fun s => JsonSchema.saysSomething s = true) := by
  unfold CommonSchemas.manifestAction
  rw [JsonSchema.object_iff, and_comm]
  simp only [List.forall_mem_cons, List.not_mem_nil, false_imp_iff,
    implies_true, and_true, JsonSchema.Property.required_iff]
  apply Reads.and_left Iff.rfl
  apply Reads.and_right name_schema_reads
  exact and_congr (member_congr integer_version_iff)
    (and_congr (member_congr anyObject_iff)
      (and_congr (member_congr anyObject_iff) (member_congr boolean_iff)))

theorem event_python_reads :
    Reads (manifestEvent (.object members) = true) (EventOutline members)
      (TextAt members "name" Encodable) := by
  unfold manifestEvent
  rw [@acceptsObject_single members _ ["name", "data_schema"] rfl]
  simp only [List.forall_mem_cons, List.not_mem_nil, false_imp_iff,
    implies_true, and_true, Member.required_iff]
  apply Reads.and_left Iff.rfl
  exact Reads.and_right name_python_reads (member_congr acceptsDict_iff)

theorem event_schema_reads :
    Reads (CommonSchemas.manifestEvent (.object members) = true)
      (EventOutline members)
      (TextAt members "name" fun s => JsonSchema.saysSomething s = true) := by
  unfold CommonSchemas.manifestEvent
  rw [JsonSchema.object_iff, and_comm]
  simp only [List.forall_mem_cons, List.not_mem_nil, false_imp_iff,
    implies_true, and_true, JsonSchema.Property.required_iff]
  apply Reads.and_left Iff.rfl
  exact Reads.and_right name_schema_reads (member_congr anyObject_iff)

/-- Python takes any codecs. -/
theorem media_python_iff :
    manifestMedia (.object members) = true <-> MediaOutline members := by
  have hcodecs : forall value,
      acceptsArray 32 acceptsText value = true <->
        IsArray 32 (IsText fun _ => True) value := by
    intro value
    simp only [acceptsArray_iff, IsArray, acceptsText_iff]
  unfold manifestMedia MediaOutline
  rw [@acceptsObject_single members _ ["kind", "direction", "codecs"] rfl]
  simp only [List.forall_mem_cons, List.not_mem_nil, false_imp_iff,
    implies_true, and_true, Member.required_iff, Member.optional_iff,
    acceptsWord_iff, hcodecs]

theorem media_schema_reads :
    Reads (CommonSchemas.manifestMedia (.object members) = true)
      (MediaOutline members)
      (CodecsAre members CommonSchemas.codecText.Admits) := by
  unfold CommonSchemas.manifestMedia
  rw [JsonSchema.object_iff, and_comm]
  simp only [List.forall_mem_cons, List.not_mem_nil, false_imp_iff,
    implies_true, and_true, JsonSchema.Property.required_iff,
    JsonSchema.Property.optional_iff]
  apply Reads.and_left Iff.rfl
  apply Reads.and_left (member_congr enum_isWord)
  apply Reads.and_left (member_congr enum_isWord)
  apply memberIf_reads
  intro value
  apply schemaArray_iff.trans
  apply array_reads
  intro item
  exact JsonSchema.string_iff.trans (isText_reads fun _ => (iff_of_eq (true_and _)).symm)

end Parts

/-!
## The whole manifest
-/

structure ManifestOutline (members : Members) : Prop where
  known : members.keys ⊆ ["schema_version", "title", "properties", "actions",
    "events", "media"].map str
  schemaVersion : MemberAt members "schema_version" IsOne
  title : MemberAt members "title" (IsText IsLabel)
  properties : MemberAt members "properties"
    (IsArray 64 (IsObject PropertyOutline))
  actions : MemberAt members "actions" (IsArray 64 (IsObject ActionOutline))
  events : MemberAt members "events" (IsArray 64 (IsObject EventOutline))
  media : MemberAt members "media" (IsArray 16 (IsObject MediaOutline))

/-- Every part that the array lists has the property. -/
def PartsAre (members : Members) (array : String) (p : Members -> Prop) :
    Prop :=
  MemberIf members array
    (EachItem fun item => forall part, item = .object part -> p part)

/-- The names of all properties, actions and events have the property. -/
def NamesAre (members : Members) (p : PyStr -> Prop) : Prop :=
  PartsAre members "properties" (fun part => TextAt part "name" p) ∧
    PartsAre members "actions" (fun part => TextAt part "name" p) ∧
    PartsAre members "events" (fun part => TextAt part "name" p)

/-- What Python wants besides the outline. -/
structure PythonPoints (members : Members) : Prop where
  title : TextAt members "title" fun s => Encodable s ∧ strip s ≠ []
  names : NamesAre members Encodable
  versions : PartsAre members "actions" fun part =>
    MemberIf part "version" Spelled

/-- What the schema wants. -/
structure SchemaPoints (members : Members) : Prop where
  schemaVersion : MemberIf members "schema_version" (· ≠ .bool true)
  title : TextAt members "title" fun s => JsonSchema.saysSomething s = true
  names : NamesAre members fun s => JsonSchema.saysSomething s = true
  parameters : PartsAre members "properties" fun part =>
    str "schema_" ∉ part.keys
  codecs : PartsAre members "media" fun part =>
    CodecsAre part CommonSchemas.codecText.Admits

section Manifest

variable {members : Members}

theorem partsAre_and {array : String} {p q : Members -> Prop} :
    PartsAre members array (fun part => p part ∧ q part) <->
      PartsAre members array p ∧ PartsAre members array q := by
  simp only [PartsAre, MemberIf, EachItem, imp_and, forall_and]

/-- A member that lists parts. -/
theorem parts_reads {array : String} {most : Nat} {check : Json -> Bool}
    {p a : Members -> Prop}
    (hobject : forall item, check item = true ->
      exists part, item = .object part)
    (h : forall part, Reads (check (.object part) = true) (p part) (a part)) :
    Reads
      (MemberAt members array (IsArray most fun item => check item = true))
      (MemberAt members array (IsArray most (IsObject p)))
      (PartsAre members array a) :=
  memberAt_reads fun _ => array_reads fun item => object_reads (hobject item) h

theorem manifestTitle_reads (value : Json) :
    Reads (manifestTitle value = true) (IsText IsLabel value)
      (forall s, value = .str s -> Encodable s ∧ strip s ≠ []) := by
  have htitle : manifestTitle value = true <->
      IsText (fun s => labelRule.Accepts s ∧ strip s ≠ []) value := by
    cases value with
    | str s => simp [manifestTitle, IsText]
    | null => exact iff_of_false Bool.false_ne_true (not_isText fun _ h => by cases h)
    | bool b => exact iff_of_false Bool.false_ne_true (not_isText fun _ h => by cases h)
    | int n => exact iff_of_false Bool.false_ne_true (not_isText fun _ h => by cases h)
    | float x => exact iff_of_false Bool.false_ne_true (not_isText fun _ h => by cases h)
    | array items => exact iff_of_false Bool.false_ne_true (not_isText fun _ h => by cases h)
    | object members => exact iff_of_false Bool.false_ne_true (not_isText fun _ h => by cases h)
  apply htitle.trans
  apply isText_reads
  intro s
  rw [accepts_label, and_assoc]

/-- What a reader decides, put together from the members. -/
theorem manifest_reads
    {schemaVersion title properties actions events media : Prop}
    {schemaVersion' title' properties' actions' events' media' : Prop}
    (hschemaVersion : Reads schemaVersion
      (MemberAt members "schema_version" IsOne) schemaVersion')
    (htitle : Reads title (MemberAt members "title" (IsText IsLabel)) title')
    (hproperties : Reads properties
      (MemberAt members "properties" (IsArray 64 (IsObject PropertyOutline)))
      properties')
    (hactions : Reads actions
      (MemberAt members "actions" (IsArray 64 (IsObject ActionOutline)))
      actions')
    (hevents : Reads events
      (MemberAt members "events" (IsArray 64 (IsObject EventOutline))) events')
    (hmedia : Reads media
      (MemberAt members "media" (IsArray 16 (IsObject MediaOutline))) media') :
    Reads
      (members.keys ⊆ ["schema_version", "title", "properties", "actions",
          "events", "media"].map str ∧
        schemaVersion ∧ title ∧ properties ∧ actions ∧ events ∧ media)
      (ManifestOutline members)
      (schemaVersion' ∧ title' ∧ properties' ∧ actions' ∧ events' ∧ media') := by
  have hparts := Reads.and_left
    (Iff.refl (members.keys ⊆ ["schema_version", "title", "properties",
      "actions", "events", "media"].map str))
    (hschemaVersion.and (htitle.and (hproperties.and (hactions.and
      (hevents.and hmedia)))))
  apply hparts.trans
  apply and_congr_left
  intro _
  constructor
  · intro h
    rcases h with ⟨hknown, hschema, htitle, hproperties, hactions, hevents, hmedia⟩
    exact ⟨hknown, hschema, htitle, hproperties, hactions, hevents, hmedia⟩
  · intro h
    exact ⟨h.known, h.schemaVersion, h.title, h.properties, h.actions, h.events,
      h.media⟩

theorem manifest_python_reads :
    Reads (deviceCapabilityManifest members = true) (ManifestOutline members)
      (PythonPoints members) := by
  have hmedia : MemberAt members "media"
      (IsArray 16 fun item => manifestMedia item = true) <->
        MemberAt members "media" (IsArray 16 (IsObject MediaOutline)) := by
    have hitem : forall item, manifestMedia item = true <->
        IsObject MediaOutline item := by
      intro item
      have hreads := @object_reads item manifestMedia MediaOutline (fun _ => True)
        acceptsObject_is_object fun _ => Reads.of_outline media_python_iff
      exact hreads.trans (and_iff_left fun _ _ => trivial)
    simp only [hitem]
  have hparts := manifest_reads
    (Reads.of_outline (Iff.refl (MemberAt members "schema_version" IsOne)))
    (memberAt_reads manifestTitle_reads)
    (@parts_reads members _ _ manifestProperty _ _
      (fun _ => acceptsObject_is_object) fun _ => property_python_reads)
    (@parts_reads members _ _ manifestAction _ _
      (fun _ => acceptsObject_is_object) fun _ => action_python_reads)
    (@parts_reads members _ _ manifestEvent _ _
      (fun _ => acceptsObject_is_object) fun _ => event_python_reads)
    (Reads.of_outline hmedia)
  refine Iff.trans ?_ (hparts.trans (and_congr_right fun _ => ?_))
  · unfold deviceCapabilityManifest
    rw [@acceptsObject_single members _ ["schema_version", "title",
      "properties", "actions", "events", "media"] rfl]
    simp only [List.forall_mem_cons, List.not_mem_nil, false_imp_iff,
      implies_true, and_true, Member.required_iff, acceptsArray_iff]
    exact Iff.rfl
  · rw [partsAre_and]
    constructor
    · intro h
      rcases h with ⟨_, htitle, hproperties, ⟨hactions, hversions⟩, hevents, _⟩
      exact ⟨htitle, ⟨hproperties, hactions, hevents⟩, hversions⟩
    · intro h
      rcases h.names with ⟨hproperties, hactions, hevents⟩
      exact ⟨trivial, h.title, hproperties, ⟨hactions, h.versions⟩, hevents,
        trivial⟩

theorem manifest_schema_reads :
    Reads (CommonSchemas.deviceCapabilityManifest (.object members) = true)
      (ManifestOutline members) (SchemaPoints members) := by
  have hparts := manifest_reads
    (@memberAt_reads members "schema_version" _ _ _ fun value =>
      @constInteger_one_reads value)
    (memberAt_reads fun _ =>
      JsonSchema.string_iff.trans (isText_reads fun _ => admits_label))
    (parts_reads (fun _ => JsonSchema.object_is_object)
      fun _ => property_schema_reads)
    (parts_reads (fun _ => JsonSchema.object_is_object)
      fun _ => action_schema_reads)
    (parts_reads (fun _ => JsonSchema.object_is_object)
      fun _ => event_schema_reads)
    (parts_reads (fun _ => JsonSchema.object_is_object)
      fun _ => media_schema_reads)
  refine Iff.trans ?_ (hparts.trans (and_congr_right fun _ => ?_))
  · unfold CommonSchemas.deviceCapabilityManifest
    rw [JsonSchema.object_iff, and_comm]
    simp only [List.forall_mem_cons, List.not_mem_nil, false_imp_iff,
      implies_true, and_true, JsonSchema.Property.required_iff, schemaArray_iff]
    exact Iff.rfl
  · rw [partsAre_and]
    constructor
    · intro h
      rcases h with ⟨hschema, htitle, ⟨hproperties, hparameters⟩, hactions,
        hevents, hcodecs⟩
      exact ⟨hschema, htitle, ⟨hproperties, hactions, hevents⟩, hparameters,
        hcodecs⟩
    · intro h
      rcases h.names with ⟨hproperties, hactions, hevents⟩
      exact ⟨h.schemaVersion, h.title, ⟨hproperties, h.parameters⟩, hactions,
        hevents, h.codecs⟩

/-- The readers agree on a manifest that meets the points of both, and on one
that misses a point of each. -/
theorem manifest_readers_agree_iff (document : Members) :
    (deviceCapabilityManifest document = true <->
        CommonSchemas.deviceCapabilityManifest (.object document) = true) <->
      (ManifestOutline document ->
        PythonPoints document ∧ SchemaPoints document ∨
          ¬ PythonPoints document ∧ ¬ SchemaPoints document) :=
  manifest_python_reads.agree manifest_schema_reads

end Manifest

/-- The manifest of a button with this name. -/
def buttonManifest (name : String) : Members :=
  [(str "schema_version", .int 1),
    (str "title", .str (str "Button")),
    (str "properties", .array []),
    (str "actions", .array []),
    (str "events", .array
      [.object [(str "name", .str (str name)), (str "data_schema", .object [])]]),
    (str "media", .array [])]

theorem blank_name_known_to_python_only :
    deviceCapabilityManifest (buttonManifest " ") = true ∧
      CommonSchemas.deviceCapabilityManifest (.object (buttonManifest " ")) =
        false := by
  decide +kernel

end DeviceFoundation
end EidolonSdk
