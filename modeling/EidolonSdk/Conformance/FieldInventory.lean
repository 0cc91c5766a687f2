import Mathlib.Data.Finset.Sort
import Mathlib.Data.List.Lex
import EidolonSdk.Coding.Separated
import EidolonSdk.Python.Decimal
import EidolonSdk.Python.SortedJson

/-!
# The fields of a golden vector

A golden vector is held to the paths declared for it.  A path is text, put
together from keys and indices, and the check compares sets of such texts; two
positions that share a text count as one field.
-/

namespace EidolonSdk
namespace Conformance

open Python

/-!
## Paths
-/

/-- A step into a value. -/
inductive Step where
  | key (k : PyStr)
  | index (i : Nat)
  deriving DecidableEq

abbrev Position := List Step

/-- The path text of one step more. -/
def extend (path : PyStr) : Step -> PyStr
  | .key k => if path = [] then k else path ++ str "." ++ k
  | .index i => path ++ str "[" ++ naturalText i ++ str "]"

def render (path : PyStr) (position : Position) : PyStr :=
  position.foldl extend path

/-- `isinstance(item, (dict, list))`. -/
def isContainer : Json -> Bool
  | .object _ => true
  | .array _ => true
  | _ => false

section Paths

variable (opaquePaths : Finset PyStr)

/-- `_field_paths`. -/
def fieldPaths : Json -> PyStr -> List PyStr
  | .object members, path => memberPaths members path
  | .array items, path => itemPaths items 0 path
  | _, _ => []
where
  memberPaths : Members -> PyStr -> List PyStr
    | [], _ => []
    | (k, item) :: rest, path =>
        let inner := extend path (.key k)
        inner :: (if inner ∈ opaquePaths then [] else fieldPaths item inner) ++
          memberPaths rest path
  itemPaths : List Json -> Nat -> PyStr -> List PyStr
    | [], _, _ => []
    | item :: rest, index, path =>
        let inner := extend path (.index index)
        (if isContainer item = true then
          inner :: (if inner ∈ opaquePaths then [] else fieldPaths item inner)
        else []) ++ itemPaths rest (index + 1) path

end Paths

/-!
## The check
-/

section Require

variable (I : Interpreter)

instance transText : IsTrans PyStr (fun s t => s ≤ t) := inferInstance

instance antisymmText : Std.Antisymm (fun s t : PyStr => s ≤ t) := inferInstance

instance totalText : Std.Total (fun s t : PyStr => s ≤ t) := inferInstance

/-- `f"{sorted(paths)}"`. -/
def sortedText (paths : Finset PyStr) : PyStr :=
  Json.repr I (.array (paths.sort.map .str))

/-- `raise ConformanceError(f"{golden}: {complaint}: {sorted(paths)}")`, unless
there are no such paths. -/
def complain (golden : PyStr) (complaint : String) (paths : Finset PyStr) :
    Except PyStr Unit :=
  if paths = ∅ then .ok ()
  else .error (golden ++ str ": " ++ str complaint ++ str ": " ++ sortedText I paths)

/-- `require_field_inventory`; the error is a `ConformanceError`. -/
def requireFieldInventory (vector : Json) (golden : PyStr)
    (validated descriptive opaquePaths : Finset PyStr) : Except PyStr Unit := do
  complain I golden "field is declared both validated and descriptive"
    (validated ∩ descriptive)
  complain I golden "opaque field is not declared at all"
    ((opaquePaths \ validated) \ descriptive)
  let actual := (fieldPaths opaquePaths vector []).toFinset
  complain I golden "golden vector has undeclared fields"
    ((actual \ validated) \ descriptive)
  complain I golden "declared fields are absent from the vector"
    ((validated ∪ descriptive) \ actual)

variable {I}

theorem complain_eq_ok {golden : PyStr} {complaint : String} {paths : Finset PyStr}
    {u : Unit} : complain I golden complaint paths = .ok u <-> paths = ∅ := by
  unfold complain
  split
  · rename_i h
    exact iff_of_true rfl h
  · rename_i h
    exact iff_of_false nofun h

/-- What a vector that passes has in common with its declarations. -/
structure Declared (vector : Json) (validated descriptive opaquePaths : Finset PyStr) :
    Prop where
  disjoint : validated ∩ descriptive = ∅
  known : opaquePaths ⊆ validated ∪ descriptive
  fields : forall path, path ∈ fieldPaths opaquePaths vector [] <->
    path ∈ validated ∪ descriptive

theorem sdiff_sdiff_eq_empty {paths validated descriptive : Finset PyStr} :
    (paths \ validated) \ descriptive = ∅ <-> paths ⊆ validated ∪ descriptive := by
  rw [Finset.sdiff_eq_empty_iff_subset]
  exact sdiff_le_iff

theorem requireFieldInventory_eq_ok {vector : Json} {golden : PyStr}
    {validated descriptive opaquePaths : Finset PyStr} :
    requireFieldInventory I vector golden validated descriptive opaquePaths = .ok () <->
      Declared vector validated descriptive opaquePaths := by
  have hbind : forall (x y : Except PyStr Unit), (x >>= fun _ => y) = .ok () <->
      x = .ok () ∧ y = .ok () := by
    intro x y
    cases x with
    | error e => exact iff_of_false nofun fun h => nomatch h.left
    | ok u => exact (and_iff_right rfl).symm
  unfold requireFieldInventory
  simp only [hbind, complain_eq_ok, sdiff_sdiff_eq_empty]
  rw [Finset.sdiff_eq_empty_iff_subset]
  constructor
  · intro hparts
    rcases hparts with ⟨hdisjoint, hknown, hundeclared, habsent⟩
    refine ⟨hdisjoint, hknown, fun path => ⟨fun h => ?_, fun h => ?_⟩⟩
    · exact hundeclared (List.mem_toFinset.mpr h)
    · exact List.mem_toFinset.mp (habsent h)
  · intro h
    refine ⟨h.disjoint, h.known, fun path hpath => ?_, fun path hpath => ?_⟩
    · exact (h.fields path).mp (List.mem_toFinset.mp hpath)
    · exact List.mem_toFinset.mpr ((h.fields path).mpr hpath)

end Require

/-!
## Positions
-/

/-- The positions of a value that are listed, the value itself standing at this
path. -/
inductive Field (opaquePaths : Finset PyStr) : PyStr -> Json -> Position -> Prop where
  | member {path : PyStr} {members : Members} {k : PyStr} {v : Json} :
      (k, v) ∈ members -> Field opaquePaths path (.object members) [.key k]
  | item {path : PyStr} {items : List Json} {i : Nat} {v : Json} :
      items[i]? = some v -> isContainer v = true ->
      Field opaquePaths path (.array items) [.index i]
  | inMember {path : PyStr} {members : Members} {k : PyStr} {v : Json}
      {position : Position} :
      (k, v) ∈ members -> extend path (.key k) ∉ opaquePaths ->
      Field opaquePaths (extend path (.key k)) v position ->
      Field opaquePaths path (.object members) (.key k :: position)
  | inItem {path : PyStr} {items : List Json} {i : Nat} {v : Json}
      {position : Position} :
      items[i]? = some v -> isContainer v = true ->
      extend path (.index i) ∉ opaquePaths ->
      Field opaquePaths (extend path (.index i)) v position ->
      Field opaquePaths path (.array items) (.index i :: position)

section Fields

variable {opaquePaths : Finset PyStr}

/-- What is listed at and below one step. -/
def stepPaths (opaquePaths : Finset PyStr) (v : Json) (inner : PyStr) : List PyStr :=
  inner :: (if inner ∈ opaquePaths then [] else fieldPaths opaquePaths v inner)

theorem mem_stepPaths {v : Json} {inner text : PyStr} :
    text ∈ stepPaths opaquePaths v inner <->
      text = inner ∨ inner ∉ opaquePaths ∧ text ∈ fieldPaths opaquePaths v inner := by
  unfold stepPaths
  rw [List.mem_cons]
  split
  · rename_i h
    simp [h]
  · rename_i h
    simp [h]

theorem memberPaths_append (front back : Members) (path : PyStr) :
    fieldPaths.memberPaths opaquePaths (front ++ back) path =
      fieldPaths.memberPaths opaquePaths front path ++
        fieldPaths.memberPaths opaquePaths back path := by
  induction front with
  | nil => rfl
  | cons m rest ih =>
      simp only [List.cons_append, fieldPaths.memberPaths, ih, List.append_assoc]

theorem itemPaths_append (front back : List Json) (path : PyStr) :
    forall start, fieldPaths.itemPaths opaquePaths (front ++ back) start path =
      fieldPaths.itemPaths opaquePaths front start path ++
        fieldPaths.itemPaths opaquePaths back (start + front.length) path := by
  induction front with
  | nil => exact fun start => rfl
  | cons item rest ih =>
      intro start
      have hstart : start + (item :: rest).length = start + 1 + rest.length := by
        rw [List.length_cons]
        omega
      simp only [List.cons_append, fieldPaths.itemPaths, ih, List.append_assoc, hstart]

theorem memberPaths_cons (k : PyStr) (v : Json) (rest : Members) (path : PyStr) :
    fieldPaths.memberPaths opaquePaths ((k, v) :: rest) path =
      stepPaths opaquePaths v (extend path (.key k)) ++
        fieldPaths.memberPaths opaquePaths rest path := by
  rw [fieldPaths.memberPaths]
  rfl

theorem itemPaths_cons {v : Json} (h : isContainer v = true) (rest : List Json)
    (start : Nat) (path : PyStr) :
    fieldPaths.itemPaths opaquePaths (v :: rest) start path =
      stepPaths opaquePaths v (extend path (.index start)) ++
        fieldPaths.itemPaths opaquePaths rest (start + 1) path := by
  rw [fieldPaths.itemPaths, if_pos h]
  rfl

theorem mem_memberPaths {members : Members} {path text : PyStr} :
    text ∈ fieldPaths.memberPaths opaquePaths members path <->
      exists m, m ∈ members ∧
        text ∈ stepPaths opaquePaths m.snd (extend path (.key m.fst)) := by
  induction members with
  | nil => simp [fieldPaths.memberPaths]
  | cons m rest ih =>
      simp only [fieldPaths.memberPaths, List.mem_append, ih, List.mem_cons,
        exists_eq_or_imp, stepPaths]

theorem mem_itemPaths {items : List Json} {path text : PyStr} :
    forall start, text ∈ fieldPaths.itemPaths opaquePaths items start path <->
      exists i v, items[i]? = some v ∧ isContainer v = true ∧
        text ∈ stepPaths opaquePaths v (extend path (.index (start + i))) := by
  induction items with
  | nil => simp [fieldPaths.itemPaths]
  | cons item rest ih =>
      intro start
      simp only [fieldPaths.itemPaths, List.mem_append, ih]
      constructor
      · intro hparts
        rcases hparts with h | ⟨i, v, hv, hcontainer, htext⟩
        · split at h
          · rename_i hcontainer
            exact ⟨0, item, rfl, hcontainer, h⟩
          · exact absurd h List.not_mem_nil
        · refine ⟨i + 1, v, hv, hcontainer, ?_⟩
          rw [show start + (i + 1) = start + 1 + i by omega]
          exact htext
      · intro hparts
        rcases hparts with ⟨i, v, hv, hcontainer, htext⟩
        cases i with
        | zero =>
            cases hv
            refine Or.inl ?_
            rw [if_pos hcontainer]
            exact htext
        | succ i =>
            refine Or.inr ⟨i, v, hv, hcontainer, ?_⟩
            rw [show start + 1 + i = start + (i + 1) by omega]
            exact htext

theorem mem_fieldPaths_object {members : Members} {path text : PyStr} :
    text ∈ fieldPaths opaquePaths (.object members) path <->
      exists m, m ∈ members ∧
        text ∈ stepPaths opaquePaths m.snd (extend path (.key m.fst)) := by
  rw [fieldPaths, mem_memberPaths]

theorem mem_fieldPaths_array {items : List Json} {path text : PyStr} :
    text ∈ fieldPaths opaquePaths (.array items) path <->
      exists i v, items[i]? = some v ∧ isContainer v = true ∧
        text ∈ stepPaths opaquePaths v (extend path (.index i)) := by
  rw [fieldPaths, mem_itemPaths 0]
  simp only [Nat.zero_add]

/-- The paths are the texts of the positions. -/
theorem mem_fieldPaths {v : Json} {text : PyStr} :
    forall {path : PyStr}, text ∈ fieldPaths opaquePaths v path <->
      exists position, Field opaquePaths path v position ∧
        render path position = text := by
  induction v using Json.parts_induction with
  | object members ih =>
      intro path
      rw [mem_fieldPaths_object]
      constructor
      · intro hparts
        rcases hparts with ⟨⟨k, v⟩, hm, htext⟩
        rcases mem_stepPaths.mp htext with rfl | ⟨hopen, hinner⟩
        · exact ⟨[.key k], .member hm, rfl⟩
        · rcases (ih k v hm).mp hinner with ⟨position, hfield, hrender⟩
          exact ⟨.key k :: position, .inMember hm hopen hfield, hrender⟩
      · intro hparts
        rcases hparts with ⟨position, hfield, hrender⟩
        cases hfield with
        | @member _ _ k v hm =>
            exact ⟨(k, v), hm, mem_stepPaths.mpr (Or.inl hrender.symm)⟩
        | @inMember _ _ k v position hm hopen hfield =>
            exact ⟨(k, v), hm, mem_stepPaths.mpr
              (Or.inr ⟨hopen, (ih k v hm).mpr ⟨position, hfield, hrender⟩⟩)⟩
  | array items ih =>
      intro path
      rw [mem_fieldPaths_array]
      constructor
      · intro hparts
        rcases hparts with ⟨i, v, hv, hcontainer, htext⟩
        rcases mem_stepPaths.mp htext with rfl | ⟨hopen, hinner⟩
        · exact ⟨[.index i], .item hv hcontainer, rfl⟩
        · rcases (ih v (List.mem_of_getElem? hv)).mp hinner with
            ⟨position, hfield, hrender⟩
          exact ⟨.index i :: position, .inItem hv hcontainer hopen hfield, hrender⟩
      · intro hparts
        rcases hparts with ⟨position, hfield, hrender⟩
        cases hfield with
        | @item _ _ i v hv hcontainer =>
            exact ⟨i, v, hv, hcontainer, mem_stepPaths.mpr (Or.inl hrender.symm)⟩
        | @inItem _ _ i v position hv hcontainer hopen hfield =>
            exact ⟨i, v, hv, hcontainer, mem_stepPaths.mpr
              (Or.inr ⟨hopen, (ih v (List.mem_of_getElem? hv)).mpr
                ⟨position, hfield, hrender⟩⟩)⟩
  | null => exact iff_of_false List.not_mem_nil fun h => nomatch h.choose_spec.left
  | bool b => exact iff_of_false List.not_mem_nil fun h => nomatch h.choose_spec.left
  | int n => exact iff_of_false List.not_mem_nil fun h => nomatch h.choose_spec.left
  | float x => exact iff_of_false List.not_mem_nil fun h => nomatch h.choose_spec.left
  | str s => exact iff_of_false List.not_mem_nil fun h => nomatch h.choose_spec.left

end Fields

/-!
## A new key
-/

/-- A key that an object did not have is put into it, somewhere in a value. -/
inductive Inserts (key : PyStr) (value : Json) : Json -> Position -> Json -> Prop where
  | here {front back : Members} :
      key ∉ Members.keys (front ++ back) ->
      Inserts key value (.object (front ++ back)) []
        (.object (front ++ (key, value) :: back))
  | member {front back : Members} {k : PyStr} {v v' : Json} {position : Position} :
      Inserts key value v position v' ->
      Inserts key value (.object (front ++ (k, v) :: back)) (.key k :: position)
        (.object (front ++ (k, v') :: back))
  | item {front back : List Json} {v v' : Json} {position : Position} :
      Inserts key value v position v' ->
      Inserts key value (.array (front ++ v :: back)) (.index front.length :: position)
        (.array (front ++ v' :: back))

/-- Neither the position nor one above it has an opaque path. -/
def Exposed (opaquePaths : Finset PyStr) : PyStr -> Position -> Prop
  | _, [] => True
  | path, step :: rest =>
      extend path step ∉ opaquePaths ∧ Exposed opaquePaths (extend path step) rest

section Insert

variable {opaquePaths : Finset PyStr} {key : PyStr} {value v v' : Json}
variable {position : Position}

theorem Inserts.container (h : Inserts key value v position v') :
    isContainer v = true ∧ isContainer v' = true := by
  cases h with
  | here _ => exact ⟨rfl, rfl⟩
  | member _ => exact ⟨rfl, rfl⟩
  | item _ => exact ⟨rfl, rfl⟩

/-- What changes in the middle of a list of paths is added at the end. -/
theorem mem_middle {front mid mid' back added : List PyStr} {text : PyStr}
    (h : text ∈ mid' <-> text ∈ mid ∨ text ∈ added) :
    text ∈ front ++ (mid' ++ back) <->
      text ∈ front ++ (mid ++ back) ∨ text ∈ added := by
  simp only [List.mem_append, h]
  tauto

/-- The new key adds its own path and those inside its value, and no other. -/
theorem mem_fieldPaths_insert (h : Inserts key value v position v') {text : PyStr} :
    forall {path : PyStr}, Exposed opaquePaths path position ->
      (text ∈ fieldPaths opaquePaths v' path <->
        text ∈ fieldPaths opaquePaths v path ∨
          text ∈ fieldPaths opaquePaths (.object [(key, value)])
            (render path position)) := by
  -- Below a step that is taken the paths are listed before and after.
  have hstep : forall {v v' : Json} {added : List PyStr} {inner : PyStr},
      inner ∉ opaquePaths ->
      (text ∈ fieldPaths opaquePaths v' inner <->
        text ∈ fieldPaths opaquePaths v inner ∨ text ∈ added) ->
      (text ∈ stepPaths opaquePaths v' inner <->
        text ∈ stepPaths opaquePaths v inner ∨ text ∈ added) := by
    intro v v' added inner hopen hinner
    simp only [mem_stepPaths, hopen, hinner, not_false_eq_true, true_and, or_assoc]
  induction h with
  | @here front back _ =>
      intro path _
      simp only [render, List.foldl_nil, fieldPaths, memberPaths_append,
        memberPaths_cons, List.mem_append]
      tauto
  | @member front back k v v' position _ ih =>
      intro path hexposed
      simp only [fieldPaths, memberPaths_append, memberPaths_cons]
      exact mem_middle (hstep hexposed.left (ih hexposed.right))
  | @item front back v v' position hinner ih =>
      intro path hexposed
      rcases hinner.container with ⟨hcontainer, hcontainer'⟩
      simp only [fieldPaths, itemPaths_append, itemPaths_cons hcontainer,
        itemPaths_cons hcontainer', Nat.zero_add]
      exact mem_middle (hstep hexposed.left (ih hexposed.right))

/-- A position the new key brings has a text that no position had before. -/
def Adds (opaquePaths : Finset PyStr) (vector : Json) (position : Position)
    (key : PyStr) (value : Json) : Prop :=
  exists added, Field opaquePaths (render [] position) (.object [(key, value)]) added ∧
    forall old, Field opaquePaths [] vector old ->
      render [] old ≠ render (render [] position) added

theorem declared_insert_iff {vector vector' : Json}
    {validated descriptive : Finset PyStr}
    (h : Declared vector validated descriptive opaquePaths)
    (hinsert : Inserts key value vector position vector')
    (hexposed : Exposed opaquePaths [] position) :
    Declared vector' validated descriptive opaquePaths <->
      forall text, text ∈ fieldPaths opaquePaths (.object [(key, value)])
        (render [] position) -> text ∈ fieldPaths opaquePaths vector [] := by
  constructor
  · intro h' text htext
    rw [h.fields, ← h'.fields, mem_fieldPaths_insert hinsert hexposed]
    exact Or.inr htext
  · intro hadded
    refine ⟨h.disjoint, h.known, fun path => ?_⟩
    rw [mem_fieldPaths_insert hinsert hexposed, ← h.fields]
    exact ⟨fun hpath => hpath.elim id (hadded path), Or.inl⟩

theorem refused_iff_not_declared {I : Interpreter} {golden : PyStr}
    {validated descriptive : Finset PyStr} :
    (exists text, requireFieldInventory I v golden validated descriptive opaquePaths =
      .error text) <-> ¬ Declared v validated descriptive opaquePaths := by
  rw [← @requireFieldInventory_eq_ok I v golden]
  cases requireFieldInventory I v golden validated descriptive opaquePaths with
  | error text => exact iff_of_true ⟨text, rfl⟩ nofun
  | ok u => exact iff_of_false (fun h => nomatch h.choose_spec) (fun h => h rfl)

/-- A new key is refused exactly when it brings a text that was not there. -/
theorem new_key_refused_iff {I : Interpreter} {vector vector' : Json}
    {golden : PyStr} {validated descriptive : Finset PyStr}
    (h : requireFieldInventory I vector golden validated descriptive opaquePaths = .ok ())
    (hinsert : Inserts key value vector position vector')
    (hexposed : Exposed opaquePaths [] position) :
    (exists text, requireFieldInventory I vector' golden validated descriptive
        opaquePaths = .error text) <->
      Adds opaquePaths vector position key value := by
  rw [refused_iff_not_declared,
    declared_insert_iff (requireFieldInventory_eq_ok.mp h) hinsert hexposed]
  simp only [mem_fieldPaths, Adds]
  push Not
  constructor
  · intro hparts
    rcases hparts with ⟨_, ⟨added, hadded, rfl⟩, hold⟩
    exact ⟨added, hadded, hold⟩
  · intro hparts
    rcases hparts with ⟨added, hadded, hold⟩
    exact ⟨_, ⟨added, hadded, rfl⟩, hold⟩

end Insert

/-- A vector of one object in another. -/
def nestedVector : Json :=
  .object [(str "a", .object [(str "b", .null)])]

def nestedFields : Finset PyStr :=
  {str "a", str "a.b"}

/-- The nested vector with a new key. -/
theorem inserts_nested (key : PyStr) (h : key ≠ str "a") :
    Inserts key .null nestedVector []
      (.object [(str "a", .object [(str "b", .null)]), (key, .null)]) :=
  @Inserts.here key .null [(str "a", .object [(str "b", .null)])] []
    (by simpa [Members.keys] using h)

theorem passes_nested :
    requireFieldInventory asciiInterpreter nestedVector (str "golden") nestedFields ∅ ∅ =
      .ok () :=
  rfl

theorem new_key_refused_iff_nested :
    (exists text, requireFieldInventory asciiInterpreter
        (.object [(str "a", .object [(str "b", .null)]), (str "c", .null)])
        (str "golden") nestedFields ∅ ∅ = .error text) <->
      Adds ∅ nestedVector [] (str "c") .null :=
  new_key_refused_iff passes_nested (inserts_nested _ (by decide)) trivial

/-- A key with a dot has the path of a nested one. -/
theorem not_new_keys_refused :
    ¬ forall (I : Interpreter) (vector vector' : Json) (golden : PyStr)
      (validated descriptive opaquePaths : Finset PyStr) (key : PyStr) (value : Json)
      (position : Position),
      requireFieldInventory I vector golden validated descriptive opaquePaths = .ok () ->
      Inserts key value vector position vector' -> Exposed opaquePaths [] position ->
      exists text, requireFieldInventory I vector' golden validated descriptive
        opaquePaths = .error text := by
  intro h
  rcases h asciiInterpreter _ _ (str "golden") nestedFields ∅ ∅ (str "a.b") .null []
    passes_nested (inserts_nested _ (by decide)) trivial with ⟨text, htext⟩
  have hpasses : requireFieldInventory asciiInterpreter
      (.object [(str "a", .object [(str "b", .null)]), (str "a.b", .null)])
      (str "golden") nestedFields ∅ ∅ = .ok () := rfl
  rw [hpasses] at htext
  cases htext

/-!
## Keys without dots and brackets

Where no key is empty or has one of the two marks in it, a text has one position,
and a new key is always refused.
-/

def BareKey (k : PyStr) : Prop :=
  k ≠ [] ∧ forall c, c ∈ k -> c ≠ codePoint '.' ∧ c ≠ codePoint '['

instance (k : PyStr) : Decidable (BareKey k) :=
  inferInstanceAs (Decidable (_ ∧ _))

def hasBareKeys : Json -> Bool
  | .object members => (Members.keys members).all fun k => decide (BareKey k)
  | _ => true

namespace Step

def Bare : Step -> Prop
  | .key k => BareKey k
  | .index _ => True

/-- What stands between a path and the word of the next step. -/
def mark : Step -> CodePoint
  | .key _ => codePoint '.'
  | .index _ => codePoint '['

def word : Step -> PyStr
  | .key k => k
  | .index i => naturalText i ++ str "]"

theorem mark_word_inj {step other : Step} (hmark : step.mark = other.mark)
    (hword : step.word = other.word) : step = other := by
  cases step with
  | key k =>
      cases other with
      | key k' => exact congrArg Step.key hword
      | index i =>
          have hne : codePoint '.' ≠ codePoint '[' := by decide
          exact absurd hmark hne
  | index i =>
      cases other with
      | key k =>
          have hne : codePoint '[' ≠ codePoint '.' := by decide
          exact absurd hmark hne
      | index j =>
          exact congrArg Step.index (naturalText_inj.mp (List.append_cancel_right hword))

theorem Bare.word_free {step : Step} (h : step.Bare) :
    forall c, c ∈ step.word -> c ≠ codePoint '.' ∧ c ≠ codePoint '[' := by
  intro c hc
  cases step with
  | key k => exact h.right c hc
  | index i =>
      rcases List.mem_append.mp hc with hdigit | hbracket
      · have hdigits := mem_naturalText hdigit
        constructor
        · intro heq
          rcases heq with rfl
          exact absurd hdigits (by decide)
        · intro heq
          rcases heq with rfl
          exact absurd hdigits (by decide)
      · rw [List.mem_singleton.mp hbracket]
        decide

theorem Bare.word_ne_nil {step : Step} (h : step.Bare) : step.word ≠ [] := by
  cases step with
  | key k => exact h.left
  | index i => exact List.append_ne_nil_of_left_ne_nil (naturalText_ne_nil i) _

end Step

theorem extend_eq (path : PyStr) (step : Step) :
    extend path step = path ++ step.mark :: step.word ∨
      path = [] ∧ (exists k, step = .key k) ∧ extend path step = step.word := by
  cases step with
  | index i =>
      refine Or.inl ?_
      show path ++ str "[" ++ naturalText i ++ str "]" =
        path ++ (str "[" ++ (naturalText i ++ str "]"))
      rw [List.append_assoc, List.append_assoc]
  | key k =>
      by_cases hpath : path = []
      · exact Or.inr ⟨hpath, ⟨k, rfl⟩, if_pos hpath⟩
      · exact Or.inl ((if_neg hpath).trans (List.append_assoc _ _ _))

/-- The last mark of a path parts it. -/
theorem last_mark_inj {path path' word word' : PyStr} {mark mark' : CodePoint}
    (hmark : mark = codePoint '.' ∨ mark = codePoint '[')
    (hmark' : mark' = codePoint '.' ∨ mark' = codePoint '[')
    (hword : forall c, c ∈ word -> c ≠ codePoint '.' ∧ c ≠ codePoint '[')
    (hword' : forall c, c ∈ word' -> c ≠ codePoint '.' ∧ c ≠ codePoint '[')
    (h : path ++ mark :: word = path' ++ mark' :: word') :
    path = path' ∧ mark = mark' ∧ word = word' := by
  have hreversed := congrArg List.reverse h
  simp only [List.reverse_append, List.reverse_cons, List.append_assoc,
    List.cons_append, List.nil_append] at hreversed
  have hfree : forall {s : PyStr},
      (forall c, c ∈ s -> c ≠ codePoint '.' ∧ c ≠ codePoint '[') ->
        forall c, c ∈ s.reverse -> c ≠ codePoint '.' ∧ c ≠ codePoint '[' :=
    fun hs c hc => hs c (List.mem_reverse.mp hc)
  have hstop : forall {c d : CodePoint} {rest : PyStr},
      (d = codePoint '.' ∨ d = codePoint '[') -> c ∈ (d :: rest).head? ->
        ¬ (c ≠ codePoint '.' ∧ c ≠ codePoint '[') := by
    intro c d rest hd hc hnot
    cases hc
    exact hd.elim hnot.left hnot.right
  rcases Coding.alphabet_append_inj (hfree hword) (hfree hword')
    (fun c hc => hstop hmark hc) (fun c hc => hstop hmark' hc) hreversed with
    ⟨hwords, hrest⟩
  rw [List.cons.injEq] at hrest
  exact ⟨List.reverse_inj.mp hrest.right, hrest.left, List.reverse_inj.mp hwords⟩

theorem Step.mark_cases (step : Step) :
    step.mark = codePoint '.' ∨ step.mark = codePoint '[' := by
  cases step with
  | key k => exact Or.inl rfl
  | index i => exact Or.inr rfl

theorem extend_inj {path path' : PyStr} {step step' : Step} (hbare : step.Bare)
    (hbare' : step'.Bare) (h : extend path step = extend path' step') :
    path = path' ∧ step = step' := by
  -- A text without a mark is that of one key.
  have halone : forall {path : PyStr} {step step' : Step}, step.Bare ->
      step.word ≠ path ++ step'.mark :: step'.word := by
    intro path step step' hbare heq
    have hfree := hbare.word_free step'.mark (heq ▸ by simp)
    exact step'.mark_cases.elim hfree.left hfree.right
  rcases extend_eq path step with heq | ⟨hpath, ⟨k, hstep⟩, heq⟩
  · rcases extend_eq path' step' with heq' | ⟨_, _, heq'⟩
    · rcases last_mark_inj step.mark_cases step'.mark_cases hbare.word_free
        hbare'.word_free (heq.symm.trans (h.trans heq')) with ⟨hpaths, hmark, hword⟩
      exact ⟨hpaths, Step.mark_word_inj hmark hword⟩
    · exact absurd (heq'.symm.trans (h.symm.trans heq)) (halone hbare')
  · rcases extend_eq path' step' with heq' | ⟨hpath', ⟨k', hstep'⟩, heq'⟩
    · exact absurd (heq.symm.trans (h.trans heq')) (halone hbare)
    · refine ⟨hpath.trans hpath'.symm, ?_⟩
      have hword := heq.symm.trans (h.trans heq')
      rw [hstep, hstep'] at hword ⊢
      exact congrArg Step.key hword

theorem extend_ne_nil {path : PyStr} {step : Step} (h : step.Bare) :
    extend path step ≠ [] := by
  rcases extend_eq path step with heq | ⟨_, _, heq⟩
  · rw [heq]
    exact List.append_ne_nil_of_right_ne_nil _ (List.cons_ne_nil _ _)
  · rw [heq]
    exact h.word_ne_nil

/-- A text has one position. -/
theorem render_inj {position other : Position}
    (hbare : forall step, step ∈ position -> step.Bare)
    (hbare' : forall step, step ∈ other -> step.Bare)
    (h : render [] position = render [] other) : position = other := by
  induction position using List.reverseRecOn generalizing other with
  | nil =>
      rcases List.eq_nil_or_concat' other with rfl | ⟨front, last, rfl⟩
      · rfl
      · have hlast := hbare' last (by simp)
        rw [render, render, List.foldl_append] at h
        exact absurd h.symm (extend_ne_nil hlast)
  | append_singleton position last ih =>
      have hlast := hbare last (by simp)
      rcases List.eq_nil_or_concat' other with rfl | ⟨front, last', rfl⟩
      · rw [render, render, List.foldl_append] at h
        exact absurd h (extend_ne_nil hlast)
      · have hlast' := hbare' last' (by simp)
        rw [render, render, List.foldl_append, List.foldl_append] at h
        rcases extend_inj hlast hlast' h with ⟨hfront, rfl⟩
        rw [ih (fun step hstep => hbare step (List.mem_append_left _ hstep))
          (fun step hstep => hbare' step (by simp [hstep])) hfront]

section BareKeys

variable {opaquePaths : Finset PyStr} {key : PyStr} {value v v' : Json}
variable {position : Position}

theorem bareKey_of_mem {members : Members} {k : PyStr} {item : Json}
    (hkeys : (Json.object members).all hasBareKeys = true) (h : (k, item) ∈ members) :
    BareKey k := by
  have hself : hasBareKeys (.object members) = true := Json.all_self hkeys
  exact of_decide_eq_true
    (List.all_eq_true.mp hself k (List.mem_map_of_mem (f := Prod.fst) h))

theorem Field.bare {path : PyStr} (h : Field opaquePaths path v position)
    (hkeys : v.all hasBareKeys = true) :
    forall step, step ∈ position -> step.Bare := by
  induction h with
  | member hm =>
      intro step hstep
      rw [List.mem_singleton.mp hstep]
      exact bareKey_of_mem hkeys hm
  | item _ _ =>
      intro step hstep
      rw [List.mem_singleton.mp hstep]
      trivial
  | inMember hm _ _ ih =>
      intro step hstep
      rcases List.mem_cons.mp hstep with rfl | hrest
      · exact bareKey_of_mem hkeys hm
      · exact ih (Json.all_member hkeys hm) step hrest
  | inItem hi _ _ _ ih =>
      intro step hstep
      rcases List.mem_cons.mp hstep with rfl | hrest
      · trivial
      · exact ih (Json.all_item hkeys (List.mem_of_getElem? hi)) step hrest

theorem Inserts.bare (h : Inserts key value v position v')
    (hkeys : v.all hasBareKeys = true) :
    forall step, step ∈ position -> step.Bare := by
  induction h with
  | here _ => exact fun step hstep => nomatch hstep
  | member _ ih =>
      intro step hstep
      rcases List.mem_cons.mp hstep with rfl | hrest
      · exact bareKey_of_mem hkeys (List.mem_append_right _ List.mem_cons_self)
      · exact ih (Json.all_member hkeys (List.mem_append_right _ List.mem_cons_self))
          step hrest
  | item _ ih =>
      intro step hstep
      rcases List.mem_cons.mp hstep with rfl | hrest
      · trivial
      · exact ih (Json.all_item hkeys (List.mem_append_right _ List.mem_cons_self))
          step hrest

/-- The new key stood nowhere before. -/
theorem Inserts.fresh (h : Inserts key value v position v') (hjson : v.IsJson) :
    forall {path : PyStr}, ¬ Field opaquePaths path v (position ++ [.key key]) := by
  induction h with
  | @here front back hnew =>
      intro path hfield
      cases hfield with
      | member hm => exact hnew (List.mem_map_of_mem (f := Prod.fst) hm)
      | inMember _ _ hinner => cases hinner
  | @member front back k v v' position hinner ih =>
      intro path hfield
      have hmem : (k, v) ∈ front ++ (k, v) :: back :=
        List.mem_append_right _ List.mem_cons_self
      rw [List.cons_append] at hfield
      generalize hrest : position ++ [Step.key key] = rest at hfield
      cases hfield with
      | member _ => simp at hrest
      | inMember hm _ hfield =>
          rw [← hrest] at hfield
          have hsame := (Json.lookup_of_mem hjson.keys_nodup hm).symm.trans
            (Json.lookup_of_mem hjson.keys_nodup hmem)
          rw [Option.some.inj hsame] at hfield
          exact ih (hjson.member hmem) hfield
  | @item front back v v' position hinner ih =>
      intro path hfield
      have hmem : v ∈ front ++ v :: back := List.mem_append_right _ List.mem_cons_self
      rw [List.cons_append] at hfield
      generalize hrest : position ++ [Step.key key] = rest at hfield
      cases hfield with
      | item _ _ => simp at hrest
      | inItem hi _ _ hfield =>
          rw [← hrest] at hfield
          rw [List.getElem?_append_right (le_refl _), Nat.sub_self] at hi
          cases hi
          exact ih (hjson.item hmem) hfield

/-- Among bare keys a new one is always refused. -/
theorem new_bare_key_refused {I : Interpreter} {vector vector' : Json}
    {golden : PyStr} {validated descriptive : Finset PyStr}
    (h : requireFieldInventory I vector golden validated descriptive opaquePaths = .ok ())
    (hinsert : Inserts key value vector position vector')
    (hexposed : Exposed opaquePaths [] position) (hjson : vector.IsJson)
    (hkeys : vector.all hasBareKeys = true) (hkey : BareKey key) :
    exists text, requireFieldInventory I vector' golden validated descriptive
      opaquePaths = .error text := by
  rw [refused_iff_not_declared]
  intro hdeclared
  have hadded : render [] (position ++ [.key key]) ∈
      fieldPaths opaquePaths (.object [(key, value)]) (render [] position) := by
    refine mem_fieldPaths.mpr ⟨[.key key], .member (List.mem_singleton_self _), ?_⟩
    exact (List.foldl_append ..).symm
  have hold := (declared_insert_iff (requireFieldInventory_eq_ok.mp h) hinsert
    hexposed).mp hdeclared _ hadded
  rcases mem_fieldPaths.mp hold with ⟨old, hfield, hrender⟩
  have hbare : forall step, step ∈ position ++ [Step.key key] -> step.Bare := by
    intro step hstep
    rcases List.mem_append.mp hstep with hfront | hlast
    · exact hinsert.bare hkeys step hfront
    · rw [List.mem_singleton.mp hlast]
      exact hkey
  rw [render_inj (hfield.bare hkeys) hbare hrender] at hfield
  exact hinsert.fresh hjson hfield

end BareKeys

end Conformance
end EidolonSdk
