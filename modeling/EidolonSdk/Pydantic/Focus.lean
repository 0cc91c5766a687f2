import EidolonSdk.Pydantic.Documents

/-!
# Documents inside documents

A place inside a value is a function that puts a part there.  A codec reads the
place with an inner codec when the whole is refused as soon as the part is, and
does not tell parts apart that the inner codec does not tell apart.  Such places
compose, and a stored document can be padded at each of them.
-/

namespace EidolonSdk
namespace Pydantic

open Python Logic

/-- At this place the outer codec reads with the inner one. -/
structure Codec.Focus {α β : Type} (outer : Codec α) (put : Json -> Json)
    (inner : Codec β) : Prop where
  congr : forall v w, inner.validate w = inner.validate v ->
    outer.validate (put w) = outer.validate (put v)
  refuse : forall v, inner.validate v = none -> outer.validate (put v) = none

/-- The field of this name is read with the inner codec. -/
structure Fields.Focus {α β : Type} (fields : Fields α) (name : String)
    (inner : Codec β) : Prop where
  known : name ∈ fields.names
  congr : forall (ms ns : Members) (v w : Json), ms.get name = some v ->
    ns.get name = some w -> inner.validate w = inner.validate v ->
    (forall other, other ≠ name -> ns.get other = ms.get other) ->
    fields.read ns = fields.read ms
  refuse : forall (ms : Members) (v : Json), ms.get name = some v ->
    inner.validate v = none -> fields.read ms = none

/-- An object with a member of this name. -/
def around (name : String) (front back : Members) (v : Json) : Json :=
  .object (front ++ (str name, v) :: back)

section Focus

variable {α β γ : Type}

theorem Codec.Focus.refl (codec : Codec α) : codec.Focus id codec where
  congr _ _ h := h
  refuse _ h := h

theorem Codec.Focus.comp {outer : Codec α} {middle : Codec β} {inner : Codec γ}
    {put put' : Json -> Json} (h : outer.Focus put middle)
    (h' : middle.Focus put' inner) :
    outer.Focus (fun v => put (put' v)) inner where
  congr v w heq := h.congr _ _ (h'.congr v w heq)
  refuse v hnone := h.refuse _ (h'.refuse v hnone)

/-!
## Fields
-/

theorem Fields.focus_field (name : String) (codec : Codec α)
    (default : Option α) : (Fields.field name codec default).Focus name codec where
  known := List.mem_cons_self
  congr ms ns v w hv hw heq _ := by
    rw [Fields.read_field_get hv, Fields.read_field_get hw, heq]
  refuse ms v hv hnone := by
    rw [Fields.read_field_get hv, hnone]

variable {name : String} {inner : Codec γ}

theorem Fields.Focus.left {first : Fields α} {second : Fields β}
    {hnames : distinct first.names second.names = true}
    (h : first.Focus name inner) : (first.and second hnames).Focus name inner where
  known := List.mem_append_left _ h.known
  congr ms ns v w hv hw heq hothers := by
    have hsecond : second.read ns = second.read ms := by
      apply second.read_congr_get
      intro other hother
      apply hothers
      intro hname
      rw [hname] at hother
      exact not_mem_of_distinct hnames h.known hother
    simp only [Fields.and, h.congr ms ns v w hv hw heq hothers, hsecond]
  refuse ms v hv hnone := by
    simp only [Fields.and, h.refuse ms v hv hnone]
    rfl

theorem Fields.Focus.right {first : Fields α} {second : Fields β}
    {hnames : distinct first.names second.names = true}
    (h : second.Focus name inner) :
    (first.and second hnames).Focus name inner where
  known := List.mem_append_right _ h.known
  congr ms ns v w hv hw heq hothers := by
    have hfirst : first.read ns = first.read ms := by
      apply first.read_congr_get
      intro other hother
      apply hothers
      intro hname
      rw [hname] at hother
      exact not_mem_of_distinct hnames hother h.known
    simp only [Fields.and, h.congr ms ns v w hv hw heq hothers, hfirst]
  refuse ms v hv hnone := by
    simp only [Fields.and, h.refuse ms v hv hnone]
    cases first.read ms with
    | none => rfl
    | some a => rfl

theorem Fields.Focus.map {fields : Fields α} {make : α -> β} {parts : β -> α}
    {hmake : forall b, make (parts b) = b} (h : fields.Focus name inner) :
    (fields.map make parts hmake).Focus name inner where
  known := h.known
  congr ms ns v w hv hw heq hothers := by
    simp only [Fields.map, h.congr ms ns v w hv hw heq hothers]
  refuse ms v hv hnone := by
    simp only [Fields.map, h.refuse ms v hv hnone]
    rfl

theorem Fields.Focus.such {fields : Fields α} {p : α -> Prop} [DecidablePred p]
    (h : fields.Focus name inner) : (fields.such p).Focus name inner where
  known := h.known
  congr ms ns v w hv hw heq hothers := by
    simp only [Fields.such, h.congr ms ns v w hv hw heq hothers]
  refuse ms v hv hnone := by
    simp only [Fields.such, h.refuse ms v hv hnone]
    rfl

/-!
## Documents and containers
-/

theorem get_around {front back : Members} (h : str name ∉ front.keys) (v : Json)
    (other : String) :
    Members.get (front ++ (str name, v) :: back) other =
      if other = name then some v else Members.get (front ++ back) other := by
  rw [Members.get_append, Members.get_cons, Members.get_append]
  by_cases hother : other = name
  · have hnone : front.get name = none := by
      cases hget : front.get name with
      | none => rfl
      | some w =>
          exact absurd (Members.get_isSome.mp (by rw [hget]; rfl)) h
    rw [if_pos hother, if_pos hother, hother, hnone, Option.none_or]
  · rw [if_neg hother, if_neg hother]

theorem Fields.Focus.around_congr {fields : Fields α} (h : fields.Focus name inner)
    {front back : Members} (hfront : str name ∉ front.keys) {v w : Json}
    (heq : inner.validate w = inner.validate v) :
    fields.read (front ++ (str name, w) :: back) =
      fields.read (front ++ (str name, v) :: back) := by
  apply h.congr _ _ v w _ _ heq
  · intro other hother
    rw [get_around hfront, get_around hfront, if_neg hother, if_neg hother]
  · rw [get_around hfront, if_pos rfl]
  · rw [get_around hfront, if_pos rfl]

theorem Fields.Focus.around_refuse {fields : Fields α} (h : fields.Focus name inner)
    {front back : Members} (hfront : str name ∉ front.keys) {v : Json}
    (hnone : inner.validate v = none) :
    fields.read (front ++ (str name, v) :: back) = none :=
  h.refuse _ v (by rw [get_around hfront, if_pos rfl]) hnone

/-- A field of a stored document. -/
theorem Fields.Focus.document {fields : Fields α} (h : fields.Focus name inner)
    {front : Members} (hfront : str name ∉ front.keys) (back : Members) :
    fields.document.Focus (around name front back) inner where
  congr v w heq := by
    have hknown : modelled fields.names (str name) = true :=
      modelled_iff.mpr ⟨name, h.known, rfl⟩
    have hretired : forall v w : Json,
        fields.Retired (front ++ (str name, v) :: back) ->
        fields.Retired (front ++ (str name, w) :: back) := by
      intro v w hv m hm
      rcases List.mem_append.mp hm with hm | hm
      · exact hv m (List.mem_append_left _ hm)
      · rcases List.mem_cons.mp hm with heq | hm
        · rw [heq]
          exact Or.inl hknown
        · exact hv m (List.mem_append_right _ (List.mem_cons_of_mem _ hm))
    show fields.load _ = fields.load _
    rw [Fields.load_eq, Fields.load_eq, h.around_congr hfront heq]
    exact if_congr ⟨hretired w v, hretired v w⟩ rfl rfl
  refuse v hnone := by
    show fields.load _ = none
    rw [Fields.load_eq, h.around_refuse hfront hnone, ite_self]

/-- A field of a document that keeps what it does not know. -/
theorem Fields.Focus.openDocument {fields : Fields α} {L : Lax}
    (h : fields.Focus name inner) {front : Members}
    (hfront : str name ∉ front.keys) (back : Members) :
    (fields.openDocument L).Focus (around name front back) inner where
  congr v w heq := by
    have hextras : forall v w : Json,
        extrasOf fields.names (front ++ (str name, w) :: back) =
          extrasOf fields.names (front ++ (str name, v) :: back) := by
      intro v w
      have hknown : modelled fields.names (str name) = true :=
        modelled_iff.mpr ⟨name, h.known, rfl⟩
      have hothers : forall v : Json,
          others fields.names (front ++ (str name, v) :: back) =
            others fields.names (front ++ back) := by
        intro v
        unfold others
        rw [List.filter_append, List.filter_append,
          List.filter_cons_of_neg (by simp [hknown])]
      apply extrasOf_eq
      · unfold extraDict
        rw [hothers, hothers]
      · unfold UnicodeExtras
        simp [Members.keys]
    show (fields.read _ >>= fun a => extrasOf _ _ >>= fun extras => some (a, extras)) =
      (fields.read _ >>= fun a => extrasOf _ _ >>= fun extras => some (a, extras))
    rw [h.around_congr hfront heq, hextras v w]
  refuse v hnone := by
    show (fields.read _ >>= fun a => _) = none
    rw [h.around_refuse hfront hnone]
    rfl

theorem mapM_middle {f : α -> Option β} (front back : List α) {a b : α}
    (h : f b = f a) :
    (front ++ b :: back).mapM f = (front ++ a :: back).mapM f := by
  rw [List.mapM_append, List.mapM_append, List.mapM_cons, List.mapM_cons, h]

theorem mapM_middle_none {f : α -> Option β} (front back : List α) {a : α}
    (h : f a = none) : (front ++ a :: back).mapM f = none := by
  rw [List.mapM_append, List.mapM_cons, h]
  cases front.mapM f with
  | none => rfl
  | some bs => rfl

/-- An item of a list. -/
theorem Codec.focus_list (codec : Codec α) (front back : List Json) :
    codec.list.Focus (fun v => .array (front ++ v :: back)) codec where
  congr _ _ heq := mapM_middle front back heq
  refuse _ hnone := mapM_middle_none front back hnone

/-- A value of a dictionary. -/
theorem Codec.focus_dict (codec : Codec α) (json : JsonMode) (front back : Members)
    (k : PyStr) :
    (codec.dict json).Focus (fun v => .object (front ++ (k, v) :: back)) codec where
  congr v w heq := by
    have hentry : (codec.validate w).map (fun a => (k, a)) =
        (codec.validate v).map fun a => (k, a) := by
      rw [heq]
    exact congrArg (Option.map Dict.ofList) (mapM_middle front back hentry)
  refuse v hnone := by
    have hentry : (codec.validate v).map (fun a => (k, a)) = none := by
      rw [hnone]
      rfl
    exact congrArg (Option.map Dict.ofList) (mapM_middle_none front back hentry)

theorem Codec.Focus.map {outer : Codec α} {put : Json -> Json} {make : α -> β}
    {parts : β -> α} {hmake : forall b, make (parts b) = b}
    (h : outer.Focus put inner) : (outer.map make parts hmake).Focus put inner where
  congr v w heq := congrArg (Option.map make) (h.congr v w heq)
  refuse v hnone := congrArg (Option.map make) (h.refuse v hnone)

/-!
## Keys the model does not know
-/

section Padding

variable {fields : Fields α} {front back : Members} {k : PyStr} {v : Json}

theorem Fields.read_padded (hk : modelled fields.names k = false) :
    fields.read (front ++ (k, v) :: back) = fields.read (front ++ back) := by
  apply fields.read_congr_get
  intro other hother
  have hne : str other ≠ k := by
    intro heq
    rw [← heq, modelled_iff.mpr ⟨other, hother, rfl⟩] at hk
    cases hk
  unfold Members.get
  rw [List.lookup_append, List.lookup_append, List.lookup_cons,
    beq_eq_false_iff_ne.mpr hne]

/-- A key that carries nothing makes no difference. -/
theorem Fields.validate_padded (hk : modelled fields.names k = false)
    (hv : Fields.carriesNothing v = true) :
    fields.document.validate (.object (front ++ (k, v) :: back)) =
      fields.document.validate (.object (front ++ back)) := by
  have hretired : fields.Retired (front ++ (k, v) :: back) <->
      fields.Retired (front ++ back) := by
    unfold Fields.Retired
    simp only [List.mem_append, List.mem_cons]
    constructor
    · intro h m hm
      exact h m (hm.imp id Or.inr)
    · intro h m hm
      rcases hm with hm | heq | hm
      · exact h m (Or.inl hm)
      · rw [heq]
        exact Or.inr hv
      · exact h m (Or.inr hm)
  show fields.load _ = fields.load _
  rw [Fields.load_eq, Fields.load_eq, Fields.read_padded hk]
  exact if_congr hretired rfl rfl

/-- A key that carries anything is refused. -/
theorem Fields.validate_refused (hk : modelled fields.names k = false)
    (hv : Fields.carriesNothing v = false) :
    fields.document.validate (.object (front ++ (k, v) :: back)) = none := by
  have hretired : ¬ fields.Retired (front ++ (k, v) :: back) := by
    intro h
    rcases h (k, v) (List.mem_append_right _ List.mem_cons_self) with hknown | hempty
    · rw [hk] at hknown
      cases hknown
    · rw [hv] at hempty
      cases hempty
  show fields.load _ = none
  rw [Fields.load_eq, if_neg hretired]

end Padding

end Focus

end Pydantic
end EidolonSdk
