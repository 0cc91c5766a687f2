import EidolonSdk.Logic.Outcome
import EidolonSdk.Python.FloatUnits
import EidolonSdk.Python.JsonStrings
import EidolonSdk.Support.Primitives

/-!
# Canonical JSON

The canonical form of a document without fractions whose keys are ASCII: sorted,
compact, and nothing escaped that need not be.  Documents with one form are the
same JSON value.
-/

namespace EidolonSdk
namespace Python
namespace Json

/-- Strings in which only what has to be is escaped are told apart. -/
theorem readable_quoted : Readable quoted fun _ => true where
  opens s := ⟨_, rfl⟩
  reads {s t u v} _ _ h := by
    unfold quoted at h
    rw [List.append_assoc, List.append_assoc, List.append_assoc, List.append_assoc] at h
    have hbody := List.append_cancel_left h
    have hs := readString_quoted s u
    rw [show s.flatMap escapeChar ++ codePoint '"' :: u = _ from hbody] at hs
    have hpair := Except.ok.inj (hs.symm.trans (readString_quoted t v))
    exact ⟨(Prod.mk.inj hpair).left, (Prod.mk.inj hpair).right⟩

theorem spelled_true (v : Json) : v.all (spelled fun _ => true) = true := by
  induction v using parts_induction with
  | null => rfl
  | bool b => rfl
  | int n => rfl
  | float x => rfl
  | str s => rfl
  | array items ih => exact Bool.and_eq_true_iff.mpr ⟨rfl, allItems_iff.mpr ih⟩
  | object members ih =>
      exact Bool.and_eq_true_iff.mpr ⟨List.all_eq_true.mpr fun _ _ => rfl,
        allMembers_iff.mpr fun m hm => ih m.fst m.snd hm⟩

theorem lookup_of_sorted {members others : Members} (hmembers : members.keys.Nodup)
    (hothers : others.keys.Nodup)
    (h : (Json.object members).sorted = (Json.object others).sorted) (k : PyStr) :
    (members.lookup k).map sorted = (others.lookup k).map sorted := by
  rw [sorted_object, sorted_object, Json.object.injEq] at h
  rw [← lookup_sortedDict hmembers, ← lookup_sortedDict hothers]
  exact congrArg (fun entries => entries.lookup k) h

theorem items_of_sorted {items others : List Json}
    (h : (Json.array items).sorted = (Json.array others).sorted) :
    List.Forall₂ (fun v w => v.sorted = w.sorted) items others := by
  rw [sorted_array, sorted_array, Json.array.injEq] at h
  rw [← List.forall₂_map_right_iff, ← List.forall₂_map_left_iff,
    List.forall₂_eq_eq_eq]
  exact h

/-- Values with one sorted form are the same. -/
theorem same_of_sorted {v w : Json} (hv : IsJson v) (hw : IsJson w)
    (h : v.sorted = w.sorted) : Same v w := by
  induction v using parts_induction generalizing w with
  | null =>
      cases w with
      | null => exact Same.null
      | _ => cases h
  | bool b =>
      cases w with
      | bool b' =>
          cases h
          exact Same.bool b
      | _ => cases h
  | int n =>
      cases w with
      | int n' =>
          cases h
          exact Same.number rfl rfl
      | _ => cases h
  | float x =>
      cases w with
      | float x' =>
          cases h
          cases x with
          | finite negative magnitude representable => exact Same.number rfl rfl
          | infinite negative => cases hv
          | nan => cases hv
      | _ => cases h
  | str s =>
      cases w with
      | str t =>
          cases h
          exact Same.str s
      | _ => cases h
  | array items ih =>
      cases w with
      | array others =>
          rcases List.forall₂_iff_zip.mp (items_of_sorted h) with ⟨hlength, hzip⟩
          apply Same.array
          refine List.forall₂_iff_zip.mpr ⟨hlength, fun {x y} hmem => ?_⟩
          rcases List.of_mem_zip hmem with ⟨hx, hy⟩
          exact ih x hx (hv.item hx) (hw.item hy) (hzip hmem)
      | _ => cases h
  | object members ih =>
      cases w with
      | object others =>
          have hlookup := lookup_of_sorted hv.keys_nodup hw.keys_nodup h
          apply Same.object
          · intro k
            rw [← lookup_isSome, ← lookup_isSome, ← Option.isSome_iff_exists,
              ← Option.isSome_iff_exists, ← Option.isSome_map, hlookup,
              Option.isSome_map]
          · intro k x y hx hy
            have hsorted := hlookup k
            rw [hx, hy] at hsorted
            exact ih k x (mem_of_lookup hx) (hv.lookup hx) (hw.lookup hy)
              (Option.some.inj hsorted)
      | _ => cases h

end Json
end Python

namespace Support

open Python

/-- Whole numbers of 53 bits, text that can be encoded and ASCII keys. -/
def hasPlainForm : Json -> Bool
  | .int n => decide (-(2 ^ 53) < n ∧ n < 2 ^ 53)
  | .float _ => false
  | .str s => decide (Encodable s)
  | .object members => members.all fun m => m.fst.all fun c => decide (c.val < 0x80)
  | _ => true

/-- `rfc8785.dumps` of such documents. -/
def Rfc8785.plain : Rfc8785 where
  dumps v :=
    if v.IsJson ∧ v.all hasPlainForm = true then
      match encodeUtf8 (Json.textWith unitsInterpreter Json.quoted v.sorted) with
      | some bytes => .ok bytes
      | none => .error .unicodeEncodeError
    else .error .valueError

theorem Rfc8785.plain_eq_ok {v : Json} {bytes : Bytes} (h : plain.dumps v = .ok bytes) :
    v.IsJson ∧ encodeUtf8 (Json.textWith unitsInterpreter Json.quoted v.sorted) =
      some bytes := by
  unfold plain at h
  dsimp only at h
  split at h
  · rename_i hplain
    refine ⟨hplain.left, ?_⟩
    split at h
    · rename_i hbytes
      rw [hbytes, Except.ok.inj h]
    · cases h
  · cases h

/-- The form of such a document. -/
def Rfc8785.plainForm (v : Json) : Bytes :=
  (plain.dumps v).toOption.getD []

theorem Rfc8785.plain_dumps {v : Json} (h : (plain.dumps v).isOk = true) :
    plain.dumps v = .ok (plainForm v) := by
  rcases Logic.exists_of_isOk h with ⟨form, hform⟩
  unfold plainForm
  rw [hform]
  rfl

theorem Rfc8785.plain_injective : plain.Injective := by
  intro v w bytes hv hw
  rcases plain_eq_ok hv with ⟨hvJson, hvText⟩
  rcases plain_eq_ok hw with ⟨hwJson, hwText⟩
  apply Json.same_of_sorted hvJson hwJson
  exact Json.textWith_inj floatTexts_unitsInterpreter Json.readable_quoted
    ⟨hvJson.sorted, Json.spelled_true _⟩ ⟨hwJson.sorted, Json.spelled_true _⟩
    (encodeUtf8_inj hvText hwText)

end Support
end EidolonSdk
