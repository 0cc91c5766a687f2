import EidolonSdk.Python.JsonValues
import EidolonSdk.Python.Utf8

/-!
# Cryptographic primitives

Hashing, signatures and canonical JSON come from packages outside the
repository and enter as parameters.  The development uses of SHA-256 only that
it yields 32 octets; where a result rests on collisions being infeasible or on
canonical JSON telling documents apart, it says so in a hypothesis.
-/

namespace EidolonSdk
namespace Support

open Python

structure Sha256 where
  digest : Bytes -> Bytes
  digest_length : forall message, (digest message).length = 32

/-- `bytes.hex()`. -/
def hex (bytes : Bytes) : PyStr :=
  bytes.flatMap fun b => Json.hexText 2 b.val

def Sha256.hexdigest (hash : Sha256) (message : Bytes) : PyStr :=
  hex (hash.digest message)

/-- A key as one block of the hash. -/
def Sha256.keyBlock (hash : Sha256) (key : Bytes) : Bytes :=
  let short := if 64 < key.length then hash.digest key else key
  short ++ List.replicate (64 - short.length) 0

/-- `hmac.new(key, message, hashlib.sha256).digest()`. -/
def Sha256.hmac (hash : Sha256) (key message : Bytes) : Bytes :=
  let masked := fun mask : Nat =>
    (hash.keyBlock key).map fun b => byte (b.val ^^^ mask)
  hash.digest (masked 0x5C ++ hash.digest (masked 0x36 ++ message))

/-- How the verification of a signature ends. -/
inductive SignatureCheck where
  | valid
  | invalidSignature
  | failure (e : PyException)
  deriving DecidableEq

/-- `rfc8785.dumps`. -/
structure Rfc8785 where
  dumps : Json -> Except PyException Bytes

/-- Two documents with the same canonical form are the same JSON value. -/
def Rfc8785.Injective (canonical : Rfc8785) : Prop :=
  forall v w bytes, canonical.dumps v = .ok bytes ->
    canonical.dumps w = .ok bytes -> Json.Same v w

/-- The canonical form depends on the JSON value only. -/
def Rfc8785.Respects (canonical : Rfc8785) : Prop :=
  forall v w, Json.Same v w -> canonical.dumps v = canonical.dumps w

/-- What canonical JSON has a form for: whole numbers of 53 bits, finite numbers
and text that can be encoded. -/
def hasCanonicalForm : Json -> Bool
  | .int n => decide (-(2 ^ 53) < n ∧ n < 2 ^ 53)
  | .float (.finite _ _ _) => true
  | .float _ => false
  | .str s => decide (Encodable s)
  | .object members => members.all fun member => decide (Encodable member.fst)
  | _ => true

theorem hasCanonicalForm_str {s : PyStr} (h : Encodable s) :
    (Json.str s).all hasCanonicalForm = true :=
  decide_eq_true h

theorem hasCanonicalForm_int {n : Int} (hleast : -(2 ^ 53) < n)
    (hmost : n < 2 ^ 53) : (Json.int n).all hasCanonicalForm = true :=
  decide_eq_true ⟨hleast, hmost⟩

theorem hasCanonicalForm_array {items : List Json}
    (h : forall v, v ∈ items -> v.all hasCanonicalForm = true) :
    (Json.array items).all hasCanonicalForm = true :=
  Bool.and_eq_true_iff.mpr ⟨rfl, Json.allItems_iff.mpr h⟩

theorem hasCanonicalForm_object {members : Members}
    (hkeys : forall m, m ∈ members -> Encodable m.fst)
    (h : forall m, m ∈ members -> m.snd.all hasCanonicalForm = true) :
    (Json.object members).all hasCanonicalForm = true := by
  apply Bool.and_eq_true_iff.mpr
  refine ⟨List.all_eq_true.mpr ?_, Json.allMembers_iff.mpr h⟩
  intro m hm
  exact decide_eq_true (hkeys m hm)

/-- A document that has a canonical form gets one. -/
def Rfc8785.Writes (canonical : Rfc8785) (v : Json) : Prop :=
  v.all hasCanonicalForm = true -> exists bytes, canonical.dumps v = .ok bytes

open Classical in
/-- Canonical JSON as far as one document is concerned. -/
noncomputable def Rfc8785.oneDocument (document : Json) (form : Bytes) :
    Rfc8785 where
  dumps v := if v = document then .ok form else .error .valueError

theorem Rfc8785.oneDocument_dumps (document : Json) (form : Bytes) :
    (oneDocument document form).dumps document = .ok form :=
  if_pos rfl

theorem Rfc8785.oneDocument_injective {document : Json} (form : Bytes)
    (h : Json.Same document document) : (oneDocument document form).Injective := by
  intro v w bytes hv hw
  simp only [oneDocument] at hv hw
  split at hv
  · split at hw
    · rename_i hv' hw'
      rw [hv', hw']
      exact h
    · cases hw
  · cases hv

open Classical in
/-- Canonical JSON as far as two documents are concerned. -/
noncomputable def Rfc8785.twoDocuments (document other : Json)
    (form form' : Bytes) : Rfc8785 where
  dumps v :=
    if v = document then .ok form
    else if v = other then .ok form'
    else .error .valueError

theorem Rfc8785.twoDocuments_injective {document other : Json}
    {form form' : Bytes} (hform : form ≠ form')
    (hdocument : Json.Same document document) (hother : Json.Same other other) :
    (twoDocuments document other form form').Injective := by
  intro v w bytes hv hw
  simp only [twoDocuments] at hv hw
  split at hv
  · rename_i hv'
    split at hw
    · rename_i hw'
      rw [hv', hw']
      exact hdocument
    · split at hw
      · exact absurd (Except.ok.inj (hv.trans hw.symm)) hform
      · cases hw
  · split at hv
    · rename_i hv'
      split at hw
      · exact absurd (Except.ok.inj (hw.trans hv.symm)) hform
      · split at hw
        · rename_i hw'
          rw [hv', hw']
          exact hother
        · cases hw
    · cases hv

theorem mem_hex {bytes : Bytes} {c : CodePoint} (h : c ∈ hex bytes) :
    exists n, n < 16 ∧ c = Json.hexDigit n := by
  rcases List.mem_flatMap.mp h with ⟨b, _, hc⟩
  rcases List.mem_map.mp hc with ⟨i, _, rfl⟩
  exact ⟨_, Nat.mod_lt _ (by decide), rfl⟩

theorem hex_length (bytes : Bytes) : (hex bytes).length = 2 * bytes.length := by
  induction bytes with
  | nil => rfl
  | cons b rest ih =>
      have hcons : hex (b :: rest) = Json.hexText 2 b.val ++ hex rest :=
        List.flatMap_cons
      rw [hcons, List.length_append, ih]
      simp [Json.hexText]
      omega

theorem Sha256.hexdigest_length (hash : Sha256) (message : Bytes) :
    (hash.hexdigest message).length = 64 := by
  unfold Sha256.hexdigest
  rw [hex_length, hash.digest_length]

theorem hexDigit_ne_newline {n : Nat} (h : n < 16) :
    Json.hexDigit n ≠ codePoint '\n' := by
  revert n
  decide

theorem hexDigit_inj {m n : Nat} (hm : m < 16) (hn : n < 16)
    (h : Json.hexDigit m = Json.hexDigit n) : m = n := by
  have hall : forall m, m < 16 -> forall n, n < 16 ->
      Json.hexDigit m = Json.hexDigit n -> m = n := by
    decide
  exact hall m hm n hn h

theorem hexText_two (n : Nat) :
    Json.hexText 2 n = [Json.hexDigit (n / 16 % 16), Json.hexDigit (n % 16)] := by
  simp [Json.hexText, List.range_succ]

theorem hex_inj : forall {xs ys : Bytes}, hex xs = hex ys -> xs = ys
  | [], [], _ => rfl
  | [], _ :: _, h => by
      simp [hex, hexText_two] at h
  | _ :: _, [], h => by
      simp [hex, hexText_two] at h
  | x :: xs, y :: ys, h => by
      have hcons : forall (b : Byte) (rest : Bytes), hex (b :: rest) =
          Json.hexDigit (b.val / 16 % 16) :: Json.hexDigit (b.val % 16) ::
            hex rest := by
        intro b rest
        simp [hex, hexText_two]
      rw [hcons, hcons] at h
      injection h with hhigh h
      injection h with hlow hrest
      have hhigh' := hexDigit_inj (Nat.mod_lt _ (by decide))
        (Nat.mod_lt _ (by decide)) hhigh
      have hlow' := hexDigit_inj (Nat.mod_lt _ (by decide))
        (Nat.mod_lt _ (by decide)) hlow
      have hxy : x = y := by
        apply Fin.ext
        have hx := x.isLt
        have hy := y.isLt
        omega
      rw [hxy, hex_inj hrest]

theorem Sha256.hexdigest_eq_iff {hash : Sha256} {x y : Bytes} :
    hash.hexdigest x = hash.hexdigest y <-> hash.digest x = hash.digest y := by
  constructor
  · exact hex_inj
  · intro h
    unfold Sha256.hexdigest
    rw [h]

end Support
end EidolonSdk
