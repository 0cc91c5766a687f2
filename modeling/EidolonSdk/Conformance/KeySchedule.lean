import EidolonSdk.Conformance.SignedVectors
import EidolonSdk.Support.KeyDerivation
import Mathlib.Data.Nat.Bitwise

/-!
# The key schedule of a sealed message

Every key, nonce and secret is an HMAC of a message that opens with a label.  No
label opens another one, so no message serves two purposes; the counter of a
message enters its nonce in a way that can be undone.
-/

namespace EidolonSdk
namespace Conformance

open Python DeviceFoundation Support

/-!
## Deriving
-/

section Derivation

variable (hash : Sha256)

/-- {lit}`_hkdf_extract`. -/
def hkdfExtract (salt ikm : Bytes) : Bytes :=
  hash.hmac (if salt = [] then List.replicate 32 0 else salt) ikm

/-- {lit}`bytes([counter])`. -/
def oneOctet (counter : Nat) : Except PyException Bytes :=
  if counter < 256 then .ok [byte counter] else .error .valueError

/-- The loop over the counters, with the block and the output so far. -/
def expandLoop (prk info : Bytes) : List Nat -> Bytes -> Bytes ->
    Except PyException Bytes
  | [], _, output => .ok output
  | counter :: counters, block, output => do
      let mark ← oneOctet counter
      let block := hash.hmac prk (block ++ info ++ mark)
      expandLoop prk info counters block (output ++ block)

/-- {lit}`_hkdf_expand`. -/
def hkdfExpand (prk info : Bytes) (length : Nat) : Except PyException Bytes :=
  (expandLoop hash prk info (List.range' 1 ((length + 31) / 32)) [] []).map
    fun output => output.take length

/-- The octets of an ASCII text. -/
def ascii (text : String) : Bytes :=
  text.toList.map fun c => byte c.toNat

def hpkeVersion : Bytes := ascii "HPKE-v1"

/-- {lit}`_labeled_extract`. -/
def labeledExtract (suiteId salt label ikm : Bytes) : Bytes :=
  hkdfExtract hash salt (hpkeVersion ++ suiteId ++ label ++ ikm)

/-- {lit}`_labeled_expand`. -/
def labeledExpand (suiteId prk label info : Bytes) (length : Nat) :
    Except PyException Bytes := do
  let size ← toBytesBig length 2
  hkdfExpand hash prk (size ++ hpkeVersion ++ suiteId ++ label ++ info) length

def kemSuite : Bytes := ascii "KEM" ++ bigEndian 2 16

def hpkeSuite : Bytes :=
  ascii "HPKE" ++ bigEndian 2 16 ++ bigEndian 2 1 ++ bigEndian 2 1

/-- {lit}`P256_ORDER`. -/
def p256Order : Nat :=
  0xFFFFFFFF00000000FFFFFFFFFFFFFFFFBCE6FAADA7179E84F3B9CAC2FC632551

end Derivation

/-- What the packages for keys and encryption provide. -/
structure HpkePrimitives where
  hash : Sha256
  PrivateKey : Type
  PublicKey : Type
  /-- {lit}`ec.derive_private_key` on P-256. -/
  derivePrivateKey : Nat -> PrivateKey
  privateValue : PrivateKey -> Nat
  publicKey : PrivateKey -> PublicKey
  /-- {lit}`key.exchange(ec.ECDH(), peer)`. -/
  exchange : PrivateKey -> PublicKey -> Except PyException Bytes
  /-- {lit}`_serialize_public`. -/
  serializePublic : PublicKey -> Bytes
  /-- {lit}`AESGCM(key).encrypt(nonce, data, aad)`. -/
  encrypt : Bytes -> Bytes -> Bytes -> Bytes -> Except PyException Bytes

section Check

variable (P : HpkePrimitives)

/-- The loop of {lit}`_derive_p256_key` from a counter on. -/
def deriveFrom (prk : Bytes) : List Nat -> Except VectorFailure P.PrivateKey
  | [] => .error (.conformanceError (str "RFC 9180 P-256 DeriveKeyPair exhausted"))
  | counter :: counters => do
      let mark ← foreign (oneOctet counter)
      let candidate ← foreign (labeledExpand P.hash kemSuite prk (ascii "candidate")
        mark 32)
      let scalar := fromBytesBig candidate
      if 0 < scalar ∧ scalar < p256Order then .ok (P.derivePrivateKey scalar)
      else deriveFrom prk counters

/-- {lit}`_derive_p256_key`. -/
def deriveP256Key (ikm : Bytes) : Except VectorFailure P.PrivateKey :=
  deriveFrom P (labeledExtract P.hash kemSuite [] (ascii "dkp_prk") ikm)
    (List.range 256)

/-- The nonce of a message; {lit}`int.to_bytes` has no octets for a negative number. -/
def messageNonce (baseNonce : Bytes) : Int -> Except PyException Bytes
  | .ofNat sequenceNumber =>
      toBytesBig (fromBytesBig baseNonce ^^^ sequenceNumber) baseNonce.length
  | .negSucc _ => .error .overflowError

end Check

/-!
## One stream
-/

section Stream

variable {hash : Sha256} {prk info : Bytes}

theorem expandLoop_eq (count first : Nat) :
    expandLoop hash prk info (List.range' (first + 1) count)
        (hash.expandBlock prk info first) (hash.expandStream prk info first) =
      if count = 0 ∨ first + count < 256 then
        .ok (hash.expandStream prk info (first + count))
      else .error .valueError := by
  induction count generalizing first with
  | zero => rfl
  | succ count ih =>
      rw [List.range'_succ, expandLoop, oneOctet]
      by_cases hfirst : first + 1 < 256
      · rw [if_pos hfirst]
        refine (ih (first + 1)).trans ?_
        rw [show first + 1 + count = first + (count + 1) by omega]
        refine if_congr ?_ rfl rfl
        omega
      · rw [if_neg hfirst, if_neg (by omega)]
        rfl

/-- An expansion is the front of the stream, which ends where the counter does. -/
theorem hkdfExpand_eq (hash : Sha256) (prk info : Bytes) (length : Nat) :
    hkdfExpand hash prk info length =
      if length ≤ 32 * 255 then
        .ok ((hash.expandStream prk info 255).take length)
      else .error .valueError := by
  have hloop := @expandLoop_eq hash prk info ((length + 31) / 32) 0
  rw [Nat.zero_add, Nat.zero_add] at hloop
  unfold hkdfExpand
  refine (congrArg (fun x => Except.map (List.take length) x) hloop).trans ?_
  by_cases hlength : length ≤ 32 * 255
  · rw [if_pos (Or.inr (by omega)), if_pos hlength]
    have hfront : (hash.expandStream prk info 255).take length =
        (hash.expandStream prk info ((length + 31) / 32)).take length :=
      Sha256.take_expandStream (by omega) (by omega)
    rw [hfront]
    rfl
  · rw [if_neg (by omega), if_neg hlength]
    rfl

theorem hkdfExpand_block {length : Nat} (h : length ≤ 32) :
    hkdfExpand hash prk info length =
      .ok ((hash.hmac prk (info ++ [1])).take length) := by
  have hfront : (hash.expandStream prk info 255).take length =
      (hash.expandStream prk info 1).take length :=
    Sha256.take_expandStream (by omega) h
  rw [hkdfExpand_eq, if_pos (by omega), hfront, Sha256.expandStream_one]

end Stream

/-!
## What is derived
-/

inductive Purpose where
  | dkpPrk
  | candidate
  | eaePrk
  | sharedSecret
  | pskIdHash
  | infoHash
  | secret
  | key
  | baseNonce
  | exporter
  deriving DecidableEq

namespace Purpose

def suiteId : Purpose -> Bytes
  | .dkpPrk => kemSuite
  | .candidate => kemSuite
  | .eaePrk => kemSuite
  | .sharedSecret => kemSuite
  | _ => hpkeSuite

def label : Purpose -> Bytes
  | .dkpPrk => ascii "dkp_prk"
  | .candidate => ascii "candidate"
  | .eaePrk => ascii "eae_prk"
  | .sharedSecret => ascii "shared_secret"
  | .pskIdHash => ascii "psk_id_hash"
  | .infoHash => ascii "info_hash"
  | .secret => ascii "secret"
  | .key => ascii "key"
  | .baseNonce => ascii "base_nonce"
  | .exporter => ascii "exp"

/-- How many octets an expansion gives; the others are extracted. -/
def size : Purpose -> Option Nat
  | .candidate => some 32
  | .sharedSecret => some 32
  | .key => some 16
  | .baseNonce => some 12
  | .exporter => some 32
  | _ => none

/-- What a message of this purpose begins with. -/
def opening (p : Purpose) : Bytes :=
  p.size.elim [] (bigEndian 2) ++ hpkeVersion ++ p.suiteId ++ p.label

/-- The message of which the HMAC is taken. -/
def message (p : Purpose) (input : Bytes) : Bytes :=
  p.opening ++ (input ++ p.size.elim [] fun _ => [1])

theorem prefixFree_opening : Coding.PrefixFree opening := by
  intro p q h
  have hopens : p.opening.isPrefixOf q.opening = true :=
    List.isPrefixOf_iff_prefix.mpr h
  revert hopens
  cases p <;> cases q <;> decide

/-- A message tells its purpose and its input. -/
theorem message_inj {p q : Purpose} {input input' : Bytes}
    (h : p.message input = q.message input') : p = q ∧ input = input' := by
  rcases prefixFree_opening.append_inj h with ⟨hpq, hrest⟩
  subst hpq
  exact ⟨rfl, List.append_cancel_right hrest⟩

theorem size_le {p : Purpose} {n : Nat} (h : p.size = some n) : n ≤ 32 := by
  cases p <;> cases h <;> decide

end Purpose

section Labels

variable (hash : Sha256)

theorem labeledExtract_eq {p : Purpose} (h : p.size = none) (salt ikm : Bytes) :
    labeledExtract hash p.suiteId salt p.label ikm =
      hkdfExtract hash salt (p.message ikm) := by
  unfold labeledExtract Purpose.message Purpose.opening
  rw [h]
  simp only [Option.elim_none, List.nil_append, List.append_nil]

theorem labeledExpand_eq {p : Purpose} {n : Nat} (h : p.size = some n)
    (prk info : Bytes) :
    labeledExpand hash p.suiteId prk p.label info n =
      .ok ((hash.hmac prk (p.message info)).take n) := by
  have hn := Purpose.size_le h
  have hsize : toBytesBig n 2 = .ok (bigEndian 2 n) :=
    if_pos (by omega)
  unfold labeledExpand Purpose.message Purpose.opening
  rw [hsize, h]
  refine (hkdfExpand_block hn).trans ?_
  simp only [Option.elim_some, List.append_assoc]

end Labels

/-!
## One nonce for each message
-/

theorem fromBytesBig_lt (octets : Bytes) :
    fromBytesBig octets < 256 ^ octets.length := by
  induction octets using List.reverseRecOn with
  | nil => exact Nat.one_pos
  | append_singleton octets b ih =>
      have hb := b.isLt
      rw [fromBytesBig_append, List.length_append, List.length_singleton,
        Nat.pow_succ]
      omega

theorem bigEndian_inj {length m n : Nat} (hm : m < 256 ^ length)
    (hn : n < 256 ^ length) (h : bigEndian length m = bigEndian length n) :
    m = n := by
  have hvalue := congrArg fromBytesBig h
  rw [fromBytesBig_bigEndian, fromBytesBig_bigEndian, Nat.mod_eq_of_lt hm,
    Nat.mod_eq_of_lt hn] at hvalue
  exact hvalue

theorem messageNonce_inj {baseNonce nonce : Bytes} {s t : Int}
    (hs : messageNonce baseNonce s = .ok nonce)
    (ht : messageNonce baseNonce t = .ok nonce) : s = t := by
  cases s with
  | negSucc m => cases hs
  | ofNat m =>
      cases t with
      | negSucc n => cases ht
      | ofNat n =>
          rcases toBytesBig_eq_ok.mp hs with ⟨hm, hmnonce⟩
          rcases toBytesBig_eq_ok.mp ht with ⟨hn, hnnonce⟩
          have hxor := bigEndian_inj hm hn (hmnonce.trans hnnonce.symm)
          rw [Nat.xor_right_injective hxor]

/-- There are as many messages as the nonce has values. -/
theorem exists_messageNonce {baseNonce : Bytes} {s : Int} :
    (exists nonce, messageNonce baseNonce s = .ok nonce) <->
      0 ≤ s ∧ s < 256 ^ baseNonce.length := by
  cases s with
  | negSucc m =>
      refine iff_of_false ?_ fun h => absurd h.left (Int.negSucc_lt_zero m).not_ge
      intro hparts
      rcases hparts with ⟨nonce, h⟩
      cases h
  | ofNat m =>
      have hbase := fromBytesBig_lt baseNonce
      have hpow : 256 ^ baseNonce.length = 2 ^ (8 * baseNonce.length) := by
        rw [Nat.pow_mul]
      have hbound : fromBytesBig baseNonce ^^^ m < 256 ^ baseNonce.length <->
          m < 256 ^ baseNonce.length := by
        rw [hpow] at hbase ⊢
        constructor
        · intro h
          have hback := Nat.xor_lt_two_pow hbase h
          rwa [Nat.xor_xor_cancel_left] at hback
        · exact Nat.xor_lt_two_pow hbase
      constructor
      · intro hparts
        rcases hparts with ⟨nonce, h⟩
        have hm := hbound.mp (toBytesBig_eq_ok.mp h).left
        have hcast := Int.ofNat_lt.mpr hm
        rw [Int.natCast_pow] at hcast
        exact ⟨Int.natCast_nonneg m, hcast⟩
      · intro hparts
        rcases hparts with ⟨_, h⟩
        have hcast : (m : Int) < ((256 ^ baseNonce.length : Nat) : Int) := by
          rw [Int.natCast_pow]
          exact h
        exact ⟨_, toBytesBig_eq_ok.mpr ⟨hbound.mpr (Int.ofNat_lt.mp hcast), rfl⟩⟩

/-- Whatever the schedule derives is the HMAC of a message of its own, and every
message that can be sent has a nonce of its own. -/
theorem key_schedule_separates (hash : Sha256) :
    (forall (p : Purpose) (salt ikm : Bytes), p.size = none ->
        labeledExtract hash p.suiteId salt p.label ikm =
          hkdfExtract hash salt (p.message ikm)) ∧
      (forall (p : Purpose) (prk info : Bytes) (n : Nat), p.size = some n ->
        labeledExpand hash p.suiteId prk p.label info n =
          .ok ((hash.hmac prk (p.message info)).take n)) ∧
      (forall (p q : Purpose) (input input' : Bytes),
        p.message input = q.message input' -> p = q ∧ input = input') ∧
      forall (baseNonce : Bytes) (s t : Int),
        ((exists nonce, messageNonce baseNonce s = .ok nonce) <->
          0 ≤ s ∧ s < 256 ^ baseNonce.length) ∧
        forall nonce, messageNonce baseNonce s = .ok nonce ->
          messageNonce baseNonce t = .ok nonce -> s = t :=
  ⟨fun _ salt ikm h => labeledExtract_eq hash h salt ikm,
    fun _ prk info _ h => labeledExpand_eq hash h prk info,
    fun _ _ _ _ h => Purpose.message_inj h,
    fun _ _ _ => ⟨exists_messageNonce, fun _ hs ht => messageNonce_inj hs ht⟩⟩

end Conformance
end EidolonSdk
