import EidolonSdk.Conformance.KeySchedule
import EidolonSdk.Support.HexText

/-!
# The sealed message vector

A golden vector records one message sealed from a sender to a recipient: both key
pairs with the seeds they come from, the shared secret, every value of the key
schedule, the nonce and the ciphertext.  The check derives all of it again, and
what passes is a message the recipient can open.
-/

namespace EidolonSdk
namespace Conformance

open Python DeviceFoundation Support

/-!
## The check
-/

section Check

variable (P : HpkePrimitives)

/-- A vector that has its members. -/
structure HpkeVector where
  mode : Int
  kemId : Int
  kdfId : Int
  aeadId : Int
  ikmE : PyStr
  ikmR : PyStr
  pkEm : PyStr
  pkRm : PyStr
  skEm : PyStr
  skRm : PyStr
  enc : PyStr
  sharedSecret : PyStr
  info : PyStr
  keyScheduleContext : PyStr
  secret : PyStr
  key : PyStr
  baseNonce : PyStr
  exporterSecret : PyStr
  sequenceNumber : Int
  nonce : PyStr
  plaintext : PyStr
  aad : PyStr
  ciphertext : PyStr

/-- {lit}`raise ConformanceError(f"RFC 9180 \x7bname\x7d mismatch")` unless equal. -/
def agree (name : String) (actual : Bytes) (recorded : PyStr) :
    Except VectorFailure Unit :=
  ensure (hex actual = recorded) (str "RFC 9180 " ++ str name ++ str " mismatch")

/-- {lit}`check_hpke_vector`. -/
def checkHpkeVector (vector : HpkeVector) : Except VectorFailure Nat := do
  ensure ((vector.mode, vector.kemId, vector.kdfId, vector.aeadId) =
      ((0, 16, 1, 1) : Int × Int × Int × Int))
    (str "RFC 9180 vector does not use the frozen ciphersuite")
  let ikmE ← foreign (fromHex vector.ikmE)
  let skE ← deriveP256Key P ikmE
  let ikmR ← foreign (fromHex vector.ikmR)
  let skR ← deriveP256Key P ikmR
  let pkE := P.serializePublic (P.publicKey skE)
  let pkR := P.serializePublic (P.publicKey skR)
  ensure (hex pkE = vector.pkEm ∧ hex pkR = vector.pkRm)
    (str "RFC 9180 DeriveKeyPair mismatch")
  let scalarE ← foreign (toBytesBig (P.privateValue skE) 32)
  ensure (hex scalarE = vector.skEm) (str "RFC 9180 sender private key mismatch")
  let scalarR ← foreign (toBytesBig (P.privateValue skR) 32)
  ensure (hex scalarR = vector.skRm) (str "RFC 9180 recipient private key mismatch")
  let dh ← foreign (P.exchange skE (P.publicKey skR))
  let eaePrk := labeledExtract P.hash kemSuite [] (ascii "eae_prk") dh
  let sharedSecret ← foreign (labeledExpand P.hash kemSuite eaePrk
    (ascii "shared_secret") (pkE ++ pkR) 32)
  ensure (hex sharedSecret = vector.sharedSecret ∧ hex pkE = vector.enc)
    (str "RFC 9180 DHKEM mismatch")
  let info ← foreign (fromHex vector.info)
  let pskIdHash := labeledExtract P.hash hpkeSuite [] (ascii "psk_id_hash") []
  let infoHash := labeledExtract P.hash hpkeSuite [] (ascii "info_hash") info
  let context := [0] ++ pskIdHash ++ infoHash
  let secret := labeledExtract P.hash hpkeSuite sharedSecret (ascii "secret") []
  let key ← foreign (labeledExpand P.hash hpkeSuite secret (ascii "key") context 16)
  let nonce ← foreign (labeledExpand P.hash hpkeSuite secret (ascii "base_nonce")
    context 12)
  let exporter ← foreign (labeledExpand P.hash hpkeSuite secret (ascii "exp")
    context 32)
  agree "key_schedule_context" context vector.keyScheduleContext
  agree "secret" secret vector.secret
  agree "key" key vector.key
  agree "base_nonce" nonce vector.baseNonce
  agree "exporter_secret" exporter vector.exporterSecret
  let derivedNonce ← foreign (messageNonce nonce vector.sequenceNumber)
  ensure (hex derivedNonce = vector.nonce)
    (str "RFC 9180 message nonce is not base_nonce XOR the sequence number")
  let plaintext ← foreign (fromHex vector.plaintext)
  let aad ← foreign (fromHex vector.aad)
  let ciphertext ← foreign (P.encrypt key derivedNonce plaintext aad)
  ensure (hex ciphertext = vector.ciphertext)
    (str "RFC 9180 AES-128-GCM ciphertext mismatch")
  .ok 1

end Check

/-!
## The message that is recorded
-/

/-- What both sides derive from a shared secret. -/
structure Schedule where
  context : Bytes
  secret : Bytes
  key : Bytes
  baseNonce : Bytes
  exporter : Bytes

section Scheme

variable (hash : Sha256)

def schedule (sharedSecret info : Bytes) : Schedule :=
  let context := [0] ++ hkdfExtract hash [] (Purpose.pskIdHash.message []) ++
    hkdfExtract hash [] (Purpose.infoHash.message info)
  let secret := hkdfExtract hash sharedSecret (Purpose.secret.message [])
  { context := context
    secret := secret
    key := (hash.hmac secret (Purpose.key.message context)).take 16
    baseNonce := (hash.hmac secret (Purpose.baseNonce.message context)).take 12
    exporter := (hash.hmac secret (Purpose.exporter.message context)).take 32 }

/-- The shared secret of two key pairs. -/
def agreedSecret (dh enc recipient : Bytes) : Bytes :=
  (hash.hmac (hkdfExtract hash [] (Purpose.eaePrk.message dh))
    (Purpose.sharedSecret.message (enc ++ recipient))).take 32

/-- The number a candidate stands for. -/
def candidateScalar (prk : Bytes) (counter : Nat) : Nat :=
  fromBytesBig ((hash.hmac prk (Purpose.candidate.message [byte counter])).take 32)

def IsScalar (n : Nat) : Prop :=
  0 < n ∧ n < p256Order

instance (n : Nat) : Decidable (IsScalar n) :=
  inferInstanceAs (Decidable (_ ∧ _))

/-- The first candidate of a seed that is a scalar. -/
def FirstScalar (ikm : Bytes) (scalar : Nat) : Prop :=
  exists counter, counter < 256 ∧
    scalar = candidateScalar hash
      (hkdfExtract hash [] (Purpose.dkpPrk.message ikm)) counter ∧
    IsScalar scalar ∧
    forall earlier, earlier < counter -> ¬ IsScalar (candidateScalar hash
      (hkdfExtract hash [] (Purpose.dkpPrk.message ikm)) earlier)

theorem FirstScalar.isScalar {hash : Sha256} {ikm : Bytes} {scalar : Nat}
    (h : FirstScalar hash ikm scalar) : IsScalar scalar := by
  rcases h with ⟨_, _, _, hscalar, _⟩
  exact hscalar

end Scheme

/-- The laws of the packages: a pair of keys agrees on one secret either way, a
point is read as it was written, and what is encrypted can be decrypted. -/
structure HpkePrimitives.Recipient (P : HpkePrimitives) where
  readPublic : Bytes -> Except PyException P.PublicKey
  decrypt : Bytes -> Bytes -> Bytes -> Bytes -> Except PyException Bytes
  privateValue_derive : forall scalar, IsScalar scalar ->
    P.privateValue (P.derivePrivateKey scalar) = scalar
  exchange_comm : forall a b,
    P.exchange a (P.publicKey b) = P.exchange b (P.publicKey a)
  readPublic_serialize : forall key, readPublic (P.serializePublic key) = .ok key
  decrypt_encrypt : forall key nonce data aad ciphertext,
    P.encrypt key nonce data aad = .ok ciphertext ->
      decrypt key nonce ciphertext aad = .ok data

/-- One message and the keys it is sealed with. -/
structure SealedMessage where
  ikmE : Bytes
  ikmR : Bytes
  scalarE : Nat
  scalarR : Nat
  dh : Bytes
  info : Bytes
  nonce : Bytes
  plaintext : Bytes
  aad : Bytes
  ciphertext : Bytes

namespace SealedMessage

variable (P : HpkePrimitives) (m : SealedMessage)

def pkE : Bytes :=
  P.serializePublic (P.publicKey (P.derivePrivateKey m.scalarE))

def pkR : Bytes :=
  P.serializePublic (P.publicKey (P.derivePrivateKey m.scalarR))

def sharedSecret : Bytes :=
  agreedSecret P.hash m.dh (m.pkE P) (m.pkR P)

def schedule : Schedule :=
  Conformance.schedule P.hash (m.sharedSecret P) m.info

end SealedMessage

/-- The vector records this message. -/
structure Records (P : HpkePrimitives) (vector : HpkeVector) (m : SealedMessage) :
    Prop where
  suite : (vector.mode, vector.kemId, vector.kdfId, vector.aeadId) =
    ((0, 16, 1, 1) : Int × Int × Int × Int)
  ikmE : fromHex vector.ikmE = .ok m.ikmE
  ikmR : fromHex vector.ikmR = .ok m.ikmR
  scalarE : FirstScalar P.hash m.ikmE m.scalarE
  scalarR : FirstScalar P.hash m.ikmR m.scalarR
  pkEm : hex (m.pkE P) = vector.pkEm
  pkRm : hex (m.pkR P) = vector.pkRm
  skEm : hex (bigEndian 32 m.scalarE) = vector.skEm
  skRm : hex (bigEndian 32 m.scalarR) = vector.skRm
  enc : hex (m.pkE P) = vector.enc
  dh : P.exchange (P.derivePrivateKey m.scalarE)
    (P.publicKey (P.derivePrivateKey m.scalarR)) = .ok m.dh
  sharedSecret : hex (m.sharedSecret P) = vector.sharedSecret
  info : fromHex vector.info = .ok m.info
  context : hex (m.schedule P).context = vector.keyScheduleContext
  secret : hex (m.schedule P).secret = vector.secret
  key : hex (m.schedule P).key = vector.key
  baseNonce : hex (m.schedule P).baseNonce = vector.baseNonce
  exporter : hex (m.schedule P).exporter = vector.exporterSecret
  nonce : messageNonce (m.schedule P).baseNonce vector.sequenceNumber = .ok m.nonce
  nonceText : hex m.nonce = vector.nonce
  plaintext : fromHex vector.plaintext = .ok m.plaintext
  aad : fromHex vector.aad = .ok m.aad
  ciphertext : P.encrypt (m.schedule P).key m.nonce m.plaintext m.aad =
    .ok m.ciphertext
  ciphertextText : hex m.ciphertext = vector.ciphertext

/-- The recipient's side: its own private key, and what travels with the message. -/
def openSealed {P : HpkePrimitives} (R : P.Recipient) (vector : HpkeVector) :
    Except PyException Bytes := do
  let scalar ← fromHex vector.skRm
  let skR := P.derivePrivateKey (fromBytesBig scalar)
  let enc ← fromHex vector.enc
  let pkE ← R.readPublic enc
  let dh ← P.exchange skR pkE
  let info ← fromHex vector.info
  let derived := schedule P.hash
    (agreedSecret P.hash dh enc (P.serializePublic (P.publicKey skR))) info
  let nonce ← messageNonce derived.baseNonce vector.sequenceNumber
  let ciphertext ← fromHex vector.ciphertext
  let aad ← fromHex vector.aad
  R.decrypt derived.key nonce ciphertext aad

/-!
## What passes
-/

section Passes

variable {P : HpkePrimitives}

theorem foreign_ok {α : Type} (a : α) : foreign (.ok a) = .ok a := rfl

theorem deriveFrom_eq {prk : Bytes} {counters : List Nat}
    (h : forall counter, counter ∈ counters -> counter < 256) :
    deriveFrom P prk counters =
      (counters.find? fun counter =>
          decide (IsScalar (candidateScalar P.hash prk counter))).elim
        (.error (.conformanceError (str "RFC 9180 P-256 DeriveKeyPair exhausted")))
        fun counter =>
          .ok (P.derivePrivateKey (candidateScalar P.hash prk counter)) := by
  induction counters with
  | nil => rfl
  | cons counter counters ih =>
      have hcounter := h counter List.mem_cons_self
      have hrest := ih fun c hc => h c (List.mem_cons_of_mem _ hc)
      have hmark : oneOctet counter = .ok [byte counter] := if_pos hcounter
      have hcandidate : labeledExpand P.hash kemSuite prk (ascii "candidate")
          [byte counter] 32 = .ok ((P.hash.hmac prk
            (Purpose.candidate.message [byte counter])).take 32) :=
        labeledExpand_eq P.hash (p := .candidate) rfl prk [byte counter]
      have hstep : deriveFrom P prk (counter :: counters) =
          if IsScalar (candidateScalar P.hash prk counter) then
            .ok (P.derivePrivateKey (candidateScalar P.hash prk counter))
          else deriveFrom P prk counters := by
        rw [deriveFrom, hmark, foreign_ok, Logic.ok_bind, hcandidate, foreign_ok,
          Logic.ok_bind]
        rfl
      rw [hstep, List.find?_cons]
      by_cases hscalar : IsScalar (candidateScalar P.hash prk counter)
      · rw [if_pos hscalar, decide_eq_true hscalar]
        rfl
      · rw [if_neg hscalar, decide_eq_false hscalar]
        exact hrest

theorem deriveP256Key_eq_ok {ikm : Bytes} {key : P.PrivateKey} :
    deriveP256Key P ikm = .ok key <->
      exists scalar, FirstScalar P.hash ikm scalar ∧
        P.derivePrivateKey scalar = key := by
  have hprk : labeledExtract P.hash kemSuite [] (ascii "dkp_prk") ikm =
      hkdfExtract P.hash [] (Purpose.dkpPrk.message ikm) :=
    labeledExtract_eq P.hash (p := .dkpPrk) rfl [] ikm
  unfold deriveP256Key FirstScalar
  rw [hprk, deriveFrom_eq fun counter hcounter => List.mem_range.mp hcounter]
  generalize hkdfExtract P.hash [] (Purpose.dkpPrk.message ikm) = prk
  constructor
  · intro h
    cases hfind : (List.range 256).find? fun counter =>
        decide (IsScalar (candidateScalar P.hash prk counter)) with
    | none =>
        rw [hfind] at h
        cases h
    | some counter =>
        rw [hfind] at h
        rcases List.find?_range_eq_some.mp hfind with ⟨hscalar, hcounter, hearlier⟩
        refine ⟨_, ⟨counter, List.mem_range.mp hcounter, rfl,
          of_decide_eq_true hscalar, fun earlier hlt hof => ?_⟩, Except.ok.inj h⟩
        have hnot := hearlier earlier hlt
        rw [decide_eq_true hof] at hnot
        cases hnot
  · intro hparts
    rcases hparts with ⟨scalar, ⟨counter, hcounter, rfl, hscalar, hearlier⟩, rfl⟩
    have hfind : ((List.range 256).find? fun counter =>
        decide (IsScalar (candidateScalar P.hash prk counter))) = some counter := by
      refine List.find?_range_eq_some.mpr ⟨decide_eq_true hscalar,
        List.mem_range.mpr hcounter, fun earlier hlt => ?_⟩
      rw [decide_eq_false (hearlier earlier hlt)]
      rfl
    rw [hfind]
    rfl

theorem agree_eq_ok {name : String} {actual : Bytes} {recorded : PyStr} {u : Unit} :
    agree name actual recorded = .ok u <-> hex actual = recorded :=
  ensure_eq_ok

/-- The check passes exactly on the record of a message. -/
theorem checkHpkeVector_eq_ok (R : P.Recipient) {vector : HpkeVector} :
    checkHpkeVector P vector = .ok 1 <-> exists m, Records P vector m := by
  have hshared : forall prk info, labeledExpand P.hash kemSuite prk
      (ascii "shared_secret") info 32 =
        .ok ((P.hash.hmac prk (Purpose.sharedSecret.message info)).take 32) :=
    labeledExpand_eq P.hash (p := .sharedSecret) rfl
  have hkey : forall prk info, labeledExpand P.hash hpkeSuite prk (ascii "key") info 16 =
      .ok ((P.hash.hmac prk (Purpose.key.message info)).take 16) :=
    labeledExpand_eq P.hash (p := .key) rfl
  have hbase : forall prk info, labeledExpand P.hash hpkeSuite prk
      (ascii "base_nonce") info 12 =
        .ok ((P.hash.hmac prk (Purpose.baseNonce.message info)).take 12) :=
    labeledExpand_eq P.hash (p := .baseNonce) rfl
  have hexporter : forall prk info, labeledExpand P.hash hpkeSuite prk (ascii "exp")
      info 32 = .ok ((P.hash.hmac prk (Purpose.exporter.message info)).take 32) :=
    labeledExpand_eq P.hash (p := .exporter) rfl
  have hscalar : forall scalar, IsScalar scalar ->
      toBytesBig (P.privateValue (P.derivePrivateKey scalar)) 32 =
        .ok (bigEndian 32 scalar) := by
    intro scalar h
    rw [R.privateValue_derive scalar h]
    exact if_pos (h.right.trans (by decide))
  have heaePrk : forall ikm, labeledExtract P.hash kemSuite [] (ascii "eae_prk") ikm =
      hkdfExtract P.hash [] (Purpose.eaePrk.message ikm) :=
    labeledExtract_eq P.hash (p := .eaePrk) rfl []
  have hpskIdHash : forall ikm, labeledExtract P.hash hpkeSuite []
      (ascii "psk_id_hash") ikm =
        hkdfExtract P.hash [] (Purpose.pskIdHash.message ikm) :=
    labeledExtract_eq P.hash (p := .pskIdHash) rfl []
  have hinfoHash : forall ikm, labeledExtract P.hash hpkeSuite []
      (ascii "info_hash") ikm =
        hkdfExtract P.hash [] (Purpose.infoHash.message ikm) :=
    labeledExtract_eq P.hash (p := .infoHash) rfl []
  have hsecret : forall salt ikm, labeledExtract P.hash hpkeSuite salt
      (ascii "secret") ikm =
        hkdfExtract P.hash salt (Purpose.secret.message ikm) :=
    labeledExtract_eq P.hash (p := .secret) rfl
  unfold checkHpkeVector
  simp only [Logic.bind_eq_ok, foreign_eq_ok, ensure_eq_ok, agree_eq_ok,
    deriveP256Key_eq_ok, hshared, hkey, hbase, hexporter, heaePrk, hpskIdHash,
    hinfoHash, hsecret, Except.ok.injEq, exists_eq_left', exists_const,
    and_true]
  constructor
  · intro hparts
    rcases hparts with ⟨hsuite, ikmE, hikmE, _, ⟨scalarE, hscalarE, rfl⟩, ikmR, hikmR,
      _, ⟨scalarR, hscalarR, rfl⟩, ⟨hpkEm, hpkRm⟩, octetsE, hoctetsE, hskEm, octetsR,
      hoctetsR, hskRm, dh, hdh, ⟨hsharedText, henc⟩, info, hinfo, hcontext,
      hsecretText, hkeyText, hbaseText, hexporterText, nonce, hnonce, hnonceText,
      plaintext, hplaintext, aad, haad, ciphertext, hciphertext, hciphertextText⟩
    rw [hscalar scalarE hscalarE.isScalar] at hoctetsE
    rw [hscalar scalarR hscalarR.isScalar] at hoctetsR
    rw [← Except.ok.inj hoctetsE] at hskEm
    rw [← Except.ok.inj hoctetsR] at hskRm
    exact ⟨⟨ikmE, ikmR, scalarE, scalarR, dh, info, nonce, plaintext, aad, ciphertext⟩,
      { suite := hsuite
        ikmE := hikmE
        ikmR := hikmR
        scalarE := hscalarE
        scalarR := hscalarR
        pkEm := hpkEm
        pkRm := hpkRm
        skEm := hskEm
        skRm := hskRm
        enc := henc
        dh := hdh
        sharedSecret := hsharedText
        info := hinfo
        context := hcontext
        secret := hsecretText
        key := hkeyText
        baseNonce := hbaseText
        exporter := hexporterText
        nonce := hnonce
        nonceText := hnonceText
        plaintext := hplaintext
        aad := haad
        ciphertext := hciphertext
        ciphertextText := hciphertextText }⟩
  · intro hparts
    rcases hparts with ⟨m, h⟩
    exact ⟨h.suite, m.ikmE, h.ikmE, _, ⟨m.scalarE, h.scalarE, rfl⟩, m.ikmR, h.ikmR,
      _, ⟨m.scalarR, h.scalarR, rfl⟩, ⟨h.pkEm, h.pkRm⟩, _,
      hscalar m.scalarE h.scalarE.isScalar, h.skEm, _,
      hscalar m.scalarR h.scalarR.isScalar, h.skRm, m.dh, h.dh,
      ⟨h.sharedSecret, h.enc⟩, m.info, h.info, h.context, h.secret, h.key, h.baseNonce,
      h.exporter, m.nonce, h.nonce, h.nonceText, m.plaintext, h.plaintext, m.aad, h.aad,
      m.ciphertext, h.ciphertext, h.ciphertextText⟩

/-- The recipient derives what the sender derived. -/
theorem openSealed_eq_ok (R : P.Recipient) {vector : HpkeVector} {m : SealedMessage}
    (h : Records P vector m) : openSealed R vector = .ok m.plaintext := by
  have hscalarR := h.scalarR.isScalar
  have hlt : m.scalarR < 256 ^ 32 := hscalarR.right.trans (by decide)
  have hskRm : fromHex vector.skRm = .ok (bigEndian 32 m.scalarR) := by
    rw [← h.skRm]
    exact fromHex_hex _
  have henc : fromHex vector.enc = .ok (m.pkE P) := by
    rw [← h.enc]
    exact fromHex_hex _
  have hciphertext : fromHex vector.ciphertext = .ok m.ciphertext := by
    rw [← h.ciphertextText]
    exact fromHex_hex _
  have hdh := h.dh
  rw [R.exchange_comm] at hdh
  unfold openSealed
  rw [hskRm, Logic.ok_bind, henc, Logic.ok_bind, SealedMessage.pkE,
    R.readPublic_serialize, Logic.ok_bind]
  dsimp only
  rw [fromBytesBig_bigEndian, Nat.mod_eq_of_lt hlt, hdh, Logic.ok_bind, h.info,
    Logic.ok_bind]
  refine (congrArg (fun x => x >>= _) h.nonce).trans ?_
  rw [Logic.ok_bind, hciphertext, Logic.ok_bind, h.aad, Logic.ok_bind]
  exact R.decrypt_encrypt _ _ _ _ _ h.ciphertext

end Passes

/-!
### A recorded message

The keys, values and octets of the published vector for this ciphersuite.
-/

def senderScalar : Nat :=
  0x4995788ef4b9d6132b249ce59a77281493eb39af373d236a1fe415cb0c2d7beb

def recipientScalar : Nat :=
  0xf3ce7fdae57e1a310d87f1ebbde6f328be0a99cdbcadf4d6589cf29de4b8ffd2

/-- A point that is written out, as a number of 65 octets. -/
def uncompressed (x y : Nat) : Nat :=
  (0x04 * 256 ^ 32 + x) * 256 ^ 32 + y

def senderPoint : Nat := uncompressed
  0xa92719c6195d5085104f469a8b9814d5838ff72b60501e2c4466e5e67b325ac9
  0x8536d7b61a1af4b78e5b7f951c0900be863c403ce65c9bfcb9382657222d18c4

def recipientPoint : Nat := uncompressed
  0xfe8c19ce0905191ebc298a9245792531f26f0cece2460639e8bc39cb7f706a82
  0x6a779b4cf969b8a0e539c7f62fb3d30ad6aa8f80e30f1d128aafd68a2ce72ea0

abbrev Scalar := Fin p256Order

instance neZeroOrder : @NeZero Nat Zero.ofOfNat0 p256Order := ⟨by decide⟩

/-- A point known by its multiple is written as the number of that multiple, unless
it is one of the two. -/
def pointNumber (key : Scalar) : Nat :=
  if key.val = senderScalar then senderPoint
  else if key.val = recipientScalar then recipientPoint
  else key.val

def readPoint (octets : Bytes) : Except PyException Scalar :=
  let n := fromBytesBig octets
  if n = senderPoint then .ok (Fin.ofNat p256Order senderScalar)
  else if n = recipientPoint then .ok (Fin.ofNat p256Order recipientScalar)
  else if h : n < p256Order then .ok ⟨n, h⟩
  else .error .valueError

theorem pointNumber_lt (key : Scalar) : pointNumber key < 256 ^ 65 := by
  have hkey : key.val < 256 ^ 65 := key.isLt.trans (by decide)
  unfold pointNumber
  split
  · decide
  · split
    · decide
    · exact hkey

theorem readPoint_pointNumber (key : Scalar) :
    readPoint (bigEndian 65 (pointNumber key)) = .ok key := by
  unfold readPoint
  rw [fromBytesBig_bigEndian, Nat.mod_eq_of_lt (pointNumber_lt key)]
  unfold pointNumber
  by_cases hsender : key.val = senderScalar
  · rw [if_pos hsender, if_pos rfl, ← hsender, Fin.ofNat_val_eq_self]
  · rw [if_neg hsender]
    by_cases hrecipient : key.val = recipientScalar
    · rw [if_pos hrecipient, if_neg (by decide), if_pos rfl, ← hrecipient,
        Fin.ofNat_val_eq_self]
    · rw [if_neg hrecipient]
      have hlt := key.isLt
      have horder : p256Order < senderPoint ∧ p256Order < recipientPoint := by decide
      rw [if_neg (by omega), if_neg (by omega), dif_pos hlt]

/-- What two keys agree on goes by the product of their numbers. -/
def agreedPoint (key peer : Scalar) : Nat :=
  if (key * peer).val = senderScalar * recipientScalar % p256Order then
    0x13f918529458d2542531406888c8a6d4ea7ff473a6f4db452ac3c4ae1d01cea1
  else (key * peer).val

theorem agreedPoint_comm (key peer : Scalar) :
    agreedPoint key peer = agreedPoint peer key := by
  unfold agreedPoint
  rw [Fin.mul_comm]

/-- The key, the nonce and the additional data of the message. -/
def messageContext : Bytes × Bytes × Bytes := (
  bigEndian 16 0x868c066ef58aae6dc589b6cfdd18f97e,
  bigEndian 12 0x4e0bc5018beba4bf004cca59,
  bigEndian 7 0x436f756e742d30)

def messageText : Bytes :=
  bigEndian 29 0x4265617574792069732074727574682c20747275746820626561757479

/-- As long as the text, and the tag. -/
def messageSealed : Bytes :=
  bigEndian 29 0x5ad590bb8baa577f8619db35a36311226a896e7342a6d836d8b7bcd2f2 ++
    bigEndian 16 0x0b6c7f9076ac232e3ab2523f39513434

/-- AES-GCM of the message; other texts keep their octets. -/
def sealMessage (key nonce data aad : Bytes) : Bytes :=
  if (key, nonce, aad) = messageContext ∧ data = messageText then messageSealed
  else data ++ List.replicate 16 0

def openMessage (key nonce data aad : Bytes) : Bytes :=
  if (key, nonce, aad) = messageContext ∧ data = messageSealed then messageText
  else data.take (data.length - 16)

theorem openMessage_sealMessage (key nonce data aad : Bytes) :
    openMessage key nonce (sealMessage key nonce data aad) aad = data := by
  unfold sealMessage
  split
  · rename_i hmessage
    unfold openMessage
    rw [if_pos ⟨hmessage.left, rfl⟩, hmessage.right]
  · have hother : data ++ List.replicate 16 0 ≠ messageSealed := by
      intro heq
      have htag : messageSealed.getLast? = some 0 := by
        rw [← heq, List.getLast?_append_of_ne_nil _ (by decide)]
        rfl
      revert htag
      decide
    unfold openMessage
    rw [if_neg fun hboth => hother hboth.right, List.length_append,
      List.length_replicate, Nat.add_sub_cancel, List.take_left]

def sealedPrimitives : HpkePrimitives where
  hash := sha256
  PrivateKey := Scalar
  PublicKey := Scalar
  derivePrivateKey scalar := Fin.ofNat p256Order scalar
  privateValue key := key.val
  publicKey key := key
  exchange key peer := .ok (bigEndian 32 (agreedPoint key peer))
  serializePublic key := bigEndian 65 (pointNumber key)
  encrypt key nonce data aad := .ok (sealMessage key nonce data aad)

def sealedRecipient : sealedPrimitives.Recipient where
  readPublic := readPoint
  decrypt key nonce data aad := .ok (openMessage key nonce data aad)
  privateValue_derive _ h := Nat.mod_eq_of_lt h.right
  exchange_comm a b := congrArg (fun n => Except.ok (bigEndian 32 n))
    (agreedPoint_comm a b)
  readPublic_serialize := readPoint_pointNumber
  decrypt_encrypt key nonce data aad _ h := by
    rw [← Except.ok.inj h, openMessage_sealMessage]

def sealedVector : HpkeVector where
  mode := 0
  kemId := 16
  kdfId := 1
  aeadId := 1
  ikmE := hex (bigEndian 32
    0x4270e54ffd08d79d5928020af4686d8f6b7d35dbe470265f1f5aa22816ce860e)
  ikmR := hex (bigEndian 32
    0x668b37171f1072f3cf12ea8a236a45df23fc13b82af3609ad1e354f6ef817550)
  pkEm := hex (bigEndian 65 senderPoint)
  pkRm := hex (bigEndian 65 recipientPoint)
  skEm := hex (bigEndian 32 senderScalar)
  skRm := hex (bigEndian 32 recipientScalar)
  enc := hex (bigEndian 65 senderPoint)
  sharedSecret := hex (bigEndian 32
    0xc0d26aeab536609a572b07695d933b589dcf363ff9d93c93adea537aeabb8cb8)
  info := hex (bigEndian 20 0x4f6465206f6e2061204772656369616e2055726e)
  keyScheduleContext := hex (0 :: (
    bigEndian 32 0xb88d4e6d91759e65e87c470e8b9141113e9ad5f0c8ceefc1e088c82e69805007 ++
    bigEndian 32 0x98e486f9c9c09c9b5c753ac72d6005de254c607d1b534ed11d493ae1c1d9ac85))
  secret := hex (bigEndian 32
    0x2eb7b6bf138f6b5aff857414a058a3f1750054a9ba1f72c2cf0684a6f20b10e1)
  key := hex messageContext.fst
  baseNonce := hex messageContext.snd.fst
  exporterSecret := hex (bigEndian 32
    0x14ad94af484a7ad3ef40e9f3be99ecc6fa9036df9d4920548424df127ee0d99f)
  sequenceNumber := 0
  nonce := hex messageContext.snd.fst
  plaintext := hex messageText
  aad := hex messageContext.snd.snd
  ciphertext := hex messageSealed

end Conformance
end EidolonSdk
