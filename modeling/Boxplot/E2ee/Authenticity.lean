import Mathlib
import Boxplot.E2ee.Service
/-!
# Who sealed what is accepted

The box is taken as ideal: it opens only what was sealed under the same two
keys and nonce. Honest parties seal through `encrypt_for`, with whatever
identities and pins their stores hold; anyone else seals as they like, with
keys that no honest party has, and hands over any envelope.

The key of a box is the same for both directions, and the outer fields of an
envelope are not sealed. What ties an accepted payload to its sender is that
the two keys leave only honest sealers, that an honest sealer writes its own
identity and its recipient's into the payload, and that both are compared.
-/

namespace Boxplot.E2ee

open Lib

/-! ## The history of the box -/

/-- A sealed box: the two keys, in no order, and what went in and out. -/
structure Sealing where
  keys : Sym2 Key
  nonce : Nonce
  plaintext : List UInt8
  ciphertext : List UInt8

inductive Act
  /-- An honest party's `encrypt_for` returned an envelope. -/
  | encrypted (store : E2eeKeyStore) (request : EncryptRequest) (nonce : Nonce) (envelope : E2eeEnvelope)
  /-- Anyone else sealed a box with a key of theirs. -/
  | forged (privateKey publicKey : Key) (nonce : Nonce) (plaintext ciphertext : List UInt8)

section

variable (sodium : Sodium) (json : SerdeJson)

/-- What an act seals. -/
def Act.Seals : Act → Sealing → Prop
  | .encrypted store request nonce _, s => ∃ privateKey own recipient ciphertext,
      store.loadPrivateKey request.localIdentity = .ok (some privateKey) ∧ sodium.scalarmultBase privateKey = some own ∧
      store.loadPeerPublicKey request.localIdentity request.recipientIdentity = .ok (some recipient) ∧
      s = ⟨s(own, recipient), nonce, json.toVec request.payload.serialize, ciphertext⟩
  | .forged privateKey publicKey nonce plaintext ciphertext, s => ∃ own, sodium.scalarmultBase privateKey = some own ∧
      s = ⟨s(own, publicKey), nonce, plaintext, ciphertext⟩

/-- `honest identity key`: an honest party holds the private key of `key` as its identity. It has it from its own
store, and nobody else has it. -/
def Act.Possible (honest : String → Key → Prop) : Act → Prop
  | .encrypted store request nonce envelope => encryptFor sodium json store request nonce = .ok envelope ∧
      ∀ identity privateKey key, store.loadPrivateKey identity = .ok (some privateKey) →
        sodium.scalarmultBase privateKey = some key → honest identity key
  | .forged privateKey _ _ _ _ => ∀ key, sodium.scalarmultBase privateKey = some key → ∀ identity, ¬ honest identity key

/-- Opening succeeds only on what was sealed under the same keys and nonce. -/
def OpensOnlySealed (history : List Act) : Prop :=
  ∀ ciphertext nonce publicKey privateKey plaintext,
    sodium.open ciphertext nonce publicKey privateKey = some plaintext →
      ∃ own, sodium.scalarmultBase privateKey = some own ∧
        ∃ act ∈ history, act.Seals sodium json ⟨s(own, publicKey), nonce, plaintext, ciphertext⟩

/-- What was sealed can be opened from the other side, and keys of the right length are taken. -/
structure Sodium.Opens : Prop where
  opens : ∀ {plaintext nonce publicKey privateKey ciphertext own other},
    sodium.seal plaintext nonce publicKey privateKey = some ciphertext → sodium.scalarmultBase privateKey = some own →
      sodium.scalarmultBase other = some publicKey → sodium.open ciphertext nonce own other = some plaintext
  publicKeys : ∀ key, sodium.publicKeyFromBytes key = true
  secretKeys : ∀ key, sodium.secretKeyFromBytes key = true

/-- The text of a payload is read back as its value. -/
def SerdeJson.ReadsBack (payload : DecryptedPayload) : Prop :=
  json.fromSlice (json.toVec payload.serialize) = some payload.serialize

/-! ## Reading back -/

theorem deserialize_serialize (payload : DecryptedPayload) :
    DecryptedPayload.deserialize payload.serialize = some payload := by
  obtain ⟨version, sender, recipient, subject, text, html⟩ := payload
  have hdouble : doubleOf version.toNat = version.toNat := doubleOf_of_lt (version.toNat_lt.trans (by norm_num))
  have hversion : Reader.uint 256 UInt8.ofNat (some (.nat version.toNat)) = some version := by
    have hlt : version.toNat < 256 := version.toNat_lt
    simp [Reader.uint, hdouble, hlt]
  simp [DecryptedPayload.deserialize, DecryptedPayload.serialize, List.lookup, hversion]

theorem hasPayloadFields_serialize (payload : DecryptedPayload) : hasPayloadFields payload.serialize = true := by
  simp [DecryptedPayload.serialize, hasPayloadFields, List.lookup]

theorem payloadOf_toVec {json : SerdeJson} {payload : DecryptedPayload} (h : json.ReadsBack payload) :
    payloadOf json (json.toVec payload.serialize) = .ok payload := by
  have h : json.fromSlice (json.toVec payload.serialize) = some payload.serialize := h
  simp [payloadOf, h, hasPayloadFields_serialize, deserialize_serialize]

theorem decodeExact_encodeBytes (bytes : List UInt8) : urlSafeNoPad.decodeExact (encodeBytes bytes).toList = some bytes := by
  simp only [encodeBytes, String.toList_ofList]
  exact Base64Engine.decodeExact_encode rfl urlSafeNoPad_digit bytes

theorem decodeFixed_encode {n : Nat} (value : Fixed n) : decodeFixed n (encodeBytes value.1) = .ok value := by
  simp [decodeFixed, decodeExact_encodeBytes, value.2]

theorem decodePublicKey_encode (key : Key) : decodePublicKey (encodeKey key) = .ok key := by
  simp only [decodePublicKey, encodeKey, decodeFixed_encode]
  rfl

variable {sodium json}

/-- The envelope of `encrypt_for` is accepted under the matching identities and pins. -/
theorem decryptFrom_encryptFor (hopens : sodium.Opens) {senderStore recipientStore : E2eeKeyStore} {request : EncryptRequest}
    {nonce : Nonce} {envelope : E2eeEnvelope} (hjson : json.ReadsBack request.payload)
    (h : encryptFor sodium json senderStore request nonce = .ok envelope) {senderPublic recipientPrivate recipientPublic : Key}
    (hsender : ∀ privateKey, senderStore.loadPrivateKey request.localIdentity = .ok (some privateKey) →
      sodium.scalarmultBase privateKey = some senderPublic)
    (hpin : senderStore.loadPeerPublicKey request.localIdentity request.recipientIdentity = .ok (some recipientPublic))
    (hrecipient : recipientStore.loadPrivateKey request.recipientIdentity = .ok (some recipientPrivate))
    (hbase : sodium.scalarmultBase recipientPrivate = some recipientPublic)
    (hpinned : recipientStore.loadPeerPublicKey request.recipientIdentity request.localIdentity = .ok (some senderPublic)) :
    decryptFrom sodium json recipientStore
      ⟨request.recipientIdentity, request.localIdentity, request.recipientIdentity, request.subject, envelope⟩ =
        .ok request.payload := by
  obtain ⟨privateKey, own, pinned, ciphertext, hinit, hload, hown, hpeer, hseal, rfl⟩ := encryptFor_ok sodium json h
  obtain rfl : own = senderPublic := Option.some.inj (hown.symm.trans (hsender privateKey hload))
  obtain rfl : recipientPublic = pinned := Option.some.inj (Except.ok.inj (hpin.symm.trans hpeer))
  have hopen := hopens.opens hseal hown hbase
  have hdecrypt : ∀ sender recipient senderKey recipientKey, decrypt sodium json
      ⟨envelopeVersion, envelopeAlgorithm, sender, recipient, senderKey, recipientKey, encodeBytes nonce.1,
        encodeBytes ciphertext⟩ recipientPrivate own = .ok request.payload := by
    intro sender recipient senderKey recipientKey
    simp [decrypt, hinit, bind, Except.bind, decodeFixed_encode, decodeExact_encodeBytes, hopens.publicKeys,
      hopens.secretKeys, hopen, payloadOf_toVec hjson]
  have hpublic : publicFromPrivate sodium recipientPrivate = .ok recipientPublic :=
    (publicFromPrivate_eq_ok sodium).2 ⟨hinit, hbase⟩
  simp [decryptFrom, hrecipient, hpinned, okOr, hpublic, bind, Except.bind, decodePublicKey_encode, hdecrypt, acceptPayload,
    EncryptRequest.payload]

/-! ## Only the sender's own payloads -/

/-- A box of two honest keys was sealed by an honest party. -/
theorem sealed_by_honest {honest : String → Key → Prop} {history : List Act}
    (hhistory : ∀ act ∈ history, act.Possible sodium json honest) (hideal : OpensOnlySealed sodium json history)
    {ciphertext : List UInt8} {nonce : Nonce} {sender recipient : String} {senderKey recipientKey recipientPrivate : Key}
    {plaintext : List UInt8} (hopen : sodium.open ciphertext nonce senderKey recipientPrivate = some plaintext)
    (hbase : sodium.scalarmultBase recipientPrivate = some recipientKey) (hsender : honest sender senderKey)
    (hrecipient : honest recipient recipientKey) : ∃ store request nonce' envelope privateKey own pinned,
      .encrypted store request nonce' envelope ∈ history ∧ plaintext = json.toVec request.payload.serialize ∧
      store.loadPrivateKey request.localIdentity = .ok (some privateKey) ∧ sodium.scalarmultBase privateKey = some own ∧
      store.loadPeerPublicKey request.localIdentity request.recipientIdentity = .ok (some pinned) ∧
      s(own, pinned) = s(recipientKey, senderKey) := by
  obtain ⟨own, hown, act, hact, hseals⟩ := hideal _ _ _ _ _ hopen
  obtain rfl : recipientKey = own := Option.some.inj (hbase.symm.trans hown)
  cases act with
  | encrypted store request nonce' envelope =>
    obtain ⟨privateKey, own', pinned, c, hprivate, hown', hpin, hs⟩ := hseals
    simp only [Sealing.mk.injEq] at hs
    exact ⟨store, request, nonce', envelope, privateKey, own', pinned, hact, hs.2.2.1, hprivate, hown', hpin, hs.1.symm⟩
  | forged privateKey publicKey nonce' plaintext' ciphertext' =>
    obtain ⟨forger, hforger, hs⟩ := hseals
    simp only [Sealing.mk.injEq] at hs
    -- the forger's own key would be one of the two
    have hnone := hhistory _ hact forger hforger
    rcases Sym2.eq_iff.1 hs.1 with ⟨hkey, -⟩ | ⟨-, hkey⟩
    · exact absurd (hkey ▸ hrecipient) (hnone recipient)
    · exact absurd (hkey ▸ hsender) (hnone sender)

/-- Whatever the envelope: a payload that is accepted from a sender, by a recipient who has an honest key and has
pinned the sender's one honest key, is what the sender sealed for this recipient, with that key and for that key. And what
`encrypt_for` seals is accepted so. -/
theorem accepted_payload_authentic {honest : String → Key → Prop} {history : List Act}
    (hhistory : ∀ act ∈ history, act.Possible sodium json honest) (hideal : OpensOnlySealed sodium json history)
    (hjson : ∀ store request nonce envelope, .encrypted store request nonce envelope ∈ history → json.ReadsBack request.payload)
    (hopens : sodium.Opens) :
    (∀ (store : E2eeKeyStore) (request : DecryptRequest) (payload : DecryptedPayload) (privateKey key trusted : Key),
      decryptFrom sodium json store request = .ok payload →
      store.loadPrivateKey request.expectedRecipient = .ok (some privateKey) → sodium.scalarmultBase privateKey = some key →
      honest request.expectedRecipient key →
      store.loadPeerPublicKey request.expectedRecipient request.expectedSender = .ok (some trusted) →
      (∀ key, honest request.expectedSender key ↔ key = trusted) →
      ∃ senderStore sent nonce envelope senderPrivate, .encrypted senderStore sent nonce envelope ∈ history ∧
        sent.localIdentity = request.expectedSender ∧ sent.recipientIdentity = request.expectedRecipient ∧
        payload = sent.payload ∧ senderStore.loadPrivateKey sent.localIdentity = .ok (some senderPrivate) ∧
        sodium.scalarmultBase senderPrivate = some trusted ∧
        senderStore.loadPeerPublicKey sent.localIdentity sent.recipientIdentity = .ok (some key)) ∧
    ∀ (senderStore recipientStore : E2eeKeyStore) (request : EncryptRequest) (nonce : Nonce) (envelope : E2eeEnvelope)
      (senderPrivate senderPublic recipientPrivate recipientPublic : Key), json.ReadsBack request.payload →
      senderStore.loadPrivateKey request.localIdentity = .ok (some senderPrivate) →
      sodium.scalarmultBase senderPrivate = some senderPublic →
      senderStore.loadPeerPublicKey request.localIdentity request.recipientIdentity = .ok (some recipientPublic) →
      recipientStore.loadPrivateKey request.recipientIdentity = .ok (some recipientPrivate) →
      sodium.scalarmultBase recipientPrivate = some recipientPublic →
      recipientStore.loadPeerPublicKey request.recipientIdentity request.localIdentity = .ok (some senderPublic) →
      encryptFor sodium json senderStore request nonce = .ok envelope →
      decryptFrom sodium json recipientStore
        ⟨request.recipientIdentity, request.localIdentity, request.recipientIdentity, request.subject, envelope⟩ =
          .ok request.payload := by
  constructor
  · intro store request payload privateKey key trusted h hprivate hbase hrecipient hpin hsender
    obtain ⟨hlocal, hfrom, hto, privateKey', key', trusted', nonce, ciphertext, plaintext, hprivate', hbase', hpin', hopen,
      hpayload⟩ := decryptFrom_ok sodium json h
    rw [hlocal] at hprivate' hpin'
    obtain rfl : privateKey = privateKey' := Option.some.inj (Except.ok.inj (hprivate.symm.trans hprivate'))
    obtain rfl : key = key' := Option.some.inj (hbase.symm.trans hbase')
    obtain rfl : trusted = trusted' := Option.some.inj (Except.ok.inj (hpin.symm.trans hpin'))
    have htrusted : honest request.expectedSender trusted := (hsender trusted).2 rfl
    obtain ⟨senderStore, sent, nonce', envelope, senderPrivate, own, pinned, hact, rfl, hown, hownBase, hpinned, hkeys⟩ :=
      sealed_by_honest hhistory hideal hopen hbase htrusted hrecipient
    rw [payloadOf_toVec (hjson _ _ _ _ hact)] at hpayload
    obtain rfl : sent.payload = payload := Except.ok.inj hpayload
    have hsent : sent.localIdentity = request.expectedSender := hfrom
    -- the sealer's own key is the sender's, so the other one is the recipient's
    obtain rfl : own = trusted := (hsender own).1 (hsent ▸ (hhistory _ hact).2 _ _ _ hown hownBase)
    have hother : pinned = key := by
      rcases Sym2.eq_iff.1 hkeys with ⟨h₁, h₂⟩ | ⟨-, h₂⟩
      · rw [h₂, h₁]
      · exact h₂
    exact ⟨senderStore, sent, nonce', envelope, senderPrivate, hact, hsent, hto, rfl, hown, hownBase, hother ▸ hpinned⟩
  · intro senderStore recipientStore request nonce envelope senderPrivate senderPublic recipientPrivate recipientPublic hread
      hload hown hpin hrecipient hbase hpinned h
    refine decryptFrom_encryptFor hopens hread h (fun privateKey hprivate => ?_) hpin hrecipient hbase hpinned
    obtain rfl : senderPrivate = privateKey := Option.some.inj (Except.ok.inj (hload.symm.trans hprivate))
    exact hown

end

/-! ## Alice writes to Bob -/

def samplePublic (privateKey : Key) : Key := ⟨privateKey.1.map (· + 100), by simp [privateKey.2]⟩

def alicePrivate : Key := ⟨List.replicate 32 1, by decide⟩
def bobPrivate : Key := ⟨List.replicate 32 2, by decide⟩

def sampleStore (self peer : String) (own pinned : Key) : E2eeKeyStore where
  loadPrivateKey identity := .ok (if identity = self then some own else none)
  loadPeerPublicKey identity other := .ok (if identity = self ∧ other = peer then some pinned else none)

def aliceStore : E2eeKeyStore := sampleStore "alice" "bob" alicePrivate (samplePublic bobPrivate)
def bobStore : E2eeKeyStore := sampleStore "bob" "alice" bobPrivate (samplePublic alicePrivate)

def sampleRequest : EncryptRequest := ⟨"alice", "bob", "Hello", "Hi", none⟩

def sampleText : List UInt8 :=
  bytes "\x7b\"version\":1,\"sender\":\"alice\",\"recipient\":\"bob\",\"subject\":\"Hello\",\"text\":\"Hi\",\"html\":null\x7d"

/-- Knows the one payload. -/
def sampleJson : SerdeJson := ⟨fun _ => sampleText, fun _ => some sampleRequest.payload.serialize⟩

def sampleNonce : Nonce := ⟨List.replicate 24 3, by decide⟩
def sampleCiphertext : List UInt8 := [4, 5, 6]

/-- Knows the one box, from either side. -/
def sampleSodium : Sodium where
  ensureInit := true
  scalarmultBase privateKey := some (samplePublic privateKey)
  publicKeyFromBytes _ := true
  secretKeyFromBytes _ := true
  «seal» plaintext nonce publicKey privateKey :=
    if plaintext = sampleText ∧ nonce = sampleNonce ∧
        s(samplePublic privateKey, publicKey) = s(samplePublic alicePrivate, samplePublic bobPrivate) then some sampleCiphertext
    else none
  «open» ciphertext nonce publicKey privateKey :=
    if ciphertext = sampleCiphertext ∧ nonce = sampleNonce ∧
        s(samplePublic privateKey, publicKey) = s(samplePublic alicePrivate, samplePublic bobPrivate) then some sampleText
    else none

def sampleEnvelope : E2eeEnvelope :=
  ⟨envelopeVersion, envelopeAlgorithm, "alice", "bob", encodeKey (samplePublic alicePrivate),
    encodeKey (samplePublic bobPrivate), encodeBytes sampleNonce.1, encodeBytes sampleCiphertext⟩

def sampleHonest (identity : String) (key : Key) : Prop :=
  (identity = "alice" ∧ key = samplePublic alicePrivate) ∨ (identity = "bob" ∧ key = samplePublic bobPrivate)

theorem sampleEnvelope_encrypted :
    encryptFor sampleSodium sampleJson aliceStore sampleRequest sampleNonce = .ok sampleEnvelope := by
  simp [encryptFor, encrypt, publicFromPrivate, okOr, bind, Except.bind, sampleSodium, sampleJson, aliceStore, sampleStore,
    sampleRequest, sampleEnvelope, EncryptRequest.payload]

theorem sampleSodium_opens : sampleSodium.Opens where
  opens := by
    intro plaintext nonce publicKey privateKey ciphertext own other hseal hown hother
    simp only [sampleSodium, Option.ite_none_right_eq_some, Option.some.injEq] at hseal hown hother ⊢
    obtain ⟨⟨rfl, rfl, hkeys⟩, rfl⟩ := hseal
    subst hown hother
    exact ⟨⟨rfl, rfl, Sym2.eq_swap.trans hkeys⟩, rfl⟩
  publicKeys _ := rfl
  secretKeys _ := rfl

/-- Bob accepts Alice's envelope, and it is the one she sealed for him. -/
theorem sampleEnvelope_authentic :
    decryptFrom sampleSodium sampleJson bobStore ⟨"bob", "alice", "bob", "Hello", sampleEnvelope⟩ = .ok sampleRequest.payload ∧
    ∃ senderStore sent nonce envelope senderPrivate,
      .encrypted senderStore sent nonce envelope ∈ [Act.encrypted aliceStore sampleRequest sampleNonce sampleEnvelope] ∧
      sent.localIdentity = "alice" ∧ sent.recipientIdentity = "bob" ∧ sampleRequest.payload = sent.payload ∧
      senderStore.loadPrivateKey sent.localIdentity = .ok (some senderPrivate) ∧
      sampleSodium.scalarmultBase senderPrivate = some (samplePublic alicePrivate) ∧
      senderStore.loadPeerPublicKey sent.localIdentity sent.recipientIdentity = .ok (some (samplePublic bobPrivate)) := by
  have hhistory : ∀ act ∈ [Act.encrypted aliceStore sampleRequest sampleNonce sampleEnvelope],
      act.Possible sampleSodium sampleJson sampleHonest := by
    intro act hact
    obtain rfl := List.mem_singleton.1 hact
    refine ⟨sampleEnvelope_encrypted, fun identity privateKey key hload hbase => .inl ?_⟩
    simp only [aliceStore, sampleStore, Except.ok.injEq, Option.ite_none_right_eq_some, Option.some.injEq] at hload
    obtain ⟨rfl, rfl⟩ := hload
    exact ⟨rfl, (Option.some.inj hbase).symm⟩
  have hideal : OpensOnlySealed sampleSodium sampleJson [Act.encrypted aliceStore sampleRequest sampleNonce sampleEnvelope] := by
    intro ciphertext nonce publicKey privateKey plaintext hopen
    simp only [sampleSodium, Option.ite_none_right_eq_some, Option.some.injEq] at hopen
    obtain ⟨⟨rfl, rfl, hkeys⟩, rfl⟩ := hopen
    exact ⟨_, rfl, _, List.mem_singleton_self _, alicePrivate, _, _, sampleCiphertext, rfl, rfl, rfl, by rw [hkeys]; rfl⟩
  have hread : ∀ store request nonce envelope,
      .encrypted store request nonce envelope ∈ [Act.encrypted aliceStore sampleRequest sampleNonce sampleEnvelope] →
        sampleJson.ReadsBack request.payload := by
    intro store request nonce envelope hact
    cases List.mem_singleton.1 hact
    rfl
  have htwo := accepted_payload_authentic hhistory hideal hread sampleSodium_opens
  have haccepted : decryptFrom sampleSodium sampleJson bobStore ⟨"bob", "alice", "bob", "Hello", sampleEnvelope⟩ =
      .ok sampleRequest.payload :=
    htwo.2 aliceStore bobStore sampleRequest sampleNonce sampleEnvelope alicePrivate _ bobPrivate _ rfl rfl rfl rfl rfl rfl rfl
      sampleEnvelope_encrypted
  refine ⟨haccepted, htwo.1 bobStore _ _ bobPrivate _ _ haccepted rfl rfl (.inr ⟨rfl, rfl⟩) rfl fun key => ?_⟩
  simp [sampleHonest]

end Boxplot.E2ee
