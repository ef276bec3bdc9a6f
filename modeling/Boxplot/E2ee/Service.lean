import Boxplot.E2ee.Crypto
/-!
# The service

`encrypt_for` and `decrypt_from` of `src-tauri/src/e2ee/service.rs`, over the
two reads of a key store, and what each of them has found when it succeeds.
-/

namespace Boxplot.E2ee

open Lib

structure EncryptRequest where
  localIdentity : String
  recipientIdentity : String
  subject : String
  text : String
  html : Option String
  deriving DecidableEq, Repr

structure DecryptRequest where
  localIdentity : String
  expectedSender : String
  expectedRecipient : String
  expectedSubject : String
  envelope : E2eeEnvelope
  deriving DecidableEq, Repr

/-- The reads of `E2eeKeyStore`. -/
structure E2eeKeyStore where
  loadPrivateKey : String → Result (Option Key)
  loadPeerPublicKey : String → String → Result (Option Key)

/-- `ok_or`. -/
def okOr {α : Type} (e : E2eeError) : Option α → Result α
  | none => .error e
  | some a => .ok a

/-- What is sealed for a request. -/
def EncryptRequest.payload (request : EncryptRequest) : DecryptedPayload where
  version := 1
  sender := request.localIdentity
  recipient := request.recipientIdentity
  subject := request.subject
  text := request.text
  html := request.html

variable (sodium : Sodium) (json : SerdeJson)

def encryptFor (store : E2eeKeyStore) (request : EncryptRequest) (nonce : Nonce) : Result E2eeEnvelope := do
  let stored ← store.loadPrivateKey request.localIdentity
  let privateKey ← okOr .keyUnavailable stored
  let senderPublic ← publicFromPrivate sodium privateKey
  let pinned ← store.loadPeerPublicKey request.localIdentity request.recipientIdentity
  let recipientPublic ← okOr .peerKeyUnavailable pinned
  encrypt sodium json request.payload privateKey senderPublic recipientPublic nonce

/-- The checks of `decrypt_from` on an opened payload. -/
def acceptPayload (request : DecryptRequest) (payload : DecryptedPayload) : Result DecryptedPayload :=
  if payload.version ≠ 1 ∨ payload.sender ≠ request.expectedSender ∨ payload.recipient ≠ request.expectedRecipient ∨
      payload.subject ≠ request.expectedSubject then .error .metadataMismatch
  else .ok payload

def decryptFrom (store : E2eeKeyStore) (request : DecryptRequest) : Result DecryptedPayload :=
  if request.envelope.sender ≠ request.expectedSender ∨ request.envelope.recipient ≠ request.expectedRecipient then
    .error .metadataMismatch
  else do
    let stored ← store.loadPrivateKey request.localIdentity
    let privateKey ← okOr .keyUnavailable stored
    let recipientPublic ← publicFromPrivate sodium privateKey
    let pinned ← store.loadPeerPublicKey request.localIdentity request.expectedSender
    let trustedSender ← okOr .peerKeyUnavailable pinned
    let senderKey ← decodePublicKey request.envelope.senderPublicKey
    if senderKey ≠ trustedSender then .error .metadataMismatch
    else do
      let recipientKey ← decodePublicKey request.envelope.recipientPublicKey
      if recipientKey ≠ recipientPublic ∨ request.localIdentity ≠ request.expectedRecipient then .error .metadataMismatch
      else do
        let payload ← decrypt sodium json request.envelope privateKey trustedSender
        acceptPayload request payload

/-! ## What success means -/

theorem bind_eq_ok {α β : Type} {x : Result α} {f : α → Result β} {b : β} :
    (x >>= f) = .ok b ↔ ∃ a, x = .ok a ∧ f a = .ok b := by
  cases x <;> simp [bind, Except.bind]

theorem okOr_eq_ok {α : Type} {e : E2eeError} {o : Option α} {a : α} : okOr e o = .ok a ↔ o = some a := by
  cases o <;> simp [okOr]

theorem publicFromPrivate_eq_ok {privateKey publicKey : Key} : publicFromPrivate sodium privateKey = .ok publicKey ↔
    sodium.ensureInit = true ∧ sodium.scalarmultBase privateKey = some publicKey := by
  unfold publicFromPrivate
  cases sodium.ensureInit <;> cases sodium.scalarmultBase privateKey <;> simp

/-- An envelope is one box, sealed with the sender's key for the pinned one. -/
theorem encryptFor_ok {store : E2eeKeyStore} {request : EncryptRequest} {nonce : Nonce} {envelope : E2eeEnvelope}
    (h : encryptFor sodium json store request nonce = .ok envelope) : ∃ privateKey senderPublic recipientPublic ciphertext,
      sodium.ensureInit = true ∧ store.loadPrivateKey request.localIdentity = .ok (some privateKey) ∧
      sodium.scalarmultBase privateKey = some senderPublic ∧
      store.loadPeerPublicKey request.localIdentity request.recipientIdentity = .ok (some recipientPublic) ∧
      sodium.seal (json.toVec request.payload.serialize) nonce recipientPublic privateKey = some ciphertext ∧
      envelope = ⟨envelopeVersion, envelopeAlgorithm, request.localIdentity, request.recipientIdentity,
        encodeKey senderPublic, encodeKey recipientPublic, encodeBytes nonce.1, encodeBytes ciphertext⟩ := by
  simp only [encryptFor, bind_eq_ok, okOr_eq_ok, publicFromPrivate_eq_ok] at h
  obtain ⟨_, hprivate, privateKey, rfl, senderPublic, ⟨hinit, hbase⟩, _, hpin, recipientPublic, rfl, h⟩ := h
  simp only [encrypt, hinit, if_true] at h
  cases hp : sodium.publicKeyFromBytes recipientPublic with
  | false => simp [hp] at h
  | true =>
    cases hs : sodium.secretKeyFromBytes privateKey with
    | false => simp [hp, hs] at h
    | true =>
      simp only [hp, hs, if_true] at h
      cases hseal : sodium.seal (json.toVec request.payload.serialize) nonce recipientPublic privateKey with
      | none => simp [hseal] at h
      | some ciphertext =>
        simp only [hseal, Except.ok.injEq] at h
        exact ⟨privateKey, senderPublic, recipientPublic, ciphertext, hinit, hprivate, hbase, hpin, hseal, h.symm⟩

theorem decrypt_ok {envelope : E2eeEnvelope} {recipientPrivate trustedSender : Key} {payload : DecryptedPayload}
    (h : decrypt sodium json envelope recipientPrivate trustedSender = .ok payload) : ∃ nonce ciphertext plaintext,
      sodium.open ciphertext nonce trustedSender recipientPrivate = some plaintext ∧
      payloadOf json plaintext = .ok payload := by
  unfold decrypt at h
  split at h
  · split at h
    · cases h
    · obtain ⟨nonce, -, h⟩ := bind_eq_ok.1 h
      split at h
      · cases h
      · rename_i ciphertext _
        split at h
        · split at h
          · split at h
            · cases h
            · rename_i plaintext hopen
              exact ⟨nonce, ciphertext, plaintext, hopen, h⟩
          · cases h
        · cases h
  · cases h

/-- A payload is accepted after a box of the own key and the pinned one was opened, and its inner fields are
the expected ones. -/
theorem decryptFrom_ok {store : E2eeKeyStore} {request : DecryptRequest} {payload : DecryptedPayload}
    (h : decryptFrom sodium json store request = .ok payload) :
    request.localIdentity = request.expectedRecipient ∧ payload.sender = request.expectedSender ∧
      payload.recipient = request.expectedRecipient ∧
      ∃ privateKey recipientPublic trustedSender nonce ciphertext plaintext,
        store.loadPrivateKey request.localIdentity = .ok (some privateKey) ∧
        sodium.scalarmultBase privateKey = some recipientPublic ∧
        store.loadPeerPublicKey request.localIdentity request.expectedSender = .ok (some trustedSender) ∧
        sodium.open ciphertext nonce trustedSender privateKey = some plaintext ∧ payloadOf json plaintext = .ok payload := by
  unfold decryptFrom at h
  split at h
  · cases h
  simp only [bind_eq_ok, okOr_eq_ok, publicFromPrivate_eq_ok] at h
  obtain ⟨_, hprivate, privateKey, rfl, recipientPublic, ⟨-, hbase⟩, _, hpin, trustedSender, rfl, senderKey, -, h⟩ := h
  split at h
  · cases h
  obtain ⟨recipientKey, -, h⟩ := bind_eq_ok.1 h
  split at h
  · cases h
  rename_i hlocal
  obtain ⟨opened, hopened, h⟩ := bind_eq_ok.1 h
  unfold acceptPayload at h
  split at h
  · cases h
  rename_i hinner
  simp only [not_or, not_not] at hlocal hinner
  cases h
  obtain ⟨nonce, ciphertext, plaintext, hopen, hpayload⟩ := decrypt_ok sodium json hopened
  exact ⟨hlocal.2, hinner.2.1, hinner.2.2.1, privateKey, recipientPublic, trustedSender, nonce, ciphertext, plaintext,
    hprivate, hbase, hpin, hopen, hpayload⟩

end Boxplot.E2ee
