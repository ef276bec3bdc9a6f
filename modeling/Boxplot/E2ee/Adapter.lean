import Boxplot.E2ee.Authenticity
import Boxplot.Outbox.MutationRunner
import Boxplot.Sync.BodyMaterializer
/-!
# The encryption port over the native service

`TauriE2eeAdapter` of `src/e2ee/tauri-e2ee-adapter.ts` with the commands
`e2ee_encrypt` and `e2ee_decrypt`, and what `encryptSendIntent` makes of it.
-/

namespace Boxplot.E2ee

open Domain Lib Outbox Sync Remote

/-! ## Values on either side -/

def E2eeError.errorKind : E2eeError → E2eeErrorKind
  | .keyUnavailable => .keyUnavailable
  | .peerKeyUnavailable => .peerKeyUnavailable
  | .keyMismatch => .keyMismatch
  | .invalidPublicKey => .invalidPublicKey
  | .invalidEnvelope => .invalidEnvelope
  | .metadataMismatch => .metadataMismatch
  | .authenticationFailed => .authenticationFailed
  | .unavailable => .unavailable
  | .unexpected => .unexpected

/-- The request of `e2ee_encrypt`. -/
def encryptRequest (input : EncryptForInput) : EncryptRequest :=
  ⟨input.localIdentity, input.recipientIdentity, input.subject, input.text, input.html⟩

def nativeEnvelope (envelope : BoxplotE2eeEnvelope) : E2eeEnvelope :=
  ⟨envelopeVersion, envelopeAlgorithm, envelope.sender, envelope.recipient, envelope.senderPublicKey,
    envelope.recipientPublicKey, envelope.nonce, envelope.ciphertext⟩

/-- The request of `e2ee_decrypt`. -/
def decryptRequest (input : DecryptFromInput) : DecryptRequest :=
  ⟨input.localIdentity, input.expectedSender, input.expectedRecipient, input.expectedSubject, nativeEnvelope input.envelope⟩

def decodeEnvelope (value : E2eeEnvelope) : Option BoxplotE2eeEnvelope :=
  if value.version ≠ 1 ∨ value.algorithm ≠ "boxplot-crypto-box-v1" then none
  else some ⟨value.sender, value.recipient, value.senderPublicKey, value.recipientPublicKey, value.nonce, value.ciphertext⟩

def decodePlaintext (value : DecryptedPayload) : Option E2eePlaintext :=
  if value.version ≠ 1 then none else some ⟨value.sender, value.recipient, value.subject, value.text, value.html⟩

/-! ## The adapter -/

variable (sodium : Sodium) (json : SerdeJson) (store : E2eeKeyStore)

/-- A malformed value is a `TypeError`, which is `unexpected`. -/
def adapterEncryptFor (nonce : Nonce) (input : EncryptForInput) : E2eeReply :=
  match encryptFor sodium json store (encryptRequest input) nonce with
  | .error e => .failed e.errorKind
  | .ok value =>
    match decodeEnvelope value with
    | none => .failed .unexpected
    | some envelope => .ok envelope

def adapterDecryptFrom (input : DecryptFromInput) : PortReply E2eeErrorKind E2eePlaintext :=
  match decryptFrom sodium json store (decryptRequest input) with
  | .error e => .failed e.errorKind
  | .ok value =>
    match decodePlaintext value with
    | none => .failed .unexpected
    | some plaintext => .ok plaintext

/-- What `encryptSendIntent` ends with when the port answers like this. -/
def encryptedBy (port : EncryptForInput → E2eeReply) (intent : SendIntent) :
    Option (Except JsError (Except E2eeErrorKind BoxplotE2eeEnvelope)) :=
  ((encryptSendIntent intent).run.play
    (fun _ e => match e with
      | .encryptFor input => some (port input, ())
      | _ => none) ()).1

/-! ## What success means -/

/-- An intent that is encrypted has one recipient, and the port sealed it for them. -/
theorem encryptedBy_ok {port : EncryptForInput → E2eeReply} {intent : SendIntent} {envelope : BoxplotE2eeEnvelope}
    (h : encryptedBy port intent = some (.ok (.ok envelope))) :
    ∃ recipient, intent.to = [recipient] ∧ intent.cc = [] ∧ intent.bcc = [] ∧
      port ⟨intent.from.email, recipient.email, intent.subject, intent.body.text, intent.body.html⟩ = .ok envelope := by
  unfold encryptedBy encryptSendIntent at h
  split at h
  · rename_i recipient hto hcc hbcc
    refine ⟨recipient, hto, hcc, hbcc, ?_⟩
    change (Prog.play _ (Prog.await (Call.encryptFor _) _) ()).1 = _ at h
    unfold Prog.play at h
    dsimp only at h
    cases hr : port ⟨intent.from.email, recipient.email, intent.subject, intent.body.text, intent.body.html⟩ with
    | ok value =>
      rw [hr] at h
      cases h
      rfl
    | failed e =>
      rw [hr] at h
      cases h
    | rejected =>
      rw [hr] at h
      cases h
  · cases h

variable {sodium json store}

theorem adapterEncryptFor_ok {nonce : Nonce} {input : EncryptForInput} {envelope : BoxplotE2eeEnvelope}
    (h : adapterEncryptFor sodium json store nonce input = .ok envelope) :
    encryptFor sodium json store (encryptRequest input) nonce = .ok (nativeEnvelope envelope) := by
  unfold adapterEncryptFor at h
  split at h
  · cases h
  · rename_i value hvalue
    rw [hvalue]
    unfold decodeEnvelope at h
    split at h
    · cases h
    · rename_i envelope' hdecoded
      split at hdecoded
      · cases hdecoded
      · rename_i hversion
        simp only [not_or, not_not] at hversion
        cases hdecoded
        cases h
        obtain ⟨version, algorithm, sender, recipient, senderKey, recipientKey, nonce, ciphertext⟩ := value
        obtain ⟨rfl, rfl⟩ := hversion
        rfl

theorem adapterDecryptFrom_ok {input : DecryptFromInput} {plaintext : E2eePlaintext} :
    adapterDecryptFrom sodium json store input = .ok plaintext ↔ ∃ payload,
      decryptFrom sodium json store (decryptRequest input) = .ok payload ∧ payload.version = 1 ∧
      plaintext = ⟨payload.sender, payload.recipient, payload.subject, payload.text, payload.html⟩ := by
  unfold adapterDecryptFrom decodePlaintext
  cases decryptFrom sodium json store (decryptRequest input) with
  | error e => simp
  | ok payload =>
    by_cases hversion : payload.version = 1
    · simp [hversion, eq_comm]
    · simp [hversion]

end Boxplot.E2ee
