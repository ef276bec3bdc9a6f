import Boxplot.Lib.JsValue
import Boxplot.Memory.Engine
import Boxplot.Remote.Collections
/-!
# Materialising a body

`materializeOnce` of `src/sync/body-materializer.ts` and the envelope parser of
`src/remote/mime/boxplot-e2ee.ts`. What its ports answer is given; `JSON.parse`
is a function from texts.
-/

namespace Boxplot.Sync

open Domain Lib Remote Outbox Memory

/-! ## Ports -/

inductive RemoteBody
  | plain (text html : Option String)
  | boxplotE2ee (payload : String)
  deriving DecidableEq, Repr

inductive RemoteBodySourceErrorKind
  | notConnected | remote | cancelled | unexpected
  deriving DecidableEq, Repr

structure E2eePlaintext where
  sender : String
  recipient : String
  subject : String
  text : String
  html : Option String
  deriving DecidableEq, Repr

structure DecryptFromInput where
  localIdentity : String
  expectedSender : String
  expectedRecipient : String
  expectedSubject : String
  envelope : BoxplotE2eeEnvelope
  deriving DecidableEq, Repr

structure BodyMaterializerDependencies where
  readEmailBody : ScopedEmailId → PortReply LocalReadError (OwnedCacheRead EmailBody)
  readEmail : ScopedEmailId → PortReply LocalReadError (LocalEntityRead Email)
  listIdentities : AccountKey → PortReply LocalReadError (OwnedSnapshotRead (List Identity))
  cacheEmailBody : EmailBody → PortReply LocalWriteError Unit
  fetchBody : AccountKey → String → Except RemoteBodySourceErrorKind RemoteBody
  assertCurrent : Except RemoteBodySourceErrorKind Unit
  decryptFrom : DecryptFromInput → PortReply E2eeErrorKind E2eePlaintext
  /-- `JSON.parse`. -/
  parseJson : String → Option JsValue

/-! ## Errors -/

inductive BodyMaterializationErrorKind
  | emailAbsent | notConnected | remote | «local» | invalidEnvelope | metadataUnavailable | e2ee | cancelled | unexpected
  deriving DecidableEq, Repr

structure BodyMaterializationError where
  kind : BodyMaterializationErrorKind
  e2eeKind : Option E2eeErrorKind
  deriving DecidableEq, Repr

abbrev Materialized (α : Type) := Except BodyMaterializationError α

def failed {α : Type} (kind : BodyMaterializationErrorKind) : Materialized α := .error ⟨kind, none⟩

/-- A port's reply; a rejected promise ends in the last `catch`. -/
def answered {ε α : Type} (onError : ε → BodyMaterializationError) : PortReply ε α → Materialized α
  | .ok value => .ok value
  | .failed e => .error (onError e)
  | .rejected => failed .unexpected

def readLocal {α : Type} : PortReply LocalReadError α → Materialized α := answered fun _ => ⟨.local, none⟩

/-- A `RemoteBodySourceError` is mapped by its kind. -/
def fetched {α : Type} (r : Except RemoteBodySourceErrorKind α) : Materialized α :=
  r.mapError fun
    | .notConnected => ⟨.notConnected, none⟩
    | .remote => ⟨.remote, none⟩
    | .cancelled => ⟨.cancelled, none⟩
    | .unexpected => ⟨.unexpected, none⟩

/-! ## Envelopes -/

/-- `isRecord`. -/
def asRecord : JsValue → Option (List (String × JsValue))
  | .obj fields => some fields
  | _ => none

def requiredString (fields : List (String × JsValue)) (field : String) : Option String :=
  match fields.lookup field with
  | some (.str value) => some value
  | _ => none

def parseBoxplotE2eeEnvelope (parseJson : String → Option JsValue) (payload : String) : Option BoxplotE2eeEnvelope := do
  let parsed ← parseJson payload
  let fields ← asRecord parsed
  match fields.lookup "version", fields.lookup "algorithm" with
  | some (.num version), some (.str algorithm) =>
    if version ≠ 1 ∨ algorithm ≠ "boxplot-crypto-box-v1" then none
    else do
      let sender ← requiredString fields "sender"
      let recipient ← requiredString fields "recipient"
      let senderPublicKey ← requiredString fields "senderPublicKey"
      let recipientPublicKey ← requiredString fields "recipientPublicKey"
      let nonce ← requiredString fields "nonce"
      let ciphertext ← requiredString fields "ciphertext"
      some { sender, recipient, senderPublicKey, recipientPublicKey, nonce, ciphertext }
  | _, _ => none

/-! ## Expected metadata -/

structure ExpectedE2eeMetadata where
  localIdentity : String
  expectedSender : String
  expectedRecipient : String
  expectedSubject : String
  deriving DecidableEq, Repr

def singleAddress : EmailAddressList → Option String
  | some [address] => some address.email
  | _ => none

def isEmptyAddressList (value : EmailAddressList) : Bool := (value.getD []).isEmpty

variable (deps : BodyMaterializerDependencies)

def resolveLocalIdentity (email : Email) (expectedSender expectedRecipient expectedSubject : String) :
    Materialized ExpectedE2eeMetadata := do
  let identities ← readLocal (deps.listIdentities email.id.accountKey)
  match identities with
  | .ownerAbsent => failed .metadataUnavailable
  | .present identities =>
    let matchingEmails := ((identities.map (·.email)).filter (· = expectedRecipient)).dedup
    if matchingEmails.length ≠ 1 then failed .metadataUnavailable
    else .ok ⟨expectedRecipient, expectedSender, expectedRecipient, expectedSubject⟩

def resolveExpectedMetadata (emailId : ScopedEmailId) : Materialized ExpectedE2eeMetadata := do
  let email ← readLocal (deps.readEmail emailId)
  match email with
  | .absent => failed .emailAbsent
  | .present email =>
    match singleAddress email.from, singleAddress email.to, email.subject with
    | some expectedSender, some expectedRecipient, some expectedSubject =>
      if isEmptyAddressList email.cc && isEmptyAddressList email.bcc then
        resolveLocalIdentity deps email expectedSender expectedRecipient expectedSubject
      else failed .metadataUnavailable
    | _, _, _ => failed .metadataUnavailable

/-! ## Bodies -/

def decryptBody (emailId : ScopedEmailId) (payload : String) : Materialized EmailBody := do
  let metadata ← resolveExpectedMetadata deps emailId
  match parseBoxplotE2eeEnvelope deps.parseJson payload with
  | none => failed .invalidEnvelope
  | some envelope => do
    let decrypted ← answered (fun kind => ⟨.e2ee, some kind⟩) (deps.decryptFrom
      ⟨metadata.localIdentity, metadata.expectedSender, metadata.expectedRecipient, metadata.expectedSubject, envelope⟩)
    .ok ⟨emailId, some decrypted.text, decrypted.html⟩

/-- `materialized` with the body that was cached. -/
inductive BodyMaterializationResult
  | alreadyCached
  | materialized (body : EmailBody)
  deriving DecidableEq, Repr

def cacheError : LocalWriteError → BodyMaterializationError
  | .conflict => ⟨.emailAbsent, none⟩
  | _ => ⟨.local, none⟩

def materializeOnce (emailId : ScopedEmailId) : Materialized BodyMaterializationResult := do
  let cached ← readLocal (deps.readEmailBody emailId)
  match cached with
  | .ownerAbsent => failed .emailAbsent
  | .cached _ => .ok .alreadyCached
  | .notCached => do
    let remoteId ← (remoteEmailId emailId).mapError fun _ => ⟨.unexpected, none⟩
    let remote ← fetched (deps.fetchBody emailId.accountKey remoteId)
    let body ← match remote with
      | .plain text html => .ok ⟨emailId, text, html⟩
      | .boxplotE2ee payload => decryptBody deps emailId payload
    fetched deps.assertCurrent
    answered cacheError (deps.cacheEmailBody body)
    .ok (.materialized body)

end Boxplot.Sync
