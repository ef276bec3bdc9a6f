import Boxplot.Domain.Factories
import Boxplot.Ipc.Dto
/-!
# Codecs of mutations

`src/adapters/tauri/domain-ipc-codecs.ts`: a mutation is written to the wire
field by field, and built by the factories when it is read.
-/

namespace Boxplot.Ipc

open Domain Lib

/-! ## Ids and addresses -/

def encodeScopedMailboxId (v : ScopedMailboxId) : IpcScopedMailboxId := { accountKey := v.accountKey, jmapMailboxId := v.jmapId }

def encodeScopedEmailId (v : ScopedEmailId) : IpcScopedEmailId := { accountKey := v.accountKey, jmapEmailId := v.jmapId }

def encodeScopedIdentityId (v : ScopedIdentityId) : IpcScopedIdentityId :=
  { accountKey := v.accountKey, jmapIdentityId := v.jmapId }

def decodeScopedMailboxId (v : IpcScopedMailboxId) : Checked ScopedMailboxId := do
  return { accountKey := ← accountKeyFromString v.accountKey, jmapId := ← jmapMailboxIdFromString v.jmapMailboxId }

def decodeScopedEmailId (v : IpcScopedEmailId) : Checked ScopedEmailId := do
  return { accountKey := ← accountKeyFromString v.accountKey, jmapId := ← jmapEmailIdFromString v.jmapEmailId }

def decodeScopedIdentityId (v : IpcScopedIdentityId) : Checked ScopedIdentityId := do
  return { accountKey := ← accountKeyFromString v.accountKey, jmapId := ← jmapIdentityIdFromString v.jmapIdentityId }

def encodeAddress (v : EmailAddress) : IpcEmailAddress := { name := v.name, email := v.email }

def decodeAddress (v : IpcEmailAddress) : EmailAddress := emailAddress v.name v.email

/-! ## Send intents -/

def encodeSecurityMode : SendSecurityMode → IpcSendSecurityMode
  | .plain => .plain
  | .boxplotE2eeV1 => .boxplotE2eeV1

def decodeSecurityMode : IpcSendSecurityMode → SendSecurityMode
  | .plain => .plain
  | .boxplotE2eeV1 => .boxplotE2eeV1

def encodeSendIntent (v : SendIntent) : IpcSendIntent :=
  { securityMode := encodeSecurityMode v.securityMode
    identityId := encodeScopedIdentityId v.identityId
    «from» := encodeAddress v.from
    replyTo := v.replyTo.map encodeAddress
    «to» := v.to.map encodeAddress
    cc := v.cc.map encodeAddress
    bcc := v.bcc.map encodeAddress
    subject := v.subject
    body := { text := v.body.text, html := v.body.html } }

def decodeSendIntent (v : IpcSendIntent) : Checked SendIntent := do
  let «from» := decodeAddress v.from
  match «from».name with
  | none => .error "Persisted SendIntent From must contain Identity name"
  | some name => do
    let sender ← identity
      { id := ← decodeScopedIdentityId v.identityId, name, email := «from».email
        replyTo := some (v.replyTo.map decodeAddress), bcc := none }
    sendIntent
      { securityMode := decodeSecurityMode v.securityMode, identity := sender, «to» := v.to.map decodeAddress
        cc := v.cc.map decodeAddress, bcc := v.bcc.map decodeAddress, subject := v.subject
        body := { text := v.body.text, html := v.body.html } }

/-! ## Lifecycles -/

/-- `Number.isSafeInteger`. -/
def isSafeInteger (n : Rat) : Bool := n.den = 1 && n.num.natAbs ≤ maxSafeInteger

def assertAttemptCount (value : Rat) (pending : Bool) : Checked Unit :=
  typeErrorIf (!isSafeInteger value ∨ if pending then value ≠ 0 else value < 1) "Invalid mutation attemptCount"

/-- What the decoders of both lifecycles share. -/
def decodeLifecycle {C : Type} (confirmationOf : C → Checked (Option SendConfirmation)) : IpcLifecycle Rat C → Checked Lifecycle
  | .pending n => do
    assertAttemptCount n true
    return .pending 0
  | .inFlight n => do
    assertAttemptCount n false
    return .inFlight n.num.toNat
  | .retrying n nextAttemptAt => do
    assertAttemptCount n false
    return .retrying n.num.toNat (← mutationInstantFromString nextAttemptAt)
  | .confirmed n confirmation => do
    assertAttemptCount n false
    return .confirmed n.num.toNat (← confirmationOf confirmation)
  | .failedTerminal n => do
    assertAttemptCount n false
    return .failedTerminal n.num.toNat

def decodeConfirmation (owner : AccountKey) (v : IpcSendConfirmation) : Checked (Option SendConfirmation) := do
  let emailId ← decodeScopedEmailId v.emailId
  typeErrorIf (emailId.accountKey ≠ owner) "Send confirmation account mismatch"
  return some ⟨emailId⟩

def decodeSendLifecycle (value : IpcSendMutationLifecycle Rat) (owner : AccountKey) : Checked Lifecycle :=
  decodeLifecycle (decodeConfirmation owner) value

def decodeUpdateLifecycle (value : IpcEmailUpdateLifecycle Rat) : Checked Lifecycle := decodeLifecycle (fun _ => .ok none) value

/-- What the encoders of both lifecycles share. There is no wire lifecycle for a confirmation of the other kind. -/
def encodeLifecycle {C : Type} (confirmationOf : Option SendConfirmation → Option C) : Lifecycle → Option (IpcLifecycle Rat C)
  | .pending _ => some (.pending 0)
  | .inFlight n => some (.inFlight n)
  | .retrying n nextAttemptAt => some (.retrying n nextAttemptAt)
  | .confirmed n confirmation => (confirmationOf confirmation).map (.confirmed n)
  | .failedTerminal n => some (.failedTerminal n)

def encodeSendLifecycle : Lifecycle → Option (IpcSendMutationLifecycle Rat) :=
  encodeLifecycle fun confirmation => confirmation.map fun c => ⟨encodeScopedEmailId c.emailId⟩

def encodeUpdateLifecycle : Lifecycle → Option (IpcEmailUpdateLifecycle Rat) :=
  encodeLifecycle fun confirmation => if confirmation.isNone then some () else none

/-! ## Mutations -/

def encodePendingMutation (v : PendingMutation) : Option (IpcPendingMutation Rat) :=
  match v.payload with
  | .send intent =>
    (encodeSendLifecycle v.lifecycle).map (.send v.mutationId v.accountKey v.createdAt (encodeSendIntent intent))
  | .keyword emailId change =>
    (encodeUpdateLifecycle v.lifecycle).map
      (.keyword v.mutationId v.accountKey v.createdAt (encodeScopedEmailId emailId) ⟨change.add, change.remove⟩)
  | .mailboxMembership emailId change =>
    (encodeUpdateLifecycle v.lifecycle).map
      (.mailboxMembership v.mutationId v.accountKey v.createdAt (encodeScopedEmailId emailId)
        ⟨change.add.map encodeScopedMailboxId, change.remove.map encodeScopedMailboxId⟩)

/-- The fields all mutations have. -/
def decodeCommon (mutationId accountKey createdAt : String) : Checked MutationInput := do
  let owner ← accountKeyFromString accountKey
  return { mutationId := ← mutationIdFromString mutationId, accountKey := owner, createdAt := ← mutationInstantFromString createdAt }

def decodePendingMutation : IpcPendingMutation Rat → Checked PendingMutation
  | .send mutationId accountKey createdAt intent lifecycle => do
    let common ← decodeCommon mutationId accountKey createdAt
    let base ← sendMutation common (← decodeSendIntent intent)
    return base.replaceLifecycle (← decodeSendLifecycle lifecycle common.accountKey)
  | .keyword mutationId accountKey createdAt emailId change lifecycle => do
    let common ← decodeCommon mutationId accountKey createdAt
    let base ← keywordMutation common (← decodeScopedEmailId emailId) ⟨← keywordSet change.add, ← keywordSet change.remove⟩
    return base.replaceLifecycle (← decodeUpdateLifecycle lifecycle)
  | .mailboxMembership mutationId accountKey createdAt emailId change lifecycle => do
    let common ← decodeCommon mutationId accountKey createdAt
    let emailId ← decodeScopedEmailId emailId
    let change ← mailboxMembershipChange
      ⟨← change.add.mapM decodeScopedMailboxId, ← change.remove.mapM decodeScopedMailboxId⟩
    let base ← mailboxMembershipMutation common emailId change
    return base.replaceLifecycle (← decodeUpdateLifecycle lifecycle)

end Boxplot.Ipc
