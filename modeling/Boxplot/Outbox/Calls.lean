import Boxplot.Lib.Async
import Boxplot.Remote.Errors
import Boxplot.Sync.Port
/-!
# What the outbox asks of its ports

The awaits of `src/outbox/mutation-runner.ts`, `src/sync/outbox.ts` and
`src/sync/coordinator.ts`, with the replies of `src/ports`, `src/remote` and
`src/e2ee`. A remote effect is two requests: the call, and the settling of its
promise, so that other runs (and a crash) can come between. Synchronous reads of
shared state, the clock and `isConnected`, are requests too.
-/

namespace Boxplot.Outbox

open Domain Remote Lib Sync

/-! ## Ports -/

inductive LocalReadError
  | unavailable | corruptState | unexpected
  deriving DecidableEq, Repr

inductive LocalWriteError
  | unavailable | corruptState | conflict | unexpected
  deriving DecidableEq, Repr

/-- The `kind` of an error, as its message shows it. -/
def LocalReadError.kind : LocalReadError → String
  | .unavailable => "unavailable"
  | .corruptState => "corruptState"
  | .unexpected => "unexpected"

def LocalWriteError.kind : LocalWriteError → String
  | .unavailable => "unavailable"
  | .corruptState => "corruptState"
  | .conflict => "conflict"
  | .unexpected => "unexpected"

/-- What a local port answers: its `PortResult`, or a rejected promise (never one of the remote error classes). -/
inductive PortReply (ε α : Type)
  | ok (value : α)
  | failed (error : ε)
  | rejected
  deriving DecidableEq, Repr

inductive OwnedOptionalRead (α : Type)
  | ownerAbsent
  | absent
  | present (value : α)
  deriving DecidableEq, Repr

inductive OwnedSnapshotRead (α : Type)
  | ownerAbsent
  | present (value : α)
  deriving DecidableEq, Repr

inductive LocalEntityRead (α : Type)
  | absent
  | present (value : α)
  deriving DecidableEq, Repr

/-! ## Encryption -/

inductive E2eeErrorKind
  | multipleRecipientsUnsupported | keyUnavailable | peerKeyUnavailable | keyMismatch | invalidPublicKey
  | invalidEnvelope | metadataMismatch | authenticationFailed | unavailable | unexpected
  deriving DecidableEq, Repr

structure BoxplotE2eeEnvelope where
  sender : String
  recipient : String
  senderPublicKey : String
  recipientPublicKey : String
  nonce : String
  ciphertext : String
  deriving DecidableEq, Repr

structure EncryptForInput where
  localIdentity : String
  recipientIdentity : String
  subject : String
  text : String
  html : Option String
  deriving DecidableEq, Repr

/-- `E2eeResult`, or a rejected promise. -/
inductive E2eeReply
  | ok (value : BoxplotE2eeEnvelope)
  | failed (error : E2eeErrorKind)
  | rejected
  deriving DecidableEq, Repr

/-- `JSON.stringify` of a string. -/
def jsonString (s : String) : String :=
  let escape (c : Char) : String :=
    if c = '"' then "\\\"" else if c = '\\' then "\\\\"
    else if c.toNat = 8 then "\\b" else if c.toNat = 9 then "\\t" else if c.toNat = 10 then "\\n"
    else if c.toNat = 12 then "\\f" else if c.toNat = 13 then "\\r"
    else if c.toNat < 32 then "\\u00" ++ (if c.toNat < 16 then "0" else "1") ++ String.singleton (Nat.digitChar (c.toNat % 16))
    else String.singleton c
  "\"" ++ String.join (s.toList.map escape) ++ "\""

def serializeBoxplotE2eeEnvelope (e : BoxplotE2eeEnvelope) : String :=
  "\x7b\"version\":1,\"algorithm\":\"boxplot-crypto-box-v1\",\"sender\":" ++ jsonString e.sender ++
    ",\"recipient\":" ++ jsonString e.recipient ++ ",\"senderPublicKey\":" ++ jsonString e.senderPublicKey ++
    ",\"recipientPublicKey\":" ++ jsonString e.recipientPublicKey ++ ",\"nonce\":" ++ jsonString e.nonce ++
    ",\"ciphertext\":" ++ jsonString e.ciphertext ++ "\x7d"

/-- The two ways a run submits: `RemoteMutationSource.submit` and `Submission.submit`. -/
inductive SubmitRequest
  | source (accountKey : AccountKey) (message : RemoteSubmissionDraft) (idempotencyKey : String)
  | direct (message : SubmissionMessage) (idempotencyKey : String)
  deriving DecidableEq, Repr

/-! ## Synchronising an account -/

/-- What a refresh awaits. `session` and `isCurrent` look at the session registry; `syncQueryView` stands for
the whole of `Coordinator.syncQueryView`, which writes nothing but a view. -/
inductive SyncCall
  | session (accountKey : AccountKey)
  | isCurrent (accountKey : AccountKey)
  | syncIdentities (remoteAccountId : String) (previousState : Option String)
  | syncMailboxes (remoteAccountId : String) (previousState : Option String)
  | syncEmails (remoteAccountId : String) (previousState : Option String)
  | readCollectionSyncCursor (accountKey : AccountKey) (dataType : CollectionDataType)
  | applyCollectionSync (commit : CollectionSyncCommit)
  | listMailboxes (accountKey : AccountKey)
  | syncQueryView (accountKey : AccountKey) (remoteAccountId : String) (mailboxId : ScopedMailboxId)
  deriving DecidableEq, Repr

@[reducible] def SyncReply : SyncCall → Type
  | .session _ => Option String
  | .isCurrent _ => Bool
  | .syncIdentities _ _ => Except JsError (RemoteCollectionSync RemoteIdentity String)
  | .syncMailboxes _ _ => Except JsError (RemoteCollectionSync RemoteMailbox String)
  | .syncEmails _ _ => Except JsError (RemoteCollectionSync RemoteEmail String)
  | .readCollectionSyncCursor _ _ => PortReply LocalReadError (OwnedOptionalRead CollectionSyncCursor)
  | .applyCollectionSync _ => PortReply LocalWriteError Unit
  | .listMailboxes _ => PortReply LocalReadError (OwnedSnapshotRead (List Mailbox))
  | .syncQueryView _ _ _ => Except JsError Unit

/-! ## Requests and replies -/

inductive Call
  | now
  | isConnected (accountKey : AccountKey)
  | readPendingMutation (accountKey : AccountKey) (mutationId : MutationId)
  | listPendingMutations (accountKey : AccountKey)
  | readEmail (emailId : ScopedEmailId)
  | replacePendingMutationIfCurrent (expected next : PendingMutation)
  | removeConfirmedMutation (accountKey : AccountKey) (mutationId : MutationId)
  | encryptFor (input : EncryptForInput)
  /-- `submit` is called for the claimed record `mutation`. -/
  | submit (mutation : PendingMutation) (request : SubmitRequest)
  | submitSettled (mutation : PendingMutation)
  | applyKeywordChange (accountKey : AccountKey) (emailId : String) (add remove : List String)
  | keywordChangeSettled
  | applyMembershipChange (accountKey : AccountKey) (emailId : String) (add remove : List String)
  | membershipChangeSettled
  | reconcileSend (accountKey : AccountKey) (idempotencyKey : String)
  | reconcileMembership (accountKey : AccountKey) (idempotencyKey emailId : String) (add remove : List String)
  | sync (call : SyncCall)
  deriving DecidableEq, Repr

@[reducible] def Reply : Call → Type
  | .now => MutationInstant
  | .isConnected _ => Bool
  | .readPendingMutation _ _ => PortReply LocalReadError (OwnedOptionalRead PendingMutation)
  | .listPendingMutations _ => PortReply LocalReadError (OwnedSnapshotRead (List PendingMutation))
  | .readEmail _ => PortReply LocalReadError (LocalEntityRead Email)
  | .replacePendingMutationIfCurrent _ _ => PortReply LocalWriteError Unit
  | .removeConfirmedMutation _ _ => PortReply LocalWriteError Unit
  | .encryptFor _ => E2eeReply
  | .submit _ _ => Unit
  | .submitSettled _ => Except JsError SubmissionResult
  | .applyKeywordChange _ _ _ _ => Unit
  | .keywordChangeSettled => Except JsError Unit
  | .applyMembershipChange _ _ _ _ => Unit
  | .membershipChangeSettled => Except JsError Unit
  | .reconcileSend _ _ => Except JsError RemoteMutationEvidence
  | .reconcileMembership _ _ _ _ _ => Except JsError RemoteMutationEvidence
  | .sync call => SyncReply call

/-! ## Awaiting -/

/-- An async function of the outbox. -/
abbrev Promise (α : Type) := Async Call Reply JsError α

/-- Awaiting one request. -/
def ask (e : Call) : Promise (Reply e) := Async.call e

/-- Awaiting a local port: a rejected promise throws. -/
def received {ε α : Type} : PortReply ε α → Promise (Except ε α)
  | .ok v => pure (.ok v)
  | .failed e => pure (.error e)
  | .rejected => throw (.error "port rejected")

/-- A domain transition, throwing its `TypeError`. -/
def checked {α : Type} (r : Checked α) : Promise α := Async.lift (r.mapError .typeError)

/-- The outcome of a remote promise. -/
def settled {α : Type} (r : Except JsError α) : Promise α := Async.lift r

end Boxplot.Outbox
