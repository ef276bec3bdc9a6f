import Boxplot.Remote.ImapIds
import Boxplot.Remote.Errors
/-!
# Mutations over native IPC

`SmtpSubmission.submit` and the two mutations of `ImapRemoteMail`, with the
error mapper they share (`src/remote/native/error-mapper.ts`). A native command
is an `Invocation`: whether its effect on the server was performed, and how its
promise ends. Nothing ties the two together but the labels of the native side's
own errors, which are truthful.
-/

namespace Boxplot.Remote

open Domain

/-! ## The error mapper -/

def nativeKind : String → Option RemoteErrorKind
  | "auth" => some .auth
  | "network" => some .network
  | "unavailable" => some .unavailable
  | "protocol" => some .protocol
  | "malformedRemoteData" => some .malformedRemoteData
  | "stateInvalid" => some .stateInvalid
  | "conflict" => some .conflict
  | "unsupported" => some .unsupported
  | "rateLimited" => some .rateLimited
  | "tooLarge" => some .tooLarge
  | "rejected" => some .rejected
  | "unexpected" => some .unexpected
  | _ => none

def nativeRetry : String → Option RetryDisposition
  | "never" => some .never
  | "safeImmediate" => some .safeImmediate
  | "safeBackoff" => some .safeBackoff
  | "reconcile" => some .reconcile
  | _ => none

def nativeSession : String → Option SessionDisposition
  | "keep" => some .keep
  | "expire" => some .expire
  | _ => none

def nativeOutcome : String → Option OperationOutcome
  | "notApplicable" => some .notApplicable
  | "knownNotApplied" => some .knownNotApplied
  | "unknown" => some .unknown
  | _ => none

/-- What a check finds: a label, no label, or an exception of the value's own. -/
inductive Found (α : Type)
  | label (value : α)
  | missing
  | threw
  deriving DecidableEq, Repr

/-- A check through `String(value)`: what is no string passes if it reads like a label, and is kept as it is. -/
def coerced {α : Type} (labels : String → Option α) (odd : α) : JsField → Found α
  | .string value => match labels value with
    | some label => .label label
    | none => .missing
  | .other text => match labels text with
    | some _ => .label odd
    | none => .missing
  | .throws => .threw

/-- `typeof value === 'string'` comes before the lookup of the kind. -/
def strict {α : Type} (labels : String → Option α) : JsField → Found α
  | .string value => match labels value with
    | some label => .label label
    | none => .missing
  | .other _ => .missing
  | .throws => .threw

structure NativeLabels where
  kind : RemoteErrorKind
  retry : RetryDisposition
  session : SessionDisposition
  outcome : OperationOutcome
  deriving DecidableEq, Repr

/-- `isNativeError`, in the order of its conjuncts, with the labels it finds. -/
def isNativeError : ThrownValue → Found NativeLabels
  | .nonObject => .missing
  | .object kind retry session outcome _ =>
    match strict nativeKind kind with
    | .missing => .missing
    | .threw => .threw
    | .label kind => match coerced nativeRetry .other retry with
      | .missing => .missing
      | .threw => .threw
      | .label retry => match coerced nativeSession .other session with
        | .missing => .missing
        | .threw => .threw
        | .label session => match coerced nativeOutcome .other outcome with
          | .missing => .missing
          | .threw => .threw
          | .label outcome => .label ⟨kind, retry, session, outcome⟩

def nativeMessage : ThrownValue → Option String
  | .object _ _ _ _ .falsy => some "Native mail operation failed"
  | .object _ _ _ _ (.shown code) => some ("Native mail operation failed (" ++ code ++ ")")
  | _ => none

/-- What `toNativeRemoteError` makes of a value that is no native error. -/
def nativeIpcUnavailable : RemoteError :=
  ⟨"Native mail IPC is unavailable", .unavailable, .safeBackoff, .expire, .knownNotApplied⟩

/-- `throw toNativeRemoteError(error)`. A value that throws while it is looked at ends it with its own exception. -/
def toNativeRemoteError : JsError → JsError
  | .remote e => .remote e
  | .thrown value =>
    match isNativeError value with
    | .missing => .remote nativeIpcUnavailable
    | .threw => .thrown .nonObject
    | .label l =>
      match nativeMessage value with
      | none => .thrown .nonObject
      | some message => .remote ⟨message, l.kind, l.retry, l.session, l.outcome⟩
  | _ => .remote nativeIpcUnavailable

/-! ## Native commands -/

/-- The labels of an error that lets the outbox act as if nothing had happened. -/
def RemoteError.saysNotApplied (e : RemoteError) : Prop := e.outcome = .knownNotApplied ∨ e.retry.isSafe = true

instance (e : RemoteError) : Decidable e.saysNotApplied := inferInstanceAs (Decidable (_ ∨ _))

/-- The native side's own labels: what the mapper makes of a value that is a native error. -/
def nativeLabels : JsError → Option RemoteError
  | .thrown value =>
    match isNativeError value, nativeMessage value with
    | .label l, some message => some ⟨message, l.kind, l.retry, l.session, l.outcome⟩
    | _, _ => none
  | _ => none

/-- A native command that was sent: whether its effect was performed, and how its promise ends.
A native error that says its effect was not applied is right. -/
structure Invocation (α : Type) where
  performed : Bool
  ending : Except JsError α
  truthful : ∀ v e, ending = .error v → nativeLabels v = some e → e.saysNotApplied → performed = false

/-- The `try` around a native command, with what is read of its result. -/
def Invocation.attempt {α β : Type} (i : Invocation α) (read : α → Except JsError β) : Attempt β :=
  ⟨i.performed, (i.ending.bind read).mapError toNativeRemoteError⟩

/-- Sends the command unless its request could not be made. -/
def Attempt.send {ρ α β : Type} (request : Except JsError ρ) (ipc : ρ → Invocation α) (read : α → Except JsError β) :
    Attempt β :=
  match request with
  | .error e => .ended (.error e)
  | .ok r => (ipc r).attempt read

/-! ## SMTP -/

structure SmtpSubmitRequest where
  sessionId : String
  «from» : EmailAddress
  «to» : List EmailAddress
  cc : List EmailAddress
  bcc : List EmailAddress
  replyTo : List EmailAddress
  subject : String
  body : SubmissionBody
  idempotencyKey : String
  deriving DecidableEq, Repr

/-- What `smtpSubmit` resolves to, as far as `response.receiptId` looks at it. -/
inductive SmtpSubmitReply
  | nullish
  | object (receiptId : Option String)
  deriving DecidableEq, Repr

def SmtpSubmitReply.result : SmtpSubmitReply → Except JsError SubmissionResult
  | .nullish => .error (.typeError "Cannot read properties of null")
  | .object receiptId => .ok ⟨none, receiptId⟩

def stateInvalidLabels (code : String) : JsError :=
  .thrown (.object (.string "stateInvalid") (.string "never") (.string "keep") (.string "knownNotApplied") (.shown code))

structure SmtpSubmission where
  sessionId : String
  accountId : String

/-- The request `submit` sends. -/
def SmtpSubmission.request (self : SmtpSubmission) (message : SubmissionMessage) (idempotencyKey : String) :
    Except JsError SmtpSubmitRequest :=
  if message.remoteAccountId ≠ self.accountId then
    .error (toNativeRemoteError (stateInvalidLabels "remote_account_mismatch"))
  else .ok { sessionId := self.sessionId, «from» := message.from, «to» := message.to, cc := message.cc,
             bcc := message.bcc, replyTo := message.replyTo, subject := message.subject, body := message.body,
             idempotencyKey }

def SmtpSubmission.submit (self : SmtpSubmission) (smtpSubmit : SmtpSubmitRequest → Invocation SmtpSubmitReply)
    (message : SubmissionMessage) (idempotencyKey : String) : Attempt SubmissionResult :=
  .send (self.request message idempotencyKey) smtpSubmit SmtpSubmitReply.result

/-! ## IMAP -/

inductive ImapFlag
  | seen | flagged
  deriving DecidableEq, Repr

structure StoreFlagsRequest extends DecodedImapEmailId where
  sessionId : String
  add : List ImapFlag
  remove : List ImapFlag
  deriving DecidableEq, Repr

structure MoveRequest extends DecodedImapEmailId where
  sessionId : String
  destinationMailbox : String
  deriving DecidableEq, Repr

structure ImapRemoteMail where
  sessionId : String
  accountId : String

namespace ImapRemoteMail

def unsupported (message : String) : RemoteError := ⟨message, .unsupported, .never, .keep, .knownNotApplied⟩
def invalidState (message : String) : RemoteError := ⟨message, .stateInvalid, .never, .keep, .knownNotApplied⟩

def assertAccount (self : ImapRemoteMail) (accountId : String) : Except RemoteError Unit :=
  if accountId ≠ self.accountId then .error (invalidState "Remote Account does not belong to session") else .ok ()

def convert (value : String) : Except RemoteError ImapFlag :=
  if value = "$seen" then .ok .seen
  else if value = "$flagged" then .ok .flagged
  else .error (unsupported ("Unsupported IMAP keyword " ++ value))

def storeFlagsRequest (self : ImapRemoteMail) (accountId emailId : String) (change : RemoteKeywordChange) :
    Except RemoteError StoreFlagsRequest := do
  self.assertAccount accountId
  let add ← change.add.mapM convert
  let remove ← change.remove.mapM convert
  let target ← decodeImapEmailId emailId
  .ok { target with sessionId := self.sessionId, add, remove }

def applyKeywordChange (self : ImapRemoteMail) (storeFlags : StoreFlagsRequest → Invocation Unit)
    (accountId emailId : String) (change : RemoteKeywordChange) : Attempt Unit :=
  .send ((self.storeFlagsRequest accountId emailId change).mapError .remote) storeFlags .ok

/-- One mailbox is left for another; a change of nothing needs no request. -/
def moveRequest (self : ImapRemoteMail) (accountId emailId : String) (change : RemoteMembershipChange) :
    Except RemoteError (Option MoveRequest) := do
  self.assertAccount accountId
  if change.add.isEmpty && change.remove.isEmpty then .ok none
  else do
    let source ← decodeImapEmailId emailId
    match change.add, change.remove with
    | [added], [removed] => do
      let left ← decodeImapMailboxId removed
      if left ≠ source.mailbox then .error (unsupported "IMAP MVP only supports one-mailbox MOVE")
      else do
        let destinationMailbox ← decodeImapMailboxId added
        .ok (some { source with sessionId := self.sessionId, destinationMailbox })
    | _, _ => .error (unsupported "IMAP MVP only supports one-mailbox MOVE")

def applyMembershipChange (self : ImapRemoteMail) (move : MoveRequest → Invocation Unit) (accountId emailId : String)
    (change : RemoteMembershipChange) : Attempt Unit :=
  match self.moveRequest accountId emailId change with
  | .ok none => .ended (.ok ())
  | .ok (some r) => (move r).attempt .ok
  | .error e => .ended (.error (.remote e))

end ImapRemoteMail

end Boxplot.Remote
