import Mathlib.Tactic
/-!
# Native mail requests and responses

`src-tauri/src/net/errors.rs`: the error every native mail operation returns,
and the constructors its labels come from. And the data of
`src-tauri/src/net/dto.rs`.
-/

namespace Boxplot.Net

inductive NativeMailErrorKind
  | auth | network | unavailable | protocol | malformedRemoteData | stateInvalid | conflict | unsupported
  | rateLimited | tooLarge | rejected | unexpected
  deriving DecidableEq, Repr

inductive NativeMailRetry
  | never | safeImmediate | safeBackoff | reconcile
  deriving DecidableEq, Repr

inductive NativeMailSessionDisposition
  | keep | expire
  deriving DecidableEq, Repr

inductive NativeMailOutcome
  | notApplicable | knownNotApplied | unknown
  deriving DecidableEq, Repr

structure NativeMailErrorDto where
  kind : NativeMailErrorKind
  retry : NativeMailRetry
  session : NativeMailSessionDisposition
  outcome : NativeMailOutcome
  code : Option String
  deriving DecidableEq, Repr

namespace NativeMailErrorDto

def unavailable (code : String) : NativeMailErrorDto := ⟨.unavailable, .safeBackoff, .expire, .knownNotApplied, some code⟩
def auth : NativeMailErrorDto := ⟨.auth, .never, .expire, .knownNotApplied, some "authentication_failed"⟩
def protocol (code : String) : NativeMailErrorDto := ⟨.protocol, .never, .expire, .knownNotApplied, some code⟩
def stateInvalid (code : String) : NativeMailErrorDto := ⟨.stateInvalid, .never, .keep, .knownNotApplied, some code⟩
def sessionAbsent : NativeMailErrorDto := ⟨.stateInvalid, .never, .expire, .notApplicable, some "native_session_absent"⟩
def conflict (code : String) : NativeMailErrorDto := ⟨.conflict, .safeImmediate, .keep, .knownNotApplied, some code⟩
def unsupported (code : String) : NativeMailErrorDto := ⟨.unsupported, .never, .keep, .knownNotApplied, some code⟩
def rejected (code : String) : NativeMailErrorDto := ⟨.rejected, .never, .keep, .knownNotApplied, some code⟩
def transient (code : String) : NativeMailErrorDto := ⟨.unavailable, .safeBackoff, .keep, .knownNotApplied, some code⟩
def tooLarge : NativeMailErrorDto := ⟨.tooLarge, .never, .keep, .knownNotApplied, some "message_too_large"⟩
def ambiguous (code : String) : NativeMailErrorDto := ⟨.network, .reconcile, .keep, .unknown, some code⟩

/-- The labels of an effect that may have happened. -/
def IsAmbiguous (e : NativeMailErrorDto) : Prop := e.outcome = .unknown ∧ e.retry = .reconcile

instance (e : NativeMailErrorDto) : Decidable e.IsAmbiguous := inferInstanceAs (Decidable (_ ∧ _))

@[simp] theorem ambiguous_isAmbiguous (code : String) : (ambiguous code).IsAmbiguous := ⟨rfl, rfl⟩

@[simp] theorem protocol_not_isAmbiguous (code : String) : ¬ (protocol code).IsAmbiguous := by
  rintro ⟨h, -⟩; cases h

end NativeMailErrorDto

/-! ## Requests -/

structure NativeMailOpenRequest where
  host : String
  username : String
  password : String
  imapPort : UInt16
  smtpPort : UInt16
  deriving DecidableEq

structure NativeMailOpenResponse where
  sessionId : String
  authenticatedUser : String
  deriving DecidableEq

structure NativeGoogleMailOpenRequest where
  username : String
  credentialRef : String
  deriving DecidableEq

structure NativeSessionRequest where
  sessionId : String
  deriving DecidableEq

structure NativeAddressDto where
  name : Option String
  email : String
  deriving DecidableEq

structure NativeMailboxDto where
  name : String
  messages : UInt64
  unseen : UInt64
  uidValidity : UInt32
  uidNext : UInt32
  specialUse : Option String
  deriving DecidableEq

structure NativeMessageMetadataDto where
  mailbox : String
  uidValidity : UInt32
  uid : UInt32
  flags : List String
  internalDate : String
  size : UInt64
  sender : Option (List NativeAddressDto)
  «from» : Option (List NativeAddressDto)
  replyTo : Option (List NativeAddressDto)
  «to» : Option (List NativeAddressDto)
  cc : Option (List NativeAddressDto)
  bcc : Option (List NativeAddressDto)
  subject : Option String
  sentAt : Option String
  preview : String
  hasAttachment : Bool
  deriving DecidableEq

structure NativeMailboxSnapshotDto where
  mailbox : NativeMailboxDto
  messages : List NativeMessageMetadataDto
  deriving DecidableEq

inductive NativeBodyDto
  | plain (text html : Option String)
  | boxplotE2ee (payload : String)
  deriving DecidableEq

structure NativeAttachmentDto where
  partId : String
  name : Option String
  mediaType : String
  size : UInt64
  disposition : Option String
  cid : Option String
  deriving DecidableEq

structure NativeMailboxRequest where
  sessionId : String
  mailbox : String
  deriving DecidableEq

structure NativeMessageRequest where
  sessionId : String
  mailbox : String
  uidValidity : UInt32
  uid : UInt32
  deriving DecidableEq

structure NativeFindMessageIdRequest where
  sessionId : String
  mailbox : String
  messageId : String
  deriving DecidableEq

structure NativeFoundEmailIdDto where
  mailbox : String
  uidValidity : UInt32
  uid : UInt32
  deriving DecidableEq

inductive NativeFindMessageIdResponse
  | notFound
  | found (emailId : NativeFoundEmailIdDto)
  | ambiguous
  deriving DecidableEq

inductive NativeFlag
  | seen
  | flagged
  deriving DecidableEq

structure NativeStoreFlagsRequest where
  sessionId : String
  mailbox : String
  uidValidity : UInt32
  uid : UInt32
  add : List NativeFlag
  remove : List NativeFlag
  deriving DecidableEq

structure NativeMoveRequest where
  sessionId : String
  mailbox : String
  uidValidity : UInt32
  uid : UInt32
  destinationMailbox : String
  deriving DecidableEq

structure NativeMoveResponse where
  sourceMailbox : String
  sourceUidValidity : UInt32
  sourceUid : UInt32
  destinationMailbox : String
  destinationUid : UInt32
  deriving DecidableEq

inductive NativeSubmissionBodyDto
  | plain (text : String) (html : Option String)
  | boxplotE2ee (payload : String)
  deriving DecidableEq

structure NativeSmtpSubmitRequest where
  sessionId : String
  «from» : NativeAddressDto
  «to» : List NativeAddressDto
  cc : List NativeAddressDto
  bcc : List NativeAddressDto
  replyTo : List NativeAddressDto
  subject : String
  body : NativeSubmissionBodyDto
  idempotencyKey : String
  deriving DecidableEq

structure NativeSmtpSubmitResponse where
  accepted : Bool
  receiptId : String
  deriving DecidableEq

end Boxplot.Net
