import Boxplot.Net.Wire
/-!
# The TypeScript side of the wire

The types of `src/remote/native/ipc.ts`. No code checks a response: a value has
its type if it has exactly the type's properties, and TypeScript reads them by
the type's names. The values read are those of the native types.
-/

namespace Boxplot.Remote.Ipc

open Lib Net

/-! ## Responses -/

/-- The values of an object type's properties, the required ones first. -/
def object (required others : List String) : Reader (List (Option JsValue)) := fun v => do
  let fields ← exactFields required others (← v)
  return (required ++ others).map (List.lookup · fields)

/-- One of several literals. -/
def literal {α : Type} (labels : List (String × α)) : Reader α := fun v => do
  let text ← Reader.string v
  labels.lookup text

def nativeMailOpenResponse : Reader NativeMailOpenResponse := fun v => do
  let [sessionId, authenticatedUser] ← object ["sessionId", "authenticatedUser"] [] v | none
  return { sessionId := ← Reader.string sessionId, authenticatedUser := ← Reader.string authenticatedUser }

def nativeGoogleOAuthAuthorizeResponse : Reader GoogleAuthorizeResponse := fun v => do
  let [credentialRef] ← object ["credentialRef"] [] v | none
  return { credentialRef := ← Reader.string credentialRef }

def nativeAddressDto : Reader NativeAddressDto := fun v => do
  let [name, email] ← object ["name", "email"] [] v | none
  return { name := ← Reader.nullable .string name, email := ← Reader.string email }

def nativeMailboxDto : Reader NativeMailboxDto := fun v => do
  let [name, messages, unseen, uidValidity, uidNext, specialUse] ←
    object ["name", "messages", "unseen", "uidValidity", "uidNext"] ["specialUse"] v | none
  return { name := ← Reader.string name, messages := ← Reader.u64 messages, unseen := ← Reader.u64 unseen,
           uidValidity := ← Reader.u32 uidValidity, uidNext := ← Reader.u32 uidNext,
           specialUse := ← Reader.optional .string specialUse }

/-- `readonly NativeAddressDto[] | null`. -/
def addresses : Reader (Option (List NativeAddressDto)) := .nullable (.array nativeAddressDto)

def nativeMessageMetadataDto : Reader NativeMessageMetadataDto := fun v => do
  let [mailbox, uidValidity, uid, flags, internalDate, size, sender, «from», replyTo, «to», cc, bcc, subject, sentAt, preview,
      hasAttachment] ←
    object ["mailbox", "uidValidity", "uid", "flags", "internalDate", "size", "sender", "from", "replyTo", "to", "cc", "bcc",
      "subject", "sentAt", "preview", "hasAttachment"] [] v | none
  return { mailbox := ← Reader.string mailbox, uidValidity := ← Reader.u32 uidValidity, uid := ← Reader.u32 uid,
           flags := ← Reader.array .string flags, internalDate := ← Reader.string internalDate, size := ← Reader.u64 size,
           sender := ← addresses sender, «from» := ← addresses «from», replyTo := ← addresses replyTo,
           «to» := ← addresses «to», cc := ← addresses cc, bcc := ← addresses bcc,
           subject := ← Reader.nullable .string subject, sentAt := ← Reader.nullable .string sentAt,
           preview := ← Reader.string preview, hasAttachment := ← Reader.boolean hasAttachment }

def nativeMailboxSnapshotDto : Reader NativeMailboxSnapshotDto := fun v => do
  let [mailbox, messages] ← object ["mailbox", "messages"] [] v | none
  return { mailbox := ← nativeMailboxDto mailbox, messages := ← Reader.array nativeMessageMetadataDto messages }

/-- The member of a union that the `kind` of a value says. -/
def kindOf : Reader String
  | some (.obj fields) => Reader.string (fields.lookup "kind")
  | _ => none

def nativeBodyDto : Reader NativeBodyDto := fun v => do
  match ← kindOf v with
  | "plain" => do
    let [_, text, html] ← object ["kind", "text", "html"] [] v | none
    return .plain (← Reader.nullable .string text) (← Reader.nullable .string html)
  | "boxplotE2ee" => do
    let [_, payload] ← object ["kind", "payload"] [] v | none
    return .boxplotE2ee (← Reader.string payload)
  | _ => none

def nativeAttachmentDto : Reader NativeAttachmentDto := fun v => do
  let [partId, name, mediaType, size, disposition, cid] ←
    object ["partId", "name", "mediaType", "size", "disposition", "cid"] [] v | none
  return { partId := ← Reader.string partId, name := ← Reader.nullable .string name, mediaType := ← Reader.string mediaType,
           size := ← Reader.u64 size, disposition := ← Reader.nullable .string disposition,
           cid := ← Reader.nullable .string cid }

def nativeFoundEmailIdDto : Reader NativeFoundEmailIdDto := fun v => do
  let [mailbox, uidValidity, uid] ← object ["mailbox", "uidValidity", "uid"] [] v | none
  return { mailbox := ← Reader.string mailbox, uidValidity := ← Reader.u32 uidValidity, uid := ← Reader.u32 uid }

def nativeFindMessageIdResponse : Reader NativeFindMessageIdResponse := fun v => do
  match ← kindOf v with
  | "notFound" => do
    let [_] ← object ["kind"] [] v | none
    return .notFound
  | "found" => do
    let [_, emailId] ← object ["kind", "emailId"] [] v | none
    return .found (← nativeFoundEmailIdDto emailId)
  | "ambiguous" => do
    let [_] ← object ["kind"] [] v | none
    return .ambiguous
  | _ => none

def nativeMoveResponse : Reader NativeMoveResponse := fun v => do
  let [sourceMailbox, sourceUidValidity, sourceUid, destinationMailbox, destinationUid] ←
    object ["sourceMailbox", "sourceUidValidity", "sourceUid", "destinationMailbox", "destinationUid"] [] v | none
  return { sourceMailbox := ← Reader.string sourceMailbox, sourceUidValidity := ← Reader.u32 sourceUidValidity,
           sourceUid := ← Reader.u32 sourceUid, destinationMailbox := ← Reader.string destinationMailbox,
           destinationUid := ← Reader.u32 destinationUid }

def nativeSmtpSubmitResponse : Reader NativeSmtpSubmitResponse := fun v => do
  let [accepted, receiptId] ← object ["accepted", "receiptId"] [] v | none
  return { accepted := ← Reader.boolean accepted, receiptId := ← Reader.string receiptId }

/-! ## Errors -/

def remoteErrorKind : Reader NativeMailErrorKind :=
  literal [("auth", .auth), ("network", .network), ("unavailable", .unavailable), ("protocol", .protocol),
    ("malformedRemoteData", .malformedRemoteData), ("stateInvalid", .stateInvalid), ("conflict", .conflict),
    ("unsupported", .unsupported), ("rateLimited", .rateLimited), ("tooLarge", .tooLarge), ("rejected", .rejected),
    ("unexpected", .unexpected)]

def retryDisposition : Reader NativeMailRetry :=
  literal [("never", .never), ("safeImmediate", .safeImmediate), ("safeBackoff", .safeBackoff), ("reconcile", .reconcile)]

def sessionDisposition : Reader NativeMailSessionDisposition := literal [("keep", .keep), ("expire", .expire)]

def operationOutcome : Reader NativeMailOutcome :=
  literal [("notApplicable", .notApplicable), ("knownNotApplied", .knownNotApplied), ("unknown", .unknown)]

def nativeMailErrorDto : Reader NativeMailErrorDto := fun v => do
  let [kind, retry, session, outcome, code] ← object ["kind", "retry", "session", "outcome"] ["code"] v | none
  return { kind := ← remoteErrorKind kind, retry := ← retryDisposition retry, session := ← sessionDisposition session,
           outcome := ← operationOutcome outcome, code := ← Reader.absentOr .string code }

/-! ## Requests -/

def openRequest (v : NativeMailOpenRequest) : JsValue :=
  .obj [("host", .str v.host), ("username", .str v.username), ("password", .str v.password), ("imapPort", .u16 v.imapPort),
    ("smtpPort", .u16 v.smtpPort)]

def googleAuthorizeRequest (v : GoogleAuthorizeRequest) : JsValue :=
  .obj [("accountKey", .str v.accountKey), ("username", .str v.username)]

def googleForgetRequest (v : GoogleForgetRequest) : JsValue := .obj [("credentialRef", .str v.credentialRef)]

def googleOpenRequest (v : NativeGoogleMailOpenRequest) : JsValue :=
  .obj [("username", .str v.username), ("credentialRef", .str v.credentialRef)]

def sessionRequest (v : NativeSessionRequest) : JsValue := .obj [("sessionId", .str v.sessionId)]

def mailboxRequest (v : NativeMailboxRequest) : JsValue := .obj [("sessionId", .str v.sessionId), ("mailbox", .str v.mailbox)]

def messageRequest (v : NativeMessageRequest) : JsValue :=
  .obj [("sessionId", .str v.sessionId), ("mailbox", .str v.mailbox), ("uidValidity", .u32 v.uidValidity), ("uid", .u32 v.uid)]

def findMessageIdRequest (v : NativeFindMessageIdRequest) : JsValue :=
  .obj [("sessionId", .str v.sessionId), ("mailbox", .str v.mailbox), ("messageId", .str v.messageId)]

def flag : NativeFlag → JsValue
  | .seen => .str "seen"
  | .flagged => .str "flagged"

def storeFlagsRequest (v : NativeStoreFlagsRequest) : JsValue :=
  .obj [("sessionId", .str v.sessionId), ("mailbox", .str v.mailbox), ("uidValidity", .u32 v.uidValidity), ("uid", .u32 v.uid),
    ("add", .vec flag v.add), ("remove", .vec flag v.remove)]

def moveRequest (v : NativeMoveRequest) : JsValue :=
  .obj [("sessionId", .str v.sessionId), ("mailbox", .str v.mailbox), ("uidValidity", .u32 v.uidValidity), ("uid", .u32 v.uid),
    ("destinationMailbox", .str v.destinationMailbox)]

def address (v : NativeAddressDto) : JsValue := .obj [("name", .option .str v.name), ("email", .str v.email)]

def submissionBody : NativeSubmissionBodyDto → JsValue
  | .plain text html => .obj [("kind", .str "plain"), ("text", .str text), ("html", .option .str html)]
  | .boxplotE2ee payload => .obj [("kind", .str "boxplotE2ee"), ("payload", .str payload)]

def smtpSubmitRequest (v : NativeSmtpSubmitRequest) : JsValue :=
  .obj [("sessionId", .str v.sessionId), ("from", address v.from), ("to", .vec address v.to), ("cc", .vec address v.cc),
    ("bcc", .vec address v.bcc), ("replyTo", .vec address v.replyTo), ("subject", .str v.subject),
    ("body", submissionBody v.body), ("idempotencyKey", .str v.idempotencyKey)]

end Boxplot.Remote.Ipc
