import Boxplot.Lib.Serde
import Boxplot.Net.Dto
/-!
# The native side of the wire

What the derived `Serialize` and `Deserialize` of `src-tauri/src/net/dto.rs`,
`errors.rs` and `src-tauri/src/oauth/commands.rs` write and read.
-/

namespace Boxplot.Net

open Lib

/-! ## Responses -/

def NativeMailOpenResponse.serialize (v : NativeMailOpenResponse) : JsValue :=
  serializeStruct .camelCase [field "session_id" (.str v.sessionId), field "authenticated_user" (.str v.authenticatedUser)]

def NativeAddressDto.serialize (v : NativeAddressDto) : JsValue :=
  serializeStruct .camelCase [field "name" (.option .str v.name), field "email" (.str v.email)]

def NativeMailboxDto.serialize (v : NativeMailboxDto) : JsValue :=
  serializeStruct .camelCase
    [field "name" (.str v.name), field "messages" (.u64 v.messages), field "unseen" (.u64 v.unseen),
      field "uid_validity" (.u32 v.uidValidity), field "uid_next" (.u32 v.uidNext), unlessNone "special_use" .str v.specialUse]

/-- `Option<Vec<NativeAddressDto>>`. -/
def serializeAddresses : Option (List NativeAddressDto) → JsValue := .option (.vec NativeAddressDto.serialize)

def NativeMessageMetadataDto.serialize (v : NativeMessageMetadataDto) : JsValue :=
  serializeStruct .camelCase
    [field "mailbox" (.str v.mailbox), field "uid_validity" (.u32 v.uidValidity), field "uid" (.u32 v.uid),
      field "flags" (.vec .str v.flags), field "internal_date" (.str v.internalDate), field "size" (.u64 v.size),
      field "sender" (serializeAddresses v.sender), field "from" (serializeAddresses v.from),
      field "reply_to" (serializeAddresses v.replyTo), field "to" (serializeAddresses v.to),
      field "cc" (serializeAddresses v.cc), field "bcc" (serializeAddresses v.bcc),
      field "subject" (.option .str v.subject), field "sent_at" (.option .str v.sentAt), field "preview" (.str v.preview),
      field "has_attachment" (.bool v.hasAttachment)]

def NativeMailboxSnapshotDto.serialize (v : NativeMailboxSnapshotDto) : JsValue :=
  serializeStruct .camelCase
    [field "mailbox" v.mailbox.serialize, field "messages" (.vec NativeMessageMetadataDto.serialize v.messages)]

def NativeBodyDto.serialize : NativeBodyDto → JsValue
  | .plain text html =>
    serializeTagged "kind" .camelCase "Plain" [field "text" (.option .str text), field "html" (.option .str html)]
  | .boxplotE2ee payload => serializeTagged "kind" .camelCase "BoxplotE2ee" [field "payload" (.str payload)]

def NativeAttachmentDto.serialize (v : NativeAttachmentDto) : JsValue :=
  serializeStruct .camelCase
    [field "part_id" (.str v.partId), field "name" (.option .str v.name), field "media_type" (.str v.mediaType),
      field "size" (.u64 v.size), field "disposition" (.option .str v.disposition), field "cid" (.option .str v.cid)]

def NativeFoundEmailIdDto.serialize (v : NativeFoundEmailIdDto) : JsValue :=
  serializeStruct .camelCase
    [field "mailbox" (.str v.mailbox), field "uid_validity" (.u32 v.uidValidity), field "uid" (.u32 v.uid)]

def NativeFindMessageIdResponse.serialize : NativeFindMessageIdResponse → JsValue
  | .notFound => serializeTagged "kind" .camelCase "NotFound" []
  | .found emailId => serializeTagged "kind" .camelCase "Found" [field "email_id" emailId.serialize]
  | .ambiguous => serializeTagged "kind" .camelCase "Ambiguous" []

def NativeMoveResponse.serialize (v : NativeMoveResponse) : JsValue :=
  serializeStruct .camelCase
    [field "source_mailbox" (.str v.sourceMailbox), field "source_uid_validity" (.u32 v.sourceUidValidity),
      field "source_uid" (.u32 v.sourceUid), field "destination_mailbox" (.str v.destinationMailbox),
      field "destination_uid" (.u32 v.destinationUid)]

def NativeSmtpSubmitResponse.serialize (v : NativeSmtpSubmitResponse) : JsValue :=
  serializeStruct .camelCase [field "accepted" (.bool v.accepted), field "receipt_id" (.str v.receiptId)]

structure GoogleAuthorizeResponse where
  credentialRef : String
  deriving DecidableEq

def GoogleAuthorizeResponse.serialize (v : GoogleAuthorizeResponse) : JsValue :=
  serializeStruct .camelCase [field "credential_ref" (.str v.credentialRef)]

/-! ## Errors -/

def NativeMailErrorKind.serialize (v : NativeMailErrorKind) : JsValue :=
  serializeUnit .camelCase <| match v with
    | .auth => "Auth"
    | .network => "Network"
    | .unavailable => "Unavailable"
    | .protocol => "Protocol"
    | .malformedRemoteData => "MalformedRemoteData"
    | .stateInvalid => "StateInvalid"
    | .conflict => "Conflict"
    | .unsupported => "Unsupported"
    | .rateLimited => "RateLimited"
    | .tooLarge => "TooLarge"
    | .rejected => "Rejected"
    | .unexpected => "Unexpected"

def NativeMailRetry.serialize (v : NativeMailRetry) : JsValue :=
  serializeUnit .camelCase <| match v with
    | .never => "Never"
    | .safeImmediate => "SafeImmediate"
    | .safeBackoff => "SafeBackoff"
    | .reconcile => "Reconcile"

def NativeMailSessionDisposition.serialize (v : NativeMailSessionDisposition) : JsValue :=
  serializeUnit .camelCase <| match v with
    | .keep => "Keep"
    | .expire => "Expire"

def NativeMailOutcome.serialize (v : NativeMailOutcome) : JsValue :=
  serializeUnit .camelCase <| match v with
    | .notApplicable => "NotApplicable"
    | .knownNotApplied => "KnownNotApplied"
    | .unknown => "Unknown"

def NativeMailErrorDto.serialize (v : NativeMailErrorDto) : JsValue :=
  serializeStruct .camelCase
    [field "kind" v.kind.serialize, field "retry" v.retry.serialize, field "session" v.session.serialize,
      field "outcome" v.outcome.serialize, unlessNone "code" .str v.code]

/-! ## Requests -/

def NativeMailOpenRequest.deserialize (v : JsValue) : Option NativeMailOpenRequest := do
  let get ← deserializeStruct .camelCase false ["host", "username", "password", "imap_port", "smtp_port"] v
  return { host := ← Reader.string (get "host"), username := ← Reader.string (get "username"),
           password := ← Reader.string (get "password"), imapPort := ← Reader.u16 (get "imap_port"),
           smtpPort := ← Reader.u16 (get "smtp_port") }

def NativeGoogleMailOpenRequest.deserialize (v : JsValue) : Option NativeGoogleMailOpenRequest := do
  let get ← deserializeStruct .camelCase true ["username", "credential_ref"] v
  return { username := ← Reader.string (get "username"), credentialRef := ← Reader.string (get "credential_ref") }

def NativeSessionRequest.deserialize (v : JsValue) : Option NativeSessionRequest := do
  let get ← deserializeStruct .camelCase false ["session_id"] v
  return { sessionId := ← Reader.string (get "session_id") }

def NativeAddressDto.deserialize : Reader NativeAddressDto
  | some v => do
    let get ← deserializeStruct .camelCase false ["name", "email"] v
    return { name := ← Reader.optional .string (get "name"), email := ← Reader.string (get "email") }
  | none => none

def NativeMailboxRequest.deserialize (v : JsValue) : Option NativeMailboxRequest := do
  let get ← deserializeStruct .camelCase false ["session_id", "mailbox"] v
  return { sessionId := ← Reader.string (get "session_id"), mailbox := ← Reader.string (get "mailbox") }

def NativeMessageRequest.deserialize (v : JsValue) : Option NativeMessageRequest := do
  let get ← deserializeStruct .camelCase false ["session_id", "mailbox", "uid_validity", "uid"] v
  return { sessionId := ← Reader.string (get "session_id"), mailbox := ← Reader.string (get "mailbox"),
           uidValidity := ← Reader.u32 (get "uid_validity"), uid := ← Reader.u32 (get "uid") }

def NativeFindMessageIdRequest.deserialize (v : JsValue) : Option NativeFindMessageIdRequest := do
  let get ← deserializeStruct .camelCase false ["session_id", "mailbox", "message_id"] v
  return { sessionId := ← Reader.string (get "session_id"), mailbox := ← Reader.string (get "mailbox"),
           messageId := ← Reader.string (get "message_id") }

def NativeFlag.deserialize : Reader NativeFlag
  | some v => match deserializeUnit .camelCase ["Seen", "Flagged"] v with
    | some "Seen" => some .seen
    | some "Flagged" => some .flagged
    | _ => none
  | none => none

def NativeStoreFlagsRequest.deserialize (v : JsValue) : Option NativeStoreFlagsRequest := do
  let get ← deserializeStruct .camelCase false ["session_id", "mailbox", "uid_validity", "uid", "add", "remove"] v
  return { sessionId := ← Reader.string (get "session_id"), mailbox := ← Reader.string (get "mailbox"),
           uidValidity := ← Reader.u32 (get "uid_validity"), uid := ← Reader.u32 (get "uid"),
           add := ← Reader.array NativeFlag.deserialize (get "add"),
           remove := ← Reader.array NativeFlag.deserialize (get "remove") }

def NativeMoveRequest.deserialize (v : JsValue) : Option NativeMoveRequest := do
  let get ← deserializeStruct .camelCase false ["session_id", "mailbox", "uid_validity", "uid", "destination_mailbox"] v
  return { sessionId := ← Reader.string (get "session_id"), mailbox := ← Reader.string (get "mailbox"),
           uidValidity := ← Reader.u32 (get "uid_validity"), uid := ← Reader.u32 (get "uid"),
           destinationMailbox := ← Reader.string (get "destination_mailbox") }

def NativeSubmissionBodyDto.deserialize : Reader NativeSubmissionBodyDto
  | some v => do
    let (variant, get) ← deserializeTagged "kind" .camelCase ["Plain", "BoxplotE2ee"] v
    match variant with
    | "Plain" => return .plain (← Reader.string (get "text")) (← Reader.optional .string (get "html"))
    | "BoxplotE2ee" => return .boxplotE2ee (← Reader.string (get "payload"))
    | _ => none
  | none => none

def NativeSmtpSubmitRequest.deserialize (v : JsValue) : Option NativeSmtpSubmitRequest := do
  let get ← deserializeStruct .camelCase false
    ["session_id", "from", "to", "cc", "bcc", "reply_to", "subject", "body", "idempotency_key"] v
  return { sessionId := ← Reader.string (get "session_id"), «from» := ← NativeAddressDto.deserialize (get "from"),
           «to» := ← Reader.array NativeAddressDto.deserialize (get "to"),
           cc := ← Reader.array NativeAddressDto.deserialize (get "cc"),
           bcc := ← Reader.array NativeAddressDto.deserialize (get "bcc"),
           replyTo := ← Reader.array NativeAddressDto.deserialize (get "reply_to"),
           subject := ← Reader.string (get "subject"), body := ← NativeSubmissionBodyDto.deserialize (get "body"),
           idempotencyKey := ← Reader.string (get "idempotency_key") }

structure GoogleAuthorizeRequest where
  accountKey : String
  username : String
  deriving DecidableEq

def GoogleAuthorizeRequest.deserialize (v : JsValue) : Option GoogleAuthorizeRequest := do
  let get ← deserializeStruct .camelCase true ["account_key", "username"] v
  return { accountKey := ← Reader.string (get "account_key"), username := ← Reader.string (get "username") }

structure GoogleForgetRequest where
  credentialRef : String
  deriving DecidableEq

def GoogleForgetRequest.deserialize (v : JsValue) : Option GoogleForgetRequest := do
  let get ← deserializeStruct .camelCase true ["credential_ref"] v
  return { credentialRef := ← Reader.string (get "credential_ref") }

end Boxplot.Net
