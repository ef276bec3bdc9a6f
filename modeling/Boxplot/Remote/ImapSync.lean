import Boxplot.Net.ImapSnapshot
import Boxplot.Remote.ImapReconciler
import Boxplot.Remote.JmapRemoteMail
/-!
# Synchronising emails over IMAP

`ImapRemoteMail.syncEmails` of `src/remote/imap/imap-remote-mail.ts` and the
mapping of `src/remote/imap/mappers.ts`. The mailboxes are listed, read one
after another and listed again; what differs between the listings, or between
them and the reads, makes the attempt fail.
-/

namespace Boxplot.Remote

open Domain Lib Net

/-! ## The mapping -/

/-- The IMAP special use or the name says so. -/
def roleFor (specialUse : Option String) (name : String) : Option String :=
  let byName := if lowerCase name = "inbox".toList then some "inbox"
    else if lowerCase name = "sent".toList then some "sent"
    else if lowerCase name = "trash".toList then some "trash"
    else none
  match specialUse.map lowerCase with
  | none => byName
  | some use =>
    if use = "\\inbox".toList then some "inbox"
    else if use = "\\sent".toList then some "sent"
    else if use = "\\trash".toList then some "trash"
    else byName

def imapThreadId (emailId : String) : String := "imap-thread-v1:" ++ encode emailId
def imapBlobId (emailId : String) : String := "imap-blob-v1:" ++ encode emailId

def remoteAddresses (values : Option (List NativeAddressDto)) : EmailAddressList := values.map (·.map fun v => ⟨v.name, v.email⟩)

/-- What a flag is as a keyword. -/
def flagKeywords (flag : String) : List String :=
  if lowerCase flag = "\\seen".toList then ["$seen"]
  else if lowerCase flag = "\\flagged".toList then ["$flagged"]
  else []

/-- The members of a set in insertion order. -/
def setOf (values : List String) : List String := values.foldl (fun set v => if v ∈ set then set else set ++ [v]) []

def mapNativeEmail (value : NativeMessageMetadataDto) : Except RemoteError RemoteEmail := do
  let id ← imapEmailId ⟨value.mailbox, value.uidValidity.toNat, value.uid.toNat⟩
  .ok { id, blobId := imapBlobId id, threadId := imapThreadId id, sender := remoteAddresses value.sender,
        «from» := remoteAddresses value.from, replyTo := remoteAddresses value.replyTo, «to» := remoteAddresses value.to,
        cc := remoteAddresses value.cc, bcc := remoteAddresses value.bcc, subject := value.subject, sentAt := value.sentAt,
        receivedAt := value.internalDate, size := value.size.toNat, preview := value.preview,
        hasAttachment := value.hasAttachment, keywords := setOf (value.flags.flatMap flagKeywords),
        mailboxIds := [imapMailboxId value.mailbox] }

/-! ## Native calls -/

inductive NativeImapCall
  | listMailboxes (sessionId : String)
  | snapshotMailbox (sessionId mailbox : String)
  deriving DecidableEq, Repr

@[reducible] def NativeImapResult : NativeImapCall → Type
  | .listMailboxes _ => List NativeMailboxDto
  | .snapshotMailbox _ _ => NativeMailboxSnapshotDto

@[reducible] def NativeImapReply (c : NativeImapCall) : Type := Except JsError (NativeImapResult c)

abbrev ImapMailCall (α : Type) := Async NativeImapCall NativeImapReply JsError α

def invoke (c : NativeImapCall) : ImapMailCall (NativeImapResult c) := do
  let r ← Async.call c
  Async.lift r

/-! ## Sorting and comparing -/

/-- `JSON.stringify` and `localeCompare`. -/
structure JsText where
  stringify : JsValue → String
  localeCompare : String → String → Int

def mailboxRank (name : String) : Nat :=
  if lowerCase name = "inbox".toList then 0
  else if lowerCase name = "sent".toList then 1
  else if lowerCase name = "trash".toList then 2
  else 3

def JsText.mailboxBefore (js : JsText) (left right : NativeMailboxDto) : Bool :=
  if mailboxRank left.name = mailboxRank right.name then js.localeCompare left.name right.name ≤ 0
  else mailboxRank left.name < mailboxRank right.name

def JsText.sortMailboxes (js : JsText) (values : List NativeMailboxDto) : List NativeMailboxDto :=
  values.insertionSort fun left right => js.mailboxBefore left right

/-- One mailbox of a fingerprint; the fingerprint is compared as text, which tells different ones apart. -/
structure MailboxMark where
  name : String
  uidValidity : UInt32
  uidNext : UInt32
  messages : UInt64
  unseen : UInt64
  deriving DecidableEq, Repr

def mailboxFingerprint (values : List NativeMailboxDto) : List MailboxMark :=
  values.map fun v => ⟨v.name, v.uidValidity, v.uidNext, v.messages, v.unseen⟩

/-- The UTF-16 code units of a string, by which strings are ordered. -/
def utf16Units (s : String) : List Nat :=
  s.toList.flatMap fun c =>
    if c.toNat < 0x10000 then [c.toNat] else [0xD800 + (c.toNat - 0x10000) / 0x400, 0xDC00 + (c.toNat - 0x10000) % 0x400]

def emailMark (value : NativeMessageMetadataDto) : JsValue :=
  .arr [.str value.mailbox, .num value.uidValidity.toNat, .num value.uid.toNat,
    .arr ((value.flags.insertionSort fun f g => utf16Units f ≤ utf16Units g).map .str), .str value.internalDate, .num value.size.toNat]

def JsText.state (js : JsText) (kind : String) (values : List JsValue) : String :=
  "imap-state-v1:" ++ kind ++ ":" ++ js.stringify (.arr values)

def JsText.emailsState (js : JsText) (records : List NativeMessageMetadataDto) : String :=
  js.state "emails" ((records.map emailMark).insertionSort fun left right =>
    js.localeCompare (js.stringify left) (js.stringify right) ≤ 0)

/-! ## `syncEmails` -/

inductive SyncPolicy
  | genericImap | gmailDogfood
  deriving DecidableEq, Repr

structure ImapSyncMail extends ImapRemoteMail where
  syncPolicy : SyncPolicy

namespace ImapSyncMail

def snapshotConflict : RemoteError :=
  ⟨"IMAP account snapshot changed during synchronization", .conflict, .safeImmediate, .keep, .knownNotApplied⟩

def syncMailboxesForPolicy (self : ImapSyncMail) (values : List NativeMailboxDto) : List NativeMailboxDto :=
  match self.syncPolicy with
  | .genericImap => values
  | .gmailDogfood => values.filter fun v => roleFor v.specialUse v.name ∈ [some "inbox", some "sent", some "trash"]

def snapshotMailboxes (sessionId : String) : List NativeMailboxDto → ImapMailCall (List NativeMailboxSnapshotDto)
  | [] => pure []
  | mailbox :: rest => do
    let snapshot : NativeMailboxSnapshotDto ← invoke (.snapshotMailbox sessionId mailbox.name)
    let snapshots ← snapshotMailboxes sessionId rest
    pure (snapshot :: snapshots)

variable (js : JsText) (self : ImapSyncMail)

/-- Whether two of the three fingerprints differ. -/
def changed (initial snapshots final : List NativeMailboxDto) : Bool :=
  mailboxFingerprint initial ≠ mailboxFingerprint snapshots || mailboxFingerprint initial ≠ mailboxFingerprint final

def syncEmailsAttempt : ImapMailCall (RemoteCollectionSync RemoteEmail String) := do
  let initial : List NativeMailboxDto ← invoke (.listMailboxes self.sessionId)
  let initialMailboxes := self.syncMailboxesForPolicy (js.sortMailboxes initial)
  let snapshots ← snapshotMailboxes self.sessionId initialMailboxes
  let final : List NativeMailboxDto ← invoke (.listMailboxes self.sessionId)
  let finalMailboxes := self.syncMailboxesForPolicy (js.sortMailboxes final)
  if changed initialMailboxes (js.sortMailboxes (snapshots.map (·.mailbox))) finalMailboxes then throw (.remote snapshotConflict)
  else
    let records := snapshots.flatMap (·.messages)
    let snapshot ← Async.lift ((records.mapM mapNativeEmail).mapError .remote)
    Async.lift ((validateRemoteCollectionSync (.replace (js.emailsState records) snapshot) (·.id)).mapError .typeError)

/-- Attempt number `attempt` and, if so many are left, the next. -/
def syncEmailsFrom (attempt : Nat) : Nat → ImapMailCall (RemoteCollectionSync RemoteEmail String)
  | 0 => throw (.remote snapshotConflict)
  | left + 1 =>
    tryCatch (syncEmailsAttempt js self) fun error =>
      match toNativeRemoteError error with
      | .remote e =>
        if attempt = 0 ∧ e.kind = .conflict ∧ e.retry = .safeImmediate then syncEmailsFrom (attempt + 1) left
        else throw (.remote e)
      | e => throw e

def syncEmails (accountId : String) (_previousState : Option String) : ImapMailCall (RemoteCollectionSync RemoteEmail String) := do
  Async.lift ((self.assertAccount accountId).mapError .remote)
  syncEmailsFrom js self 0 2

end ImapSyncMail

end Boxplot.Remote
