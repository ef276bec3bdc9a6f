import Boxplot.Lib.Async
import Boxplot.Net.ImapCommand
/-!
# Snapshots of a mailbox

`list_mailboxes`, `status` and `snapshot` of `src-tauri/src/net/imap.rs`. Each
command is a request, and other clients may change the mailboxes between any two
of them. A response is the list of its lines as they are read: what a reader
makes of a number, a name or a list of flags in a line's text.
-/

namespace Boxplot.Net

open Lib

/-! ## Responses -/

/-- The numbers of a `STATUS` line. -/
structure StatusLine where
  messages : NetResult UInt64
  unseen : NetResult UInt64
  uidNext : NetResult UInt64
  uidValidity : NetResult UInt64

structure FetchLine where
  uid : NetResult UInt32
  flags : Option (List String)
  /-- As RFC 3339 text. -/
  internalDate : Option String
  size : NetResult UInt64
  literal : Option (List UInt8)

inductive ImapLine
  /-- A line with a `UIDVALIDITY` code. -/
  | uidValidity (n : UInt32)
  | list (name specialUse : Option String)
  | status (line : StatusLine)
  | search (uids : NetResult (List UInt32))
  | fetch (line : FetchLine)
  | other

inductive ImapCall
  | select (mailbox : String)
  | list
  | status (mailbox : String)
  | searchAll
  /-- Everything of a message. -/
  | fetch (uid : UInt32)
  | fetchFlags (uid : UInt32)
  deriving DecidableEq, Repr

@[reducible] def ImapReply (_ : ImapCall) : Type := NetResult (List ImapLine)

abbrev ImapProgram (α : Type) := Async ImapCall ImapReply NativeMailErrorDto α

/-- A command that does not go wrong. -/
def sendCommand (command : ImapCall) : ImapProgram (List ImapLine) := do
  let response ← Async.call command
  Async.lift response

def toU32 (n : UInt64) (code : String) : NetResult UInt32 :=
  if n.toNat < 2 ^ 32 then .ok n.toUInt32 else .error (.protocol code)

/-! ## Single commands -/

/-- The uid validity of the mailbox. -/
def selectMailbox (mailbox : String) : ImapProgram UInt32 := do
  let _ ← Async.lift (quote mailbox)
  let lines ← sendCommand (.select mailbox)
  match lines.findSome? fun | .uidValidity n => some n | _ => none with
  | some uidValidity => pure uidValidity
  | none => throw (.protocol "imap_uidvalidity_missing")

def readStatus (mailbox : String) (lines : List ImapLine) : NetResult NativeMailboxDto :=
  match lines.findSome? fun | .status line => some line | _ => none with
  | none => .error (.protocol "imap_status_missing")
  | some line => do
    let messages ← line.messages
    let unseen ← line.unseen
    let uidNext ← toU32 (← line.uidNext) "imap_uidnext_invalid"
    let uidValidity ← toU32 (← line.uidValidity) "imap_uidvalidity_invalid"
    .ok { name := mailbox, messages, unseen, uidValidity, uidNext, specialUse := none }

def mailboxStatus (mailbox : String) : ImapProgram NativeMailboxDto := do
  let _ ← Async.lift (quote mailbox)
  let lines ← sendCommand (.status mailbox)
  Async.lift (readStatus mailbox lines)

/-- The uids of the first search line, in order and without duplicates. -/
def searchUidsFromResponse (lines : List ImapLine) : NetResult (List UInt32) :=
  match lines.findSome? fun | .search uids => some uids | _ => none with
  | none => .error (.protocol "imap_search_missing")
  | some uids => uids.map fun uids => (uids.insertionSort (· ≤ ·)).dedup

def searchUids : ImapProgram (List UInt32) := do
  let lines ← sendCommand .searchAll
  Async.lift (searchUidsFromResponse lines)

structure FetchedMessage where
  flags : List String
  internalDate : String
  size : UInt64
  raw : List UInt8

/-- The one line with a literal, which has to be the message's. -/
def fetchedMessage (uid : UInt32) (lines : List ImapLine) : NetResult FetchedMessage :=
  match lines.filterMap fun | .fetch line => line.literal.map fun raw => (line, raw) | _ => none with
  | [] => .error (.stateInvalid "imap_message_absent")
  | _ :: _ :: _ => .error (.protocol "imap_fetch_duplicate")
  | [(line, raw)] => do
    let fetchedUid ← line.uid
    if fetchedUid ≠ uid then .error (.stateInvalid "imap_uid_mismatch")
    else
      match line.internalDate with
      | none => .error (.protocol "imap_internaldate_invalid")
      | some internalDate => do
        let size ← line.size
        .ok { flags := line.flags.getD [], internalDate, size, raw }

def fetchMessage (uid : UInt32) : ImapProgram FetchedMessage := do
  let lines ← sendCommand (.fetch uid)
  Async.lift (fetchedMessage uid lines)

/-! ## Listing -/

/-- The mailboxes with a name, and their special uses. -/
def listedNames (lines : List ImapLine) : List (String × Option String) :=
  lines.filterMap fun
    | .list (some name) specialUse => some (name, specialUse)
    | _ => none

def listStatuses : List (String × Option String) → ImapProgram (List NativeMailboxDto)
  | [] => pure []
  | (name, specialUse) :: rest => do
    let mailbox ← mailboxStatus name
    let mailboxes ← listStatuses rest
    pure ({ mailbox with specialUse } :: mailboxes)

def listMailboxes : ImapProgram (List NativeMailboxDto) := do
  let lines ← sendCommand .list
  listStatuses (listedNames lines)

/-! ## Snapshots -/

/-- What the mail parser finds in a message. -/
structure ParsedMessage where
  sender : Option (List NativeAddressDto)
  «from» : Option (List NativeAddressDto)
  replyTo : Option (List NativeAddressDto)
  «to» : Option (List NativeAddressDto)
  cc : Option (List NativeAddressDto)
  bcc : Option (List NativeAddressDto)
  subject : Option String
  sentAt : Option String
  preview : String
  hasAttachment : Bool

def ParsedMessage.metadata (p : ParsedMessage) (mailbox : String) (uidValidity uid : UInt32) (fetched : FetchedMessage) :
    NativeMessageMetadataDto where
  mailbox
  uidValidity
  uid
  flags := fetched.flags
  internalDate := fetched.internalDate
  size := fetched.size
  sender := p.sender
  «from» := p.from
  replyTo := p.replyTo
  «to» := p.to
  cc := p.cc
  bcc := p.bcc
  subject := p.subject
  sentAt := p.sentAt
  preview := p.preview
  hasAttachment := p.hasAttachment

def canonicalFlags (flags : List String) : List String := (flags.insertionSort (· ≤ ·)).dedup

def snapshotFetchError (error : NativeMailErrorDto) : NativeMailErrorDto :=
  if error.kind = .stateInvalid then .conflict "imap_snapshot_changed" else error

/-- The flags of uids, which come in order. -/
abbrev FlagSnapshot := List (UInt32 × List String)

def fetchFlags (uid : UInt32) (lines : List ImapLine) : NetResult (List String) :=
  match lines.findSome? fun | .fetch line => some line | _ => none with
  | none => .error (.stateInvalid "imap_message_absent")
  | some line => do
    let fetchedUid ← line.uid
    if fetchedUid ≠ uid then .error (.stateInvalid "imap_message_absent")
    else
      match line.flags with
      | none => .error (.protocol "imap_flags_missing")
      | some flags => .ok (canonicalFlags flags)

def fetchFlagSnapshot : List UInt32 → ImapProgram FlagSnapshot
  | [] => pure []
  | uid :: rest => do
    let lines ← sendCommand (.fetchFlags uid)
    let flags ← Async.lift (fetchFlags uid lines)
    let snapshot ← fetchFlagSnapshot rest
    pure ((uid, flags) :: snapshot)

def ensureSnapshotStable (selectedUidValidity : UInt32) (initialStatus : NativeMailboxDto) (initialUids : List UInt32)
    (finalStatus : NativeMailboxDto) (finalUids : List UInt32) (initialFlags finalFlags : FlagSnapshot) : NetResult Unit :=
  if initialStatus.uidValidity ≠ selectedUidValidity ∨ finalStatus.uidValidity ≠ selectedUidValidity ∨
      initialStatus ≠ finalStatus ∨ initialStatus.messages.toNat ≠ initialUids.length ∨
      finalStatus.messages.toNat ≠ finalUids.length ∨ initialUids ≠ finalUids ∨ initialFlags ≠ finalFlags
  then .error (.conflict "imap_snapshot_changed") else .ok ()

section

variable (parseMessage : List UInt8 → NetResult ParsedMessage)

/-- The messages of the uids, and their flags. -/
def fetchMessages (mailbox : String) (uidValidity : UInt32) :
    List UInt32 → ImapProgram (List NativeMessageMetadataDto × FlagSnapshot)
  | [] => pure ([], [])
  | uid :: rest => do
    let fetched ← (tryCatch (fetchMessage uid) fun e => throw (snapshotFetchError e) : ImapProgram FetchedMessage)
    let parsed ← Async.lift (parseMessage fetched.raw)
    let (messages, flags) ← fetchMessages mailbox uidValidity rest
    pure (parsed.metadata mailbox uidValidity uid fetched :: messages, (uid, canonicalFlags fetched.flags) :: flags)

def snapshot (mailbox : String) : ImapProgram NativeMailboxSnapshotDto := do
  let uidValidity ← selectMailbox mailbox
  let initialStatus ← mailboxStatus mailbox
  if initialStatus.uidValidity ≠ uidValidity then throw (.conflict "imap_snapshot_changed")
  else
    let initialUids ← searchUids
    let (messages, initialFlags) ← fetchMessages parseMessage mailbox uidValidity initialUids
    let finalStatus ← mailboxStatus mailbox
    let finalUids ← searchUids
    let finalFlags ← (tryCatch (fetchFlagSnapshot finalUids) fun e => throw (snapshotFetchError e) : ImapProgram FlagSnapshot)
    Async.lift (ensureSnapshotStable uidValidity initialStatus initialUids finalStatus finalUids initialFlags finalFlags)
    pure { mailbox := finalStatus, messages }

end

end Boxplot.Net
