import Boxplot.Lib.State
import Boxplot.Remote.Collections
/-!
# The local write port

Records made from remote models, of `src/sync/mappers`, and the commits of
`src/ports/sync-port.ts`. A record that a factory refuses is `none`, and the
three kinds of collection differ only in what they hold.
-/

namespace Boxplot.Sync

open Domain Remote Lib

/-- A record and the mailboxes it is in. -/
structure EmailSyncRecord where
  email : Email
  memberships : List EmailMailbox
  deriving DecidableEq, Repr

/-! ## Records -/

/-- The value a factory builds, unless it throws. -/
def built {α : Type} (r : Checked α) : Option α := r.toOption

theorem built_eq_some {α : Type} {r : Checked α} {a : α} : built r = some a ↔ r = .ok a :=
  toOption_eq_some

def toDomainEmailRecord (accountKey : AccountKey) (raw : RemoteEmail) : Option EmailSyncRecord := built do
  let id ← localEmailId accountKey raw.id
  let blobId ← localBlobId accountKey raw.blobId
  let threadId ← localThreadId accountKey raw.threadId
  let keywords ← keywordSet raw.keywords
  let domainEmail ← email
    { id, blobId, threadId, sender := raw.sender, «from» := raw.from, replyTo := raw.replyTo, «to» := raw.to,
      cc := raw.cc, bcc := raw.bcc, subject := raw.subject, sentAt := raw.sentAt, receivedAt := raw.receivedAt,
      size := raw.size, preview := raw.preview, hasAttachment := raw.hasAttachment, keywords }
  let memberships ← raw.mailboxIds.mapM fun mailboxId => do
    let mailboxId ← localMailboxId accountKey mailboxId
    emailMailbox id mailboxId
  .ok ⟨domainEmail, memberships⟩

def toDomainMailbox (accountKey : AccountKey) (raw : RemoteMailbox) : Option Mailbox := built do
  let id ← localMailboxId accountKey raw.id
  let parent ← match raw.parent with
    | none => .ok none
    | some parent => (localMailboxId accountKey parent).map some
  mailbox
    { id, name := raw.name, parent, role := raw.role, sortOrder := raw.sortOrder, totalEmails := raw.totalEmails,
      unreadEmails := raw.unreadEmails, rights := raw.rights }

def toDomainIdentity (accountKey : AccountKey) (raw : RemoteIdentity) : Option Identity := built do
  let id ← localIdentityId accountKey raw.id
  identity { id, name := raw.name, email := raw.email, replyTo := raw.replyTo, bcc := raw.bcc }

/-- A mapped record has the id and the keywords of the remote one. -/
theorem toDomainEmailRecord_some {accountKey : AccountKey} {raw : RemoteEmail} {record : EmailSyncRecord}
    (h : toDomainEmailRecord accountKey raw = some record) :
    record.email.id = ⟨accountKey, raw.id⟩ ∧ ∀ k, k ∈ record.email.keywords ↔ k ∈ raw.keywords := by
  obtain ⟨id, hid, h⟩ := except_bind_eq_ok.1 (built_eq_some.1 h)
  obtain ⟨blobId, -, h⟩ := except_bind_eq_ok.1 h
  obtain ⟨threadId, -, h⟩ := except_bind_eq_ok.1 h
  obtain ⟨keywords, hk, h⟩ := except_bind_eq_ok.1 h
  obtain ⟨domainEmail, he, h⟩ := except_bind_eq_ok.1 h
  obtain ⟨memberships, -, h⟩ := except_bind_eq_ok.1 h
  cases h
  obtain rfl := localEmailId_ok hid
  obtain ⟨hid', hkeys⟩ := email_ok he
  exact ⟨hid', fun k => (hkeys k).trans (keywordSet_mem hk k)⟩

/-! ## Commits -/

inductive CollectionCursorPrecondition
  | absent
  | «matches» (cursor : CollectionSyncCursor)
  deriving DecidableEq, Repr

/-- A delta is always relative to a cursor. -/
inductive CollectionChange (T Id : Type)
  | delta (expectedCursor : CollectionSyncCursor) (changed : List T) (destroyed : List Id)
  | replace (expectedCursor : CollectionCursorPrecondition) (snapshot : List T)
  deriving DecidableEq, Repr

namespace CollectionChange

variable {T Id : Type}

def expectedCursor : CollectionChange T Id → CollectionCursorPrecondition
  | .delta cursor _ _ => .matches cursor
  | .replace expected _ => expected

/-- `changed` of a delta, `snapshot` of a replacement. -/
def records : CollectionChange T Id → List T
  | .delta _ changed _ => changed
  | .replace _ snapshot => snapshot

end CollectionChange

inductive CollectionSyncCommit
  | email (nextCursor : CollectionSyncCursor) (change : CollectionChange EmailSyncRecord ScopedEmailId)
  | mailbox (nextCursor : CollectionSyncCursor) (change : CollectionChange Mailbox ScopedMailboxId)
  | identity (nextCursor : CollectionSyncCursor) (change : CollectionChange Identity ScopedIdentityId)
  deriving DecidableEq, Repr

namespace CollectionSyncCommit

def kind : CollectionSyncCommit → CollectionDataType
  | .email _ _ => .email
  | .mailbox _ _ => .mailbox
  | .identity _ _ => .identity

def nextCursor : CollectionSyncCommit → CollectionSyncCursor
  | .email next _ => next
  | .mailbox next _ => next
  | .identity next _ => next

def expectedCursor : CollectionSyncCommit → CollectionCursorPrecondition
  | .email _ change => change.expectedCursor
  | .mailbox _ change => change.expectedCursor
  | .identity _ change => change.expectedCursor

end CollectionSyncCommit

end Boxplot.Sync
