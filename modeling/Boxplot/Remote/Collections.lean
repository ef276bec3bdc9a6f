import Boxplot.Domain.Email
/-!
# Remote collections

The ids of `src/remote/compat/domain-ids.ts`, the only place where a local id
becomes a remote one or the other way round: every id is a string that is not
empty. And the protocol-neutral models of `src/remote/types/models.ts` with the
sync results of `src/remote/mail.ts`: a whole snapshot, or what changed since a
state, and a page of the emails of a mailbox.
-/

namespace Boxplot.Remote

open Domain

/-- `remoteEmailIdFromString` and its siblings. -/
def remoteIdFromString (value name : String) : Checked String :=
  if value.length = 0 then .error (name ++ " must not be empty") else .ok value

/-- `jmapEmailIdFromString` and its siblings. -/
def opaqueIdFromString (value typeName : String) : Checked String :=
  if value.length = 0 then .error (typeName ++ " must not be empty") else .ok value

def localEmailId (accountKey : AccountKey) (id : String) : Checked ScopedEmailId :=
  (opaqueIdFromString id "JmapEmailId").map (⟨accountKey, ·⟩)

def localMailboxId (accountKey : AccountKey) (id : String) : Checked ScopedMailboxId :=
  (opaqueIdFromString id "JmapMailboxId").map (⟨accountKey, ·⟩)

def localIdentityId (accountKey : AccountKey) (id : String) : Checked ScopedIdentityId :=
  (opaqueIdFromString id "JmapIdentityId").map (⟨accountKey, ·⟩)

def localThreadId (accountKey : AccountKey) (id : String) : Checked ScopedThreadId :=
  (opaqueIdFromString id "JmapThreadId").map (⟨accountKey, ·⟩)

def localBlobId (accountKey : AccountKey) (id : String) : Checked ScopedBlobId :=
  (opaqueIdFromString id "JmapBlobId").map (⟨accountKey, ·⟩)

def remoteEmailId (id : ScopedEmailId) : Checked String := remoteIdFromString id.jmapId "RemoteEmailId"
def remoteMailboxId (id : ScopedMailboxId) : Checked String := remoteIdFromString id.jmapId "RemoteMailboxId"
def remoteIdentityId (id : ScopedIdentityId) : Checked String := remoteIdFromString id.jmapId "RemoteIdentityId"

theorem localEmailId_ok {accountKey : AccountKey} {id : String} {e : ScopedEmailId} (h : localEmailId accountKey id = .ok e) :
    e = ⟨accountKey, id⟩ := by
  unfold localEmailId opaqueIdFromString at h
  split at h <;> cases h
  rfl

/-! ## Models -/

structure RemoteIdentity where
  id : String
  name : String
  email : String
  replyTo : EmailAddressList
  bcc : EmailAddressList
  deriving DecidableEq, Repr

structure RemoteMailbox where
  id : String
  name : String
  parent : Option String
  role : Option String
  sortOrder : Nat
  totalEmails : Nat
  unreadEmails : Nat
  rights : MailboxRights
  deriving DecidableEq, Repr

/-- `keywords` is a set in insertion order. -/
structure RemoteEmail where
  id : String
  blobId : String
  threadId : String
  sender : EmailAddressList
  «from» : EmailAddressList
  replyTo : EmailAddressList
  «to» : EmailAddressList
  cc : EmailAddressList
  bcc : EmailAddressList
  subject : Option String
  sentAt : Option String
  receivedAt : String
  size : Nat
  preview : String
  hasAttachment : Bool
  keywords : List String
  mailboxIds : List String
  deriving DecidableEq, Repr

inductive RemoteCollectionSync (T Id : Type)
  | replace (state : String) (snapshot : List T)
  | delta (state : String) (changed : List T) (destroyed : List Id)
  deriving DecidableEq, Repr

def RemoteCollectionSync.state {T Id : Type} : RemoteCollectionSync T Id → String
  | .replace state _ => state
  | .delta state _ _ => state

/-! ## Queries -/

structure RemoteQueryOptions where
  position : Option Int
  limit : Option Nat
  anchor : Option String
  anchorOffset : Option Int
  deriving DecidableEq, Repr

structure RemoteMailboxQuery where
  ids : List String
  queryState : String
  total : Int
  position : Int
  canCalculateChanges : Bool
  deriving DecidableEq, Repr

end Boxplot.Remote
