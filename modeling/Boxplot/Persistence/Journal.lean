import Boxplot.Lib.Table
import Boxplot.Persistence.Statements
/-!
# What was written

The writes of the engine, and a journal of the records they write and remove.
The journal follows the writes that went through. It knows no rows, no JSON and
no checks.
-/

namespace Boxplot.Persistence

open Lib

/-! ## Writes -/

inductive WriteOp
  | registerAccount (account : Account)
  | applyCollectionSync (commit : CollectionSyncCommit)
  | cacheEmailBody (body : EmailBody)
  | replaceAttachmentRefs (account email : String) (refs : List AttachmentRef)
  | replaceMailboxView (view : MailboxView)
  | stageSendMutation (m : PendingMutation)
  | applyOptimisticKeywordMutation (m : PendingMutation)
  | applyOptimisticMailboxMembershipMutation (m : PendingMutation)
  | replacePendingMutationIfCurrent (expected next : PendingMutation)
  | removeConfirmedMutation (account id : String)

namespace WriteOp

def run (db : Db) : WriteOp → PersistResult Db
  | registerAccount account => db.registerAccount account
  | applyCollectionSync commit => db.applyCollectionSync commit
  | cacheEmailBody body => db.cacheEmailBody body
  | replaceAttachmentRefs account email refs => db.replaceAttachmentRefs account email refs
  | replaceMailboxView view => db.replaceMailboxView view
  | stageSendMutation m => db.stageSendMutation m
  | applyOptimisticKeywordMutation m => db.applyOptimisticKeywordMutation m
  | applyOptimisticMailboxMembershipMutation m => db.applyOptimisticMailboxMembershipMutation m
  | replacePendingMutationIfCurrent expected next => db.replacePendingMutationIfCurrent expected next
  | removeConfirmedMutation account id => db.removeConfirmedMutation account id

/-- The account a write is for. -/
def account : WriteOp → String
  | registerAccount account => account.key
  | applyCollectionSync commit => commit.next.accountKey
  | cacheEmailBody body => body.accountKey
  | replaceAttachmentRefs account _ _ => account
  | replaceMailboxView view => view.spec.accountKey
  | stageSendMutation m => m.accountKey
  | applyOptimisticKeywordMutation m => m.accountKey
  | applyOptimisticMailboxMembershipMutation m => m.accountKey
  | replacePendingMutationIfCurrent expected _ => expected.accountKey
  | removeConfirmedMutation account _ => account

end WriteOp

/-! ## The journal -/

/-- What was written and removed, for each kind of record. Memberships and attachments are listed by their ids. -/
structure Journal where
  accounts : List (JournalEntry String Account)
  mailboxes : List (JournalEntry (String × String) Mailbox)
  identities : List (JournalEntry (String × String) Identity)
  emails : List (JournalEntry (String × String) Email)
  memberships : List (JournalEntry (String × String) (List String))
  bodies : List (JournalEntry (String × String) EmailBody)
  attachments : List (JournalEntry (String × String) (List AttachmentRef))
  views : List (JournalEntry MailboxViewSpec MailboxView)
  cursors : List (JournalEntry (String × CollectionDataType) CollectionSyncCursor)
  mutations : List (JournalEntry (String × String) PendingMutation)

/-- Attachments in the order of their part ids. -/
def byPart (refs : List AttachmentRef) : List AttachmentRef := refs.insertionSort (·.partId ≤ ·.partId)

/-- Ids in order. -/
def inOrder (ids : List String) : List String := ids.insertionSort (· ≤ ·)

namespace Journal

variable (j : Journal)

def empty : Journal := ⟨[], [], [], [], [], [], [], [], [], []⟩

def wroteMailbox (v : Mailbox) : Journal := { j with mailboxes := .wrote (v.accountKey, v.jmapId) v :: j.mailboxes }

def wroteIdentity (v : Identity) : Journal := { j with identities := .wrote (v.accountKey, v.jmapId) v :: j.identities }

def wroteEmail (v : Email) : Journal := { j with emails := .wrote (v.accountKey, v.jmapId) v :: j.emails }

def wroteMemberships (a email : String) (ids : List String) : Journal :=
  { j with memberships := .wrote (a, email) (inOrder ids) :: j.memberships }

def wroteMutation (m : PendingMutation) : Journal :=
  { j with mutations := .wrote (m.accountKey, m.mutationId) m :: j.mutations }

/-- With an email, everything that hangs on it is removed. -/
def removedEmails (keys : String × String → Bool) : Journal :=
  { j with
    emails := .removed keys :: j.emails
    memberships := .removed keys :: j.memberships
    bodies := .removed keys :: j.bodies
    attachments := .removed keys :: j.attachments }

/-- With a mailbox, its views are removed. -/
def removedMailboxes (keys : String × String → Bool) : Journal :=
  { j with
    mailboxes := .removed keys :: j.mailboxes
    views := .removed (fun spec => keys (spec.accountKey, spec.mailboxJmapId)) :: j.views }

def removedIdentities (keys : String × String → Bool) : Journal :=
  { j with identities := .removed keys :: j.identities }

def removedMutation (a id : String) : Journal := { j with mutations := .removed (· = (a, id)) :: j.mutations }

def wroteRecord (a : String) (r : EmailSyncRecord) : Journal :=
  (j.wroteEmail r.email).wroteMemberships a r.email.jmapId (r.memberships.map (·.mailboxJmapId))

/-- The account's records that are there and not to be kept. -/
def others {V : Type} (history : List (JournalEntry (String × String) V)) (a : String) (keep : List String)
    (key : String × String) : Bool :=
  key.1 = a && !keep.contains key.2 && (lastWritten history key).isSome

def applyCommit (a : String) : CollectionSyncCommit → Journal
  | .emailDelta _ _ changed destroyed =>
    destroyed.foldl (fun j id => j.removedEmails (· = (a, id))) (changed.foldl (wroteRecord · a) j)
  | .emailReplace _ _ snapshot =>
    snapshot.foldl (wroteRecord · a) (j.removedEmails (others j.emails a (snapshot.map (·.email.jmapId))))
  | .mailboxDelta _ _ changed destroyed =>
    changed.foldl wroteMailbox (destroyed.foldl (fun j id => j.removedMailboxes (· = (a, id))) j)
  | .mailboxReplace _ _ snapshot =>
    snapshot.foldl wroteMailbox (j.removedMailboxes (others j.mailboxes a (snapshot.map (·.jmapId))))
  | .identityDelta _ _ changed destroyed =>
    destroyed.foldl (fun j id => j.removedIdentities (· = (a, id))) (changed.foldl wroteIdentity j)
  | .identityReplace _ _ snapshot => snapshot.foldl wroteIdentity (j.removedIdentities (·.1 = a))

def wroteCursor (a : String) (kind : CollectionDataType) (state : String) : Journal :=
  { j with cursors := .wrote (a, kind) ⟨a, kind, state⟩ :: j.cursors }

/-- An optimistic keyword mutation changes the email as it is. -/
def changedEmail (a id : String) (change : KeywordChange) : Journal :=
  match lastWritten j.emails (a, id) with
  | some email => j.wroteEmail { email with keywords := changedKeywords change email.keywords }
  | none => j

/-- The memberships an email has. -/
def membershipsOf (key : String × String) : List String := (lastWritten j.memberships key).getD []

/-- What a write that went through wrote and removed. -/
def record : WriteOp → Journal
  | .registerAccount v => { j with accounts := .wrote v.key v :: j.accounts }
  | .applyCollectionSync commit =>
    (j.applyCommit commit.next.accountKey commit).wroteCursor commit.next.accountKey commit.kind commit.next.state
  | .cacheEmailBody v => { j with bodies := .wrote (v.accountKey, v.emailJmapId) v :: j.bodies }
  | .replaceAttachmentRefs a email refs => { j with attachments := .wrote (a, email) (byPart refs) :: j.attachments }
  | .replaceMailboxView v => { j with views := .wrote v.spec v :: j.views }
  | .stageSendMutation m => j.wroteMutation m
  | .applyOptimisticKeywordMutation m =>
    match m.payload with
    | .keyword id change => (j.changedEmail m.accountKey id change).wroteMutation m
    | _ => j
  | .applyOptimisticMailboxMembershipMutation m =>
    match m.payload with
    | .mailboxMembership email change =>
      (j.wroteMemberships m.accountKey email (changedMemberships change (j.membershipsOf (m.accountKey, email)))).wroteMutation m
    | _ => j
  | .replacePendingMutationIfCurrent _ next => j.wroteMutation next
  | .removeConfirmedMutation a id => j.removedMutation a id

end Journal

/-! ## Runs -/

/-- One write. The journal records it if it went through. -/
def step (s : Db × Journal) (op : WriteOp) : Db × Journal :=
  match op.run s.1 with
  | .ok db => (db, s.2.record op)
  | .error _ => s

/-- Any writes, from the migrated schema on. -/
def runs (draws : List Int) (ops : List WriteOp) : Db × Journal := ops.foldl step (Db.empty draws, Journal.empty)

end Boxplot.Persistence
