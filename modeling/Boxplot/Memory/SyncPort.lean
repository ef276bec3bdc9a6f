import Boxplot.Lib.OrderedMap
import Boxplot.Outbox.Calls
import Boxplot.Sync.Port
/-!
# The memory engine's writes and reads

The maps of `src/adapters/memory/memory-state.ts` that syncs and mutations
write, under the ids their compound keys are made of, `MemorySyncPort` of
`src/adapters/memory/memory-sync-port.ts`, without the change hints it
publishes, and the reads of `src/adapters/memory/memory-read-repository.ts` that
the runner and the coordinator use.
-/

namespace Boxplot.Memory

open Domain Lib Sync

/-! ## State -/

structure MemoryState where
  accounts : OrderedMap AccountKey Account
  mailboxes : OrderedMap ScopedMailboxId Mailbox
  identities : OrderedMap ScopedIdentityId Identity
  emails : OrderedMap ScopedEmailId Email
  memberships : OrderedMap ScopedEmailId (List EmailMailbox)
  cursors : OrderedMap (AccountKey × CollectionDataType) CollectionSyncCursor
  mutations : OrderedMap (AccountKey × MutationId) PendingMutation

namespace MemoryState

def empty : MemoryState := ⟨.empty, .empty, .empty, .empty, .empty, .empty, .empty⟩

end MemoryState

/-- Why a write did not happen: the port answers a conflict, or its promise rejects. -/
inductive WriteFailure
  | conflict
  | thrown (message : String)
  deriving DecidableEq, Repr

/-- A write either goes through whole, or leaves the state as it was. -/
abbrev Write := Except WriteFailure MemoryState

/-- The `TypeError` of a factory rejects the promise of the write. -/
def throwing {α : Type} (r : Checked α) : Except WriteFailure α := r.mapError .thrown

def conflict {α : Type} : Except WriteFailure α := .error .conflict

/-! ## Equality of mutations -/

def setsEqual (left right : List String) : Bool := left.length = right.length && left.all (right.contains ·)

/-- Lists by position, sets by their members. -/
def payloadsEqual : Payload → Payload → Bool
  | .send left, .send right => left = right
  | .keyword leftId left, .keyword rightId right =>
    leftId = rightId && setsEqual left.add right.add && setsEqual left.remove right.remove
  | .mailboxMembership leftId left, .mailboxMembership rightId right =>
    leftId = rightId && left.add = right.add && left.remove = right.remove
  | _, _ => false

def mutationsEqual (left right : PendingMutation) : Bool :=
  left.accountKey = right.accountKey && left.mutationId = right.mutationId && left.createdAt = right.createdAt &&
    left.lifecycle = right.lifecycle && payloadsEqual left.payload right.payload

def sameImmutableMutation (left right : PendingMutation) : Bool :=
  mutationsEqual (left.replaceLifecycle (.pending 0)) (right.replaceLifecycle (.pending 0))

def validTransition (expected next : PendingMutation) : Bool :=
  match expected.lifecycle, next.lifecycle with
  | .pending _, .inFlight n => n = 1
  | .pending _, _ => false
  | .retrying k _, .inFlight n => n = k + 1
  | .retrying _ _, _ => false
  | .inFlight k, .retrying n _ => n = k
  | .inFlight k, .confirmed n _ => n = k
  | .inFlight k, .failedTerminal n => n = k
  | _, _ => false

namespace MemoryState

/-! ## Accounts -/

def registerAccount (s : MemoryState) (value : Account) : Write :=
  match s.accounts.get? value.key with
  | some current => if current.remoteRef = value.remoteRef then .ok s else conflict
  | none => .ok { s with accounts := s.accounts.set value.key value }

/-! ## Collections -/

def cursorPreconditionHolds (s : MemoryState) (expected : CollectionCursorPrecondition) (next : CollectionSyncCursor) : Bool :=
  match expected, s.cursors.get? (next.accountKey, next.dataType) with
  | .absent, current => current.isNone
  | .matches cursor, some current =>
    cursor.accountKey = next.accountKey && cursor.dataType = next.dataType && current.accountKey = cursor.accountKey &&
      current.dataType = cursor.dataType && current.state = cursor.state
  | .matches _, none => false

/-- What the three validations share: the records' ids are distinct and the account's, and so are the destroyed ones. -/
def validateChange {T Id : Type} [DecidableEq Id] (idOf : T → Id) (accountOf : Id → AccountKey) (accountKey : AccountKey)
    (change : CollectionChange T Id) : Bool :=
  change.records.all (fun record => accountOf (idOf record) = accountKey) && (change.records.map idOf).Nodup &&
    match change with
    | .replace _ _ => true
    | .delta _ changed destroyed =>
      destroyed.all (fun id => accountOf id = accountKey) && destroyed.Nodup &&
        !changed.any fun record => destroyed.any (idOf record = ·)

def validateEmailRecord (record : EmailSyncRecord) (accountKey : AccountKey) : Bool :=
  record.email.id.accountKey = accountKey && record.memberships.all (·.emailId = record.email.id) && record.memberships.Nodup

def validateEmailCommit (accountKey : AccountKey) (change : CollectionChange EmailSyncRecord ScopedEmailId) : Bool :=
  change.records.all (validateEmailRecord · accountKey) && validateChange (·.email.id) (·.accountKey) accountKey change

def validateMailboxCommit : AccountKey → CollectionChange Mailbox ScopedMailboxId → Bool :=
  validateChange (·.id) (·.accountKey)

def validateIdentityCommit : AccountKey → CollectionChange Identity ScopedIdentityId → Bool :=
  validateChange (·.id) (·.accountKey)

/-- What the commits share: a replacement first drops the account's entries, a delta the destroyed ones. -/
def commitChange {T V Id : Type} [DecidableEq Id] (idOf : T → Id) (valueOf : T → V) (owned : Id → V → Bool)
    (entries : OrderedMap Id V) (change : CollectionChange T Id) : OrderedMap Id V :=
  let kept := match change with
    | .replace _ _ => entries.filter fun id value => !owned id value
    | .delta _ _ destroyed => entries.deleteAll destroyed
  kept.setAll idOf valueOf change.records

/-- A membership list is the account's if its first entry says so, or if the email it belongs to does. -/
def ownedMemberships (s : MemoryState) (accountKey : AccountKey) (id : ScopedEmailId) (value : List EmailMailbox) : Bool :=
  value.head?.any (·.emailId.accountKey = accountKey) || (s.emails.get? id).any (·.id.accountKey = accountKey)

def commitEmails (s : MemoryState) (accountKey : AccountKey) (change : CollectionChange EmailSyncRecord ScopedEmailId) :
    MemoryState :=
  { s with
    emails := commitChange (fun r : EmailSyncRecord => r.email.id) (·.email) (fun _ value => value.id.accountKey = accountKey)
      s.emails change
    memberships := commitChange (fun r : EmailSyncRecord => r.email.id) (·.memberships) (s.ownedMemberships accountKey)
      s.memberships change }

def commitMailboxes (s : MemoryState) (accountKey : AccountKey) (change : CollectionChange Mailbox ScopedMailboxId) :
    MemoryState :=
  { s with mailboxes := commitChange (fun r : Mailbox => r.id) id (fun _ value => value.id.accountKey = accountKey) s.mailboxes change }

def commitIdentities (s : MemoryState) (accountKey : AccountKey) (change : CollectionChange Identity ScopedIdentityId) :
    MemoryState :=
  { s with
    identities := commitChange (fun r : Identity => r.id) id (fun _ value => value.id.accountKey = accountKey) s.identities change }

/-- A commit goes through if it is valid and no factory throws on the copies that are stored. -/
def validated {β : Type} (valid : Bool) (copies : Checked β) (s : MemoryState) : Write :=
  if valid then (throwing copies).map fun _ => s else conflict

def copyRecord (record : EmailSyncRecord) : Checked EmailSyncRecord := do
  let copy ← email record.email
  let memberships ← record.memberships.mapM fun entry => emailMailbox entry.emailId entry.mailboxId
  .ok ⟨copy, memberships⟩

def applyChange (s : MemoryState) (accountKey : AccountKey) : CollectionSyncCommit → Write
  | .email _ change =>
    validated (validateEmailCommit accountKey change) (change.records.mapM copyRecord) (s.commitEmails accountKey change)
  | .mailbox _ change =>
    validated (validateMailboxCommit accountKey change) (change.records.mapM mailbox) (s.commitMailboxes accountKey change)
  | .identity _ change =>
    validated (validateIdentityCommit accountKey change) (change.records.mapM identity) (s.commitIdentities accountKey change)

def applyCollectionSync (s : MemoryState) (commit : CollectionSyncCommit) : Write :=
  let next := commit.nextCursor
  if s.accounts.has next.accountKey && next.dataType = commit.kind && s.cursorPreconditionHolds commit.expectedCursor next then
    (s.applyChange next.accountKey commit).map fun s =>
      { s with cursors := s.cursors.set (next.accountKey, next.dataType) next }
  else conflict

/-! ## Mutations -/

def stage (s : MemoryState) (value : PendingMutation) : MemoryState :=
  { s with mutations := s.mutations.set (value.accountKey, value.mutationId) value }

/-- The account is registered, and the mutation's id is free. -/
def mayStage (s : MemoryState) (value : PendingMutation) : Bool :=
  s.accounts.has value.accountKey && !s.mutations.has (value.accountKey, value.mutationId)

def stageSendMutation (s : MemoryState) (value : PendingMutation) : Write :=
  if s.mayStage value then .ok (s.stage value) else conflict

/-- Adds the keywords of `add`, then deletes those of `remove`. -/
def optimisticKeywords (change : KeywordChange) (keywords : List String) : List String :=
  (change.add.foldl setAdd keywords).filter (· ∉ change.remove)

def applyOptimisticKeywordMutation (s : MemoryState) (value : PendingMutation) (emailId : ScopedEmailId)
    (change : KeywordChange) : Write :=
  match s.emails.get? emailId with
  | none => conflict
  | some target =>
    if s.mayStage value then do
      let keywords ← throwing (keywordSet (optimisticKeywords change target.keywords))
      let next ← throwing (email { target with keywords })
      .ok ({ s with emails := s.emails.set emailId next }.stage value)
    else conflict

/-- What is left of the memberships, and what is added to them. -/
def optimisticMemberships (emailId : ScopedEmailId) (change : MailboxMembershipChange) (current : List EmailMailbox) :
    Checked (List EmailMailbox) :=
  change.add.foldlM (fun next id =>
      if next.any (·.mailboxId = id) then .ok next
      else do
        let entry ← emailMailbox emailId id
        .ok (next ++ [entry]))
    (current.filter fun entry => !change.remove.any (entry.mailboxId = ·))

def applyOptimisticMailboxMembershipMutation (s : MemoryState) (value : PendingMutation) (emailId : ScopedEmailId)
    (change : MailboxMembershipChange) : Write :=
  if s.mayStage value && s.emails.has emailId && (change.add ++ change.remove).all s.mailboxes.has then do
    let next ← throwing (optimisticMemberships emailId change ((s.memberships.get? emailId).getD []))
    if next.isEmpty then conflict
    else .ok ({ s with memberships := s.memberships.set emailId next }.stage value)
  else conflict

def replacePendingMutationIfCurrent (s : MemoryState) (expected next : PendingMutation) : Write :=
  match s.mutations.get? (expected.accountKey, expected.mutationId) with
  | none => conflict
  | some current =>
    if mutationsEqual current expected && sameImmutableMutation expected next && validTransition expected next then
      .ok { s with mutations := s.mutations.set (expected.accountKey, expected.mutationId) next }
    else conflict

def removeConfirmedMutation (s : MemoryState) (accountKey : AccountKey) (mutationId : MutationId) : Write :=
  match s.mutations.get? (accountKey, mutationId) with
  | some ⟨_, _, _, _, .confirmed _ _⟩ => .ok { s with mutations := s.mutations.delete (accountKey, mutationId) }
  | _ => conflict

end MemoryState

/-! ## Reads -/

open Outbox

/-- The state after a write, and the port's answer. -/
def written (s : MemoryState) : Write → PortReply LocalWriteError Unit × MemoryState
  | .ok s' => (.ok (), s')
  | .error .conflict => (.failed .conflict, s)
  | .error (.thrown _) => (.rejected, s)

namespace MemoryState

variable {α : Type}

/-- A read of something that belongs to an account. -/
def owned (s : MemoryState) (accountKey : AccountKey) (value : Option α) : OwnedOptionalRead α :=
  if s.accounts.has accountKey then
    match value with
    | some v => .present v
    | none => .absent
  else .ownerAbsent

def ownedAll (s : MemoryState) (accountKey : AccountKey) (values : List α) : OwnedSnapshotRead (List α) :=
  if s.accounts.has accountKey then .present values else .ownerAbsent

def readPendingMutation (s : MemoryState) (accountKey : AccountKey) (mutationId : MutationId) :
    OwnedOptionalRead PendingMutation :=
  s.owned accountKey (s.mutations.get? (accountKey, mutationId))

def listPendingMutations (s : MemoryState) (accountKey : AccountKey) : OwnedSnapshotRead (List PendingMutation) :=
  s.ownedAll accountKey (s.mutations.values.filter (·.accountKey = accountKey))

def readCollectionSyncCursor (s : MemoryState) (accountKey : AccountKey) (dataType : CollectionDataType) :
    OwnedOptionalRead CollectionSyncCursor :=
  s.owned accountKey (s.cursors.get? (accountKey, dataType))

def listMailboxes (s : MemoryState) (accountKey : AccountKey) : OwnedSnapshotRead (List Mailbox) :=
  s.ownedAll accountKey (s.mailboxes.values.filter (·.id.accountKey = accountKey))

def readEmail (s : MemoryState) (id : ScopedEmailId) : LocalEntityRead Email :=
  match s.emails.get? id with
  | some email => .present email
  | none => .absent

end MemoryState

end Boxplot.Memory
