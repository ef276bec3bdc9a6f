import Boxplot.Domain.Cached
import Boxplot.Memory.SyncPort
/-!
# The memory engine, statement by statement

`MemorySyncPort` of `src/adapters/memory/memory-sync-port.ts` with all its maps
and the batches that `MemoryChangeHub` delivers. A statement that throws leaves
whatever was assigned before it.
-/

namespace Boxplot.Memory

open Domain Lib Sync Outbox

/-! ## State -/

inductive LocalChangeHint
  | accounts
  | mailboxes (accountKey : AccountKey)
  | identities (accountKey : AccountKey)
  | emails (accountKey : AccountKey)
  | emailMemberships (accountKey : AccountKey)
  | emailBody (emailId : ScopedEmailId)
  | attachmentRefs (emailId : ScopedEmailId)
  | mailboxView (spec : MailboxViewSpec)
  | syncCursor (accountKey : AccountKey) (dataType : CollectionDataType)
  | pendingMutations (accountKey : AccountKey)
  deriving DecidableEq, Repr

structure Engine extends MemoryState where
  bodies : OrderedMap ScopedEmailId EmailBody
  attachments : OrderedMap ScopedEmailId (List AttachmentRef)
  views : OrderedMap MailboxViewSpec MailboxView
  /-- The batches the listeners were given. -/
  published : List (List LocalChangeHint)

def Engine.empty : Engine := ⟨.empty, .empty, .empty, .empty, []⟩

inductive WriteResult
  | ok
  | conflict
  deriving DecidableEq, Repr

/-- An operation of the port. Its promise rejects with the message of a `TypeError`. -/
abbrev EngineOp := EStateM String Engine

/-- A factory, which may throw. -/
def cloned {α : Type} (r : Checked α) : EngineOp α := fun s =>
  match r with
  | .ok v => .ok v s
  | .error m => .error m s

/-- An assignment. -/
def assign (f : Engine → Engine) : EngineOp Unit := fun s => .ok () (f s)

/-- An assignment to the maps of collections and mutations. -/
def assignMaps (f : MemoryState → MemoryState) : EngineOp Unit := assign fun s => { s with toMemoryState := f s.toMemoryState }

/-- `this.publish(hints)` and `return writeOk()`. -/
def announce (hints : List LocalChangeHint) : EngineOp WriteResult := do
  assign fun s => { s with published := s.published ++ [hints] }
  return .ok

/-! ## Operations -/

def registerAccount (value : Account) : EngineOp WriteResult := do
  let s ← get
  match s.accounts.get? value.key with
  | some current => if current.remoteRef = value.remoteRef then announce [.accounts] else return .conflict
  | none => do
    assignMaps fun m => { m with accounts := m.accounts.set value.key value }
    announce [.accounts]

/-- A commit of one collection: the copies are made before the new maps are assigned, the cursor is set after them. -/
def commitCollection {β : Type} (valid : Bool) (copies : Checked β) (commit : MemoryState → MemoryState) (next : CollectionSyncCursor)
    (hints : List LocalChangeHint) : EngineOp WriteResult :=
  if valid then do
    let _ ← cloned copies
    assignMaps commit
    assignMaps fun m => { m with cursors := m.cursors.set (next.accountKey, next.dataType) next }
    announce hints
  else return .conflict

def applyCollectionSync (commit : CollectionSyncCommit) : EngineOp WriteResult := do
  let s ← get
  let next := commit.nextCursor
  let accountKey := next.accountKey
  if s.accounts.has accountKey && next.dataType = commit.kind && s.cursorPreconditionHolds commit.expectedCursor next then
    match commit with
    | .email _ change =>
      commitCollection (MemoryState.validateEmailCommit accountKey change) (change.records.mapM MemoryState.copyRecord)
        (·.commitEmails accountKey change) next [.emails accountKey, .emailMemberships accountKey, .syncCursor accountKey .email]
    | .mailbox _ change =>
      commitCollection (MemoryState.validateMailboxCommit accountKey change) (change.records.mapM mailbox)
        (·.commitMailboxes accountKey change) next [.mailboxes accountKey, .syncCursor accountKey .mailbox]
    | .identity _ change =>
      commitCollection (MemoryState.validateIdentityCommit accountKey change) (change.records.mapM identity)
        (·.commitIdentities accountKey change) next [.identities accountKey, .syncCursor accountKey .identity]
  else return .conflict

def cacheEmailBody (body : EmailBody) : EngineOp WriteResult := do
  let s ← get
  if s.emails.has body.emailId then do
    assign fun s => { s with bodies := s.bodies.set body.emailId body }
    announce [.emailBody body.emailId]
  else return .conflict

def replaceAttachmentRefs (emailId : ScopedEmailId) (refs : List AttachmentRef) : EngineOp WriteResult := do
  let s ← get
  if s.emails.has emailId && refs.all (·.emailId = emailId) && (refs.map (·.partId)).Nodup then do
    let copies ← cloned (refs.mapM attachmentRef)
    assign fun s => { s with attachments := s.attachments.set emailId copies }
    announce [.attachmentRefs emailId]
  else return .conflict

def replaceMailboxView (view : MailboxView) : EngineOp WriteResult := do
  let s ← get
  if s.mailboxes.has view.spec.mailboxId then do
    let copy ← cloned (mailboxView view)
    assign fun s => { s with views := s.views.set view.spec copy }
    announce [.mailboxView view.spec]
  else return .conflict

def stageSendMutation (value : PendingMutation) : EngineOp WriteResult := do
  let s ← get
  if s.mayStage value then do
    assignMaps (·.stage value)
    announce [.pendingMutations value.accountKey]
  else return .conflict

/-- The email is assigned before the mutation is. -/
def applyOptimisticKeywordMutation (value : PendingMutation) (emailId : ScopedEmailId) (change : KeywordChange) :
    EngineOp WriteResult := do
  let s ← get
  match s.emails.get? emailId with
  | none => return .conflict
  | some target =>
    if s.mayStage value then do
      let keywords ← cloned (keywordSet (MemoryState.optimisticKeywords change target.keywords))
      let next ← cloned (email { target with keywords })
      assignMaps fun m => { m with emails := m.emails.set emailId next }
      assignMaps (·.stage value)
      announce [.emails value.accountKey, .pendingMutations value.accountKey]
    else return .conflict

def applyOptimisticMailboxMembershipMutation (value : PendingMutation) (emailId : ScopedEmailId)
    (change : MailboxMembershipChange) : EngineOp WriteResult := do
  let s ← get
  if s.mayStage value && s.emails.has emailId && (change.add ++ change.remove).all s.mailboxes.has then do
    let next ← cloned (MemoryState.optimisticMemberships emailId change ((s.memberships.get? emailId).getD []))
    if next.isEmpty then return .conflict
    else do
      let copies ← cloned (next.mapM fun entry => emailMailbox entry.emailId entry.mailboxId)
      assignMaps fun m => { m with memberships := m.memberships.set emailId copies }
      assignMaps (·.stage value)
      announce [.emailMemberships value.accountKey, .pendingMutations value.accountKey]
  else return .conflict

def replacePendingMutationIfCurrent (expected next : PendingMutation) : EngineOp WriteResult := do
  let s ← get
  match s.mutations.get? (expected.accountKey, expected.mutationId) with
  | none => return .conflict
  | some current =>
    if mutationsEqual current expected && sameImmutableMutation expected next && validTransition expected next then do
      assignMaps fun m => { m with mutations := m.mutations.set (expected.accountKey, expected.mutationId) next }
      announce [.pendingMutations expected.accountKey]
    else return .conflict

def removeConfirmedMutation (accountKey : AccountKey) (mutationId : MutationId) : EngineOp WriteResult := do
  let s ← get
  match s.mutations.get? (accountKey, mutationId) with
  | some ⟨_, _, _, _, .confirmed _ _⟩ => do
    assignMaps fun m => { m with mutations := m.mutations.delete (accountKey, mutationId) }
    announce [.pendingMutations accountKey]
  | _ => return .conflict

inductive SyncOperation
  | registerAccount (value : Account)
  | applyCollectionSync (commit : CollectionSyncCommit)
  | cacheEmailBody (body : EmailBody)
  | replaceAttachmentRefs (emailId : ScopedEmailId) (refs : List AttachmentRef)
  | replaceMailboxView (view : MailboxView)
  | stageSendMutation (value : PendingMutation)
  | applyOptimisticKeywordMutation (value : PendingMutation) (emailId : ScopedEmailId) (change : KeywordChange)
  | applyOptimisticMailboxMembershipMutation (value : PendingMutation) (emailId : ScopedEmailId) (change : MailboxMembershipChange)
  | replacePendingMutationIfCurrent (expected next : PendingMutation)
  | removeConfirmedMutation (accountKey : AccountKey) (mutationId : MutationId)

def SyncOperation.run : SyncOperation → EngineOp WriteResult
  | registerAccount value => Memory.registerAccount value
  | applyCollectionSync commit => Memory.applyCollectionSync commit
  | cacheEmailBody body => Memory.cacheEmailBody body
  | replaceAttachmentRefs emailId refs => Memory.replaceAttachmentRefs emailId refs
  | replaceMailboxView view => Memory.replaceMailboxView view
  | stageSendMutation value => Memory.stageSendMutation value
  | applyOptimisticKeywordMutation value emailId change => Memory.applyOptimisticKeywordMutation value emailId change
  | applyOptimisticMailboxMembershipMutation value emailId change =>
    Memory.applyOptimisticMailboxMembershipMutation value emailId change
  | replacePendingMutationIfCurrent expected next => Memory.replacePendingMutationIfCurrent expected next
  | removeConfirmedMutation accountKey mutationId => Memory.removeConfirmedMutation accountKey mutationId

/-! ## Reads -/

inductive OwnedCacheRead (α : Type)
  | ownerAbsent
  | notCached
  | cached (value : α)
  deriving DecidableEq, Repr

namespace Engine

variable {α : Type} (s : Engine)

def entity : Option α → LocalEntityRead α
  | none => .absent
  | some value => .present value

/-- Something cached of an owner that may be gone. -/
def ownedCache (owner : Bool) (value : Option α) : OwnedCacheRead α :=
  if owner then
    match value with
    | some value => .cached value
    | none => .notCached
  else .ownerAbsent

def readAccount (accountKey : AccountKey) : LocalEntityRead Account := entity (s.accounts.get? accountKey)
def listAccounts : List Account := s.accounts.values
def readMailbox (id : ScopedMailboxId) : LocalEntityRead Mailbox := entity (s.mailboxes.get? id)
def readIdentity (id : ScopedIdentityId) : LocalEntityRead Identity := entity (s.identities.get? id)

def listIdentities (accountKey : AccountKey) : OwnedSnapshotRead (List Identity) :=
  s.ownedAll accountKey (s.identities.values.filter (·.id.accountKey = accountKey))

def readEmails (ids : List ScopedEmailId) : List (LocalEntityRead Email) := ids.map s.readEmail

def readEmailMemberships (id : ScopedEmailId) : OwnedSnapshotRead (List EmailMailbox) :=
  if s.emails.has id then .present ((s.memberships.get? id).getD []) else .ownerAbsent

def readEmailBody (id : ScopedEmailId) : OwnedCacheRead EmailBody := ownedCache (s.emails.has id) (s.bodies.get? id)

def readAttachmentRefs (id : ScopedEmailId) : OwnedCacheRead (List AttachmentRef) :=
  ownedCache (s.emails.has id) (s.attachments.get? id)

def readMailboxView (spec : MailboxViewSpec) : OwnedCacheRead MailboxView :=
  ownedCache (s.mailboxes.has spec.mailboxId) (s.views.get? spec)

end Engine

end Boxplot.Memory
