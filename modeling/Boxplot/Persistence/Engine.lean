import Boxplot.Persistence.Rows
/-!
# The persistent engine

The reads and writes of `src-tauri/src/persistence/engine.rs`. A write runs in
a transaction: if it fails, the database stays as it was.
-/

namespace Boxplot.Persistence

open Lib

namespace Db

variable (db : Db)

def accountExists (a : String) : Bool := db.accounts.has a
def emailExists (a id : String) : Bool := db.emails.has (a, id)
def mailboxExists (a id : String) : Bool := db.mailboxes.has (a, id)
def mutationExists (a id : String) : Bool := db.pendingMutations.has (a, id)

def readAccountRow (key : String) : PersistResult (Option Account) := readRow (accountOfRow key) (db.accounts.get? key)

def readMailboxRow (a id : String) : PersistResult (Option Mailbox) :=
  readRow (mailboxOfRow (a, id)) (db.mailboxes.get? (a, id))

def readIdentityRow (a id : String) : PersistResult (Option Identity) :=
  readRow (identityOfRow (a, id)) (db.identities.get? (a, id))

def readEmailRow (a id : String) : PersistResult (Option Email) := readRow (emailOfRow (a, id)) (db.emails.get? (a, id))

def membershipIds (a email : String) : List String := (db.emailMailboxes.select (a, email)).map (·.1)

def readBodyRow (a email : String) : PersistResult (Option EmailBody) :=
  readRow (bodyOfRow (a, email)) (db.emailBodies.get? (a, email))

/-- The attachments of an email, if they were cached at all. -/
def attachmentRows (a email : String) : Option (List (String × AttachmentRow)) :=
  (db.attachmentCaches.get? (a, email)).map fun _ => db.attachmentRefs.select (a, email)

def readAttachmentRows (a email : String) : PersistResult (Option (List AttachmentRef)) :=
  readRow (attachmentsOfRows (a, email)) (db.attachmentRows a email)

def viewRows (s : MailboxViewSpec) : Option ViewRows :=
  (db.mailboxViews.get? s).map fun r => (r, db.mailboxViewCoverage.select s, db.mailboxViewItems.select s)

def readView (s : MailboxViewSpec) : PersistResult (Option MailboxView) := readRow (viewOfRows s) (db.viewRows s)

def cursorState (a : String) (dataType : CollectionDataType) : Option String := db.syncCursors.get? (a, dataType.asStr)

def readCursorRow (a : String) (dataType : CollectionDataType) : PersistResult (Option CollectionSyncCursor) :=
  readRow (cursorOfRow a dataType) (db.cursorState a dataType)

def readMutation (a id : String) : PersistResult (Option PendingMutation) :=
  readRow (mutationOfRow (a, id)) (db.pendingMutations.get? (a, id))

/-! ## Reads -/

/-- The rows with these ids, none of which may be missing. -/
def readAll {α : Type} (ids : List String) (read : String → PersistResult (Option α)) (missing : String) :
    PersistResult (List α) :=
  ids.mapM fun id => do required (← read id) missing

def entityOf {α : Type} : Option α → LocalEntity α
  | some v => .present v
  | none => .absent

def optionalOf {α : Type} : Option α → OwnedOptional α
  | some v => .present v
  | none => .absent

def cacheOf {α : Type} : Option α → OwnedCache α
  | some v => .cached v
  | none => .notCached

def readAccount (key : String) : PersistResult (LocalEntity Account) := (db.readAccountRow key).map entityOf

def listAccounts : PersistResult (List Account) := db.accounts.entries.mapM fun e => accountOfRow e.1 e.2

def readMailbox (account id : String) : PersistResult (LocalEntity Mailbox) := (db.readMailboxRow account id).map entityOf

def listMailboxes (account : String) : PersistResult (OwnedSnapshot (List Mailbox)) :=
  if db.accountExists account then
    (readAll ((db.mailboxes.select account).map (·.1)) (db.readMailboxRow account) "mailbox disappeared during read").map .present
  else .ok .ownerAbsent

def readIdentity (account id : String) : PersistResult (LocalEntity Identity) := (db.readIdentityRow account id).map entityOf

def listIdentities (account : String) : PersistResult (OwnedSnapshot (List Identity)) :=
  if db.accountExists account then
    (readAll ((db.identities.select account).map (·.1)) (db.readIdentityRow account) "identity disappeared during read").map
      .present
  else .ok .ownerAbsent

def readEmail (account id : String) : PersistResult (LocalEntity Email) := (db.readEmailRow account id).map entityOf

def readEmails (ids : List (String × String)) : PersistResult (List (LocalEntity Email)) :=
  ids.mapM fun e => db.readEmail e.1 e.2

def readEmailMemberships (account email : String) : PersistResult (OwnedSnapshot (List EmailMembership)) :=
  if db.emailExists account email then
    .ok (.present ((db.membershipIds account email).map fun id =>
      { accountKey := account, emailJmapId := email, mailboxJmapId := id }))
  else .ok .ownerAbsent

def readEmailBody (account email : String) : PersistResult (OwnedCache EmailBody) :=
  if db.emailExists account email then (db.readBodyRow account email).map cacheOf else .ok .ownerAbsent

def readAttachmentRefs (account email : String) : PersistResult (OwnedCache (List AttachmentRef)) :=
  if db.emailExists account email then (db.readAttachmentRows account email).map cacheOf else .ok .ownerAbsent

def readMailboxView (spec : MailboxViewSpec) : PersistResult (OwnedCache MailboxView) :=
  if db.mailboxExists spec.accountKey spec.mailboxJmapId then (db.readView spec).map cacheOf else .ok .ownerAbsent

def readCollectionSyncCursor (account : String) (dataType : CollectionDataType) :
    PersistResult (OwnedOptional CollectionSyncCursor) :=
  if db.accountExists account then (db.readCursorRow account dataType).map optionalOf else .ok .ownerAbsent

def readPendingMutation (account id : String) : PersistResult (OwnedOptional PendingMutation) :=
  if db.accountExists account then (db.readMutation account id).map optionalOf else .ok .ownerAbsent

def listPendingMutations (account : String) : PersistResult (OwnedSnapshot (List PendingMutation)) :=
  if db.accountExists account then
    (readAll ((db.pendingMutations.select account).map (·.1)) (db.readMutation account) "mutation disappeared").map .present
  else .ok .ownerAbsent

end Db

/-! ## Transactions -/

/-- A computation on the database within a transaction. -/
abbrev Tx := EStateM PersistenceError Db

def execute (s : Statement) : Tx Unit := fun db =>
  match s db with
  | some db' => .ok () db'
  | none => .error .conflict db

def query {α : Type} (q : Db → PersistResult α) : Tx α := fun db =>
  match q db with
  | .ok a => .ok a db
  | .error e => .error e db

/-- A result that does not depend on the database. -/
def given {α : Type} (r : PersistResult α) : Tx α := query fun _ => r

/-- `return Err(PersistenceError::Conflict)` unless the condition holds. -/
def conflictUnless (condition : Db → Bool) : Tx Unit := query fun db => if condition db then .ok () else .error .conflict

/-- Only a transaction that reaches its commit changes the database. -/
def transaction (x : Tx Unit) (db : Db) : PersistResult Db :=
  match x db with
  | .ok _ db' => .ok db'
  | .error e _ => .error e

/-! ## Writing rows -/

def writeMailbox (v : Mailbox) : Tx Unit := do
  given (orConflict (validateMailbox v))
  execute (upsertMailbox v.accountKey v.jmapId (← given (mailboxRowOf v)))

def writeIdentity (v : Identity) : Tx Unit := do
  given (orConflict (nonEmpty v.accountKey "AccountKey"))
  given (orConflict (nonEmpty v.jmapId "Identity id"))
  given (orConflict (nonEmpty v.email "Identity email"))
  execute (upsertIdentity v.accountKey v.jmapId (identityRowOf v))

def writeEmail (v : Email) : Tx Unit := do
  given (orConflict (validateEmail v))
  execute (upsertEmail v.accountKey v.jmapId (← given (emailRowOf v)))

def replaceMemberships (a email : String) (ids : List String) : Tx Unit := do
  conflictUnless fun _ => "" ∉ ids && ids.Nodup
  execute (deleteMemberships a email)
  execute (insertMemberships a email ids)

def writeView (v : MailboxView) : Tx Unit := do
  execute (upsertView v.spec { queryState := v.queryState, total := ← given (toI64 v.total) })
  execute (deleteCoverage v.spec)
  execute (deleteItems v.spec)
  execute (insertCoverage v.spec (ordinals (← given (v.coverage.mapM coverageRowOf))))
  execute (insertItems v.spec (← given (v.items.mapM itemRowOf)))

def insertMutation (m : PendingMutation) : Tx Unit := execute (insertMutationRow m.accountKey m.mutationId (mutationRowOf m))

/-! ## Collections -/

/-- Each id once, all records in the account. -/
def distinctOf {α : Type} (accountOf idOf : α → String) (a : String) (records : List α) : Bool :=
  records.all (fun r => accountOf r = a) && (records.map idOf).Nodup

/-- Each destroyed id once, and none that changed. -/
def destroyable {α : Type} (idOf : α → String) (changed : List α) (destroyed : List String) : Bool :=
  destroyed.Nodup && !destroyed.any fun id => (changed.map idOf).contains id

def validateMemberships (a : String) (r : EmailSyncRecord) : Bool :=
  r.memberships.all (fun m => m.accountKey = a && m.emailJmapId = r.email.jmapId && m.mailboxJmapId ≠ "") &&
    (r.memberships.map (·.mailboxJmapId)).Nodup

def validateEmailRecords (a : String) (records : List EmailSyncRecord) : Bool :=
  distinctOf (·.email.accountKey) (·.email.jmapId) a records && records.all (validateMemberships a)

def writeRecord (a : String) (r : EmailSyncRecord) : Tx Unit := do
  writeEmail r.email
  replaceMemberships a r.email.jmapId (r.memberships.map (·.mailboxJmapId))

def applyEmailDelta (a : String) (changed : List EmailSyncRecord) (destroyed : List String) : Tx Unit := do
  conflictUnless fun _ => validateEmailRecords a changed && destroyable (·.email.jmapId) changed destroyed
  changed.forM (writeRecord a)
  destroyed.forM fun id => execute (deleteEmail a id)

/-- The rows of the account that a snapshot does not have. -/
def deleteOthers {R : Type} (table : Db → OrderedMap (String × String) R) (delete : String → String → Statement) (a : String)
    (keep : List String) : Tx Unit := do
  let existing ← query fun db => .ok ((table db).select a)
  (existing.filter fun e => !keep.contains e.1).forM fun e => execute (delete a e.1)

def applyEmailReplace (a : String) (snapshot : List EmailSyncRecord) : Tx Unit := do
  conflictUnless fun _ => validateEmailRecords a snapshot
  deleteOthers (·.emails) deleteEmail a (snapshot.map (·.email.jmapId))
  snapshot.forM (writeRecord a)

/-- Follows the parents until there is none or one comes again. A chain of other mailboxes is no longer than the catalog. -/
def parentsEnd (parentOf : String → Option String) : Nat → List String → Option String → Bool
  | _, _, none => true
  | 0, _, some _ => false
  | fuel + 1, seen, some id => if id ∈ seen then false else parentsEnd parentOf fuel (id :: seen) (parentOf id)

def validateMailboxCatalog (a : String) (db : Db) : Bool :=
  let mailboxes := db.mailboxes.select a
  mailboxes.all fun e =>
    parentsEnd (fun id => (db.mailboxes.get? (a, id)).bind (·.parentJmapId)) (mailboxes.length + 1) [] (some e.1)

def applyMailboxDelta (a : String) (changed : List Mailbox) (destroyed : List String) : Tx Unit := do
  conflictUnless fun _ => distinctOf (·.accountKey) (·.jmapId) a changed && destroyable (·.jmapId) changed destroyed
  destroyed.forM fun id => execute (deleteMailbox a id)
  changed.forM writeMailbox
  conflictUnless (validateMailboxCatalog a)

def applyMailboxReplace (a : String) (snapshot : List Mailbox) : Tx Unit := do
  conflictUnless fun _ => distinctOf (·.accountKey) (·.jmapId) a snapshot
  deleteOthers (·.mailboxes) deleteMailbox a (snapshot.map (·.jmapId))
  snapshot.forM writeMailbox
  conflictUnless (validateMailboxCatalog a)

def applyIdentityDelta (a : String) (changed : List Identity) (destroyed : List String) : Tx Unit := do
  conflictUnless fun _ => distinctOf (·.accountKey) (·.jmapId) a changed && destroyable (·.jmapId) changed destroyed
  changed.forM writeIdentity
  destroyed.forM fun id => execute (deleteIdentity a id)

def applyIdentityReplace (a : String) (snapshot : List Identity) : Tx Unit := do
  conflictUnless fun _ => distinctOf (·.accountKey) (·.jmapId) a snapshot
  execute (deleteIdentities a)
  snapshot.forM writeIdentity

def cursorMatches (a : String) (kind : CollectionDataType) (expected : CursorPrecondition) (db : Db) : Bool :=
  match expected with
  | .absent => (db.cursorState a kind).isNone
  | .matches v => v.accountKey = a && v.dataType = kind && db.cursorState a kind = some v.state

def applyCommit (a : String) : CollectionSyncCommit → Tx Unit
  | .emailDelta _ _ changed destroyed => applyEmailDelta a changed destroyed
  | .emailReplace _ _ snapshot => applyEmailReplace a snapshot
  | .mailboxDelta _ _ changed destroyed => applyMailboxDelta a changed destroyed
  | .mailboxReplace _ _ snapshot => applyMailboxReplace a snapshot
  | .identityDelta _ _ changed destroyed => applyIdentityDelta a changed destroyed
  | .identityReplace _ _ snapshot => applyIdentityReplace a snapshot

/-! ## Mutations -/

def sameImmutable (a b : PendingMutation) : Bool :=
  a.accountKey = b.accountKey && a.mutationId = b.mutationId && a.createdAt = b.createdAt && a.payload = b.payload

def validTransition (a b : PendingMutation) : Bool :=
  match a.lifecycle, b.lifecycle with
  | .pending x, .inFlight y => x = 0 && y = 1
  | .retrying x _, .inFlight y => 0 < x && y.toNat = x.toNat + 1
  | .inFlight x, .retrying y _ => 0 < x && x = y
  | .inFlight x, .confirmed y _ => 0 < x && x = y
  | .inFlight x, .failedTerminal y => 0 < x && x = y
  | _, _ => false

def mayStage (m : PendingMutation) (db : Db) : Bool :=
  db.accountExists m.accountKey && !db.mutationExists m.accountKey m.mutationId

/-- Removes the keywords of `remove`, then appends those of `add` that are not there, in order. -/
def changedKeywords (change : KeywordChange) (keywords : List String) : List String :=
  (change.add.sort (· ≤ ·)).foldl (fun keywords k => if k ∈ keywords then keywords else keywords ++ [k])
    (keywords.filter (· ∉ change.remove))

/-- The set in order. -/
def changedMemberships (change : MembershipChange) (ids : List String) : List String :=
  ((ids.toFinset \ change.remove.toFinset) ∪ change.add.toFinset).sort (· ≤ ·)

/-! ## Writes -/

namespace Db

variable (db : Db)

def registerAccount (account : Account) : PersistResult Db := do
  nonEmpty account.key "AccountKey"
  nonEmpty account.serviceKey "ServiceKey"
  nonEmpty account.jmapAccountId "JmapAccountId"
  match db.accounts.get? account.key with
  | none => transaction (execute (insertAccount account.key ⟨account.serviceKey, account.jmapAccountId⟩)) db
  | some value => if value = ⟨account.serviceKey, account.jmapAccountId⟩ then .ok db else .error .conflict

def cacheEmailBody (body : EmailBody) : PersistResult Db :=
  transaction (do
    conflictUnless fun db => db.emailExists body.accountKey body.emailJmapId
    execute (upsertEmailBody body.accountKey body.emailJmapId ⟨body.text, body.html⟩)) db

def replaceAttachmentRefs (account email : String) (refs : List AttachmentRef) : PersistResult Db :=
  transaction (do
    conflictUnless fun db => db.emailExists account email
    conflictUnless fun _ =>
      refs.all (fun r => r.accountKey = account && r.emailJmapId = email) && (refs.map (·.partId)).Nodup
    refs.forM fun r => given (orConflict (validateAttachment r))
    execute (insertAttachmentCache account email)
    execute (deleteAttachments account email)
    execute (insertAttachments account email (← given (refs.mapM attachmentRowOf)))) db

def replaceMailboxView (view : MailboxView) : PersistResult Db :=
  transaction (do
    given (orConflict (validateView view))
    conflictUnless fun db => db.mailboxExists view.spec.accountKey view.spec.mailboxJmapId
    writeView view) db

def insertMutationOnly (m : PendingMutation) : PersistResult Db :=
  transaction (do
    given (orConflict (validateMutation m))
    conflictUnless (mayStage m)
    insertMutation m) db

def stageSendMutation (m : PendingMutation) : PersistResult Db :=
  match m.payload with
  | .send _ => db.insertMutationOnly m
  | _ => .error .conflict

def applyCollectionSync (commit : CollectionSyncCommit) : PersistResult Db :=
  let account := commit.next.accountKey
  transaction (do
    conflictUnless fun db =>
      db.accountExists account && commit.next.dataType = commit.kind && cursorMatches account commit.kind commit.expected db
    applyCommit account commit
    execute (upsertCursor account commit.kind.asStr commit.next.state)) db

def applyOptimisticKeywordMutation (m : PendingMutation) : PersistResult Db :=
  match m.payload with
  | .keyword emailJmapId change =>
    transaction (do
      given (orConflict (validateMutation m))
      conflictUnless (mayStage m)
      match ← query (·.readEmailRow m.accountKey emailJmapId) with
      | none => throw .conflict
      | some email => do
        writeEmail { email with keywords := changedKeywords change email.keywords }
        insertMutation m) db
  | _ => .error .conflict

def applyOptimisticMailboxMembershipMutation (m : PendingMutation) : PersistResult Db :=
  match m.payload with
  | .mailboxMembership emailJmapId change =>
    transaction (do
      given (orConflict (validateMutation m))
      conflictUnless fun db => mayStage m db && db.emailExists m.accountKey emailJmapId
      conflictUnless fun db => (change.add ++ change.remove).all (db.mailboxExists m.accountKey)
      let ids ← query fun db => .ok (changedMemberships change (db.membershipIds m.accountKey emailJmapId))
      conflictUnless fun _ => ids ≠ []
      replaceMemberships m.accountKey emailJmapId ids
      insertMutation m) db
  | _ => .error .conflict

def replacePendingMutationIfCurrent (expected next : PendingMutation) : PersistResult Db :=
  transaction (do
    given (orConflict (validateMutation expected))
    given (orConflict (validateMutation next))
    conflictUnless fun _ => sameImmutable expected next && validTransition expected next
    let current ← query (·.readMutation expected.accountKey expected.mutationId)
    conflictUnless fun _ => current = some expected
    execute (deleteMutation expected.accountKey expected.mutationId)
    insertMutation next) db

def removeConfirmedMutation (account id : String) : PersistResult Db :=
  transaction (do
    match ← query (·.readMutation account id) with
    | some ⟨_, _, _, _, .confirmed _ _⟩ => execute (deleteMutation account id)
    | _ => throw .conflict) db

end Db

end Boxplot.Persistence
