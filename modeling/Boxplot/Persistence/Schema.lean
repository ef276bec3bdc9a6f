import Boxplot.Lib.OrderedMap
import Boxplot.Lib.Table
import Boxplot.Persistence.Codecs
import Mathlib.Data.String.Basic
/-!
# The durable schema

The rows of `emails_fts` and what the triggers of
`src-tauri/src/db/migrations/0003_fts5.sql` do to them: the virtual table has
no keys but its rowid, and a trigger finds the rows of an email by its columns.
Then the tables of `0002_persist_01.sql` under their primary keys, and the
statements the engine runs. A statement that breaks a constraint changes
nothing; deleting a row deletes the rows that refer to it.
-/

namespace Boxplot.Persistence

structure FtsRow where
  rowid : Int
  accountKey : String
  emailJmapId : String
  subject : Option String
  preview : String
  textBody : Option String
  htmlBody : Option String
  deriving DecidableEq, Repr

/-- `WHERE account_key = ... AND email_jmap_id = ...`. -/
def FtsRow.isOf (account id : String) (f : FtsRow) : Bool := f.accountKey = account && f.emailJmapId = id

/-- `INSERT INTO emails_fts`: the rowid must be new. -/
def insertFts (f : FtsRow) (fts : List FtsRow) : Option (List FtsRow) :=
  if fts.any (·.rowid = f.rowid) then none else some (fts ++ [f])

/-- `UPDATE emails_fts SET ... WHERE` the row is of the email. -/
def updateFts (account id : String) (set : FtsRow → FtsRow) (fts : List FtsRow) : List FtsRow :=
  fts.map fun f => if f.isOf account id then set f else f

/-! ## Triggers -/

section
variable (account id : String)

def emailsAi (rowid : Int) (subject : Option String) (preview : String) : List FtsRow → Option (List FtsRow) :=
  insertFts ⟨rowid, account, id, subject, preview, none, none⟩

def emailsAu (subject : Option String) (preview : String) : List FtsRow → List FtsRow :=
  updateFts account id fun f => { f with subject := subject, preview := preview }

def emailsAd (fts : List FtsRow) : List FtsRow := fts.filter fun f => !f.isOf account id

def emailBodiesAi (text html : Option String) : List FtsRow → List FtsRow :=
  updateFts account id fun f => { f with textBody := text, htmlBody := html }

def emailBodiesAu (text html : Option String) : List FtsRow → List FtsRow :=
  updateFts account id fun f => { f with textBody := text, htmlBody := html }

def emailBodiesAd : List FtsRow → List FtsRow :=
  updateFts account id fun f => { f with textBody := none, htmlBody := none }

end

/-! ## Rowids -/

def maxRowid : Int := 2 ^ 63 - 1

/-- Tries numbers until one is not in use. -/
def randomRowid (used : List Int) : Nat → List Int → Option (Int × List Int)
  | attempts + 1, draw :: rest => if draw ∈ used then randomRowid used attempts rest else some (draw, rest)
  | _, _ => none

/-- One more than the largest rowid. When there is no such number, SQLite tries a hundred random ones. -/
def freshRowid (used draws : List Int) : Option (Int × List Int) :=
  match used.max? with
  | none => some (1, draws)
  | some largest => if largest < maxRowid then some (largest + 1, draws) else randomRowid used 100 draws

theorem randomRowid_notMem {used draws draws' : List Int} {n : Nat} {rowid : Int}
    (h : randomRowid used n draws = some (rowid, draws')) : rowid ∉ used := by
  induction draws generalizing n with
  | nil => cases n <;> cases h
  | cons draw rest ih =>
    cases n with
    | zero => cases h
    | succ n =>
      unfold randomRowid at h
      split at h
      · exact ih h
      · cases h
        assumption

/-- The rowid is not in use. -/
theorem freshRowid_notMem {used draws draws' : List Int} {rowid : Int} (h : freshRowid used draws = some (rowid, draws')) :
    rowid ∉ used := by
  unfold freshRowid at h
  cases hmax : used.max? with
  | none =>
    rw [List.max?_eq_none_iff.1 hmax]
    simp
  | some largest =>
    simp only [hmax] at h
    split at h
    · cases h
      intro hmem
      have hle := (List.max?_eq_some_iff.1 hmax).2 _ hmem
      omega
    · exact randomRowid_notMem h

open Lib

/-! ## Rows -/

structure AccountRow where
  serviceKey : String
  jmapAccountId : String
  deriving DecidableEq, Repr

structure MailboxRow where
  name : String
  parentJmapId : Option String
  role : Option String
  sortOrder : Int
  totalEmails : Int
  unreadEmails : Int
  mayReadItems : Int
  mayAddItems : Int
  mayRemoveItems : Int
  maySetSeen : Int
  maySetKeywords : Int
  maySubmit : Int
  deriving DecidableEq, Repr

structure IdentityRow where
  name : String
  email : String
  replyToJson : JsValue
  bccJson : JsValue

structure EmailRow where
  blobId : String
  threadId : String
  senderJson : JsValue
  fromJson : JsValue
  replyToJson : JsValue
  toJson : JsValue
  ccJson : JsValue
  bccJson : JsValue
  subject : Option String
  sentAt : Option String
  receivedAt : String
  size : Int
  preview : String
  hasAttachment : Int
  keywordsJson : JsValue

structure EmailBodyRow where
  textBody : Option String
  htmlBody : Option String
  deriving DecidableEq, Repr

structure AttachmentRow where
  blobId : String
  name : Option String
  mediaType : String
  size : Int
  disposition : Option String
  cid : Option String
  deriving DecidableEq, Repr

structure MailboxViewRow where
  queryState : String
  total : Int
  deriving DecidableEq, Repr

structure CoverageRow where
  start : Int
  endExclusive : Int
  deriving DecidableEq, Repr

structure MutationRow where
  kind : String
  createdAt : String
  targetEmailJmapId : Option String
  sendIntentJson : Option JsValue
  keywordChangeJson : Option JsValue
  membershipChangeJson : Option JsValue
  lifecycleJson : JsValue

/-- Rows belong to an account: the first part of their key says to which. -/
structure Db where
  accounts : OrderedMap String AccountRow
  mailboxes : OrderedMap (String × String) MailboxRow
  identities : OrderedMap (String × String) IdentityRow
  emails : OrderedMap (String × String) EmailRow
  emailMailboxes : OrderedMap ((String × String) × String) Unit
  emailBodies : OrderedMap (String × String) EmailBodyRow
  attachmentCaches : OrderedMap (String × String) Unit
  attachmentRefs : OrderedMap ((String × String) × String) AttachmentRow
  mailboxViews : OrderedMap MailboxViewSpec MailboxViewRow
  mailboxViewCoverage : OrderedMap (MailboxViewSpec × Nat) CoverageRow
  mailboxViewItems : OrderedMap (MailboxViewSpec × Int) String
  syncCursors : OrderedMap (String × String) String
  pendingMutations : OrderedMap (String × String) MutationRow
  emailRowids : OrderedMap (String × String) Int
  emailsFts : List FtsRow
  /-- The numbers SQLite will draw. -/
  draws : List Int

/-- The migrated schema without rows. -/
def Db.empty (draws : List Int) : Db :=
  ⟨.empty, .empty, .empty, .empty, .empty, .empty, .empty, .empty, .empty, .empty, .empty, .empty, .empty, .empty, [], draws⟩

/-! ## Constraints -/

/-- `length(text) > 0`. SQLite counts the characters before the first NUL. -/
def hasText (text : String) : Bool := 0 < (text.toList.takeWhile (· ≠ '\x00')).length

/-- `text IS NULL OR length(text) > 0`. -/
def nullOrText (text : Option String) : Bool := text.all hasText

def isFlag (n : Int) : Bool := n = 0 || n = 1

def AccountRow.check (accountKey : String) (r : AccountRow) : Bool :=
  hasText accountKey && hasText r.serviceKey && hasText r.jmapAccountId

def MailboxRow.check (jmapId : String) (r : MailboxRow) : Bool :=
  hasText jmapId && hasText r.name && nullOrText r.role && (0 ≤ r.sortOrder && r.sortOrder < 2147483648) &&
    0 ≤ r.totalEmails && (0 ≤ r.unreadEmails && r.unreadEmails ≤ r.totalEmails) &&
    [r.mayReadItems, r.mayAddItems, r.mayRemoveItems, r.maySetSeen, r.maySetKeywords, r.maySubmit].all isFlag &&
    r.parentJmapId ≠ some jmapId

def IdentityRow.check (jmapId : String) (r : IdentityRow) : Bool := hasText jmapId && hasText r.email

def EmailRow.check (jmapId : String) (r : EmailRow) : Bool :=
  hasText jmapId && hasText r.blobId && hasText r.threadId && nullOrText r.sentAt && hasText r.receivedAt && 0 ≤ r.size &&
    isFlag r.hasAttachment

def AttachmentRow.check (r : AttachmentRow) : Bool :=
  hasText r.blobId && hasText r.mediaType && !startsWith (asciiLowercase r.mediaType) "multipart/" && 0 ≤ r.size

def MailboxViewRow.check (spec : MailboxViewSpec) (r : MailboxViewRow) : Bool :=
  spec.filterKind = "all" && spec.sortProperty = "receivedAt" && (["ascending", "descending"].contains spec.sortDirection) &&
    hasText r.queryState && 0 ≤ r.total

def CoverageRow.check (r : CoverageRow) : Bool := 0 ≤ r.start && r.start < r.endExclusive

/-- The columns that a kind of mutation fills. -/
def MutationRow.check (mutationId : String) (r : MutationRow) : Bool :=
  hasText mutationId && hasText r.createdAt &&
    (r.kind = "send" && r.targetEmailJmapId.isNone && r.sendIntentJson.isSome && r.keywordChangeJson.isNone &&
        r.membershipChangeJson.isNone ||
      r.kind = "keyword" && r.targetEmailJmapId.isSome && r.sendIntentJson.isNone && r.keywordChangeJson.isSome &&
        r.membershipChangeJson.isNone ||
      r.kind = "mailboxMembership" && r.targetEmailJmapId.isSome && r.sendIntentJson.isNone && r.keywordChangeJson.isNone &&
        r.membershipChangeJson.isSome)

/-! ## Statements -/

/-- `none` if a constraint is violated. -/
abbrev Statement := Db → Option Db

section
variable (account id : String)

def insertAccount (r : AccountRow) : Statement := fun db =>
  if r.check account then (db.accounts.insert? account r).map fun t => { db with accounts := t } else none

def upsertMailbox (r : MailboxRow) : Statement := fun db =>
  if r.check id && db.accounts.has account then some { db with mailboxes := db.mailboxes.set (account, id) r } else none

def upsertIdentity (r : IdentityRow) : Statement := fun db =>
  if r.check id && db.accounts.has account then some { db with identities := db.identities.set (account, id) r } else none

def upsertEmail (r : EmailRow) : Statement := fun db =>
  if r.check id && db.accounts.has account then
    if db.emails.has (account, id) then
      some { db with
        emails := db.emails.set (account, id) r
        emailsFts := emailsAu account id r.subject r.preview db.emailsFts }
    else do
      let (rowid, draws) ← freshRowid db.emailRowids.values db.draws
      let fts ← emailsAi account id rowid r.subject r.preview db.emailsFts
      some { db with
        emails := db.emails.set (account, id) r
        emailRowids := db.emailRowids.set (account, id) rowid
        emailsFts := fts
        draws := draws }
  else none

/-- Its memberships, body and attachments go with an email. -/
def deleteEmail : Statement := fun db =>
  let cascaded := if db.emailBodies.has (account, id) then emailBodiesAd account id db.emailsFts else db.emailsFts
  some { db with
    emails := db.emails.delete (account, id)
    emailRowids := db.emailRowids.delete (account, id)
    emailsFts := if db.emails.has (account, id) then emailsAd account id cascaded else db.emailsFts
    emailMailboxes := db.emailMailboxes.clear (account, id)
    emailBodies := db.emailBodies.delete (account, id)
    attachmentCaches := db.attachmentCaches.delete (account, id)
    attachmentRefs := db.attachmentRefs.clear (account, id) }

/-- The specs of a mailbox's views. -/
def MailboxViewSpec.isOf (spec : MailboxViewSpec) : Bool := spec.accountKey = account && spec.mailboxJmapId = id

/-- Its views go with a mailbox. -/
def deleteMailbox : Statement := fun db =>
  some { db with
    mailboxes := db.mailboxes.delete (account, id)
    mailboxViews := db.mailboxViews.filter fun spec _ => !spec.isOf account id
    mailboxViewCoverage := db.mailboxViewCoverage.filter fun key _ => !key.1.isOf account id
    mailboxViewItems := db.mailboxViewItems.filter fun key _ => !key.1.isOf account id }

def deleteIdentity : Statement := fun db => some { db with identities := db.identities.delete (account, id) }

def deleteIdentities : Statement := fun db => some { db with identities := db.identities.clear account }

def deleteMemberships (email : String) : Statement := fun db =>
  some { db with emailMailboxes := db.emailMailboxes.clear (account, email) }

/-- One row after the other. -/
def insertMemberships (email : String) (ids : List String) : Statement := fun db =>
  if ids = [] ∨ db.emails.has (account, email) then
    (OrderedMap.insertEach (G := String × String) (K := String) (fun _ id _ => hasText id) (account, email) db.emailMailboxes (ids.map (·, ()))).map fun t =>
      { db with emailMailboxes := t }
  else none

def upsertEmailBody (email : String) (r : EmailBodyRow) : Statement := fun db =>
  if db.emails.has (account, email) then
    some { db with
      emailBodies := db.emailBodies.set (account, email) r
      emailsFts :=
        if db.emailBodies.has (account, email) then emailBodiesAu account email r.textBody r.htmlBody db.emailsFts
        else emailBodiesAi account email r.textBody r.htmlBody db.emailsFts }
  else none

/-- `INSERT OR IGNORE`. -/
def insertAttachmentCache (email : String) : Statement := fun db =>
  if db.emails.has (account, email) then some { db with attachmentCaches := db.attachmentCaches.set (account, email) () }
  else none

def deleteAttachments (email : String) : Statement := fun db =>
  some { db with attachmentRefs := db.attachmentRefs.clear (account, email) }

/-- One row after the other. -/
def insertAttachments (email : String) (rows : List (String × AttachmentRow)) : Statement := fun db =>
  if rows = [] ∨ db.attachmentCaches.has (account, email) then
    (OrderedMap.insertEach (G := String × String) (K := String) (R := AttachmentRow) (fun _ _ r => r.check) (account, email) db.attachmentRefs rows).map fun t =>
      { db with attachmentRefs := t }
  else none

def upsertCursor (dataType state : String) : Statement := fun db =>
  if ["email", "mailbox", "identity"].contains dataType && db.accounts.has account then
    some { db with syncCursors := db.syncCursors.set (account, dataType) state }
  else none

def insertMutationRow (r : MutationRow) : Statement := fun db =>
  if r.check id && db.accounts.has account then
    (db.pendingMutations.insert? (account, id) r).map fun t => { db with pendingMutations := t }
  else none

def deleteMutation : Statement := fun db => some { db with pendingMutations := db.pendingMutations.delete (account, id) }

end

section
variable (spec : MailboxViewSpec)

def upsertView (r : MailboxViewRow) : Statement := fun db =>
  if r.check spec && db.mailboxes.has (spec.accountKey, spec.mailboxJmapId) then
    some { db with mailboxViews := db.mailboxViews.set spec r }
  else none

def deleteCoverage : Statement := fun db => some { db with mailboxViewCoverage := db.mailboxViewCoverage.clear spec }

def deleteItems : Statement := fun db => some { db with mailboxViewItems := db.mailboxViewItems.clear spec }

/-- One row after the other, under their ordinals. -/
def insertCoverage (rows : List (Nat × CoverageRow)) : Statement := fun db =>
  if rows = [] ∨ db.mailboxViews.has spec then
    (OrderedMap.insertEach (fun _ _ r => r.check) spec db.mailboxViewCoverage rows).map fun t =>
      { db with mailboxViewCoverage := t }
  else none

/-- One row after the other, each email once. -/
def insertItems (rows : List (Int × String)) : Statement := fun db =>
  if rows = [] ∨ db.mailboxViews.has spec then
    (OrderedMap.insertEach (fun t position email => 0 ≤ position && hasText email && !((t.select spec).map (·.2)).contains email)
      spec db.mailboxViewItems rows).map fun t => { db with mailboxViewItems := t }
  else none

end

end Boxplot.Persistence
