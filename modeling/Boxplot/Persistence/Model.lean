import Mathlib.Tactic
/-!
# The semantic model of the local store

The records of `src-tauri/src/persistence/model.rs` and the checks they must
pass, with the ones `engine.rs` adds. A `u64` is a `UInt64`, a `BTreeSet` of
texts a `Finset`.
-/

namespace Boxplot.Persistence

/-- The errors an operation can end in, storage that is unavailable apart. -/
inductive PersistenceError
  | conflict
  | corruptState (message : String)
  deriving DecidableEq, Repr

abbrev PersistResult (α : Type) := Except PersistenceError α

/-! A `BTreeSet` of texts is read in their order. -/

instance textTrans : IsTrans String (· ≤ ·) := inferInstance

instance textAntisymm : @Std.Antisymm String (· ≤ ·) := inferInstance

instance textTotal : @Std.Total String (· ≤ ·) := inferInstance

/-! ## Records -/

structure Address where
  name : Option String
  email : String
  deriving DecidableEq, Repr

abbrev AddressList := Option (List Address)

structure Account where
  key : String
  serviceKey : String
  jmapAccountId : String
  deriving DecidableEq, Repr

structure MailboxRights where
  mayReadItems : Bool
  mayAddItems : Bool
  mayRemoveItems : Bool
  maySetSeen : Bool
  maySetKeywords : Bool
  maySubmit : Bool
  deriving DecidableEq, Repr

structure Mailbox where
  accountKey : String
  jmapId : String
  name : String
  parentJmapId : Option String
  role : Option String
  sortOrder : UInt32
  totalEmails : UInt64
  unreadEmails : UInt64
  rights : MailboxRights
  deriving DecidableEq, Repr

structure Identity where
  accountKey : String
  jmapId : String
  name : String
  email : String
  replyTo : AddressList
  bcc : AddressList
  deriving DecidableEq, Repr

structure Email where
  accountKey : String
  jmapId : String
  blobId : String
  threadId : String
  sender : AddressList
  «from» : AddressList
  replyTo : AddressList
  «to» : AddressList
  cc : AddressList
  bcc : AddressList
  subject : Option String
  sentAt : Option String
  receivedAt : String
  size : UInt64
  preview : String
  hasAttachment : Bool
  keywords : List String
  deriving DecidableEq, Repr

structure EmailMembership where
  accountKey : String
  emailJmapId : String
  mailboxJmapId : String
  deriving DecidableEq, Repr

structure EmailSyncRecord where
  email : Email
  memberships : List EmailMembership
  deriving DecidableEq, Repr

structure EmailBody where
  accountKey : String
  emailJmapId : String
  text : Option String
  html : Option String
  deriving DecidableEq, Repr

structure AttachmentRef where
  accountKey : String
  emailJmapId : String
  partId : String
  blobId : String
  name : Option String
  mediaType : String
  size : UInt64
  disposition : Option String
  cid : Option String
  deriving DecidableEq, Repr

structure MailboxViewSpec where
  accountKey : String
  mailboxJmapId : String
  filterKind : String
  sortProperty : String
  sortDirection : String
  deriving DecidableEq, Repr

structure CoverageRange where
  start : UInt64
  endExclusive : UInt64
  deriving DecidableEq, Repr

structure ViewItem where
  position : UInt64
  emailJmapId : String
  deriving DecidableEq, Repr

structure MailboxView where
  spec : MailboxViewSpec
  queryState : String
  total : UInt64
  coverage : List CoverageRange
  items : List ViewItem
  deriving DecidableEq, Repr

inductive CollectionDataType
  | email | mailbox | identity
  deriving DecidableEq, Repr

def CollectionDataType.asStr : CollectionDataType → String
  | .email => "email"
  | .mailbox => "mailbox"
  | .identity => "identity"

structure CollectionSyncCursor where
  accountKey : String
  dataType : CollectionDataType
  state : String
  deriving DecidableEq, Repr

structure SendBody where
  text : String
  html : Option String
  deriving DecidableEq, Repr

inductive SendSecurityMode
  | plain | boxplotE2eeV1
  deriving DecidableEq, Repr

structure SendIntent where
  securityMode : SendSecurityMode
  identityJmapId : String
  «from» : Address
  replyTo : List Address
  «to» : List Address
  cc : List Address
  bcc : List Address
  subject : String
  body : SendBody
  deriving DecidableEq, Repr

structure KeywordChange where
  add : Finset String
  remove : Finset String
  deriving DecidableEq

structure MembershipChange where
  add : List String
  remove : List String
  deriving DecidableEq, Repr

inductive MutationLifecycle
  | pending (attemptCount : UInt64)
  | inFlight (attemptCount : UInt64)
  | retrying (attemptCount : UInt64) (nextAttemptAt : String)
  | confirmed (attemptCount : UInt64) (confirmationEmailJmapId : Option String)
  | failedTerminal (attemptCount : UInt64)
  deriving DecidableEq, Repr

def MutationLifecycle.attemptCount : MutationLifecycle → UInt64
  | .pending n => n
  | .inFlight n => n
  | .retrying n _ => n
  | .confirmed n _ => n
  | .failedTerminal n => n

inductive MutationPayload
  | send (intent : SendIntent)
  | keyword (emailJmapId : String) (change : KeywordChange)
  | mailboxMembership (emailJmapId : String) (change : MembershipChange)
  deriving DecidableEq

structure PendingMutation where
  accountKey : String
  mutationId : String
  createdAt : String
  payload : MutationPayload
  lifecycle : MutationLifecycle
  deriving DecidableEq

/-! ## Answers of reads -/

inductive LocalEntity (α : Type)
  | absent
  | present (value : α)
  deriving DecidableEq, Repr

inductive OwnedSnapshot (α : Type)
  | ownerAbsent
  | present (value : α)
  deriving DecidableEq, Repr

inductive OwnedOptional (α : Type)
  | ownerAbsent
  | absent
  | present (value : α)
  deriving DecidableEq, Repr

inductive OwnedCache (α : Type)
  | ownerAbsent
  | notCached
  | cached (value : α)
  deriving DecidableEq, Repr

/-! ## Commits -/

inductive CursorPrecondition
  | absent
  | «matches» (cursor : CollectionSyncCursor)
  deriving DecidableEq, Repr

inductive CollectionSyncCommit
  | emailDelta (expected next : CollectionSyncCursor) (changed : List EmailSyncRecord) (destroyed : List String)
  | emailReplace (expected : CursorPrecondition) (next : CollectionSyncCursor) (snapshot : List EmailSyncRecord)
  | mailboxDelta (expected next : CollectionSyncCursor) (changed : List Mailbox) (destroyed : List String)
  | mailboxReplace (expected : CursorPrecondition) (next : CollectionSyncCursor) (snapshot : List Mailbox)
  | identityDelta (expected next : CollectionSyncCursor) (changed : List Identity) (destroyed : List String)
  | identityReplace (expected : CursorPrecondition) (next : CollectionSyncCursor) (snapshot : List Identity)
  deriving DecidableEq, Repr

namespace CollectionSyncCommit

/-- The kind the engine expects of the next cursor. -/
def kind : CollectionSyncCommit → CollectionDataType
  | .emailDelta .. | .emailReplace .. => .email
  | .mailboxDelta .. | .mailboxReplace .. => .mailbox
  | .identityDelta .. | .identityReplace .. => .identity

def next : CollectionSyncCommit → CollectionSyncCursor
  | .emailDelta _ next _ _ | .emailReplace _ next _ => next
  | .mailboxDelta _ next _ _ | .mailboxReplace _ next _ => next
  | .identityDelta _ next _ _ | .identityReplace _ next _ => next

def expected : CollectionSyncCommit → CursorPrecondition
  | .emailDelta expected _ _ _ | .mailboxDelta expected _ _ _ | .identityDelta expected _ _ _ => .matches expected
  | .emailReplace expected _ _ | .mailboxReplace expected _ _ | .identityReplace expected _ _ => expected

end CollectionSyncCommit

/-! ## Checks -/

/-- An error if the state is one that must not be. -/
def corruptIf (condition : Prop) [Decidable condition] (message : String) : PersistResult Unit :=
  if condition then .error (.corruptState message) else .ok ()

def nonEmpty (value field : String) : PersistResult Unit := corruptIf (value = "") (field ++ " must not be empty")

/-- `map_err(|_| PersistenceError::Conflict)`. -/
def orConflict {α : Type} (r : PersistResult α) : PersistResult α := r.mapError fun _ => .conflict

section
variable {condition : Prop} [Decidable condition] {message value field : String} {α : Type}

@[simp] theorem corruptIf_ok {u : Unit} : corruptIf condition message = .ok u ↔ ¬condition := by
  unfold corruptIf
  split <;> simp_all

@[simp] theorem nonEmpty_ok {u : Unit} : nonEmpty value field = .ok u ↔ value ≠ "" := corruptIf_ok

@[simp] theorem orConflict_ok {r : PersistResult α} {a : α} : orConflict r = .ok a ↔ r = .ok a := by
  cases r <;> simp [orConflict, Except.mapError]

end

def validateEmail (value : Email) : PersistResult Unit := do
  nonEmpty value.accountKey "accountKey"
  nonEmpty value.jmapId "Email id"
  nonEmpty value.blobId "Blob id"
  nonEmpty value.threadId "Thread id"
  nonEmpty value.receivedAt "receivedAt"
  corruptIf (value.sentAt = some "") "sentAt must be null or non-empty"
  corruptIf ("" ∈ value.keywords) "keyword must not be empty"
  corruptIf (value.keywords.toFinset.card ≠ value.keywords.length) "Email keywords must be unique"

def validateLifecycle : MutationLifecycle → PersistResult Unit
  | .pending attemptCount => corruptIf (attemptCount ≠ 0) "pending attemptCount must be zero"
  | lifecycle => do
    corruptIf (lifecycle.attemptCount = 0) "started attemptCount must be positive"
    match lifecycle with
    | .retrying _ nextAttemptAt => nonEmpty nextAttemptAt "nextAttemptAt"
    | _ => .ok ()

/-- Characters that would end a header. -/
def unsafeCharacter (text : String) : Bool := text.toList.any fun c => c = '\r' ∨ c = '\n' ∨ c = '\x00'

/-- The first `@` is a byte of its own: it is the first or the last byte if it is the first or the last character. -/
def validateOutboundAddress (value : Address) : PersistResult Unit :=
  match value.email.toList.findIdx? (· = '@') with
  | none => .error (.corruptState "invalid outbound address")
  | some «at» =>
    corruptIf («at» = 0 ∨ «at» = value.email.toList.length - 1 ∨ unsafeCharacter value.email ∨ value.name.any unsafeCharacter)
      "invalid outbound address"

def startsWith (text start : String) : Bool := start.toList.isPrefixOf text.toList

def validateIntent (intent : SendIntent) : PersistResult Unit := do
  nonEmpty intent.identityJmapId "Identity id"
  corruptIf (startsWith intent.from.email "*@") "wildcard Identity cannot back SendIntent"
  corruptIf (intent.to.length + intent.cc.length + intent.bcc.length = 0) "SendIntent needs an effective recipient"
  (intent.from :: (intent.replyTo ++ intent.to ++ intent.cc ++ intent.bcc)).forM validateOutboundAddress

def validatePayload (lifecycle : MutationLifecycle) : MutationPayload → PersistResult Unit
  | .send intent => do
    validateIntent intent
    match lifecycle with
    | .confirmed _ none => .error (.corruptState "confirmed send needs confirmation")
    | _ => .ok ()
  | .keyword emailJmapId change => do
    nonEmpty emailJmapId "Email id"
    corruptIf (change.add = ∅ ∧ change.remove = ∅) "empty keyword change"
    corruptIf ("" ∈ change.add ∪ change.remove) "keyword change contains empty keyword"
    corruptIf (change.add ∩ change.remove ≠ ∅) "overlapping keyword change"
    match lifecycle with
    | .confirmed _ (some _) => .error (.corruptState "email update confirmation payload forbidden")
    | _ => .ok ()
  | .mailboxMembership emailJmapId change => do
    nonEmpty emailJmapId "Email id"
    corruptIf (change.add = [] ∧ change.remove = []) "empty membership change"
    let add := change.add.toFinset
    let remove := change.remove.toFinset
    corruptIf (add.card ≠ change.add.length ∨ remove.card ≠ change.remove.length ∨ add ∩ remove ≠ ∅ ∨ "" ∈ add ∪ remove)
      "invalid mailbox membership change"

def validateMutation (value : PendingMutation) : PersistResult Unit := do
  nonEmpty value.accountKey "AccountKey"
  nonEmpty value.mutationId "MutationId"
  nonEmpty value.createdAt "createdAt"
  validateLifecycle value.lifecycle
  validatePayload value.lifecycle value.payload

def validateMailbox (v : Mailbox) : PersistResult Unit := do
  nonEmpty v.accountKey "AccountKey"
  nonEmpty v.jmapId "Mailbox id"
  nonEmpty v.name "Mailbox name"
  corruptIf (v.role = some "") "empty Mailbox role"
  corruptIf (v.parentJmapId = some v.jmapId) "self parent"
  corruptIf (v.totalEmails < v.unreadEmails) "unread exceeds total"

def asciiLowercase (text : String) : String := String.ofList (text.toList.map Char.toLower)

def validateAttachment (v : AttachmentRef) : PersistResult Unit := do
  nonEmpty v.accountKey "AccountKey"
  nonEmpty v.emailJmapId "Email id"
  nonEmpty v.blobId "Blob id"
  nonEmpty v.mediaType "mediaType"
  corruptIf (startsWith (asciiLowercase v.mediaType) "multipart/") "multipart AttachmentRef"

/-- Each range is not empty, ends within the total, and leaves a gap to the one before. -/
def validateCoverage (total : UInt64) : Option UInt64 → List CoverageRange → PersistResult Unit
  | _, [] => .ok ()
  | last, r :: rest => do
    corruptIf (r.endExclusive ≤ r.start ∨ total < r.endExclusive ∨ last.any (r.start ≤ ·)) "invalid View coverage"
    validateCoverage total (some r.endExclusive) rest

/-- `r.start..r.end_exclusive`. -/
def CoverageRange.positions (r : CoverageRange) : List Nat :=
  List.range' r.start.toNat (r.endExclusive.toNat - r.start.toNat)

def validateView (v : MailboxView) : PersistResult Unit := do
  corruptIf (v.spec.filterKind ≠ "all" ∨ v.spec.sortProperty ≠ "receivedAt" ∨
    v.spec.sortDirection ∉ ["ascending", "descending"] ∨ v.queryState = "") "invalid MailboxView spec/state"
  validateCoverage v.total none v.coverage
  corruptIf (¬(v.items.map (·.position)).IsChain (· < ·) ∨ ∃ i ∈ v.items, v.total ≤ i.position) "invalid View items"
  corruptIf (v.coverage.flatMap (·.positions) ≠ v.items.map (·.position.toNat)) "coverage/items mismatch"

end Boxplot.Persistence
