import Boxplot.Domain.Mutation
/-!
# Emails, sync cursors, accounts, mailboxes and identities

`src/domain/email.ts`, `mailbox.ts`, `sync-cursor.ts`, `account.ts` and
`identity.ts`. The factories check what the types cannot say.
-/

namespace Boxplot.Domain

structure ScopedThreadId where
  accountKey : AccountKey
  jmapId : String
  deriving DecidableEq, Repr

structure ScopedBlobId where
  accountKey : AccountKey
  jmapId : String
  deriving DecidableEq, Repr

abbrev EmailAddressList := Option (List EmailAddress)

structure Email where
  id : ScopedEmailId
  blobId : ScopedBlobId
  threadId : ScopedThreadId
  sender : EmailAddressList
  «from» : EmailAddressList
  replyTo : EmailAddressList
  «to» : EmailAddressList
  cc : EmailAddressList
  bcc : EmailAddressList
  subject : Option String
  sentAt : Option String
  receivedAt : String
  size : Nat
  preview : String
  hasAttachment : Bool
  keywords : List String
  deriving DecidableEq, Repr

/-- Adds to a set in insertion order. -/
def setAdd (set : List String) (value : String) : List String := if value ∈ set then set else set ++ [value]

def keywordSet (values : List String) : Checked (List String) :=
  if values.any (· = "") then .error "Keyword must not be empty" else .ok (values.foldl setAdd [])

def email (input : Email) : Checked Email := do
  if input.blobId.accountKey ≠ input.id.accountKey ∨ input.threadId.accountKey ≠ input.id.accountKey then
    .error "Email id, blobId, and threadId must belong to the same AccountKey"
  else if maxSafeInteger < input.size then .error "Email size must be a non-negative safe integer"
  else if input.receivedAt = "" then .error "Email receivedAt must not be empty"
  else if input.sentAt = some "" then .error "Email sentAt must be null or non-empty"
  else do
    let keywords ← keywordSet input.keywords
    .ok { input with keywords }

theorem mem_foldl_setAdd (values set : List String) (k : String) : k ∈ values.foldl setAdd set ↔ k ∈ set ∨ k ∈ values := by
  induction values generalizing set with
  | nil => simp
  | cons v rest ih =>
    rw [List.foldl_cons, ih, setAdd]
    split
    · rename_i hv
      simp only [List.mem_cons]
      constructor
      · rintro (h | h)
        · exact .inl h
        · exact .inr (.inr h)
      · rintro (h | rfl | h)
        · exact .inl h
        · exact .inl hv
        · exact .inr h
    · simp only [List.mem_append, List.mem_cons, List.not_mem_nil, or_false, or_assoc]

theorem keywordSet_mem {values set : List String} (h : keywordSet values = .ok set) (k : String) : k ∈ set ↔ k ∈ values := by
  unfold keywordSet at h
  split at h
  · cases h
  · cases h
    simp [mem_foldl_setAdd]

/-- What the factory makes of an email has its id and its keywords. -/
theorem email_ok {input e : Email} (h : email input = .ok e) : e.id = input.id ∧ ∀ k, k ∈ e.keywords ↔ k ∈ input.keywords := by
  unfold email at h
  repeat' split at h
  all_goals try cases h
  cases hk : keywordSet input.keywords with
  | error m => simp [hk, bind, Except.bind] at h
  | ok set =>
    simp only [hk, bind, Except.bind, Except.ok.injEq] at h
    subst h
    exact ⟨rfl, keywordSet_mem hk⟩

structure EmailMailbox where
  emailId : ScopedEmailId
  mailboxId : ScopedMailboxId
  deriving DecidableEq, Repr

def emailMailbox (emailId : ScopedEmailId) (mailboxId : ScopedMailboxId) : Checked EmailMailbox :=
  if emailId.accountKey ≠ mailboxId.accountKey then
    .error "EmailMailbox emailId and mailboxId must belong to the same AccountKey"
  else .ok ⟨emailId, mailboxId⟩

inductive CollectionDataType
  | email | mailbox | identity
  deriving DecidableEq, Repr

structure CollectionSyncCursor where
  accountKey : AccountKey
  dataType : CollectionDataType
  state : String
  deriving DecidableEq, Repr

structure RemoteAccountRef where
  serviceKey : String
  jmapAccountId : String
  deriving DecidableEq, Repr

structure Account where
  key : AccountKey
  remoteRef : RemoteAccountRef
  deriving DecidableEq, Repr

structure MailboxRights where
  mayReadItems : Bool
  mayAddItems : Bool
  mayRemoveItems : Bool
  maySetSeen : Bool
  maySetKeywords : Bool
  maySubmit : Bool
  deriving DecidableEq, Repr

structure Mailbox where
  id : ScopedMailboxId
  name : String
  parent : Option ScopedMailboxId
  role : Option String
  sortOrder : Nat
  totalEmails : Nat
  unreadEmails : Nat
  rights : MailboxRights
  deriving DecidableEq, Repr

def maxSortOrder : Nat := 2 ^ 31

def mailbox (input : Mailbox) : Checked Mailbox :=
  if input.name = "" then .error "Mailbox name must not be empty"
  else if input.parent.any (·.accountKey ≠ input.id.accountKey) then
    .error "Mailbox parent must belong to the same AccountKey"
  else if input.parent = some input.id then .error "Mailbox cannot be its own parent"
  else if input.role = some "" then .error "Mailbox role must be null or non-empty"
  else if maxSortOrder ≤ input.sortOrder then .error "Mailbox sortOrder must be an integer between 0 and 2^31 - 1"
  else if maxSafeInteger < input.totalEmails then .error "Mailbox totalEmails must be a non-negative safe integer"
  else if maxSafeInteger < input.unreadEmails then .error "Mailbox unreadEmails must be a non-negative safe integer"
  else if input.totalEmails < input.unreadEmails then .error "Mailbox unreadEmails must not exceed totalEmails"
  else .ok input

structure Identity where
  id : ScopedIdentityId
  name : String
  email : String
  replyTo : EmailAddressList
  bcc : EmailAddressList
  deriving DecidableEq, Repr

def identity (input : Identity) : Checked Identity :=
  if input.email = "" then .error "Identity email must not be empty" else .ok input

end Boxplot.Domain
