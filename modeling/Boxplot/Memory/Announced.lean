import Boxplot.Memory.Commits
/-!
# Writes are announced

What a commit changes is confined to what its hints name. A read that answers
differently is named by the batch, or its owner came or went and the batch
names the owner's collection.
-/

namespace Boxplot.Memory

open Domain Lib Sync Outbox MemoryState

/-! ## One collection -/

section
variable {T V Id : Type} [DecidableEq Id] {idOf : T → Id} {valueOf : T → V} {owned : Id → V → Bool}
  {entries : OrderedMap Id V} {change : CollectionChange T Id}

theorem validateChange_destroyed {accountOf : Id → AccountKey} {accountKey : AccountKey} {cursor : CollectionSyncCursor}
    {changed : List T} {destroyed : List Id} (h : validateChange idOf accountOf accountKey (.delta cursor changed destroyed) = true) :
    ∀ id ∈ destroyed, accountOf id = accountKey := by
  unfold validateChange at h
  simp only [Bool.and_eq_true, List.all_eq_true, decide_eq_true_eq] at h
  exact h.2.1.1

/-- A valid change of an account's collection leaves the entries of other accounts. -/
theorem agreeOn_commitChange {q : Id → Bool} {accountOf : Id → AccountKey} {accountKey : AccountKey}
    (hvalid : validateChange idOf accountOf accountKey change = true) (hq : ∀ id, accountOf id = accountKey → q id = false)
    (howned : entries.Holds fun id value => accountOf id ≠ accountKey → owned id value = false) :
    OrderedMap.AgreeOn q entries (commitChange idOf valueOf owned entries change) := by
  have hrecords : ∀ r ∈ change.records, q (idOf r) = false := fun r hr => hq _ (validateChange_account hvalid r hr)
  unfold commitChange
  cases change with
  | replace expected snapshot =>
    refine (OrderedMap.agreeOn_filter ?_).trans (OrderedMap.agreeOn_setAll _ _ hrecords)
    intro id value hget hid
    have hother : accountOf id ≠ accountKey := by
      intro hsame
      rw [hq id hsame] at hid
      cases hid
    rw [howned id value hget hother]
    rfl
  | delta cursor changed destroyed =>
    refine (OrderedMap.agreeOn_deleteAll _ ?_).trans (OrderedMap.agreeOn_setAll _ _ hrecords)
    intro id hid
    exact hq id (validateChange_destroyed hvalid id hid)

end

/-! ## Confined changes -/

/-- Nothing changed but what the hints of the batch name. -/
structure Confined (batch : List LocalChangeHint) (s s' : Engine) : Prop where
  accounts : .accounts ∉ batch → s'.accounts = s.accounts
  mailboxes : OrderedMap.AgreeOn (fun id => .mailboxes id.accountKey ∉ batch) s.mailboxes s'.mailboxes
  identities : OrderedMap.AgreeOn (fun id => .identities id.accountKey ∉ batch) s.identities s'.identities
  emails : OrderedMap.AgreeOn (fun id => .emails id.accountKey ∉ batch) s.emails s'.emails
  memberships : OrderedMap.AgreeOn (fun id => .emailMemberships id.accountKey ∉ batch) s.memberships s'.memberships
  bodies : OrderedMap.AgreeOn (fun id => .emailBody id ∉ batch) s.bodies s'.bodies
  attachments : OrderedMap.AgreeOn (fun id => .attachmentRefs id ∉ batch) s.attachments s'.attachments
  views : OrderedMap.AgreeOn (fun spec => .mailboxView spec ∉ batch) s.views s'.views
  cursors : OrderedMap.AgreeOn (fun key => .syncCursor key.1 key.2 ∉ batch) s.cursors s'.cursors
  mutations : OrderedMap.AgreeOn (fun key => .pendingMutations key.1 ∉ batch) s.mutations s'.mutations

variable {s s' : Engine} {batch : List LocalChangeHint}

theorem Confined.refl (batch : List LocalChangeHint) (s : Engine) : Confined batch s s :=
  ⟨fun _ => rfl, .refl _ _, .refl _ _, .refl _ _, .refl _ _, .refl _ _, .refl _ _, .refl _ _, .refl _ _, .refl _ _⟩

theorem confined_collection {commit : CollectionSyncCommit} {m : MemoryState} (hs : s.Keyed)
    (h : s.toMemoryState.applyChange commit.nextCursor.accountKey commit = .ok m) :
    Confined (SyncOperation.applyCollectionSync commit).hints s { s with
      toMemoryState := { m with cursors := m.cursors.set (commit.nextCursor.accountKey, commit.kind) commit.nextCursor } } := by
  cases commit with
  | email next change =>
    obtain ⟨hvalid, rfl⟩ := validated_ok h
    simp only [validateEmailCommit, Bool.and_eq_true] at hvalid
    refine { Confined.refl _ s with emails := ?_, memberships := ?_, cursors := ?_ }
    · refine agreeOn_commitChange hvalid.2 (fun id hid => by simp [SyncOperation.hints, hid, CollectionSyncCommit.nextCursor]) ?_
      intro id value hget hother
      simpa [hs.emails id value hget] using hother
    · refine agreeOn_commitChange hvalid.2 (fun id hid => by simp [SyncOperation.hints, hid, CollectionSyncCommit.nextCursor]) ?_
      intro id value hget hother
      -- neither its first entry nor its email is the account's
      have hentries := hs.memberships id value hget
      unfold ownedMemberships
      rw [Bool.or_eq_false_iff]
      constructor
      · cases value with
        | nil => rfl
        | cons entry rest =>
          have hentry := (hentries entry List.mem_cons_self).1
          simpa [hentry] using hother
      · cases hemail : s.emails.get? id with
        | none => rfl
        | some value => simpa [hs.emails id value hemail] using hother
    · exact OrderedMap.agreeOn_set _ _ (by simp [SyncOperation.hints, CollectionSyncCommit.nextCursor, CollectionSyncCommit.kind])
  | mailbox next change =>
    obtain ⟨hvalid, rfl⟩ := validated_ok h
    refine { Confined.refl _ s with mailboxes := ?_, cursors := ?_ }
    · refine agreeOn_commitChange hvalid (fun id hid => by simp [SyncOperation.hints, hid, CollectionSyncCommit.nextCursor]) ?_
      intro id value hget hother
      simpa [hs.mailboxes id value hget] using hother
    · exact OrderedMap.agreeOn_set _ _ (by simp [SyncOperation.hints, CollectionSyncCommit.nextCursor, CollectionSyncCommit.kind])
  | identity next change =>
    obtain ⟨hvalid, rfl⟩ := validated_ok h
    refine { Confined.refl _ s with identities := ?_, cursors := ?_ }
    · refine agreeOn_commitChange hvalid (fun id hid => by simp [SyncOperation.hints, hid, CollectionSyncCommit.nextCursor]) ?_
      intro id value hget hother
      simpa [hs.identities id value hget] using hother
    · exact OrderedMap.agreeOn_set _ _ (by simp [SyncOperation.hints, CollectionSyncCommit.nextCursor, CollectionSyncCommit.kind])

theorem Commits.published {op : SyncOperation} (h : Commits s op s') : s'.published = s.published := by
  cases h <;> rfl

/-- A commit changes what its hints name. -/
theorem Commits.confined {op : SyncOperation} (h : Commits s op s') (hs : s.Keyed) (hv : op.Valid) : Confined op.hints s s' := by
  cases h with
  | account accounts => exact { Confined.refl _ s with accounts := fun hnot => absurd (by simp [SyncOperation.hints]) hnot }
  | collection hchange => exact confined_collection hs hchange
  | body => exact { Confined.refl _ s with bodies := OrderedMap.agreeOn_set _ _ (by simp [SyncOperation.hints]) }
  | attachments copies => exact { Confined.refl _ s with attachments := OrderedMap.agreeOn_set _ _ (by simp [SyncOperation.hints]) }
  | view copy => exact { Confined.refl _ s with views := OrderedMap.agreeOn_set _ _ (by simp [SyncOperation.hints]) }
  | send => exact { Confined.refl _ s with mutations := OrderedMap.agreeOn_set _ _ (by simp [SyncOperation.hints]) }
  | keyword htarget hid =>
    exact { Confined.refl _ s with
      emails := OrderedMap.agreeOn_set _ _ (by simp [SyncOperation.hints, hv.2])
      mutations := OrderedMap.agreeOn_set _ _ (by simp [SyncOperation.hints]) }
  | membership hnext =>
    exact { Confined.refl _ s with
      memberships := OrderedMap.agreeOn_set _ _ (by simp [SyncOperation.hints, hv.2])
      mutations := OrderedMap.agreeOn_set _ _ (by simp [SyncOperation.hints]) }
  | replaced haccount hmutation =>
    exact { Confined.refl _ s with mutations := OrderedMap.agreeOn_set _ _ (by simp [SyncOperation.hints]) }
  | removed => exact { Confined.refl _ s with mutations := OrderedMap.agreeOn_delete _ (by simp [SyncOperation.hints]) }

/-! ## Reads -/

/-- A read of a collection or an entity. `readEmails` answers one of an email for each id. -/
inductive Read
  | account (accountKey : AccountKey)
  | accounts
  | mailbox (id : ScopedMailboxId)
  | mailboxes (accountKey : AccountKey)
  | identity (id : ScopedIdentityId)
  | identities (accountKey : AccountKey)
  | email (id : ScopedEmailId)
  | memberships (id : ScopedEmailId)
  | body (id : ScopedEmailId)
  | attachments (id : ScopedEmailId)
  | view (spec : MailboxViewSpec)
  | cursor (accountKey : AccountKey) (dataType : CollectionDataType)
  | mutation (accountKey : AccountKey) (mutationId : MutationId)
  | mutations (accountKey : AccountKey)
  deriving DecidableEq

namespace Read

/-- What it looks up. -/
def Value : Read → Type
  | account _ => Option Account
  | accounts => List Account
  | mailbox _ => Option Mailbox
  | mailboxes _ => List Mailbox
  | identity _ => Option Identity
  | identities _ => List Identity
  | email _ => Option Email
  | memberships _ => Option (List EmailMailbox)
  | body _ => Option EmailBody
  | attachments _ => Option (List AttachmentRef)
  | view _ => Option MailboxView
  | cursor _ _ => Option CollectionSyncCursor
  | mutation _ _ => Option PendingMutation
  | mutations _ => List PendingMutation

def value (s : Engine) : (read : Read) → read.Value
  | account accountKey => s.accounts.get? accountKey
  | accounts => s.accounts.values
  | mailbox id => s.mailboxes.get? id
  | mailboxes accountKey => s.mailboxes.values.filter (·.id.accountKey = accountKey)
  | identity id => s.identities.get? id
  | identities accountKey => s.identities.values.filter (·.id.accountKey = accountKey)
  | email id => s.emails.get? id
  | memberships id => s.memberships.get? id
  | body id => s.bodies.get? id
  | attachments id => s.attachments.get? id
  | view spec => s.views.get? spec
  | cursor accountKey dataType => s.cursors.get? (accountKey, dataType)
  | mutation accountKey mutationId => s.mutations.get? (accountKey, mutationId)
  | mutations accountKey => s.mutations.values.filter (·.accountKey = accountKey)

/-- The type of its answer. -/
def Answer : Read → Type
  | account _ => LocalEntityRead Account
  | accounts => List Account
  | mailbox _ => LocalEntityRead Mailbox
  | mailboxes _ => OwnedSnapshotRead (List Mailbox)
  | identity _ => LocalEntityRead Identity
  | identities _ => OwnedSnapshotRead (List Identity)
  | email _ => LocalEntityRead Email
  | memberships _ => OwnedSnapshotRead (List EmailMailbox)
  | body _ => OwnedCacheRead EmailBody
  | attachments _ => OwnedCacheRead (List AttachmentRef)
  | view _ => OwnedCacheRead MailboxView
  | cursor _ _ => OwnedOptionalRead CollectionSyncCursor
  | mutation _ _ => OwnedOptionalRead PendingMutation
  | mutations _ => OwnedSnapshotRead (List PendingMutation)

/-- What the repository answers. -/
def answer (s : Engine) : (read : Read) → read.Answer
  | account accountKey => s.readAccount accountKey
  | accounts => s.listAccounts
  | mailbox id => s.readMailbox id
  | mailboxes accountKey => s.listMailboxes accountKey
  | identity id => s.readIdentity id
  | identities accountKey => s.listIdentities accountKey
  | email id => s.readEmail id
  | memberships id => s.readEmailMemberships id
  | body id => s.readEmailBody id
  | attachments id => s.readAttachmentRefs id
  | view spec => s.readMailboxView spec
  | cursor accountKey dataType => s.readCollectionSyncCursor accountKey dataType
  | mutation accountKey mutationId => s.readPendingMutation accountKey mutationId
  | mutations accountKey => s.listPendingMutations accountKey

/-- The hint of its collection or entity. -/
def hint : Read → LocalChangeHint
  | account _ => .accounts
  | accounts => .accounts
  | mailbox id => .mailboxes id.accountKey
  | mailboxes accountKey => .mailboxes accountKey
  | identity id => .identities id.accountKey
  | identities accountKey => .identities accountKey
  | email id => .emails id.accountKey
  | memberships id => .emailMemberships id.accountKey
  | body id => .emailBody id
  | attachments id => .attachmentRefs id
  | view spec => .mailboxView spec
  | cursor accountKey dataType => .syncCursor accountKey dataType
  | mutation accountKey _ => .pendingMutations accountKey
  | mutations accountKey => .pendingMutations accountKey

end Read

/-- What must be there for a read to be more than `ownerAbsent`. -/
inductive Owner
  | account (accountKey : AccountKey)
  | mailbox (id : ScopedMailboxId)
  | email (id : ScopedEmailId)

namespace Owner

def present (s : Engine) : Owner → Bool
  | account accountKey => s.accounts.has accountKey
  | mailbox id => s.mailboxes.has id
  | email id => s.emails.has id

/-- The read of the owner itself. -/
def read : Owner → Read
  | account accountKey => .account accountKey
  | mailbox id => .mailbox id
  | email id => .email id

end Owner

def Read.owner : Read → Option Owner
  | mailboxes accountKey => some (.account accountKey)
  | identities accountKey => some (.account accountKey)
  | memberships id => some (.email id)
  | body id => some (.email id)
  | attachments id => some (.email id)
  | view spec => some (.mailbox spec.mailboxId)
  | cursor accountKey _ => some (.account accountKey)
  | mutation accountKey _ => some (.account accountKey)
  | mutations accountKey => some (.account accountKey)
  | _ => none

namespace Read

def present (s : Engine) (read : Read) : Bool := read.owner.all (·.present s)

/-- The answer, from whether the owner is there and what was looked up. -/
def assemble (present : Bool) : (read : Read) → read.Value → read.Answer
  | account _, value => Engine.entity value
  | accounts, value => value
  | mailbox _, value => Engine.entity value
  | mailboxes _, value => if present then .present value else .ownerAbsent
  | identity _, value => Engine.entity value
  | identities _, value => if present then .present value else .ownerAbsent
  | email _, value => Engine.entity value
  | memberships _, value => if present then .present (Option.getD value []) else .ownerAbsent
  | body _, value => Engine.ownedCache present value
  | attachments _, value => Engine.ownedCache present value
  | view _, value => Engine.ownedCache present value
  | cursor _ _, value => if present then (Option.elim value .absent .present) else .ownerAbsent
  | mutation _ _, value => if present then (Option.elim value .absent .present) else .ownerAbsent
  | mutations _, value => if present then .present value else .ownerAbsent

theorem answer_eq (s : Engine) (read : Read) : read.answer s = read.assemble (read.present s) (read.value s) := by
  cases read with
  | email id =>
    change s.readEmail id = Engine.entity (s.emails.get? id)
    unfold MemoryState.readEmail
    cases s.emails.get? id <;> rfl
  | cursor accountKey dataType =>
    change s.readCollectionSyncCursor accountKey dataType = if s.accounts.has accountKey then
      (Option.elim (s.cursors.get? (accountKey, dataType)) .absent .present) else .ownerAbsent
    unfold MemoryState.readCollectionSyncCursor MemoryState.owned
    cases s.cursors.get? (accountKey, dataType) <;> rfl
  | mutation accountKey mutationId =>
    change s.readPendingMutation accountKey mutationId = if s.accounts.has accountKey then
      (Option.elim (s.mutations.get? (accountKey, mutationId)) .absent .present) else .ownerAbsent
    unfold MemoryState.readPendingMutation MemoryState.owned
    cases s.mutations.get? (accountKey, mutationId) <;> rfl
  | _ => rfl

end Read

theorem Owner.present_congr {owner : Owner} (h : owner.read.value s' = owner.read.value s) : owner.present s' = owner.present s := by
  cases owner <;> exact congrArg Option.isSome h

/-- A read that the batch does not name looks up what it did. -/
theorem Confined.value_eq (h : Confined batch s s') (hs : s.Keyed) (hs' : s'.Keyed) {read : Read} (hread : read.hint ∉ batch) :
    read.value s' = read.value s := by
  have hfree : ∀ {hint : LocalChangeHint}, hint ∉ batch → decide (hint ∉ batch) = true := decide_eq_true
  cases read with
  | account accountKey => exact congrArg (·.get? accountKey) (h.accounts hread)
  | accounts => exact congrArg (·.values) (h.accounts hread)
  | mailbox id => exact h.mailboxes.get?_eq (hfree hread)
  | identity id => exact h.identities.get?_eq (hfree hread)
  | email id => exact h.emails.get?_eq (hfree hread)
  | memberships id => exact h.memberships.get?_eq (hfree hread)
  | body id => exact h.bodies.get?_eq (hfree hread)
  | attachments id => exact h.attachments.get?_eq (hfree hread)
  | view spec => exact h.views.get?_eq (hfree hread)
  | cursor accountKey dataType => exact h.cursors.get?_eq (hfree hread)
  | mutation accountKey mutationId => exact h.mutations.get?_eq (hfree hread)
  | mailboxes accountKey =>
    have hkept : OrderedMap.AgreeOn (fun id => id.accountKey = accountKey) s.mailboxes s'.mailboxes :=
      h.mailboxes.mono fun id hid => hfree (of_decide_eq_true hid ▸ hread)
    exact hkept.values_filter (fun id value hget => by simp only [hs.mailboxes id value hget])
      fun id value hget => by simp only [hs'.mailboxes id value hget]
  | identities accountKey =>
    have hkept : OrderedMap.AgreeOn (fun id => id.accountKey = accountKey) s.identities s'.identities :=
      h.identities.mono fun id hid => hfree (of_decide_eq_true hid ▸ hread)
    exact hkept.values_filter (fun id value hget => by simp only [hs.identities id value hget])
      fun id value hget => by simp only [hs'.identities id value hget]
  | mutations accountKey =>
    have hkept : OrderedMap.AgreeOn (fun key => key.1 = accountKey) s.mutations s'.mutations :=
      h.mutations.mono fun key hkey => hfree (of_decide_eq_true hkey ▸ hread)
    exact hkept.values_filter (fun key value hget => by simp only [← hs.mutations key value hget])
      fun key value hget => by simp only [← hs'.mutations key value hget]

/-! ## Every change is announced -/

/-- The batch names the read, or its owner came or went and the batch names the owner's collection. -/
def Covered (batch : List LocalChangeHint) (s s' : Engine) (read : Read) : Prop :=
  read.hint ∈ batch ∨ ∃ owner, read.owner = some owner ∧ owner.present s' ≠ owner.present s ∧ owner.read.hint ∈ batch

theorem Confined.covered (h : Confined batch s s') (hs : s.Keyed) (hs' : s'.Keyed) {read : Read}
    (hread : read.answer s' ≠ read.answer s) : Covered batch s s' read := by
  by_cases hint : read.hint ∈ batch
  · exact .inl hint
  · refine .inr ?_
    rw [Read.answer_eq, Read.answer_eq, h.value_eq hs hs' hint] at hread
    cases howner : read.owner with
    | none =>
      refine absurd ?_ hread
      unfold Read.present
      rw [howner]
      rfl
    | some owner =>
      have hpresent : owner.present s' ≠ owner.present s := by
        intro hsame
        apply hread
        unfold Read.present
        rw [howner, Option.all_some, Option.all_some, hsame]
      refine ⟨owner, rfl, hpresent, ?_⟩
      -- the owner's own read changed, so it is named
      by_contra hnot
      exact hpresent (Owner.present_congr (h.value_eq hs hs' hnot))

/-- The operation is all or nothing: one batch that covers every read that changed, or no batch and nothing changed. -/
def AtomicAndAnnounced (s : Engine) (op : SyncOperation) : Prop :=
  match op.run s with
  | .error _ s' => s' = s
  | .ok .conflict s' => s' = s
  | .ok .ok s' => ∃ batch, s'.published = s.published ++ [batch] ∧
      ∀ read : Read, read.answer s' ≠ read.answer s → Covered batch s s' read

theorem writes_announced {s : Engine} (h : Reachable s) {op : SyncOperation} (hv : op.Valid) : AtomicAndAnnounced s op := by
  have hs := h.keyed
  unfold AtomicAndAnnounced
  rw [op.run_eq hs]
  unfold settle
  cases hcommit : op.commit s with
  | error failure => cases failure <;> rfl
  | ok s' =>
    have hcommits := commits_of_ok hcommit
    have hs' := hcommits.keyed hs
    refine ⟨op.hints, by rw [hcommits.published], ?_⟩
    intro read hread
    exact (hcommits.confined hs hv).covered hs hs' hread

/-! ## An email that goes takes its body along -/

section
/-- An account whose one email has a cached body. -/
def letterId : ScopedEmailId := ⟨"a", "m"⟩

def letter : Email :=
  ⟨letterId, ⟨"a", "b"⟩, ⟨"a", "t"⟩, none, none, none, none, none, none, none, none, "2024-01-01T00:00:00Z", 1, "", false, []⟩

def letterCursor (state : String) : CollectionSyncCursor := ⟨"a", .email, state⟩

def cachedLetter : List SyncOperation :=
  [.registerAccount ⟨"a", ⟨"service", "remote"⟩⟩,
    .applyCollectionSync (.email (letterCursor "1") (.replace .absent [⟨letter, [⟨letterId, ⟨"a", "inbox"⟩⟩]⟩])),
    .cacheEmailBody ⟨letterId, some "text", none⟩]

def destroyLetter : SyncOperation :=
  .applyCollectionSync (.email (letterCursor "2") (.delta (letterCursor "1") [] [letterId]))

def afterAll (s : Engine) (ops : List SyncOperation) : Engine := ops.foldl (fun s op => finalState (op.run s)) s

theorem reachable_afterAll {s : Engine} (h : Reachable s) {ops : List SyncOperation} (hv : ∀ op ∈ ops, op.Valid) :
    Reachable (afterAll s ops) := by
  unfold afterAll
  induction ops generalizing s with
  | nil => exact h
  | cons op rest ih =>
    exact ih (h.step (hv op List.mem_cons_self)) fun op' hop' => hv op' (List.mem_cons_of_mem op hop')

theorem reachable_cachedLetter : Reachable (afterAll .empty cachedLetter) := by
  apply reachable_afterAll .empty
  unfold cachedLetter
  simp only [List.forall_mem_cons]
  exact ⟨trivial, trivial, trivial, by simp⟩

theorem destroyLetter_announced : AtomicAndAnnounced (afterAll .empty cachedLetter) destroyLetter :=
  writes_announced reachable_cachedLetter trivial

/-- One batch that names every read that changed. -/
def AnnouncesEach (s s' : Engine) : Prop :=
  ∃ batch, s'.published = s.published ++ [batch] ∧ ∀ read : Read, read.answer s' ≠ read.answer s → read.hint ∈ batch

/-- The body of a destroyed email is no longer answered, and no hint names it. -/
theorem destroyLetter_unnamed : ∃ s s', Reachable s ∧ destroyLetter.Valid ∧ destroyLetter.run s = .ok .ok s' ∧ ¬ AnnouncesEach s s' := by
  refine ⟨afterAll .empty cachedLetter, finalState (destroyLetter.run (afterAll .empty cachedLetter)), reachable_cachedLetter,
    trivial, ?_, ?_⟩
  · rfl
  · rintro ⟨batch, hbatch, hnamed⟩
    have hpublished : (finalState (destroyLetter.run (afterAll .empty cachedLetter))).published =
        (afterAll .empty cachedLetter).published ++ [[.emails "a", .emailMemberships "a", .syncCursor "a" .email]] := by
      decide +kernel
    have hbody : (finalState (destroyLetter.run (afterAll .empty cachedLetter))).readEmailBody letterId ≠
        (afterAll .empty cachedLetter).readEmailBody letterId := by
      decide +kernel
    rw [hpublished] at hbatch
    obtain rfl := (List.cons.inj (List.append_cancel_left hbatch)).1
    have hmem := hnamed (.body letterId) hbody
    simp [Read.hint] at hmem

end

end Boxplot.Memory
