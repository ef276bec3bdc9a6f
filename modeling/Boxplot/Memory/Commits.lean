import Boxplot.Memory.Committed
/-!
# What the operations may commit

One inversion for all ten, and what it keeps: the entries stay under the ids
of their values in every state of an engine.
-/

namespace Boxplot.Memory

open Domain Lib Sync MemoryState

/-! ## What is committed -/

namespace MemoryState

variable {s s' : MemoryState}

theorem registerAccount_commits {value : Account} (h : s.registerAccount value = .ok s') : ∃ accounts, s' = { s with accounts } := by
  unfold registerAccount at h
  split at h
  · split at h <;> cases h
    exact ⟨s.accounts, rfl⟩
  · cases h
    exact ⟨_, rfl⟩

theorem validated_copied {β : Type} {valid : Bool} {copies : Checked β} (h : validated valid copies s = .ok s') :
    valid = true ∧ (∃ v, copies = .ok v) ∧ s' = s := by
  obtain ⟨hvalid, rfl⟩ := validated_ok h
  refine ⟨hvalid, ?_, rfl⟩
  unfold validated at h
  cases copies with
  | error m =>
    rw [hvalid] at h
    cases h
  | ok v => exact ⟨v, rfl⟩

theorem stageSendMutation_commits {value : PendingMutation} (h : s.stageSendMutation value = .ok s') : s' = s.stage value := by
  unfold stageSendMutation at h
  split at h <;> cases h
  rfl

theorem applyOptimisticKeywordMutation_commits {value : PendingMutation} {emailId : ScopedEmailId} {change : KeywordChange}
    (h : s.applyOptimisticKeywordMutation value emailId change = .ok s') :
    ∃ target next, s.emails.get? emailId = some target ∧ next.id = target.id ∧
      s' = { s with emails := s.emails.set emailId next }.stage value := by
  unfold applyOptimisticKeywordMutation at h
  split at h
  · cases h
  · rename_i target htarget
    split at h
    · simp only [except_bind_eq_ok] at h
      obtain ⟨keywords, -, next, hnext, heq⟩ := h
      cases heq
      exact ⟨target, next, htarget, (email_ok (mapError_eq_ok.1 hnext)).1, rfl⟩
    · cases h

theorem applyOptimisticMailboxMembershipMutation_commits {value : PendingMutation} {emailId : ScopedEmailId}
    {change : MailboxMembershipChange} (h : s.applyOptimisticMailboxMembershipMutation value emailId change = .ok s') :
    ∃ next, optimisticMemberships emailId change ((s.memberships.get? emailId).getD []) = .ok next ∧
      s' = { s with memberships := s.memberships.set emailId next }.stage value := by
  unfold applyOptimisticMailboxMembershipMutation at h
  split at h
  · rw [except_bind_eq_ok] at h
    obtain ⟨next, hnext, heq⟩ := h
    split at heq <;> cases heq
    exact ⟨next, mapError_eq_ok.1 hnext, rfl⟩
  · cases h

theorem replacePendingMutationIfCurrent_commits {expected next : PendingMutation}
    (h : s.replacePendingMutationIfCurrent expected next = .ok s') :
    sameImmutableMutation expected next = true ∧
      s' = { s with mutations := s.mutations.set (expected.accountKey, expected.mutationId) next } := by
  unfold replacePendingMutationIfCurrent at h
  split at h
  · cases h
  · split at h <;> cases h
    rename_i hc
    simp only [Bool.and_eq_true] at hc
    exact ⟨hc.1.2, rfl⟩

theorem removeConfirmedMutation_commits {accountKey : AccountKey} {mutationId : MutationId}
    (h : s.removeConfirmedMutation accountKey mutationId = .ok s') :
    s' = { s with mutations := s.mutations.delete (accountKey, mutationId) } := by
  unfold removeConfirmedMutation at h
  split at h <;> cases h
  rfl

/-- The next record of a mutation has its id. -/
theorem sameImmutableMutation_id {expected next : PendingMutation} (h : sameImmutableMutation expected next = true) :
    next.accountKey = expected.accountKey ∧ next.mutationId = expected.mutationId := by
  unfold sameImmutableMutation mutationsEqual at h
  simp only [Bool.and_eq_true] at h
  exact ⟨(of_decide_eq_true h.1.1.1.1).symm, (of_decide_eq_true h.1.1.1.2).symm⟩

end MemoryState

theorem onMaps_ok {w : MemoryState → Write} {s s' : Engine} (h : onMaps w s = .ok s') :
    ∃ m, w s.toMemoryState = .ok m ∧ s' = { s with toMemoryState := m } := by
  unfold onMaps at h
  cases hw : w s.toMemoryState with
  | error x =>
    rw [hw] at h
    cases h
  | ok m =>
    rw [hw] at h
    cases h
    exact ⟨m, rfl, rfl⟩

/-- What each operation may commit. -/
inductive Commits (s : Engine) : SyncOperation → Engine → Prop
  | account {value : Account} (accounts : OrderedMap AccountKey Account) :
    Commits s (.registerAccount value) { s with accounts }
  | collection {commit : CollectionSyncCommit} {m : MemoryState}
    (h : s.toMemoryState.applyChange commit.nextCursor.accountKey commit = .ok m) :
    Commits s (.applyCollectionSync commit) { s with
      toMemoryState := { m with cursors := m.cursors.set (commit.nextCursor.accountKey, commit.kind) commit.nextCursor } }
  | body {body : EmailBody} : Commits s (.cacheEmailBody body) { s with bodies := s.bodies.set body.emailId body }
  | attachments {emailId : ScopedEmailId} {refs : List AttachmentRef} (copies : List AttachmentRef) :
    Commits s (.replaceAttachmentRefs emailId refs) { s with attachments := s.attachments.set emailId copies }
  | view {view : MailboxView} (copy : MailboxView) :
    Commits s (.replaceMailboxView view) { s with views := s.views.set view.spec copy }
  | send {value : PendingMutation} : Commits s (.stageSendMutation value) { s with toMemoryState := s.stage value }
  | keyword {value : PendingMutation} {emailId : ScopedEmailId} {change : KeywordChange} {target next : Email}
    (htarget : s.emails.get? emailId = some target) (hid : next.id = target.id) :
    Commits s (.applyOptimisticKeywordMutation value emailId change) { s with
      toMemoryState := { s.toMemoryState with emails := s.emails.set emailId next }.stage value }
  | membership {value : PendingMutation} {emailId : ScopedEmailId} {change : MailboxMembershipChange} {next : List EmailMailbox}
    (h : optimisticMemberships emailId change ((s.memberships.get? emailId).getD []) = .ok next) :
    Commits s (.applyOptimisticMailboxMembershipMutation value emailId change) { s with
      toMemoryState := { s.toMemoryState with memberships := s.memberships.set emailId next }.stage value }
  | replaced {expected next : PendingMutation} (haccount : next.accountKey = expected.accountKey)
    (hmutation : next.mutationId = expected.mutationId) :
    Commits s (.replacePendingMutationIfCurrent expected next)
      { s with mutations := s.mutations.set (expected.accountKey, expected.mutationId) next }
  | removed {accountKey : AccountKey} {mutationId : MutationId} :
    Commits s (.removeConfirmedMutation accountKey mutationId) { s with mutations := s.mutations.delete (accountKey, mutationId) }

theorem commits_of_ok {s s' : Engine} {op : SyncOperation} (h : op.commit s = .ok s') : Commits s op s' := by
  cases op with
  | cacheEmailBody body =>
    dsimp only [SyncOperation.commit] at h
    split at h <;> cases h
    exact .body
  | replaceAttachmentRefs emailId refs =>
    dsimp only [SyncOperation.commit] at h
    split at h
    · cases hcopies : refs.mapM attachmentRef <;> rw [hcopies] at h <;> cases h
      exact .attachments _
    · cases h
  | replaceMailboxView view =>
    dsimp only [SyncOperation.commit] at h
    split at h
    · cases hcopy : mailboxView view <;> rw [hcopy] at h <;> cases h
      exact .view _
    · cases h
  | registerAccount value =>
    obtain ⟨m, hm, rfl⟩ := onMaps_ok (w := (·.registerAccount value)) h
    obtain ⟨accounts, rfl⟩ := registerAccount_commits hm
    exact .account accounts
  | applyCollectionSync commit =>
    obtain ⟨m, hm, rfl⟩ := onMaps_ok (w := (·.applyCollectionSync commit)) h
    obtain ⟨-, -, m₁, happly, rfl⟩ := applyCollectionSync_ok hm
    exact .collection happly
  | stageSendMutation value =>
    obtain ⟨m, hm, rfl⟩ := onMaps_ok (w := (·.stageSendMutation value)) h
    rw [stageSendMutation_commits hm]
    exact .send
  | applyOptimisticKeywordMutation value emailId change =>
    obtain ⟨m, hm, rfl⟩ := onMaps_ok (w := (·.applyOptimisticKeywordMutation value emailId change)) h
    obtain ⟨target, next, htarget, hid, rfl⟩ := applyOptimisticKeywordMutation_commits hm
    exact .keyword htarget hid
  | applyOptimisticMailboxMembershipMutation value emailId change =>
    obtain ⟨m, hm, rfl⟩ := onMaps_ok (w := (·.applyOptimisticMailboxMembershipMutation value emailId change)) h
    obtain ⟨next, hnext, rfl⟩ := applyOptimisticMailboxMembershipMutation_commits hm
    exact .membership hnext
  | replacePendingMutationIfCurrent expected next =>
    obtain ⟨m, hm, rfl⟩ := onMaps_ok (w := (·.replacePendingMutationIfCurrent expected next)) h
    obtain ⟨hsame, rfl⟩ := replacePendingMutationIfCurrent_commits hm
    obtain ⟨haccount, hmutation⟩ := sameImmutableMutation_id hsame
    exact .replaced haccount hmutation
  | removeConfirmedMutation accountKey mutationId =>
    obtain ⟨m, hm, rfl⟩ := onMaps_ok (w := (·.removeConfirmedMutation accountKey mutationId)) h
    rw [removeConfirmedMutation_commits hm]
    exact .removed

/-! ## One collection -/

section
variable {T V Id : Type} [DecidableEq Id] {idOf : T → Id} {valueOf : T → V} {owned : Id → V → Bool}
  {entries : OrderedMap Id V} {change : CollectionChange T Id}

theorem holds_commitChange {P : Id → V → Prop} (h : entries.Holds P) (hrecords : ∀ r ∈ change.records, P (idOf r) (valueOf r)) :
    (commitChange idOf valueOf owned entries change).Holds P := by
  unfold commitChange
  cases change with
  | replace expected snapshot => exact (h.filter _).setAll hrecords
  | delta cursor changed destroyed => exact (h.deleteAll destroyed).setAll hrecords

end

/-! ## Arguments -/

/-- The factories of optimistic mutations give the mutation its email, and refuse one of another account. -/
def SyncOperation.Valid : SyncOperation → Prop
  | .applyOptimisticKeywordMutation value emailId change =>
    value.payload = .keyword emailId change ∧ emailId.accountKey = value.accountKey
  | .applyOptimisticMailboxMembershipMutation value emailId change =>
    value.payload = .mailboxMembership emailId change ∧ emailId.accountKey = value.accountKey
  | _ => True

/-- The states of an engine, whether the operations are answered or throw. -/
inductive Reachable : Engine → Prop
  | empty : Reachable .empty
  | step {s : Engine} {op : SyncOperation} (h : Reachable s) (hv : op.Valid) : Reachable (finalState (op.run s))

/-! ## Entries stay under their ids -/

variable {s s' : Engine}

theorem emailMailbox_ok {emailId : ScopedEmailId} {mailboxId : ScopedMailboxId} {entry : EmailMailbox}
    (h : emailMailbox emailId mailboxId = .ok entry) : mailboxId.accountKey = emailId.accountKey := by
  unfold emailMailbox at h
  split at h
  · cases h
  · rename_i hsame
    exact (not_not.1 hsame).symm

theorem applyChange_keyed {m : MemoryState} {commit : CollectionSyncCommit} {accountKey : AccountKey} (hs : s.Keyed)
    (h : s.toMemoryState.applyChange accountKey commit = .ok m) : Engine.Keyed { s with toMemoryState := m } := by
  cases commit with
  | email next change =>
    obtain ⟨hvalid, ⟨copies, hcopies⟩, rfl⟩ := validated_copied h
    simp only [validateEmailCommit, Bool.and_eq_true, List.all_eq_true] at hvalid
    refine { hs with emails := holds_commitChange hs.emails fun r _ => rfl, memberships := ?_ }
    apply holds_commitChange hs.memberships
    intro r hr entry hentry
    -- the record names its entries' email, and copying them checks the account
    have hrecord := hvalid.1 r hr
    simp only [validateEmailRecord, Bool.and_eq_true, List.all_eq_true, decide_eq_true_eq] at hrecord
    obtain ⟨copy, -, hcopy⟩ := mem_mapM_of_mem hcopies hr
    simp only [copyRecord, except_bind_eq_ok] at hcopy
    obtain ⟨-, -, memberships, hmemberships, -⟩ := hcopy
    obtain ⟨_, -, hcopied⟩ := mem_mapM_of_mem hmemberships hentry
    have hemail := hrecord.1.2 entry hentry
    exact ⟨hemail, (emailMailbox_ok hcopied).trans (congrArg _ hemail)⟩
  | mailbox next change =>
    obtain ⟨-, -, rfl⟩ := validated_copied h
    exact { hs with mailboxes := holds_commitChange hs.mailboxes fun r _ => rfl }
  | identity next change =>
    obtain ⟨-, -, rfl⟩ := validated_copied h
    exact { hs with identities := holds_commitChange hs.identities fun r _ => rfl }

theorem stage_keyed {m : MemoryState} {value : PendingMutation} (hs : Engine.Keyed { s with toMemoryState := m }) :
    Engine.Keyed { s with toMemoryState := m.stage value } :=
  { hs with mutations := hs.mutations.set rfl }

theorem Commits.keyed {op : SyncOperation} (h : Commits s op s') (hs : s.Keyed) : s'.Keyed := by
  cases h with
  | account accounts => exact { hs with }
  | collection hchange => exact { applyChange_keyed hs hchange with }
  | body => exact { hs with }
  | attachments copies => exact { hs with }
  | view copy => exact { hs with }
  | send => exact stage_keyed hs
  | keyword htarget hid => exact stage_keyed { hs with emails := hs.emails.set (hid.trans (hs.emails _ _ htarget)) }
  | membership hnext =>
    exact stage_keyed { hs with
      memberships := hs.memberships.set (optimisticMemberships_entries (hs.current_memberships _) hnext) }
  | replaced haccount hmutation => exact { hs with mutations := hs.mutations.set (by rw [haccount, hmutation]) }
  | removed => exact { hs with mutations := hs.mutations.delete _ }

theorem settle_keyed {op : SyncOperation} (hs : s.Keyed) : (finalState (op.run s)).Keyed := by
  rw [op.run_eq hs]
  unfold settle
  cases h : op.commit s with
  | ok s' => exact { (commits_of_ok h).keyed hs with }
  | error failure => cases failure <;> exact hs

theorem Reachable.keyed (h : Reachable s) : s.Keyed := by
  induction h with
  | empty => exact Engine.empty_keyed
  | step _ _ ih => exact settle_keyed ih

end Boxplot.Memory
