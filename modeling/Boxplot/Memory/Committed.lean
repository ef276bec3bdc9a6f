import Boxplot.Memory.Engine
import Boxplot.Memory.Effects
/-!
# Writes as commits

An operation of the memory engine either commits a whole write and announces
it with one batch, or leaves everything as it was. `run_eq` is that the
statements of each operation come to this.
-/

namespace Boxplot.Memory

open Domain Lib Sync

/-! ## The state between writes -/

/-- The entries are under the ids of their values. -/
structure Engine.Keyed (s : Engine) : Prop where
  mailboxes : s.mailboxes.Holds fun id value => value.id = id
  identities : s.identities.Holds fun id value => value.id = id
  emails : s.emails.Holds fun id value => value.id = id
  memberships : s.memberships.Holds fun id value => ∀ entry ∈ value, entry.emailId = id ∧ entry.mailboxId.accountKey = id.accountKey
  mutations : s.mutations.Holds fun key value => (value.accountKey, value.mutationId) = key

theorem Engine.empty_keyed : Engine.empty.Keyed :=
  ⟨OrderedMap.holds_empty, OrderedMap.holds_empty, OrderedMap.holds_empty, OrderedMap.holds_empty, OrderedMap.holds_empty⟩

/-! ## All or nothing -/

abbrev EngineWrite := Engine → Except WriteFailure Engine

/-- The whole write and one batch, or neither. -/
def settle (write : EngineWrite) (hints : List LocalChangeHint) : EngineOp WriteResult := fun s =>
  match write s with
  | .ok s' => .ok .ok { s' with published := s'.published ++ [hints] }
  | .error .conflict => .ok .conflict s
  | .error (.thrown m) => .error m s

/-- A write of the collections and mutations. -/
def onMaps (write : MemoryState → Write) : EngineWrite := fun s =>
  (write s.toMemoryState).map fun m => { s with toMemoryState := m }

namespace SyncOperation

/-- What the operation commits, if anything. -/
def commit : SyncOperation → EngineWrite
  | .registerAccount value => onMaps (·.registerAccount value)
  | .applyCollectionSync commit => onMaps (·.applyCollectionSync commit)
  | .cacheEmailBody body => fun s =>
    if s.emails.has body.emailId then .ok { s with bodies := s.bodies.set body.emailId body } else conflict
  | .replaceAttachmentRefs emailId refs => fun s =>
    if s.emails.has emailId && refs.all (·.emailId = emailId) && (refs.map (·.partId)).Nodup then
      (throwing (refs.mapM attachmentRef)).map fun copies => { s with attachments := s.attachments.set emailId copies }
    else conflict
  | .replaceMailboxView view => fun s =>
    if s.mailboxes.has view.spec.mailboxId then
      (throwing (mailboxView view)).map fun copy => { s with views := s.views.set view.spec copy }
    else conflict
  | .stageSendMutation value => onMaps (·.stageSendMutation value)
  | .applyOptimisticKeywordMutation value emailId change => onMaps (·.applyOptimisticKeywordMutation value emailId change)
  | .applyOptimisticMailboxMembershipMutation value emailId change =>
    onMaps (·.applyOptimisticMailboxMembershipMutation value emailId change)
  | .replacePendingMutationIfCurrent expected next => onMaps (·.replacePendingMutationIfCurrent expected next)
  | .removeConfirmedMutation accountKey mutationId => onMaps (·.removeConfirmedMutation accountKey mutationId)

/-- The batch it announces. -/
def hints : SyncOperation → List LocalChangeHint
  | .registerAccount _ => [.accounts]
  | .applyCollectionSync (.email next _) =>
    [.emails next.accountKey, .emailMemberships next.accountKey, .syncCursor next.accountKey .email]
  | .applyCollectionSync (.mailbox next _) => [.mailboxes next.accountKey, .syncCursor next.accountKey .mailbox]
  | .applyCollectionSync (.identity next _) => [.identities next.accountKey, .syncCursor next.accountKey .identity]
  | .cacheEmailBody body => [.emailBody body.emailId]
  | .replaceAttachmentRefs emailId _ => [.attachmentRefs emailId]
  | .replaceMailboxView view => [.mailboxView view.spec]
  | .stageSendMutation value => [.pendingMutations value.accountKey]
  | .applyOptimisticKeywordMutation value _ _ => [.emails value.accountKey, .pendingMutations value.accountKey]
  | .applyOptimisticMailboxMembershipMutation value _ _ => [.emailMemberships value.accountKey, .pendingMutations value.accountKey]
  | .replacePendingMutationIfCurrent expected _ => [.pendingMutations expected.accountKey]
  | .removeConfirmedMutation accountKey _ => [.pendingMutations accountKey]

end SyncOperation

/-! ## The statements come to that -/

section
variable {α : Type} (s : Engine)

theorem get_bind (f : Engine → EngineOp α) : (get >>= f : EngineOp α) s = f s s := rfl

theorem cloned_bind {β : Type} (r : Checked β) (k : β → EngineOp α) :
    (cloned r >>= k : EngineOp α) s = match r with | .ok v => k v s | .error m => .error m s := by
  cases r <;> rfl

end

variable {s : Engine}

theorem registerAccount_eq (value : Account) :
    registerAccount value s = settle (onMaps (·.registerAccount value)) [.accounts] s := by
  unfold registerAccount settle onMaps MemoryState.registerAccount
  rw [get_bind]
  dsimp only
  cases s.accounts.get? value.key with
  | none => rfl
  | some current =>
    dsimp only
    split <;> rfl

/-- A guarded commit: its copies are made, then the maps and the cursor are assigned. -/
theorem commitCollection_eq {β : Type} (valid : Bool) (copies : Checked β) (commit : MemoryState → MemoryState)
    (next : CollectionSyncCursor) (hints : List LocalChangeHint) :
    commitCollection valid copies commit next hints s =
      settle (onMaps fun m => (MemoryState.validated valid copies (commit m)).map fun m =>
        { m with cursors := m.cursors.set (next.accountKey, next.dataType) next }) hints s := by
  unfold commitCollection settle onMaps MemoryState.validated
  cases valid with
  | false => rfl
  | true => cases copies <;> rfl

theorem applyCollectionSync_eq (commit : CollectionSyncCommit) :
    applyCollectionSync commit s =
      settle (onMaps (·.applyCollectionSync commit)) (SyncOperation.applyCollectionSync commit).hints s := by
  unfold applyCollectionSync
  simp only [get_bind]
  by_cases h : (s.accounts.has commit.nextCursor.accountKey && decide (commit.nextCursor.dataType = commit.kind) &&
      s.cursorPreconditionHolds commit.expectedCursor commit.nextCursor) = true
  · rw [if_pos h]
    cases commit <;>
    · dsimp only
      rw [commitCollection_eq]
      unfold settle onMaps MemoryState.applyCollectionSync
      simp only [h, if_true]
      rfl
  · rw [if_neg h]
    unfold settle onMaps MemoryState.applyCollectionSync
    simp only [h]
    rfl

theorem cacheEmailBody_eq (body : EmailBody) :
    cacheEmailBody body s = settle (SyncOperation.cacheEmailBody body).commit [.emailBody body.emailId] s := by
  unfold cacheEmailBody settle SyncOperation.commit
  rw [get_bind]
  dsimp only
  cases s.emails.has body.emailId <;> rfl

theorem replaceAttachmentRefs_eq (emailId : ScopedEmailId) (refs : List AttachmentRef) :
    replaceAttachmentRefs emailId refs s =
      settle (SyncOperation.replaceAttachmentRefs emailId refs).commit [.attachmentRefs emailId] s := by
  unfold replaceAttachmentRefs settle SyncOperation.commit
  rw [get_bind]
  dsimp only
  split
  · cases refs.mapM attachmentRef <;> rfl
  · rfl

theorem replaceMailboxView_eq (view : MailboxView) :
    replaceMailboxView view s = settle (SyncOperation.replaceMailboxView view).commit [.mailboxView view.spec] s := by
  unfold replaceMailboxView settle SyncOperation.commit
  rw [get_bind]
  dsimp only
  split
  · cases mailboxView view <;> rfl
  · rfl

theorem stageSendMutation_eq (value : PendingMutation) :
    stageSendMutation value s = settle (onMaps (·.stageSendMutation value)) [.pendingMutations value.accountKey] s := by
  unfold stageSendMutation settle onMaps MemoryState.stageSendMutation
  rw [get_bind]
  dsimp only
  cases s.mayStage value <;> rfl

theorem applyOptimisticKeywordMutation_eq (value : PendingMutation) (emailId : ScopedEmailId) (change : KeywordChange) :
    applyOptimisticKeywordMutation value emailId change s =
      settle (onMaps (·.applyOptimisticKeywordMutation value emailId change))
        [.emails value.accountKey, .pendingMutations value.accountKey] s := by
  unfold applyOptimisticKeywordMutation settle onMaps MemoryState.applyOptimisticKeywordMutation
  rw [get_bind]
  dsimp only
  cases s.emails.get? emailId with
  | none => rfl
  | some target =>
    cases s.mayStage value with
    | false => rfl
    | true =>
      simp only [if_true]
      cases hk : keywordSet (MemoryState.optimisticKeywords change target.keywords) with
      | error m => rfl
      | ok keywords =>
        rw [cloned_bind]
        dsimp only
        rw [cloned_bind]
        dsimp only [throwing, Except.mapError, bind, Except.bind]
        cases email { target with keywords } <;> rfl

/-- Copying entries that belong together gives them back. -/
theorem copied_memberships {id : ScopedEmailId} {entries : List EmailMailbox}
    (h : ∀ entry ∈ entries, entry.emailId = id ∧ entry.mailboxId.accountKey = id.accountKey) :
    (entries.mapM fun entry => emailMailbox entry.emailId entry.mailboxId) = .ok entries := by
  induction entries with
  | nil => rfl
  | cons entry rest ih =>
    obtain ⟨rfl, hm⟩ := h entry List.mem_cons_self
    have hentry : emailMailbox entry.emailId entry.mailboxId = .ok entry := if_neg fun hne => hne hm.symm
    rw [List.mapM_cons, hentry, ih fun e he => h e (List.mem_cons_of_mem entry he)]
    rfl

/-- The entries of the email, less the removed ones, and new ones. -/
theorem optimisticMemberships_entries {emailId : ScopedEmailId} {change : MailboxMembershipChange} {current next : List EmailMailbox}
    (hc : ∀ entry ∈ current, entry.emailId = emailId ∧ entry.mailboxId.accountKey = emailId.accountKey)
    (h : MemoryState.optimisticMemberships emailId change current = .ok next) :
    ∀ entry ∈ next, entry.emailId = emailId ∧ entry.mailboxId.accountKey = emailId.accountKey := by
  unfold MemoryState.optimisticMemberships at h
  have hfilter : ∀ entry ∈ current.filter fun entry => !change.remove.any (entry.mailboxId = ·),
      entry.emailId = emailId ∧ entry.mailboxId.accountKey = emailId.accountKey := by
    intro entry he
    exact hc entry (List.mem_filter.1 he).1
  generalize (current.filter fun entry => !change.remove.any (entry.mailboxId = ·)) = kept at h hfilter
  generalize change.add = added at h
  induction added generalizing kept with
  | nil =>
    cases h
    exact hfilter
  | cons id rest ih =>
    rw [List.foldlM_cons, except_bind_eq_ok] at h
    obtain ⟨kept', hstep, hrest⟩ := h
    refine ih kept' ?_ hrest
    split at hstep
    · cases hstep
      exact hfilter
    · rw [except_bind_eq_ok] at hstep
      obtain ⟨entry, hentry, hadd⟩ := hstep
      cases hadd
      intro e he
      rcases List.mem_append.1 he with hold | hnew
      · exact hfilter e hold
      · -- the factory refuses a mailbox of another account
        unfold emailMailbox at hentry
        split at hentry
        · cases hentry
        · rename_i hsame
          cases hentry
          rw [List.mem_singleton.1 hnew]
          exact ⟨rfl, (not_not.1 hsame).symm⟩

theorem Engine.Keyed.current_memberships (h : s.Keyed) (emailId : ScopedEmailId) :
    ∀ entry ∈ (s.memberships.get? emailId).getD [], entry.emailId = emailId ∧ entry.mailboxId.accountKey = emailId.accountKey := by
  intro entry he
  cases hm : s.memberships.get? emailId with
  | none =>
    rw [hm] at he
    cases he
  | some entries =>
    rw [hm] at he
    exact h.memberships emailId entries hm entry he

theorem applyOptimisticMailboxMembershipMutation_eq (h : s.Keyed) (value : PendingMutation) (emailId : ScopedEmailId)
    (change : MailboxMembershipChange) :
    applyOptimisticMailboxMembershipMutation value emailId change s =
      settle (onMaps (·.applyOptimisticMailboxMembershipMutation value emailId change))
        [.emailMemberships value.accountKey, .pendingMutations value.accountKey] s := by
  unfold applyOptimisticMailboxMembershipMutation settle onMaps MemoryState.applyOptimisticMailboxMembershipMutation
  rw [get_bind]
  dsimp only
  split
  · cases hn : MemoryState.optimisticMemberships emailId change ((s.memberships.get? emailId).getD []) with
    | error m => rfl
    | ok next =>
      -- the entries are copied once more, which changes nothing
      have hcopy := copied_memberships (optimisticMemberships_entries (h.current_memberships emailId) hn)
      cases next with
      | nil => rfl
      | cons entry rest =>
        rw [cloned_bind]
        simp only [hcopy, throwing, List.isEmpty_cons]
        rfl
  · rfl

theorem replacePendingMutationIfCurrent_eq (expected next : PendingMutation) :
    replacePendingMutationIfCurrent expected next s =
      settle (onMaps (·.replacePendingMutationIfCurrent expected next)) [.pendingMutations expected.accountKey] s := by
  unfold replacePendingMutationIfCurrent settle onMaps MemoryState.replacePendingMutationIfCurrent
  rw [get_bind]
  dsimp only
  cases s.mutations.get? (expected.accountKey, expected.mutationId) with
  | none => rfl
  | some current =>
    dsimp only
    split <;> rfl

theorem removeConfirmedMutation_eq (accountKey : AccountKey) (mutationId : MutationId) :
    removeConfirmedMutation accountKey mutationId s =
      settle (onMaps (·.removeConfirmedMutation accountKey mutationId)) [.pendingMutations accountKey] s := by
  unfold removeConfirmedMutation settle onMaps MemoryState.removeConfirmedMutation
  rw [get_bind]
  dsimp only
  cases s.mutations.get? (accountKey, mutationId) with
  | none => rfl
  | some current =>
    obtain ⟨accountKey', mutationId', createdAt, payload, lifecycle⟩ := current
    cases lifecycle <;> rfl

/-- Each operation, statement by statement, commits all or nothing. -/
theorem SyncOperation.run_eq (h : s.Keyed) (op : SyncOperation) : op.run s = settle op.commit op.hints s := by
  cases op with
  | registerAccount value => exact registerAccount_eq value
  | applyCollectionSync commit => exact applyCollectionSync_eq commit
  | cacheEmailBody body => exact cacheEmailBody_eq body
  | replaceAttachmentRefs emailId refs => exact replaceAttachmentRefs_eq emailId refs
  | replaceMailboxView view => exact replaceMailboxView_eq view
  | stageSendMutation value => exact stageSendMutation_eq value
  | applyOptimisticKeywordMutation value emailId change => exact applyOptimisticKeywordMutation_eq value emailId change
  | applyOptimisticMailboxMembershipMutation value emailId change =>
    exact applyOptimisticMailboxMembershipMutation_eq h value emailId change
  | replacePendingMutationIfCurrent expected next => exact replacePendingMutationIfCurrent_eq expected next
  | removeConfirmedMutation accountKey mutationId => exact removeConfirmedMutation_eq accountKey mutationId

end Boxplot.Memory
