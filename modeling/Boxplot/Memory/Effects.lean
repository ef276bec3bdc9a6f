import Boxplot.Memory.SyncPort
/-!
# What a write of the memory engine does

For each write, what is there after it goes through. A write that does not go
through has no state after it.
-/

namespace Boxplot.Memory

open Domain Lib Sync MemoryState

/-! ## One collection -/

section
variable {T V Id : Type} [DecidableEq Id] {idOf : T → Id} {valueOf : T → V} {owned : Id → V → Bool}
  {entries : OrderedMap Id V} {change : CollectionChange T Id}

theorem get?_commitChange_record (hn : (change.records.map idOf).Nodup) {record : T} (h : record ∈ change.records) :
    (commitChange idOf valueOf owned entries change).get? (idOf record) = some (valueOf record) :=
  OrderedMap.get?_setAll_of_mem _ _ hn h

/-- An entry without a record goes with a replacement if it is owned, with a delta if it was destroyed. -/
theorem get?_commitChange_other {id : Id} (h : id ∉ change.records.map idOf) :
    (commitChange idOf valueOf owned entries change).get? id =
      match change with
      | .replace _ _ => (entries.get? id).filter (!owned id ·)
      | .delta _ _ destroyed => if id ∈ destroyed then none else entries.get? id := by
  unfold commitChange
  rw [OrderedMap.get?_setAll_of_notMem _ _ h]
  cases change with
  | replace expected snapshot => exact OrderedMap.get?_filter _ _ _
  | delta cursor changed destroyed => exact OrderedMap.get?_deleteAll _ _ _

theorem validateChange_nodup {accountOf : Id → AccountKey} {accountKey : AccountKey}
    (h : validateChange idOf accountOf accountKey change = true) : (change.records.map idOf).Nodup := by
  unfold validateChange at h
  simp only [Bool.and_eq_true, decide_eq_true_eq] at h
  exact h.1.2

theorem validateChange_account {accountOf : Id → AccountKey} {accountKey : AccountKey}
    (h : validateChange idOf accountOf accountKey change = true) :
    ∀ record ∈ change.records, accountOf (idOf record) = accountKey := by
  unfold validateChange at h
  simp only [Bool.and_eq_true, List.all_eq_true, decide_eq_true_eq] at h
  exact h.1.1

end

namespace MemoryState

variable {s s' : MemoryState}

theorem validated_ok {β : Type} {valid : Bool} {copies : Checked β} (h : validated valid copies s = .ok s') :
    valid = true ∧ s' = s := by
  unfold validated at h
  split at h
  · rename_i hv
    cases copies with
    | error m => cases h
    | ok v => cases h; exact ⟨hv, rfl⟩
  · cases h

/-- A commit that goes through met its precondition, changed its collection, and moved the cursor. -/
theorem applyCollectionSync_ok {commit : CollectionSyncCommit} (h : s.applyCollectionSync commit = .ok s') :
    commit.nextCursor.dataType = commit.kind ∧
      s.cursorPreconditionHolds commit.expectedCursor commit.nextCursor = true ∧
      ∃ s₁, s.applyChange commit.nextCursor.accountKey commit = .ok s₁ ∧
        s' = { s₁ with cursors := s₁.cursors.set (commit.nextCursor.accountKey, commit.kind) commit.nextCursor } := by
  simp only [applyCollectionSync] at h
  split at h
  · rename_i hc
    simp only [Bool.and_eq_true, decide_eq_true_eq] at hc
    cases ha : s.applyChange commit.nextCursor.accountKey commit with
    | error x => rw [ha] at h; cases h
    | ok s₁ =>
      rw [ha] at h
      cases h
      exact ⟨hc.1.2, hc.2, s₁, rfl, by rw [hc.1.2]⟩
  · cases h

theorem applyCollectionSync_cursors {commit : CollectionSyncCommit} (h : s.applyCollectionSync commit = .ok s') :
    s'.mutations = s.mutations ∧ s'.cursors = s.cursors.set (commit.nextCursor.accountKey, commit.kind) commit.nextCursor := by
  obtain ⟨-, -, s₁, ha, rfl⟩ := applyCollectionSync_ok h
  cases commit with
  | email next change => obtain ⟨-, rfl⟩ := validated_ok ha; exact ⟨rfl, rfl⟩
  | mailbox next change => obtain ⟨-, rfl⟩ := validated_ok ha; exact ⟨rfl, rfl⟩
  | identity next change => obtain ⟨-, rfl⟩ := validated_ok ha; exact ⟨rfl, rfl⟩

/-- The emails after a commit: another collection's leaves them. -/
theorem applyCollectionSync_emails {commit : CollectionSyncCommit} (h : s.applyCollectionSync commit = .ok s') :
    match commit with
    | .email next change => validateEmailCommit next.accountKey change = true ∧
        s'.emails = (s.commitEmails next.accountKey change).emails
    | _ => s'.emails = s.emails := by
  obtain ⟨-, -, s₁, ha, rfl⟩ := applyCollectionSync_ok h
  cases commit with
  | email next change => obtain ⟨hv, rfl⟩ := validated_ok ha; exact ⟨hv, rfl⟩
  | mailbox next change => obtain ⟨-, rfl⟩ := validated_ok ha; rfl
  | identity next change => obtain ⟨-, rfl⟩ := validated_ok ha; rfl

/-- A row after an email commit is a record's, or was there and is not dropped. -/
theorem commitEmails_row {accountKey : AccountKey} {change : CollectionChange EmailSyncRecord ScopedEmailId}
    (hv : validateEmailCommit accountKey change = true) {id : ScopedEmailId} {row : Email}
    (h : (s.commitEmails accountKey change).emails.get? id = some row) :
    (∃ record ∈ change.records, record.email = row ∧ row.id = id ∧ id.accountKey = accountKey) ∨
      id ∉ change.records.map (·.email.id) ∧ s.emails.get? id = some row ∧
        match change with
        | .replace _ _ => row.id.accountKey ≠ accountKey
        | .delta _ _ destroyed => id ∉ destroyed := by
  simp only [validateEmailCommit, Bool.and_eq_true] at hv
  by_cases hid : id ∈ change.records.map (·.email.id)
  · obtain ⟨record, hr, rfl⟩ := List.mem_map.1 hid
    have hg : (s.commitEmails accountKey change).emails.get? record.email.id = some record.email :=
      get?_commitChange_record (validateChange_nodup hv.2) hr
    obtain rfl : record.email = row := Option.some.inj (hg.symm.trans h)
    exact .inl ⟨record, hr, rfl, rfl, validateChange_account hv.2 record hr⟩
  · refine .inr ⟨hid, ?_⟩
    have hg := (get?_commitChange_other hid).symm.trans h
    cases change with
    | replace expected snapshot =>
      obtain ⟨hg, hn⟩ := Option.filter_eq_some_iff.1 hg
      exact ⟨hg, by simpa using hn⟩
    | delta cursor changed destroyed =>
      simp only at hg
      split at hg
      · cases hg
      · rename_i hd
        exact ⟨hg, hd⟩

/-! ## Mutations -/

/-- An optimistic keyword write changes the row of its email and stores the mutation. -/
theorem applyOptimisticKeywordMutation_ok {value : PendingMutation} {emailId : ScopedEmailId} {change : KeywordChange}
    (h : s.applyOptimisticKeywordMutation value emailId change = .ok s') :
    ∃ target next, s.emails.get? emailId = some target ∧ next.id = target.id ∧ s'.emails = s.emails.set emailId next ∧
      s'.mutations = s.mutations.set (value.accountKey, value.mutationId) value ∧ s'.cursors = s.cursors := by
  unfold applyOptimisticKeywordMutation at h
  split at h
  · cases h
  · rename_i target htarget
    split at h
    · cases hk : throwing (keywordSet (optimisticKeywords change target.keywords)) with
      | error x => simp [hk, bind, Except.bind] at h
      | ok keywords =>
        cases hn : throwing (email { target with keywords }) with
        | error x => simp [hk, hn, bind, Except.bind] at h
        | ok next =>
          simp only [hk, hn, bind, Except.bind, Except.ok.injEq] at h
          subst h
          exact ⟨target, next, htarget, (email_ok (mapError_eq_ok.1 hn)).1, rfl, rfl, rfl⟩
    · cases h

/-- The other writes leave the emails and the cursors alone. -/
structure MailKept (s s' : MemoryState) : Prop where
  emails : s'.emails = s.emails
  cursors : s'.cursors = s.cursors

theorem stageSendMutation_ok {value : PendingMutation} (h : s.stageSendMutation value = .ok s') :
    MailKept s s' ∧ s'.mutations = s.mutations.set (value.accountKey, value.mutationId) value := by
  unfold stageSendMutation at h
  split at h <;> cases h
  exact ⟨⟨rfl, rfl⟩, rfl⟩

theorem applyOptimisticMailboxMembershipMutation_ok {value : PendingMutation} {emailId : ScopedEmailId}
    {change : MailboxMembershipChange} (h : s.applyOptimisticMailboxMembershipMutation value emailId change = .ok s') :
    MailKept s s' ∧ s'.mutations = s.mutations.set (value.accountKey, value.mutationId) value := by
  unfold applyOptimisticMailboxMembershipMutation at h
  split at h
  · cases hn : throwing (optimisticMemberships emailId change ((s.memberships.get? emailId).getD [])) with
    | error x => simp [hn, bind, Except.bind] at h
    | ok next =>
      simp only [hn, bind, Except.bind] at h
      split at h <;> cases h
      exact ⟨⟨rfl, rfl⟩, rfl⟩
  · cases h

theorem replacePendingMutationIfCurrent_ok {expected next : PendingMutation}
    (h : s.replacePendingMutationIfCurrent expected next = .ok s') :
    MailKept s s' ∧ s'.mutations = s.mutations.set (expected.accountKey, expected.mutationId) next ∧
      ∃ current, s.mutations.get? (expected.accountKey, expected.mutationId) = some current ∧
        mutationsEqual current expected = true ∧ sameImmutableMutation expected next = true := by
  unfold replacePendingMutationIfCurrent at h
  split at h
  · cases h
  · rename_i current hcur
    split at h <;> cases h
    rename_i hc
    simp only [Bool.and_eq_true] at hc
    exact ⟨⟨rfl, rfl⟩, rfl, current, hcur, hc.1.1, hc.1.2⟩

theorem removeConfirmedMutation_ok {accountKey : AccountKey} {mutationId : MutationId}
    (h : s.removeConfirmedMutation accountKey mutationId = .ok s') :
    MailKept s s' ∧ s'.mutations = s.mutations.delete (accountKey, mutationId) := by
  unfold removeConfirmedMutation at h
  split at h <;> cases h
  exact ⟨⟨rfl, rfl⟩, rfl⟩

theorem registerAccount_ok {value : Account} (h : s.registerAccount value = .ok s') :
    MailKept s s' ∧ s'.mutations = s.mutations := by
  unfold registerAccount at h
  split at h
  · split at h <;> cases h
    exact ⟨⟨rfl, rfl⟩, rfl⟩
  · cases h; exact ⟨⟨rfl, rfl⟩, rfl⟩

end MemoryState

end Boxplot.Memory
