import Boxplot.Memory.Announced
/-!
# Accounts are isolated in memory

An operation of one account names that account in its hints, so the reads of
every other account answer what they did.
-/

namespace Boxplot.Memory

open Domain Lib Sync MemoryState

variable {s s' : Engine} {op : SyncOperation} {b : AccountKey}

/-! ## Accounts of operations and reads -/

def SyncOperation.account : SyncOperation → AccountKey
  | .registerAccount value => value.key
  | .applyCollectionSync commit => commit.nextCursor.accountKey
  | .cacheEmailBody body => body.emailId.accountKey
  | .replaceAttachmentRefs emailId _ => emailId.accountKey
  | .replaceMailboxView view => view.spec.mailboxId.accountKey
  | .stageSendMutation value => value.accountKey
  | .applyOptimisticKeywordMutation value _ _ => value.accountKey
  | .applyOptimisticMailboxMembershipMutation value _ _ => value.accountKey
  | .replacePendingMutationIfCurrent expected _ => expected.accountKey
  | .removeConfirmedMutation accountKey _ => accountKey

def LocalChangeHint.account : LocalChangeHint → Option AccountKey
  | .accounts => none
  | .mailboxes accountKey => some accountKey
  | .identities accountKey => some accountKey
  | .emails accountKey => some accountKey
  | .emailMemberships accountKey => some accountKey
  | .emailBody emailId => some emailId.accountKey
  | .attachmentRefs emailId => some emailId.accountKey
  | .mailboxView spec => some spec.mailboxId.accountKey
  | .syncCursor accountKey _ => some accountKey
  | .pendingMutations accountKey => some accountKey

/-- The account a read is of. The list of accounts is of none. -/
def Read.of : Read → Option AccountKey
  | .account accountKey => some accountKey
  | .accounts => none
  | .mailbox id => some id.accountKey
  | .mailboxes accountKey => some accountKey
  | .identity id => some id.accountKey
  | .identities accountKey => some accountKey
  | .email id => some id.accountKey
  | .memberships id => some id.accountKey
  | .body id => some id.accountKey
  | .attachments id => some id.accountKey
  | .view spec => some spec.mailboxId.accountKey
  | .cursor accountKey _ => some accountKey
  | .mutation accountKey _ => some accountKey
  | .mutations accountKey => some accountKey

/-- An operation's hints name its account. -/
theorem hints_account (op : SyncOperation) : ∀ hint ∈ op.hints, ∀ a, hint.account = some a → op.account = a := by
  cases op with
  | applyCollectionSync commit =>
    cases commit <;> simp [SyncOperation.hints, SyncOperation.account, LocalChangeHint.account, CollectionSyncCommit.nextCursor]
  | _ => simp [SyncOperation.hints, SyncOperation.account, LocalChangeHint.account]

/-- A read of another account is not named, unless it is the read of the account itself. -/
theorem hint_not_mem {read : Read} (hread : read.of = some b) (hb : op.account ≠ b) (haccount : read ≠ .account b) :
    read.hint ∉ op.hints := by
  intro hmem
  refine hb (hints_account op _ hmem b ?_)
  cases read with
  | account accountKey =>
    cases hread
    exact absurd rfl haccount
  | accounts => cases hread
  | _ => exact hread

/-! ## The registered accounts -/

theorem applyChange_accounts {m : MemoryState} {commit : CollectionSyncCommit} {accountKey : AccountKey}
    (h : s.toMemoryState.applyChange accountKey commit = .ok m) : m.accounts = s.accounts := by
  cases commit with
  | email next change =>
    obtain ⟨-, rfl⟩ := validated_ok h
    rfl
  | mailbox next change =>
    obtain ⟨-, rfl⟩ := validated_ok h
    rfl
  | identity next change =>
    obtain ⟨-, rfl⟩ := validated_ok h
    rfl

theorem commit_accounts (h : op.commit s = .ok s') (hb : op.account ≠ b) : s'.accounts.get? b = s.accounts.get? b := by
  cases commits_of_ok h with
  | @account value accounts =>
    obtain ⟨m, hm, heq⟩ := onMaps_ok (w := (·.registerAccount value)) h
    have haccounts : accounts = m.accounts := congrArg (fun e : Engine => e.accounts) heq
    change accounts.get? b = s.accounts.get? b
    rw [haccounts]
    unfold MemoryState.registerAccount at hm
    split at hm
    · split at hm <;> cases hm
      rfl
    · cases hm
      exact OrderedMap.get?_set_ne _ _ hb.symm
  | collection hchange =>
    have hsame := applyChange_accounts hchange
    exact congrArg (·.get? b) hsame
  | body => rfl
  | attachments => rfl
  | view => rfl
  | send => rfl
  | keyword => rfl
  | membership => rfl
  | replaced => rfl
  | removed => rfl

/-! ## Reads of other accounts -/

/-- What a committed operation of another account leaves of a read: what it looks up, and whether its owner is there. -/
theorem answer_of_commit (h : op.commit s = .ok s') (hs : s.Keyed) (hv : op.Valid) (hb : op.account ≠ b) {read : Read}
    (hread : read.of = some b) : read.answer s' = read.answer s := by
  have hcommits := commits_of_ok h
  have hconfined := hcommits.confined hs hv
  have hs' := hcommits.keyed hs
  have haccounts := commit_accounts h hb
  have hvalue {read : Read} (hread : read.of = some b) : read.value s' = read.value s := by
    by_cases haccount : read = .account b
    · rw [haccount]
      exact haccounts
    · exact hconfined.value_eq hs hs' (hint_not_mem hread hb haccount)
  have hpresent : read.present s' = read.present s := by
    unfold Read.present
    cases howner : read.owner with
    | none => rfl
    | some owner =>
      have hof : owner.read.of = some b := by
        cases read <;> cases howner <;> exact hread
      rw [Option.all_some, Option.all_some]
      exact Owner.present_congr (hvalue hof)
  rw [Read.answer_eq, Read.answer_eq, hvalue hread, hpresent]

/-- An operation leaves what the reads of other accounts answer, whether it commits, conflicts or throws. -/
theorem operation_isolated (h : Reachable s) (hv : op.Valid) {read : Read} (hread : read.of = some b) (hb : op.account ≠ b) :
    read.answer (finalState (op.run s)) = read.answer s := by
  have hs := h.keyed
  rw [op.run_eq hs]
  unfold settle
  cases hcommit : op.commit s with
  | ok s' =>
    have hanswer := answer_of_commit hcommit hs hv hb hread
    exact hanswer
  | error failure => cases failure <;> rfl

end Boxplot.Memory
