import Boxplot.Persistence.Engine
/-!
# What a statement does

The database after each statement and each step of a transaction that goes
through.
-/

namespace Boxplot.Persistence

open Lib

variable {db db' : Db} {account id email : String} {u : Unit}

/-! ## Statements -/

theorem insertAccount_some {r : AccountRow} (h : insertAccount account r db = some db') :
    db' = { db with accounts := db.accounts.set account r } := by
  unfold insertAccount at h
  split at h
  · obtain ⟨t, ht, rfl⟩ := Option.map_eq_some_iff.1 h
    obtain ⟨-, rfl⟩ := OrderedMap.insert?_eq_some.1 ht
    rfl
  · cases h

theorem upsertMailbox_some {r : MailboxRow} (h : upsertMailbox account id r db = some db') :
    db' = { db with mailboxes := db.mailboxes.set (account, id) r } := by
  unfold upsertMailbox at h
  split at h <;> cases h
  rfl

theorem upsertIdentity_some {r : IdentityRow} (h : upsertIdentity account id r db = some db') :
    db' = { db with identities := db.identities.set (account, id) r } := by
  unfold upsertIdentity at h
  split at h <;> cases h
  rfl

/-- The index apart, only the email's row changes. -/
theorem upsertEmail_some {r : EmailRow} (h : upsertEmail account id r db = some db') :
    ∃ rowids fts draws, db' = { db with
      emails := db.emails.set (account, id) r, emailRowids := rowids, emailsFts := fts, draws := draws } := by
  unfold upsertEmail at h
  split at h
  · split at h
    · cases h
      exact ⟨_, _, _, rfl⟩
    · simp only [Option.bind_eq_bind, Option.bind_eq_some_iff] at h
      obtain ⟨_, -, _, -, h⟩ := h
      cases h
      exact ⟨_, _, _, rfl⟩
  · cases h

/-- The new memberships come to the ones that are there. -/
theorem insertMemberships_some {ids : List String} (h : insertMemberships account email ids db = some db') :
    ∃ t, OrderedMap.insertEach (G := String × String) (K := String) (fun _ id _ => hasText id) (account, email)
      db.emailMailboxes (ids.map (·, ())) = some t ∧ db' = { db with emailMailboxes := t } := by
  unfold insertMemberships at h
  split at h
  · obtain ⟨t, ht, rfl⟩ := Option.map_eq_some_iff.1 h
    exact ⟨t, ht, rfl⟩
  · cases h

theorem upsertEmailBody_some {r : EmailBodyRow} (h : upsertEmailBody account email r db = some db') :
    ∃ fts, db' = { db with emailBodies := db.emailBodies.set (account, email) r, emailsFts := fts } := by
  unfold upsertEmailBody at h
  split at h <;> cases h
  exact ⟨_, rfl⟩

theorem insertAttachmentCache_some (h : insertAttachmentCache account email db = some db') :
    db' = { db with attachmentCaches := db.attachmentCaches.set (account, email) () } := by
  unfold insertAttachmentCache at h
  split at h <;> cases h
  rfl

theorem insertAttachments_some {rows : List (String × AttachmentRow)} (h : insertAttachments account email rows db = some db') :
    ∃ t, OrderedMap.insertEach (G := String × String) (K := String) (R := AttachmentRow) (fun _ _ r => r.check) (account, email)
      db.attachmentRefs rows = some t ∧ db' = { db with attachmentRefs := t } := by
  unfold insertAttachments at h
  split at h
  · obtain ⟨t, ht, rfl⟩ := Option.map_eq_some_iff.1 h
    exact ⟨t, ht, rfl⟩
  · cases h

theorem upsertCursor_some {dataType state : String} (h : upsertCursor account dataType state db = some db') :
    db' = { db with syncCursors := db.syncCursors.set (account, dataType) state } := by
  unfold upsertCursor at h
  split at h <;> cases h
  rfl

theorem insertMutationRow_some {r : MutationRow} (h : insertMutationRow account id r db = some db') :
    db' = { db with pendingMutations := db.pendingMutations.set (account, id) r } := by
  unfold insertMutationRow at h
  split at h
  · obtain ⟨t, ht, rfl⟩ := Option.map_eq_some_iff.1 h
    obtain ⟨-, rfl⟩ := OrderedMap.insert?_eq_some.1 ht
    rfl
  · cases h

theorem upsertView_some {spec : MailboxViewSpec} {r : MailboxViewRow} (h : upsertView spec r db = some db') :
    db' = { db with mailboxViews := db.mailboxViews.set spec r } := by
  unfold upsertView at h
  split at h <;> cases h
  rfl

theorem insertCoverage_some {spec : MailboxViewSpec} {rows : List (Nat × CoverageRow)}
    (h : insertCoverage spec rows db = some db') :
    ∃ t, OrderedMap.insertEach (fun _ _ r => r.check) spec db.mailboxViewCoverage rows = some t ∧
      db' = { db with mailboxViewCoverage := t } := by
  unfold insertCoverage at h
  split at h
  · obtain ⟨t, ht, rfl⟩ := Option.map_eq_some_iff.1 h
    exact ⟨t, ht, rfl⟩
  · cases h

theorem insertItems_some {spec : MailboxViewSpec} {rows : List (Int × String)} (h : insertItems spec rows db = some db') :
    ∃ allowed t, OrderedMap.insertEach allowed spec db.mailboxViewItems rows = some t ∧
      db' = { db with mailboxViewItems := t } := by
  unfold insertItems at h
  split at h
  · obtain ⟨t, ht, rfl⟩ := Option.map_eq_some_iff.1 h
    exact ⟨_, t, ht, rfl⟩
  · cases h

/-! ## Steps -/

theorem execute_ok {s : Statement} : execute s db = .ok u db' ↔ s db = some db' := by
  unfold execute
  cases s db <;> simp

theorem query_ok {α : Type} {q : Db → PersistResult α} {a : α} : query q db = .ok a db' ↔ q db = .ok a ∧ db = db' := by
  unfold query
  cases q db <;> simp

theorem given_ok {α : Type} {r : PersistResult α} {a : α} : given r db = .ok a db' ↔ r = .ok a ∧ db = db' := query_ok

theorem conflictUnless_ok {condition : Db → Bool} : conflictUnless condition db = .ok u db' ↔ condition db = true ∧ db = db' := by
  unfold conflictUnless
  rw [query_ok]
  split <;> simp_all

theorem transaction_ok {x : Tx Unit} : transaction x db = .ok db' ↔ ∃ u, x db = .ok u db' := by
  unfold transaction
  cases x db <;> simp

end Boxplot.Persistence
