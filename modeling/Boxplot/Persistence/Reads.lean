import Boxplot.Persistence.FaithfulWrites
/-!
# Reads are total and return what was last written

Whatever writes ran before, no read fails: each answers with the records the
journal says were last written, and with `ownerAbsent` where the owner is gone.
-/

namespace Boxplot.Persistence

open Lib

variable {db db' : Db} {j : Journal}

/-! ## Runs -/

/-- A write that goes through keeps the rows and the journal together. -/
theorem faithful_run {op : WriteOp} (hj : Faithful db j) (h : op.run db = .ok db') : Faithful db' (j.record op) := by
  cases op with
  | registerAccount v => exact faithful_registerAccount hj h
  | applyCollectionSync commit => exact faithful_applyCollectionSync hj h
  | cacheEmailBody v => exact faithful_cacheEmailBody hj h
  | replaceAttachmentRefs a email refs => exact faithful_replaceAttachmentRefs hj h
  | replaceMailboxView v => exact faithful_replaceMailboxView hj h
  | stageSendMutation m => exact faithful_stageSendMutation hj h
  | applyOptimisticKeywordMutation m => exact faithful_applyOptimisticKeywordMutation hj h
  | applyOptimisticMailboxMembershipMutation m => exact faithful_applyOptimisticMailboxMembershipMutation hj h
  | replacePendingMutationIfCurrent expected next => exact faithful_replacePendingMutationIfCurrent hj h
  | removeConfirmedMutation a id => exact faithful_removeConfirmedMutation hj h

theorem faithful_step {s : Db × Journal} (hs : Faithful s.1 s.2) (op : WriteOp) : Faithful (step s op).1 (step s op).2 := by
  unfold step
  split
  · rename_i h
    exact faithful_run hs h
  · exact hs

theorem faithful_runs (draws : List Int) (ops : List WriteOp) : Faithful (runs draws ops).1 (runs draws ops).2 := by
  unfold runs
  generalize hs : (Db.empty draws, Journal.empty) = s
  have h : Faithful s.1 s.2 := by
    subst hs
    exact faithful_empty draws
  clear hs
  induction ops generalizing s with
  | nil => exact h
  | cons op rest ih => exact ih _ (faithful_step h op)

/-! ## Answers -/

/-- A list of the records there are, in the order of their ids, if the owner is there. -/
def Lists {α : Type} (answer : PersistResult (OwnedSnapshot (List α))) (owner : Bool) (last : String → Option α) : Prop :=
  if owner then
    ∃ ids : List String, ids.Pairwise (· < ·) ∧ (∀ id, id ∈ ids ↔ (last id).isSome) ∧ answer = .ok (.present (ids.filterMap last))
  else answer = .ok .ownerAbsent

namespace Journal

variable (j : Journal)

def hasAccount (a : String) : Bool := (lastWritten j.accounts a).isSome
def hasMailbox (a id : String) : Bool := (lastWritten j.mailboxes (a, id)).isSome
def hasEmail (a id : String) : Bool := (lastWritten j.emails (a, id)).isSome

end Journal

/-- Every read answers with what was last written. -/
structure ReadsBack (db : Db) (j : Journal) : Prop where
  account : ∀ key, db.readAccount key = .ok (Db.entityOf (lastWritten j.accounts key))
  accounts : ∃ keys : List String, keys.Nodup ∧ (∀ key, key ∈ keys ↔ j.hasAccount key) ∧
    db.listAccounts = .ok (keys.filterMap (lastWritten j.accounts))
  mailbox : ∀ a id, db.readMailbox a id = .ok (Db.entityOf (lastWritten j.mailboxes (a, id)))
  mailboxes : ∀ a, Lists (db.listMailboxes a) (j.hasAccount a) fun id => lastWritten j.mailboxes (a, id)
  identity : ∀ a id, db.readIdentity a id = .ok (Db.entityOf (lastWritten j.identities (a, id)))
  identities : ∀ a, Lists (db.listIdentities a) (j.hasAccount a) fun id => lastWritten j.identities (a, id)
  email : ∀ a id, db.readEmail a id = .ok (Db.entityOf (lastWritten j.emails (a, id)))
  emails : ∀ ids, db.readEmails ids = .ok (ids.map fun key => Db.entityOf (lastWritten j.emails key))
  memberships : ∀ a id, db.readEmailMemberships a id = .ok (
    if j.hasEmail a id then .present ((j.membershipsOf (a, id)).map fun mailbox => ⟨a, id, mailbox⟩) else .ownerAbsent)
  body : ∀ a id, db.readEmailBody a id = .ok (
    if j.hasEmail a id then Db.cacheOf (lastWritten j.bodies (a, id)) else .ownerAbsent)
  attachments : ∀ a id, db.readAttachmentRefs a id = .ok (
    if j.hasEmail a id then Db.cacheOf (lastWritten j.attachments (a, id)) else .ownerAbsent)
  view : ∀ spec, db.readMailboxView spec = .ok (
    if j.hasMailbox spec.accountKey spec.mailboxJmapId then Db.cacheOf (lastWritten j.views spec) else .ownerAbsent)
  cursor : ∀ a dataType, db.readCollectionSyncCursor a dataType = .ok (
    if j.hasAccount a then Db.optionalOf (lastWritten j.cursors (a, dataType)) else .ownerAbsent)
  mutation : ∀ a id, db.readPendingMutation a id = .ok (
    if j.hasAccount a then Db.optionalOf (lastWritten j.mutations (a, id)) else .ownerAbsent)
  mutations : ∀ a, Lists (db.listPendingMutations a) (j.hasAccount a) fun id => lastWritten j.mutations (a, id)

/-! ## Owners -/

theorem Faithful.accountExists (h : Faithful db j) (a : String) : db.accountExists a = j.hasAccount a := h.accounts.isSome a

theorem Faithful.mailboxExists (h : Faithful db j) (a id : String) : db.mailboxExists a id = j.hasMailbox a id :=
  h.mailboxes.isSome (a, id)

theorem Faithful.emailExists (h : Faithful db j) (a id : String) : db.emailExists a id = j.hasEmail a id := h.emails.isSome (a, id)

/-! ## Lists -/

section
variable {α R : Type}

/-- Nothing is missing among ids that all have a record. -/
theorem readAll_eq {ids : List String} {read : String → PersistResult (Option α)} {last : String → Option α} {missing : String}
    (hread : ∀ id, read id = .ok (last id)) (hids : ∀ id ∈ ids, (last id).isSome) :
    Db.readAll ids read missing = .ok (ids.filterMap last) := by
  unfold Db.readAll
  induction ids with
  | nil => rfl
  | cons id rest ih =>
    obtain ⟨v, hv⟩ := Option.isSome_iff_exists.1 (hids id List.mem_cons_self)
    rw [List.mapM_cons, hread, hv, ih fun id hid => hids id (List.mem_cons_of_mem _ hid), List.filterMap_cons_some hv]
    rfl

/-- The records of an account, by the ids of its rows. -/
theorem lists_select {table : OrderedMap (String × String) R} {ofRow : String × String → R → PersistResult α}
    {history : List (JournalEntry (String × String) α)} (h : Shows table.get? ofRow history) (a missing : String) (owner : Bool) :
    Lists (if owner then
        (Db.readAll ((table.select a).map (·.1)) (fun id => readRow (ofRow (a, id)) (table.get? (a, id))) missing).map .present
      else .ok .ownerAbsent) owner fun id => lastWritten history (a, id) := by
  cases owner with
  | false => exact rfl
  | true =>
    have hids : ∀ id, id ∈ (table.select a).map (·.1) ↔ (lastWritten history (a, id)).isSome := by
      intro id
      rw [← h.isSome (a, id), List.mem_map, Option.isSome_iff_exists]
      constructor
      · rintro ⟨e, he, rfl⟩
        exact ⟨e.2, OrderedMap.mem_select.1 he⟩
      · rintro ⟨r, hr⟩
        exact ⟨(id, r), OrderedMap.mem_select.2 hr, rfl⟩
    refine ⟨_, OrderedMap.keys_select table a, hids, ?_⟩
    rw [if_pos rfl, readAll_eq (fun id => h (a, id)) fun id => (hids id).1]
    rfl

end

theorem accounts_listed (h : Faithful db j) : ∃ keys : List String, keys.Nodup ∧ (∀ key, key ∈ keys ↔ j.hasAccount key) ∧
    db.listAccounts = .ok (keys.filterMap (lastWritten j.accounts)) := by
  have hmem : ∀ e ∈ db.accounts.entries, lastWritten j.accounts e.1 = some ⟨e.1, e.2.serviceKey, e.2.jmapAccountId⟩ := by
    intro e he
    have hkey := h.accounts e.1
    rw [OrderedMap.get?_eq_some.2 he] at hkey
    exact (Except.ok.inj hkey).symm
  refine ⟨db.accounts.entries.map (·.1), db.accounts.nodup, fun key => ?_, ?_⟩
  · rw [← h.accountExists, Db.accountExists, OrderedMap.has, Option.isSome_iff_exists, List.mem_map]
    constructor
    · rintro ⟨e, he, rfl⟩
      exact ⟨e.2, OrderedMap.get?_eq_some.2 he⟩
    · rintro ⟨r, hr⟩
      exact ⟨(key, r), OrderedMap.get?_eq_some.1 hr, rfl⟩
  · unfold Db.listAccounts
    generalize db.accounts.entries = entries at hmem
    induction entries with
    | nil => rfl
    | cons e rest ih =>
      rw [List.mapM_cons, ih fun e he => hmem e (List.mem_cons_of_mem _ he), List.map_cons,
        List.filterMap_cons_some (hmem e List.mem_cons_self)]
      rfl

/-! ## Every read -/

theorem readsBack (h : Faithful db j) : ReadsBack db j where
  account key := by rw [Db.readAccount, Db.readAccountRow, h.accounts key]; rfl
  accounts := accounts_listed h
  mailbox a id := by rw [Db.readMailbox, Db.readMailboxRow, h.mailboxes (a, id)]; rfl
  mailboxes a := h.accountExists a ▸ lists_select h.mailboxes a _ (db.accountExists a)
  identity a id := by rw [Db.readIdentity, Db.readIdentityRow, h.identities (a, id)]; rfl
  identities a := h.accountExists a ▸ lists_select h.identities a _ (db.accountExists a)
  email a id := by rw [Db.readEmail, Db.readEmailRow, h.emails (a, id)]; rfl
  emails ids := by
    refine mapM_eq_ok.2 (List.forall₂_map_right_iff.2 (List.forall₂_same.2 fun key _ => ?_))
    rw [Db.readEmail, Db.readEmailRow, h.emails key]
    rfl
  memberships a id := by
    rw [Db.readEmailMemberships, h.emailExists, h.memberships (a, id)]
    split <;> rfl
  body a id := by
    rw [Db.readEmailBody, h.emailExists, Db.readBodyRow, h.bodies (a, id)]
    split <;> rfl
  attachments a id := by
    rw [Db.readAttachmentRefs, h.emailExists, Db.readAttachmentRows, h.attachments (a, id)]
    split <;> rfl
  view spec := by
    rw [Db.readMailboxView, h.mailboxExists, Db.readView, h.views spec]
    split <;> rfl
  cursor a dataType := by
    rw [Db.readCollectionSyncCursor, h.accountExists, Db.readCursorRow, h.cursors (a, dataType)]
    split <;> rfl
  mutation a id := by
    rw [Db.readPendingMutation, h.accountExists, Db.readMutation, h.mutations (a, id)]
    split <;> rfl
  mutations a := h.accountExists a ▸ lists_select h.mutations a _ (db.accountExists a)

/-- Whatever was written before, every read goes through, with the records last written. -/
theorem reads_return_last_written (draws : List Int) (ops : List WriteOp) :
    ReadsBack (runs draws ops).1 (runs draws ops).2 :=
  readsBack (faithful_runs draws ops)

end Boxplot.Persistence
