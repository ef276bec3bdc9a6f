import Boxplot.Persistence.Reads
import Boxplot.Persistence.Writes
/-!
# Accounts are isolated

A write of one account leaves the records of every other account as they were,
and with them what the reads of that account answer.
-/

namespace Boxplot.Persistence

open Lib

variable {a b : String} {db db' : Db} {j j' j'' : Journal}

/-! ## Records of an account -/

/-- The journals have the same records for the account. -/
structure AgreeFor (b : String) (j j' : Journal) : Prop where
  accounts : lastWritten j'.accounts b = lastWritten j.accounts b
  mailboxes : ∀ id, lastWritten j'.mailboxes (b, id) = lastWritten j.mailboxes (b, id)
  identities : ∀ id, lastWritten j'.identities (b, id) = lastWritten j.identities (b, id)
  emails : ∀ id, lastWritten j'.emails (b, id) = lastWritten j.emails (b, id)
  memberships : ∀ id, lastWritten j'.memberships (b, id) = lastWritten j.memberships (b, id)
  bodies : ∀ id, lastWritten j'.bodies (b, id) = lastWritten j.bodies (b, id)
  attachments : ∀ id, lastWritten j'.attachments (b, id) = lastWritten j.attachments (b, id)
  views : ∀ spec, spec.accountKey = b → lastWritten j'.views spec = lastWritten j.views spec
  cursors : ∀ dataType, lastWritten j'.cursors (b, dataType) = lastWritten j.cursors (b, dataType)
  mutations : ∀ id, lastWritten j'.mutations (b, id) = lastWritten j.mutations (b, id)

theorem AgreeFor.refl (b : String) (j : Journal) : AgreeFor b j j :=
  ⟨rfl, fun _ => rfl, fun _ => rfl, fun _ => rfl, fun _ => rfl, fun _ => rfl, fun _ => rfl, fun _ _ => rfl, fun _ => rfl, fun _ => rfl⟩

theorem AgreeFor.trans (h : AgreeFor b j j') (h' : AgreeFor b j' j'') : AgreeFor b j j'' where
  accounts := h'.accounts.trans h.accounts
  mailboxes id := (h'.mailboxes id).trans (h.mailboxes id)
  identities id := (h'.identities id).trans (h.identities id)
  emails id := (h'.emails id).trans (h.emails id)
  memberships id := (h'.memberships id).trans (h.memberships id)
  bodies id := (h'.bodies id).trans (h.bodies id)
  attachments id := (h'.attachments id).trans (h.attachments id)
  views spec hspec := (h'.views spec hspec).trans (h.views spec hspec)
  cursors dataType := (h'.cursors dataType).trans (h.cursors dataType)
  mutations id := (h'.mutations id).trans (h.mutations id)

theorem AgreeFor.foldl {α : Type} {f : Journal → α → Journal} (l : List α) (hf : ∀ x ∈ l, ∀ j, AgreeFor b j (f j x)) (j : Journal) :
    AgreeFor b j (l.foldl f j) := by
  induction l generalizing j with
  | nil => exact .refl b j
  | cons x rest ih =>
    exact (hf x List.mem_cons_self j).trans (ih (fun y hy => hf y (List.mem_cons_of_mem _ hy)) (f j x))

/-! ## What the account's writes record -/

section
variable {K V : Type} [DecidableEq K] {history : List (JournalEntry K V)} {key k : K} {v : V}

theorem lastWritten_wrote_ne (h : k ≠ key) : lastWritten (.wrote key v :: history) k = lastWritten history k := by
  rw [lastWritten_wrote, if_neg h]

theorem lastWritten_removed_ne {keys : K → Bool} (h : keys k = false) :
    lastWritten (.removed keys :: history) k = lastWritten history k := by
  rw [lastWritten_removed, h, if_neg Bool.false_ne_true]

end

theorem key_ne (hab : a ≠ b) (id id' : String) : (b, id) ≠ (a, id') := fun h => hab (congrArg Prod.fst h).symm

theorem agreeFor_wroteMailbox {v : Mailbox} (hv : v.accountKey ≠ b) (j : Journal) : AgreeFor b j (j.wroteMailbox v) :=
  { AgreeFor.refl b j with mailboxes := fun id => lastWritten_wrote_ne (key_ne hv id _) }

theorem agreeFor_wroteIdentity {v : Identity} (hv : v.accountKey ≠ b) (j : Journal) : AgreeFor b j (j.wroteIdentity v) :=
  { AgreeFor.refl b j with identities := fun id => lastWritten_wrote_ne (key_ne hv id _) }

theorem agreeFor_wroteEmail {v : Email} (hv : v.accountKey ≠ b) (j : Journal) : AgreeFor b j (j.wroteEmail v) :=
  { AgreeFor.refl b j with emails := fun id => lastWritten_wrote_ne (key_ne hv id _) }

theorem agreeFor_wroteMemberships (hab : a ≠ b) (email : String) (ids : List String) (j : Journal) :
    AgreeFor b j (j.wroteMemberships a email ids) :=
  { AgreeFor.refl b j with memberships := fun id => lastWritten_wrote_ne (key_ne hab id _) }

theorem agreeFor_wroteMutation {m : PendingMutation} (hm : m.accountKey ≠ b) (j : Journal) : AgreeFor b j (j.wroteMutation m) :=
  { AgreeFor.refl b j with mutations := fun id => lastWritten_wrote_ne (key_ne hm id _) }

theorem agreeFor_removedEmails {keys : String × String → Bool} (hkeys : ∀ id, keys (b, id) = false) (j : Journal) :
    AgreeFor b j (j.removedEmails keys) :=
  { AgreeFor.refl b j with
    emails := fun id => lastWritten_removed_ne (hkeys id)
    memberships := fun id => lastWritten_removed_ne (hkeys id)
    bodies := fun id => lastWritten_removed_ne (hkeys id)
    attachments := fun id => lastWritten_removed_ne (hkeys id) }

theorem agreeFor_removedMailboxes {keys : String × String → Bool} (hkeys : ∀ id, keys (b, id) = false) (j : Journal) :
    AgreeFor b j (j.removedMailboxes keys) :=
  { AgreeFor.refl b j with
    mailboxes := fun id => lastWritten_removed_ne (hkeys id)
    views := fun _ hspec => lastWritten_removed_ne (hspec ▸ hkeys _) }

theorem agreeFor_removedIdentities {keys : String × String → Bool} (hkeys : ∀ id, keys (b, id) = false) (j : Journal) :
    AgreeFor b j (j.removedIdentities keys) :=
  { AgreeFor.refl b j with identities := fun id => lastWritten_removed_ne (hkeys id) }

theorem agreeFor_removedMutation (hab : a ≠ b) (id : String) (j : Journal) : AgreeFor b j (j.removedMutation a id) :=
  { AgreeFor.refl b j with mutations := fun id' => lastWritten_removed_ne (decide_eq_false (key_ne hab id' id)) }

theorem agreeFor_wroteCursor (hab : a ≠ b) (kind : CollectionDataType) (state : String) (j : Journal) :
    AgreeFor b j (j.wroteCursor a kind state) :=
  { AgreeFor.refl b j with
    cursors := fun _ => lastWritten_wrote_ne fun h => hab (congrArg Prod.fst h).symm }

theorem agreeFor_wroteRecord {r : EmailSyncRecord} (hab : a ≠ b) (hr : r.email.accountKey = a) (j : Journal) :
    AgreeFor b j (j.wroteRecord a r) :=
  (agreeFor_wroteEmail (by rw [hr]; exact hab) j).trans (agreeFor_wroteMemberships hab _ _ _)

theorem emailOfRow_account {key : String × String} {r : EmailRow} {v : Email} (h : emailOfRow key r = .ok v) : v.accountKey = key.1 := by
  unfold emailOfRow at h
  simp only [except_bind_eq_ok] at h
  obtain ⟨_, -, _, -, _, -, _, -, _, -, _, -, _, -, _, -, _, -, h⟩ := h
  cases h
  rfl

theorem readRow_some {R α : Type} {ofRow : R → PersistResult α} {row : Option R} {v : α} (h : readRow ofRow row = .ok (some v)) :
    ∃ r, ofRow r = .ok v := by
  cases row with
  | none => cases h
  | some r =>
    change (ofRow r).map some = .ok (some v) at h
    cases hr : ofRow r <;> rw [hr] at h <;> cases h
    exact ⟨r, hr⟩

/-- The email that a mutation changes is one of its account. -/
theorem agreeFor_changedEmail (hj : Faithful db j) (hab : a ≠ b) (id : String) (change : KeywordChange) :
    AgreeFor b j (j.changedEmail a id change) := by
  unfold Journal.changedEmail
  split
  · rename_i email hemail
    obtain ⟨r, hr⟩ := readRow_some ((hj.emails (a, id)).trans (congrArg _ hemail))
    refine agreeFor_wroteEmail ?_ j
    change email.accountKey ≠ b
    rw [emailOfRow_account hr]
    exact hab
  · exact .refl b j

/-! ## Writes -/

theorem distinctOf_account {α : Type} {accountOf idOf : α → String} {records : List α}
    (h : distinctOf accountOf idOf a records = true) : ∀ r ∈ records, accountOf r = a := by
  intro r hr
  simpa using List.all_eq_true.1 (Bool.and_eq_true_iff.1 h).1 r hr

theorem agreeFor_applyCommit {u : Unit} {commit : CollectionSyncCommit} (hab : a ≠ b) (h : applyCommit a commit db = .ok u db')
    (j : Journal) : AgreeFor b j (j.applyCommit a commit) := by
  have hone {id : String} : ∀ id', decide ((b, id') = (a, id)) = false := fun id' => decide_eq_false (key_ne hab id' id)
  have hothers {V : Type} {history : List (JournalEntry (String × String) V)} {keep : List String} (id : String) :
      Journal.others history a keep (b, id) = false := by
    simp [Journal.others, hab.symm]
  cases commit with
  | emailDelta _ _ changed destroyed =>
    obtain ⟨_, _, hcheck, -⟩ := bind_eq_ok.1 h
    simp only [conflictUnless_ok, Bool.and_eq_true, validateEmailRecords] at hcheck
    have hrecords := distinctOf_account hcheck.1.1.1
    exact (AgreeFor.foldl _ (fun r hr => agreeFor_wroteRecord hab (hrecords r hr)) j).trans
      (AgreeFor.foldl _ (fun _ _ => agreeFor_removedEmails hone) _)
  | emailReplace _ _ snapshot =>
    obtain ⟨_, _, hcheck, -⟩ := bind_eq_ok.1 h
    simp only [conflictUnless_ok, Bool.and_eq_true, validateEmailRecords] at hcheck
    have hrecords := distinctOf_account hcheck.1.1
    exact (agreeFor_removedEmails hothers j).trans
      (AgreeFor.foldl _ (fun r hr => agreeFor_wroteRecord hab (hrecords r hr)) _)
  | mailboxDelta _ _ changed destroyed =>
    obtain ⟨_, _, hcheck, -⟩ := bind_eq_ok.1 h
    simp only [conflictUnless_ok, Bool.and_eq_true] at hcheck
    have hrecords := distinctOf_account hcheck.1.1
    exact (AgreeFor.foldl _ (fun _ _ => agreeFor_removedMailboxes hone) j).trans
      (AgreeFor.foldl _ (fun v hv => agreeFor_wroteMailbox (by rw [hrecords v hv]; exact hab)) _)
  | mailboxReplace _ _ snapshot =>
    obtain ⟨_, _, hcheck, -⟩ := bind_eq_ok.1 h
    have hrecords := distinctOf_account (conflictUnless_ok.1 hcheck).1
    exact (agreeFor_removedMailboxes hothers j).trans
      (AgreeFor.foldl _ (fun v hv => agreeFor_wroteMailbox (by rw [hrecords v hv]; exact hab)) _)
  | identityDelta _ _ changed destroyed =>
    obtain ⟨_, _, hcheck, -⟩ := bind_eq_ok.1 h
    simp only [conflictUnless_ok, Bool.and_eq_true] at hcheck
    have hrecords := distinctOf_account hcheck.1.1
    exact (AgreeFor.foldl _ (fun v hv => agreeFor_wroteIdentity (by rw [hrecords v hv]; exact hab)) j).trans
      (AgreeFor.foldl _ (fun _ _ => agreeFor_removedIdentities hone) _)
  | identityReplace _ _ snapshot =>
    obtain ⟨_, _, hcheck, -⟩ := bind_eq_ok.1 h
    have hrecords := distinctOf_account (conflictUnless_ok.1 hcheck).1
    exact (agreeFor_removedIdentities (fun id => decide_eq_false hab.symm) j).trans
      (AgreeFor.foldl _ (fun v hv => agreeFor_wroteIdentity (by rw [hrecords v hv]; exact hab)) _)

/-- A write of one account records nothing of another. -/
theorem agreeFor_record (hj : Faithful db j) {op : WriteOp} (hrun : op.run db = .ok db') (hb : op.account ≠ b) :
    AgreeFor b j (j.record op) := by
  cases op with
  | registerAccount v => exact { AgreeFor.refl b j with accounts := lastWritten_wrote_ne hb.symm }
  | applyCollectionSync commit =>
    obtain ⟨u, h⟩ := transaction_ok.1 hrun
    obtain ⟨_, _, hcheck, h⟩ := bind_eq_ok.1 h
    obtain ⟨-, rfl⟩ := conflictUnless_ok.1 hcheck
    obtain ⟨_, _, hcommit, -⟩ := bind_eq_ok.1 h
    exact (agreeFor_applyCommit hb hcommit j).trans (agreeFor_wroteCursor hb _ _ _)
  | cacheEmailBody v => exact { AgreeFor.refl b j with bodies := fun id => lastWritten_wrote_ne (key_ne hb id _) }
  | replaceAttachmentRefs a email refs =>
    exact { AgreeFor.refl b j with attachments := fun id => lastWritten_wrote_ne (key_ne hb id _) }
  | replaceMailboxView v =>
    exact { AgreeFor.refl b j with
      views := fun spec hspec => lastWritten_wrote_ne fun h => hb ((congrArg MailboxViewSpec.accountKey h).symm.trans hspec) }
  | stageSendMutation m => exact agreeFor_wroteMutation hb j
  | applyOptimisticKeywordMutation m =>
    simp only [Journal.record]
    split
    · exact (agreeFor_changedEmail hj hb _ _).trans (agreeFor_wroteMutation hb _)
    · exact .refl b j
  | applyOptimisticMailboxMembershipMutation m =>
    simp only [Journal.record]
    split
    · exact (agreeFor_wroteMemberships hb _ _ j).trans (agreeFor_wroteMutation hb _)
    · exact .refl b j
  | replacePendingMutationIfCurrent expected next =>
    simp only [WriteOp.run, Db.replacePendingMutationIfCurrent, transaction_ok, bind_eq_ok, given_ok, conflictUnless_ok, sameImmutable,
      Bool.and_eq_true, decide_eq_true_eq] at hrun
    obtain ⟨_, _, _, -, _, _, -, _, _, ⟨⟨⟨⟨⟨haccount, -⟩, -⟩, -⟩, -⟩, -⟩, -⟩ := hrun
    exact agreeFor_wroteMutation (haccount ▸ hb) j
  | removeConfirmedMutation a id => exact agreeFor_removedMutation hb id j

/-! ## Reads -/

/-- A read of an account, or of something it has. -/
inductive Read
  | account (key : String)
  | mailbox (a id : String)
  | mailboxes (a : String)
  | identity (a id : String)
  | identities (a : String)
  | email (a id : String)
  | memberships (a id : String)
  | body (a id : String)
  | attachments (a id : String)
  | view (spec : MailboxViewSpec)
  | cursor (a : String) (dataType : CollectionDataType)
  | mutation (a id : String)
  | mutations (a : String)

namespace Read

def of : Read → String
  | account key => key
  | mailbox a _ => a
  | mailboxes a => a
  | identity a _ => a
  | identities a => a
  | email a _ => a
  | memberships a _ => a
  | body a _ => a
  | attachments a _ => a
  | view spec => spec.accountKey
  | cursor a _ => a
  | mutation a _ => a
  | mutations a => a

def Answer : Read → Type
  | account _ => LocalEntity Account
  | mailbox _ _ => LocalEntity Mailbox
  | mailboxes _ => OwnedSnapshot (List Mailbox)
  | identity _ _ => LocalEntity Identity
  | identities _ => OwnedSnapshot (List Identity)
  | email _ _ => LocalEntity Email
  | memberships _ _ => OwnedSnapshot (List EmailMembership)
  | body _ _ => OwnedCache EmailBody
  | attachments _ _ => OwnedCache (List AttachmentRef)
  | view _ => OwnedCache MailboxView
  | cursor _ _ => OwnedOptional CollectionSyncCursor
  | mutation _ _ => OwnedOptional PendingMutation
  | mutations _ => OwnedSnapshot (List PendingMutation)

def answer (db : Db) : (read : Read) → PersistResult read.Answer
  | account key => db.readAccount key
  | mailbox a id => db.readMailbox a id
  | mailboxes a => db.listMailboxes a
  | identity a id => db.readIdentity a id
  | identities a => db.listIdentities a
  | email a id => db.readEmail a id
  | memberships a id => db.readEmailMemberships a id
  | body a id => db.readEmailBody a id
  | attachments a id => db.readAttachmentRefs a id
  | view spec => db.readMailboxView spec
  | cursor a dataType => db.readCollectionSyncCursor a dataType
  | mutation a id => db.readPendingMutation a id
  | mutations a => db.listPendingMutations a

end Read

/-- Lists of the same records are the same lists. -/
theorem Lists.unique {α : Type} {answer answer' : PersistResult (OwnedSnapshot (List α))} {owner owner' : Bool}
    {last last' : String → Option α} (h : Lists answer owner last) (h' : Lists answer' owner' last') (howner : owner' = owner)
    (hlast : ∀ id, last' id = last id) : answer' = answer := by
  obtain rfl := howner
  obtain rfl : last' = last := funext hlast
  unfold Lists at h h'
  cases owner' with
  | false => exact h'.trans h.symm
  | true =>
    obtain ⟨ids, hsorted, hids, hanswer⟩ := h
    obtain ⟨ids', hsorted', hids', hanswer'⟩ := h'
    have hperm : ids'.Perm ids :=
      (List.perm_ext_iff_of_nodup (hsorted'.imp ne_of_lt) (hsorted.imp ne_of_lt)).2 fun id => (hids' id).trans (hids id).symm
    have hsame : ids' = ids := hperm.eq_of_pairwise (fun _ _ _ _ hab hba => absurd (hab.trans hba) (lt_irrefl _)) hsorted' hsorted
    rw [hanswer, hanswer', hsame]

theorem AgreeFor.hasAccount (h : AgreeFor b j j') : j'.hasAccount b = j.hasAccount b := congrArg Option.isSome h.accounts

theorem AgreeFor.hasMailbox (h : AgreeFor b j j') (id : String) : j'.hasMailbox b id = j.hasMailbox b id :=
  congrArg Option.isSome (h.mailboxes id)

theorem AgreeFor.hasEmail (h : AgreeFor b j j') (id : String) : j'.hasEmail b id = j.hasEmail b id :=
  congrArg Option.isSome (h.emails id)

theorem AgreeFor.membershipsOf (h : AgreeFor b j j') (id : String) : j'.membershipsOf (b, id) = j.membershipsOf (b, id) :=
  congrArg (Option.getD · []) (h.memberships id)

theorem AgreeFor.answer_eq {read : Read} (h : AgreeFor read.of j j') (hj : Faithful db j) (hj' : Faithful db' j') :
    read.answer db' = read.answer db := by
  have hr := readsBack hj
  have hr' := readsBack hj'
  cases read with
  | account key => exact (hr'.account key).trans ((congrArg _ (congrArg _ h.accounts)).trans (hr.account key).symm)
  | mailbox a id => exact (hr'.mailbox a id).trans ((congrArg _ (congrArg _ (h.mailboxes id))).trans (hr.mailbox a id).symm)
  | identity a id => exact (hr'.identity a id).trans ((congrArg _ (congrArg _ (h.identities id))).trans (hr.identity a id).symm)
  | email a id => exact (hr'.email a id).trans ((congrArg _ (congrArg _ (h.emails id))).trans (hr.email a id).symm)
  | mailboxes a => exact (hr.mailboxes a).unique (hr'.mailboxes a) h.hasAccount h.mailboxes
  | identities a => exact (hr.identities a).unique (hr'.identities a) h.hasAccount h.identities
  | mutations a => exact (hr.mutations a).unique (hr'.mutations a) h.hasAccount h.mutations
  | memberships a id =>
    have h : AgreeFor a j j' := h
    change db'.readEmailMemberships a id = db.readEmailMemberships a id
    rw [hr'.memberships, hr.memberships, h.hasEmail, h.membershipsOf]
  | body a id =>
    have h : AgreeFor a j j' := h
    change db'.readEmailBody a id = db.readEmailBody a id
    rw [hr'.body, hr.body, h.hasEmail, h.bodies]
  | attachments a id =>
    have h : AgreeFor a j j' := h
    change db'.readAttachmentRefs a id = db.readAttachmentRefs a id
    rw [hr'.attachments, hr.attachments, h.hasEmail, h.attachments]
  | view spec =>
    have h : AgreeFor spec.accountKey j j' := h
    change db'.readMailboxView spec = db.readMailboxView spec
    rw [hr'.view, hr.view, h.hasMailbox, h.views spec rfl]
  | cursor a dataType =>
    have h : AgreeFor a j j' := h
    change db'.readCollectionSyncCursor a dataType = db.readCollectionSyncCursor a dataType
    rw [hr'.cursor, hr.cursor, h.hasAccount, h.cursors]
  | mutation a id =>
    have h : AgreeFor a j j' := h
    change db'.readPendingMutation a id = db.readPendingMutation a id
    rw [hr'.mutation, hr.mutation, h.hasAccount, h.mutations]

/-- Whatever was written before, a write leaves what the reads of other accounts answer. -/
theorem write_isolated (draws : List Int) (ops : List WriteOp) (op : WriteOp) {read : Read} (hread : read.of ≠ op.account) :
    read.answer ((runs draws ops).1.write op) = read.answer (runs draws ops).1 := by
  have hj := faithful_runs draws ops
  unfold Db.write
  cases hrun : op.run (runs draws ops).1 with
  | error e => rfl
  | ok db' => exact (agreeFor_record hj hrun hread.symm).answer_eq hj (faithful_run hj hrun)

end Boxplot.Persistence
