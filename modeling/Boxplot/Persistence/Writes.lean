import Boxplot.Persistence.Journal
/-!
# What the writes preserve

The statements the engine runs, and what follows for a write: it preserves
whatever its statements preserve.
-/

namespace Boxplot.Persistence

open Lib

/-- The statements on any table but the mailboxes. -/
inductive RowStatement : Statement → Prop
  | insertAccount (account : String) (r : AccountRow) : RowStatement (insertAccount account r)
  | upsertIdentity (account id : String) (r : IdentityRow) : RowStatement (upsertIdentity account id r)
  | deleteIdentity (account id : String) : RowStatement (deleteIdentity account id)
  | deleteIdentities (account : String) : RowStatement (deleteIdentities account)
  | upsertEmail (account id : String) (r : EmailRow) : RowStatement (upsertEmail account id r)
  | deleteEmail (account id : String) : RowStatement (deleteEmail account id)
  | deleteMemberships (account email : String) : RowStatement (deleteMemberships account email)
  | insertMemberships (account email : String) (ids : List String) : RowStatement (insertMemberships account email ids)
  | upsertEmailBody (account email : String) (r : EmailBodyRow) : RowStatement (upsertEmailBody account email r)
  | insertAttachmentCache (account email : String) : RowStatement (insertAttachmentCache account email)
  | deleteAttachments (account email : String) : RowStatement (deleteAttachments account email)
  | insertAttachments (account email : String) (rows : List (String × AttachmentRow)) :
      RowStatement (insertAttachments account email rows)
  | upsertCursor (account dataType state : String) : RowStatement (upsertCursor account dataType state)
  | insertMutationRow (account id : String) (r : MutationRow) : RowStatement (insertMutationRow account id r)
  | deleteMutation (account id : String) : RowStatement (deleteMutation account id)
  | upsertView (spec : MailboxViewSpec) (r : MailboxViewRow) : RowStatement (upsertView spec r)
  | deleteCoverage (spec : MailboxViewSpec) : RowStatement (deleteCoverage spec)
  | deleteItems (spec : MailboxViewSpec) : RowStatement (deleteItems spec)
  | insertCoverage (spec : MailboxViewSpec) (rows : List (Nat × CoverageRow)) : RowStatement (insertCoverage spec rows)
  | insertItems (spec : MailboxViewSpec) (rows : List (Int × String)) : RowStatement (insertItems spec rows)

/-- The statement leaves the invariant as it is, if it succeeds. -/
def Kept (I : Db → Prop) (s : Statement) : Prop := ∀ db db', I db → s db = some db' → I db'

variable {I : Db → Prop}

/-! ## Transactions -/

theorem preserves_query {α : Type} {q : Db → PersistResult α} : Preserves I (query q) := by
  intro db a db' h hrun
  obtain ⟨-, rfl⟩ := query_ok.1 hrun
  exact h

theorem preserves_execute {s : Statement} (hs : Kept I s) : Preserves I (execute s) :=
  fun db _ db' h hrun => hs db db' h (execute_ok.1 hrun)

theorem transaction_preserves {x : Tx Unit} {db db' : Db} (hx : Preserves I x) (h : I db)
    (hrun : transaction x db = .ok db') : I db' := by
  obtain ⟨u, hrun⟩ := transaction_ok.1 hrun
  exact hx db u db' h hrun

/-! ## Rows written -/

theorem preserves_writeMailbox (hupsert : ∀ account id r, Kept I (upsertMailbox account id r)) (v : Mailbox) :
    Preserves I (writeMailbox v) :=
  preserves_query.bind fun _ => preserves_query.bind fun _ => preserves_execute (hupsert _ _ _)

theorem preserves_deleteOthers {R : Type} {table : Db → OrderedMap (String × String) R}
    {delete : String → String → Statement} (hdelete : ∀ a id, Kept I (delete a id)) (a : String) (keep : List String) :
    Preserves I (deleteOthers table delete a keep) :=
  preserves_query.bind fun _ => Preserves.forM (fun _ => preserves_execute (hdelete _ _)) _

section
variable (hrow : ∀ s, RowStatement s → Kept I s)
include hrow

theorem preserves_row {s : Statement} (h : RowStatement s) : Preserves I (execute s) := preserves_execute (hrow s h)

theorem preserves_writeIdentity (v : Identity) : Preserves I (writeIdentity v) :=
  preserves_query.bind fun _ => preserves_query.bind fun _ => preserves_query.bind fun _ =>
    preserves_row hrow (.upsertIdentity _ _ _)

theorem preserves_writeEmail (v : Email) : Preserves I (writeEmail v) :=
  preserves_query.bind fun _ => preserves_query.bind fun _ => preserves_row hrow (.upsertEmail _ _ _)

theorem preserves_replaceMemberships (a email : String) (ids : List String) : Preserves I (replaceMemberships a email ids) :=
  preserves_query.bind fun _ => (preserves_row hrow (.deleteMemberships _ _)).bind fun _ =>
    preserves_row hrow (.insertMemberships _ _ _)

theorem preserves_writeView (v : MailboxView) : Preserves I (writeView v) :=
  preserves_query.bind fun _ => (preserves_row hrow (.upsertView _ _)).bind fun _ =>
    (preserves_row hrow (.deleteCoverage _)).bind fun _ => (preserves_row hrow (.deleteItems _)).bind fun _ =>
      preserves_query.bind fun _ => (preserves_row hrow (.insertCoverage _ _)).bind fun _ =>
        preserves_query.bind fun _ => preserves_row hrow (.insertItems _ _)

theorem preserves_insertMutation (m : PendingMutation) : Preserves I (insertMutation m) :=
  preserves_row hrow (.insertMutationRow _ _ _)

theorem preserves_writeRecord (a : String) (r : EmailSyncRecord) : Preserves I (writeRecord a r) :=
  (preserves_writeEmail hrow _).bind fun _ => preserves_replaceMemberships hrow _ _ _

/-! ## Collections -/

theorem preserves_applyEmailDelta (a : String) (changed : List EmailSyncRecord) (destroyed : List String) :
    Preserves I (applyEmailDelta a changed destroyed) :=
  preserves_query.bind fun _ => (Preserves.forM (preserves_writeRecord hrow a) _).bind fun _ =>
    Preserves.forM (fun _ => preserves_row hrow (.deleteEmail _ _)) _

theorem preserves_applyEmailReplace (a : String) (snapshot : List EmailSyncRecord) : Preserves I (applyEmailReplace a snapshot) :=
  preserves_query.bind fun _ => (preserves_deleteOthers (fun _ _ => hrow _ (.deleteEmail _ _)) _ _).bind fun _ =>
    Preserves.forM (preserves_writeRecord hrow a) _

theorem preserves_applyIdentityDelta (a : String) (changed : List Identity) (destroyed : List String) :
    Preserves I (applyIdentityDelta a changed destroyed) :=
  preserves_query.bind fun _ => (Preserves.forM (preserves_writeIdentity hrow) _).bind fun _ =>
    Preserves.forM (fun _ => preserves_row hrow (.deleteIdentity _ _)) _

theorem preserves_applyIdentityReplace (a : String) (snapshot : List Identity) : Preserves I (applyIdentityReplace a snapshot) :=
  preserves_query.bind fun _ => (preserves_row hrow (.deleteIdentities _)).bind fun _ =>
    Preserves.forM (preserves_writeIdentity hrow) _

/-- A commit that writes mailboxes needs the invariant to be kept by that too. -/
theorem preserves_applyCommit (hupsert : ∀ account id r, Kept I (upsertMailbox account id r))
    (hdelete : ∀ account id, Kept I (deleteMailbox account id)) (a : String) (commit : CollectionSyncCommit) :
    Preserves I (applyCommit a commit) := by
  cases commit with
  | emailDelta => exact preserves_applyEmailDelta hrow _ _ _
  | emailReplace => exact preserves_applyEmailReplace hrow _ _
  | mailboxDelta =>
    exact preserves_query.bind fun _ => (Preserves.forM (fun _ => preserves_execute (hdelete _ _)) _).bind fun _ =>
      (Preserves.forM (preserves_writeMailbox hupsert) _).bind fun _ => preserves_query
  | mailboxReplace =>
    exact preserves_query.bind fun _ => (preserves_deleteOthers hdelete _ _).bind fun _ =>
      (Preserves.forM (preserves_writeMailbox hupsert) _).bind fun _ => preserves_query
  | identityDelta => exact preserves_applyIdentityDelta hrow _ _ _
  | identityReplace => exact preserves_applyIdentityReplace hrow _ _

/-! ## Writes -/

/-- A write preserves what its statements keep. For a commit, what it does to its collection is left to the invariant. -/
theorem run_preserves {db db' : Db} {op : WriteOp}
    (hcommit : ∀ commit, op = .applyCollectionSync commit → Preserves I (applyCommit commit.next.accountKey commit))
    (h : I db) (hrun : op.run db = .ok db') : I db' := by
  cases op with
  | registerAccount account =>
    change db.registerAccount account = _ at hrun
    unfold Db.registerAccount at hrun
    simp only [except_bind_eq_ok] at hrun
    obtain ⟨_, -, _, -, _, -, hrun⟩ := hrun
    split at hrun
    · exact transaction_preserves (preserves_row hrow (.insertAccount _ _)) h hrun
    · split at hrun
      · cases hrun
        exact h
      · cases hrun
  | applyCollectionSync commit =>
    exact transaction_preserves (preserves_query.bind fun _ => (hcommit commit rfl).bind fun _ =>
      preserves_row hrow (.upsertCursor _ _ _)) h hrun
  | cacheEmailBody body =>
    exact transaction_preserves (preserves_query.bind fun _ => preserves_row hrow (.upsertEmailBody _ _ _)) h hrun
  | replaceAttachmentRefs account email refs =>
    exact transaction_preserves (preserves_query.bind fun _ => preserves_query.bind fun _ =>
      (Preserves.forM (fun _ => preserves_query) _).bind fun _ => (preserves_row hrow (.insertAttachmentCache _ _)).bind fun _ =>
        (preserves_row hrow (.deleteAttachments _ _)).bind fun _ => preserves_query.bind fun _ =>
          preserves_row hrow (.insertAttachments _ _ _)) h hrun
  | replaceMailboxView view =>
    exact transaction_preserves (preserves_query.bind fun _ => preserves_query.bind fun _ => preserves_writeView hrow view) h hrun
  | stageSendMutation m =>
    change db.stageSendMutation m = _ at hrun
    unfold Db.stageSendMutation at hrun
    split at hrun
    · exact transaction_preserves (preserves_query.bind fun _ => preserves_query.bind fun _ =>
        preserves_insertMutation hrow m) h hrun
    · cases hrun
  | applyOptimisticKeywordMutation m =>
    change db.applyOptimisticKeywordMutation m = _ at hrun
    unfold Db.applyOptimisticKeywordMutation at hrun
    split at hrun
    · refine transaction_preserves (preserves_query.bind fun _ => preserves_query.bind fun _ =>
        preserves_query.bind fun email => ?_) h hrun
      cases email with
      | none => exact preserves_throw _
      | some email => exact (preserves_writeEmail hrow _).bind fun _ => preserves_insertMutation hrow m
    · cases hrun
  | applyOptimisticMailboxMembershipMutation m =>
    change db.applyOptimisticMailboxMembershipMutation m = _ at hrun
    unfold Db.applyOptimisticMailboxMembershipMutation at hrun
    split at hrun
    · exact transaction_preserves (preserves_query.bind fun _ => preserves_query.bind fun _ => preserves_query.bind fun _ =>
        preserves_query.bind fun _ => preserves_query.bind fun _ => (preserves_replaceMemberships hrow _ _ _).bind fun _ =>
          preserves_insertMutation hrow m) h hrun
    · cases hrun
  | replacePendingMutationIfCurrent expected next =>
    exact transaction_preserves (preserves_query.bind fun _ => preserves_query.bind fun _ => preserves_query.bind fun _ =>
      preserves_query.bind fun _ => preserves_query.bind fun _ => (preserves_row hrow (.deleteMutation _ _)).bind fun _ =>
        preserves_insertMutation hrow next) h hrun
  | removeConfirmedMutation account id =>
    refine transaction_preserves (preserves_query.bind fun m => ?_) h hrun
    split
    · exact preserves_row hrow (.deleteMutation _ _)
    · exact preserves_throw _

end

/-- The database after a write, whether or not it went through. -/
def Db.write (db : Db) (op : WriteOp) : Db :=
  match op.run db with
  | .ok db' => db'
  | .error _ => db

/-- What each write that goes through preserves holds after any writes. -/
theorem writes_preserve (hstep : ∀ db db' op, I db → WriteOp.run db op = .ok db' → I db') {db : Db} (h : I db)
    (ops : List WriteOp) : I (ops.foldl Db.write db) := by
  induction ops generalizing db with
  | nil => exact h
  | cons op rest ih =>
    apply ih
    unfold Db.write
    split
    · exact hstep db _ op h ‹_›
    · exact h

end Boxplot.Persistence
