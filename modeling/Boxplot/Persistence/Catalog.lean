import Boxplot.Lib.Chain
import Boxplot.Persistence.Writes
/-!
# Mailbox catalogs without cycles

`validate_mailbox_catalog` follows the parents of each mailbox. It stops on
every catalog, and accepts those without a cycle, so after any writes the
parents of a mailbox come to an end.
-/

namespace Boxplot.Persistence

open Lib Lib.Chain

variable {db db' : Db} {a : String}

/-- The parent the account's catalog gives for an id. -/
def parentOf (db : Db) (a id : String) : Option String := (db.mailboxes.get? (a, id)).bind (·.parentJmapId)

/-- The ids of the account's mailboxes. -/
def catalog (db : Db) (a : String) : List String := (db.mailboxes.select a).map (·.1)

theorem mem_catalog {id : String} : id ∈ catalog db a ↔ (db.mailboxes.get? (a, id)).isSome := by
  unfold catalog
  rw [List.mem_map, Option.isSome_iff_exists]
  constructor
  · rintro ⟨⟨_, row⟩, hmem, rfl⟩
    exact ⟨row, OrderedMap.mem_select.1 hmem⟩
  · rintro ⟨row, hrow⟩
    exact ⟨(id, row), OrderedMap.mem_select.2 hrow, rfl⟩

theorem parentOf_none {id : String} (h : id ∉ catalog db a) : parentOf db a id = none := by
  rw [mem_catalog, Bool.not_eq_true, Option.isSome_eq_false_iff, Option.isNone_iff_eq_none] at h
  rw [parentOf, h]
  rfl

/-! ## The check -/

/-- With fuel for all keys that were not seen, `parentsEnd` is the walk: an id that is no key ends it. -/
theorem walk_parentsEnd {next : String → Option String} {keys : List String} (hkeys : ∀ id ∉ keys, next id = none) {fuel : Nat}
    {seen : List String} {current : Option String} (hnodup : seen.Nodup) (hseen : seen ⊆ keys)
    (hfuel : keys.length < fuel + seen.length) : Walk next seen current (parentsEnd next fuel seen current) := by
  induction fuel generalizing seen current with
  | zero =>
    have hle := (hnodup.subperm hseen).length_le
    omega
  | succ fuel ih =>
    cases current with
    | none => exact .ends
    | some id =>
      rw [parentsEnd]
      split
      · exact .again ‹_›
      · rename_i hid
        refine .step hid ?_
        by_cases hkey : id ∈ keys
        · refine ih (List.nodup_cons.2 ⟨hid, hnodup⟩) (List.cons_subset.2 ⟨hkey, hseen⟩) ?_
          rw [List.length_cons]
          omega
        · rw [hkeys id hkey, parentsEnd]
          exact .ends

theorem walk_catalog (db : Db) (a : String) (start : String) :
    Walk (parentOf db a) [] (some start) (parentsEnd (parentOf db a) ((db.mailboxes.select a).length + 1) [] (some start)) := by
  have hkeys : ∀ id ∉ catalog db a, parentOf db a id = none := fun _ => parentOf_none
  exact walk_parentsEnd hkeys List.nodup_nil (List.nil_subset _) (by simp [catalog])

theorem validateMailboxCatalog_eq (a : String) (db : Db) : validateMailboxCatalog a db =
    (catalog db a).all fun start => parentsEnd (parentOf db a) ((db.mailboxes.select a).length + 1) [] (some start) := by
  rw [catalog, List.all_map]
  rfl

/-- The check succeeds where no walk finds a cycle. -/
theorem validateMailboxCatalog_walks :
    validateMailboxCatalog a db = true ↔ ∀ start ∈ catalog db a, Walk (parentOf db a) [] (some start) true := by
  rw [validateMailboxCatalog_eq, List.all_eq_true]
  refine forall₂_congr fun start _ => ⟨fun h => ?_, fun h => (walk_catalog db a start).unique h⟩
  have hwalk := walk_catalog db a start
  rwa [h] at hwalk

theorem validateMailboxCatalog_iff :
    validateMailboxCatalog a db = true ↔ ∀ id ∈ catalog db a, ¬IntoCycle (parentOf db a) id := by
  rw [validateMailboxCatalog_eq, List.all_eq_true]
  exact forall₂_congr fun id _ => (walk_catalog db a id).iff_not_intoCycle

/-- In an accepted catalog the parents of any id end. -/
theorem ends_of_validate (h : validateMailboxCatalog a db = true) (id : String) : Ends (parentOf db a) id := by
  by_cases hid : id ∈ catalog db a
  · exact (validateMailboxCatalog_walks.1 h id hid).ends_of_true
  · exact ends_of_none (parentOf_none hid)

/-! ## Commits -/

/-- In each account, the parents of any id end. -/
def ParentsEnd (db : Db) : Prop := ∀ a id, Ends (parentOf db a) id

/-- The mailboxes of the other accounts are those of `before`. -/
def OthersAs (before : Db) (a : String) (db : Db) : Prop := ∀ b id, b ≠ a → parentOf db b id = parentOf before b id

theorem ParentsEnd.of_mailboxes (h : ParentsEnd db) (hsame : db'.mailboxes = db.mailboxes) : ParentsEnd db' := by
  intro a id
  have heq : parentOf db' a = parentOf db a := by
    unfold parentOf
    rw [hsame]
  rw [heq]
  exact h a id

/-- Validating one account's catalog is enough if the others' are as before. -/
theorem ParentsEnd.of_validate (h : ParentsEnd db) (hothers : OthersAs db a db') (hvalid : validateMailboxCatalog a db' = true) :
    ParentsEnd db' := by
  intro b id
  by_cases hb : b = a
  · subst hb
    exact ends_of_validate hvalid id
  · have heq : parentOf db' b = parentOf db b := funext fun id => hothers b id hb
    rw [heq]
    exact h b id

theorem RowStatement.mailboxes {s : Statement} (hs : RowStatement s) (hrun : s db = some db') : db'.mailboxes = db.mailboxes := by
  cases hs with
  | insertAccount => obtain rfl := insertAccount_some hrun; rfl
  | upsertIdentity => obtain rfl := upsertIdentity_some hrun; rfl
  | upsertEmail => obtain ⟨_, _, _, rfl⟩ := upsertEmail_some hrun; rfl
  | insertMemberships => obtain ⟨_, -, rfl⟩ := insertMemberships_some hrun; rfl
  | upsertEmailBody => obtain ⟨_, rfl⟩ := upsertEmailBody_some hrun; rfl
  | insertAttachmentCache => obtain rfl := insertAttachmentCache_some hrun; rfl
  | insertAttachments => obtain ⟨_, -, rfl⟩ := insertAttachments_some hrun; rfl
  | upsertCursor => obtain rfl := upsertCursor_some hrun; rfl
  | insertMutationRow => obtain rfl := insertMutationRow_some hrun; rfl
  | upsertView => obtain rfl := upsertView_some hrun; rfl
  | insertCoverage => obtain ⟨_, -, rfl⟩ := insertCoverage_some hrun; rfl
  | insertItems => obtain ⟨_, _, -, rfl⟩ := insertItems_some hrun; rfl
  | deleteIdentity | deleteIdentities | deleteEmail | deleteMemberships | deleteAttachments | deleteMutation | deleteCoverage
  | deleteItems =>
    cases hrun
    rfl

theorem RowStatement.parentsEnd {s : Statement} (hs : RowStatement s) : Kept ParentsEnd s :=
  fun _ _ h hrun => h.of_mailboxes (hs.mailboxes hrun)

theorem othersAs_deleteMailbox {before : Db} (id : String) : Kept (OthersAs before a) (deleteMailbox a id) := by
  intro db db' h hrun b id' hb
  cases hrun
  rw [← h b id' hb, parentOf, parentOf, OrderedMap.get?_delete, if_neg (by simp [hb])]

theorem othersAs_writeMailbox {before : Db} {v : Mailbox} (hv : v.accountKey = a) :
    Preserves (OthersAs before a) (writeMailbox v) := by
  refine preserves_query.bind fun _ => preserves_query.bind fun _ => preserves_execute ?_
  intro db db' h hrun b id hb
  obtain rfl := upsertMailbox_some hrun
  rw [← h b id hb, parentOf, parentOf, OrderedMap.get?_set_ne _ _ (by simp [hv, hb])]

/-- The mailboxes a commit writes are the account's own. -/
theorem othersAs_writeMailboxes {before : Db} {changed : List Mailbox} (h : distinctOf (·.accountKey) (·.jmapId) a changed = true) :
    Preserves (OthersAs before a) (changed.forM writeMailbox) := by
  refine Preserves.forM_of_mem fun v hv => othersAs_writeMailbox ?_
  simpa using List.all_eq_true.1 (Bool.and_eq_true_iff.1 h).1 v hv

/-- Deletions and writes of the account's mailboxes, and then the check, leave only chains that end. -/
theorem ParentsEnd.of_commit {check : Db → Bool} {deletions : Tx Unit} {changed : List Mailbox} {u : Unit}
    (hchanged : ∀ db, check db = true → distinctOf (·.accountKey) (·.jmapId) a changed = true)
    (hdelete : Preserves (OthersAs db a) deletions) (h : ParentsEnd db)
    (hrun : (do
      conflictUnless check
      deletions
      changed.forM writeMailbox
      conflictUnless (validateMailboxCatalog a)) db = .ok u db') : ParentsEnd db' := by
  obtain ⟨_, _, hfirst, hrun⟩ := bind_eq_ok.1 hrun
  obtain ⟨hcheck, rfl⟩ := conflictUnless_ok.1 hfirst
  obtain ⟨_, db₁, hdeleted, hrun⟩ := bind_eq_ok.1 hrun
  obtain ⟨_, db₂, hwritten, hrun⟩ := bind_eq_ok.1 hrun
  obtain ⟨hvalid, rfl⟩ := conflictUnless_ok.1 hrun
  have h₁ : OthersAs db a db₁ := hdelete db _ db₁ (fun _ _ _ => rfl) hdeleted
  exact h.of_validate (othersAs_writeMailboxes (hchanged db hcheck) db₁ _ db₂ h₁ hwritten) hvalid

theorem parentsEnd_applyCommit (a : String) (commit : CollectionSyncCommit) : Preserves ParentsEnd (applyCommit a commit) := by
  cases commit with
  | mailboxDelta _ _ changed destroyed =>
    intro db u db' h hrun
    exact h.of_commit (fun _ hcheck => (Bool.and_eq_true_iff.1 hcheck).1)
      (Preserves.forM (fun id => preserves_execute (othersAs_deleteMailbox id)) destroyed) hrun
  | mailboxReplace _ _ snapshot =>
    intro db u db' h hrun
    exact h.of_commit (fun _ hcheck => hcheck) (preserves_deleteOthers (fun a id => othersAs_deleteMailbox id) _ _) hrun
  | emailDelta => exact preserves_applyEmailDelta (fun _ => RowStatement.parentsEnd) _ _ _
  | emailReplace => exact preserves_applyEmailReplace (fun _ => RowStatement.parentsEnd) _ _
  | identityDelta => exact preserves_applyIdentityDelta (fun _ => RowStatement.parentsEnd) _ _ _
  | identityReplace => exact preserves_applyIdentityReplace (fun _ => RowStatement.parentsEnd) _ _

theorem parentsEnd_run {op : WriteOp} (h : ParentsEnd db) (hrun : op.run db = .ok db') : ParentsEnd db' :=
  run_preserves (fun _ => RowStatement.parentsEnd) (fun commit _ => parentsEnd_applyCommit _ commit) h hrun

theorem parentsEnd_empty (draws : List Int) : ParentsEnd (Db.empty draws) := fun _ _ => ends_of_none rfl

/-! ## After any writes -/

/-- The walk of each mailbox stops, on every catalog. The check accepts a catalog if none of its mailboxes is on a cycle
or leads into one, so after any writes, of any accounts, the parents of every mailbox end. -/
theorem mailbox_catalogs_checked (a : String) :
    (∀ db, (∀ start ∈ catalog db a, ∃ r, Walk (parentOf db a) [] (some start) r) ∧
      (validateMailboxCatalog a db = true ↔ ∀ start ∈ catalog db a, Walk (parentOf db a) [] (some start) true) ∧
      (validateMailboxCatalog a db = true ↔ ∀ id ∈ catalog db a, ¬IntoCycle (parentOf db a) id)) ∧
    ∀ draws (ops : List WriteOp) id, Ends (parentOf (ops.foldl Db.write (Db.empty draws)) a) id := by
  refine ⟨fun db => ⟨fun start _ => ⟨_, walk_catalog db a start⟩, validateMailboxCatalog_walks, validateMailboxCatalog_iff⟩, ?_⟩
  exact fun draws ops => writes_preserve (fun _ _ _ => parentsEnd_run) (parentsEnd_empty draws) ops a

/-- A mailbox below another, below one that is gone. -/
def nested : Db :=
  { Db.empty [] with
    mailboxes := (OrderedMap.empty.set ("a", "child") ⟨"Child", some "parent", none, 0, 0, 0, 1, 1, 1, 1, 1, 1⟩).set ("a", "parent")
      ⟨"Parent", some "gone", none, 0, 0, 0, 1, 1, 1, 1, 1, 1⟩ }

theorem mailbox_catalogs_checked_nested : ∀ id ∈ catalog nested "a", ¬IntoCycle (parentOf nested "a") id :=
  ((mailbox_catalogs_checked "a").1 nested).2.2.1 (by decide +kernel)

end Boxplot.Persistence
