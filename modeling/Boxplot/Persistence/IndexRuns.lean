import Boxplot.Persistence.Index
import Boxplot.Persistence.Writes
/-!
# The index after any writes

Every write of the engine keeps the index in step with the mail, from the
migrated schema on and from a version 2 database on that
`0003_fts5.sql` was run on.
-/

namespace Boxplot.Persistence

open Lib

/-! ## Statements -/

/-- Every statement keeps the index in step. Those the triggers are not on leave its tables as they are. -/
theorem RowStatement.indexed {s : Statement} (hs : RowStatement s) : Kept Indexed s := by
  intro db db' h hrun
  cases hs with
  | insertAccount => obtain rfl := insertAccount_some hrun; exact h.of_same rfl rfl rfl rfl
  | upsertIdentity => obtain rfl := upsertIdentity_some hrun; exact h.of_same rfl rfl rfl rfl
  | deleteIdentity => cases hrun; exact h.of_same rfl rfl rfl rfl
  | deleteIdentities => cases hrun; exact h.of_same rfl rfl rfl rfl
  | upsertEmail => exact h.upsertEmail hrun
  | deleteEmail => exact h.deleteEmail hrun
  | deleteMemberships => cases hrun; exact h.of_same rfl rfl rfl rfl
  | insertMemberships => obtain ⟨_, -, rfl⟩ := insertMemberships_some hrun; exact h.of_same rfl rfl rfl rfl
  | upsertEmailBody => exact h.upsertEmailBody hrun
  | insertAttachmentCache => obtain rfl := insertAttachmentCache_some hrun; exact h.of_same rfl rfl rfl rfl
  | deleteAttachments => cases hrun; exact h.of_same rfl rfl rfl rfl
  | insertAttachments => obtain ⟨_, -, rfl⟩ := insertAttachments_some hrun; exact h.of_same rfl rfl rfl rfl
  | upsertCursor => obtain rfl := upsertCursor_some hrun; exact h.of_same rfl rfl rfl rfl
  | insertMutationRow => obtain rfl := insertMutationRow_some hrun; exact h.of_same rfl rfl rfl rfl
  | deleteMutation => cases hrun; exact h.of_same rfl rfl rfl rfl
  | upsertView => obtain rfl := upsertView_some hrun; exact h.of_same rfl rfl rfl rfl
  | deleteCoverage => cases hrun; exact h.of_same rfl rfl rfl rfl
  | deleteItems => cases hrun; exact h.of_same rfl rfl rfl rfl
  | insertCoverage => obtain ⟨_, -, rfl⟩ := insertCoverage_some hrun; exact h.of_same rfl rfl rfl rfl
  | insertItems => obtain ⟨_, _, -, rfl⟩ := insertItems_some hrun; exact h.of_same rfl rfl rfl rfl

theorem indexed_upsertMailbox {account id : String} {r : MailboxRow} : Kept Indexed (upsertMailbox account id r) := by
  intro db db' h hrun
  obtain rfl := upsertMailbox_some hrun
  exact h.of_same rfl rfl rfl rfl

theorem indexed_deleteMailbox {account id : String} : Kept Indexed (deleteMailbox account id) := by
  intro db db' h hrun
  cases hrun
  exact h.of_same rfl rfl rfl rfl

/-! ## Writes -/

section
variable {db db' : Db}

/-- Every write keeps the index in step. -/
theorem run_indexed {op : WriteOp} (h : Indexed db) (hrun : op.run db = .ok db') : Indexed db' :=
  run_preserves (fun _ => RowStatement.indexed)
    (fun _ _ => preserves_applyCommit (fun _ => RowStatement.indexed) (fun _ _ _ => indexed_upsertMailbox)
      (fun _ _ => indexed_deleteMailbox) _ _) h hrun

theorem Indexed.writes (h : Indexed db) (ops : List WriteOp) : Indexed (ops.foldl Db.write db) :=
  writes_preserve (fun _ _ _ => run_indexed) h ops

end

/-! ## Version 2 -/

/-- A database before the index: rowids and bodies are there, for emails only. -/
structure Version2 (db : Db) : Prop where
  noIndex : db.emailsFts = []
  rowids : ∀ key, (db.emailRowids.get? key).isSome = (db.emails.get? key).isSome
  distinct : ∀ key key' rowid, db.emailRowids.get? key = some rowid → db.emailRowids.get? key' = some rowid → key = key'
  owners : ∀ key, (db.emailBodies.get? key).isSome → (db.emails.get? key).isSome

/-- `SELECT ... FROM emails e LEFT JOIN email_bodies b`, for one email. -/
def backfillRow (db : Db) (key : String × String) : Option FtsRow := do
  let e ← db.emails.get? key
  let rowid ← db.emailRowids.get? key
  let b := db.emailBodies.get? key
  return ⟨rowid, key.1, key.2, e.subject, e.preview, b.bind (·.textBody), b.bind (·.htmlBody)⟩

/-- Inserts rows one after the other. -/
def insertAllFts (rows fts : List FtsRow) : Option (List FtsRow) := rows.foldlM (fun fts f => insertFts f fts) fts

/-- The backfill of `0003_fts5.sql`, over the emails in the order SQLite reads them. -/
def migrateFts (db : Db) (order : List (String × String)) : Option Db :=
  (insertAllFts (order.filterMap (backfillRow db)) db.emailsFts).map fun fts => { db with emailsFts := fts }

theorem insertAllFts_eq {rows fts : List FtsRow} (h : ((fts ++ rows).map (·.rowid)).Nodup) :
    insertAllFts rows fts = some (fts ++ rows) := by
  induction rows generalizing fts with
  | nil => simp [insertAllFts]
  | cons f rest ih =>
    have hfree : insertFts f fts = some (fts ++ [f]) := by
      refine if_neg fun hany => ?_
      obtain ⟨g, hg, hsame⟩ := List.any_eq_true.1 hany
      rw [List.map_append, List.map_cons] at h
      have hne := (List.nodup_append.1 h).2.2 _ (List.mem_map_of_mem hg) _ List.mem_cons_self
      exact hne (of_decide_eq_true hsame)
    rw [insertAllFts, List.foldlM_cons, hfree]
    change insertAllFts rest (fts ++ [f]) = _
    rw [ih (by rwa [List.append_assoc]), List.append_assoc]
    rfl

section
variable {db : Db} {key : String × String} {f : FtsRow}

theorem backfillRow_eq_some : backfillRow db key = some f ↔
    ∃ e rowid, db.emails.get? key = some e ∧ db.emailRowids.get? key = some rowid ∧
      f = indexRow key rowid e (db.emailBodies.get? key) := by
  unfold backfillRow
  cases db.emails.get? key <;> cases db.emailRowids.get? key <;> simp [indexRow, eq_comm]

theorem key_of_backfillRow (h : backfillRow db key = some f) : (f.accountKey, f.emailJmapId) = key := by
  obtain ⟨_, _, -, -, rfl⟩ := backfillRow_eq_some.1 h
  rfl

/-- Among the rows of different emails, those of one email are its row. -/
theorem ftsOf_backfill {order : List (String × String)} (hnodup : order.Nodup) :
    ftsOf (order.filterMap (backfillRow db)) key = if key ∈ order then (backfillRow db key).toList else [] := by
  induction order with
  | nil => rfl
  | cons k rest ih =>
    obtain ⟨hk, hrest⟩ := List.nodup_cons.1 hnodup
    have hfirst : ftsOf (backfillRow db k).toList key = if key = k then (backfillRow db k).toList else [] := by
      cases hrow : backfillRow db k with
      | none => simp [ftsOf]
      | some f =>
        have hof : f.isOf key.1 key.2 = true ↔ key = k := by rw [isOf_iff, key_of_backfillRow hrow, eq_comm]
        by_cases hkey : key = k
        · rw [if_pos hkey]
          simp [ftsOf, hof.2 hkey]
        · simp [ftsOf, Bool.eq_false_iff.2 fun h => hkey (hof.1 h), hkey]
    have hsplit : (k :: rest).filterMap (backfillRow db) = (backfillRow db k).toList ++ rest.filterMap (backfillRow db) := by
      cases hrow : backfillRow db k <;> simp [hrow]
    rw [hsplit, ftsOf, List.filter_append, ← ftsOf, ← ftsOf, hfirst, ih hrest]
    by_cases hkey : key = k
    · subst hkey
      simp [hk]
    · simp [hkey]

/-- The backfill goes through and leaves the index in step. -/
theorem Version2.migrate (h : Version2 db) {order : List (String × String)} (hperm : order.Perm (db.emails.entries.map (·.1))) :
    ∃ db', migrateFts db order = some db' ∧ Indexed db' := by
  have hnodup : order.Nodup := hperm.nodup_iff.2 db.emails.nodup
  have hmem : ∀ k, k ∈ order ↔ (db.emails.get? k).isSome := by
    intro k
    rw [hperm.mem_iff, Option.isSome_iff_exists, List.mem_map]
    constructor
    · rintro ⟨e, he, rfl⟩
      exact ⟨e.2, OrderedMap.get?_eq_some.2 he⟩
    · rintro ⟨r, hr⟩
      exact ⟨(k, r), OrderedMap.get?_eq_some.1 hr, rfl⟩
  -- Emails have different rowids.
  have hrowids : ((order.filterMap (backfillRow db)).map (·.rowid)).Nodup := by
    refine (List.nodup_map_iff_inj_on ?_).2 ?_
    · refine hnodup.filterMap fun k k' f hf hf' => ?_
      exact (key_of_backfillRow hf).symm.trans (key_of_backfillRow hf')
    · intro f hf g hg hsame
      obtain ⟨k, -, hk⟩ := List.mem_filterMap.1 hf
      obtain ⟨k', -, hk'⟩ := List.mem_filterMap.1 hg
      obtain ⟨e, n, he, hn, rfl⟩ := backfillRow_eq_some.1 hk
      obtain ⟨e', n', he', hn', rfl⟩ := backfillRow_eq_some.1 hk'
      obtain rfl : n = n' := hsame
      obtain rfl := h.distinct k k' n hn hn'
      rw [he] at he'
      cases he'
      rfl
  refine ⟨{ db with emailsFts := order.filterMap (backfillRow db) }, ?_, ?_⟩
  · rw [migrateFts, h.noIndex, insertAllFts_eq (by rwa [List.nil_append])]
    rfl
  · refine { rows := fun k => ?_, rowids := h.rowids, distinct := h.distinct, owners := h.owners }
    change ftsOf (order.filterMap (backfillRow db)) k = _
    rw [ftsOf_backfill hnodup]
    by_cases hk : k ∈ order
    · obtain ⟨e, he⟩ := Option.isSome_iff_exists.1 ((hmem k).1 hk)
      obtain ⟨n, hn⟩ := Option.isSome_iff_exists.1 ((h.rowids k).trans (by rw [he]; rfl))
      rw [if_pos hk, backfillRow_eq_some.2 ⟨e, n, he, hn, rfl⟩]
      simp [he, hn]
    · have hnone : db.emails.get? k = none := by
        by_contra hsome
        exact hk ((hmem k).2 (Option.isSome_iff_ne_none.2 hsome))
      simp [hk, hnone]

end

/-! ## The index mirrors the mail -/

/-- Where the engine's writes start: at the migrated schema, or at a version 2 database that was migrated. -/
inductive Start : Db → Prop
  | schema (draws : List Int) : Start (Db.empty draws)
  | migrated {old db : Db} {order : List (String × String)} (h : Version2 old)
      (hperm : order.Perm (old.emails.entries.map (·.1))) (hrun : migrateFts old order = some db) : Start db

/-- After any writes the index has a row for each email, with the texts the email and its body have, and no others.
Every version 2 database can be migrated. -/
theorem index_mirrors_emails (ops : List WriteOp) :
    (∀ start, Start start → Indexed (ops.foldl Db.write start)) ∧
      ∀ old order, Version2 old → order.Perm (old.emails.entries.map (·.1)) → ∃ db, migrateFts old order = some db ∧ Start db := by
  constructor
  · intro start h
    apply Indexed.writes
    cases h with
    | schema draws => exact indexed_empty draws
    | migrated hold hperm hrun =>
      obtain ⟨db, hmigrate, hdb⟩ := hold.migrate hperm
      rw [hrun] at hmigrate
      cases hmigrate
      exact hdb
  · intro old order hold hperm
    obtain ⟨db, hmigrate, -⟩ := hold.migrate hperm
    exact ⟨db, hmigrate, .migrated hold hperm hmigrate⟩

/-- An email of an older version. -/
def oldEmail : EmailRow :=
  { blobId := "b", threadId := "t", senderJson := .arr [], fromJson := .arr [], replyToJson := .arr [], toJson := .arr [],
    ccJson := .arr [], bccJson := .arr [], subject := some "Hello", sentAt := none, receivedAt := "2024-01-01T00:00:00Z",
    size := 1, preview := "Hi", hasAttachment := 0, keywordsJson := .arr [] }

/-- A version 2 database with one email. -/
def oldDb : Db :=
  { Db.empty [] with
    emails := OrderedMap.empty.set ("a", "m") oldEmail, emailRowids := OrderedMap.empty.set ("a", "m") 1 }

theorem oldDb_version2 : Version2 oldDb where
  noIndex := rfl
  rowids key := by
    change (OrderedMap.get? (OrderedMap.set _ _ _) _).isSome = (OrderedMap.get? (OrderedMap.set _ _ _) _).isSome
    rw [OrderedMap.get?_set, OrderedMap.get?_set]
    split <;> rfl
  distinct key key' rowid h h' := by
    change OrderedMap.get? (OrderedMap.set _ _ _) _ = _ at h h'
    rw [OrderedMap.get?_set, OrderedMap.get?_empty] at h h'
    split at h <;> split at h' <;> simp_all
  owners key h := by cases h

/-- It is migrated, and stays in step when a body is cached. -/
theorem oldDb_mirrored : ∃ db, migrateFts oldDb [("a", "m")] = some db ∧
    Indexed ([WriteOp.cacheEmailBody ⟨"a", "m", some "Hi", none⟩].foldl Db.write db) := by
  obtain ⟨db, hmigrate, hstart⟩ := (index_mirrors_emails []).2 oldDb [("a", "m")] oldDb_version2 (List.Perm.refl _)
  exact ⟨db, hmigrate, (index_mirrors_emails _).1 db hstart⟩

end Boxplot.Persistence
