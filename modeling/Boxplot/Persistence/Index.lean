import Boxplot.Persistence.Journal
/-!
# The index is the mail

The full-text index has one row for each email, with the texts the email and
its body have now. The triggers keep it so under every statement, and a
version 2 database has it so once it is migrated.
-/

namespace Boxplot.Persistence

open Lib

/-! ## Rows of an email -/

section
variable {fts : List FtsRow} {key : String × String} {account id : String}

/-- The index rows of an email. -/
def ftsOf (fts : List FtsRow) (key : String × String) : List FtsRow := fts.filter (·.isOf key.1 key.2)

theorem isOf_iff {f : FtsRow} : f.isOf key.1 key.2 = true ↔ (f.accountKey, f.emailJmapId) = key := by
  simp [FtsRow.isOf, Prod.ext_iff]

/-- An update changes the rows of its email only, which stay its rows. -/
theorem ftsOf_updateFts (set : FtsRow → FtsRow)
    (hset : ∀ f, (set f).accountKey = f.accountKey ∧ (set f).emailJmapId = f.emailJmapId) :
    ftsOf (updateFts account id set fts) key = if key = (account, id) then (ftsOf fts key).map set else ftsOf fts key := by
  unfold ftsOf updateFts
  induction fts with
  | nil => simp
  | cons f rest ih =>
    have hkeeps : ∀ g : FtsRow, (set g).isOf key.1 key.2 = g.isOf key.1 key.2 := fun g => by
      simp [FtsRow.isOf, (hset g).1, (hset g).2]
    rw [List.map_cons, List.filter_cons, List.filter_cons, ih]
    by_cases hkey : key = (account, id)
    · subst hkey
      cases hf : f.isOf account id <;> simp [hf, hkeeps]
    · have hother : f.isOf key.1 key.2 = true → f.isOf account id = false := by
        intro h
        by_contra hne
        have hsame : f.isOf (account, id).1 (account, id).2 = true := by simpa using hne
        exact hkey ((isOf_iff.1 h).symm.trans (isOf_iff.1 hsame))
      cases hf : f.isOf key.1 key.2 with
      | true => simp [hkey, hf, hother hf]
      | false =>
        by_cases hof : f.isOf account id = true
        · simp [hkey, hf, hof, hkeeps]
        · simp [hkey, hf, hof]

theorem ftsOf_emailsAd : ftsOf (emailsAd account id fts) key = if key = (account, id) then [] else ftsOf fts key := by
  unfold ftsOf emailsAd
  rw [List.filter_filter]
  by_cases hkey : key = (account, id)
  · subst hkey
    simp
  · rw [if_neg hkey]
    refine List.filter_congr fun f _ => ?_
    cases hf : f.isOf key.1 key.2 with
    | false => rfl
    | true =>
      have hne : f.isOf account id = false := by
        by_contra hne
        have hsame : f.isOf (account, id).1 (account, id).2 = true := by simpa using hne
        exact hkey ((isOf_iff.1 hf).symm.trans (isOf_iff.1 hsame))
      simp [hne]

/-- Whether the body's trigger fires before the email's makes no difference. -/
theorem emailsAd_emailBodiesAd : emailsAd account id (emailBodiesAd account id fts) = emailsAd account id fts := by
  unfold emailsAd emailBodiesAd updateFts
  induction fts with
  | nil => rfl
  | cons f rest ih =>
    rw [List.map_cons, List.filter_cons, List.filter_cons, ih]
    cases hf : f.isOf account id with
    | false => simp [hf]
    | true =>
      have hset : FtsRow.isOf account id { f with textBody := none, htmlBody := none } = true := hf
      simp [hset]

end

/-! ## The invariant -/

/-- The index row of an email as it is now. -/
def indexRow (key : String × String) (rowid : Int) (r : EmailRow) (body : Option EmailBodyRow) : FtsRow :=
  { rowid, accountKey := key.1, emailJmapId := key.2, subject := r.subject, preview := r.preview
    textBody := body.bind (·.textBody), htmlBody := body.bind (·.htmlBody) }

structure Indexed (db : Db) : Prop where
  /-- An email has one row, with its texts, and there are no other rows. -/
  rows : ∀ key, ftsOf db.emailsFts key =
    match db.emails.get? key, db.emailRowids.get? key with
    | some r, some rowid => [indexRow key rowid r (db.emailBodies.get? key)]
    | _, _ => []
  rowids : ∀ key, (db.emailRowids.get? key).isSome = (db.emails.get? key).isSome
  distinct : ∀ key key' rowid, db.emailRowids.get? key = some rowid → db.emailRowids.get? key' = some rowid → key = key'
  /-- A body belongs to an email. -/
  owners : ∀ key, (db.emailBodies.get? key).isSome → (db.emails.get? key).isSome

theorem indexed_empty (draws : List Int) : Indexed (Db.empty draws) where
  rows _ := rfl
  rowids _ := rfl
  distinct _ _ _ h := by cases h
  owners _ h := h

theorem Indexed.rowid {db : Db} (h : Indexed db) {key : String × String} {r : EmailRow} (hr : db.emails.get? key = some r) :
    ∃ rowid, db.emailRowids.get? key = some rowid :=
  Option.isSome_iff_exists.1 (by rw [h.rowids, hr]; rfl)

/-- No row has a rowid that no email has: an insertion into the index finds its rowid free. -/
theorem Indexed.insertFts {db : Db} (h : Indexed db) {f : FtsRow} (hfresh : f.rowid ∉ db.emailRowids.values) :
    insertFts f db.emailsFts = some (db.emailsFts ++ [f]) := by
  refine if_neg fun hany => ?_
  obtain ⟨g, hg, hrowid⟩ := List.any_eq_true.1 hany
  have hmem : g ∈ ftsOf db.emailsFts (g.accountKey, g.emailJmapId) := List.mem_filter.2 ⟨hg, isOf_iff.2 rfl⟩
  rw [h.rows] at hmem
  split at hmem
  · rename_i rowid _ hget
    have hsame : g.rowid = rowid := congrArg FtsRow.rowid (List.mem_singleton.1 hmem)
    apply hfresh
    rw [← of_decide_eq_true hrowid, hsame]
    exact OrderedMap.mem_values.2 ⟨_, hget⟩
  · cases hmem

/-! ## Statements -/

section
variable {db db' : Db} {account id : String}

/-- The other tables do not matter. -/
theorem Indexed.of_same (h : Indexed db) (hemails : db'.emails = db.emails) (hrowids : db'.emailRowids = db.emailRowids)
    (hfts : db'.emailsFts = db.emailsFts) (hbodies : db'.emailBodies = db.emailBodies) : Indexed db' where
  rows key := by rw [hemails, hrowids, hfts, hbodies]; exact h.rows key
  rowids key := by rw [hemails, hrowids]; exact h.rowids key
  distinct := by rw [hrowids]; exact h.distinct
  owners key := by rw [hemails, hbodies]; exact h.owners key

/-- The email is there: its row gets the texts the email gets. -/
theorem Indexed.updateEmail (h : Indexed db) {r : EmailRow} (hhas : db.emails.has (account, id) = true) :
    Indexed { db with
      emails := db.emails.set (account, id) r
      emailsFts := emailsAu account id r.subject r.preview db.emailsFts } where
  rows key := by
    change ftsOf (emailsAu account id r.subject r.preview db.emailsFts) key = _
    rw [emailsAu, ftsOf_updateFts (fun f => { f with subject := r.subject, preview := r.preview }) fun _ => ⟨rfl, rfl⟩,
      h.rows, OrderedMap.get?_set]
    by_cases hkey : key = (account, id)
    · subst hkey
      obtain ⟨old, hold⟩ := Option.isSome_iff_exists.1 hhas
      obtain ⟨rowid, hrowid⟩ := h.rowid hold
      simp [hold, hrowid, indexRow]
    · simp [hkey]
  rowids key := by
    rw [h.rowids, OrderedMap.get?_set]
    split
    · rename_i hkey
      rw [hkey]
      exact hhas
    · rfl
  distinct := h.distinct
  owners key hbody := by
    rw [OrderedMap.get?_set]
    split
    · rfl
    · exact h.owners key hbody

/-- The email is new: so is its row, which has no body. -/
theorem Indexed.insertEmail (h : Indexed db) {r : EmailRow} {rowid : Int} (hhas : db.emails.has (account, id) = false)
    (hfresh : rowid ∉ db.emailRowids.values) (draws : List Int) :
    Indexed { db with
      emails := db.emails.set (account, id) r
      emailRowids := db.emailRowids.set (account, id) rowid
      emailsFts := db.emailsFts ++ [⟨rowid, account, id, r.subject, r.preview, none, none⟩]
      draws := draws } where
  rows key := by
    have hnew : ftsOf [⟨rowid, account, id, r.subject, r.preview, none, none⟩] key =
        if key = (account, id) then [⟨rowid, account, id, r.subject, r.preview, none, none⟩] else [] := by
      by_cases hkey : key = (account, id)
      · subst hkey
        simp [ftsOf, FtsRow.isOf]
      · rw [if_neg hkey]
        refine List.filter_eq_nil_iff.2 fun f hf hof => hkey ?_
        rw [List.mem_singleton.1 hf] at hof
        exact (isOf_iff.1 hof).symm
    change ftsOf (db.emailsFts ++ _) key = _
    rw [ftsOf, List.filter_append, ← ftsOf, ← ftsOf, h.rows, hnew, OrderedMap.get?_set, OrderedMap.get?_set]
    by_cases hkey : key = (account, id)
    · subst hkey
      have hnone : db.emails.get? (account, id) = none := Option.isSome_eq_false_iff.1 hhas |> Option.isNone_iff_eq_none.1
      have hbody : db.emailBodies.get? (account, id) = none := by
        by_contra hsome
        have howner := h.owners _ (Option.isSome_iff_ne_none.2 hsome)
        rw [hnone] at howner
        cases howner
      simp [hnone, hbody, indexRow]
    · simp [hkey]
  rowids key := by
    rw [OrderedMap.get?_set, OrderedMap.get?_set]
    split
    · rfl
    · exact h.rowids key
  distinct key key' n hn hn' := by
    -- The new rowid is no email's.
    have hother : ∀ {k}, db.emailRowids.get? k ≠ some rowid := fun hk => hfresh (OrderedMap.mem_values.2 ⟨_, hk⟩)
    rw [OrderedMap.get?_set] at hn hn'
    split at hn <;> split at hn'
    · rename_i hkey hkey'
      rw [hkey, hkey']
    · cases hn
      exact absurd hn' hother
    · cases hn'
      exact absurd hn hother
    · exact h.distinct key key' n hn hn'
  owners key hbody := by
    rw [OrderedMap.get?_set]
    split
    · rfl
    · exact h.owners key hbody

theorem Indexed.upsertEmail (h : Indexed db) {r : EmailRow} (hrun : upsertEmail account id r db = some db') : Indexed db' := by
  unfold Boxplot.Persistence.upsertEmail at hrun
  split at hrun
  · split at hrun
    · rename_i hhas
      cases hrun
      exact h.updateEmail hhas
    · rename_i hhas
      simp only [Option.bind_eq_bind, Option.bind_eq_some_iff, emailsAi] at hrun
      obtain ⟨⟨rowid, draws⟩, hfree, fts, hfts, hrun⟩ := hrun
      have hfresh := freshRowid_notMem hfree
      rw [h.insertFts hfresh] at hfts
      cases hfts
      cases hrun
      exact h.insertEmail (Bool.eq_false_iff.2 hhas) hfresh draws
  · cases hrun

/-- The email's row goes with it, whether or not its body goes first. -/
theorem Indexed.deleteEmail (h : Indexed db) (hrun : deleteEmail account id db = some db') : Indexed db' := by
  have hfts : ∀ key, ftsOf db'.emailsFts key = if key = (account, id) then [] else ftsOf db.emailsFts key := by
    intro key
    cases hrun
    change ftsOf (if _ then emailsAd account id (if _ then _ else _) else _) key = _
    cases hhas : db.emails.has (account, id) with
    | true =>
      cases db.emailBodies.has (account, id) with
      | true => simp only [if_true, emailsAd_emailBodiesAd, ftsOf_emailsAd]
      | false => simp only [if_true, Bool.false_eq_true, if_false, ftsOf_emailsAd]
    | false =>
      have hnone : db.emails.get? (account, id) = none := Option.isSome_eq_false_iff.1 hhas |> Option.isNone_iff_eq_none.1
      rw [if_neg Bool.false_ne_true]
      split
      · rename_i hkey
        rw [hkey, h.rows, hnone]
      · rfl
  have hemails : ∀ key, db'.emails.get? key = if key = (account, id) then none else db.emails.get? key := fun key => by
    cases hrun
    exact OrderedMap.get?_delete ..
  have hrowids : ∀ key, db'.emailRowids.get? key = if key = (account, id) then none else db.emailRowids.get? key := fun key => by
    cases hrun
    exact OrderedMap.get?_delete ..
  have hbodies : ∀ key, db'.emailBodies.get? key = if key = (account, id) then none else db.emailBodies.get? key := fun key => by
    cases hrun
    exact OrderedMap.get?_delete ..
  refine { rows := fun key => ?_, rowids := fun key => ?_, distinct := fun key key' n hn hn' => ?_, owners := fun key hbody => ?_ }
  · rw [hfts, hemails, hrowids, hbodies]
    by_cases hkey : key = (account, id)
    · simp [hkey]
    · simp only [hkey, if_false]
      exact h.rows key
  · rw [hemails, hrowids]
    split
    · rfl
    · exact h.rowids key
  · rw [hrowids] at hn hn'
    split at hn <;> split at hn'
    · cases hn
    · cases hn
    · cases hn'
    · exact h.distinct key key' n hn hn'
  · rw [hbodies] at hbody
    rw [hemails]
    split at hbody
    · cases hbody
    · rename_i hkey
      rw [if_neg hkey]
      exact h.owners key hbody

/-- The email's row gets the texts of its body. -/
theorem Indexed.upsertEmailBody (h : Indexed db) {r : EmailBodyRow} (hrun : upsertEmailBody account id r db = some db') :
    Indexed db' := by
  unfold Boxplot.Persistence.upsertEmailBody at hrun
  split at hrun
  · rename_i hhas
    have hfts : ∀ key, ftsOf db'.emailsFts key = if key = (account, id) then
        (ftsOf db.emailsFts key).map fun f => { f with textBody := r.textBody, htmlBody := r.htmlBody }
        else ftsOf db.emailsFts key := by
      intro key
      cases hrun
      change ftsOf (if _ then _ else _) key = _
      split
      · exact ftsOf_updateFts (fun f => { f with textBody := r.textBody, htmlBody := r.htmlBody }) fun _ => ⟨rfl, rfl⟩
      · exact ftsOf_updateFts (fun f => { f with textBody := r.textBody, htmlBody := r.htmlBody }) fun _ => ⟨rfl, rfl⟩
    have hbodies : ∀ key, db'.emailBodies.get? key = if key = (account, id) then some r else db.emailBodies.get? key := fun key => by
      cases hrun
      exact OrderedMap.get?_set ..
    have hemails : db'.emails = db.emails := by cases hrun; rfl
    have hrowids : db'.emailRowids = db.emailRowids := by cases hrun; rfl
    refine { rows := fun key => ?_, rowids := fun key => ?_, distinct := ?_, owners := fun key hbody => ?_ }
    · rw [hfts, hemails, hrowids, hbodies, h.rows]
      by_cases hkey : key = (account, id)
      · subst hkey
        obtain ⟨email, hemail⟩ := Option.isSome_iff_exists.1 hhas
        obtain ⟨rowid, hrowid⟩ := h.rowid hemail
        simp [hemail, hrowid, indexRow]
      · simp [hkey]
    · rw [hemails, hrowids]
      exact h.rowids key
    · rw [hrowids]
      exact h.distinct
    · rw [hbodies] at hbody
      rw [hemails]
      split at hbody
      · rename_i hkey
        rw [hkey]
        exact hhas
      · exact h.owners key hbody
  · cases hrun

end

end Boxplot.Persistence
