import Boxplot.Persistence.Journal
/-!
# The rows are the journal's records

`Faithful db j`: every row decodes, to the record last written for its key, and
there is no row for a key without one. Each write keeps it, with the journal
that records the write.
-/

namespace Boxplot.Persistence

open Lib

/-! ## Rows and records -/

section
variable {K R α : Type} [DecidableEq K] {rows rows' : K → Option R} {ofRow : K → R → PersistResult α}
  {history : List (JournalEntry K α)} {key : K} {r : R} {v : α}

/-- The rows are read as the records last written. -/
def Shows (rows : K → Option R) (ofRow : K → R → PersistResult α) (history : List (JournalEntry K α)) : Prop :=
  ∀ k, readRow (ofRow k) (rows k) = .ok (lastWritten history k)

theorem Shows.wrote (h : Shows rows ofRow history) (hr : ofRow key r = .ok v) (hkey : rows' key = some r)
    (hother : ∀ k, k ≠ key → rows' k = rows k) : Shows rows' ofRow (.wrote key v :: history) := by
  intro k
  rw [lastWritten_wrote]
  split
  · rename_i hk
    rw [hk, hkey, readRow, hr]
    rfl
  · rename_i hk
    rw [hother k hk]
    exact h k

theorem Shows.removed (h : Shows rows ofRow history) {keys : K → Bool}
    (hrows : ∀ k, rows' k = if keys k then none else rows k) : Shows rows' ofRow (.removed keys :: history) := by
  intro k
  rw [lastWritten_removed, hrows]
  split
  · rfl
  · exact h k

/-- A row that is set. -/
theorem Shows.set {table : OrderedMap K R} (h : Shows table.get? ofRow history) (hr : ofRow key r = .ok v) :
    Shows (table.set key r).get? ofRow (.wrote key v :: history) :=
  h.wrote hr (OrderedMap.get?_set_self ..) fun _ hk => OrderedMap.get?_set_ne _ _ hk

/-- A row that is deleted. -/
theorem Shows.delete {table : OrderedMap K R} (h : Shows table.get? ofRow history) (key : K) :
    Shows (table.delete key).get? ofRow (.removed (· = key) :: history) :=
  h.removed fun k => by simp [OrderedMap.get?_delete]

/-- There is a row where there is a record. -/
theorem Shows.isSome (h : Shows rows ofRow history) (k : K) : (rows k).isSome = (lastWritten history k).isSome := by
  have hk := h k
  cases hrow : rows k with
  | none =>
    rw [hrow, readRow] at hk
    exact congrArg Option.isSome (Except.ok.inj hk)
  | some r =>
    rw [hrow, readRow] at hk
    cases hof : ofRow k r with
    | error e => rw [hof] at hk; cases hk
    | ok a => rw [hof] at hk; rw [← Except.ok.inj hk]; rfl

end

/-! ## The invariant -/

structure Faithful (db : Db) (j : Journal) : Prop where
  accounts : Shows db.accounts.get? accountOfRow j.accounts
  mailboxes : Shows db.mailboxes.get? mailboxOfRow j.mailboxes
  identities : Shows db.identities.get? identityOfRow j.identities
  emails : Shows db.emails.get? emailOfRow j.emails
  memberships : ∀ key, db.membershipIds key.1 key.2 = j.membershipsOf key
  bodies : Shows db.emailBodies.get? bodyOfRow j.bodies
  attachments : Shows (fun key => db.attachmentRows key.1 key.2) attachmentsOfRows j.attachments
  views : Shows db.viewRows viewOfRows j.views
  cursors : Shows (fun key : String × CollectionDataType => db.cursorState key.1 key.2) (fun key => cursorOfRow key.1 key.2) j.cursors
  mutations : Shows db.pendingMutations.get? mutationOfRow j.mutations

theorem faithful_empty (draws : List Int) : Faithful (Db.empty draws) Journal.empty where
  accounts _ := rfl
  mailboxes _ := rfl
  identities _ := rfl
  emails _ := rfl
  memberships _ := rfl
  bodies _ := rfl
  attachments _ := rfl
  views _ := rfl
  cursors _ := rfl
  mutations _ := rfl

/-- What a step of a transaction adds to the journal. -/
def Records (x : Tx Unit) (f : Journal → Journal) : Prop :=
  ∀ db db' j u, Faithful db j → x db = .ok u db' → Faithful db' (f j)

section
variable {x y : Tx Unit} {f g : Journal → Journal}

theorem Records.bind (hx : Records x f) (hy : Records y g) : Records (do x; y) (fun j => g (f j)) := by
  intro db db' j u hj h
  obtain ⟨_, db₁, hfirst, hsecond⟩ := bind_eq_ok.1 h
  exact hy db₁ db' _ u (hx db db₁ j _ hj hfirst) hsecond

/-- A step that only checks. -/
theorem records_conflictUnless (condition : Db → Bool) : Records (conflictUnless condition) id := by
  intro db db' j u hj h
  obtain ⟨-, rfl⟩ := conflictUnless_ok.1 h
  exact hj

/-- One step after the other, one entry after the other. -/
theorem records_forM {α : Type} {x : α → Tx Unit} {f : Journal → α → Journal} (h : ∀ a, Records (x a) (f · a)) (l : List α) :
    Records (l.forM x) (fun j => l.foldl f j) := by
  induction l with
  | nil => intro db db' j u hj hnil; cases hnil; exact hj
  | cons a rest ih => exact (h a).bind ih

end

/-! ## Writing a record -/

theorem records_writeMailbox (v : Mailbox) : Records (writeMailbox v) (·.wroteMailbox v) := by
  intro db db' j u hj h
  simp only [writeMailbox, bind_eq_ok, given_ok, execute_ok, orConflict_ok] at h
  obtain ⟨_, _, ⟨hv, rfl⟩, r, _, ⟨hr, rfl⟩, h⟩ := h
  obtain rfl := upsertMailbox_some h
  exact { hj with mailboxes := hj.mailboxes.set (mailboxOfRow_rowOf hv hr) }

theorem records_writeIdentity (v : Identity) : Records (writeIdentity v) (·.wroteIdentity v) := by
  intro db db' j u hj h
  simp only [writeIdentity, bind_eq_ok, given_ok, execute_ok, orConflict_ok, nonEmpty_ok] at h
  obtain ⟨_, _, ⟨-, rfl⟩, _, _, ⟨-, rfl⟩, _, _, ⟨hemail, rfl⟩, h⟩ := h
  obtain rfl := upsertIdentity_some h
  exact { hj with identities := hj.identities.set (identityOfRow_rowOf hemail) }

theorem records_writeEmail (v : Email) : Records (writeEmail v) (·.wroteEmail v) := by
  intro db db' j u hj h
  simp only [writeEmail, bind_eq_ok, given_ok, execute_ok, orConflict_ok] at h
  obtain ⟨_, _, ⟨hv, rfl⟩, r, _, ⟨hr, rfl⟩, h⟩ := h
  obtain ⟨_, _, _, rfl⟩ := upsertEmail_some h
  exact { hj with emails := hj.emails.set (emailOfRow_rowOf hv hr) }

/-- The memberships of an email after they were replaced, and those of the others. -/
theorem replaceMemberships_ok {a email : String} {ids : List String} {db db' : Db} {u : Unit}
    (h : replaceMemberships a email ids db = .ok u db') :
    ∃ t, db' = { db with emailMailboxes := t } ∧ (t.select (a, email)).map (·.1) = inOrder ids ∧
      ∀ key, key.1 ≠ (a, email) → t.get? key = db.emailMailboxes.get? key := by
  simp only [replaceMemberships, bind_eq_ok, conflictUnless_ok, execute_ok] at h
  obtain ⟨_, _, ⟨-, rfl⟩, _, _, hd, h⟩ := h
  cases hd
  obtain ⟨t, ht, rfl⟩ := insertMemberships_some h
  refine ⟨t, rfl, ?_, fun key hkey => ?_⟩
  · rw [OrderedMap.keys_select_insertEach ht, List.map_map]
    exact congrArg inOrder (List.map_id' ids)
  · rw [OrderedMap.get?_insertEach_of_ne ht hkey, OrderedMap.get?_clear, if_neg hkey]

theorem records_replaceMemberships (a email : String) (ids : List String) :
    Records (replaceMemberships a email ids) (·.wroteMemberships a email ids) := by
  intro db db' j u hj h
  obtain ⟨t, rfl, hids, hother⟩ := replaceMemberships_ok h
  refine { hj with memberships := fun key => ?_ }
  simp only [Journal.membershipsOf, Journal.wroteMemberships, lastWritten_wrote]
  by_cases hk : key = (a, email)
  · subst hk
    rw [if_pos rfl]
    exact hids
  · rw [if_neg hk]
    refine Eq.trans ?_ (hj.memberships key)
    exact congrArg _ (OrderedMap.select_congr fun id => hother (key, id) hk)

theorem records_writeRecord (a : String) (r : EmailSyncRecord) : Records (writeRecord a r) (·.wroteRecord a r) :=
  (records_writeEmail r.email).bind (records_replaceMemberships _ _ _)

theorem records_insertMutation {m : PendingMutation} (hm : validateMutation m = .ok ()) :
    Records (insertMutation m) (·.wroteMutation m) := by
  intro db db' j u hj h
  obtain rfl := insertMutationRow_some (execute_ok.1 h)
  exact { hj with mutations := hj.mutations.set (mutationOfRow_rowOf hm) }

/-! ## Removing records -/

theorem records_deleteEmail (a id : String) : Records (execute (deleteEmail a id)) (·.removedEmails (· = (a, id))) := by
  intro db db' j u hj h
  cases execute_ok.1 h
  have hattachments : Shows (fun key : String × String =>
      ((db.attachmentCaches.delete (a, id)).get? key).map fun _ => (db.attachmentRefs.clear (a, id)).select key)
      attachmentsOfRows (.removed (· = (a, id)) :: j.attachments) := by
    refine hj.attachments.removed fun key => ?_
    rw [OrderedMap.get?_delete]
    by_cases hk : key = (a, id)
    · simp [hk]
    · have hselect : (db.attachmentRefs.clear (a, id)).select key = db.attachmentRefs.select key :=
        OrderedMap.select_congr fun part => by rw [OrderedMap.get?_clear, if_neg hk]
      simp [hk, hselect, Db.attachmentRows]
  have hmemberships : ∀ key : String × String, ((db.emailMailboxes.clear (a, id)).select key).map (·.1) =
      (lastWritten (.removed (· = (a, id)) :: j.memberships) key).getD [] := by
    intro key
    rw [lastWritten_removed]
    by_cases hk : key = (a, id)
    · subst hk
      have hnone : (db.emailMailboxes.clear (a, id)).select (a, id) = [] :=
        OrderedMap.eq_select (by simp) fun k r => by simp [OrderedMap.get?_clear]
      simp [hnone]
    · have hselect : (db.emailMailboxes.clear (a, id)).select key = db.emailMailboxes.select key :=
        OrderedMap.select_congr fun k => by rw [OrderedMap.get?_clear, if_neg hk]
      simp only [hk, decide_false, Bool.false_eq_true, if_false, hselect]
      exact hj.memberships key
  exact { hj with
    emails := hj.emails.delete _
    memberships := hmemberships
    bodies := hj.bodies.delete _
    attachments := hattachments }

theorem records_deleteMailbox (a id : String) : Records (execute (deleteMailbox a id)) (·.removedMailboxes (· = (a, id))) := by
  intro db db' j u hj h
  cases execute_ok.1 h
  refine { hj with mailboxes := hj.mailboxes.delete _, views := hj.views.removed fun spec => ?_ }
  have hof : spec.isOf a id = decide ((spec.accountKey, spec.mailboxJmapId) = (a, id)) := by
    simp [MailboxViewSpec.isOf]
  change _ = if decide ((spec.accountKey, spec.mailboxJmapId) = (a, id)) then none else _
  rw [← hof]
  unfold Db.viewRows
  rw [OrderedMap.get?_filter_key]
  cases hspec : spec.isOf a id with
  | true => rfl
  | false =>
    have hcoverage : (db.mailboxViewCoverage.filter fun key _ => !key.1.isOf a id).select spec =
        db.mailboxViewCoverage.select spec :=
      OrderedMap.select_congr fun k => by rw [OrderedMap.get?_filter_key, hspec]; rfl
    have hitems : (db.mailboxViewItems.filter fun key _ => !key.1.isOf a id).select spec = db.mailboxViewItems.select spec :=
      OrderedMap.select_congr fun k => by rw [OrderedMap.get?_filter_key, hspec]; rfl
    rw [hcoverage, hitems]
    rfl

theorem records_deleteIdentity (a id : String) :
    Records (execute (deleteIdentity a id)) (·.removedIdentities (· = (a, id))) := by
  intro db db' j u hj h
  cases execute_ok.1 h
  exact { hj with identities := hj.identities.delete _ }

theorem records_deleteIdentities (a : String) : Records (execute (deleteIdentities a)) (·.removedIdentities (·.1 = a)) := by
  intro db db' j u hj h
  cases execute_ok.1 h
  exact { hj with identities := hj.identities.removed fun k => by simp [OrderedMap.get?_clear] }

theorem records_deleteMutation (a id : String) : Records (execute (deleteMutation a id)) (·.removedMutation a id) := by
  intro db db' j u hj h
  cases execute_ok.1 h
  exact { hj with mutations := hj.mutations.delete _ }

end Boxplot.Persistence
