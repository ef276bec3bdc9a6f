import Boxplot.Persistence.Faithful
/-!
# Each write does what the journal says

From the steps of its transaction, for every write that goes through.
-/

namespace Boxplot.Persistence

open Lib

variable {db db' : Db} {j : Journal}

/-! ## Removing many records -/

section
variable {K R α : Type} [DecidableEq K] {rows : K → Option R} {ofRow : K → R → PersistResult α}
  {history : List (JournalEntry K α)} {keys keys' : K → Bool}

/-- Two removals are one. -/
theorem Shows.merge (h : Shows rows ofRow (.removed keys' :: .removed keys :: history)) :
    Shows rows ofRow (.removed (fun k => keys k || keys' k) :: history) := by
  intro k
  rw [h k]
  simp only [lastWritten_removed]
  cases keys k <;> cases keys' k <;> rfl

theorem Shows.removedNone (h : Shows rows ofRow history) (hnone : ∀ k, keys k = false) :
    Shows rows ofRow (.removed keys :: history) :=
  h.removed fun k => by rw [hnone k]; rfl

end

theorem Faithful.mergeEmails {keys keys' : String × String → Bool} (h : Faithful db ((j.removedEmails keys).removedEmails keys')) :
    Faithful db (j.removedEmails fun k => keys k || keys' k) where
  accounts := h.accounts
  mailboxes := h.mailboxes
  identities := h.identities
  emails := h.emails.merge
  memberships key := by
    rw [h.memberships key]
    simp only [Journal.membershipsOf, Journal.removedEmails, lastWritten_removed]
    cases keys key <;> cases keys' key <;> rfl
  bodies := h.bodies.merge
  attachments := h.attachments.merge
  views := h.views
  cursors := h.cursors
  mutations := h.mutations

theorem Faithful.mergeMailboxes {keys keys' : String × String → Bool}
    (h : Faithful db ((j.removedMailboxes keys).removedMailboxes keys')) :
    Faithful db (j.removedMailboxes fun k => keys k || keys' k) :=
  { h with mailboxes := h.mailboxes.merge, views := h.views.merge }

theorem Faithful.removedNoEmails (h : Faithful db j) {keys : String × String → Bool} (hnone : ∀ k, keys k = false) :
    Faithful db (j.removedEmails keys) where
  accounts := h.accounts
  mailboxes := h.mailboxes
  identities := h.identities
  emails := h.emails.removedNone hnone
  memberships key := by
    rw [h.memberships key]
    simp only [Journal.membershipsOf, Journal.removedEmails, lastWritten_removed, hnone key, Bool.false_eq_true, if_false]
  bodies := h.bodies.removedNone hnone
  attachments := h.attachments.removedNone hnone
  views := h.views
  cursors := h.cursors
  mutations := h.mutations

theorem Faithful.removedNoMailboxes (h : Faithful db j) {keys : String × String → Bool} (hnone : ∀ k, keys k = false) :
    Faithful db (j.removedMailboxes keys) :=
  { h with mailboxes := h.mailboxes.removedNone hnone, views := h.views.removedNone fun _ => hnone _ }

section
variable {R V : Type} {table : Db → OrderedMap (String × String) R} {delete : String → String → Statement}
  {history : Journal → List (JournalEntry (String × String) V)} {removed : Journal → (String × String → Bool) → Journal}

/-- Deleting one record after the other removes them all. -/
theorem faithful_deleteEach (hdelete : ∀ a id, Records (execute (delete a id)) (removed · (· = (a, id))))
    (hmerge : ∀ db j keys keys', Faithful db (removed (removed j keys) keys') → Faithful db (removed j fun k => keys k || keys' k))
    (hnone : ∀ db j keys, Faithful db j → (∀ k, keys k = false) → Faithful db (removed j keys)) (a : String)
    {rows : List (String × R)} {u : Unit} (hj : Faithful db j)
    (h : (rows.forM fun e => execute (delete a e.1)) db = .ok u db') {keys : String × String → Bool}
    (hkeys : ∀ k, keys k = true ↔ k.1 = a ∧ k.2 ∈ rows.map (·.1)) : Faithful db' (removed j keys) := by
  induction rows generalizing db j keys with
  | nil =>
    cases h
    refine hnone _ _ _ hj fun k => ?_
    cases hk : keys k with
    | false => rfl
    | true => simpa using ((hkeys k).1 hk).2
  | cons e rest ih =>
    obtain ⟨_, db₁, hfirst, hrest⟩ := bind_eq_ok.1 h
    have hlater : Faithful db' (removed (removed j (· = (a, e.1))) fun k => k.1 = a && (rest.map (·.1)).contains k.2) :=
      ih (hdelete a e.1 db db₁ j _ hj hfirst) hrest fun k => by simp
    have hall : keys = fun k => decide (k = (a, e.1)) || (k.1 = a && (rest.map (·.1)).contains k.2) := by
      funext k
      rw [Bool.eq_iff_iff, hkeys]
      obtain ⟨k₁, k₂⟩ := k
      simp only [List.map_cons, List.mem_cons, Prod.mk.injEq, Bool.or_eq_true, Bool.and_eq_true, decide_eq_true_eq,
        List.contains_iff_mem]
      constructor
      · rintro ⟨rfl, rfl | hk⟩
        · exact .inl ⟨rfl, rfl⟩
        · exact .inr ⟨rfl, hk⟩
      · rintro (⟨rfl, rfl⟩ | ⟨rfl, hk⟩)
        · exact ⟨rfl, .inl rfl⟩
        · exact ⟨rfl, .inr hk⟩
    rw [hall]
    exact hmerge _ _ _ _ hlater

theorem records_deleteOthers (hdelete : ∀ a id, Records (execute (delete a id)) (removed · (· = (a, id))))
    (hmerge : ∀ db j keys keys', Faithful db (removed (removed j keys) keys') → Faithful db (removed j fun k => keys k || keys' k))
    (hnone : ∀ db j keys, Faithful db j → (∀ k, keys k = false) → Faithful db (removed j keys))
    (hhistory : ∀ db j, Faithful db j → ∀ k, ((table db).get? k).isSome = (lastWritten (history j) k).isSome) (a : String)
    (keep : List String) :
    Records (deleteOthers table delete a keep) fun j => removed j (Journal.others (history j) a keep) := by
  intro db db' j u hj h
  simp only [deleteOthers, bind_eq_ok, query_ok, Except.ok.injEq] at h
  obtain ⟨_, _, ⟨rfl, rfl⟩, h⟩ := h
  refine faithful_deleteEach hdelete hmerge hnone a hj h fun k => ?_
  obtain ⟨k₁, k₂⟩ := k
  simp only [Journal.others, ← hhistory _ j hj, Bool.and_eq_true, decide_eq_true_eq, Bool.not_eq_true', List.mem_map,
    List.mem_filter, Option.isSome_iff_exists]
  constructor
  · rintro ⟨⟨rfl, hkeep⟩, r, hr⟩
    exact ⟨rfl, (k₂, r), ⟨OrderedMap.mem_select.2 hr, hkeep⟩, rfl⟩
  · rintro ⟨rfl, ⟨_, r⟩, ⟨hr, hkeep⟩, rfl⟩
    exact ⟨⟨rfl, hkeep⟩, r, OrderedMap.mem_select.1 hr⟩

end

/-! ## Commits -/

theorem records_applyCommit (a : String) (commit : CollectionSyncCommit) :
    Records (applyCommit a commit) (·.applyCommit a commit) := by
  cases commit with
  | emailDelta _ _ changed destroyed =>
    exact (records_conflictUnless _).bind ((records_forM (records_writeRecord a) changed).bind
      (records_forM (records_deleteEmail a) destroyed))
  | emailReplace _ _ snapshot =>
    have hothers : Records (deleteOthers (·.emails) deleteEmail a (snapshot.map (·.email.jmapId)))
        fun j => j.removedEmails (Journal.others j.emails a (snapshot.map (·.email.jmapId))) :=
      records_deleteOthers records_deleteEmail (fun _ _ _ _ h => h.mergeEmails) (fun _ _ _ h hn => h.removedNoEmails hn)
        (fun _ _ h k => h.emails.isSome k) a _
    exact (records_conflictUnless _).bind (hothers.bind (records_forM (records_writeRecord a) snapshot))
  | mailboxDelta _ _ changed destroyed =>
    exact (records_conflictUnless _).bind ((records_forM (records_deleteMailbox a) destroyed).bind
      ((records_forM records_writeMailbox changed).bind (records_conflictUnless _)))
  | mailboxReplace _ _ snapshot =>
    have hothers : Records (deleteOthers (·.mailboxes) deleteMailbox a (snapshot.map (·.jmapId)))
        fun j => j.removedMailboxes (Journal.others j.mailboxes a (snapshot.map (·.jmapId))) :=
      records_deleteOthers records_deleteMailbox (fun _ _ _ _ h => h.mergeMailboxes) (fun _ _ _ h hn => h.removedNoMailboxes hn)
        (fun _ _ h k => h.mailboxes.isSome k) a _
    exact (records_conflictUnless _).bind (hothers.bind ((records_forM records_writeMailbox snapshot).bind
      (records_conflictUnless _)))
  | identityDelta _ _ changed destroyed =>
    exact (records_conflictUnless _).bind ((records_forM records_writeIdentity changed).bind
      (records_forM (records_deleteIdentity a) destroyed))
  | identityReplace _ _ snapshot =>
    exact (records_conflictUnless _).bind ((records_deleteIdentities a).bind (records_forM records_writeIdentity snapshot))

theorem asStr_injective : Function.Injective CollectionDataType.asStr := by
  intro a b h
  cases a <;> cases b <;> first | rfl | exact absurd h (by decide +kernel)

theorem records_upsertCursor (a : String) (kind : CollectionDataType) (state : String) :
    Records (execute (upsertCursor a kind.asStr state)) (·.wroteCursor a kind state) := by
  intro db db' j u hj h
  obtain rfl := upsertCursor_some (execute_ok.1 h)
  refine { hj with cursors := hj.cursors.wrote (r := state) rfl (OrderedMap.get?_set_self ..) fun key hkey => ?_ }
  refine OrderedMap.get?_set_ne _ _ fun he => hkey ?_
  obtain ⟨h₁, h₂⟩ := Prod.mk.inj he
  exact Prod.ext h₁ (asStr_injective h₂)

/-! ## Every write -/

theorem faithful_registerAccount {v : Account} (hj : Faithful db j) (h : db.registerAccount v = .ok db') :
    Faithful db' (j.record (.registerAccount v)) := by
  simp only [Db.registerAccount, except_bind_eq_ok] at h
  obtain ⟨_, -, _, -, _, -, h⟩ := h
  split at h
  · obtain ⟨u, h⟩ := transaction_ok.1 h
    obtain rfl := insertAccount_some (execute_ok.1 h)
    exact { hj with accounts := hj.accounts.set rfl }
  · -- the account is there already, as it is registered
    rename_i row hrow
    split at h
    · rename_i hsame
      cases h
      exact { hj with accounts := hj.accounts.wrote (r := row) (by rw [hsame]; rfl) hrow fun _ _ => rfl }
    · cases h

theorem faithful_cacheEmailBody {v : EmailBody} (hj : Faithful db j) (h : db.cacheEmailBody v = .ok db') :
    Faithful db' (j.record (.cacheEmailBody v)) := by
  simp only [Db.cacheEmailBody, transaction_ok, bind_eq_ok, conflictUnless_ok, execute_ok] at h
  obtain ⟨_, _, _, ⟨-, rfl⟩, h⟩ := h
  obtain ⟨_, rfl⟩ := upsertEmailBody_some h
  exact { hj with bodies := hj.bodies.set rfl }

/-- A traversal for its checks. -/
theorem forM_given {α : Type} {f : α → PersistResult Unit} {l : List α} {u : Unit}
    (h : (l.forM fun a => given (f a)) db = .ok u db') : db = db' ∧ ∀ a ∈ l, f a = .ok () := by
  induction l generalizing db with
  | nil => cases h; exact ⟨rfl, by simp⟩
  | cons a rest ih =>
    obtain ⟨_, _, hfirst, hrest⟩ := bind_eq_ok.1 h
    obtain ⟨ha, rfl⟩ := given_ok.1 hfirst
    obtain ⟨hdb, hall⟩ := ih hrest
    exact ⟨hdb, List.forall_mem_cons.2 ⟨ha, hall⟩⟩

/-- Attachments that were written are read in the order of their parts. -/
theorem attachmentsOfRows_rowOf {a email : String} {refs : List AttachmentRef} {rows : List (String × AttachmentRow)}
    (howner : ∀ r ∈ refs, r.accountKey = a ∧ r.emailJmapId = email) (hvalid : ∀ r ∈ refs, validateAttachment r = .ok ())
    (hrows : refs.mapM attachmentRowOf = .ok rows) :
    attachmentsOfRows (a, email) (rows.insertionSort (·.1 ≤ ·.1)) = .ok (byPart refs) := by
  have hwritten : List.Forall₂ (fun r e => attachmentRowOf r = .ok e) (byPart refs) (rows.insertionSort (·.1 ≤ ·.1)) := by
    refine OrderedMap.forall₂_insertionSort (fun r e he => ?_) (mapM_eq_ok.1 hrows)
    obtain ⟨size, -, he⟩ := except_bind_eq_ok.1 he
    cases he
    rfl
  have hmem : ∀ r ∈ byPart refs, r ∈ refs := fun r hr => (List.mem_insertionSort _).1 hr
  have hread : (rows.insertionSort (·.1 ≤ ·.1)).mapM (attachmentOfRow (a, email)) = .ok (byPart refs) := by
    refine mapM_eq_ok.2 ?_
    generalize byPart refs = read at hwritten hmem
    generalize rows.insertionSort (·.1 ≤ ·.1) = written at hwritten
    induction hwritten with
    | nil => exact .nil
    | @cons r e _ _ he _ ih =>
      obtain ⟨ha, hemail⟩ := howner r (hmem r List.mem_cons_self)
      refine .cons ?_ (ih fun r hr => hmem r (List.mem_cons_of_mem _ hr))
      rw [← ha, ← hemail]
      exact attachmentOfRow_rowOf he
  have hcheck : (byPart refs).forM validateAttachment = .ok () := forM_eq_ok.2 fun r hr => hvalid r (hmem r hr)
  simp only [attachmentsOfRows, hread]
  simp only [bind, Except.bind, hcheck, pure, Except.pure]

theorem faithful_replaceAttachmentRefs {a email : String} {refs : List AttachmentRef} (hj : Faithful db j)
    (h : db.replaceAttachmentRefs a email refs = .ok db') : Faithful db' (j.record (.replaceAttachmentRefs a email refs)) := by
  simp only [Db.replaceAttachmentRefs, transaction_ok, bind_eq_ok, conflictUnless_ok, execute_ok, given_ok] at h
  obtain ⟨_, _, _, ⟨-, rfl⟩, _, _, ⟨howner, rfl⟩, _, _, hvalid, _, _, hcache, _, _, hdelete, rows, _, ⟨hrows, rfl⟩, h⟩ := h
  obtain ⟨rfl, hchecked⟩ := forM_given hvalid
  obtain rfl := insertAttachmentCache_some hcache
  cases hdelete
  obtain ⟨t, ht, rfl⟩ := insertAttachments_some h
  simp only [Bool.and_eq_true, List.all_eq_true, decide_eq_true_eq] at howner
  have hread : attachmentsOfRows (a, email) (t.select (a, email)) = .ok (byPart refs) := by
    rw [OrderedMap.select_insertEach ht]
    exact attachmentsOfRows_rowOf howner.1 (fun r hr => orConflict_ok.1 (hchecked r hr)) hrows
  refine { hj with attachments := hj.attachments.wrote hread ?_ fun key hkey => ?_ }
  · simp [Db.attachmentRows]
  · have hselect : t.select key = db.attachmentRefs.select key :=
      OrderedMap.select_congr fun part => by
        rw [OrderedMap.get?_insertEach_of_ne ht hkey, OrderedMap.get?_clear, if_neg hkey]
    simp [Db.attachmentRows, OrderedMap.get?_set_ne _ _ hkey, hselect]

/-- Coverage is read as it was written. -/
theorem ordinals_read {coverage : List CoverageRange} {rows : List CoverageRow} (h : coverage.mapM coverageRowOf = .ok rows) :
    (ordinals rows).mapM rangeOfRow = .ok coverage := by
  have hwritten := mapM_eq_ok.1 h
  refine mapM_eq_ok.2 ?_
  unfold ordinals
  generalize 0 = n
  induction hwritten generalizing n with
  | nil => exact .nil
  | cons hw _ ih => exact .cons (rangeOfRow_rowOf hw n) (ih (mapM_eq_ok.2 ‹_›) (n + 1))

theorem items_sorted {v : MailboxView} (hv : validateView v = .ok ()) {rows : List (Int × String)}
    (hrows : v.items.mapM itemRowOf = .ok rows) : (rows.map (·.1)).Pairwise (· < ·) := by
  simp only [validateView, except_bind_eq_ok, corruptIf_ok, not_or, not_not] at hv
  obtain ⟨_, -, _, -, _, ⟨hchain, -⟩, -⟩ := hv
  have hkeys : rows.map (·.1) = (v.items.map (·.position)).map fun n => (n.toNat : Int) := by
    have hwritten := mapM_eq_ok.1 hrows
    clear hrows
    generalize v.items = items at hwritten
    induction hwritten with
    | nil => rfl
    | cons hw _ ih =>
      rw [List.map_cons, List.map_cons, List.map_cons, ih, (itemOfRow_rowOf hw).2]
  rw [hkeys, List.pairwise_map]
  refine (List.isChain_iff_pairwise.1 hchain).imp fun h => ?_
  have hlt := UInt64.lt_iff_toNat_lt.1 h
  omega

theorem records_writeView {v : MailboxView} (hv : validateView v = .ok ()) :
    Records (writeView v) fun j => { j with views := .wrote v.spec v :: j.views } := by
  intro db db' j u hj h
  simp only [writeView, bind_eq_ok, given_ok, execute_ok] at h
  obtain ⟨total, _, ⟨ht, rfl⟩, _, _, hview, _, _, hdc, _, _, hdi, coverage, _, ⟨hcoverage, rfl⟩, _, _, hic, items, _,
    ⟨hitems, rfl⟩, h⟩ := h
  obtain rfl := upsertView_some hview
  cases hdc
  cases hdi
  obtain ⟨c, hc, rfl⟩ := insertCoverage_some hic
  obtain ⟨_, i, hi, rfl⟩ := insertItems_some h
  have hselectc : c.select v.spec = ordinals coverage := by
    rw [OrderedMap.select_insertEach hc]
    exact (List.pairwise_map.1 (ordinals_sorted coverage)).imp (fun h => le_of_lt h) |>.insertionSort_eq
  have hselecti : i.select v.spec = items := by
    rw [OrderedMap.select_insertEach hi]
    exact (List.pairwise_map.1 (items_sorted hv hitems)).imp (fun h => le_of_lt h) |>.insertionSort_eq
  obtain ⟨hle, rfl⟩ := toI64_ok.1 ht
  have hread : viewOfRows v.spec (⟨v.queryState, v.total.toNat⟩, ordinals coverage, items) = .ok v := by
    have hitems' : items.mapM itemOfRow = .ok v.items := mapM_ofRow (fun a b hab => (itemOfRow_rowOf hab).1) hitems
    simp only [viewOfRows, decodeU64_toNat hle, ordinals_read hcoverage, hitems']
    simp only [bind, Except.bind, hv, pure, Except.pure]
  refine { hj with views := hj.views.wrote hread ?_ fun spec hspec => ?_ }
  · simp only [Db.viewRows, OrderedMap.get?_set_self, Option.map_some, hselectc, hselecti]
  · have hother : c.select spec = db.mailboxViewCoverage.select spec := OrderedMap.select_congr fun k => by
      rw [OrderedMap.get?_insertEach_of_ne hc hspec, OrderedMap.get?_clear, if_neg hspec]
    have hother' : i.select spec = db.mailboxViewItems.select spec := OrderedMap.select_congr fun k => by
      rw [OrderedMap.get?_insertEach_of_ne hi hspec, OrderedMap.get?_clear, if_neg hspec]
    simp only [Db.viewRows, OrderedMap.get?_set_ne _ _ hspec, hother, hother']

theorem faithful_replaceMailboxView {v : MailboxView} (hj : Faithful db j) (h : db.replaceMailboxView v = .ok db') :
    Faithful db' (j.record (.replaceMailboxView v)) := by
  simp only [Db.replaceMailboxView, transaction_ok, bind_eq_ok, given_ok, conflictUnless_ok, orConflict_ok] at h
  obtain ⟨u, _, _, ⟨hv, rfl⟩, _, _, ⟨-, rfl⟩, h⟩ := h
  exact records_writeView hv _ _ _ u hj h

theorem faithful_stageSendMutation {m : PendingMutation} (hj : Faithful db j) (h : db.stageSendMutation m = .ok db') :
    Faithful db' (j.record (.stageSendMutation m)) := by
  unfold Db.stageSendMutation at h
  split at h
  · simp only [Db.insertMutationOnly, transaction_ok, bind_eq_ok, given_ok, conflictUnless_ok, orConflict_ok] at h
    obtain ⟨u, _, _, ⟨hm, rfl⟩, _, _, ⟨-, rfl⟩, h⟩ := h
    exact records_insertMutation hm _ _ _ u hj h
  · cases h

theorem faithful_applyCollectionSync {commit : CollectionSyncCommit} (hj : Faithful db j)
    (h : db.applyCollectionSync commit = .ok db') : Faithful db' (j.record (.applyCollectionSync commit)) := by
  obtain ⟨u, h⟩ := transaction_ok.1 h
  exact (records_conflictUnless _).bind ((records_applyCommit _ commit).bind (records_upsertCursor _ _ _)) _ _ _ u hj h

theorem faithful_applyOptimisticKeywordMutation {m : PendingMutation} (hj : Faithful db j)
    (h : db.applyOptimisticKeywordMutation m = .ok db') : Faithful db' (j.record (.applyOptimisticKeywordMutation m)) := by
  unfold Db.applyOptimisticKeywordMutation at h
  split at h
  · rename_i id change hpayload
    simp only [transaction_ok, bind_eq_ok, given_ok, conflictUnless_ok, orConflict_ok, query_ok] at h
    obtain ⟨u, _, _, ⟨hm, rfl⟩, _, _, ⟨-, rfl⟩, email, _, ⟨hemail, rfl⟩, h⟩ := h
    simp only [Journal.record, hpayload, Journal.changedEmail]
    cases email with
    | none => cases h
    | some email =>
      have hlast : lastWritten j.emails (m.accountKey, id) = some email :=
        Except.ok.inj ((hj.emails (m.accountKey, id)).symm.trans hemail)
      rw [hlast]
      exact (records_writeEmail _).bind (records_insertMutation hm) _ _ _ u hj h
  · cases h

theorem faithful_applyOptimisticMailboxMembershipMutation {m : PendingMutation} (hj : Faithful db j)
    (h : db.applyOptimisticMailboxMembershipMutation m = .ok db') :
    Faithful db' (j.record (.applyOptimisticMailboxMembershipMutation m)) := by
  unfold Db.applyOptimisticMailboxMembershipMutation at h
  split at h
  · rename_i email change hpayload
    simp only [transaction_ok, bind_eq_ok, given_ok, conflictUnless_ok, orConflict_ok, query_ok, Except.ok.injEq] at h
    obtain ⟨u, _, _, ⟨hm, rfl⟩, _, _, ⟨-, rfl⟩, _, _, ⟨-, rfl⟩, ids, _, ⟨rfl, rfl⟩, _, _, ⟨-, rfl⟩, h⟩ := h
    simp only [Journal.record, hpayload, ← hj.memberships]
    exact (records_replaceMemberships _ _ _).bind (records_insertMutation hm) _ _ _ ⟨⟩ hj (bind_eq_ok.2 h)
  · cases h

theorem faithful_replacePendingMutationIfCurrent {expected next : PendingMutation} (hj : Faithful db j)
    (h : db.replacePendingMutationIfCurrent expected next = .ok db') :
    Faithful db' (j.record (.replacePendingMutationIfCurrent expected next)) := by
  simp only [Db.replacePendingMutationIfCurrent, transaction_ok, bind_eq_ok, given_ok, conflictUnless_ok, orConflict_ok,
    query_ok] at h
  obtain ⟨u, _, _, ⟨-, rfl⟩, _, _, ⟨hnext, rfl⟩, _, _, ⟨hsame, rfl⟩, _, _, ⟨-, rfl⟩, _, _, ⟨-, rfl⟩, h⟩ := h
  have hreplaced := (records_deleteMutation _ _).bind (records_insertMutation hnext) _ _ _ u hj (bind_eq_ok.2 h)
  simp only [sameImmutable, Bool.and_eq_true, decide_eq_true_eq] at hsame
  obtain ⟨⟨⟨⟨haccount, hid⟩, -⟩, -⟩, -⟩ := hsame
  refine { hreplaced with mutations := fun k => (hreplaced.mutations k).trans ?_ }
  -- the entry that was removed is the one that is written
  simp only [Journal.record, Journal.wroteMutation, Journal.removedMutation, lastWritten_wrote, lastWritten_removed, haccount, hid,
    decide_eq_true_eq]
  split <;> rfl

theorem faithful_removeConfirmedMutation {a id : String} (hj : Faithful db j) (h : db.removeConfirmedMutation a id = .ok db') :
    Faithful db' (j.record (.removeConfirmedMutation a id)) := by
  simp only [Db.removeConfirmedMutation, transaction_ok, bind_eq_ok, query_ok] at h
  obtain ⟨u, m, _, ⟨-, rfl⟩, h⟩ := h
  split at h
  · exact records_deleteMutation a id _ _ _ u hj h
  · cases h

end Boxplot.Persistence
