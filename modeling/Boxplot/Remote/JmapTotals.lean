import Boxplot.Remote.JmapSnapshot
/-!
# Totals that are not asked for

`queryEmails` does not ask for the total, so a server need not report one, and
what is not reported counts as 0: the first page of each mailbox is the last.
-/

namespace Boxplot.Jmap

open Domain Lib Remote JmapRemoteMail

namespace MailServer

variable {W : Type} {S : MailServer W}

/-- The email is on the page that a query from position 0 was answered with. -/
def OnFirstPage (x : Exchange W) (id : String) : Prop :=
  ∃ query w response, x = ⟨.emailQuery query, w, .ok response⟩ ∧ query.position = some 0 ∧ id ∈ response.ids.getD []

/-- The first pages are gathered, and the server holds what is on them. -/
def FirstPages (S : MailServer W) (w₀ : W) (ids : List String) (h : List (Exchange W)) : Prop :=
  Gathered OnFirstPage ids h ∧ ∀ id ∈ ids, S.holds w₀ id

theorem Gathered.snoc {shows : Exchange W → String → Prop} {ids page : List String} {h : List (Exchange W)}
    (hids : Gathered shows ids h) {x : Exchange W} (hx : ¬ x.isGet) (hpage : ∀ id, shows x id ↔ id ∈ page) :
    Gathered shows (page.foldl setAdd ids) (h ++ [x]) := by
  refine ⟨nodup_foldl_setAdd _ hids.nodup, fun id => ?_, fun y hy => ?_⟩
  · simp only [mem_foldl_setAdd, hids.mem, List.mem_append, List.mem_singleton, or_and_right, exists_or, exists_eq_left, hpage]
  · rcases List.mem_append.1 hy with hy | hy
    · exact hids.noGets y hy
    · rwa [List.mem_singleton.1 hy]

/-- The total counts as 0, so the first page is the last. -/
theorem ends_queryPages_noTotal (hS : ∀ query, S.reportsTotal query = query.calculateTotal) {w₀ : W} {accountId mailboxId : String}
    {ids : List String} {h : List (Exchange W)} (hids : S.FirstPages w₀ ids h) :
    (served (S.answersIn w₀)).wpA (queryPages accountId mailboxId maxPages 0 none none [] ids) (Ends False (S.FirstPages w₀)) h := by
  rw [show maxPages = 9999 + 1 from rfl, queryPages]
  refine ends_bind (ends_queryEmails (S := S) (fun w query r hr => ?_) h) ?_
  · obtain ⟨rfl, hr⟩ := hr
    exact .inl hr
  rintro result h' ⟨w, response, ⟨rfl, -⟩, ⟨n, c, hn, hresponse⟩, hpage, hstate, htotal, hpos, rfl⟩
  have hresult : ((S.result w mailboxId).drop 0).take n = result.ids := by
    rw [hresponse] at hpage
    exact Option.some.inj hpage
  have hposition : result.position = 0 := by
    rw [hresponse] at hpos
    exact (Option.some.inj hpos).symm
  have htotal0 : result.total = 0 := by
    rw [htotal, hresponse]
    simp [hS, emailQuery]
  have hshort : result.ids.length ≤ pageSize := by
    rw [← hresult, List.length_take]
    exact (min_le_left _ _).trans (hn pageSize rfl)
  have hnodup : ([] ++ result.ids).Nodup := by
    rw [List.nil_append, ← hresult]
    exact ((S.result_nodup w mailboxId).sublist (List.drop_sublist _ _)).sublist (List.take_sublist _ _)
  have hwell : malformed result 0 = false := by
    simp [malformed, isSafeInteger, htotal0, hposition, hshort]
  dsimp only
  rw [if_neg (by simp [hwell]), if_neg (by simp)]
  refine ends_lift (congrArg _ (addPage_of_nodup mailboxId ids hnodup)) ?_
  dsimp only
  rw [if_pos (by rw [htotal0, hposition]; positivity)]
  have hshown : ∀ id, OnFirstPage ⟨.emailQuery (emailQuery accountId mailboxId ⟨some 0, some pageSize, none, none⟩), w, .ok response⟩ id ↔
      id ∈ result.ids := by
    intro id
    constructor
    · rintro ⟨_, _, _, heq, -, hid⟩
      cases heq
      rwa [hpage] at hid
    · intro hid
      exact ⟨_, _, _, rfl, rfl, by rwa [hpage]⟩
  refine ⟨hids.1.snoc (by rintro ⟨_, _, hg⟩; cases hg) hshown, fun id hid => ?_⟩
  rcases (mem_foldl_setAdd _ _ _).1 hid with hid | hid
  · exact hids.2 id hid
  · rw [← hresult] at hid
    obtain ⟨raw, hraw, he, -⟩ := (S.mem_result _ _ _).1 (List.mem_of_mem_drop (List.mem_of_mem_take hid))
    exact ⟨raw, hraw, he⟩

theorem syncEmails_firstPages (hS : ∀ query, S.reportsTotal query = query.calculateTotal) (w₀ : W) (accountId : String) :
    (served (S.answersIn w₀)).wpA (syncEmails accountId none)
      (Ends False fun result h => ∃ state snapshot ids, result = .replace state snapshot ∧
        S.SnapshotOf OnFirstPage state snapshot ids h) [] := by
  have hanswer : ∀ {w e} {r : Reply e}, S.answersIn w₀ w e r →
      (∃ response, r = .ok response ∧ S.Answers w e response) ∨ False ∧ ∃ x, r = .error x := by
    rintro w e r ⟨rfl, hr⟩
    exact .inl hr
  refine ends_tryCatch (ends_bind (ends_getMailboxes (S := S) (fun w r => hanswer) []) ?_)
  rintro result h ⟨w, r, -, -, rfl⟩
  have hstart : S.FirstPages w₀ [] ([] ++ [⟨.mailboxGet accountId, w, r⟩]) :=
    ⟨⟨List.nodup_nil, by simp [OnFirstPage], by simp [Exchange.isGet]⟩, by simp⟩
  refine ends_bind (ends_queryMailboxes (fun mailboxId ids h hids => ends_queryPages_noTotal hS hids) _ hstart) ?_
  rintro ids h ⟨hids, hheld⟩
  have hsteady : S.Steady (S.answersIn w₀) accountId ids (S.emailState w₀) := by
    rintro w batch r ⟨rfl, -⟩
    exact ⟨rfl, hheld⟩
  refine Contract.wpA_mono _ ?_ (ends_snapshot hids (fun w ids r => hanswer) (.inr ⟨_, hsteady⟩))
  rintro (x | result) h' hr
  · exact hr
  · obtain ⟨state, snapshot, rfl, ⟨gets, rfl, hne, hgets⟩, hread⟩ := hr
    exact ⟨state, snapshot, ids, rfl, ⟨h, gets, rfl, hids, hne, hgets⟩, hread⟩

/-- Every email of every mailbox, once. -/
structure ContainsEachOnce (S : MailServer W) (w : W) (snapshot : List RemoteEmail) : Prop where
  nodup : (snapshot.map (·.id)).Nodup
  contains : ∀ mailbox ∈ S.mailboxes w, ∀ raw ∈ S.emails w, raw.isIn mailbox.id → ∃ email ∈ snapshot, raw.ReadsAs email

/-- The whole snapshot of a server that does not change, and reports totals only when asked, has every email once just
if each is on the first page of some mailbox. -/
theorem syncEmails_complete (hS : ∀ query, S.reportsTotal query = query.calculateTotal) {w₀ : W} {accountId : String}
    {outcome : Except JsError (RemoteCollectionSync RemoteEmail String)} {h : List (Exchange W)}
    (hrun : Exec (serve (S.answersIn w₀)) (syncEmails accountId none).run [] (some outcome) h) :
    (∃ state snapshot, outcome = .ok (.replace state snapshot) ∧ S.ContainsEachOnce w₀ snapshot) ↔
      ∀ mailbox ∈ S.mailboxes w₀, ∀ raw ∈ S.emails w₀, raw.isIn mailbox.id →
        ∃ x ∈ h, ∃ id, raw.id = some id ∧ OnFirstPage x id := by
  have hend := (hrun.sound trivial (syncEmails_firstPages hS w₀ accountId) fun _ _ _ => trivial).2 _ rfl
  cases outcome with
  | error x => exact hend.elim
  | ok result =>
    obtain ⟨state, snapshot, ids, rfl, ⟨queries, gets, rfl, hids, hne, hgets⟩, hread⟩ := hend
    -- all was answered in the one state
    obtain ⟨y, hy⟩ := List.exists_mem_of_ne_nil _ hne
    have hw : y.state = w₀ := (serve_answers hrun (by simp) y (List.mem_append_right _ hy)).1
    obtain ⟨hheld, hsnap⟩ := hread w₀ (hw ▸ (hgets y hy).2)
    constructor
    · rintro ⟨_, _, ⟨⟩, -, hall⟩ mailbox hm raw hraw hin
      obtain ⟨email, hemail, hreads⟩ := hall mailbox hm raw hraw hin
      have hmem : some email.id ∈ (S.heldOf w₀ ids).map (·.id) :=
        hsnap.ids.symm.subset (List.mem_map_of_mem (List.mem_map_of_mem hemail))
      obtain ⟨raw', hraw', heq⟩ := List.mem_map.1 hmem
      obtain ⟨-, id, hid, heq'⟩ := MailStore.mem_heldOf.1 hraw'
      obtain ⟨x, hx, hshown⟩ := (hids.mem id).1 hid
      exact ⟨x, List.mem_append_left _ hx, id, by rw [hreads.id, ← heq, heq'], hshown⟩
    · intro hpages
      refine ⟨state, snapshot, rfl, hsnap.nodup (MailStore.nodup_heldOf _ _), fun mailbox hm raw hraw hin => ?_⟩
      obtain ⟨x, hx, id, hid, hshown⟩ := hpages mailbox hm raw hraw hin
      rcases List.mem_append.1 hx with hx | hx
      · exact hsnap.mem (MailStore.mem_heldOf.2 ⟨hraw, id, (hids.mem id).2 ⟨x, hx, hshown⟩, hid⟩)
      · obtain ⟨_, _, _, rfl, -⟩ := hshown
        obtain ⟨_, _, hg⟩ := (hgets _ hx).1
        cases hg

end MailServer

/-! ### An inbox on two pages -/

/-- Two emails, of which a page shows one. -/
def twoPageServer : MailServer Unit where
  emails _ := [sampleRaw "e1", sampleRaw "e2"]
  emailState _ := "s1"
  nodup _ := by decide
  wellFormed _ raw h := by
    rcases List.mem_pair.1 h with rfl | rfl <;> exact sampleRaw_wellFormed (by decide)
  mailboxes _ := [sampleInbox]
  mailboxState _ := "m"
  result _ mailboxId := if mailboxId = "inbox" then ["e1", "e2"] else []
  queryState _ _ := "q1"
  reportsTotal query := query.calculateTotal
  result_nodup _ mailboxId := by split <;> decide
  mem_result _ mailboxId id := by
    by_cases hm : mailboxId = "inbox" <;> simp [hm, sampleRaw_isIn, sampleRaw_id]
  email_state _ _ _ := .refl _
  query_state _ _ _ _ := rfl

def firstPageOnly : List (Exchange Unit) :=
  ((syncEmails "a" none).run.play (twoPageServer.answering 1 fun _ => ()) []).2

def firstPageOutcome : Except JsError (RemoteCollectionSync RemoteEmail String) :=
  (((syncEmails "a" none).run.play (twoPageServer.answering 1 fun _ => ()) []).1).getD (.error (.error ""))

theorem firstPageOnly_run : Exec (serve (twoPageServer.answersIn ())) (syncEmails "a" none).run [] (some firstPageOutcome)
    firstPageOnly :=
  MailServer.run_of_answering (S := twoPageServer) 1 (fun _ => ())
    (fun e => ⟨rfl, _, rfl, MailServer.answer_answers 1 _ e⟩) (syncEmails "a" none).run

theorem syncEmails_complete_firstPageOnly :
    (∃ state snapshot, firstPageOutcome = .ok (.replace state snapshot) ∧ twoPageServer.ContainsEachOnce () snapshot) ↔
      ∀ mailbox ∈ twoPageServer.mailboxes (), ∀ raw ∈ twoPageServer.emails (), raw.isIn mailbox.id →
        ∃ x ∈ firstPageOnly, ∃ id, raw.id = some id ∧ MailServer.OnFirstPage x id :=
  MailServer.syncEmails_complete (fun _ => rfl) firstPageOnly_run

/-- The snapshot holds one of the two emails. -/
theorem secondPage_missed : ∃ outcome h, Exec (serve (twoPageServer.answersIn ())) (syncEmails "a" none).run [] (some outcome) h ∧
    ¬ ∃ state snapshot, outcome = .ok (.replace state snapshot) ∧ twoPageServer.ContainsEachOnce () snapshot := by
  refine ⟨_, _, firstPageOnly_run, ?_⟩
  rintro ⟨state, snapshot, heq, -, hall⟩
  obtain ⟨email, hemail, hreads⟩ := hall sampleInbox (by decide) (sampleRaw "e2") (by decide) (sampleRaw_isIn.2 rfl)
  have hids : (firstPageOutcome.toOption.map fun
      | .replace _ snapshot => snapshot.map (·.id)
      | .delta _ _ _ => []) = some ["e1"] := by decide +kernel
  rw [heq] at hids
  have hid : email.id = "e1" :=
    List.mem_singleton.1 (Option.some.inj hids ▸ List.mem_map_of_mem hemail)
  rw [sampleRaw_id.1 hreads.id] at hid
  exact absurd hid (by decide)

end Boxplot.Jmap
