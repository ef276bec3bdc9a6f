import Boxplot.Memory.Committed
import Boxplot.Remote.JmapSnapshot
import Boxplot.Sync.Views
/-!
# Views over JMAP

`syncQueryView` against an honest server and a store. The query asks for no
sort and no total, so a page with emails on it says that there are none, and
makes no view: only the view of an empty mailbox is ever stored.
-/

namespace Boxplot.Jmap

open Domain Lib Remote JmapRemoteMail Sync

variable {W : Type}

/-! ## What a view is to show -/

namespace MailServer

variable (S : MailServer W)

/-- The emails of the mailbox, the newest first. `instant` tells the time that a date stands for. -/
structure NewestFirst (instant : String → Int) (w : W) (mailboxId : String) (order : List RawJmapEmail) : Prop where
  perm : order.Perm ((S.emails w).filter fun raw => raw.isIn mailboxId)
  sorted : order.Pairwise fun a b => instant (b.receivedAt.getD "") ≤ instant (a.receivedAt.getD "")

/-- The view has the number of emails, and the first of them on a page of its own. -/
def ShownBy (instant : String → Int) (w : W) (mailboxId : ScopedMailboxId) (view : MailboxView) : Prop :=
  ∃ order, S.NewestFirst instant w mailboxId.jmapId order ∧ view.total = order.length ∧
    view.items.map (·.position) = List.range (min queryPageSize order.length) ∧
    view.items.map (·.emailId) = (order.take queryPageSize).map fun raw => ⟨mailboxId.accountKey, raw.id.getD ""⟩

/-- The store's view of the spec shows the mailbox. -/
def Stored (instant : String → Int) (w : W) (spec : MailboxViewSpec) (engine : Memory.Engine) : Prop :=
  ∃ view, engine.readMailboxView spec = .cached view ∧ S.ShownBy instant w spec.mailboxId view

/-! ## Server and store -/

/-- A query is answered in the state `w₀`, or rejected. A page of some length is empty only past the last email. -/
def answersQueries (w₀ w : W) : (e : JamRequest) → Reply e → Prop
  | .emailQuery query, .ok response => w = w₀ ∧ S.AnswersQuery w query response ∧
      (response.ids = some [] → query.limit = some 0 ∨ (S.result w query.inMailbox).length ≤ (query.position.getD 0).toNat)
  | _, _ => True

def portsStep (w₀ : W) (engine : Memory.Engine) : (e : ViewCall) → ViewReply e → Memory.Engine → Prop
  | .queryMailbox remoteAccountId mailboxId options, r, engine' => engine' = engine ∧
      ∃ h, Exec (serve (S.answersQueries w₀)) (queryMailbox remoteAccountId mailboxId options).run [] (some r) h
  | .replaceMailboxView view, r, engine' =>
    match Memory.replaceMailboxView view engine with
    | .ok .ok s => r = .ok () ∧ engine' = s
    | .ok .conflict s => r = .failed .conflict ∧ engine' = s
    | .error _ s => r = .rejected ∧ engine' = s

variable {S}

theorem result_eq_nil {w : W} {mailboxId : String} :
    S.result w mailboxId = [] ↔ (S.emails w).filter (fun raw => raw.isIn mailboxId) = [] := by
  rw [List.eq_nil_iff_forall_not_mem, List.filter_eq_nil_iff]
  constructor
  · intro h raw hraw hin
    obtain ⟨id, hid, -⟩ := (S.wellFormed w raw hraw).id
    exact h id ((S.mem_result w mailboxId id).2 ⟨raw, hraw, hid, of_decide_eq_true hin⟩)
  · intro h id hid
    obtain ⟨raw, hraw, -, hin⟩ := (S.mem_result w mailboxId id).1 hid
    exact h raw hraw (decide_eq_true hin)

/-- A page that was not asked to have a total has none. -/
theorem queryMailbox_ok (hS : ∀ query, S.reportsTotal query = query.calculateTotal) {w₀ : W} {accountId mailboxId : String}
    {limit : Nat} (hlimit : limit ≠ 0) {result : RemoteMailboxQuery} {h : List (Exchange W)}
    (hrun : Exec (serve (S.answersQueries w₀)) (queryMailbox accountId mailboxId (some ⟨none, some limit, none, none⟩)).run []
      (some (.ok result)) h) :
    result.total = 0 ∧ result.position = 0 ∧ result.queryState = S.queryState w₀ mailboxId ∧
      (result.ids = [] ↔ S.result w₀ mailboxId = []) := by
  have hwp : (served (S.answersQueries w₀)).wpA (queryMailbox accountId mailboxId (some ⟨none, some limit, none, none⟩))
      (Ends True fun result _ => result.total = 0 ∧ result.position = 0 ∧ result.queryState = S.queryState w₀ mailboxId ∧
        (result.ids = [] ↔ S.result w₀ mailboxId = [])) [] := by
    refine ends_tryCatch (ends_bind (ends_queryEmails (S := S) (fun w query r hr => ?_) []) ?_)
    · cases r with
      | ok response => exact .inl ⟨response, rfl, hr.2.1⟩
      | error x => exact .inr ⟨trivial, x, rfl⟩
    rintro query h' ⟨w, response, ⟨rfl, -, hempty⟩, ⟨n, c, -, hresponse⟩, hids, hstate, htotal, hposition, -⟩
    change Ends True _ ((mapJmapQuery query).mapError JsError.typeError) h'
    cases hmap : mapJmapQuery query with
    | error m => trivial
    | ok result =>
      obtain ⟨ids, hmapped, h⟩ := except_bind_eq_ok.1 hmap
      cases h
      have hlength : query.ids.length = ids.length := (mapM_eq_ok.1 hmapped).length_eq
      have hpage : ids = [] ↔ query.ids = [] := by
        rw [← List.length_eq_zero_iff, ← hlength, List.length_eq_zero_iff]
      rw [hresponse] at hids htotal hposition
      refine ⟨?_, (Option.some.inj hposition).symm, hstate, hpage.trans ⟨fun hnil => ?_, fun hnil => ?_⟩⟩
      · rw [show query.total = _ from htotal]
        simp [hS, emailQuery]
      · have hle := (hempty (by rw [hresponse, hids, hnil])).resolve_left fun h => hlimit (Option.some.inj h)
        exact List.length_eq_zero_iff.1 (Nat.le_zero.1 hle)
      · simpa [emailQuery, hnil, eq_comm] using hids
  exact (hrun.sound trivial hwp fun _ _ _ => trivial).2 _ rfl

/-- A view that was stored is read back. -/
theorem replaceMailboxView_read {view : MailboxView} {engine engine' : Memory.Engine}
    (h : Memory.replaceMailboxView view engine = .ok .ok engine') : engine'.readMailboxView view.spec = .cached view := by
  rw [Memory.replaceMailboxView_eq] at h
  simp only [Memory.settle, Memory.SyncOperation.commit] at h
  by_cases hhas : engine.mailboxes.has view.spec.mailboxId = true
  · rw [if_pos hhas] at h
    cases hview : mailboxView view with
    | error m =>
      rw [hview] at h
      cases h
    | ok copy =>
      obtain ⟨rfl, -⟩ := mailboxView_ok.1 hview
      rw [hview] at h
      cases h
      simp only [Memory.Engine.readMailboxView, Memory.Engine.ownedCache, OrderedMap.get?_set_self]
      rw [if_pos hhas]
  · rw [if_neg hhas] at h
    cases h

theorem wp_storeView (w₀ : W) (view : Option MailboxView) (engine : Memory.Engine) :
    (keeps (S.portsStep w₀) fun _ => True).wpA (storeView view) (fun r engine' => r = .ok () →
      match view with
      | none => engine' = engine
      | some view => engine'.readMailboxView view.spec = .cached view) engine := by
  cases view with
  | none => exact fun _ => rfl
  | some view =>
    refine ⟨trivial, ?_⟩
    rintro r engine' hstep
    change match Memory.replaceMailboxView view engine with
      | .ok .ok s => r = .ok () ∧ engine' = s
      | .ok .conflict s => r = .failed .conflict ∧ engine' = s
      | .error _ s => r = .rejected ∧ engine' = s at hstep
    split at hstep
    · rename_i s hwritten
      obtain ⟨rfl, rfl⟩ := hstep
      exact fun _ => replaceMailboxView_read hwritten
    · obtain ⟨rfl, rfl⟩ := hstep
      exact fun h => by cases h
    · obtain ⟨rfl, rfl⟩ := hstep
      exact fun h => by cases h

/-- A synchronisation that resolves has stored the empty view of an empty mailbox, or nothing. -/
theorem wp_syncQueryView (hS : ∀ query, S.reportsTotal query = query.calculateTotal) {w₀ : W} (accountKey : AccountKey)
    (remoteAccountId : String) (spec : MailboxViewSpec) (engine : Memory.Engine) :
    (keeps (S.portsStep w₀) fun _ => True).wpA (syncQueryView accountKey remoteAccountId spec) (fun r engine' => r = .ok () →
      if S.result w₀ spec.mailboxId.jmapId = [] ∧ S.queryState w₀ spec.mailboxId.jmapId ≠ "" then
        engine'.readMailboxView spec = .cached ⟨spec, S.queryState w₀ spec.mailboxId.jmapId, 0, [], []⟩
      else engine' = engine) engine := by
  unfold syncQueryView
  refine Contract.wpA_bind_of (P := fun r engine' => engine' = engine ∧ ∀ id, r = .ok id → id = spec.mailboxId.jmapId) ?_ ?_ ?_
  · refine ⟨rfl, fun id hid => ?_⟩
    have hid := mapError_eq_ok.1 hid
    unfold remoteMailboxId remoteIdFromString at hid
    split at hid
    · cases hid
    · exact (Except.ok.inj hid).symm
  · rintro id engine' ⟨heq, hid⟩
    subst engine'
    obtain rfl := hid id rfl
    refine ⟨trivial, ?_⟩
    rintro r engine' ⟨heq, h, hrun⟩
    subst engine'
    cases r with
    | error x => exact fun hx => by cases hx
    | ok result =>
      obtain ⟨htotal, hposition, hstate, hids⟩ := queryMailbox_ok hS (by decide) hrun
      refine Contract.wpA_mono _ (fun r engine' hr hok => ?_) (wp_storeView w₀ (toMailboxView spec accountKey result) engine)
      have hr := hr hok
      by_cases hnil : result.ids = []
      · rw [toMailboxView_empty hnil htotal, hstate] at hr
        by_cases hqs : S.queryState w₀ spec.mailboxId.jmapId = ""
        · rw [if_pos hqs] at hr
          rwa [if_neg fun h => h.2 hqs]
        · rw [if_neg hqs] at hr
          rwa [if_pos ⟨hids.1 hnil, hqs⟩]
      · -- the emails of the page lie past a total of 0
        have hnone : toMailboxView spec accountKey result = none := by
          refine Option.eq_none_iff_forall_ne_some.2 fun view hview => ?_
          have hpos := List.length_pos_iff.2 hnil
          have hwithin := (toMailboxView_within hview).resolve_right hnil
          omega
        rw [hnone] at hr
        rwa [if_neg fun h => hnil (hids.2 h.1)]
  · exact fun _ _ _ hx => by cases hx

/-- After a synchronisation that resolves, the store's view shows the mailbox just if the mailbox is empty and its query state is
not, or if the view showed it before. -/
theorem syncQueryView_shows (hS : ∀ query, S.reportsTotal query = query.calculateTotal) (instant : String → Int) {w₀ : W}
    {accountKey : AccountKey} {remoteAccountId mailboxId : String} {engine engine' : Memory.Engine}
    (hrun : Exec (S.portsStep w₀) (syncQueryView accountKey remoteAccountId ⟨⟨accountKey, mailboxId⟩, .descending⟩).run engine
      (some (.ok ())) engine') :
    S.Stored instant w₀ ⟨⟨accountKey, mailboxId⟩, .descending⟩ engine' ↔
      ((S.emails w₀).filter (fun raw => raw.isIn mailboxId) = [] ∧ S.queryState w₀ mailboxId ≠ "") ∨
        S.Stored instant w₀ ⟨⟨accountKey, mailboxId⟩, .descending⟩ engine := by
  have hstored := (hrun.sound trivial (wp_syncQueryView hS accountKey remoteAccountId _ engine) fun _ _ _ => trivial).2 _ rfl rfl
  rw [← result_eq_nil]
  split at hstored
  · rename_i hempty
    refine iff_of_true ⟨_, hstored, [], ⟨?_, .nil⟩, rfl, rfl, rfl⟩ (.inl hempty)
    rw [result_eq_nil.1 hempty.1]
  · rename_i hempty
    rw [hstored]
    exact ⟨.inr, fun h => h.resolve_left hempty⟩

end MailServer

/-! ### An inbox with a message, and without -/

/-- A total is reported just where it is asked for. -/
def plainServer : MailServer Bool := { deliveringServer with reportsTotal := EmailQuery.calculateTotal }

theorem plainServer_query (delivered : Bool) : ∃ h, Exec (serve (plainServer.answersQueries delivered))
    (queryMailbox "a" "inbox" (some ⟨none, some queryPageSize, none, none⟩)).run []
      (some (.ok ⟨if delivered then ["e1"] else [], if delivered then "q1" else "q0", 0, 0, false⟩)) h := by
  have hanswers : ∀ e, plainServer.answersQueries delivered delivered e (.ok (plainServer.answer 500 delivered e)) := by
    rintro (_ | query | _ | _)
    · trivial
    · refine ⟨rfl, MailServer.answer_answers 500 delivered (.emailQuery query), fun hempty => ?_⟩
      have hnil := List.take_eq_nil_iff.1 (Option.some.inj hempty)
      rcases hnil with hzero | hnil
      · cases hlimit : query.limit with
        | none => simp [hlimit] at hzero
        | some limit =>
          simp only [hlimit, Option.getD_some] at hzero
          exact .inl (congrArg some (by omega))
      · exact .inr (List.drop_eq_nil_iff.1 hnil)
    · trivial
    · trivial
  have hrun := MailServer.run_of_answering (S := plainServer) 500 (fun _ => delivered) hanswers
    (queryMailbox "a" "inbox" (some ⟨none, some queryPageSize, none, none⟩)).run
  cases delivered <;> exact ⟨_, hrun⟩

/-- An account with an inbox, of which there is no view yet. -/
def inboxEngine : Memory.Engine :=
  finalState ((do
    let _ ← Memory.registerAccount ⟨"k", ⟨"service", "a"⟩⟩
    Memory.applyCollectionSync (.mailbox ⟨"k", .mailbox, "m"⟩ (.replace .absent
      [⟨⟨"k", "inbox"⟩, "Inbox", none, some "inbox", 0, 0, 0, ⟨true, true, true, true, true, true⟩⟩]))) Memory.Engine.empty)

def inboxSpec : MailboxViewSpec := ⟨⟨"k", "inbox"⟩, .descending⟩

theorem syncQueryView_shows_empty : ∃ engine',
    Exec (plainServer.portsStep false) (syncQueryView "k" "a" inboxSpec).run inboxEngine (some (.ok ())) engine' ∧
      plainServer.Stored (fun _ => 0) false inboxSpec engine' := by
  obtain ⟨h, hquery⟩ := plainServer_query false
  have hrun : Exec (plainServer.portsStep false) (syncQueryView "k" "a" inboxSpec).run inboxEngine (some (.ok ()))
      (finalState (Memory.replaceMailboxView ⟨inboxSpec, "q0", 0, [], []⟩ inboxEngine)) :=
    .step ⟨rfl, h, hquery⟩ (.step ⟨rfl, rfl⟩ (.done _ _))
  exact ⟨_, hrun, (MailServer.syncQueryView_shows (fun _ => rfl) (fun _ => 0) hrun).2 (.inl ⟨rfl, by decide⟩)⟩

/-- The message is there, and after the synchronisation there is still no view. -/
theorem syncQueryView_lost : ∃ engine',
    Exec (plainServer.portsStep true) (syncQueryView "k" "a" inboxSpec).run inboxEngine (some (.ok ())) engine' ∧
      ∀ instant, ¬ plainServer.Stored instant true inboxSpec engine' := by
  obtain ⟨h, hquery⟩ := plainServer_query true
  refine ⟨inboxEngine, .step ⟨rfl, h, hquery⟩ (.done _ _), ?_⟩
  rintro instant ⟨view, hview, -⟩
  cases hview

end Boxplot.Jmap
