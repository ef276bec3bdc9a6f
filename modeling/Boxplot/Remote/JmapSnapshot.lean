import Boxplot.Remote.JmapServer
/-!
# Whole snapshots over JMAP

`completeEmailSnapshot` against an honest server: its queries read each mailbox
as it was at one of the server's states, its gets read the emails at one state,
and nothing relates the two.
-/

namespace Boxplot.Jmap

open Domain Lib Remote JmapRemoteMail

/-! ## The server -/

/-- An honest server. A state token stands for the emails, a query state for the result of the query. -/
structure MailServer (W : Type) extends MailStore W where
  mailboxes : W → List RawJmapMailbox
  mailboxState : W → String
  /-- All emails of a mailbox, as a query orders them. -/
  result : W → String → List String
  queryState : W → String → String
  reportsTotal : EmailQuery → Bool
  result_nodup : ∀ w mailboxId, (result w mailboxId).Nodup
  mem_result : ∀ w mailboxId id, id ∈ result w mailboxId ↔ ∃ raw ∈ emails w, raw.id = some id ∧ raw.isIn mailboxId
  email_state : ∀ w w', emailState w = emailState w' → (emails w).Perm (emails w')
  query_state : ∀ w w' mailboxId, queryState w mailboxId = queryState w' mailboxId → result w mailboxId = result w' mailboxId

namespace MailServer

variable {W : Type} (S : MailServer W)

/-- An answer to `Email/query`: as many ids as the server likes, up to the limit. -/
def AnswersQuery (w : W) (query : EmailQuery) (response : RawJmapQueryResponse) : Prop :=
  ∃ (n : Nat) (canCalculateChanges : Option Bool), (∀ limit, query.limit = some limit → n ≤ limit) ∧
    response = { ids := some (((S.result w query.inMailbox).drop (query.position.getD 0).toNat).take n),
                 queryState := some (S.queryState w query.inMailbox),
                 total := if S.reportsTotal query then some ((S.result w query.inMailbox).length : Int) else none,
                 position := some ((query.position.getD 0).toNat : Int), canCalculateChanges }

def Answers (w : W) : (e : JamRequest) → RawResponse e → Prop
  | .mailboxGet _, response => response = ⟨some (S.mailboxes w), some (S.mailboxState w)⟩
  | .emailQuery query, response => S.AnswersQuery w query response
  | .emailGet _ ids, response => S.AnswersGet w ids response
  | .emailChanges _ _, _ => True

/-- A request is answered honestly, or rejected. -/
def answersOrRejects (w : W) (e : JamRequest) (r : Reply e) : Prop :=
  (∃ response, r = .ok response ∧ S.Answers w e response) ∨ ∃ x, r = .error x

/-- Every request is answered, always in the state `w₀`. -/
def answersIn (w₀ w : W) (e : JamRequest) (r : Reply e) : Prop :=
  w = w₀ ∧ ∃ response, r = .ok response ∧ S.Answers w e response

variable {S}

theorem ends_getMailboxes {answers : W → (e : JamRequest) → Reply e → Prop} {fails : Prop} {accountId : String}
    (ha : ∀ w r, answers w (.mailboxGet accountId) r →
      (∃ response, r = .ok response ∧ S.Answers w (.mailboxGet accountId) response) ∨ fails ∧ ∃ x, r = .error x)
    (h : List (Exchange W)) :
    (served answers).wpA (getMailboxes accountId) (Ends fails fun result h' => ∃ w r,
      answers w (.mailboxGet accountId) r ∧ result.mailboxes.map (·.id) = (S.mailboxes w).map (·.id) ∧
      h' = h ++ [⟨.mailboxGet accountId, w, r⟩]) h := by
  refine ends_bind (ends_jamRequest (G := fun w response => S.Answers w (.mailboxGet accountId) response) ha) ?_
  rintro response h' ⟨w, hw, rfl, rfl⟩
  exact ⟨w, _, hw, by simp [mapMailbox, Function.comp_def], rfl⟩

/-! ## Gathering ids -/

/-- The ids are those that some exchange shows, and nothing was fetched yet. -/
structure Gathered (shows : Exchange W → String → Prop) (ids : List String) (h : List (Exchange W)) : Prop where
  nodup : ids.Nodup
  mem : ∀ id, id ∈ ids ↔ ∃ x ∈ h, shows x id
  noGets : ∀ x ∈ h, ¬ x.isGet

/-- What the pages of one mailbox keep, those of all keep. -/
theorem ends_queryMailboxes {answers : W → (e : JamRequest) → Reply e → Prop} {fails : Prop} {accountId : String}
    {I : List String → List (Exchange W) → Prop}
    (hpages : ∀ mailboxId ids h, I ids h →
      (served answers).wpA (queryPages accountId mailboxId maxPages 0 none none [] ids) (Ends fails I) h)
    {ids : List String} (mailboxes : List JmapMailbox) {h : List (Exchange W)} (hids : I ids h) :
    (served answers).wpA (queryMailboxes accountId ids mailboxes) (Ends fails I) h := by
  induction mailboxes generalizing ids h with
  | nil => exact hids
  | cons mailbox rest ih => exact ends_bind (hpages mailbox.id ids h hids) fun _ _ => ih

theorem addPage_eq_ok {mailboxId : String} {page mailboxIds ids : List String} {added : List String × List String}
    (h : addPage mailboxId mailboxIds ids page = .ok added) : added = (mailboxIds ++ page, page.foldl setAdd ids) := by
  induction page generalizing mailboxIds ids with
  | nil => rw [List.append_nil]; exact (Except.ok.inj h).symm
  | cons id rest ih =>
    rw [addPage] at h
    split at h
    · cases h
    · rw [ih h, List.append_assoc, List.singleton_append, List.foldl_cons]

theorem addPage_of_nodup (mailboxId : String) {page mailboxIds : List String} (ids : List String)
    (h : (mailboxIds ++ page).Nodup) : addPage mailboxId mailboxIds ids page = .ok (mailboxIds ++ page, page.foldl setAdd ids) := by
  induction page generalizing mailboxIds ids with
  | nil => simp [addPage]
  | cons id rest ih =>
    have hid : id ∉ mailboxIds := fun hm => (List.nodup_append.1 h).2.2 id hm id List.mem_cons_self rfl
    rw [addPage, if_neg hid, ih _ (by simpa using h), List.append_assoc, List.singleton_append, List.foldl_cons]

/-! ## The pages of a mailbox -/

/-- A query of the mailbox, in a state whose result has the email. -/
def Shows (S : MailServer W) (x : Exchange W) (id : String) : Prop :=
  ∃ query, x.request = .emailQuery query ∧ id ∈ S.result x.state query.inMailbox

/-- The first `p` ids of the mailbox are read, all from one result, since the ids `ids₀` were gathered. -/
structure Paging (S : MailServer W) (mailboxId : String) (ids₀ : List String) (h₀ : List (Exchange W)) (p : Nat)
    (queryState : Option String) (mailboxIds ids : List String) (h : List (Exchange W)) : Prop where
  nodup : ids.Nodup
  mem : ∀ id, id ∈ ids ↔ id ∈ ids₀ ∨ id ∈ mailboxIds
  pages : ∃ pages, h = h₀ ++ pages ∧ (∀ x ∈ pages, ∃ query, x.request = .emailQuery query ∧ query.inMailbox = mailboxId) ∧
    ∀ w, (queryState = none ∨ queryState = some (S.queryState w mailboxId)) →
      mailboxIds = (S.result w mailboxId).take p ∧ ∀ x ∈ pages, S.result x.state mailboxId = S.result w mailboxId

/-- A page of the same result is read. -/
theorem Paging.step {mailboxId : String} {ids₀ : List String} {h₀ h : List (Exchange W)} {p : Nat} {queryState : Option String}
    {mailboxIds ids : List String} (hp : S.Paging mailboxId ids₀ h₀ p queryState mailboxIds ids h) {w : W}
    (hw : queryState.getD (S.queryState w mailboxId) = S.queryState w mailboxId) (query : EmailQuery)
    (hquery : query.inMailbox = mailboxId) (r : Reply (.emailQuery query)) {page : List String}
    (hpage : page = ((S.result w mailboxId).drop p).take page.length) :
    S.Paging mailboxId ids₀ h₀ (p + page.length) (some (S.queryState w mailboxId)) (mailboxIds ++ page) (page.foldl setAdd ids)
      (h ++ [⟨.emailQuery query, w, r⟩]) := by
  obtain ⟨pages, rfl, hpages, hsame⟩ := hp.pages
  have hstate : queryState = none ∨ queryState = some (S.queryState w mailboxId) := by
    cases queryState with
    | none => exact .inl rfl
    | some s => exact .inr (congrArg some hw)
  refine ⟨nodup_foldl_setAdd _ hp.nodup, fun id => ?_, _, List.append_assoc _ _ _, fun x hx => ?_, fun w' hw' => ?_⟩
  · rw [mem_foldl_setAdd, hp.mem, List.mem_append, or_assoc]
  · rcases List.mem_append.1 hx with hx | hx
    · exact hpages x hx
    · obtain rfl := List.mem_singleton.1 hx
      exact ⟨query, rfl, hquery⟩
  · obtain ⟨hread, hx⟩ := hsame w hstate
    have hres : S.result w mailboxId = S.result w' mailboxId :=
      S.query_state w w' mailboxId (by rcases hw' with hw' | hw'; cases hw'; exact Option.some.inj hw')
    refine ⟨?_, fun x hm => ?_⟩
    · rw [← hres, List.take_add, ← hpage, ← hread]
    · rcases List.mem_append.1 hm with hm | hm
      · exact (hx x hm).trans hres
      · obtain rfl := List.mem_singleton.1 hm
        exact hres

/-- The whole result is read. -/
theorem Paging.gathered {mailboxId : String} {ids₀ : List String} {h₀ h : List (Exchange W)} {p : Nat} {w : W}
    {mailboxIds ids : List String} (hp : S.Paging mailboxId ids₀ h₀ p (some (S.queryState w mailboxId)) mailboxIds ids h)
    (hids : Gathered S.Shows ids₀ h₀) {query : EmailQuery} (hquery : query.inMailbox = mailboxId) {r : Reply (.emailQuery query)}
    (hx : ⟨.emailQuery query, w, r⟩ ∈ h) (hend : (S.result w mailboxId).length ≤ p) : Gathered S.Shows ids h := by
  obtain ⟨pages, rfl, hpages, hsame⟩ := hp.pages
  obtain ⟨hread, hres⟩ := hsame w (.inr rfl)
  rw [List.take_of_length_le hend] at hread
  refine ⟨hp.nodup, fun id => ?_, fun x hm => ?_⟩
  · rw [hp.mem, hids.mem]
    constructor
    · rintro (⟨x, hm, hs⟩ | hid)
      · exact ⟨x, List.mem_append_left _ hm, hs⟩
      · exact ⟨_, hx, query, rfl, by rwa [hquery, ← hread]⟩
    · rintro ⟨x, hm, hs⟩
      rcases List.mem_append.1 hm with hm | hm
      · exact .inl ⟨x, hm, hs⟩
      · obtain ⟨query', hq', hid⟩ := hs
        obtain ⟨query'', hq'', hbox⟩ := hpages x hm
        obtain rfl : query' = query'' := by simpa using hq'.symm.trans hq''
        rw [hbox, hres x hm] at hid
        exact .inr (by rwa [hread])
  · rcases List.mem_append.1 hm with hm | hm
    · exact hids.noGets x hm
    · rintro ⟨accountId, batch, hg⟩
      obtain ⟨query', hq', -⟩ := hpages x hm
      rw [hg] at hq'
      cases hq'

theorem ends_queryEmails {answers : W → (e : JamRequest) → Reply e → Prop} {fails : Prop} {accountId mailboxId : String}
    {options : QueryOptions}
    (ha : ∀ w query r, answers w (.emailQuery query) r →
      (∃ response, r = .ok response ∧ S.AnswersQuery w query response) ∨ fails ∧ ∃ x, r = .error x)
    (h : List (Exchange W)) :
    (served answers).wpA (queryEmails accountId mailboxId options) (Ends fails fun result h' => ∃ w response,
      answers w (.emailQuery (emailQuery accountId mailboxId options)) (.ok response) ∧
      S.AnswersQuery w (emailQuery accountId mailboxId options) response ∧ response.ids = some result.ids ∧
      result.queryState = S.queryState w mailboxId ∧ result.total = response.total.getD 0 ∧
      response.position = some result.position ∧
      h' = h ++ [⟨.emailQuery (emailQuery accountId mailboxId options), w, .ok response⟩]) h := by
  refine ends_bind (ends_jamRequest (ha · (emailQuery accountId mailboxId options) ·)) ?_
  rintro response h' ⟨w, hw, hr, rfl⟩
  obtain ⟨n, c, hn, rfl⟩ := id hr
  exact ⟨w, _, hw, hr, rfl, rfl, rfl, rfl, rfl⟩

/-- Against a server that reports totals, the pages of a mailbox are gathered or the call throws. -/
theorem ends_queryPages (hS : ∀ query, S.reportsTotal query = true) {accountId mailboxId : String} {ids₀ : List String}
    {h₀ : List (Exchange W)} (hids : Gathered S.Shows ids₀ h₀) (left p : Nat) (total : Option Int) (queryState : Option String)
    (mailboxIds ids : List String) (h : List (Exchange W)) (hleft : left ≠ 0)
    (hp : S.Paging mailboxId ids₀ h₀ p queryState mailboxIds ids h) :
    (served S.answersOrRejects).wpA (queryPages accountId mailboxId left p total queryState mailboxIds ids)
      (Ends True (Gathered S.Shows)) h := by
  induction left generalizing p total queryState mailboxIds ids h with
  | zero => exact absurd rfl hleft
  | succ left ih =>
    unfold queryPages
    refine ends_bind (ends_queryEmails (S := S) (fun w query r hr => ?_) h) ?_
    · exact hr.imp id fun hx => ⟨trivial, hx⟩
    rintro result h' ⟨w, response, -, ⟨n, c, hn, hresponse⟩, hpage, hstate, htotal, hpos, rfl⟩
    rw [hresponse] at hpage htotal hpos
    split
    · trivial
    dsimp only
    split
    · trivial
    rename_i hsame
    -- the page is part of the result the earlier pages were read from
    have hw : queryState.getD (S.queryState w mailboxId) = S.queryState w mailboxId := by
      simp only [hstate, not_or, ne_eq, not_not] at hsame
      exact hsame.2.symm
    have hslice : result.ids = ((S.result w mailboxId).drop p).take result.ids.length := by
      have hids : ((S.result w mailboxId).drop p).take n = result.ids := Option.some.inj hpage
      rw [← hids, List.length_take, ← List.take_eq_take_min]
    cases hadd : addPage mailboxId mailboxIds ids result.ids with
    | error x => exact ends_bind (P := fun _ _ => False) trivial fun _ _ hf => hf.elim
    | ok added =>
      obtain rfl := addPage_eq_ok hadd
      have hstep := hp.step hw (emailQuery accountId mailboxId ⟨some p, some pageSize, none, none⟩) rfl (.ok response) hslice
      have hnext : result.position = p := (Option.some.inj hpos).symm
      refine ends_lift rfl ?_
      dsimp only
      split
      · -- the last page
        rename_i hend
        refine hstep.gathered hids rfl (List.mem_append_right _ (List.mem_singleton_self _)) ?_
        have ht : result.total = (S.result w mailboxId).length := by simpa [hS, emailQuery] using htotal
        rw [hnext, ht] at hend
        exact_mod_cast hend
      split
      · trivial
      split
      · trivial
      · rename_i hmore hleft'
        have hrest := ih (p + result.ids.length) (some (total.getD result.total)) _ _ _ _ hleft' hstep
        rw [hnext, hstate, hw]
        exact_mod_cast hrest

/-! ## Snapshots -/

/-- Gathered ids are fetched and mapped; the fetch throws only if it may. -/
theorem ends_snapshot {answers : W → (e : JamRequest) → Reply e → Prop} {fails : Prop} {accountId : String}
    {shows : Exchange W → String → Prop} {h₀ : List (Exchange W)} {ids : List String} (hids : Gathered shows ids h₀)
    (hg : S.HonestGets answers fails accountId) (hsteady : fails ∨ ∃ state, S.Steady answers accountId ids state) :
    (served answers).wpA (do
      let (emails, state) ← fetchExactEmails accountId ids true
      let snapshot ← checked (emails.mapM mapJmapEmail)
      checked (validateRemoteCollectionSync (.replace state snapshot) (·.id)))
    (Ends fails fun result h => ∃ state snapshot, result = .replace state snapshot ∧
      (∃ gets, h = h₀ ++ gets ∧ gets ≠ [] ∧ ∀ y ∈ gets, y.isGet ∧ S.emailState y.state = state) ∧
      ∀ w, S.emailState w = state → (∀ id ∈ ids, S.holds w id) ∧ MailStore.IsSnapshot (S.heldOf w ids) snapshot) h₀ := by
  refine ends_bind (MailStore.ends_fetchExactEmails hg (fun w w' hw => S.email_state w w' (hw rfl)) hsteady hids.nodup h₀) ?_
  rintro ⟨emails, state⟩ h ⟨⟨gets, rfl, hne, hgets⟩, hfetched⟩
  obtain ⟨y, hy⟩ := List.exists_mem_of_ne_nil _ hne
  -- the snapshot is that of the state of any of the gets
  have hf := hfetched y.state (hgets y hy).2
  obtain ⟨snapshot, hmap, hs⟩ := hf.mapped
  have hcheck : validateRemoteCollectionSync (.replace state snapshot) (·.id) = .ok (.replace state snapshot) := by
    have hn := MailStore.checkIdentities_of_nodup (show ([] ++ _).Nodup from hs.nodup (MailStore.nodup_heldOf _ _))
    simp only [validateRemoteCollectionSync, hn, bind, Except.bind]
  refine ends_lift (a := snapshot) (by rw [checked, hmap]; rfl) ?_
  rw [hcheck]
  refine ⟨state, snapshot, rfl, ⟨gets, rfl, hne, fun x hx => ⟨(hgets x hx).1, (hgets x hx).2 rfl⟩⟩, fun w hw => ?_⟩
  have hperm := S.email_state y.state w (((hgets y hy).2 rfl).trans hw.symm)
  refine ⟨(hfetched w fun _ => hw).1, ?_⟩
  obtain ⟨held, hheld, hread⟩ := hs
  exact ⟨held, hheld.trans (hperm.filter _), hread⟩

/-- A snapshot, and how it was gathered: from the exchanges of its queries, and then from its gets. -/
structure SnapshotOf (S : MailServer W) (shows : Exchange W → String → Prop) (state : String) (snapshot : List RemoteEmail)
    (ids : List String) (h : List (Exchange W)) : Prop where
  gathered : ∃ queries gets, h = queries ++ gets ∧ Gathered shows ids queries ∧ gets ≠ [] ∧
    ∀ y ∈ gets, y.isGet ∧ S.emailState y.state = state
  held : ∀ w, S.emailState w = state → (∀ id ∈ ids, S.holds w id) ∧ MailStore.IsSnapshot (S.heldOf w ids) snapshot

theorem completeEmailSnapshot_snapshotOf (hS : ∀ query, S.reportsTotal query = true) (accountId : String) :
    (served S.answersOrRejects).wpA (completeEmailSnapshot accountId)
      (Ends True fun result h => ∃ state snapshot ids, result = .replace state snapshot ∧
        S.SnapshotOf S.Shows state snapshot ids h) [] := by
  refine ends_tryCatch (ends_bind (ends_getMailboxes (S := S) (fun w r hr => hr.imp id fun hx => ⟨trivial, hx⟩) []) ?_)
  rintro result h ⟨w, r, -, -, rfl⟩
  have hstart : Gathered S.Shows [] ([] ++ [⟨.mailboxGet accountId, w, r⟩]) :=
    ⟨List.nodup_nil, by simp [Shows], by simp [Exchange.isGet]⟩
  refine ends_bind (ends_queryMailboxes (fun mailboxId ids h hids => ?_) _ hstart) ?_
  · exact ends_queryPages hS hids maxPages 0 none none [] ids h (by decide)
      ⟨hids.nodup, by simp, [], by simp, by simp, by simp⟩
  · intro ids h hids
    refine Contract.wpA_mono _ ?_ (ends_snapshot hids (fun w ids r hr => hr.imp id fun hx => ⟨trivial, hx⟩) (.inl trivial))
    rintro (x | result) h' hr
    · trivial
    · obtain ⟨state, snapshot, rfl, ⟨gets, rfl, hne, hgets⟩, hheld⟩ := hr
      exact ⟨state, snapshot, ids, rfl, ⟨h, gets, rfl, hids, hne, hgets⟩, hheld⟩

/-- Each email held at a get was, when some mailbox was queried, in that mailbox. -/
def Covered (S : MailServer W) (h : List (Exchange W)) : Prop :=
  ∀ y ∈ h, y.isGet → ∀ raw ∈ S.emails y.state, ∃ x ∈ h, ∃ query, x.request = .emailQuery query ∧
    ∃ held ∈ S.emails x.state, held.id = raw.id ∧ held.isIn query.inMailbox

/-- A snapshot that was returned is exact just if the queries covered what the gets were answered from. -/
theorem completeEmailSnapshot_exact (hS : ∀ query, S.reportsTotal query = true) {accountId state : String}
    {snapshot : List RemoteEmail} {h : List (Exchange W)}
    (hrun : Exec (serve S.answersOrRejects) (completeEmailSnapshot accountId).run [] (some (.ok (.replace state snapshot))) h) :
    (∀ w, S.emailState w = state → MailStore.IsSnapshot (S.emails w) snapshot) ↔ S.Covered h := by
  obtain ⟨state', snapshot', ids, heq, ⟨queries, gets, rfl, hids, hne, hgets⟩, hheld⟩ :=
    (hrun.sound trivial (completeEmailSnapshot_snapshotOf hS accountId) fun _ _ _ => trivial).2 _ rfl
  cases heq
  constructor
  · intro hexact y hy hget raw hraw
    rcases List.mem_append.1 hy with hy | hy
    · exact absurd hget (hids.noGets y hy)
    have hstate := (hgets y hy).2
    -- the email is in the snapshot, so its id was gathered
    have hmem : raw.id ∈ (S.heldOf y.state ids).map (·.id) :=
      ((hexact y.state hstate).ids.trans (hheld y.state hstate).2.ids.symm).subset (List.mem_map_of_mem hraw)
    obtain ⟨raw', hraw', hid'⟩ := List.mem_map.1 hmem
    obtain ⟨-, id, hid, he⟩ := MailStore.mem_heldOf.1 hraw'
    obtain ⟨x, hx, query, hq, hres⟩ := (hids.mem id).1 hid
    obtain ⟨held, hheld, hheldid, hin⟩ := (S.mem_result _ _ _).1 hres
    exact ⟨x, List.mem_append_left _ hx, query, hq, held, hheld, by rw [hheldid, ← hid', he], hin⟩
  · intro hcov w hw
    obtain ⟨y, hy⟩ := List.exists_mem_of_ne_nil _ hne
    have hperm := S.email_state y.state w ((hgets y hy).2.trans hw.symm)
    have hall : S.heldOf w ids = S.emails w := by
      refine List.filter_eq_self.2 fun raw hraw => ?_
      obtain ⟨x, hx, query, hq, held, hheld, hid, hin⟩ :=
        hcov y (List.mem_append_right _ hy) (hgets y hy).1 raw (hperm.symm.subset hraw)
      obtain ⟨id, hrawid, -⟩ := (S.wellFormed w raw hraw).id
      rcases List.mem_append.1 hx with hx | hx
      · have hmem := (hids.mem id).2 ⟨x, hx, query, hq, (S.mem_result _ _ _).2 ⟨held, hheld, hid.trans hrawid, hin⟩⟩
        simpa [hrawid] using hmem
      · obtain ⟨accountId', batch, hg⟩ := (hgets x hx).1
        rw [hg] at hq
        cases hq
    rw [← hall]
    exact (hheld w hw).2

/-! ## A server that is asked -/

/-- An honest answer, with at most `most` ids to a page. -/
def answer (S : MailServer W) (most : Nat) (w : W) : (e : JamRequest) → RawResponse e
  | .mailboxGet _ => ⟨some (S.mailboxes w), some (S.mailboxState w)⟩
  | .emailQuery query =>
    { ids := some (((S.result w query.inMailbox).drop (query.position.getD 0).toNat).take (min most (query.limit.getD most))),
      queryState := some (S.queryState w query.inMailbox),
      total := if S.reportsTotal query then some ((S.result w query.inMailbox).length : Int) else none,
      position := some ((query.position.getD 0).toNat : Int), canCalculateChanges := none }
  | .emailGet _ ids => ⟨some (S.heldOf w ids), some (S.emailState w)⟩
  | .emailChanges _ state => ⟨true, state, state, false, none, none, none⟩

theorem answer_answers (most : Nat) (w : W) (e : JamRequest) : S.Answers w e (S.answer most w e) := by
  cases e with
  | mailboxGet accountId => rfl
  | emailQuery query => exact ⟨_, _, fun limit hl => by simp [hl], rfl⟩
  | emailGet accountId ids => exact ⟨_, rfl, .refl _⟩
  | emailChanges accountId state => trivial

/-- Answers each request in the state that `moves` says. -/
def answering (S : MailServer W) (most : Nat) (moves : JamRequest → W) (h : List (Exchange W)) (e : JamRequest) :
    Option (Reply e × List (Exchange W)) :=
  some (.ok (S.answer most (moves e) e), h ++ [⟨e, moves e, .ok (S.answer most (moves e) e)⟩])

theorem run_of_answering {α : Type} {answers : W → (e : JamRequest) → Reply e → Prop} (most : Nat) (moves : JamRequest → W)
    (ha : ∀ e, answers (moves e) e (.ok (S.answer most (moves e) e))) (p : Prog JamRequest Reply α) :
    Exec (serve answers) p [] (p.play (S.answering most moves) []).1 (p.play (S.answering most moves) []).2 :=
  Exec.of_play (fun h e r h' hr => by cases hr; exact ⟨moves e, ha e, rfl⟩) p []

end MailServer

/-! ### A delivery between the query and the get -/

def sampleInbox : RawJmapMailbox := ⟨"inbox", "Inbox", none, some "inbox", none, none, none, none⟩

/-- The inbox is empty until a message is delivered. -/
def deliveringServer : MailServer Bool where
  emails delivered := if delivered then [sampleRaw "e1"] else []
  emailState delivered := if delivered then "s1" else "s0"
  nodup delivered := by cases delivered <;> decide
  wellFormed delivered raw h := by
    cases delivered
    · cases h
    · obtain rfl := List.mem_singleton.1 h
      exact sampleRaw_wellFormed (by decide)
  mailboxes _ := [sampleInbox]
  mailboxState _ := "m"
  result delivered mailboxId := if delivered = true ∧ mailboxId = "inbox" then ["e1"] else []
  queryState delivered _ := if delivered then "q1" else "q0"
  reportsTotal _ := true
  result_nodup delivered mailboxId := by split <;> simp
  mem_result delivered mailboxId id := by
    by_cases hm : mailboxId = "inbox" <;> cases delivered <;> simp [hm, sampleRaw_isIn, sampleRaw_id]
  email_state w w' h := by cases w <;> cases w' <;> simp at h ⊢
  query_state w w' mailboxId h := by cases w <;> cases w' <;> simp at h ⊢

/-- The message is there when the emails are fetched, and not yet when the mailbox is queried. -/
def deliveredBeforeGet : JamRequest → Bool
  | .emailGet _ _ => true
  | _ => false

def lateDelivery : List (Exchange Bool) :=
  ((completeEmailSnapshot "a").run.play (deliveringServer.answering 500 deliveredBeforeGet) []).2

theorem lateDelivery_run : Exec (serve deliveringServer.answersOrRejects) (completeEmailSnapshot "a").run []
    (some (.ok (.replace "s1" []))) lateDelivery :=
  MailServer.run_of_answering (S := deliveringServer) 500 deliveredBeforeGet
    (fun e => .inl ⟨_, rfl, MailServer.answer_answers 500 _ e⟩) (completeEmailSnapshot "a").run

theorem completeEmailSnapshot_exact_lateDelivery :
    (∀ w, deliveringServer.emailState w = "s1" → MailStore.IsSnapshot (deliveringServer.emails w) []) ↔
      deliveringServer.Covered lateDelivery :=
  MailServer.completeEmailSnapshot_exact (fun _ => rfl) lateDelivery_run

/-- The snapshot is empty in the state that holds the message. -/
theorem lateDelivery_missed : ∃ h, Exec (serve deliveringServer.answersOrRejects) (completeEmailSnapshot "a").run []
    (some (.ok (.replace "s1" []))) h ∧
      ¬ ∀ w, deliveringServer.emailState w = "s1" → MailStore.IsSnapshot (deliveringServer.emails w) [] := by
  refine ⟨lateDelivery, lateDelivery_run, fun hall => ?_⟩
  have hids := (hall true rfl).ids.length_eq
  exact absurd hids (by decide)

end Boxplot.Jmap
