import Boxplot.Sync.Mirror
/-!
# Keyword reconciliation

Every step keeps the mirror, so a row read after a refresh shows what the
server had at that refresh or later, and so does what is confirmed of it. That
is, if no optimistic write has changed the row since: the change that is in
doubt is one.
-/

namespace Boxplot.Sync

open Domain Remote Lib Outbox Memory MemoryState

namespace Reconcile

variable {H : Remotes} {w w' : MailWorld}

/-! ## Writes of mutations -/

theorem Advances.of_kept {s' : MemoryState} (h : MailKept w.store s') : Advances H w { w with store := s' } :=
  .of_cursors (fun _ => le_rfl) fun b => congrArg (fun m => OrderedMap.get? m (b, CollectionDataType.email)) h.cursors

/-- A write that keeps the mail keeps the store sound, if every mutation belongs to its account after it. -/
theorem StoreSound.of_kept {s' : MemoryState} (hw : StoreSound H w) (h : MailKept w.store s')
    (hm : ∀ key m, s'.mutations.get? key = some m → Scoped m) : StoreSound H { w with store := s' } :=
  ⟨fun a c hc => let ⟨v, hv⟩ := hw.synced a c (h.cursors ▸ hc)
    ⟨v, hv.state, hv.known, fun id row hid ho hrow => hv.rows id row hid ho (h.emails ▸ hrow)⟩,
    fun id row hrow => hw.keyed id row (h.emails ▸ hrow), hm, hw.confirmed⟩

theorem StoreSound.set_mutation {s' : MemoryState} {key : AccountKey × MutationId} {value : PendingMutation}
    (hw : StoreSound H w) (h : MailKept w.store s') (hset : s'.mutations = w.store.mutations.set key value)
    (hv : Scoped value) : StoreSound H { w with store := s' } := by
  refine hw.of_kept h fun k m hm => ?_
  rw [hset, OrderedMap.get?_set] at hm
  split at hm
  · cases hm; exact hv
  · exact hw.belongs k m hm

/-- Equal mutations are of the same account, and of the same email. -/
theorem Scoped.of_equal {left right : PendingMutation} (h : mutationsEqual left right = true) (hl : Scoped left) :
    Scoped right := by
  intro emailId change hp
  simp only [mutationsEqual, Bool.and_eq_true, decide_eq_true_eq, hp] at h
  obtain ⟨⟨⟨⟨ha, -⟩, -⟩, -⟩, hpayload⟩ := h
  cases hl' : left.payload with
  | keyword id c =>
    simp only [hl', payloadsEqual, Bool.and_eq_true, decide_eq_true_eq] at hpayload
    rw [← hpayload.1.1, ← ha]
    exact hl id c hl'
  | _ => simp [hl', payloadsEqual] at hpayload

theorem scoped_replaceLifecycle {m : PendingMutation} (l : Lifecycle) : Scoped (m.replaceLifecycle l) ↔ Scoped m := Iff.rfl

/-- What is confirmed with the support of a stage is sound. -/
theorem confirmation_sound {t : Nat} {s : Stage} {m : PendingMutation} (hs : StageSound H w t s)
    (hsupport : ∀ emailId change, m.payload = .keyword emailId change → s.Supports emailId change) :
    Confirmation.Sound H ⟨m, w.basis t⟩ := by
  intro emailId change hp
  rcases hsupport emailId change hp with rfl | ⟨v, row, rfl, happlied⟩
  · exact .inl hs
  · obtain ⟨u, hle, hbasis, hrow⟩ := hs rfl
    obtain ⟨e, he, hk⟩ := hrow row rfl
    simp only [keywordsApplied, Bool.and_eq_true, List.all_eq_true, decide_eq_true_eq, Bool.not_eq_true',
      List.contains_eq_mem, decide_eq_false_iff_not] at happlied
    exact .inr ⟨v, u, hle, hbasis, e, he, fun k hk' => (hk k).1 (happlied.1 k hk'),
      fun k hk' hn => happlied.2 k hk' ((hk k).2 hn)⟩

/-- A mutation is replaced, and confirmed only with the support of the run's stage. -/
theorem replace_step {t : Nat} {s : Stage} {s' : MemoryState} {expected next : PendingMutation} (hw : StoreSound H w)
    (hs : StageSound H w t s) (hmay : s.may H (.replacePendingMutationIfCurrent expected next))
    (h : w.store.replacePendingMutationIfCurrent expected next = .ok s') :
    StepSound H w { w with store := s', confirmed := if MailWorld.confirms expected next then
      w.confirmed ++ [⟨expected, w.basis t⟩] else w.confirmed } t s := by
  obtain ⟨hkept, hset, current, hcurrent, heq, hsame⟩ := replacePendingMutationIfCurrent_ok h
  have hscoped : Scoped next := by
    have hexpected := Scoped.of_equal heq (hw.belongs _ _ hcurrent)
    exact (scoped_replaceLifecycle _).1 (Scoped.of_equal hsame ((scoped_replaceLifecycle _).2 hexpected))
  have hstore := hw.set_mutation hkept hset hscoped
  have hadv : Advances H w { w with store := s' } := .of_kept hkept
  refine ⟨⟨fun a c hc => ?_, hstore.keyed, hstore.belongs, fun c hc => ?_⟩, ⟨hadv.version, hadv.cursor⟩, fun _ _ => rfl,
    hs.mono ⟨hadv.version, hadv.cursor⟩ rfl⟩
  · obtain ⟨v, hv⟩ := hstore.synced a c hc
    exact ⟨v, hv.state, hv.known, hv.rows⟩
  · simp only at hc
    split at hc
    · rename_i hconfirms
      rcases List.mem_append.1 hc with hc | hc
      · exact hw.confirmed c hc
      · obtain rfl := List.mem_singleton.1 hc
        exact confirmation_sound hs (hmay hconfirms)
    · exact hw.confirmed c hc

/-! ## One request -/

/-- A commit that goes through, or does not. -/
theorem apply_step {t : Nat} {s : Stage} {commit : CollectionSyncCommit} {r : PortReply LocalWriteError Unit}
    (hw : StoreSound H w) (hs : StageSound H w t s) (hmay : s.may H (.sync (.applyCollectionSync commit)))
    (hp : w.perform H t (.sync (.applyCollectionSync commit)) r w') :
    ∃ s', s.After (.sync (.applyCollectionSync commit)) r s' ∧ StepSound H w w' t s' := by
  have refused : r ≠ .ok () → w' = w → ∃ s', s.After (.sync (.applyCollectionSync commit)) r s' ∧ StepSound H w w' t s' := by
    rintro hr rfl
    cases commit with
    | email next change =>
      refine ⟨.free, ?_, .same hw trivial⟩
      cases s <;> cases r <;> first | rfl | exact absurd rfl hr
    | mailbox next change => exact ⟨s, rfl, .same hw hs⟩
    | identity next change => exact ⟨s, rfl, .same hw hs⟩
  simp only [MailWorld.perform, MailWorld.engineStep] at hp
  cases happly : w.store.applyCollectionSync commit with
  | error x =>
    rw [happly] at hp
    cases x <;> (obtain ⟨rfl, rfl⟩ := hp; exact refused (by rintro ⟨⟩) rfl)
  | ok stored =>
    rw [happly] at hp
    obtain ⟨rfl, rfl⟩ := hp
    rcases hmay with hkind | ⟨a, c, transition, v, rfl, hc⟩
    · refine ⟨s, ?_, otherCommit_step hw hs hkind happly⟩
      cases commit <;> first | rfl | exact absurd rfl hkind
    · obtain ⟨change, rfl, -⟩ := emailCommit_ok hc
      exact ⟨.landed a v, rfl, emailCommit_step hw hs hc happly⟩

/-- A synchronisation request keeps the store, and takes the run to its next stage. -/
theorem sync_step {t : Nat} {s : Stage} {e : SyncCall} {r : SyncReply e} (hw : StoreSound H w) (hs : StageSound H w t s)
    (hmay : s.may H (.sync e)) (hp : w.perform H t (.sync e) r w') :
    ∃ s', (mailContract H).step s (.sync e) r s' ∧ StepSound H w w' t s' := by
  cases e with
  | session a =>
    obtain ⟨hr, rfl⟩ := hp
    refine ⟨s, ⟨fun id hid => ?_, rfl⟩, .same hw hs⟩
    rcases hr with rfl | rfl <;> cases hid
    rfl
  | isCurrent a => obtain rfl : w' = w := hp; exact ⟨s, ⟨trivial, rfl⟩, .same hw hs⟩
  | syncIdentities id previous => obtain rfl : w' = w := hp; exact ⟨s, ⟨trivial, rfl⟩, .same hw hs⟩
  | syncMailboxes id previous => obtain rfl : w' = w := hp; exact ⟨s, ⟨trivial, rfl⟩, .same hw hs⟩
  | syncEmails id previous =>
    cases r with
    | error x => obtain rfl : w' = w := hp; exact ⟨.free, ⟨trivial, rfl⟩, .same hw trivial⟩
    | ok transition =>
      obtain ⟨hsync, rfl⟩ := hp
      obtain ⟨a, c, rfl, rfl, rfl⟩ := hmay
      exact ⟨.answered a c transition (w.version (H.accountOf a)), ⟨trivial, a, c, _, rfl, rfl⟩,
        .learn hw ⟨hsync, le_rfl, hs, Function.update_self _ _ _⟩⟩
  | readCollectionSyncCursor a dataType =>
    obtain ⟨rfl, rfl⟩ := hp
    cases dataType with
    | email =>
      unfold readCollectionSyncCursor owned
      split
      · cases hc : w'.store.cursors.get? (a, .email) with
        | none => exact ⟨.cursorRead a none, ⟨trivial, rfl⟩, .same hw (by rintro c ⟨⟩)⟩
        | some c =>
          refine ⟨.cursorRead a (some c), ⟨trivial, rfl⟩, .same hw ?_⟩
          rintro _ ⟨⟩
          obtain ⟨v, hv⟩ := hw.synced a c hc
          exact ⟨v, hv.state, hv.known⟩
      · exact ⟨.free, ⟨trivial, rfl⟩, .same hw trivial⟩
    | mailbox => exact ⟨s, ⟨trivial, rfl⟩, .same hw hs⟩
    | identity => exact ⟨s, ⟨trivial, rfl⟩, .same hw hs⟩
  | applyCollectionSync commit =>
    obtain ⟨s', hafter, hstep⟩ := apply_step hw hs hmay hp
    exact ⟨s', ⟨trivial, hafter⟩, hstep⟩
  | listMailboxes a => obtain ⟨rfl, rfl⟩ := hp; exact ⟨s, ⟨trivial, rfl⟩, .same hw hs⟩
  | syncQueryView a id m => obtain rfl : w' = w := hp; exact ⟨s, ⟨trivial, rfl⟩, .same hw hs⟩

/-- A row that no optimistic write has changed shows the version of the store's cursor. -/
theorem readEmail_step {t : Nat} {s : Stage} {id : ScopedEmailId} (hw : StoreSound H w) (hs : StageSound H w t s)
    (hfresh : w.optimistic id = false) :
    ∃ s', (mailContract H).step s (.readEmail id) (.ok (w.store.readEmail id)) s' ∧
      StepSound H w (w.learn t (.row id (w.basis t).refresh ((w.store.cursors.get? (id.accountKey, .email)).map (·.state))))
        t s' := by
  cases s with
  | landed a v =>
    obtain ⟨hbasis, c, u, hc, hu, hle⟩ := hs
    refine ⟨.seen a id (w.store.readEmail id) v, ⟨trivial, rfl⟩, .learn hw ?_⟩
    rintro rfl
    refine ⟨u, hle, ?_, fun row hrow => ?_⟩
    · rw [hbasis, hc, Option.map_some, hu]
      exact Function.update_self _ _ _
    · obtain ⟨u', hm⟩ := hw.synced _ c hc
      obtain rfl : u' = u := (H.of id.accountKey).distinct (hm.state.symm.trans hu)
      refine hm.rows id row rfl hfresh ?_
      unfold readEmail at hrow
      split at hrow <;> cases hrow
      assumption
  | _ => exact ⟨.free, ⟨trivial, rfl⟩, .learn hw trivial⟩

/-- Every allowed request of a run keeps the store, and takes the run to its next stage. -/
theorem call_step {t : Nat} {s : Stage} {e : Call} {r : Reply e} (hw : StoreSound H w) (hs : StageSound H w t s)
    (hmay : s.may H e) (hread : rewritten w e = true) (hp : w.perform H t e r w') :
    ∃ s', (mailContract H).step s e r s' ∧ StepSound H w w' t s' := by
  cases e with
  | readPendingMutation a id =>
    obtain ⟨rfl, rfl⟩ := hp
    refine ⟨s, ⟨fun m hm => ?_, rfl⟩, .same hw hs⟩
    unfold readPendingMutation owned at hm
    split at hm
    · cases hget : w'.store.mutations.get? (a, id) with
      | none => simp [hget] at hm
      | some m' =>
        simp only [hget, PortReply.ok.injEq, OwnedOptionalRead.present.injEq] at hm
        exact hm ▸ hw.belongs _ _ hget
    · cases hm
  | readEmail id =>
    obtain ⟨rfl, rfl⟩ := hp
    exact readEmail_step hw hs (by simpa [rewritten] using hread)
  | replacePendingMutationIfCurrent expected next =>
    simp only [MailWorld.perform, MailWorld.engineStep] at hp
    cases hreplace : w.store.replacePendingMutationIfCurrent expected next with
    | error x =>
      rw [hreplace] at hp
      cases x <;> (obtain ⟨rfl, rfl⟩ := hp; exact ⟨s, ⟨trivial, rfl⟩, .same hw hs⟩)
    | ok stored =>
      rw [hreplace] at hp
      obtain ⟨rfl, rfl⟩ := hp
      exact ⟨s, ⟨trivial, rfl⟩, replace_step hw hs hmay hreplace⟩
  | removeConfirmedMutation a id =>
    simp only [MailWorld.perform, MailWorld.engineStep] at hp
    cases hremove : w.store.removeConfirmedMutation a id with
    | error x =>
      rw [hremove] at hp
      cases x <;> (obtain ⟨rfl, rfl⟩ := hp; exact ⟨s, ⟨trivial, rfl⟩, .same hw hs⟩)
    | ok stored =>
      rw [hremove] at hp
      obtain ⟨rfl, rfl⟩ := hp
      obtain ⟨hkept, hdelete⟩ := removeConfirmedMutation_ok hremove
      have hstore : StoreSound H { w with store := stored } := by
        refine hw.of_kept hkept fun key m hm => hw.belongs key m ?_
        rw [hdelete, OrderedMap.get?_delete] at hm
        split at hm
        · cases hm
        · exact hm
      have hadv : Advances H w { w with store := stored } := .of_kept hkept
      exact ⟨s, ⟨trivial, rfl⟩, hstore, hadv, fun _ _ => rfl, hs.mono hadv rfl⟩
  | keywordChangeSettled =>
    cases r with
    | ok u =>
      obtain rfl : w' = w.learn t .changed := hp
      exact ⟨.changed, ⟨trivial, rfl⟩, .learn hw (Function.update_self _ _ _)⟩
    | error x => obtain rfl : w' = w := hp; exact ⟨s, ⟨trivial, rfl⟩, .same hw hs⟩
  | sync call => exact sync_step hw hs hmay hp
  | listPendingMutations a => obtain ⟨rfl, rfl⟩ := hp; exact ⟨s, ⟨trivial, rfl⟩, .same hw hs⟩
  | _ => obtain rfl : w' = w := hp; exact ⟨s, ⟨trivial, rfl⟩, .same hw hs⟩

/-! ## What else happens -/

/-- Servers, registrations and staged mutations keep the store, and every run's stage. -/
theorem env_step (hw : StoreSound H w) (h : MailWorld.Env H w w') :
    StoreSound H w' ∧ Advances H w w' ∧ w'.basis = w.basis := by
  cases h with
  | remoteChange id =>
    have hle : ∀ id', w.version id' ≤ Function.update w.version id (w.version id + 1) id' := by
      intro id'
      by_cases h : id' = id
      · subst h; simp
      · simp [h]
    refine ⟨⟨fun a c hc => ?_, hw.keyed, hw.belongs, hw.confirmed⟩, .of_cursors hle fun _ => rfl, rfl⟩
    obtain ⟨v, hv⟩ := hw.synced a c hc
    exact ⟨v, hv.state, hv.known.trans (hle _), hv.rows⟩
  | @registerAccount value s' h =>
    obtain ⟨hkept, hm⟩ := registerAccount_ok h
    exact ⟨hw.of_kept hkept fun key m h => hw.belongs key m (hm ▸ h), .of_kept hkept, rfl⟩
  | @stageSend value intent s' hp _ h =>
    obtain ⟨hkept, hset⟩ := stageSendMutation_ok h
    exact ⟨hw.set_mutation hkept hset (fun id change hk => by rw [hp] at hk; cases hk), .of_kept hkept, rfl⟩
  | @stageMembership value emailId change s' hp _ _ h =>
    obtain ⟨hkept, hset⟩ := applyOptimisticMailboxMembershipMutation_ok h
    exact ⟨hw.set_mutation hkept hset (fun id change hk => by rw [hp] at hk; cases hk), .of_kept hkept, rfl⟩
  | @stageKeyword value emailId change s' hp hscope _ h =>
    obtain ⟨target, next, htarget, hid, hemails, hset, hcursors⟩ := applyOptimisticKeywordMutation_ok h
    have hcur : ∀ a, s'.cursors.get? (a, .email) = w.store.cursors.get? (a, .email) := fun a => by rw [hcursors]
    refine ⟨⟨fun a c hc => ?_, fun id row hrow => ?_, fun key m hm => ?_, hw.confirmed⟩, .of_cursors (fun _ => le_rfl) hcur, rfl⟩
    · obtain ⟨v, hv⟩ := hw.synced a c ((hcur a).symm.trans hc)
      refine ⟨v, hv.state, hv.known, fun id row ha ho hrow => ?_⟩
      have hne : id ≠ emailId := by rintro rfl; simp at ho
      simp only [Function.update_of_ne hne] at ho
      simp only [hemails, OrderedMap.get?_set_ne _ _ hne] at hrow
      exact hv.rows id row ha ho hrow
    · simp only [hemails, OrderedMap.get?_set] at hrow
      split at hrow
      · rename_i heq
        cases hrow
        rw [hid, heq]
        exact hw.keyed emailId target htarget
      · exact hw.keyed id row hrow
    · simp only [hset, OrderedMap.get?_set] at hm
      split at hm
      · cases hm
        intro id change' hk
        rw [hp] at hk
        cases hk
        exact hscope
      · exact hw.belongs key m hm

/-! ## Runs -/

/-- The store is sound, and the world says of every run what its stage does. -/
def Sound (H : Remotes) (w : MailWorld) (_ : Nat) (σ : Nat → Option Stage) : Prop :=
  StoreSound H w ∧ ∀ t s, σ t = some s → StageSound H w t s

theorem mailSystem_invariant (H : Remotes) : (mailSystem H rewritten).Invariant (mailContract H) .free .initial (Sound H) where
  init := ⟨⟨by rintro a c ⟨⟩, by rintro id row ⟨⟩, by rintro key m ⟨⟩, by rintro c ⟨⟩⟩, by rintro t s ⟨⟩⟩
  enters p hp := MailRun.keeps hp .free
  call := by
    intro w w' n σ t s e r hI _ ht hmay ⟨hread, hp⟩
    obtain ⟨s', hs', hstep⟩ := call_step hI.1 (hI.2 t s ht) hmay hread hp
    refine ⟨s', hs', hstep.store, fun u su hu => ?_⟩
    by_cases hut : u = t
    · subst hut
      cases (Function.update_self (f := σ) _ _).symm.trans hu
      exact hstep.stage
    · rw [Function.update_of_ne hut] at hu
      exact (hI.2 u su hu).mono hstep.advances (hstep.others u hut)
  start := by
    intro w n σ hI _
    refine ⟨hI.1, fun t s ht => ?_⟩
    by_cases htn : t = n
    · subst htn
      cases (Function.update_self (f := σ) _ _).symm.trans ht
      trivial
    · rw [Function.update_of_ne htn] at ht
      exact hI.2 t s ht
  crash := by
    intro w n σ t hI
    refine ⟨hI.1, fun u s hu => ?_⟩
    by_cases hut : u = t
    · subst hut
      simp at hu
    · rw [Function.update_of_ne hut] at hu
      exact hI.2 u s hu
  env := by
    intro w w' n σ hI h
    obtain ⟨hstore, hadv, hbasis⟩ := env_step hI.1 h
    exact ⟨hstore, fun t s ht => (hI.2 t s ht).mono hadv (congrFun hbasis t)⟩

/-- While every reconciliation reads a row that the server's record was stored in after the last optimistic write,
what any run confirms is sound. -/
theorem keyword_reconciliation_sound (H : Remotes) {c : Pool Call Reply Unit MailWorld}
    (h : (mailSystem H rewritten).Run (System.idle .initial) c) : ∀ confirmation ∈ c.world.confirmed, confirmation.Sound H := by
  obtain ⟨σ, hI, -⟩ := System.Run.sound (mailSystem_invariant H) h
  exact hI.1.confirmed

/-! ## Two runs -/

def sampleEmail (keywords : List String) : RemoteEmail :=
  { id := "e", blobId := "b", threadId := "t", sender := none, «from» := none, replyTo := none, «to» := none, cc := none,
    bcc := none, subject := some "Hello", sentAt := none, receivedAt := "2026-01-01T00:00:00Z", size := 1, preview := "",
    hasAttachment := false, keywords, mailboxIds := ["m"] }

def sampleState (v : Nat) : String := String.ofList ('s' :: List.replicate v '+')

/-- A server with one email, which is flagged from version `1` on or never. -/
def sampleHistory (flagged : Bool) : RemoteHistory where
  emails v id := if id = "e" then some (sampleEmail (if flagged && v != 0 then ["$flagged"] else [])) else none
  state := sampleState
  distinct u v h := by simpa using congrArg List.length (String.ofList_injective h)
  ids v id e h := by
    split at h <;> cases h
    rename_i hid
    exact hid.symm

def sampleRemotes (flagged : Bool) : Remotes := ⟨fun _ => "r", fun _ => sampleHistory flagged⟩

/-- Everything first, then what changed since. -/
def sampleAnswer (flagged : Bool) (v : Nat) (previousState : Option String) : Option (RemoteCollectionSync RemoteEmail String) :=
  if v = 0 then
    match previousState with
    | none => some (.replace (sampleState 0) [sampleEmail []])
    | some state => if state = sampleState 0 then some (.delta (sampleState 0) [] []) else none
  else if flagged && v = 1 && previousState = some (sampleState 0) then
    some (.delta (sampleState 1) [sampleEmail ["$flagged"]] [])
  else none

theorem sampleAnswer_syncs {flagged : Bool} {v : Nat} {previousState : Option String}
    {transition : RemoteCollectionSync RemoteEmail String} (h : sampleAnswer flagged v previousState = some transition) :
    SyncsEmails (sampleHistory flagged) v previousState transition := by
  unfold sampleAnswer at h
  split at h
  · subst v
    cases previousState with
    | none =>
      cases h
      refine .replace fun e => ⟨fun he => ?_, fun he => ?_⟩
      · obtain rfl := List.mem_singleton.1 he
        cases flagged <;> decide
      · simp only [sampleHistory, bne_self_eq_false, Bool.and_false, Bool.false_eq_true, if_false] at he
        split at he <;> cases he
        exact List.mem_singleton_self _
    | some state =>
      simp only at h
      split at h <;> cases h
      subst state
      exact .delta rfl le_rfl (by simp) (by simp) (by simp)
  · split at h <;> cases h
    rename_i hc
    simp only [Bool.and_eq_true, decide_eq_true_eq] at hc
    obtain ⟨⟨rfl, rfl⟩, rfl⟩ := hc
    refine .delta rfl zero_le_one (fun e he => ?_) (by simp) (fun id hid => .inl ?_)
    · obtain rfl := List.mem_singleton.1 he
      exact ⟨by decide, 0, le_rfl, zero_lt_one, by decide⟩
    · by_contra hn
      have hne : id ≠ "e" := fun h => hn (List.mem_singleton.2 h)
      simp [sampleHistory, hne] at hid

/-- A server that loses what it is asked to change. -/
def sampleRemote (flagged : Bool) (w : MailWorld) (t : Nat) : (e : Call) → Option (Reply e × MailWorld)
  | .isConnected _ => some (true, w)
  | .applyKeywordChange _ _ _ _ => some ((), w)
  | .keywordChangeSettled => some (.error (.error "timeout"), w)
  | .sync (.session _) => some (some "r", w)
  | .sync (.isCurrent _) => some (true, w)
  | .sync (.syncIdentities _ _) => some (.ok (.replace "i" []), w)
  | .sync (.syncMailboxes _ _) => some (.ok (.replace "m" []), w)
  | .sync (.syncEmails id previousState) => (sampleAnswer flagged (w.version id) previousState).map fun transition =>
    (.ok transition, w.learn t (.refreshed id (w.version id)))
  | _ => none

theorem sampleRemote_performs {flagged : Bool} {w w' : MailWorld} {t : Nat} {e : Call} {r : Reply e}
    (h : sampleRemote flagged w t e = some (r, w')) : w.remoteStep (sampleRemotes flagged) t e r w' := by
  cases e with
  | isConnected a => cases h; rfl
  | applyKeywordChange a id add remove => cases h; rfl
  | keywordChangeSettled => cases h; rfl
  | sync call =>
    cases call with
    | session a => cases h; exact ⟨.inr rfl, rfl⟩
    | isCurrent a => cases h; rfl
    | syncIdentities id previousState => cases h; rfl
    | syncMailboxes id previousState => cases h; rfl
    | syncEmails id previousState =>
      obtain ⟨transition, ha, h⟩ := Option.map_eq_some_iff.1 h
      cases h
      exact ⟨sampleAnswer_syncs ha, rfl⟩
    | _ => cases h
  | _ => cases h

def sampleReply (flagged : Bool) (allowed : MailWorld → Call → Bool) (t : Nat) (w : MailWorld) (e : Call) :
    Option (Reply e × MailWorld) :=
  if allowed w e then
    match w.engineStep t e with
    | some reply => some reply
    | none => sampleRemote flagged w t e
  else none

theorem sampleReply_performs {flagged : Bool} {allowed : MailWorld → Call → Bool} (t : Nat) (w : MailWorld) (e : Call)
    (r : Reply e) (w' : MailWorld) (h : sampleReply flagged allowed t w e = some (r, w')) :
    (mailSystem (sampleRemotes flagged) allowed).perform w t e r w' := by
  unfold sampleReply at h
  split at h
  · rename_i ha
    refine ⟨ha, ?_⟩
    unfold MailWorld.perform
    cases hs : w.engineStep t e with
    | some reply => rw [hs] at h; cases h; exact ⟨rfl, rfl⟩
    | none =>
      rw [hs] at h
      exact sampleRemote_performs h
  · cases h

def sampleMutation : PendingMutation where
  mutationId := "m1"
  accountKey := "a"
  createdAt := "2026-01-01T00:00:00.000Z"
  payload := .keyword ⟨"a", "e"⟩ ⟨["$flagged"], []⟩
  lifecycle := .pending 0

def sampleDependencies : MutationRunnerDependencies := ⟨some refreshAccount, false, fun _ _ => none⟩

def sampleRegister (w : MailWorld) : Option MailWorld :=
  (w.store.registerAccount ⟨"a", ⟨"service", "r"⟩⟩).toOption.map fun s => { w with store := s }

def sampleStage (w : MailWorld) : Option MailWorld :=
  (w.store.applyOptimisticKeywordMutation sampleMutation ⟨"a", "e"⟩ ⟨["$flagged"], []⟩).toOption.map fun s =>
    { w with store := s, optimistic := Function.update w.optimistic ⟨"a", "e"⟩ true }

def sampleChange (w : MailWorld) : Option MailWorld :=
  some { w with version := Function.update w.version "r" (w.version "r" + 1) }

/-- Sync, flag the email, lose the reply, and reconcile. The server's email is flagged in between, or never. -/
def sampleScript (flagged : Bool) : List (System.Scripted Call Reply Unit MailWorld) :=
  [.env sampleRegister, .thread ((refreshAccount "a").run.bind fun _ => .pure ()), .env sampleStage,
    .thread ((runMutation sampleDependencies "a" "m1").run.bind fun _ => .pure ())] ++
  (if flagged then [.env sampleChange] else []) ++
  [.thread ((runMutation sampleDependencies "a" "m1").run.bind fun _ => .pure ())]

theorem sampleScript_possible (flagged : Bool) (allowed : MailWorld → Call → Bool) :
    ∀ entry ∈ sampleScript flagged, entry.Possible (mailSystem (sampleRemotes flagged) allowed) := by
  have hregister : ∀ w w', sampleRegister w = some w' → MailWorld.Env (sampleRemotes flagged) w w' := by
    intro w w' h
    obtain ⟨s, hs, rfl⟩ := Option.map_eq_some_iff.1 h
    exact .registerAccount (toOption_eq_some.1 hs)
  have hstage : ∀ w w', sampleStage w = some w' → MailWorld.Env (sampleRemotes flagged) w w' := by
    intro w w' h
    obtain ⟨s, hs, rfl⟩ := Option.map_eq_some_iff.1 h
    exact .stageKeyword rfl rfl rfl (toOption_eq_some.1 hs)
  have hchange : ∀ w w', sampleChange w = some w' → MailWorld.Env (sampleRemotes flagged) w w' := by
    rintro w w' ⟨⟩
    exact .remoteChange "r"
  have hrun : MailRun ((runMutation sampleDependencies "a" "m1").run.bind fun _ => .pure ()) :=
    .runMutation "a" "m1" (by rintro refresh ⟨⟩; rfl)
  intro entry he
  simp only [sampleScript, List.mem_append, List.mem_cons, List.not_mem_nil, or_false] at he
  rcases he with ((rfl | rfl | rfl | rfl) | he) | rfl
  · exact hregister
  · exact MailRun.refreshAccount "a"
  · exact hstage
  · exact hrun
  · cases flagged
    · cases he
    · obtain rfl := List.mem_singleton.1 he
      exact hchange
  · exact hrun

/-- The mutation, confirmed by the row of its email after a refresh at the version. -/
def sampleConfirmation (version : Nat) : Confirmation where
  mutation := sampleMutation.replaceLifecycle (.inFlight 1)
  basis := .row ⟨"a", "e"⟩ (some ("r", version)) (some (sampleState version))

/-- The script is a run. -/
theorem sampleRun {flagged : Bool} {allowed : MailWorld → Call → Bool} {version : Nat}
    (h : (System.playScript (sampleReply flagged allowed) (sampleScript flagged) 0 .initial).map (·.confirmed) =
      some [sampleConfirmation version]) :
    ∃ c, (mailSystem (sampleRemotes flagged) allowed).Run (System.idle .initial) c ∧
      c.world.confirmed = [sampleConfirmation version] := by
  obtain ⟨w, hw, hconfirmed⟩ := Option.map_eq_some_iff.1 h
  obtain ⟨c, hrun, rfl⟩ := System.Run.of_script sampleReply_performs (sampleScript_possible flagged allowed) (System.idle .initial) hw
  exact ⟨c, hrun, hconfirmed⟩

/-- A flag that the server has is confirmed, of the row it was stored in. -/
theorem flagged_email_confirmed : ∃ c, (mailSystem (sampleRemotes true) rewritten).Run (System.idle .initial) c ∧
    c.world.confirmed = [sampleConfirmation 1] ∧
    ∀ confirmation ∈ c.world.confirmed, confirmation.Sound (sampleRemotes true) := by
  have hplay : (System.playScript (sampleReply true rewritten) (sampleScript true) 0 .initial).map (·.confirmed) =
      some [sampleConfirmation 1] := by decide
  obtain ⟨c, hrun, hc⟩ := sampleRun hplay
  exact ⟨c, hrun, hc, keyword_reconciliation_sound (sampleRemotes true) hrun⟩

/-- Without the condition: the server never has the flag, its delta leaves the row alone, and the row shows the
write that is in doubt. -/
theorem optimistic_write_confirmed : ∃ c, (mailSystem (sampleRemotes false) fun _ _ => true).Run (System.idle .initial) c ∧
    ∃ confirmation ∈ c.world.confirmed, ¬ confirmation.Sound (sampleRemotes false) := by
  have hplay : (System.playScript (sampleReply false fun _ _ => true) (sampleScript false) 0 .initial).map (·.confirmed) =
      some [sampleConfirmation 0] := by decide
  obtain ⟨c, hrun, hc⟩ := sampleRun hplay
  refine ⟨c, hrun, sampleConfirmation 0, hc ▸ List.mem_singleton_self _, fun h => ?_⟩
  rcases h ⟨"a", "e"⟩ ⟨["$flagged"], []⟩ rfl with h | ⟨u, v, -, -, e, he, hadd, -⟩
  · cases h
  · cases he
    exact absurd (hadd "$flagged" (List.mem_singleton_self _)) (by simp [sampleEmail])

end Reconcile

end Boxplot.Sync
