import Boxplot.App.Coherent
/-!
# The steps of the composed runtime

Each step that disturbs no `connect` keeps sessions and body capabilities in
agreement, and leads the call that takes it to a stage its contract allows.
-/

namespace Boxplot.App

open Domain Lib Remote

namespace CoherenceInvariant

open RuntimeState

variable {w w' : RuntimeState} {n : Nat} {σ : Nat → Option RuntimeStage} {t : Nat} {st st' : RuntimeStage}

/-- Where a step of call `t` leads. -/
def Next (n : Nat) (σ : Nat → Option RuntimeStage) (t : Nat) (st : RuntimeStage) (c : AppCall) (r : AppReply c) (w' : RuntimeState) :
    Prop :=
  ∃ st', coherenceContract.step st c r st' ∧ CoherenceInvariant w' n (Function.update σ t (some st'))

theorem stage (h : CoherenceInvariant w n σ) (hc : w'.Coherent) (ho : ∀ u st, u ≠ t → σ u = some st → st.Holds w u → st.Holds w' u)
    (ht : st'.Holds w' t) : CoherenceInvariant w' n (Function.update σ t (some st')) := by
  refine ⟨hc, fun u st hu => ?_⟩
  by_cases hut : u = t
  · subst hut
    rw [Function.update_self] at hu
    cases hu
    exact ht
  · rw [Function.update_of_ne hut] at hu
    exact ho u st hut hu (h.2 u st hu)

/-- A step that the stages outlive. -/
theorem keep (h : CoherenceInvariant w n σ) (ht : σ t = some st) (hc : w'.Coherent) (hk : w.Keeps w') :
    CoherenceInvariant w' n (Function.update σ t (some st)) :=
  h.stage hc (fun _ _ _ _ hst => hk.holds hst) (hk.holds (h.2 t st ht))

/-- A step that does not end a session, and the stage it leads to. -/
theorem quiet (h : CoherenceInvariant w n σ) (hq : w.Quiet w') (ht : st'.Holds w' t) :
    CoherenceInvariant w' n (Function.update σ t (some st')) :=
  h.stage (hq.coherent h.1) (fun _ _ _ _ hst => hq.keeps.holds hst) ht

/-- The same, when the stage stays. -/
theorem same (h : CoherenceInvariant w n σ) (ht : σ t = some st) (hq : w.Quiet w') :
    CoherenceInvariant w' n (Function.update σ t (some st)) :=
  h.keep ht (hq.coherent h.1) hq.keeps

theorem beginAttempt (h : CoherenceInvariant w n σ) (ht : σ t = some .idle) {accountKey : AccountKey}
    {r : Except RemoteApplicationErrorKind (Nat × Nat)} (hp : w.perform t (.beginAttempt accountKey) r w') :
    Next n σ t .idle (.beginAttempt accountKey) r w' := by
  change (r, w') = w.beginAttempt t accountKey at hp
  unfold RuntimeState.beginAttempt RuntimeState.beginConnect at hp
  have hstatus (k : AccountKey) (hk : k ≠ accountKey) := w.app.beginConnect_getStatus_ne hk
  rcases w.app.beginConnect_cases accountKey with ⟨kind, hb⟩ | ⟨g, s', hb, -, hfree, hnone, hg, ha⟩
  · rw [hb] at hp
    cases hp
    exact ⟨.idle, rfl, h.same ht (.refl h.1)⟩
  · rw [hb] at hp hstatus
    cases hp
    have hne (k : AccountKey) (e : ActiveRemoteAccount) (he : w.app.sessions.get? k = some e) : k ≠ accountKey := by
      rintro rfl
      rw [hfree] at he
      cases he
    have hgrow : AppState.GenerationsGrow w.app s' := by
      refine AppState.generationsGrow_set w.app accountKey ?_ ha.generations
      omega
    refine ⟨_, rfl, h.quiet ?_ ⟨⟨g, ?_, Nat.le_refl _⟩, fun _ => rfl, by simp, by simp⟩⟩
    · refine ⟨fun _ _ hi => hi, hgrow, ?_, ?_, fun _ hx => hx, fun _ _ hr => hr, rfl, rfl, ha.disposed, ?_⟩
      · intro k g₁ g₂ hg₂ hle hk
        rw [ha.pendingConnects, OrderedMap.get?_set] at hk
        split at hk
        · -- the new attempt is not an old one
          rename_i hkey
          subst hkey
          rw [hg₂] at hg
          cases hk
          simp only [Option.getD_some] at hg
          omega
        · exact ⟨hk, rfl⟩
      · intro k e he
        exact ⟨by dsimp only; rw [ha.sessions]; exact he, rfl, rfl⟩
      · intro k e he
        dsimp only at he ⊢
        rw [ha.sessions] at he
        obtain ⟨hauth, hkey, hpending⟩ := h.1.current k e he
        refine ⟨?_, hkey, ?_⟩
        · simp only [isAuthenticated, hstatus k (hne k e he)]
          exact hauth
        · rw [ha.pendingConnects, OrderedMap.get?_set_ne _ _ (hne k e he)]
          exact hpending
    · dsimp only
      rw [ha.generations]
      exact OrderedMap.get?_set_self _ _ _

theorem «open» (h : CoherenceInvariant w n σ) (ht : σ t = some st) {accountKey : AccountKey} {capability generation : Nat}
    {stored : Option RemoteAccountRef} (hst : st = .attempt accountKey capability generation none stored)
    {r : Except Rejection RemoteSession} (hp : w.perform t .«open» r w') : Next n σ t st .«open» r w' := by
  subst hst
  cases r with
  | error x =>
    obtain rfl : w' = w := hp
    exact ⟨_, rfl, h.same ht (.refl h.1)⟩
  | ok session =>
    obtain ⟨hid, rfl⟩ := hp
    have hopened (i u : Nat) (hi : w.opened[i]? = some u) : (w.opened ++ [t])[i]? = some u := by
      rw [List.getElem?_append_left (List.getElem?_eq_some_iff.1 hi).1]
      exact hi
    obtain ⟨hg, hpending, -, haccount⟩ := h.2 t _ ht
    refine ⟨_, rfl, h.quiet ?_ ⟨hg, hpending, ?_, haccount⟩⟩
    · exact { Quiet.refl h.1 with opened := hopened }
    · rintro s ⟨⟩
      rw [hid, List.getElem?_append_right (Nat.le_refl _), Nat.sub_self]
      rfl

theorem registerAccount (h : CoherenceInvariant w n σ) (ht : σ t = some st) {accountKey : AccountKey}
    {remoteRef : RemoteAccountRef} {r : RegisterOutcome} (hp : w.perform t (.registerAccount accountKey remoteRef) r w') :
    Next n σ t st (.registerAccount accountKey remoteRef) r w' := by
  cases r with
  | ok =>
    obtain ⟨hfree, rfl⟩ := hp
    have haccounts (k : AccountKey) (r : RemoteAccountRef) (hr : w.accounts.get? k = some r) :
        (w.accounts.set accountKey remoteRef).get? k = some r := by
      rw [OrderedMap.get?_set]
      split
      · rename_i hk
        subst hk
        rw [hr] at hfree
        simp only [List.mem_cons, reduceCtorEq, Option.some.injEq, List.not_mem_nil, or_false, false_or] at hfree
        rw [hfree]
      · exact hr
    have hq : w.Quiet { w with accounts := w.accounts.set accountKey remoteRef } := { Quiet.refl h.1 with accounts := haccounts }
    refine ⟨_, rfl, h.quiet hq ?_⟩
    have hholds := hq.keeps.holds (h.2 t st ht)
    cases st with
    | idle | installed | connected => exact hholds
    | attempt accountKey' capability generation session stored =>
      obtain ⟨hg, hpending, hopened, haccount⟩ := hholds
      refine ⟨hg, hpending, hopened, fun r hr => ?_⟩
      split at hr
      · rename_i hk
        cases hr
        rw [hk]
        exact OrderedMap.get?_set_self _ _ _
      · exact haccount r hr
  | conflict | failed =>
    obtain rfl : w' = w := hp
    exact ⟨st, rfl, h.same ht (.refl h.1)⟩

theorem readAccount (h : CoherenceInvariant w n σ) (ht : σ t = some st) {accountKey : AccountKey} {r : Option (Option RemoteAccountRef)}
    (hne : r ≠ none) (hp : w.perform t (.readAccount accountKey) r w') : Next n σ t st (.readAccount accountKey) r w' := by
  obtain ⟨hr, rfl⟩ := hp
  have hholds := h.2 t st ht
  -- an account whose binding is known is read so
  have hreads : st.Reads accountKey r := by
    rintro capability session stored rfl
    obtain ⟨-, -, -, -, haccount, -⟩ := hholds
    cases r with
    | none => exact absurd rfl hne
    | some found => rw [hr found rfl, haccount]
  rcases r with - | - | remoteRef
  · exact absurd rfl hne
  · exact ⟨st, ⟨rfl, hreads⟩, h.same ht (.refl h.1)⟩
  · refine ⟨_, ⟨rfl, hreads⟩, h.quiet (.refl h.1) ?_⟩
    cases st with
    | idle | installed | connected => exact hholds
    | attempt accountKey' capability generation session stored =>
      obtain ⟨hg, hpending, hopened, haccount⟩ := hholds
      refine ⟨hg, hpending, hopened, fun found hf => ?_⟩
      split at hf
      · rename_i hk
        cases hf
        rw [hk]
        exact (hr _ rfl).symm
      · exact haccount found hf

theorem install (h : CoherenceInvariant w n σ) {active : ActiveRemoteAccount} {capability : Nat} {stored : Option RemoteAccountRef}
    (ht : σ t = some (.attempt active.accountKey capability active.generation (some active.session) stored))
    (hbound : Bound stored active.session) {r : Bool} (hp : w.perform t (.install active) r w') :
    Next n σ t (.attempt active.accountKey capability active.generation (some active.session) stored) (.install active) r w' := by
  change (r, w') = w.install active at hp
  unfold RuntimeState.install at hp
  have hstatus (k : AccountKey) (hk : k ≠ active.accountKey) := w.app.install_getStatus_ne hk
  rcases w.app.install_cases active with hi | ⟨s', hi, hauthority, ha⟩
  · rw [hi] at hp
    cases hp
    exact ⟨_, rfl, h.same ht (.refl h.1)⟩
  · have hself := AppState.install_getStatus_self hi
    rw [hi] at hp hstatus
    cases hp
    obtain ⟨-, -, hpending⟩ := AppState.hasConnectAuthority_iff.1 hauthority
    obtain ⟨-, hgeneration, hopened, haccount⟩ := h.2 t _ ht
    obtain ⟨remoteRef, selected, rfl, hselected, hmem⟩ := hbound
    have hne (k : AccountKey) (e : ActiveRemoteAccount) (he : w.app.sessions.get? k = some e) : k ≠ active.accountKey := by
      rintro rfl
      rw [(h.1.current _ e he).2.2] at hpending
      cases hpending
    refine ⟨_, ⟨capability, remoteRef, rfl, rfl⟩, h.quiet ?_ ⟨hopened _ rfl, ?_, ⟨active, ?_, rfl⟩, hgeneration hpending,
      haccount _ rfl, ⟨remoteRef, selected, rfl, hselected, hmem⟩⟩⟩
    · refine ⟨fun _ _ hi => hi, ?_, ?_, ?_, fun _ hx => List.mem_cons_of_mem _ hx, fun _ _ hr => hr, rfl, rfl, ha.disposed, ?_⟩
      · intro k g hg
        exact ⟨g, by dsimp only; rw [ha.generations]; exact hg, Nat.le_refl _⟩
      · intro k g _ _ _ hk
        rw [ha.pendingConnects, OrderedMap.get?_delete] at hk
        split at hk
        · cases hk
        · exact ⟨hk, rfl⟩
      · intro k e he
        refine ⟨?_, rfl, rfl⟩
        dsimp only
        rw [ha.sessions, OrderedMap.get?_set_ne _ _ (hne k e he)]
        exact he
      · intro k e he
        dsimp only at he ⊢
        rw [ha.sessions, OrderedMap.get?_set] at he
        rw [ha.pendingConnects, OrderedMap.get?_delete]
        by_cases hk : k = active.accountKey
        · -- the account of the new session
          rw [if_pos hk] at he ⊢
          cases he
          exact ⟨by simp only [isAuthenticated, decide_eq_true_eq, hk]; exact hself, hk.symm, rfl⟩
        · rw [if_neg hk] at he ⊢
          obtain ⟨hauth, hrest⟩ := h.1.current k e he
          refine ⟨?_, hrest⟩
          simp only [isAuthenticated, hstatus k hk]
          exact hauth
    · exact List.mem_cons_self
    · dsimp only
      rw [ha.sessions]
      exact OrderedMap.get?_set_self _ _ _

/-- The end of an attempt. -/
theorem failConnect (h : CoherenceInvariant w n σ) (ht : σ t = some st) {accountKey : AccountKey} {generation : Nat}
    {kind : RemoteApplicationErrorKind} {opened : Bool} {r : RemoteApplicationErrorKind}
    (hp : w.perform t (.failConnect accountKey generation kind opened) r w') :
    Next n σ t st (.failConnect accountKey generation kind opened) r w' := by
  obtain ⟨-, rfl⟩ := Prod.mk.inj (show (r, w') = w.failConnect accountKey generation kind opened from hp)
  refine ⟨st, rfl, h.same ht ?_⟩
  rcases w.app.failConnect_cases accountKey generation kind opened with hf | ⟨hauthority, ha⟩
  · rw [hf]
    exact .refl h.1
  · obtain ⟨-, -, hpending⟩ := AppState.hasConnectAuthority_iff.1 hauthority
    refine .of_alike h.1 ha.sessions (fun k g hk => ?_) ha.generations ha.disposed fun k e he => .inl ?_
    · rw [ha.pendingConnects, OrderedMap.get?_delete] at hk
      split at hk
      · cases hk
      · exact hk
    · -- an account that is connecting has no session
      have hk : k ≠ accountKey := by
        rintro rfl
        rw [(h.1.current k e he).2.2] at hpending
        cases hpending
      rw [w.app.failConnect_getStatus_ne generation kind opened hk]

theorem endConnect (h : CoherenceInvariant w n σ) (ht : σ t = some st) {accountKey : AccountKey} {generation : Nat} {r : Unit}
    (hp : w.perform t (.endConnect accountKey generation) r w') : Next n σ t st (.endConnect accountKey generation) r w' := by
  obtain rfl : w' = { w with app := w.app.endConnect accountKey generation } := hp
  refine ⟨st, rfl, h.same ht ?_⟩
  unfold AppState.endConnect
  split
  · refine .of_alike h.1 rfl (fun k g hk => ?_) rfl rfl fun _ _ _ => .inl rfl
    dsimp only at hk
    rw [OrderedMap.get?_delete] at hk
    split at hk
    · cases hk
    · exact hk
  · exact .refl h.1

theorem activeAccount (h : CoherenceInvariant w n σ) (ht : σ t = some st) {accountKey : AccountKey}
    {r : Except RemoteApplicationErrorKind ActiveRemoteAccount} (hp : w.perform t (.activeAccount accountKey) r w') :
    Next n σ t st (.activeAccount accountKey) r w' := by
  obtain ⟨rfl, rfl⟩ := hp
  refine ⟨st, ?_, h.same ht (.refl h.1)⟩
  unfold AppState.activeAccount
  split
  · rfl
  · cases hs : w'.app.sessions.get? accountKey with
    | none => rfl
    | some active => exact ⟨rfl, (h.1.current _ _ hs).2.1⟩

/-- A failed refresh finds the account authenticated, or neither connected nor connecting. -/
theorem refreshFailed (h : CoherenceInvariant w n σ) (ht : σ t = some st) {accountKey : AccountKey}
    (hallowed : w.isAuthenticated accountKey = true ∨ w.app.pendingConnects.get? accountKey = none) {r : Unit}
    (hp : w.perform t (.refreshFailed accountKey) r w') : Next n σ t st (.refreshFailed accountKey) r w' := by
  obtain rfl : w' = w.refreshFailed accountKey := hp
  refine ⟨st, rfl, h.same ht ?_⟩
  unfold RuntimeState.refreshFailed
  by_cases hauth : w.isAuthenticated accountKey = true
  · rw [if_pos hauth]
    exact .refl h.1
  · rw [if_neg hauth]
    have hnone := hallowed.resolve_left hauth
    have hgeneration (k : AccountKey) (hk : k ≠ accountKey) :
        (w.capabilities.invalidate accountKey).generation k = w.capabilities.generation k := by
      simp only [CapabilityState.generation, CapabilityState.invalidate, OrderedMap.get?_set_ne _ _ hk]
    have hpending (k : AccountKey) (g g' : Nat) (_ : w.app.generations.get? k = some g') (_ : g ≤ g')
        (hk : w.app.pendingConnects.get? k = some g) : w.app.pendingConnects.get? k = some g ∧
          (w.capabilities.invalidate accountKey).generation k = w.capabilities.generation k := by
      refine ⟨hk, hgeneration k ?_⟩
      rintro rfl
      rw [hnone] at hk
      cases hk
    have hsessions (k : AccountKey) (e : ActiveRemoteAccount) (he : w.app.sessions.get? k = some e) : w.app.sessions.get? k = some e ∧
        (w.capabilities.invalidate accountKey).active.get? k = w.capabilities.active.get? k ∧
          (w.capabilities.invalidate accountKey).generation k = w.capabilities.generation k := by
      have hk : k ≠ accountKey := by
        rintro rfl
        exact hauth (h.1.current k e he).1
      exact ⟨he, by simp only [CapabilityState.invalidate, OrderedMap.get?_delete, if_neg hk], hgeneration k hk⟩
    exact { Quiet.refl h.1 with pending := hpending, sessions := hsessions }

/-- A step with which something ends leaves the sessions it does not concern. -/
theorem live_of_ending (hw : w.Coherent) {ending : Ending} (hendings : w'.endings = w.endings ++ [ending])
    (hconnected : w'.connected = w.connected) (hlive : ∀ x, ending.concerns x.accountKey x.session = false → w.Live x → w'.Live x) :
    ∀ x ∈ w'.connected, x.endings ≤ w'.endings.length ∧ (w'.Unended x → w'.Live x) := by
  intro x hx
  rw [hconnected] at hx
  obtain ⟨hle, hx⟩ := hw.live x hx
  refine ⟨by rw [hendings, List.length_append]; omega, fun hun => ?_⟩
  unfold Unended at hun
  rw [hendings, List.drop_append_of_le_length hle] at hun
  have hold : w.Unended x := fun e he => hun e (List.mem_append_left _ he)
  exact hlive x (hun ending (List.mem_append_right _ (List.mem_singleton_self _))) (hx hold)

/-- A disconnect ends the account's session, which no call is activating. -/
theorem revoke (h : CoherenceInvariant w n σ) (ht : σ t = some st) {accountKey : AccountKey}
    (hallowed : ∀ e ∈ w.app.sessions.get? accountKey, e.session.id ∉ w.activating)
    {r : Except RemoteApplicationErrorKind (Option ActiveRemoteAccount)} (hp : w.perform t (.revoke accountKey) r w') :
    Next n σ t st (.revoke accountKey) r w' := by
  change (r, w') = w.revoke accountKey at hp
  unfold RuntimeState.revoke RuntimeState.beginDisconnect at hp
  have hstatus (k : AccountKey) (hk : k ≠ accountKey) := w.app.beginDisconnect_getStatus_ne hk
  have husable := h.1.usable
  rcases w.app.beginDisconnect_cases accountKey with ⟨kind, hb⟩ | ⟨s', hb, -, generations, hgenerations, ha⟩
  · -- the application is not disposed
    unfold AppState.beginDisconnect at hb
    rw [husable] at hb
    cases hb
  · dsimp only at hp
    rw [hb] at hp hstatus
    cases hp
    have hgeneration (k : AccountKey) (hk : k ≠ accountKey) :
        (w.capabilities.invalidate accountKey).generation k = w.capabilities.generation k := by
      simp only [CapabilityState.generation, CapabilityState.invalidate, OrderedMap.get?_set_ne _ _ hk]
    have hactive (k : AccountKey) (hk : k ≠ accountKey) :
        (w.capabilities.invalidate accountKey).active.get? k = w.capabilities.active.get? k := by
      simp only [CapabilityState.invalidate, OrderedMap.get?_delete, if_neg hk]
    have hsessions (k : AccountKey) (hk : k ≠ accountKey) : s'.sessions.get? k = w.app.sessions.get? k := by
      rw [ha.sessions, OrderedMap.get?_delete, if_neg hk]
    refine ⟨st, rfl, h.keep ht ⟨ha.disposed.trans husable, ?_, live_of_ending h.1 rfl rfl ?_⟩
      ⟨fun _ _ hi => hi, ?_, ?_, ?_, fun _ _ hr => hr, fun _ hx => hx⟩⟩
    · intro k e he
      dsimp only at he ⊢
      rw [ha.sessions, OrderedMap.get?_delete] at he
      split at he
      · cases he
      · rename_i hk
        obtain ⟨hauth, hkey, hnone⟩ := h.1.current k e he
        refine ⟨?_, hkey, by rw [ha.pendingConnects, OrderedMap.get?_delete, if_neg hk]; exact hnone⟩
        simp only [isAuthenticated, hstatus k hk]
        exact hauth
    · rintro x hx ⟨⟨e, he, hid⟩, capability, hcapability, hrest⟩
      have hk : x.accountKey ≠ accountKey := fun hk => of_decide_eq_false hx hk.symm
      refine ⟨⟨e, by dsimp only; rw [hsessions _ hk]; exact he, hid⟩, capability, ?_, ?_⟩
      · dsimp only
        rw [hactive _ hk]
        exact hcapability
      · dsimp only
        rw [hgeneration _ hk]
        exact hrest
    · intro k g hg
      dsimp only
      rw [ha.generations]
      rcases hgenerations with rfl | rfl
      · exact ⟨g, hg, Nat.le_refl _⟩
      · exact AppState.generationsGrow_nextGeneration w.app accountKey k g hg
    · intro k g _ _ _ hk
      dsimp only at hk
      rw [ha.pendingConnects, OrderedMap.get?_delete] at hk
      split at hk
      · cases hk
      · rename_i hne
        exact ⟨hk, hgeneration k hne⟩
    · intro k e he hmem
      have hk : k ≠ accountKey := by
        rintro rfl
        exact hallowed e he hmem
      exact ⟨by dsimp only; rw [hsessions k hk]; exact he, hmem, hgeneration k hk⟩

/-- A refresh may end the session that it used, if no call is activating it. -/
theorem finishRefresh (h : CoherenceInvariant w n σ) (ht : σ t = some st) {accountKey : AccountKey} {active : ActiveRemoteAccount}
    {outcome : Except Rejection Unit} (hkey : active.accountKey = accountKey) {r : AppState.RefreshEnd}
    (hallowed : w.Undisturbed t (.finishRefresh accountKey active outcome) r)
    (hp : w.perform t (.finishRefresh accountKey active outcome) r w') :
    Next n σ t st (.finishRefresh accountKey active outcome) r w' := by
  change (r, w') = w.finishRefresh accountKey active outcome at hp
  unfold RuntimeState.finishRefresh at hp
  obtain ⟨hstatus, hself⟩ := w.app.finishRefresh_getStatus accountKey active outcome
  rcases w.app.finishRefresh_cases accountKey active outcome with ⟨kind, s', hf, hcurrent, ha⟩ | ⟨ended, s', hf, hnot, ha⟩
  · rw [hf] at hp hstatus
    cases hp
    obtain ⟨-, -, hactive⟩ := AppState.isCurrent_iff.1 hcurrent
    rw [hkey] at hactive
    have hsessions (k : AccountKey) (hk : k ≠ accountKey) : s'.sessions.get? k = w.app.sessions.get? k := by
      rw [ha.sessions, OrderedMap.get?_delete, if_neg hk]
    refine ⟨st, rfl, h.keep ht ⟨ha.disposed.trans h.1.usable, ?_, live_of_ending h.1 rfl rfl ?_⟩
      ⟨fun _ _ hi => hi, ?_, ?_, ?_, fun _ _ hr => hr, fun _ hx => hx⟩⟩
    · intro k e he
      dsimp only at he ⊢
      rw [ha.sessions, OrderedMap.get?_delete] at he
      split at he
      · cases he
      · rename_i hk
        obtain ⟨hauth, hkey, hnone⟩ := h.1.current k e he
        refine ⟨?_, hkey, by rw [ha.pendingConnects]; exact hnone⟩
        simp only [isAuthenticated, hstatus k hk]
        exact hauth
    · rintro x hx ⟨⟨e, he, hid⟩, hcapability⟩
      have hk : x.accountKey ≠ accountKey := by
        intro hk
        rw [hk, hactive] at he
        cases he
        exact of_decide_eq_false hx hid
      exact ⟨⟨e, by dsimp only; rw [hsessions _ hk]; exact he, hid⟩, hcapability⟩
    · intro k g hg
      dsimp only
      rw [ha.generations]
      exact AppState.generationsGrow_nextGeneration w.app accountKey k g hg
    · intro k g _ _ _ hk
      dsimp only at hk
      rw [ha.pendingConnects] at hk
      exact ⟨hk, rfl⟩
    · intro k e he hmem
      have hk : k ≠ accountKey := by
        rintro rfl
        rw [hactive] at he
        cases he
        exact hallowed hmem
      exact ⟨by dsimp only; rw [hsessions k hk]; exact he, hmem, rfl⟩
  · have hauth (k : AccountKey) : (s'.getStatus k).auth = (w.app.getStatus k).auth ∨ (s'.getStatus k).auth = .authenticated := by
      rw [hf] at hstatus hself
      by_cases hk : k = accountKey
      · subst hk
        rcases hself hnot with hs | hs
        · exact .inr hs
        · exact .inl (by rw [show s' = w.app from hs])
      · exact .inl (by rw [show s'.getStatus k = _ from hstatus k hk])
    have hq : w.Quiet { w with app := s' } :=
      .of_alike h.1 ha.sessions (fun k g hk => by rw [ha.pendingConnects] at hk; exact hk) ha.generations ha.disposed fun k _ _ => hauth k
    rw [hf] at hp
    cases ended with
    | expired kind => exact absurd rfl (hnot kind)
    | done | failed kind =>
      cases hp
      exact ⟨st, rfl, h.same ht hq⟩

/-- An installed session is the account's. -/
theorem authenticated (h : CoherenceInvariant w n σ) {accountKey : AccountKey} {capability : Nat} {session : RemoteSession}
    {stored : RemoteAccountRef} (ht : σ t = some (.installed accountKey capability session stored)) :
    w.isAuthenticated accountKey = true := by
  obtain ⟨-, -, ⟨e, he, -⟩, -⟩ := h.2 t _ ht
  exact (h.1.current _ _ he).1

/-- The capability of an installed session is activated with it. -/
theorem activate (h : CoherenceInvariant w n σ) {accountKey : AccountKey} {capability : Nat} {session : RemoteSession}
    {remoteRef : RemoteAccountRef} (ht : σ t = some (.installed accountKey capability session remoteRef)) {r : Except Rejection Unit}
    (hp : w.perform t (.activate accountKey session capability (some (some remoteRef))) r w') :
    Next n σ t (.installed accountKey capability session remoteRef)
      (.activate accountKey session capability (some (some remoteRef))) r w' := by
  change (r, w') = w.activate t accountKey session capability (some (some remoteRef)) at hp
  have hauth := h.authenticated ht
  obtain ⟨hopened, -, ⟨e, he, rfl⟩, hgeneration, -, remoteRef', selected, ⟨⟩, hselected, hmem⟩ := h.2 t _ ht
  have hactivated : w.capabilities.activate true ⟨accountKey, selected, e.session.id, capability⟩ capability =
      { w.capabilities with active := w.capabilities.active.set accountKey ⟨accountKey, selected, e.session.id, capability⟩ } := by
    simp [CapabilityState.activate, hgeneration]
  simp only [RuntimeState.activate, hauth, if_true, hselected, hmem, hactivated] at hp
  cases hp
  refine ⟨_, ⟨rfl, rfl⟩, h.stage ⟨h.1.usable, h.1.current, ?_⟩ ?_ ⟨_, List.mem_cons_self, rfl, rfl, rfl⟩⟩
  · intro x hx
    rcases List.mem_cons.1 hx with rfl | hx
    · -- the call itself
      exact ⟨Nat.le_refl _, fun _ => ⟨⟨e, he, rfl⟩, _, OrderedMap.get?_set_self _ _ _, rfl, hgeneration.symm⟩⟩
    · obtain ⟨hle, hlive⟩ := h.1.live x hx
      refine ⟨hle, fun hun => ?_⟩
      obtain ⟨⟨e', he', hid⟩, capability', hcapability', hrest⟩ := hlive hun
      refine ⟨⟨e', he', hid⟩, ?_⟩
      by_cases hk : x.accountKey = accountKey
      · rw [hk, he] at he'
        cases he'
        refine ⟨⟨accountKey, selected, e.session.id, capability⟩, ?_, hid, ?_⟩
        · rw [hk]
          exact OrderedMap.get?_set_self _ _ _
        · rw [hk]
          exact hgeneration.symm
      · refine ⟨capability', ?_, hrest⟩
        dsimp only [RuntimeState.resolve]
        rw [OrderedMap.get?_set_ne _ _ hk]
        exact hcapability'
  · intro u st hne _ hst
    cases st with
    | idle => trivial
    | attempt => exact hst
    | installed accountKey' capability' session' stored' =>
      obtain ⟨hopened', hmem', hrest⟩ := hst
      refine ⟨hopened', List.mem_filter.2 ⟨hmem', ?_⟩, hrest⟩
      -- the sessions of different calls are different
      simp only [ne_eq, decide_eq_true_eq]
      intro hid
      rw [hid, hopened] at hopened'
      exact hne (Option.some.inj hopened').symm
    | connected accountKey' session' =>
      obtain ⟨x, hx, hrest⟩ := hst
      exact ⟨x, List.mem_cons_of_mem _ hx, hrest⟩

/-- Every step that disturbs no `connect` keeps the invariant. -/
theorem call (h : CoherenceInvariant w n σ) {c : AppCall} {r : AppReply c} (ht : σ t = some st) (hmay : coherenceContract.may st c)
    (hallowed : w.Undisturbed t c r) (hp : w.perform t c r w') : Next n σ t st c r w' := by
  cases c with
  | beginAttempt accountKey =>
    obtain rfl : st = .idle := hmay
    exact h.beginAttempt ht hp
  | «open» =>
    obtain ⟨accountKey, capability, generation, stored, hst⟩ := hmay
    exact h.«open» ht hst hp
  | registerAccount accountKey remoteRef => exact h.registerAccount ht hp
  | readAccount accountKey => exact h.readAccount ht hallowed hp
  | install active =>
    obtain ⟨capability, stored, rfl, hbound⟩ := hmay
    exact h.install ht hbound hp
  | failConnect accountKey generation kind opened => exact h.failConnect ht hp
  | endConnect accountKey generation => exact h.endConnect ht hp
  | activeAccount accountKey => exact h.activeAccount ht hp
  | refreshFailed accountKey => exact h.refreshFailed ht hallowed hp
  | revoke accountKey => exact h.revoke ht hallowed hp
  | finishRefresh accountKey active outcome => exact h.finishRefresh ht hmay hallowed hp
  | isAuthenticated accountKey session =>
    obtain ⟨capability, session, remoteRef, rfl, rfl⟩ := hmay
    have hmay : w.mayActivate t accountKey session.id = (true, w) := if_pos (h.authenticated ht)
    change (r, w') = w.mayActivate t accountKey session.id at hp
    rw [hmay] at hp
    cases hp
    exact ⟨_, ⟨rfl, rfl⟩, h.same ht (.refl h.1)⟩
  | activate accountKey session generation stored =>
    obtain ⟨remoteRef, rfl, rfl⟩ := hmay
    exact h.activate ht hp
  | close session | closeAll sessions =>
    obtain rfl : w' = { w with closed := _ } := hp
    exact ⟨st, rfl, h.same ht { Quiet.refl h.1 with }⟩
  | notify accountKey | connectionFactory | syncAccount active =>
    obtain rfl : w' = w := hp
    exact ⟨st, rfl, h.same ht (.refl h.1)⟩
  | hasConnectAuthority accountKey generation =>
    obtain ⟨-, rfl⟩ := hp
    exact ⟨st, rfl, h.same ht (.refl h.1)⟩
  | beginConnect accountKey | beginDisconnect accountKey | beginDispose => exact hmay.elim

end CoherenceInvariant

end Boxplot.App
