import Boxplot.App.Ownership
/-!
# The lifecycle of remote sessions

What holds of the sessions in every state that any calls of the application's
methods reach, whatever comes between their steps.
-/

namespace Boxplot.App

open Domain Lib Remote

/-! ## The invariant -/

def LifecycleInvariant (w : RuntimeState) (n : Nat) (σ : Nat → Option AppStage) : Prop :=
  ∃ owner, Owned w.app.sessions w.opened.length w.closed n σ owner ∧ Attempts w.app w.opened w.begun w.superseded n σ

namespace LifecycleInvariant

variable {w w' : RuntimeState} {n : Nat} {σ : Nat → Option AppStage} {t : Nat} {st : AppStage}

/-- Where a step of call `t` leads. -/
def Next (n : Nat) (σ : Nat → Option AppStage) (t : Nat) (st : AppStage) (c : AppCall) (r : AppReply c) (w' : RuntimeState) : Prop :=
  ∃ st', lifecycleContract.step st c r st' ∧ LifecycleInvariant w' n (Function.update σ t (some st'))

/-- A step after which sessions and attempts are as they were. -/
theorem same (h : LifecycleInvariant w n σ) (hlt : t < n) (ht : σ t = some st) (ha : w.app.Alike w'.app) (hopened : w'.opened = w.opened)
    (hclosed : w'.closed = w.closed) (hbegun : w'.begun = w.begun) (hsuperseded : w'.superseded = w.superseded) :
    LifecycleInvariant w' n (Function.update σ t (some st)) := by
  obtain ⟨owner, ho, hat⟩ := h
  refine ⟨owner, ?_, ?_⟩
  · rw [ha.sessions, hopened, hclosed]
    exact ho.stage hlt ht rfl
  · rw [hopened, hbegun, hsuperseded]
    exact (hat.alike ha).stage ht rfl fun b hb x hx => (hat.stages t st b ht hb).2 x hx

/-- Attempts end, and nothing else changes. -/
theorem endAttempt (h : LifecycleInvariant w n σ) (hlt : t < n) (ht : σ t = some st) {k : AccountKey}
    (ha : AppState.Alike { w.app with pendingConnects := w.app.pendingConnects.delete k } w'.app) (hopened : w'.opened = w.opened)
    (hclosed : w'.closed = w.closed) (hbegun : w'.begun = w.begun) (hsuperseded : w'.superseded = w.superseded) :
    LifecycleInvariant w' n (Function.update σ t (some st)) := by
  obtain ⟨owner, ho, hat⟩ := h
  have hshrunk : LifecycleInvariant { w with app := { w.app with pendingConnects := w.app.pendingConnects.delete k } } n σ := by
    refine ⟨owner, ho, hat.shrink (fun _ _ he => he) ?_ (fun _ g hg => ⟨g, hg, Nat.le_refl _⟩) .inl fun _ hu => .inl hu⟩
    intro k' g hg
    rw [OrderedMap.get?_delete] at hg
    split at hg
    · cases hg
    · exact hg
  exact hshrunk.same hlt ht ha hopened hclosed hbegun hsuperseded

theorem beginConnect (h : LifecycleInvariant w n σ) (hlt : t < n) (ht : σ t = some .idle) {accountKey : AccountKey}
    {r : Except RemoteApplicationErrorKind Nat} (hp : w.perform t (.beginConnect accountKey) r w') :
    Next n σ t .idle (.beginConnect accountKey) r w' := by
  change (r, w') = w.beginConnect t accountKey at hp
  unfold RuntimeState.beginConnect at hp
  rcases w.app.beginConnect_cases accountKey with ⟨kind, hb⟩ | ⟨g, s', hb, hd, hfree, -, hg, ha⟩
  · rw [hb] at hp
    cases hp
    exact ⟨.idle, rfl, h.same hlt ht (.refl _) rfl rfl rfl rfl⟩
  · rw [hb] at hp
    cases hp
    obtain ⟨owner, ho, hat⟩ := h
    refine ⟨⟨some (accountKey, g), []⟩, rfl, owner, ?_, hat.begin hlt ht rfl hd hfree hg ha⟩
    rw [ha.sessions]
    exact ho.stage hlt ht rfl

theorem «open» (h : LifecycleInvariant w n σ) (hlt : t < n) (ht : σ t = some st) (hnone : st.held = [])
    {r : Except Rejection RemoteSession} (hp : w.perform t .«open» r w') : Next n σ t st .«open» r w' := by
  cases r with
  | error x =>
    obtain rfl : w' = w := hp
    exact ⟨st, rfl, h.same hlt ht (.refl _) rfl rfl rfl rfl⟩
  | ok session =>
    obtain ⟨hid, rfl⟩ := hp
    obtain ⟨owner, ho, hat⟩ := h
    refine ⟨{ st with held := [session.id] }, rfl, Function.update owner w.opened.length (.call t), ?_, ?_⟩
    · rw [List.length_append, List.length_singleton]
      exact ho.«open» hlt ht hnone (by rw [hid])
    · exact hat.«open» ht (by rw [hid])

theorem install (h : LifecycleInvariant w n σ) (hlt : t < n) {active : ActiveRemoteAccount}
    (ht : σ t = some ⟨some (active.accountKey, active.generation), [active.session.id]⟩) {r : Bool}
    (hp : w.perform t (.install active) r w') :
    Next n σ t ⟨some (active.accountKey, active.generation), [active.session.id]⟩ (.install active) r w' := by
  change (r, w') = w.install active at hp
  unfold RuntimeState.install at hp
  rcases w.app.install_cases active with hi | ⟨s', hi, hauthority, ha⟩
  · rw [hi] at hp
    cases hp
    exact ⟨_, rfl, h.same hlt ht (.refl _) rfl rfl rfl rfl⟩
  · rw [hi] at hp
    cases hp
    obtain ⟨owner, ho, hat⟩ := h
    obtain ⟨-, -, hpending⟩ := AppState.hasConnectAuthority_iff.1 hauthority
    refine ⟨⟨some (active.accountKey, active.generation), []⟩, rfl,
      Function.update owner active.session.id (.registry active.accountKey), ?_, hat.install ht hauthority ha⟩
    rw [ha.sessions]
    exact ho.install hlt ht rfl (hat.pending _ _ hpending) rfl

theorem close (h : LifecycleInvariant w n σ) (hlt : t < n) (ht : σ t = some st) {session : Nat} (hmem : session ∈ st.held) {r : Bool}
    (hp : w.perform t (.close session) r w') : Next n σ t st (.close session) r w' := by
  obtain rfl : w' = { w with closed := w.closed ++ [session] } := hp
  obtain ⟨owner, ho, hat⟩ := h
  have hnodup := (ho.held t st ht).1
  refine ⟨{ st with held := st.held.filter (· ≠ session) }, rfl, _, ho.close hlt ht (List.nodup_singleton _) ?_ ⟨?_, ?_⟩, ?_⟩
  · intro x hx
    rw [List.mem_singleton.1 hx]
    exact hmem
  · exact hnodup.filter _
  · intro x
    simp [List.mem_filter]
  · exact hat.stage ht rfl fun b hb x hx => (hat.stages t st b ht hb).2 x (List.mem_filter.1 hx).1

theorem closeAll (h : LifecycleInvariant w n σ) (hlt : t < n) (ht : σ t = some st) {r : Unit}
    (hp : w.perform t (.closeAll st.held) r w') : Next n σ t st (.closeAll st.held) r w' := by
  obtain rfl : w' = { w with closed := w.closed ++ st.held } := hp
  obtain ⟨owner, ho, hat⟩ := h
  have hnodup := (ho.held t st ht).1
  refine ⟨{ st with held := [] }, rfl, _, ho.close hlt ht hnodup (fun _ hx => hx) ⟨List.nodup_nil, ?_⟩, ?_⟩
  · intro x
    simp
  · exact hat.stage ht rfl fun b hb x hx => by cases hx

theorem failConnect (h : LifecycleInvariant w n σ) (hlt : t < n) (ht : σ t = some st) {accountKey : AccountKey} {generation : Nat}
    {kind : RemoteApplicationErrorKind} {opened : Bool} {r : RemoteApplicationErrorKind}
    (hp : w.perform t (.failConnect accountKey generation kind opened) r w') :
    Next n σ t st (.failConnect accountKey generation kind opened) r w' := by
  obtain ⟨-, rfl⟩ := Prod.mk.inj (show (r, w') = w.failConnect accountKey generation kind opened from hp)
  refine ⟨st, rfl, ?_⟩
  rcases w.app.failConnect_cases accountKey generation kind opened with hf | ⟨-, ha⟩
  · exact h.same hlt ht (by dsimp only; rw [hf]; exact .refl _) rfl rfl rfl rfl
  · exact h.endAttempt hlt ht ha rfl rfl rfl rfl

theorem endConnect (h : LifecycleInvariant w n σ) (hlt : t < n) (ht : σ t = some st) {accountKey : AccountKey} {generation : Nat}
    {r : Unit} (hp : w.perform t (.endConnect accountKey generation) r w') :
    Next n σ t st (.endConnect accountKey generation) r w' := by
  obtain rfl : w' = { w with app := w.app.endConnect accountKey generation } := hp
  refine ⟨st, rfl, ?_⟩
  by_cases hg : w.app.pendingConnects.get? accountKey = some generation
  · have happ : w.app.endConnect accountKey generation =
        { w.app with pendingConnects := w.app.pendingConnects.delete accountKey } := if_pos hg
    exact h.endAttempt hlt ht (by dsimp only; rw [happ]; exact .refl _) rfl rfl rfl rfl
  · have happ : w.app.endConnect accountKey generation = w.app := if_neg hg
    exact h.same hlt ht (by dsimp only; rw [happ]; exact .refl _) rfl rfl rfl rfl

/-- A disconnect takes the account's session, and supersedes the attempts to connect the account. -/
theorem beginDisconnect (h : LifecycleInvariant w n σ) (hlt : t < n) (ht : σ t = some .idle) {accountKey : AccountKey}
    {r : Except RemoteApplicationErrorKind (Option ActiveRemoteAccount)} (hp : w.perform t (.beginDisconnect accountKey) r w') :
    Next n σ t .idle (.beginDisconnect accountKey) r w' := by
  change (r, w') = w.beginDisconnect accountKey at hp
  unfold RuntimeState.beginDisconnect at hp
  rcases w.app.beginDisconnect_cases accountKey with ⟨kind, hb⟩ | ⟨s', hb, -, generations, hgenerations, ha⟩
  · rw [hb] at hp
    cases hp
    exact ⟨.idle, rfl, h.same hlt ht (.refl _) rfl rfl rfl rfl⟩
  · rw [hb] at hp
    cases hp
    obtain ⟨owner, ho, hat⟩ := h
    have hsessions (k : AccountKey) : s'.sessions.get? k = if decide (k = accountKey) = true then none else w.app.sessions.get? k := by
      rw [ha.sessions, OrderedMap.get?_delete]
      simp only [decide_eq_true_eq]
    have hpending (k : AccountKey) : s'.pendingConnects.get? k = if k = accountKey then none else w.app.pendingConnects.get? k := by
      rw [ha.pendingConnects, OrderedMap.get?_delete]
    have hgrow : AppState.GenerationsGrow w.app s' := by
      intro k g hg
      rw [ha.generations]
      rcases hgenerations with rfl | rfl
      · exact ⟨g, hg, Nat.le_refl _⟩
      · exact AppState.generationsGrow_nextGeneration w.app accountKey k g hg
    have hnodup : ((w.app.sessions.get? accountKey).toList.map (·.session.id)).Nodup := by
      cases w.app.sessions.get? accountKey <;> simp
    have hmem (x : Nat) : x ∈ (w.app.sessions.get? accountKey).toList.map (·.session.id) ↔
        ∃ k e, decide (k = accountKey) = true ∧ w.app.sessions.get? k = some e ∧ e.session.id = x := by
      simp only [List.mem_map, Option.mem_toList, decide_eq_true_eq]
      constructor
      · rintro ⟨e, he, hid⟩
        exact ⟨accountKey, e, rfl, he, hid⟩
      · rintro ⟨k, e, rfl, he, hid⟩
        exact ⟨e, he, hid⟩
    have hlate (u : Nat) (hu : u ∈ (w.begun.filter fun b => b.2.1 = accountKey).map (·.1) ++ w.superseded) :
        u ∈ w.superseded ∨ (∃ b ∈ w.begun, b.1 = u) ∧ ∀ k g, (u, k, g) ∈ w.begun →
          s'.sessions.get? k = none ∧ s'.pendingConnects.get? k = none := by
      rcases List.mem_append.1 hu with hu | hu
      · obtain ⟨b, hb, rfl⟩ := List.mem_map.1 hu
        obtain ⟨hb, hkey⟩ := List.mem_filter.1 hb
        refine .inr ⟨⟨b, hb, rfl⟩, fun k g hmem => ?_⟩
        -- a call begins one attempt only
        have hk : k = accountKey := by
          rw [← of_decide_eq_true hkey, hat.once b hb _ hmem rfl]
        rw [hsessions, hpending]
        simp [hk]
      · exact .inl hu
    have hshrunk : Attempts s' w.opened w.begun ((w.begun.filter fun b => b.2.1 = accountKey).map (·.1) ++ w.superseded) n σ := by
      refine hat.shrink ?_ ?_ hgrow ?_ hlate
      · intro k e he
        rw [hsessions] at he
        split at he
        · cases he
        · exact he
      · intro k g hg
        rw [hpending] at hg
        split at hg
        · cases hg
        · exact hg
      · rw [ha.disposed]
        exact .inl
    let st' : AppStage := ⟨none, (w.app.sessions.get? accountKey).toList.map (·.session.id)⟩
    exact ⟨st', rfl, _, ho.take hlt ht rfl hsessions hnodup hmem, hshrunk.stage ht rfl fun b hb => by cases hb⟩

theorem activeAccount (h : LifecycleInvariant w n σ) (hlt : t < n) (ht : σ t = some st) {accountKey : AccountKey}
    {r : Except RemoteApplicationErrorKind ActiveRemoteAccount} (hp : w.perform t (.activeAccount accountKey) r w') :
    Next n σ t st (.activeAccount accountKey) r w' := by
  obtain ⟨rfl, rfl⟩ := hp
  refine ⟨st, ?_, h.same hlt ht (.refl _) rfl rfl rfl rfl⟩
  unfold AppState.activeAccount
  split
  · rfl
  · cases hs : w'.app.sessions.get? accountKey with
    | none => rfl
    | some active =>
      obtain ⟨owner, -, hat⟩ := h
      exact ⟨rfl, (hat.keys accountKey active hs).1⟩

/-- A refresh after which the session expired takes it from the registry. -/
theorem finishRefresh (h : LifecycleInvariant w n σ) (hlt : t < n) (ht : σ t = some .idle) {accountKey : AccountKey}
    {active : ActiveRemoteAccount} {outcome : Except Rejection Unit} (hkey : active.accountKey = accountKey)
    {r : AppState.RefreshEnd} (hp : w.perform t (.finishRefresh accountKey active outcome) r w') :
    Next n σ t .idle (.finishRefresh accountKey active outcome) r w' := by
  change (r, w') = w.finishRefresh accountKey active outcome at hp
  unfold RuntimeState.finishRefresh at hp
  rcases w.app.finishRefresh_cases accountKey active outcome with ⟨kind, s', hf, hcurrent, ha⟩ | ⟨ended, s', hf, hnot, ha⟩
  · rw [hf] at hp
    cases hp
    obtain ⟨owner, ho, hat⟩ := h
    obtain ⟨-, -, hactive⟩ := AppState.isCurrent_iff.1 hcurrent
    rw [hkey] at hactive
    have hsessions (k : AccountKey) : s'.sessions.get? k = if decide (k = accountKey) = true then none else w.app.sessions.get? k := by
      rw [ha.sessions, OrderedMap.get?_delete]
      simp only [decide_eq_true_eq]
    have hmem (x : Nat) : x ∈ [active.session.id] ↔
        ∃ k e, decide (k = accountKey) = true ∧ w.app.sessions.get? k = some e ∧ e.session.id = x := by
      simp only [List.mem_singleton, decide_eq_true_eq]
      constructor
      · rintro rfl
        exact ⟨accountKey, active, rfl, hactive, rfl⟩
      · rintro ⟨k, e, rfl, he, rfl⟩
        rw [hactive] at he
        cases he
        rfl
    have hshrunk : Attempts s' w.opened w.begun w.superseded n σ := by
      refine hat.shrink ?_ ?_ ?_ ?_ fun _ hu => .inl hu
      · intro k e he
        rw [hsessions] at he
        split at he
        · cases he
        · exact he
      · rw [ha.pendingConnects]
        exact fun _ _ hg => hg
      · intro k g hg
        rw [ha.generations]
        exact AppState.generationsGrow_nextGeneration w.app accountKey k g hg
      · rw [ha.disposed]
        exact .inl
    let st' : AppStage := ⟨none, [active.session.id]⟩
    exact ⟨st', rfl, _, ho.take hlt ht rfl hsessions (List.nodup_singleton _) hmem, hshrunk.stage ht rfl fun b hb => by cases hb⟩
  · rw [hf] at hp
    cases ended with
    | expired kind => exact absurd rfl (hnot kind)
    | done =>
      cases hp
      exact ⟨.idle, rfl, h.same hlt ht ha rfl rfl rfl rfl⟩
    | failed kind =>
      cases hp
      exact ⟨.idle, rfl, h.same hlt ht ha rfl rfl rfl rfl⟩

/-- `dispose` takes all sessions, and supersedes all attempts. -/
theorem beginDispose (h : LifecycleInvariant w n σ) (hlt : t < n) (ht : σ t = some .idle) {r : List ActiveRemoteAccount}
    (hp : w.perform t .beginDispose r w') : Next n σ t .idle .beginDispose r w' := by
  change (r, w') = w.beginDispose at hp
  unfold RuntimeState.beginDispose at hp
  obtain ⟨owner, ho, hat⟩ := h
  rcases w.app.beginDispose_cases with ⟨hd, hb⟩ | ⟨-, s', hb, hd', hsessions', hpending', hgrow⟩
  · rw [hb] at hp
    cases hp
    have hnone := hat.disposed hd
    have hlate (u : Nat) (hu : u ∈ w.begun.map (·.1) ++ w.superseded) : u ∈ w.superseded ∨ (∃ b ∈ w.begun, b.1 = u) ∧
        ∀ k g, (u, k, g) ∈ w.begun → w.app.sessions.get? k = none ∧ w.app.pendingConnects.get? k = none := by
      rcases List.mem_append.1 hu with hu | hu
      · obtain ⟨b, hb, rfl⟩ := List.mem_map.1 hu
        exact .inr ⟨⟨b, hb, rfl⟩, fun k _ _ => hnone k⟩
      · exact .inl hu
    have hshrunk : Attempts w.app w.opened w.begun (w.begun.map (·.1) ++ w.superseded) n σ :=
      hat.shrink (fun _ _ he => he) (fun _ _ hg => hg) (fun _ g hg => ⟨g, hg, Nat.le_refl _⟩) .inl hlate
    exact ⟨.idle, rfl, owner, ho.stage hlt ht rfl, hshrunk.stage ht rfl fun b hb => by cases hb⟩
  · rw [hb] at hp
    cases hp
    have hsessions (k : AccountKey) : s'.sessions.get? k = if true = true then none else w.app.sessions.get? k := by
      rw [hsessions']
      rfl
    have hpending (k : AccountKey) : s'.pendingConnects.get? k = none := by
      rw [hpending']
      rfl
    have hmem (x : Nat) : x ∈ w.app.sessions.values.map (·.session.id) ↔
        ∃ k e, true = true ∧ w.app.sessions.get? k = some e ∧ e.session.id = x := by
      simp only [List.mem_map, OrderedMap.mem_values]
      constructor
      · rintro ⟨e, ⟨k, he⟩, hid⟩
        exact ⟨k, e, trivial, he, hid⟩
      · rintro ⟨k, e, -, he, hid⟩
        exact ⟨e, ⟨k, he⟩, hid⟩
    -- sessions of different accounts are different
    have hnodup : (w.app.sessions.values.map (·.session.id)).Nodup := by
      rw [OrderedMap.values, List.map_map]
      refine (List.Nodup.of_map _ w.app.sessions.nodup).map_on ?_
      rintro ⟨k, e⟩ he ⟨k', e'⟩ he' hid
      have hk := ho.installed k e (OrderedMap.get?_eq_some.2 he)
      have hk' := ho.installed k' e' (OrderedMap.get?_eq_some.2 he')
      dsimp only [Function.comp_apply] at hid
      rw [hid, hk'] at hk
      cases hk
      have hee := (OrderedMap.get?_eq_some.2 he).symm.trans (OrderedMap.get?_eq_some.2 he')
      cases hee
      rfl
    have hlate (u : Nat) (hu : u ∈ w.begun.map (·.1) ++ w.superseded) : u ∈ w.superseded ∨ (∃ b ∈ w.begun, b.1 = u) ∧
        ∀ k g, (u, k, g) ∈ w.begun → s'.sessions.get? k = none ∧ s'.pendingConnects.get? k = none := by
      rcases List.mem_append.1 hu with hu | hu
      · obtain ⟨b, hb, rfl⟩ := List.mem_map.1 hu
        exact .inr ⟨⟨b, hb, rfl⟩, fun k _ _ => ⟨hsessions k, hpending k⟩⟩
      · exact .inl hu
    have hshrunk : Attempts s' w.opened w.begun (w.begun.map (·.1) ++ w.superseded) n σ := by
      refine hat.shrink ?_ ?_ hgrow (fun _ => .inr fun k => ⟨hsessions k, hpending k⟩) hlate
      · intro k e he
        rw [hsessions k] at he
        cases he
      · intro k g hg
        rw [hpending k] at hg
        cases hg
    let st' : AppStage := ⟨none, w.app.sessions.values.map (·.session.id)⟩
    exact ⟨st', rfl, _, ho.take hlt ht rfl hsessions hnodup hmem,
      hshrunk.stage ht rfl fun b hb => by cases hb⟩

theorem registerAccount (h : LifecycleInvariant w n σ) (hlt : t < n) (ht : σ t = some st) {accountKey : AccountKey}
    {remoteRef : RemoteAccountRef} {r : RegisterOutcome} (hp : w.perform t (.registerAccount accountKey remoteRef) r w') :
    Next n σ t st (.registerAccount accountKey remoteRef) r w' := by
  cases r with
  | ok =>
    obtain ⟨-, rfl⟩ := hp
    exact ⟨st, rfl, h.same hlt ht (.refl _) rfl rfl rfl rfl⟩
  | conflict | failed =>
    obtain rfl : w' = w := hp
    exact ⟨st, rfl, h.same hlt ht (.refl _) rfl rfl rfl rfl⟩

/-- Every step keeps the invariant. -/
theorem call (h : LifecycleInvariant w n σ) {c : AppCall} {r : AppReply c} (hlt : t < n) (ht : σ t = some st)
    (hmay : lifecycleContract.may st c) (hp : w.perform t c r w') : Next n σ t st c r w' := by
  cases c with
  | beginConnect accountKey =>
    obtain rfl : st = .idle := hmay
    exact h.beginConnect hlt ht hp
  | «open» => exact h.«open» hlt ht hmay.2 hp
  | install active =>
    obtain rfl : st = ⟨some (active.accountKey, active.generation), [active.session.id]⟩ := hmay
    exact h.install hlt ht hp
  | close session => exact h.close hlt ht hmay hp
  | closeAll sessions =>
    obtain rfl : st.held = sessions := hmay
    exact h.closeAll hlt ht hp
  | failConnect accountKey generation kind opened => exact h.failConnect hlt ht hp
  | endConnect accountKey generation => exact h.endConnect hlt ht hp
  | beginDisconnect accountKey =>
    obtain rfl : st = .idle := hmay
    exact h.beginDisconnect hlt ht hp
  | activeAccount accountKey => exact h.activeAccount hlt ht hp
  | finishRefresh accountKey active outcome =>
    obtain ⟨rfl, hkey⟩ : st = .idle ∧ active.accountKey = accountKey := hmay
    exact h.finishRefresh hlt ht hkey hp
  | beginDispose =>
    obtain rfl : st = .idle := hmay
    exact h.beginDispose hlt ht hp
  | registerAccount accountKey remoteRef => exact h.registerAccount hlt ht hp
  | notify accountKey | connectionFactory | syncAccount active =>
    obtain rfl : w' = w := hp
    exact ⟨st, rfl, h.same hlt ht (.refl _) rfl rfl rfl rfl⟩
  | hasConnectAuthority accountKey generation | readAccount accountKey =>
    obtain ⟨-, rfl⟩ := hp
    exact ⟨st, rfl, h.same hlt ht (.refl _) rfl rfl rfl rfl⟩
  | beginAttempt accountKey | revoke accountKey | isAuthenticated accountKey session | activate accountKey session generation stored
  | refreshFailed accountKey => exact hmay.elim

end LifecycleInvariant

/-! ## Every reachable state -/

end Boxplot.App
