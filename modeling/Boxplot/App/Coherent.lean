import Boxplot.App.Coherence
/-!
# Sessions and body capabilities in agreement

What holds of the world and of the calls' stages while no `connect` is
disturbed, and the steps that leave it as it is.
-/

namespace Boxplot.App

open Domain Lib Remote

namespace RuntimeState

/-- No account that is connecting has its capability invalidated. Reads of accounts succeed. -/
def Undisturbed (w : RuntimeState) (_ : Nat) : (c : AppCall) → AppReply c → Prop
  | .readAccount _, r => r ≠ none
  | .refreshFailed accountKey, _ => w.isAuthenticated accountKey = true ∨ w.app.pendingConnects.get? accountKey = none
  | .revoke accountKey, _ => ∀ e ∈ w.app.sessions.get? accountKey, e.session.id ∉ w.activating
  | .finishRefresh _ active _, .expired _ => active.session.id ∉ w.activating
  | _, _ => True

instance (w : RuntimeState) (t : Nat) (c : AppCall) (r : AppReply c) : Decidable (w.Undisturbed t c r) := by
  cases c with
  | finishRefresh accountKey active outcome => cases r <;> unfold Undisturbed <;> infer_instance
  | _ => unfold Undisturbed; infer_instance

/-! ## The invariant -/

/-- The session is the account's, and so is its capability. -/
def Live (w : RuntimeState) (x : Connected) : Prop :=
  (∃ e, w.app.sessions.get? x.accountKey = some e ∧ e.session.id = x.session) ∧
    ∃ capability, w.capabilities.active.get? x.accountKey = some capability ∧ capability.session = x.session ∧
      capability.generation = w.capabilities.generation x.accountKey

/-- Nothing has ended the session since the call resolved. -/
def Unended (w : RuntimeState) (x : Connected) : Prop := ∀ ending ∈ w.endings.drop x.endings, ending.concerns x.accountKey x.session = false

structure Coherent (w : RuntimeState) : Prop where
  usable : w.app.disposed = false
  /-- An account with a session is authenticated and not connecting. -/
  current : ∀ k e, w.app.sessions.get? k = some e →
    w.isAuthenticated k = true ∧ e.accountKey = k ∧ w.app.pendingConnects.get? k = none
  live : ∀ x ∈ w.connected, x.endings ≤ w.endings.length ∧ (w.Unended x → w.Live x)

end RuntimeState

/-- What the world knows of call `t` in a stage. -/
def RuntimeStage.Holds (w : RuntimeState) (t : Nat) : RuntimeStage → Prop
  | .idle => True
  | .attempt accountKey capability generation session stored =>
    (∃ g, w.app.generations.get? accountKey = some g ∧ generation ≤ g) ∧
    (w.app.pendingConnects.get? accountKey = some generation → w.capabilities.generation accountKey = capability) ∧
    (∀ s, session = some s → w.opened[s.id]? = some t) ∧
    ∀ remoteRef, stored = some remoteRef → w.accounts.get? accountKey = some remoteRef
  | .installed accountKey capability session stored =>
    w.opened[session.id]? = some t ∧ session.id ∈ w.activating ∧
    (∃ e, w.app.sessions.get? accountKey = some e ∧ e.session = session) ∧
    w.capabilities.generation accountKey = capability ∧
    w.accounts.get? accountKey = some stored ∧ Bound (some stored) session
  | .connected accountKey session => ∃ x ∈ w.connected, x.call = t ∧ x.accountKey = accountKey ∧ x.session = session

def CoherenceInvariant (w : RuntimeState) (_ : Nat) (σ : Nat → Option RuntimeStage) : Prop :=
  w.Coherent ∧ ∀ t st, σ t = some st → st.Holds w t

/-! ## What a step leaves -/

/-- A step that the stages of all calls outlive. -/
structure RuntimeState.Keeps (w w' : RuntimeState) : Prop where
  opened : ∀ i u : Nat, w.opened[i]? = some u → w'.opened[i]? = some u
  generations : AppState.GenerationsGrow w.app w'.app
  /-- A pending attempt is a new one, or was pending. -/
  pending : ∀ k g g', w.app.generations.get? k = some g' → g ≤ g' → w'.app.pendingConnects.get? k = some g →
    w.app.pendingConnects.get? k = some g ∧ w'.capabilities.generation k = w.capabilities.generation k
  activating : ∀ k e, w.app.sessions.get? k = some e → e.session.id ∈ w.activating →
    w'.app.sessions.get? k = some e ∧ e.session.id ∈ w'.activating ∧ w'.capabilities.generation k = w.capabilities.generation k
  accounts : ∀ k remoteRef, w.accounts.get? k = some remoteRef → w'.accounts.get? k = some remoteRef
  connected : ∀ x ∈ w.connected, x ∈ w'.connected

namespace RuntimeState

variable {w w' : RuntimeState}

theorem Keeps.holds (h : w.Keeps w') {t : Nat} {st : RuntimeStage} (hst : st.Holds w t) : st.Holds w' t := by
  cases st with
  | idle => trivial
  | attempt accountKey capability generation session stored =>
    obtain ⟨⟨g, hg, hle⟩, hpending, hopened, haccounts⟩ := hst
    obtain ⟨g', hg', hle'⟩ := h.generations accountKey g hg
    refine ⟨⟨g', hg', hle.trans hle'⟩, fun hp => ?_, fun s hs => h.opened _ _ (hopened s hs),
      fun r hr => h.accounts _ _ (haccounts r hr)⟩
    obtain ⟨hp', hc⟩ := h.pending _ _ _ hg hle hp
    rw [hc, hpending hp']
  | installed accountKey capability session stored =>
    obtain ⟨hopened, hmem, ⟨e, he, rfl⟩, hgeneration, haccount, hbound⟩ := hst
    obtain ⟨he', hmem', hc⟩ := h.activating _ _ he hmem
    exact ⟨h.opened _ _ hopened, hmem', ⟨e, he', rfl⟩, hc.trans hgeneration, h.accounts _ _ haccount, hbound⟩
  | connected accountKey session =>
    obtain ⟨x, hx, hrest⟩ := hst
    exact ⟨x, h.connected x hx, hrest⟩

/-- A step of the application after which no session is gone and no capability of one. -/
structure Quiet (w w' : RuntimeState) : Prop where
  opened : ∀ i u : Nat, w.opened[i]? = some u → w'.opened[i]? = some u
  generations : AppState.GenerationsGrow w.app w'.app
  pending : ∀ k g g', w.app.generations.get? k = some g' → g ≤ g' → w'.app.pendingConnects.get? k = some g →
    w.app.pendingConnects.get? k = some g ∧ w'.capabilities.generation k = w.capabilities.generation k
  sessions : ∀ k e, w.app.sessions.get? k = some e → w'.app.sessions.get? k = some e ∧
    w'.capabilities.active.get? k = w.capabilities.active.get? k ∧ w'.capabilities.generation k = w.capabilities.generation k
  activating : ∀ s ∈ w.activating, s ∈ w'.activating
  accounts : ∀ k remoteRef, w.accounts.get? k = some remoteRef → w'.accounts.get? k = some remoteRef
  connected : w'.connected = w.connected
  endings : w'.endings = w.endings
  disposed : w'.app.disposed = w.app.disposed
  current : ∀ k e, w'.app.sessions.get? k = some e →
    w'.isAuthenticated k = true ∧ e.accountKey = k ∧ w'.app.pendingConnects.get? k = none

theorem Quiet.keeps (h : w.Quiet w') : w.Keeps w' where
  opened := h.opened
  generations := h.generations
  pending := h.pending
  activating k e he hmem := ⟨(h.sessions k e he).1, h.activating _ hmem, (h.sessions k e he).2.2⟩
  accounts := h.accounts
  connected _ hx := h.connected ▸ hx

theorem Quiet.coherent (h : w.Quiet w') (hw : w.Coherent) : w'.Coherent where
  usable := h.disposed.trans hw.usable
  current := h.current
  live x hx := by
    rw [h.connected] at hx
    obtain ⟨hle, hlive⟩ := hw.live x hx
    refine ⟨h.endings ▸ hle, fun hun => ?_⟩
    have hun' : w.Unended x := by
      unfold Unended
      rw [← h.endings]
      exact hun
    obtain ⟨⟨e, he, hid⟩, capability, hactive, hsession, hgeneration⟩ := hlive hun'
    obtain ⟨he', hactive', hgeneration'⟩ := h.sessions _ e he
    exact ⟨⟨e, he', hid⟩, capability, hactive'.trans hactive, hsession, hgeneration.trans hgeneration'.symm⟩

/-- A step of the application that changes no more than attempts that end, and statuses. -/
theorem Quiet.of_alike (hw : w.Coherent) {app : AppState} (hs : app.sessions = w.app.sessions)
    (hp : ∀ k g, app.pendingConnects.get? k = some g → w.app.pendingConnects.get? k = some g)
    (hg : app.generations = w.app.generations) (hd : app.disposed = w.app.disposed)
    (hauth : ∀ k e, w.app.sessions.get? k = some e → (app.getStatus k).auth = (w.app.getStatus k).auth ∨
      (app.getStatus k).auth = .authenticated) : w.Quiet { w with app } where
  opened _ _ hi := hi
  generations k g hk := ⟨g, by rw [hg]; exact hk, Nat.le_refl _⟩
  pending k g _ _ _ hk := ⟨hp k g hk, rfl⟩
  sessions k e he := ⟨by rw [hs]; exact he, rfl, rfl⟩
  activating _ hx := hx
  accounts _ _ hr := hr
  connected := rfl
  endings := rfl
  disposed := hd
  current k e he := by
    rw [hs] at he
    obtain ⟨ha, hkey, hnone⟩ := hw.current k e he
    refine ⟨?_, hkey, ?_⟩
    · simp only [isAuthenticated, decide_eq_true_eq] at ha ⊢
      rcases hauth k e he with h | h
      · exact h.trans ha
      · exact h
    · cases hk : app.pendingConnects.get? k with
      | none => rfl
      | some g => rw [hp k g hk] at hnone; cases hnone

theorem Quiet.refl (hw : w.Coherent) : w.Quiet w :=
  .of_alike hw rfl (fun _ _ h => h) rfl rfl fun _ _ _ => .inl rfl

end RuntimeState

end Boxplot.App
