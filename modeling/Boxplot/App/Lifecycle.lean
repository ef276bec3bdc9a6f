import Boxplot.App.BodyCapability
/-!
# What a call does with sessions

The contract of the application's methods: a call installs or closes the
session it opened, closes what it took from the registry, and ends holding none.
-/

namespace Boxplot.App

open Domain Lib Remote

/-! ## What a call may do -/

/-- The attempt to connect that a call began, and the sessions it is to install or to close. -/
structure AppStage where
  attempt : Option (AccountKey × Nat)
  held : List Nat
  deriving DecidableEq

def AppStage.idle : AppStage := ⟨none, []⟩

/-- A session is closed or installed by the call that holds it. -/
def lifecycleContract : Contract AppCall AppReply AppStage where
  may
    | s, .beginConnect _ | s, .beginDisconnect _ | s, .beginDispose => s = .idle
    | s, .finishRefresh accountKey active _ => s = .idle ∧ active.accountKey = accountKey
    | s, .«open» => s.attempt ≠ none ∧ s.held = []
    | s, .install active => s = ⟨some (active.accountKey, active.generation), [active.session.id]⟩
    | s, .close session => session ∈ s.held
    | s, .closeAll sessions => s.held = sessions
    | _, .beginAttempt _ | _, .revoke _ | _, .isAuthenticated _ _ | _, .activate _ _ _ _ | _, .refreshFailed _ => False
    | _, _ => True
  step
    | s, .beginConnect accountKey, .ok generation, s' => s' = ⟨some (accountKey, generation), s.held⟩
    | s, .«open», .ok session, s' => s' = { s with held := [session.id] }
    | s, .install _, true, s' => s' = { s with held := [] }
    | s, .close session, _, s' => s' = { s with held := s.held.filter (· ≠ session) }
    | s, .closeAll _, _, s' => s' = { s with held := [] }
    | s, .beginDisconnect _, .ok active, s' => s' = { s with held := active.toList.map (·.session.id) }
    | s, .activeAccount accountKey, .ok active, s' => s' = s ∧ active.accountKey = accountKey
    | s, .finishRefresh _ active _, .expired _, s' => s' = { s with held := [active.session.id] }
    | s, .beginDispose, active, s' => s' = { s with held := active.map (·.session.id) }
    | s, _, _, s' => s' = s

/-- The call holds no session any more. -/
def LeavesNone {α : Type} (_ : α) (s : AppStage) : Prop := s.held = []

/-- A program that neither takes nor gives a session. -/
def Unmoved {α : Type} (p : AppPromise α) : Prop := ∀ s, lifecycleContract.wpA p (fun _ s' => s' = s) s

theorem Unmoved.bind {α β : Type} {p : AppPromise α} {f : α → AppPromise β} (hp : Unmoved p) (hf : ∀ a, Unmoved (f a)) :
    Unmoved (p >>= f) := by
  intro s
  refine Contract.wpA_bind_of (hp s) (fun a s' hs => ?_) fun _ _ hs => hs
  subst hs
  exact hf a s'

theorem wp_refreshAccount (accountKey : AccountKey) : lifecycleContract.wpA (refreshAccount accountKey) LeavesNone .idle := by
  refine ⟨trivial, fun active s hs => ?_⟩
  cases active with
  | error kind =>
    obtain rfl : s = .idle := hs
    rfl
  | ok active =>
    obtain ⟨rfl, hkey⟩ : s = .idle ∧ active.accountKey = accountKey := hs
    refine ⟨trivial, fun outcome s₁ hs₁ => ?_⟩
    obtain rfl : s₁ = .idle := hs₁
    refine ⟨⟨rfl, hkey⟩, fun ended s₂ hs₂ => ⟨trivial, fun _ s₃ hs₃ => ?_⟩⟩
    obtain rfl : s₃ = s₂ := hs₃
    cases ended with
    | done =>
      obtain rfl : s₃ = .idle := hs₂
      rfl
    | failed kind =>
      obtain rfl : s₃ = .idle := hs₂
      rfl
    | expired kind =>
      obtain rfl : s₃ = ⟨none, [active.session.id]⟩ := hs₂
      refine ⟨List.mem_singleton_self _, fun _ s₄ hs₄ => ?_⟩
      obtain rfl : s₄ = ⟨none, [active.session.id].filter (· ≠ active.session.id)⟩ := hs₄
      have hnone : [active.session.id].filter (· ≠ active.session.id) = [] := by simp
      exact hnone

end Boxplot.App
