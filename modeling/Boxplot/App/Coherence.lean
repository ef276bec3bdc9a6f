import Boxplot.App.BodyCapability
/-!
# What a composed `connect` may rely on

The contract of the composed runtime's methods: what `connect` knows of the
account's binding when it installs its session, and of the session and the
generation of the body capability when it activates the capability.
-/

namespace Boxplot.App

open Domain Lib Remote

/-! ## Bindings -/

/-- The account's binding is to one of the session's accounts. -/
def Bound (stored : Option RemoteAccountRef) (session : RemoteSession) : Prop :=
  ∃ remoteRef selected, stored = some remoteRef ∧ remoteAccountId remoteRef.jmapAccountId = .ok selected ∧ selected ∈ session.accounts

theorem remoteAccountId_of_localAccountId {id stored : String} (h : localAccountId id = .ok stored) : remoteAccountId stored = .ok id := by
  unfold localAccountId Remote.opaqueIdFromString at h
  split at h
  · cases h
  · rename_i hne
    cases h
    exact if_neg hne

/-! ## What a call may do -/

inductive RuntimeStage
  /-- Not connecting. -/
  | idle
  /-- Connecting, with the generations of the capability and of the attempt, the session once it is open, and the stored
  binding once it is known. -/
  | attempt (accountKey : AccountKey) (capability generation : Nat) (session : Option RemoteSession)
      (stored : Option RemoteAccountRef)
  /-- The session is installed. -/
  | installed (accountKey : AccountKey) (capability : Nat) (session : RemoteSession) (stored : RemoteAccountRef)
  /-- The capability is activated. -/
  | connected (accountKey : AccountKey) (session : Nat)

namespace RuntimeStage

/-- The stage after a session was opened. -/
def opens (s : RuntimeStage) (session : RemoteSession) : RuntimeStage :=
  match s with
  | .attempt accountKey capability generation _ stored => .attempt accountKey capability generation (some session) stored
  | s => s

/-- The stage when the account's binding is known. -/
def learns (s : RuntimeStage) (accountKey : AccountKey) (remoteRef : RemoteAccountRef) : RuntimeStage :=
  match s with
  | .attempt accountKey' capability generation session stored =>
    .attempt accountKey' capability generation session (if accountKey' = accountKey then some remoteRef else stored)
  | s => s

/-- What is read of an account whose binding is known. -/
def Reads (s : RuntimeStage) (accountKey : AccountKey) (stored : Option (Option RemoteAccountRef)) : Prop :=
  ∀ capability session remoteRef, s = .installed accountKey capability session remoteRef → stored = some (some remoteRef)

end RuntimeStage

def coherenceContract : Contract AppCall AppReply RuntimeStage where
  may
    | s, .beginAttempt _ => s = .idle
    | s, .«open» => ∃ accountKey capability generation stored, s = .attempt accountKey capability generation none stored
    | s, .install active => ∃ capability stored,
        s = .attempt active.accountKey capability active.generation (some active.session) stored ∧ Bound stored active.session
    | s, .isAuthenticated accountKey id => ∃ capability session remoteRef,
        s = .installed accountKey capability session remoteRef ∧ session.id = id
    | s, .activate accountKey session capability stored => ∃ remoteRef,
        s = .installed accountKey capability session remoteRef ∧ stored = some (some remoteRef)
    | _, .finishRefresh accountKey active _ => active.accountKey = accountKey
    | _, .beginConnect _ | _, .beginDisconnect _ | _, .closeAll _ | _, .beginDispose => False
    | _, _ => True
  step
    | _, .beginAttempt accountKey, .ok (capability, generation), s' => s' = .attempt accountKey capability generation none none
    | s, .«open», .ok session, s' => s' = s.opens session
    | s, .readAccount accountKey, some (some remoteRef), s' => s' = s.learns accountKey remoteRef ∧ s.Reads accountKey (some (some remoteRef))
    | s, .readAccount accountKey, r, s' => s' = s ∧ s.Reads accountKey r
    | s, .registerAccount accountKey remoteRef, .ok, s' => s' = s.learns accountKey remoteRef
    | s, .install active, true, s' => ∃ capability remoteRef,
        s = .attempt active.accountKey capability active.generation (some active.session) (some remoteRef) ∧
        s' = .installed active.accountKey capability active.session remoteRef
    | s, .isAuthenticated _ _, r, s' => r = true ∧ s' = s
    | _, .activate accountKey session _ _, r, s' => r = .ok () ∧ s' = .connected accountKey session.id
    | s, .activeAccount accountKey, .ok active, s' => s' = s ∧ active.accountKey = accountKey
    | s, _, _, s' => s' = s

/-- A `connect` that resolves has activated the capability of a session. -/
def Resolves (r : Except Rejection AppResult) (s : RuntimeStage) : Prop :=
  ∀ accountKey, r = .ok (some accountKey) → ∃ session, s = .connected accountKey session

/-- Only the end with an error. -/
def Fails {α : Type} (r : Except Rejection α) (_ : RuntimeStage) : Prop := ∃ x, r = .error x

/-! ## The methods keep it -/

/-- Whatever the stage, the program ends in the same one. -/
def Still {α : Type} (p : AppPromise α) : Prop := ∀ s, coherenceContract.wpA p (fun _ s' => s' = s) s

theorem still_assertConnectAuthority (accountKey : AccountKey) (generation : Nat) :
    Still (assertConnectAuthority accountKey generation) := by
  intro s
  refine ⟨trivial, fun authority s' hs => ?_⟩
  obtain rfl : s' = s := hs
  cases authority <;> rfl

theorem fails_failConnect {α : Type} (accountKey : AccountKey) (generation : Nat) (session : Option RemoteSession) (error : Rejection)
    (s : RuntimeStage) : coherenceContract.wpA (failConnect accountKey generation session error : AppPromise α) Fails s := by
  have hrest (s : RuntimeStage) (opened : Bool) : coherenceContract.wpA (do
      let kind : RemoteApplicationErrorKind ←
        ask (.failConnect accountKey generation (AppState.classifyConnectError error) opened)
      ask (.notify accountKey)
      ask (.endConnect accountKey generation)
      (refuse kind : AppPromise α)) Fails s :=
    ⟨trivial, fun _ _ _ => ⟨trivial, fun _ _ _ => ⟨trivial, fun _ _ _ => ⟨_, rfl⟩⟩⟩⟩
  cases session with
  | none => exact hrest s _
  | some session => exact ⟨trivial, fun _ s' _ => hrest s' _⟩

/-- A program that goes on after another one only if that one succeeds. -/
theorem wpA_bind_fails {α β : Type} {p : AppPromise α} {f : α → AppPromise β} {P : α → RuntimeStage → Prop}
    {Q : Except Rejection β → RuntimeStage → Prop} {s : RuntimeStage} (hQ : ∀ x s', Q (.error x) s')
    (hp : coherenceContract.wpA p (fun r s' => ∀ a, r = .ok a → P a s') s)
    (hf : ∀ a s', P a s' → coherenceContract.wpA (f a) Q s') : coherenceContract.wpA (p >>= f) Q s :=
  Contract.wpA_bind_of hp (fun a s' h => hf a s' (h a rfl)) fun x s' _ => hQ x s'

theorem Still.bind {α β : Type} {p : AppPromise α} {f : α → AppPromise β} {Q : Except Rejection β → RuntimeStage → Prop}
    {s : RuntimeStage} (hp : Still p) (hQ : ∀ x s', Q (.error x) s') (hf : ∀ a, coherenceContract.wpA (f a) Q s) :
    coherenceContract.wpA (p >>= f) Q s := by
  refine Contract.wpA_bind_of (hp s) (fun a s' hs => ?_) fun x s' _ => hQ x s'
  subst hs
  exact hf a

/-- A program whose success leaves a stage that satisfies `P`. -/
abbrev Leads {α : Type} (p : AppPromise α) (P : RuntimeStage → Prop) (s : RuntimeStage) : Prop :=
  coherenceContract.wpA p (fun r s' => ∀ a, r = .ok a → P s') s

section

variable {P : RuntimeStage → Prop} {s : RuntimeStage}

theorem leads_refuse {α : Type} (kind : RemoteApplicationErrorKind) : Leads (refuse kind : AppPromise α) P s := fun _ h => by cases h

theorem leads_pure {α : Type} {a : α} (h : P s) : Leads (pure a : AppPromise α) P s := fun _ _ => h

/-- An id that is none ends the program. -/
theorem leads_checkedId {α : Type} {id : Checked String} {f : String → AppPromise α} (h : ∀ a, id = .ok a → Leads (f a) P s) :
    Leads (checkedId id >>= f) P s := by
  cases id with
  | ok a => exact h a rfl
  | error e => exact fun _ h => by cases h

theorem leads_assert {α : Type} {accountKey : AccountKey} {generation : Nat} {f : Unit → AppPromise α} (h : Leads (f ()) P s) :
    Leads (assertConnectAuthority accountKey generation >>= f) P s :=
  (still_assertConnectAuthority accountKey generation).bind (fun _ _ _ h => by cases h) fun _ => h

end

/-- The account's binding is known when it is resolved, and is to an account of the session. -/
theorem wp_resolveBinding (accountKey : AccountKey) (serviceKey : String) (session : RemoteSession) (generation capability : Nat)
    (stored : Option RemoteAccountRef) :
    Leads (resolveBinding accountKey serviceKey session generation)
      (fun s => ∃ stored, s = .attempt accountKey capability generation (some session) stored ∧ Bound stored session)
      (.attempt accountKey capability generation (some session) stored) := by
  -- a binding that was read
  have hread (remoteRef : RemoteAccountRef) (s' : RuntimeStage)
      (hs : coherenceContract.step (.attempt accountKey capability generation (some session) stored) (.readAccount accountKey)
        (some (some remoteRef)) s') :
      s' = .attempt accountKey capability generation (some session) (some remoteRef) := by
    rw [hs.1, RuntimeStage.learns, if_pos rfl]
  refine ⟨trivial, fun result s₁ hs₁ => ?_⟩
  rcases result with - | - | remoteRef
  · exact leads_assert (leads_refuse _)
  · -- the account is not stored yet
    obtain rfl : s₁ = .attempt accountKey capability generation (some session) stored := hs₁.1
    refine leads_assert ?_
    dsimp only
    split
    · rename_i selected hone
      refine leads_checkedId fun jmapAccountId hid => ⟨trivial, fun write s₂ hs₂ => leads_assert ?_⟩
      cases write with
      | ok =>
        obtain rfl : s₂ = .attempt accountKey capability generation (some session) (some ⟨serviceKey, jmapAccountId⟩) := by
          rw [show s₂ = _ from hs₂, RuntimeStage.learns, if_pos rfl]
        have hbound : Bound (some ⟨serviceKey, jmapAccountId⟩) session := by
          refine ⟨_, selected, rfl, remoteAccountId_of_localAccountId hid, ?_⟩
          rw [hone]
          exact List.mem_singleton_self _
        exact leads_pure ⟨_, rfl, hbound⟩
      | failed => exact leads_refuse _
      | conflict =>
        obtain rfl : s₂ = .attempt accountKey capability generation (some session) stored := hs₂
        refine ⟨trivial, fun reread s₃ hs₃ => leads_assert ?_⟩
        rcases reread with - | - | remoteRef
        · exact leads_refuse _
        · exact leads_refuse _
        · obtain rfl := hread remoteRef s₃ hs₃
          dsimp only
          split
          · exact leads_refuse _
          · refine leads_checkedId fun found hfound => ?_
            split
            · rename_i heq
              have hbound : Bound (some remoteRef) session := by
                refine ⟨_, found, rfl, hfound, ?_⟩
                rw [hone, heq]
                exact List.mem_singleton_self _
              exact leads_pure ⟨_, rfl, hbound⟩
            · exact leads_refuse _
    · exact leads_refuse _
  · -- the account is stored
    obtain rfl := hread remoteRef s₁ hs₁
    refine leads_assert ?_
    dsimp only
    split
    · exact leads_refuse _
    · refine leads_checkedId fun expected hexpected => ?_
      split
      · rename_i hmem
        exact leads_pure ⟨_, rfl, _, expected, rfl, hexpected, hmem⟩
      · exact leads_refuse _

/-- A `try` block whose `catch` block throws. -/
theorem wpA_try {α : Type} {p : AppPromise α} {accountKey : AccountKey} {generation : Nat} {session : Option RemoteSession}
    {P : α → RuntimeStage → Prop} {s : RuntimeStage}
    (h : coherenceContract.wpA p (fun r s' => ∀ a, r = .ok a → P a s') s) :
    coherenceContract.wpA (tryCatch p (failConnect accountKey generation session)) (fun r s' => ∀ a, r = .ok a → P a s') s := by
  rw [Contract.wpA_tryCatch]
  refine Contract.wpA_mono _ (fun r s' hr => ?_) h
  cases r with
  | ok a => exact fun b hb => hr b hb
  | error x =>
    refine Contract.wpA_mono _ ?_ (fails_failConnect accountKey generation session x s')
    rintro _ s'' ⟨y, rfl⟩ a ⟨⟩

/-- The session is installed while the binding is known. -/
theorem wp_openSession_installed (accountKey : AccountKey) (serviceKey : String) (generation capability : Nat) :
    coherenceContract.wpA (openSession accountKey serviceKey generation)
      (fun r s => ∀ session, r = .ok session → ∃ remoteRef, s = .installed accountKey capability session remoteRef)
      (.attempt accountKey capability generation none none) := by
  have hnone (x : Rejection) (s : RuntimeStage) : ∀ session, (Except.error x : Except Rejection RemoteSession) = .ok session →
      ∃ remoteRef, s = .installed accountKey capability session remoteRef := by rintro session ⟨⟩
  -- the session is opened
  refine wpA_bind_fails (P := fun session s => s = .attempt accountKey capability generation (some session) none) hnone
    (wpA_try ?_) fun session s hs => ?_
  · refine ⟨trivial, fun _ s₁ hs₁ => ?_⟩
    obtain rfl : s₁ = .attempt accountKey capability generation none none := hs₁
    refine (still_assertConnectAuthority accountKey generation).bind (fun _ _ _ h => by cases h) fun _ => ?_
    refine ⟨trivial, fun connection s₂ hs₂ => ?_⟩
    obtain rfl : s₂ = .attempt accountKey capability generation none none := hs₂
    cases connection with
    | error x => exact fun _ h => by cases h
    | ok _ =>
      change coherenceContract.wpA (assertConnectAuthority accountKey generation >>= fun _ => ask .«open» >>= Async.lift) _ _
      refine (still_assertConnectAuthority accountKey generation).bind (fun _ _ _ h => by cases h) fun _ => ?_
      refine ⟨⟨_, _, _, _, rfl⟩, fun opened s₃ hs₃ => ?_⟩
      cases opened with
      | error x => exact fun _ h => by cases h
      | ok session =>
        rintro session' ⟨⟩
        exact hs₃
  · subst hs
    -- and installed
    refine wpA_bind_fails (P := fun _ s => ∃ remoteRef, s = .installed accountKey capability session remoteRef) hnone
      (wpA_try ?_) fun _ s hs => ?_
    · refine (still_assertConnectAuthority accountKey generation).bind (fun _ _ _ h => by cases h) fun _ => ?_
      refine wpA_bind_fails (P := fun _ s => ∃ stored, s = .attempt accountKey capability generation (some session) stored ∧
        Bound stored session) (fun _ _ _ h => by cases h) (wp_resolveBinding accountKey serviceKey session generation capability none) ?_
      rintro selected _ ⟨stored, rfl, hbound⟩
      refine ⟨⟨capability, stored, rfl, hbound⟩, fun installed s₁ hs₁ => ?_⟩
      cases installed with
      | true =>
        obtain ⟨capability', remoteRef, heq, rfl⟩ := hs₁
        cases heq
        exact fun _ _ => ⟨remoteRef, rfl⟩
      | false => exact fun _ h => by cases h
    · obtain ⟨remoteRef, rfl⟩ := hs
      refine ⟨trivial, fun _ s₁ hs₁ => ⟨trivial, fun _ s₂ hs₂ => ?_⟩⟩
      obtain rfl : s₁ = .installed accountKey capability session remoteRef := hs₁
      obtain rfl : s₂ = .installed accountKey capability session remoteRef := hs₂
      rintro session' ⟨⟩
      exact ⟨remoteRef, rfl⟩

theorem wp_connectWithBody (accountKey : AccountKey) (serviceKey : String) :
    coherenceContract.wpA (connectWithBody accountKey serviceKey) Resolves .idle := by
  refine ⟨rfl, fun begun s hs => ?_⟩
  cases begun with
  | error kind => rintro accountKey' ⟨⟩
  | ok begun =>
    obtain ⟨attempt, generation⟩ := begun
    obtain rfl : s = .attempt accountKey attempt generation none none := hs
    refine wpA_bind_fails (P := fun session s => ∃ remoteRef, s = .installed accountKey attempt session remoteRef)
      (by rintro x s accountKey' ⟨⟩) (wp_openSession_installed accountKey serviceKey generation attempt) ?_
    rintro session _ ⟨remoteRef, rfl⟩
    refine ⟨⟨attempt, session, remoteRef, rfl, rfl⟩, fun authenticated s₁ hs₁ => ?_⟩
    obtain ⟨rfl, rfl⟩ : authenticated = true ∧ s₁ = .installed accountKey attempt session remoteRef := hs₁
    -- the account is stored, so the capability is activated
    refine ⟨trivial, fun stored s₂ hs₂ => ?_⟩
    obtain ⟨rfl, rfl⟩ : s₂ = .installed accountKey attempt session remoteRef ∧ stored = some (some remoteRef) := by
      rcases stored with - | - | stored
      · exact absurd (hs₂.2 _ _ _ rfl) (by simp)
      · exact absurd (hs₂.2 _ _ _ rfl) (by simp)
      · obtain ⟨hs₂, hreads⟩ := hs₂
        have hread := hreads _ _ _ rfl
        cases hread
        exact ⟨hs₂, rfl⟩
    refine ⟨⟨remoteRef, rfl, rfl⟩, fun activated s₃ hs₃ => ?_⟩
    obtain ⟨rfl, rfl⟩ : activated = .ok () ∧ s₃ = .connected accountKey session.id := hs₃
    rintro accountKey' ⟨⟩
    exact ⟨_, rfl⟩

theorem wp_disconnectWithBody (accountKey : AccountKey) :
    coherenceContract.wpA (disconnectWithBody accountKey) Resolves .idle := by
  refine ⟨trivial, fun begun s _ => ?_⟩
  cases begun with
  | error kind => rintro accountKey' ⟨⟩
  | ok active =>
    refine ⟨trivial, fun _ s₁ _ => ?_⟩
    cases active with
    | none => rintro accountKey' ⟨⟩
    | some active =>
      refine ⟨trivial, fun closed s₂ _ => ?_⟩
      cases closed <;> rintro accountKey' ⟨⟩

theorem wp_refreshAccountWithBody (accountKey : AccountKey) :
    coherenceContract.wpA (refreshAccountWithBody accountKey) Resolves .idle := by
  have hcatch (x : Rejection) (s : RuntimeStage) : coherenceContract.wpA (do
      ask (.refreshFailed accountKey)
      (throw x : AppPromise AppResult)) Resolves s :=
    ⟨trivial, fun _ s' _ => by rintro accountKey' ⟨⟩⟩
  rw [refreshAccountWithBody, Contract.wpA_tryCatch]
  refine ⟨trivial, fun active s hs => ?_⟩
  cases active with
  | error kind => exact hcatch _ s
  | ok active =>
    obtain ⟨-, hkey⟩ : s = .idle ∧ active.accountKey = accountKey := hs
    refine ⟨trivial, fun outcome s₁ _ => ⟨hkey, fun ended s₂ _ => ⟨trivial, fun _ s₃ _ => ?_⟩⟩⟩
    cases ended with
    | done => rintro accountKey' ⟨⟩
    | failed kind => exact hcatch _ s₃
    | expired kind => exact ⟨trivial, fun _ s₄ _ => hcatch _ s₄⟩

end Boxplot.App
