import Boxplot.Domain.Email
import Boxplot.Lib.Async
import Boxplot.Lib.OrderedMap
import Boxplot.Remote.Collections
import Boxplot.Remote.Errors
/-!
# Remote sessions of accounts

`DefaultRemoteApplication` of `src/app/remote/remote-application.ts`. Code runs
undisturbed from one `await` to the next, except that status listeners may call
back in. So a request is such a stretch of code, a call of the listeners, or
something awaited; other calls may come between any two requests.
-/

namespace Boxplot.App

open Domain Lib Remote

/-! ## Data -/

inductive RemoteAuthState
  | anonymous | authenticating | authenticated | expired
  deriving DecidableEq, Repr

inductive RemoteConnectivityState
  | online | offline
  deriving DecidableEq, Repr

inductive RemoteApplicationErrorKind
  | auth | network | remote | «local» | accountMismatch | accountSelectionRequired | notConnected | busy | cancelled | disposed
  | unexpected
  deriving DecidableEq, Repr

structure RemoteAccountStatus where
  auth : RemoteAuthState
  connectivity : RemoteConnectivityState
  lastError : Option RemoteApplicationErrorKind
  deriving DecidableEq, Repr

def disconnectedStatus : RemoteAccountStatus := ⟨.anonymous, .offline, none⟩

/-- A session is known by its number. Its mail, submission and reconciler are its own. -/
structure RemoteSession where
  id : Nat
  accounts : List String
  deriving DecidableEq, Repr

structure ActiveRemoteAccount where
  accountKey : AccountKey
  remoteAccountId : String
  session : RemoteSession
  generation : Nat
  deriving DecidableEq, Repr

/-- What a promise rejects with: a `RemoteApplicationError`, a `RemoteError` or something else. -/
inductive Rejection
  | application (kind : RemoteApplicationErrorKind)
  | remote (error : RemoteError)
  | other
  deriving DecidableEq, Repr

def localAccountId (id : String) : Checked String := Remote.opaqueIdFromString id "JmapAccountId"
def remoteAccountId (id : String) : Checked String := remoteIdFromString id "RemoteAccountId"

/-! ## The state of the application -/

structure AppState where
  sessions : OrderedMap AccountKey ActiveRemoteAccount
  generations : OrderedMap AccountKey Nat
  pendingConnects : OrderedMap AccountKey Nat
  statuses : OrderedMap AccountKey RemoteAccountStatus
  disposed : Bool

namespace AppState

def initial : AppState := ⟨.empty, .empty, .empty, .empty, false⟩

def getStatus (s : AppState) (accountKey : AccountKey) : RemoteAccountStatus := (s.statuses.get? accountKey).getD disconnectedStatus

/-- The status after `publishStatus`, which then calls the listeners if it changed. -/
def publishStatus (s : AppState) (accountKey : AccountKey) (status : RemoteAccountStatus) : AppState :=
  if s.getStatus accountKey = status then s else { s with statuses := s.statuses.set accountKey status }

def nextGeneration (s : AppState) (accountKey : AccountKey) : Nat × AppState :=
  let next := (s.generations.get? accountKey).getD 0 + 1
  (next, { s with generations := s.generations.set accountKey next })

def hasConnectAuthority (s : AppState) (accountKey : AccountKey) (generation : Nat) : Bool :=
  !s.disposed && s.generations.get? accountKey = some generation && s.pendingConnects.get? accountKey = some generation

def isCurrent (s : AppState) (entry : ActiveRemoteAccount) : Bool :=
  !s.disposed && s.generations.get? entry.accountKey = some entry.generation && s.sessions.get? entry.accountKey = some entry

def remoteErrorKind (error : RemoteError) : RemoteApplicationErrorKind :=
  if error.kind = .auth then .auth
  else if error.kind = .network ∨ error.kind = .unavailable then .network
  else .remote

def classifyConnectError : Rejection → RemoteApplicationErrorKind
  | .application kind => kind
  | .remote error => remoteErrorKind error
  | .other => .unexpected

def retainedStatus (kind : RemoteApplicationErrorKind) : RemoteAccountStatus :=
  ⟨.authenticated, if kind = .network then .offline else .online, some kind⟩

def expiredStatus (error : RemoteError) : RemoteAccountStatus :=
  ⟨.expired, if remoteErrorKind error = .network then .offline else .online, some (remoteErrorKind error)⟩

def publishConnectFailure (s : AppState) (accountKey : AccountKey) (kind : RemoteApplicationErrorKind) (sessionOpened : Bool) :
    AppState :=
  let online := sessionOpened || kind = .auth || kind = .accountMismatch || kind = .accountSelectionRequired || kind = .local
  s.publishStatus accountKey ⟨.anonymous, if online then .online else .offline, some kind⟩

/-! ### Stretches of code -/

/-- `connect` up to the first status. -/
def beginConnect (s : AppState) (accountKey : AccountKey) : Except RemoteApplicationErrorKind Nat × AppState :=
  if s.disposed then (.error .disposed, s)
  else if s.sessions.has accountKey || s.pendingConnects.has accountKey then (.error .busy, s)
  else
    let (generation, s) := s.nextGeneration accountKey
    let s := { s with pendingConnects := s.pendingConnects.set accountKey generation }
    (.ok generation, s.publishStatus accountKey ⟨.authenticating, .offline, none⟩)

/-- The end of the `try` block of `connect`. -/
def install (s : AppState) (active : ActiveRemoteAccount) : Bool × AppState :=
  if s.hasConnectAuthority active.accountKey active.generation then
    let s := { s with sessions := s.sessions.set active.accountKey active, pendingConnects := s.pendingConnects.delete active.accountKey }
    (true, s.publishStatus active.accountKey ⟨.authenticated, .online, none⟩)
  else (false, s)

/-- The `catch` block of `connect`, after the session was closed: the kind it throws. -/
def failConnect (s : AppState) (accountKey : AccountKey) (generation : Nat) (kind : RemoteApplicationErrorKind) (sessionOpened : Bool) :
    RemoteApplicationErrorKind × AppState :=
  if s.hasConnectAuthority accountKey generation then
    let s := { s with pendingConnects := s.pendingConnects.delete accountKey }
    (kind, s.publishConnectFailure accountKey kind sessionOpened)
  else (.cancelled, s)

/-- The `finally` block of `connect`. -/
def endConnect (s : AppState) (accountKey : AccountKey) (generation : Nat) : AppState :=
  if s.pendingConnects.get? accountKey = some generation then { s with pendingConnects := s.pendingConnects.delete accountKey } else s

/-- `disconnect` up to the status: the session to be closed. -/
def beginDisconnect (s : AppState) (accountKey : AccountKey) :
    Except RemoteApplicationErrorKind (Option ActiveRemoteAccount) × AppState :=
  if s.disposed then (.error .disposed, s)
  else
    let active := s.sessions.get? accountKey
    let hadPending := s.pendingConnects.has accountKey
    let s := { s with sessions := s.sessions.delete accountKey, pendingConnects := s.pendingConnects.delete accountKey }
    let s := if active.isSome || hadPending then (s.nextGeneration accountKey).2 else s
    (.ok active, s.publishStatus accountKey disconnectedStatus)

/-- `refreshAccount` up to the synchronisation. -/
def activeAccount (s : AppState) (accountKey : AccountKey) : Except RemoteApplicationErrorKind ActiveRemoteAccount :=
  if s.disposed then .error .disposed
  else
    match s.sessions.get? accountKey with
    | none => .error .notConnected
    | some active => .ok active

/-- How a refresh ends: well, with an error, or with an error after which its session is to be closed. -/
inductive RefreshEnd
  | done
  | failed (kind : RemoteApplicationErrorKind)
  | expired (kind : RemoteApplicationErrorKind)
  deriving DecidableEq, Repr

/-- `refreshAccount` after the synchronisation of `accountKey` ended with an outcome. -/
def finishRefresh (s : AppState) (accountKey : AccountKey) (active : ActiveRemoteAccount) : Except Rejection Unit → RefreshEnd × AppState
  | .ok _ =>
    if s.isCurrent active then (.done, s.publishStatus accountKey ⟨.authenticated, .online, none⟩) else (.failed .cancelled, s)
  | .error error =>
    if !s.isCurrent active then (.failed .cancelled, s)
    else
      match error with
      | .remote error =>
        let kind := remoteErrorKind error
        if error.session = .expire then
          let s := { s with sessions := s.sessions.delete accountKey }
          let s := (s.nextGeneration accountKey).2
          (.expired kind, s.publishStatus accountKey (expiredStatus error))
        else (.failed kind, s.publishStatus accountKey (retainedStatus kind))
      | _ => (.failed .local, s.publishStatus accountKey ⟨.authenticated, .online, some .local⟩)

/-- `dispose` up to the closing of the sessions. -/
def beginDispose (s : AppState) : List ActiveRemoteAccount × AppState :=
  if s.disposed then ([], s)
  else
    let active := s.sessions.values
    let affected := s.pendingConnects.entries.map (·.1) ++ s.generations.entries.map (·.1) ++ active.map (·.accountKey)
    let s := affected.dedup.foldl (fun s accountKey =>
      { (s.nextGeneration accountKey).2 with statuses := s.statuses.set accountKey disconnectedStatus }) s
    (active, { s with disposed := true, sessions := .empty, pendingConnects := .empty })

/-! ### What they leave unchanged -/

@[simp] theorem publishStatus_sessions (s : AppState) (accountKey : AccountKey) (status : RemoteAccountStatus) :
    (s.publishStatus accountKey status).sessions = s.sessions := by
  unfold publishStatus
  split <;> rfl

@[simp] theorem publishStatus_generations (s : AppState) (accountKey : AccountKey) (status : RemoteAccountStatus) :
    (s.publishStatus accountKey status).generations = s.generations := by
  unfold publishStatus
  split <;> rfl

@[simp] theorem publishStatus_pendingConnects (s : AppState) (accountKey : AccountKey) (status : RemoteAccountStatus) :
    (s.publishStatus accountKey status).pendingConnects = s.pendingConnects := by
  unfold publishStatus
  split <;> rfl

@[simp] theorem publishStatus_disposed (s : AppState) (accountKey : AccountKey) (status : RemoteAccountStatus) :
    (s.publishStatus accountKey status).disposed = s.disposed := by
  unfold publishStatus
  split <;> rfl

/-- The status that was published is the account's, and the others have theirs. -/
theorem getStatus_publishStatus (s : AppState) (accountKey accountKey' : AccountKey) (status : RemoteAccountStatus) :
    (s.publishStatus accountKey status).getStatus accountKey' = if accountKey' = accountKey then status else s.getStatus accountKey' := by
  unfold publishStatus
  split
  · rename_i h
    by_cases hk : accountKey' = accountKey
    · rw [if_pos hk, hk, h]
    · rw [if_neg hk]
  · simp only [getStatus, OrderedMap.get?_set]
    split <;> rfl

theorem hasConnectAuthority_iff {s : AppState} {accountKey : AccountKey} {generation : Nat} :
    s.hasConnectAuthority accountKey generation = true ↔ s.disposed = false ∧ s.generations.get? accountKey = some generation ∧
      s.pendingConnects.get? accountKey = some generation := by
  simp [hasConnectAuthority, and_assoc]

theorem isCurrent_iff {s : AppState} {entry : ActiveRemoteAccount} : s.isCurrent entry = true ↔ s.disposed = false ∧
    s.generations.get? entry.accountKey = some entry.generation ∧ s.sessions.get? entry.accountKey = some entry := by
  simp [isCurrent, and_assoc]

/-! ### What they do to sessions, attempts and generations -/

/-- Sessions, attempts and generations are the same; the statuses may differ. -/
structure Alike (s s' : AppState) : Prop where
  sessions : s'.sessions = s.sessions
  pendingConnects : s'.pendingConnects = s.pendingConnects
  generations : s'.generations = s.generations
  disposed : s'.disposed = s.disposed

theorem Alike.refl (s : AppState) : s.Alike s := ⟨rfl, rfl, rfl, rfl⟩

theorem alike_publishStatus (s : AppState) (accountKey : AccountKey) (status : RemoteAccountStatus) :
    s.Alike (s.publishStatus accountKey status) :=
  ⟨publishStatus_sessions .., publishStatus_pendingConnects .., publishStatus_generations .., publishStatus_disposed ..⟩

theorem beginConnect_cases (s : AppState) (accountKey : AccountKey) : (∃ kind, s.beginConnect accountKey = (.error kind, s)) ∨
    ∃ generation s', s.beginConnect accountKey = (.ok generation, s') ∧ s.disposed = false ∧ s.sessions.get? accountKey = none ∧
      s.pendingConnects.get? accountKey = none ∧ generation = (s.generations.get? accountKey).getD 0 + 1 ∧
      Alike { s with pendingConnects := s.pendingConnects.set accountKey generation
                     generations := s.generations.set accountKey generation } s' := by
  unfold beginConnect
  by_cases hd : s.disposed = true
  · exact .inl ⟨_, by rw [if_pos hd]⟩
  · rw [if_neg hd]
    by_cases hb : (s.sessions.has accountKey || s.pendingConnects.has accountKey) = true
    · exact .inl ⟨_, by rw [if_pos hb]⟩
    · rw [if_neg hb]
      simp only [OrderedMap.has, Bool.or_eq_true, Option.isSome_iff_ne_none, ne_eq, not_or, not_not] at hb
      exact .inr ⟨_, _, rfl, by simpa using hd, hb.1, hb.2, rfl, alike_publishStatus _ _ _⟩

theorem install_cases (s : AppState) (active : ActiveRemoteAccount) : s.install active = (false, s) ∨
    ∃ s', s.install active = (true, s') ∧ s.hasConnectAuthority active.accountKey active.generation = true ∧
      Alike { s with sessions := s.sessions.set active.accountKey active
                     pendingConnects := s.pendingConnects.delete active.accountKey } s' := by
  unfold install
  by_cases h : s.hasConnectAuthority active.accountKey active.generation = true
  · rw [if_pos h]
    exact .inr ⟨_, rfl, h, alike_publishStatus _ _ _⟩
  · rw [if_neg h]
    exact .inl rfl

theorem failConnect_cases (s : AppState) (accountKey : AccountKey) (generation : Nat) (kind : RemoteApplicationErrorKind) (opened : Bool) :
    (s.failConnect accountKey generation kind opened).2 = s ∨ s.hasConnectAuthority accountKey generation = true ∧
      Alike { s with pendingConnects := s.pendingConnects.delete accountKey } (s.failConnect accountKey generation kind opened).2 := by
  unfold failConnect
  by_cases h : s.hasConnectAuthority accountKey generation = true
  · rw [if_pos h]
    exact .inr ⟨h, alike_publishStatus _ _ _⟩
  · rw [if_neg h]
    exact .inl rfl

theorem beginDisconnect_cases (s : AppState) (accountKey : AccountKey) : (∃ kind, s.beginDisconnect accountKey = (.error kind, s)) ∨
    ∃ s', s.beginDisconnect accountKey = (.ok (s.sessions.get? accountKey), s') ∧ s.disposed = false ∧
      ∃ generations, (generations = s.generations ∨ generations = (s.nextGeneration accountKey).2.generations) ∧
        Alike { s with sessions := s.sessions.delete accountKey, pendingConnects := s.pendingConnects.delete accountKey, generations } s' := by
  unfold beginDisconnect
  by_cases hd : s.disposed = true
  · exact .inl ⟨_, by rw [if_pos hd]⟩
  · rw [if_neg hd]
    refine .inr ⟨_, rfl, by simpa using hd, ?_⟩
    by_cases hb : ((s.sessions.get? accountKey).isSome || s.pendingConnects.has accountKey) = true
    · rw [if_pos hb]
      exact ⟨_, .inr rfl, alike_publishStatus _ _ _⟩
    · rw [if_neg hb]
      exact ⟨_, .inl rfl, alike_publishStatus _ _ _⟩

theorem finishRefresh_cases (s : AppState) (accountKey : AccountKey) (active : ActiveRemoteAccount) (outcome : Except Rejection Unit) :
    (∃ kind s', s.finishRefresh accountKey active outcome = (.expired kind, s') ∧ s.isCurrent active = true ∧
      Alike { s with sessions := s.sessions.delete accountKey, generations := (s.nextGeneration accountKey).2.generations } s') ∨
    ∃ ended s', s.finishRefresh accountKey active outcome = (ended, s') ∧ (∀ kind, ended ≠ .expired kind) ∧ s.Alike s' := by
  cases outcome with
  | ok u =>
    right
    simp only [finishRefresh]
    split
    · exact ⟨_, _, rfl, by simp, alike_publishStatus _ _ _⟩
    · exact ⟨_, _, rfl, by simp, .refl s⟩
  | error error =>
    simp only [finishRefresh]
    by_cases hc : s.isCurrent active = true
    · rw [if_neg (by simp [hc])]
      cases error with
      | remote error =>
        by_cases he : error.session = .expire
        · left
          simp only [he, if_true]
          exact ⟨_, _, rfl, hc, alike_publishStatus _ _ _⟩
        · right
          simp only [he, if_false]
          exact ⟨_, _, rfl, by simp, alike_publishStatus _ _ _⟩
      | application kind => exact .inr ⟨_, _, rfl, by simp, alike_publishStatus _ _ _⟩
      | other => exact .inr ⟨_, _, rfl, by simp, alike_publishStatus _ _ _⟩
    · rw [if_pos (by simpa using hc)]
      exact .inr ⟨_, _, rfl, by simp, .refl s⟩

/-! ### What they do to the statuses -/

theorem beginConnect_getStatus_ne (s : AppState) {accountKey k : AccountKey} (h : k ≠ accountKey) :
    (s.beginConnect accountKey).2.getStatus k = s.getStatus k := by
  unfold beginConnect
  split
  · rfl
  · split
    · rfl
    · exact (getStatus_publishStatus _ accountKey k _).trans (if_neg h)

theorem install_getStatus_ne (s : AppState) {active : ActiveRemoteAccount} {k : AccountKey} (h : k ≠ active.accountKey) :
    (s.install active).2.getStatus k = s.getStatus k := by
  unfold install
  split
  · exact (getStatus_publishStatus _ active.accountKey k _).trans (if_neg h)
  · rfl

theorem install_getStatus_self {s s' : AppState} {active : ActiveRemoteAccount} (h : s.install active = (true, s')) :
    (s'.getStatus active.accountKey).auth = .authenticated := by
  unfold install at h
  split at h
  · cases h
    rw [getStatus_publishStatus, if_pos rfl]
  · cases h

theorem failConnect_getStatus_ne (s : AppState) {accountKey k : AccountKey} (generation : Nat) (kind : RemoteApplicationErrorKind)
    (opened : Bool) (h : k ≠ accountKey) : (s.failConnect accountKey generation kind opened).2.getStatus k = s.getStatus k := by
  unfold failConnect
  split
  · exact (getStatus_publishStatus _ accountKey k _).trans (if_neg h)
  · rfl

theorem beginDisconnect_getStatus_ne (s : AppState) {accountKey k : AccountKey} (h : k ≠ accountKey) :
    (s.beginDisconnect accountKey).2.getStatus k = s.getStatus k := by
  unfold beginDisconnect
  split
  · rfl
  · refine (getStatus_publishStatus _ accountKey k _).trans ((if_neg h).trans ?_)
    split <;> rfl

/-- A refresh leaves the other accounts' statuses, and its own account authenticated unless the session expires. -/
theorem finishRefresh_getStatus (s : AppState) (accountKey : AccountKey) (active : ActiveRemoteAccount) (outcome : Except Rejection Unit) :
    (∀ k, k ≠ accountKey → (s.finishRefresh accountKey active outcome).2.getStatus k = s.getStatus k) ∧
      ((∀ kind, (s.finishRefresh accountKey active outcome).1 ≠ .expired kind) →
        ((s.finishRefresh accountKey active outcome).2.getStatus accountKey).auth = .authenticated ∨
          (s.finishRefresh accountKey active outcome).2 = s) := by
  have hpublish (s' : AppState) (status : RemoteAccountStatus) (hs : s'.statuses = s.statuses) (k : AccountKey) (hk : k ≠ accountKey) :
      (s'.publishStatus accountKey status).getStatus k = s.getStatus k := by
    rw [getStatus_publishStatus, if_neg hk, getStatus, hs]
    rfl
  have hself (status : RemoteAccountStatus) (h : status.auth = .authenticated) :
      ((s.publishStatus accountKey status).getStatus accountKey).auth = .authenticated := by
    rw [getStatus_publishStatus, if_pos rfl]
    exact h
  cases outcome with
  | ok u =>
    simp only [finishRefresh]
    split
    · exact ⟨hpublish s _ rfl, fun _ => .inl (hself _ rfl)⟩
    · exact ⟨fun _ _ => rfl, fun _ => .inr rfl⟩
  | error error =>
    simp only [finishRefresh]
    split
    · exact ⟨fun _ _ => rfl, fun _ => .inr rfl⟩
    · cases error with
      | remote error =>
        by_cases he : error.session = .expire
        · simp only [he, if_true]
          exact ⟨hpublish _ _ rfl, fun h => absurd rfl (h _)⟩
        · simp only [he, if_false]
          exact ⟨hpublish s _ rfl, fun _ => .inl (hself _ rfl)⟩
      | application kind => exact ⟨hpublish s _ rfl, fun _ => .inl (hself _ rfl)⟩
      | other => exact ⟨hpublish s _ rfl, fun _ => .inl (hself _ rfl)⟩

/-- Generations only grow. -/
def GenerationsGrow (s s' : AppState) : Prop :=
  ∀ k g, s.generations.get? k = some g → ∃ g', s'.generations.get? k = some g' ∧ g ≤ g'

theorem generationsGrow_set (s : AppState) (accountKey : AccountKey) {g : Nat} (h : (s.generations.get? accountKey).getD 0 ≤ g)
    {s' : AppState} (hs' : s'.generations = s.generations.set accountKey g) : GenerationsGrow s s' := by
  intro k g₀ hg₀
  rw [hs', OrderedMap.get?_set]
  by_cases hk : k = accountKey
  · subst hk
    rw [hg₀] at h
    exact ⟨g, by simp, h⟩
  · exact ⟨g₀, by simpa [hk] using hg₀, Nat.le_refl _⟩

theorem generationsGrow_nextGeneration (s : AppState) (accountKey : AccountKey) : GenerationsGrow s (s.nextGeneration accountKey).2 :=
  generationsGrow_set s accountKey (Nat.le_succ _) rfl

theorem GenerationsGrow.trans {s s' s'' : AppState} (h : GenerationsGrow s s') (h' : GenerationsGrow s' s'') : GenerationsGrow s s'' := by
  intro k g hg
  obtain ⟨g', hg', hle⟩ := h k g hg
  obtain ⟨g'', hg'', hle'⟩ := h' k g' hg'
  exact ⟨g'', hg'', hle.trans hle'⟩

theorem beginDispose_cases (s : AppState) : s.disposed = true ∧ s.beginDispose = ([], s) ∨
    s.disposed = false ∧ ∃ s', s.beginDispose = (s.sessions.values, s') ∧ s'.disposed = true ∧ s'.sessions = .empty ∧
      s'.pendingConnects = .empty ∧ GenerationsGrow s s' := by
  unfold beginDispose
  by_cases hd : s.disposed = true
  · exact .inl ⟨hd, by rw [if_pos hd]⟩
  · rw [if_neg hd]
    refine .inr ⟨by simpa using hd, _, rfl, rfl, rfl, rfl, ?_⟩
    have hfold (l : List AccountKey) (s : AppState) : GenerationsGrow s (l.foldl (fun s accountKey =>
        { (s.nextGeneration accountKey).2 with statuses := s.statuses.set accountKey disconnectedStatus }) s) := by
      induction l generalizing s with
      | nil => exact fun k g hg => ⟨g, hg, Nat.le_refl _⟩
      | cons accountKey rest ih =>
        have hfirst : GenerationsGrow s
            { (s.nextGeneration accountKey).2 with statuses := s.statuses.set accountKey disconnectedStatus } :=
          generationsGrow_nextGeneration s accountKey
        exact hfirst.trans (ih _)
    exact hfold _ s

end AppState

/-! ## Requests -/

inductive RegisterOutcome
  | ok
  | conflict
  | failed
  deriving DecidableEq, Repr

inductive AppCall
  | beginConnect (accountKey : AccountKey)
  /-- The same, after a look at the generation of the body capability. -/
  | beginAttempt (accountKey : AccountKey)
  /-- The listeners of the account are called. -/
  | notify (accountKey : AccountKey)
  | hasConnectAuthority (accountKey : AccountKey) (generation : Nat)
  | connectionFactory
  | «open»
  | readAccount (accountKey : AccountKey)
  | registerAccount (accountKey : AccountKey) (remoteRef : RemoteAccountRef)
  | install (active : ActiveRemoteAccount)
  | close (session : Nat)
  | closeAll (sessions : List Nat)
  | failConnect (accountKey : AccountKey) (generation : Nat) (kind : RemoteApplicationErrorKind) (sessionOpened : Bool)
  | endConnect (accountKey : AccountKey) (generation : Nat)
  | beginDisconnect (accountKey : AccountKey)
  /-- The same, after the body capability was invalidated. -/
  | revoke (accountKey : AccountKey)
  | activeAccount (accountKey : AccountKey)
  | syncAccount (active : ActiveRemoteAccount)
  | finishRefresh (accountKey : AccountKey) (active : ActiveRemoteAccount) (outcome : Except Rejection Unit)
  | beginDispose
  /-- Whether the body capability may be activated by the status. -/
  | isAuthenticated (accountKey : AccountKey) (session : Nat)
  /-- The rest of `activateAfterBinding`. -/
  | activate (accountKey : AccountKey) (session : RemoteSession) (generation : Nat) (stored : Option (Option RemoteAccountRef))
  /-- The `catch` block of the composed `refreshAccount`. -/
  | refreshFailed (accountKey : AccountKey)
  deriving DecidableEq, Repr

/-- A read that fails is `none`. -/
@[reducible] def AppReply : AppCall → Type
  | .beginConnect _ => Except RemoteApplicationErrorKind Nat
  | .beginAttempt _ => Except RemoteApplicationErrorKind (Nat × Nat)
  | .hasConnectAuthority _ _ | .install _ | .isAuthenticated _ _ => Bool
  | .connectionFactory | .syncAccount _ | .activate _ _ _ _ => Except Rejection Unit
  | .«open» => Except Rejection RemoteSession
  | .readAccount _ => Option (Option RemoteAccountRef)
  | .registerAccount _ _ => RegisterOutcome
  | .close _ => Bool
  | .failConnect _ _ _ _ => RemoteApplicationErrorKind
  | .beginDisconnect _ | .revoke _ => Except RemoteApplicationErrorKind (Option ActiveRemoteAccount)
  | .activeAccount _ => Except RemoteApplicationErrorKind ActiveRemoteAccount
  | .finishRefresh _ _ _ => AppState.RefreshEnd
  | .beginDispose => List ActiveRemoteAccount
  | .notify _ | .closeAll _ | .endConnect _ _ | .refreshFailed _ => Unit

abbrev AppPromise (α : Type) := Async AppCall AppReply Rejection α

/-- A request. -/
def ask (c : AppCall) : AppPromise (AppReply c) := Async.call c

def refuse {α : Type} (kind : RemoteApplicationErrorKind) : AppPromise α := throw (.application kind)

/-! ## The methods -/

def assertConnectAuthority (accountKey : AccountKey) (generation : Nat) : AppPromise Unit := do
  let authority : Bool ← ask (.hasConnectAuthority accountKey generation)
  if authority then pure () else refuse .cancelled

def closeQuietly (session : RemoteSession) : AppPromise Unit := do
  let _ ← ask (.close session.id)

/-- A throwing id becomes a `TypeError`. -/
def checkedId (id : Checked String) : AppPromise String :=
  match id with
  | .ok id => pure id
  | .error _ => throw .other

/-- The remote account that the local one is bound to. -/
def resolveBinding (accountKey : AccountKey) (serviceKey : String) (session : RemoteSession) (generation : Nat) :
    AppPromise String := do
  let result ← ask (.readAccount accountKey)
  assertConnectAuthority accountKey generation
  match result with
  | none => refuse .local
  | some (some «local») =>
    if «local».serviceKey ≠ serviceKey then refuse .accountMismatch
    else
      let expected ← checkedId (remoteAccountId «local».jmapAccountId)
      if expected ∈ session.accounts then pure expected else refuse .accountMismatch
  | some none =>
    match session.accounts with
    | [selected] =>
      let jmapAccountId ← checkedId (localAccountId selected)
      let write : RegisterOutcome ← ask (.registerAccount accountKey ⟨serviceKey, jmapAccountId⟩)
      assertConnectAuthority accountKey generation
      match write with
      | .ok => pure selected
      | .failed => refuse .local
      | .conflict =>
        let reread ← ask (.readAccount accountKey)
        assertConnectAuthority accountKey generation
        match reread with
        | none => refuse .local
        | some none => refuse .accountMismatch
        | some (some «local») =>
          if «local».serviceKey ≠ serviceKey then refuse .accountMismatch
          else
            let stored ← checkedId (remoteAccountId «local».jmapAccountId)
            if stored = selected then pure selected else refuse .accountMismatch
    | _ => refuse .accountSelectionRequired

/-- The `catch` and the `finally` block of `connect`. -/
def failConnect {α : Type} (accountKey : AccountKey) (generation : Nat) (session : Option RemoteSession) (error : Rejection) :
    AppPromise α := do
  if let some session := session then closeQuietly session
  let kind : RemoteApplicationErrorKind ←
    ask (.failConnect accountKey generation (AppState.classifyConnectError error) session.isSome)
  ask (.notify accountKey)
  ask (.endConnect accountKey generation)
  refuse kind

/-- `connect` from the first status on. It gives the session it installed. -/
def openSession (accountKey : AccountKey) (serviceKey : String) (generation : Nat) : AppPromise RemoteSession := do
  let session : RemoteSession ← tryCatch (do
      ask (.notify accountKey)
      assertConnectAuthority accountKey generation
      let connection : Except Rejection Unit ← ask .connectionFactory
      Async.lift connection
      assertConnectAuthority accountKey generation
      let opened : Except Rejection RemoteSession ← ask .«open»
      Async.lift opened)
    (failConnect accountKey generation none)
  -- from here on there is a session to be closed
  tryCatch (do
      assertConnectAuthority accountKey generation
      let selectedAccountId ← resolveBinding accountKey serviceKey session generation
      let installed : Bool ← ask (.install ⟨accountKey, selectedAccountId, session, generation⟩)
      if !installed then refuse .cancelled)
    (failConnect accountKey generation (some session))
  ask (.notify accountKey)
  ask (.endConnect accountKey generation)
  pure session

/-- What a method resolves to: `connect` to the account's key. -/
abbrev AppResult := Option AccountKey

def connect (accountKey : AccountKey) (serviceKey : String) : AppPromise AppResult := do
  let begun : Except RemoteApplicationErrorKind Nat ← ask (.beginConnect accountKey)
  match begun with
  | .error kind => refuse kind
  | .ok generation =>
    let _ ← openSession accountKey serviceKey generation
    pure (some accountKey)

/-- `disconnect` from the status on. -/
def closeActive (accountKey : AccountKey) (begun : Except RemoteApplicationErrorKind (Option ActiveRemoteAccount)) :
    AppPromise AppResult :=
  match begun with
  | .error kind => refuse kind
  | .ok active => do
    ask (.notify accountKey)
    match active with
    | none => pure none
    | some active =>
      let closed : Bool ← ask (.close active.session.id)
      if closed then pure none else refuse .remote

def disconnect (accountKey : AccountKey) : AppPromise AppResult := do
  let begun ← ask (.beginDisconnect accountKey)
  closeActive accountKey begun

def refreshAccount (accountKey : AccountKey) : AppPromise AppResult := do
  let active ← ask (.activeAccount accountKey)
  match active with
  | .error kind => refuse kind
  | .ok active =>
    let outcome ← ask (.syncAccount active)
    let ended ← ask (.finishRefresh accountKey active outcome)
    ask (.notify accountKey)
    match ended with
    | .done => pure none
    | .failed kind => refuse kind
    | .expired kind =>
      closeQuietly active.session
      refuse kind

def dispose : AppPromise AppResult := do
  let active : List ActiveRemoteAccount ← ask .beginDispose
  ask (.closeAll (active.map (·.session.id)))
  pure none

end Boxplot.App
