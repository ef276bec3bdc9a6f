import Boxplot.App.RemoteApplication
import Boxplot.Lib.State
/-!
# The composed remote runtime

`RemoteBodyCapabilityStore` of `src/app/remote/remote-body-source.ts`, and
`BodyCapableRemoteApplication` of `src/app/remote/remote-runtime-composition.ts`
around the application. The world they run in: the states of both, the stored
bindings of accounts, and what was opened and closed.
-/

namespace Boxplot.App

open Domain Lib Remote

/-! ## The capability store -/

/-- The mail, the submission and the reconciler are the session's. -/
structure ActiveBodyCapability where
  accountKey : AccountKey
  remoteAccountId : String
  session : Nat
  generation : Nat
  deriving DecidableEq, Repr

structure CapabilityState where
  active : OrderedMap AccountKey ActiveBodyCapability
  generations : OrderedMap AccountKey Nat

namespace CapabilityState

def initial : CapabilityState := ⟨.empty, .empty⟩

def generation (c : CapabilityState) (accountKey : AccountKey) : Nat := (c.generations.get? accountKey).getD 0

/-- `authenticated` is what the status authority says of the account. -/
def activate (c : CapabilityState) (authenticated : Bool) (capability : ActiveBodyCapability) (expectedGeneration : Nat) :
    CapabilityState :=
  if c.generation capability.accountKey ≠ expectedGeneration || !authenticated then c
  else { c with active := c.active.set capability.accountKey { capability with generation := expectedGeneration } }

def invalidate (c : CapabilityState) (accountKey : AccountKey) : CapabilityState where
  active := c.active.delete accountKey
  generations := c.generations.set accountKey (c.generation accountKey + 1)

def isConnected (c : CapabilityState) (authenticated : Bool) (accountKey : AccountKey) : Bool :=
  match c.active.get? accountKey with
  | none => false
  | some capability => c.generation accountKey = capability.generation && authenticated

end CapabilityState

/-! ## The composed methods -/

/-- `connect`. Nothing comes between the look at the capability's generation and the start of the inner `connect`, and the
connection that is tracked is the one of that `connect`. -/
def connectWithBody (accountKey : AccountKey) (serviceKey : String) : AppPromise AppResult := do
  let begun : Except RemoteApplicationErrorKind (Nat × Nat) ← ask (.beginAttempt accountKey)
  match begun with
  | .error kind => refuse kind
  | .ok (attempt, generation) =>
    let session ← openSession accountKey serviceKey generation
    -- activateAfterBinding
    let authenticated : Bool ← ask (.isAuthenticated accountKey session.id)
    if authenticated then
      let stored ← ask (.readAccount accountKey)
      let activated : Except Rejection Unit ← ask (.activate accountKey session attempt stored)
      Async.lift activated
    pure (some accountKey)

def disconnectWithBody (accountKey : AccountKey) : AppPromise AppResult := do
  let begun ← ask (.revoke accountKey)
  closeActive accountKey begun

def refreshAccountWithBody (accountKey : AccountKey) : AppPromise AppResult :=
  tryCatch (refreshAccount accountKey) fun error => do
    ask (.refreshFailed accountKey)
    throw error

/-! ## The world -/

/-- An account that was disconnected, or a session that expired. -/
inductive Ending
  | disconnected (accountKey : AccountKey)
  | expired (session : Nat)
  deriving DecidableEq, Repr

/-- Whether the account's session is over with it. -/
def Ending.concerns (accountKey : AccountKey) (session : Nat) : Ending → Bool
  | .disconnected accountKey' => accountKey' = accountKey
  | .expired session' => session' = session

/-- A call of the composed `connect` that resolved: the session it installed, and how many endings there were by then. -/
structure Connected where
  call : Nat
  accountKey : AccountKey
  session : Nat
  endings : Nat
  deriving DecidableEq, Repr

structure RuntimeState where
  app : AppState
  capabilities : CapabilityState
  /-- The stored bindings. -/
  accounts : OrderedMap AccountKey RemoteAccountRef
  /-- The calls that opened sessions; a session's number is its place. -/
  opened : List Nat
  /-- The sessions that the application closed, as often as it did. -/
  closed : List Nat
  /-- The calls of `connect` that began, with their account and generation. -/
  begun : List (Nat × AccountKey × Nat)
  /-- Those of them that a `disconnect` of their account or a `dispose` came after. -/
  superseded : List Nat
  /-- The sessions installed whose body capability is still to be activated. -/
  activating : List Nat
  endings : List Ending
  connected : List Connected

namespace RuntimeState

def initial : RuntimeState := ⟨.initial, .initial, .empty, [], [], [], [], [], [], []⟩

def isAuthenticated (w : RuntimeState) (accountKey : AccountKey) : Bool := (w.app.getStatus accountKey).auth = .authenticated

def isConnected (w : RuntimeState) (accountKey : AccountKey) : Bool :=
  w.capabilities.isConnected (w.isAuthenticated accountKey) accountKey

/-! ### What the stretches of code do -/

/-- Call `t` begins to connect. -/
def beginConnect (w : RuntimeState) (t : Nat) (accountKey : AccountKey) : Except RemoteApplicationErrorKind Nat × RuntimeState :=
  match w.app.beginConnect accountKey with
  | (.ok generation, app) => (.ok generation, { w with app, begun := (t, accountKey, generation) :: w.begun })
  | (.error kind, app) => (.error kind, { w with app })

def beginAttempt (w : RuntimeState) (t : Nat) (accountKey : AccountKey) :
    Except RemoteApplicationErrorKind (Nat × Nat) × RuntimeState :=
  let attempt := w.capabilities.generation accountKey
  let (begun, w) := w.beginConnect t accountKey
  (begun.map fun generation => (attempt, generation), w)

def install (w : RuntimeState) (active : ActiveRemoteAccount) : Bool × RuntimeState :=
  let (installed, app) := w.app.install active
  (installed, { w with app, activating := if installed then active.session.id :: w.activating else w.activating })

def failConnect (w : RuntimeState) (accountKey : AccountKey) (generation : Nat) (kind : RemoteApplicationErrorKind)
    (sessionOpened : Bool) : RemoteApplicationErrorKind × RuntimeState :=
  let failed := w.app.failConnect accountKey generation kind sessionOpened
  (failed.1, { w with app := failed.2 })

def beginDisconnect (w : RuntimeState) (accountKey : AccountKey) :
    Except RemoteApplicationErrorKind (Option ActiveRemoteAccount) × RuntimeState :=
  match w.app.beginDisconnect accountKey with
  | (.error kind, app) => (.error kind, { w with app })
  | (.ok active, app) =>
    (.ok active,
      { w with
        app
        superseded := (w.begun.filter fun b => b.2.1 = accountKey).map (·.1) ++ w.superseded
        endings := w.endings ++ [.disconnected accountKey] })

def revoke (w : RuntimeState) (accountKey : AccountKey) :
    Except RemoteApplicationErrorKind (Option ActiveRemoteAccount) × RuntimeState :=
  { w with capabilities := w.capabilities.invalidate accountKey }.beginDisconnect accountKey

def finishRefresh (w : RuntimeState) (accountKey : AccountKey) (active : ActiveRemoteAccount) (outcome : Except Rejection Unit) :
    AppState.RefreshEnd × RuntimeState :=
  match w.app.finishRefresh accountKey active outcome with
  | (.expired kind, app) => (.expired kind, { w with app, endings := w.endings ++ [.expired active.session.id] })
  | (ended, app) => (ended, { w with app })

def beginDispose (w : RuntimeState) : List ActiveRemoteAccount × RuntimeState :=
  let (active, app) := w.app.beginDispose
  (active, { w with app, superseded := w.begun.map (·.1) ++ w.superseded })

/-- Call `t` resolves, with the session it installed. -/
def resolve (w : RuntimeState) (t : Nat) (accountKey : AccountKey) (session : Nat) : RuntimeState :=
  { w with
    activating := w.activating.filter (· ≠ session)
    connected := ⟨t, accountKey, session, w.endings.length⟩ :: w.connected }

/-- The first half of `activateAfterBinding`; if the account is not authenticated there is no other. -/
def mayActivate (w : RuntimeState) (t : Nat) (accountKey : AccountKey) (session : Nat) : Bool × RuntimeState :=
  if w.isAuthenticated accountKey then (true, w) else (false, w.resolve t accountKey session)

/-- The second half, after the stored account was read. -/
def activate (w : RuntimeState) (t : Nat) (accountKey : AccountKey) (session : RemoteSession) (generation : Nat)
    (stored : Option (Option RemoteAccountRef)) : Except Rejection Unit × RuntimeState :=
  let resolved := w.resolve t accountKey session.id
  match stored with
  | some (some remoteRef) =>
    if w.isAuthenticated accountKey then
      match remoteAccountId remoteRef.jmapAccountId with
      | .error _ => (.error .other, w)
      | .ok selected =>
        if selected ∈ session.accounts then
          let capability := ⟨accountKey, selected, session.id, generation⟩
          (.ok (), { resolved with capabilities := w.capabilities.activate (w.isAuthenticated accountKey) capability generation })
        else (.ok (), resolved)
    else (.ok (), resolved)
  | _ => (.ok (), resolved)

def refreshFailed (w : RuntimeState) (accountKey : AccountKey) : RuntimeState :=
  if w.isAuthenticated accountKey then w else { w with capabilities := w.capabilities.invalidate accountKey }

/-- An account is registered once, and again as it is. -/
def registerAccount (w : RuntimeState) (accountKey : AccountKey) (remoteRef : RemoteAccountRef) (outcome : RegisterOutcome)
    (w' : RuntimeState) : Prop :=
  match outcome with
  | .ok => w.accounts.get? accountKey ∈ [none, some remoteRef] ∧ w' = { w with accounts := w.accounts.set accountKey remoteRef }
  | .conflict | .failed => w' = w

/-- How a request of call `t` is answered. -/
def perform (w : RuntimeState) (t : Nat) : (c : AppCall) → AppReply c → RuntimeState → Prop
  | .beginConnect accountKey, r, w' => (r, w') = w.beginConnect t accountKey
  | .beginAttempt accountKey, r, w' => (r, w') = w.beginAttempt t accountKey
  | .notify _, _, w' => w' = w
  | .hasConnectAuthority accountKey generation, r, w' => r = w.app.hasConnectAuthority accountKey generation ∧ w' = w
  | .connectionFactory, _, w' => w' = w
  | .«open», .error _, w' => w' = w
  | .«open», .ok session, w' => session.id = w.opened.length ∧ w' = { w with opened := w.opened ++ [t] }
  | .readAccount accountKey, r, w' => (∀ stored, r = some stored → stored = w.accounts.get? accountKey) ∧ w' = w
  | .registerAccount accountKey remoteRef, r, w' => w.registerAccount accountKey remoteRef r w'
  | .install active, r, w' => (r, w') = w.install active
  | .close session, _, w' => w' = { w with closed := w.closed ++ [session] }
  | .closeAll sessions, _, w' => w' = { w with closed := w.closed ++ sessions }
  | .failConnect accountKey generation kind sessionOpened, r, w' =>
    (r, w') = w.failConnect accountKey generation kind sessionOpened
  | .endConnect accountKey generation, _, w' => w' = { w with app := w.app.endConnect accountKey generation }
  | .beginDisconnect accountKey, r, w' => (r, w') = w.beginDisconnect accountKey
  | .revoke accountKey, r, w' => (r, w') = w.revoke accountKey
  | .activeAccount accountKey, r, w' => r = w.app.activeAccount accountKey ∧ w' = w
  | .syncAccount _, _, w' => w' = w
  | .finishRefresh accountKey active outcome, r, w' => (r, w') = w.finishRefresh accountKey active outcome
  | .beginDispose, r, w' => (r, w') = w.beginDispose
  | .isAuthenticated accountKey session, r, w' => (r, w') = w.mayActivate t accountKey session
  | .activate accountKey session generation stored, r, w' => (r, w') = w.activate t accountKey session generation stored
  | .refreshFailed accountKey, _, w' => w' = w.refreshFailed accountKey

/-- A world where sessions can be opened and closed, for one remote account, and the synchronisation of move `i` ends with
`outcome i`. -/
def answer (outcome : Nat → Except Rejection Unit) (i : Nat) (w : RuntimeState) (t : Nat) :
    (c : AppCall) → Option (AppReply c × RuntimeState)
  | .beginConnect accountKey => some (w.beginConnect t accountKey)
  | .beginAttempt accountKey => some (w.beginAttempt t accountKey)
  | .notify _ => some ((), w)
  | .hasConnectAuthority accountKey generation => some (w.app.hasConnectAuthority accountKey generation, w)
  | .connectionFactory => some (.ok (), w)
  | .«open» => some (.ok ⟨w.opened.length, ["r"]⟩, { w with opened := w.opened ++ [t] })
  | .readAccount accountKey => some (some (w.accounts.get? accountKey), w)
  | .registerAccount accountKey remoteRef =>
    if w.accounts.get? accountKey ∈ [none, some remoteRef] then some (.ok, { w with accounts := w.accounts.set accountKey remoteRef })
    else some (.conflict, w)
  | .install active => some (w.install active)
  | .close session => some (true, { w with closed := w.closed ++ [session] })
  | .closeAll sessions => some ((), { w with closed := w.closed ++ sessions })
  | .failConnect accountKey generation kind sessionOpened => some (w.failConnect accountKey generation kind sessionOpened)
  | .endConnect accountKey generation => some ((), { w with app := w.app.endConnect accountKey generation })
  | .beginDisconnect accountKey => some (w.beginDisconnect accountKey)
  | .revoke accountKey => some (w.revoke accountKey)
  | .activeAccount accountKey => some (w.app.activeAccount accountKey, w)
  | .syncAccount _ => some (outcome i, w)
  | .finishRefresh accountKey active ended => some (w.finishRefresh accountKey active ended)
  | .beginDispose => some w.beginDispose
  | .isAuthenticated accountKey session => some (w.mayActivate t accountKey session)
  | .activate accountKey session generation stored => some (w.activate t accountKey session generation stored)
  | .refreshFailed accountKey => some ((), w.refreshFailed accountKey)

theorem answer_performs {outcome : Nat → Except Rejection Unit} {i : Nat} {w w' : RuntimeState} {t : Nat} {c : AppCall} {r : AppReply c}
    (h : w.answer outcome i t c = some (r, w')) : w.perform t c r w' := by
  cases c with
  | registerAccount accountKey remoteRef =>
    simp only [answer] at h
    split at h
    · rename_i hmem
      cases h
      exact ⟨hmem, rfl⟩
    · cases h
      rfl
  | readAccount accountKey =>
    cases h
    exact ⟨fun stored hs => (Option.some.inj hs).symm, rfl⟩
  | hasConnectAuthority accountKey generation => cases h; exact ⟨rfl, rfl⟩
  | activeAccount accountKey => cases h; exact ⟨rfl, rfl⟩
  | «open» => cases h; exact ⟨rfl, rfl⟩
  | notify | connectionFactory | close | closeAll | endConnect | syncAccount | refreshFailed => cases h; rfl
  | beginConnect | beginAttempt | install | failConnect | beginDisconnect | revoke | finishRefresh | beginDispose | isAuthenticated
  | activate => exact (Option.some.inj h).symm

/-- Others register accounts. -/
def Env (w w' : RuntimeState) : Prop :=
  ∃ accountKey remoteRef, w.accounts.get? accountKey = none ∧ w' = { w with accounts := w.accounts.set accountKey remoteRef }

end RuntimeState

/-- Calls of the application's methods, any number of them on any accounts. -/
def remoteApplication : System AppCall AppReply (Except Rejection AppResult) RuntimeState where
  perform := RuntimeState.perform
  starts p := (∃ accountKey serviceKey, p = (connect accountKey serviceKey).run) ∨ (∃ accountKey, p = (disconnect accountKey).run) ∨
    (∃ accountKey, p = (refreshAccount accountKey).run) ∨ p = dispose.run
  env := RuntimeState.Env

/-- Calls of the composed runtime's methods, with the steps that are allowed. -/
def remoteRuntime (allowed : RuntimeState → Nat → (c : AppCall) → AppReply c → Prop) :
    System AppCall AppReply (Except Rejection AppResult) RuntimeState where
  perform w t c r w' := allowed w t c r ∧ w.perform t c r w'
  starts p := (∃ accountKey serviceKey, p = (connectWithBody accountKey serviceKey).run) ∨
    (∃ accountKey, p = (disconnectWithBody accountKey).run) ∨ ∃ accountKey, p = (refreshAccountWithBody accountKey).run
  env := RuntimeState.Env

end Boxplot.App
