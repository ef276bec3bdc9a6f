import Boxplot.Memory.SyncPort
import Boxplot.Outbox.MutationRunner
import Boxplot.Sync.Coordinator
/-!
# The mail of an account, here and there

Runs of the mutation runner and refreshes of accounts, interleaved at their
awaits, over one memory engine and the servers its accounts are on. The servers
change as they like. The world also remembers, for the statements about it, what
each run last learned, which rows hold an optimistic write, and what was
confirmed.
-/

namespace Boxplot.Sync

open Domain Remote Lib Outbox Memory

/-! ## Servers -/

/-- The emails of a remote account at each of its versions. A state names one version. -/
structure RemoteHistory where
  emails : Nat → String → Option RemoteEmail
  state : Nat → String
  distinct : Function.Injective state
  ids : ∀ v id e, emails v id = some e → e.id = id

/-- Some change between the two versions touched the email. -/
def RemoteHistory.ChangedIn (h : RemoteHistory) (id : String) (u v : Nat) : Prop :=
  ∃ n, u ≤ n ∧ n < v ∧ h.emails n id ≠ h.emails (n + 1) id

/-- What `JmapRemoteMail.syncEmails` may resolve to at version `v`: everything, or only what changed since the
version the given state names. -/
inductive SyncsEmails (h : RemoteHistory) (v : Nat) (previousState : Option String) :
    RemoteCollectionSync RemoteEmail String → Prop
  | replace {snapshot : List RemoteEmail} : (∀ e, e ∈ snapshot ↔ h.emails v e.id = some e) →
      SyncsEmails h v previousState (.replace (h.state v) snapshot)
  | delta {u : Nat} {changed : List RemoteEmail} {destroyed : List String} :
      previousState = some (h.state u) → u ≤ v →
      (∀ e ∈ changed, h.emails v e.id = some e ∧ h.ChangedIn e.id u v) →
      (∀ id ∈ destroyed, h.emails v id = none) →
      (∀ id, h.emails v id ≠ h.emails u id → id ∈ changed.map (·.id) ∨ id ∈ destroyed) →
      SyncsEmails h v previousState (.delta (h.state v) changed destroyed)

theorem SyncsEmails.state_eq {h : RemoteHistory} {v : Nat} {previous : Option String}
    {transition : RemoteCollectionSync RemoteEmail String} (hs : SyncsEmails h v previous transition) :
    transition.state = h.state v := by
  cases hs <;> rfl

structure Remotes where
  /-- The remote account each local one is bound to. -/
  accountOf : AccountKey → String
  history : String → RemoteHistory

def Remotes.of (H : Remotes) (accountKey : AccountKey) : RemoteHistory := H.history (H.accountOf accountKey)

/-! ## What is remembered -/

/-- What a run last learned: that its refresh was answered at a version, that its change was made, or the row
of an email, with the refresh before it and the cursor the store had. -/
inductive Basis
  | nothing
  | refreshed (remoteAccountId : String) (version : Nat)
  | changed
  | row (emailId : ScopedEmailId) (refresh : Option (String × Nat)) (cursor : Option String)
  deriving DecidableEq, Repr

def Basis.refresh : Basis → Option (String × Nat)
  | .refreshed remoteAccountId version => some (remoteAccountId, version)
  | _ => none

/-- A keyword mutation that was confirmed, and on what basis. -/
structure Confirmation where
  mutation : PendingMutation
  basis : Basis
  deriving DecidableEq, Repr

/-- `optimistic` tells which rows hold an optimistic keyword write newer than the server's record. -/
structure MailWorld where
  store : MemoryState
  version : String → Nat
  optimistic : ScopedEmailId → Bool
  basis : Nat → Basis
  confirmed : List Confirmation

namespace MailWorld

/-- Nothing is stored. -/
def initial : MailWorld := ⟨.empty, fun _ => 0, fun _ => false, fun _ => .nothing, []⟩

def learn (w : MailWorld) (t : Nat) (b : Basis) : MailWorld := { w with basis := Function.update w.basis t b }

/-- The replacement of a keyword mutation by its confirmed record. -/
def confirms (expected next : PendingMutation) : Bool :=
  match expected.payload, next.lifecycle with
  | .keyword _ _, .confirmed _ _ => true
  | _, _ => false

/-- The rows of emails that a commit stores, or drops to store what the server has. -/
def rewrites (accountKey : AccountKey) (change : CollectionChange EmailSyncRecord ScopedEmailId) (id : ScopedEmailId) : Bool :=
  id ∈ change.records.map (·.email.id) || match change with
    | .replace _ _ => id.accountKey = accountKey
    | .delta _ _ _ => false

def rewrittenBy (w : MailWorld) : CollectionSyncCommit → ScopedEmailId → Bool
  | .email next change => fun id => w.optimistic id && !rewrites next.accountKey change id
  | _ => w.optimistic

/-! ## Steps -/

/-- The requests the memory engine answers. -/
def engineStep (w : MailWorld) (t : Nat) : (e : Call) → Option (Reply e × MailWorld)
  | .readPendingMutation accountKey mutationId => some (.ok (w.store.readPendingMutation accountKey mutationId), w)
  | .listPendingMutations accountKey => some (.ok (w.store.listPendingMutations accountKey), w)
  | .readEmail id =>
    some (.ok (w.store.readEmail id),
      w.learn t (.row id (w.basis t).refresh ((w.store.cursors.get? (id.accountKey, .email)).map (·.state))))
  | .replacePendingMutationIfCurrent expected next =>
    match w.store.replacePendingMutationIfCurrent expected next with
    | .ok s =>
      let confirmed := if confirms expected next then w.confirmed ++ [⟨expected, w.basis t⟩] else w.confirmed
      some (.ok (), { w with store := s, confirmed })
    | .error .conflict => some (.failed .conflict, w)
    | .error (.thrown _) => some (.rejected, w)
  | .removeConfirmedMutation accountKey mutationId =>
    let (r, s) := written w.store (w.store.removeConfirmedMutation accountKey mutationId)
    some (r, { w with store := s })
  | .sync (.readCollectionSyncCursor accountKey dataType) =>
    some (.ok (w.store.readCollectionSyncCursor accountKey dataType), w)
  | .sync (.listMailboxes accountKey) => some (.ok (w.store.listMailboxes accountKey), w)
  | .sync (.applyCollectionSync commit) =>
    match w.store.applyCollectionSync commit with
    | .ok s => some (.ok (), { w with store := s, optimistic := w.rewrittenBy commit })
    | .error .conflict => some (.failed .conflict, w)
    | .error (.thrown _) => some (.rejected, w)
  | _ => none

/-- The others: any reply, but an account's session is its own, and its server tells the truth. -/
def remoteStep (H : Remotes) (w : MailWorld) (t : Nat) (e : Call) (r : Reply e) (w' : MailWorld) : Prop :=
  match e, r with
  | .sync (.session accountKey), r => (r = none ∨ r = some (H.accountOf accountKey)) ∧ w' = w
  | .sync (.syncEmails id previousState), .ok transition =>
    SyncsEmails (H.history id) (w.version id) previousState transition ∧ w' = w.learn t (.refreshed id (w.version id))
  | .keywordChangeSettled, .ok _ => w' = w.learn t .changed
  | _, _ => w' = w

def perform (H : Remotes) (w : MailWorld) (t : Nat) (e : Call) (r : Reply e) (w' : MailWorld) : Prop :=
  match w.engineStep t e with
  | some (r', w'') => r = r' ∧ w' = w''
  | none => w.remoteStep H t e r w'

/-- What else happens: a server moves on, an account is registered, a mutation is staged as its factory makes it. -/
inductive Env (H : Remotes) : MailWorld → MailWorld → Prop
  | remoteChange {w : MailWorld} (id : String) :
      Env H w { w with version := Function.update w.version id (w.version id + 1) }
  | registerAccount {w : MailWorld} {value : Account} {s : MemoryState} : w.store.registerAccount value = .ok s →
      Env H w { w with store := s }
  | stageSend {w : MailWorld} {value : PendingMutation} {intent : SendIntent} {s : MemoryState} :
      value.payload = .send intent → value.lifecycle = .pending 0 → w.store.stageSendMutation value = .ok s →
      Env H w { w with store := s }
  | stageKeyword {w : MailWorld} {value : PendingMutation} {emailId : ScopedEmailId} {change : KeywordChange} {s : MemoryState} :
      value.payload = .keyword emailId change → emailId.accountKey = value.accountKey → value.lifecycle = .pending 0 →
      w.store.applyOptimisticKeywordMutation value emailId change = .ok s →
      Env H w { w with store := s, optimistic := Function.update w.optimistic emailId true }
  | stageMembership {w : MailWorld} {value : PendingMutation} {emailId : ScopedEmailId} {change : MailboxMembershipChange}
      {s : MemoryState} :
      value.payload = .mailboxMembership emailId change → emailId.accountKey = value.accountKey →
      value.lifecycle = .pending 0 → w.store.applyOptimisticMailboxMembershipMutation value emailId change = .ok s →
      Env H w { w with store := s }

end MailWorld

/-! ## Runs -/

/-- The runner's `refreshAccount` is the application's, if it has one. -/
def Wired (deps : MutationRunnerDependencies) : Prop := ∀ refresh, deps.refreshAccount = some refresh → refresh = refreshAccount

inductive MailRun : Prog Call Reply Unit → Prop
  | runMutation {deps : MutationRunnerDependencies} (accountKey : AccountKey) (mutationId : MutationId) : Wired deps →
      MailRun ((runMutation deps accountKey mutationId).run.bind fun _ => .pure ())
  | runAccount {deps : MutationRunnerDependencies} (accountKey : AccountKey) : Wired deps →
      MailRun ((runAccount deps accountKey).run.bind fun _ => .pure ())
  | refreshAccount (accountKey : AccountKey) : MailRun ((refreshAccount accountKey).run.bind fun _ => .pure ())

/-- The runs in which every request is made where it is `allowed`. -/
def mailSystem (H : Remotes) (allowed : MailWorld → Call → Bool) : System Call Reply Unit MailWorld where
  perform w t e r w' := allowed w e = true ∧ w.perform H t e r w'
  starts := MailRun
  env := MailWorld.Env H

/-- A row is read only where the server's record was stored after the last optimistic write to it. -/
def rewritten (w : MailWorld) : Call → Bool
  | .readEmail id => !w.optimistic id
  | _ => true

/-- The remote email carries every keyword of `add` and none of `remove`. -/
def Carries (email : Option RemoteEmail) (change : KeywordChange) : Prop :=
  ∃ e, email = some e ∧ (∀ k ∈ change.add, k ∈ e.keywords) ∧ ∀ k ∈ change.remove, k ∉ e.keywords

/-- A keyword mutation is confirmed because its change was made, or by the row of its email: after the run's
refresh was answered at version `u`, from a store that has the server's version `v`, no older than that, at
which the server's email carried the change. -/
def Confirmation.Sound (H : Remotes) (c : Confirmation) : Prop :=
  ∀ emailId change, c.mutation.payload = .keyword emailId change →
    c.basis = .changed ∨ ∃ u v, u ≤ v ∧
      c.basis = .row emailId (some (H.accountOf emailId.accountKey, u)) (some ((H.of emailId.accountKey).state v)) ∧
      Carries ((H.of emailId.accountKey).emails v emailId.jmapId) change

end Boxplot.Sync
