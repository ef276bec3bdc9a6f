import Boxplot.Lib.OrderedMap
import Boxplot.Lib.Turns
import Boxplot.Outbox.Outbox
import Boxplot.Remote.Collections
/-!
# The JMAP worker

`createWorkerRuntime` of `src/workers/jmap-worker.ts` with its `TokenManager`.
A turn is a message, the expiry timer, or the completion of something
asynchronous that an earlier turn has begun. `acts` is what the present turn
did that others can see.
-/

namespace Boxplot.Worker

open Domain Lib Remote Outbox

/-! ## Messages -/

inductive RemoteConnectionStatus
  | anonymous | connecting | authenticated | expired | error
  deriving DecidableEq, Repr

inductive MainToWorkerMessage
  | initSession (requestId sessionUrl token : String) (expiresInSeconds : Option Rat)
  | teardownSession (requestId : String)
  | syncAccount (requestId : String) (accountKey : AccountKey) (jmapAccountId : String)
  | sendEmail (requestId : String) (accountKey : AccountKey) (jmapAccountId : String) (mutationId : MutationId)
  deriving DecidableEq

def MainToWorkerMessage.requestId : MainToWorkerMessage → String
  | .initSession requestId _ _ _ => requestId
  | .teardownSession requestId => requestId
  | .syncAccount requestId _ _ => requestId
  | .sendEmail requestId _ _ _ => requestId

inductive WorkerToMainMessage
  | sessionReady (requestId : String) (primaryAccounts : List (String × String))
  | sessionError (requestId error : String)
  | sessionTeardown (canary : String)
  | teardownComplete (requestId canary : String)
  | syncSuccess (requestId : String) (accountKey : AccountKey)
  | syncError (requestId : String) (accountKey : AccountKey) (error : String)
  | sendSuccess (requestId : String) (mutationId : MutationId) (outcome : String)
  | sendError (requestId : String) (mutationId : MutationId) (error : String)
  | connectionStatus (status : RemoteConnectionStatus)
  deriving DecidableEq

/-- The request that a message is the response to. -/
def WorkerToMainMessage.answers : WorkerToMainMessage → Option String
  | .sessionReady requestId _ => some requestId
  | .sessionError requestId _ => some requestId
  | .teardownComplete requestId _ => some requestId
  | .syncSuccess requestId _ => some requestId
  | .syncError requestId _ _ => some requestId
  | .sendSuccess requestId _ _ => some requestId
  | .sendError requestId _ _ => some requestId
  | .sessionTeardown _ => none
  | .connectionStatus _ => none

/-! ## The token -/

structure TokenManager where
  currentToken : Option String
  /-- The timer is set. -/
  expirationTimer : Bool
  deriving DecidableEq

namespace TokenManager

def clearToken (_ : TokenManager) : TokenManager := ⟨none, false⟩

def setToken (self : TokenManager) (token : String) (expiresInSeconds : Option Rat) : TokenManager :=
  { self.clearToken with
    currentToken := some token
    expirationTimer := expiresInSeconds.any (0 < ·) }

/-- An empty token counts as none. -/
def getAuthConfig (self : TokenManager) : Option String := self.currentToken.filter (· ≠ "")

def getCanaryStatus (self : TokenManager) : String :=
  if self.currentToken = none then "TOKEN_CLEARED_OK" else "TOKEN_LEAK_WARN"

end TokenManager

/-! ## The state -/

/-- An object with an identity. -/
abbrev JmapClient := Nat

structure RemoteAccount where
  id : String
  capabilities : List String
  deriving DecidableEq

/-- A session, with the request that it was opened for. -/
structure RemoteSession where
  requestId : String
  accounts : List RemoteAccount
  deriving DecidableEq

/-- `Object.fromEntries`: a capability has its last account. -/
def RemoteSession.primaryAccounts (session : RemoteSession) : List (String × String) :=
  (session.accounts.flatMap fun account => account.capabilities.map (·, account.id)).foldl
    (fun entries e => OrderedMap.setEntries entries e.1 e.2) []

/-- What a turn has begun and a later one completes. -/
inductive Operation
  | opening (requestId : String) (generation : Nat) (client : JmapClient)
  | sync (requestId : String) (accountKey : AccountKey) (client : Option JmapClient) (session : RemoteSession)
  | send (requestId : String) (mutationId : MutationId) (client : Option JmapClient) (session : RemoteSession)
  deriving DecidableEq

def Operation.requestId : Operation → String
  | .opening requestId _ _ => requestId
  | .sync requestId _ _ _ => requestId
  | .send requestId _ _ _ => requestId

@[reducible] def Operation.Value : Operation → Type
  | .opening _ _ _ => List RemoteAccount
  | .sync _ _ _ _ => Unit
  | .send _ _ _ _ => SendMutationOutcome

inductive Act
  | posted (message : WorkerToMainMessage)
  | started (requestId : String) (session : RemoteSession)
  | closed (session : RemoteSession)
  /-- The handler threw. -/
  | threw (requestId : String)
  deriving DecidableEq

structure WorkerRuntime where
  tokenManager : TokenManager
  jmapClient : Option JmapClient
  remoteSession : Option RemoteSession
  /-- The session that the coordinator was made with. -/
  coordinator : Option RemoteSession
  outbox : Option RemoteSession
  sessionGeneration : Nat
  explicitTeardownInFlight : Bool
  invalidationStatus : RemoteConnectionStatus
  /-- How many clients have been created. -/
  clients : Nat
  outstanding : List Operation
  acts : List Act

def initial : WorkerRuntime := ⟨⟨none, false⟩, none, none, none, none, 0, false, .expired, 0, [], []⟩

namespace WorkerRuntime

def act (a : Act) (s : WorkerRuntime) : WorkerRuntime := { s with acts := s.acts ++ [a] }

def post (message : WorkerToMainMessage) (s : WorkerRuntime) : WorkerRuntime := s.act (.posted message)

def postStatus (status : RemoteConnectionStatus) (s : WorkerRuntime) : WorkerRuntime := s.post (.connectionStatus status)

def begin (operation : Operation) (s : WorkerRuntime) : WorkerRuntime := { s with outstanding := s.outstanding ++ [operation] }

/-! ## Session reset -/

def resetToAnonymous (s : WorkerRuntime) : WorkerRuntime :=
  { s with
    sessionGeneration := s.sessionGeneration + 1
    jmapClient := none
    remoteSession := none
    coordinator := none
    outbox := none
    acts := s.acts ++ s.remoteSession.toList.map .closed }

/-- The listener of `onTokenExpired`. -/
def tokenExpired (s : WorkerRuntime) : WorkerRuntime :=
  let s := s.resetToAnonymous
  let s := s.postStatus s.invalidationStatus
  let s := { s with invalidationStatus := .expired }
  if s.explicitTeardownInFlight then s else s.post (.sessionTeardown s.tokenManager.getCanaryStatus)

/-- `tokenManager.invalidate()`. -/
def invalidate (s : WorkerRuntime) : WorkerRuntime := { s with tokenManager := s.tokenManager.clearToken }.tokenExpired

/-- `error instanceof RemoteError && error.session === 'expire'`. -/
def expiresSession : JsError → Bool
  | .remote e => e.session = .expire
  | _ => false

def invalidateOnAuthError (error : JsError) (operationClient : Option JmapClient) (s : WorkerRuntime) : WorkerRuntime :=
  if expiresSession error ∧ s.jmapClient = operationClient then { s with invalidationStatus := .expired }.invalidate else s

def safeRemoteError : JsError → String
  | .remote e => if e.kind = .auth then "Remote authentication failed" else "Remote operation failed"
  | _ => "Remote operation failed"

/-! ## Messages -/

section
variable (createJmapClient : Nat → String → String → JmapClient)

def initSession (requestId sessionUrl token : String) (expiresInSeconds : Option Rat) (s : WorkerRuntime) : WorkerRuntime :=
  let s := s.postStatus .connecting
  let s := { s with tokenManager := s.tokenManager.setToken token expiresInSeconds }
  match s.tokenManager.getAuthConfig with
  | none => (s.postStatus .error).post (.sessionError requestId "Failed to store the session token.")
  | some authConfig =>
    let s := s.resetToAnonymous
    let activeClient := createJmapClient s.clients sessionUrl authConfig
    let s := { s with jmapClient := some activeClient, clients := s.clients + 1 }
    s.begin (.opening requestId s.sessionGeneration activeClient)

def teardownSession (requestId : String) (s : WorkerRuntime) : WorkerRuntime :=
  let s := { s with explicitTeardownInFlight := true, invalidationStatus := .anonymous }
  let s := s.invalidate
  let s := { s with explicitTeardownInFlight := false }
  s.post (.teardownComplete requestId s.tokenManager.getCanaryStatus)

def remoteAccountIdFromString (value : String) : Checked String := remoteIdFromString value "RemoteAccountId"

/-- A malformed account id makes the handler throw, before there is a promise to catch it. -/
def syncAccount (requestId : String) (accountKey : AccountKey) (jmapAccountId : String) (s : WorkerRuntime) : WorkerRuntime :=
  match s.coordinator with
  | none => s.post (.syncError requestId accountKey "No authenticated JMAP session")
  | some session =>
    match remoteAccountIdFromString jmapAccountId with
    | .error _ => s.act (.threw requestId)
    | .ok _ => (s.act (.started requestId session)).begin (.sync requestId accountKey s.jmapClient session)

def sendEmail (requestId jmapAccountId : String) (mutationId : MutationId) (s : WorkerRuntime) : WorkerRuntime :=
  match s.outbox with
  | none => s.post (.sendError requestId mutationId "No authenticated JMAP session")
  | some session =>
    match remoteAccountIdFromString jmapAccountId with
    | .error _ => s.act (.threw requestId)
    | .ok _ => (s.act (.started requestId session)).begin (.send requestId mutationId s.jmapClient session)

def handleMessage : MainToWorkerMessage → WorkerRuntime → WorkerRuntime
  | .initSession requestId sessionUrl token expiresInSeconds, s =>
    s.initSession createJmapClient requestId sessionUrl token expiresInSeconds
  | .teardownSession requestId, s => s.teardownSession requestId
  | .syncAccount requestId accountKey jmapAccountId, s => s.syncAccount requestId accountKey jmapAccountId
  | .sendEmail requestId _ jmapAccountId mutationId, s => s.sendEmail requestId jmapAccountId mutationId

end

/-! ## Completions -/

/-- A stale session is closed, and nobody is told. -/
def sessionOpened (requestId : String) (generation : Nat) (activeClient : JmapClient) (session : RemoteSession) (s : WorkerRuntime) :
    WorkerRuntime :=
  if generation ≠ s.sessionGeneration ∨ s.jmapClient ≠ some activeClient ∨ s.tokenManager.currentToken = none then
    s.act (.closed session)
  else
    let s := { s with remoteSession := some session, coordinator := some session, outbox := some session }
    (s.postStatus .authenticated).post (.sessionReady requestId session.primaryAccounts)

def openingFailed (requestId : String) (generation : Nat) (error : JsError) (s : WorkerRuntime) : WorkerRuntime :=
  if generation ≠ s.sessionGeneration then s
  else
    let s := { s with tokenManager := s.tokenManager.clearToken }
    (s.resetToAnonymous.postStatus .error).post (.sessionError requestId (safeRemoteError error))

def outcomeKind : SendMutationOutcome → String
  | .sent => "sent"
  | .needsReconciliation => "needsReconciliation"
  | .skipped _ => "skipped"

def complete : (operation : Operation) → Except JsError operation.Value → WorkerRuntime → WorkerRuntime
  | .opening requestId generation client, .ok accounts, s => s.sessionOpened requestId generation client ⟨requestId, accounts⟩
  | .opening requestId generation _, .error error, s => s.openingFailed requestId generation error
  | .sync requestId accountKey _ _, .ok _, s => s.post (.syncSuccess requestId accountKey)
  | .sync requestId accountKey client _, .error error, s =>
    (s.invalidateOnAuthError error client).post (.syncError requestId accountKey (safeRemoteError error))
  | .send requestId mutationId _ _, .ok outcome, s => s.post (.sendSuccess requestId mutationId (outcomeKind outcome))
  | .send requestId mutationId client _, .error error, s =>
    (s.invalidateOnAuthError error client).post (.sendError requestId mutationId (safeRemoteError error))

/-! ## Turns -/

inductive Input
  | message (m : MainToWorkerMessage)
  | expiry
  | completion (operation : Operation) (result : Except JsError operation.Value)

def turn (createJmapClient : Nat → String → String → JmapClient) (s : WorkerRuntime) : Input → Option WorkerRuntime
  | .message m => some ({ s with acts := [] }.handleMessage createJmapClient m)
  | .expiry => if s.tokenManager.expirationTimer then some { s with acts := [] }.invalidate else none
  | .completion operation result =>
    if operation ∈ s.outstanding then
      some ({ s with acts := [], outstanding := s.outstanding.erase operation }.complete operation result)
    else none

end WorkerRuntime

end Boxplot.Worker
