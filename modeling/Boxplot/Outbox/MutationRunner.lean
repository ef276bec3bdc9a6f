import Boxplot.Outbox.Calls
import Boxplot.Remote.Collections
/-!
# The mutation runner

`DefaultMutationRunner` of `src/outbox/mutation-runner.ts`, await by await.
-/

namespace Boxplot.Outbox

open Domain Remote Lib

inductive MutationSkipReason
  | notFound | notDue | terminal | claimConflict | notConnected
  deriving DecidableEq, Repr

inductive MutationExecutionOutcome
  | confirmed
  | retrying
  | failedTerminal
  | needsReconciliation
  | skipped (reason : MutationSkipReason)
  deriving DecidableEq, Repr

/-- `refreshAccount` and `remoteMutationReconciler` are optional; `shiftInstant` is the
`Date` arithmetic of the retry policy (`none`: the clock is no ISO instant). -/
structure MutationRunnerDependencies where
  refreshAccount : Option (AccountKey → Promise Unit)
  hasReconciler : Bool
  shiftInstant : MutationInstant → Nat → Option MutationInstant

inductive PreparedSend
  | ready (message : RemoteSubmissionDraft)
  | e2eeFailure (error : E2eeErrorKind)
  deriving DecidableEq, Repr

/-! ## Small pieces -/

def retryDelaysMs : List Nat := [5000, 15000, 60000, 300000]

def nextRetryInstant (deps : MutationRunnerDependencies) (attemptCount : Nat) (now : MutationInstant) :
    Checked MutationInstant :=
  let index := min (max attemptCount 1 - 1) (retryDelaysMs.length - 1)
  match deps.shiftInstant now (retryDelaysMs.getD index 0) with
  | none => .error "Mutation retry clock must be an ISO-compatible instant"
  | some instant => .ok instant

def submissionDraft (intent : SendIntent) (body : SubmissionBody) : Checked RemoteSubmissionDraft := do
  let identity ← remoteIdentityId intent.identityId
  .ok { remoteIdentityId := some identity, «from» := intent.from, «to» := intent.to, cc := intent.cc,
        bcc := intent.bcc, replyTo := intent.replyTo, subject := intent.subject, body }

/-- The one-recipient subset of E2EE V1; any other intent fails before the port is called. -/
def encryptSendIntent (intent : SendIntent) : Promise (Except E2eeErrorKind BoxplotE2eeEnvelope) :=
  match intent.to, intent.cc, intent.bcc with
  | [recipient], [], [] => do
    let reply ← ask (.encryptFor
      { localIdentity := intent.from.email, recipientIdentity := recipient.email, subject := intent.subject,
        text := intent.body.text, html := intent.body.html })
    match reply with
    | .ok envelope => pure (.ok envelope)
    | .failed e => pure (.error e)
    | .rejected => throw (.error "encryptFor rejected")
  | _, _, _ => pure (.error .multipleRecipientsUnsupported)

/-- What `prepareSend` makes of the encryption. -/
def prepareEncrypted (intent : SendIntent) : Except E2eeErrorKind BoxplotE2eeEnvelope → Promise PreparedSend
  | .error e => pure (.e2eeFailure e)
  | .ok envelope => do
    let message ← checked (submissionDraft intent (.boxplotE2ee (serializeBoxplotE2eeEnvelope envelope)))
    pure (.ready message)

def prepareSend (intent : SendIntent) : Promise PreparedSend := do
  match intent.securityMode with
  | .plain => do
    let message ← checked (submissionDraft intent (.plain intent.body.text intent.body.html))
    pure (.ready message)
  | .boxplotE2eeV1 => do
    let encrypted ← encryptSendIntent intent
    prepareEncrypted intent encrypted

/-! ## Recording an outcome -/

def replace (expected next : PendingMutation) : Promise Bool := do
  let result ← received (← ask (.replacePendingMutationIfCurrent expected next))
  match result with
  | .ok _ => pure true
  | .error .conflict => pure false
  | .error e => throw (.error ("mutation settlement failed: " ++ e.kind))

def removeConfirmed (m : PendingMutation) : Promise Unit := do
  let result ← received (← ask (.removeConfirmedMutation m.accountKey m.mutationId))
  match result with
  | .ok _ => pure ()
  | .error .conflict => pure ()
  | .error e => throw (.error ("removeConfirmedMutation failed: " ++ e.kind))

def confirmAndRemove (expected confirmed : PendingMutation) : Promise Bool := do
  let replaced ← replace expected confirmed
  if replaced then do
    removeConfirmed confirmed
    pure true
  else pure false

def settleRetry (deps : MutationRunnerDependencies) (m : PendingMutation) : Promise MutationExecutionOutcome := do
  let now ← ask .now
  let instant ← checked (nextRetryInstant deps m.attemptCount now)
  let next ← checked (scheduleMutationRetry m instant)
  let replaced ← replace m next
  pure (if replaced then .retrying else .needsReconciliation)

def settleTerminal (m : PendingMutation) : Promise MutationExecutionOutcome := do
  let next ← checked (failMutationTerminal m)
  let replaced ← replace m next
  pure (if replaced then .failedTerminal else .needsReconciliation)

def settleE2eeFailure (deps : MutationRunnerDependencies) (m : PendingMutation) (error : E2eeErrorKind) :
    Promise MutationExecutionOutcome :=
  match error with
  | .unavailable => settleRetry deps m
  | _ => settleTerminal m

/-- What `settleRemoteFailure` makes of an error. -/
inductive Verdict
  | retry | reconcile | terminal
  deriving DecidableEq, Repr

def remoteFailureVerdict : JsError → Verdict
  | .remoteMutationSource .notConnected => .retry
  | .remoteMutationSource (.remote remote) =>
    if remote.outcome = .unknown ∨ remote.retry = .reconcile then .reconcile
    else if remote.outcome = .knownNotApplied ∧ (remote.retry = .safeImmediate ∨ remote.retry = .safeBackoff) then .retry
    else .terminal
  | _ => .reconcile

def settleRemoteFailure (deps : MutationRunnerDependencies) (m : PendingMutation) (error : JsError) :
    Promise MutationExecutionOutcome :=
  match remoteFailureVerdict error with
  | .retry => settleRetry deps m
  | .reconcile => pure .needsReconciliation
  | .terminal => settleTerminal m

/-- Confirms an update or a send whose remote effect is known. -/
def settleConfirmed (m confirmed : PendingMutation) : Promise MutationExecutionOutcome := do
  let removed ← confirmAndRemove m confirmed
  pure (if removed then .confirmed else .needsReconciliation)

/-! ## Executing an attempt -/

def executeSend (deps : MutationRunnerDependencies) (m : PendingMutation) (message : RemoteSubmissionDraft) :
    Promise MutationExecutionOutcome :=
  tryCatch (do
    ask (.submit m (.source m.accountKey message m.mutationId))
    let result ← settled (← ask (.submitSettled m))
    match result.remoteEmailId with
    | none => pure .needsReconciliation
    | some id => do
      let emailId ← checked (localEmailId m.accountKey id)
      let confirmed ← checked (confirmSendMutation m ⟨emailId⟩)
      settleConfirmed m confirmed)
    (settleRemoteFailure deps m)

def executeKeyword (deps : MutationRunnerDependencies) (m : PendingMutation) (emailId : ScopedEmailId)
    (change : KeywordChange) : Promise MutationExecutionOutcome :=
  tryCatch (do
    let id ← checked (remoteEmailId emailId)
    ask (.applyKeywordChange m.accountKey id change.add change.remove)
    settled (← ask .keywordChangeSettled)
    let confirmed ← checked (confirmEmailUpdateMutation m)
    settleConfirmed m confirmed)
    (settleRemoteFailure deps m)

def executeMembership (deps : MutationRunnerDependencies) (m : PendingMutation) (emailId : ScopedEmailId)
    (change : MailboxMembershipChange) : Promise MutationExecutionOutcome :=
  tryCatch (do
    let id ← checked (remoteEmailId emailId)
    let add ← checked (change.add.mapM remoteMailboxId)
    let remove ← checked (change.remove.mapM remoteMailboxId)
    ask (.applyMembershipChange m.accountKey id add remove)
    settled (← ask .membershipChangeSettled)
    let confirmed ← checked (confirmEmailUpdateMutation m)
    settleConfirmed m confirmed)
    (settleRemoteFailure deps m)

/-! ## Reconciling an attempt found in flight -/

def reconcileSend (deps : MutationRunnerDependencies) (m : PendingMutation) : Promise MutationExecutionOutcome :=
  if deps.hasReconciler then
    tryCatch (do
      let evidence ← settled (← ask (.reconcileSend m.accountKey m.mutationId))
      match evidence with
      | .inconclusive => pure .needsReconciliation
      | .applied id => do
        let emailId ← checked (localEmailId m.accountKey id)
        let confirmed ← checked (confirmSendMutation m ⟨emailId⟩)
        settleConfirmed m confirmed)
      (fun _ => pure .needsReconciliation)
  else pure .needsReconciliation

def reconcileMembership (deps : MutationRunnerDependencies) (m : PendingMutation) (emailId : ScopedEmailId)
    (change : MailboxMembershipChange) : Promise MutationExecutionOutcome :=
  if deps.hasReconciler then
    tryCatch (do
      let id ← checked (remoteEmailId emailId)
      let add ← checked (change.add.mapM remoteMailboxId)
      let remove ← checked (change.remove.mapM remoteMailboxId)
      let evidence ← settled (← ask (.reconcileMembership m.accountKey m.mutationId id add remove))
      match evidence with
      | .inconclusive => pure .needsReconciliation
      | .applied _ => do
        let confirmed ← checked (confirmEmailUpdateMutation m)
        settleConfirmed m confirmed)
      (fun _ => pure .needsReconciliation)
  else pure .needsReconciliation

/-- The local row carries every keyword of `add` and none of `remove`. -/
def keywordsApplied (change : KeywordChange) (keywords : List String) : Bool :=
  change.add.all (fun value => keywords.contains value) && change.remove.all (fun value => !keywords.contains value)

/-- What `reconcile` makes of the row it reads after the refresh. The two promises that are returned without being
awaited settle outside the `try`. -/
def decideKeyword (deps : MutationRunnerDependencies) (m : PendingMutation) (change : KeywordChange) :
    LocalEntityRead Email → Promise (Promise MutationExecutionOutcome)
  | .absent => pure (settleTerminal m)
  | .present email =>
    if keywordsApplied change email.keywords then do
      let confirmed ← checked (confirmEmailUpdateMutation m)
      let outcome ← settleConfirmed m confirmed
      pure (pure outcome)
    else pure (settleRetry deps m)

def reconcileKeyword (deps : MutationRunnerDependencies) (m : PendingMutation) (emailId : ScopedEmailId)
    (change : KeywordChange) : Promise MutationExecutionOutcome :=
  match deps.refreshAccount with
  | none => pure .needsReconciliation
  | some refreshAccount => do
    let connected ← ask (.isConnected m.accountKey)
    if connected then
      let settlement ← tryCatch (do
        refreshAccount m.accountKey
        let current ← received (← ask (.readEmail emailId))
        match current with
        | .error _ => pure (pure .needsReconciliation)
        | .ok row => decideKeyword deps m change row)
        (fun _ => pure (pure .needsReconciliation))
      settlement
    else pure .needsReconciliation

def reconcile (deps : MutationRunnerDependencies) (m : PendingMutation) : Promise MutationExecutionOutcome :=
  match m.payload with
  | .send _ => reconcileSend deps m
  | .mailboxMembership emailId change => reconcileMembership deps m emailId change
  | .keyword emailId change => reconcileKeyword deps m emailId change

/-! ## One run -/

def readMutation (accountKey : AccountKey) (mutationId : MutationId) : Promise (Option PendingMutation) := do
  let result ← received (← ask (.readPendingMutation accountKey mutationId))
  match result with
  | .error e => throw (.error ("readPendingMutation failed: " ++ e.kind))
  | .ok (.present m) => pure (some m)
  | .ok _ => pure none

/-- `none` for a mutation that is no send. -/
def prepare (m : PendingMutation) : Promise (Option PreparedSend) :=
  match m.payload with
  | .send intent => do
    let prepared ← prepareSend intent
    pure (some prepared)
  | _ => pure none

def execute (deps : MutationRunnerDependencies) (inFlight : PendingMutation) (prepared : Option PreparedSend) :
    Promise MutationExecutionOutcome :=
  match inFlight.payload with
  | .send _ =>
    match prepared with
    | some (.e2eeFailure error) => settleE2eeFailure deps inFlight error
    | some (.ready message) => executeSend deps inFlight message
    | none => settleTerminal inFlight
  | .keyword emailId change => executeKeyword deps inFlight emailId change
  | .mailboxMembership emailId change => executeMembership deps inFlight emailId change

/-- From the connection check on: prepare, claim the attempt, execute it. -/
def claimAndExecute (deps : MutationRunnerDependencies) (accountKey : AccountKey) (current : PendingMutation) :
    Promise MutationExecutionOutcome := do
  let connected ← ask (.isConnected accountKey)
  if connected then do
    let prepared ← prepare current
    let inFlight ← checked (startMutationAttempt current)
    let claimed ← received (← ask (.replacePendingMutationIfCurrent current inFlight))
    match claimed with
    | .error .conflict => pure (.skipped .claimConflict)
    | .error e => throw (.error ("mutation claim failed: " ++ e.kind))
    | .ok _ => execute deps inFlight prepared
  else pure (.skipped .notConnected)

def runMutation (deps : MutationRunnerDependencies) (accountKey : AccountKey) (mutationId : MutationId) :
    Promise MutationExecutionOutcome := do
  let found ← readMutation accountKey mutationId
  match found with
  | none => pure (.skipped .notFound)
  | some current =>
    match current.lifecycle with
    | .confirmed _ _ => do
      removeConfirmed current
      pure .confirmed
    | .failedTerminal _ => pure (.skipped .terminal)
    | .inFlight _ => reconcile deps current
    | .retrying _ nextAttemptAt => do
      let now ← ask .now
      if now < nextAttemptAt then pure (.skipped .notDue)
      else claimAndExecute deps accountKey current
    | .pending _ => claimAndExecute deps accountKey current

structure MutationRunSummary where
  attempted : Nat
  confirmed : Nat
  retrying : Nat
  terminal : Nat
  reconciliation : Nat
  skipped : Nat
  deriving DecidableEq, Repr

def emptySummary : MutationRunSummary := ⟨0, 0, 0, 0, 0, 0⟩

def countOutcome (s : MutationRunSummary) : MutationExecutionOutcome → MutationRunSummary
  | .skipped _ => { s with skipped := s.skipped + 1 }
  | .confirmed => { s with attempted := s.attempted + 1, confirmed := s.confirmed + 1 }
  | .retrying => { s with attempted := s.attempted + 1, retrying := s.retrying + 1 }
  | .failedTerminal => { s with attempted := s.attempted + 1, terminal := s.terminal + 1 }
  | .needsReconciliation => { s with attempted := s.attempted + 1, reconciliation := s.reconciliation + 1 }

/-- The loop of `runAccount` over the listed mutations. -/
def runListed (deps : MutationRunnerDependencies) (accountKey : AccountKey) :
    List PendingMutation → MutationRunSummary → Promise MutationRunSummary
  | [], summary => pure summary
  | m :: rest, summary => do
    let outcome ← runMutation deps accountKey m.mutationId
    runListed deps accountKey rest (countOutcome summary outcome)

def runAccount (deps : MutationRunnerDependencies) (accountKey : AccountKey) : Promise MutationRunSummary := do
  let result ← received (← ask (.listPendingMutations accountKey))
  match result with
  | .error e => throw (.error ("listPendingMutations failed: " ++ e.kind))
  | .ok .ownerAbsent => pure emptySummary
  | .ok (.present mutations) => runListed deps accountKey mutations emptySummary

end Boxplot.Outbox
