import Boxplot.Outbox.MutationRunner
/-!
# The send outbox

`Outbox.processSendMutation` of `src/sync/outbox.ts`, await by await: the older
runner of sends, over one `Submission` capability instead of the account's
mutation source.
-/

namespace Boxplot.Outbox

open Domain Remote Lib

inductive SendSkipReason
  | notFound | notDue | alreadyInFlight | terminal | claimConflict
  deriving DecidableEq, Repr

inductive SendMutationOutcome
  | sent
  | needsReconciliation
  | skipped (reason : SendSkipReason)
  deriving DecidableEq, Repr

inductive MutationLookup
  | found (mutation : PendingMutation)
  | notFound | notDue | alreadyInFlight | terminal
  deriving DecidableEq, Repr

def submissionMessageFromSendIntent (remoteAccountId : String) (intent : SendIntent) : Checked SubmissionMessage :=
  if intent.securityMode ≠ .plain then
    .error "Encrypted SendIntent cannot use the plaintext submission converter"
  else do
    let draft ← submissionDraft intent (.plain intent.body.text intent.body.html)
    .ok { draft with remoteAccountId }

def isAmbiguousSubmissionFailure : JsError → Bool
  | .remote e => e.retry = .reconcile ∨ e.outcome = .unknown
  | _ => true

def isRetryableRemoteFailure : JsError → Bool
  | .remote e => e.retry = .safeImmediate ∨ e.retry = .safeBackoff
  | _ => false

def readCurrentSendMutation (accountKey : AccountKey) (mutationId : MutationId) : Promise MutationLookup := do
  let result ← received (← ask (.readPendingMutation accountKey mutationId))
  match result with
  | .error e => throw (.error ("readPendingMutation failed: " ++ e.kind))
  | .ok .ownerAbsent => throw (.error ("Account " ++ accountKey ++ " is not registered locally"))
  | .ok .absent => pure .notFound
  | .ok (.present m) =>
    if m.isSend then
      match m.lifecycle with
      | .pending _ => pure (.found m)
      | .retrying _ nextAttemptAt => do
        let now ← ask .now
        pure (if nextAttemptAt ≤ now then .found m else .notDue)
      | .inFlight _ => pure .alreadyInFlight
      | .confirmed _ _ => pure .terminal
      | .failedTerminal _ => pure .terminal
    else throw (.error ("Mutation " ++ mutationId ++ " is not a SendMutation (kind: " ++ m.kind ++ ")"))

/-- The lifecycle a failed submission that is known not to have been applied moves to. -/
def knownFailure (inFlight : PendingMutation) (error : JsError) : Promise PendingMutation :=
  if isRetryableRemoteFailure error then do
    let now ← ask .now
    checked (scheduleMutationRetry inFlight now)
  else checked (failMutationTerminal inFlight)

def recordKnownFailure (inFlight next : PendingMutation) : Promise Unit := do
  let result ← received (← ask (.replacePendingMutationIfCurrent inFlight next))
  match result with
  | .error e => throw (.error ("replacePendingMutationIfCurrent(" ++ next.lifecycle.status ++ ") failed: " ++ e.kind))
  | .ok _ => pure ()

def settleKnownFailure (inFlight : PendingMutation) (error : JsError) : Promise Unit := do
  let next ← knownFailure inFlight error
  recordKnownFailure inFlight next

/-- After `submit` resolved. -/
def confirmSent (accountKey : AccountKey) (mutationId : MutationId) (inFlight : PendingMutation)
    (result : SubmissionResult) : Promise SendMutationOutcome :=
  match result.remoteEmailId with
  | none => pure .needsReconciliation
  | some id => do
    let emailId ← checked (localEmailId accountKey id)
    let confirmed ← checked (confirmSendMutation inFlight ⟨emailId⟩)
    let replaced ← received (← ask (.replacePendingMutationIfCurrent inFlight confirmed))
    match replaced with
    | .error e => throw (.error ("replacePendingMutationIfCurrent(confirmed) failed: " ++ e.kind))
    | .ok _ => do
      let removed ← received (← ask (.removeConfirmedMutation accountKey mutationId))
      match removed with
      | .error e => throw (.error ("removeConfirmedMutation failed: " ++ e.kind))
      | .ok _ => pure .sent

/-- From the claimed attempt on. The converter may throw before anything is submitted. -/
def submitClaimed (accountKey : AccountKey) (remoteAccountId : String) (mutationId : MutationId)
    (inFlight : PendingMutation) (intent : SendIntent) : Promise SendMutationOutcome := do
  let message ← checked (submissionMessageFromSendIntent remoteAccountId intent)
  ask (.submit inFlight (.direct message inFlight.mutationId))
  let result ← ask (.submitSettled inFlight)
  match result with
  | .ok value => confirmSent accountKey mutationId inFlight value
  | .error e =>
    if isAmbiguousSubmissionFailure e then pure .needsReconciliation
    else do
      settleKnownFailure inFlight e
      throw e

def claimAndSubmit (accountKey : AccountKey) (remoteAccountId : String) (mutationId : MutationId)
    (expected : PendingMutation) : Promise SendMutationOutcome := do
  let inFlight ← checked (startMutationAttempt expected)
  let claimed ← received (← ask (.replacePendingMutationIfCurrent expected inFlight))
  match claimed with
  | .error .conflict => pure (.skipped .claimConflict)
  | .error e => throw (.error ("replacePendingMutationIfCurrent(inFlight) failed: " ++ e.kind))
  | .ok _ =>
    match inFlight.payload with
    | .send intent => submitClaimed accountKey remoteAccountId mutationId inFlight intent
    | _ => throw (.typeError "not a SendMutation")

def processSendMutation (accountKey : AccountKey) (remoteAccountId : String) (mutationId : MutationId) :
    Promise SendMutationOutcome := do
  let lookup ← readCurrentSendMutation accountKey mutationId
  match lookup with
  | .found expected => claimAndSubmit accountKey remoteAccountId mutationId expected
  | .notFound => pure (.skipped .notFound)
  | .notDue => pure (.skipped .notDue)
  | .alreadyInFlight => pure (.skipped .alreadyInFlight)
  | .terminal => pure (.skipped .terminal)

end Boxplot.Outbox
