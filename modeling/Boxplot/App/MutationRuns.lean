import Boxplot.App.MutationStatus
import Boxplot.Lib.Tickets
import Boxplot.Lib.Turns
import Boxplot.Outbox.MutationRunner
/-!
# Runs of a mutation and the status refreshes around them

`performMutationRun` and `refreshMutationStatuses` of `src/app/application.ts`,
from await to await, for one account and one mutation. A turn begins a call,
has the repository read, or goes on after an await; other calls of
`refreshMutationStatuses`, and writes to the repository, come at any time.
-/

namespace Boxplot.App

open Domain Lib Outbox

/-! ## Views of mutations -/

def statusKind (m : PendingMutation) : MutationStatusKind :=
  match m.payload with
  | .send _ => .send
  | .keyword _ _ => .keyword
  | .mailboxMembership _ _ => .mailboxMembership

/-- The email of an update; a send has none. -/
def mutationEmailId (m : PendingMutation) : Option ScopedEmailId :=
  match m.payload with
  | .send _ => none
  | .keyword emailId _ => some emailId
  | .mailboxMembership emailId _ => some emailId

def statusLifecycle : Lifecycle → MutationStatusLifecycle
  | .pending _ => .pending
  | .inFlight _ => .inFlight
  | .retrying _ _ => .retrying
  | .confirmed _ _ => .confirmed
  | .failedTerminal _ => .failedTerminal

def mutationStatusView (value : PendingMutation) : MutationStatusView where
  accountKey := value.accountKey
  mutationId := value.mutationId
  kind := statusKind value
  emailId := mutationEmailId value
  lifecycle := statusLifecycle value.lifecycle
  attemptCount := value.lifecycle.attemptCount
  securityMode :=
    match value.payload with
    | .send intent => some intent.securityMode
    | _ => none
  needsReconciliation := false

/-! ## The state -/

/-- What the repository lists of the account. -/
abbrev Listing := OwnedSnapshotRead (List PendingMutation)

/-- The calls of `refreshMutationStatuses`: the one the run waits for, and the others. -/
inductive Caller
  | run
  | other (n : Nat)
  deriving DecidableEq, Repr

/-- A call of `refreshMutationStatuses`; its number is its generation. -/
abbrev Refresh := Ticketed (Except LocalReadError Listing) (List PendingMutation)

/-- Where `performMutationRun` stands. -/
inductive RunState
  | notStarted
  /-- Waits for the first refresh. -/
  | before
  /-- Waits for the runner. -/
  | running (known : Option PendingMutation)
  /-- Waits for the second refresh. -/
  | settling (known : Option PendingMutation) (outcome : MutationExecutionOutcome)
  /-- Waits for the refresh after the runner has thrown. -/
  | failing
  | finished (outcome : Option MutationExecutionOutcome)
  deriving DecidableEq

def RunState.isRunning : RunState → Bool
  | .running _ => true
  | _ => false

structure Controller where
  disposed : Bool
  /-- `context.mutationRunner` is there. -/
  mutationRunner : Bool
  mutationStatusGenerations : OrderedMap String Nat
  mutationStatusStore : MutationStatusState
  repository : Listing
  refreshes : Caller → Option Refresh
  run : RunState

/-- A controller that has refreshed nothing. -/
def Controller.initial (mutationRunner : Bool) (store : MutationStatusState) (repository : Listing) : Controller where
  disposed := false
  mutationRunner
  mutationStatusGenerations := .empty
  mutationStatusStore := store
  repository
  refreshes := fun _ => none
  run := .notStarted

/-- The mutations read; an account that is not there has none. -/
def mutationsOf : Listing → List PendingMutation
  | .ownerAbsent => []
  | .present value => value

variable (accountKey : AccountKey) (mutationId : MutationId)

def findMutation (values : List PendingMutation) : Option PendingMutation := values.find? fun value => value.mutationId = mutationId

namespace Controller

/-- The repository's record of the mutation. -/
def stored (s : Controller) : Option PendingMutation := findMutation mutationId (mutationsOf s.repository)

/-! ## Refreshing -/

def generation (s : Controller) : Nat := (s.mutationStatusGenerations.get? accountKey).getD 0

/-- `refreshMutationStatuses` up to its await. -/
def beginRefresh (s : Controller) (c : Caller) : Controller :=
  let generation := s.generation accountKey + 1
  { s with
    mutationStatusGenerations := s.mutationStatusGenerations.set accountKey generation
    refreshes := Function.update s.refreshes c (some (.waiting generation)) }

/-- `refreshMutationStatuses` after its await. -/
def resumeRefresh (s : Controller) (generation : Nat) (result : Except LocalReadError Listing) :
    MutationStatusState × Option (List PendingMutation) :=
  if s.disposed ∨ s.mutationStatusGenerations.get? accountKey ≠ some generation then (s.mutationStatusStore, none)
  else
    match result with
    | .error _ => (s.mutationStatusStore, none)
    | .ok .ownerAbsent => (s.mutationStatusStore.clearAccount accountKey, some [])
    | .ok (.present value) => (s.mutationStatusStore.setStatuses accountKey (value.map mutationStatusView), some value)

/-! ## The run -/

/-- What `performMutationRun` does once both refreshes are back. -/
def confirm (s : Controller) (known : Option PendingMutation) (outcome : MutationExecutionOutcome)
    (after : Option (List PendingMutation)) : MutationStatusState :=
  match outcome, known, after with
  | .confirmed, some known, some after =>
    if (after.any fun value => value.mutationId = mutationId) = true then s.mutationStatusStore
    else s.mutationStatusStore.markConfirmed accountKey mutationId (statusKind known) (mutationEmailId known)
  | _, _, _ => s.mutationStatusStore

/-- `performMutationRun` after a refresh has come back with `report`. -/
def proceed (s : Controller) (report : Option (List PendingMutation)) : Option Controller :=
  let s := { s with refreshes := Function.update s.refreshes .run none }
  match s.run with
  | .before =>
    let known := report.bind (findMutation mutationId)
    some { s with run := if !s.mutationRunner || s.disposed then .finished none else .running known }
  | .settling known outcome =>
    some { s with
      mutationStatusStore := s.confirm accountKey mutationId known outcome report
      run := .finished (some outcome) }
  | .failing => some { s with run := .finished none }
  | _ => none

/-- `performMutationRun` after the runner's answer. -/
def settle (s : Controller) (known : Option PendingMutation) (outcome : MutationExecutionOutcome) : Controller :=
  if s.disposed then { s with run := .finished (some outcome) }
  else
    let store :=
      if outcome = .needsReconciliation then s.mutationStatusStore.markNeedsReconciliation accountKey mutationId
      else s.mutationStatusStore
    { s.beginRefresh accountKey .run with mutationStatusStore := store, run := .settling known outcome }

end Controller

/-! ## Turns -/

inductive RunInput
  /-- Another call of `refreshMutationStatuses`. -/
  | refresh (n : Nat)
  /-- The repository answers a call. -/
  | read (c : Caller)
  | readFails (c : Caller) (error : LocalReadError)
  /-- A call goes on after its answer. -/
  | resume (c : Caller)
  | start
  /-- The run goes on after its refresh. -/
  | proceed
  | outcome (outcome : MutationExecutionOutcome)
  | throws
  /-- Something is written to the repository. -/
  | write (next : Listing)
  | dispose

open Controller in
def runTurn (s : Controller) : RunInput → Option Controller
  | .refresh n => if (s.refreshes (.other n)).isNone then some (s.beginRefresh accountKey (.other n)) else none
  | .read c =>
    match s.refreshes c with
    | some (.waiting generation) =>
      some { s with refreshes := Function.update s.refreshes c (some (.answered generation (.ok s.repository))) }
    | _ => none
  | .readFails c error =>
    match s.refreshes c with
    | some (.waiting generation) =>
      some { s with refreshes := Function.update s.refreshes c (some (.answered generation (.error error))) }
    | _ => none
  | .resume c =>
    match s.refreshes c with
    | some (.answered generation result) =>
      let (store, report) := s.resumeRefresh accountKey generation result
      some { s with mutationStatusStore := store, refreshes := Function.update s.refreshes c (some (.done report)) }
    | _ => none
  | .start =>
    match s.run with
    | .notStarted => some { s.beginRefresh accountKey .run with run := .before }
    | _ => none
  | .proceed =>
    match s.refreshes .run with
    | some (.done report) => s.proceed accountKey mutationId report
    | _ => none
  | .outcome outcome =>
    match s.run with
    | .running known => some (s.settle accountKey mutationId known outcome)
    | _ => none
  | .throws =>
    match s.run with
    | .running _ => some { s.beginRefresh accountKey .run with run := .failing }
    | _ => none
  | .write next => some { s with repository := next }
  | .dispose => some { s with disposed := true, mutationStatusStore := .empty }

end Boxplot.App
