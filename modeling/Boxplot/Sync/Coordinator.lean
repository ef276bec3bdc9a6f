import Boxplot.Outbox.Calls
/-!
# The coordinator

`Coordinator` of `src/sync/coordinator.ts`, and the refresh of
`src/app/remote/remote-application.ts` that the runner calls.
-/

namespace Boxplot.Sync

open Domain Remote Lib Outbox

/-! ## Commits -/

/-- A local error, with the `Error` message of its kind. -/
def mappedOr {α : Type} (message : String) : Option α → Except JsError α
  | some value => .ok value
  | none => .error (.error message)

/-- What the three commits share: a delta needs the cursor it is relative to. -/
def commitOf {T U Id Id' : Type} (message : String) (map : T → Except JsError U) (localId : Id → Checked Id')
    (transition : RemoteCollectionSync T Id) (expectedCursor : CollectionCursorPrecondition) :
    Except JsError (CollectionChange U Id') :=
  match transition, expectedCursor with
  | .replace _ snapshot, expected => do
    let snapshot ← snapshot.mapM map
    .ok (.replace expected snapshot)
  | .delta _ changed destroyed, .matches cursor => do
    let changed ← changed.mapM map
    let destroyed ← (destroyed.mapM localId).mapError .typeError
    .ok (.delta cursor changed destroyed)
  | .delta _ _ _, .absent => .error (.error message)

def identityCommit (accountKey : AccountKey) (transition : RemoteCollectionSync RemoteIdentity String)
    (expectedCursor : CollectionCursorPrecondition) : Except JsError CollectionSyncCommit := do
  let change ← commitOf "Identity delta requires a previous cursor"
    (fun value => mappedOr ("Remote Identity " ++ value.id ++ " failed Domain validation") (toDomainIdentity accountKey value))
    (localIdentityId accountKey) transition expectedCursor
  .ok (.identity ⟨accountKey, .identity, transition.state⟩ change)

/-- A mailbox that is refused is left out. -/
def mailboxCommit (accountKey : AccountKey) (transition : RemoteCollectionSync RemoteMailbox String)
    (expectedCursor : CollectionCursorPrecondition) : Except JsError CollectionSyncCommit := do
  let accepted (values : List RemoteMailbox) := values.filter fun value => (toDomainMailbox accountKey value).isSome
  let transition : RemoteCollectionSync RemoteMailbox String := match transition with
    | .replace state snapshot => .replace state (accepted snapshot)
    | .delta state changed destroyed => .delta state (accepted changed) destroyed
  let change ← commitOf "Mailbox delta requires a previous cursor"
    (fun value => mappedOr "" (toDomainMailbox accountKey value)) (localMailboxId accountKey) transition expectedCursor
  .ok (.mailbox ⟨accountKey, .mailbox, transition.state⟩ change)

def emailCommit (accountKey : AccountKey) (transition : RemoteCollectionSync RemoteEmail String)
    (expectedCursor : CollectionCursorPrecondition) : Except JsError CollectionSyncCommit := do
  let change ← commitOf "Email delta requires a previous cursor"
    (fun value => mappedOr ("Remote Email " ++ value.id ++ " failed Domain validation") (toDomainEmailRecord accountKey value))
    (localEmailId accountKey) transition expectedCursor
  .ok (.email ⟨accountKey, .email, transition.state⟩ change)

/-! ## One collection -/

def dataTypeName : CollectionDataType → String
  | .email => "email"
  | .mailbox => "mailbox"
  | .identity => "identity"

/-- `none` for a cursor that is absent. -/
def readCursorOutcome (accountKey : AccountKey) (dataType : CollectionDataType) : Promise (Option CollectionSyncCursor) := do
  let result ← received (← ask (.sync (.readCollectionSyncCursor accountKey dataType)))
  match result with
  | .error e => throw (.error ("readCollectionSyncCursor(" ++ dataTypeName dataType ++ ") failed: " ++ e.kind))
  | .ok .ownerAbsent => throw (.error ("Account " ++ accountKey ++ " is not registered locally"))
  | .ok .absent => pure none
  | .ok (.present cursor) => pure (some cursor)

def precondition : Option CollectionSyncCursor → CollectionCursorPrecondition
  | none => .absent
  | some cursor => .matches cursor

/-- `attempts` that are left. `build` asks the remote side for what came after the cursor. -/
def syncCollection (accountKey : AccountKey) (dataType : CollectionDataType)
    (build : Option String → Promise (CollectionCursorPrecondition → Except JsError CollectionSyncCommit)) : Nat → Promise Unit
  | 0 => throw (.error ("applyCollectionSync(" ++ dataTypeName dataType ++ "): conflict persisted after retry"))
  | attempts + 1 => do
    let outcome ← readCursorOutcome accountKey dataType
    let createCommit ← build (outcome.map (·.state))
    let commit ← settled (createCommit (precondition outcome))
    let result ← received (← ask (.sync (.applyCollectionSync commit)))
    match result with
    | .ok _ => pure ()
    | .error .conflict => syncCollection accountKey dataType build attempts
    | .error e => throw (.error ("applyCollectionSync(" ++ dataTypeName dataType ++ ") failed: " ++ e.kind))

def syncAttempts : Nat := 2

def syncIdentities (accountKey : AccountKey) (remoteAccountId : String) : Promise Unit :=
  syncCollection accountKey .identity (fun previous => do
    let transition ← settled (← ask (.sync (.syncIdentities remoteAccountId previous)))
    pure (identityCommit accountKey transition)) syncAttempts

def syncMailboxes (accountKey : AccountKey) (remoteAccountId : String) : Promise Unit :=
  syncCollection accountKey .mailbox (fun previous => do
    let transition ← settled (← ask (.sync (.syncMailboxes remoteAccountId previous)))
    pure (mailboxCommit accountKey transition)) syncAttempts

def syncEmails (accountKey : AccountKey) (remoteAccountId : String) : Promise Unit :=
  syncCollection accountKey .email (fun previous => do
    let transition ← settled (← ask (.sync (.syncEmails remoteAccountId previous)))
    pure (emailCommit accountKey transition)) syncAttempts

/-! ## One account -/

def syncViews (accountKey : AccountKey) (remoteAccountId : String) : List Mailbox → Promise Unit
  | [] => pure ()
  | mailbox :: rest => do
    settled (← ask (.sync (.syncQueryView accountKey remoteAccountId mailbox.id)))
    syncViews accountKey remoteAccountId rest

def syncAccount (accountKey : AccountKey) (remoteAccountId : String) : Promise Unit := do
  syncIdentities accountKey remoteAccountId
  syncMailboxes accountKey remoteAccountId
  syncEmails accountKey remoteAccountId
  let mailboxes ← received (← ask (.sync (.listMailboxes accountKey)))
  match mailboxes with
  | .error e => throw (.error ("listMailboxes failed: " ++ e.kind))
  | .ok .ownerAbsent => throw (.error ("Account " ++ accountKey ++ " is not registered locally"))
  | .ok (.present mailboxes) => syncViews accountKey remoteAccountId mailboxes

/-- What the refresh makes of an error. A `RemoteApplicationError` is an error with its kind. -/
def refreshFailed (accountKey : AccountKey) (error : JsError) : Promise Unit := do
  let current ← ask (.sync (.isCurrent accountKey))
  if current then
    match error with
    | .remote _ => throw (.error "remote")
    | _ => throw (.error "local")
  else throw (.error "cancelled")

/-- `DefaultRemoteApplication.refreshAccount`: it resolves only if the account was synchronised by a session
that is still the current one. -/
def refreshAccount (accountKey : AccountKey) : Promise Unit := do
  let active ← ask (.sync (.session accountKey))
  match active with
  | none => throw (.error "notConnected")
  | some remoteAccountId =>
    tryCatch (do
      syncAccount accountKey remoteAccountId
      let current ← ask (.sync (.isCurrent accountKey))
      if current then pure () else throw (.error "cancelled"))
      (refreshFailed accountKey)

end Boxplot.Sync
