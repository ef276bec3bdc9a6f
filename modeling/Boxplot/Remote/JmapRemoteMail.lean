import Boxplot.Jmap.Reads
import Boxplot.Remote.Collections
import Boxplot.Remote.Jmap
/-!
# Synchronising emails over JMAP

`JmapRemoteMail.syncEmails` of `src/remote/jmap/jmap-remote-mail.ts`: the whole
snapshot, from paged queries over the mailboxes and batched gets, and the delta
since a state, from paged changes. `validateRemoteCollectionSync` of
`src/remote/mail.ts` checks both. `queryMailbox` asks for one page of a mailbox.
-/

namespace Boxplot.Remote

open Domain Lib Jmap

/-! ## `validateRemoteCollectionSync` -/

/-- Adds the identities of the values to those seen. -/
def checkIdentities (identities : List String) : List String → Checked (List String)
  | [] => .ok identities
  | identity :: rest =>
    if identity ∈ identities then .error ("Remote collection contains duplicate ID " ++ identity)
    else checkIdentities (identities ++ [identity]) rest

def checkDestroyed (identities destroyed : List String) : List String → Checked Unit
  | [] => .ok ()
  | identity :: rest =>
    if identity ∈ destroyed then .error ("Remote collection contains duplicate destroyed ID " ++ identity)
    else if identity ∈ identities then .error ("Remote collection ID " ++ identity ++ " is both changed and destroyed")
    else checkDestroyed identities (destroyed ++ [identity]) rest

def validateRemoteCollectionSync {T : Type} (transition : RemoteCollectionSync T String) (identityOf : T → String) :
    Checked (RemoteCollectionSync T String) :=
  match transition with
  | .replace _ snapshot => do
    let _ ← checkIdentities [] (snapshot.map identityOf)
    .ok transition
  | .delta _ changed destroyed => do
    let identities ← checkIdentities [] (changed.map identityOf)
    checkDestroyed identities [] destroyed
    .ok transition

/-! ## `mapJmapEmail` -/

def mapJmapEmail (value : JmapEmail) : Checked RemoteEmail := do
  let id ← remoteIdFromString value.id "RemoteEmailId"
  let blobId ← remoteIdFromString value.blobId "RemoteBlobId"
  let threadId ← remoteIdFromString value.threadId "RemoteThreadId"
  let mailboxIds ← value.mailboxIds.mapM fun id => remoteIdFromString id "RemoteMailboxId"
  .ok { id, blobId, threadId, sender := value.sender, «from» := value.from, replyTo := value.replyTo, «to» := value.to,
        cc := value.cc, bcc := value.bcc, subject := value.subject, sentAt := value.sentAt,
        receivedAt := value.receivedAt, size := value.size, preview := value.preview,
        hasAttachment := value.hasAttachment, keywords := setKeys value.keywords, mailboxIds }

namespace JmapRemoteMail

def pageSize : Nat := 500
def maxPages : Nat := 10000
def maxDeltaPages : Nat := 20

/-- A synchronous step that throws a `TypeError`. -/
def checked {α : Type} (r : Checked α) : JamCall α := Async.lift (r.mapError .typeError)

/-! ## Batched gets -/

/-- `values` in slices of `size`, from the first on. There are at most `fuel` of them. -/
def slices {α : Type} (size : Nat) : Nat → List α → List (List α)
  | 0, _ => []
  | fuel + 1, values => if values = [] then [] else values.take size :: slices size fuel (values.drop size)

def chunks {α : Type} (values : List α) (size : Nat) : List (List α) := slices size values.length values

/-- Takes the emails of an answer off what is expected of it. -/
def takeExpected (expected : List String) : List JmapEmail → Except JsError (List String)
  | [] => .ok expected
  | email :: rest =>
    if email.id ∈ expected then takeExpected (expected.erase email.id) rest
    else .error (.error ("Email/get returned unexpected or duplicate " ++ email.id))

/-- An answer must be exactly what its batch asked for. -/
def checkBatch (batch : List String) (emails : List JmapEmail) : Except JsError Unit := do
  let expected ← takeExpected (batch.foldl setAdd []) emails
  if expected = [] then .ok () else .error (.error "Email/get omitted a requested Email")

/-- The batches that are left, with the state and the emails of those before. -/
def fetchBatches (accountId : String) (includeState : Bool) :
    Option String → List JmapEmail → List (List String) → JamCall (List JmapEmail × Option String)
  | state, emails, [] => pure (emails, state)
  | state, emails, batch :: rest => do
    let result ← getEmails accountId batch
    let first := state.getD result.state
    if includeState && result.state ≠ first then throw (.error "Email collection changed during replacement")
    else do
      Async.lift (checkBatch batch result.emails)
      fetchBatches accountId includeState (some first) (emails ++ result.emails) rest

/-- The emails, and the state they were read in. -/
def fetchExactEmails (accountId : String) (ids : List String) (includeState : Bool) : JamCall (List JmapEmail × String) := do
  let batches := if ids = [] then [[]] else chunks ids pageSize
  let (emails, state) ← fetchBatches accountId includeState none [] batches
  pure (emails, state.getD "")

/-! ## The whole snapshot -/

/-- The ids of a page, added to those of the mailbox and to all. -/
def addPage (mailboxId : String) : List String → List String → List String → Except JsError (List String × List String)
  | mailboxIds, ids, [] => .ok (mailboxIds, ids)
  | mailboxIds, ids, id :: rest =>
    if id ∈ mailboxIds then .error (.error ("Repeated Email " ++ id ++ " in Mailbox " ++ mailboxId))
    else addPage mailboxId (mailboxIds ++ [id]) (setAdd ids id) rest

def isSafeInteger (n : Int) : Bool := n.natAbs ≤ maxSafeInteger

def malformed (query : JmapQueryResult) (position : Int) : Bool :=
  !isSafeInteger query.total || query.total < 0 || query.position ≠ position || pageSize < query.ids.length

/-- The pages of a mailbox, of which there may be so many more: `total` and `queryState` are the first page's. -/
def queryPages (accountId mailboxId : String) :
    Nat → Int → Option Int → Option String → List String → List String → JamCall (List String)
  | 0, _, _, _, _, ids => pure ids
  | left + 1, position, total, queryState, mailboxIds, ids => do
    let query ← queryEmails accountId mailboxId ⟨some position, some pageSize, none, none⟩
    if malformed query position then throw (.error ("Malformed query page for Mailbox " ++ mailboxId))
    else
      let total := total.getD query.total
      let queryState := queryState.getD query.queryState
      if query.total ≠ total ∨ query.queryState ≠ queryState then
        throw (.error ("Mailbox " ++ mailboxId ++ " changed during replacement"))
      else do
        let (mailboxIds, ids) ← Async.lift (addPage mailboxId mailboxIds ids query.ids)
        let next := query.position + query.ids.length
        if query.total ≤ next then pure ids
        else if next ≤ position then throw (.error ("Query made no progress for Mailbox " ++ mailboxId))
        else if left = 0 then throw (.error "Mailbox replacement exceeded safety bound")
        else queryPages accountId mailboxId left next (some total) (some queryState) mailboxIds ids

def queryMailboxes (accountId : String) : List String → List JmapMailbox → JamCall (List String)
  | ids, [] => pure ids
  | ids, mailbox :: rest => do
    let ids ← queryPages accountId mailbox.id maxPages 0 none none [] ids
    queryMailboxes accountId ids rest

def completeEmailSnapshot (accountId : String) : JamCall (RemoteCollectionSync RemoteEmail String) :=
  tryCatch (do
    let result ← getMailboxes accountId
    let ids ← queryMailboxes accountId [] result.mailboxes
    let (emails, state) ← fetchExactEmails accountId ids true
    let snapshot ← checked (emails.mapM mapJmapEmail)
    checked (validateRemoteCollectionSync (.replace state snapshot) (·.id)))
    fun error => throw (notApplied error)

/-! ## The changes since a state -/

/-- What the pages so far have left to fetch, and what they destroyed. -/
structure Changes where
  changed : List String
  destroyed : List String
  deriving DecidableEq, Repr

/-- In one page, what is destroyed is destroyed last. -/
def Changes.addPage (c : Changes) (delta : JmapDelta) : Changes where
  changed := delta.destroyed.foldl (fun changed id => changed.filter (· ≠ id))
    ((delta.created ++ delta.updated).foldl setAdd c.changed)
  destroyed := delta.destroyed.foldl setAdd c.destroyed

/-- The delta after the last page. -/
def finishDelta (accountId state : String) (c : Changes) : JamCall (RemoteCollectionSync RemoteEmail String) := do
  let (fetched, _) ← fetchExactEmails accountId c.changed false
  let changed ← checked (fetched.mapM mapJmapEmail)
  let destroyed ← checked (c.destroyed.mapM fun id => remoteIdFromString id "RemoteEmailId")
  checked (validateRemoteCollectionSync (.delta state changed destroyed) (·.id))

def tooManyDeltaPages : JsError :=
  .remote ⟨"Remote email changes still has more changes after " ++ toString maxDeltaPages ++ " pages",
    .protocol, .safeBackoff, .keep, .knownNotApplied⟩

/-- The pages of changes, of which so many more are read. -/
def deltaPages (accountId : String) : Nat → String → Changes → JamCall (RemoteCollectionSync RemoteEmail String)
  | 0, _, _ => throw tooManyDeltaPages
  | left + 1, state, c => do
    let delta ← getEmailChanges accountId state
    if delta.hasMoreChanges then deltaPages accountId left delta.newState (c.addPage delta)
    else finishDelta accountId delta.newState (c.addPage delta)

/-- A server that has forgotten the state is asked for everything. -/
def deltaFailed (accountId : String) (error : JsError) : JamCall (RemoteCollectionSync RemoteEmail String) :=
  match error with
  | .jmap (.method _ "cannotCalculateChanges" _) => completeEmailSnapshot accountId
  | _ => throw (notApplied error)

def syncEmails (accountId : String) (previousState : Option String) : JamCall (RemoteCollectionSync RemoteEmail String) :=
  match previousState with
  | none => completeEmailSnapshot accountId
  | some state => tryCatch (deltaPages accountId maxDeltaPages state ⟨[], []⟩) (deltaFailed accountId)

/-! ## The first emails of a mailbox -/

def mapJmapQuery (value : JmapQueryResult) : Checked RemoteMailboxQuery := do
  let ids ← value.ids.mapM fun id => remoteIdFromString id "RemoteEmailId"
  .ok { ids, queryState := value.queryState, total := value.total, position := value.position,
        canCalculateChanges := value.canCalculateChanges }

/-- The filter is passed on; here there is none. -/
def queryMailbox (accountId mailboxId : String) (options : Option RemoteQueryOptions) : JamCall RemoteMailboxQuery :=
  tryCatch (do
    let result ← match options with
      | none => queryEmails accountId mailboxId ⟨none, none, none, none⟩
      | some options => queryEmails accountId mailboxId ⟨options.position, options.limit, options.anchor, options.anchorOffset⟩
    checked (mapJmapQuery result))
    fun error => throw (notApplied error)

end JmapRemoteMail

end Boxplot.Remote
