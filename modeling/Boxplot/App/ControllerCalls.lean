import Boxplot.App.MailController
import Boxplot.App.RemoteApplication
/-!
# Calls of the mail controller

The async methods of `MailApplicationController` (`src/app/application.ts`) as
programs over the requests of `MailController`, started at any time and run
against each other in any order. A read may answer anything about what it is
asked.
-/

namespace Boxplot.App

open Domain Lib Memory Outbox Sync

/-! ## Requests -/

/-- What a method needs from the repository and its other ports, and its own stretches of code. -/
inductive ControllerCall
  | subscribe
  | listAccounts
  | listMailboxes (accountKey : AccountKey)
  | readMailboxView (spec : MailboxViewSpec)
  | readEmails (ids : List ScopedEmailId)
  | readEmailBody (emailId : ScopedEmailId)
  /-- An error that is not a `BodyMaterializationError` is `none`. -/
  | materialize (emailId : ScopedEmailId)
  | remoteRefresh (accountKey : AccountKey)
  /-- Its own await and its store are those of `MutationRuns`. -/
  | refreshMutationStatuses (accountKey : AccountKey)
  | isSubscribed
  | setSubscription
  | setLocal (state : LocalState)
  | setLoadState (loadState : MailLoadState) (error : Option String)
  | selectAccount (accountKey : AccountKey)
  | selectMailbox (mailboxId : ScopedMailboxId)
  | selectEmail (emailId : ScopedEmailId)
  | beginAccounts
  | showAccounts (generation : Nat) (result : Except LocalReadError (List Account))
  | beginMailboxes
  | showMailboxes (accountKey : AccountKey) (generation : Nat) (result : Except LocalReadError (OwnedSnapshotRead (List Mailbox)))
  | beginWindow
  | showView (mailboxId : ScopedMailboxId) (generation : Nat) (result : Except LocalReadError (OwnedCacheRead MailboxView))
  | showEmails (spec : MailboxViewSpec) (generation : Nat) (view : MailboxView)
      (result : Except LocalReadError (List (LocalEntityRead Email)))
  | beginBody
  | showBody (emailId : ScopedEmailId) (generation : Nat) (result : Except LocalReadError (OwnedCacheRead EmailBody))
  | demandSelectedBody (emailId : ScopedEmailId)
  | beginMaterialize (emailId : ScopedEmailId)
  | materialized (attempt : BodyAttempt)
  | finishMaterialize (attempt : BodyAttempt) (result : BodyLoadResult)
  | failMaterialize (attempt : BodyAttempt) (kind : BodyMaterializationErrorKind)
  | endMaterialize (attempt : BodyAttempt)
  | beginRefresh (accountKey : AccountKey)
  | finishRefresh (attempt : RefreshAttempt) (result : Except RemoteRefreshErrorKind Unit)
  | endRefresh (attempt : RefreshAttempt)
  | beginFlush
  | dispose

abbrev ControllerReply : ControllerCall → Type
  | .subscribe | .isSubscribed => Bool
  | .listAccounts => PortReply LocalReadError (List Account)
  | .listMailboxes _ => PortReply LocalReadError (OwnedSnapshotRead (List Mailbox))
  | .readMailboxView _ => PortReply LocalReadError (OwnedCacheRead MailboxView)
  | .readEmails _ => PortReply LocalReadError (List (LocalEntityRead Email))
  | .readEmailBody _ => PortReply LocalReadError (OwnedCacheRead EmailBody)
  | .materialize _ => Except (Option BodyMaterializationErrorKind) Unit
  | .remoteRefresh _ => Except Rejection Unit
  | .refreshMutationStatuses _ => Except Thrown Unit
  | .beginAccounts => Nat
  | .showAccounts _ _ => Except Thrown (Option AccountKey)
  | .beginMailboxes => Option (AccountKey × Nat)
  | .showMailboxes _ _ _ => Except Thrown Bool
  | .beginWindow => Option (ScopedMailboxId × Nat)
  | .showView _ _ _ => Option MailboxView
  | .showEmails _ _ _ _ => Option (Option ScopedEmailId)
  | .beginBody => Option (ScopedEmailId × Nat)
  | .showBody _ _ _ => SelectedBodyRereadState
  | .demandSelectedBody _ => Bool
  | .beginMaterialize _ => Option (BodyAttempt × Option BodyLoadResult)
  | .materialized _ => Except BodyMaterializationErrorKind Bool
  | .finishMaterialize _ _ | .failMaterialize _ _ => BodyLoadResult
  | .beginRefresh _ => MailController.RefreshStart
  | .finishRefresh _ _ => Except RemoteRefreshErrorKind Unit
  | .beginFlush => MailController.Invalidations
  | .setSubscription | .setLocal _ | .setLoadState _ _ | .selectAccount _ | .selectMailbox _ | .selectEmail _
  | .endMaterialize _ | .endRefresh _ | .dispose => Unit

/-- An async method: what it resolves to, or what it throws. -/
abbrev ControllerPromise (α : Type) := Async ControllerCall ControllerReply Thrown α

/-! ## Methods -/

/-- The kind `performRefresh` reports. -/
def refreshErrorKind : Rejection → RemoteRefreshErrorKind
  | .application .notConnected => .notConnected
  | .application .auth => .auth
  | .application .network => .network
  | .application .remote => .remote
  | .application .local => .local
  | .application .cancelled => .cancelled
  | _ => .unexpected

namespace ControllerPromise

def request (c : ControllerCall) : ControllerPromise (ControllerReply c) := Async.call c

/-- A port's result; its rejection is thrown. -/
def settled {ε α : Type} : PortReply ε α → ControllerPromise (Except ε α)
  | .ok value => pure (.ok value)
  | .failed e => pure (.error e)
  | .rejected => throw .rejected

def refreshSelectedBody : ControllerPromise SelectedBodyRereadState := do
  match ← request .beginBody with
  | none => pure .stale
  | some (emailId, generation) => do
    let result ← settled (← request (.readEmailBody emailId))
    request (.showBody emailId generation result)

/-- The promise of `materializeBody` that `demandSelectedBody` calls is not awaited, so it is a call of its own. -/
def demandSelectedBody (emailId : ScopedEmailId) : ControllerPromise Unit := do
  let _ ← request (.demandSelectedBody emailId)

def refreshMailboxWindow : ControllerPromise Unit := do
  match ← request .beginWindow with
  | none => pure ()
  | some (mailboxId, generation) => do
    let result ← settled (← request (.readMailboxView (MailController.windowSpec mailboxId)))
    match ← request (.showView mailboxId generation result) with
    | none => pure ()
    | some view => do
      let emails ← settled (← request (.readEmails (view.items.map (·.emailId))))
      match ← request (.showEmails (MailController.windowSpec mailboxId) generation view emails) with
      | none => pure ()
      | some nextEmail => do
        let _ ← refreshSelectedBody
        match nextEmail with
        | none => pure ()
        | some emailId => demandSelectedBody emailId

def refreshMailboxes : ControllerPromise Unit := do
  match ← request .beginMailboxes with
  | none => pure ()
  | some (accountKey, generation) => do
    let result ← settled (← request (.listMailboxes accountKey))
    let refreshWindow ← Async.lift (← request (.showMailboxes accountKey generation result))
    if refreshWindow then refreshMailboxWindow else pure ()

def refreshMutationStatuses (accountKey : AccountKey) : ControllerPromise Unit := do
  Async.lift (← request (.refreshMutationStatuses accountKey))

def refreshAccounts : ControllerPromise Unit := do
  let generation ← request .beginAccounts
  let result ← settled (← request .listAccounts)
  match ← Async.lift (← request (.showAccounts generation result)) with
  | none => pure ()
  | some nextAccount => do
    refreshMailboxes
    refreshMutationStatuses nextAccount

def initializeController : ControllerPromise Unit := do
  if ← request .isSubscribed then pure ()
  else do
    request (.setLocal .opening)
    if ← request .subscribe then do
      request .setSubscription
      tryCatch
        (do
          refreshAccounts
          request (.setLocal .ready))
        fun error => do
          request (.setLocal .error)
          request (.setLoadState .error (some "No se pudo leer el almacenamiento local."))
          throw error
    else do
      request (.setLocal .error)
      request (.setLoadState .error (some "El almacenamiento local no está disponible."))
      throw (.error "LocalChangeSource is unavailable")

def retry : ControllerPromise Unit := do
  if ← request .isSubscribed then do
    request (.setLocal .opening)
    tryCatch
      (do
        refreshAccounts
        request (.setLocal .ready))
      fun error => do
        request (.setLocal .error)
        throw error
  else initializeController

def selectAccount (accountKey : AccountKey) : ControllerPromise Unit := do
  request (.selectAccount accountKey)
  refreshMailboxes
  refreshMutationStatuses accountKey

def selectMailbox (mailboxId : ScopedMailboxId) : ControllerPromise Unit := do
  request (.selectMailbox mailboxId)
  refreshMailboxWindow

def selectEmail (emailId : ScopedEmailId) : ControllerPromise Unit := do
  request (.selectEmail emailId)
  let _ ← refreshSelectedBody
  demandSelectedBody emailId

/-- `performBodyMaterialization` from its `try` on. -/
def performBodyMaterialization (attempt : BodyAttempt) : ControllerPromise BodyLoadResult := do
  match ← request (.materialize attempt.emailId) with
  | .error kind => request (.failMaterialize attempt (kind.getD .unexpected))
  | .ok _ =>
    match ← request (.materialized attempt) with
    | .error kind => pure (.error kind)
    | .ok false => request (.finishMaterialize attempt (.ok ()))
    | .ok true => do
      let reread : Except Thrown SelectedBodyRereadState ← tryCatch
        (do
          let state ← refreshSelectedBody
          pure (.ok state))
        fun error => pure (.error error)
      match reread with
      | .error _ => request (.failMaterialize attempt .unexpected)
      | .ok .failed | .ok .notCached => request (.finishMaterialize attempt (.error .local))
      | .ok .ownerAbsent => request (.finishMaterialize attempt (.error .emailAbsent))
      | .ok .cached | .ok .stale => request (.finishMaterialize attempt (.ok ()))

/-- The promise of an attempt under way is the caller's too; here the caller's call ends. -/
def materializeBody (emailId : ScopedEmailId) : ControllerPromise Unit := do
  match ← request (.beginMaterialize emailId) with
  | none => pure ()
  | some (attempt, some _) => request (.endMaterialize attempt)
  | some (attempt, none) => do
    let _ ← performBodyMaterialization attempt
    request (.endMaterialize attempt)

/-- `performRefresh` with its `finally`; a caller who joins an attempt ends, as in `materializeBody`. -/
def refreshAccount (accountKey : AccountKey) : ControllerPromise Unit := do
  match ← request (.beginRefresh accountKey) with
  | .joined | .busy => pure ()
  | .started attempt => do
    let result ← request (.remoteRefresh accountKey)
    let _ ← request (.finishRefresh attempt (result.mapError refreshErrorKind))
    request (.endRefresh attempt)

/-- A refresh of more includes one of less. -/
def refreshInvalidated (must : MailController.Invalidations) : ControllerPromise Unit :=
  if must.accounts then refreshAccounts
  else if must.mailboxes then refreshMailboxes
  else if must.window then refreshMailboxWindow
  else if must.body then do
    let _ ← refreshSelectedBody
  else pure ()

def flushInvalidations : ControllerPromise Unit := do
  let must ← request .beginFlush
  tryCatch
    (do
      refreshInvalidated must
      match must.mutations with
      | none => pure ()
      | some accountKey => refreshMutationStatuses accountKey)
    fun _ => request (.setLocal .error)

end ControllerPromise

/-! ## Runs -/

variable (js : MailController.Collation)

/-- What a stretch of the controller's own code does; a port's answer is not its own. -/
def MailController.answer (w : MailController) : (c : ControllerCall) → Option (ControllerReply c × MailController)
  | .isSubscribed => some (w.subscribed, w)
  | .setSubscription => some ((), { w with subscribed := true })
  | .setLocal state => some ((), { w with «local» := state })
  | .setLoadState loadState error => some ((), w.onMail (·.setLoadState loadState error))
  | .selectAccount accountKey => some ((), w.selectAccount accountKey)
  | .selectMailbox mailboxId => some ((), w.selectMailbox mailboxId)
  | .selectEmail emailId => some ((), w.selectEmail emailId)
  | .beginAccounts => some w.beginAccounts
  | .showAccounts generation result => some (w.showAccounts js generation result)
  | .beginMailboxes => some w.beginMailboxes
  | .showMailboxes accountKey generation result => some (w.showMailboxes js accountKey generation result)
  | .beginWindow => some w.beginWindow
  | .showView mailboxId generation result => some (w.showView mailboxId generation result)
  | .showEmails spec generation view result => some (w.showEmails spec generation view result)
  | .beginBody => some w.beginBody
  | .showBody emailId generation result => some (w.showBody emailId generation result)
  | .demandSelectedBody emailId => some (w.demandSelectedBody emailId, w)
  | .beginMaterialize emailId => some (w.beginMaterialize emailId)
  | .materialized attempt => some (w.materialized attempt.emailId)
  | .finishMaterialize attempt result => some (w.finishBodyMaterialization attempt.emailId result)
  | .failMaterialize attempt kind => some (w.failMaterialize attempt.emailId kind)
  | .endMaterialize attempt => some ((), w.endMaterialize attempt)
  | .beginRefresh accountKey => some (w.beginRefresh accountKey)
  | .finishRefresh attempt result => some (w.finishRefresh attempt result)
  | .endRefresh attempt => some ((), w.endRefresh attempt)
  | .beginFlush => some w.beginFlush
  | .dispose => some ((), w.dispose)
  | .subscribe | .listAccounts | .listMailboxes _ | .readMailboxView _ | .readEmails _ | .readEmailBody _ | .materialize _
  | .remoteRefresh _ | .refreshMutationStatuses _ => none

/-- The items of a view are emails of its account. -/
def OwnItems (view : MailboxView) : Prop := ∀ item ∈ view.items, item.emailId.accountKey = view.spec.mailboxId.accountKey

/-- Emails read by their ids. -/
def ReadsOf (ids : List ScopedEmailId) (reads : List (LocalEntityRead Email)) : Prop :=
  List.Forall₂ (fun id read => ∀ email, read = .present email → email.id = id) ids reads

/-- A read answers what it is asked. -/
def AnswersTo : (c : ControllerCall) → ControllerReply c → Prop
  | .listMailboxes accountKey, r => ∀ value, r = .ok (.present value) → ∀ mailbox ∈ value, mailbox.id.accountKey = accountKey
  | .readMailboxView _, r => ∀ view, r = .ok (.cached view) → OwnItems view
  | .readEmails ids, r => ∀ value, r = .ok value → ReadsOf ids value
  | .readEmailBody emailId, r => ∀ body, r = .ok (.cached body) → body.emailId = emailId
  | .showView _ _ _, r => ∀ view, r = some view → OwnItems view
  | _, _ => True

/-- The window offers what it lists. -/
def MailController.Listed (w : MailController) : ControllerCall → Prop
  | .selectAccount accountKey => ∃ account ∈ w.mail.accounts, account.key = accountKey
  | .selectMailbox mailboxId => ∃ mailbox ∈ w.mail.mailboxes, mailbox.id = mailboxId
  | .selectEmail emailId => ∃ email ∈ w.mail.emails, email.id = emailId
  | _ => True

def MailController.perform (w : MailController) (c : ControllerCall) (r : ControllerReply c) (w' : MailController) : Prop :=
  w.Listed c ∧
    match w.answer js c with
    | some reply => (r, w') = reply
    | none => AnswersTo c r ∧ w' = w

/-- The methods that are called from outside, and what a scheduled microtask calls. -/
inductive ControllerMethod
  | initialization | retry | refreshAccounts | refreshMailboxes | refreshMailboxWindow | refreshSelectedBody | flushInvalidations | dispose
  | selectAccount (accountKey : AccountKey)
  | selectMailbox (mailboxId : ScopedMailboxId)
  | selectEmail (emailId : ScopedEmailId)
  | materializeBody (emailId : ScopedEmailId)
  | refreshAccount (accountKey : AccountKey)

open ControllerPromise in
def methodProgram : ControllerMethod → ControllerPromise Unit
  | .initialization => initializeController
  | .retry => retry
  | .refreshAccounts => refreshAccounts
  | .refreshMailboxes => refreshMailboxes
  | .refreshMailboxWindow => refreshMailboxWindow
  | .refreshSelectedBody => do
    let _ ← refreshSelectedBody
  | .flushInvalidations => flushInvalidations
  | .dispose => request .dispose
  | .selectAccount accountKey => selectAccount accountKey
  | .selectMailbox mailboxId => selectMailbox mailboxId
  | .selectEmail emailId => selectEmail emailId
  | .materializeBody emailId => materializeBody emailId
  | .refreshAccount accountKey => ControllerPromise.refreshAccount accountKey

/-- Any calls of the methods, started at any time, with change batches coming in between. -/
def mailApplication : System ControllerCall ControllerReply (Except Thrown Unit) MailController where
  perform w _ := w.perform js
  starts p := ∃ method : ControllerMethod, p = (methodProgram method).run
  env w w' := ∃ hints, w' = w.scheduleInvalidation hints

end Boxplot.App
