import Boxplot.Lib.Sorting
import Boxplot.Memory.Engine
import Boxplot.Sync.BodyMaterializer
/-!
# What the window shows

The store of `src/app/stores/mail.ts` and the methods of
`MailApplicationController` (`src/app/application.ts`) that write it. A stretch
of code between two awaits is one request or several, and other calls may come
between any two requests.
-/

namespace Boxplot.App

open Domain Lib Memory Outbox Sync

/-! ## The store -/

inductive MailLoadState
  | idle | loading | ready | notCached | error
  deriving DecidableEq, Repr

inductive BodyLoadState
  | idle | loading | cached | notCached | ownerAbsent | error
  deriving DecidableEq, Repr

inductive RefreshPhase
  | idle | refreshing | error
  deriving DecidableEq, Repr

structure RefreshActivity where
  phase : RefreshPhase
  error : Option String
  deriving DecidableEq, Repr

structure MailState where
  accounts : List Account
  selectedAccountKey : Option AccountKey
  selectedMailboxId : Option ScopedMailboxId
  selectedEmailId : Option ScopedEmailId
  visiblePage : Nat
  loadState : MailLoadState
  mailboxes : List Mailbox
  mailboxView : Option MailboxView
  emails : List Email
  emailBody : Option EmailBody
  bodyLoadState : BodyLoadState
  bodyMaterializing : Bool
  bodyError : Option String
  refreshActivity : OrderedMap String RefreshActivity
  error : Option String

namespace MailState

def initial : MailState where
  accounts := []
  selectedAccountKey := none
  selectedMailboxId := none
  selectedEmailId := none
  visiblePage := 0
  loadState := .idle
  mailboxes := []
  mailboxView := none
  emails := []
  emailBody := none
  bodyLoadState := .idle
  bodyMaterializing := false
  bodyError := none
  refreshActivity := .empty
  error := none

variable (m : MailState)

def selectAccount (accountKey : Option AccountKey) : MailState :=
  { m with
    selectedAccountKey := accountKey, selectedMailboxId := none, selectedEmailId := none, visiblePage := 0, mailboxes := [],
    mailboxView := none, emails := [], emailBody := none, bodyLoadState := .idle, bodyMaterializing := false, bodyError := none,
    loadState := .idle, error := none }

def selectMailbox (mailboxId : Option ScopedMailboxId) : MailState :=
  { m with
    selectedMailboxId := mailboxId, selectedEmailId := none, visiblePage := 0, mailboxView := none, emails := [],
    emailBody := none, bodyLoadState := .idle, bodyMaterializing := false, bodyError := none, loadState := .idle, error := none }

def selectEmail (emailId : Option ScopedEmailId) : MailState :=
  { m with
    selectedEmailId := emailId, emailBody := none, bodyLoadState := if emailId.isNone then .idle else .loading,
    bodyMaterializing := false, bodyError := none, error := none }

def setEmailBody (body : Option EmailBody) (state : BodyLoadState) : MailState :=
  { m with
    emailBody := body, bodyLoadState := state, bodyMaterializing := m.bodyMaterializing && state ≠ .cached,
    bodyError := if state = .error then m.bodyError else none }

def setRefreshActivity (accountKey : AccountKey) (activity : RefreshActivity) : MailState :=
  { m with refreshActivity := m.refreshActivity.set accountKey activity }

def setLoadState (loadState : MailLoadState) (error : Option String) : MailState := { m with loadState, error }

end MailState

/-! ## Errors -/

inductive RemoteRefreshErrorKind
  | notConnected | auth | network | remote | «local» | cancelled | connectionInProgress | unexpected
  deriving DecidableEq, Repr

/-- `refreshFailure`. -/
def RemoteRefreshErrorKind.message : RemoteRefreshErrorKind → String
  | .notConnected => "Conecta la cuenta para sincronizar."
  | .auth => "La sesión ya no permite sincronizar."
  | .network => "No se pudo contactar al servidor."
  | .remote => "No se pudo completar la sincronización."
  | .local => "No se pudieron guardar los cambios sincronizados."
  | .cancelled => "La sincronización ya no está activa."
  | .connectionInProgress => "Ya hay una sincronización en curso."
  | .unexpected => "No se pudo actualizar el correo."

/-- `bodyLoadFailure`. -/
def bodyLoadMessage : BodyMaterializationErrorKind → String
  | .emailAbsent => "El mensaje ya no está disponible."
  | .notConnected => "Conecta la cuenta para cargar este contenido."
  | .remote => "No se pudo descargar el contenido del mensaje."
  | .local => "No se pudo guardar o leer el contenido local."
  | .invalidEnvelope => "No se pudo abrir el contenido cifrado de forma segura."
  | .metadataUnavailable => "No hay información suficiente para abrir este contenido cifrado."
  | .e2ee => "No se pudo descifrar el contenido del mensaje."
  | .cancelled => "La carga del contenido ya no está activa."
  | .unexpected => "No se pudo cargar el contenido."

/-- The result of a load; its error kinds are those of a `BodyMaterializationError`. -/
abbrev BodyLoadResult := Except BodyMaterializationErrorKind Unit

inductive SelectedBodyRereadState
  | cached | notCached | ownerAbsent | failed | stale
  deriving DecidableEq, Repr

/-- What an async method throws: an `Error`, or what a port's promise rejects with. -/
inductive Thrown
  | error (message : String)
  | rejected
  deriving DecidableEq, Repr

/-! ## The controller -/

inductive LocalState
  | opening | ready | error
  deriving DecidableEq, Repr

/-- A promise of `performBodyMaterialization`, known by its number. -/
structure BodyAttempt where
  number : Nat
  emailId : ScopedEmailId
  deriving DecidableEq, Repr

/-- A promise of `performRefresh`, known by its generation. -/
structure RefreshAttempt where
  accountKey : AccountKey
  generation : Nat
  deriving DecidableEq, Repr

structure MailController where
  mail : MailState
  «local» : LocalState
  /-- `subscription` is not null. -/
  subscribed : Bool
  accountsGeneration : Nat
  mailboxesGeneration : Nat
  mailboxViewGeneration : Nat
  bodyGeneration : Nat
  pendingHints : List LocalChangeHint
  invalidationScheduled : Bool
  activeRefreshAttempt : Option RefreshAttempt
  refreshGeneration : Nat
  bodyMaterializationAttempts : OrderedMap String BodyAttempt
  /-- How many bodies were asked for. -/
  bodyAttempts : Nat
  /-- `context.bodyMaterializer` is there. -/
  bodyMaterializer : Bool
  disposed : Bool

/-- `${emailId.accountKey}\u0000${emailId.jmapId}`. -/
def bodyKey (emailId : ScopedEmailId) : String := emailId.accountKey ++ "\u0000" ++ emailId.jmapId

namespace MailController

def initial (bodyMaterializer : Bool) : MailController where
  mail := .initial
  «local» := .opening
  subscribed := false
  accountsGeneration := 0
  mailboxesGeneration := 0
  mailboxViewGeneration := 0
  bodyGeneration := 0
  pendingHints := []
  invalidationScheduled := false
  activeRefreshAttempt := none
  refreshGeneration := 0
  bodyMaterializationAttempts := .empty
  bodyAttempts := 0
  bodyMaterializer
  disposed := false

variable (s : MailController)

def onMail (f : MailState → MailState) : MailController := { s with mail := f s.mail }

/-- What is selected if it is still listed, else `first`. -/
def stillOr {α : Type} [DecidableEq α] (listed : List α) (selected first : Option α) : Option α :=
  if selected.any (· ∈ listed) then selected else first

def isSelectedEmail (emailId : ScopedEmailId) : Bool := s.mail.selectedEmailId = some emailId

/-! ### Selecting -/

/-- `selectAccount` up to its first await. -/
def selectAccount (accountKey : AccountKey) : MailController :=
  if s.mail.selectedAccountKey = some accountKey then s else s.onMail (·.selectAccount (some accountKey))

/-- `selectMailbox` up to its await. -/
def selectMailbox (mailboxId : ScopedMailboxId) : MailController :=
  if s.mail.selectedMailboxId = some mailboxId then s else s.onMail (·.selectMailbox (some mailboxId))

/-- `selectEmail` up to its await. -/
def selectEmail (emailId : ScopedEmailId) : MailController :=
  if s.isSelectedEmail emailId then s else s.onMail (·.selectEmail (some emailId))

/-! ### Accounts -/

/-- `localeCompare`, of which only the sign counts. -/
abbrev Collation := String → String → Int

def sortAccounts (js : Collation) (accounts : List Account) : List Account :=
  accounts.insertionSort fun left right => js left.key right.key ≤ 0

/-- `left.sortOrder - right.sortOrder || left.name.localeCompare(right.name)`. -/
def compareMailboxes (js : Collation) (left right : Mailbox) : Int :=
  if left.sortOrder = right.sortOrder then js left.name right.name else (left.sortOrder : Int) - right.sortOrder

def sortMailboxes (js : Collation) (mailboxes : List Mailbox) : List Mailbox :=
  mailboxes.insertionSort fun left right => compareMailboxes js left right ≤ 0

/-- `refreshAccounts` up to its read. -/
def beginAccounts : Nat × MailController :=
  (s.accountsGeneration + 1, { s with accountsGeneration := s.accountsGeneration + 1 })

/-- `refreshAccounts` after its read: the account whose mailboxes are to be read, if there is one. -/
def showAccounts (js : Collation) (generation : Nat) (result : Except LocalReadError (List Account)) :
    Except Thrown (Option AccountKey) × MailController :=
  if generation ≠ s.accountsGeneration then (.ok none, s)
  else
    match result with
    | .error e => (.error (.error ("listAccounts failed: " ++ e.kind)), s)
    | .ok value =>
      let accounts := sortAccounts js value
      let s := s.onMail fun m => { m with accounts }
      let selected := s.mail.selectedAccountKey
      let nextAccount := stillOr (accounts.map (·.key)) selected (accounts.head?.map (·.key))
      match nextAccount with
      | none => (.ok none, s.onMail fun m => (m.selectAccount none).setLoadState .ready none)
      | some key => (.ok (some key), if selected = some key then s else s.onMail (·.selectAccount (some key)))

/-! ### Mailboxes -/

/-- `refreshMailboxes` up to its read. -/
def beginMailboxes : Option (AccountKey × Nat) × MailController :=
  (s.mail.selectedAccountKey.map (·, s.mailboxesGeneration + 1), { s with mailboxesGeneration := s.mailboxesGeneration + 1 })

/-- `refreshMailboxes` after its read: whether the window is to be read. -/
def showMailboxes (js : Collation) (accountKey : AccountKey) (generation : Nat)
    (result : Except LocalReadError (OwnedSnapshotRead (List Mailbox))) : Except Thrown Bool × MailController :=
  if generation ≠ s.mailboxesGeneration ∨ s.mail.selectedAccountKey ≠ some accountKey then (.ok false, s)
  else
    match result with
    | .error e => (.error (.error ("listMailboxes failed: " ++ e.kind)), s)
    | .ok .ownerAbsent =>
      (.ok false, s.onMail fun m =>
        ({ m with mailboxes := [] }.selectMailbox none).setLoadState .error (some "La cuenta local ya no existe."))
    | .ok (.present value) =>
      let mailboxes := sortMailboxes js value
      let s := s.onMail fun m => { m with mailboxes }
      let selected := s.mail.selectedMailboxId
      let first := (mailboxes.find? (·.role = some "inbox")).or mailboxes.head?
      let nextMailbox := stillOr (mailboxes.map (·.id)) selected (first.map (·.id))
      match nextMailbox with
      | none => (.ok false, s.onMail fun m => (m.selectMailbox none).setLoadState .ready none)
      | some id => (.ok true, if selected = some id then s else s.onMail (·.selectMailbox (some id)))

/-! ### The window -/

/-- `mailboxViewSpec(mailboxId, mailboxViewFilterAll(), mailboxViewSort('descending'))`. -/
def windowSpec (mailboxId : ScopedMailboxId) : MailboxViewSpec := ⟨mailboxId, .descending⟩

/-- `refreshMailboxWindow` up to its first read. -/
def beginWindow : Option (ScopedMailboxId × Nat) × MailController :=
  let s := { s with mailboxViewGeneration := s.mailboxViewGeneration + 1 }
  match s.mail.selectedMailboxId with
  | none => (none, s)
  | some mailboxId => (some (mailboxId, s.mailboxViewGeneration), s.onMail (·.setLoadState .loading none))

/-- `refreshMailboxWindow` after its first read: the view whose emails are to be read. -/
def showView (mailboxId : ScopedMailboxId) (generation : Nat) (result : Except LocalReadError (OwnedCacheRead MailboxView)) :
    Option MailboxView × MailController :=
  if generation ≠ s.mailboxViewGeneration ∨ s.mail.selectedMailboxId ≠ some mailboxId then (none, s)
  else
    match result with
    | .error _ => (none, s.onMail (·.setLoadState .error (some "No se pudo leer la vista local del buzón.")))
    | .ok .ownerAbsent =>
      (none, s.onMail fun m =>
        { m with mailboxView := none, emails := [] }.setLoadState .error (some "El buzón local ya no existe."))
    | .ok .notCached => (none, s.onMail fun m => { m with mailboxView := none, emails := [] }.setLoadState .notCached none)
    | .ok (.cached view) => (some view, s)

/-- The emails of a read in which none is absent. -/
def presentEmails : List (LocalEntityRead Email) → Option (List Email)
  | [] => some []
  | .absent :: _ => none
  | .present email :: rest => (presentEmails rest).map (email :: ·)

/-- `refreshMailboxWindow` after its second read: `none` where it returns, else the email it has selected anew, if it has. -/
def showEmails (spec : MailboxViewSpec) (generation : Nat) (view : MailboxView)
    (result : Except LocalReadError (List (LocalEntityRead Email))) : Option (Option ScopedEmailId) × MailController :=
  if generation ≠ s.mailboxViewGeneration ∨ spec ≠ view.spec ∨ s.mail.selectedMailboxId ≠ some spec.mailboxId then (none, s)
  else
    match result.toOption.bind presentEmails with
    | none =>
      (none, s.onMail fun m => { m with mailboxView := some view, emails := [] }.setLoadState .error
        (some "La vista local referencia mensajes no disponibles."))
    | some emails =>
      let s := s.onMail fun m => { m with mailboxView := some view, emails }
      let selectedEmail := s.mail.selectedEmailId
      let nextEmail := stillOr (emails.map (·.id)) selectedEmail (emails.head?.map (·.id))
      if selectedEmail.isNone || nextEmail.isNone || selectedEmail ≠ nextEmail then
        (some nextEmail, s.onMail fun m => (m.selectEmail nextEmail).setLoadState .ready none)
      else (some none, s.onMail (·.setLoadState .ready none))

/-! ### The body -/

/-- `refreshSelectedBody` up to its read. -/
def beginBody : Option (ScopedEmailId × Nat) × MailController :=
  let s := { s with bodyGeneration := s.bodyGeneration + 1 }
  match s.mail.selectedEmailId with
  | none => (none, s.onMail (·.setEmailBody none .idle))
  | some emailId => (some (emailId, s.bodyGeneration), s.onMail (·.setEmailBody none .loading))

/-- `refreshSelectedBody` after its read. -/
def showBody (emailId : ScopedEmailId) (generation : Nat) (result : Except LocalReadError (OwnedCacheRead EmailBody)) :
    SelectedBodyRereadState × MailController :=
  if generation ≠ s.bodyGeneration ∨ s.mail.selectedEmailId ≠ some emailId then (.stale, s)
  else
    match result with
    | .error _ => (.failed, s.onMail (·.setEmailBody none .error))
    | .ok (.cached body) => (.cached, s.onMail (·.setEmailBody (some body) .cached))
    | .ok .notCached => (.notCached, s.onMail (·.setEmailBody none .notCached))
    | .ok .ownerAbsent => (.ownerAbsent, s.onMail (·.setEmailBody none .ownerAbsent))

/-! ### Materialising a body -/

/-- `finishBodyMaterialization`. -/
def finishBodyMaterialization (emailId : ScopedEmailId) (result : BodyLoadResult) : BodyLoadResult × MailController :=
  if !s.isSelectedEmail emailId || s.disposed then (result, s)
  else
    let s := s.onMail fun m => { m with bodyMaterializing := false }
    match result with
    | .ok _ => (result, s)
    | .error .cancelled => (result, s)
    | .error kind =>
      (result, s.onMail fun m =>
        { m.setEmailBody none (if kind = .emailAbsent then .ownerAbsent else .notCached) with bodyError := some (bodyLoadMessage kind) })

/-- `materializeBody` up to its await: `none` where an attempt is under way, else the attempt and what it ends with at once. -/
def beginMaterialize (emailId : ScopedEmailId) : Option (BodyAttempt × Option BodyLoadResult) × MailController :=
  match s.bodyMaterializationAttempts.get? (bodyKey emailId) with
  | some _ => (none, s)
  | none =>
    let attempt : BodyAttempt := ⟨s.bodyAttempts, emailId⟩
    let register (s : MailController) : MailController :=
      { s with
        bodyMaterializationAttempts := s.bodyMaterializationAttempts.set (bodyKey emailId) attempt
        bodyAttempts := s.bodyAttempts + 1 }
    if s.bodyMaterializer then
      (some (attempt, none), register
        (if s.isSelectedEmail emailId then s.onMail fun m => { m with bodyError := none, bodyMaterializing := true } else s))
    else
      let (result, s) := s.finishBodyMaterialization emailId (.error .unexpected)
      (some (attempt, some result), register s)

/-- `performBodyMaterialization` after the materialiser: whether the body is to be read again. -/
def materialized (emailId : ScopedEmailId) : Except BodyMaterializationErrorKind Bool × MailController :=
  if s.disposed then (.error .cancelled, s) else (.ok (s.isSelectedEmail emailId), s)

/-- The `catch` block of `performBodyMaterialization`. -/
def failMaterialize (emailId : ScopedEmailId) (kind : BodyMaterializationErrorKind) : BodyLoadResult × MailController :=
  if s.disposed then (.error .cancelled, s) else s.finishBodyMaterialization emailId (.error kind)

/-- The attempt's `finally`. -/
def endMaterialize (attempt : BodyAttempt) : MailController :=
  if s.bodyMaterializationAttempts.get? (bodyKey attempt.emailId) = some attempt then
    { s with bodyMaterializationAttempts := s.bodyMaterializationAttempts.delete (bodyKey attempt.emailId) }
  else s

/-- `demandSelectedBody`: whether `materializeBody` is called. Its promise is not awaited, it is a call of its own. -/
def demandSelectedBody (emailId : ScopedEmailId) : Bool := s.isSelectedEmail emailId && s.mail.bodyLoadState = .notCached

/-! ### Remote refreshes -/

inductive RefreshStart
  | joined
  | busy
  | started (attempt : RefreshAttempt)
  deriving DecidableEq, Repr

/-- `refreshAccount` up to its await. -/
def beginRefresh (accountKey : AccountKey) : RefreshStart × MailController :=
  match s.activeRefreshAttempt with
  | some active =>
    if active.accountKey = accountKey then (.joined, s)
    else (.busy, s.onMail (·.setRefreshActivity accountKey ⟨.error, some RemoteRefreshErrorKind.connectionInProgress.message⟩))
  | none =>
    let attempt : RefreshAttempt := ⟨accountKey, s.refreshGeneration + 1⟩
    (.started attempt, { s.onMail (·.setRefreshActivity accountKey ⟨.refreshing, none⟩) with
      refreshGeneration := s.refreshGeneration + 1, activeRefreshAttempt := some attempt })

/-- `isCurrentRefresh`. -/
def isCurrentRefresh (generation : Nat) : Bool := !s.disposed && s.refreshGeneration = generation

/-- `finishRefresh`. -/
def finishRefresh (attempt : RefreshAttempt) (result : Except RemoteRefreshErrorKind Unit) :
    Except RemoteRefreshErrorKind Unit × MailController :=
  if s.isCurrentRefresh attempt.generation then
    (result, s.onMail (·.setRefreshActivity attempt.accountKey (match result with
      | .ok _ => ⟨.idle, none⟩
      | .error kind => ⟨.error, some kind.message⟩)))
  else (.error .cancelled, s)

/-- The attempt's `finally`. -/
def endRefresh (attempt : RefreshAttempt) : MailController :=
  if s.activeRefreshAttempt = some attempt then { s with activeRefreshAttempt := none } else s

/-! ### Invalidation -/

/-- `scheduleInvalidation`. -/
def scheduleInvalidation (hints : List LocalChangeHint) : MailController :=
  { s with pendingHints := s.pendingHints ++ hints, invalidationScheduled := true }

/-- What a batch of hints makes necessary. -/
structure Invalidations where
  accounts : Bool
  mailboxes : Bool
  window : Bool
  body : Bool
  /-- The account whose mutations are to be listed. -/
  mutations : Option AccountKey
  deriving DecidableEq, Repr

def invalidations (hints : List LocalChangeHint) : Invalidations where
  accounts := hints.any (· = .accounts)
  mailboxes := hints.any fun
    | .mailboxes accountKey => s.mail.selectedAccountKey = some accountKey
    | _ => false
  window := hints.any fun
    | .mailboxView spec => s.mail.selectedMailboxId = some spec.mailboxId
    | .emails accountKey => s.mail.selectedAccountKey = some accountKey
    | .emailMemberships accountKey => s.mail.selectedAccountKey = some accountKey
    | _ => false
  body := hints.any fun
    | .emailBody emailId => s.mail.selectedEmailId = some emailId
    | _ => false
  mutations := s.mail.selectedAccountKey.filter fun selected => hints.any fun
    | .pendingMutations accountKey => selected = accountKey
    | _ => false

/-- `flushInvalidations` up to its first await. -/
def beginFlush : Invalidations × MailController :=
  (s.invalidations s.pendingHints, { s with invalidationScheduled := false, pendingHints := [] })

def dispose : MailController :=
  { s with
    mail := { s.mail with refreshActivity := .empty, bodyMaterializing := false }
    disposed := true
    subscribed := false
    refreshGeneration := s.refreshGeneration + 1
    bodyMaterializationAttempts := .empty }

end MailController

end Boxplot.App
