import Boxplot.App.CredentialRef
import Boxplot.App.RemoteApplication
import Boxplot.Lib.Sorting
import Boxplot.Outbox.Calls
import Mathlib.Data.List.DropRight
/-!
# Connecting an account

`connectAccount` and `reconnectAccount` of `MailApplicationController`
(`src/app/application.ts`), with everything around them answering as it likes.
A credential that was authorised for an attempt is handed back exactly when the
attempt comes to nothing, and attempts do not run side by side.
-/

namespace Boxplot.App

open Domain Lib Outbox

/-! ## Requests -/

inductive AccountSetupRequest
  | boxplotLocalImap (username password host : String) (imapPort smtpPort : Nat)
  | gmailOAuth (username : String) (reauthorize : Bool)
  deriving DecidableEq, Repr

inductive RemoteConnectionConfig
  | imapSmtp (host username password : String) (imapPort smtpPort : Nat)
  | gmail (username credentialRef : String)
  deriving DecidableEq, Repr

inductive AccountConnectionErrorKind
  | auth | network | accountMismatch | accountSelectionRequired | serviceMismatch | accountUnavailable | connectionInProgress | «local»
  | unexpected | cancelled
  deriving DecidableEq, Repr

/-- `accountConnectionFailure`. -/
def AccountConnectionErrorKind.message : AccountConnectionErrorKind → String
  | .auth => "No se pudo autenticar la cuenta."
  | .network => "No se pudo contactar al servidor."
  | .accountMismatch => "La cuenta remota no coincide con la configuración local."
  | .accountSelectionRequired => "El servidor requiere seleccionar una cuenta remota."
  | .serviceMismatch => "La configuración del servidor no corresponde a esta cuenta."
  | .accountUnavailable => "La cuenta local ya no está disponible."
  | .connectionInProgress => "Ya hay una conexión en curso."
  | .local => "No se pudo confirmar la cuenta en el almacenamiento local."
  | .unexpected => "No se pudo completar la conexión."
  | .cancelled => "La conexión ya no está activa."

inductive ConnectionAttemptTarget
  | firstRun
  | reconnect (accountKey : AccountKey)
  deriving DecidableEq, Repr

def ConnectionAttemptTarget.accountKey? : ConnectionAttemptTarget → Option AccountKey
  | .firstRun => none
  | .reconnect accountKey => some accountKey

section

variable (lowered : String → String)

/-- `replace(/\.+$/, '')`. -/
def withoutTrailingDots (host : String) : String := .ofList (host.toList.rdropWhile (· = '.'))

/-- `lowered` is `trim().toLowerCase()`. -/
def serviceKeyForSetup : AccountSetupRequest → String
  | .gmailOAuth _ _ => "gmail:imap-smtp:v1"
  | .boxplotLocalImap _ _ host imapPort smtpPort =>
    "imap-smtp:" ++ withoutTrailingDots (lowered host) ++ ":" ++ toString imapPort ++ ":" ++ toString smtpPort

end

/-- The kind the attempt reports. -/
def connectErrorKind : Rejection → AccountConnectionErrorKind
  | .application .auth => .auth
  | .application .network => .network
  | .application .accountMismatch => .accountMismatch
  | .application .accountSelectionRequired => .accountSelectionRequired
  | .application .local => .local
  | .application .cancelled => .cancelled
  | _ => .unexpected

/-! ## The state -/

/-- The fields of the controller and its stores that an attempt reads, and what the broker was asked, by the number of the call. -/
structure ConnectionDesk where
  disposed : Bool
  connectionGeneration : Nat
  /-- The promise of an attempt is known by the call that began it. -/
  activeConnectionAttempt : Option (ConnectionAttemptTarget × Nat)
  /-- `context.remoteApplication` and `context.googleOAuthBroker` are there. -/
  remoteApplication : Bool
  googleOAuthBroker : Bool
  selectedAccountKey : Option AccountKey
  accounts : List Account
  authorized : List (Nat × String)
  forgotten : List (Nat × String)

def ConnectionDesk.initial (remoteApplication googleOAuthBroker : Bool) : ConnectionDesk where
  disposed := false
  connectionGeneration := 0
  activeConnectionAttempt := none
  remoteApplication
  googleOAuthBroker
  selectedAccountKey := none
  accounts := []
  authorized := []
  forgotten := []

inductive ConnectionStart
  | joined | busy | started
  deriving DecidableEq, Repr

inductive ConnectionCall
  | start (target : ConnectionAttemptTarget)
  | nextGeneration
  | listAccounts
  | isCurrent (generation : Nat)
  | selected
  | accountKeyGenerator
  | hasBroker
  /-- What it throws does not matter. -/
  | authorize (accountKey : AccountKey) (username : String)
  | forget (credentialRef : String)
  | connect (accountKey : AccountKey) (serviceKey : String) (config : RemoteConnectionConfig)
  /-- Whether it returns. -/
  | onAuthenticated
  /-- Whether it resolves. -/
  | refreshAccounts
  | isListed (accountKey : AccountKey)
  | finish
  | dispose

abbrev ConnectionReply : ConnectionCall → Type
  | .start _ => ConnectionStart
  | .nextGeneration => Option Nat
  | .listAccounts => PortReply LocalReadError (List Account)
  | .selected => Option AccountKey
  | .accountKeyGenerator => AccountKey
  | .authorize _ _ => Option String
  | .connect _ _ _ => Except Rejection Unit
  | .isCurrent _ | .hasBroker | .onAuthenticated | .refreshAccounts | .isListed _ => Bool
  | .forget _ | .finish | .dispose => Unit

/-- An attempt: the account it connects, or the kind of failure it returns at that point. -/
abbrev Connecting (α : Type) := Async ConnectionCall ConnectionReply AccountConnectionErrorKind α

def require (c : ConnectionCall) : Connecting (ConnectionReply c) := Async.call c

/-! ## The attempt -/

section

variable (lowered : String → String) (js : String → String → Int)

/-- `forgetFirstRunCredential`, then the failure. -/
def giveUp {α : Type} (credentialRefToForget : Option String) (kind : AccountConnectionErrorKind) : Connecting α :=
  match credentialRefToForget with
  | none => throw kind
  | some credentialRef => do
    require (.forget credentialRef)
    throw kind

def unlessStale (generation : Nat) (credentialRefToForget : Option String) : Connecting Unit := do
  if ← require (.isCurrent generation) then pure () else giveUp credentialRefToForget .cancelled

/-- The configuration of the connection, and the credential authorised for it. -/
def connectionConfig (request : AccountSetupRequest) (existing : Bool) (accountKey : AccountKey) (generation : Nat) :
    Connecting (RemoteConnectionConfig × Option String) :=
  match request with
  | .boxplotLocalImap username password host imapPort smtpPort => pure (.imapSmtp host username password imapPort smtpPort, none)
  | .gmailOAuth username reauthorize =>
    if existing && !reauthorize then pure (.gmail username (gmailCredentialRefForAccount accountKey), none)
    else do
      if ← require .hasBroker then
        match ← require (.authorize accountKey username) with
        | none => throw .auth
        | some credentialRef => do
          unlessStale generation (some credentialRef)
          pure (.gmail username credentialRef, some credentialRef)
      else throw .unexpected

/-- What `performAccountConnection` does with its configuration. -/
def connectWith (accountKey : AccountKey) (serviceKey : String) (config : RemoteConnectionConfig) (credentialRefToForget : Option String)
    (generation : Nat) : Connecting AccountKey := do
  match ← require (.connect accountKey serviceKey config) with
  | .error rejection => do
    unlessStale generation credentialRefToForget
    giveUp credentialRefToForget (connectErrorKind rejection)
  | .ok _ => do
    unlessStale generation credentialRefToForget
    if ← require .onAuthenticated then
      if ← require .refreshAccounts then do
        unlessStale generation credentialRefToForget
        if ← require (.isListed accountKey) then pure accountKey else giveUp credentialRefToForget .local
      else giveUp credentialRefToForget .local
    else do
      -- what the callback throws ends in the same handler as a failed connection
      unlessStale generation credentialRefToForget
      giveUp credentialRefToForget .unexpected

/-- The account to connect, of those that are there. -/
def existingAccount (accounts : List Account) (selected : Option AccountKey) : ConnectionAttemptTarget → Option Account
  | .reconnect accountKey => accounts.find? (·.key = accountKey)
  | .firstRun =>
    (accounts.find? fun value => some value.key = selected).or
      (accounts.insertionSort fun left right => js left.key right.key ≤ 0).head?

/-- `existing?.key ?? accountKeyGenerator()`. -/
def connectionKey : Option Account → Connecting AccountKey
  | some account => pure account.key
  | none => require .accountKeyGenerator

def performAccountConnection (request : AccountSetupRequest) (target : ConnectionAttemptTarget) : Connecting AccountKey := do
  match ← require .nextGeneration with
  | none => throw .unexpected
  | some generation => do
    match ← require .listAccounts with
    | .rejected => throw .local
    | .failed _ => do
      unlessStale generation none
      throw .local
    | .ok accounts => do
      unlessStale generation none
      let existing := existingAccount js accounts (← require .selected) target
      if target ≠ .firstRun && existing.isNone then throw .accountUnavailable
      else do
        let accountKey ← connectionKey existing
        let serviceKey := (existing.map (·.remoteRef.serviceKey)).getD (serviceKeyForSetup lowered request)
        if target ≠ .firstRun && serviceKeyForSetup lowered request ≠ serviceKey then throw .serviceMismatch
        else do
          let (config, credentialRefToForget) ← connectionConfig request existing.isSome accountKey generation
          connectWith accountKey serviceKey config credentialRefToForget generation

/-- `startAccountConnection`: what the caller's promise resolves to, `none` where it is another call's. -/
def startAccountConnection (request : AccountSetupRequest) (target : ConnectionAttemptTarget) :
    Prog ConnectionCall ConnectionReply (Option (Except AccountConnectionErrorKind AccountKey)) := do
  match ← Prog.call (ConnectionCall.start target) with
  | .joined => pure none
  | .busy => pure (some (.error .connectionInProgress))
  | .started => do
    let result ← (performAccountConnection lowered js request target).run
    let _ ← Prog.call ConnectionCall.finish
    pure (some result)

end

/-! ## Runs -/

namespace ConnectionDesk

variable (w : ConnectionDesk)

def isCurrentConnection (generation : Nat) : Bool := !w.disposed && w.connectionGeneration = generation

/-- What the broker authorised for a call, and what it was asked to forget by it. -/
def authorizedBy (t : Nat) : List String := (w.authorized.filter (·.1 = t)).map (·.2)

def forgottenBy (t : Nat) : List String := (w.forgotten.filter (·.1 = t)).map (·.2)

def start (t : Nat) (target : ConnectionAttemptTarget) : ConnectionStart × ConnectionDesk :=
  match w.activeConnectionAttempt with
  | some active => (if active.1 = target then .joined else .busy, w)
  | none => (.started, { w with activeConnectionAttempt := some (target, t) })

def nextGeneration : Option Nat × ConnectionDesk :=
  if w.remoteApplication then (some (w.connectionGeneration + 1), { w with connectionGeneration := w.connectionGeneration + 1 })
  else (none, w)

/-- The attempt's `finally`. -/
def finish (t : Nat) : ConnectionDesk :=
  if w.activeConnectionAttempt.any (·.2 = t) then { w with activeConnectionAttempt := none } else w

/-- The controller's own part; the ports answer as they like. -/
def perform (t : Nat) : (c : ConnectionCall) → ConnectionReply c → ConnectionDesk → Prop
  | .start target, r, w' => (r, w') = w.start t target
  | .nextGeneration, r, w' => (r, w') = w.nextGeneration
  | .isCurrent generation, r, w' => r = w.isCurrentConnection generation ∧ w' = w
  | .selected, r, w' => r = w.selectedAccountKey ∧ w' = w
  | .hasBroker, r, w' => r = w.googleOAuthBroker ∧ w' = w
  | .isListed accountKey, r, w' => r = (w.accounts.any fun value => value.key = accountKey) ∧ w' = w
  | .authorize _ _, r, w' => w' = { w with authorized := w.authorized ++ r.toList.map (t, ·) }
  | .forget credentialRef, _, w' => w' = { w with forgotten := w.forgotten ++ [(t, credentialRef)] }
  | .finish, _, w' => w' = w.finish t
  | .dispose, _, w' => w' = { w with disposed := true, connectionGeneration := w.connectionGeneration + 1 }
  | .listAccounts, _, w' | .accountKeyGenerator, _, w' | .connect _ _ _, _, w' | .onAuthenticated, _, w' | .refreshAccounts, _, w' => w' = w

end ConnectionDesk

section

variable (lowered : String → String) (js : String → String → Int)

/-- Any calls of `connectAccount`, `reconnectAccount` and `dispose`; what the window shows changes in between. -/
def accountConnections : System ConnectionCall ConnectionReply (Option (Except AccountConnectionErrorKind AccountKey)) ConnectionDesk where
  perform := ConnectionDesk.perform
  starts p := (∃ request target, p = startAccountConnection lowered js request target) ∨
    p = (do
      let _ ← Prog.call ConnectionCall.dispose
      pure none)
  env w w' := ∃ selectedAccountKey accounts, w' = { w with selectedAccountKey, accounts }

end

/-! ## The contract of an attempt -/

/-- An entry of a log at its end. -/
theorem by_append (log : List (Nat × String)) (t u : Nat) (credentialRef : String) :
    ((log ++ [(t, credentialRef)]).filter (·.1 = u)).map (·.2) =
      (log.filter (·.1 = u)).map (·.2) ++ (if u = t then [credentialRef] else []) := by
  rw [List.filter_append, List.map_append]
  by_cases hut : u = t
  · simp [hut]
  · simp [hut, Ne.symm hut]

/-- Where a call stands: in its attempt or not, what was authorised for it, and whether that was handed back. -/
structure ConnectionStage where
  running : Bool
  authorized : Option String
  forgotten : Bool

namespace ConnectionStage

def idle : ConnectionStage := ⟨false, none, false⟩

/-- What was authorised is handed back. -/
def GivenUp (s : ConnectionStage) : Prop := s.running = true ∧ s.forgotten = s.authorized.isSome

def may (s : ConnectionStage) : ConnectionCall → Prop
  | .start _ => s = idle
  | .dispose => True
  | .authorize _ _ => s.running = true ∧ s.authorized = none ∧ s.forgotten = false
  | .forget credentialRef => s.running = true ∧ s.authorized = some credentialRef ∧ s.forgotten = false
  | _ => s.running = true

def next (s : ConnectionStage) : (c : ConnectionCall) → ConnectionReply c → ConnectionStage
  | .start _, .started => { s with running := true }
  | .authorize _ _, some credentialRef => { s with authorized := some credentialRef }
  | .forget _, _ => { s with forgotten := true }
  | .finish, _ => { s with running := false }
  | _, _ => s

end ConnectionStage

def connectionContract : Contract ConnectionCall ConnectionReply ConnectionStage where
  may s c := s.may c
  step s c r s' := s' = s.next c r

/-- A part of an attempt that ends as `P` says, or gives the attempt up. -/
def Attempting {α : Type} (p : Connecting α) (P : α → ConnectionStage → Prop) (s : ConnectionStage) : Prop :=
  connectionContract.wpA p (fun r s' => (∀ a, r = .ok a → P a s') ∧ ∀ kind, r = .error kind → s'.GivenUp) s

namespace Attempting

variable {α β : Type} {s : ConnectionStage}

theorem bind {p : Connecting α} {f : α → Connecting β} {P : α → ConnectionStage → Prop} {Q : β → ConnectionStage → Prop}
    (hp : Attempting p P s) (hf : ∀ a s', P a s' → Attempting (f a) Q s') : Attempting (p >>= f) Q s := by
  refine Contract.wpA_bind_of hp (fun a s' ha => hf a s' (ha.1 a rfl)) fun kind s' hk => ⟨by rintro a ⟨⟩, ?_⟩
  rintro _ ⟨⟩
  exact hk.2 kind rfl

theorem pure {a : α} {P : α → ConnectionStage → Prop} (h : P a s) : Attempting (Pure.pure a) P s := by
  refine ⟨?_, by rintro kind ⟨⟩⟩
  rintro b ⟨⟩
  exact h

theorem throw {kind : AccountConnectionErrorKind} {P : α → ConnectionStage → Prop} (h : s.GivenUp) :
    Attempting (MonadExcept.throw kind : Connecting α) P s :=
  ⟨by rintro a ⟨⟩, fun _ _ => h⟩

theorem require {c : ConnectionCall} (hmay : s.may c) : Attempting (Boxplot.App.require c) (fun r s' => s' = s.next c r) s := by
  refine ⟨hmay, ?_⟩
  rintro r s' rfl
  refine ⟨?_, by rintro kind ⟨⟩⟩
  rintro a ⟨⟩
  rfl

/-- A request that changes nothing for the attempt. -/
theorem plain {c : ConnectionCall} (hmay : s.may c) (hnext : ∀ r, s.next c r = s) :
    Attempting (Boxplot.App.require c) (fun _ s' => s' = s) s := by
  refine connectionContract.wpA_mono (fun r s' h => ⟨fun a ha => ?_, h.2⟩) (require hmay)
  rw [h.1 a ha, hnext]

variable {ref : Option String}

theorem giveUp (kind : AccountConnectionErrorKind) {P : α → ConnectionStage → Prop} :
    Attempting (Boxplot.App.giveUp ref kind) P ⟨true, ref, false⟩ := by
  cases ref with
  | none => exact throw ⟨rfl, rfl⟩
  | some credentialRef =>
    refine bind (require (c := .forget credentialRef) ⟨rfl, rfl, rfl⟩) fun _ s' hs' => ?_
    rw [hs']
    exact throw ⟨rfl, rfl⟩

theorem unlessStale (generation : Nat) :
    Attempting (Boxplot.App.unlessStale generation ref) (fun _ s' => s' = ⟨true, ref, false⟩) ⟨true, ref, false⟩ := by
  refine bind (plain (c := .isCurrent generation) rfl fun _ => rfl) fun current s' hs' => ?_
  rw [hs']
  cases current with
  | true => exact pure rfl
  | false => exact giveUp .cancelled

theorem connectionConfig (request : AccountSetupRequest) (existing : Bool) (accountKey : AccountKey) (generation : Nat) :
    Attempting (Boxplot.App.connectionConfig request existing accountKey generation) (fun config s' => s' = ⟨true, config.2, false⟩)
      ⟨true, none, false⟩ := by
  cases request with
  | boxplotLocalImap => exact pure rfl
  | gmailOAuth username reauthorize =>
    unfold Boxplot.App.connectionConfig
    dsimp only
    split
    · exact pure rfl
    refine bind (plain (c := .hasBroker) rfl fun _ => rfl) fun broker s' hs' => ?_
    rw [hs']
    cases broker with
    | false => exact throw ⟨rfl, rfl⟩
    | true =>
      refine bind (require (c := .authorize accountKey username) ⟨rfl, rfl, rfl⟩) fun authorized s' hs' => ?_
      rw [hs']
      cases authorized with
      | none => exact throw ⟨rfl, rfl⟩
      | some credentialRef =>
        refine bind (unlessStale generation) fun _ s' hs' => ?_
        rw [hs']
        exact pure rfl

theorem connectWith (accountKey : AccountKey) (serviceKey : String) (config : RemoteConnectionConfig) (generation : Nat) :
    Attempting (Boxplot.App.connectWith accountKey serviceKey config ref generation) (fun _ s' => s' = ⟨true, ref, false⟩)
      ⟨true, ref, false⟩ := by
  -- from here on whatever goes wrong hands the credential back
  refine bind (plain (c := .connect accountKey serviceKey config) rfl fun _ => rfl) fun connected s' hs' => ?_
  rw [hs']
  cases connected with
  | error rejection =>
    refine bind (unlessStale generation) fun _ s' hs' => ?_
    rw [hs']
    exact giveUp _
  | ok _ =>
    refine bind (unlessStale generation) fun _ s' hs' => ?_
    rw [hs']
    refine bind (plain (c := .onAuthenticated) rfl fun _ => rfl) fun returned s' hs' => ?_
    rw [hs']
    cases returned with
    | false =>
      refine bind (unlessStale generation) fun _ s' hs' => ?_
      rw [hs']
      exact giveUp _
    | true =>
      refine bind (plain (c := .refreshAccounts) rfl fun _ => rfl) fun resolved s' hs' => ?_
      rw [hs']
      cases resolved with
      | false => exact giveUp _
      | true =>
        refine bind (unlessStale generation) fun _ s' hs' => ?_
        rw [hs']
        refine bind (plain (c := .isListed accountKey) rfl fun _ => rfl) fun listed s' hs' => ?_
        rw [hs']
        cases listed with
        | false => exact giveUp _
        | true => exact pure rfl

/-- An attempt keeps what was authorised for it if it connects the account, and hands it back if not. -/
theorem performAccountConnection (lowered : String → String) (js : String → String → Int) (request : AccountSetupRequest)
    (target : ConnectionAttemptTarget) :
    Attempting (Boxplot.App.performAccountConnection lowered js request target) (fun _ s' => s'.running = true ∧ s'.forgotten = false)
      ⟨true, none, false⟩ := by
  refine bind (plain (c := .nextGeneration) rfl fun _ => rfl) fun generation s' hs' => ?_
  rw [hs']
  cases generation with
  | none => exact throw ⟨rfl, rfl⟩
  | some generation =>
    refine bind (plain (c := .listAccounts) rfl fun _ => rfl) fun accounts s' hs' => ?_
    rw [hs']
    cases accounts with
    | rejected => exact throw ⟨rfl, rfl⟩
    | failed e =>
      refine bind (unlessStale generation) fun _ s' hs' => ?_
      rw [hs']
      exact throw ⟨rfl, rfl⟩
    | ok accounts =>
      refine bind (unlessStale generation) fun _ s' hs' => ?_
      rw [hs']
      refine bind (plain (c := .selected) rfl fun _ => rfl) fun selected s' hs' => ?_
      rw [hs']
      dsimp only
      split
      · exact throw ⟨rfl, rfl⟩
      refine bind (P := fun _ s' => s' = ⟨true, none, false⟩) ?_ fun accountKey s' hs' => ?_
      · cases existingAccount js accounts selected target with
        | some account => exact pure rfl
        | none => exact plain (c := .accountKeyGenerator) rfl fun _ => rfl
      rw [hs']
      split
      · exact throw ⟨rfl, rfl⟩
      refine bind (connectionConfig request _ accountKey generation) fun config s' hs' => ?_
      rw [hs']
      refine connectionContract.wpA_mono (fun r s' h => ⟨fun a ha => ?_, h.2⟩) (connectWith accountKey _ config.1 generation)
      rw [h.1 a ha]
      exact ⟨rfl, rfl⟩

end Attempting

/-- How a call comes out of its attempt. -/
structure ConnectionStage.Ended (r : Option (Except AccountConnectionErrorKind AccountKey)) (s : ConnectionStage) : Prop where
  running : s.running = false
  kept : (∃ accountKey, r = some (.ok accountKey)) → s.forgotten = false
  givenUp : (¬ ∃ accountKey, r = some (.ok accountKey)) → s.forgotten = s.authorized.isSome

theorem startAccountConnection_ends (lowered : String → String) (js : String → String → Int) (request : AccountSetupRequest)
    (target : ConnectionAttemptTarget) :
    connectionContract.wp (startAccountConnection lowered js request target) (fun r s => s.Ended r) .idle := by
  refine ⟨rfl, ?_⟩
  -- another attempt is joined, the call is refused, or it has an attempt of its own
  rintro (_ | _ | _) s rfl
  · exact ⟨rfl, by rintro ⟨accountKey, ⟨⟩⟩, fun _ => rfl⟩
  · exact ⟨rfl, by rintro ⟨accountKey, ⟨⟩⟩, fun _ => rfl⟩
  refine (connectionContract.wp_bind (performAccountConnection lowered js request target).run _ _ _).2 ?_
  refine connectionContract.wp_mono ?_ (Attempting.performAccountConnection lowered js request target)
  rintro (kind | accountKey) s ⟨hok, herror⟩
  · obtain ⟨hrunning, hforgotten⟩ := herror kind rfl
    refine ⟨hrunning, ?_⟩
    rintro r s' rfl
    exact ⟨rfl, by rintro ⟨accountKey, ⟨⟩⟩, fun _ => hforgotten⟩
  · obtain ⟨hrunning, hforgotten⟩ := hok accountKey rfl
    refine ⟨hrunning, ?_⟩
    rintro r s' rfl
    exact ⟨rfl, fun _ => hforgotten, fun hn => absurd ⟨accountKey, rfl⟩ hn⟩

/-! ## Every run -/

/-- What the broker was asked is what the calls had it do, and the attempt under way is that of the only call in one. -/
structure ConnectionDesk.Kept (w : ConnectionDesk) (σ : Nat → ConnectionStage) : Prop where
  authorized : ∀ t, w.authorizedBy t = (σ t).authorized.toList
  forgotten : ∀ t, w.forgottenBy t = if (σ t).forgotten then (σ t).authorized.toList else []
  active : ∀ t, (σ t).running = true → ∃ target, w.activeConnectionAttempt = some (target, t)

namespace ConnectionDesk.Kept

variable {w w' : ConnectionDesk} {σ : Nat → ConnectionStage} {t : Nat} {s : ConnectionStage}

/-- A step of a call that asks the broker nothing. -/
theorem stage (h : w.Kept σ) (ha : w'.authorized = w.authorized) (hf : w'.forgotten = w.forgotten) (hs : s.authorized = (σ t).authorized)
    (hs' : s.forgotten = (σ t).forgotten)
    (hactive : ∀ u, (Function.update σ t s u).running = true → ∃ target, w'.activeConnectionAttempt = some (target, u)) :
    w'.Kept (Function.update σ t s) where
  authorized u := by
    rw [authorizedBy, ha]
    refine (h.authorized u).trans ?_
    by_cases hut : u = t
    · subst hut
      rw [Function.update_self, hs]
    · rw [Function.update_of_ne hut]
  forgotten u := by
    rw [forgottenBy, hf]
    refine (h.forgotten u).trans ?_
    by_cases hut : u = t
    · subst hut
      rw [Function.update_self, hs, hs']
    · rw [Function.update_of_ne hut]
  active := hactive

/-- A step that changes neither the attempt under way nor the stage of the call. -/
theorem plain (h : w.Kept σ) (ha : w'.authorized = w.authorized) (hf : w'.forgotten = w.forgotten)
    (hactive : w'.activeConnectionAttempt = w.activeConnectionAttempt) : w'.Kept σ where
  authorized := by
    simp only [authorizedBy, ha]
    exact h.authorized
  forgotten := by
    simp only [forgottenBy, hf]
    exact h.forgotten
  active := hactive ▸ h.active

theorem running_of_update (hrunning : (σ t).running = true) {u : Nat} (hu : (Function.update σ t s u).running = true) :
    (σ u).running = true := by
  by_cases hut : u = t
  · rw [hut]
    exact hrunning
  · rwa [Function.update_of_ne hut] at hu

/-- The first credential of an attempt is authorised. -/
theorem authorize (h : w.Kept σ) (hrunning : (σ t).running = true) (hnone : (σ t).authorized = none) (hkept : (σ t).forgotten = false)
    (accountKey : AccountKey) (username credentialRef : String) :
    { w with authorized := w.authorized ++ [(t, credentialRef)] }.Kept
      (Function.update σ t ((σ t).next (.authorize accountKey username) (some credentialRef))) where
  authorized u := by
    refine (by_append w.authorized t u credentialRef).trans ?_
    rw [show (w.authorized.filter (·.1 = u)).map (·.2) = _ from h.authorized u]
    by_cases hut : u = t
    · subst hut
      rw [Function.update_self, hnone]
      simp [ConnectionStage.next]
    · simp [hut]
  forgotten u := by
    refine (h.forgotten u).trans ?_
    by_cases hut : u = t
    · subst hut
      rw [Function.update_self]
      simp [ConnectionStage.next, hkept]
    · rw [Function.update_of_ne hut]
  active u hu := h.active u (running_of_update hrunning hu)

/-- The credential of an attempt is handed back. -/
theorem forget (h : w.Kept σ) (hrunning : (σ t).running = true) {credentialRef : String} (hsome : (σ t).authorized = some credentialRef)
    (hkept : (σ t).forgotten = false) (r : ConnectionReply (.forget credentialRef)) :
    { w with forgotten := w.forgotten ++ [(t, credentialRef)] }.Kept (Function.update σ t ((σ t).next (.forget credentialRef) r)) where
  authorized u := by
    refine (h.authorized u).trans ?_
    by_cases hut : u = t
    · subst hut
      rw [Function.update_self]
      rfl
    · rw [Function.update_of_ne hut]
  forgotten u := by
    refine (by_append w.forgotten t u credentialRef).trans ?_
    rw [show (w.forgotten.filter (·.1 = u)).map (·.2) = _ from h.forgotten u]
    by_cases hut : u = t
    · subst hut
      rw [Function.update_self, hkept]
      simp [ConnectionStage.next, hsome]
    · simp [hut]
  active u hu := h.active u (running_of_update hrunning hu)

theorem call (h : w.Kept σ) {c : ConnectionCall} {r : ConnectionReply c} (hmay : (σ t).may c) (hp : w.perform t c r w') :
    w'.Kept (Function.update σ t ((σ t).next c r)) := by
  have hsame (hn : (σ t).next c r = σ t) (hk : w'.Kept σ) : w'.Kept (Function.update σ t ((σ t).next c r)) := by
    rw [hn, Function.update_eq_self]
    exact hk
  cases c with
  | listAccounts | accountKeyGenerator | connect | onAuthenticated | refreshAccounts =>
    obtain rfl : w' = w := hp
    exact hsame rfl h
  | isCurrent | selected | hasBroker | isListed =>
    obtain ⟨-, rfl⟩ := hp
    exact hsame rfl h
  | dispose =>
    obtain rfl := hp
    exact hsame rfl (h.plain rfl rfl rfl)
  | nextGeneration =>
    refine hsame rfl ?_
    replace hp : (r, w') = w.nextGeneration := hp
    unfold ConnectionDesk.nextGeneration at hp
    split at hp
    · cases hp
      exact h.plain rfl rfl rfl
    · cases hp
      exact h
  | start target =>
    replace hp : (r, w') = w.start t target := hp
    obtain hidle : σ t = .idle := hmay
    unfold ConnectionDesk.start at hp
    split at hp
    · split at hp
      · cases hp
        exact hsame rfl h
      · cases hp
        exact hsame rfl h
    · rename_i hfree
      cases hp
      refine h.stage rfl rfl rfl rfl fun u hu => ?_
      by_cases hut : u = t
      · subst hut
        exact ⟨target, rfl⟩
      · rw [Function.update_of_ne hut] at hu
        obtain ⟨other, hother⟩ := h.active u hu
        rw [hfree] at hother
        cases hother
  | authorize accountKey username =>
    obtain ⟨hrunning, hnone, hkept⟩ := hmay
    obtain rfl : w' = { w with authorized := w.authorized ++ r.toList.map (t, ·) } := hp
    cases r with
    | none => exact hsame rfl (h.plain (by simp) rfl rfl)
    | some credentialRef => exact h.authorize hrunning hnone hkept accountKey username credentialRef
  | forget credentialRef =>
    obtain ⟨hrunning, hsome, hkept⟩ := hmay
    obtain rfl : w' = { w with forgotten := w.forgotten ++ [(t, credentialRef)] } := hp
    exact h.forget hrunning hsome hkept r
  | finish =>
    have hrunning : (σ t).running = true := hmay
    obtain ⟨target, hactive⟩ := h.active t hrunning
    obtain rfl : w' = w.finish t := hp
    -- the attempt under way is this call's, so it is the one that is cleared
    have hw : w.finish t = { w with activeConnectionAttempt := none } := by simp [ConnectionDesk.finish, hactive]
    rw [hw]
    refine h.stage rfl rfl rfl rfl fun u hu => ?_
    by_cases hut : u = t
    · subst hut
      rw [Function.update_self] at hu
      cases hu
    · rw [Function.update_of_ne hut] at hu
      obtain ⟨other, hother⟩ := h.active u hu
      rw [hactive] at hother
      cases hother
      exact absurd rfl hut

end ConnectionDesk.Kept

variable {lowered : String → String} {js : String → String → Int} {remoteApplication googleOAuthBroker : Bool}
  {c : Pool ConnectionCall ConnectionReply (Option (Except AccountConnectionErrorKind AccountKey)) ConnectionDesk}

theorem connections_lasting : (accountConnections lowered js).LastingInvariant connectionContract .idle
    (.initial remoteApplication googleOAuthBroker) ConnectionDesk.Kept where
  init := ⟨fun _ => rfl, fun _ => rfl, by rintro t ⟨⟩⟩
  call hk hmay hp := ⟨_, rfl, hk.call hmay hp⟩
  env := by
    rintro w w' σ hk ⟨selected, accounts, rfl⟩
    exact hk.plain rfl rfl rfl

theorem connectionsRun_sound (h : (accountConnections lowered js).Run (System.idle (.initial remoteApplication googleOAuthBroker)) c) :
    ∃ σ, c.world.Kept σ ∧ ∀ t p, c.threads t = some p → connectionContract.wp p (fun r s => s.Ended r) (σ t) := by
  have hends : ∀ p, (accountConnections lowered js).starts p → connectionContract.wp p (fun r s => s.Ended r) .idle := by
    rintro p (⟨request, target, rfl⟩ | rfl)
    · exact startAccountConnection_ends lowered js request target
    · refine ⟨trivial, ?_⟩
      rintro r s rfl
      exact ⟨rfl, by rintro ⟨accountKey, ⟨⟩⟩, fun _ => rfl⟩
  obtain ⟨σ, hI, -, hthreads⟩ := System.Run.sound_lasting connections_lasting hends h
  exact ⟨σ, hI, hthreads⟩

/-- Whether a promise resolves to a connected account. -/
def connected : Option (Except AccountConnectionErrorKind AccountKey) → Bool
  | some (.ok _) => true
  | _ => false

theorem connected_iff {r : Option (Except AccountConnectionErrorKind AccountKey)} :
    connected r = true ↔ ∃ accountKey, r = some (.ok accountKey) := by
  rcases r with _ | _ | accountKey
  · simp [connected]
  · simp [connected]
  · simp [connected]

/-- A request of an attempt, not the one that asks for it. -/
def ConnectionCall.InAttempt : ConnectionCall → Prop
  | .start _ | .dispose => False
  | _ => True

/-- A call that has come back kept the credential authorised for it if it connected the account, and has handed it back if
it did not. Each call has at most one authorised, and hands none back twice or that is not its own. At most one call at a
time is in an attempt. -/
theorem credentials_settled (h : (accountConnections lowered js).Run (System.idle (.initial remoteApplication googleOAuthBroker)) c) :
    (∀ t r, c.threads t = some (.pure r) → c.world.forgottenBy t = if connected r then [] else c.world.authorizedBy t) ∧
    (∀ t, (c.world.authorizedBy t).length ≤ 1 ∧ (c.world.forgottenBy t = [] ∨ c.world.forgottenBy t = c.world.authorizedBy t)) ∧
    ∀ t t' e e' k k', c.threads t = some (.await e k) → c.threads t' = some (.await e' k') → e.InAttempt → e'.InAttempt → t = t' := by
  obtain ⟨σ, hw, hthreads⟩ := connectionsRun_sound h
  refine ⟨fun t r ht => ?_, fun t => ⟨?_, ?_⟩, ?_⟩
  · obtain ⟨-, hkept, hgivenUp⟩ := hthreads t _ ht
    rw [hw.forgotten, hw.authorized]
    cases hc : connected r with
    | true => simp [hkept (connected_iff.1 hc)]
    | false =>
      rw [hgivenUp (by rw [← connected_iff, hc]; simp)]
      cases (σ t).authorized <;> rfl
  · rw [hw.authorized]
    cases (σ t).authorized <;> simp
  · rw [hw.forgotten, hw.authorized]
    split
    · exact .inr rfl
    · exact .inl rfl
  · intro t t' e e' k k' ht ht' he he'
    have hrunning {u : Nat} {e : ConnectionCall} {k} (hu : c.threads u = some (.await e k)) (he : e.InAttempt) : (σ u).running = true := by
      have hmay : (σ u).may e := (hthreads u _ hu).1
      cases e with
      | start => cases he
      | dispose => cases he
      | authorize => exact hmay.1
      | forget => exact hmay.1
      | _ => exact hmay
    obtain ⟨target, hactive⟩ := hw.active t (hrunning ht he)
    obtain ⟨target', hactive'⟩ := hw.active t' (hrunning ht' he')
    rw [hactive] at hactive'
    cases hactive'
    rfl

/-- Ports that authorise the first account and refuse to connect it. -/
def refusingAnswer (w : ConnectionDesk) : (c : ConnectionCall) → Option (ConnectionReply c × ConnectionDesk)
  | .start target => some (w.start 0 target)
  | .nextGeneration => some w.nextGeneration
  | .listAccounts => some (.ok [], w)
  | .isCurrent generation => some (w.isCurrentConnection generation, w)
  | .selected => some (w.selectedAccountKey, w)
  | .accountKeyGenerator => some ("account-1", w)
  | .hasBroker => some (w.googleOAuthBroker, w)
  | .authorize accountKey _ =>
    some (some (gmailCredentialRefForAccount accountKey),
      { w with authorized := w.authorized ++ [(0, gmailCredentialRefForAccount accountKey)] })
  | .forget credentialRef => some ((), { w with forgotten := w.forgotten ++ [(0, credentialRef)] })
  | .connect _ _ _ => some (.error (.application .auth), w)
  | .finish => some ((), w.finish 0)
  | .onAuthenticated | .refreshAccounts | .isListed _ | .dispose => none

theorem refusingAnswer_performs {w w' : ConnectionDesk} {c : ConnectionCall} {r : ConnectionReply c} (h : refusingAnswer w c = some (r, w')) :
    w.perform 0 c r w' := by
  cases c with
  | start | nextGeneration => exact (Option.some.inj h).symm
  | listAccounts | accountKeyGenerator | connect | authorize | forget | finish =>
    cases h
    rfl
  | isCurrent | selected | hasBroker =>
    cases h
    exact ⟨rfl, rfl⟩
  | onAuthenticated | refreshAccounts | isListed | dispose => cases h

theorem refusingAnswer_ends : ((startAccountConnection id (fun _ _ => 0) (.gmailOAuth "alice@gmail.com" false) .firstRun).play
    refusingAnswer (.initial true true)).1 = some (some (.error .auth)) := rfl

/-- What was authorised for a connection that the server refuses is handed back. -/
theorem credentials_settled_refused : ∃ c, (accountConnections id fun _ _ => 0).Run (System.idle (.initial true true)) c ∧
    c.threads 0 = some (.pure (some (.error .auth))) ∧ c.world.forgottenBy 0 = [gmailCredentialRefForAccount "account-1"] := by
  have hanswer (w : ConnectionDesk) (e : ConnectionCall) (r : ConnectionReply e) (w' : ConnectionDesk)
      (h : refusingAnswer w e = some (r, w')) : (accountConnections id fun _ _ => 0).perform w 0 e r w' := refusingAnswer_performs h
  have hstarts : (accountConnections id fun _ _ => 0).starts
      (startAccountConnection id (fun _ _ => 0) (.gmailOAuth "alice@gmail.com" false) .firstRun) := .inl ⟨_, _, rfl⟩
  obtain ⟨c, hrun, hw, ht, -⟩ := System.Run.spawn (System.idle (.initial true true)) hstarts (Exec.of_play hanswer _ _)
  have hresult : c.threads 0 = some (.pure (some (.error .auth))) := ht.trans (congrArg _ refusingAnswer_ends)
  refine ⟨c, hrun, hresult, ?_⟩
  rw [(credentials_settled hrun).1 0 _ hresult, hw]
  rfl

end Boxplot.App
