import Boxplot.Outbox.Outbox
import Boxplot.Lib.Ledger
/-!
# What a run may do with a send

The stage of one run: it has claimed nothing, or has claimed an attempt, or has
called `submit` for it, or has its answer. `sendContract` says which requests a
stage allows. Both runners keep it, function by function, whatever their ports
answer; nothing here speaks of other runs or of the store.
-/

namespace Boxplot.Outbox

open Domain Remote Lib

/-- A failed submission that is known not to have been applied and may be tried again. -/
def retryable : JsError → Bool
  | .remote e => e.outcome ≠ .unknown ∧ e.retry.isSafe
  | .remoteMutationSource (.remote e) => e.outcome ≠ .unknown ∧ e.retry.isSafe
  | .remoteMutationSource .notConnected => true
  | _ => false

/-- How the promise of a `submit` may settle for the attempt to be released. -/
def Retryable : Except JsError SubmissionResult → Prop
  | .ok _ => False
  | .error e => retryable e = true

instance : DecidablePred Retryable := fun r =>
  match r with
  | .ok _ => inferInstanceAs (Decidable False)
  | .error e => inferInstanceAs (Decidable (retryable e = true))

inductive Stage
  /-- Nothing is claimed; `excused` if encryption was unavailable. -/
  | free (excused : Bool)
  | claimed (mutation : PendingMutation) (excused : Bool)
  | submitting (mutation : PendingMutation)
  | ended (mutation : PendingMutation) (retryable : Bool)
  deriving DecidableEq

/-! ## Allowed replacements -/

/-- The record of a mutation that a run may claim. -/
def Claimable (m : PendingMutation) : Prop := m.lifecycle = .pending 0 ∨ ∃ n i, m.lifecycle = .retrying n i

def IsClaim (expected next : PendingMutation) : Prop :=
  Claimable expected ∧ next = expected.replaceLifecycle (.inFlight (expected.attemptCount + 1))

def IsRelease (expected next : PendingMutation) : Prop :=
  ∃ i, next = expected.replaceLifecycle (.retrying expected.attemptCount i)

/-- The attempt is over for good. -/
def IsClose (next : PendingMutation) : Prop :=
  (∃ n c, next.lifecycle = .confirmed n c) ∨ ∃ n, next.lifecycle = .failedTerminal n

/-- The stage holds `m` and may give it back. -/
def Stage.mayRelease (s : Stage) (m : PendingMutation) : Prop := s = .claimed m true ∨ s = .ended m true

def Stage.mayReplace (s : Stage) (expected next : PendingMutation) : Prop :=
  ((∃ x, s = .free x) ∧ IsClaim expected next) ∨ (s.mayRelease expected ∧ IsRelease expected next) ∨ IsClose next

def Stage.may (s : Stage) : Call → Prop
  | .replacePendingMutationIfCurrent expected next => s.mayReplace expected next
  | .encryptFor _ => ∃ x, s = .free x
  | .submit m _ => ∃ x, s = .claimed m x
  | .submitSettled m => s = .submitting m
  | _ => True

/-! ## Where a reply leads -/

/-- After asking to store `next`; `stored` if the reply says it was. -/
def Stage.replaced (s : Stage) (next : PendingMutation) (stored : Bool) : Stage :=
  match next.lifecycle, s, stored with
  | .inFlight _, .free x, true => .claimed next x
  | .retrying _ _, _, _ => .free false
  | _, s, _ => s

def Stage.after (s : Stage) : (e : Call) → Reply e → Stage
  | .replacePendingMutationIfCurrent _ next, r => s.replaced next (r = .ok ())
  | .encryptFor _, r =>
    match s with
    | .free x => .free (x || r = .failed .unavailable)
    | s => s
  | .submit m _, _ => .submitting m
  | .submitSettled m, r => .ended m (Retryable r)
  | _, _ => s

/-- The store keeps the mutation under its key, so a read of it finds a send. -/
def Answers : (e : Call) → Reply e → Prop
  | .readPendingMutation accountKey mutationId, r =>
    ∀ m, r = .ok (.present m) → m.isSend = true ∧ m.accountKey = accountKey ∧ m.mutationId = mutationId
  | _, _ => True

def sendContract : Contract Call Reply Stage where
  may := Stage.may
  step s e r s' := Answers e r ∧ s' = s.after e r

/-! ## Rules -/

/-- An error that is none of a mutation source's failures. -/
def Mild {α : Type} (r : Except JsError α) : Prop := ∀ x, r = .error x → remoteFailureVerdict x = .reconcile

@[simp] theorem mild_ok {α : Type} (a : α) : Mild (.ok a : Except JsError α) := by intro x h; cases h
@[simp] theorem mild_error {α : Type} (m : String) : Mild (.error (.error m) : Except JsError α) := by
  intro x h; cases h; rfl
@[simp] theorem mild_typeError {α : Type} (m : String) : Mild (.error (.typeError m) : Except JsError α) := by
  intro x h; cases h; rfl

variable {α β : Type} {Q : Except JsError α → Stage → Prop} {s : Stage}

theorem wp_ask {e : Call} {Q : Except JsError (Reply e) → Stage → Prop} (hmay : s.may e)
    (h : ∀ r, Answers e r → Q (.ok r) (s.after e r)) : sendContract.wpA (ask e) Q s := by
  refine (sendContract.wpA_call _ _ _).2 ⟨hmay, ?_⟩
  rintro r s' ⟨ha, rfl⟩
  exact h r ha

theorem wp_received {ε : Type} {r : PortReply ε β} {Q : Except JsError (Except ε β) → Stage → Prop}
    (hok : ∀ v, r = .ok v → Q (.ok (.ok v)) s) (hfailed : ∀ e, r = .failed e → Q (.ok (.error e)) s)
    (hrejected : r = .rejected → Q (.error (.error "port rejected")) s) : sendContract.wpA (received r) Q s := by
  cases r with
  | ok v => exact hok v rfl
  | failed e => exact hfailed e rfl
  | rejected => exact hrejected rfl

theorem wp_checked {r : Checked α} (hok : ∀ v, r = .ok v → Q (.ok v) s)
    (herror : ∀ m, Q (.error (.typeError m)) s) : sendContract.wpA (checked r) Q s := by
  cases r with
  | ok v => exact hok v rfl
  | error m => exact herror m

/-! ## Recording -/

/-- Recording that the attempt is over moves no stage. -/
theorem IsClose.replaced {next : PendingMutation} (h : IsClose next) (s : Stage) (b : Bool) : s.replaced next b = s := by
  rcases h with ⟨n, c, h⟩ | ⟨n, h⟩ <;> simp [Stage.replaced, h]

theorem IsRelease.replaced {expected next : PendingMutation} (h : IsRelease expected next) (s : Stage) (b : Bool) :
    s.replaced next b = .free false := by
  obtain ⟨i, rfl⟩ := h
  cases s <;> rfl

theorem endAttempt_close {message : String} {next : Nat → Lifecycle} {m m' : PendingMutation}
    (h : endAttempt message next m = .ok m') (hnext : ∀ n, (∃ k c, next n = .confirmed k c) ∨ ∃ k, next n = .failedTerminal k) :
    IsClose m' := by
  obtain ⟨-, rfl⟩ := endAttempt_ok h
  exact hnext _

theorem confirmSend_close {m m' : PendingMutation} {c : SendConfirmation} (h : confirmSendMutation m c = .ok m') :
    IsClose m' := by
  obtain ⟨-, rfl⟩ := confirmSendMutation_ok h
  exact .inl ⟨_, _, rfl⟩

theorem scheduleRetry_release {m m' : PendingMutation} {i : MutationInstant} (h : scheduleMutationRetry m i = .ok m') :
    IsRelease m m' := by
  obtain ⟨-, rfl⟩ := endAttempt_ok h
  exact ⟨i, rfl⟩

theorem wp_replace {expected next : PendingMutation} {Q : Except JsError Bool → Stage → Prop}
    (hmay : s.mayReplace expected next) (h : ∀ r b, Mild r → Q r (s.replaced next b)) :
    sendContract.wpA (replace expected next) Q s := by
  unfold replace
  simp only [Contract.wpA_bind]
  refine wp_ask hmay fun r _ => ?_
  simp only [Contract.andThen_ok, Contract.wpA_bind]
  refine wp_received (fun v _ => ?_) (fun e _ => ?_) (fun _ => ?_)
  · exact h _ _ (mild_ok true)
  · cases e with
    | conflict => exact h _ _ (mild_ok false)
    | _ => exact h _ _ (mild_error _)
  · exact h _ _ (mild_error _)

theorem wp_removeConfirmed {m : PendingMutation} {Q : Except JsError Unit → Stage → Prop} (h : ∀ r, Mild r → Q r s) :
    sendContract.wpA (removeConfirmed m) Q s := by
  unfold removeConfirmed
  simp only [Contract.wpA_bind]
  refine wp_ask trivial fun r _ => ?_
  simp only [Contract.andThen_ok, Contract.wpA_bind]
  refine wp_received (fun v _ => ?_) (fun e _ => ?_) (fun _ => ?_)
  · exact h _ (mild_ok ())
  · cases e with
    | conflict => exact h _ (mild_ok ())
    | _ => exact h _ (mild_error _)
  · exact h _ (mild_error _)

theorem wp_settleConfirmed {m confirmed : PendingMutation} {Q : Except JsError MutationExecutionOutcome → Stage → Prop}
    (hc : IsClose confirmed) (h : ∀ r, Mild r → Q r s) : sendContract.wpA (settleConfirmed m confirmed) Q s := by
  unfold settleConfirmed confirmAndRemove
  simp only [Contract.wpA_bind]
  refine wp_replace (.inr (.inr hc)) fun r b hr => ?_
  rw [hc.replaced]
  cases r with
  | error x => exact h _ fun y hy => hr y (by cases hy; rfl)
  | ok v =>
    cases v with
    | false => exact h _ (mild_ok _)
    | true =>
      simp only [Contract.andThen_ok, if_true, Contract.wpA_bind]
      refine wp_removeConfirmed fun r' hr' => ?_
      cases r' with
      | ok _ => exact h _ (mild_ok _)
      | error x => exact h _ fun y hy => hr' y (by cases hy; rfl)

theorem wp_settleTerminal {m : PendingMutation} {Q : Except JsError MutationExecutionOutcome → Stage → Prop}
    (h : ∀ r, Mild r → Q r s) : sendContract.wpA (settleTerminal m) Q s := by
  unfold settleTerminal
  simp only [Contract.wpA_bind]
  refine wp_checked (fun next hnext => ?_) (fun _ => h _ (mild_typeError _))
  have hc : IsClose next := endAttempt_close hnext fun n => .inr ⟨n, rfl⟩
  simp only [Contract.andThen_ok, Contract.wpA_bind]
  refine wp_replace (.inr (.inr hc)) fun r b hr => ?_
  rw [hc.replaced]
  cases r with
  | ok v => exact h _ (mild_ok _)
  | error x => exact h _ fun y hy => hr y (by cases hy; rfl)

/-- A run gives back the attempt it holds. -/
theorem wp_settleRetry {deps : MutationRunnerDependencies} {m : PendingMutation}
    {Q : Except JsError MutationExecutionOutcome → Stage → Prop} (hs : s.mayRelease m) (h : ∀ r s', Q r s') :
    sendContract.wpA (settleRetry deps m) Q s := by
  unfold settleRetry
  simp only [Contract.wpA_bind]
  refine wp_ask trivial fun now _ => ?_
  simp only [Contract.andThen_ok, Contract.wpA_bind]
  refine wp_checked (fun instant _ => ?_) (fun _ => h _ _)
  simp only [Contract.andThen_ok, Contract.wpA_bind]
  refine wp_checked (fun next hnext => ?_) (fun _ => h _ _)
  simp only [Contract.andThen_ok, Contract.wpA_bind]
  refine wp_replace (.inr (.inl ⟨hs, scheduleRetry_release hnext⟩)) fun r b _ => ?_
  cases r with
  | ok v => exact h _ _
  | error x => exact h _ _

/-! ## `DefaultMutationRunner` -/

/-- A retry verdict needs a retryable error. -/
theorem retryable_of_verdict {x : JsError} (h : remoteFailureVerdict x = .retry) : retryable x = true := by
  cases x with
  | remoteMutationSource failure =>
    cases failure with
    | notConnected => rfl
    | remote e =>
      simp only [remoteFailureVerdict] at h
      split at h
      · cases h
      · split at h
        · rename_i hr
          obtain ⟨ho, hs⟩ := hr
          simp only [retryable, ho]
          rcases hs with hs | hs <;> simp [hs, RetryDisposition.isSafe]
        · cases h
    | _ => cases h
  | _ => cases h

theorem wp_settleRemoteFailure {deps : MutationRunnerDependencies} {m : PendingMutation} {x : JsError}
    {Q : Except JsError MutationExecutionOutcome → Stage → Prop}
    (hs : remoteFailureVerdict x = .retry → s.mayRelease m) (h : ∀ r s', Q r s') :
    sendContract.wpA (settleRemoteFailure deps m x) Q s := by
  unfold settleRemoteFailure
  cases hv : remoteFailureVerdict x with
  | retry => exact wp_settleRetry (hs hv) h
  | reconcile => exact h _ _
  | terminal => exact wp_settleTerminal fun r _ => h r _

theorem wp_executeSend {deps : MutationRunnerDependencies} {m : PendingMutation} {message : RemoteSubmissionDraft}
    {x : Bool} {Q : Except JsError MutationExecutionOutcome → Stage → Prop} (h : ∀ r s', Q r s') :
    sendContract.wpA (executeSend deps m message) Q (.claimed m x) := by
  unfold executeSend
  have mild : ∀ r s', Mild r → sendContract.orElse (settleRemoteFailure deps m) Q r s' := by
    intro r s' hr
    cases r with
    | ok v => exact h _ _
    | error y => exact wp_settleRemoteFailure (fun hv => by rw [hr y rfl] at hv; cases hv) h
  simp only [Contract.wpA_tryCatch, Contract.wpA_bind]
  refine wp_ask ⟨x, rfl⟩ fun _ _ => ?_
  simp only [Contract.andThen_ok, Contract.wpA_bind]
  refine wp_ask rfl fun r _ => ?_
  simp only [Contract.andThen_ok, Contract.wpA_bind, settled, Contract.wpA_lift]
  cases r with
  | error y =>
    refine wp_settleRemoteFailure (fun hv => .inr ?_) h
    have hr : Retryable (.error y) := retryable_of_verdict hv
    simp [Stage.after, hr]
  | ok result =>
    simp only [Contract.andThen_ok]
    cases hid : result.remoteEmailId with
    | none => exact mild (.ok .needsReconciliation) _ (mild_ok _)
    | some id =>
      simp only [Contract.wpA_bind]
      refine wp_checked (fun emailId _ => ?_) (fun e => mild (.error (.typeError e)) _ (mild_typeError e))
      simp only [Contract.andThen_ok, Contract.wpA_bind]
      refine wp_checked (fun confirmed hc => ?_) (fun e => mild (.error (.typeError e)) _ (mild_typeError e))
      exact wp_settleConfirmed (confirmSend_close hc) fun r hr => mild r _ hr

/-- Preparing a send submits nothing, and calls encryption unavailable only when it was. -/
theorem wp_prepareSend {intent : SendIntent} {Q : Except JsError PreparedSend → Stage → Prop}
    (h : ∀ r x, (r = .ok (.e2eeFailure .unavailable) → x = true) → Q r (.free x)) :
    sendContract.wpA (prepareSend intent) Q (.free false) := by
  unfold prepareSend
  cases hm : intent.securityMode with
  | plain =>
    simp only [Contract.wpA_bind]
    exact wp_checked (fun m _ => h _ _ (by simp)) (fun m => h _ _ (by simp))
  | boxplotE2eeV1 =>
    simp only [Contract.wpA_bind]
    have reply : ∀ r x, (r = .ok (.error .unavailable) → x = true) →
        sendContract.andThen (prepareEncrypted intent) Q r (.free x) := by
      intro r x hx
      rcases r with y | e | envelope
      · exact h (.error y) x (by simp)
      · exact h (.ok (.e2eeFailure e)) x fun he => hx (by simpa using he)
      · simp only [Contract.andThen_ok, prepareEncrypted, Contract.wpA_bind]
        exact wp_checked (fun m _ => h (.ok (.ready m)) x (by simp)) (fun m => h (.error (.typeError m)) x (by simp))
    unfold encryptSendIntent
    split
    · simp only [Contract.wpA_bind]
      refine wp_ask ⟨false, rfl⟩ fun r _ => ?_
      simp only [Contract.andThen_ok]
      cases r with
      | ok envelope => exact reply (.ok (.ok envelope)) _ (by simp)
      | failed e => exact reply (.ok (.error e)) _ (by rintro ⟨⟩; rfl)
      | rejected => exact reply (.error (.error "encryptFor rejected")) _ (by simp)
    · exact reply (.ok (.error .multipleRecipientsUnsupported)) _ (by simp)

theorem wp_execute {deps : MutationRunnerDependencies} {m : PendingMutation} {prepared : Option PreparedSend} {x : Bool}
    {Q : Except JsError MutationExecutionOutcome → Stage → Prop} (hsend : m.isSend = true)
    (hx : prepared = some (.e2eeFailure .unavailable) → x = true) (h : ∀ r s', Q r s') :
    sendContract.wpA (execute deps m prepared) Q (.claimed m x) := by
  unfold execute
  cases hp : m.payload with
  | send intent =>
    rcases prepared with - | message | error
    · exact wp_settleTerminal fun r _ => h r _
    · exact wp_executeSend h
    · by_cases he : error = .unavailable
      · subst he
        exact wp_settleRetry (.inl (by rw [hx rfl])) h
      · have ht : settleE2eeFailure deps m error = settleTerminal m := by
          cases error <;> first | rfl | exact absurd rfl he
        simp only [ht]
        exact wp_settleTerminal fun r _ => h r _
  | _ => simp [PendingMutation.isSend, hp] at hsend

theorem wp_claimAndExecute {deps : MutationRunnerDependencies} {accountKey : AccountKey} {current : PendingMutation}
    {Q : Except JsError MutationExecutionOutcome → Stage → Prop} (hsend : current.isSend = true)
    (h : ∀ r s', Q r s') : sendContract.wpA (claimAndExecute deps accountKey current) Q (.free false) := by
  unfold claimAndExecute
  simp only [Contract.wpA_bind]
  refine wp_ask trivial fun connected _ => ?_
  simp only [Contract.andThen_ok]
  cases connected with
  | false => exact h _ _
  | true =>
    obtain ⟨intent, hp⟩ : ∃ intent, current.payload = .send intent := by
      cases hp : current.payload with
      | send intent => exact ⟨intent, rfl⟩
      | _ => simp [PendingMutation.isSend, hp] at hsend
    simp only [if_true, Contract.wpA_bind, prepare, hp]
    refine wp_prepareSend fun r x hx => ?_
    cases r with
    | error y => exact h _ _
    | ok prepared =>
      simp only [Contract.andThen_ok, Contract.wpA_bind, Contract.wpA_pure]
      refine wp_checked (fun inFlight hstart => ?_) (fun _ => h _ _)
      obtain ⟨hclaim, hnext⟩ := startMutationAttempt_ok hstart
      simp only [Contract.andThen_ok, Contract.wpA_bind]
      refine wp_ask (.inl ⟨⟨x, rfl⟩, hclaim, hnext⟩) fun r _ => ?_
      simp only [Contract.andThen_ok, Contract.wpA_bind]
      refine wp_received (fun v hv => ?_) (fun e _ => ?_) (fun _ => h _ _)
      · subst hv hnext
        refine wp_execute hsend (fun he => ?_) h
        exact hx (by simpa using he)
      · cases e <;> exact h _ _

/-- Reconciling a send asks for evidence, and at most confirms. -/
theorem wp_reconcileSend {deps : MutationRunnerDependencies} {m : PendingMutation}
    {Q : Except JsError MutationExecutionOutcome → Stage → Prop} (h : ∀ r, Q r s) :
    sendContract.wpA (reconcileSend deps m) Q s := by
  unfold reconcileSend
  split
  · have any : ∀ r, sendContract.orElse (fun _ => pure .needsReconciliation) Q r s := by
      intro r
      cases r with
      | ok v => exact h _
      | error y => exact h _
    simp only [Contract.wpA_tryCatch, Contract.wpA_bind]
    refine wp_ask trivial fun r _ => ?_
    simp only [Contract.andThen_ok, Contract.wpA_bind, settled, Contract.wpA_lift]
    rcases r with y | id | -
    · exact any (.error y)
    · simp only [Contract.andThen_ok, Contract.wpA_bind]
      refine wp_checked (fun emailId _ => ?_) (fun e => any (.error (.typeError e)))
      simp only [Contract.andThen_ok, Contract.wpA_bind]
      refine wp_checked (fun confirmed hc => ?_) (fun e => any (.error (.typeError e)))
      exact wp_settleConfirmed (confirmSend_close hc) fun r _ => any r
    · exact any (.ok .needsReconciliation)
  · exact h _

/-- `runMutation` keeps the contract of a send. -/
theorem wp_runMutation (deps : MutationRunnerDependencies) (accountKey : AccountKey) (mutationId : MutationId) :
    sendContract.wpA (runMutation deps accountKey mutationId) (fun _ _ => True) (.free false) := by
  unfold runMutation readMutation
  simp only [Contract.wpA_bind]
  refine wp_ask trivial fun r hr => ?_
  simp only [Contract.andThen_ok, Contract.wpA_bind]
  refine wp_received (fun v hv => ?_) (fun _ _ => trivial) (fun _ => trivial)
  cases v with
  | ownerAbsent => trivial
  | absent => trivial
  | present current =>
    subst hv
    have hsend : current.isSend = true := (hr current rfl).1
    simp only [Contract.andThen_ok, Contract.wpA_pure]
    cases hl : current.lifecycle with
    | confirmed n c =>
      simp only [Contract.wpA_bind]
      refine wp_removeConfirmed fun r _ => ?_
      cases r <;> trivial
    | failedTerminal n => trivial
    | inFlight n =>
      obtain ⟨intent, hp⟩ : ∃ intent, current.payload = .send intent := by
        cases hp : current.payload with
        | send intent => exact ⟨intent, rfl⟩
        | _ => simp [PendingMutation.isSend, hp] at hsend
      simp only [reconcile, hp]
      exact wp_reconcileSend fun _ => trivial
    | retrying n i =>
      simp only [Contract.wpA_bind]
      refine wp_ask trivial fun now _ => ?_
      simp only [Contract.andThen_ok]
      split
      · trivial
      · exact wp_claimAndExecute hsend fun _ _ => trivial
    | pending n => exact wp_claimAndExecute hsend fun _ _ => trivial

/-! ## `Outbox` -/

theorem wp_readCurrentSendMutation {accountKey : AccountKey} {mutationId : MutationId}
    {Q : Except JsError MutationLookup → Stage → Prop}
    (h : ∀ r, (∀ m, r = .ok (.found m) → m.isSend = true) → Q r s) :
    sendContract.wpA (readCurrentSendMutation accountKey mutationId) Q s := by
  unfold readCurrentSendMutation
  simp only [Contract.wpA_bind]
  refine wp_ask trivial fun r _ => ?_
  simp only [Contract.andThen_ok, Contract.wpA_bind]
  refine wp_received (fun v _ => ?_) (fun _ _ => h (.error _) (by simp)) (fun _ => h (.error _) (by simp))
  cases v with
  | ownerAbsent => exact h (.error _) (by simp)
  | absent => exact h (.ok .notFound) (by simp)
  | present m =>
    simp only [Contract.andThen_ok]
    split
    · rename_i hsend
      cases m.lifecycle with
      | pending n => exact h (.ok (.found m)) (by rintro _ ⟨⟩; exact hsend)
      | retrying n i =>
        simp only [Contract.wpA_bind]
        refine wp_ask trivial fun now _ => ?_
        refine h _ fun m' hm' => ?_
        simp only [Except.ok.injEq] at hm'
        split at hm'
        · cases hm'; exact hsend
        · cases hm'
      | inFlight n => exact h (.ok .alreadyInFlight) (by simp)
      | confirmed n c => exact h (.ok .terminal) (by simp)
      | failedTerminal n => exact h (.ok .terminal) (by simp)
    · exact h (.error _) (by simp)

theorem wp_settleKnownFailure {m : PendingMutation} {x : JsError} {Q : Except JsError Unit → Stage → Prop}
    (hs : isRetryableRemoteFailure x = true → s.mayRelease m) (h : ∀ r s', Q r s') :
    sendContract.wpA (settleKnownFailure m x) Q s := by
  have record : ∀ next, s.mayReplace m next → sendContract.wpA (recordKnownFailure m next) Q s := by
    intro next hmay
    unfold recordKnownFailure
    simp only [Contract.wpA_bind]
    refine wp_ask hmay fun r _ => ?_
    simp only [Contract.andThen_ok, Contract.wpA_bind]
    exact wp_received (fun _ _ => h _ _) (fun _ _ => h _ _) (fun _ => h _ _)
  unfold settleKnownFailure knownFailure
  simp only [Contract.wpA_bind]
  split
  · rename_i hx
    simp only [Contract.wpA_bind]
    refine wp_ask trivial fun now _ => ?_
    simp only [Contract.andThen_ok]
    refine wp_checked (fun next hnext => ?_) (fun _ => h _ _)
    exact record next (.inr (.inl ⟨hs hx, scheduleRetry_release hnext⟩))
  · refine wp_checked (fun next hnext => ?_) (fun _ => h _ _)
    exact record next (.inr (.inr (endAttempt_close hnext fun n => .inr ⟨n, rfl⟩)))

theorem wp_confirmSent {accountKey : AccountKey} {mutationId : MutationId} {m : PendingMutation}
    {result : SubmissionResult} {Q : Except JsError SendMutationOutcome → Stage → Prop} (h : ∀ r s', Q r s') :
    sendContract.wpA (confirmSent accountKey mutationId m result) Q s := by
  unfold confirmSent
  cases result.remoteEmailId with
  | none => exact h _ _
  | some id =>
    simp only [Contract.wpA_bind]
    refine wp_checked (fun emailId _ => ?_) (fun _ => h _ _)
    simp only [Contract.andThen_ok, Contract.wpA_bind]
    refine wp_checked (fun confirmed hc => ?_) (fun _ => h _ _)
    simp only [Contract.andThen_ok, Contract.wpA_bind]
    refine wp_ask (.inr (.inr (confirmSend_close hc))) fun r _ => ?_
    simp only [Contract.andThen_ok, Contract.wpA_bind]
    refine wp_received (fun _ _ => ?_) (fun _ _ => h _ _) (fun _ => h _ _)
    simp only [Contract.andThen_ok, Contract.wpA_bind]
    refine wp_ask trivial fun r _ => ?_
    simp only [Contract.andThen_ok, Contract.wpA_bind]
    exact wp_received (fun _ _ => h _ _) (fun _ _ => h _ _) (fun _ => h _ _)

theorem wp_submitClaimed {accountKey : AccountKey} {remoteAccountId : String} {mutationId : MutationId}
    {m : PendingMutation} {intent : SendIntent} {x : Bool} {Q : Except JsError SendMutationOutcome → Stage → Prop}
    (h : ∀ r s', Q r s') :
    sendContract.wpA (submitClaimed accountKey remoteAccountId mutationId m intent) Q (.claimed m x) := by
  unfold submitClaimed
  simp only [Contract.wpA_bind]
  refine wp_checked (fun message _ => ?_) (fun _ => h _ _)
  simp only [Contract.andThen_ok, Contract.wpA_bind]
  refine wp_ask ⟨x, rfl⟩ fun _ _ => ?_
  simp only [Contract.andThen_ok, Contract.wpA_bind]
  refine wp_ask rfl fun r _ => ?_
  simp only [Contract.andThen_ok]
  cases r with
  | ok value => exact wp_confirmSent h
  | error e =>
    simp only
    split
    · exact h _ _
    · rename_i hamb
      simp only [Contract.wpA_bind]
      refine wp_settleKnownFailure (fun hr => .inr ?_) fun r s' => ?_
      · -- a failure that is neither ambiguous nor final is retryable
        have hret : Retryable (.error e) := by
          cases e with
          | remote e =>
            simp only [isAmbiguousSubmissionFailure, isRetryableRemoteFailure, decide_eq_true_eq, not_or] at hamb hr
            simp only [Retryable, retryable, decide_eq_true_eq]
            refine ⟨hamb.2, ?_⟩
            rcases hr with hr | hr <;> simp [hr, RetryDisposition.isSafe]
          | _ => simp [isRetryableRemoteFailure] at hr
        simp [Stage.after, hret]
      · cases r <;> exact h _ _

/-- `processSendMutation` keeps the contract of a send. -/
theorem wp_processSendMutation (accountKey : AccountKey) (remoteAccountId : String) (mutationId : MutationId) :
    sendContract.wpA (processSendMutation accountKey remoteAccountId mutationId) (fun _ _ => True) (.free false) := by
  unfold processSendMutation
  simp only [Contract.wpA_bind]
  refine wp_readCurrentSendMutation fun r hr => ?_
  rcases r with y | ⟨expected⟩ | - | - | - | -
  · trivial
  · have hsend : expected.isSend = true := hr expected rfl
    unfold claimAndSubmit
    simp only [Contract.andThen_ok, Contract.wpA_bind]
    refine wp_checked (fun inFlight hstart => ?_) (fun _ => trivial)
    obtain ⟨hclaim, rfl⟩ := startMutationAttempt_ok hstart
    simp only [Contract.andThen_ok, Contract.wpA_bind]
    refine wp_ask (.inl ⟨⟨false, rfl⟩, hclaim, rfl⟩) fun r _ => ?_
    simp only [Contract.andThen_ok, Contract.wpA_bind]
    refine wp_received (fun v hv => ?_) (fun e _ => ?_) (fun _ => trivial)
    · subst hv
      simp only [Contract.andThen_ok, PendingMutation.replaceLifecycle_payload]
      cases hp : expected.payload with
      | send intent => exact wp_submitClaimed fun _ _ => trivial
      | _ => simp [PendingMutation.isSend, hp] at hsend
    · cases e <;> trivial
  all_goals trivial

end Boxplot.Outbox
