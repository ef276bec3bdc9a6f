import Boxplot.Outbox.Sealed
/-!
# Two encrypted sends that differ in their bodies

One run over each of two intents, alike but for the body's text and html. The
two programs make the same requests of the remote as long as they get the same
replies, the store's records and the port's input apart.
-/

namespace Boxplot.Outbox

open Domain Remote Lib

/-- Intents that differ at most in the body. -/
def SameButBody (intent intent' : SendIntent) : Prop := intent' = { intent with body := intent'.body }

/-- The same record, of the one intent and of the other. -/
def Twin (intent intent' : SendIntent) (m m' : PendingMutation) : Prop :=
  m.payload = .send intent ∧ m' = { m with payload := .send intent' }

/-- Requests that show the bodies to the store and to the encryption port only. -/
def SameRequest (intent intent' : SendIntent) : Call → Call → Prop
  | .replacePendingMutationIfCurrent expected next, .replacePendingMutationIfCurrent expected' next' =>
    Twin intent intent' expected expected' ∧ Twin intent intent' next next'
  | .encryptFor input, .encryptFor input' => input' = { input with text := input'.text, html := input'.html }
  | .submit m request, .submit m' request' => Twin intent intent' m m' ∧ request = request'
  | .submitSettled m, .submitSettled m' => Twin intent intent' m m'
  | e, e' => e = e'

/-- The same reply; a record that is read is the one of the run's own intent. -/
def SameReply (intent intent' : SendIntent) : (e e' : Call) → Reply e → Reply e' → Prop
  | .readPendingMutation _ _, .readPendingMutation _ _, r, r' =>
    (∃ m m', r = .ok (.present m) ∧ r' = .ok (.present m') ∧ Twin intent intent' m m') ∨
      (r = r' ∧ ∀ m, r ≠ .ok (.present m))
  | _, _, r, r' => HEq r r'

def twins (intent intent' : SendIntent) : Coupling Call Reply := ⟨SameRequest intent intent', SameReply intent intent'⟩

section TwoRuns

variable {intent intent' : SendIntent} {α β : Type}

/-- Two programs alike in all but the intent's body. -/
abbrev Twins (intent intent' : SendIntent) (Q : α → β → Prop) (p : Promise α) (p' : Promise β) : Prop :=
  AlikeA (twins intent intent') Q p p'

theorem Twin.replaceLifecycle {m m' : PendingMutation} (h : Twin intent intent' m m') (l : Lifecycle) :
    Twin intent intent' (m.replaceLifecycle l) (m'.replaceLifecycle l) := by
  obtain ⟨hm, rfl⟩ := h
  exact ⟨hm, rfl⟩

theorem twins_received {ε : Type} (r : PortReply ε α) : Twins intent intent' Eq (received r) (received r) := by
  cases r with
  | ok v => exact .pure rfl
  | failed e => exact .pure rfl
  | rejected => exact .throw _

/-- A checked step on twin records. -/
theorem twins_checked {r : Checked α} {r' : Checked β} {Q : α → β → Prop} (h : SameOutcome Q r r') :
    Twins intent intent' Q (checked r) (checked r') := by
  refine .lift ?_
  cases r with
  | ok a =>
    cases r' with
    | ok b => exact h
    | error e => exact h.elim
  | error e =>
    cases r' with
    | ok b => exact h.elim
    | error e' => exact congrArg JsError.typeError h

theorem sameOutcome_refl {X : Type} (r : Except X α) : SameOutcome Eq r r := by
  cases r <;> rfl

theorem Twin.startMutationAttempt {m m' : PendingMutation} (h : Twin intent intent' m m') :
    SameOutcome (Twin intent intent') (startMutationAttempt m) (startMutationAttempt m') := by
  have hl : m'.lifecycle = m.lifecycle := by rw [h.2]
  unfold Domain.startMutationAttempt
  rw [hl]
  cases m.lifecycle with
  | pending n =>
    by_cases hn : n = 0
    · simpa [hn] using h.replaceLifecycle _
    · simp [hn]
  | retrying n i =>
    simp only [bind, Except.bind]
    cases assertStartedAttemptCount n with
    | error e => rfl
    | ok _ =>
      cases assertStartedAttemptCount (n + 1) with
      | error e => rfl
      | ok _ => exact h.replaceLifecycle _
  | _ => rfl

theorem Twin.endAttempt {m m' : PendingMutation} (h : Twin intent intent' m m') (message : String) (next : Nat → Lifecycle) :
    SameOutcome (Twin intent intent') (endAttempt message next m) (endAttempt message next m') := by
  have hl : m'.lifecycle = m.lifecycle := by rw [h.2]
  unfold Domain.endAttempt
  rw [hl]
  cases m.lifecycle with
  | inFlight n =>
    simp only [bind, Except.bind]
    cases assertStartedAttemptCount n with
    | error e => rfl
    | ok _ => exact h.replaceLifecycle _
  | _ => rfl

theorem Twin.confirmSendMutation {m m' : PendingMutation} (h : Twin intent intent' m m') (c : SendConfirmation) :
    SameOutcome (Twin intent intent') (confirmSendMutation m c) (confirmSendMutation m' c) := by
  have hl : m'.lifecycle = m.lifecycle := by rw [h.2]
  have ha : m'.accountKey = m.accountKey := by rw [h.2]
  unfold Domain.confirmSendMutation
  rw [hl, ha]
  cases m.lifecycle with
  | inFlight n =>
    simp only [bind, Except.bind]
    cases assertStartedAttemptCount n with
    | error e => rfl
    | ok _ =>
      by_cases hc : c.emailId.accountKey = m.accountKey
      · simpa [hc] using h.replaceLifecycle _
      · simp [hc]
  | _ => rfl

theorem twins_replace {expected expected' next next' : PendingMutation} (he : Twin intent intent' expected expected')
    (hn : Twin intent intent' next next') : Twins intent intent' Eq (replace expected next) (replace expected' next') := by
  refine .bind (.call ⟨he, hn⟩ fun r r' hr => eq_of_heq hr) ?_
  rintro r _ rfl
  refine .bind (twins_received r) ?_
  rintro (e | _) _ rfl
  · cases e <;> first | exact .pure rfl | exact .throw _
  · exact .pure rfl

theorem twins_removeConfirmed {m m' : PendingMutation} (h : Twin intent intent' m m') :
    Twins intent intent' Eq (removeConfirmed m) (removeConfirmed m') := by
  obtain ⟨-, rfl⟩ := h
  refine .bind (.call rfl fun r r' hr => eq_of_heq hr) ?_
  rintro r _ rfl
  refine .bind (twins_received r) ?_
  rintro (e | _) _ rfl
  · cases e <;> first | exact .pure rfl | exact .throw _
  · exact .pure rfl

theorem twins_settleConfirmed {m m' confirmed confirmed' : PendingMutation} (h : Twin intent intent' m m')
    (hc : Twin intent intent' confirmed confirmed') :
    Twins intent intent' Eq (settleConfirmed m confirmed) (settleConfirmed m' confirmed') := by
  refine .bind (Q := Eq) (.bind (twins_replace h hc) ?_) fun removed _ hr => .pure (by rw [hr])
  rintro replaced _ rfl
  cases replaced with
  | false => exact .pure rfl
  | true => exact .bind (twins_removeConfirmed hc) fun _ _ _ => .pure rfl

theorem twins_settleTerminal {m m' : PendingMutation} (h : Twin intent intent' m m') :
    Twins intent intent' Eq (settleTerminal m) (settleTerminal m') :=
  .bind (twins_checked (h.endAttempt _ _)) fun _ _ hn => .bind (twins_replace h hn) fun _ _ hr => .pure (by rw [hr])

theorem twins_settleRetry (deps : MutationRunnerDependencies) {m m' : PendingMutation} (h : Twin intent intent' m m') :
    Twins intent intent' Eq (settleRetry deps m) (settleRetry deps m') := by
  have hcount : m'.attemptCount = m.attemptCount := by rw [h.2]; rfl
  refine .bind (.call rfl fun r r' hr => eq_of_heq hr) ?_
  rintro now _ rfl
  rw [hcount]
  refine .bind (twins_checked (sameOutcome_refl _)) ?_
  rintro instant _ rfl
  exact .bind (twins_checked (h.endAttempt _ _)) fun _ _ hn => .bind (twins_replace h hn) fun _ _ hr => .pure (by rw [hr])

theorem twins_settleRemoteFailure (deps : MutationRunnerDependencies) {m m' : PendingMutation} (h : Twin intent intent' m m')
    (x : JsError) : Twins intent intent' Eq (settleRemoteFailure deps m x) (settleRemoteFailure deps m' x) := by
  unfold settleRemoteFailure
  cases remoteFailureVerdict x with
  | retry => exact twins_settleRetry deps h
  | reconcile => exact .pure rfl
  | terminal => exact twins_settleTerminal h

/-- From the remote's answer to a confirmed send. -/
theorem twins_confirmApplied {m m' : PendingMutation} (h : Twin intent intent' m m') (id : String) :
    Twins intent intent' Eq
      (do
        let emailId ← checked (localEmailId m.accountKey id)
        let confirmed ← checked (confirmSendMutation m ⟨emailId⟩)
        settleConfirmed m confirmed)
      (do
        let emailId ← checked (localEmailId m'.accountKey id)
        let confirmed ← checked (confirmSendMutation m' ⟨emailId⟩)
        settleConfirmed m' confirmed) := by
  have ha : m'.accountKey = m.accountKey := by rw [h.2]
  rw [ha]
  refine .bind (twins_checked (sameOutcome_refl _)) ?_
  rintro emailId _ rfl
  exact .bind (twins_checked (h.confirmSendMutation _)) fun _ _ hc => twins_settleConfirmed h hc

theorem twins_executeSend (deps : MutationRunnerDependencies) {m m' : PendingMutation} (h : Twin intent intent' m m')
    (message : RemoteSubmissionDraft) : Twins intent intent' Eq (executeSend deps m message) (executeSend deps m' message) := by
  have hrequest : SubmitRequest.source m.accountKey message m.mutationId = .source m'.accountKey message m'.mutationId := by
    rw [h.2]
  refine .tryCatch (.bind (.call ⟨h, hrequest⟩ fun r r' _ => trivial) fun _ _ _ => ?_)
    fun x => twins_settleRemoteFailure deps h x
  refine .bind (.call h fun r r' hr => eq_of_heq hr) ?_
  rintro r _ rfl
  refine .bind (.lift (sameOutcome_refl r)) ?_
  rintro result _ rfl
  cases result.remoteEmailId with
  | none => exact .pure rfl
  | some id => exact twins_confirmApplied h id

theorem twins_reconcileSend (deps : MutationRunnerDependencies) {m m' : PendingMutation} (h : Twin intent intent' m m') :
    Twins intent intent' Eq (reconcileSend deps m) (reconcileSend deps m') := by
  have hrequest : Call.reconcileSend m.accountKey m.mutationId = .reconcileSend m'.accountKey m'.mutationId := by rw [h.2]
  unfold reconcileSend
  cases deps.hasReconciler with
  | false => exact .pure rfl
  | true =>
    refine .tryCatch (.bind (.call hrequest fun r r' hr => eq_of_heq hr) ?_) fun _ => .pure rfl
    rintro r _ rfl
    refine .bind (.lift (sameOutcome_refl r)) ?_
    rintro evidence _ rfl
    cases evidence with
    | inconclusive => exact .pure rfl
    | applied id => exact twins_confirmApplied h id

/-! ### The two runners -/

/-- Encrypting asks the port alike, and uses its reply alike. -/
theorem twins_encryptSendIntent (h : SameButBody intent intent') :
    Twins intent intent' Eq (encryptSendIntent intent) (encryptSendIntent intent') := by
  obtain ⟨body, rfl⟩ : ∃ body, intent' = { intent with body := body } := ⟨_, h⟩
  unfold encryptSendIntent
  dsimp only
  split
  · rename_i recipient _ _ _
    have hask : Twins intent { intent with body := body } Eq (ask (.encryptFor (encryptForInput intent recipient)))
        (ask (.encryptFor (encryptForInput { intent with body := body } recipient))) :=
      .call rfl fun r r' hr => eq_of_heq hr
    refine .bind hask ?_
    rintro reply _ rfl
    cases reply with
    | ok envelope => exact .pure rfl
    | failed e => exact .pure rfl
    | rejected => exact .throw _
  · exact .pure rfl

theorem twins_prepareSend (h : SameButBody intent intent') (hmode : intent.securityMode = .boxplotE2eeV1) :
    Twins intent intent' Eq (prepareSend intent) (prepareSend intent') := by
  have hmode' : intent'.securityMode = .boxplotE2eeV1 := by rw [h]; exact hmode
  have hdraft : ∀ body, submissionDraft intent' body = submissionDraft intent body := by
    intro body; rw [SameButBody] at h; rw [h]; rfl
  unfold prepareSend
  simp only [hmode, hmode']
  refine .bind (twins_encryptSendIntent h) ?_
  rintro encrypted _ rfl
  cases encrypted with
  | error e => exact .pure rfl
  | ok envelope =>
    simp only [prepareEncrypted, hdraft]
    refine .bind (twins_checked (sameOutcome_refl _)) ?_
    rintro message _ rfl
    exact .pure rfl

theorem twins_prepare (h : SameButBody intent intent') (hmode : intent.securityMode = .boxplotE2eeV1) {m m' : PendingMutation}
    (hm : Twin intent intent' m m') : Twins intent intent' Eq (prepare m) (prepare m') := by
  have hp : m'.payload = .send intent' := by rw [hm.2]
  unfold prepare
  simp only [hm.1, hp]
  refine .bind (twins_prepareSend h hmode) ?_
  rintro prepared _ rfl
  exact .pure rfl

theorem twins_execute (deps : MutationRunnerDependencies) {m m' : PendingMutation} (hm : Twin intent intent' m m')
    (prepared : Option PreparedSend) : Twins intent intent' Eq (execute deps m prepared) (execute deps m' prepared) := by
  have hp : m'.payload = .send intent' := by rw [hm.2]
  unfold execute
  simp only [hm.1, hp]
  rcases prepared with - | message | error
  · exact twins_settleTerminal hm
  · exact twins_executeSend deps hm message
  · cases error <;> first | exact twins_settleRetry deps hm | exact twins_settleTerminal hm

theorem twins_claimAndExecute (h : SameButBody intent intent') (hmode : intent.securityMode = .boxplotE2eeV1)
    (deps : MutationRunnerDependencies) (accountKey : AccountKey) {m m' : PendingMutation} (hm : Twin intent intent' m m') :
    Twins intent intent' Eq (claimAndExecute deps accountKey m) (claimAndExecute deps accountKey m') := by
  refine .bind (.call rfl fun r r' hr => eq_of_heq hr) ?_
  rintro connected _ rfl
  cases connected with
  | false => exact .pure rfl
  | true =>
    refine .bind (twins_prepare h hmode hm) ?_
    rintro prepared _ rfl
    refine .bind (twins_checked hm.startMutationAttempt) fun inFlight inFlight' hn => ?_
    refine .bind (.call ⟨hm, hn⟩ fun r r' hr => eq_of_heq hr) ?_
    rintro r _ rfl
    refine .bind (twins_received r) ?_
    rintro (e | _) _ rfl
    · cases e <;> first | exact .pure rfl | exact .throw _
    · exact twins_execute deps hn prepared

/-- A record that is read, or none. -/
def TwinRead (intent intent' : SendIntent) : Option PendingMutation → Option PendingMutation → Prop
  | some m, some m' => Twin intent intent' m m'
  | none, none => True
  | _, _ => False

theorem twins_readMutation (accountKey : AccountKey) (mutationId : MutationId) :
    Twins intent intent' (TwinRead intent intent') (readMutation accountKey mutationId) (readMutation accountKey mutationId) := by
  refine .bind (.call rfl fun r r' hr => hr) fun r r' hr => ?_
  rcases hr with ⟨m, m', rfl, rfl, hm⟩ | ⟨rfl, hnone⟩
  · exact .pure hm
  · rcases r with found | e | -
    · cases found with
      | present m => exact absurd rfl (hnone m)
      | _ => exact .pure trivial
    · exact .throw _
    · exact .throw _

theorem twins_runMutation (h : SameButBody intent intent') (hmode : intent.securityMode = .boxplotE2eeV1)
    (deps : MutationRunnerDependencies) (accountKey : AccountKey) (mutationId : MutationId) :
    Twins intent intent' Eq (runMutation deps accountKey mutationId) (runMutation deps accountKey mutationId) := by
  refine .bind (twins_readMutation accountKey mutationId) ?_
  rintro (_ | m) (_ | m') hread
  · exact .pure rfl
  · exact hread.elim
  · exact hread.elim
  · have hm : Twin intent intent' m m' := hread
    have hl : m'.lifecycle = m.lifecycle := by rw [hm.2]
    have hp : m'.payload = .send intent' := by rw [hm.2]
    simp only [hl]
    cases m.lifecycle with
    | confirmed n c => exact .bind (twins_removeConfirmed hm) fun _ _ _ => .pure rfl
    | failedTerminal n => exact .pure rfl
    | inFlight n =>
      simp only [reconcile, hm.1, hp]
      exact twins_reconcileSend deps hm
    | retrying n i =>
      refine .bind (.call rfl fun r r' hr => eq_of_heq hr) ?_
      rintro now _ rfl
      by_cases hdue : now < i
      · simp only [hdue, if_true]; exact .pure rfl
      · simp only [hdue, if_false]; exact twins_claimAndExecute h hmode deps accountKey hm
    | pending n => exact twins_claimAndExecute h hmode deps accountKey hm

theorem twins_claimAndSubmit (hmode : intent.securityMode = .boxplotE2eeV1) (hmode' : intent'.securityMode = .boxplotE2eeV1)
    (accountKey : AccountKey) (remoteAccountId : String) (mutationId : MutationId) {m m' : PendingMutation}
    (hm : Twin intent intent' m m') : Twins intent intent' Eq (claimAndSubmit accountKey remoteAccountId mutationId m)
      (claimAndSubmit accountKey remoteAccountId mutationId m') := by
  -- either converter refuses, so neither run gets to submit
  have hrefused : ∀ i : SendIntent, i.securityMode = .boxplotE2eeV1 → submissionMessageFromSendIntent remoteAccountId i =
      .error "Encrypted SendIntent cannot use the plaintext submission converter" := by
    intro i hi; simp [submissionMessageFromSendIntent, hi]
  refine .bind (twins_checked hm.startMutationAttempt) fun inFlight inFlight' hn => ?_
  have hp : inFlight'.payload = .send intent' := by rw [hn.2]
  refine .bind (.call ⟨hm, hn⟩ fun r r' hr => eq_of_heq hr) ?_
  rintro r _ rfl
  refine .bind (twins_received r) ?_
  rintro (e | _) _ rfl
  · cases e <;> first | exact .pure rfl | exact .throw _
  · simp only [hn.1, hp, submitClaimed, hrefused intent hmode, hrefused intent' hmode']
    exact .throw _

/-- What `readCurrentSendMutation` makes of twin records. -/
def TwinLookup (intent intent' : SendIntent) : MutationLookup → MutationLookup → Prop
  | .found m, .found m' => Twin intent intent' m m'
  | l, l' => l = l'

theorem twins_readCurrentSendMutation (accountKey : AccountKey) (mutationId : MutationId) :
    Twins intent intent' (TwinLookup intent intent') (readCurrentSendMutation accountKey mutationId)
      (readCurrentSendMutation accountKey mutationId) := by
  refine .bind (.call rfl fun r r' hr => hr) fun r r' hr => ?_
  rcases hr with ⟨m, m', rfl, rfl, hm⟩ | ⟨rfl, hnone⟩
  · have hl : m'.lifecycle = m.lifecycle := by rw [hm.2]
    have hsend : m.isSend = true := by simp [PendingMutation.isSend, hm.1]
    have hsend' : m'.isSend = true := by rw [hm.2]; rfl
    refine .bind (Q := fun a b => a = .ok (.present m) ∧ b = .ok (.present m')) (.pure ⟨rfl, rfl⟩) ?_
    rintro _ _ ⟨rfl, rfl⟩
    simp only [hsend, hsend', if_true, hl]
    cases m.lifecycle with
    | pending n => exact .pure hm
    | retrying n i =>
      refine .bind (.call rfl fun r r' hr => eq_of_heq hr) ?_
      rintro now _ rfl
      by_cases hdue : i ≤ now
      · simp only [hdue, if_true]; exact .pure hm
      · simp only [hdue, if_false]; exact .pure rfl
    | _ => exact .pure rfl
  · rcases r with found | e | -
    · cases found with
      | present m => exact absurd rfl (hnone m)
      | absent => exact .pure rfl
      | ownerAbsent => exact .throw _
    · exact .throw _
    · exact .throw _

theorem twins_processSendMutation (hmode : intent.securityMode = .boxplotE2eeV1)
    (hmode' : intent'.securityMode = .boxplotE2eeV1) (accountKey : AccountKey) (remoteAccountId : String)
    (mutationId : MutationId) : Twins intent intent' Eq (processSendMutation accountKey remoteAccountId mutationId)
      (processSendMutation accountKey remoteAccountId mutationId) := by
  refine .bind (twins_readCurrentSendMutation accountKey mutationId) fun l l' hl => ?_
  cases l with
  | found m =>
    cases l' with
    | found m' => exact twins_claimAndSubmit hmode hmode' accountKey remoteAccountId mutationId hl
    | _ => cases hl
  | _ => cases hl; exact .pure rfl

end TwoRuns

end Boxplot.Outbox
