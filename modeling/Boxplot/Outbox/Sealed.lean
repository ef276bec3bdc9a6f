import Boxplot.Lib.Interleaving
import Boxplot.Outbox.Outbox
/-!
# What is submitted of an encrypted send

One run of either runner over a send whose intent asks for encryption: `submit`
is handed an envelope that the encryption port returned to this very run for
this intent, or it is not called.
-/

namespace Boxplot.Outbox

open Domain Remote Lib

/-- The message a submission hands over. -/
def SubmitRequest.message : SubmitRequest → RemoteSubmissionDraft
  | .source _ message _ => message
  | .direct message _ => message.toRemoteSubmissionDraft

/-- What the encryption port is given for an intent to `recipient`. -/
def encryptForInput (intent : SendIntent) (recipient : EmailAddress) : EncryptForInput where
  localIdentity := intent.from.email
  recipientIdentity := recipient.email
  subject := intent.subject
  text := intent.body.text
  html := intent.body.html

/-- The body is an envelope that the port returned for this intent and its one recipient. -/
def Sealed (intent : SendIntent) (answers : List (Sigma Reply)) (body : SubmissionBody) : Prop :=
  ∃ recipient envelope, intent.to = [recipient] ∧
    ⟨.encryptFor (encryptForInput intent recipient), .ok envelope⟩ ∈ answers ∧
    body = .boxplotE2ee (serializeBoxplotE2eeEnvelope envelope)

/-- A read of the mutation finds a send of this intent. -/
def Holds (intent : SendIntent) : (e : Call) → Reply e → Prop
  | .readPendingMutation _ _, r => ∀ m, r = .ok (.present m) → m.payload = .send intent
  | _, _ => True

/-- Only sealed bodies are submitted. -/
def sealedContract (intent : SendIntent) : Contract Call Reply (List (Sigma Reply)) :=
  historyContract (fun answers e => match e with
    | .submit _ request => Sealed intent answers request.message.body
    | _ => True) (Holds intent)

/-! ## One run -/

theorem Sealed.grow {intent : SendIntent} {answers : List (Sigma Reply)} {body : SubmissionBody}
    (h : Sealed intent answers body) (l : List (Sigma Reply)) : Sealed intent (answers ++ l) body := by
  obtain ⟨recipient, envelope, hto, hmem, hbody⟩ := h
  exact ⟨recipient, envelope, hto, List.mem_append_left _ hmem, hbody⟩

section OneRun

variable {intent : SendIntent} {α : Type}

/-- Programs that submit nothing. -/
abbrev Quiet (intent : SendIntent) (p : Promise α) : Prop := (sealedContract intent).Always p

theorem quiet_received {ε : Type} (r : PortReply ε α) : Quiet intent (received r) := by
  cases r with
  | ok v => exact .pure _
  | failed e => exact .pure _
  | rejected => exact .throw _

theorem quiet_replace (expected next : PendingMutation) : Quiet intent (replace expected next) := by
  refine .bind (.call fun _ => trivial) fun r => .bind (quiet_received r) fun result => ?_
  rcases result with e | -
  · cases e <;> first | exact .pure _ | exact .throw _
  · exact .pure _

theorem quiet_removeConfirmed (m : PendingMutation) : Quiet intent (removeConfirmed m) := by
  refine .bind (.call fun _ => trivial) fun r => .bind (quiet_received r) fun result => ?_
  rcases result with e | -
  · cases e <;> first | exact .pure _ | exact .throw _
  · exact .pure _

theorem quiet_settleConfirmed (m confirmed : PendingMutation) : Quiet intent (settleConfirmed m confirmed) := by
  refine .bind (.bind (quiet_replace _ _) fun replaced => ?_) fun _ => .pure _
  cases replaced with
  | false => exact .pure _
  | true => exact .bind (quiet_removeConfirmed _) fun _ => .pure _

theorem quiet_settleTerminal (m : PendingMutation) : Quiet intent (settleTerminal m) :=
  .bind (.lift _) fun _ => .bind (quiet_replace _ _) fun _ => .pure _

theorem quiet_settleRetry (deps : MutationRunnerDependencies) (m : PendingMutation) : Quiet intent (settleRetry deps m) :=
  .bind (.call fun _ => trivial) fun _ => .bind (.lift _) fun _ => .bind (.lift _) fun _ =>
    .bind (quiet_replace _ _) fun _ => .pure _

theorem quiet_settleRemoteFailure (deps : MutationRunnerDependencies) (m : PendingMutation) (x : JsError) :
    Quiet intent (settleRemoteFailure deps m x) := by
  unfold settleRemoteFailure
  cases remoteFailureVerdict x with
  | retry => exact quiet_settleRetry _ _
  | reconcile => exact .pure _
  | terminal => exact quiet_settleTerminal _

theorem quiet_reconcileSend (deps : MutationRunnerDependencies) (m : PendingMutation) :
    Quiet intent (reconcileSend deps m) := by
  unfold reconcileSend
  split
  · refine .tryCatch (.bind (.call fun _ => trivial) fun r => .bind (.lift _) fun evidence => ?_) fun _ => .pure _
    cases evidence with
    | inconclusive => exact .pure _
    | applied id => exact .bind (.lift _) fun _ => .bind (.lift _) fun _ => quiet_settleConfirmed _ _
  · exact .pure _

/-- An awaited request, answered as the store's record allows. -/
theorem wp_asked {e : Call} {Q : Except JsError (Reply e) → List (Sigma Reply) → Prop} {s : List (Sigma Reply)}
    (hmay : (sealedContract intent).may s e) (h : ∀ r, Holds intent e r → Q (.ok r) (s ++ [⟨e, r⟩])) :
    (sealedContract intent).wpA (ask e) Q s := by
  refine ((sealedContract intent).wpA_call _ _ _).2 ⟨hmay, ?_⟩
  rintro r s' ⟨hr, rfl⟩
  exact h r hr

theorem submissionDraft_body {intent : SendIntent} {body : SubmissionBody} {message : RemoteSubmissionDraft}
    (h : submissionDraft intent body = .ok message) : message.body = body := by
  unfold submissionDraft at h
  cases hid : remoteIdentityId intent.identityId with
  | error e => simp [hid, bind, Except.bind] at h
  | ok identity =>
    simp only [hid, bind, Except.bind, Except.ok.injEq] at h
    rw [← h]

/-- Encryption succeeds only with an envelope that the port has just returned. -/
theorem wp_encryptSendIntent (s : List (Sigma Reply)) :
    (sealedContract intent).wpA (encryptSendIntent intent) (fun r s' => ∀ envelope, r = .ok (.ok envelope) →
      Sealed intent s' (.boxplotE2ee (serializeBoxplotE2eeEnvelope envelope))) s := by
  unfold encryptSendIntent
  split
  · rename_i recipient hto hcc hbcc
    simp only [Contract.wpA_bind]
    refine wp_asked trivial fun r _ => ?_
    simp only [Contract.andThen_ok]
    cases r with
    | ok envelope =>
      rintro e ⟨⟩
      exact ⟨recipient, envelope, hto, by simp [encryptForInput], rfl⟩
    | failed e => rintro _ ⟨⟩
    | rejected => rintro _ ⟨⟩
  · rintro _ ⟨⟩

/-- What an encrypted intent is prepared to is sealed. -/
theorem wp_prepareSend_sealed (hmode : intent.securityMode = .boxplotE2eeV1) (s : List (Sigma Reply)) :
    (sealedContract intent).wpA (prepareSend intent) (fun r s' => ∀ message, r = .ok (.ready message) →
      Sealed intent s' message.body) s := by
  unfold prepareSend
  simp only [hmode]
  refine Contract.wpA_bind_of (wp_encryptSendIntent s) (fun encrypted s' hs => ?_) fun x _ _ => by rintro _ ⟨⟩
  cases encrypted with
  | error e => rintro _ ⟨⟩
  | ok envelope =>
    simp only [prepareEncrypted, checked, Contract.wpA_bind, Contract.wpA_lift]
    cases hd : submissionDraft intent (.boxplotE2ee (serializeBoxplotE2eeEnvelope envelope)) with
    | error e => rintro _ ⟨⟩
    | ok message =>
      rintro _ ⟨⟩
      rw [submissionDraft_body hd]
      exact hs envelope rfl

theorem wp_executeSend_sealed (deps : MutationRunnerDependencies) (m : PendingMutation) {message : RemoteSubmissionDraft}
    {s : List (Sigma Reply)} (hs : Sealed intent s message.body) :
    (sealedContract intent).wpA (executeSend deps m message) (fun _ _ => True) s := by
  unfold executeSend
  have handled : ∀ r s', (sealedContract intent).orElse (settleRemoteFailure deps m) (fun _ _ => True) r s' := by
    intro r s'
    cases r with
    | ok v => trivial
    | error x => exact quiet_settleRemoteFailure deps m x s'
  rw [Contract.wpA_tryCatch]
  refine Contract.wpA_mono (Q := fun _ _ => True) _ (fun r s' _ => handled r s') ?_
  rw [Contract.wpA_bind]
  refine wp_asked hs fun _ _ => ?_
  -- nothing is submitted after the one call
  simp only [Contract.andThen_ok]
  refine Contract.Always.bind (.call fun _ => trivial) (fun r => .bind (.lift _) fun result => ?_) _
  cases result.remoteEmailId with
  | none => exact .pure _
  | some id => exact .bind (.lift _) fun _ => .bind (.lift _) fun _ => quiet_settleConfirmed _ _

theorem wp_execute_sealed (deps : MutationRunnerDependencies) {m : PendingMutation} (hm : m.payload = .send intent)
    {prepared : Option PreparedSend} {s : List (Sigma Reply)}
    (hs : ∀ message, prepared = some (.ready message) → Sealed intent s message.body) :
    (sealedContract intent).wpA (execute deps m prepared) (fun _ _ => True) s := by
  unfold execute
  simp only [hm]
  rcases prepared with - | message | error
  · exact quiet_settleTerminal m s
  · exact wp_executeSend_sealed deps m (hs message rfl)
  · cases error <;> first | exact quiet_settleRetry deps m s | exact quiet_settleTerminal m s

theorem startMutationAttempt_payload {m m' : PendingMutation} (h : startMutationAttempt m = .ok m') :
    m'.payload = m.payload := by
  rw [(startMutationAttempt_ok h).2]; rfl

theorem wp_prepare_sealed (hmode : intent.securityMode = .boxplotE2eeV1) {current : PendingMutation}
    (hm : current.payload = .send intent) (s : List (Sigma Reply)) :
    (sealedContract intent).wpA (prepare current) (fun r s' => ∀ message, r = .ok (some (.ready message)) →
      Sealed intent s' message.body) s := by
  unfold prepare
  simp only [hm]
  refine Contract.wpA_bind_of (wp_prepareSend_sealed hmode s) (fun prepared s' hs => ?_) fun _ _ _ => by rintro _ ⟨⟩
  rintro message ⟨⟩
  exact hs message rfl

theorem wp_claimAndExecute_sealed (hmode : intent.securityMode = .boxplotE2eeV1) (deps : MutationRunnerDependencies)
    (accountKey : AccountKey) {current : PendingMutation} (hm : current.payload = .send intent) (s : List (Sigma Reply)) :
    (sealedContract intent).wpA (claimAndExecute deps accountKey current) (fun _ _ => True) s := by
  unfold claimAndExecute
  simp only [Contract.wpA_bind]
  refine wp_asked trivial fun connected _ => ?_
  simp only [Contract.andThen_ok]
  cases connected with
  | false => trivial
  | true =>
    rw [if_pos rfl]
    refine Contract.wpA_bind_of (wp_prepare_sealed hmode hm _) (fun prepared s' hs => ?_) fun _ _ _ => trivial
    simp only [checked, Contract.wpA_bind, Contract.wpA_lift]
    cases hstart : startMutationAttempt current with
    | error e => trivial
    | ok inFlight =>
      simp only [Except.mapError, Contract.andThen_ok, Contract.wpA_bind]
      refine wp_asked trivial fun r _ => ?_
      have hclaimed : inFlight.payload = .send intent := (startMutationAttempt_payload hstart).trans hm
      cases r with
      | failed e => cases e <;> trivial
      | rejected => trivial
      | ok v =>
        -- the claim leaves the prepared message sealed
        exact wp_execute_sealed deps hclaimed fun message h => (hs message (by rw [h])).grow _

/-- `runMutation` submits only sealed bodies. -/
theorem wp_runMutation_sealed (hmode : intent.securityMode = .boxplotE2eeV1) (deps : MutationRunnerDependencies)
    (accountKey : AccountKey) (mutationId : MutationId) (s : List (Sigma Reply)) :
    (sealedContract intent).wpA (runMutation deps accountKey mutationId) (fun _ _ => True) s := by
  unfold runMutation readMutation
  simp only [Contract.wpA_bind]
  refine wp_asked trivial fun r hr => ?_
  simp only [Contract.andThen_ok, Contract.wpA_bind]
  rcases r with found | e | -
  · rcases found with - | - | current
    · trivial
    · trivial
    · have hm : current.payload = .send intent := hr current rfl
      simp only [received, Contract.wpA_pure, Contract.andThen_ok]
      cases hl : current.lifecycle with
      | confirmed n c => exact Contract.Always.bind (quiet_removeConfirmed current) (fun _ => .pure _) _
      | failedTerminal n => trivial
      | inFlight n =>
        simp only [reconcile, hm]
        exact quiet_reconcileSend deps current _
      | retrying n i =>
        simp only [Contract.wpA_bind]
        refine wp_asked trivial fun now _ => ?_
        simp only [Contract.andThen_ok]
        split
        · trivial
        · exact wp_claimAndExecute_sealed hmode deps accountKey hm _
      | pending n => exact wp_claimAndExecute_sealed hmode deps accountKey hm _
  · trivial
  · trivial

/-- `processSendMutation` submits nothing: its converter refuses an encrypted intent. -/
theorem quiet_submitClaimed (hmode : intent.securityMode = .boxplotE2eeV1) (accountKey : AccountKey) (remoteAccountId : String)
    (mutationId : MutationId) (inFlight : PendingMutation) :
    Quiet intent (submitClaimed accountKey remoteAccountId mutationId inFlight intent) := by
  have hrefused : submissionMessageFromSendIntent remoteAccountId intent =
      .error "Encrypted SendIntent cannot use the plaintext submission converter" := by
    simp [submissionMessageFromSendIntent, hmode]
  unfold submitClaimed
  rw [hrefused]
  exact fun _ => trivial

theorem quiet_claimAndSubmit (hmode : intent.securityMode = .boxplotE2eeV1) (accountKey : AccountKey)
    (remoteAccountId : String) (mutationId : MutationId) {expected : PendingMutation} (hm : expected.payload = .send intent) :
    Quiet intent (claimAndSubmit accountKey remoteAccountId mutationId expected) := by
  intro s
  unfold claimAndSubmit
  simp only [checked, Contract.wpA_bind, Contract.wpA_lift]
  cases hstart : startMutationAttempt expected with
  | error e => trivial
  | ok inFlight =>
    have hclaimed : inFlight.payload = .send intent := (startMutationAttempt_payload hstart).trans hm
    simp only [Except.mapError, Contract.andThen_ok, Contract.wpA_bind]
    refine wp_asked trivial fun r _ => ?_
    cases r with
    | failed e => cases e <;> trivial
    | rejected => trivial
    | ok v =>
      simp only [Contract.andThen_ok, received, Contract.wpA_bind, Contract.wpA_pure, hclaimed]
      exact quiet_submitClaimed hmode accountKey remoteAccountId mutationId inFlight _

theorem wp_processSendMutation_sealed (hmode : intent.securityMode = .boxplotE2eeV1) (accountKey : AccountKey)
    (remoteAccountId : String) (mutationId : MutationId) (s : List (Sigma Reply)) :
    (sealedContract intent).wpA (processSendMutation accountKey remoteAccountId mutationId) (fun _ _ => True) s := by
  unfold processSendMutation readCurrentSendMutation
  simp only [Contract.wpA_bind]
  refine wp_asked trivial fun r hr => ?_
  simp only [Contract.andThen_ok, Contract.wpA_bind]
  rcases r with found | e | -
  · rcases found with - | - | current
    · trivial
    · trivial
    · have hm : current.payload = .send intent := hr current rfl
      have hsend : current.isSend = true := by simp [PendingMutation.isSend, hm]
      simp only [received, Contract.wpA_pure, Contract.andThen_ok, hsend, if_true]
      cases hl : current.lifecycle with
      | pending n => exact quiet_claimAndSubmit hmode accountKey remoteAccountId mutationId hm _
      | retrying n i =>
        simp only [Contract.wpA_bind]
        refine wp_asked trivial fun now _ => ?_
        simp only [Contract.andThen_ok, Contract.wpA_pure]
        by_cases hdue : i ≤ now
        · rw [if_pos hdue]; exact quiet_claimAndSubmit hmode accountKey remoteAccountId mutationId hm _
        · rw [if_neg hdue]; trivial
      | _ => trivial
  · trivial
  · trivial

end OneRun

end Boxplot.Outbox
