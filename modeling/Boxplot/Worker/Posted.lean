import Boxplot.Worker.Requests
/-!
# Which turn posts which response

A response to a message at once, or when its operation is completed; the timer
answers nobody.
-/

namespace Boxplot.Worker

open Domain Lib Remote Outbox WorkerRuntime

variable {createJmapClient : Nat → String → String → JmapClient} {s s' : WorkerRuntime} {i : Input} {r : String}

theorem answers_of_posted {message : WorkerToMainMessage} {l : List Act} (hmem : .posted message ∈ l)
    (hr : message.answers = some r) : r ∈ answersOf l :=
  List.mem_filterMap.2 ⟨_, hmem, hr⟩

theorem canary_invalidate (w : WorkerRuntime) : w.invalidate.tokenManager.getCanaryStatus = "TOKEN_CLEARED_OK" := by
  unfold invalidate tokenExpired
  dsimp only
  split <;> rfl

theorem posted_invalidate {message : WorkerToMainMessage} (hmem : .posted message ∈ s.invalidate.acts) :
    .posted message ∈ s.acts ∨ message.answers = none := by
  unfold invalidate tokenExpired at hmem
  dsimp only at hmem
  split at hmem
  · simp [resetToAnonymous, postStatus, post, act] at hmem
    rcases hmem with hmem | rfl
    · exact .inl hmem
    · exact .inr rfl
  · simp [resetToAnonymous, postStatus, post, act] at hmem
    rcases hmem with hmem | rfl | rfl
    · exact .inl hmem
    · exact .inr rfl
    · exact .inr rfl

/-- What answers a message at once: a teardown is complete, or something is refused. -/
theorem posted_message {message : WorkerToMainMessage} {m : MainToWorkerMessage} (hacts : s.acts = [])
    (hmem : .posted message ∈ (s.handleMessage createJmapClient m).acts) (hr : message.answers = some r) :
    (message = .teardownComplete r "TOKEN_CLEARED_OK" ∧ m = .teardownSession r) ∨
      (∃ sessionUrl token expiresInSeconds error, m = .initSession r sessionUrl token expiresInSeconds ∧ message = .sessionError r error) ∨
      (∃ accountKey jmapAccountId error, m = .syncAccount r accountKey jmapAccountId ∧ message = .syncError r accountKey error) ∨
      ∃ accountKey jmapAccountId mutationId error,
        m = .sendEmail r accountKey jmapAccountId mutationId ∧ message = .sendError r mutationId error := by
  cases m with
  | initSession requestId sessionUrl token expiresInSeconds =>
    change _ ∈ (s.initSession createJmapClient requestId sessionUrl token expiresInSeconds).acts at hmem
    unfold initSession at hmem
    dsimp only at hmem
    split at hmem
    · simp [postStatus, post, act, hacts] at hmem
      rcases hmem with rfl | rfl | rfl
      · cases hr
      · cases hr
      · cases hr
        exact .inr (.inl ⟨_, _, _, _, rfl, rfl⟩)
    · simp [begin, resetToAnonymous, postStatus, post, act, hacts] at hmem
      cases hmem
      cases hr
  | teardownSession requestId =>
    change _ ∈ (WorkerRuntime.acts (invalidate _) ++ [Act.posted _]) at hmem
    rcases List.mem_append.1 hmem with hmem | hmem
    · rcases posted_invalidate hmem with hmem | hnone
      · change _ ∈ s.acts at hmem
        rw [hacts] at hmem
        cases hmem
      · rw [hnone] at hr
        cases hr
    · cases List.mem_singleton.1 hmem
      cases hr
      exact .inl ⟨congrArg (WorkerToMainMessage.teardownComplete _) (canary_invalidate _), rfl⟩
  | syncAccount requestId accountKey jmapAccountId =>
    change _ ∈ (s.syncAccount requestId accountKey jmapAccountId).acts at hmem
    unfold syncAccount at hmem
    split at hmem
    · simp [post, act, hacts] at hmem
      cases hmem
      cases hr
      exact .inr (.inr (.inl ⟨_, _, _, rfl, rfl⟩))
    · split at hmem <;> simp [begin, act, hacts] at hmem
  | sendEmail requestId accountKey jmapAccountId mutationId =>
    change _ ∈ (s.sendEmail requestId jmapAccountId mutationId).acts at hmem
    unfold sendEmail at hmem
    split at hmem
    · simp [post, act, hacts] at hmem
      cases hmem
      cases hr
      exact .inr (.inr (.inr ⟨_, _, _, _, rfl, rfl⟩))
    · split at hmem <;> simp [begin, act, hacts] at hmem

theorem posted_invalidateOnAuthError {message : WorkerToMainMessage} {error : JsError} {client : Option JmapClient}
    (hacts : s.acts = []) (hmem : .posted message ∈ (s.invalidateOnAuthError error client).acts) : message.answers = none := by
  unfold invalidateOnAuthError at hmem
  split at hmem
  · rcases posted_invalidate hmem with hmem | hnone
    · change _ ∈ s.acts at hmem
      rw [hacts] at hmem
      cases hmem
    · exact hnone
  · rw [hacts] at hmem
    cases hmem

/-- What answers a message when its operation is completed. -/
theorem posted_complete {message : WorkerToMainMessage} {operation : Operation} {result : Except JsError operation.Value}
    (hacts : s.acts = []) (hmem : .posted message ∈ (s.complete operation result).acts) (hr : message.answers = some r) :
    (∃ g c accounts primaryAccounts, operation = .opening r g c ∧ message = .sessionReady r primaryAccounts ∧
        (s.complete operation result).remoteSession = some ⟨r, accounts⟩) ∨
      (∃ g c error, operation = .opening r g c ∧ message = .sessionError r error) ∨
      (∃ accountKey c session, operation = .sync r accountKey c session ∧ message = .syncSuccess r accountKey) ∨
      (∃ accountKey c session error, operation = .sync r accountKey c session ∧ message = .syncError r accountKey error) ∨
      (∃ mutationId c session outcome, operation = .send r mutationId c session ∧
        message = .sendSuccess r mutationId (outcomeKind outcome)) ∨
      ∃ mutationId c session error, operation = .send r mutationId c session ∧ message = .sendError r mutationId error := by
  cases operation with
  | opening requestId g c =>
    cases result with
    | ok accounts =>
      simp only [complete, sessionOpened] at hmem ⊢
      split at hmem
      · simp [act, hacts] at hmem
      · rename_i hcurrent
        simp [postStatus, post, act, hacts] at hmem
        rcases hmem with rfl | rfl
        · cases hr
        · cases hr
          rw [if_neg hcurrent]
          exact .inl ⟨g, c, accounts, _, rfl, rfl, rfl⟩
    | error error =>
      simp only [complete, openingFailed] at hmem
      split at hmem
      · rw [hacts] at hmem
        cases hmem
      · simp [resetToAnonymous, postStatus, post, act, hacts] at hmem
        rcases hmem with rfl | rfl
        · cases hr
        · cases hr
          exact .inr (.inl ⟨_, _, _, rfl, rfl⟩)
  | sync requestId accountKey client session =>
    cases result with
    | ok value =>
      simp [complete, post, act, hacts] at hmem
      cases hmem
      cases hr
      exact .inr (.inr (.inl ⟨_, _, _, rfl, rfl⟩))
    | error error =>
      rcases List.mem_append.1 hmem with hmem | hmem
      · rw [posted_invalidateOnAuthError hacts hmem] at hr
        cases hr
      · cases List.mem_singleton.1 hmem
        cases hr
        exact .inr (.inr (.inr (.inl ⟨_, _, _, _, rfl, rfl⟩)))
  | send requestId mutationId client session =>
    cases result with
    | ok value =>
      simp [complete, post, act, hacts] at hmem
      cases hmem
      cases hr
      exact .inr (.inr (.inr (.inr (.inl ⟨_, _, _, _, rfl, rfl⟩))))
    | error error =>
      rcases List.mem_append.1 hmem with hmem | hmem
      · rw [posted_invalidateOnAuthError hacts hmem] at hr
        cases hr
      · cases List.mem_singleton.1 hmem
        cases hr
        exact .inr (.inr (.inr (.inr (.inr ⟨_, _, _, _, rfl, rfl⟩))))

theorem posted_expiry {message : WorkerToMainMessage} (hturn : turn createJmapClient s .expiry = some s')
    (hmem : .posted message ∈ s'.acts) : message.answers = none := by
  simp only [turn, Option.ite_none_right_eq_some, Option.some.injEq] at hturn
  obtain ⟨-, rfl⟩ := hturn
  rcases posted_invalidate hmem with hmem | hnone
  · cases hmem
  · exact hnone

/-- A session is announced for the request whose opening has just been completed, as the installed one. -/
theorem ready_of_turn {primaryAccounts : List (String × String)} (hturn : turn createJmapClient s i = some s')
    (hmem : .posted (.sessionReady r primaryAccounts) ∈ s'.acts) :
    ∃ session, session.requestId = r ∧ s'.remoteSession = some session ∧ r ∈ waiting s := by
  cases i with
  | message m =>
    obtain rfl := Option.some.inj hturn
    rcases posted_message rfl hmem rfl with ⟨heq, -⟩ | ⟨_, _, _, _, -, heq⟩ | ⟨_, _, _, -, heq⟩ | ⟨_, _, _, _, -, heq⟩ <;> cases heq
  | expiry => cases posted_expiry hturn hmem
  | completion operation result =>
    simp only [turn, Option.ite_none_right_eq_some, Option.some.injEq] at hturn
    obtain ⟨hoperation, rfl⟩ := hturn
    rcases posted_complete rfl hmem rfl with
      ⟨g, c, accounts, _, rfl, -, hsession⟩ | ⟨_, _, _, -, heq⟩ | ⟨_, _, _, -, heq⟩ | ⟨_, _, _, _, -, heq⟩ |
        ⟨_, _, _, _, -, heq⟩ | ⟨_, _, _, _, -, heq⟩
    · exact ⟨⟨r, accounts⟩, rfl, hsession, List.mem_map.2 ⟨_, hoperation, rfl⟩⟩
    all_goals cases heq

theorem teardown_of_turn {canary : String} (hturn : turn createJmapClient s i = some s')
    (hmem : .posted (.teardownComplete r canary) ∈ s'.acts) : i = .message (.teardownSession r) := by
  cases i with
  | message m =>
    obtain rfl := Option.some.inj hturn
    rcases posted_message rfl hmem rfl with ⟨-, rfl⟩ | ⟨_, _, _, _, -, heq⟩ | ⟨_, _, _, -, heq⟩ | ⟨_, _, _, _, -, heq⟩
    · rfl
    all_goals cases heq
  | expiry => cases posted_expiry hturn hmem
  | completion operation result =>
    simp only [turn, Option.ite_none_right_eq_some, Option.some.injEq] at hturn
    obtain ⟨-, rfl⟩ := hturn
    rcases posted_complete rfl hmem rfl with
      ⟨_, _, _, _, -, heq, -⟩ | ⟨_, _, _, -, heq⟩ | ⟨_, _, _, -, heq⟩ | ⟨_, _, _, _, -, heq⟩ | ⟨_, _, _, _, -, heq⟩ |
        ⟨_, _, _, _, -, heq⟩ <;> cases heq

end Boxplot.Worker
