import Boxplot.Worker.Runtime
/-!
# What a turn does

Every turn keeps the session, resets it or installs a new one, and says what it
answered, what it began and what it started on which session.
-/

namespace Boxplot.Worker

open Domain Lib Remote Outbox

/-! ## What acts say -/

def answersOf (acts : List Act) : List String :=
  acts.filterMap fun
    | .posted message => message.answers
    | _ => none

def startedOn (acts : List Act) : List RemoteSession :=
  acts.filterMap fun
    | .started _ session => some session
    | _ => none

@[simp] theorem answersOf_nil : answersOf [] = [] := rfl
@[simp] theorem startedOn_nil : startedOn [] = [] := rfl

@[simp] theorem answersOf_append (l l' : List Act) : answersOf (l ++ l') = answersOf l ++ answersOf l' := List.filterMap_append
@[simp] theorem startedOn_append (l l' : List Act) : startedOn (l ++ l') = startedOn l ++ startedOn l' := List.filterMap_append

@[simp] theorem answersOf_posted (message : WorkerToMainMessage) (l : List Act) :
    answersOf (.posted message :: l) = message.answers.toList ++ answersOf l := by
  unfold answersOf
  cases h : message.answers <;> simp [h]

@[simp] theorem answersOf_started (requestId : String) (session : RemoteSession) (l : List Act) :
    answersOf (.started requestId session :: l) = answersOf l := rfl
@[simp] theorem answersOf_threw (requestId : String) (l : List Act) : answersOf (.threw requestId :: l) = answersOf l := rfl
@[simp] theorem answersOf_closed (session : RemoteSession) (l : List Act) : answersOf (.closed session :: l) = answersOf l := rfl

@[simp] theorem startedOn_posted (message : WorkerToMainMessage) (l : List Act) :
    startedOn (.posted message :: l) = startedOn l := rfl
@[simp] theorem startedOn_started (requestId : String) (session : RemoteSession) (l : List Act) :
    startedOn (.started requestId session :: l) = session :: startedOn l := rfl
@[simp] theorem startedOn_threw (requestId : String) (l : List Act) : startedOn (.threw requestId :: l) = startedOn l := rfl
@[simp] theorem startedOn_closed (session : RemoteSession) (l : List Act) : startedOn (.closed session :: l) = startedOn l := rfl

@[simp] theorem answersOf_closing (o : Option RemoteSession) : answersOf (o.toList.map .closed) = [] := by
  cases o <;> rfl

@[simp] theorem startedOn_closing (o : Option RemoteSession) : startedOn (o.toList.map .closed) = [] := by
  cases o <;> rfl

/-! ## Shapes -/

/-- The session is the one from before, and so is its generation. -/
structure Kept (s s' : WorkerRuntime) : Prop where
  generation : s'.sessionGeneration = s.sessionGeneration
  client : s'.jmapClient = s.jmapClient
  token : s'.tokenManager.currentToken = none → s.tokenManager.currentToken = none
  session : s'.remoteSession = s.remoteSession
  coordinator : s'.coordinator = s.coordinator
  outbox : s'.outbox = s.outbox

/-- There is no session any more. -/
structure Reset (s s' : WorkerRuntime) : Prop where
  generation : s'.sessionGeneration = s.sessionGeneration + 1
  session : s'.remoteSession = none
  coordinator : s'.coordinator = none
  outbox : s'.outbox = none

structure Installed (opened : RemoteSession) (s s' : WorkerRuntime) : Prop where
  generation : s'.sessionGeneration = s.sessionGeneration
  client : s'.jmapClient = s.jmapClient
  token : s'.tokenManager = s.tokenManager
  session : s'.remoteSession = some opened
  coordinator : s'.coordinator = some opened
  outbox : s'.outbox = some opened

/-- What was answered in a turn, and on which sessions something was started. -/
structure Said (s' : WorkerRuntime) (answers : List String) (started : List RemoteSession) : Prop where
  answers : answersOf s'.acts = answers
  started : startedOn s'.acts = started

/-- A request that makes its handler throw. -/
def Throws (s : WorkerRuntime) : MainToWorkerMessage → Prop
  | .syncAccount _ _ jmapAccountId => s.coordinator ≠ none ∧ jmapAccountId = ""
  | .sendEmail _ _ jmapAccountId _ => s.outbox ≠ none ∧ jmapAccountId = ""
  | _ => False

/-- A message that resets the session. -/
def Supersedes : MainToWorkerMessage → Prop
  | .initSession _ _ token _ => token ≠ ""
  | .teardownSession _ => True
  | _ => False

/-- An operation that fails and takes the session with it. -/
def Expires (s : WorkerRuntime) : (operation : Operation) → Except JsError operation.Value → Prop
  | .sync _ _ client _, .error error => WorkerRuntime.expiresSession error = true ∧ s.jmapClient = client
  | .send _ _ client _, .error error => WorkerRuntime.expiresSession error = true ∧ s.jmapClient = client
  | _, _ => False

/-- An opening whose session nobody waits for any more. -/
def Dropped (s : WorkerRuntime) : Operation → Prop
  | .opening _ generation client =>
    generation ≠ s.sessionGeneration ∨ s.jmapClient ≠ some client ∨ s.tokenManager.currentToken = none
  | _ => False

/-- What a turn does. -/
inductive Effect (s : WorkerRuntime) : WorkerRuntime.Input → WorkerRuntime → Prop
  | refused {m s'} : ¬ Throws s m → ¬ Supersedes m → Kept s s' → s'.outstanding = s.outstanding → Said s' [m.requestId] [] → Effect s (.message m) s'
  | threw {m s'} : Throws s m → Kept s s' → s'.outstanding = s.outstanding → Said s' [] [] → Effect s (.message m) s'
  | opens {m client s'} : Supersedes m → Reset s s' → s'.jmapClient = some client → s'.tokenManager.currentToken ≠ none →
      s'.outstanding = s.outstanding ++ [.opening m.requestId s'.sessionGeneration client] → Said s' [] [] →
      Effect s (.message m) s'
  | tornDown {m s'} : Supersedes m → Reset s s' → s'.outstanding = s.outstanding → Said s' [m.requestId] [] → Effect s (.message m) s'
  | starts {m operation session s'} : ¬ Throws s m → ¬ Supersedes m → Kept s s' → operation.requestId = m.requestId →
      (∀ requestId generation client, operation ≠ .opening requestId generation client) →
      s.coordinator = some session ∨ s.outbox = some session → s'.outstanding = s.outstanding ++ [operation] →
      Said s' [] [session] → Effect s (.message m) s'
  | expired {s'} : Reset s s' → s'.outstanding = s.outstanding → Said s' [] [] → Effect s .expiry s'
  | installs {requestId generation client accounts s'} : .opening requestId generation client ∈ s.outstanding →
      generation = s.sessionGeneration → Installed ⟨requestId, accounts⟩ s s' →
      s'.outstanding = s.outstanding.erase (.opening requestId generation client) → Said s' [requestId] [] →
      Effect s (.completion (.opening requestId generation client) (.ok accounts)) s'
  | dropped {operation result s'} : operation ∈ s.outstanding → Dropped s operation → Kept s s' →
      s'.outstanding = s.outstanding.erase operation → Said s' [] [] → Effect s (.completion operation result) s'
  | failed {requestId generation client error s'} : .opening requestId generation client ∈ s.outstanding →
      generation = s.sessionGeneration → Reset s s' →
      s'.outstanding = s.outstanding.erase (.opening requestId generation client) → Said s' [requestId] [] →
      Effect s (.completion (.opening requestId generation client) (.error error)) s'
  | ended {operation result s'} : operation ∈ s.outstanding → ¬ Expires s operation result →
      (∀ requestId generation client, operation ≠ .opening requestId generation client) → Kept s s' →
      s'.outstanding = s.outstanding.erase operation → Said s' [operation.requestId] [] → Effect s (.completion operation result) s'
  | expires {operation result s'} : operation ∈ s.outstanding → Expires s operation result → Reset s s' →
      s'.outstanding = s.outstanding.erase operation → Said s' [operation.requestId] [] → Effect s (.completion operation result) s'

/-! ## The handlers -/

variable {createJmapClient : Nat → String → String → JmapClient} {s s' : WorkerRuntime}

open WorkerRuntime

theorem invalidate_reset (s : WorkerRuntime) : Reset s s.invalidate ∧ s.invalidate.outstanding = s.outstanding ∧
    Said s.invalidate (answersOf s.acts) (startedOn s.acts) := by
  unfold invalidate tokenExpired
  dsimp only
  split
  · exact ⟨⟨rfl, rfl, rfl, rfl⟩, rfl, by simp [resetToAnonymous, postStatus, post, act, WorkerToMainMessage.answers],
      by simp [resetToAnonymous, postStatus, post, act]⟩
  · exact ⟨⟨rfl, rfl, rfl, rfl⟩, rfl, by simp [resetToAnonymous, postStatus, post, act, WorkerToMainMessage.answers],
      by simp [resetToAnonymous, postStatus, post, act]⟩

theorem getAuthConfig_setToken (t : TokenManager) (token : String) (expiresInSeconds : Option Rat) :
    (t.setToken token expiresInSeconds).getAuthConfig = if token = "" then none else some token := by
  unfold TokenManager.getAuthConfig TokenManager.setToken
  by_cases h : token = "" <;> simp [h]

theorem remoteAccountIdFromString_error {value : String} (h : value = "") : ∃ e, remoteAccountIdFromString value = .error e := by
  unfold remoteAccountIdFromString remoteIdFromString
  exact ⟨_, if_pos (by simp [h])⟩

theorem remoteAccountIdFromString_ok {value : String} (h : value ≠ "") : remoteAccountIdFromString value = .ok value := by
  unfold remoteAccountIdFromString remoteIdFromString
  exact if_neg (by simpa using h)

theorem effect_initSession (requestId sessionUrl token : String) (expiresInSeconds : Option Rat) (hacts : s.acts = []) :
    Effect s (.message (.initSession requestId sessionUrl token expiresInSeconds))
      (s.initSession createJmapClient requestId sessionUrl token expiresInSeconds) := by
  unfold initSession
  dsimp only
  rw [getAuthConfig_setToken]
  by_cases htoken : token = ""
  · rw [if_pos htoken]
    refine .refused id (fun h => h htoken) ⟨rfl, rfl, ?_, rfl, rfl, rfl⟩ rfl ⟨?_, ?_⟩
    · rintro ⟨⟩
    · simp [postStatus, post, act, hacts, WorkerToMainMessage.answers, MainToWorkerMessage.requestId]
    · simp [postStatus, post, act, hacts]
  · rw [if_neg htoken]
    refine .opens htoken ⟨rfl, rfl, rfl, rfl⟩ rfl ?_ rfl ⟨?_, ?_⟩
    · rintro ⟨⟩
    · simp [begin, resetToAnonymous, postStatus, post, act, hacts, WorkerToMainMessage.answers]
    · simp [begin, resetToAnonymous, postStatus, post, act, hacts]

theorem effect_teardownSession (requestId : String) (hacts : s.acts = []) :
    Effect s (.message (.teardownSession requestId)) (s.teardownSession requestId) := by
  obtain ⟨hreset, houtstanding, hsaid⟩ := invalidate_reset { s with explicitTeardownInFlight := true, invalidationStatus := .anonymous }
  refine .tornDown trivial ⟨hreset.1, hreset.2, hreset.3, hreset.4⟩ houtstanding ⟨?_, ?_⟩
  · change answersOf (WorkerRuntime.acts _ ++ [.posted _]) = [requestId]
    rw [answersOf_append, hsaid.1]
    simp [hacts, WorkerToMainMessage.answers]
  · change startedOn (WorkerRuntime.acts _ ++ [.posted _]) = []
    rw [startedOn_append, hsaid.2]
    simp [hacts]

theorem effect_syncAccount (requestId : String) (accountKey : AccountKey) (jmapAccountId : String) (hacts : s.acts = []) :
    Effect s (.message (.syncAccount requestId accountKey jmapAccountId)) (s.syncAccount requestId accountKey jmapAccountId) := by
  unfold syncAccount
  cases hcoordinator : s.coordinator with
  | none =>
    dsimp only
    refine .refused ?_ id ⟨rfl, rfl, id, rfl, rfl, rfl⟩ rfl ⟨?_, ?_⟩
    · exact fun h => h.1 hcoordinator
    · simp [post, act, hacts, WorkerToMainMessage.answers, MainToWorkerMessage.requestId]
    · simp [post, act, hacts]
  | some session =>
    dsimp only
    by_cases hid : jmapAccountId = ""
    · obtain ⟨e, he⟩ := remoteAccountIdFromString_error hid
      rw [he]
      refine .threw ⟨by simp [hcoordinator], hid⟩ ⟨rfl, rfl, id, rfl, rfl, rfl⟩ rfl ⟨?_, ?_⟩
      · simp [act, hacts]
      · simp [act, hacts]
    · rw [remoteAccountIdFromString_ok hid]
      refine .starts (fun h => hid h.2) id ⟨rfl, rfl, id, rfl, rfl, rfl⟩ ?_ ?_ (.inl hcoordinator) rfl ⟨?_, ?_⟩
      · rfl
      · rintro _ _ _ ⟨⟩
      · simp [begin, act, hacts]
      · simp [begin, act, hacts]

theorem effect_sendEmail (requestId : String) (accountKey : AccountKey) (jmapAccountId : String) (mutationId : MutationId)
    (hacts : s.acts = []) :
    Effect s (.message (.sendEmail requestId accountKey jmapAccountId mutationId)) (s.sendEmail requestId jmapAccountId mutationId) := by
  unfold sendEmail
  cases houtbox : s.outbox with
  | none =>
    dsimp only
    refine .refused ?_ id ⟨rfl, rfl, id, rfl, rfl, rfl⟩ rfl ⟨?_, ?_⟩
    · exact fun h => h.1 houtbox
    · simp [post, act, hacts, WorkerToMainMessage.answers, MainToWorkerMessage.requestId]
    · simp [post, act, hacts]
  | some session =>
    dsimp only
    by_cases hid : jmapAccountId = ""
    · obtain ⟨e, he⟩ := remoteAccountIdFromString_error hid
      rw [he]
      refine .threw ⟨by simp [houtbox], hid⟩ ⟨rfl, rfl, id, rfl, rfl, rfl⟩ rfl ⟨?_, ?_⟩
      · simp [act, hacts]
      · simp [act, hacts]
    · rw [remoteAccountIdFromString_ok hid]
      refine .starts (fun h => hid h.2) id ⟨rfl, rfl, id, rfl, rfl, rfl⟩ ?_ ?_ (.inr houtbox) rfl ⟨?_, ?_⟩
      · rfl
      · rintro _ _ _ ⟨⟩
      · simp [begin, act, hacts]
      · simp [begin, act, hacts]

theorem invalidateOnAuthError_expired {error : JsError} {client : Option JmapClient}
    (h : expiresSession error = true ∧ s.jmapClient = client) : Reset s (s.invalidateOnAuthError error client) ∧
      (s.invalidateOnAuthError error client).outstanding = s.outstanding ∧
      Said (s.invalidateOnAuthError error client) (answersOf s.acts) (startedOn s.acts) := by
  unfold invalidateOnAuthError
  rw [if_pos h]
  obtain ⟨hreset, houtstanding, hsaid⟩ := invalidate_reset { s with invalidationStatus := .expired }
  exact ⟨⟨hreset.1, hreset.2, hreset.3, hreset.4⟩, houtstanding, hsaid⟩

/-- A sync or a send that ends answers its request, and takes the session with it if its error says so. -/
theorem effect_failed {operation : Operation} {result : Except JsError operation.Value} {error : JsError} {client : Option JmapClient}
    {message : WorkerToMainMessage} (hmem : operation ∈ s.outstanding)
    (hother : ∀ requestId generation client, operation ≠ .opening requestId generation client)
    (hexpires : Expires s operation result ↔ expiresSession error = true ∧ s.jmapClient = client)
    (hanswers : message.answers = some operation.requestId) :
    Effect s (.completion operation result)
      (({ s with acts := [], outstanding := s.outstanding.erase operation }.invalidateOnAuthError error client).post message) := by
  by_cases h : expiresSession error = true ∧ s.jmapClient = client
  · obtain ⟨hreset, houtstanding, hsaid⟩ := @invalidateOnAuthError_expired
      { s with acts := [], outstanding := s.outstanding.erase operation } error client h
    refine .expires hmem (hexpires.2 h) ⟨hreset.1, hreset.2, hreset.3, hreset.4⟩ houtstanding ⟨?_, ?_⟩
    · change answersOf (WorkerRuntime.acts _ ++ [.posted message]) = _
      rw [answersOf_append, hsaid.1]
      simp [hanswers]
    · change startedOn (WorkerRuntime.acts _ ++ [.posted message]) = _
      rw [startedOn_append, hsaid.2]
      simp
  · unfold invalidateOnAuthError
    rw [if_neg h]
    refine .ended hmem (fun h' => h (hexpires.1 h')) hother ⟨rfl, rfl, id, rfl, rfl, rfl⟩ rfl ⟨?_, ?_⟩
    · simp [post, act, hanswers]
    · simp [post, act]

theorem effect_complete {operation : Operation} (result : Except JsError operation.Value) (hmem : operation ∈ s.outstanding) :
    Effect s (.completion operation result)
      ({ s with acts := [], outstanding := s.outstanding.erase operation }.complete operation result) := by
  cases operation with
  | opening requestId generation client =>
    cases result with
    | ok accounts =>
      unfold complete sessionOpened
      dsimp only
      split
      · rename_i hdropped
        exact .dropped hmem hdropped ⟨rfl, rfl, id, rfl, rfl, rfl⟩ rfl ⟨rfl, rfl⟩
      · rename_i hcurrent
        simp only [not_or, ne_eq, not_not] at hcurrent
        exact .installs hmem hcurrent.1 ⟨rfl, rfl, rfl, rfl, rfl, rfl⟩ rfl ⟨rfl, rfl⟩
    | error error =>
      unfold complete openingFailed
      dsimp only
      split
      · rename_i hdropped
        exact .dropped hmem (.inl hdropped) ⟨rfl, rfl, id, rfl, rfl, rfl⟩ rfl ⟨rfl, rfl⟩
      · rename_i hcurrent
        refine .failed hmem (not_not.1 hcurrent) ⟨rfl, rfl, rfl, rfl⟩ rfl ⟨?_, ?_⟩
        · simp [resetToAnonymous, postStatus, post, act, WorkerToMainMessage.answers]
        · simp [resetToAnonymous, postStatus, post, act]
  | sync requestId accountKey client session =>
    cases result with
    | ok value => exact .ended hmem id (by rintro _ _ _ ⟨⟩) ⟨rfl, rfl, id, rfl, rfl, rfl⟩ rfl ⟨rfl, rfl⟩
    | error error => exact effect_failed hmem (by rintro _ _ _ ⟨⟩) Iff.rfl rfl
  | send requestId mutationId client session =>
    cases result with
    | ok value => exact .ended hmem id (by rintro _ _ _ ⟨⟩) ⟨rfl, rfl, id, rfl, rfl, rfl⟩ rfl ⟨rfl, rfl⟩
    | error error => exact effect_failed hmem (by rintro _ _ _ ⟨⟩) Iff.rfl rfl

/-- Every turn has one of the effects. -/
theorem effect_of_turn {i : Input} (h : turn createJmapClient s i = some s') : Effect s i s' := by
  cases i with
  | message m =>
    obtain rfl := Option.some.inj h
    have heffect : Effect { s with acts := [] } (.message m) ({ s with acts := [] }.handleMessage createJmapClient m) := by
      cases m with
      | initSession requestId sessionUrl token expiresInSeconds => exact effect_initSession _ _ _ _ rfl
      | teardownSession requestId => exact effect_teardownSession _ rfl
      | syncAccount requestId accountKey jmapAccountId => exact effect_syncAccount _ _ _ rfl
      | sendEmail requestId accountKey jmapAccountId mutationId => exact effect_sendEmail _ _ _ _ rfl
    -- the acts of the turn before play no part
    cases heffect with
    | refused hthrows hsupersedes hkept =>
      refine .refused ?_ hsupersedes ⟨hkept.1, hkept.2, hkept.3, hkept.4, hkept.5, hkept.6⟩ ‹_› ‹_›
      cases m <;> exact hthrows
    | threw hthrows hkept =>
      refine .threw ?_ ⟨hkept.1, hkept.2, hkept.3, hkept.4, hkept.5, hkept.6⟩ ‹_› ‹_›
      cases m <;> exact hthrows
    | opens hsupersedes hreset => exact .opens hsupersedes ⟨hreset.1, hreset.2, hreset.3, hreset.4⟩ ‹_› ‹_› ‹_› ‹_›
    | tornDown hsupersedes hreset => exact .tornDown hsupersedes ⟨hreset.1, hreset.2, hreset.3, hreset.4⟩ ‹_› ‹_›
    | starts hthrows hsupersedes hkept =>
      refine .starts ?_ hsupersedes ⟨hkept.1, hkept.2, hkept.3, hkept.4, hkept.5, hkept.6⟩ ‹_› ‹_› ‹_› ‹_› ‹_›
      cases m <;> exact hthrows
  | expiry =>
    simp only [turn, Option.ite_none_right_eq_some, Option.some.injEq] at h
    obtain ⟨-, rfl⟩ := h
    obtain ⟨hreset, houtstanding, hsaid⟩ := invalidate_reset { s with acts := [] }
    exact .expired ⟨hreset.1, hreset.2, hreset.3, hreset.4⟩ houtstanding hsaid
  | completion operation result =>
    simp only [turn, Option.ite_none_right_eq_some, Option.some.injEq] at h
    obtain ⟨hmem, rfl⟩ := h
    exact effect_complete result hmem

end Boxplot.Worker
