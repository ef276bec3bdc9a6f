import Boxplot.Remote.Jmap
/-!
# What a JMAP mutation's outcome says of the server

A call that resolves claims that the server performed the change; one that
rejects as known not applied claims that it did not. For an update, every
rejection makes the second claim, so the two together hold exactly when the
server performed the change if and only if it acknowledged it. A submission
leaves the claim open where the transport failed.
-/

namespace Boxplot.Remote

open Domain Lib Jmap

/-- The call's outcome says nothing false of the effect. -/
structure OutcomeSound {α : Type} (a : Attempt α) : Prop where
  resolved : ∀ v, a.outcome = .ok v → a.performed = true
  rejected : ∀ e, a.outcome = .error (.remote e) → e.outcome = .knownNotApplied → a.performed = false

variable {α β : Type}

theorem outcomeSound_ok {performed : Bool} {v : α} : OutcomeSound ⟨performed, .ok v⟩ ↔ performed = true :=
  ⟨fun h => h.resolved v rfl, fun h => ⟨fun _ _ => h, by rintro e ⟨⟩⟩⟩

theorem outcomeSound_notApplied {performed : Bool} {e : RemoteError} (h : e.outcome = .knownNotApplied) :
    OutcomeSound (α := α) ⟨performed, .error (.remote e)⟩ ↔ performed = false :=
  ⟨fun hs => hs.rejected e rfl h, fun hp => ⟨by rintro v ⟨⟩, fun _ _ _ => hp⟩⟩

theorem outcomeSound_unknown {performed : Bool} {e : RemoteError} (h : e.outcome ≠ .knownNotApplied) :
    OutcomeSound (α := α) ⟨performed, .error (.remote e)⟩ :=
  ⟨by rintro v ⟨⟩, by rintro _ ⟨⟩ he; exact absurd he h⟩

theorem outcomeSound_ended (x : JsError) : OutcomeSound (α := α) (.ended (.error x)) :=
  ⟨by rintro v ⟨⟩, fun _ _ _ => rfl⟩

/-! ## Failures that say what happened -/

/-- An exception that `toRemoteError` labels with the outcome its caller gives, or as not applied. -/
def Definite : JsError → Prop
  | .jmap (.auth _) => True
  | .jmap (.method _ _ _) => True
  | .typeError _ => True
  | .error _ => True
  | _ => False

theorem notApplied_definite {x : JsError} (h : Definite x) :
    ∃ e, notApplied x = .remote e ∧ e.outcome = .knownNotApplied := by
  refine ⟨_, rfl, ?_⟩
  cases x with
  | jmap e => cases e <;> first | rfl | exact absurd h id
  | typeError m => rfl
  | error m => rfl
  | _ => exact absurd h id

theorem submissionRejected_definite {x : JsError} (h : Definite x) : submissionRejected x = notApplied x := by
  cases x with
  | jmap e => cases e <;> first | rfl | exact absurd h id
  | typeError m => rfl
  | error m => rfl
  | _ => exact absurd h id

/-- A reading of an answer that fails only with such exceptions. -/
def Reads (r : Except JsError α) : Prop := ∀ x, r = .error x → Definite x

theorem Reads.ok (v : α) : Reads (.ok v) := by rintro x ⟨⟩

theorem Reads.method (method type message : String) : Reads (α := α) (.error (.jmap (.method method type message))) := by
  rintro x ⟨⟩
  trivial

theorem Reads.reads (r : Except String α) : Reads (Jmap.reads r) := by
  rintro x h
  cases r with
  | ok v => cases h
  | error m => cases h; trivial

theorem Reads.bind {r : Except JsError α} {f : α → Except JsError β} (hr : Reads r) (hf : ∀ v, r = .ok v → Reads (f v)) :
    Reads (r >>= f) := by
  cases r with
  | ok v => exact hf v rfl
  | error x => rintro y ⟨⟩; exact hr x rfl

theorem setError_method {e : Engine} {method default : String} {special : String × String} {details : JsValue}
    {error : JmapError} (h : setError e method default special details = .ok error) :
    ∃ type message, error = .method method type message := by
  unfold setError at h
  cases ht : details.get e "type" with
  | error m => simp [ht, bind, Except.bind] at h
  | ok type =>
    cases hd : details.get e "description" with
    | error m => simp [ht, hd, bind, Except.bind] at h
    | ok description =>
      simp only [ht, hd, bind, Except.bind] at h
      split at h <;> cases h <;> exact ⟨_, _, rfl⟩

/-- An entry that says why an object was not created or updated. -/
theorem Reads.setError (e : Engine) (method default : String) (special : String × String) (details : JsValue) :
    Reads (α := α) (Jmap.reads (Jmap.setError e method default special details) >>= fun error => .error (.jmap error)) := by
  refine .bind (.reads _) fun error herror => ?_
  cases hs : Jmap.setError e method default special details with
  | error m => rw [hs] at herror; cases herror
  | ok error' =>
    rw [hs] at herror
    cases herror
    obtain ⟨type, message, rfl⟩ := setError_method hs
    exact .method _ _ _

theorem readReply_error {e : Engine} {reply : HttpReply} {x : JsError} (h : readReply e reply = .error x) :
    (∃ m, x = .jmap (.auth m)) ∨ ∃ m, x = .jmap (.network m) := by
  cases reply with
  | lost => cases h; exact .inr ⟨_, rfl⟩
  | answered status body =>
    simp only [readReply] at h
    split at h
    · cases h; exact .inl ⟨_, rfl⟩
    · split at h
      · cases h; exact .inr ⟨_, rfl⟩
      · split at h
        · cases h; exact .inr ⟨_, rfl⟩
        · split at h
          · cases h
          · cases h; exact .inr ⟨_, rfl⟩

/-! ## Updates -/

/-- The request the client sends for these method calls, if it sends one. -/
def JamClientAdapter.request (client : JamClientAdapter) (methodCalls : List MethodCall) : Option HttpRequest :=
  client.apiUrl.bind (jmapRequest client.auth methodCalls)

/-- The answer arrived whole, and has no truthy `notUpdated` entry for the email. -/
def Acknowledges (e : Engine) (emailId : String) (reply : HttpReply) : Prop :=
  ∃ responses, readReply e reply = .ok responses ∧ notUpdatedEntry e emailId responses = .ok none

/-- An update's answer is read as success exactly when it has no entry for the email. -/
theorem readUpdate_ok (e : Engine) (emailId mismatch failure : String) (responses : List JsValue) :
    readUpdate e emailId mismatch failure responses = .ok () ↔ notUpdatedEntry e emailId responses = .ok none := by
  unfold readUpdate
  cases hn : notUpdatedEntry e emailId responses with
  | error m => simp [reads, Except.mapError, bind, Except.bind]
  | ok entry =>
    cases entry with
    | none => simp [reads, Except.mapError, bind, Except.bind]
    | some details =>
      cases hs : setError e "Email/set" failure ("stateMismatch", mismatch) details <;>
        simp [reads, Except.mapError, bind, Except.bind, hs]

theorem reads_readUpdate (e : Engine) (emailId mismatch failure : String) (responses : List JsValue) :
    Reads (readUpdate e emailId mismatch failure responses) := by
  refine .bind (.reads _) fun entry _ => ?_
  cases entry with
  | none => exact .ok ()
  | some details => exact .setError e "Email/set" failure _ details

/-- What both mutations do, up to the property and the texts. -/
def JamClientAdapter.patchEmail (client : JamClientAdapter) (property mismatch failure accountId emailId : String)
    (patch : List (String × JsValue)) : Attempt Unit :=
  client.withSession fun apiUrl =>
    Jmap.patchEmail property mismatch failure client.engine client.server apiUrl client.auth accountId emailId patch

/-- An update that is never sent rejects. -/
theorem update_unsent {client : JamClientAdapter} {property accountId emailId : String} {patch : List (String × JsValue)}
    (mismatch failure : String) (h : client.request [updateCall property accountId emailId patch] = none) :
    ∃ x, answerOr (client.patchEmail property mismatch failure accountId emailId patch) notApplied .ok = .ended (.error x) := by
  unfold JamClientAdapter.request at h
  unfold JamClientAdapter.patchEmail JamClientAdapter.withSession
  cases hurl : client.apiUrl with
  | none => exact ⟨_, rfl⟩
  | some apiUrl =>
    rw [hurl, Option.bind_some] at h
    simp only [Jmap.patchEmail, fetchJmapRaw, h]
    exact ⟨_, rfl⟩

/-- One that is sent resolves exactly when it is acknowledged, and else is reported as not applied. -/
theorem update_sent {client : JamClientAdapter} {property accountId emailId : String} {patch : List (String × JsValue)}
    {r : HttpRequest} (mismatch failure : String)
    (h : client.request [updateCall property accountId emailId patch] = some r) :
    (answerOr (client.patchEmail property mismatch failure accountId emailId patch) notApplied .ok =
        ⟨(client.server r).performed, .ok ()⟩ ∧ Acknowledges client.engine emailId (client.server r).reply) ∨
      (∃ e, answerOr (client.patchEmail property mismatch failure accountId emailId patch) notApplied .ok =
        ⟨(client.server r).performed, .error (.remote e)⟩ ∧ e.outcome = .knownNotApplied) ∧
        ¬ Acknowledges client.engine emailId (client.server r).reply := by
  unfold JamClientAdapter.request at h
  unfold JamClientAdapter.patchEmail JamClientAdapter.withSession
  obtain ⟨apiUrl, hurl, hr⟩ := Option.bind_eq_some_iff.1 h
  simp only [hurl, Jmap.patchEmail, fetchJmapRaw, hr, answerOr, Acknowledges]
  cases readReply client.engine (client.server r).reply with
  | error x =>
    -- the request failed: reported as not applied, whatever the server did
    obtain ⟨e, he, ho⟩ := notApplied_definite (x := updateFailed x) trivial
    exact .inr ⟨⟨e, by simp only [he], ho⟩, by simp⟩
  | ok responses =>
    simp only [Except.ok.injEq, exists_eq_left']
    rw [← readUpdate_ok client.engine emailId mismatch failure responses]
    cases hu : readUpdate client.engine emailId mismatch failure responses with
    | ok v => exact .inl ⟨rfl, rfl⟩
    | error x =>
      obtain ⟨e, he, ho⟩ := notApplied_definite (reads_readUpdate _ _ _ _ _ x hu)
      exact .inr ⟨⟨e, by simp only [he], ho⟩, by simp⟩

/-- One update is sound exactly when the server performs it if and only if it acknowledges it. -/
theorem outcomeSound_update (client : JamClientAdapter) (property mismatch failure accountId emailId : String)
    (patch : List (String × JsValue)) :
    OutcomeSound (answerOr (client.patchEmail property mismatch failure accountId emailId patch) notApplied .ok) ↔
      ∀ r, client.request [updateCall property accountId emailId patch] = some r →
        ((client.server r).performed = true ↔ Acknowledges client.engine emailId (client.server r).reply) := by
  cases hr : client.request [updateCall property accountId emailId patch] with
  | none =>
    obtain ⟨x, hx⟩ := update_unsent mismatch failure hr
    exact iff_of_true (hx ▸ outcomeSound_ended x) (by simp)
  | some r =>
    simp only [Option.some.injEq, forall_eq']
    rcases update_sent mismatch failure hr with ⟨h, hack⟩ | ⟨⟨e, h, ho⟩, hack⟩
    · simp only [h, outcomeSound_ok, hack, iff_true]
    · simp only [h, outcomeSound_notApplied ho, hack, iff_false, Bool.not_eq_true]

/-! ## Submissions -/

theorem reads_responseArgs (e : Engine) (callId : String) (responses : List JsValue) : Reads (responseArgs e callId responses) := by
  refine .bind (.reads _) fun response _ => ?_
  cases response with
  | none => exact .ok _
  | some r => exact .bind (.reads _) fun args _ => .ok _

theorem reads_notCreatedEntry (e : Engine) (response : JsValue) (name : String) : Reads (notCreatedEntry e response name) :=
  .bind (.reads _) fun _ _ => .bind (.reads _) fun _ _ => .ok _

theorem reads_createdId (e : Engine) (response : JsValue) (name : String) : Reads (createdId e response name) :=
  .bind (.reads _) fun _ _ => .bind (.reads _) fun _ _ => .reads _

theorem reads_readBatch (e : Engine) (responses : List JsValue) : Reads (readBatch e responses) := by
  refine .bind (reads_responseArgs _ _ _) fun emailSet _ => .bind (reads_responseArgs _ _ _) fun subSet _ => ?_
  refine .bind (reads_notCreatedEntry _ _ _) fun emailNotCreated _ => ?_
  cases emailNotCreated with
  | some details => exact .setError e _ _ _ details
  | none =>
    refine .bind (reads_notCreatedEntry _ _ _) fun subNotCreated _ => ?_
    cases subNotCreated with
    | some details => exact .setError e _ _ _ details
    | none =>
      refine .bind (reads_createdId _ _ _) fun emailId _ => .bind (reads_createdId _ _ _) fun subId _ => ?_
      cases emailId.truthy && subId.truthy with
      | true => exact .ok _
      | false => exact .method _ _ _

theorem reads_submissionResult (e : Engine) (ids : JsValue × JsValue) : Reads (submissionResult e ids) := by
  refine .bind (.reads _) fun length _ => ?_
  split
  · rintro x ⟨⟩; trivial
  · exact .ok _

/-- The batch that submits the message, if the call gets as far as sending it. -/
def JmapSubmission.batch (client : JamClientAdapter) (message : SubmissionMessage) : Option HttpRequest :=
  match submissionRequest message, client.apiUrl with
  | .ok (draft, identityId), some apiUrl =>
    match draftsMailboxId client.engine client.server apiUrl client.auth message.remoteAccountId with
    | .ok mailboxId =>
      jmapRequest client.auth (submissionBatch client.engine message.remoteAccountId mailboxId draft identityId) apiUrl
    | .error _ => none
  | _, _ => none

/-- How what the server did with the batch is reported. -/
def JmapSubmission.report (e : Engine) (served : Served) : Attempt SubmissionResult :=
  answerOr (answerOr ⟨served.performed, readReply e served.reply⟩ batchFailed (readBatch e)) submissionRejected fun ids =>
    (submissionResult e ids).mapError submissionRejected

theorem submit_sent {client : JamClientAdapter} {message : SubmissionMessage} {r : HttpRequest}
    (h : JmapSubmission.batch client message = some r) :
    JmapSubmission.submit client message = JmapSubmission.report client.engine (client.server r) := by
  unfold JmapSubmission.batch at h
  unfold JmapSubmission.submit JamClientAdapter.submitEmail JamClientAdapter.withSession Jmap.submitEmail
  split at h
  · rename_i draft identityId apiUrl hreq hurl
    simp only [hreq, hurl]
    split at h
    · rename_i mailboxId hmbx
      simp only [hmbx, fetchJmapRaw, h]
      rfl
    · cases h
  · cases h

/-- A submission that ends before the batch is sent rejects, and the server has done nothing. -/
theorem submit_unsent {client : JamClientAdapter} {message : SubmissionMessage}
    (h : JmapSubmission.batch client message = none) : ∃ x, JmapSubmission.submit client message = .ended (.error x) := by
  unfold JmapSubmission.batch at h
  unfold JmapSubmission.submit JamClientAdapter.submitEmail JamClientAdapter.withSession Jmap.submitEmail
  cases hreq : submissionRequest message with
  | error x => exact ⟨x, rfl⟩
  | ok p =>
    cases hurl : client.apiUrl with
    | none => exact ⟨_, rfl⟩
    | some apiUrl =>
      simp only [hreq, hurl] at h ⊢
      cases hmbx : draftsMailboxId client.engine client.server apiUrl client.auth message.remoteAccountId with
      | error x => exact ⟨_, rfl⟩
      | ok mailboxId =>
        simp only [hmbx] at h
        simp only [fetchJmapRaw, h]
        exact ⟨_, rfl⟩

/-- Nothing was answered that says what became of the batch. -/
def Unanswered (e : Engine) (reply : HttpReply) : Prop := ∃ m, readReply e reply = .error (.jmap (.network m))

/-- The answer arrived whole and names both objects. -/
def Accepts (e : Engine) (reply : HttpReply) : Prop :=
  ∃ responses ids result, readReply e reply = .ok responses ∧ readBatch e responses = .ok ids ∧ submissionResult e ids = .ok result

theorem report_unanswered {e : Engine} {served : Served} (h : Unanswered e served.reply) :
    ∃ error, JmapSubmission.report e served = ⟨served.performed, .error (.remote error)⟩ ∧ error.outcome = .unknown := by
  obtain ⟨m, hm⟩ := h
  exact ⟨_, by simp only [JmapSubmission.report, answerOr, hm]; rfl, rfl⟩

theorem report_accepts {e : Engine} {served : Served} (h : Accepts e served.reply) :
    ∃ v, JmapSubmission.report e served = ⟨served.performed, .ok v⟩ := by
  obtain ⟨responses, ids, result, hr, hb, hs⟩ := h
  exact ⟨result, by simp only [JmapSubmission.report, answerOr, hr, hb, hs, Except.mapError]⟩

theorem report_refused {e : Engine} {served : Served} (hu : ¬ Unanswered e served.reply) (ha : ¬ Accepts e served.reply) :
    ∃ error, JmapSubmission.report e served = ⟨served.performed, .error (.remote error)⟩ ∧
      error.outcome = .knownNotApplied := by
  have definite : ∀ x, Definite x → ∃ error, submissionRejected x = .remote error ∧ error.outcome = .knownNotApplied := by
    intro x hx
    rw [submissionRejected_definite hx]
    exact notApplied_definite hx
  unfold JmapSubmission.report answerOr
  cases hr : readReply e served.reply with
  | error x =>
    rcases readReply_error hr with ⟨m, rfl⟩ | ⟨m, rfl⟩
    · exact ⟨_, rfl, rfl⟩
    · exact absurd ⟨m, hr⟩ hu
  | ok responses =>
    cases hb : readBatch e responses with
    | error x =>
      obtain ⟨error, he, ho⟩ := definite x (reads_readBatch e responses x hb)
      exact ⟨error, by simp only [hb, he], ho⟩
    | ok ids =>
      cases hs : submissionResult e ids with
      | error x =>
        obtain ⟨error, he, ho⟩ := definite x (reads_submissionResult e ids x hs)
        exact ⟨error, by simp only [hb, hs, Except.mapError, he], ho⟩
      | ok result => exact absurd ⟨responses, ids, result, hr, hb, hs⟩ ha

theorem outcomeSound_submit (client : JamClientAdapter) (message : SubmissionMessage) :
    OutcomeSound (JmapSubmission.submit client message) ↔
      ∀ r, JmapSubmission.batch client message = some r → ¬ Unanswered client.engine (client.server r).reply →
        ((client.server r).performed = true ↔ Accepts client.engine (client.server r).reply) := by
  cases hb : JmapSubmission.batch client message with
  | none =>
    obtain ⟨x, hx⟩ := submit_unsent hb
    exact iff_of_true (hx ▸ outcomeSound_ended x) (by simp)
  | some r =>
    simp only [submit_sent hb, Option.some.injEq, forall_eq']
    by_cases hu : Unanswered client.engine (client.server r).reply
    · obtain ⟨error, he, ho⟩ := report_unanswered hu
      rw [he]
      exact iff_of_true (outcomeSound_unknown (by simp [ho])) (absurd hu)
    · simp only [hu, not_false_eq_true, true_implies]
      by_cases ha : Accepts client.engine (client.server r).reply
      · obtain ⟨v, hv⟩ := report_accepts ha
        simp only [hv, outcomeSound_ok, ha, iff_true]
      · obtain ⟨error, he, ho⟩ := report_refused hu ha
        simp only [he, outcomeSound_notApplied ho, ha, iff_false, Bool.not_eq_true]

/-! ## The three mutations -/

/-- An update's outcome is sound exactly when the server performs what it acknowledges and nothing else; a
submission's, exactly when that holds of every answer other than a transport failure. -/
theorem jmap_outcomes_sound_iff (client : JamClientAdapter) (accountId emailId : String) (keywords : RemoteKeywordChange)
    (mailboxes : RemoteMembershipChange) (message : SubmissionMessage) :
    (OutcomeSound (JmapRemoteMail.applyKeywordChange client accountId emailId keywords) ↔
      ∀ r, client.request [updateCall "keywords" accountId emailId (patchOf keywords.add keywords.remove)] = some r →
        ((client.server r).performed = true ↔ Acknowledges client.engine emailId (client.server r).reply)) ∧
    (OutcomeSound (JmapRemoteMail.applyMembershipChange client accountId emailId mailboxes) ↔
      ∀ r, client.request [updateCall "mailboxIds" accountId emailId (patchOf mailboxes.add mailboxes.remove)] = some r →
        ((client.server r).performed = true ↔ Acknowledges client.engine emailId (client.server r).reply)) ∧
    (OutcomeSound (JmapSubmission.submit client message) ↔
      ∀ r, JmapSubmission.batch client message = some r → ¬ Unanswered client.engine (client.server r).reply →
        ((client.server r).performed = true ↔ Accepts client.engine (client.server r).reply)) :=
  ⟨outcomeSound_update client "keywords" _ _ accountId emailId _,
    outcomeSound_update client "mailboxIds" _ _ accountId emailId _, outcomeSound_submit client message⟩

/-- A server that performs every request and whose answers do not arrive. -/
def silentClient : JamClientAdapter where
  engine := ⟨fun _ _ => false, fun _ => ""⟩
  server := fun _ => ⟨true, .lost⟩
  auth := .bearer "t"
  apiUrl := some "https://jmap.example/api"

theorem lost_reply_of_applied_keywords :
    ¬ OutcomeSound (JmapRemoteMail.applyKeywordChange silentClient "a" "e" ⟨["$seen"], []⟩) := by
  intro h
  obtain ⟨e, he, ho⟩ := notApplied_definite (x := updateFailed (.jmap (.network "Network error during JMAP batch request"))) trivial
  have hp : true = false := h.rejected e (by rw [← he]; rfl) ho
  cases hp

end Boxplot.Remote
