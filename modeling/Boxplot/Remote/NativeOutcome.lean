import Boxplot.Outbox.MutationRunner
import Boxplot.Remote.Native
/-!
# What a rejected native mutation says of its effect

A rejection labelled as not applied is right exactly when the native command was
not performed, or ended in a way the error mapper understands. The mapper's
default is what the outbox resends on.
-/

namespace Boxplot.Remote

open Domain

/-- A call that rejects as not applied, or as safe to retry, was not performed. -/
def RejectionSound {α : Type} (a : Attempt α) : Prop :=
  ∀ e, a.outcome = .error (.remote e) → e.saysNotApplied → a.performed = false

/-- A value that is no `RemoteError` and that `isNativeError` does not recognise. -/
def Unrecognised : JsError → Prop
  | .remote _ => False
  | .thrown value => isNativeError value = .missing
  | _ => True

/-- A command that was performed rejects with nothing unrecognised, and with no `RemoteError` that denies it. -/
def Accountable {α : Type} (i : Invocation α) : Prop :=
  i.performed = true → ∀ v, i.ending = .error v → ¬ Unrecognised v ∧ ∀ e, v = .remote e → ¬ e.saysNotApplied

/-! ## The mapper -/

/-- The default: an unrecognised value is reported as not applied. -/
theorem toNativeRemoteError_unrecognised {v : JsError} (h : Unrecognised v) :
    toNativeRemoteError v = .remote nativeIpcUnavailable := by
  cases v with
  | remote e => exact absurd h id
  | thrown value =>
    have hm : isNativeError value = .missing := h
    simp only [toNativeRemoteError, hm]
  | _ => rfl

/-- What a recognised value is reported as: itself, its own labels, or nothing with labels. -/
theorem toNativeRemoteError_recognised {v : JsError} {e : RemoteError} (h : ¬ Unrecognised v)
    (he : toNativeRemoteError v = .remote e) : v = .remote e ∨ nativeLabels v = some e := by
  cases v with
  | remote e' => cases he; exact .inl rfl
  | thrown value =>
    right
    cases hl : isNativeError value with
    | missing => exact absurd hl h
    | threw => simp [toNativeRemoteError, hl] at he
    | label l =>
      cases hm : nativeMessage value with
      | none => simp [toNativeRemoteError, hl, hm] at he
      | some message =>
        simp only [toNativeRemoteError, hl, hm, JsError.remote.injEq] at he
        simp [nativeLabels, hl, hm, he]
  | _ => exact absurd trivial h

theorem nativeIpcUnavailable_saysNotApplied : nativeIpcUnavailable.saysNotApplied := .inl rfl

/-! ## One command -/

variable {α β : Type}

theorem rejectionSound_ended (r : Except JsError α) : RejectionSound (.ended r) := fun _ _ _ => rfl

/-- The rejections of a command are sound exactly when it is accountable and, if it was performed, its
result could be read. -/
theorem rejectionSound_attempt (i : Invocation α) {read : α → Except JsError β}
    (hread : ∀ a v, read a = .error v → Unrecognised v) :
    RejectionSound (i.attempt read) ↔
      Accountable i ∧ (i.performed = true → ∀ a v, i.ending = .ok a → read a ≠ .error v) := by
  have default : ∀ v, Unrecognised v → (i.ending.bind read) = .error v → RejectionSound (i.attempt read) →
      i.performed = false := by
    intro v hv hb h
    refine h nativeIpcUnavailable ?_ nativeIpcUnavailable_saysNotApplied
    simp [Invocation.attempt, hb, Except.mapError, toNativeRemoteError_unrecognised hv]
  constructor
  · intro h
    refine ⟨fun hp v hv => ⟨fun hu => ?_, fun e hve hs => ?_⟩, fun hp a v ha hra => ?_⟩
    · rw [default v hu (by rw [hv]; rfl) h] at hp; cases hp
    · subst hve
      have ho : (i.attempt read).outcome = .error (.remote e) := by
        simp [Invocation.attempt, hv, Except.bind, Except.mapError, toNativeRemoteError]
      rw [show i.performed = false from h e ho hs] at hp; cases hp
    · rw [default v (hread a v hra) (by rw [ha]; exact hra) h] at hp; cases hp
  · rintro ⟨hacc, hres⟩ e ho hs
    by_contra hp
    have hp : i.performed = true := eq_true_of_ne_false hp
    simp only [Invocation.attempt] at ho
    cases hend : i.ending with
    | ok a =>
      cases hra : read a with
      | ok b => simp [hend, Except.bind, hra, Except.mapError] at ho
      | error v => exact hres hp a v hend hra
    | error v =>
      simp only [hend, Except.bind, Except.mapError, Except.error.injEq] at ho
      obtain ⟨hu, hr⟩ := hacc hp v hend
      rcases toNativeRemoteError_recognised hu ho with hv | hl
      · exact hr e hv hs
      · rw [i.truthful v e hend hl hs] at hp; cases hp

/-- The same for a command whose result is not looked at. -/
theorem rejectionSound_plain (i : Invocation Unit) : RejectionSound (i.attempt Except.ok) ↔ Accountable i := by
  rw [rejectionSound_attempt i (by rintro a v ⟨⟩)]
  exact and_iff_left (by rintro - a v - ⟨⟩)

/-! ## The three calls -/

theorem reply_error (a : SmtpSubmitReply) (v : JsError) (h : a.result = .error v) : a = .nullish ∧ Unrecognised v := by
  cases a with
  | nullish => cases h; exact ⟨rfl, trivial⟩
  | object r => cases h

/-- Each call's rejections are sound exactly when the native command it sends, if it sends one, is
accountable; and, for a submission that was performed, did not resolve to null. -/
theorem native_rejections_sound_iff (smtp : SmtpSubmission) (imap : ImapRemoteMail)
    (smtpSubmit : SmtpSubmitRequest → Invocation SmtpSubmitReply) (storeFlags : StoreFlagsRequest → Invocation Unit)
    (move : MoveRequest → Invocation Unit) (message : SubmissionMessage) (idempotencyKey accountId emailId : String)
    (keywords : RemoteKeywordChange) (mailboxes : RemoteMembershipChange) :
    (RejectionSound (smtp.submit smtpSubmit message idempotencyKey) ↔
      ∀ r, smtp.request message idempotencyKey = .ok r →
        Accountable (smtpSubmit r) ∧ ((smtpSubmit r).performed = true → (smtpSubmit r).ending ≠ .ok .nullish)) ∧
    (RejectionSound (imap.applyKeywordChange storeFlags accountId emailId keywords) ↔
      ∀ r, imap.storeFlagsRequest accountId emailId keywords = .ok r → Accountable (storeFlags r)) ∧
    (RejectionSound (imap.applyMembershipChange move accountId emailId mailboxes) ↔
      ∀ r, imap.moveRequest accountId emailId mailboxes = .ok (some r) → Accountable (move r)) := by
  refine ⟨?_, ?_, ?_⟩
  · unfold SmtpSubmission.submit Attempt.send
    cases hr : smtp.request message idempotencyKey with
    | error e => exact iff_of_true (rejectionSound_ended _) (by simp)
    | ok r =>
      simp only [Except.ok.injEq, forall_eq']
      rw [rejectionSound_attempt _ fun a v h => (reply_error a v h).2]
      refine and_congr_right fun _ => forall_congr' fun _ => ⟨fun h hn => h _ _ hn rfl, fun h a v ha hv => ?_⟩
      rw [(reply_error a v hv).1] at ha
      exact h ha
  · unfold ImapRemoteMail.applyKeywordChange Attempt.send
    cases hr : imap.storeFlagsRequest accountId emailId keywords with
    | error e => exact iff_of_true (rejectionSound_ended _) (by simp)
    | ok r =>
      simp only [Except.mapError, Except.ok.injEq, forall_eq']
      exact rejectionSound_plain _
  · unfold ImapRemoteMail.applyMembershipChange
    cases hr : imap.moveRequest accountId emailId mailboxes with
    | error e => exact iff_of_true (rejectionSound_ended _) (by simp)
    | ok o =>
      cases o with
      | none => exact iff_of_true (rejectionSound_ended _) (by simp)
      | some r =>
        simp only [Except.ok.injEq, Option.some.injEq, forall_eq']
        exact rejectionSound_plain _

/-! ## A message that is sent again -/

def sampleMessage : SubmissionMessage where
  remoteIdentityId := none
  «from» := ⟨none, "a@b"⟩
  «to» := [⟨none, "c@d"⟩]
  cc := []
  bcc := []
  replyTo := []
  subject := "Hi"
  body := .plain "Hello" none
  remoteAccountId := "r1"

/-- The message was submitted, and then the IPC channel rejected with a string. -/
def lostReply : Invocation SmtpSubmitReply where
  performed := true
  ending := .error (.thrown .nonObject)
  truthful := by rintro v e ⟨⟩ h; cases h

theorem lost_reply_reported_not_applied :
    ¬ RejectionSound (SmtpSubmission.submit ⟨"s", "r1"⟩ (fun _ => lostReply) sampleMessage "m1") := by
  intro h
  have hp : lostReply.performed = false := h nativeIpcUnavailable rfl nativeIpcUnavailable_saysNotApplied
  cases hp

/-- An unrecognised rejection reaches the runner as a failure it retries. -/
theorem unrecognised_retried {v : JsError} {e : RemoteError} (h : Unrecognised v) (he : toNativeRemoteError v = .remote e) :
    Outbox.remoteFailureVerdict (.remoteMutationSource (.remote e)) = .retry := by
  rw [toNativeRemoteError_unrecognised h] at he
  cases he
  rfl

end Boxplot.Remote
