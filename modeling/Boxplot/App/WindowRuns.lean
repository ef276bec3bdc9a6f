import Mathlib
import Boxplot.App.Attempts
/-!
# Runs of the mail controller

Whatever methods are called, in whatever order their promises go on: what is
shown belongs to what is selected, and no sign of work under way is left over
once every call has come back.
-/

namespace Boxplot.App

open Domain Lib Memory Outbox Sync

/-! ## What the methods request -/

/-- From any state of its attempt the program keeps the contract and leaves the attempt as it is; what it resolves to is as `P` says. -/
def Steady {α : Type} (p : ControllerPromise α) (P : α → Prop) : Prop := ∀ d, controllerContract.Yields Eq p (fun a _ => P a) d

namespace Steady

open ControllerPromise

variable {α β : Type} {p : ControllerPromise α} {P : α → Prop}

theorem bind {f : α → ControllerPromise β} {Q : β → Prop} (hp : Steady p P) (hf : ∀ a, P a → Steady (f a) Q) : Steady (p >>= f) Q :=
  fun d => (hp d).bind fun a d' _ ha => hf a ha d'

theorem pure {a : α} (h : P a) : Steady (Pure.pure a : ControllerPromise α) P := fun _ => .pure h

theorem throw (x : Thrown) : Steady (MonadExcept.throw x : ControllerPromise α) P := fun _ => .throw

theorem lift {r : Except Thrown α} (h : ∀ a, r = .ok a → P a) : Steady (Async.lift r : ControllerPromise α) P := fun _ => .lift h

theorem tryCatch {h : Thrown → ControllerPromise α} (hp : Steady p P) (hh : ∀ x, Steady (h x) P) : Steady (MonadExcept.tryCatch p h) P :=
  fun d => (hp d).tryCatch fun x d' _ => hh x d'

/-- A request that may be made at any time. -/
theorem request {c : ControllerCall} (hs : c.Sound) (hc : ∀ d : Duty, d.Due c ∧ ∀ r, d.next c r = d) :
    Steady (ControllerPromise.request c) (AnswersTo c) := by
  refine fun d => ⟨⟨hs, (hc d).1⟩, ?_⟩
  rintro r d' ⟨ha, rfl⟩
  refine ⟨((hc d).2 r).symm, ?_⟩
  rintro a ⟨⟩
  exact ha

theorem settled {ε : Type} {r : PortReply ε α} {Q : Except ε α → Prop} (h : ∀ a, (∀ value, a = .ok value → r = .ok value) → Q a) :
    Steady (ControllerPromise.settled r) Q := by
  cases r with
  | ok value =>
    refine pure (h _ ?_)
    rintro v ⟨⟩
    rfl
  | failed e => exact pure (h _ (by rintro v ⟨⟩))
  | rejected => exact throw _

theorem refreshSelectedBody : Steady ControllerPromise.refreshSelectedBody fun _ => True := by
  refine bind (request (c := .beginBody) trivial fun _ => ⟨trivial, fun _ => rfl⟩) fun begun _ => ?_
  cases begun with
  | none => exact pure trivial
  | some begun =>
    obtain ⟨emailId, generation⟩ := begun
    refine bind (request (c := .readEmailBody emailId) trivial fun _ => ⟨trivial, fun _ => rfl⟩) fun reply hreply => ?_
    refine bind (settled (Q := fun result => ∀ body, result = .ok (.cached body) → body.emailId = emailId) ?_) fun result hresult => ?_
    · exact fun result hr body hbody => hreply body (hr _ hbody)
    · exact fun d => ((request (c := .showBody emailId generation result) hresult fun _ => ⟨trivial, fun _ => rfl⟩) d).mono
        fun _ _ _ _ => trivial

theorem demandSelectedBody (emailId : ScopedEmailId) : Steady (ControllerPromise.demandSelectedBody emailId) fun _ => True :=
  bind (request (c := .demandSelectedBody emailId) trivial fun _ => ⟨trivial, fun _ => rfl⟩) fun _ _ => pure trivial

theorem refreshMailboxWindow : Steady ControllerPromise.refreshMailboxWindow fun _ => True := by
  refine bind (request (c := .beginWindow) trivial fun _ => ⟨trivial, fun _ => rfl⟩) fun begun _ => ?_
  cases begun with
  | none => exact pure trivial
  | some begun =>
    obtain ⟨mailboxId, generation⟩ := begun
    refine bind (request (c := .readMailboxView (MailController.windowSpec mailboxId)) trivial fun _ => ⟨trivial, fun _ => rfl⟩)
      fun reply hreply => ?_
    refine bind (settled (Q := fun result => ∀ view, result = .ok (.cached view) → OwnItems view) ?_) fun result hresult => ?_
    · exact fun result hr view hview => hreply view (hr _ hview)
    refine bind (request (c := .showView mailboxId generation result) hresult fun _ => ⟨trivial, fun _ => rfl⟩) fun shown hshown => ?_
    cases shown with
    | none => exact pure trivial
    | some view =>
      refine bind (request (c := .readEmails (view.items.map (·.emailId))) trivial fun _ => ⟨trivial, fun _ => rfl⟩)
        fun emailReply hemailReply => ?_
      refine bind (settled (Q := fun result => ∀ value, result = .ok value → ReadsOf (view.items.map (·.emailId)) value) ?_)
        fun emails hemails => ?_
      · exact fun result hr value hvalue => hemailReply value (hr _ hvalue)
      refine bind (request (c := .showEmails (MailController.windowSpec mailboxId) generation view emails) ⟨hshown view rfl, hemails⟩
        fun _ => ⟨trivial, fun _ => rfl⟩) fun next _ => ?_
      cases next with
      | none => exact pure trivial
      | some nextEmail =>
        refine bind refreshSelectedBody fun _ _ => ?_
        cases nextEmail with
        | none => exact pure trivial
        | some emailId => exact demandSelectedBody emailId

theorem refreshMailboxes : Steady ControllerPromise.refreshMailboxes fun _ => True := by
  refine bind (request (c := .beginMailboxes) trivial fun _ => ⟨trivial, fun _ => rfl⟩) fun begun _ => ?_
  cases begun with
  | none => exact pure trivial
  | some begun =>
    obtain ⟨accountKey, generation⟩ := begun
    refine bind (request (c := .listMailboxes accountKey) trivial fun _ => ⟨trivial, fun _ => rfl⟩) fun reply hreply => ?_
    refine bind (settled (Q := fun result => ∀ value, result = .ok (.present value) → ∀ mailbox ∈ value, mailbox.id.accountKey = accountKey)
      ?_) fun result hresult => ?_
    · exact fun result hr value hvalue => hreply value (hr _ hvalue)
    refine bind (request (c := .showMailboxes accountKey generation result) hresult fun _ => ⟨trivial, fun _ => rfl⟩) fun shown _ => ?_
    refine bind (lift (P := fun _ => True) fun _ _ => trivial) fun refreshWindow _ => ?_
    cases refreshWindow with
    | false => exact pure trivial
    | true => exact refreshMailboxWindow

theorem refreshMutationStatuses (accountKey : AccountKey) : Steady (ControllerPromise.refreshMutationStatuses accountKey) fun _ => True :=
  bind (request (c := .refreshMutationStatuses accountKey) trivial fun _ => ⟨trivial, fun _ => rfl⟩) fun _ _ => lift fun _ _ => trivial

theorem refreshAccounts : Steady ControllerPromise.refreshAccounts fun _ => True := by
  refine bind (request (c := .beginAccounts) trivial fun _ => ⟨trivial, fun _ => rfl⟩) fun generation _ => ?_
  refine bind (request (c := .listAccounts) trivial fun _ => ⟨trivial, fun _ => rfl⟩) fun reply _ => ?_
  refine bind (settled (Q := fun _ => True) fun _ _ => trivial) fun result _ => ?_
  refine bind (request (c := .showAccounts generation result) trivial fun _ => ⟨trivial, fun _ => rfl⟩) fun shown _ => ?_
  refine bind (lift (P := fun _ => True) fun _ _ => trivial) fun next _ => ?_
  cases next with
  | none => exact pure trivial
  | some nextAccount => exact bind refreshMailboxes fun _ _ => refreshMutationStatuses nextAccount

theorem setLocal (state : LocalState) : Steady (ControllerPromise.request (.setLocal state)) fun _ => True :=
  request (c := .setLocal state) trivial fun _ => ⟨trivial, fun _ => rfl⟩

theorem setLoadState (loadState : MailLoadState) (error : Option String) :
    Steady (ControllerPromise.request (.setLoadState loadState error)) fun _ => True :=
  request (c := .setLoadState loadState error) trivial fun _ => ⟨trivial, fun _ => rfl⟩

theorem initializeController : Steady ControllerPromise.initializeController fun _ => True := by
  refine bind (request (c := .isSubscribed) trivial fun _ => ⟨trivial, fun _ => rfl⟩) fun subscribed _ => ?_
  cases subscribed with
  | true => exact pure trivial
  | false =>
    refine bind (setLocal .opening) fun _ _ => ?_
    refine bind (request (c := .subscribe) trivial fun _ => ⟨trivial, fun _ => rfl⟩) fun ok _ => ?_
    cases ok with
    | false => exact bind (setLocal .error) fun _ _ => bind (setLoadState _ _) fun _ _ => throw _
    | true =>
      refine bind (request (c := .setSubscription) trivial fun _ => ⟨trivial, fun _ => rfl⟩) fun _ _ => ?_
      refine tryCatch (bind refreshAccounts fun _ _ => setLocal .ready) fun error => ?_
      exact bind (setLocal .error) fun _ _ => bind (setLoadState _ _) fun _ _ => throw _

theorem retry : Steady ControllerPromise.retry fun _ => True := by
  refine bind (request (c := .isSubscribed) trivial fun _ => ⟨trivial, fun _ => rfl⟩) fun subscribed _ => ?_
  cases subscribed with
  | false => exact initializeController
  | true =>
    refine bind (setLocal .opening) fun _ _ => ?_
    refine tryCatch (bind refreshAccounts fun _ _ => setLocal .ready) fun error => ?_
    exact bind (setLocal .error) fun _ _ => throw _

theorem selectAccount (accountKey : AccountKey) : Steady (ControllerPromise.selectAccount accountKey) fun _ => True :=
  bind (request (c := .selectAccount accountKey) trivial fun _ => ⟨trivial, fun _ => rfl⟩) fun _ _ =>
    bind refreshMailboxes fun _ _ => refreshMutationStatuses accountKey

theorem selectMailbox (mailboxId : ScopedMailboxId) : Steady (ControllerPromise.selectMailbox mailboxId) fun _ => True :=
  bind (request (c := .selectMailbox mailboxId) trivial fun _ => ⟨trivial, fun _ => rfl⟩) fun _ _ => refreshMailboxWindow

theorem selectEmail (emailId : ScopedEmailId) : Steady (ControllerPromise.selectEmail emailId) fun _ => True :=
  bind (request (c := .selectEmail emailId) trivial fun _ => ⟨trivial, fun _ => rfl⟩) fun _ _ =>
    bind refreshSelectedBody fun _ _ => demandSelectedBody emailId

theorem refreshInvalidated (must : MailController.Invalidations) : Steady (ControllerPromise.refreshInvalidated must) fun _ => True := by
  unfold ControllerPromise.refreshInvalidated
  split
  · exact refreshAccounts
  split
  · exact refreshMailboxes
  split
  · exact refreshMailboxWindow
  split
  · exact bind refreshSelectedBody fun _ _ => pure trivial
  · exact pure trivial

theorem flushInvalidations : Steady ControllerPromise.flushInvalidations fun _ => True := by
  refine bind (request (c := .beginFlush) trivial fun _ => ⟨trivial, fun _ => rfl⟩) fun must _ => ?_
  refine tryCatch (bind (refreshInvalidated must) fun _ _ => ?_) fun _ => setLocal .error
  split
  · exact pure trivial
  · exact refreshMutationStatuses _

end Steady

/-! ### Methods that begin an attempt -/

/-- Whatever comes of it, the attempt has reported. -/
theorem performBodyMaterialization_reports (attempt : BodyAttempt) :
    controllerContract.wpA (ControllerPromise.performBodyMaterialization attempt)
      (fun r d => (∃ result, r = .ok result) ∧ d = .body attempt true) (.body attempt false) := by
  have hfinish (result : BodyLoadResult) : controllerContract.wpA (ControllerPromise.request (.finishMaterialize attempt result))
      (fun r d => (∃ result, r = .ok result) ∧ d = .body attempt true) (.body attempt false) := by
    refine ⟨⟨trivial, rfl⟩, ?_⟩
    rintro r d ⟨-, rfl⟩
    exact ⟨⟨r, rfl⟩, rfl⟩
  have hfail (kind : BodyMaterializationErrorKind) : controllerContract.wpA (ControllerPromise.request (.failMaterialize attempt kind))
      (fun r d => (∃ result, r = .ok result) ∧ d = .body attempt true) (.body attempt false) := by
    refine ⟨⟨trivial, rfl⟩, ?_⟩
    rintro r d ⟨-, rfl⟩
    exact ⟨⟨r, rfl⟩, rfl⟩
  refine ⟨⟨trivial, trivial⟩, ?_⟩
  rintro (kind | ⟨⟩) d ⟨-, rfl⟩
  · exact hfail _
  refine ⟨⟨trivial, rfl⟩, ?_⟩
  rintro (kind | current) d ⟨-, rfl⟩
  · exact ⟨⟨_, rfl⟩, rfl⟩
  cases current with
  | false => exact hfinish _
  | true =>
    refine Contract.wpA_bind_ok (P := fun _ d => d = .body attempt false) ?_ ?_
    · rw [Contract.wpA_tryCatch, Contract.wpA_bind]
      refine Contract.wpA_mono _ (fun r d => ?_) (Steady.refreshSelectedBody (.body attempt false))
      rintro ⟨rfl, -⟩
      cases r with
      | ok state => exact ⟨_, rfl, rfl⟩
      | error x => exact ⟨_, rfl, rfl⟩
    · rintro reread d rfl
      rcases reread with x | state
      · exact hfail _
      · cases state
        all_goals exact hfinish _

theorem materializeBody_ends (emailId : ScopedEmailId) :
    controllerContract.wpA (ControllerPromise.materializeBody emailId) (fun _ d => d = .none) .none := by
  refine ⟨⟨trivial, rfl⟩, ?_⟩
  rintro (_ | ⟨attempt, _ | result⟩) d ⟨-, rfl⟩
  · rfl
  · refine Contract.wpA_bind_ok (P := fun _ d => d = .body attempt true) ?_ ?_
    · refine Contract.wpA_mono _ ?_ (performBodyMaterialization_reports attempt)
      rintro _ d ⟨⟨result, rfl⟩, hd⟩
      exact ⟨result, rfl, hd⟩
    · rintro _ d rfl
      refine ⟨⟨trivial, rfl⟩, ?_⟩
      rintro r d ⟨-, rfl⟩
      rfl
  · refine ⟨⟨trivial, rfl⟩, ?_⟩
    rintro r d ⟨-, rfl⟩
    rfl

theorem refreshAccount_ends (accountKey : AccountKey) :
    controllerContract.wpA (ControllerPromise.refreshAccount accountKey) (fun _ d => d = .none) .none := by
  refine ⟨⟨trivial, rfl⟩, ?_⟩
  rintro (_ | _ | attempt) d ⟨-, rfl⟩
  · rfl
  · rfl
  refine ⟨⟨trivial, trivial⟩, ?_⟩
  rintro result d ⟨-, rfl⟩
  refine ⟨⟨trivial, rfl⟩, ?_⟩
  rintro reported d ⟨-, rfl⟩
  refine ⟨⟨trivial, rfl⟩, ?_⟩
  rintro r d ⟨-, rfl⟩
  rfl

/-- A method's call keeps the contract, and ends with no attempt of its own under way. -/
theorem methodProgram_ends (method : ControllerMethod) :
    controllerContract.wpA (methodProgram method) (fun _ d => d = .none) .none := by
  have hsteady {p : ControllerPromise Unit} (h : Steady p fun _ => True) : controllerContract.wpA p (fun _ d => d = .none) .none :=
    Contract.wpA_mono _ (fun _ _ hd => hd.1.symm) (h .none)
  cases method with
  | initialization => exact hsteady Steady.initializeController
  | retry => exact hsteady Steady.retry
  | refreshAccounts => exact hsteady Steady.refreshAccounts
  | refreshMailboxes => exact hsteady Steady.refreshMailboxes
  | refreshMailboxWindow => exact hsteady Steady.refreshMailboxWindow
  | refreshSelectedBody => exact hsteady (Steady.refreshSelectedBody.bind fun _ _ => Steady.pure trivial)
  | flushInvalidations => exact hsteady Steady.flushInvalidations
  | dispose => exact hsteady (Steady.request (c := .dispose) trivial fun _ => ⟨trivial, fun _ => rfl⟩)
  | selectAccount accountKey => exact hsteady (Steady.selectAccount accountKey)
  | selectMailbox mailboxId => exact hsteady (Steady.selectMailbox mailboxId)
  | selectEmail emailId => exact hsteady (Steady.selectEmail emailId)
  | materializeBody emailId => exact materializeBody_ends emailId
  | refreshAccount accountKey => exact refreshAccount_ends accountKey

/-! ## Runs -/

def ControllerInvariant (w : MailController) (σ : Nat → Duty) : Prop :=
  w.mail.Coherent ∧ w.BodyAttended (Duty.body? ∘ σ) ∧ w.RefreshAttended (Duty.refresh? ∘ σ)

namespace ControllerInvariant

variable {js : MailController.Collation} {w w' : MailController} {σ : Nat → Duty} {t : Nat}

theorem initial (bodyMaterializer : Bool) : ControllerInvariant (.initial bodyMaterializer) fun _ => .none where
  left := MailState.Coherent.initial
  right := by
    refine ⟨⟨by rintro key attempt ⟨⟩, by rintro - ⟨⟩⟩, ⟨by rintro attempt ⟨⟩, ?_, ?_, ?_, by rintro - k activity ⟨⟩⟩⟩
    · rintro t attempt reported ⟨⟩
    · rintro t t' attempt reported reported' ⟨⟩
    · rintro - t attempt ⟨⟩

/-- A step of a call that has no part in the attempts. -/
theorem quiet (h : ControllerInvariant w σ) (hc : w'.mail.Coherent) (hq : w.Quiet w') : ControllerInvariant w' σ :=
  ⟨hc, h.2.1.quiet (fun hd => hq.disposed.trans hd) hq.attempts hq.mail.materializing,
    h.2.2.quiet hq.disposed hq.active hq.generation hq.mail.activity⟩

/-- The next duty of a call in both tables. -/
theorem of_update (hc : w'.mail.Coherent) {d : Duty} (hb : w'.BodyAttended (Function.update (Duty.body? ∘ σ) t d.body?))
    (hr : w'.RefreshAttended (Function.update (Duty.refresh? ∘ σ) t d.refresh?)) : ControllerInvariant w' (Function.update σ t d) := by
  refine ⟨hc, ?_, ?_⟩
  · rw [Function.comp_update]
    exact hb
  · rw [Function.comp_update]
    exact hr

/-- A step of a call in its materialisation. -/
theorem of_body (hc : w'.mail.Coherent) {d : Duty} (hb : w'.BodyAttended (Function.update (Duty.body? ∘ σ) t d.body?))
    (hr : w'.RefreshAttended (Duty.refresh? ∘ σ)) (ht : (σ t).refresh? = d.refresh?) : ControllerInvariant w' (Function.update σ t d) := by
  refine of_update hc hb ?_
  rw [← ht]
  exact (Function.update_eq_self t (Duty.refresh? ∘ σ)).symm ▸ hr

/-- A step of a call in its refresh. -/
theorem of_refresh (hc : w'.mail.Coherent) {d : Duty} (hb : w'.BodyAttended (Duty.body? ∘ σ))
    (hr : w'.RefreshAttended (Function.update (Duty.refresh? ∘ σ) t d.refresh?)) (ht : (σ t).body? = d.body?) :
    ControllerInvariant w' (Function.update σ t d) := by
  refine of_update hc ?_ hr
  rw [← ht]
  exact (Function.update_eq_self t (Duty.body? ∘ σ)).symm ▸ hb

theorem beginMaterialize (h : ControllerInvariant w σ) (ht : σ t = .none) (emailId : ScopedEmailId)
    (hc : (w.beginMaterialize emailId).2.mail.Coherent) :
    ControllerInvariant (w.beginMaterialize emailId).2
      (Function.update σ t ((σ t).next (.beginMaterialize emailId) (w.beginMaterialize emailId).1)) := by
  have hbody := h.2.1.begin (t := t) (by simp [ht, Duty.body?]) emailId
  rcases w.beginMaterialize_cases emailId with hb | ⟨w₁, result, hw, -, hb⟩
  · rw [hb] at hc hbody ⊢
    exact of_body hc hbody h.2.2 (by rw [ht]; rfl)
  · rw [hb] at hc hbody ⊢
    exact of_body hc hbody (h.2.2.quiet hw.disposed hw.active hw.generation hw.activity) (by rw [ht]; rfl)

/-- A result is reported, in whatever way. -/
theorem report (h : ControllerInvariant w σ) {attempt : BodyAttempt} (ht : σ t = .body attempt false) (hc : w'.mail.Coherent)
    (hw : w.BodyOnly w') (hm : w'.mail.bodyMaterializing = true → w.mail.bodyMaterializing = true ∧
      (w.disposed = false → w.mail.selectedEmailId ≠ some attempt.emailId)) :
    ControllerInvariant w' (Function.update σ t (.body attempt true)) :=
  of_body hc (h.2.1.report (by simp [ht, Duty.body?]) hw hm) (h.2.2.quiet hw.disposed hw.active hw.generation hw.activity)
    (by rw [ht]; rfl)

theorem endMaterialize (h : ControllerInvariant w σ) {attempt : BodyAttempt} (ht : σ t = .body attempt true)
    (hc : (w.endMaterialize attempt).mail.Coherent) : ControllerInvariant (w.endMaterialize attempt) (Function.update σ t .none) := by
  refine of_body hc (h.2.1.finish (by simp [ht, Duty.body?])) ?_ (by rw [ht]; rfl)
  unfold MailController.endMaterialize
  split
  · exact h.2.2.quiet rfl rfl rfl rfl
  · exact h.2.2

theorem beginRefresh (h : ControllerInvariant w σ) (ht : σ t = .none) (accountKey : AccountKey)
    (hc : (w.beginRefresh accountKey).2.mail.Coherent) :
    ControllerInvariant (w.beginRefresh accountKey).2
      (Function.update σ t ((σ t).next (.beginRefresh accountKey) (w.beginRefresh accountKey).1)) := by
  have hr := h.2.2.begin (t := t) (by simp [ht, Duty.refresh?]) accountKey
  rw [ht]
  refine of_refresh hc ?_ hr ?_
  · unfold MailController.beginRefresh
    split
    · split
      · exact h.2.1
      · exact h.2.1.quiet id rfl fun hm => ⟨hm, rfl⟩
    · exact h.2.1.quiet id rfl fun hm => ⟨hm, rfl⟩
  · rw [ht]
    cases (w.beginRefresh accountKey).1 <;> rfl

theorem finishRefresh (h : ControllerInvariant w σ) {attempt : RefreshAttempt} (ht : σ t = .refresh attempt false)
    (result : Except RemoteRefreshErrorKind Unit) (hc : (w.finishRefresh attempt result).2.mail.Coherent) :
    ControllerInvariant (w.finishRefresh attempt result).2 (Function.update σ t (.refresh attempt true)) := by
  refine of_refresh hc ?_ (h.2.2.report (by simp [ht, Duty.refresh?]) result) (by rw [ht]; rfl)
  unfold MailController.finishRefresh
  split
  · exact h.2.1.quiet id rfl fun hm => ⟨hm, rfl⟩
  · exact h.2.1

theorem endRefresh (h : ControllerInvariant w σ) {attempt : RefreshAttempt} (ht : σ t = .refresh attempt true)
    (hc : (w.endRefresh attempt).mail.Coherent) : ControllerInvariant (w.endRefresh attempt) (Function.update σ t .none) := by
  refine of_refresh hc ?_ (h.2.2.finish (by simp [ht, Duty.refresh?])) (by rw [ht]; rfl)
  unfold MailController.endRefresh
  split
  · exact h.2.1.quiet id rfl fun hm => ⟨hm, rfl⟩
  · exact h.2.1

/-- A disposed controller shows no work, and promises nothing about later attempts. -/
theorem dispose (h : ControllerInvariant w σ) (hc : w.dispose.mail.Coherent) : ControllerInvariant w.dispose σ := by
  refine ⟨hc, ⟨by rintro key attempt ⟨⟩, by rintro ⟨⟩⟩, ⟨h.2.2.active, ?_, h.2.2.unique, by rintro ⟨⟩, by rintro ⟨⟩⟩⟩
  exact fun u a reported hu => (h.2.2.generation u a reported hu).trans (Nat.le_succ _)

/-- What a request does, and what is then due. -/
theorem call (h : ControllerInvariant w σ) {c : ControllerCall} {r : ControllerReply c} (hmay : controllerContract.may (σ t) c)
    (hp : w.perform js c r w') :
    ∃ d, controllerContract.step (σ t) c r d ∧ ControllerInvariant w' (Function.update σ t d) := by
  obtain ⟨hs, hdue⟩ := hmay
  obtain ⟨hl, hp⟩ := hp
  cases ha : w.answer js c with
  | none =>
    rw [ha] at hp
    obtain ⟨hanswers, rfl⟩ := hp
    have hnext : (σ t).next c r = σ t := by
      cases c
      case subscribe | listAccounts | listMailboxes | readMailboxView | readEmails | readEmailBody | materialize | remoteRefresh
        | refreshMutationStatuses => rfl
      all_goals cases ha
    refine ⟨_, ⟨hanswers, rfl⟩, ?_⟩
    rw [hnext, Function.update_eq_self]
    exact h
  | some reply =>
    rw [ha] at hp
    dsimp only at hp
    rw [← hp] at ha
    have hc := MailController.answer_coherent h.1 hl hs ha
    have hplain (hc' : c.Plain) (hn : (σ t).next c r = σ t) (hans : AnswersTo c r) :
        ∃ d, controllerContract.step (σ t) c r d ∧ ControllerInvariant w' (Function.update σ t d) := by
      refine ⟨_, ⟨hans, rfl⟩, ?_⟩
      rw [hn, Function.update_eq_self]
      exact h.quiet hc (MailController.answer_quiet hc' ha)
    -- The step as what the controller's own function returns.
    have hstep {x : ControllerReply c × MailController} (hx : w.answer js c = some x) : x.1 = r ∧ x.2 = w' := by
      have := Option.some.inj (hx.symm.trans ha)
      exact ⟨congrArg Prod.fst this, congrArg Prod.snd this⟩
    cases c
    case beginMaterialize emailId =>
      obtain ⟨rfl, rfl⟩ := hstep rfl
      exact ⟨_, ⟨trivial, rfl⟩, h.beginMaterialize hdue emailId hc⟩
    case materialized attempt =>
      obtain ⟨rfl, rfl⟩ := hstep rfl
      refine ⟨_, ⟨trivial, rfl⟩, ?_⟩
      unfold MailController.materialized at hc ⊢
      split
      · rename_i hd
        refine h.report hdue h.1 (.refl w) fun hm => ⟨hm, fun hd' => ?_⟩
        rw [hd] at hd'
        cases hd'
      · change ControllerInvariant w (Function.update σ t (.body attempt false))
        rw [← (hdue : σ t = .body attempt false), Function.update_eq_self]
        exact h
    case finishMaterialize attempt result =>
      obtain ⟨rfl, rfl⟩ := hstep rfl
      obtain ⟨hw, hm⟩ := w.finishBodyMaterialization_spec attempt.emailId result
      exact ⟨_, ⟨trivial, rfl⟩, h.report hdue hc hw hm⟩
    case failMaterialize attempt kind =>
      obtain ⟨rfl, rfl⟩ := hstep rfl
      obtain ⟨hw, hm⟩ := w.failMaterialize_spec attempt.emailId kind
      exact ⟨_, ⟨trivial, rfl⟩, h.report hdue hc hw hm⟩
    case endMaterialize attempt =>
      obtain ⟨rfl, rfl⟩ := hstep rfl
      exact ⟨_, ⟨trivial, rfl⟩, h.endMaterialize hdue hc⟩
    case beginRefresh accountKey =>
      obtain ⟨rfl, rfl⟩ := hstep rfl
      exact ⟨_, ⟨trivial, rfl⟩, h.beginRefresh hdue accountKey hc⟩
    case finishRefresh attempt result =>
      obtain ⟨rfl, rfl⟩ := hstep rfl
      exact ⟨_, ⟨trivial, rfl⟩, h.finishRefresh hdue result hc⟩
    case endRefresh attempt =>
      obtain ⟨rfl, rfl⟩ := hstep rfl
      exact ⟨_, ⟨trivial, rfl⟩, h.endRefresh hdue hc⟩
    case dispose =>
      obtain ⟨rfl, rfl⟩ := hstep rfl
      refine ⟨_, ⟨trivial, rfl⟩, ?_⟩
      change ControllerInvariant w.dispose (Function.update σ t (σ t))
      rw [Function.update_eq_self]
      exact h.dispose hc
    case showView mailboxId generation result =>
      obtain ⟨hr, -⟩ := hstep rfl
      exact hplain trivial rfl fun view hview => MailController.showView_sound hs (hr.trans hview)
    case listMailboxes | readMailboxView | readEmails | readEmailBody => cases ha
    all_goals exact hplain trivial rfl trivial

end ControllerInvariant

variable {js : MailController.Collation} {bodyMaterializer : Bool}
  {c : Pool ControllerCall ControllerReply (Except Thrown Unit) MailController}

theorem controllerInvariant_lasting : (mailApplication js).LastingInvariant controllerContract .none (.initial bodyMaterializer) ControllerInvariant where
  init := .initial bodyMaterializer
  call h hmay hp := h.call hmay hp
  env := by
    rintro w w' σ h ⟨hints, rfl⟩
    exact h.quiet { h.1 with } ⟨.refl _, rfl, rfl, rfl, rfl⟩

theorem controllerRun_sound (h : (mailApplication js).Run (System.idle (.initial bodyMaterializer)) c) :
    ∃ σ, ControllerInvariant c.world σ ∧ (∀ t, c.started ≤ t → σ t = .none) ∧
      ∀ t p, c.threads t = some p → controllerContract.wp p (fun _ d => d = .none) (σ t) := by
  refine System.Run.sound_lasting controllerInvariant_lasting ?_ h
  rintro p ⟨method, rfl⟩
  exact methodProgram_ends method

/-- Whatever is called in whatever order, what is shown belongs to what is selected. -/
theorem window_coherent (h : (mailApplication js).Run (System.idle (.initial bodyMaterializer)) c) : c.world.mail.Coherent := by
  obtain ⟨σ, hI, -, -⟩ := controllerRun_sound h
  exact hI.1

/-- The ports around a repository of one account with one email, whose body is cached. -/
def oneEmail : (c : ControllerCall) → Option (ControllerReply c)
  | .subscribe => some true
  | .listAccounts => some (.ok [⟨"a", ⟨"service", "r"⟩⟩])
  | .listMailboxes accountKey =>
    some (.ok (.present [⟨⟨accountKey, "in"⟩, "Inbox", none, some "inbox", 0, 1, 1, ⟨true, true, true, true, true, true⟩⟩]))
  | .readMailboxView spec => some (.ok (.cached ⟨spec, "s", 1, [⟨0, 1⟩], [⟨0, ⟨spec.mailboxId.accountKey, "m"⟩⟩]⟩))
  | .readEmails ids => some (.ok (ids.map fun id =>
      .present ⟨id, ⟨id.accountKey, "b"⟩, ⟨id.accountKey, "t"⟩, none, none, none, none, none, none, some "Hello", none, "now", 1, "", false, []⟩))
  | .readEmailBody emailId => some (.ok (.cached ⟨emailId, some "Hello", none⟩))
  | .remoteRefresh _ => some (.ok ())
  | .refreshMutationStatuses _ => some (.ok ())
  | _ => none

theorem oneEmail_answers {c : ControllerCall} {r : ControllerReply c} (h : oneEmail c = some r) : AnswersTo c r := by
  cases c with
  | listMailboxes accountKey =>
    cases h
    rintro value ⟨⟩ mailbox hmem
    rw [List.mem_singleton.1 hmem]
  | readMailboxView spec =>
    cases h
    rintro view ⟨⟩ item hmem
    rw [List.mem_singleton.1 hmem]
  | readEmails ids =>
    cases h
    rintro value ⟨⟩
    refine List.forall₂_map_right_iff.2 (List.forall₂_same.2 fun id _ email he => ?_)
    cases he
    rfl
  | readEmailBody emailId =>
    cases h
    rintro body ⟨⟩
    rfl
  | showView => cases h
  | _ => trivial

def oneEmailAnswer (w : MailController) : (c : ControllerCall) → Option (ControllerReply c × MailController)
  | .selectAccount _ | .selectMailbox _ | .selectEmail _ => none
  | c => (w.answer (fun _ _ => 0) c).or ((oneEmail c).map (·, w))

theorem oneEmailAnswer_performs {w w' : MailController} {c : ControllerCall} {r : ControllerReply c}
    (h : oneEmailAnswer w c = some (r, w')) : w.perform (fun _ _ => 0) c r w' := by
  have hport (hr : (w.answer (fun _ _ => 0) c).or ((oneEmail c).map (·, w)) = some (r, w')) (hl : w.Listed c) :
      w.perform (fun _ _ => 0) c r w' := by
    refine ⟨hl, ?_⟩
    cases ha : w.answer (fun _ _ => 0) c with
    | some reply =>
      rw [ha] at hr
      exact (Option.some.inj hr).symm
    | none =>
      rw [ha] at hr
      obtain ⟨reply, hreply, heq⟩ := Option.map_eq_some_iff.1 hr
      cases heq
      exact ⟨oneEmail_answers hreply, rfl⟩
  cases c
  case selectAccount | selectMailbox | selectEmail => cases h
  all_goals exact hport h trivial

/-- One call, from the first state to where it comes. -/
theorem oneEmail_run (method : ControllerMethod) :
    ∃ c, (mailApplication fun _ _ => 0).Run (System.idle (.initial true)) c ∧
      c.world = ((methodProgram method).run.play oneEmailAnswer (.initial true)).2 ∧
      c.threads 0 = ((methodProgram method).run.play oneEmailAnswer (.initial true)).1.map .pure ∧ c.started = 1 := by
  have hanswer (w : MailController) (e : ControllerCall) (r : ControllerReply e) (w' : MailController)
      (h : oneEmailAnswer w e = some (r, w')) : (mailApplication fun _ _ => 0).perform w 0 e r w' := oneEmailAnswer_performs h
  exact System.Run.spawn (System.idle (MailController.initial true)) ⟨method, rfl⟩ (Exec.of_play hanswer _ _)

/-- The window opens on the one email. -/
theorem window_coherent_opened : ∃ c, (mailApplication fun _ _ => 0).Run (System.idle (.initial true)) c ∧
    c.world.mail.Coherent ∧ c.world.mail.emailBody = some ⟨⟨"a", "m"⟩, some "Hello", none⟩ := by
  obtain ⟨c, hrun, hw, -⟩ := oneEmail_run .initialization
  refine ⟨c, hrun, window_coherent hrun, ?_⟩
  rw [hw]
  decide_cbv

/-- Once every call has come back, nothing is under way, and unless the controller is disposed nothing is shown to be. -/
theorem work_ends (h : (mailApplication js).Run (System.idle (.initial bodyMaterializer)) c)
    (hdone : ∀ t < c.started, ∃ r, c.threads t = some (.pure r)) :
    (∀ key, c.world.bodyMaterializationAttempts.get? key = none) ∧ c.world.activeRefreshAttempt = none ∧
    (c.world.disposed = false → c.world.mail.bodyMaterializing = false ∧
      ∀ accountKey activity, c.world.mail.refreshActivity.get? accountKey = some activity → activity.phase ≠ .refreshing) := by
  obtain ⟨σ, ⟨-, hbody, hrefresh⟩, hfresh, hthreads⟩ := controllerRun_sound h
  have hnone (t : Nat) : σ t = .none := by
    by_cases ht : t < c.started
    · obtain ⟨r, hr⟩ := hdone t ht
      exact hthreads t _ hr
    · exact hfresh t (Nat.le_of_not_lt ht)
  have hb (t : Nat) : (Duty.body? ∘ σ) t = none := by simp [hnone t, Duty.body?]
  have hr (t : Nat) : (Duty.refresh? ∘ σ) t = none := by simp [hnone t, Duty.refresh?]
  refine ⟨fun key => ?_, ?_, fun hd => ⟨?_, fun k activity hget hphase => ?_⟩⟩
  · cases hget : c.world.bodyMaterializationAttempts.get? key with
    | none => rfl
    | some attempt =>
      obtain ⟨-, t, reported, ht⟩ := hbody.attempts key attempt hget
      rw [hb t] at ht
      cases ht
  · cases hactive : c.world.activeRefreshAttempt with
    | none => rfl
    | some attempt =>
      obtain ⟨t, reported, ht⟩ := hrefresh.active attempt hactive
      rw [hr t] at ht
      cases ht
  · cases hm : c.world.mail.bodyMaterializing with
    | false => rfl
    | true =>
      obtain ⟨t, attempt, ht, -⟩ := hbody.materializing hd hm
      rw [hb t] at ht
      cases ht
  · obtain ⟨t, attempt, ht, -⟩ := hrefresh.refreshing hd k activity hget hphase
    rw [hr t] at ht
    cases ht

/-- A refresh that succeeds leaves its account idle. -/
theorem work_ends_refreshed : ∃ c, (mailApplication fun _ _ => 0).Run (System.idle (.initial true)) c ∧
    c.world.mail.refreshActivity.get? "a" = some ⟨.idle, none⟩ ∧ c.world.activeRefreshAttempt = none := by
  obtain ⟨c, hrun, hw, ht, hn⟩ := oneEmail_run (.refreshAccount "a")
  refine ⟨c, hrun, ?_, (work_ends hrun fun t hlt => ?_).2.1⟩
  · rw [hw]
    decide_cbv
  · obtain rfl : t = 0 := by
      rw [hn] at hlt
      exact Nat.lt_one_iff.1 hlt
    exact ⟨.ok (), ht⟩

end Boxplot.App
