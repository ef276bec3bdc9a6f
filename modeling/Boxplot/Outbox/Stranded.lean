import Boxplot.Domain.Factories
import Boxplot.Memory.SyncPort
import Boxplot.Outbox.SendContract
/-!
# Sends that are never submitted

One run of a runner over a stored send, amid other writers of the record. The
store fails by conflict only, where the record is not the expected one or the
engines refuse the transition. A record that a run left in flight without
calling `submit` is stranded: every later run only looks for evidence of it.
-/

namespace Boxplot.Outbox

open Domain Remote Lib Sync Memory

/-! ## Sends of the domain -/

/-- A send that `sendIntent` and `sendMutation` made, after any transitions. -/
inductive DomainBuilt : PendingMutation → Prop
  | made {intentInput : SendIntentInput} {input : MutationInput} {intent : SendIntent} {m : PendingMutation}
      (hid : intentInput.identity.id.jmapId ≠ "") (hintent : sendIntent intentInput = .ok intent)
      (hm : sendMutation input intent = .ok m) : DomainBuilt m
  | started {m m' : PendingMutation} (h : DomainBuilt m) (ht : startMutationAttempt m = .ok m') : DomainBuilt m'
  | scheduled {m m' : PendingMutation} {at' : MutationInstant} (h : DomainBuilt m) (ht : scheduleMutationRetry m at' = .ok m') :
      DomainBuilt m'
  | confirmed {m m' : PendingMutation} {c : SendConfirmation} (h : DomainBuilt m) (ht : confirmSendMutation m c = .ok m') :
      DomainBuilt m'
  | failed {m m' : PendingMutation} (h : DomainBuilt m) (ht : failMutationTerminal m = .ok m') : DomainBuilt m'

/-- Its identity has an id. -/
theorem DomainBuilt.intent {m : PendingMutation} (h : DomainBuilt m) :
    ∃ intent, m.payload = .send intent ∧ intent.identityId.jmapId ≠ "" := by
  induction h with
  | made hid hintent hm =>
    obtain ⟨-, rfl⟩ := sendMutation_ok.1 hm
    obtain ⟨-, rfl, -⟩ := sendIntent_ok.1 hintent
    exact ⟨_, rfl, hid⟩
  | started _ ht ih =>
    obtain ⟨-, rfl⟩ := startMutationAttempt_ok ht
    exact ih
  | scheduled _ ht ih =>
    obtain ⟨-, rfl⟩ := endAttempt_ok ht
    exact ih
  | confirmed _ ht ih =>
    obtain ⟨-, rfl⟩ := confirmSendMutation_ok ht
    exact ih
  | failed _ ht ih =>
    obtain ⟨-, rfl⟩ := endAttempt_ok ht
    exact ih

/-! ## The record -/

/-- The record under the run's key, whether the run was the last to write it, and whether it called `submit`. -/
structure Slot where
  stored : Option PendingMutation
  mine : Bool
  submitted : Bool

/-- The run left the record in flight. -/
def Slot.Stranded (w : Slot) : Prop := w.mine = true ∧ ∃ m n, w.stored = some m ∧ m.lifecycle = .inFlight n

/-- A transition that both engines make. -/
def Accepted (expected next : PendingMutation) : Prop :=
  sameImmutableMutation expected next = true ∧ validTransition expected next = true ∧ 0 < next.attemptCount

/-- What a run may be about: a mode of security, and the instants its clock yields. -/
structure Setting where
  mode : SendSecurityMode
  clock : MutationInstant → Prop

namespace Setting

variable (S : Setting)

/-- A send of the mode that the domain built. -/
def Holds (m : PendingMutation) : Prop := DomainBuilt m ∧ ∀ intent, m.payload = .send intent → intent.securityMode = S.mode

/-- Others leave the record alone, or put any send of the domain there, or none. -/
def Elsewhere (w w' : Slot) : Prop :=
  w' = w ∨ (w'.mine = false ∧ w'.submitted = w.submitted ∧ ∀ m, w'.stored = some m → S.Holds m)

/-- A request of the run, and its reply. -/
def serves (w : Slot) : (e : Call) → Reply e → Slot → Prop
  | .now, instant, w' => S.clock instant ∧ w' = w
  | .readPendingMutation _ _, r, w' =>
    r = .ok (match w.stored with | some m => .present m | none => .absent) ∧ w' = w
  | .replacePendingMutationIfCurrent expected next, r, w' =>
    (r = .ok () ∧ w' = { w with stored := some next, mine := true }) ∨
      (r = .failed .conflict ∧ w' = w ∧ ¬(w.stored = some expected ∧ Accepted expected next))
  | .removeConfirmedMutation _ _, r, w' =>
    (r = .ok () ∧ w' = { w with stored := none, mine := false }) ∨ (r = .failed .conflict ∧ w' = w)
  | .submit _ _, _, w' => w' = { w with submitted := true }
  | _, _, w' => w' = w

def perform (w : Slot) (e : Call) (r : Reply e) (w' : Slot) : Prop := ∃ w₁, S.Elsewhere w w₁ ∧ S.serves w₁ e r w'

/-- The record is there, and may be claimed. -/
def Start (w : Slot) : Prop := w.mine = false ∧ w.submitted = false ∧ ∃ m, w.stored = some m ∧ S.Holds m ∧ Claimable m

end Setting

/-! ## Runners -/

inductive Runner
  | runMutation (deps : MutationRunnerDependencies) (accountKey : AccountKey) (mutationId : MutationId)
  | processSendMutation (accountKey : AccountKey) (remoteAccountId : String) (mutationId : MutationId)

/-- ISO instants: the retry policy can do its arithmetic with them. -/
def Runner.clock : Runner → MutationInstant → Prop
  | .runMutation deps _ _, instant => ∀ delay, deps.shiftInstant instant delay ≠ none
  | .processSendMutation _ _ _, _ => True

/-- A run comes to its end, by return or by exception. -/
inductive Runner.Ends (mode : SendSecurityMode) : Runner → Slot → Slot → Prop
  | runMutation {deps accountKey mutationId w w' outcome} :
      Exec (Setting.perform ⟨mode, (Runner.runMutation deps accountKey mutationId).clock⟩)
        (Outbox.runMutation deps accountKey mutationId).run w (some outcome) w' →
      Ends mode (.runMutation deps accountKey mutationId) w w'
  | processSendMutation {accountKey remoteAccountId mutationId w w' outcome} :
      Exec (Setting.perform ⟨mode, (Runner.processSendMutation accountKey remoteAccountId mutationId).clock⟩)
        (Outbox.processSendMutation accountKey remoteAccountId mutationId).run w (some outcome) w' →
      Ends mode (.processSendMutation accountKey remoteAccountId mutationId) w w'

/-- No run that ends without a submission leaves the record in flight. -/
def Runner.StrandsNone (r : Runner) (mode : SendSecurityMode) : Prop :=
  ∀ w w', Setting.Start ⟨mode, r.clock⟩ w → r.Ends mode w w' → w'.submitted = false → ¬ w'.Stranded

/-! ## Rules -/

/-- Well and done: submitted, or not stranded. -/
def Slot.Settled (w : Slot) : Prop := w.submitted = true ∨ ¬ w.Stranded

/-- Any request is allowed; what counts is where it leads. -/
abbrev Setting.contract (S : Setting) : Contract Call Reply Slot := keeps S.perform fun _ => True

section
variable {S : Setting} {α β : Type} {w w₁ : Slot}

theorem slot_ask {e : Call} {Q : Except JsError (Reply e) → Slot → Prop}
    (h : ∀ w₁ r w', S.Elsewhere w w₁ → S.serves w₁ e r w' → Q (.ok r) w') : S.contract.wpA (ask e) Q w := by
  refine (S.contract.wpA_call _ _ _).2 ⟨trivial, ?_⟩
  rintro r w' ⟨w₁, helse, hserves⟩
  exact h w₁ r w' helse hserves

theorem Slot.Settled.elsewhere (h : w.Settled) (helse : S.Elsewhere w w₁) : w₁.Settled := by
  rcases helse with rfl | ⟨hmine, hsubmitted, -⟩
  · exact h
  · refine .inr fun hs => ?_
    rw [hs.1] at hmine
    cases hmine

theorem serves_submitted {e : Call} {r : Reply e} {w' : Slot} (h : S.serves w e r w') (hw : w.submitted = true) :
    w'.submitted = true := by
  cases e with
  | now => rw [h.2]; exact hw
  | readPendingMutation _ _ => rw [h.2]; exact hw
  | replacePendingMutationIfCurrent _ _ =>
    rcases h with ⟨-, rfl⟩ | ⟨-, rfl, -⟩
    · exact hw
    · exact hw
  | removeConfirmedMutation _ _ =>
    rcases h with ⟨-, rfl⟩ | ⟨-, rfl⟩
    · exact hw
    · exact hw
  | submit _ _ => rw [show w' = { w with submitted := true } from h]
  | _ => rw [show w' = w from h]; exact hw

/-- Once submitted, all is well. -/
theorem slot_submitted (p : Prog Call Reply α) (h : w.submitted = true) : S.contract.wp p (fun _ w' => w'.Settled) w := by
  induction p generalizing w with
  | pure a => exact .inl h
  | await e k ih =>
    refine ⟨trivial, ?_⟩
    rintro r w' ⟨w₁, helse, hserves⟩
    apply ih
    apply serves_submitted hserves
    rcases helse with rfl | ⟨-, hsubmitted, -⟩
    · exact h
    · rw [hsubmitted, h]

end

/-! ## Programs that put nothing in flight -/

/-- The request does not ask to store a record in flight. -/
def Grounded : Call → Prop
  | .replacePendingMutationIfCurrent _ next => ∀ n, next.lifecycle ≠ .inFlight n
  | _ => True

/-- Programs that make such requests only. -/
def groundedContract : Contract Call Reply Unit where
  may _ := Grounded
  step _ _ _ _ := True

abbrev Calm {α : Type} (p : Promise α) : Prop := groundedContract.Always p

section
variable {S : Setting} {α β : Type} {w : Slot}

theorem serves_settled {e : Call} {r : Reply e} {w' : Slot} (h : S.serves w e r w') (he : Grounded e) (hw : w.Settled) :
    w'.Settled := by
  cases e with
  | now => rw [h.2]; exact hw
  | readPendingMutation _ _ => rw [h.2]; exact hw
  | replacePendingMutationIfCurrent _ next =>
    rcases h with ⟨-, rfl⟩ | ⟨-, rfl, -⟩
    · refine .inr ?_
      rintro ⟨-, m, n, hm, hn⟩
      cases hm
      exact he n hn
    · exact hw
  | removeConfirmedMutation _ _ =>
    rcases h with ⟨-, rfl⟩ | ⟨-, rfl⟩
    · exact .inr fun hs => by cases hs.1
    · exact hw
  | submit _ _ => rw [show w' = { w with submitted := true } from h]; exact .inl rfl
  | _ => rw [show w' = w from h]; exact hw

/-- From a settled record a calm program comes to one. -/
theorem Calm.settled {p : Promise α} (hp : Calm p) (hw : w.Settled) : S.contract.wpA p (fun _ w' => w'.Settled) w := by
  have hp := hp ()
  unfold Contract.wpA at hp ⊢
  generalize p.run = q at hp
  induction q generalizing w with
  | pure a => exact hw
  | await e k ih =>
    refine ⟨trivial, ?_⟩
    rintro r w' ⟨w₁, helse, hserves⟩
    exact ih r (serves_settled hserves hp.1 (hw.elsewhere helse)) (hp.2 r () trivial)

theorem calm_ask {e : Call} (h : Grounded e) : Calm (ask e) := Contract.Always.call fun _ => h

theorem calm_received {ε : Type} (r : PortReply ε α) : Calm (received r) := by
  cases r with
  | ok v => exact .pure _
  | failed e => exact .pure _
  | rejected => exact .throw _

theorem calm_checked_bind {r : Checked α} {f : α → Promise β} (h : ∀ v, r = .ok v → Calm (f v)) : Calm (checked r >>= f) := by
  cases r with
  | ok v => exact h v rfl
  | error m => exact .throw _

theorem calm_replace {expected next : PendingMutation} (h : ∀ n, next.lifecycle ≠ .inFlight n) : Calm (replace expected next) := by
  refine .bind (calm_ask (show Grounded (.replacePendingMutationIfCurrent expected next) from h)) fun r =>
    (calm_received r).bind fun result => ?_
  split
  · exact .pure _
  · exact .pure _
  · exact .throw _

theorem calm_removeConfirmed (m : PendingMutation) : Calm (removeConfirmed m) := by
  refine .bind (calm_ask (show Grounded (.removeConfirmedMutation _ _) from trivial)) fun r => (calm_received r).bind fun result => ?_
  split
  · exact .pure _
  · exact .pure _
  · exact .throw _

theorem calm_settleConfirmed {m confirmed : PendingMutation} (h : ∀ n, confirmed.lifecycle ≠ .inFlight n) :
    Calm (settleConfirmed m confirmed) := by
  refine Contract.Always.bind (Contract.Always.bind (calm_replace h) fun replaced => ?_) fun removed => .pure _
  cases replaced with
  | false => exact .pure _
  | true => exact (calm_removeConfirmed confirmed).bind fun _ => .pure _

theorem calm_reconcileSend (deps : MutationRunnerDependencies) (m : PendingMutation) : Calm (reconcileSend deps m) := by
  unfold reconcileSend
  split
  · refine Contract.Always.tryCatch ?_ fun _ => .pure _
    refine .bind (calm_ask (show Grounded (.reconcileSend _ _) from trivial)) fun r => (Contract.Always.lift r).bind fun evidence => ?_
    cases evidence with
    | inconclusive => exact .pure _
    | applied id =>
      refine calm_checked_bind fun emailId _ => calm_checked_bind fun confirmed hconfirmed => ?_
      obtain ⟨-, rfl⟩ := confirmSendMutation_ok hconfirmed
      exact calm_settleConfirmed fun n h => by cases h
  · exact .pure _

theorem calm_prepareSend (intent : SendIntent) : Calm (prepareSend intent) := by
  unfold prepareSend
  cases intent.securityMode with
  | plain => exact calm_checked_bind fun _ _ => .pure _
  | boxplotE2eeV1 =>
    have hencrypt : Calm (encryptSendIntent intent) := by
      unfold encryptSendIntent
      split
      · refine .bind (calm_ask (show Grounded (.encryptFor _) from trivial)) fun r => ?_
        cases r with
        | ok envelope => exact .pure _
        | failed e => exact .pure _
        | rejected => exact .throw _
      · exact .pure _
    refine hencrypt.bind fun encrypted => ?_
    cases encrypted with
    | error e => exact .pure _
    | ok envelope => exact calm_checked_bind fun _ _ => .pure _

theorem calm_prepare (m : PendingMutation) : Calm (prepare m) := by
  unfold prepare
  split
  · exact (calm_prepareSend _).bind fun _ => .pure _
  · exact .pure _

end

/-! ## After the claim -/

section
variable {S : Setting} {w : Slot} {m : PendingMutation}

/-- If the run was the last to write the record, it is this one. -/
def Slot.Held (w : Slot) (m : PendingMutation) : Prop := w.mine = true → w.stored = some m

theorem Slot.Held.elsewhere {w₁ : Slot} (h : w.Held m) (helse : S.Elsewhere w w₁) : w₁.Held m := by
  rcases helse with rfl | ⟨hmine, -⟩
  · exact h
  · intro hm
    rw [hmine] at hm
    cases hm

/-- An attempt, started by a run. -/
structure Attempted (m : PendingMutation) : Prop where
  send : ∃ intent, m.payload = .send intent
  inFlight : m.lifecycle = .inFlight m.attemptCount
  started : 1 ≤ m.attemptCount ∧ m.attemptCount ≤ maxSafeInteger

theorem startMutationAttempt_attempted {m' : PendingMutation} (h : startMutationAttempt m = .ok m') (hsend : ∃ intent, m.payload = .send intent) :
    Attempted m' ∧ m'.payload = m.payload := by
  obtain ⟨-, rfl⟩ := startMutationAttempt_ok h
  refine ⟨⟨hsend, rfl, ?_⟩, rfl⟩
  change 1 ≤ m.attemptCount + 1 ∧ m.attemptCount + 1 ≤ maxSafeInteger
  unfold startMutationAttempt at h
  cases hl : m.lifecycle with
  | pending n =>
    simp only [hl] at h
    split at h
    · cases h
    · simp only [PendingMutation.attemptCount, hl, Lifecycle.attemptCount, maxSafeInteger]
      omega
  | retrying n i =>
    simp only [hl, except_bind_eq_ok, assertStartedAttemptCount] at h
    obtain ⟨_, -, _, hnext, -⟩ := h
    split at hnext
    · cases hnext
    · simp only [PendingMutation.attemptCount, hl, Lifecycle.attemptCount]
      omega
  | _ => simp [hl] at h

/-- The transition that ends the attempt does not throw, and the engines accept it. -/
theorem Attempted.endAttempt (h : Attempted m) {message : String} {f : Nat → Lifecycle}
    (hnext : validTransition m (m.replaceLifecycle (f m.attemptCount)) = true) (hcount : ∀ n, (f n).attemptCount = n) :
    Domain.endAttempt message f m = .ok (m.replaceLifecycle (f m.attemptCount)) ∧
      Accepted m (m.replaceLifecycle (f m.attemptCount)) := by
  obtain ⟨hlow, hhigh⟩ := h.started
  constructor
  · have hstarted : assertStartedAttemptCount m.attemptCount = .ok () := if_neg (by omega)
    unfold Domain.endAttempt
    rw [h.inFlight]
    simp only [bind, Except.bind, hstarted]
  · refine ⟨?_, hnext, ?_⟩
    · obtain ⟨intent, hsend⟩ := h.send
      simp [sameImmutableMutation, mutationsEqual, payloadsEqual, hsend, PendingMutation.replaceLifecycle]
    · change 0 < (f m.attemptCount).attemptCount
      rw [hcount]
      omega

theorem Attempted.schedule (h : Attempted m) (i : MutationInstant) :
    scheduleMutationRetry m i = .ok (m.replaceLifecycle (.retrying m.attemptCount i)) ∧
      Accepted m (m.replaceLifecycle (.retrying m.attemptCount i)) := by
  refine h.endAttempt (f := (.retrying · i)) ?_ fun _ => rfl
  simp [validTransition, h.inFlight]

theorem Attempted.fail (h : Attempted m) :
    failMutationTerminal m = .ok (m.replaceLifecycle (.failedTerminal m.attemptCount)) ∧
      Accepted m (m.replaceLifecycle (.failedTerminal m.attemptCount)) := by
  refine h.endAttempt (f := .failedTerminal) ?_ fun _ => rfl
  simp [validTransition, h.inFlight]

/-- Recording the end of the attempt: if the store refuses, another has written the record. -/
theorem slot_replace {next : PendingMutation} {Q : Except JsError Bool → Slot → Prop} (hw : w.Held m) (hacc : Accepted m next)
    (hnext : ∀ n, next.lifecycle ≠ .inFlight n) (h : ∀ r w', w'.Settled → Q r w') : S.contract.wpA (replace m next) Q w := by
  unfold replace
  simp only [Contract.wpA_bind]
  refine slot_ask fun w₁ r w' helse hserves => ?_
  rcases hserves with ⟨rfl, rfl⟩ | ⟨rfl, rfl, hrefused⟩
  · apply h
    refine .inr ?_
    rintro ⟨-, m', n, hm', hn⟩
    cases hm'
    exact hnext n hn
  · apply h
    refine .inr fun hstranded => hrefused ⟨?_, hacc⟩
    exact hw.elsewhere helse hstranded.1

theorem slot_settleTerminal {Q : Except JsError MutationExecutionOutcome → Slot → Prop} (hm : Attempted m) (hw : w.Held m)
    (h : ∀ r w', w'.Settled → Q r w') : S.contract.wpA (settleTerminal m) Q w := by
  unfold settleTerminal
  rw [hm.fail.1]
  simp only [checked, Except.mapError, Contract.wpA_bind, Contract.wpA_lift, Contract.andThen_ok]
  refine slot_replace hw hm.fail.2 (fun n hn => by cases hn) fun r w' hw' => ?_
  cases r <;> exact h _ _ hw'

/-- With an instant of the clock the retry policy does not throw. -/
theorem slot_settleRetry {deps : MutationRunnerDependencies} {Q : Except JsError MutationExecutionOutcome → Slot → Prop}
    (hclock : ∀ i, S.clock i → ∀ delay, deps.shiftInstant i delay ≠ none) (hm : Attempted m) (hw : w.Held m)
    (h : ∀ r w', w'.Settled → Q r w') : S.contract.wpA (settleRetry deps m) Q w := by
  unfold settleRetry
  simp only [Contract.wpA_bind]
  refine slot_ask fun w₁ now w' helse hserves => ?_
  obtain ⟨hnow, rfl⟩ := hserves
  obtain ⟨instant, hinstant⟩ : ∃ instant, nextRetryInstant deps m.attemptCount now = .ok instant := by
    unfold nextRetryInstant
    obtain ⟨instant, hi⟩ := Option.ne_none_iff_exists'.1
      (hclock now hnow (retryDelaysMs.getD (min (max m.attemptCount 1 - 1) (retryDelaysMs.length - 1)) 0))
    simp only [hi]
    exact ⟨_, rfl⟩
  simp only [Contract.andThen_ok, Contract.wpA_bind, hinstant, (hm.schedule instant).1, checked, Except.mapError,
    Contract.wpA_lift]
  refine slot_replace (hw.elsewhere helse) (hm.schedule instant).2 (fun n hn => by cases hn) fun r w' hw' => ?_
  cases r <;> exact h _ _ hw'

/-- Whatever was prepared, a claimed send is submitted or settled. -/
theorem slot_execute {deps : MutationRunnerDependencies} {prepared : Option PreparedSend}
    (hclock : ∀ i, S.clock i → ∀ delay, deps.shiftInstant i delay ≠ none) (hm : Attempted m) (hw : w.Held m) :
    S.contract.wpA (execute deps m prepared) (fun _ w' => w'.Settled) w := by
  obtain ⟨intent, hsend⟩ := hm.send
  unfold execute
  simp only [hsend]
  rcases prepared with - | message | error
  · exact slot_settleTerminal hm hw fun _ _ => id
  · -- The first request of the execution is the submission.
    refine ⟨trivial, ?_⟩
    rintro r w' ⟨w₁, -, rfl⟩
    exact slot_submitted _ rfl
  · by_cases herror : error = .unavailable
    · subst herror
      exact slot_settleRetry hclock hm hw fun _ _ => id
    · have hterminal : settleE2eeFailure deps m error = settleTerminal m := by
        cases error <;> first | rfl | exact absurd rfl herror
      simp only [hterminal]
      exact slot_settleTerminal hm hw fun _ _ => id

/-! ## The runners -/

/-- Claiming the attempt: the run holds it, or nothing has changed. -/
theorem slot_claim {α : Type} {expected : PendingMutation} {f : Except LocalWriteError Unit → Promise α}
    {Q : Except JsError α → Slot → Prop} (hw : w.Settled)
    (hclaimed : ∀ w', w'.Held m → S.contract.wpA (f (.ok ())) Q w')
    (hconflict : ∀ w', w'.Settled → S.contract.wpA (f (.error .conflict)) Q w') :
    S.contract.wpA (ask (.replacePendingMutationIfCurrent expected m) >>= fun r => received r >>= f) Q w := by
  simp only [Contract.wpA_bind]
  refine slot_ask fun w₁ r w' helse hserves => ?_
  rcases hserves with ⟨rfl, rfl⟩ | ⟨rfl, rfl, -⟩
  · exact hclaimed _ fun _ => rfl
  · exact hconflict _ (hw.elsewhere helse)

theorem slot_claimAndExecute {deps : MutationRunnerDependencies} {accountKey : AccountKey}
    (hclock : ∀ i, S.clock i → ∀ delay, deps.shiftInstant i delay ≠ none) (hm : DomainBuilt m) (hw : w.Settled) :
    S.contract.wpA (claimAndExecute deps accountKey m) (fun _ w' => w'.Settled) w := by
  obtain ⟨intent, hsend, -⟩ := hm.intent
  unfold claimAndExecute
  simp only [Contract.wpA_bind]
  refine slot_ask fun w₁ connected w' helse hserves => ?_
  have hw' := serves_settled hserves trivial (hw.elsewhere helse)
  simp only [Contract.andThen_ok]
  cases connected with
  | false => exact hw'
  | true =>
    simp only [if_true, Contract.wpA_bind]
    refine S.contract.wpA_mono (fun r w₂ hw₂ => ?_) ((calm_prepare m).settled hw')
    cases r with
    | error x => exact hw₂
    | ok prepared =>
      simp only [Contract.andThen_ok, Contract.wpA_bind, checked, Contract.wpA_lift]
      cases hstart : startMutationAttempt m with
      | error message => exact hw₂
      | ok inFlight =>
        obtain ⟨hattempt, -⟩ := startMutationAttempt_attempted hstart ⟨intent, hsend⟩
        simp only [Except.mapError, Contract.andThen_ok]
        refine slot_claim hw₂ (fun w₃ hheld => ?_) fun w₃ hw₃ => ?_
        · exact slot_execute hclock hattempt hheld
        · exact hw₃

/-- A read finds what the record is, which is a send of the domain. -/
theorem slot_start {w₁ w' : Slot} {accountKey : AccountKey} {mutationId : MutationId}
    {r : Reply (.readPendingMutation accountKey mutationId)} (hw : S.Start w) (helse : S.Elsewhere w w₁)
    (hserves : S.serves w₁ (.readPendingMutation accountKey mutationId) r w') :
    w'.Settled ∧ (r = .ok .absent ∨ ∃ m, r = .ok (.present m) ∧ S.Holds m) := by
  obtain ⟨hmine, -, m₀, hm₀, hholds, -⟩ := hw
  obtain ⟨rfl, rfl⟩ := hserves
  have hfree : w'.mine = false ∧ ∀ m, w'.stored = some m → S.Holds m := by
    rcases helse with rfl | ⟨hmine', -, hall⟩
    · refine ⟨hmine, fun m hm => ?_⟩
      rw [hm₀] at hm
      cases hm
      exact hholds
    · exact ⟨hmine', hall⟩
  refine ⟨.inr fun hs => ?_, ?_⟩
  · rw [hs.1] at hfree
    cases hfree.1
  · cases hstored : w'.stored with
    | none => exact .inl rfl
    | some m => exact .inr ⟨m, rfl, hfree.2 m hstored⟩

/-- `runMutation` strands no send. -/
theorem slot_runMutation {deps : MutationRunnerDependencies} {accountKey : AccountKey} {mutationId : MutationId}
    (hclock : ∀ i, S.clock i → ∀ delay, deps.shiftInstant i delay ≠ none) (hw : S.Start w) :
    S.contract.wpA (runMutation deps accountKey mutationId) (fun _ w' => w'.Settled) w := by
  unfold runMutation readMutation
  simp only [Contract.wpA_bind]
  refine slot_ask fun w₁ r w' helse hserves => ?_
  obtain ⟨hw', rfl | ⟨m, rfl, hm, -⟩⟩ := slot_start hw helse hserves
  · exact hw'
  · simp only [Contract.andThen_ok, received, Contract.wpA_bind, Contract.wpA_pure]
    obtain ⟨intent, hsend, -⟩ := hm.intent
    cases hl : m.lifecycle with
    | confirmed n c =>
      have hcalm : Calm (do removeConfirmed m; pure MutationExecutionOutcome.confirmed) :=
        Contract.Always.bind (calm_removeConfirmed m) fun _ => .pure _
      exact hcalm.settled hw'
    | failedTerminal n => exact hw'
    | inFlight n =>
      simp only [reconcile, hsend]
      exact (calm_reconcileSend deps m).settled hw'
    | retrying n i =>
      simp only [Contract.wpA_bind]
      refine slot_ask fun w₂ now w₃ helse₂ hserves₂ => ?_
      have hw₃ := serves_settled hserves₂ trivial (hw'.elsewhere helse₂)
      simp only [Contract.andThen_ok]
      split
      · exact hw₃
      · exact slot_claimAndExecute hclock hm hw₃
    | pending n => exact slot_claimAndExecute hclock hm hw'

/-- A plain intent of the domain is converted. -/
theorem submissionMessage_plain {remoteAccountId : String} {intent : SendIntent} (hmode : intent.securityMode = .plain)
    (hid : intent.identityId.jmapId ≠ "") : ∃ message, submissionMessageFromSendIntent remoteAccountId intent = .ok message := by
  have hidentity : remoteIdentityId intent.identityId = .ok intent.identityId.jmapId := by
    refine if_neg fun hlength => hid ?_
    exact String.length_eq_zero_iff.1 hlength
  unfold submissionMessageFromSendIntent submissionDraft
  rw [if_neg (by simp [hmode]), hidentity]
  exact ⟨_, rfl⟩

theorem slot_submitClaimed {accountKey : AccountKey} {remoteAccountId : String} {mutationId : MutationId} {intent : SendIntent}
    {inFlight : PendingMutation} (hmode : intent.securityMode = .plain) (hid : intent.identityId.jmapId ≠ "") :
    S.contract.wpA (submitClaimed accountKey remoteAccountId mutationId inFlight intent) (fun _ w' => w'.Settled) w := by
  obtain ⟨message, hmessage⟩ := @submissionMessage_plain remoteAccountId intent hmode hid
  unfold submitClaimed
  rw [hmessage]
  refine ⟨trivial, ?_⟩
  rintro r w' ⟨w₁, -, rfl⟩
  exact slot_submitted _ rfl

/-- `processSendMutation` strands no plain send. -/
theorem slot_processSendMutation {accountKey : AccountKey} {remoteAccountId : String} {mutationId : MutationId}
    (hmode : S.mode = .plain) (hw : S.Start w) :
    S.contract.wpA (processSendMutation accountKey remoteAccountId mutationId) (fun _ w' => w'.Settled) w := by
  have claim : ∀ {m w₁}, S.Holds m → w₁.Settled →
      S.contract.wpA (claimAndSubmit accountKey remoteAccountId mutationId m) (fun _ w' => w'.Settled) w₁ := by
    intro m w₁ hm hw₁
    obtain ⟨intent, hsend, hid⟩ := hm.1.intent
    unfold claimAndSubmit
    simp only [Contract.wpA_bind, checked, Contract.wpA_lift]
    cases hstart : startMutationAttempt m with
    | error message => exact hw₁
    | ok inFlight =>
      obtain ⟨-, hpayload⟩ := startMutationAttempt_attempted hstart ⟨intent, hsend⟩
      simp only [Except.mapError, Contract.andThen_ok]
      refine slot_claim (m := inFlight) hw₁ (fun w₂ _ => ?_) fun w₂ hw₂ => ?_
      · simp only [hpayload, hsend]
        exact slot_submitClaimed ((hm.2 intent hsend).trans hmode) hid
      · exact hw₂
  unfold processSendMutation readCurrentSendMutation
  simp only [Contract.wpA_bind]
  refine slot_ask fun w₁ r w' helse hserves => ?_
  obtain ⟨hw', rfl | ⟨m, rfl, hm⟩⟩ := slot_start hw helse hserves
  · exact hw'
  · simp only [Contract.andThen_ok, received, Contract.wpA_bind, Contract.wpA_pure]
    obtain ⟨intent, hsend, -⟩ := hm.1.intent
    have hisSend : m.isSend = true := by simp [PendingMutation.isSend, hsend]
    rw [if_pos hisSend]
    cases hl : m.lifecycle with
    | pending n => exact claim hm hw'
    | retrying n i =>
      simp only [Contract.wpA_bind]
      refine slot_ask fun w₂ now w₃ helse₂ hserves₂ => ?_
      have hw₃ := serves_settled hserves₂ trivial (hw'.elsewhere helse₂)
      simp only [Contract.andThen_ok, Contract.wpA_pure]
      by_cases hdue : i ≤ now
      · simp only [hdue, if_true]
        exact claim hm hw₃
      · simp only [hdue, if_false]
        exact hw₃
    | _ => exact hw'

end

/-! ## Who strands a send -/

/-- The runner prepares a send before it claims it. -/
def Runner.PreparesFirst : Runner → Prop
  | .runMutation _ _ _ => True
  | .processSendMutation _ _ _ => False

/-- An encrypted send of the domain, to one recipient. -/
def encryptedInput (accountKey : AccountKey) : SendIntentInput :=
  { securityMode := .boxplotE2eeV1
    identity := { id := ⟨accountKey, "i"⟩, name := "A", email := "a@x", replyTo := none, bcc := none }
    «to» := [⟨none, "b@x"⟩], cc := [], bcc := [], subject := "s", body := ⟨"t", none⟩ }

def encryptedIntent (accountKey : AccountKey) : SendIntent :=
  { securityMode := .boxplotE2eeV1, identityId := ⟨accountKey, "i"⟩, «from» := ⟨some "A", "a@x"⟩, replyTo := []
    «to» := [⟨none, "b@x"⟩], cc := [], bcc := [], subject := "s", body := ⟨"t", none⟩ }

def encryptedSend (accountKey : AccountKey) (mutationId : MutationId) : PendingMutation :=
  pendingMutation ⟨mutationId, accountKey, "2024-01-01T00:00:00.000Z"⟩ (.send (encryptedIntent accountKey))

theorem encryptedSend_built (accountKey : AccountKey) (mutationId : MutationId) : DomainBuilt (encryptedSend accountKey mutationId) := by
  have husable : ∀ address ∈ [(⟨some "A", "a@x"⟩ : EmailAddress), ⟨none, "b@x"⟩], Usable address := by
    intro address haddress
    apply (assertUsableOutboundAddress_ok (u := ())).1
    rcases List.mem_cons.1 haddress with rfl | haddress
    · decide +kernel
    · obtain rfl := List.mem_singleton.1 haddress
      decide +kernel
  have hintent : sendIntent (encryptedInput accountKey) = .ok (encryptedIntent accountKey) := by
    have hnamed : isWildcardIdentity (encryptedInput accountKey).identity = false := by
      change "*@".toList.isPrefixOf "a@x".toList = false
      decide +kernel
    exact sendIntent_ok.2 ⟨hnamed, rfl, by simp [encryptedIntent], husable⟩
  exact .made (by decide : "i" ≠ "") hintent (sendMutation_ok.2 ⟨rfl, rfl⟩)

/-- The run that claims the send and then finds that it cannot convert it. -/
theorem processSendMutation_strands (accountKey : AccountKey) (remoteAccountId : String) (mutationId : MutationId) :
    ¬ (Runner.processSendMutation accountKey remoteAccountId mutationId).StrandsNone .boxplotE2eeV1 := by
  intro h
  let m := encryptedSend accountKey mutationId
  let claimed := m.replaceLifecycle (.inFlight 1)
  have hstart : Setting.Start ⟨.boxplotE2eeV1, (Runner.processSendMutation accountKey remoteAccountId mutationId).clock⟩
      ⟨some m, false, false⟩ := by
    refine ⟨rfl, rfl, m, rfl, ⟨encryptedSend_built accountKey mutationId, ?_⟩, .inl rfl⟩
    rintro intent ⟨⟩
    rfl
  have hrun : (Runner.processSendMutation accountKey remoteAccountId mutationId).Ends .boxplotE2eeV1 ⟨some m, false, false⟩
      ⟨some claimed, true, false⟩ := by
    apply Runner.Ends.processSendMutation
    refine Exec.step (r := PortReply.ok (.present m)) ⟨_, .inl rfl, rfl, rfl⟩ ?_
    refine Exec.step (e := Call.replacePendingMutationIfCurrent m claimed) (r := PortReply.ok ()) ⟨_, .inl rfl, .inl ⟨rfl, rfl⟩⟩ ?_
    exact .done (Except.error (JsError.typeError "Encrypted SendIntent cannot use the plaintext submission converter")) _
  exact h _ _ hstart hrun rfl ⟨rfl, claimed, 1, rfl, rfl⟩

/-- An encrypted send is claimed, and stays in flight without having been submitted. -/
theorem encryptedSend_stranded : ¬ (Runner.processSendMutation "a" "remote" "m").StrandsNone .boxplotE2eeV1 :=
  processSendMutation_strands "a" "remote" "m"

/-- No run leaves a send in flight that it did not submit, if the runner prepares sends before it claims them or
they are plain. Only then is it so for every send. -/
theorem strandsNone_iff (r : Runner) (mode : SendSecurityMode) : r.StrandsNone mode ↔ r.PreparesFirst ∨ mode = .plain := by
  constructor
  · intro h
    cases r with
    | runMutation deps accountKey mutationId => exact .inl trivial
    | processSendMutation accountKey remoteAccountId mutationId =>
      cases mode with
      | plain => exact .inr rfl
      | boxplotE2eeV1 => exact absurd h (processSendMutation_strands accountKey remoteAccountId mutationId)
  · intro h w w' hstart hends hsubmitted
    have hsettled : w'.Settled := by
      cases hends with
      | runMutation hexec =>
        exact (hexec.sound trivial (slot_runMutation (fun _ hi => hi) hstart) fun _ _ _ => trivial).2 _ rfl
      | processSendMutation hexec =>
        have hmode : mode = .plain := h.resolve_left id
        exact (hexec.sound trivial (slot_processSendMutation hmode hstart) fun _ _ _ => trivial).2 _ rfl
    rcases hsettled with hdone | hnot
    · rw [hsubmitted] at hdone
      cases hdone
    · exact hnot

end Boxplot.Outbox
