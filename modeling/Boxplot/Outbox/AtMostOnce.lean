import Boxplot.Outbox.SendContract
/-!
# A send is submitted at most once

Any number of runs of both runners over one staged send, interleaved at their
awaits and abandoned anywhere, over a store that compares and swaps. The world
keeps a journal of what the runs did to the send; the stages of the runs and the
stored record together keep it a `Ledger`.
-/

namespace Boxplot.Outbox

open Domain Remote Lib Lib.System

abbrev SendEntry := Entry (Except JsError SubmissionResult)

/-- The stored record of the send, and the journal of its attempts. -/
structure SendWorld where
  stored : Option PendingMutation
  journal : List SendEntry

namespace SendWorld

def log (w : SendWorld) (e : SendEntry) : SendWorld := { w with journal := w.journal ++ [e] }

/-- Thread `t` replaced the record. -/
def replaced (w : SendWorld) (t : Nat) (next : PendingMutation) : SendWorld :=
  let w := { w with stored := some next }
  match next.lifecycle with
  | .inFlight n => w.log (.claimed t n)
  | .retrying n _ => w.log (.released t n)
  | _ => w

end SendWorld

/-- `replacePendingMutationIfCurrent` as an atomic compare-and-swap: a conflict changes nothing,
and after any other failure the caller cannot tell whether it was stored. -/
def CompareAndSwap (w : SendWorld) (t : Nat) (expected next : PendingMutation) (r : PortReply LocalWriteError Unit)
    (w' : SendWorld) : Prop :=
  match r with
  | .ok _ => w.stored = some expected ∧ w' = w.replaced t next
  | .failed .conflict => w' = w
  | _ => w' = w ∨ (w.stored = some expected ∧ w' = w.replaced t next)

/-- How the ports answer thread `t`: any reply that `Answers` allows, and no other effect on the send. -/
def sendPerform (w : SendWorld) (t : Nat) (e : Call) (r : Reply e) (w' : SendWorld) : Prop :=
  Answers e r ∧
    match e, r with
    | .replacePendingMutationIfCurrent expected next, r => CompareAndSwap w t expected next r w'
    | .removeConfirmedMutation _ _, _ => w' = w ∨ w' = { w with stored := none }
    | .encryptFor _, r => w' = if r = .failed .unavailable then w.log (.excused t) else w
    | .submit m _, _ => w' = w.log (.started t m.attemptCount)
    | .submitSettled m, r => w' = w.log (.ended t m.attemptCount r)
    | _, _ => w' = w

/-- What runs on the send: both runners, with any dependencies. Their outcome is dropped. -/
inductive SendRun (accountKey : AccountKey) (mutationId : MutationId) : Prog Call Reply Unit → Prop
  | runMutation (deps : MutationRunnerDependencies) :
      SendRun accountKey mutationId ((runMutation deps accountKey mutationId).run.bind fun _ => .pure ())
  | processSendMutation (remoteAccountId : String) :
      SendRun accountKey mutationId ((processSendMutation accountKey remoteAccountId mutationId).run.bind fun _ => .pure ())

def sendSystem (accountKey : AccountKey) (mutationId : MutationId) : System Call Reply Unit SendWorld where
  perform := sendPerform
  starts := SendRun accountKey mutationId
  env _ _ := False

/-! ## The invariant -/

abbrev SendPhase := Phase (Except JsError SubmissionResult)

/-- The stage of thread `t` is what the ledger's phase says of it. -/
def Stage.agrees (s : Stage) (t : Nat) (j : List SendEntry) (p : SendPhase) : Prop :=
  match s with
  | .free x => x = true → .excused t ∈ j
  | .claimed m x => p = .owned t m.attemptCount ∧ (x = true → .excused t ∈ j)
  | .submitting m => p = .running t m.attemptCount
  | .ended m x => ∃ r, p = .finished t m.attemptCount r ∧ (x = true → Retryable r)

/-- The journal is a ledger, every run agrees with its phase, and a record that may be claimed waits. -/
def SendInvariant (w : SendWorld) (σ : Nat → Option Stage) : Prop :=
  ∃ p, Ledger Retryable w.journal p ∧ (∀ t s, σ t = some s → s.agrees t w.journal p) ∧
    ∀ m, w.stored = some m → Claimable m → p = .waiting m.attemptCount

/-- The thread that holds the attempt. -/
def holder : SendPhase → Option Nat
  | .waiting _ => none
  | .owned t _ => some t
  | .running t _ => some t
  | .finished t _ _ => some t

/-- A thread that does not hold the attempt is free, and stays so whatever the holder does. -/
theorem Stage.agrees.other {s : Stage} {t : Nat} {j l : List SendEntry} {p q : SendPhase} (h : s.agrees t j p)
    (ht : holder p ≠ some t) : s.agrees t (j ++ l) q := by
  cases s with
  | free x => exact fun hx => List.mem_append_left _ (h hx)
  | claimed m x => rw [h.1] at ht; exact absurd rfl ht
  | submitting m =>
    have hp : p = .running t m.attemptCount := h
    rw [hp] at ht; exact absurd rfl ht
  | ended m x =>
    obtain ⟨r, hp, -⟩ := h
    rw [hp] at ht; exact absurd rfl ht

/-- What is known of a thread outlives entries that leave the phase alone. -/
theorem Stage.agrees.grow {s : Stage} {t : Nat} {j l : List SendEntry} {p : SendPhase} (h : s.agrees t j p) :
    s.agrees t (j ++ l) p := by
  cases s with
  | free x => exact fun hx => List.mem_append_left _ (h hx)
  | claimed m x => exact ⟨h.1, fun hx => List.mem_append_left _ (h.2 hx)⟩
  | submitting m => exact h
  | ended m x => exact h

/-- Thread `t` moves to stage `s'`, the journal grows, and the phase changes with `t` or nobody holding it. -/
theorem SendInvariant.move {w w' : SendWorld} {σ : Nat → Option Stage} {p p' : SendPhase} {t : Nat} {s' : Stage}
    (l : List SendEntry) (hσ : ∀ u s, σ u = some s → s.agrees u w.journal p) (hp : p' = p ∨ holder p = none ∨ holder p = some t)
    (hj : w'.journal = w.journal ++ l) (hl : Ledger Retryable w'.journal p') (hs : s'.agrees t w'.journal p')
    (hw : ∀ m, w'.stored = some m → Claimable m → p' = .waiting m.attemptCount) :
    SendInvariant w' (Function.update σ t (some s')) := by
  refine ⟨p', hl, fun u s hu => ?_, hw⟩
  by_cases hut : u = t
  · subst hut
    simp only [Function.update_self, Option.some.injEq] at hu
    subst hu; exact hs
  · simp only [Function.update_of_ne hut] at hu
    rw [hj]
    rcases hp with rfl | hp | hp
    · exact (hσ u s hu).grow
    · exact (hσ u s hu).other (by rw [hp]; simp)
    · refine (hσ u s hu).other ?_
      rw [hp]; intro h; exact hut (Option.some.inj h).symm

/-- A replacement that was not stored. -/
theorem SendInvariant.kept {w : SendWorld} {σ : Nat → Option Stage} {t : Nat} {s : Stage} {expected next : PendingMutation}
    (h : SendInvariant w σ) (ht : σ t = some s) (hmay : s.mayReplace expected next) :
    SendInvariant w (Function.update σ t (some (s.replaced next false))) := by
  obtain ⟨p, hl, hσ, hw⟩ := h
  refine SendInvariant.move [] hσ (.inl rfl) (List.append_nil _).symm hl ?_ hw
  rcases hmay with ⟨⟨x, rfl⟩, -, rfl⟩ | ⟨-, hr⟩ | hc
  · exact hσ t _ ht
  · rw [hr.replaced]; simp [Stage.agrees]
  · rw [hc.replaced]; exact hσ t _ ht

/-- A replacement that was stored, whatever the thread learnt of it. -/
theorem SendInvariant.stored {w : SendWorld} {σ : Nat → Option Stage} {t : Nat} {s : Stage}
    {expected next : PendingMutation} (h : SendInvariant w σ) (ht : σ t = some s) (hmay : s.mayReplace expected next)
    (hs : w.stored = some expected) (b : Bool) :
    SendInvariant (w.replaced t next) (Function.update σ t (some (s.replaced next b))) := by
  obtain ⟨p, hl, hσ, hw⟩ := h
  have hagrees := hσ t s ht
  rcases hmay with ⟨⟨x, rfl⟩, hclaim, rfl⟩ | ⟨hrel, i, rfl⟩ | hc
  · -- a claim finds the record waiting
    have hp : p = .waiting expected.attemptCount := hw expected hs hclaim
    subst hp
    have hl' := Ledger.claim t hl
    refine SendInvariant.move [.claimed t (expected.attemptCount + 1)] hσ (.inr (.inl rfl)) rfl hl' ?_ ?_
    · cases b with
      | false => exact fun hx => List.mem_append_left _ (hagrees hx)
      | true => exact ⟨rfl, fun hx => List.mem_append_left _ (hagrees hx)⟩
    · rintro m ⟨⟩ hm
      rcases hm with hm | ⟨n, i, hm⟩ <;> cases hm
  · -- a release comes from the thread that holds the attempt
    have hl' : Ledger Retryable (w.journal ++ [.released t expected.attemptCount]) (.waiting expected.attemptCount) := by
      rcases hrel with rfl | rfl
      · obtain ⟨rfl, hx⟩ := hagrees
        exact .skip hl (hx rfl)
      · obtain ⟨r, rfl, hr⟩ := hagrees
        exact .release hl (hr rfl)
    have hheld : holder p = some t := by
      rcases hrel with rfl | rfl
      · rw [hagrees.1]; rfl
      · obtain ⟨r, hp, -⟩ := hagrees; rw [hp]; rfl
    refine SendInvariant.move [.released t expected.attemptCount] hσ (.inr (.inr hheld)) rfl hl' ?_ ?_
    · rw [IsRelease.replaced ⟨i, rfl⟩]; simp [Stage.agrees]
    · rintro m ⟨⟩ -; rfl
  · -- a closed record is never claimed again
    have hj : (w.replaced t next).journal = w.journal ∧ (w.replaced t next).stored = some next := by
      rcases hc with ⟨n, c, hc⟩ | ⟨n, hc⟩ <;> simp [SendWorld.replaced, hc]
    refine SendInvariant.move [] hσ (.inl rfl) (by rw [hj.1, List.append_nil]) (hj.1 ▸ hl) ?_ ?_
    · rw [hc.replaced, hj.1]; exact hagrees
    · rw [hj.2]
      rintro m ⟨⟩ hm
      rcases hc with ⟨n, c, hc⟩ | ⟨n, hc⟩ <;> rcases hm with hm | ⟨k, i, hm⟩ <;> rw [hc] at hm <;> cases hm

/-- A request that touches neither the send nor the stage. -/
theorem SendInvariant.same {w : SendWorld} {σ : Nat → Option Stage} {t : Nat} {s : Stage} (h : SendInvariant w σ)
    (ht : σ t = some s) : SendInvariant w (Function.update σ t (some s)) := by
  rwa [← ht, Function.update_eq_self]

/-- An allowed request keeps the invariant. -/
theorem SendInvariant.call {w w' : SendWorld} {σ : Nat → Option Stage} {t : Nat} {s : Stage} {e : Call} {r : Reply e}
    (h : SendInvariant w σ) (ht : σ t = some s) (hmay : s.may e) (hp : sendPerform w t e r w') :
    SendInvariant w' (Function.update σ t (some (s.after e r))) := by
  obtain ⟨-, hp⟩ := hp
  cases e with
  | replacePendingMutationIfCurrent expected next =>
    cases r with
    | ok v =>
      obtain ⟨hs, rfl⟩ := hp
      exact h.stored ht hmay hs true
    | failed e =>
      cases e with
      | conflict => obtain rfl := hp; exact h.kept ht hmay
      | _ =>
        rcases hp with rfl | ⟨hs, rfl⟩
        · exact h.kept ht hmay
        · exact h.stored ht hmay hs false
    | rejected =>
      rcases hp with rfl | ⟨hs, rfl⟩
      · exact h.kept ht hmay
      · exact h.stored ht hmay hs false
  | removeConfirmedMutation a i =>
    rcases hp with rfl | rfl
    · exact h.same ht
    · obtain ⟨p, hl, hσ, -⟩ := h
      exact SendInvariant.move [] hσ (.inl rfl) (List.append_nil _).symm hl (hσ t s ht) (by simp)
  | encryptFor input =>
    obtain ⟨x, rfl⟩ := hmay
    obtain ⟨p, hl, hσ, hw⟩ := h
    have hx := hσ t _ ht
    simp only at hp
    split at hp
    · rename_i hr
      subst hp hr
      refine SendInvariant.move [.excused t] hσ (.inl rfl) rfl (Ledger.excuse t hl) ?_ hw
      exact fun _ => List.mem_append_right _ (List.mem_singleton_self _)
    · rename_i hr
      subst hp
      refine SendInvariant.move [] hσ (.inl rfl) (List.append_nil _).symm hl ?_ hw
      simpa [Stage.after, hr] using hx
  | submit m request =>
    obtain ⟨x, rfl⟩ := hmay
    obtain rfl := hp
    obtain ⟨p, hl, hσ, hw⟩ := h
    obtain ⟨rfl, -⟩ := hσ t _ ht
    refine SendInvariant.move [.started t m.attemptCount] hσ (.inr (.inr rfl)) rfl (Ledger.start hl) rfl ?_
    intro m' hm' hc
    cases hw m' hm' hc
  | submitSettled m =>
    obtain rfl : s = .submitting m := hmay
    obtain rfl := hp
    obtain ⟨p, hl, hσ, hw⟩ := h
    obtain rfl := show p = .running t m.attemptCount from hσ t _ ht
    refine SendInvariant.move [.ended t m.attemptCount r] hσ (.inr (.inr rfl)) rfl (Ledger.finish r hl) ?_ ?_
    · exact ⟨r, rfl, by simp⟩
    · intro m' hm' hc
      cases hw m' hm' hc
  | _ => obtain rfl := hp; exact h.same ht

/-! ## Every run of the runners -/

theorem SendWorld.replaced_journal (w : SendWorld) (t : Nat) (next : PendingMutation) :
    ∃ l, (w.replaced t next).journal = w.journal ++ l ∧ ∀ e ∈ l, e.worker = t := by
  unfold SendWorld.replaced
  cases next.lifecycle with
  | inFlight n => exact ⟨[.claimed t n], rfl, by simp [Entry.worker]⟩
  | retrying n i => exact ⟨[.released t n], rfl, by simp [Entry.worker]⟩
  | _ => exact ⟨[], by simp, by simp⟩

/-- A request adds only its own thread's entries to the journal. -/
theorem sendPerform_journal {w w' : SendWorld} {t : Nat} {e : Call} {r : Reply e} (h : sendPerform w t e r w') :
    ∃ l, w'.journal = w.journal ++ l ∧ ∀ e ∈ l, e.worker = t := by
  have same : ∃ l, w.journal = w.journal ++ l ∧ ∀ e ∈ l, e.worker = t := ⟨[], by simp, by simp⟩
  obtain ⟨-, h⟩ := h
  cases e with
  | replacePendingMutationIfCurrent expected next =>
    have cas : w' = w ∨ w' = w.replaced t next := by
      rcases r with v | e | -
      · exact .inr h.2
      · cases e with
        | conflict => exact .inl h
        | _ => exact h.imp id And.right
      · exact h.imp id And.right
    rcases cas with rfl | rfl
    · exact same
    · exact w.replaced_journal t next
  | removeConfirmedMutation a i => rcases h with rfl | rfl <;> exact same
  | encryptFor input =>
    simp only at h
    split at h
    · subst h; exact ⟨[.excused t], rfl, by simp [Entry.worker]⟩
    · subst h; exact same
  | submit m request => subst h; exact ⟨[.started t m.attemptCount], rfl, by simp [Entry.worker]⟩
  | submitSettled m => subst h; exact ⟨[.ended t m.attemptCount r], rfl, by simp [Entry.worker]⟩
  | _ => obtain rfl := h; exact same

/-- The runs keep a ledger of a send that was staged pending. -/
theorem send_invariant {m : PendingMutation} (hp : m.lifecycle = .pending 0) :
    (sendSystem m.accountKey m.mutationId).Invariant sendContract (.free false) ⟨some m, []⟩
      (fun w n σ => SendInvariant w σ ∧ ∀ e ∈ w.journal, e.worker < n) where
  init := by
    refine ⟨⟨.waiting 0, .nil, by simp, ?_⟩, by simp⟩
    rintro m' ⟨⟩ -
    simp [PendingMutation.attemptCount, hp, Lifecycle.attemptCount]
  enters := by
    intro p hrun
    cases hrun with
    | runMutation deps => exact (sendContract.wp_bind _ _ _ _).2 (wp_runMutation deps _ _)
    | processSendMutation remoteAccountId => exact (sendContract.wp_bind _ _ _ _).2 (wp_processSendMutation _ remoteAccountId _)
  call := by
    rintro w w' n σ t s e r ⟨h, hn⟩ hlt ht hmay hp
    refine ⟨_, ⟨hp.1, rfl⟩, h.call ht hmay hp, fun x hx => ?_⟩
    obtain ⟨l, hj, hl⟩ := sendPerform_journal hp
    rw [hj] at hx
    rcases List.mem_append.1 hx with hx | hx
    · exact hn x hx
    · rw [hl x hx]; exact hlt
  start := by
    rintro w n σ ⟨⟨q, hl, hσ, hw⟩, hn⟩ -
    refine ⟨SendInvariant.move [] hσ (.inl rfl) (List.append_nil _).symm hl (by simp [Stage.agrees]) hw, fun x hx => ?_⟩
    exact Nat.lt_succ_of_lt (hn x hx)
  crash := by
    rintro w n σ t ⟨⟨q, hl, hσ, hw⟩, hn⟩
    refine ⟨⟨q, hl, fun u s hu => ?_, hw⟩, hn⟩
    by_cases hut : u = t
    · subst hut; simp at hu
    · exact hσ u s (by simpa [Function.update_of_ne hut] using hu)
  env := by rintro w w' n σ _ ⟨⟩

/-- The journal after any run is a ledger. -/
theorem run_ledger {m : PendingMutation} (hp : m.lifecycle = .pending 0) {c : Pool Call Reply Unit SendWorld}
    (h : (sendSystem m.accountKey m.mutationId).Run (idle ⟨some m, []⟩) c) :
    AtMostOnce Retryable c.world.journal ∧ ∀ e ∈ c.world.journal, e.worker < c.started := by
  obtain ⟨σ, ⟨⟨p, hl, -, -⟩, hn⟩, -⟩ := Run.sound (send_invariant hp) h
  exact ⟨hl.atMostOnce, hn⟩

/-- A run that is over adds nothing to the journal. -/
theorem journal_without {a : AccountKey} {i : MutationId} {c c' : Pool Call Reply Unit SendWorld} {t : Nat}
    (h : (sendSystem a i).Run c c') (ht : c.threads t = none) (hlt : t < c.started) :
    ∃ l, c'.world.journal = c.world.journal ++ l ∧ ∀ e ∈ l, e.worker ≠ t := by
  refine Run.without (fun w w' => ∃ l, w'.journal = w.journal ++ l ∧ ∀ e ∈ l, e.worker ≠ t) ?_ ?_ ?_ ?_ h ht hlt
  · exact fun w => ⟨[], by simp, by simp⟩
  · rintro a b c ⟨l, hl, hlt⟩ ⟨k, hk, hkt⟩
    refine ⟨l ++ k, by rw [hk, hl, List.append_assoc], fun e he => ?_⟩
    rcases List.mem_append.1 he with he | he
    · exact hlt e he
    · exact hkt e he
  · intro w u e r w' hu hp
    obtain ⟨l, hj, hl⟩ := sendPerform_journal hp
    exact ⟨l, hj, fun x hx => by rw [hl x hx]; exact hu⟩
  · rintro w w' ⟨⟩

/-- Under any interleaving of runs of both runners over a staged send, with any of them abandoned
anywhere and any replies: `submit` is called at most once an attempt, again only after the attempt
before was recorded as retrying for a known failure, and never again after an end that is not
retryable; and a run that stopped before it recorded one leaves a send that is never submitted again. -/
theorem send_submitted_at_most_once (m : PendingMutation) (hp : m.lifecycle = .pending 0)
    {c : Pool Call Reply Unit SendWorld}
    (h : (sendSystem m.accountKey m.mutationId).Run (idle ⟨some m, []⟩) c) :
    AtMostOnce Retryable c.world.journal ∧
      ∀ l₁ l₂ t n, c.world.journal = l₁ ++ .started t n :: l₂ → c.threads t = none → ¬ Recorded Retryable t n l₂ →
        ∀ c', (sendSystem m.accountKey m.mutationId).Run c c' →
          ∃ l, c'.world.journal = l₁ ++ .started t n :: l ∧ ∀ t' n', .started t' n' ∉ l := by
  refine ⟨(run_ledger hp h).1, fun l₁ l₂ t n hj ht hrec c' hc' => ?_⟩
  have hlt : t < c.started := (run_ledger hp h).2 (.started t n) (by rw [hj]; simp)
  obtain ⟨k, hk, hkt⟩ := journal_without hc' ht hlt
  have hj' : c'.world.journal = l₁ ++ .started t n :: (l₂ ++ k) := by rw [hk, hj]; simp
  exact ⟨l₂ ++ k, hj', (run_ledger hp (h.trans hc')).1.lost hj' fun hr => hrec (hr.of_append hkt)⟩

/-- A staged send of a plain message. -/
def sampleSend : PendingMutation where
  mutationId := "m1"
  accountKey := "a1"
  createdAt := "2026-01-01T00:00:00.000Z"
  payload := .send
    { securityMode := .plain, identityId := ⟨"a1", "i1"⟩, «from» := ⟨none, "me@example.org"⟩, replyTo := [],
      «to» := [⟨none, "you@example.org"⟩], cc := [], bcc := [], subject := "Hello", body := ⟨"Hi", none⟩ }
  lifecycle := .pending 0

def sampleClaim : PendingMutation := sampleSend.replaceLifecycle (.inFlight 1)

/-- A run that is abandoned while its `submit` is under way. -/
theorem sampleExec : ∃ w, Exec (fun w => (sendSystem "a1" "m1").perform w 0)
    ((processSendMutation "a1" "r1" "m1").run.bind fun _ => .pure ()) ⟨some sampleSend, []⟩ none w ∧
    w.journal = [.claimed 0 1, .started 0 1] := by
  have hread : sendPerform ⟨some sampleSend, []⟩ 0 (.readPendingMutation "a1" "m1") (.ok (.present sampleSend))
      ⟨some sampleSend, []⟩ := ⟨by rintro m ⟨⟩; decide, rfl⟩
  have hclaim : sendPerform ⟨some sampleSend, []⟩ 0 (.replacePendingMutationIfCurrent sampleSend sampleClaim) (.ok ())
      ⟨some sampleClaim, [.claimed 0 1]⟩ := ⟨trivial, rfl, rfl⟩
  have hsubmit : ∀ request, sendPerform ⟨some sampleClaim, [.claimed 0 1]⟩ 0 (.submit sampleClaim request) ()
      ⟨some sampleClaim, [.claimed 0 1, .started 0 1]⟩ := fun _ => ⟨trivial, rfl⟩
  exact ⟨_, .step hread (.step hclaim (.step (hsubmit _) (.crash _ _))), rfl⟩

/-- The abandoned run's submission stays the only one. -/
theorem sampleSend_submitted_once : ∃ c : Pool Call Reply Unit SendWorld,
    (sendSystem "a1" "m1").Run (idle ⟨some sampleSend, []⟩) c ∧ c.world.journal = [.claimed 0 1, .started 0 1] ∧
      AtMostOnce Retryable c.world.journal ∧
      ∀ c', (sendSystem "a1" "m1").Run c c' →
        ∃ l, c'.world.journal = [.claimed 0 1] ++ .started 0 1 :: l ∧ ∀ t' n', .started t' n' ∉ l := by
  obtain ⟨w, hexec, hj⟩ := sampleExec
  have hstarts : (sendSystem "a1" "m1").starts _ := SendRun.processSendMutation "r1"
  obtain ⟨c, hrun, rfl, ht, -⟩ := Run.spawn (idle (SendWorld.mk (some sampleSend) [])) hstarts hexec
  have h := send_submitted_at_most_once sampleSend rfl hrun
  refine ⟨c, hrun, hj, h.1, h.2 [.claimed 0 1] [] 0 1 hj ht ?_⟩
  rintro ⟨r, -, hs⟩
  simpa using hs.length_le

end Boxplot.Outbox
