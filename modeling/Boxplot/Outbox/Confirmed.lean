import Boxplot.Outbox.MutationRunner
/-!
# What the runner confirms

A run of the runner ends confirmed only if it found the mutation and the
mutation is gone: it has removed the record, which it had confirmed or had found
confirmed, or another has. This holds whatever the ports answer otherwise and
whatever else writes to the repository, as long as a record that is gone does
not come back and a confirmed one stays confirmed.
-/

namespace Boxplot.Outbox

open Domain Remote Lib Contract

/-! ## The record -/

/-- The record of a mutation, and whether it was there at one of the runner's calls. -/
structure WatchedMutation where
  stored : Option PendingMutation
  found : Bool

def IsConfirmed (m : PendingMutation) : Prop := ∃ n c, m.lifecycle = .confirmed n c

/-- A record that is gone does not come back, and a confirmed one stays confirmed. -/
def StaysSettled (before after : Option PendingMutation) : Prop := ∀ m' ∈ after, ∃ m ∈ before, IsConfirmed m → IsConfirmed m'

namespace WatchedMutation

section

variable (accountKey : AccountKey) (mutationId : MutationId)

/-- How the repository answers a call about the mutation: a read finds the record, `replacePendingMutationIfCurrent` compares and
swaps, and `removeConfirmedMutation` has a conflict only if there is no confirmed record. -/
def Answers (stored stored' : Option PendingMutation) : (c : Call) → Reply c → Prop
  | .readPendingMutation a id, r => a = accountKey → id = mutationId → ∀ m, r = .ok (.present m) →
      stored = some m ∧ stored' = stored ∧ m.accountKey = accountKey ∧ m.mutationId = mutationId
  | .replacePendingMutationIfCurrent expected next, r => expected.accountKey = accountKey → expected.mutationId = mutationId →
      r = .ok () → stored = some expected ∧ stored' = some next
  | .removeConfirmedMutation a id, r => a = accountKey → id = mutationId →
      (r = .ok () → stored' = none) ∧ (r = .failed .conflict → stored' = stored ∧ ∀ m ∈ stored, ¬IsConfirmed m)
  | _, _ => True

/-- Other writes come before the call, and then the call's own. -/
def perform (w : WatchedMutation) (c : Call) (r : Reply c) (w' : WatchedMutation) : Prop :=
  ∃ stored, StaysSettled w.stored stored ∧ StaysSettled stored w'.stored ∧ Answers accountKey mutationId stored w'.stored c r ∧
    w'.found = (w.found || stored.isSome)

end

def Later (w w' : WatchedMutation) : Prop := (w.found = true → w'.found = true) ∧ StaysSettled w.stored w'.stored

end WatchedMutation

/-- If the outcome is a confirmation, the record was found and is gone. -/
def FoundAndGone (outcome : MutationExecutionOutcome) (w : WatchedMutation) : Prop :=
  outcome = .confirmed → w.found = true ∧ w.stored = none

theorem StaysSettled.trans {a b c : Option PendingMutation} (h : StaysSettled a b) (h' : StaysSettled b c) : StaysSettled a c := by
  intro m'' hm''
  obtain ⟨m', hm', hsecond⟩ := h' m'' hm''
  obtain ⟨m, hm, hfirst⟩ := h m' hm'
  exact ⟨m, hm, fun hconfirmed => hsecond (hfirst hconfirmed)⟩

instance : IsPreorder WatchedMutation WatchedMutation.Later where
  refl _ := ⟨id, fun m' hm' => ⟨m', hm', id⟩⟩
  trans _ _ _ h h' := ⟨fun hfound => h'.1 (h.1 hfound), h.2.trans h'.2⟩

/-! ## Rules -/

/-- If the promise resolves, `P` holds, whatever happened to the record on the way. -/
abbrev Resolves (accountKey : AccountKey) (mutationId : MutationId) {α : Type} (p : Promise α) (P : α → WatchedMutation → Prop)
    (w : WatchedMutation) : Prop :=
  (keeps (WatchedMutation.perform accountKey mutationId) fun _ => True).Yields WatchedMutation.Later p P w

/-- The mutation is the one that is watched. -/
def HasKey (accountKey : AccountKey) (mutationId : MutationId) (m : PendingMutation) : Prop :=
  m.accountKey = accountKey ∧ m.mutationId = mutationId

variable {accountKey : AccountKey} {mutationId : MutationId} {deps : MutationRunnerDependencies} {m confirmed : PendingMutation}

theorem WatchedMutation.perform_later {w w' : WatchedMutation} {c : Call} {r : Reply c} (h : w.perform accountKey mutationId c r w') :
    w.Later w' := by
  obtain ⟨stored, hbefore, hafter, -, hfound⟩ := h
  exact ⟨fun hw => by rw [hfound, hw, Bool.true_or], hbefore.trans hafter⟩

/-- Whatever a program does, the record moves on. -/
theorem resolves_any {α : Type} (p : Promise α) (w : WatchedMutation) : Resolves accountKey mutationId p (fun _ _ => True) w := by
  induction p generalizing w with
  | pure a => exact ⟨refl w, fun _ _ => trivial⟩
  | await c k ih =>
    refine ⟨trivial, fun r w' hr => wp_mono _ ?_ (ih r w')⟩
    rintro a w'' ⟨hl, -⟩
    exact ⟨IsTrans.trans _ _ _ (WatchedMutation.perform_later hr) hl, fun _ _ => trivial⟩

theorem resolves_ask (c : Call) (w : WatchedMutation) : Resolves accountKey mutationId (ask c) (fun r w' =>
    ∃ stored, StaysSettled w.stored stored ∧ WatchedMutation.Answers accountKey mutationId stored w'.stored c r ∧
      (stored.isSome → w'.found = true)) w := by
  refine ⟨trivial, fun r w' hr => ⟨WatchedMutation.perform_later hr, ?_⟩⟩
  rintro _ ⟨⟩
  obtain ⟨stored, hbefore, -, hanswer, hfound⟩ := hr
  exact ⟨stored, hbefore, hanswer, fun hsome => by rw [hfound, hsome, Bool.or_true]⟩

theorem resolves_received {ε α : Type} (r : PortReply ε α) (w : WatchedMutation) :
    Resolves accountKey mutationId (received r) (fun v w' => w' = w ∧ match v with
      | .ok x => r = .ok x
      | .error e => r = .failed e) w := by
  cases r with
  | ok x => exact Yields.pure ⟨rfl, rfl⟩
  | failed e => exact Yields.pure ⟨rfl, rfl⟩
  | rejected => exact Yields.throw

/-! ## Recording a confirmation -/

theorem resolves_replace (hkey : HasKey accountKey mutationId m) (next : PendingMutation) (w : WatchedMutation) :
    Resolves accountKey mutationId (replace m next) (fun replaced w' => replaced = true →
      w'.found = true ∧ w'.stored = some next) w := by
  refine Yields.bind (resolves_ask _ w) ?_
  rintro r w₁ - ⟨stored, -, hanswer, hfound⟩
  refine Yields.bind (resolves_received r w₁) ?_
  rintro (e | v) _ - ⟨rfl, rfl⟩
  · cases e with
    | conflict => exact Yields.pure (by rintro ⟨⟩)
    | _ => exact Yields.throw
  · obtain ⟨rfl, hstored⟩ := hanswer hkey.1 hkey.2 rfl
    exact Yields.pure fun _ => ⟨hfound rfl, hstored⟩

/-- A record that is confirmed is removed, by this call or by another. -/
theorem resolves_removeConfirmed (hkey : HasKey accountKey mutationId m) (w : WatchedMutation)
    (hconfirmed : ∀ m' ∈ w.stored, IsConfirmed m') :
    Resolves accountKey mutationId (removeConfirmed m) (fun _ w' => w'.stored = none) w := by
  refine Yields.bind (resolves_ask _ w) ?_
  rintro r w₁ - ⟨stored, hbefore, hanswer, -⟩
  obtain ⟨hok, hconflict⟩ := hanswer hkey.1 hkey.2
  refine Yields.bind (resolves_received r w₁) ?_
  rintro (e | v) _ - ⟨rfl, rfl⟩
  · cases e with
    | conflict =>
      obtain ⟨hsame, hnot⟩ := hconflict rfl
      refine Yields.pure ?_
      rw [hsame]
      refine Option.eq_none_iff_forall_not_mem.2 fun m' hm' => hnot m' hm' ?_
      obtain ⟨m₀, hm₀, hstays⟩ := hbefore m' hm'
      exact hstays (hconfirmed m₀ hm₀)
    | _ => exact Yields.throw
  · exact Yields.pure (hok rfl)

theorem resolves_settleConfirmed (hkey : HasKey accountKey mutationId m)
    (hkey' : HasKey accountKey mutationId confirmed) (hconfirmed : IsConfirmed confirmed)
    (w : WatchedMutation) : Resolves accountKey mutationId (settleConfirmed m confirmed) FoundAndGone w := by
  refine Yields.bind (P := fun removed w' => removed = true → w'.found = true ∧ w'.stored = none) ?_ ?_
  · refine Yields.bind (resolves_replace hkey confirmed w) ?_
    rintro replaced w₁ - hreplaced
    cases replaced with
    | false => exact Yields.pure (by rintro ⟨⟩)
    | true =>
      obtain ⟨hfound, hstored⟩ := hreplaced rfl
      have hstill : ∀ m' ∈ w₁.stored, IsConfirmed m' := by
        rw [hstored]
        rintro _ ⟨⟩
        exact hconfirmed
      refine Yields.bind (resolves_removeConfirmed hkey' w₁ hstill) ?_
      rintro _ w₂ hl hgone
      exact Yields.pure fun _ => ⟨hl.1 hfound, hgone⟩
  · rintro removed w' - hremoved
    refine Yields.pure fun houtcome => hremoved ?_
    cases removed with
    | false => cases houtcome
    | true => rfl

/-- An attempt that is confirmed keeps its key. -/
theorem resolves_confirmation {result : Checked PendingMutation}
    (hresult : ∀ m', result = .ok m' → ∃ n c, m' = m.replaceLifecycle (.confirmed n c)) (w : WatchedMutation) :
    Resolves accountKey mutationId (checked result) (fun m' _ => IsConfirmed m' ∧
      (HasKey accountKey mutationId m → HasKey accountKey mutationId m')) w := by
  refine Yields.lift fun m' hm' => ?_
  obtain ⟨n, c, rfl⟩ := hresult m' (mapError_eq_ok.1 hm')
  exact ⟨⟨n, c, rfl⟩, id⟩

theorem resolves_confirmEmailUpdate (w : WatchedMutation) :
    Resolves accountKey mutationId (checked (confirmEmailUpdateMutation m)) (fun m' _ => IsConfirmed m' ∧
      (HasKey accountKey mutationId m → HasKey accountKey mutationId m')) w :=
  resolves_confirmation (fun _ h => ⟨_, _, (endAttempt_ok h).2⟩) w

/-! ## Programs that confirm only what is gone -/

/-- Whatever state the program starts in, it ends confirmed only if the record was found and is gone. -/
def Honest (accountKey : AccountKey) (mutationId : MutationId) (p : Promise MutationExecutionOutcome) : Prop :=
  ∀ w, Resolves accountKey mutationId p FoundAndGone w

theorem honest_bind {α : Type} {p : Promise α} {f : α → Promise MutationExecutionOutcome}
    (h : ∀ a, Honest accountKey mutationId (f a)) : Honest accountKey mutationId (p >>= f) :=
  fun w => Yields.bind (resolves_any p w) fun a w' _ _ => h a w'

theorem honest_tryCatch {p : Promise MutationExecutionOutcome} {f : JsError → Promise MutationExecutionOutcome}
    (hp : Honest accountKey mutationId p) (hf : ∀ error, Honest accountKey mutationId (f error)) :
    Honest accountKey mutationId (tryCatch p f) :=
  fun w => Yields.tryCatch (hp w) fun error w' _ => hf error w'

theorem honest_pure {outcome : MutationExecutionOutcome} (h : outcome ≠ .confirmed) : Honest accountKey mutationId (pure outcome) :=
  fun _ => Yields.pure fun houtcome => absurd houtcome h

theorem honest_confirmUpdate (hkey : HasKey accountKey mutationId m) : Honest accountKey mutationId (do
    let confirmed ← checked (confirmEmailUpdateMutation m)
    settleConfirmed m confirmed) := by
  refine fun w => Yields.bind (resolves_confirmEmailUpdate w) ?_
  rintro confirmed w' - ⟨hconfirmed, hkeeps⟩
  exact resolves_settleConfirmed hkey (hkeeps hkey) hconfirmed w'

theorem honest_confirmSend (hkey : HasKey accountKey mutationId m) (confirmation : SendConfirmation) : Honest accountKey mutationId (do
    let confirmed ← checked (confirmSendMutation m confirmation)
    settleConfirmed m confirmed) := by
  refine fun w => Yields.bind (resolves_confirmation (fun _ h => ⟨_, _, (confirmSendMutation_ok h).2⟩) w) ?_
  rintro confirmed w' - ⟨hconfirmed, hkeeps⟩
  exact resolves_settleConfirmed hkey (hkeeps hkey) hconfirmed w'

theorem honest_settleRetry : Honest accountKey mutationId (settleRetry deps m) := by
  refine honest_bind fun now => honest_bind fun instant => honest_bind fun next => honest_bind fun replaced => honest_pure ?_
  cases replaced <;> decide

theorem honest_settleTerminal : Honest accountKey mutationId (settleTerminal m) := by
  refine honest_bind fun next => honest_bind fun replaced => honest_pure ?_
  cases replaced <;> decide

theorem honest_settleE2eeFailure (error : E2eeErrorKind) : Honest accountKey mutationId (settleE2eeFailure deps m error) := by
  unfold settleE2eeFailure
  split
  · exact honest_settleRetry
  · exact honest_settleTerminal

theorem honest_settleRemoteFailure (error : JsError) : Honest accountKey mutationId (settleRemoteFailure deps m error) := by
  unfold settleRemoteFailure
  split
  · exact honest_settleRetry
  · exact honest_pure (by decide)
  · exact honest_settleTerminal

/-! ## Executing and reconciling -/

theorem honest_executeSend (hkey : HasKey accountKey mutationId m) (message : RemoteSubmissionDraft) :
    Honest accountKey mutationId (executeSend deps m message) := by
  refine honest_tryCatch ?_ honest_settleRemoteFailure
  refine honest_bind fun _ => honest_bind fun _ => honest_bind fun result => ?_
  split
  · exact honest_pure (by decide)
  · exact honest_bind fun emailId => honest_confirmSend hkey ⟨emailId⟩

theorem honest_execute (hkey : HasKey accountKey mutationId m) (prepared : Option PreparedSend) :
    Honest accountKey mutationId (execute deps m prepared) := by
  unfold execute
  split
  · split
    · exact honest_settleE2eeFailure _
    · exact honest_executeSend hkey _
    · exact honest_settleTerminal
  · refine honest_tryCatch ?_ honest_settleRemoteFailure
    exact honest_bind fun _ => honest_bind fun _ => honest_bind fun _ => honest_bind fun _ => honest_confirmUpdate hkey
  · refine honest_tryCatch ?_ honest_settleRemoteFailure
    refine honest_bind fun _ => honest_bind fun _ => honest_bind fun _ => ?_
    exact honest_bind fun _ => honest_bind fun _ => honest_bind fun _ => honest_confirmUpdate hkey

theorem honest_reconcileSend (hkey : HasKey accountKey mutationId m) : Honest accountKey mutationId (reconcileSend deps m) := by
  unfold reconcileSend
  split
  · refine honest_tryCatch ?_ fun _ => honest_pure (by decide)
    refine honest_bind fun _ => honest_bind fun evidence => ?_
    split
    · exact honest_pure (by decide)
    · exact honest_bind fun emailId => honest_confirmSend hkey ⟨emailId⟩
  · exact honest_pure (by decide)

theorem honest_reconcileMembership (hkey : HasKey accountKey mutationId m) (emailId : ScopedEmailId) (change : MailboxMembershipChange) :
    Honest accountKey mutationId (reconcileMembership deps m emailId change) := by
  unfold reconcileMembership
  split
  · refine honest_tryCatch ?_ fun _ => honest_pure (by decide)
    refine honest_bind fun _ => honest_bind fun _ => honest_bind fun _ => honest_bind fun _ => honest_bind fun evidence => ?_
    split
    · exact honest_pure (by decide)
    · exact honest_confirmUpdate hkey
  · exact honest_pure (by decide)

/-- What is made of the row settles after the `try` that it was decided in. -/
theorem resolves_decideKeyword (hkey : HasKey accountKey mutationId m) (change : KeywordChange) (row : LocalEntityRead Email)
    (w : WatchedMutation) : Resolves accountKey mutationId (decideKeyword deps m change row)
      (fun settlement w' => Resolves accountKey mutationId settlement FoundAndGone w') w := by
  unfold decideKeyword
  split
  · exact Yields.pure (honest_settleTerminal w)
  · split
    · refine Yields.bind (resolves_confirmEmailUpdate w) ?_
      rintro confirmed w₁ - ⟨hconfirmed, hkeeps⟩
      refine Yields.bind (resolves_settleConfirmed hkey (hkeeps hkey) hconfirmed w₁) ?_
      exact fun outcome w₂ _ houtcome => Yields.pure (Yields.pure houtcome)
    · exact Yields.pure (honest_settleRetry w)

theorem honest_reconcileKeyword (hkey : HasKey accountKey mutationId m) (emailId : ScopedEmailId) (change : KeywordChange) :
    Honest accountKey mutationId (reconcileKeyword deps m emailId change) := by
  have hreconcile : Honest accountKey mutationId (pure .needsReconciliation) := honest_pure (by decide)
  unfold reconcileKeyword
  split
  · exact hreconcile
  · refine honest_bind fun connected => ?_
    split
    · refine fun w => Yields.bind (P := fun settlement w' => Resolves accountKey mutationId settlement FoundAndGone w') ?_ fun _ _ _ h => h
      refine Yields.tryCatch ?_ fun _ w' _ => Yields.pure (hreconcile w')
      refine Yields.bind (resolves_any _ w) fun _ w₁ _ _ => ?_
      refine Yields.bind (resolves_any _ w₁) fun _ w₂ _ _ => ?_
      refine Yields.bind (resolves_any _ w₂) fun current w₃ _ _ => ?_
      split
      · exact Yields.pure (hreconcile w₃)
      · exact resolves_decideKeyword hkey change _ w₃
    · exact hreconcile

theorem honest_reconcile (hkey : HasKey accountKey mutationId m) : Honest accountKey mutationId (reconcile deps m) := by
  unfold reconcile
  split
  · exact honest_reconcileSend hkey
  · exact honest_reconcileMembership hkey _ _
  · exact honest_reconcileKeyword hkey _ _

/-! ## A run -/

theorem resolves_readMutation (w : WatchedMutation) : Resolves accountKey mutationId (readMutation accountKey mutationId)
    (fun current w' => ∀ m, current = some m →
      HasKey accountKey mutationId m ∧ w'.found = true ∧ w'.stored = some m) w := by
  refine Yields.bind (resolves_ask _ w) ?_
  rintro r w₁ - ⟨stored, -, hanswer, hfound⟩
  refine Yields.bind (resolves_received r w₁) ?_
  rintro (e | v) _ - ⟨rfl, rfl⟩
  · exact Yields.throw
  · cases v with
    | present m =>
      obtain ⟨rfl, hsame, hkey⟩ := hanswer rfl rfl m rfl
      refine Yields.pure ?_
      rintro _ ⟨⟩
      exact ⟨hkey, hfound rfl, hsame⟩
    | _ => exact Yields.pure (by rintro m ⟨⟩)

theorem honest_claimAndExecute (hkey : HasKey accountKey mutationId m) :
    Honest accountKey mutationId (claimAndExecute deps accountKey m) := by
  refine honest_bind fun connected => ?_
  split
  · refine honest_bind fun prepared w => ?_
    refine Yields.bind (P := fun m' _ => HasKey accountKey mutationId m') (Yields.lift fun m' hm' => ?_) ?_
    · obtain ⟨-, rfl⟩ := startMutationAttempt_ok (mapError_eq_ok.1 hm')
      exact hkey
    · rintro inFlight w₁ - hkey'
      refine Yields.bind (resolves_any _ w₁) fun _ w₂ _ _ => ?_
      refine Yields.bind (resolves_any _ w₂) fun claimed w₃ _ _ => ?_
      split
      · exact honest_pure (by decide) w₃
      · exact Yields.throw
      · exact honest_execute hkey' prepared w₃
  · exact honest_pure (by decide)

theorem honest_runMutation : Honest accountKey mutationId (runMutation deps accountKey mutationId) := by
  refine fun w => Yields.bind (resolves_readMutation w) ?_
  rintro (- | m) w₁ - hread
  · exact honest_pure (by decide) w₁
  · obtain ⟨hkey, hfound, hstored⟩ := hread m rfl
    dsimp only
    split
    · rename_i hlifecycle
      refine Yields.bind (resolves_removeConfirmed hkey w₁ ?_) ?_
      · rw [hstored]
        rintro _ ⟨⟩
        exact ⟨_, _, hlifecycle⟩
      · rintro _ w₂ hl hgone
        exact Yields.pure fun _ => ⟨hl.1 hfound, hgone⟩
    · exact honest_pure (by decide) w₁
    · exact honest_reconcile hkey w₁
    · refine Yields.bind (resolves_any _ w₁) fun now w₂ _ _ => ?_
      split
      · exact honest_pure (by decide) w₂
      · exact honest_claimAndExecute hkey w₂
    · exact honest_claimAndExecute hkey w₁

/-- A run that is confirmed found the mutation, which is gone. -/
theorem runMutation_foundAndGone {outcome : MutationExecutionOutcome} {w w' : WatchedMutation}
    (h : Exec (WatchedMutation.perform accountKey mutationId) (runMutation deps accountKey mutationId).run w (some (.ok outcome)) w') :
    FoundAndGone outcome w' := by
  obtain ⟨-, hend⟩ := Exec.sound h trivial (honest_runMutation w) fun _ _ _ => trivial
  exact (hend _ rfl).2 outcome rfl

end Boxplot.Outbox
