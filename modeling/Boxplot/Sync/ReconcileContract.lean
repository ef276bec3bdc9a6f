import Boxplot.Sync.MailWorld
/-!
# What a run may confirm

The stage of one run: what its last refresh has come to, and what it read
after it. `mailContract` says which requests a stage allows: an email commit
only of what the server answered to the cursor that was read, and a keyword
confirmation only after the change was made or of a row that shows it. The
runner and the refresh keep it; nothing here speaks of other runs.
-/

namespace Boxplot.Sync

open Domain Remote Lib Outbox Memory

namespace Reconcile

inductive Stage
  | free
  /-- The account's email cursor was read. -/
  | cursorRead (accountKey : AccountKey) (cursor : Option CollectionSyncCursor)
  /-- The server answered it at `version`. -/
  | answered (accountKey : AccountKey) (cursor : Option CollectionSyncCursor)
    (transition : RemoteCollectionSync RemoteEmail String) (version : Nat)
  /-- The answer is stored. -/
  | landed (accountKey : AccountKey) (version : Nat)
  /-- A row was read after that. -/
  | seen (accountKey : AccountKey) (emailId : ScopedEmailId) (row : LocalEntityRead Email) (version : Nat)
  /-- A keyword change has settled. -/
  | changed

/-- The stage shows that the change is made. -/
def Stage.Supports (s : Stage) (emailId : ScopedEmailId) (change : KeywordChange) : Prop :=
  s = .changed ∨ ∃ v email, s = .seen emailId.accountKey emailId (.present email) v ∧ keywordsApplied change email.keywords = true

def Stage.may (H : Remotes) (s : Stage) : Call → Prop
  | .sync (.syncEmails id previousState) => ∃ a c, s = .cursorRead a c ∧ id = H.accountOf a ∧ previousState = c.map (·.state)
  | .sync (.applyCollectionSync commit) => commit.kind ≠ .email ∨
    ∃ a c transition v, s = .answered a c transition v ∧ emailCommit a transition (precondition c) = .ok commit
  | .replacePendingMutationIfCurrent expected next => MailWorld.confirms expected next = true →
    ∀ emailId change, expected.payload = .keyword emailId change → s.Supports emailId change
  | _ => True

/-- An email mutation is of an email of its account. -/
def Scoped (m : PendingMutation) : Prop := ∀ emailId change, m.payload = .keyword emailId change → emailId.accountKey = m.accountKey

/-- The store keeps mutations under their keys, and a session is its account's. -/
def Answers (H : Remotes) : (e : Call) → Reply e → Prop
  | .readPendingMutation _ _, r => ∀ m, r = .ok (.present m) → Scoped m
  | .sync (.session a), r => ∀ id, r = some id → id = H.accountOf a
  | _, _ => True

def Stage.After (s : Stage) (e : Call) (r : Reply e) (s' : Stage) : Prop :=
  match e, r with
  | .sync (.readCollectionSyncCursor a .email), .ok .absent => s' = .cursorRead a none
  | .sync (.readCollectionSyncCursor a .email), .ok (.present c) => s' = .cursorRead a (some c)
  | .sync (.readCollectionSyncCursor _ .email), _ => s' = .free
  | .sync (.syncEmails _ _), .ok transition => ∃ a c v, s = .cursorRead a c ∧ s' = .answered a c transition v
  | .sync (.syncEmails _ _), .error _ => s' = .free
  | .sync (.applyCollectionSync (.email _ _)), r =>
    match s, r with
    | .answered a _ _ v, .ok _ => s' = .landed a v
    | _, _ => s' = .free
  | .readEmail id, r =>
    match s, r with
    | .landed a v, .ok row => s' = .seen a id row v
    | _, _ => s' = .free
  | .keywordChangeSettled, .ok _ => s' = .changed
  | _, _ => s' = s

def mailContract (H : Remotes) : Contract Call Reply Stage where
  may := Stage.may H
  step s e r s' := Answers H e r ∧ s.After e r s'

variable {H : Remotes} {α β : Type}

/-! ## Rules -/

theorem wp_ask {e : Call} {s : Stage} {Q : Except JsError (Reply e) → Stage → Prop} (hmay : s.may H e)
    (h : ∀ r s', Answers H e r → s.After e r s' → Q (.ok r) s') : (mailContract H).wpA (ask e) Q s :=
  ((mailContract H).wpA_call _ _ _).2 ⟨hmay, fun r s' hs => h r s' hs.1 hs.2⟩

theorem wp_received {ε : Type} {r : PortReply ε β} {s : Stage} {Q : Except JsError (Except ε β) → Stage → Prop}
    (hok : ∀ v, r = .ok v → Q (.ok (.ok v)) s) (hfailed : ∀ e, r = .failed e → Q (.ok (.error e)) s)
    (hrejected : ∀ x, Q (.error x) s) : (mailContract H).wpA (received r) Q s := by
  cases r with
  | ok v => exact hok v rfl
  | failed e => exact hfailed e rfl
  | rejected => exact hrejected _

/-- Every stage allows the request. -/
theorem always_ask {e : Call} (h : ∀ s, Stage.may H s e) : (mailContract H).Always (ask e) := .call h

theorem always_received {ε : Type} (r : PortReply ε β) : (mailContract H).Always (received r) := by
  cases r with
  | ok v => exact .pure _
  | failed e => exact .pure _
  | rejected => exact .throw _

theorem always_checked (r : Checked α) : (mailContract H).Always (checked r) := .lift _

theorem always_settled (r : Except JsError α) : (mailContract H).Always (settled r) := .lift _

/-! ## Recording -/

theorem always_replace {expected next : PendingMutation} (h : MailWorld.confirms expected next = false) :
    (mailContract H).Always (replace expected next) := by
  refine .bind (always_ask fun s hc => by rw [h] at hc; cases hc) fun r => .bind (always_received r) fun result => ?_
  rcases result with e | v
  · cases e with
    | conflict => exact .pure _
    | _ => exact .throw _
  · exact .pure _

theorem always_removeConfirmed (m : PendingMutation) : (mailContract H).Always (removeConfirmed m) := by
  refine .bind (always_ask fun _ => trivial) fun r => .bind (always_received r) fun result => ?_
  rcases result with e | v
  · cases e with
    | conflict => exact .pure _
    | _ => exact .throw _
  · exact .pure _

/-- A confirmation needs the support of the stage it is made in. -/
theorem wp_settleConfirmed {m confirmed : PendingMutation} {s : Stage}
    (h : MailWorld.confirms m confirmed = true → ∀ emailId change, m.payload = .keyword emailId change → s.Supports emailId change) :
    (mailContract H).wpA (settleConfirmed m confirmed) (fun _ _ => True) s := by
  unfold settleConfirmed confirmAndRemove replace
  simp only [Contract.wpA_bind]
  refine wp_ask h fun r s' _ _ => ?_
  simp only [Contract.andThen_ok, Contract.wpA_bind]
  refine wp_received (fun v _ => ?_) (fun e _ => ?_) (fun _ => trivial)
  · simp only [Contract.andThen_ok, Contract.wpA_pure, if_true, Contract.wpA_bind]
    refine Contract.wpA_mono _ (fun r _ _ => ?_) (always_removeConfirmed confirmed s')
    cases r <;> trivial
  · cases e <;> trivial

theorem always_settleRetry (deps : MutationRunnerDependencies) (m : PendingMutation) :
    (mailContract H).Always (settleRetry deps m) := by
  refine .bind (always_ask fun _ => trivial) fun now => .bind (always_checked _) fun instant => ?_
  intro s
  simp only [Contract.wpA_bind, checked, Contract.wpA_lift]
  cases hn : scheduleMutationRetry m instant with
  | error e => trivial
  | ok next =>
    obtain ⟨-, rfl⟩ := endAttempt_ok hn
    exact (always_replace (by unfold MailWorld.confirms; cases m.payload <;> rfl)).bind (fun _ => .pure _) s

theorem always_settleTerminal (m : PendingMutation) : (mailContract H).Always (settleTerminal m) := by
  intro s
  unfold settleTerminal
  simp only [Contract.wpA_bind, checked, Contract.wpA_lift]
  cases hn : failMutationTerminal m with
  | error e => trivial
  | ok next =>
    obtain ⟨-, rfl⟩ := endAttempt_ok hn
    exact (always_replace (by unfold MailWorld.confirms; cases m.payload <;> rfl)).bind (fun _ => .pure _) s

theorem always_settleRemoteFailure (deps : MutationRunnerDependencies) (m : PendingMutation) (x : JsError) :
    (mailContract H).Always (settleRemoteFailure deps m x) := by
  unfold settleRemoteFailure
  cases remoteFailureVerdict x with
  | retry => exact always_settleRetry deps m
  | reconcile => exact .pure _
  | terminal => exact always_settleTerminal m

/-- A mutation of another kind may always be confirmed. -/
theorem always_settleConfirmed {m : PendingMutation} (confirmed : PendingMutation)
    (h : ∀ emailId change, m.payload ≠ .keyword emailId change) : (mailContract H).Always (settleConfirmed m confirmed) :=
  fun _ => wp_settleConfirmed fun _ emailId change hp => absurd hp (h emailId change)

/-! ## Refreshing -/

theorem always_readCursorOutcome (accountKey : AccountKey) (dataType : CollectionDataType) :
    (mailContract H).Always (readCursorOutcome accountKey dataType) := by
  refine .bind (always_ask fun _ => trivial) fun r => .bind (always_received r) fun result => ?_
  rcases result with e | v
  · exact .throw _
  · cases v with
    | ownerAbsent => exact .throw _
    | absent => exact .pure _
    | present c => exact .pure _

/-- Another collection's commits are always allowed. -/
theorem always_syncCollection {accountKey : AccountKey} {dataType : CollectionDataType}
    {build : Option String → Promise (CollectionCursorPrecondition → Except JsError CollectionSyncCommit)}
    (hbuild : ∀ previous s, (mailContract H).wpA (build previous)
      (fun r _ => ∀ create, r = .ok create → ∀ expected commit, create expected = .ok commit → commit.kind ≠ .email) s)
    (attempts : Nat) : (mailContract H).Always (syncCollection accountKey dataType build attempts) := by
  induction attempts with
  | zero => exact .throw _
  | succ n ih =>
    refine .bind (always_readCursorOutcome _ _) fun outcome s => ?_
    refine Contract.wpA_bind_of (hbuild _ s) (fun create s' hc => ?_) (fun _ _ _ => trivial)
    simp only [Contract.wpA_bind, settled, Contract.wpA_lift]
    cases hcommit : create (precondition outcome) with
    | error x => trivial
    | ok commit =>
      have hkind := hc create rfl _ commit hcommit
      simp only [Contract.andThen_ok, Contract.wpA_bind]
      refine wp_ask (.inl hkind) fun r s'' _ _ => ?_
      simp only [Contract.andThen_ok, Contract.wpA_bind]
      refine wp_received (fun _ _ => trivial) (fun e _ => ?_) (fun _ => trivial)
      cases e with
      | conflict => exact ih s''
      | _ => trivial

theorem identityCommit_kind {accountKey : AccountKey} {transition : RemoteCollectionSync RemoteIdentity String}
    {expected : CollectionCursorPrecondition} {commit : CollectionSyncCommit}
    (h : identityCommit accountKey transition expected = .ok commit) : commit.kind ≠ .email := by
  obtain ⟨change, -, h⟩ := except_bind_eq_ok.1 h
  cases h
  rintro ⟨⟩

theorem mailboxCommit_kind {accountKey : AccountKey} {transition : RemoteCollectionSync RemoteMailbox String}
    {expected : CollectionCursorPrecondition} {commit : CollectionSyncCommit}
    (h : mailboxCommit accountKey transition expected = .ok commit) : commit.kind ≠ .email := by
  obtain ⟨change, -, h⟩ := except_bind_eq_ok.1 h
  cases h
  rintro ⟨⟩

theorem always_syncIdentities (accountKey : AccountKey) (remoteAccountId : String) :
    (mailContract H).Always (syncIdentities accountKey remoteAccountId) := by
  refine always_syncCollection (fun previous s => ?_) _
  simp only [Contract.wpA_bind]
  refine wp_ask trivial fun r s' _ _ => ?_
  cases r with
  | error x => rintro create ⟨⟩
  | ok transition => rintro _ ⟨⟩ expected commit hc; exact identityCommit_kind hc

theorem always_syncMailboxes (accountKey : AccountKey) (remoteAccountId : String) :
    (mailContract H).Always (syncMailboxes accountKey remoteAccountId) := by
  refine always_syncCollection (fun previous s => ?_) _
  simp only [Contract.wpA_bind]
  refine wp_ask trivial fun r s' _ _ => ?_
  cases r with
  | error x => rintro create ⟨⟩
  | ok transition => rintro _ ⟨⟩ expected commit hc; exact mailboxCommit_kind hc

theorem wp_readEmailCursor (accountKey : AccountKey) (s : Stage) :
    (mailContract H).wpA (readCursorOutcome accountKey .email) (fun r s' => ∀ c, r = .ok c → s' = .cursorRead accountKey c) s := by
  unfold readCursorOutcome
  simp only [Contract.wpA_bind]
  refine wp_ask trivial fun r s' _ hs' => ?_
  simp only [Contract.andThen_ok, Contract.wpA_bind]
  refine wp_received (fun v hv => ?_) (fun e _ => by rintro c ⟨⟩) (fun x => by rintro c ⟨⟩)
  subst hv
  cases v with
  | ownerAbsent => rintro c ⟨⟩
  | absent => rintro c ⟨⟩; exact hs'
  | present cursor => rintro c ⟨⟩; exact hs'

/-- Where the email sync resolves, what the server answered is stored. -/
theorem wp_syncEmails (accountKey : AccountKey) (s : Stage) :
    (mailContract H).wpA (syncEmails accountKey (H.accountOf accountKey))
      (fun r s' => r = .ok () → ∃ v, s' = .landed accountKey v) s := by
  unfold syncEmails
  generalize syncAttempts = attempts
  induction attempts generalizing s with
  | zero => rintro ⟨⟩
  | succ n ih =>
    unfold syncCollection
    refine Contract.wpA_bind_of (wp_readEmailCursor accountKey s) (fun outcome s' hs' => ?_) (fun x s' _ => by rintro ⟨⟩)
    obtain rfl := hs' outcome rfl
    simp only [Contract.wpA_bind]
    refine wp_ask ⟨accountKey, outcome, rfl, rfl, rfl⟩ fun r s' _ hs' => ?_
    cases r with
    | error x => rintro ⟨⟩
    | ok transition =>
      obtain ⟨a, c, v, ha, rfl⟩ := hs'
      cases ha
      simp only [Contract.andThen_ok, Contract.wpA_bind, settled, Contract.wpA_lift, Contract.wpA_pure]
      cases hcommit : emailCommit accountKey transition (precondition outcome) with
      | error x => rintro ⟨⟩
      | ok commit =>
        simp only [Contract.andThen_ok, Contract.wpA_bind]
        obtain ⟨change, -, hc⟩ := except_bind_eq_ok.1 hcommit
        cases hc
        refine wp_ask (.inr ⟨_, _, _, _, rfl, hcommit⟩) fun r s'' _ hs'' => ?_
        simp only [Contract.andThen_ok, Contract.wpA_bind]
        refine wp_received (fun u hu => ?_) (fun e _ => ?_) (fun x => by rintro ⟨⟩)
        · subst hu
          exact fun _ => ⟨v, hs''⟩
        · cases e with
          | conflict => exact ih s''
          | _ => rintro ⟨⟩

theorem wp_syncViews (accountKey : AccountKey) (remoteAccountId : String) (mailboxes : List Mailbox) (s : Stage) :
    (mailContract H).wpA (syncViews accountKey remoteAccountId mailboxes) (fun _ s' => s' = s) s := by
  induction mailboxes with
  | nil => rfl
  | cons mailbox rest ih =>
    unfold syncViews
    simp only [Contract.wpA_bind]
    refine wp_ask trivial fun r s' _ hs' => ?_
    obtain rfl : s' = s := hs'
    simp only [Contract.andThen_ok, Contract.wpA_bind, settled, Contract.wpA_lift]
    cases r with
    | error x => rfl
    | ok u => exact ih

theorem wp_syncAccount (accountKey : AccountKey) (s : Stage) :
    (mailContract H).wpA (syncAccount accountKey (H.accountOf accountKey))
      (fun r s' => r = .ok () → ∃ v, s' = .landed accountKey v) s := by
  refine Contract.wpA_bind_of (always_syncIdentities _ _ s) (fun _ s₁ _ => ?_) (fun _ _ _ => by rintro ⟨⟩)
  refine Contract.wpA_bind_of (always_syncMailboxes _ _ s₁) (fun _ s₂ _ => ?_) (fun _ _ _ => by rintro ⟨⟩)
  refine Contract.wpA_bind_of (wp_syncEmails accountKey s₂) (fun _ s₃ h => ?_) (fun _ _ _ => by rintro ⟨⟩)
  obtain ⟨v, rfl⟩ := h rfl
  simp only [Contract.wpA_bind]
  refine wp_ask trivial fun r s₄ _ hs₄ => ?_
  obtain rfl : s₄ = _ := hs₄
  simp only [Contract.andThen_ok, Contract.wpA_bind]
  refine wp_received (fun value _ => ?_) (fun e _ => by rintro ⟨⟩) (fun x => by rintro ⟨⟩)
  cases value with
  | ownerAbsent => rintro ⟨⟩
  | present mailboxes => exact Contract.wpA_mono _ (fun r s' hs' _ => ⟨v, hs'⟩) (wp_syncViews _ _ _ _)

theorem wp_refreshFailed (accountKey : AccountKey) (error : JsError) (s : Stage) :
    (mailContract H).wpA (refreshFailed accountKey error) (fun r _ => r ≠ .ok ()) s := by
  unfold refreshFailed
  simp only [Contract.wpA_bind]
  refine wp_ask trivial fun current s' _ _ => ?_
  cases current with
  | false => rintro ⟨⟩
  | true => cases error <;> rintro ⟨⟩

/-- A refresh that resolves leaves the server's answer stored. -/
theorem wp_refreshAccount (accountKey : AccountKey) (s : Stage) :
    (mailContract H).wpA (refreshAccount accountKey) (fun r s' => r = .ok () → ∃ v, s' = .landed accountKey v) s := by
  have failed : ∀ x s', (mailContract H).wpA (refreshFailed accountKey x)
      (fun r s' => r = .ok () → ∃ v, s' = .landed accountKey v) s' :=
    fun x s' => Contract.wpA_mono _ (fun r _ hr h => absurd h hr) (wp_refreshFailed accountKey x s')
  unfold refreshAccount
  simp only [Contract.wpA_bind]
  refine wp_ask trivial fun active s₁ ha _ => ?_
  cases active with
  | none => rintro ⟨⟩
  | some remoteAccountId =>
    obtain rfl : remoteAccountId = H.accountOf accountKey := ha _ rfl
    simp only [Contract.andThen_ok, Contract.wpA_tryCatch]
    refine Contract.wpA_bind_of (wp_syncAccount accountKey s₁) (fun u s₂ h => ?_) (fun x s₂ _ => failed x s₂)
    obtain ⟨v, rfl⟩ := h rfl
    simp only [Contract.wpA_bind]
    refine wp_ask trivial fun current s₃ _ hs₃ => ?_
    obtain rfl : s₃ = _ := hs₃
    cases current with
    | false => exact failed (.error "cancelled") (.landed accountKey v)
    | true => exact fun _ => ⟨v, rfl⟩

/-! ## Reconciling -/

section
variable {deps : MutationRunnerDependencies} {m : PendingMutation} {emailId : ScopedEmailId} {change : KeywordChange}

/-- A keyword mutation is confirmed only of a row that shows its change. -/
theorem wp_decideKeyword (hp : m.payload = .keyword emailId change) (hscope : emailId.accountKey = m.accountKey)
    (row : LocalEntityRead Email) (v : Nat) :
    (mailContract H).wpA (decideKeyword deps m change row) (fun r _ => ∀ p, r = .ok p → (mailContract H).Always p)
      (.seen m.accountKey emailId row v) := by
  cases row with
  | absent => rintro p ⟨⟩; exact always_settleTerminal m
  | present email =>
    simp only [decideKeyword]
    split
    · rename_i happlied
      simp only [Contract.wpA_bind, checked, Contract.wpA_lift]
      cases confirmEmailUpdateMutation m with
      | error e => rintro p ⟨⟩
      | ok confirmed =>
        have hsettled : (mailContract H).wpA (settleConfirmed m confirmed) (fun _ _ => True)
            (.seen m.accountKey emailId (.present email) v) := by
          refine wp_settleConfirmed fun _ id c hpayload => .inr ⟨v, email, ?_, ?_⟩
          · rw [hp] at hpayload; cases hpayload; rw [hscope]
          · rw [hp] at hpayload; cases hpayload; exact happlied
        refine Contract.wpA_bind_of hsettled (fun outcome s _ => ?_) (fun x s _ => by rintro p ⟨⟩)
        rintro p ⟨⟩
        exact .pure _
    · rintro p ⟨⟩; exact always_settleRetry deps m

theorem always_reconcileKeyword (hdeps : Wired deps) (hp : m.payload = .keyword emailId change)
    (hscope : emailId.accountKey = m.accountKey) : (mailContract H).Always (reconcileKeyword deps m emailId change) := by
  unfold reconcileKeyword
  split
  · exact .pure _
  · rename_i refresh hrefresh
    obtain rfl := hdeps refresh hrefresh
    refine .bind (always_ask fun _ => trivial) fun connected s => ?_
    cases connected with
    | false => trivial
    | true =>
      have gaveUp : (mailContract H).Always (pure .needsReconciliation : Promise MutationExecutionOutcome) := .pure _
      refine Contract.wpA_bind_of (?_ : (mailContract H).wpA _ (fun r _ => ∀ p, r = .ok p → (mailContract H).Always p) s)
        (fun p s' h => h p rfl s') (fun _ _ _ => trivial)
      rw [Contract.wpA_tryCatch]
      refine Contract.wpA_bind_of (wp_refreshAccount m.accountKey s) (fun u s₁ h => ?_) (fun x s' _ => ?_)
      · obtain ⟨v, rfl⟩ := h rfl
        simp only [Contract.wpA_bind]
        refine wp_ask trivial fun r s₂ _ hs₂ => ?_
        simp only [Contract.andThen_ok, Contract.wpA_bind]
        refine wp_received (fun row hrow => ?_) (fun e _ => ?_) (fun x => ?_)
        · subst hrow
          obtain rfl : s₂ = .seen m.accountKey emailId row v := hs₂
          refine Contract.wpA_mono _ (fun r s' hr => ?_) (wp_decideKeyword hp hscope row v)
          cases r with
          | ok p => exact hr
          | error x => rintro p ⟨⟩; exact gaveUp
        · rintro p ⟨⟩; exact gaveUp
        · rintro p ⟨⟩; exact gaveUp
      · rintro p ⟨⟩; exact gaveUp

end

theorem always_reconcileSend (deps : MutationRunnerDependencies) {m : PendingMutation}
    (h : ∀ emailId change, m.payload ≠ .keyword emailId change) : (mailContract H).Always (reconcileSend deps m) := by
  unfold Outbox.reconcileSend
  split
  · refine .tryCatch ?_ fun _ => .pure _
    refine .bind (always_ask fun _ => trivial) fun r => .bind (always_settled _) fun evidence => ?_
    cases evidence with
    | inconclusive => exact .pure _
    | applied id => exact .bind (always_checked _) fun _ => .bind (always_checked _) fun _ => always_settleConfirmed _ h
  · exact .pure _

theorem always_reconcileMembership (deps : MutationRunnerDependencies) {m : PendingMutation} (emailId : ScopedEmailId)
    (change : MailboxMembershipChange) (h : ∀ emailId change, m.payload ≠ .keyword emailId change) :
    (mailContract H).Always (reconcileMembership deps m emailId change) := by
  unfold reconcileMembership
  split
  · refine .tryCatch ?_ fun _ => .pure _
    refine .bind (always_checked _) fun _ => .bind (always_checked _) fun _ => .bind (always_checked _) fun _ => ?_
    refine .bind (always_ask fun _ => trivial) fun r => .bind (always_settled _) fun evidence => ?_
    cases evidence with
    | inconclusive => exact .pure _
    | applied id => exact .bind (always_checked _) fun _ => always_settleConfirmed _ h
  · exact .pure _

theorem always_reconcile {deps : MutationRunnerDependencies} (hdeps : Wired deps) {m : PendingMutation} (hm : Scoped m) :
    (mailContract H).Always (reconcile deps m) := by
  unfold reconcile
  cases hp : m.payload with
  | send intent => exact always_reconcileSend deps (by simp [hp])
  | mailboxMembership emailId change => exact always_reconcileMembership deps emailId change (by simp [hp])
  | keyword emailId change => exact always_reconcileKeyword hdeps hp (hm emailId change hp)

/-! ## Executing -/

theorem always_executeSend (deps : MutationRunnerDependencies) {m : PendingMutation} (message : RemoteSubmissionDraft)
    (h : ∀ emailId change, m.payload ≠ .keyword emailId change) : (mailContract H).Always (executeSend deps m message) := by
  unfold executeSend
  refine .tryCatch ?_ (always_settleRemoteFailure deps m)
  refine .bind (always_ask fun _ => trivial) fun _ => .bind (always_ask fun _ => trivial) fun r => ?_
  refine .bind (always_settled _) fun result => ?_
  split
  · exact .pure _
  · exact .bind (always_checked _) fun _ => .bind (always_checked _) fun _ => always_settleConfirmed _ h

/-- A change that has settled supports its confirmation. -/
theorem always_executeKeyword (deps : MutationRunnerDependencies) (m : PendingMutation) (emailId : ScopedEmailId)
    (change : KeywordChange) : (mailContract H).Always (executeKeyword deps m emailId change) := by
  unfold executeKeyword
  refine .tryCatch ?_ (always_settleRemoteFailure deps m)
  refine .bind (always_checked _) fun _ => .bind (always_ask fun _ => trivial) fun _ s => ?_
  simp only [Contract.wpA_bind]
  refine wp_ask trivial fun r s' _ hs' => ?_
  simp only [Contract.andThen_ok, Contract.wpA_bind, settled, checked, Contract.wpA_lift]
  cases r with
  | error x => trivial
  | ok u =>
    obtain rfl : s' = .changed := hs'
    simp only [Contract.andThen_ok, Contract.wpA_bind, Contract.wpA_lift]
    cases confirmEmailUpdateMutation m with
    | error e => trivial
    | ok confirmed => exact wp_settleConfirmed fun _ _ _ _ => .inl rfl

theorem always_executeMembership (deps : MutationRunnerDependencies) {m : PendingMutation} (emailId : ScopedEmailId)
    (change : MailboxMembershipChange) (h : ∀ emailId change, m.payload ≠ .keyword emailId change) :
    (mailContract H).Always (executeMembership deps m emailId change) := by
  unfold executeMembership
  refine .tryCatch ?_ (always_settleRemoteFailure deps m)
  refine .bind (always_checked _) fun _ => .bind (always_checked _) fun _ => .bind (always_checked _) fun _ => ?_
  refine .bind (always_ask fun _ => trivial) fun _ => .bind (always_ask fun _ => trivial) fun r => ?_
  exact .bind (always_settled _) fun _ => .bind (always_checked _) fun _ => always_settleConfirmed _ h

theorem always_execute (deps : MutationRunnerDependencies) (m : PendingMutation) (prepared : Option PreparedSend) :
    (mailContract H).Always (execute deps m prepared) := by
  unfold execute
  cases hp : m.payload with
  | send intent =>
    cases prepared with
    | none => exact always_settleTerminal m
    | some p =>
      cases p with
      | ready message => exact always_executeSend deps message (by simp [hp])
      | e2eeFailure error =>
        cases error with
        | unavailable => exact always_settleRetry deps m
        | _ => exact always_settleTerminal m
  | keyword emailId change => exact always_executeKeyword deps m emailId change
  | mailboxMembership emailId change => exact always_executeMembership deps emailId change (by simp [hp])

theorem always_prepare (m : PendingMutation) : (mailContract H).Always (prepare m) := by
  unfold prepare
  split
  · refine .bind ?_ fun _ => .pure _
    unfold prepareSend
    split
    · exact .bind (always_checked _) fun _ => .pure _
    · refine .bind ?_ fun encrypted => ?_
      · unfold encryptSendIntent
        split
        · refine .bind (always_ask fun _ => trivial) fun reply => ?_
          cases reply with
          | rejected => exact .throw _
          | _ => exact .pure _
        · exact .pure _
      · unfold prepareEncrypted
        cases encrypted with
        | error e => exact .pure _
        | ok envelope => exact .bind (always_checked _) fun _ => .pure _
  · exact .pure _

theorem always_claimAndExecute (deps : MutationRunnerDependencies) (accountKey : AccountKey) (current : PendingMutation) :
    (mailContract H).Always (claimAndExecute deps accountKey current) := by
  refine .bind (always_ask fun _ => trivial) fun connected => ?_
  cases connected with
  | false => exact .pure _
  | true =>
    refine .bind (always_prepare current) fun prepared s => ?_
    simp only [Contract.wpA_bind, checked, Contract.wpA_lift]
    cases hstart : startMutationAttempt current with
    | error e => trivial
    | ok inFlight =>
      obtain ⟨-, rfl⟩ := startMutationAttempt_ok hstart
      have hclaim : MailWorld.confirms current (current.replaceLifecycle (.inFlight (current.attemptCount + 1))) = false := by
        unfold MailWorld.confirms
        cases current.payload <;> rfl
      simp only [Except.mapError, Contract.andThen_ok, Contract.wpA_bind]
      refine wp_ask (fun hc => by rw [hclaim] at hc; cases hc) fun r s' _ _ => ?_
      simp only [Contract.andThen_ok, Contract.wpA_bind]
      refine wp_received (fun v _ => always_execute deps _ prepared s') (fun e _ => ?_) (fun _ => trivial)
      cases e <;> trivial

/-! ## Runs -/

theorem always_runMutation {deps : MutationRunnerDependencies} (hdeps : Wired deps) (accountKey : AccountKey)
    (mutationId : MutationId) : (mailContract H).Always (runMutation deps accountKey mutationId) := by
  intro s
  have found : (mailContract H).wpA (readMutation accountKey mutationId) (fun r _ => ∀ m, r = .ok (some m) → Scoped m) s := by
    unfold readMutation
    simp only [Contract.wpA_bind]
    refine wp_ask trivial fun r s' ha _ => ?_
    simp only [Contract.andThen_ok, Contract.wpA_bind]
    refine wp_received (fun v hv => ?_) (fun e _ => by rintro m ⟨⟩) (fun x => by rintro m ⟨⟩)
    subst hv
    cases v with
    | present m => rintro _ ⟨⟩; exact ha m rfl
    | _ => rintro m ⟨⟩
  refine Contract.wpA_bind_of found (fun o s' hm => ?_) (fun _ _ _ => trivial)
  cases o with
  | none => trivial
  | some m =>
    simp only
    cases m.lifecycle with
    | confirmed n c => exact (always_removeConfirmed m).bind (fun _ => .pure _) s'
    | failedTerminal n => trivial
    | inFlight n => exact always_reconcile hdeps (hm m rfl) s'
    | retrying n i =>
      have asked : (mailContract H).Always (ask .now) := always_ask fun _ => trivial
      refine asked.bind (fun now => ?_) s'
      split
      · exact .pure _
      · exact always_claimAndExecute deps accountKey m
    | pending n => exact always_claimAndExecute deps accountKey m s'

theorem always_runAccount {deps : MutationRunnerDependencies} (hdeps : Wired deps) (accountKey : AccountKey) :
    (mailContract H).Always (runAccount deps accountKey) := by
  have listed : ∀ mutations summary, (mailContract H).Always (runListed deps accountKey mutations summary) := by
    intro mutations
    induction mutations with
    | nil => exact fun summary => .pure _
    | cons m rest ih => exact fun summary => .bind (always_runMutation hdeps _ _) fun outcome => ih _
  refine .bind (always_ask fun _ => trivial) fun r => .bind (always_received r) fun result => ?_
  rcases result with e | v
  · exact .throw _
  · cases v with
    | ownerAbsent => exact .pure _
    | present mutations => exact listed mutations _

/-- Every run keeps the contract. -/
theorem MailRun.keeps {p : Prog Call Reply Unit} (h : MailRun p) (s : Stage) : (mailContract H).wp p (fun _ _ => True) s := by
  cases h with
  | runMutation accountKey mutationId hdeps => exact ((mailContract H).wp_bind _ _ _ _).2 (always_runMutation hdeps _ _ s)
  | runAccount accountKey hdeps => exact ((mailContract H).wp_bind _ _ _ _).2 (always_runAccount hdeps _ s)
  | refreshAccount accountKey =>
    refine ((mailContract H).wp_bind _ _ _ _).2 (Contract.wp_mono _ (fun _ _ _ => trivial) (wp_refreshAccount accountKey s))

end Reconcile

end Boxplot.Sync
