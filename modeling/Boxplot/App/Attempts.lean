import Boxplot.App.Window
/-!
# Attempts under way

Materialisations of bodies and refreshes of accounts: which call an attempt
belongs to, and when the window shows that it is under way.
-/

namespace Boxplot.App

open Domain Lib Memory Outbox Sync

/-! ## Work under way -/

/-- An attempt that a call has begun, and whether it has reported its result. -/
inductive Duty
  | none
  | body (attempt : BodyAttempt) (reported : Bool)
  | refresh (attempt : RefreshAttempt) (reported : Bool)
  deriving DecidableEq

namespace Duty

/-- What a call may request is what its attempt has come to. -/
def Due (d : Duty) : ControllerCall → Prop
  | .beginMaterialize _ | .beginRefresh _ => d = .none
  | .materialized attempt | .finishMaterialize attempt _ | .failMaterialize attempt _ => d = .body attempt false
  | .endMaterialize attempt => d = .body attempt true
  | .finishRefresh attempt _ => d = .refresh attempt false
  | .endRefresh attempt => d = .refresh attempt true
  | _ => True

/-- What the call has to do after a request. -/
def next (d : Duty) : (c : ControllerCall) → ControllerReply c → Duty
  | .beginMaterialize _, r => r.elim .none fun begun => .body begun.1 begun.2.isSome
  | .materialized attempt, r => .body attempt !r.isOk
  | .finishMaterialize attempt _, _ | .failMaterialize attempt _, _ => .body attempt true
  | .beginRefresh _, .started attempt => .refresh attempt false
  | .finishRefresh attempt _, _ => .refresh attempt true
  | .endMaterialize _, _ | .endRefresh _, _ => .none
  | _, _ => d

end Duty

def controllerContract : Contract ControllerCall ControllerReply Duty where
  may d c := c.Sound ∧ d.Due c
  step d c r d' := AnswersTo c r ∧ d' = d.next c r

namespace Duty

def body? : Duty → Option (BodyAttempt × Bool)
  | .body attempt reported => some (attempt, reported)
  | _ => .none

def refresh? : Duty → Option (RefreshAttempt × Bool)
  | .refresh attempt reported => some (attempt, reported)
  | _ => .none

end Duty

/-- The materialisations under way are those of the calls, and only one that has not reported yet is shown. -/
structure MailController.BodyAttended (w : MailController) (β : Nat → Option (BodyAttempt × Bool)) : Prop where
  attempts : ∀ key attempt, w.bodyMaterializationAttempts.get? key = some attempt →
    key = bodyKey attempt.emailId ∧ ∃ t reported, β t = some (attempt, reported)
  materializing : w.disposed = false → w.mail.bodyMaterializing = true →
    ∃ t attempt, β t = some (attempt, false) ∧ w.mail.selectedEmailId = some attempt.emailId

/-- The refresh under way is that of a call, and only one that has not reported yet is shown. -/
structure MailController.RefreshAttended (w : MailController) (ρ : Nat → Option (RefreshAttempt × Bool)) : Prop where
  active : ∀ attempt, w.activeRefreshAttempt = some attempt → ∃ t reported, ρ t = some (attempt, reported)
  generation : ∀ t attempt reported, ρ t = some (attempt, reported) → attempt.generation ≤ w.refreshGeneration
  unique : ∀ t t' attempt reported reported', ρ t = some (attempt, reported) → ρ t' = some (attempt, reported') → t = t'
  current : w.disposed = false → ∀ t attempt, ρ t = some (attempt, false) →
    w.activeRefreshAttempt = some attempt ∧ attempt.generation = w.refreshGeneration
  refreshing : w.disposed = false → ∀ accountKey activity, w.mail.refreshActivity.get? accountKey = some activity →
    activity.phase = .refreshing → ∃ t attempt, ρ t = some (attempt, false) ∧ attempt.accountKey = accountKey

/-- No sign of work comes up, and one that stays is for the same email. -/
structure MailState.Quiet (m m' : MailState) : Prop where
  activity : m'.refreshActivity = m.refreshActivity
  materializing : m'.bodyMaterializing = true → m.bodyMaterializing = true ∧ m'.selectedEmailId = m.selectedEmailId

namespace MailState.Quiet

variable {m m' : MailState}

theorem same (ha : m'.refreshActivity = m.refreshActivity) (hb : m'.bodyMaterializing = m.bodyMaterializing)
    (hs : m'.selectedEmailId = m.selectedEmailId) : m.Quiet m' :=
  ⟨ha, fun h => ⟨hb ▸ h, hs⟩⟩

theorem refl (m : MailState) : m.Quiet m := same rfl rfl rfl

theorem cleared (ha : m'.refreshActivity = m.refreshActivity) (hb : m'.bodyMaterializing = false) : m.Quiet m' :=
  ⟨ha, fun h => by rw [hb] at h; cases h⟩

theorem setEmailBody (m : MailState) (body : Option EmailBody) (state : BodyLoadState) : m.Quiet (m.setEmailBody body state) :=
  ⟨rfl, fun h => ⟨(Bool.and_eq_true_iff.1 h).1, rfl⟩⟩

end MailState.Quiet

/-- The attempts are as they were. -/
structure MailController.Quiet (w w' : MailController) : Prop where
  mail : w.mail.Quiet w'.mail
  disposed : w'.disposed = w.disposed
  attempts : w'.bodyMaterializationAttempts = w.bodyMaterializationAttempts
  active : w'.activeRefreshAttempt = w.activeRefreshAttempt
  generation : w'.refreshGeneration = w.refreshGeneration

theorem MailController.BodyAttended.quiet {w w' : MailController} {β : Nat → Option (BodyAttempt × Bool)} (h : w.BodyAttended β)
    (hd : w.disposed = true → w'.disposed = true) (ha : w'.bodyMaterializationAttempts = w.bodyMaterializationAttempts)
    (hm : w'.mail.bodyMaterializing = true → w.mail.bodyMaterializing = true ∧ w'.mail.selectedEmailId = w.mail.selectedEmailId) :
    w'.BodyAttended β where
  attempts := ha ▸ h.attempts
  materializing hd' hm' := by
    obtain ⟨hm', hs⟩ := hm hm'
    rw [hs]
    refine h.materializing ?_ hm'
    cases hw : w.disposed with
    | false => rfl
    | true => rw [hd hw] at hd'; cases hd'

theorem MailController.RefreshAttended.quiet {w w' : MailController} {ρ : Nat → Option (RefreshAttempt × Bool)} (h : w.RefreshAttended ρ)
    (hd : w'.disposed = w.disposed) (ha : w'.activeRefreshAttempt = w.activeRefreshAttempt)
    (hg : w'.refreshGeneration = w.refreshGeneration) (hr : w'.mail.refreshActivity = w.mail.refreshActivity) : w'.RefreshAttended ρ where
  active := ha ▸ h.active
  generation := hg ▸ h.generation
  unique := h.unique
  current := by
    rw [hd, ha, hg]
    exact h.current
  refreshing := by
    rw [hd, hr]
    exact h.refreshing

/-- A request that neither begins nor ends an attempt. -/
def ControllerCall.Plain : ControllerCall → Prop
  | .beginMaterialize _ | .materialized _ | .finishMaterialize _ _ | .failMaterialize _ _ | .endMaterialize _
  | .beginRefresh _ | .finishRefresh _ _ | .endRefresh _ | .dispose => False
  | _ => True

namespace MailController

variable {js : Collation} {w : MailController}

theorem Quiet.refl (w : MailController) : w.Quiet w := ⟨.refl _, rfl, rfl, rfl, rfl⟩

theorem showAccounts_quiet (generation : Nat) (result : Except LocalReadError (List Account)) :
    w.Quiet (w.showAccounts js generation result).2 := by
  unfold showAccounts
  split
  · exact .refl w
  cases result with
  | error e => exact .refl w
  | ok value =>
    dsimp only
    split
    · exact ⟨.cleared rfl rfl, rfl, rfl, rfl, rfl⟩
    · split
      · exact ⟨.same rfl rfl rfl, rfl, rfl, rfl, rfl⟩
      · exact ⟨.cleared rfl rfl, rfl, rfl, rfl, rfl⟩

theorem showMailboxes_quiet (accountKey : AccountKey) (generation : Nat) (result : Except LocalReadError (OwnedSnapshotRead (List Mailbox))) :
    w.Quiet (w.showMailboxes js accountKey generation result).2 := by
  unfold showMailboxes
  split
  · exact .refl w
  rcases result with e | _ | value
  · exact .refl w
  · exact ⟨.cleared rfl rfl, rfl, rfl, rfl, rfl⟩
  · dsimp only
    split
    · exact ⟨.cleared rfl rfl, rfl, rfl, rfl, rfl⟩
    · split
      · exact ⟨.same rfl rfl rfl, rfl, rfl, rfl, rfl⟩
      · exact ⟨.cleared rfl rfl, rfl, rfl, rfl, rfl⟩

theorem showView_quiet (mailboxId : ScopedMailboxId) (generation : Nat) (result : Except LocalReadError (OwnedCacheRead MailboxView)) :
    w.Quiet (w.showView mailboxId generation result).2 := by
  unfold showView
  split
  · exact .refl w
  rcases result with e | _ | _ | view
  · exact ⟨.same rfl rfl rfl, rfl, rfl, rfl, rfl⟩
  · exact ⟨.same rfl rfl rfl, rfl, rfl, rfl, rfl⟩
  · exact ⟨.same rfl rfl rfl, rfl, rfl, rfl, rfl⟩
  · exact .refl w

theorem showEmails_quiet (spec : MailboxViewSpec) (generation : Nat) (view : MailboxView)
    (result : Except LocalReadError (List (LocalEntityRead Email))) : w.Quiet (w.showEmails spec generation view result).2 := by
  unfold showEmails
  split
  · exact .refl w
  split
  · exact ⟨.same rfl rfl rfl, rfl, rfl, rfl, rfl⟩
  · dsimp only
    split
    · exact ⟨.cleared rfl rfl, rfl, rfl, rfl, rfl⟩
    · exact ⟨.same rfl rfl rfl, rfl, rfl, rfl, rfl⟩

theorem showBody_quiet (emailId : ScopedEmailId) (generation : Nat) (result : Except LocalReadError (OwnedCacheRead EmailBody)) :
    w.Quiet (w.showBody emailId generation result).2 := by
  unfold showBody
  split
  · exact .refl w
  rcases result with e | _ | _ | body
  all_goals exact ⟨.setEmailBody _ _ _, rfl, rfl, rfl, rfl⟩

/-- A plain request leaves the attempts alone. -/
theorem answer_quiet {c : ControllerCall} (hc : c.Plain) {r : ControllerReply c} {w' : MailController}
    (ha : w.answer js c = some (r, w')) : w.Quiet w' := by
  have hw : ∀ {x : ControllerReply c × MailController}, w.answer js c = some x → x.2 = w' := by
    intro x hx
    rw [Option.some.inj (hx.symm.trans ha)]
  cases c with
  | isSubscribed | demandSelectedBody => exact hw rfl ▸ .refl w
  | setSubscription | setLocal | beginAccounts | beginMailboxes | beginFlush =>
    exact hw rfl ▸ ⟨.refl _, rfl, rfl, rfl, rfl⟩
  | setLoadState loadState error => exact hw rfl ▸ ⟨.same rfl rfl rfl, rfl, rfl, rfl, rfl⟩
  | selectAccount accountKey =>
    refine hw rfl ▸ ?_
    unfold selectAccount
    split
    · exact .refl w
    · exact ⟨.cleared rfl rfl, rfl, rfl, rfl, rfl⟩
  | selectMailbox mailboxId =>
    refine hw rfl ▸ ?_
    unfold selectMailbox
    split
    · exact .refl w
    · exact ⟨.cleared rfl rfl, rfl, rfl, rfl, rfl⟩
  | selectEmail emailId =>
    refine hw rfl ▸ ?_
    unfold selectEmail
    split
    · exact .refl w
    · exact ⟨.cleared rfl rfl, rfl, rfl, rfl, rfl⟩
  | showAccounts generation result => exact hw rfl ▸ showAccounts_quiet generation result
  | showMailboxes accountKey generation result => exact hw rfl ▸ showMailboxes_quiet accountKey generation result
  | beginWindow =>
    refine hw rfl ▸ ?_
    unfold beginWindow
    dsimp only
    split
    · exact ⟨.refl _, rfl, rfl, rfl, rfl⟩
    · exact ⟨.same rfl rfl rfl, rfl, rfl, rfl, rfl⟩
  | showView mailboxId generation result => exact hw rfl ▸ showView_quiet mailboxId generation result
  | showEmails spec generation view result => exact hw rfl ▸ showEmails_quiet spec generation view result
  | beginBody =>
    refine hw rfl ▸ ?_
    unfold beginBody
    dsimp only
    split
    · exact ⟨.setEmailBody _ _ _, rfl, rfl, rfl, rfl⟩
    · exact ⟨.setEmailBody _ _ _, rfl, rfl, rfl, rfl⟩
  | showBody emailId generation result => exact hw rfl ▸ showBody_quiet emailId generation result
  | beginMaterialize | materialized | finishMaterialize | failMaterialize | endMaterialize | beginRefresh | finishRefresh | endRefresh
  | dispose => cases hc
  | subscribe | listAccounts | listMailboxes | readMailboxView | readEmails | readEmailBody | materialize | remoteRefresh
  | refreshMutationStatuses => cases ha

/-! ### Materialisations -/

/-- Only the body shown changes, and a sign of work that stays is as before. -/
structure BodyOnly (w w' : MailController) : Prop where
  disposed : w'.disposed = w.disposed
  attempts : w'.bodyMaterializationAttempts = w.bodyMaterializationAttempts
  number : w'.bodyAttempts = w.bodyAttempts
  active : w'.activeRefreshAttempt = w.activeRefreshAttempt
  generation : w'.refreshGeneration = w.refreshGeneration
  activity : w'.mail.refreshActivity = w.mail.refreshActivity
  selected : w'.mail.selectedEmailId = w.mail.selectedEmailId

theorem BodyOnly.refl (w : MailController) : w.BodyOnly w := ⟨rfl, rfl, rfl, rfl, rfl, rfl, rfl⟩

/-- A result reported for the selected email takes the sign of work away. -/
theorem finishBodyMaterialization_spec (w : MailController) (emailId : ScopedEmailId) (result : BodyLoadResult) :
    w.BodyOnly (w.finishBodyMaterialization emailId result).2 ∧
    ((w.finishBodyMaterialization emailId result).2.mail.bodyMaterializing = true → w.mail.bodyMaterializing = true ∧
      (w.disposed = false → w.mail.selectedEmailId ≠ some emailId)) := by
  unfold finishBodyMaterialization
  split
  · rename_i hskip
    refine ⟨.refl w, fun hm => ⟨hm, fun hd hs => ?_⟩⟩
    simp [isSelectedEmail, hs, hd] at hskip
  · rcases result with kind | _
    · cases kind
      all_goals exact ⟨⟨rfl, rfl, rfl, rfl, rfl, rfl, rfl⟩, by rintro ⟨⟩⟩
    · exact ⟨⟨rfl, rfl, rfl, rfl, rfl, rfl, rfl⟩, by rintro ⟨⟩⟩

theorem failMaterialize_spec (w : MailController) (emailId : ScopedEmailId) (kind : BodyMaterializationErrorKind) :
    w.BodyOnly (w.failMaterialize emailId kind).2 ∧
    ((w.failMaterialize emailId kind).2.mail.bodyMaterializing = true → w.mail.bodyMaterializing = true ∧
      (w.disposed = false → w.mail.selectedEmailId ≠ some emailId)) := by
  unfold failMaterialize
  split
  · rename_i hd
    exact ⟨.refl w, fun hm => ⟨hm, fun hd' => by rw [hd] at hd'; cases hd'⟩⟩
  · exact finishBodyMaterialization_spec w emailId _

/-- An attempt under way is joined; else one begins, which shows that it is under way or has reported already. -/
theorem beginMaterialize_cases (w : MailController) (emailId : ScopedEmailId) :
    w.beginMaterialize emailId = (none, w) ∨
    ∃ w₁ result, w.BodyOnly w₁ ∧
      (w₁.mail.bodyMaterializing = true → result = none ∧ w.mail.selectedEmailId = some emailId ∨ w.mail.bodyMaterializing = true) ∧
      w.beginMaterialize emailId = (some (⟨w.bodyAttempts, emailId⟩, result),
        { w₁ with
          bodyMaterializationAttempts := w₁.bodyMaterializationAttempts.set (bodyKey emailId) ⟨w.bodyAttempts, emailId⟩
          bodyAttempts := w₁.bodyAttempts + 1 }) := by
  unfold beginMaterialize
  split
  · exact .inl rfl
  right
  dsimp only
  split
  · by_cases hs : w.isSelectedEmail emailId
    · rw [if_pos hs]
      exact ⟨w.onMail fun m => { m with bodyError := none, bodyMaterializing := true }, none, ⟨rfl, rfl, rfl, rfl, rfl, rfl, rfl⟩,
        fun _ => .inl ⟨rfl, by simpa [isSelectedEmail] using hs⟩, rfl⟩
    · rw [if_neg hs]
      exact ⟨w, none, .refl w, .inr, rfl⟩
  · obtain ⟨hb, hm⟩ := finishBodyMaterialization_spec w emailId (.error .unexpected)
    exact ⟨_, _, hb, fun h => .inr (hm h).1, rfl⟩

section

variable {w' : MailController} {β : Nat → Option (BodyAttempt × Bool)} {t : Nat}

/-- A call's attempt is not that of another call. -/
theorem ne_of_held {α : Type} {β : Nat → Option α} {t u : Nat} {a : α} {x : Option α} (hu : β u = some a) (ht : β t = x) (hx : x ≠ some a) :
    u ≠ t := by
  rintro rfl
  exact hx (ht.symm.trans hu)

/-- What is held after an update has just been put there, or was held before. -/
theorem held_of_update {α : Type} {β : Nat → Option α} {t u : Nat} {x : Option α} {a : α} (hu : Function.update β t x u = some a) :
    u = t ∧ x = some a ∨ u ≠ t ∧ β u = some a := by
  by_cases hut : u = t
  · rw [hut, Function.update_self] at hu
    exact .inl ⟨hut, hu⟩
  · rw [Function.update_of_ne hut] at hu
    exact .inr ⟨hut, hu⟩

theorem BodyAttended.begin (h : w.BodyAttended β) (ht : β t = none) (emailId : ScopedEmailId) :
    (w.beginMaterialize emailId).2.BodyAttended
      (Function.update β t ((w.beginMaterialize emailId).1.map fun begun => (begun.1, begun.2.isSome))) := by
  rcases w.beginMaterialize_cases emailId with hb | ⟨w₁, result, hw, hm, hb⟩
  · rw [hb, Option.map_none, ← ht, Function.update_eq_self]
    exact h
  have hkept {u : Nat} {a : BodyAttempt} {reported : Bool} (hu : β u = some (a, reported)) (x : Option (BodyAttempt × Bool)) :
      Function.update β t x u = some (a, reported) := by
    rw [Function.update_of_ne (ne_of_held hu ht (by rintro ⟨⟩))]
    exact hu
  rw [hb]
  refine ⟨fun key a hget => ?_, fun hd hshown => ?_⟩
  · simp only [OrderedMap.get?_set] at hget
    split at hget
    · rename_i hkey
      cases hget
      exact ⟨hkey, t, _, Function.update_self ..⟩
    · rw [hw.attempts] at hget
      obtain ⟨hkey, u, reported, hu⟩ := h.attempts key a hget
      exact ⟨hkey, u, reported, hkept hu _⟩
  · simp only [hw.selected]
    rcases hm hshown with ⟨rfl, hs⟩ | hold
    · exact ⟨t, _, Function.update_self .., hs⟩
    · obtain ⟨u, a, hu, hs⟩ := h.materializing (hw.disposed ▸ hd) hold
      exact ⟨u, a, hkept hu _, hs⟩

/-- The attempt reports. -/
theorem BodyAttended.report (h : w.BodyAttended β) {attempt : BodyAttempt} (ht : β t = some (attempt, false)) (hw : w.BodyOnly w')
    (hm : w'.mail.bodyMaterializing = true → w.mail.bodyMaterializing = true ∧ (w.disposed = false → w.mail.selectedEmailId ≠ some attempt.emailId)) :
    w'.BodyAttended (Function.update β t (some (attempt, true))) where
  attempts key a hget := by
    rw [hw.attempts] at hget
    obtain ⟨hkey, u, reported, hu⟩ := h.attempts key a hget
    by_cases hut : u = t
    · subst hut
      rw [ht] at hu
      cases hu
      exact ⟨hkey, u, true, Function.update_self ..⟩
    · exact ⟨hkey, u, reported, by rwa [Function.update_of_ne hut]⟩
  materializing hd hshown := by
    rw [hw.disposed] at hd
    rw [hw.selected]
    obtain ⟨hold, hother⟩ := hm hshown
    obtain ⟨u, a, hu, hs⟩ := h.materializing hd hold
    refine ⟨u, a, ?_, hs⟩
    rw [Function.update_of_ne (ne_of_held hu ht ?_)]
    · exact hu
    · rintro ⟨⟩
      exact hother hd hs

/-- The attempt's `finally`. -/
theorem BodyAttended.finish (h : w.BodyAttended β) {attempt : BodyAttempt} (ht : β t = some (attempt, true)) :
    (w.endMaterialize attempt).BodyAttended (Function.update β t none) := by
  have hkept {u : Nat} {a : BodyAttempt} {reported : Bool} (hu : β u = some (a, reported)) (hne : (attempt, true) ≠ (a, reported)) :
      Function.update β t none u = some (a, reported) := by
    rw [Function.update_of_ne (ne_of_held hu ht (by simpa using hne))]
    exact hu
  have hshown (hd : w.disposed = false) (hm : w.mail.bodyMaterializing = true) :
      ∃ u a, Function.update β t none u = some (a, false) ∧ w.mail.selectedEmailId = some a.emailId := by
    obtain ⟨u, a, hu, hs⟩ := h.materializing hd hm
    exact ⟨u, a, hkept hu (by simp), hs⟩
  unfold endMaterialize
  split
  · refine ⟨fun key a hget => ?_, hshown⟩
    simp only [OrderedMap.get?_delete] at hget
    split at hget
    · cases hget
    · rename_i hkey
      obtain ⟨hka, u, reported, hu⟩ := h.attempts key a hget
      refine ⟨hka, u, reported, hkept hu ?_⟩
      rintro ⟨⟩
      exact hkey hka
  · rename_i hget'
    refine ⟨fun key a hget => ?_, hshown⟩
    obtain ⟨hka, u, reported, hu⟩ := h.attempts key a hget
    refine ⟨hka, u, reported, hkept hu ?_⟩
    rintro ⟨⟩
    exact hget' (hka ▸ hget)

end

/-! ### Refreshes -/

section

variable {w' : MailController} {ρ : Nat → Option (RefreshAttempt × Bool)} {t : Nat}

/-- A refresh is joined or refused, or it begins where none is under way. -/
theorem RefreshAttended.begin (h : w.RefreshAttended ρ) (ht : ρ t = none) (accountKey : AccountKey) :
    (w.beginRefresh accountKey).2.RefreshAttended
      (Function.update ρ t (((Duty.none).next (.beginRefresh accountKey) (w.beginRefresh accountKey).1).refresh?)) := by
  have hsame : Function.update ρ t none = ρ := by rw [← ht, Function.update_eq_self]
  unfold beginRefresh
  split
  · split
    · change w.RefreshAttended (Function.update ρ t none)
      rw [hsame]
      exact h
    · change MailController.RefreshAttended _ (Function.update ρ t none)
      rw [hsame]
      refine ⟨h.active, h.generation, h.unique, h.current, fun hd k activity hget hphase => ?_⟩
      replace hget : (w.mail.refreshActivity.set accountKey _).get? k = some activity := hget
      rw [OrderedMap.get?_set] at hget
      split at hget
      · cases hget
        cases hphase
      · exact h.refreshing hd k activity hget hphase
  · rename_i hfree
    have hreported {u : Nat} {a : RefreshAttempt} {reported : Bool} (hu : ρ u = some (a, reported)) :
        u ≠ t ∧ a.generation ≠ w.refreshGeneration + 1 :=
      ⟨ne_of_held hu ht (by rintro ⟨⟩), by have := h.generation u a reported hu; omega⟩
    refine ⟨?_, ?_, ?_, ?_, ?_⟩
    · rintro a ⟨⟩
      exact ⟨t, false, Function.update_self ..⟩
    · intro u a reported hu
      rcases held_of_update hu with ⟨-, heq⟩ | ⟨-, hu⟩
      · cases heq
        exact le_rfl
      · exact (h.generation u a reported hu).trans (Nat.le_succ _)
    · intro u u' a reported reported' hu hu'
      -- the new attempt's generation is above all others
      rcases held_of_update hu with ⟨rfl, heq⟩ | ⟨-, hu⟩
      · cases heq
        rcases held_of_update hu' with ⟨hut', -⟩ | ⟨-, hu'⟩
        · exact hut'.symm
        · exact absurd rfl (hreported hu').2
      · rcases held_of_update hu' with ⟨-, heq⟩ | ⟨-, hu'⟩
        · cases heq
          exact absurd rfl (hreported hu).2
        · exact h.unique u u' a reported reported' hu hu'
    · intro hd u a hu
      rcases held_of_update hu with ⟨-, heq⟩ | ⟨-, hu⟩
      · cases heq
        exact ⟨rfl, rfl⟩
      · rw [(h.current hd u a hu).1] at hfree
        cases hfree
    · intro hd k activity hget hphase
      replace hget : (w.mail.refreshActivity.set accountKey _).get? k = some activity := hget
      rw [OrderedMap.get?_set] at hget
      split at hget
      · rename_i hk
        exact ⟨t, _, Function.update_self .., hk.symm⟩
      · obtain ⟨u, a, hu, hkey⟩ := h.refreshing hd k activity hget hphase
        exact ⟨u, a, by rwa [Function.update_of_ne (hreported hu).1], hkey⟩

/-- The attempt reports. -/
theorem RefreshAttended.report (h : w.RefreshAttended ρ) {attempt : RefreshAttempt} (ht : ρ t = some (attempt, false))
    (result : Except RemoteRefreshErrorKind Unit) :
    (w.finishRefresh attempt result).2.RefreshAttended (Function.update ρ t (some (attempt, true))) := by
  -- Of the attempts only this one is changed, and it is no longer one that has not reported.
  have hbefore {u : Nat} {a : RefreshAttempt} {reported : Bool} (hu : Function.update ρ t (some (attempt, true)) u = some (a, reported)) :
      ∃ reported', ρ u = some (a, reported') ∧ (reported = false → u ≠ t ∧ reported' = false) := by
    rcases held_of_update hu with ⟨rfl, heq⟩ | ⟨hut, hu⟩
    · cases heq
      exact ⟨false, ht, by rintro ⟨⟩⟩
    · exact ⟨reported, hu, fun hr => ⟨hut, hr⟩⟩
  have hafter {u : Nat} {a : RefreshAttempt} {reported : Bool} (hu : ρ u = some (a, reported)) :
      ∃ reported', Function.update ρ t (some (attempt, true)) u = some (a, reported') := by
    by_cases hut : u = t
    · subst hut
      rw [ht] at hu
      cases hu
      exact ⟨true, Function.update_self ..⟩
    · exact ⟨reported, by rwa [Function.update_of_ne hut]⟩
  have hactive : ∀ a, w.activeRefreshAttempt = some a → ∃ u reported, Function.update ρ t (some (attempt, true)) u = some (a, reported) := by
    intro a ha
    obtain ⟨u, reported, hu⟩ := h.active a ha
    exact ⟨u, hafter hu⟩
  have hgeneration : ∀ u a reported, Function.update ρ t (some (attempt, true)) u = some (a, reported) → a.generation ≤ w.refreshGeneration := by
    intro u a reported hu
    obtain ⟨reported', hu, -⟩ := hbefore hu
    exact h.generation u a reported' hu
  have hunique : ∀ u u' a reported reported', Function.update ρ t (some (attempt, true)) u = some (a, reported) →
      Function.update ρ t (some (attempt, true)) u' = some (a, reported') → u = u' := by
    intro u u' a reported reported' hu hu'
    obtain ⟨_, hu, -⟩ := hbefore hu
    obtain ⟨_, hu', -⟩ := hbefore hu'
    exact h.unique u u' a _ _ hu hu'
  have hcurrent : w.disposed = false → ∀ u a, Function.update ρ t (some (attempt, true)) u = some (a, false) →
      w.activeRefreshAttempt = some a ∧ a.generation = w.refreshGeneration := by
    intro hd u a hu
    obtain ⟨_, hu, hfalse⟩ := hbefore hu
    obtain ⟨-, rfl⟩ := hfalse rfl
    exact h.current hd u a hu
  unfold finishRefresh
  split
  · refine ⟨hactive, hgeneration, hunique, hcurrent, fun hd k activity hget hphase => ?_⟩
    replace hget : (w.mail.refreshActivity.set attempt.accountKey _).get? k = some activity := hget
    rw [OrderedMap.get?_set] at hget
    split at hget
    · cases hget
      cases result
      · cases hphase
      · cases hphase
    · rename_i hk
      obtain ⟨u, a, hu, rfl⟩ := h.refreshing hd k activity hget hphase
      refine ⟨u, a, ?_, rfl⟩
      rw [Function.update_of_ne (ne_of_held hu ht ?_)]
      · exact hu
      · rintro ⟨⟩
        exact hk rfl
  · rename_i hstale
    have hd : w.disposed = true := by
      cases hd : w.disposed with
      | true => rfl
      | false => exact absurd (by simp [isCurrentRefresh, hd, (h.current hd t attempt ht).2]) hstale
    exact ⟨hactive, hgeneration, hunique, hcurrent, fun hd' => by rw [hd] at hd'; cases hd'⟩

/-- The attempt's `finally`. -/
theorem RefreshAttended.finish (h : w.RefreshAttended ρ) {attempt : RefreshAttempt} (ht : ρ t = some (attempt, true)) :
    (w.endRefresh attempt).RefreshAttended (Function.update ρ t none) := by
  have hbefore {u : Nat} {a : RefreshAttempt} {reported : Bool} (hu : Function.update ρ t none u = some (a, reported)) :
      u ≠ t ∧ ρ u = some (a, reported) := by
    rcases held_of_update hu with ⟨-, heq⟩ | hold
    · cases heq
    · exact hold
  have hafter {u : Nat} {a : RefreshAttempt} {reported : Bool} (hu : ρ u = some (a, reported)) (hne : (attempt, true) ≠ (a, reported)) :
      Function.update ρ t none u = some (a, reported) := by
    rw [Function.update_of_ne (ne_of_held hu ht (by simpa using hne))]
    exact hu
  have hgeneration : ∀ u a reported, Function.update ρ t none u = some (a, reported) → a.generation ≤ w.refreshGeneration :=
    fun u a reported hu => h.generation u a reported (hbefore hu).2
  have hunique : ∀ u u' a reported reported', Function.update ρ t none u = some (a, reported) →
      Function.update ρ t none u' = some (a, reported') → u = u' :=
    fun u u' a _ _ hu hu' => h.unique u u' a _ _ (hbefore hu).2 (hbefore hu').2
  have hrefreshing : w.disposed = false → ∀ k activity, w.mail.refreshActivity.get? k = some activity →
      activity.phase = .refreshing → ∃ u a, Function.update ρ t none u = some (a, false) ∧ a.accountKey = k := by
    intro hd k activity hget hphase
    obtain ⟨u, a, hu, hk⟩ := h.refreshing hd k activity hget hphase
    exact ⟨u, a, hafter hu (by simp), hk⟩
  unfold endRefresh
  split
  · rename_i hactive
    refine ⟨by rintro a ⟨⟩, hgeneration, hunique, fun hd u a hu => ?_, hrefreshing⟩
    obtain ⟨hut, hu⟩ := hbefore hu
    rw [(h.current hd u a hu).1] at hactive
    cases hactive
    exact absurd (h.unique u t attempt false true hu ht) hut
  · rename_i hother
    refine ⟨fun a ha => ?_, hgeneration, hunique, fun hd u a hu => h.current hd u a (hbefore hu).2, hrefreshing⟩
    obtain ⟨u, reported, hu⟩ := h.active a ha
    refine ⟨u, reported, hafter hu ?_⟩
    rintro ⟨⟩
    exact hother ha

end

end MailController

end Boxplot.App
