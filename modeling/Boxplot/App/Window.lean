import Boxplot.App.ControllerCalls
/-!
# The window follows the selection

Whatever is shown belongs to what is selected: what a stretch of the controller's
own code shows, it shows together.
-/

namespace Boxplot.App

open Domain Lib Memory Outbox Sync

/-! ## What is shown -/

/-- What is listed is of the selected account, and what is in the window is of the selected mailbox's view. -/
structure MailState.Lists (m : MailState) : Prop where
  mailboxes : ∀ mailbox ∈ m.mailboxes, m.selectedAccountKey = some mailbox.id.accountKey
  mailbox : ∀ id, m.selectedMailboxId = some id → ∃ mailbox ∈ m.mailboxes, mailbox.id = id
  view : ∀ view, m.mailboxView = some view → m.selectedMailboxId = some view.spec.mailboxId ∧ OwnItems view
  emails : m.emails = [] ∨ ∃ view, m.mailboxView = some view ∧ m.emails.map (·.id) = view.items.map (·.emailId)

/-- The selected email is one of those shown, and the body is its body. -/
structure MailState.Coherent (m : MailState) : Prop extends m.Lists where
  email : ∀ id, m.selectedEmailId = some id → m.selectedAccountKey = some id.accountKey ∧ (m.emails = [] ∨ id ∈ m.emails.map (·.id))
  body : ∀ body, m.emailBody = some body → m.selectedEmailId = some body.emailId
  cached : m.emailBody.isSome ↔ m.bodyLoadState = .cached

namespace MailState

variable {m : MailState}

/-- The account of the selected mailbox is the selected one. -/
theorem Lists.account (h : m.Lists) {id : ScopedMailboxId} (hid : m.selectedMailboxId = some id) :
    m.selectedAccountKey = some id.accountKey := by
  obtain ⟨mailbox, hmem, rfl⟩ := h.mailbox id hid
  exact h.mailboxes mailbox hmem

/-- The emails shown are of the selected account. -/
theorem Lists.shown (h : m.Lists) {id : ScopedEmailId} (hmem : id ∈ m.emails.map (·.id)) : m.selectedAccountKey = some id.accountKey := by
  rcases h.emails with hnil | ⟨view, hview, hids⟩
  · rw [hnil] at hmem
    cases hmem
  · rw [hids] at hmem
    obtain ⟨item, hitem, rfl⟩ := List.mem_map.1 hmem
    rw [h.account (h.view view hview).1, (h.view view hview).2 item hitem]

/-- A view of the selected mailbox with its emails comes into the window. -/
theorem Lists.present (h : m.Lists) {view : MailboxView} (hview : m.selectedMailboxId = some view.spec.mailboxId) (hitems : OwnItems view)
    {emails : List Email} (hids : emails.map (·.id) = view.items.map (·.emailId)) :
    { m with mailboxView := some view, emails := emails }.Lists where
  mailboxes := h.mailboxes
  mailbox := h.mailbox
  view := by
    rintro v ⟨⟩
    exact ⟨hview, hitems⟩
  emails := .inr ⟨view, rfl, hids⟩

/-- One of the emails shown is selected, or none. -/
theorem Lists.selectEmail (h : m.Lists) {emailId : Option ScopedEmailId} (hid : ∀ id, emailId = some id → id ∈ m.emails.map (·.id)) :
    (m.selectEmail emailId).Coherent where
  toLists := { h with }
  email id he := ⟨h.shown (hid id he), .inr (hid id he)⟩
  body := by rintro body ⟨⟩
  cached := by cases emailId <;> simp [MailState.selectEmail]

namespace Coherent

theorem initial : MailState.initial.Coherent where
  mailboxes := by rintro mailbox ⟨⟩
  mailbox := by rintro id ⟨⟩
  view := by rintro view ⟨⟩
  emails := .inl rfl
  email := by rintro id ⟨⟩
  body := by rintro body ⟨⟩
  cached := by decide

theorem setLoadState (h : m.Coherent) (loadState : MailLoadState) (error : Option String) : (m.setLoadState loadState error).Coherent :=
  { h with }

theorem setBodyMaterializing (h : m.Coherent) (value : Bool) : { m with bodyMaterializing := value }.Coherent := { h with }

theorem setBodyError (h : m.Coherent) (error : Option String) : { m with bodyError := error }.Coherent := { h with }

theorem setRefreshActivity (h : m.Coherent) (accountKey : AccountKey) (activity : RefreshActivity) :
    (m.setRefreshActivity accountKey activity).Coherent :=
  { h with }

theorem selectAccount (m : MailState) (accountKey : Option AccountKey) : (m.selectAccount accountKey).Coherent where
  mailboxes := by rintro mailbox ⟨⟩
  mailbox := by rintro id ⟨⟩
  view := by rintro view ⟨⟩
  emails := .inl rfl
  email := by rintro id ⟨⟩
  body := by rintro body ⟨⟩
  cached := by simp [MailState.selectAccount]

/-- One of the selected account's mailboxes is selected, or none. -/
theorem selectMailbox (hm : ∀ mailbox ∈ m.mailboxes, m.selectedAccountKey = some mailbox.id.accountKey) {mailboxId : Option ScopedMailboxId}
    (hid : ∀ id, mailboxId = some id → ∃ mailbox ∈ m.mailboxes, mailbox.id = id) : (m.selectMailbox mailboxId).Coherent where
  mailboxes := hm
  mailbox := hid
  view := by rintro view ⟨⟩
  emails := .inl rfl
  email := by rintro id ⟨⟩
  body := by rintro body ⟨⟩
  cached := by simp [MailState.selectMailbox]

theorem setEmailBody (h : m.Coherent) {body : Option EmailBody} {state : BodyLoadState}
    (hbody : ∀ b, body = some b → m.selectedEmailId = some b.emailId) (hs : body.isSome ↔ state = .cached) :
    (m.setEmailBody body state).Coherent :=
  { h with body := hbody, cached := hs }

theorem clearBody (h : m.Coherent) {state : BodyLoadState} (hs : state ≠ .cached) : (m.setEmailBody none state).Coherent :=
  h.setEmailBody (by rintro b ⟨⟩) (by simp [hs])

/-- The window is emptied. -/
theorem noEmails (h : m.Coherent) {view : Option MailboxView}
    (hview : ∀ v, view = some v → m.selectedMailboxId = some v.spec.mailboxId ∧ OwnItems v) :
    { m with mailboxView := view, emails := [] }.Coherent :=
  { h with
    view := hview
    emails := .inl rfl
    email := fun id hid => ⟨(h.email id hid).1, .inl rfl⟩ }

/-- The emails of a view come into the window, and the selected one is among them. -/
theorem present (h : m.Coherent) {view : MailboxView} (hview : m.selectedMailboxId = some view.spec.mailboxId) (hitems : OwnItems view)
    {emails : List Email} (hids : emails.map (·.id) = view.items.map (·.emailId))
    (hselected : ∀ id, m.selectedEmailId = some id → id ∈ emails.map (·.id)) :
    { m with mailboxView := some view, emails := emails }.Coherent where
  toLists := h.toLists.present hview hitems hids
  email id hid := ⟨(h.email id hid).1, .inr (hselected id hid)⟩
  body := h.body
  cached := h.cached

end Coherent

end MailState

/-! ## What a stretch of code shows -/

/-- What a request is about belongs together. -/
def ControllerCall.Sound : ControllerCall → Prop
  | .showMailboxes accountKey _ r => ∀ value, r = .ok (.present value) → ∀ mailbox ∈ value, mailbox.id.accountKey = accountKey
  | .showView _ _ r => ∀ view, r = .ok (.cached view) → OwnItems view
  | .showEmails _ _ view r => OwnItems view ∧ ∀ value, r = .ok value → ReadsOf (view.items.map (·.emailId)) value
  | .showBody emailId _ r => ∀ body, r = .ok (.cached body) → body.emailId = emailId
  | _ => True

namespace MailController

variable {js : Collation} {w : MailController}

theorem presentEmails_ids {ids : List ScopedEmailId} {reads : List (LocalEntityRead Email)} (h : ReadsOf ids reads) {emails : List Email}
    (he : presentEmails reads = some emails) : emails.map (·.id) = ids := by
  induction h generalizing emails with
  | nil =>
    cases he
    rfl
  | @cons id read ids reads hread _ ih =>
    cases read with
    | absent => cases he
    | present email =>
      obtain ⟨rest, hrest, rfl⟩ := Option.map_eq_some_iff.1 he
      rw [List.map_cons, ih hrest, hread email rfl]

theorem showAccounts_coherent (h : w.mail.Coherent) (generation : Nat) (result : Except LocalReadError (List Account)) :
    (w.showAccounts js generation result).2.mail.Coherent := by
  unfold showAccounts
  split
  · exact h
  cases result with
  | error e => exact h
  | ok value =>
    dsimp only
    split
    · exact (MailState.Coherent.selectAccount _ _).setLoadState _ _
    · split
      · exact { h with }
      · exact MailState.Coherent.selectAccount _ _

theorem stillOr_mem {α : Type} [DecidableEq α] {listed : List α} {selected first : Option α} (hf : ∀ a, first = some a → a ∈ listed) {a : α}
    (h : stillOr listed selected first = some a) : a ∈ listed := by
  unfold stillOr at h
  split at h
  · rename_i hany
    simpa [h] using hany
  · exact hf a h

/-- What is kept is listed. -/
theorem stillOr_self {α : Type} [DecidableEq α] {listed : List α} {selected first : Option α} (hf : ∀ a, first = some a → a ∈ listed)
    (h : stillOr listed selected first = selected) {a : α} (ha : selected = some a) : a ∈ listed :=
  stillOr_mem hf (h.trans ha)

theorem inbox_listed {mailboxes : List Mailbox} {id : ScopedMailboxId}
    (h : ((mailboxes.find? (·.role = some "inbox")).or mailboxes.head?).map (·.id) = some id) : id ∈ mailboxes.map (·.id) := by
  obtain ⟨mailbox, hm, rfl⟩ := Option.map_eq_some_iff.1 h
  refine List.mem_map_of_mem ?_
  rcases Option.or_eq_some_iff.1 hm with hfound | ⟨-, hhead⟩
  · exact List.mem_of_find?_eq_some hfound
  · exact List.mem_of_head? hhead

theorem showMailboxes_coherent (h : w.mail.Coherent) {accountKey : AccountKey} (generation : Nat)
    {result : Except LocalReadError (OwnedSnapshotRead (List Mailbox))}
    (hr : ∀ value, result = .ok (.present value) → ∀ mailbox ∈ value, mailbox.id.accountKey = accountKey) :
    (w.showMailboxes js accountKey generation result).2.mail.Coherent := by
  unfold showMailboxes
  split
  · exact h
  rename_i hcurrent
  have haccount : w.mail.selectedAccountKey = some accountKey := by simpa using (not_or.1 hcurrent).2
  cases result with
  | error e => exact h
  | ok read =>
    cases read with
    | ownerAbsent =>
      refine (MailState.Coherent.selectMailbox ?_ ?_).setLoadState _ _
      · rintro mailbox ⟨⟩
      · rintro id ⟨⟩
    | present value =>
      have howned : ∀ mailbox ∈ sortMailboxes js value, w.mail.selectedAccountKey = some mailbox.id.accountKey := by
        intro mailbox hmem
        rw [haccount, hr value rfl mailbox ((List.mem_insertionSort _).1 hmem)]
      dsimp only
      split
      · exact (MailState.Coherent.selectMailbox howned (by rintro id ⟨⟩)).setLoadState _ _
      · rename_i id hid
        have hlisted : ∃ mailbox ∈ sortMailboxes js value, mailbox.id = id :=
          List.mem_map.1 (stillOr_mem (fun _ => inbox_listed) hid)
        split
        · rename_i hsame
          exact { h with
            mailboxes := howned
            mailbox := fun id' hid' => by
              obtain rfl : id = id' := Option.some.inj (hsame.symm.trans hid')
              exact hlisted }
        · exact MailState.Coherent.selectMailbox howned (by rintro id' ⟨⟩; exact hlisted)

theorem showView_coherent (h : w.mail.Coherent) (mailboxId : ScopedMailboxId) (generation : Nat)
    (result : Except LocalReadError (OwnedCacheRead MailboxView)) : (w.showView mailboxId generation result).2.mail.Coherent := by
  have hnone : { w.mail with mailboxView := none, emails := [] }.Coherent := h.noEmails (by rintro v ⟨⟩)
  unfold showView
  split
  · exact h
  rcases result with e | _ | _ | view
  · exact h.setLoadState _ _
  · exact hnone.setLoadState _ _
  · exact hnone.setLoadState _ _
  · exact h

theorem showEmails_coherent (h : w.mail.Coherent) {spec : MailboxViewSpec} (generation : Nat) {view : MailboxView}
    {result : Except LocalReadError (List (LocalEntityRead Email))} (hitems : OwnItems view)
    (hr : ∀ value, result = .ok value → ReadsOf (view.items.map (·.emailId)) value) :
    (w.showEmails spec generation view result).2.mail.Coherent := by
  unfold showEmails
  split
  · exact h
  rename_i hcurrent
  obtain ⟨-, hspec, hmailbox⟩ : _ ∧ spec = view.spec ∧ w.mail.selectedMailboxId = some spec.mailboxId := by
    simpa [not_or] using hcurrent
  rw [hspec] at hmailbox
  split
  · exact (h.noEmails (by rintro v ⟨⟩; exact ⟨hmailbox, hitems⟩)).setLoadState _ _
  · rename_i emails hemails
    have hids : emails.map (·.id) = view.items.map (·.emailId) := by
      cases result with
      | error e => cases hemails
      | ok value => exact presentEmails_ids (hr value rfl) hemails
    have hhead : ∀ id, emails.head?.map (·.id) = some id → id ∈ emails.map (·.id) := by
      intro id hid
      obtain ⟨email, hemail, rfl⟩ := Option.map_eq_some_iff.1 hid
      exact List.mem_map_of_mem (List.mem_of_head? hemail)
    dsimp only
    split
    · exact ((h.toLists.present hmailbox hitems hids).selectEmail fun id hid => stillOr_mem hhead hid).setLoadState _ _
    · rename_i hsame
      have hkept : stillOr (emails.map (·.id)) w.mail.selectedEmailId (emails.head?.map (·.id)) = w.mail.selectedEmailId := by
        simp only [Bool.or_eq_true, not_or, decide_eq_true_eq, not_not] at hsame
        exact hsame.2.symm
      exact (h.present hmailbox hitems hids fun id hid => stillOr_self hhead hkept hid).setLoadState _ _

theorem showBody_coherent (h : w.mail.Coherent) {emailId : ScopedEmailId} (generation : Nat)
    {result : Except LocalReadError (OwnedCacheRead EmailBody)} (hr : ∀ body, result = .ok (.cached body) → body.emailId = emailId) :
    (w.showBody emailId generation result).2.mail.Coherent := by
  unfold showBody
  split
  · exact h
  rename_i hcurrent
  have hselected : w.mail.selectedEmailId = some emailId := by simpa using (not_or.1 hcurrent).2
  rcases result with e | _ | _ | body
  · exact h.clearBody (by decide)
  · exact h.clearBody (by decide)
  · exact h.clearBody (by decide)
  · refine h.setEmailBody ?_ (by simp)
    rintro b ⟨⟩
    rw [hr body rfl]
    exact hselected

theorem finishBodyMaterialization_coherent (h : w.mail.Coherent) (emailId : ScopedEmailId) (result : BodyLoadResult) :
    (w.finishBodyMaterialization emailId result).2.mail.Coherent := by
  unfold finishBodyMaterialization
  split
  · exact h
  rcases result with kind | _
  · cases kind
    case cancelled => exact h.setBodyMaterializing false
    all_goals exact ((h.setBodyMaterializing false).clearBody (by decide)).setBodyError _
  · exact h.setBodyMaterializing false

theorem failMaterialize_coherent (h : w.mail.Coherent) (emailId : ScopedEmailId) (kind : BodyMaterializationErrorKind) :
    (w.failMaterialize emailId kind).2.mail.Coherent := by
  unfold failMaterialize
  split
  · exact h
  · exact finishBodyMaterialization_coherent h emailId _

theorem beginMaterialize_coherent (h : w.mail.Coherent) (emailId : ScopedEmailId) : (w.beginMaterialize emailId).2.mail.Coherent := by
  unfold beginMaterialize
  split
  · exact h
  dsimp only
  split
  · dsimp only
    split
    · exact (h.setBodyError none).setBodyMaterializing true
    · exact h
  · exact finishBodyMaterialization_coherent h emailId _

theorem beginRefresh_coherent (h : w.mail.Coherent) (accountKey : AccountKey) : (w.beginRefresh accountKey).2.mail.Coherent := by
  unfold beginRefresh
  split
  · split
    · exact h
    · exact h.setRefreshActivity _ _
  · exact h.setRefreshActivity _ _

theorem finishRefresh_coherent (h : w.mail.Coherent) (attempt : RefreshAttempt) (result : Except RemoteRefreshErrorKind Unit) :
    (w.finishRefresh attempt result).2.mail.Coherent := by
  unfold finishRefresh
  split
  · exact h.setRefreshActivity _ _
  · exact h

/-- The controller's own code keeps what is shown together. -/
theorem answer_coherent (h : w.mail.Coherent) {c : ControllerCall} (hl : w.Listed c) (hs : c.Sound) {r : ControllerReply c}
    {w' : MailController} (ha : w.answer js c = some (r, w')) : w'.mail.Coherent := by
  have hw : ∀ {x : ControllerReply c × MailController}, w.answer js c = some x → x.2 = w' := by
    intro x hx
    rw [Option.some.inj (hx.symm.trans ha)]
  cases c with
  | isSubscribed | demandSelectedBody => exact hw rfl ▸ h
  | setSubscription | setLocal | beginAccounts | beginMailboxes | beginFlush => exact hw rfl ▸ h
  | setLoadState loadState error => exact hw rfl ▸ h.setLoadState loadState error
  | selectAccount accountKey =>
    refine hw rfl ▸ ?_
    unfold selectAccount
    split
    · exact h
    · exact MailState.Coherent.selectAccount _ _
  | selectMailbox mailboxId =>
    refine hw rfl ▸ ?_
    unfold selectMailbox
    split
    · exact h
    · exact MailState.Coherent.selectMailbox h.mailboxes (by rintro id ⟨⟩; exact hl)
  | selectEmail emailId =>
    refine hw rfl ▸ ?_
    unfold selectEmail
    split
    · exact h
    · exact h.toLists.selectEmail (by rintro id ⟨⟩; exact List.mem_map.2 hl)
  | showAccounts generation result => exact hw rfl ▸ showAccounts_coherent h generation result
  | showMailboxes accountKey generation result => exact hw rfl ▸ showMailboxes_coherent h generation hs
  | beginWindow =>
    refine hw rfl ▸ ?_
    unfold beginWindow
    dsimp only
    split
    · exact h
    · exact h.setLoadState _ _
  | showView mailboxId generation result => exact hw rfl ▸ showView_coherent h mailboxId generation result
  | showEmails spec generation view result => exact hw rfl ▸ showEmails_coherent h generation hs.1 hs.2
  | beginBody =>
    refine hw rfl ▸ ?_
    unfold beginBody
    dsimp only
    split
    · exact h.clearBody (by decide)
    · exact h.clearBody (by decide)
  | showBody emailId generation result => exact hw rfl ▸ showBody_coherent h generation hs
  | beginMaterialize emailId => exact hw rfl ▸ beginMaterialize_coherent h emailId
  | materialized attempt =>
    refine hw rfl ▸ ?_
    unfold materialized
    split
    · exact h
    · exact h
  | finishMaterialize attempt result => exact hw rfl ▸ finishBodyMaterialization_coherent h attempt.emailId result
  | failMaterialize attempt kind => exact hw rfl ▸ failMaterialize_coherent h attempt.emailId kind
  | endMaterialize attempt =>
    refine hw rfl ▸ ?_
    unfold endMaterialize
    split
    · exact h
    · exact h
  | beginRefresh accountKey => exact hw rfl ▸ beginRefresh_coherent h accountKey
  | finishRefresh attempt result => exact hw rfl ▸ finishRefresh_coherent h attempt result
  | endRefresh attempt =>
    refine hw rfl ▸ ?_
    unfold endRefresh
    split
    · exact h
    · exact h
  | dispose => exact hw rfl ▸ { h with }
  | subscribe | listAccounts | listMailboxes | readMailboxView | readEmails | readEmailBody | materialize | remoteRefresh
  | refreshMutationStatuses => cases ha

/-- A view that is to be shown is the one that was read. -/
theorem showView_sound {mailboxId : ScopedMailboxId} {generation : Nat} {result : Except LocalReadError (OwnedCacheRead MailboxView)}
    (hr : ∀ view, result = .ok (.cached view) → OwnItems view) {view : MailboxView}
    (h : (w.showView mailboxId generation result).1 = some view) : OwnItems view := by
  unfold showView at h
  split at h
  · cases h
  rcases result with e | _ | _ | cached
  · cases h
  · cases h
  · cases h
  · cases h
    exact hr _ rfl

end MailController

end Boxplot.App
