import Boxplot.Ipc.MutationRules
/-!
# What TypeScript reads

The mutations the decoder accepts keep the rules of both sides and its own. It
builds the mutation that is on the wire, but lists each keyword and each Bcc
email once.
-/

namespace Boxplot.Ipc

open Domain Lib

/-! ## Ids -/

theorem decodeScopedEmailId_ok {v : IpcScopedEmailId} {id : ScopedEmailId} :
    decodeScopedEmailId v = .ok id ↔ v.accountKey ≠ "" ∧ v.jmapEmailId ≠ "" ∧ id = ⟨v.accountKey, v.jmapEmailId⟩ := by
  simp only [decodeScopedEmailId, except_bind_eq_ok, accountKeyFromString, jmapEmailIdFromString, opaqueIdFromString_ok, pure,
    Except.pure, Except.ok.injEq]
  constructor
  · rintro ⟨_, ⟨ha, rfl⟩, _, ⟨hid, rfl⟩, rfl⟩
    exact ⟨ha, hid, rfl⟩
  · rintro ⟨ha, hid, rfl⟩
    exact ⟨_, ⟨ha, rfl⟩, _, ⟨hid, rfl⟩, rfl⟩

theorem decodeScopedIdentityId_ok {v : IpcScopedIdentityId} {id : ScopedIdentityId} :
    decodeScopedIdentityId v = .ok id ↔ v.accountKey ≠ "" ∧ v.jmapIdentityId ≠ "" ∧ id = ⟨v.accountKey, v.jmapIdentityId⟩ := by
  simp only [decodeScopedIdentityId, except_bind_eq_ok, accountKeyFromString, jmapIdentityIdFromString, opaqueIdFromString_ok,
    pure, Except.pure, Except.ok.injEq]
  constructor
  · rintro ⟨_, ⟨ha, rfl⟩, _, ⟨hid, rfl⟩, rfl⟩
    exact ⟨ha, hid, rfl⟩
  · rintro ⟨ha, hid, rfl⟩
    exact ⟨_, ⟨ha, rfl⟩, _, ⟨hid, rfl⟩, rfl⟩

theorem decodeScopedMailboxId_ok {v : IpcScopedMailboxId} {id : ScopedMailboxId} :
    decodeScopedMailboxId v = .ok id ↔ v.accountKey ≠ "" ∧ v.jmapMailboxId ≠ "" ∧ id = ⟨v.accountKey, v.jmapMailboxId⟩ := by
  simp only [decodeScopedMailboxId, except_bind_eq_ok, accountKeyFromString, jmapMailboxIdFromString, opaqueIdFromString_ok, pure,
    Except.pure, Except.ok.injEq]
  constructor
  · rintro ⟨_, ⟨ha, rfl⟩, _, ⟨hid, rfl⟩, rfl⟩
    exact ⟨ha, hid, rfl⟩
  · rintro ⟨ha, hid, rfl⟩
    exact ⟨_, ⟨ha, rfl⟩, _, ⟨hid, rfl⟩, rfl⟩

def readMailboxId (v : IpcScopedMailboxId) : ScopedMailboxId := ⟨v.accountKey, v.jmapMailboxId⟩

theorem readMailboxId_injective : Function.Injective readMailboxId := by
  rintro ⟨a, i⟩ ⟨b, k⟩ h
  cases h
  rfl

theorem decodeScopedMailboxIds_ok {l : List IpcScopedMailboxId} {ids : List ScopedMailboxId} :
    l.mapM decodeScopedMailboxId = .ok ids ↔ (∀ v ∈ l, v.accountKey ≠ "" ∧ v.jmapMailboxId ≠ "") ∧ ids = l.map readMailboxId := by
  rw [mapM_eq_ok]
  constructor
  · intro h
    induction h with
    | nil => simp
    | cons hv _ ih =>
      obtain ⟨ha, hid, rfl⟩ := decodeScopedMailboxId_ok.1 hv
      exact ⟨List.forall_mem_cons.2 ⟨⟨ha, hid⟩, ih.1⟩, by rw [ih.2]; rfl⟩
  · rintro ⟨h, rfl⟩
    refine List.forall₂_map_right_iff.2 (List.forall₂_same.2 fun v hv => ?_)
    exact decodeScopedMailboxId_ok.2 ⟨(h v hv).1, (h v hv).2, rfl⟩

/-! ## Send intents -/

def readIntent (i : IpcSendIntent) : SendIntent :=
  { securityMode := decodeSecurityMode i.securityMode
    identityId := ⟨i.identityId.accountKey, i.identityId.jmapIdentityId⟩
    «from» := decodeAddress i.from
    replyTo := i.replyTo.map decodeAddress
    «to» := i.to.map decodeAddress
    cc := i.cc.map decodeAddress
    bcc := mergeBcc (i.bcc.map decodeAddress) none
    subject := i.subject
    body := { text := i.body.text, html := i.body.html } }

theorem length_eq_zero_mergeBcc {l : List EmailAddress} {n : Nat} : n + (mergeBcc l none).length ≠ 0 ↔ n + l.length ≠ 0 := by
  have h : (mergeBcc l none).length = 0 ↔ l.length = 0 := by
    rw [List.length_eq_zero_iff, List.length_eq_zero_iff, mergeBcc_eq_nil]
  omega

/-- The addresses of an intent that was read, its Bcc apart. -/
theorem readIntent_addresses (i : IpcSendIntent) :
    (readIntent i).from :: ((readIntent i).replyTo ++ (readIntent i).to ++ (readIntent i).cc) =
      (i.from :: (i.replyTo ++ i.to ++ i.cc)).map decodeAddress := by
  simp [readIntent]

theorem decodeSendIntent_ok {i : IpcSendIntent} {intent : SendIntent} : decodeSendIntent i = .ok intent ↔
    (i.identityId.accountKey ≠ "" ∧ AgreedIntent i.identityId.accountKey i ∧ i.from.name ≠ none) ∧ intent = readIntent i := by
  unfold decodeSendIntent
  cases hname : i.from.name with
  | none => simp [decodeAddress, emailAddress, hname]
  | some name =>
    have hfrom : decodeAddress i.from = emailAddress (some name) i.from.email := by rw [← hname]; rfl
    have hothers : ∀ intent, intent = readIntent i →
        ((∀ address ∈ intent.from :: (intent.replyTo ++ intent.to ++ intent.cc ++ intent.bcc), Usable address) ↔
          (∀ address ∈ i.from :: (i.replyTo ++ i.to ++ i.cc), Usable (decodeAddress address)) ∧
            ∀ address ∈ mergeBcc (i.bcc.map decodeAddress) none, Usable address) := by
      rintro _ rfl
      rw [← List.cons_append, List.forall_mem_append, readIntent_addresses, List.forall_mem_map]
      rfl
    have hcount : (readIntent i).to.length + (readIntent i).cc.length + (readIntent i).bcc.length ≠ 0 ↔
        i.to.length + i.cc.length + i.bcc.length ≠ 0 := by
      simp only [readIntent, length_eq_zero_mergeBcc, List.length_map]
    simp only [hfrom, emailAddress, except_bind_eq_ok, decodeScopedIdentityId_ok, identity]
    constructor
    · rintro ⟨_, ⟨ha, hid, rfl⟩, _, hsender, hintent⟩
      split at hsender <;> cases hsender
      obtain ⟨hwild, hread, hrecipient, husable⟩ := sendIntent_ok.1 hintent
      obtain rfl : intent = readIntent i := by
        rw [hread, readIntent, hfrom]
        rfl
      obtain ⟨hplain, hbcc⟩ := (hothers _ rfl).1 husable
      exact ⟨⟨ha, ⟨rfl, hid, hwild, hcount.1 hrecipient, hplain, hbcc⟩, by simp⟩, rfl⟩
    · rintro ⟨⟨ha, ⟨-, hid, hwild, hrecipient, hplain, hbcc⟩, -⟩, rfl⟩
      have husable : Usable (decodeAddress i.from) := hplain i.from List.mem_cons_self
      have hemail : i.from.email ≠ "" := husable.email_ne
      refine ⟨_, ⟨ha, hid, rfl⟩, _, if_neg hemail, sendIntent_ok.2 ⟨hwild, ?_, hcount.2 hrecipient, (hothers _ rfl).2 ⟨hplain, hbcc⟩⟩⟩
      rw [readIntent, hfrom]
      rfl

/-! ## Lifecycles -/

theorem assertAttemptCount_ok {q : Rat} {pending : Bool} {u : Unit} : assertAttemptCount q pending = .ok u ↔
    ∃ n : Nat, q = n ∧ n ≤ maxSafeInteger ∧ if pending then n = 0 else n ≠ 0 := by
  simp only [assertAttemptCount, typeErrorIf_ok, isSafeInteger, not_or, Bool.not_eq_true', Bool.not_eq_false, Bool.and_eq_true,
    decide_eq_true_eq]
  constructor
  · rintro ⟨⟨hden, hsafe⟩, hphase⟩
    have hq : q = q.num := by
      conv_lhs => rw [← Rat.num_div_den q, hden]
      simp
    have hpos : 0 ≤ q.num := by
      cases pending with
      | true =>
        have hzero : q = 0 := by simpa using hphase
        simp [hzero]
      | false =>
        have hone : 1 ≤ q := by simpa using hphase
        exact Rat.num_nonneg.2 (le_trans zero_le_one hone)
    obtain ⟨n, hn⟩ := Int.eq_ofNat_of_zero_le hpos
    have hqn : q = (n : Rat) := by
      rw [hq, hn]
      simp
    refine ⟨n, hqn, by omega, ?_⟩
    rw [hqn] at hphase
    cases pending <;> simpa using hphase
  · rintro ⟨n, rfl, hn, hphase⟩
    refine ⟨⟨by simp, by simpa using hn⟩, ?_⟩
    cases pending <;> simpa using hphase

/-- The lifecycle with a count that is safe. -/
def readLifecycle {C : Type} (l : IpcLifecycle Rat C) (confirmation : Option SendConfirmation) : Lifecycle :=
  match l with
  | .pending _ => .pending 0
  | .inFlight n => .inFlight n.num.toNat
  | .retrying n nextAttemptAt => .retrying n.num.toNat nextAttemptAt
  | .confirmed n _ => .confirmed n.num.toNat confirmation
  | .failedTerminal n => .failedTerminal n.num.toNat

def SafeLifecycle {C : Type} (l : IpcLifecycle Rat C) : Prop :=
  ∃ n : Nat, l.attemptCount = n ∧ n ≤ maxSafeInteger ∧ PhaseRule l n

theorem decodeLifecycle_ok {C : Type} {confirmationOf : C → Checked (Option SendConfirmation)} {l : IpcLifecycle Rat C}
    {r : Lifecycle} : decodeLifecycle confirmationOf l = .ok r ↔
      SafeLifecycle l ∧ ∃ confirmation, (∀ c ∈ l.confirmation, confirmationOf c = .ok confirmation) ∧ r = readLifecycle l confirmation := by
  cases l with
  | pending n =>
    simp only [decodeLifecycle, except_bind_eq_ok, assertAttemptCount_ok, pure, Except.pure, Except.ok.injEq]
    constructor
    · rintro ⟨_, hcount, rfl⟩
      exact ⟨hcount, none, by simp [IpcLifecycle.confirmation], rfl⟩
    · rintro ⟨hcount, _, -, rfl⟩
      exact ⟨(), hcount, rfl⟩
  | inFlight n =>
    simp only [decodeLifecycle, except_bind_eq_ok, assertAttemptCount_ok, pure, Except.pure, Except.ok.injEq]
    constructor
    · rintro ⟨_, hcount, rfl⟩
      exact ⟨hcount, none, by simp [IpcLifecycle.confirmation], rfl⟩
    · rintro ⟨hcount, _, -, rfl⟩
      exact ⟨(), hcount, rfl⟩
  | retrying n t =>
    simp only [decodeLifecycle, except_bind_eq_ok, assertAttemptCount_ok, mutationInstantFromString, opaqueIdFromString_ok, pure,
      Except.pure, Except.ok.injEq]
    constructor
    · rintro ⟨_, ⟨k, hk, hsafe, hphase⟩, _, ⟨ht, rfl⟩, rfl⟩
      exact ⟨⟨k, hk, hsafe, hphase, ht⟩, none, by simp [IpcLifecycle.confirmation], rfl⟩
    · rintro ⟨⟨k, hk, hsafe, hphase, ht⟩, _, -, rfl⟩
      exact ⟨(), ⟨k, hk, hsafe, hphase⟩, _, ⟨ht, rfl⟩, rfl⟩
  | confirmed n c =>
    simp only [decodeLifecycle, except_bind_eq_ok, assertAttemptCount_ok, pure, Except.pure, Except.ok.injEq]
    constructor
    · rintro ⟨_, hcount, confirmation, hc, rfl⟩
      exact ⟨hcount, confirmation, by simpa [IpcLifecycle.confirmation] using hc, rfl⟩
    · rintro ⟨hcount, confirmation, hc, rfl⟩
      exact ⟨(), hcount, confirmation, hc c rfl, rfl⟩
  | failedTerminal n =>
    simp only [decodeLifecycle, except_bind_eq_ok, assertAttemptCount_ok, pure, Except.pure, Except.ok.injEq]
    constructor
    · rintro ⟨_, hcount, rfl⟩
      exact ⟨hcount, none, by simp [IpcLifecycle.confirmation], rfl⟩
    · rintro ⟨hcount, _, -, rfl⟩
      exact ⟨(), hcount, rfl⟩

theorem decodeLifecycle_ok_iff {C : Type} {confirmationOf : C → Checked (Option SendConfirmation)}
    {P : C → Prop} {g : C → Option SendConfirmation} (hconfirmation : ∀ c r, confirmationOf c = .ok r ↔ P c ∧ r = g c)
    {l : IpcLifecycle Rat C} {r : Lifecycle} : decodeLifecycle confirmationOf l = .ok r ↔
      SafeLifecycle l ∧ (∀ c ∈ l.confirmation, P c) ∧ r = readLifecycle l (l.confirmation.bind g) := by
  rw [decodeLifecycle_ok]
  constructor
  · rintro ⟨hcount, confirmation, hc, rfl⟩
    refine ⟨hcount, fun c hl => ((hconfirmation c _).1 (hc c hl)).1, ?_⟩
    cases l with
    | confirmed n c => rw [((hconfirmation c _).1 (hc c rfl)).2]; rfl
    | _ => rfl
  · rintro ⟨hcount, hP, rfl⟩
    refine ⟨hcount, l.confirmation.bind g, fun c hl => (hconfirmation c _).2 ⟨hP c hl, ?_⟩, rfl⟩
    rw [hl]
    rfl

theorem safeLifecycle_iff {C : Type} {l : IpcLifecycle Rat C} :
    SafeLifecycle l ↔ AgreedLifecycle l ∧ l.attemptCount ≤ maxSafeInteger := by
  constructor
  · rintro ⟨n, hn, hsafe, hphase⟩
    refine ⟨⟨n, hn, ?_, hphase⟩, ?_⟩
    · simp only [maxSafeInteger] at hsafe
      omega
    · rw [hn]
      exact_mod_cast hsafe
  · rintro ⟨⟨n, hn, -, hphase⟩, hsafe⟩
    rw [hn] at hsafe
    exact ⟨n, hn, by exact_mod_cast hsafe, hphase⟩

/-! ## Mutations -/

def readConfirmation (c : IpcSendConfirmation) : SendConfirmation := ⟨⟨c.emailId.accountKey, c.emailId.jmapEmailId⟩⟩

/-- The mutation that is on the wire, each keyword and each Bcc email once. -/
def readMutation (v : IpcPendingMutation Rat) : PendingMutation :=
  { mutationId := v.mutationId, accountKey := v.accountKey, createdAt := v.createdAt
    payload := match v with
      | .send _ _ _ intent _ => .send (readIntent intent)
      | .keyword _ _ _ emailId change _ =>
        .keyword ⟨emailId.accountKey, emailId.jmapEmailId⟩ ⟨change.add.foldl setAdd [], change.remove.foldl setAdd []⟩
      | .mailboxMembership _ _ _ emailId change _ =>
        .mailboxMembership ⟨emailId.accountKey, emailId.jmapEmailId⟩
          ⟨change.add.map readMailboxId, change.remove.map readMailboxId⟩
    lifecycle := match v with
      | .send _ _ _ _ lifecycle => readLifecycle lifecycle (lifecycle.confirmation.map readConfirmation)
      | .keyword _ _ _ _ _ lifecycle => readLifecycle lifecycle none
      | .mailboxMembership _ _ _ _ _ lifecycle => readLifecycle lifecycle none }

theorem decodeCommon_ok {mutationId accountKey createdAt : String} {input : MutationInput} :
    decodeCommon mutationId accountKey createdAt = .ok input ↔
      accountKey ≠ "" ∧ mutationId ≠ "" ∧ createdAt ≠ "" ∧ input = ⟨mutationId, accountKey, createdAt⟩ := by
  simp only [decodeCommon, except_bind_eq_ok, accountKeyFromString, mutationIdFromString, mutationInstantFromString,
    opaqueIdFromString_ok, pure, Except.pure, Except.ok.injEq]
  constructor
  · rintro ⟨_, ⟨ha, rfl⟩, _, ⟨hm, rfl⟩, _, ⟨hc, rfl⟩, rfl⟩
    exact ⟨ha, hm, hc, rfl⟩
  · rintro ⟨ha, hm, hc, rfl⟩
    exact ⟨_, ⟨ha, rfl⟩, _, ⟨hm, rfl⟩, _, ⟨hc, rfl⟩, rfl⟩

theorem decodeConfirmation_ok {owner : String} (c : IpcSendConfirmation) (r : Option SendConfirmation) :
    decodeConfirmation owner c = .ok r ↔
      (c.emailId.accountKey ≠ "" ∧ c.emailId.jmapEmailId ≠ "" ∧ c.emailId.accountKey = owner) ∧ r = some (readConfirmation c) := by
  simp only [decodeConfirmation, except_bind_eq_ok, decodeScopedEmailId_ok, typeErrorIf_ok, not_not, pure, Except.pure,
    Except.ok.injEq]
  constructor
  · rintro ⟨_, ⟨ha, hid, rfl⟩, _, howner, rfl⟩
    exact ⟨⟨ha, hid, howner⟩, rfl⟩
  · rintro ⟨⟨ha, hid, howner⟩, rfl⟩
    exact ⟨_, ⟨ha, hid, rfl⟩, (), howner, rfl⟩

theorem decodeUpdateLifecycle_ok {l : IpcEmailUpdateLifecycle Rat} {r : Lifecycle} :
    decodeUpdateLifecycle l = .ok r ↔ SafeLifecycle l ∧ r = readLifecycle l none := by
  have hnone : ∀ (c : Unit) (r : Option SendConfirmation), (Except.ok none : Checked (Option SendConfirmation)) = .ok r ↔ True ∧ r = none := by
    intro _ r
    rw [Except.ok.injEq, true_and, eq_comm]
  rw [decodeUpdateLifecycle, decodeLifecycle_ok_iff hnone]
  simp

/-- TypeScript accepts what keeps the rules of both sides and its own. -/
theorem decodePendingMutation_ok {v : IpcPendingMutation Rat} {m : PendingMutation} :
    decodePendingMutation v = .ok m ↔ (Agreed v ∧ TypeScriptRules v) ∧ m = readMutation v := by
  cases v with
  | send mutationId accountKey createdAt intent lifecycle =>
    simp only [decodePendingMutation, except_bind_eq_ok, decodeCommon_ok, decodeSendIntent_ok, sendMutation_ok, decodeSendLifecycle,
      decodeLifecycle_ok_iff decodeConfirmation_ok, pure, Except.pure, Except.ok.injEq]
    constructor
    · rintro ⟨_, ⟨ha, hm, hc, rfl⟩, _, ⟨⟨-, hintent, hname⟩, rfl⟩, _, ⟨(howner : _ = accountKey), rfl⟩, _, ⟨hsafe, hconfirmed, rfl⟩, rfl⟩
      obtain ⟨hlifecycle, hcount⟩ := safeLifecycle_iff.1 hsafe
      have howner' : intent.identityId.accountKey = accountKey := howner
      refine ⟨⟨⟨ha, hm, hc, howner' ▸ hintent, hlifecycle, fun c hl => (hconfirmed c hl).2.2⟩, hcount, hname,
        fun c hl => (hconfirmed c hl).2.1⟩, ?_⟩
      cases hl : lifecycle.confirmation <;> simp [readMutation, pendingMutation, PendingMutation.replaceLifecycle, hl,
        IpcPendingMutation.mutationId, IpcPendingMutation.accountKey, IpcPendingMutation.createdAt]
    · rintro ⟨⟨⟨ha, hm, hc, hintent, hlifecycle, hconfirmed⟩, hcount, hname, hid⟩, rfl⟩
      have howner : intent.identityId.accountKey = accountKey := hintent.1
      refine ⟨_, ⟨ha, hm, hc, rfl⟩, _, ⟨⟨howner ▸ ha, howner ▸ hintent, hname⟩, rfl⟩, _, ⟨howner, rfl⟩, _,
        ⟨safeLifecycle_iff.2 ⟨hlifecycle, hcount⟩, fun c hl => ⟨?_, hid c hl, hconfirmed c hl⟩, rfl⟩, ?_⟩
      · rw [hconfirmed c hl]
        exact ha
      · cases hl : lifecycle.confirmation <;> simp [readMutation, pendingMutation, PendingMutation.replaceLifecycle, hl,
          IpcPendingMutation.mutationId, IpcPendingMutation.accountKey, IpcPendingMutation.createdAt]
  | keyword mutationId accountKey createdAt emailId change lifecycle =>
    simp only [decodePendingMutation, except_bind_eq_ok, decodeCommon_ok, decodeScopedEmailId_ok, keywordSet_ok, keywordMutation_ok,
      decodeUpdateLifecycle_ok, pure, Except.pure, Except.ok.injEq]
    constructor
    · rintro ⟨_, ⟨ha, hm, hc, rfl⟩, _, ⟨-, hid, rfl⟩, _, ⟨-, rfl⟩, _, ⟨-, rfl⟩, _, ⟨howner, _, hmade, rfl⟩, _, ⟨hsafe, rfl⟩, rfl⟩
      obtain ⟨hwords, hsome, hdisjoint, rfl⟩ := keywordChange_ok.1 (keywordChange_of_sets.1 hmade)
      obtain ⟨hlifecycle, hcount⟩ := safeLifecycle_iff.1 hsafe
      exact ⟨⟨⟨ha, hm, hc, ⟨howner, hid⟩, ⟨hwords, hsome, hdisjoint⟩, hlifecycle⟩, hcount, trivial⟩, rfl⟩
    · rintro ⟨⟨⟨ha, hm, hc, ⟨howner, hid⟩, ⟨hwords, hsome, hdisjoint⟩, hlifecycle⟩, hcount, -⟩, rfl⟩
      have howner' : emailId.accountKey = accountKey := howner
      exact ⟨_, ⟨ha, hm, hc, rfl⟩, _, ⟨howner' ▸ ha, hid, rfl⟩, _, ⟨hwords.1, rfl⟩, _, ⟨hwords.2, rfl⟩, _, ⟨howner, _,
        keywordChange_of_sets.2 (keywordChange_ok.2 ⟨hwords, hsome, hdisjoint, rfl⟩), rfl⟩, _,
        ⟨safeLifecycle_iff.2 ⟨hlifecycle, hcount⟩, rfl⟩, rfl⟩
  | mailboxMembership mutationId accountKey createdAt emailId change lifecycle =>
    simp only [decodePendingMutation, except_bind_eq_ok, decodeCommon_ok, decodeScopedEmailId_ok, decodeScopedMailboxIds_ok,
      mailboxMembershipMutation_ok, mailboxMembershipChange_ok, decodeUpdateLifecycle_ok, pure, Except.pure, Except.ok.injEq]
    have hchange : ¬(change.add.map readMailboxId = [] ∧ change.remove.map readMailboxId = []) ↔
        ¬(change.add = [] ∧ change.remove = []) := by
      simp only [List.map_eq_nil_iff]
    have hdistinct : (∀ id ∈ change.add.map readMailboxId, id ∉ change.remove.map readMailboxId) ↔
        ∀ id ∈ change.add, id ∉ change.remove := by
      simp only [List.forall_mem_map, List.mem_map_of_injective readMailboxId_injective]
    constructor
    · rintro ⟨_, ⟨ha, hm, hc, rfl⟩, _, ⟨-, hid, rfl⟩, _, ⟨hadd, rfl⟩, _, ⟨hremove, rfl⟩, _, ⟨hsome, hnodup, hdisjoint, rfl⟩, _,
        ⟨howner, -, hmailboxes, rfl⟩, _, ⟨hsafe, rfl⟩, rfl⟩
      obtain ⟨hlifecycle, hcount⟩ := safeLifecycle_iff.1 hsafe
      simp only [List.nodup_map_iff readMailboxId_injective] at hnodup
      have hids : ∀ id ∈ change.add ++ change.remove, id.accountKey = accountKey ∧ id.jmapMailboxId ≠ "" := by
        intro id hmem
        refine ⟨hmailboxes (readMailboxId id) ?_, ?_⟩
        · rw [← List.map_append]
          exact List.mem_map_of_mem hmem
        · exact (List.mem_append.1 hmem).elim (fun h => (hadd id h).2) fun h => (hremove id h).2
      exact ⟨⟨⟨ha, hm, hc, ⟨howner, hid⟩, ⟨hids, hchange.1 hsome, hnodup, hdistinct.1 hdisjoint⟩, hlifecycle⟩, hcount, trivial⟩, rfl⟩
    · rintro ⟨⟨⟨ha, hm, hc, ⟨howner, hid⟩, ⟨hids, hsome, hnodup, hdisjoint⟩, hlifecycle⟩, hcount, -⟩, rfl⟩
      have howner' : emailId.accountKey = accountKey := howner
      have hnonempty : ∀ id ∈ change.add ++ change.remove, id.accountKey ≠ "" ∧ id.jmapMailboxId ≠ "" := fun id hmem =>
        ⟨(hids id hmem).1 ▸ ha, (hids id hmem).2⟩
      refine ⟨_, ⟨ha, hm, hc, rfl⟩, _, ⟨howner' ▸ ha, hid, rfl⟩, _, ⟨fun id h => hnonempty id (List.mem_append_left _ h), rfl⟩, _,
        ⟨fun id h => hnonempty id (List.mem_append_right _ h), rfl⟩, _, ?_, _, ⟨howner, ?_, ?_, rfl⟩, _,
        ⟨safeLifecycle_iff.2 ⟨hlifecycle, hcount⟩, rfl⟩, rfl⟩
      · exact ⟨hchange.2 hsome, by simpa only [List.nodup_map_iff readMailboxId_injective] using hnodup, hdistinct.2 hdisjoint, rfl⟩
      · exact ⟨hchange.2 hsome, by simpa only [List.nodup_map_iff readMailboxId_injective] using hnodup, hdistinct.2 hdisjoint, trivial⟩
      · rw [← List.map_append, List.forall_mem_map]
        exact fun id hmem => (hids id hmem).1

end Boxplot.Ipc
