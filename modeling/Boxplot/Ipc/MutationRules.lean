import Boxplot.Ipc.Codecs
/-!
# The rules of mutations

What both sides of the boundary check of a mutation, what only one of them
checks, and that Rust accepts what keeps its rules.
-/

namespace Boxplot.Ipc

open Domain Lib

/-! ## The rules both sides check -/

section
variable {N C : Type}

/-- Zero attempts before the first one, more after it, and a time for the next one. -/
def PhaseRule (l : IpcLifecycle N C) (n : Nat) : Prop :=
  match l with
  | .pending _ => n = 0
  | .retrying _ nextAttemptAt => n ≠ 0 ∧ nextAttemptAt ≠ ""
  | _ => n ≠ 0

def AgreedLifecycle (l : IpcLifecycle Rat C) : Prop := ∃ n : Nat, l.attemptCount = n ∧ n < 2 ^ 64 ∧ PhaseRule l n

end

def AgreedEmail (owner : String) (id : IpcScopedEmailId) : Prop := id.accountKey = owner ∧ id.jmapEmailId ≠ ""

/-- A Bcc address that is repeated is not looked at again. -/
def AgreedIntent (owner : String) (i : IpcSendIntent) : Prop :=
  i.identityId.accountKey = owner ∧ i.identityId.jmapIdentityId ≠ "" ∧ Persistence.startsWith i.from.email "*@" = false ∧
    i.to.length + i.cc.length + i.bcc.length ≠ 0 ∧
    (∀ address ∈ i.from :: (i.replyTo ++ i.to ++ i.cc), Usable (decodeAddress address)) ∧
    ∀ address ∈ mergeBcc (i.bcc.map decodeAddress) none, Usable address

def AgreedKeywords (change : IpcKeywordChange) : Prop :=
  ("" ∉ change.add ∧ "" ∉ change.remove) ∧ ¬(change.add = [] ∧ change.remove = []) ∧ ∀ k ∈ change.add, k ∉ change.remove

def AgreedMailboxes (owner : String) (change : IpcMailboxMembershipChange) : Prop :=
  (∀ id ∈ change.add ++ change.remove, id.accountKey = owner ∧ id.jmapMailboxId ≠ "") ∧
    ¬(change.add = [] ∧ change.remove = []) ∧ (change.add.Nodup ∧ change.remove.Nodup) ∧ ∀ id ∈ change.add, id ∉ change.remove

def AgreedPayload (owner : String) : IpcPendingMutation Rat → Prop
  | .send _ _ _ intent lifecycle =>
    AgreedIntent owner intent ∧ AgreedLifecycle lifecycle ∧ ∀ c ∈ lifecycle.confirmation, c.emailId.accountKey = owner
  | .keyword _ _ _ emailId change lifecycle => AgreedEmail owner emailId ∧ AgreedKeywords change ∧ AgreedLifecycle lifecycle
  | .mailboxMembership _ _ _ emailId change lifecycle =>
    AgreedEmail owner emailId ∧ AgreedMailboxes owner change ∧ AgreedLifecycle lifecycle

/-- What both TypeScript and Rust check. -/
def Agreed (v : IpcPendingMutation Rat) : Prop :=
  v.accountKey ≠ "" ∧ v.mutationId ≠ "" ∧ v.createdAt ≠ "" ∧ AgreedPayload v.accountKey v

/-! ## The rules of one side -/

/-- What only TypeScript checks: a safe count, a sender with a name, and the id of the email a send became. -/
def TypeScriptRules (v : IpcPendingMutation Rat) : Prop :=
  v.attemptCount ≤ maxSafeInteger ∧
    match v with
    | .send _ _ _ intent lifecycle => intent.from.name ≠ none ∧ ∀ c ∈ lifecycle.confirmation, c.emailId.jmapEmailId ≠ ""
    | _ => True

/-- What only Rust checks: every Bcc address. -/
def RustRules : IpcPendingMutation Rat → Prop
  | .send _ _ _ intent _ => ∀ address ∈ intent.bcc, Usable (decodeAddress address)
  | _ => True

/-- What TypeScript does not keep: Bcc addresses with the same email. -/
def DistinctBcc : IpcPendingMutation Rat → Prop
  | .send _ _ _ intent _ => (intent.bcc.map (·.email)).Nodup
  | _ => True

/-! ## Rust -/

theorem validateOutboundAddress_ok {a : IpcEmailAddress} {u : Unit} :
    Persistence.validateOutboundAddress (addressToSemantic a) = .ok u ↔ Usable (decodeAddress a) := by
  unfold Persistence.validateOutboundAddress Usable
  simp only [addressToSemantic, decodeAddress, emailAddress]
  cases a.email.toList.findIdx? (· = '@') with
  | none => simp
  | some i =>
    refine Persistence.corruptIf_ok.trans ?_
    simp only [Option.some.injEq, exists_eq_left', not_or, Bool.not_eq_true]
    rfl

theorem validateIntent_ok {i : IpcSendIntent} {u : Unit} : Persistence.validateIntent (intentToSemantic i) = .ok u ↔
    i.identityId.jmapIdentityId ≠ "" ∧ Persistence.startsWith i.from.email "*@" = false ∧
      i.to.length + i.cc.length + i.bcc.length ≠ 0 ∧
      ∀ address ∈ i.from :: (i.replyTo ++ i.to ++ i.cc ++ i.bcc), Usable (decodeAddress address) := by
  have haddresses : (intentToSemantic i).from :: ((intentToSemantic i).replyTo ++ (intentToSemantic i).to ++
      (intentToSemantic i).cc ++ (intentToSemantic i).bcc) =
      (i.from :: (i.replyTo ++ i.to ++ i.cc ++ i.bcc)).map addressToSemantic := by
    simp [intentToSemantic]
  simp only [Persistence.validateIntent, except_bind_eq_ok, haddresses, forM_eq_ok, List.forall_mem_map,
    validateOutboundAddress_ok, Persistence.nonEmpty_ok, Persistence.corruptIf_ok, Bool.not_eq_true]
  simp only [intentToSemantic, addressToSemantic, List.length_map, exists_const]

section
variable {C : Type} {confirmationOf : C → Option String} {l : IpcLifecycle Rat C} {n : UInt64}

theorem toNat_eq_zero {n : UInt64} : n = 0 ↔ n.toNat = 0 := by
  constructor
  · rintro rfl
    rfl
  · intro h
    exact UInt64.toNat_inj.1 h

theorem validateLifecycle_ok {u : Unit} :
    Persistence.validateLifecycle (lifecycleToSemantic confirmationOf (l.withCount n)) = .ok u ↔ PhaseRule l n.toNat := by
  cases l <;>
    simp [IpcLifecycle.withCount, lifecycleToSemantic, Persistence.validateLifecycle, PhaseRule, except_bind_eq_ok,
      Persistence.MutationLifecycle.attemptCount, toNat_eq_zero]

theorem sendLifecycle_ok {l : IpcSendMutationLifecycle Rat} {u : Unit} :
    Persistence.validateLifecycle (sendLifecycleToSemantic (l.withCount n)) = .ok u ↔ PhaseRule l n.toNat := validateLifecycle_ok

theorem updateLifecycle_ok {l : IpcEmailUpdateLifecycle Rat} {u : Unit} :
    Persistence.validateLifecycle (updateLifecycleToSemantic (l.withCount n)) = .ok u ↔ PhaseRule l n.toNat := validateLifecycle_ok

/-- A count that Rust reads. -/
theorem agreedLifecycle_iff : AgreedLifecycle l ↔ ∃ n : UInt64, deserializeCount l.attemptCount = some n ∧ PhaseRule l n.toNat := by
  simp only [deserializeCount_eq_some]
  constructor
  · rintro ⟨n, hcount, hlt, hrule⟩
    have hn : (UInt64.ofNat n).toNat = n := UInt64.toNat_ofNat_of_lt' hlt
    exact ⟨UInt64.ofNat n, by rw [hn, hcount], by rwa [hn]⟩
  · rintro ⟨n, hcount, hrule⟩
    exact ⟨n.toNat, hcount, n.toNat_lt, hrule⟩

end

theorem sendPayload_ok {i : IpcSendIntent} {l : IpcSendMutationLifecycle Rat} {n : UInt64} {u : Unit} :
    Persistence.validatePayload (sendLifecycleToSemantic (l.withCount n)) (.send (intentToSemantic i)) = .ok u ↔
      Persistence.validateIntent (intentToSemantic i) = .ok () := by
  simp only [Persistence.validatePayload, except_bind_eq_ok]
  have hnever : ∀ k, sendLifecycleToSemantic (l.withCount n) ≠ .confirmed k none := by
    intro k h
    cases l <;> cases h
  constructor
  · rintro ⟨_, hi, -⟩
    exact hi
  · intro hi
    refine ⟨(), hi, ?_⟩
    split
    · rename_i k h
      exact absurd h (hnever k)
    · rfl

/-- An update that is confirmed says nothing of what it became. -/
theorem keywordPayload_ok {id : String} {change : IpcKeywordChange} {l : IpcEmailUpdateLifecycle Rat} {n : UInt64} {u : Unit} :
    Persistence.validatePayload (updateLifecycleToSemantic (l.withCount n))
        (.keyword id { add := change.add.toFinset, remove := change.remove.toFinset }) = .ok u ↔
      id ≠ "" ∧ AgreedKeywords change := by
  have hsome : ¬(change.add.toFinset = ∅ ∧ change.remove.toFinset = ∅) ↔ ¬(change.add = [] ∧ change.remove = []) := by
    simp only [List.toFinset_eq_empty_iff]
  have hempty : "" ∉ change.add.toFinset ∪ change.remove.toFinset ↔ "" ∉ change.add ∧ "" ∉ change.remove := by
    simp only [Finset.mem_union, List.mem_toFinset, not_or]
  have hdisjoint : ¬change.add.toFinset ∩ change.remove.toFinset ≠ ∅ ↔ ∀ k ∈ change.add, k ∉ change.remove := by
    simp only [ne_eq, not_not, ← Finset.disjoint_iff_inter_eq_empty, Finset.disjoint_left, List.mem_toFinset]
  simp only [Persistence.validatePayload, except_bind_eq_ok, Persistence.nonEmpty_ok, Persistence.corruptIf_ok, hsome, hempty,
    hdisjoint, exists_const, AgreedKeywords]
  cases l <;> simp [IpcLifecycle.withCount, updateLifecycleToSemantic, lifecycleToSemantic] <;> tauto

theorem card_toFinset_eq_length {l : List String} : l.toFinset.card = l.length ↔ l.Nodup :=
  Multiset.toFinset_card_eq_card_iff_nodup

theorem exists_ids {owner : String} {l : List IpcScopedMailboxId} (h : ∀ mailbox ∈ l, mailbox.accountKey = owner) :
    ∃ ids : List String, l = ids.map (IpcScopedMailboxId.mk owner) := by
  refine ⟨l.map (·.jmapMailboxId), ?_⟩
  rw [List.map_map]
  refine (List.map_id l).symm.trans (List.map_congr_left fun mailbox hm => ?_)
  obtain ⟨account, id⟩ := mailbox
  obtain rfl : account = owner := h _ hm
  rfl

/-- Ids of one account are as distinct as the ids within it. -/
theorem membershipPayload_ok {owner id : String} {change : IpcMailboxMembershipChange}
    {lifecycle : Persistence.MutationLifecycle} {u : Unit}
    (howner : ∀ mailbox ∈ change.add ++ change.remove, mailbox.accountKey = owner) :
    Persistence.validatePayload lifecycle (.mailboxMembership id
        { add := change.add.map (·.jmapMailboxId), remove := change.remove.map (·.jmapMailboxId) }) = .ok u ↔
      id ≠ "" ∧ AgreedMailboxes owner change := by
  obtain ⟨add, remove⟩ := change
  obtain ⟨addIds, rfl⟩ := exists_ids fun mailbox hm => howner mailbox (List.mem_append_left _ hm)
  obtain ⟨removeIds, rfl⟩ := exists_ids fun mailbox hm => howner mailbox (List.mem_append_right _ hm)
  have hinjective : Function.Injective (IpcScopedMailboxId.mk owner) := fun a b h => (IpcScopedMailboxId.mk.inj h).2
  have hids : ∀ ids : List String, (ids.map (IpcScopedMailboxId.mk owner)).map (·.jmapMailboxId) = ids := fun ids => by
    rw [List.map_map]
    exact List.map_id ids
  have hdisjoint : addIds.toFinset ∩ removeIds.toFinset = ∅ ↔ ∀ k ∈ addIds, k ∉ removeIds := by
    simp only [← Finset.disjoint_iff_inter_eq_empty, Finset.disjoint_left, List.mem_toFinset]
  simp only [Persistence.validatePayload, except_bind_eq_ok, Persistence.nonEmpty_ok, Persistence.corruptIf_ok, hids, not_or,
    card_toFinset_eq_length, not_not, ne_eq, hdisjoint, exists_const, AgreedMailboxes, List.map_eq_nil_iff,
    List.nodup_map_iff hinjective, List.mem_map_of_injective hinjective, List.forall_mem_map, Finset.mem_union, List.mem_toFinset,
    ← List.map_append, List.mem_append, true_and]
  constructor
  · rintro ⟨hid, hsome, hadd, hremove, hboth, hempty⟩
    refine ⟨hid, fun k hk he => ?_, hsome, ⟨hadd, hremove⟩, hboth⟩
    subst he
    exact hk.elim hempty.1 hempty.2
  · rintro ⟨hid, hempty, hsome, ⟨hadd, hremove⟩, hboth⟩
    exact ⟨hid, hsome, hadd, hremove, hboth, fun h => hempty "" (.inl h) rfl, fun h => hempty "" (.inr h) rfl⟩

theorem validateMutationScope_ok {N : Type} {v : IpcPendingMutation N} {u : Unit} :
    validateMutationScope v = .ok u ↔ mutationScope v = true := by
  unfold validateMutationScope
  split <;> simp_all

theorem rustReads_eq_some {v : IpcPendingMutation Rat} {s : Persistence.PendingMutation} : rustReads v = some s ↔
    ∃ n, deserializeCount v.attemptCount = some n ∧ mutationScope v = true ∧
      Persistence.validateMutation (mutationToSemantic (v.withCount n)) = .ok () ∧ s = mutationToSemantic (v.withCount n) := by
  simp only [rustReads, deserialize, Option.bind_eq_bind, Option.bind_eq_some_iff, Option.map_eq_some_iff, toOption_eq_some,
    validateMutationScope_ok, pure, Option.some.injEq]
  constructor
  · rintro ⟨_, ⟨n, hn, rfl⟩, _, hscope, _, hvalid, rfl⟩
    exact ⟨n, hn, mutationScope_withCount v n ▸ hscope, hvalid, rfl⟩
  · rintro ⟨n, hn, hscope, hvalid, rfl⟩
    exact ⟨_, ⟨n, hn, rfl⟩, (), (mutationScope_withCount v n).trans hscope, (), hvalid, rfl⟩

theorem validateMutation_ok {m : Persistence.PendingMutation} {u : Unit} : Persistence.validateMutation m = .ok u ↔
    m.accountKey ≠ "" ∧ m.mutationId ≠ "" ∧ m.createdAt ≠ "" ∧ Persistence.validateLifecycle m.lifecycle = .ok () ∧
      Persistence.validatePayload m.lifecycle m.payload = .ok () := by
  simp only [Persistence.validateMutation, except_bind_eq_ok, Persistence.nonEmpty_ok, exists_const]
  constructor
  · rintro ⟨ha, hm, hc, _, hl, hp⟩
    exact ⟨ha, hm, hc, hl, hp⟩
  · rintro ⟨ha, hm, hc, hl, hp⟩
    exact ⟨ha, hm, hc, (), hl, hp⟩

theorem usable_bcc {bcc : List IpcEmailAddress} (h : ∀ address ∈ bcc, Usable (decodeAddress address)) :
    ∀ address ∈ mergeBcc (bcc.map decodeAddress) none, Usable address := by
  intro address hm
  obtain ⟨a, ha, rfl⟩ := List.mem_map.1 (mem_mergeBcc hm)
  exact h a ha

/-- Rust accepts what keeps the rules of both sides and its own. -/
theorem rustReads_isSome (v : IpcPendingMutation Rat) : (∃ s, rustReads v = some s) ↔ Agreed v ∧ RustRules v := by
  have hreads : (∃ s, rustReads v = some s) ↔ ∃ n, deserializeCount v.attemptCount = some n ∧ mutationScope v = true ∧
      Persistence.validateMutation (mutationToSemantic (v.withCount n)) = .ok () := by
    simp only [rustReads_eq_some]
    exact ⟨fun ⟨_, n, hn, hs, hv, _⟩ => ⟨n, hn, hs, hv⟩, fun ⟨n, hn, hs, hv⟩ => ⟨_, n, hn, hs, hv, rfl⟩⟩
  rw [hreads]
  clear hreads
  cases v with
  | send mutationId accountKey createdAt intent lifecycle =>
    simp only [validateMutation_ok, mutationToSemantic, IpcPendingMutation.withCount, sendPayload_ok, validateIntent_ok,
      sendLifecycle_ok, mutationScope, Bool.and_eq_true, decide_eq_true_eq, Option.all_eq_true]
    constructor
    · rintro ⟨n, hn, ⟨howner, hconfirmed⟩, ha, hm, hc, hphase, hid, hwild, hrecipient, husable⟩
      have hbcc : ∀ address ∈ intent.bcc, Usable (decodeAddress address) := fun address hb => husable address (by simp [hb])
      have hothers : ∀ address ∈ intent.from :: (intent.replyTo ++ intent.to ++ intent.cc), Usable (decodeAddress address) :=
        fun address hb => husable address (by
          rw [← List.cons_append] at *
          exact List.mem_append_left _ hb)
      exact ⟨⟨ha, hm, hc, ⟨howner, hid, hwild, hrecipient, hothers, usable_bcc hbcc⟩, agreedLifecycle_iff.2 ⟨n, hn, hphase⟩,
        hconfirmed⟩, hbcc⟩
    · rintro ⟨⟨ha, hm, hc, ⟨howner, hid, hwild, hrecipient, hothers, -⟩, hlifecycle, hconfirmed⟩, hbcc⟩
      obtain ⟨n, hn, hphase⟩ := agreedLifecycle_iff.1 hlifecycle
      refine ⟨n, hn, ⟨howner, hconfirmed⟩, ha, hm, hc, hphase, hid, hwild, hrecipient, fun address hb => ?_⟩
      rw [← List.cons_append] at hb
      exact (List.mem_append.1 hb).elim (hothers address) (hbcc address)
  | keyword mutationId accountKey createdAt emailId change lifecycle =>
    simp only [validateMutation_ok, mutationToSemantic, IpcPendingMutation.withCount, keywordPayload_ok, updateLifecycle_ok,
      mutationScope, decide_eq_true_eq]
    constructor
    · rintro ⟨n, hn, howner, ha, hm, hc, hphase, hid, hchange⟩
      exact ⟨⟨ha, hm, hc, ⟨howner, hid⟩, hchange, agreedLifecycle_iff.2 ⟨n, hn, hphase⟩⟩, trivial⟩
    · rintro ⟨⟨ha, hm, hc, ⟨howner, hid⟩, hchange, hlifecycle⟩, -⟩
      obtain ⟨n, hn, hphase⟩ := agreedLifecycle_iff.1 hlifecycle
      exact ⟨n, hn, howner, ha, hm, hc, hphase, hid, hchange⟩
  | mailboxMembership mutationId accountKey createdAt emailId change lifecycle =>
    simp only [validateMutation_ok, mutationToSemantic, IpcPendingMutation.withCount, updateLifecycle_ok,
      mutationScope, Bool.and_eq_true, decide_eq_true_eq, List.all_eq_true]
    constructor
    · rintro ⟨n, hn, ⟨howner, hmailboxes⟩, ha, hm, hc, hphase, hpayload⟩
      obtain ⟨hid, hchange⟩ := (membershipPayload_ok hmailboxes).1 hpayload
      exact ⟨⟨ha, hm, hc, ⟨howner, hid⟩, hchange, agreedLifecycle_iff.2 ⟨n, hn, hphase⟩⟩, trivial⟩
    · rintro ⟨⟨ha, hm, hc, ⟨howner, hid⟩, hchange, hlifecycle⟩, -⟩
      obtain ⟨n, hn, hphase⟩ := agreedLifecycle_iff.1 hlifecycle
      have hmailboxes : ∀ mailbox ∈ change.add ++ change.remove, mailbox.accountKey = accountKey := fun mailbox hb =>
        (hchange.1 mailbox hb).1
      exact ⟨n, hn, ⟨howner, hmailboxes⟩, ha, hm, hc, hphase, (membershipPayload_ok hmailboxes).2 ⟨hid, hchange⟩⟩

end Boxplot.Ipc
