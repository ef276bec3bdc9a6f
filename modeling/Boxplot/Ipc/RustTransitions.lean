import Boxplot.Ipc.MutationTransitions
import Boxplot.Persistence.Engine
/-!
# Three transition relations are one

The record Rust keeps for a mutation, and that the Rust engine replaces a
mutation by another where the memory engine does and the domain has a
transition.
-/

namespace Boxplot.Ipc

open Domain Lib

/-! ## Records -/

def semanticPayload : Payload → Persistence.MutationPayload
  | .send intent => .send (intentToSemantic (encodeSendIntent intent))
  | .keyword emailId change => .keyword emailId.jmapId { add := change.add.toFinset, remove := change.remove.toFinset }
  | .mailboxMembership emailId change =>
    .mailboxMembership emailId.jmapId { add := change.add.map (·.jmapId), remove := change.remove.map (·.jmapId) }

def semanticLifecycle : Lifecycle → Persistence.MutationLifecycle
  | .pending n => .pending (UInt64.ofNat n)
  | .inFlight n => .inFlight (UInt64.ofNat n)
  | .retrying n nextAttemptAt => .retrying (UInt64.ofNat n) nextAttemptAt
  | .confirmed n confirmation => .confirmed (UInt64.ofNat n) (confirmation.map (·.emailId.jmapId))
  | .failedTerminal n => .failedTerminal (UInt64.ofNat n)

/-- The record Rust keeps for a mutation. -/
def semanticMutation (m : PendingMutation) : Persistence.PendingMutation :=
  { accountKey := m.accountKey, mutationId := m.mutationId, createdAt := m.createdAt
    payload := semanticPayload m.payload, lifecycle := semanticLifecycle m.lifecycle }

/-- Rust replaces a stored mutation by another: it accepts both, and the one may follow the other. -/
def rustReplaces (m n : PendingMutation) : Bool :=
  match (encodePendingMutation m).bind rustReads, (encodePendingMutation n).bind rustReads with
  | some stored, some next => Persistence.sameImmutable stored next && Persistence.validTransition stored next
  | _, _ => false

theorem semantic_readLifecycle {C : Type} {l : IpcLifecycle Rat C} {n : UInt64} (hn : l.attemptCount = (n.toNat : Rat))
    (hphase : PhaseRule l n.toNat) (confirmationOf : C → Option String) (confirmation : Option SendConfirmation)
    (hc : ∀ c ∈ l.confirmation, confirmation.map (·.emailId.jmapId) = confirmationOf c) :
    lifecycleToSemantic confirmationOf (l.withCount n) = semanticLifecycle (readLifecycle l confirmation) := by
  have hcount : UInt64.ofNat (n.toNat : Rat).num.toNat = n := by simp
  cases l with
  | pending k =>
    obtain rfl : n = 0 := toNat_eq_zero.2 hphase
    rfl
  | inFlight k =>
    obtain rfl : k = (n.toNat : Rat) := hn
    simp only [IpcLifecycle.withCount, lifecycleToSemantic, readLifecycle, semanticLifecycle, hcount]
  | retrying k t =>
    obtain rfl : k = (n.toNat : Rat) := hn
    simp only [IpcLifecycle.withCount, lifecycleToSemantic, readLifecycle, semanticLifecycle, hcount]
  | confirmed k c =>
    obtain rfl : k = (n.toNat : Rat) := hn
    simp only [IpcLifecycle.withCount, lifecycleToSemantic, readLifecycle, semanticLifecycle, hcount, hc c rfl]
  | failedTerminal k =>
    obtain rfl : k = (n.toNat : Rat) := hn
    simp only [IpcLifecycle.withCount, lifecycleToSemantic, readLifecycle, semanticLifecycle, hcount]

/-- What TypeScript decoded, Rust accepts, as the record of the mutation. -/
theorem rust_accepts_decoded {v : IpcPendingMutation Rat} {m : PendingMutation} (h : decodePendingMutation v = .ok m) :
    (encodePendingMutation m).bind rustReads = some (semanticMutation m) := by
  obtain ⟨⟨hv, hts⟩, rfl⟩ := decodePendingMutation_ok.1 h
  obtain ⟨s, hs⟩ := (rustReads_isSome (normalised v)).2 (agreed_normalised hv)
  rw [encode_readMutation hv hts, Option.bind_some, hs]
  obtain ⟨n, hn, -, hvalid, rfl⟩ := rustReads_eq_some.1 hs
  obtain ⟨-, -, -, hlifecycle, -⟩ := validateMutation_ok.1 hvalid
  have hcount := deserializeCount_eq_some.1 hn
  cases v with
  | send mutationId accountKey createdAt intent lifecycle =>
    have hread := semantic_readLifecycle hcount (sendLifecycle_ok.1 hlifecycle) (fun c => some c.emailId.jmapEmailId)
      (lifecycle.confirmation.map readConfirmation) fun c hc => by
        rw [Option.mem_def.1 hc]
        rfl
    simp only [normalised, IpcPendingMutation.withCount, mutationToSemantic, semanticMutation, readMutation, semanticPayload,
      encode_readIntent, sendLifecycleToSemantic, hread]
    rfl
  | keyword mutationId accountKey createdAt emailId change lifecycle =>
    have hread := semantic_readLifecycle hcount (updateLifecycle_ok.1 hlifecycle) (fun _ => none) none fun _ _ => rfl
    simp only [normalised, IpcPendingMutation.withCount, mutationToSemantic, semanticMutation, readMutation, semanticPayload,
      updateLifecycleToSemantic, hread]
    rfl
  | mailboxMembership mutationId accountKey createdAt emailId change lifecycle =>
    have hread := semantic_readLifecycle hcount (updateLifecycle_ok.1 hlifecycle) (fun _ => none) none fun _ _ => rfl
    simp only [normalised, IpcPendingMutation.withCount, mutationToSemantic, semanticMutation, readMutation, semanticPayload,
      updateLifecycleToSemantic, hread, List.map_map]
    rfl

/-- Ids of one account are known by what they are within it. -/
theorem mailboxIds_eq_iff {owner : AccountKey} {l l' : List ScopedMailboxId} (hl : ∀ id ∈ l, id.accountKey = owner)
    (hl' : ∀ id ∈ l', id.accountKey = owner) : l.map (·.jmapId) = l'.map (·.jmapId) ↔ l = l' := by
  have hids : ∀ l : List ScopedMailboxId, (∀ id ∈ l, id.accountKey = owner) → (l.map (·.jmapId)).map (ScopedMailboxId.mk owner) = l := by
    intro l hl
    rw [List.map_map]
    refine (List.map_congr_left fun id hid => ?_).trans (List.map_id l)
    obtain ⟨account, jmapId⟩ := id
    obtain rfl : account = owner := hl _ hid
    rfl
  constructor
  · intro h
    rw [← hids l hl, h, hids l' hl']
  · intro h
    rw [h]

theorem encodeAddresses_injective {l l' : List EmailAddress}
    (h : (l.map encodeAddress).map addressToSemantic = (l'.map encodeAddress).map addressToSemantic) : l = l' := by
  rw [List.map_map, List.map_map] at h
  refine List.map_injective_iff.2 ?_ h
  rintro ⟨_, _⟩ ⟨_, _⟩ he
  cases he
  rfl

/-- Intents of one account are known by their records. -/
theorem intent_eq {i i' : SendIntent} (howner : i.identityId.accountKey = i'.identityId.accountKey)
    (h : intentToSemantic (encodeSendIntent i) = intentToSemantic (encodeSendIntent i')) : i = i' := by
  obtain ⟨mode, ⟨account, id⟩, ⟨fromName, fromEmail⟩, replyTo, «to», cc, bcc, subject, ⟨text, html⟩⟩ := i
  obtain ⟨mode', ⟨account', id'⟩, ⟨fromName', fromEmail'⟩, replyTo', to', cc', bcc', subject', ⟨text', html'⟩⟩ := i'
  obtain rfl : account = account' := howner
  simp only [intentToSemantic, encodeSendIntent, Persistence.SendIntent.mk.injEq, Persistence.SendBody.mk.injEq] at h
  obtain ⟨hmode, hid, hfrom, hreply, hto, hcc, hbcc, rfl, rfl, rfl⟩ := h
  obtain rfl : id = id' := hid
  cases hfrom
  rw [encodeAddresses_injective hreply, encodeAddresses_injective hto, encodeAddresses_injective hcc,
    encodeAddresses_injective hbcc]
  cases mode <;> cases mode' <;> first | rfl | cases hmode

theorem semanticPayload_eq_iff {m n : PendingMutation} (hm : Decoded m) (hn : Decoded n) (ha : m.accountKey = n.accountKey) :
    semanticPayload m.payload = semanticPayload n.payload ↔ SamePayload m.payload n.payload := by
  have hmp := hm.payload
  have hnp := hn.payload
  rw [← ha] at hnp
  cases hmk : m.payload with
  | send i =>
    cases hnk : n.payload with
    | send i' =>
      simp only [hmk, hnk] at hmp hnp
      refine ⟨fun h => ?_, fun h => congrArg semanticPayload (congrArg Payload.send h)⟩
      exact intent_eq (hmp.trans hnp.symm) (Persistence.MutationPayload.send.inj h)
    | _ => simp [semanticPayload, SamePayload]
  | keyword emailId change =>
    cases hnk : n.payload with
    | keyword emailId' change' =>
      simp only [hmk, hnk] at hmp hnp
      have hid : emailId.jmapId = emailId'.jmapId ↔ emailId = emailId' := by
        obtain ⟨account, id⟩ := emailId
        obtain ⟨account', id'⟩ := emailId'
        obtain rfl : account = account' := hmp.1.trans hnp.1.symm
        simp
      simp only [semanticPayload, SamePayload, Persistence.MutationPayload.keyword.injEq, Persistence.KeywordChange.mk.injEq, hid,
        Finset.ext_iff, List.mem_toFinset]
    | _ => simp [semanticPayload, SamePayload]
  | mailboxMembership emailId change =>
    cases hnk : n.payload with
    | mailboxMembership emailId' change' =>
      simp only [hmk, hnk] at hmp hnp
      obtain ⟨account, id⟩ := emailId
      obtain ⟨account', id'⟩ := emailId'
      obtain ⟨add, remove⟩ := change
      obtain ⟨add', remove'⟩ := change'
      obtain rfl : account = account' := hmp.1.trans hnp.1.symm
      simp only [semanticPayload, SamePayload, Persistence.MutationPayload.mailboxMembership.injEq,
        Persistence.MembershipChange.mk.injEq, ScopedEmailId.mk.injEq, MailboxMembershipChange.mk.injEq, true_and]
      refine and_congr_right fun _ => and_congr ?_ ?_
      · exact mailboxIds_eq_iff (fun id hid => hmp.2 id (List.mem_append_left _ hid))
          fun id hid => hnp.2 id (List.mem_append_left _ hid)
      · exact mailboxIds_eq_iff (fun id hid => hmp.2 id (List.mem_append_right _ hid))
          fun id hid => hnp.2 id (List.mem_append_right _ hid)
    | _ => simp [semanticPayload, SamePayload]

theorem sameImmutable_iff {m n : PendingMutation} (hm : Decoded m) (hn : Decoded n) :
    Persistence.sameImmutable (semanticMutation m) (semanticMutation n) = true ↔ SameMutation m n := by
  simp only [Persistence.sameImmutable, Bool.and_eq_true]
  constructor
  · rintro ⟨⟨⟨ha, hid⟩, hc⟩, hp⟩
    have haccount : m.accountKey = n.accountKey := of_decide_eq_true ha
    exact ⟨of_decide_eq_true hid, haccount, of_decide_eq_true hc, (semanticPayload_eq_iff hm hn haccount).1 (of_decide_eq_true hp)⟩
  · rintro ⟨hid, ha, hc, hp⟩
    exact ⟨⟨⟨decide_eq_true ha, decide_eq_true hid⟩, decide_eq_true hc⟩, decide_eq_true ((semanticPayload_eq_iff hm hn ha).2 hp)⟩

/-! ## Phases -/

/-- Counts of decoded mutations are small enough for Rust to tell apart. -/
theorem count_lt {m : PendingMutation} (hm : Decoded m) : m.lifecycle.attemptCount < 2 ^ 64 := by
  have h := hm.count
  simp only [maxSafeInteger] at h
  cases hl : m.lifecycle <;> simp only [hl, Lifecycle.attemptCount] at h ⊢ <;> omega

theorem toNat_count {m : PendingMutation} (hm : Decoded m) :
    (semanticLifecycle m.lifecycle).attemptCount.toNat = m.lifecycle.attemptCount := by
  have hlt := count_lt hm
  cases hl : m.lifecycle <;> rw [hl] at hlt <;> exact UInt64.toNat_ofNat_of_lt' hlt

/-- What the Rust engine asks of two records is what the memory engine asks of their mutations. -/
theorem validTransition_iff {m n : PendingMutation} (hm : Decoded m) (hn : Decoded n) :
    Persistence.validTransition (semanticMutation m) (semanticMutation n) = true ↔ Memory.validTransition m n = true := by
  have hmn := toNat_count hm
  have hnn := toNat_count hn
  have hmc := hm.count
  have hnc := hn.count
  unfold Persistence.validTransition Memory.validTransition semanticMutation
  cases hml : m.lifecycle <;> cases hnl : n.lifecycle <;>
    simp only [hml, hnl, semanticLifecycle, Persistence.MutationLifecycle.attemptCount, Lifecycle.attemptCount] at hmn hnn hmc hnc ⊢ <;>
    simp only [Bool.and_eq_true, decide_eq_true_eq, UInt64.lt_iff_toNat_lt, ← UInt64.toNat_inj, hmn, hnn] <;>
    simp <;> omega

/-! ## One relation -/

theorem rustReplaces_iff {v w : IpcPendingMutation Rat} {m n : PendingMutation} (hm : decodePendingMutation v = .ok m)
    (hn : decodePendingMutation w = .ok n) :
    rustReplaces m n = true ↔ SameMutation m n ∧ Memory.validTransition m n = true := by
  simp only [rustReplaces, rust_accepts_decoded hm, rust_accepts_decoded hn, Bool.and_eq_true,
    sameImmutable_iff (decoded hm) (decoded hn), validTransition_iff (decoded hm) (decoded hn)]

/-- The domain has a transition from one decoded mutation to another exactly when the memory engine replaces the one, stored, by
the other, and exactly when Rust does. -/
theorem transitions_coincide {v w : IpcPendingMutation Rat} {m n : PendingMutation} {s : Memory.MemoryState}
    (hm : decodePendingMutation v = .ok m) (hn : decodePendingMutation w = .ok n)
    (hs : s.mutations.get? (m.accountKey, m.mutationId) = some m) :
    (Obtainable m n ↔ ∃ s', s.replacePendingMutationIfCurrent m n = .ok s') ∧
      ((∃ s', s.replacePendingMutationIfCurrent m n = .ok s') ↔ rustReplaces m n = true) := by
  have hmemory := @memory_replaces s m n hs
  rw [sameImmutableMutation_iff (decoded hm) (decoded hn)] at hmemory
  exact ⟨(obtainable_iff (decoded hm) (decoded hn)).trans hmemory.symm, hmemory.trans (rustReplaces_iff hm hn).symm⟩

/-- A message that is marked as read, waiting and on its way. -/
def markedRead (lifecycle : IpcEmailUpdateLifecycle Rat) : IpcPendingMutation Rat :=
  .keyword "m1" "a1" "2024-01-01T00:00:00Z" ⟨"a1", "e1"⟩ ⟨["$seen"], []⟩ lifecycle

theorem markedRead_starts_everywhere :
    Obtainable (readMutation (markedRead (.pending 0))) (readMutation (markedRead (.inFlight 1))) ∧
      rustReplaces (readMutation (markedRead (.pending 0))) (readMutation (markedRead (.inFlight 1))) = true := by
  have hread : ∀ l : IpcEmailUpdateLifecycle Rat, l = .pending 0 ∨ l = .inFlight 1 →
      decodePendingMutation (markedRead l) = .ok (readMutation (markedRead l)) := by
    rintro _ (rfl | rfl) <;> rfl
  have hcoincide := @transitions_coincide _ _ _ _
    { Memory.MemoryState.empty with
      mutations := OrderedMap.empty.set ("a1", "m1") (readMutation (markedRead (.pending 0))) }
    (hread _ (.inl rfl)) (hread _ (.inr rfl)) (OrderedMap.get?_set_self ..)
  have hrust : rustReplaces (readMutation (markedRead (.pending 0))) (readMutation (markedRead (.inFlight 1))) = true := by
    decide +kernel
  exact ⟨hcoincide.1.2 (hcoincide.2.2 hrust), hrust⟩

end Boxplot.Ipc
