import Boxplot.Ipc.MutationAgreement
import Boxplot.Memory.SyncPort
/-!
# Transitions of decoded mutations

The transitions of the domain and what the memory engine replaces by what. For
mutations that TypeScript decodes they are one relation.
-/

namespace Boxplot.Ipc

open Domain Lib

/-! ## The domain -/

/-- The transitions, each for the kinds of mutation it is for. -/
inductive Transition : PendingMutation → PendingMutation → Prop
  | start {m n : PendingMutation} : startMutationAttempt m = .ok n → Transition m n
  | retry {m n : PendingMutation} (nextAttemptAt : MutationInstant) : scheduleMutationRetry m nextAttemptAt = .ok n → Transition m n
  | confirmUpdate {m n : PendingMutation} : m.isSend = false → confirmEmailUpdateMutation m = .ok n → Transition m n
  | confirmSend {m n : PendingMutation} (confirmation : SendConfirmation) : m.isSend = true →
      confirmSendMutation m confirmation = .ok n → Transition m n
  | fail {m n : PendingMutation} : failMutationTerminal m = .ok n → Transition m n

/-- Equal, keyword sets by their members. -/
def SamePayload : Payload → Payload → Prop
  | .send left, .send right => left = right
  | .keyword leftId left, .keyword rightId right =>
    leftId = rightId ∧ (∀ k, k ∈ left.add ↔ k ∈ right.add) ∧ ∀ k, k ∈ left.remove ↔ k ∈ right.remove
  | .mailboxMembership leftId left, .mailboxMembership rightId right => leftId = rightId ∧ left = right
  | _, _ => False

/-- The same mutation, whatever its phase. -/
structure SameMutation (m n : PendingMutation) : Prop where
  mutationId : m.mutationId = n.mutationId
  accountKey : m.accountKey = n.accountKey
  createdAt : m.createdAt = n.createdAt
  payload : SamePayload m.payload n.payload

/-- One transition makes the other mutation of the one. -/
def Obtainable (m n : PendingMutation) : Prop := ∃ n', Transition m n' ∧ SameMutation n' n ∧ n'.lifecycle = n.lifecycle

/-! ## Decoded mutations -/

/-- What is true of a mutation that was decoded. -/
structure Decoded (m : PendingMutation) : Prop where
  count : match m.lifecycle with
    | .pending n => n = 0
    | l => l.attemptCount ≠ 0 ∧ l.attemptCount ≤ maxSafeInteger
  confirmed : ∀ n confirmation, m.lifecycle = .confirmed n confirmation →
    if m.isSend then ∃ c, confirmation = some c ∧ c.emailId.accountKey = m.accountKey else confirmation = none
  payload : match m.payload with
    | .send intent => intent.identityId.accountKey = m.accountKey
    | .keyword emailId change => emailId.accountKey = m.accountKey ∧ change.add.Nodup ∧ change.remove.Nodup
    | .mailboxMembership emailId change =>
      emailId.accountKey = m.accountKey ∧ ∀ id ∈ change.add ++ change.remove, id.accountKey = m.accountKey

theorem readLifecycle_count {C : Type} {l : IpcLifecycle Rat C} {confirmation : Option SendConfirmation} (h : SafeLifecycle l) :
    match readLifecycle l confirmation with
    | .pending n => n = 0
    | l => l.attemptCount ≠ 0 ∧ l.attemptCount ≤ maxSafeInteger := by
  obtain ⟨n, hn, hsafe, hphase⟩ := h
  cases l with
  | pending k => rfl
  | retrying k t =>
    obtain rfl : k = n := hn
    exact ⟨by simpa [readLifecycle, Lifecycle.attemptCount] using hphase.1, by simpa [readLifecycle, Lifecycle.attemptCount] using hsafe⟩
  | inFlight k | confirmed k c | failedTerminal k =>
    obtain rfl : k = n := hn
    have hpositive : n ≠ 0 := hphase
    exact ⟨by simpa [readLifecycle, Lifecycle.attemptCount] using hpositive, by simpa [readLifecycle, Lifecycle.attemptCount] using hsafe⟩

theorem decoded {v : IpcPendingMutation Rat} {m : PendingMutation} (h : decodePendingMutation v = .ok m) : Decoded m := by
  obtain ⟨⟨⟨-, -, -, hpayload⟩, hts⟩, rfl⟩ := decodePendingMutation_ok.1 h
  cases v with
  | send mutationId accountKey createdAt intent lifecycle =>
    refine ⟨readLifecycle_count (safeLifecycle_iff.2 ⟨hpayload.2.1, hts.1⟩), fun n c hl => ?_, hpayload.1.1⟩
    cases lifecycle with
    | confirmed k confirmation =>
      cases hl
      exact ⟨readConfirmation confirmation, rfl, hpayload.2.2 confirmation rfl⟩
    | _ => cases hl
  | keyword mutationId accountKey createdAt emailId change lifecycle =>
    refine ⟨readLifecycle_count (safeLifecycle_iff.2 ⟨hpayload.2.2, hts.1⟩), fun n c hl => ?_, hpayload.1.1,
      nodup_foldl_setAdd List.nodup_nil, nodup_foldl_setAdd List.nodup_nil⟩
    cases lifecycle <;> cases hl
    rfl
  | mailboxMembership mutationId accountKey createdAt emailId change lifecycle =>
    refine ⟨readLifecycle_count (safeLifecycle_iff.2 ⟨hpayload.2.2, hts.1⟩), fun n c hl => ?_, hpayload.1.1, ?_⟩
    · cases lifecycle <;> cases hl
      rfl
    · change ∀ id ∈ change.add.map readMailboxId ++ change.remove.map readMailboxId, _
      rw [← List.map_append, List.forall_mem_map]
      exact fun id hid => (hpayload.2.1.1 id hid).1

/-! ## The memory engine -/

theorem setsEqual_iff {left right : List String} (hl : left.Nodup) (hr : right.Nodup) :
    Memory.setsEqual left right = true ↔ ∀ k, k ∈ left ↔ k ∈ right := by
  simp only [Memory.setsEqual, Bool.and_eq_true, decide_eq_true_eq, List.all_eq_true, List.contains_iff_mem]
  constructor
  · rintro ⟨hlength, hall⟩
    have hperm : left.Perm right := (List.subperm_of_subset hl hall).perm_of_length_le hlength.ge
    exact fun k => hperm.mem_iff
  · intro h
    exact ⟨((List.perm_ext_iff_of_nodup hl hr).2 h).length_eq, fun k => (h k).1⟩

theorem payloadsEqual_refl (p : Payload) : Memory.payloadsEqual p p = true := by
  cases p <;> simp [Memory.payloadsEqual, Memory.setsEqual]

theorem sameImmutableMutation_iff {m n : PendingMutation} (hm : Decoded m) (hn : Decoded n) :
    Memory.sameImmutableMutation m n = true ↔ SameMutation m n := by
  have hpayloads : Memory.payloadsEqual m.payload n.payload = true ↔ SamePayload m.payload n.payload := by
    have hmp := hm.payload
    have hnp := hn.payload
    cases hmk : m.payload <;> cases hnk : n.payload <;> simp only [hmk, hnk] at hmp hnp <;>
      simp only [Memory.payloadsEqual, SamePayload, Bool.and_eq_true, decide_eq_true_eq, Bool.false_eq_true]
    · rw [setsEqual_iff hmp.2.1 hnp.2.1, setsEqual_iff hmp.2.2 hnp.2.2, and_assoc]
    · rename_i leftId left rightId right
      obtain ⟨_, _⟩ := left
      obtain ⟨_, _⟩ := right
      simp [and_assoc]
  simp only [Memory.sameImmutableMutation, Memory.mutationsEqual, PendingMutation.replaceLifecycle, Bool.and_eq_true,
    decide_true, and_true, hpayloads]
  constructor
  · rintro ⟨⟨⟨ha, hid⟩, hc⟩, hp⟩
    exact ⟨of_decide_eq_true hid, of_decide_eq_true ha, of_decide_eq_true hc, hp⟩
  · rintro ⟨hid, ha, hc, hp⟩
    exact ⟨⟨⟨decide_eq_true ha, decide_eq_true hid⟩, decide_eq_true hc⟩, hp⟩

/-- A replacement of the mutation that is stored. -/
theorem memory_replaces {s : Memory.MemoryState} {m n : PendingMutation}
    (hs : s.mutations.get? (m.accountKey, m.mutationId) = some m) :
    (∃ s', s.replacePendingMutationIfCurrent m n = .ok s') ↔
      Memory.sameImmutableMutation m n = true ∧ Memory.validTransition m n = true := by
  have hcurrent : Memory.mutationsEqual m m = true := by simp [Memory.mutationsEqual, payloadsEqual_refl]
  simp only [Memory.MemoryState.replacePendingMutationIfCurrent, hs, hcurrent, Bool.true_and, Bool.and_eq_true]
  split
  · rename_i h
    exact ⟨fun _ => h, fun _ => ⟨_, rfl⟩⟩
  · rename_i h
    refine ⟨?_, fun hv => absurd hv h⟩
    rintro ⟨_, hok⟩
    exact absurd hok (by simp [Memory.conflict])

/-! ## Phases -/

theorem SamePayload.refl (p : Payload) : SamePayload p p := by
  cases p <;> simp [SamePayload]

/-- The mutation in another phase is the same mutation. -/
theorem sameMutation_replaceLifecycle {m n : PendingMutation} {l : Lifecycle} :
    SameMutation (m.replaceLifecycle l) n ↔ SameMutation m n :=
  ⟨fun h => ⟨h.mutationId, h.accountKey, h.createdAt, h.payload⟩, fun h => ⟨h.mutationId, h.accountKey, h.createdAt, h.payload⟩⟩

theorem SameMutation.isSend {m n : PendingMutation} (h : SameMutation m n) : m.isSend = n.isSend := by
  have hp := h.payload
  revert hp
  unfold PendingMutation.isSend
  cases m.payload <;> cases n.payload <;> simp [SamePayload]

/-- An attempt that is under way can end. -/
theorem endAttempt_inFlight {message : String} {next : Nat → Lifecycle} {m : PendingMutation} {k : Nat}
    (hl : m.lifecycle = .inFlight k) (hk : k ≠ 0 ∧ k ≤ maxSafeInteger) :
    endAttempt message next m = .ok (m.replaceLifecycle (next k)) := by
  have hcheck : assertStartedAttemptCount k = .ok () := if_neg (by omega)
  simp only [endAttempt, hl, hcheck]
  rfl

/-- A transition leads to the next phase, and keeps the mutation. -/
theorem transition_phase {m n' : PendingMutation} (h : Transition m n') :
    n' = m.replaceLifecycle n'.lifecycle ∧ ∀ n, n.lifecycle = n'.lifecycle → Memory.validTransition m n = true := by
  cases h with
  | start h =>
    obtain ⟨hfrom, rfl⟩ := startMutationAttempt_ok h
    refine ⟨rfl, fun n hn => ?_⟩
    rcases hfrom with hl | ⟨k, t, hl⟩ <;>
      simp [Memory.validTransition, hl, hn, PendingMutation.attemptCount, Lifecycle.attemptCount]
  | retry t h | confirmUpdate _ h | fail h =>
    obtain ⟨hl, rfl⟩ := endAttempt_ok h
    refine ⟨rfl, fun n hn => ?_⟩
    rw [Memory.validTransition, hl, hn]
    simp
  | confirmSend c _ h =>
    obtain ⟨hl, rfl⟩ := confirmSendMutation_ok h
    refine ⟨rfl, fun n hn => ?_⟩
    rw [Memory.validTransition, hl, hn]
    simp

/-- Whatever phase may come next, a transition leads to it. -/
theorem exists_transition {m n : PendingMutation} (hm : Decoded m) (hn : Decoded n) (hsame : SameMutation m n)
    (h : Memory.validTransition m n = true) : Transition m (m.replaceLifecycle n.lifecycle) := by
  have hmc := hm.count
  have hnc := hn.count
  cases hml : m.lifecycle with
  | pending k =>
    simp only [hml] at hmc
    subst hmc
    cases hnl : n.lifecycle with
    | inFlight j =>
      obtain rfl : j = 1 := by simpa [Memory.validTransition, hml, hnl] using h
      exact .start (by simp [startMutationAttempt, hml])
    | _ => simp [Memory.validTransition, hml, hnl] at h
  | retrying k t =>
    simp only [hml] at hmc
    cases hnl : n.lifecycle with
    | inFlight j =>
      obtain rfl : j = k + 1 := by simpa [Memory.validTransition, hml, hnl] using h
      simp only [hnl] at hnc
      have hk : assertStartedAttemptCount k = .ok () := if_neg (by simp only [Lifecycle.attemptCount] at hmc; omega)
      have hnext : assertStartedAttemptCount (k + 1) = .ok () := if_neg (by simp only [Lifecycle.attemptCount] at hnc; omega)
      exact .start (by simp [startMutationAttempt, hml, hk, hnext, bind, Except.bind])
    | _ => simp [Memory.validTransition, hml, hnl] at h
  | inFlight k =>
    simp only [hml] at hmc
    cases hnl : n.lifecycle with
    | retrying j t =>
      obtain rfl : j = k := by simpa [Memory.validTransition, hml, hnl] using h
      exact .retry t (endAttempt_inFlight hml hmc)
    | confirmed j c =>
      obtain rfl : j = k := by simpa [Memory.validTransition, hml, hnl] using h
      have hc := hn.confirmed _ _ hnl
      rw [← hsame.isSend] at hc
      cases hsend : m.isSend with
      | false =>
        obtain rfl : c = none := by simpa [hsend] using hc
        exact .confirmUpdate hsend (endAttempt_inFlight hml hmc)
      | true =>
        obtain ⟨confirmation, rfl, haccount⟩ : ∃ x, c = some x ∧ x.emailId.accountKey = n.accountKey := by simpa [hsend] using hc
        have hcheck : assertStartedAttemptCount j = .ok () := if_neg (by simp only [Lifecycle.attemptCount] at hmc; omega)
        exact .confirmSend confirmation hsend (by
          simp [confirmSendMutation, hml, hcheck, bind, Except.bind, haccount, hsame.accountKey])
    | failedTerminal j =>
      obtain rfl : j = k := by simpa [Memory.validTransition, hml, hnl] using h
      exact .fail (endAttempt_inFlight hml hmc)
    | _ => simp [Memory.validTransition, hml, hnl] at h
  | confirmed k c => simp [Memory.validTransition, hml] at h
  | failedTerminal k => simp [Memory.validTransition, hml] at h

theorem obtainable_iff {m n : PendingMutation} (hm : Decoded m) (hn : Decoded n) :
    Obtainable m n ↔ SameMutation m n ∧ Memory.validTransition m n = true := by
  constructor
  · rintro ⟨n', htransition, hsame, hlifecycle⟩
    obtain ⟨hn', hvalid⟩ := transition_phase htransition
    rw [hn', sameMutation_replaceLifecycle] at hsame
    exact ⟨hsame, hvalid n hlifecycle.symm⟩
  · rintro ⟨hsame, hvalid⟩
    exact ⟨_, exists_transition hm hn hsame hvalid, sameMutation_replaceLifecycle.2 hsame, rfl⟩

end Boxplot.Ipc
