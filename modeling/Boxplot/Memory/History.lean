import Boxplot.Lib.Records
import Boxplot.Memory.Commits
/-!
# The history of a mutation in memory

Over the runs of the memory engine in which no mutation id is staged again: the
record of a mutation only moves forward, by replacements of which one at most
names each of its versions.
-/

namespace Boxplot.Memory

open Domain Lib Sync MemoryState

/-! ## Records -/

/-- A set is the list of its members, each once. -/
def SetsDistinct : Payload → Prop
  | .keyword _ change => change.add.Nodup ∧ change.remove.Nodup
  | _ => True

inductive FixedPayload
  | send (intent : SendIntent)
  | keyword (emailId : ScopedEmailId) (add remove : Finset String)
  | mailboxMembership (emailId : ScopedEmailId) (change : MailboxMembershipChange)
  deriving DecidableEq

def fixedPayload : Payload → FixedPayload
  | .send intent => .send intent
  | .keyword emailId change => .keyword emailId change.add.toFinset change.remove.toFinset
  | .mailboxMembership emailId change => .mailboxMembership emailId change

def storedKey (m : PendingMutation) : AccountKey × MutationId := (m.accountKey, m.mutationId)

/-- The fields that no replacement may change. -/
def fixed (m : PendingMutation) : (AccountKey × MutationId) × MutationInstant × FixedPayload :=
  (storedKey m, m.createdAt, fixedPayload m.payload)

def phaseRank : Lifecycle → ℕ
  | .pending _ => 0
  | .inFlight _ => 1
  | .retrying _ _ => 2
  | .confirmed _ _ => 2
  | .failedTerminal _ => 2

def mutationRank (m : PendingMutation) : ℕ ×ₗ ℕ := toLex (m.attemptCount, phaseRank m.lifecycle)

def Confirmed (m : PendingMutation) : Prop := ∃ n confirmation, m.lifecycle = .confirmed n confirmation

theorem setsEqual_toFinset {left right : List String} (hleft : left.Nodup) (h : setsEqual left right = true) :
    left.toFinset = right.toFinset := by
  unfold setsEqual at h
  simp only [Bool.and_eq_true, decide_eq_true_eq, List.all_eq_true, List.contains_iff_mem] at h
  obtain ⟨hlength, hsubset⟩ := h
  apply Finset.eq_of_subset_of_card_le
  · intro k hk
    exact List.mem_toFinset.2 (hsubset k (List.mem_toFinset.1 hk))
  · rw [List.toFinset_card_of_nodup hleft, hlength]
    exact List.toFinset_card_le right

theorem payloadsEqual_fixed {left right : Payload} (hleft : SetsDistinct left) (h : payloadsEqual left right = true) :
    fixedPayload left = fixedPayload right := by
  cases left with
  | send intent =>
    cases right <;> simp only [payloadsEqual, decide_eq_true_eq, Bool.false_eq_true] at h
    rw [h]
  | keyword emailId change =>
    cases right <;> simp only [payloadsEqual, Bool.and_eq_true, decide_eq_true_eq, Bool.false_eq_true] at h
    obtain ⟨⟨rfl, hadd⟩, hremove⟩ := h
    change FixedPayload.keyword _ _ _ = FixedPayload.keyword _ _ _
    rw [setsEqual_toFinset hleft.1 hadd, setsEqual_toFinset hleft.2 hremove]
  | mailboxMembership emailId change =>
    cases right <;> simp only [payloadsEqual, Bool.and_eq_true, decide_eq_true_eq, Bool.false_eq_true] at h
    obtain ⟨⟨rfl, hadd⟩, hremove⟩ := h
    cases change
    cases hadd
    cases hremove
    rfl

theorem mutationsEqual_fixed {left right : PendingMutation} (hleft : SetsDistinct left.payload)
    (h : mutationsEqual left right = true) : fixed left = fixed right ∧ left.lifecycle = right.lifecycle := by
  unfold mutationsEqual at h
  simp only [Bool.and_eq_true, decide_eq_true_eq] at h
  obtain ⟨⟨⟨⟨haccount, hid⟩, hcreated⟩, hlifecycle⟩, hpayload⟩ := h
  refine ⟨?_, hlifecycle⟩
  unfold fixed storedKey
  rw [haccount, hid, hcreated, payloadsEqual_fixed hleft hpayload]

theorem sameImmutableMutation_fixed {expected next : PendingMutation} (hexpected : SetsDistinct expected.payload)
    (h : sameImmutableMutation expected next = true) : fixed expected = fixed next := by
  have hsets : SetsDistinct (expected.replaceLifecycle (.pending 0)).payload := hexpected
  exact (mutationsEqual_fixed hsets h).1

/-- A transition starts the next attempt, or ends the present one. -/
theorem validTransition_rank {expected next : PendingMutation} (hpending : ∀ n, expected.lifecycle = .pending n → n = 0)
    (h : validTransition expected next = true) : mutationRank expected < mutationRank next := by
  unfold mutationRank PendingMutation.attemptCount
  rw [Prod.Lex.toLex_lt_toLex]
  unfold validTransition at h
  cases hl : expected.lifecycle with
  | pending n =>
    have hn := hpending n hl
    cases hr : next.lifecycle <;> simp [hl, hr] at h
    simp [Lifecycle.attemptCount, hn, h]
  | inFlight n => cases hr : next.lifecycle <;> simp [hl, hr] at h <;> simp [Lifecycle.attemptCount, phaseRank, h]
  | retrying n at' =>
    cases hr : next.lifecycle <;> simp [hl, hr] at h
    simp [Lifecycle.attemptCount, h]
  | confirmed n c => cases hr : next.lifecycle <;> simp [hl, hr] at h
  | failedTerminal n => cases hr : next.lifecycle <;> simp [hl, hr] at h

/-! ## What an operation does to the mutations -/

/-- The mutation that an operation stages. -/
def SyncOperation.staged : SyncOperation → Option PendingMutation
  | .stageSendMutation value => some value
  | .applyOptimisticKeywordMutation value _ _ => some value
  | .applyOptimisticMailboxMembershipMutation value _ _ => some value
  | _ => none

/-- The mutations that an operation is given. -/
def SyncOperation.given : SyncOperation → List PendingMutation
  | .replacePendingMutationIfCurrent expected next => [expected, next]
  | op => op.staged.toList

inductive Mutates (s : MemoryState) (op : SyncOperation) (s' : MemoryState) : Prop
  | staged (m : PendingMutation) (hstaged : op.staged = some m) (hset : s'.mutations = s.mutations.set (storedKey m) m) : Mutates s op s'
  | replaced (expected next current : PendingMutation) (hop : op = .replacePendingMutationIfCurrent expected next)
    (hcurrent : s.mutations.get? (storedKey expected) = some current) (hequal : mutationsEqual current expected = true)
    (hsame : sameImmutableMutation expected next = true) (hvalid : validTransition expected next = true)
    (hset : s'.mutations = s.mutations.set (storedKey expected) next) : Mutates s op s'
  | removed (accountKey : AccountKey) (mutationId : MutationId) (current : PendingMutation)
    (hop : op = .removeConfirmedMutation accountKey mutationId)
    (hcurrent : s.mutations.get? (accountKey, mutationId) = some current) (hconfirmed : Confirmed current)
    (hset : s'.mutations = s.mutations.delete (accountKey, mutationId)) : Mutates s op s'
  | kept (hstaged : op.staged = none) (hop : ∀ expected next, op ≠ .replacePendingMutationIfCurrent expected next)
    (hsame : s'.mutations = s.mutations) : Mutates s op s'

theorem applyChange_mutations {s m : MemoryState} {commit : CollectionSyncCommit} {accountKey : AccountKey}
    (h : s.applyChange accountKey commit = .ok m) : m.mutations = s.mutations := by
  cases commit with
  | email next change =>
    obtain ⟨-, rfl⟩ := validated_ok h
    rfl
  | mailbox next change =>
    obtain ⟨-, rfl⟩ := validated_ok h
    rfl
  | identity next change =>
    obtain ⟨-, rfl⟩ := validated_ok h
    rfl

theorem mutates_of_ok {s s' : Engine} {op : SyncOperation} (h : op.commit s = .ok s') :
    Mutates s.toMemoryState op s'.toMemoryState := by
  have hcommits := commits_of_ok h
  cases hcommits with
  | account accounts => exact .kept rfl (by simp) rfl
  | collection hchange =>
    have hsame := applyChange_mutations hchange
    exact .kept rfl (by simp) hsame
  | body => exact .kept rfl (by simp) rfl
  | attachments copies => exact .kept rfl (by simp) rfl
  | view copy => exact .kept rfl (by simp) rfl
  | send => exact .staged _ rfl rfl
  | keyword => exact .staged _ rfl rfl
  | membership => exact .staged _ rfl rfl
  | @replaced expected next =>
    obtain ⟨m, hm, -⟩ := onMaps_ok (w := (·.replacePendingMutationIfCurrent expected next)) h
    unfold MemoryState.replacePendingMutationIfCurrent at hm
    split at hm
    · cases hm
    · rename_i current hcurrent
      split at hm
      · rename_i hc
        simp only [Bool.and_eq_true] at hc
        exact .replaced _ _ current rfl hcurrent hc.1.1 hc.1.2 hc.2 rfl
      · cases hm
  | @removed accountKey mutationId =>
    obtain ⟨m, hm, -⟩ := onMaps_ok (w := (·.removeConfirmedMutation accountKey mutationId)) h
    unfold MemoryState.removeConfirmedMutation at hm
    split at hm
    · rename_i n confirmation hcurrent
      exact .removed _ _ _ rfl hcurrent ⟨n, confirmation, rfl⟩ rfl
    · cases hm

/-! ## Runs -/

abbrev EngineHistory := List (Turn Engine SyncOperation)

/-- Sets have no member twice, and what is staged is pending, without an attempt, under an id that no mutation has had. -/
def Staged (h : EngineHistory) (op : SyncOperation) : Prop :=
  (∀ m ∈ op.given, SetsDistinct m.payload) ∧
    ∀ m, op.staged = some m → m.lifecycle = .pending 0 ∧ ∀ t ∈ h, t.after.mutations.get? (storedKey m) = none

/-- An operation runs whole, also if its promise rejects. -/
def engineTurn (s : Engine) (op : SyncOperation) : Option Engine := some (finalState (op.run s))

abbrev EngineRuns : EngineHistory → Prop := Turns Engine.empty engineTurn Staged

/-- A replacement of `expected` that went through. -/
def ReplacedCurrent (t : Turn Engine SyncOperation) (expected : PendingMutation) : Prop :=
  ∃ next, t.input = .replacePendingMutationIfCurrent expected next ∧ t.input.run t.before = .ok .ok t.after

/-- What is stored has its sets and its first phase as they were staged. -/
structure WellStored (s : Engine) : Prop where
  keyed : s.Keyed
  sets : s.mutations.Holds fun _ m => SetsDistinct m.payload
  pending : s.mutations.Holds fun _ m => ∀ n, m.lifecycle = .pending n → n = 0

theorem wellStored_empty : WellStored .empty := ⟨Engine.empty_keyed, OrderedMap.holds_empty, OrderedMap.holds_empty⟩

theorem not_pending_of_validTransition {expected next : PendingMutation} (h : validTransition expected next = true) (n : ℕ) :
    next.lifecycle ≠ .pending n := by
  intro hnext
  unfold validTransition at h
  rw [hnext] at h
  cases hl : expected.lifecycle <;> simp [hl] at h

theorem Mutates.wellStored {h : EngineHistory} {s s' : Engine} {op : SyncOperation}
    (hm : Mutates s.toMemoryState op s'.toMemoryState) (hs : WellStored s) (hkeyed : s'.Keyed) (ha : Staged h op) :
    WellStored s' := by
  refine ⟨hkeyed, ?_, ?_⟩
  · cases hm with
    | staged m hstaged hset =>
      rw [hset]
      refine hs.sets.set (ha.1 m ?_)
      cases op <;> cases hstaged <;> exact List.mem_singleton_self _
    | replaced expected next current hop _ _ _ _ hset =>
      rw [hset]
      exact hs.sets.set (ha.1 next (by simp [hop, SyncOperation.given]))
    | removed _ _ _ _ _ _ hset =>
      rw [hset]
      exact hs.sets.delete _
    | kept _ _ hsame =>
      rw [hsame]
      exact hs.sets
  · cases hm with
    | staged m hstaged hset =>
      rw [hset]
      refine hs.pending.set fun n hn => ?_
      rw [(ha.2 m hstaged).1] at hn
      cases hn
      rfl
    | replaced expected next current _ _ _ _ hvalid hset =>
      rw [hset]
      exact hs.pending.set fun n hn => absurd hn (not_pending_of_validTransition hvalid n)
    | removed _ _ _ _ _ _ hset =>
      rw [hset]
      exact hs.pending.delete _
    | kept _ _ hsame =>
      rw [hsame]
      exact hs.pending

theorem turn_mutates {s : Engine} (hs : s.Keyed) (op : SyncOperation) :
    Mutates s.toMemoryState op (finalState (op.run s)).toMemoryState ∨
      finalState (op.run s) = s ∧ ∀ s', op.run s ≠ .ok .ok s' := by
  rw [op.run_eq hs]
  unfold settle
  cases h : op.commit s with
  | ok s' =>
    have hm := mutates_of_ok h
    exact .inl hm
  | error failure => cases failure <;> exact .inr ⟨rfl, by simp⟩

theorem wellStored_run {h : EngineHistory} (hr : EngineRuns h) : WellStored (last .empty h) := by
  refine Turns.inv (P := fun h => WellStored (last Engine.empty h)) wellStored_empty ?_ hr
  intro h op s' _ hs ha hturn
  cases hturn
  rw [last_snoc]
  rcases turn_mutates hs.keyed op with hm | ⟨hsame, -⟩
  · exact hm.wellStored hs (settle_keyed hs.keyed) ha
  · rw [hsame]
    exact hs

def storedMutation (s : Engine) (key : AccountKey × MutationId) : Option PendingMutation := s.mutations.get? key

/-- A later phase of the same mutation. -/
def MovedOn (m m' : PendingMutation) : Prop := mutationRank m < mutationRank m' ∧ fixed m = fixed m'

/-- A replacement that goes through moves the record on that it names. -/
theorem replaced_movesOn {expected next current : PendingMutation} (hcurrent : SetsDistinct current.payload)
    (hexpected : SetsDistinct expected.payload) (hpending : ∀ n, current.lifecycle = .pending n → n = 0)
    (hequal : mutationsEqual current expected = true) (hsame : sameImmutableMutation expected next = true)
    (hvalid : validTransition expected next = true) :
    mutationRank current = mutationRank expected ∧ MovedOn current next := by
  obtain ⟨hfixed, hlifecycle⟩ := mutationsEqual_fixed hcurrent hequal
  have hrank : mutationRank current = mutationRank expected := by
    unfold mutationRank PendingMutation.attemptCount
    rw [hlifecycle]
  rw [hlifecycle] at hpending
  refine ⟨hrank, ?_, hfixed.trans (sameImmutableMutation_fixed hexpected hsame)⟩
  rw [hrank]
  exact validTransition_rank hpending hvalid

theorem engineTurn_forward {h : EngineHistory} {op : SyncOperation} {s' : Engine} (hr : EngineRuns h) (ha : Staged h op)
    (hturn : engineTurn (last .empty h) op = some s') :
    StepsForward storedMutation MovedOn Confirmed h (last .empty h) s' ∧
      ∀ e, ReplacedCurrent ⟨last .empty h, op, s'⟩ e → Replaces storedMutation storedKey mutationRank (last .empty h) s' e := by
  have hs := wellStored_run hr
  cases hturn
  rcases turn_mutates hs.keyed op with hm | ⟨hsame, hnot⟩
  · cases hm with
    | staged m hstaged hset =>
      have hfree : storedMutation (last .empty h) (storedKey m) = none := by
        rcases last_eq_or_mem Engine.empty h with hempty | ⟨t, ht, hafter⟩
        · rw [hempty]
          rfl
        · rw [← hafter]
          exact (ha.2 m hstaged).2 t ht
      refine ⟨.at (storedKey m) ?_ (fun _ _ => (ha.2 m hstaged).2) fun k hk => ?_, ?_⟩
      · rw [hfree]
        unfold storedMutation
        rw [hset, OrderedMap.get?_set_self]
        exact .created m
      · unfold storedMutation
        rw [hset, OrderedMap.get?_set_ne _ _ hk]
      · rintro e ⟨next, rfl, -⟩
        cases hstaged
    | replaced expected next current hop hcurrent hequal hsame hvalid hset =>
      have hexpected : SetsDistinct expected.payload := ha.1 expected (by simp [hop, SyncOperation.given])
      obtain ⟨hrank, hmoved⟩ := replaced_movesOn (hs.sets _ _ hcurrent) hexpected
        (hs.pending _ _ hcurrent) hequal hsame hvalid
      have hafter : storedMutation (finalState (op.run (last .empty h))) (storedKey expected) = some next := by
        unfold storedMutation
        rw [hset, OrderedMap.get?_set_self]
      refine ⟨.at (storedKey expected) ?_ (fun hnone => absurd (hcurrent.symm.trans hnone) (by simp)) fun k hk => ?_, ?_⟩
      · rw [hafter, show storedMutation (last .empty h) (storedKey expected) = some current from hcurrent]
        exact .moved hmoved
      · unfold storedMutation
        rw [hset, OrderedMap.get?_set_ne _ _ hk]
      · rintro e ⟨next', hinput, -⟩
        cases hop.symm.trans hinput
        exact ⟨current, next, hcurrent, hafter, hrank, hmoved.1⟩
    | removed accountKey mutationId current hop hcurrent hconfirmed hset =>
      have hafter : storedMutation (finalState (op.run (last .empty h))) (accountKey, mutationId) = none := by
        unfold storedMutation
        rw [hset, OrderedMap.get?_delete, if_pos rfl]
      refine ⟨.at (accountKey, mutationId) ?_ (fun _ hsome => absurd hafter hsome) fun k hk => ?_, ?_⟩
      · rw [hafter, show storedMutation (last .empty h) (accountKey, mutationId) = some current from hcurrent]
        exact .removed hconfirmed
      · unfold storedMutation
        rw [hset, OrderedMap.get?_delete, if_neg hk]
      · rintro e ⟨next, hinput, -⟩
        cases hop.symm.trans hinput
    | kept hstaged hop hsame =>
      refine ⟨.same fun k => by unfold storedMutation; rw [hsame], ?_⟩
      rintro e ⟨next, hinput, -⟩
      exact absurd hinput (hop e next)
  · refine ⟨.same fun k => by rw [hsame], ?_⟩
    rintro e ⟨next, hinput, hrun⟩
    exact absurd hrun (hnot _)

/-- In memory, the mutations have a linear history. -/
theorem engine_linear {h : EngineHistory} (hr : EngineRuns h) :
    Linear storedMutation storedKey mutationRank (fixed · = fixed ·) Confirmed ReplacedCurrent .empty h := by
  refine linear_of_steps (fun _ _ _ => Eq.trans) (fun _ => rfl) ?_ hr
  intro h op s' hr ha hturn
  exact engineTurn_forward hr ha hturn

end Boxplot.Memory
