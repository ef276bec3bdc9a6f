import Boxplot.Lib.Records
import Boxplot.Persistence.Reads
import Boxplot.Persistence.Writes
/-!
# The history of a mutation in the database

Over the runs of the engine in which no mutation id is staged again: the record
of a mutation only moves forward, by replacements of which one at most names
each of its versions.
-/

namespace Boxplot.Persistence

open Lib

/-! ## Records -/

def storedKey (m : PendingMutation) : String × String := (m.accountKey, m.mutationId)

/-- The fields that no replacement may change. -/
def fixed (m : PendingMutation) : (String × String) × String × MutationPayload := (storedKey m, m.createdAt, m.payload)

def phaseRank : MutationLifecycle → ℕ
  | .pending _ => 0
  | .inFlight _ => 1
  | .retrying _ _ => 2
  | .confirmed _ _ => 2
  | .failedTerminal _ => 2

def mutationRank (m : PendingMutation) : ℕ ×ₗ ℕ := toLex (m.lifecycle.attemptCount.toNat, phaseRank m.lifecycle)

def Confirmed (m : PendingMutation) : Prop := ∃ n confirmation, m.lifecycle = .confirmed n confirmation

/-- A later phase of the same mutation. -/
def MovedOn (m m' : PendingMutation) : Prop := mutationRank m < mutationRank m' ∧ fixed m = fixed m'

theorem sameImmutable_fixed {a b : PendingMutation} (h : sameImmutable a b = true) : fixed a = fixed b := by
  unfold sameImmutable at h
  simp only [Bool.and_eq_true, decide_eq_true_eq] at h
  obtain ⟨⟨⟨haccount, hid⟩, hcreated⟩, hpayload⟩ := h
  unfold fixed storedKey
  rw [haccount, hid, hcreated, hpayload]

/-- A transition starts the next attempt, or ends the present one. -/
theorem validTransition_rank {a b : PendingMutation} (h : validTransition a b = true) : mutationRank a < mutationRank b := by
  unfold mutationRank
  rw [Prod.Lex.toLex_lt_toLex]
  unfold validTransition at h
  cases ha : a.lifecycle with
  | pending n =>
    cases hb : b.lifecycle <;> simp [ha, hb] at h
    obtain ⟨rfl, rfl⟩ := h
    exact .inl (by decide)
  | inFlight n => cases hb : b.lifecycle <;> simp [ha, hb] at h <;> simp [MutationLifecycle.attemptCount, phaseRank, h.2]
  | retrying n at' =>
    cases hb : b.lifecycle <;> simp [ha, hb] at h
    simp [MutationLifecycle.attemptCount, h.2]
  | confirmed n c => cases hb : b.lifecycle <;> simp [ha, hb] at h
  | failedTerminal n => cases hb : b.lifecycle <;> simp [ha, hb] at h

theorem movedOn_of_transition {a b : PendingMutation} (hsame : sameImmutable a b = true) (hvalid : validTransition a b = true) :
    MovedOn a b :=
  ⟨validTransition_rank hvalid, sameImmutable_fixed hsame⟩

/-! ## What a write does to the mutations -/

/-- The mutation that a row is read as. -/
def storedMutation (db : Db) (key : String × String) : Option PendingMutation := (db.readMutation key.1 key.2).toOption.join

theorem Faithful.storedMutation {db : Db} {j : Journal} (hj : Faithful db j) (key : String × String) :
    storedMutation db key = lastWritten j.mutations key := by
  unfold Persistence.storedMutation
  rw [show db.readMutation key.1 key.2 = .ok (lastWritten j.mutations key) from hj.mutations key]
  rfl

/-- The mutation that a write stages. -/
def WriteOp.staged : WriteOp → Option PendingMutation
  | .stageSendMutation m => some m
  | .applyOptimisticKeywordMutation m => some m
  | .applyOptimisticMailboxMembershipMutation m => some m
  | _ => none

inductive Mutates (db : Db) (op : WriteOp) (db' : Db) : Prop
  | staged (m : PendingMutation) (hstaged : op.staged = some m)
    (hset : ∀ k, storedMutation db' k = if k = storedKey m then some m else storedMutation db k) : Mutates db op db'
  | replaced (expected next : PendingMutation) (hop : op = .replacePendingMutationIfCurrent expected next)
    (hcurrent : storedMutation db (storedKey expected) = some expected) (hmoved : MovedOn expected next)
    (hset : ∀ k, storedMutation db' k = if k = storedKey expected then some next else storedMutation db k) : Mutates db op db'
  | removed (key : String × String) (current : PendingMutation) (hop : op = .removeConfirmedMutation key.1 key.2)
    (hcurrent : storedMutation db key = some current) (hconfirmed : Confirmed current)
    (hset : ∀ k, storedMutation db' k = if k = key then none else storedMutation db k) : Mutates db op db'
  | kept (hstaged : op.staged = none) (hop : ∀ expected next, op ≠ .replacePendingMutationIfCurrent expected next)
    (hsame : ∀ k, storedMutation db' k = storedMutation db k) : Mutates db op db'

theorem foldl_mutations {α : Type} {f : Journal → α → Journal} (hf : ∀ j a, (f j a).mutations = j.mutations) (l : List α) (j : Journal) :
    (l.foldl f j).mutations = j.mutations := by
  induction l generalizing j with
  | nil => rfl
  | cons a rest ih => exact (ih (f j a)).trans (hf j a)

theorem applyCommit_mutations (j : Journal) (a : String) (commit : CollectionSyncCommit) :
    (j.applyCommit a commit).mutations = j.mutations := by
  cases commit with
  | emailDelta =>
    unfold Journal.applyCommit
    rw [foldl_mutations, foldl_mutations]
    · exact fun _ _ => rfl
    · exact fun _ _ => rfl
  | emailReplace =>
    unfold Journal.applyCommit
    rw [foldl_mutations]
    · rfl
    · exact fun _ _ => rfl
  | mailboxDelta =>
    unfold Journal.applyCommit
    rw [foldl_mutations, foldl_mutations]
    · exact fun _ _ => rfl
    · exact fun _ _ => rfl
  | mailboxReplace =>
    unfold Journal.applyCommit
    rw [foldl_mutations]
    · rfl
    · exact fun _ _ => rfl
  | identityDelta =>
    unfold Journal.applyCommit
    rw [foldl_mutations, foldl_mutations]
    · exact fun _ _ => rfl
    · exact fun _ _ => rfl
  | identityReplace =>
    unfold Journal.applyCommit
    rw [foldl_mutations]
    · rfl
    · exact fun _ _ => rfl

theorem changedEmail_mutations (j : Journal) (a id : String) (change : KeywordChange) :
    (j.changedEmail a id change).mutations = j.mutations := by
  unfold Journal.changedEmail
  split <;> rfl

variable {db db' : Db} {j : Journal}

/-- The mutations after a write, where the journal says what they were. -/
theorem stored_of_journal (hj : Faithful db j) {op : WriteOp} (hrun : op.run db = .ok db') (k : String × String) :
    storedMutation db' k = lastWritten (j.record op).mutations k :=
  (faithful_run hj hrun).storedMutation k

theorem kept_of_record (hj : Faithful db j) {op : WriteOp} (hrun : op.run db = .ok db')
    (hsame : (j.record op).mutations = j.mutations) (k : String × String) : storedMutation db' k = storedMutation db k := by
  rw [stored_of_journal hj hrun, hsame, hj.storedMutation]

theorem set_of_record (hj : Faithful db j) {op : WriteOp} (hrun : op.run db = .ok db') {m : PendingMutation}
    (hset : (j.record op).mutations = .wrote (storedKey m) m :: j.mutations) (k : String × String) :
    storedMutation db' k = if k = storedKey m then some m else storedMutation db k := by
  rw [stored_of_journal hj hrun, hset, lastWritten_wrote, hj.storedMutation]

theorem mutates_of_ok (hj : Faithful db j) {op : WriteOp} (hrun : op.run db = .ok db') : Mutates db op db' := by
  cases op with
  | registerAccount v => exact .kept rfl (by simp) (kept_of_record hj hrun rfl)
  | applyCollectionSync commit => exact .kept rfl (by simp) (kept_of_record hj hrun (applyCommit_mutations j _ commit))
  | cacheEmailBody v => exact .kept rfl (by simp) (kept_of_record hj hrun rfl)
  | replaceAttachmentRefs a email refs => exact .kept rfl (by simp) (kept_of_record hj hrun rfl)
  | replaceMailboxView v => exact .kept rfl (by simp) (kept_of_record hj hrun rfl)
  | stageSendMutation m => exact .staged m rfl (set_of_record hj hrun rfl)
  | applyOptimisticKeywordMutation m =>
    refine .staged m rfl (set_of_record hj hrun ?_)
    change db.applyOptimisticKeywordMutation m = .ok db' at hrun
    unfold Db.applyOptimisticKeywordMutation at hrun
    split at hrun
    · rename_i id change hpayload
      simp only [Journal.record, hpayload, Journal.wroteMutation, changedEmail_mutations]
      rfl
    · cases hrun
  | applyOptimisticMailboxMembershipMutation m =>
    refine .staged m rfl (set_of_record hj hrun ?_)
    change db.applyOptimisticMailboxMembershipMutation m = .ok db' at hrun
    unfold Db.applyOptimisticMailboxMembershipMutation at hrun
    split at hrun
    · rename_i email change hpayload
      simp only [Journal.record, hpayload, Journal.wroteMutation, Journal.wroteMemberships]
      rfl
    · cases hrun
  | replacePendingMutationIfCurrent expected next =>
    have hset := set_of_record hj hrun (m := next) rfl
    change db.replacePendingMutationIfCurrent expected next = .ok db' at hrun
    simp only [Db.replacePendingMutationIfCurrent, transaction_ok, bind_eq_ok, given_ok, conflictUnless_ok, orConflict_ok,
      query_ok, decide_eq_true_eq, Bool.and_eq_true] at hrun
    obtain ⟨u, _, _, ⟨-, rfl⟩, _, _, ⟨-, rfl⟩, _, _, ⟨⟨hsame, hvalid⟩, rfl⟩, current, _, ⟨hread, rfl⟩, _, _, ⟨rfl, rfl⟩, -⟩ := hrun
    have hmoved := movedOn_of_transition hsame hvalid
    have hkey : storedKey expected = storedKey next := congrArg Prod.fst hmoved.2
    rw [← hkey] at hset
    refine .replaced expected next rfl ?_ hmoved hset
    unfold storedMutation
    rw [show db.readMutation (storedKey expected).1 (storedKey expected).2 = .ok (some expected) from hread]
    rfl
  | removeConfirmedMutation a id =>
    have hafter : ∀ k, storedMutation db' k = if k = (a, id) then none else storedMutation db k := by
      intro k
      rw [stored_of_journal hj hrun, hj.storedMutation]
      simp [Journal.record, Journal.removedMutation]
    change db.removeConfirmedMutation a id = .ok db' at hrun
    simp only [Db.removeConfirmedMutation, transaction_ok, bind_eq_ok, query_ok] at hrun
    obtain ⟨u, m, _, ⟨hread, rfl⟩, hrun⟩ := hrun
    split at hrun
    · rename_i account mutationId createdAt payload n confirmation
      refine .removed (a, id) ⟨account, mutationId, createdAt, payload, .confirmed n confirmation⟩ rfl ?_ ⟨n, confirmation, rfl⟩ hafter
      unfold storedMutation
      rw [hread]
      rfl
    · cases hrun

/-! ## Runs -/

abbrev DbHistory := List (Turn Db WriteOp)

/-- What is staged is pending, without an attempt, under an id that no mutation has had. -/
def Staged (h : DbHistory) (op : WriteOp) : Prop :=
  ∀ m, op.staged = some m → m.lifecycle = .pending 0 ∧ ∀ t ∈ h, storedMutation t.after (storedKey m) = none

def dbTurn (db : Db) (op : WriteOp) : Option Db := some (db.write op)

abbrev DbRuns (draws : List Int) : DbHistory → Prop := Turns (Db.empty draws) dbTurn Staged

/-- A replacement of `expected` that went through. -/
def ReplacedCurrent (t : Turn Db WriteOp) (expected : PendingMutation) : Prop :=
  ∃ next, t.input = .replacePendingMutationIfCurrent expected next ∧ t.input.run t.before = .ok t.after

theorem faithful_history {draws : List Int} {h : DbHistory} (hr : DbRuns draws h) : ∃ j, Faithful (last (Db.empty draws) h) j := by
  refine Turns.inv (P := fun h => ∃ j, Faithful (last (Db.empty draws) h) j) ⟨_, faithful_empty draws⟩ ?_ hr
  rintro h op s' _ ⟨j, hj⟩ - hturn
  cases hturn
  rw [last_snoc]
  unfold Db.write
  cases hrun : op.run (last (Db.empty draws) h) with
  | ok db' => exact ⟨_, faithful_run hj hrun⟩
  | error e => exact ⟨j, hj⟩

theorem storedMutation_empty (draws : List Int) (k : String × String) : storedMutation (Db.empty draws) k = none :=
  (faithful_empty draws).storedMutation k

theorem dbTurn_forward {draws : List Int} {h : DbHistory} {op : WriteOp} {s' : Db} (hr : DbRuns draws h) (ha : Staged h op)
    (hturn : dbTurn (last (Db.empty draws) h) op = some s') :
    StepsForward storedMutation MovedOn Confirmed h (last (Db.empty draws) h) s' ∧
      ∀ e, ReplacedCurrent ⟨last (Db.empty draws) h, op, s'⟩ e →
        Replaces storedMutation storedKey mutationRank (last (Db.empty draws) h) s' e := by
  obtain ⟨j, hj⟩ := faithful_history hr
  cases hturn
  unfold Db.write
  cases hrun : op.run (last (Db.empty draws) h) with
  | error e =>
    refine ⟨.same fun k => rfl, ?_⟩
    rintro e ⟨next, -, hok⟩
    exact absurd (hrun.symm.trans hok) (by simp)
  | ok db' =>
    cases mutates_of_ok hj hrun with
    | staged m hstaged hset =>
      have hfree : storedMutation (last (Db.empty draws) h) (storedKey m) = none := by
        rcases last_eq_or_mem (Db.empty draws) h with hempty | ⟨t, ht, hafter⟩
        · rw [hempty]
          exact storedMutation_empty draws _
        · rw [← hafter]
          exact (ha m hstaged).2 t ht
      refine ⟨.at (storedKey m) ?_ (fun _ _ => (ha m hstaged).2) fun k hk => ?_, ?_⟩
      · rw [hfree, hset, if_pos rfl]
        exact .created m
      · rw [hset, if_neg hk]
      · rintro e ⟨next, hinput, -⟩
        change op = _ at hinput
        subst hinput
        cases hstaged
    | replaced expected next hop hcurrent hmoved hset =>
      refine ⟨.at (storedKey expected) ?_ (fun hnone => absurd (hcurrent.symm.trans hnone) (by simp)) fun k hk => ?_, ?_⟩
      · rw [hcurrent, hset, if_pos rfl]
        exact .moved hmoved
      · rw [hset, if_neg hk]
      · rintro e ⟨next', hinput, -⟩
        cases hop.symm.trans hinput
        exact ⟨expected, next, hcurrent, (hset _).trans (if_pos rfl), rfl, hmoved.1⟩
    | removed key current hop hcurrent hconfirmed hset =>
      have hafter : storedMutation db' key = none := (hset key).trans (if_pos rfl)
      refine ⟨.at key ?_ (fun _ hsome => absurd hafter hsome) fun k hk => ?_, ?_⟩
      · rw [hafter, hcurrent]
        exact .removed hconfirmed
      · rw [hset, if_neg hk]
      · rintro e ⟨next, hinput, -⟩
        cases hop.symm.trans hinput
    | kept hstaged hop hsame =>
      refine ⟨.same hsame, ?_⟩
      rintro e ⟨next, hinput, -⟩
      exact absurd hinput (hop e next)

/-- In the database, the mutations have a linear history. -/
theorem db_linear {draws : List Int} {h : DbHistory} (hr : DbRuns draws h) :
    Linear storedMutation storedKey mutationRank (fixed · = fixed ·) Confirmed ReplacedCurrent (Db.empty draws) h := by
  refine linear_of_steps (fun _ _ _ => Eq.trans) (storedMutation_empty draws) ?_ hr
  intro h op s' hr ha hturn
  exact dbTurn_forward hr ha hturn

end Boxplot.Persistence
