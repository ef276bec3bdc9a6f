import Boxplot.Memory.History
import Boxplot.Memory.Isolation
import Boxplot.Persistence.History
import Boxplot.Persistence.Isolation
/-!
# What both engines guarantee

What holds of the records of mutations in memory holds of those in the database,
and both keep accounts apart. A request to the database is a `WriteOp` of the
account it names, once it has passed its scope validation. The engine itself
checks what its records say, so no write of one account reaches another,
validated or not.
-/

namespace Boxplot.Engines

open Lib

/-- In every run of either engine in which no mutation id is staged again, a stored mutation only moves forward with its fixed
fields as they are, at most one replacement of each of its versions goes through, and only a confirmed one is removed. -/
theorem mutations_linear :
    (∀ h, Memory.EngineRuns h → Linear Memory.storedMutation Memory.storedKey Memory.mutationRank
      (Memory.fixed · = Memory.fixed ·) Memory.Confirmed Memory.ReplacedCurrent .empty h) ∧
    ∀ draws h, Persistence.DbRuns draws h → Linear Persistence.storedMutation Persistence.storedKey Persistence.mutationRank
      (Persistence.fixed · = Persistence.fixed ·) Persistence.Confirmed Persistence.ReplacedCurrent (.empty draws) h :=
  ⟨fun _ => Memory.engine_linear, fun _ _ => Persistence.db_linear⟩

/-! ## A mutation that is claimed twice -/

def greeting : Domain.PendingMutation where
  mutationId := "m1"
  accountKey := "a"
  createdAt := "2026-08-28T12:00:00.000Z"
  payload := .send ⟨.plain, ⟨"a", "i"⟩, ⟨none, "ada@example.com"⟩, [], [⟨none, "bob@example.com"⟩], [], [], "Hi", ⟨"Hello", none⟩⟩
  lifecycle := .pending 0

/-- Two runners claim the mutation that both have read as pending. -/
def claimedTwice : List Memory.SyncOperation :=
  let claim : Memory.SyncOperation := .replacePendingMutationIfCurrent greeting (greeting.replaceLifecycle (.inFlight 1))
  [.registerAccount ⟨"a", ⟨"service", "remote"⟩⟩, .stageSendMutation greeting, claim, claim]

def storedGreeting : Persistence.PendingMutation where
  accountKey := "a"
  mutationId := "m1"
  createdAt := "2026-08-28T12:00:00.000Z"
  payload := .send ⟨.plain, "i", ⟨none, "ada@example.com"⟩, [], [⟨none, "bob@example.com"⟩], [], [], "Hi", ⟨"Hello", none⟩⟩
  lifecycle := .pending 0

def writtenTwice : List Persistence.WriteOp :=
  let claim : Persistence.WriteOp := .replacePendingMutationIfCurrent storedGreeting { storedGreeting with lifecycle := .inFlight 1 }
  [.registerAccount ⟨"a", "service", "remote"⟩, .stageSendMutation storedGreeting, claim, claim]

theorem claimedTwice_runs : ∃ h, Memory.EngineRuns h ∧ h.map (·.input) = claimedTwice := by
  have hclaim : ∀ h, Memory.Staged h (.replacePendingMutationIfCurrent greeting (greeting.replaceLifecycle (.inFlight 1))) := by
    intro h
    refine ⟨fun m hm => ?_, fun m hm => by cases hm⟩
    simp only [Memory.SyncOperation.given, List.mem_cons, List.not_mem_nil, or_false] at hm
    rcases hm with rfl | rfl <;> trivial
  have hregister : Memory.EngineRuns _ := Turns.nil.snoc (i := .registerAccount ⟨"a", ⟨"service", "remote"⟩⟩) ⟨(fun m hm => by cases hm), fun m hm => by cases hm⟩ rfl
  have hstage := hregister.snoc (i := .stageSendMutation greeting) ⟨?_, ?_⟩ rfl
  · exact ⟨_, (hstage.snoc (hclaim _) rfl).snoc (hclaim _) rfl, rfl⟩
  · intro m hm
    obtain rfl := List.mem_singleton.1 hm
    trivial
  · rintro m ⟨⟩
    refine ⟨rfl, fun t ht => ?_⟩
    obtain rfl := List.mem_singleton.1 ht
    rfl

theorem writtenTwice_runs : ∃ h, Persistence.DbRuns [] h ∧ h.map (·.input) = writtenTwice := by
  have hclaim : ∀ h, Persistence.Staged h
      (.replacePendingMutationIfCurrent storedGreeting { storedGreeting with lifecycle := .inFlight 1 }) := by
    rintro h m ⟨⟩
  have hregister : Persistence.DbRuns [] _ := Turns.nil.snoc (i := .registerAccount ⟨"a", "service", "remote"⟩)
    (fun m hm => by cases hm) rfl
  have hstage := hregister.snoc (i := .stageSendMutation storedGreeting) ?_ rfl
  · exact ⟨_, (hstage.snoc (hclaim _) rfl).snoc (hclaim _) rfl, rfl⟩
  · rintro m ⟨⟩
    refine ⟨rfl, fun t ht => ?_⟩
    obtain rfl := List.mem_singleton.1 ht
    rfl

theorem claimed_linear :
    (∃ h, h.map (·.input) = claimedTwice ∧ Linear Memory.storedMutation Memory.storedKey Memory.mutationRank
      (Memory.fixed · = Memory.fixed ·) Memory.Confirmed Memory.ReplacedCurrent .empty h) ∧
    ∃ h, h.map (·.input) = writtenTwice ∧ Linear Persistence.storedMutation Persistence.storedKey Persistence.mutationRank
      (Persistence.fixed · = Persistence.fixed ·) Persistence.Confirmed Persistence.ReplacedCurrent (.empty []) h := by
  obtain ⟨h, hr, hinputs⟩ := claimedTwice_runs
  obtain ⟨h', hr', hinputs'⟩ := writtenTwice_runs
  exact ⟨⟨h, hinputs, mutations_linear.1 h hr⟩, h', hinputs', mutations_linear.2 [] h' hr'⟩

/-! ## Accounts -/

/-- In every state an engine can reach, a write of one account leaves what every read of another account answers, whether the
write goes through or fails. -/
theorem accounts_isolated :
    (∀ s, Memory.Reachable s → ∀ op : Memory.SyncOperation, op.Valid → ∀ (b : Domain.AccountKey) (read : Memory.Read),
      read.of = some b → op.account ≠ b → read.answer (finalState (op.run s)) = read.answer s) ∧
    ∀ draws ops (op : Persistence.WriteOp) (read : Persistence.Read), read.of ≠ op.account →
      read.answer ((Persistence.runs draws ops).1.write op) = read.answer (Persistence.runs draws ops).1 :=
  ⟨fun _ hs _ hv _ _ hread hb => Memory.operation_isolated hs hv hread hb, fun draws ops op _ hread =>
    Persistence.write_isolated draws ops op hread⟩

/-- The emails of one account are destroyed in memory, and those of another are replaced in the database. -/
theorem accounts_isolated_letters :
    (Memory.Read.mailboxes "b").answer (finalState (Memory.destroyLetter.run (Memory.afterAll .empty Memory.cachedLetter))) =
      (Memory.Read.mailboxes "b").answer (Memory.afterAll .empty Memory.cachedLetter) ∧
    (Persistence.Read.mutations "b").answer ((Persistence.runs [] [.registerAccount ⟨"a", "service", "remote"⟩]).1.write
      (.applyCollectionSync (.emailReplace .absent ⟨"a", .email, "1"⟩ []))) =
      (Persistence.Read.mutations "b").answer (Persistence.runs [] [.registerAccount ⟨"a", "service", "remote"⟩]).1 :=
  ⟨accounts_isolated.1 _ Memory.reachable_cachedLetter Memory.destroyLetter trivial "b" _ rfl (by decide),
    accounts_isolated.2 [] _ _ _ (by decide)⟩

end Boxplot.Engines
