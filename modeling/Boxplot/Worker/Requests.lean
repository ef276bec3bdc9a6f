import Boxplot.Worker.Effects
/-!
# Requests, answers and openings

The requests of a run, those that were answered and those that something is
waited for. No request is answered twice, and openings differ by generation.
-/

namespace Boxplot.Worker

open Domain Lib Remote Outbox WorkerRuntime

abbrev History := List (Turn WorkerRuntime Input)

/-- The request that an input brings. -/
def brought : Input → Option String
  | .message m => some m.requestId
  | .expiry => none
  | .completion _ _ => none

def received (h : History) : List String := h.filterMap fun t => brought t.input

def answered (h : History) : List String := h.flatMap fun t => answersOf t.after.acts

/-- A request has a new id. -/
def Fresh (h : History) (i : Input) : Prop := ∀ r ∈ brought i, r ∉ received h

instance (h : History) (i : Input) : Decidable (Fresh h i) := inferInstanceAs (Decidable (∀ r ∈ brought i, r ∉ received h))

/-- The worker's runs with distinct request ids. -/
abbrev Runs (createJmapClient : Nat → String → String → JmapClient) : History → Prop :=
  Turns initial (turn createJmapClient) Fresh

def waiting (s : WorkerRuntime) : List String := s.outstanding.map (·.requestId)

variable {createJmapClient : Nat → String → String → JmapClient} {s s' : WorkerRuntime} {h : History} {i : Input} {r : String}

/-! ## One turn more -/

theorem received_snoc : received (h ++ [⟨s, i, s'⟩]) = received h ++ (brought i).toList := by
  unfold received
  rw [List.filterMap_append]
  cases hi : brought i <;> simp [hi]

theorem answered_snoc : answered (h ++ [⟨s, i, s'⟩]) = answered h ++ answersOf s'.acts := by
  unfold answered
  rw [List.flatMap_append]
  simp

theorem waiting_same (houtstanding : s'.outstanding = s.outstanding) : waiting s' = waiting s := by
  unfold waiting
  rw [houtstanding]

theorem count_erase {operation : Operation} (hmem : operation ∈ s.outstanding)
    (houtstanding : s'.outstanding = s.outstanding.erase operation) :
    (waiting s).count r = (waiting s').count r + [operation.requestId].count r := by
  unfold waiting
  rw [houtstanding, ((List.perm_cons_erase hmem).map (·.requestId)).count_eq]
  rw [List.map_cons, List.count_cons, List.count_singleton]

theorem count_begin {operation : Operation} (houtstanding : s'.outstanding = s.outstanding ++ [operation]) :
    (waiting s').count r = (waiting s).count r + [operation.requestId].count r := by
  unfold waiting
  rw [houtstanding, List.map_append, List.count_append, List.map_singleton]

/-- Whatever is answered or waited for was waited for before, or has just come. -/
theorem Effect.balance (he : Effect s i s') (r : String) :
    (answersOf s'.acts).count r + (waiting s').count r ≤ (waiting s).count r + (brought i).toList.count r := by
  cases he with
  | refused _ _ _ houtstanding hsaid =>
    rw [hsaid.1, waiting_same houtstanding, brought, Option.toList_some]
    omega
  | threw _ _ houtstanding hsaid =>
    rw [hsaid.1, waiting_same houtstanding, List.count_nil]
    omega
  | opens _ _ _ _ houtstanding hsaid =>
    rw [hsaid.1, count_begin houtstanding, brought, Option.toList_some, List.count_nil, Operation.requestId]
    omega
  | tornDown _ _ houtstanding hsaid =>
    rw [hsaid.1, waiting_same houtstanding, brought, Option.toList_some]
    omega
  | starts _ _ _ hid _ _ houtstanding hsaid =>
    rw [hsaid.1, count_begin houtstanding, hid, brought, Option.toList_some, List.count_nil]
    omega
  | expired _ houtstanding hsaid =>
    rw [hsaid.1, waiting_same houtstanding, List.count_nil]
    omega
  | installs hmem _ _ houtstanding hsaid =>
    rw [hsaid.1, count_erase hmem houtstanding, Operation.requestId]
    omega
  | dropped hmem _ _ houtstanding hsaid =>
    rw [hsaid.1, count_erase hmem houtstanding, List.count_nil]
    omega
  | failed hmem _ _ houtstanding hsaid =>
    rw [hsaid.1, count_erase hmem houtstanding, Operation.requestId]
    omega
  | ended hmem _ _ _ houtstanding hsaid =>
    rw [hsaid.1, count_erase hmem houtstanding]
    omega
  | expires hmem _ _ houtstanding hsaid =>
    rw [hsaid.1, count_erase hmem houtstanding]
    omega

/-! ## Answered at most once -/

/-- A request that was received is answered once or waited for at most, and nothing else is. -/
theorem answered_or_waiting (hr : Runs createJmapClient h) (r : String) :
    (answered h).count r + (waiting (last initial h)).count r ≤ (received h).count r ∧ (received h).count r ≤ 1 := by
  induction hr with
  | nil => exact ⟨le_rfl, Nat.zero_le _⟩
  | @snoc h i s' hr hfresh hturn ih =>
    obtain ⟨ihanswered, ihreceived⟩ := ih
    have hbalance := (effect_of_turn hturn).balance r
    rw [last_snoc, answered_snoc, received_snoc, List.count_append, List.count_append]
    dsimp only
    refine ⟨by omega, ?_⟩
    cases hi : brought i with
    | none => simpa using ihreceived
    | some r' =>
      have hnew : r' ∉ received h := hfresh r' hi
      rw [Option.toList_some, List.count_singleton]
      split
      · rename_i heq
        obtain rfl : r' = r := by simpa using heq
        rw [List.count_eq_zero.2 hnew]
      · exact ihreceived

/-! ## Openings -/

/-- Openings have different generations, and the one with the present generation has the present client. -/
structure Openings (s : WorkerRuntime) : Prop where
  bounded : ∀ r g c, .opening r g c ∈ s.outstanding → g ≤ s.sessionGeneration
  unique : ∀ r g c r' c', .opening r g c ∈ s.outstanding → .opening r' g c' ∈ s.outstanding → r = r' ∧ c = c'
  current : ∀ r c, .opening r s.sessionGeneration c ∈ s.outstanding →
    s.jmapClient = some c ∧ s.tokenManager.currentToken ≠ none

theorem Openings.subset (ho : Openings s) (hkept : Kept s s') (hsub : ∀ r g c, Operation.opening r g c ∈ s'.outstanding →
    .opening r g c ∈ s.outstanding) : Openings s' where
  bounded r g c hmem := by
    rw [hkept.generation]
    exact ho.bounded r g c (hsub r g c hmem)
  unique r g c r' c' hmem hmem' := ho.unique r g c r' c' (hsub r g c hmem) (hsub r' g c' hmem')
  current r c hmem := by
    rw [hkept.generation] at hmem
    obtain ⟨hclient, htoken⟩ := ho.current r c (hsub _ _ _ hmem)
    exact ⟨hkept.client.trans hclient, fun hnone => htoken (hkept.token hnone)⟩

/-- After a reset every opening that was waited for is stale. -/
theorem Openings.reset (ho : Openings s) (hreset : Reset s s') (hsub : ∀ r g c, Operation.opening r g c ∈ s'.outstanding →
    .opening r g c ∈ s.outstanding) : Openings s' where
  bounded r g c hmem := by
    rw [hreset.generation]
    exact (ho.bounded r g c (hsub r g c hmem)).trans (Nat.le_succ _)
  unique r g c r' c' hmem hmem' := ho.unique r g c r' c' (hsub r g c hmem) (hsub r' g c' hmem')
  current r c hmem := by
    rw [hreset.generation] at hmem
    have hbounded := ho.bounded _ _ _ (hsub _ _ _ hmem)
    omega

theorem Openings.opens (ho : Openings s) (hreset : Reset s s') {client : JmapClient} (hclient : s'.jmapClient = some client)
    (htoken : s'.tokenManager.currentToken ≠ none)
    (houtstanding : s'.outstanding = s.outstanding ++ [.opening r s'.sessionGeneration client]) : Openings s' := by
  -- the old ones have old generations
  have hold : ∀ r g c, .opening r g c ∈ s.outstanding → g < s'.sessionGeneration := by
    intro r g c hmem
    have hbounded := ho.bounded r g c hmem
    rw [hreset.generation]
    omega
  have hcases : ∀ r' g c, .opening r' g c ∈ s'.outstanding →
      .opening r' g c ∈ s.outstanding ∨ (r' = r ∧ g = s'.sessionGeneration ∧ c = client) := by
    intro r' g c hmem
    rw [houtstanding] at hmem
    rcases List.mem_append.1 hmem with hmem | hmem
    · exact .inl hmem
    · exact .inr (by simpa using hmem)
  constructor
  · intro r g c hmem
    rcases hcases r g c hmem with hmem | ⟨-, rfl, -⟩
    · exact (hold r g c hmem).le
    · exact le_rfl
  · intro r₁ g c₁ r₂ c₂ hmem₁ hmem₂
    rcases hcases r₁ g c₁ hmem₁ with hmem₁ | ⟨rfl, rfl, rfl⟩
    · rcases hcases r₂ g c₂ hmem₂ with hmem₂ | ⟨-, rfl, -⟩
      · exact ho.unique r₁ g c₁ r₂ c₂ hmem₁ hmem₂
      · exact absurd (hold _ _ _ hmem₁) (lt_irrefl _)
    · rcases hcases r₂ _ c₂ hmem₂ with hmem₂ | ⟨rfl, -, rfl⟩
      · exact absurd (hold _ _ _ hmem₂) (lt_irrefl _)
      · exact ⟨rfl, rfl⟩
  · intro r' c hmem
    rcases hcases r' _ c hmem with hmem | ⟨-, -, rfl⟩
    · exact absurd (hold _ _ _ hmem) (lt_irrefl _)
    · exact ⟨hclient, htoken⟩

theorem mem_of_erase {operation other : Operation} (houtstanding : s'.outstanding = s.outstanding.erase operation)
    (hmem : other ∈ s'.outstanding) : other ∈ s.outstanding := by
  rw [houtstanding] at hmem
  exact List.mem_of_mem_erase hmem

theorem Effect.openings (he : Effect s i s') (ho : Openings s) : Openings s' := by
  cases he with
  | refused _ _ hkept houtstanding _ => exact ho.subset hkept fun r g c hmem => houtstanding ▸ hmem
  | threw _ hkept houtstanding _ => exact ho.subset hkept fun r g c hmem => houtstanding ▸ hmem
  | opens _ hreset hclient htoken houtstanding _ => exact ho.opens hreset hclient htoken houtstanding
  | tornDown _ hreset houtstanding _ => exact ho.reset hreset fun r g c hmem => houtstanding ▸ hmem
  | starts _ _ hkept _ hother _ houtstanding _ =>
    apply ho.subset hkept
    intro r g c hmem
    rw [houtstanding] at hmem
    rcases List.mem_append.1 hmem with hmem | hmem
    · exact hmem
    · exact absurd (List.mem_singleton.1 hmem).symm (hother r g c)
  | expired hreset houtstanding _ => exact ho.reset hreset fun r g c hmem => houtstanding ▸ hmem
  | installs _ _ hinstalled houtstanding _ =>
    constructor
    · intro r g c hmem
      rw [hinstalled.generation]
      exact ho.bounded r g c (mem_of_erase houtstanding hmem)
    · intro r g c r' c' hmem hmem'
      exact ho.unique r g c r' c' (mem_of_erase houtstanding hmem) (mem_of_erase houtstanding hmem')
    · intro r c hmem
      rw [hinstalled.generation] at hmem
      rw [hinstalled.client, hinstalled.token]
      exact ho.current r c (mem_of_erase houtstanding hmem)
  | dropped _ _ hkept houtstanding _ => exact ho.subset hkept fun r g c => mem_of_erase houtstanding
  | failed _ _ hreset houtstanding _ => exact ho.reset hreset fun r g c => mem_of_erase houtstanding
  | ended _ _ _ hkept houtstanding _ => exact ho.subset hkept fun r g c => mem_of_erase houtstanding
  | expires _ _ hreset houtstanding _ => exact ho.reset hreset fun r g c => mem_of_erase houtstanding

theorem openings (hr : Runs createJmapClient h) : Openings (last initial h) := by
  apply hr.inv (P := fun h => Openings (last initial h))
  · exact ⟨by simp [initial], by simp [initial], by simp [initial]⟩
  · intro h i s' _ ho _ hturn
    rw [last_snoc]
    exact (effect_of_turn hturn).openings ho

end Boxplot.Worker
