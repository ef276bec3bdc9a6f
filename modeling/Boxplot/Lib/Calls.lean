import Boxplot.Lib.OrderedMap
/-!
# Calls that wait for an answer

One side of a channel. A call draws the next id, waits under it, and settles:
with the answer to its id, or with what the caller makes of a timeout or of its
own end. An answer to an id that nothing waits under is dropped. Ids are not
drawn twice, so each call settles at most once, and with an answer to itself.
-/

namespace Boxplot.Lib

/-- Calls that ask a `Q`, and come out as an `O`. -/
structure Calls (K Q O : Type) where
  counter : Nat
  pending : OrderedMap K Q
  /-- In the order in which they settled. -/
  settled : List (K × Q × O)

namespace Calls

variable {K Q O : Type} [DecidableEq K]

omit [DecidableEq K] in
def empty : Calls K Q O := ⟨0, .empty, []⟩

section
variable (name : Nat → K)

def ask (s : Calls K Q O) (q : Q) : Calls K Q O :=
  { s with counter := s.counter + 1, pending := s.pending.set (name (s.counter + 1)) q }

def settle (s : Calls K Q O) (id : K) (o : O) : Calls K Q O :=
  match s.pending.get? id with
  | none => s
  | some q => { s with pending := s.pending.delete id, settled := s.settled ++ [(id, q, o)] }

/-- Whatever waits settles in one way. -/
def settleAll (s : Calls K Q O) (o : O) : Calls K Q O :=
  { s with pending := .empty, settled := s.settled ++ s.pending.entries.map fun e => (e.1, e.2, o) }

/-- The call of the id waits, or has settled. -/
def Asked (s : Calls K Q O) (id : K) (q : Q) : Prop := s.pending.get? id = some q ∨ ∃ o, (id, q, o) ∈ s.settled

/-- Every id that was drawn is of one call, which either waits or has settled once. -/
structure Exact (s : Calls K Q O) : Prop where
  drawn : ∀ id q, s.Asked id q → ∃ n, 1 ≤ n ∧ n ≤ s.counter ∧ id = name n
  asked : ∀ n, 1 ≤ n → n ≤ s.counter → ∃ q, s.Asked (name n) q
  apart : ∀ id q, s.pending.get? id = some q → id ∉ s.settled.map (·.1)
  once : (s.settled.map (·.1)).Nodup

end

variable {name : Nat → K} {s : Calls K Q O} {id : K} {q q' : Q} {o : O}

theorem Exact.empty (name : Nat → K) : (empty : Calls K Q O).Exact name where
  drawn := by
    rintro id q (hget | ⟨o, hmem⟩)
    · cases hget
    · cases hmem
  asked n h1 h0 := absurd h1 (by have : n ≤ 0 := h0; omega)
  apart := by rintro id q ⟨⟩
  once := List.nodup_nil

/-- One id, one question. -/
theorem Exact.unique (h : s.Exact name) (hq : s.Asked id q) (hq' : s.Asked id q') : q = q' := by
  rcases hq with hq | ⟨o, hq⟩
  · rcases hq' with hq' | ⟨o', hq'⟩
    · exact Option.some.inj (hq.symm.trans hq')
    · exact absurd (List.mem_map.2 ⟨_, hq', rfl⟩) (h.apart id q hq)
  · rcases hq' with hq' | ⟨o', hq'⟩
    · exact absurd (List.mem_map.2 ⟨_, hq, rfl⟩) (h.apart id q' hq')
    · have heq := List.inj_on_of_nodup_map h.once hq hq' rfl
      cases heq
      rfl

/-! ## Asking -/

/-- The id that is drawn next is new. -/
theorem Exact.new (h : s.Exact name) (hinj : Function.Injective name) : ¬ s.Asked (name (s.counter + 1)) q := by
  intro hasked
  obtain ⟨n, -, hle, heq⟩ := h.drawn _ q hasked
  have := hinj heq
  omega

theorem asked_ask (h : s.Exact name) (hinj : Function.Injective name) :
    (s.ask name q).Asked id q' ↔ s.Asked id q' ∨ (id = name (s.counter + 1) ∧ q' = q) := by
  unfold Asked ask
  dsimp only
  rw [OrderedMap.get?_set]
  by_cases hid : id = name (s.counter + 1)
  · subst hid
    have hnone : s.pending.get? (name (s.counter + 1)) ≠ some q' := fun hget => h.new hinj (.inl hget)
    rw [if_pos rfl]
    simp only [Option.some.injEq, hnone, false_or, true_and]
    exact ⟨fun h => h.elim (fun h => .inr h.symm) .inl, fun h => h.elim .inr (fun h => .inl h.symm)⟩
  · simp [hid]

theorem Exact.ask (h : s.Exact name) (hinj : Function.Injective name) (q : Q) : (s.ask name q).Exact name where
  drawn id q' hasked := by
    rcases (asked_ask h hinj).1 hasked with hold | ⟨rfl, rfl⟩
    · obtain ⟨n, h1, hle, rfl⟩ := h.drawn id q' hold
      exact ⟨n, h1, Nat.le_succ_of_le hle, rfl⟩
    · exact ⟨s.counter + 1, Nat.le_add_left _ _, le_rfl, rfl⟩
  asked n h1 hle := by
    by_cases hn : n = s.counter + 1
    · exact ⟨q, (asked_ask h hinj).2 (.inr ⟨by rw [hn], rfl⟩)⟩
    · have hle' : n ≤ s.counter + 1 := hle
      obtain ⟨q', hq'⟩ := h.asked n h1 (by omega)
      exact ⟨q', (asked_ask h hinj).2 (.inl hq')⟩
  apart id q' hget := by
    change id ∉ s.settled.map (·.1)
    by_cases hid : id = name (s.counter + 1)
    · rw [hid]
      intro hmem
      obtain ⟨x, hx, heq⟩ := List.mem_map.1 hmem
      refine h.new hinj (q := x.2.1) (.inr ⟨x.2.2, ?_⟩)
      rw [← heq]
      exact hx
    · refine h.apart id q' ?_
      rw [← OrderedMap.get?_set_ne _ q hid]
      exact hget
  once := h.once

/-! ## Settling -/

theorem settle_of_none (h : s.pending.get? id = none) : s.settle id o = s := by
  unfold settle
  rw [h]

theorem settle_of_some (h : s.pending.get? id = some q) :
    s.settle id o = { s with pending := s.pending.delete id, settled := s.settled ++ [(id, q, o)] } := by
  unfold settle
  rw [h]

theorem mem_settle {x : K × Q × O} :
    x ∈ (s.settle id o).settled ↔ x ∈ s.settled ∨ ∃ q, s.pending.get? id = some q ∧ x = (id, q, o) := by
  cases hget : s.pending.get? id with
  | none => simp [settle_of_none hget]
  | some q => simp [settle_of_some hget]

theorem get?_settle {i : K} : (s.settle id o).pending.get? i = if i = id then none else s.pending.get? i := by
  cases hget : s.pending.get? id with
  | none =>
    rw [settle_of_none hget]
    by_cases hi : i = id
    · rw [if_pos hi, hi, hget]
    · rw [if_neg hi]
  | some q =>
    rw [settle_of_some hget]
    exact OrderedMap.get?_delete _ _ _

@[simp] theorem counter_settle : (s.settle id o).counter = s.counter := by
  cases hget : s.pending.get? id with
  | none => rw [settle_of_none hget]
  | some q => rw [settle_of_some hget]

theorem asked_settle {i : K} : (s.settle id o).Asked i q ↔ s.Asked i q := by
  unfold Asked
  simp only [get?_settle, mem_settle]
  constructor
  · rintro (hget | ⟨o', hmem | ⟨q', hget, heq⟩⟩)
    · split at hget
      · cases hget
      · exact .inl hget
    · exact .inr ⟨o', hmem⟩
    · cases heq
      exact .inl hget
  · rintro (hget | ⟨o', hmem⟩)
    · by_cases hi : i = id
      · exact .inr ⟨o, .inr ⟨q, by rw [← hi]; exact hget, by rw [hi]⟩⟩
      · exact .inl (by rw [if_neg hi]; exact hget)
    · exact .inr ⟨o', .inl hmem⟩

theorem Exact.settle (h : s.Exact name) (id : K) (o : O) : (s.settle id o).Exact name where
  drawn i q hasked := by
    rw [counter_settle]
    exact h.drawn i q (asked_settle.1 hasked)
  asked n h1 hle := by
    rw [counter_settle] at hle
    obtain ⟨q, hq⟩ := h.asked n h1 hle
    exact ⟨q, asked_settle.2 hq⟩
  apart i q hget hmem := by
    rw [get?_settle] at hget
    split at hget
    · cases hget
    · rename_i hi
      obtain ⟨x, hx, rfl⟩ := List.mem_map.1 hmem
      rcases mem_settle.1 hx with hx | ⟨q', -, rfl⟩
      · exact h.apart _ q hget (List.mem_map.2 ⟨x, hx, rfl⟩)
      · exact hi rfl
  once := by
    cases hget : s.pending.get? id with
    | none =>
      rw [settle_of_none hget]
      exact h.once
    | some q =>
      rw [settle_of_some hget, List.map_append, List.nodup_append]
      refine ⟨h.once, List.nodup_singleton _, ?_⟩
      rintro i hi _ hid rfl
      obtain rfl := List.mem_singleton.1 hid
      exact h.apart _ q hget hi

theorem mem_settleAll {x : K × Q × O} :
    x ∈ (s.settleAll o).settled ↔ x ∈ s.settled ∨ s.pending.get? x.1 = some x.2.1 ∧ x.2.2 = o := by
  unfold settleAll
  rw [List.mem_append, List.mem_map]
  refine or_congr Iff.rfl ⟨?_, ?_⟩
  · rintro ⟨e, he, rfl⟩
    exact ⟨OrderedMap.get?_eq_some.2 he, rfl⟩
  · rintro ⟨hget, rfl⟩
    exact ⟨(x.1, x.2.1), OrderedMap.get?_eq_some.1 hget, rfl⟩

theorem asked_settleAll : (s.settleAll o).Asked id q ↔ s.Asked id q := by
  unfold Asked
  simp only [mem_settleAll]
  constructor
  · rintro (hget | ⟨o', hmem | ⟨hget, -⟩⟩)
    · cases hget
    · exact .inr ⟨o', hmem⟩
    · exact .inl hget
  · rintro (hget | ⟨o', hmem⟩)
    · exact .inr ⟨o, .inr ⟨hget, rfl⟩⟩
    · exact .inr ⟨o', .inl hmem⟩

theorem Exact.settleAll (h : s.Exact name) (o : O) : (s.settleAll o).Exact name where
  drawn i q hasked := h.drawn i q (asked_settleAll.1 hasked)
  asked n h1 hle := by
    obtain ⟨q, hq⟩ := h.asked n h1 hle
    exact ⟨q, asked_settleAll.2 hq⟩
  apart := by rintro i q ⟨⟩
  once := by
    change ((s.settled ++ s.pending.entries.map _).map _).Nodup
    rw [List.map_append, List.map_map, List.nodup_append]
    refine ⟨h.once, s.pending.nodup, ?_⟩
    rintro i hi _ hmem rfl
    obtain ⟨e, he, rfl⟩ := List.mem_map.1 hmem
    exact h.apart _ e.2 (OrderedMap.get?_eq_some.2 he) hi

end Calls

end Boxplot.Lib
