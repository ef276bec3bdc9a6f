import Mathlib.Algebra.Order.BigOperators.Group.List
import Mathlib.Algebra.Order.Group.Nat
import Mathlib.Data.List.Pairwise
import Mathlib.Data.List.Sort
import Mathlib.Data.Nat.Find
import Mathlib.Order.Interval.Set.Basic
/-!
# Maximal runs

The maximal runs of consecutive numbers in a bounded set. Ranges with gaps
between them are the maximal runs of the numbers they cover, and these numbers,
range by range, ascend.
-/

namespace Boxplot.Lib

/-! ## Runs of a set -/

/-- All from `start` on before `stop`, and neither the one before nor `stop`. -/
structure MaximalRun (P : Set ℕ) (start stop : ℕ) : Prop where
  lt : start < stop
  inside : Set.Ico start stop ⊆ P
  stop_notMem : stop ∉ P
  before_notMem : ∀ n, n + 1 = start → n ∉ P

variable {P : Set ℕ} {start stop start' stop' x : ℕ}

/-- A run begins no later than one that reaches it. -/
theorem MaximalRun.start_le (h : MaximalRun P start stop) (h' : MaximalRun P start' stop') (hs : start' ≤ start)
    (he : start < stop') : start ≤ start' := by
  by_contra hlt
  obtain ⟨n, rfl⟩ : ∃ n, start = n + 1 := ⟨start - 1, by omega⟩
  exact h.before_notMem n rfl (h'.inside ⟨by omega, by omega⟩)

theorem MaximalRun.stop_le (h : MaximalRun P start stop) (h' : MaximalRun P start' stop') (hs : start ≤ stop') : stop ≤ stop' := by
  by_contra hlt
  exact h'.stop_notMem (h.inside ⟨hs, by omega⟩)

/-- Runs that share a number are one. -/
theorem MaximalRun.unique (h : MaximalRun P start stop) (h' : MaximalRun P start' stop') (hx : x ∈ Set.Ico start stop)
    (hx' : x ∈ Set.Ico start' stop') : start = start' ∧ stop = stop' := by
  obtain ⟨hs, he⟩ := hx
  obtain ⟨hs', he'⟩ := hx'
  have hstart : start = start' := by
    rcases Nat.le_total start start' with hle | hle
    · exact le_antisymm hle (h'.start_le h hle (by omega))
    · exact le_antisymm (h.start_le h' hle (by omega)) hle
  exact ⟨hstart, le_antisymm (h.stop_le h' (by omega)) (h'.stop_le h (by omega))⟩

/-- Of two runs, the one that begins earlier ends before the other begins. -/
theorem MaximalRun.gap (h : MaximalRun P start stop) (h' : MaximalRun P start' stop') (hlt : start < start') : stop < start' := by
  by_contra hle
  obtain ⟨n, rfl⟩ : ∃ n, start' = n + 1 := ⟨start' - 1, by omega⟩
  exact h'.before_notMem n rfl (h.inside ⟨by omega, by omega⟩)

/-- Each number of a bounded set is in a run. -/
theorem exists_maximalRun {bound : ℕ} (hbound : ∀ p ∈ P, p < bound) (hx : x ∈ P) :
    ∃ start stop, MaximalRun P start stop ∧ x ∈ Set.Ico start stop := by
  classical
  have hstop : ∃ n, x < n ∧ n ∉ P := ⟨max bound (x + 1), by omega, fun h => absurd (hbound _ h) (by omega)⟩
  have hstart : ∃ n, n ≤ x ∧ Set.Icc n x ⊆ P := ⟨x, le_rfl, fun p hp => (le_antisymm hp.1 hp.2) ▸ hx⟩
  obtain ⟨hlt, hend⟩ := Nat.find_spec hstop
  obtain ⟨hle, hinside⟩ := Nat.find_spec hstart
  refine ⟨Nat.find hstart, Nat.find hstop, ⟨by omega, fun p hp => ?_, hend, fun n hn hmem => ?_⟩, hle, hlt⟩
  · by_cases hpx : p ≤ x
    · exact hinside ⟨hp.1, hpx⟩
    · exact not_not.1 fun hnot => Nat.find_min hstop hp.2 ⟨by omega, hnot⟩
  · -- the run could begin one earlier
    refine Nat.find_min hstart (m := n) (by omega) ⟨by omega, fun p hp => ?_⟩
    rcases Nat.eq_or_lt_of_le hp.1 with rfl | hlt
    · exact hmem
    · exact hinside ⟨by omega, hp.2⟩

/-! ## Ranges -/

/-- Ranges that are not empty, in order, with a gap between any two. -/
def Separated (ranges : List (ℕ × ℕ)) : Prop := (∀ r ∈ ranges, r.1 < r.2) ∧ ranges.Pairwise fun r r' => r.2 < r'.1

/-- The numbers of the ranges. -/
def positions (ranges : List (ℕ × ℕ)) : List ℕ := ranges.flatMap fun r => List.range' r.1 (r.2 - r.1)

/-- The maximal runs of a set, in order. -/
def RunsOf (P : Set ℕ) (ranges : List (ℕ × ℕ)) : Prop :=
  ranges.Pairwise (fun r r' => r.1 < r'.1) ∧ ∀ r, r ∈ ranges ↔ MaximalRun P r.1 r.2

variable {ranges : List (ℕ × ℕ)} {r : ℕ × ℕ} {p : ℕ}

theorem separated_cons : Separated (r :: ranges) ↔ r.1 < r.2 ∧ (∀ r' ∈ ranges, r.2 < r'.1) ∧ Separated ranges := by
  simp only [Separated, List.forall_mem_cons, List.pairwise_cons]
  tauto

theorem mem_positions : p ∈ positions ranges ↔ ∃ r ∈ ranges, p ∈ Set.Ico r.1 r.2 := by
  simp only [positions, List.mem_flatMap, List.mem_range'_1, Set.mem_Ico]
  refine exists_congr fun r => and_congr_right fun _ => ?_
  omega

theorem Separated.sorted (h : Separated ranges) : (positions ranges).Pairwise (· < ·) := by
  rw [positions, List.pairwise_flatMap]
  refine ⟨fun r _ => List.pairwise_lt_range', h.2.imp fun hgap x hx y hy => ?_⟩
  rw [List.mem_range'_1] at hx hy
  omega

/-- Two ranges are one, or one ends before the other begins. -/
theorem Separated.gap (h : Separated ranges) {r' : ℕ × ℕ} (hr : r ∈ ranges) (hr' : r' ∈ ranges) :
    r = r' ∨ r.2 < r'.1 ∨ r'.2 < r.1 := by
  have hpair : ranges.Pairwise fun a b => a.2 < b.1 ∨ b.2 < a.1 := h.2.imp .inl
  by_cases heq : r = r'
  · exact .inl heq
  · have : Std.Symm fun a b : ℕ × ℕ => a.2 < b.1 ∨ b.2 < a.1 := ⟨fun _ _ => Or.symm⟩
    exact .inr (hpair.forall hr hr' heq)

theorem Separated.maximalRun (h : Separated ranges) (hr : r ∈ ranges) : MaximalRun {p | p ∈ positions ranges} r.1 r.2 where
  lt := h.1 r hr
  inside p hp := mem_positions.2 ⟨r, hr, hp⟩
  stop_notMem hmem := by
    obtain ⟨r', hr', hp⟩ := mem_positions.1 hmem
    have hlt := h.1 r hr
    rcases h.gap hr hr' with rfl | hgap | hgap
    · exact absurd hp.2 (lt_irrefl _)
    · exact absurd hp.1 (Nat.not_le.2 hgap)
    · exact absurd hp.2 (by omega)
  before_notMem n hn hmem := by
    obtain ⟨r', hr', hp⟩ := mem_positions.1 hmem
    have hlt := h.1 r hr
    rcases h.gap hr hr' with rfl | hgap | hgap
    · exact absurd hp.1 (by omega)
    · exact absurd hp.1 (by omega)
    · exact absurd hp.2 (by omega)

/-- Separated ranges are the runs of their numbers. -/
theorem Separated.runsOf (h : Separated ranges) : RunsOf {p | p ∈ positions ranges} ranges := by
  refine ⟨?_, fun r => ⟨h.maximalRun, fun hrun => ?_⟩⟩
  · refine h.2.imp_of_mem fun hr _ hgap => ?_
    exact (h.1 _ hr).trans hgap
  · have hmem : r.1 ∈ Set.Ico r.1 r.2 := ⟨le_rfl, hrun.lt⟩
    obtain ⟨r', hr', hp⟩ := mem_positions.1 (hrun.inside hmem)
    obtain ⟨hstart, hstop⟩ := hrun.unique (h.maximalRun hr') hmem hp
    exact (Prod.ext hstart hstop : r = r') ▸ hr'

/-- The runs of a bounded set are separated and have its numbers. -/
theorem RunsOf.separated {bound : ℕ} (hbound : ∀ p ∈ P, p < bound) (h : RunsOf P ranges) :
    Separated ranges ∧ ∀ p, p ∈ positions ranges ↔ p ∈ P := by
  refine ⟨⟨fun r hr => ((h.2 r).1 hr).lt, ?_⟩, fun p => ⟨fun hp => ?_, fun hp => ?_⟩⟩
  · exact h.1.imp_of_mem fun hr hr' hlt => ((h.2 _).1 hr).gap ((h.2 _).1 hr') hlt
  · obtain ⟨r, hr, hmem⟩ := mem_positions.1 hp
    exact ((h.2 r).1 hr).inside hmem
  · obtain ⟨start, stop, hrun, hmem⟩ := exists_maximalRun hbound hp
    exact mem_positions.2 ⟨(start, stop), (h.2 (start, stop)).2 hrun, hmem⟩

/-- Separated ranges with these numbers, one after the other, are the runs of these numbers, which ascend. -/
theorem separated_positions_iff {numbers : List ℕ} : Separated ranges ∧ positions ranges = numbers ↔
    numbers.Pairwise (· < ·) ∧ RunsOf {p | p ∈ numbers} ranges := by
  constructor
  · rintro ⟨h, rfl⟩
    exact ⟨h.sorted, h.runsOf⟩
  · rintro ⟨hsorted, hruns⟩
    have hbound : ∀ p ∈ {p | p ∈ numbers}, p < numbers.sum + 1 := fun p hp => Nat.lt_succ_of_le (List.le_sum_of_mem hp)
    obtain ⟨h, hmem⟩ := hruns.separated hbound
    exact ⟨h, h.sorted.eq_of_mem_iff hsorted hmem⟩

end Boxplot.Lib
