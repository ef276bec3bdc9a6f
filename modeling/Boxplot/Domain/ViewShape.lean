import Boxplot.Domain.Cached
import Boxplot.Lib.MaximalRuns
/-!
# Which views are accepted

The checks of `mailboxView` (`src/domain/mailbox-view.ts`) walk the ranges and
the items once. They accept the views whose coverage is the maximal runs of the
positions of their items.
-/

namespace Boxplot.Domain

open Lib

def MailboxViewCoverageRange.bounds (range : MailboxViewCoverageRange) : ℕ × ℕ := (range.start, range.endExclusive)

/-- The items ascend below the total, each email is there once and in the account of the view, and the runs are covered. -/
structure MailboxView.WellFormed (v : MailboxView) : Prop where
  ascending : (v.items.map (·.position)).Pairwise (· < ·)
  below : ∀ i ∈ v.items, i.position < v.total
  distinct : (v.items.map (·.emailId)).Nodup
  owned : ∀ i ∈ v.items, i.emailId.accountKey = v.spec.mailboxId.accountKey
  covered : RunsOf {p | p ∈ v.items.map (·.position)} (v.coverage.map (·.bounds))

/-- The ranges are separated and the numbers of all ranges, in order, are the positions. -/
theorem MailboxView.wellFormed_iff {v : MailboxView} : v.WellFormed ↔
    (Separated (v.coverage.map (·.bounds)) ∧ positions (v.coverage.map (·.bounds)) = v.items.map (·.position)) ∧
      (∀ i ∈ v.items, i.position < v.total) ∧ (v.items.map (·.emailId)).Nodup ∧
        ∀ i ∈ v.items, i.emailId.accountKey = v.spec.mailboxId.accountKey := by
  rw [separated_positions_iff]
  exact ⟨fun h => ⟨⟨h.ascending, h.covered⟩, h.below, h.distinct, h.owned⟩,
    fun ⟨⟨hascending, hcovered⟩, hbelow, hdistinct, howned⟩ => ⟨hascending, hbelow, hdistinct, howned, hcovered⟩⟩

/-- No range ends past the total. -/
theorem MailboxView.WellFormed.within {v : MailboxView} (h : v.WellFormed) {range : MailboxViewCoverageRange}
    (hrange : range ∈ v.coverage) : range.start < range.endExclusive ∧ range.endExclusive ≤ v.total := by
  have hrun := (h.covered.2 range.bounds).1 (List.mem_map_of_mem hrange)
  have hlt : range.start < range.endExclusive := hrun.lt
  have hlast : range.endExclusive - 1 ∈ v.items.map (·.position) :=
    hrun.inside ⟨Nat.le_sub_one_of_lt hlt, Nat.sub_one_lt_of_lt hlt⟩
  obtain ⟨i, hi, hposition⟩ := List.mem_map.1 hlast
  have hbelow := h.below i hi
  exact ⟨hlt, by omega⟩

/-! ## The ranges -/

theorem assertNonNegativeSafeInteger_ok {value : Nat} {fieldName : String} {u : Unit} :
    assertNonNegativeSafeInteger value fieldName = .ok u ↔ value ≤ maxSafeInteger := by
  rw [assertNonNegativeSafeInteger, typeErrorIf_ok, Nat.not_lt]

theorem validateCoverage_ok {total : Nat} {previousEnd : Option Nat} {coverage : List MailboxViewCoverageRange} {u : Unit} :
    validateCoverage total previousEnd coverage = .ok u ↔
      Separated (coverage.map (·.bounds)) ∧ (∀ r ∈ coverage, r.endExclusive ≤ maxSafeInteger ∧ r.endExclusive ≤ total) ∧
        ∀ stop ∈ previousEnd, ∀ r ∈ coverage, stop < r.start := by
  induction coverage generalizing previousEnd with
  | nil => simp [validateCoverage, Separated]
  | cons range rest ih =>
    simp only [validateCoverage, assertCoverageRangeShape, except_bind_eq_ok, assertNonNegativeSafeInteger_ok, typeErrorIf_ok, ih,
      List.map_cons, separated_cons, List.forall_mem_cons, List.forall_mem_map, MailboxViewCoverageRange.bounds]
    constructor
    · rintro ⟨-, ⟨-, hstart, -, hend, hshape⟩, -, htotal, -, hprevious, hsep, hrest, hlast⟩
      have hgap := hlast _ rfl
      refine ⟨⟨by omega, hgap, hsep⟩, ⟨⟨hend, by omega⟩, hrest⟩, fun stop hstop => ?_⟩
      obtain rfl : previousEnd = some stop := hstop
      have hlt : stop < range.start := by simpa using hprevious
      exact ⟨hlt, fun r hr => by have := hgap r hr; omega⟩
    · rintro ⟨⟨hlt, hgap, hsep⟩, ⟨⟨hend, htotal⟩, hrest⟩, hprevious⟩
      refine ⟨(), ⟨(), by omega, (), hend, by omega⟩, (), by omega, (), ?_, hsep, hrest, fun stop hstop => ?_⟩
      · cases previousEnd with
        | none => simp
        | some stop => simpa using (hprevious stop rfl).1
      · exact Option.some.inj hstop ▸ hgap

/-! ## The items -/

theorem validateItems_ok {accountKey : AccountKey} {previousPosition : Option Nat} {knownEmailIds : List ScopedEmailId}
    {items : List MailboxViewItem} {u : Unit} : validateItems accountKey previousPosition knownEmailIds items = .ok u ↔
      (items.map (·.position)).Pairwise (· < ·) ∧ (∀ position ∈ previousPosition, ∀ i ∈ items, position < i.position) ∧
        (∀ i ∈ items, i.position ≤ maxSafeInteger ∧ i.emailId.accountKey = accountKey ∧ i.emailId ∉ knownEmailIds) ∧
          (items.map (·.emailId)).Nodup := by
  induction items generalizing previousPosition knownEmailIds with
  | nil => simp [validateItems]
  | cons item rest ih =>
    simp only [validateItems, except_bind_eq_ok, assertNonNegativeSafeInteger_ok, typeErrorIf_ok, ih, List.map_cons, List.pairwise_cons,
      List.forall_mem_cons, List.forall_mem_map, List.nodup_cons, not_not, List.mem_append, List.mem_singleton, not_or]
    constructor
    · rintro ⟨-, hsafe, -, hprevious, -, howned, -, hnew, hsorted, hlast, hrest, hnodup⟩
      have hgap := hlast _ rfl
      refine ⟨⟨hgap, hsorted⟩, fun position hposition => ?_, ⟨⟨hsafe, howned, hnew⟩, fun i hi => ?_⟩, fun hmem => ?_, hnodup⟩
      · obtain rfl : previousPosition = some position := hposition
        have hlt : position < item.position := by simpa using hprevious
        exact ⟨hlt, fun i hi => hlt.trans (hgap i hi)⟩
      · exact ⟨(hrest i hi).1, (hrest i hi).2.1, (hrest i hi).2.2.1⟩
      · obtain ⟨i, hi, heq⟩ := List.mem_map.1 hmem
        exact (hrest i hi).2.2.2 heq
    · rintro ⟨⟨hgap, hsorted⟩, hprevious, ⟨⟨hsafe, howned, hnew⟩, hrest⟩, hmem, hnodup⟩
      refine ⟨(), hsafe, (), ?_, (), howned, (), hnew, hsorted, fun position hposition => ?_, fun i hi => ?_, hnodup⟩
      · cases previousPosition with
        | none => simp
        | some position => simpa using (hprevious position rfl).1
      · exact Option.some.inj hposition ▸ hgap
      · exact ⟨(hrest i hi).1, (hrest i hi).2.1, (hrest i hi).2.2, fun heq => hmem (heq ▸ List.mem_map_of_mem hi)⟩

/-! ## The items of the ranges -/

theorem range'_eq_nil {expected stop : Nat} (h : expected ≤ stop) : List.range' expected (stop - expected) = [] ↔ expected = stop := by
  rw [List.range'_eq_nil_iff]
  omega

/-- The items of a range go up to its end, and those left begin there or later. -/
theorem coverRange_ok {stop expected : Nat} (h : expected ≤ stop) {items left : List MailboxViewItem} :
    coverRange stop expected items = .ok (stop, left) ↔
      (∃ taken, items = taken ++ left ∧ taken.map (·.position) = List.range' expected (stop - expected)) ∧
        ∀ i ∈ left.head?, stop ≤ i.position := by
  induction items generalizing expected with
  | nil =>
    rw [coverRange, Except.ok.injEq, Prod.mk.injEq]
    constructor
    · rintro ⟨rfl, rfl⟩
      exact ⟨⟨[], rfl, by simp⟩, by simp⟩
    · rintro ⟨⟨taken, hnil, hpositions⟩, -⟩
      obtain ⟨rfl, rfl⟩ := List.append_eq_nil_iff.1 hnil.symm
      exact ⟨(range'_eq_nil h).1 hpositions.symm, rfl⟩
  | cons item rest ih =>
    by_cases hlt : item.position < stop
    · rw [coverRange, if_pos hlt]
      by_cases hplace : item.position = expected
      · have hrange : List.range' expected (stop - expected) = expected :: List.range' (expected + 1) (stop - (expected + 1)) := by
          rw [← List.range'_succ]
          congr 1
          omega
        rw [if_neg (not_not.2 hplace), ih (by omega), hrange]
        refine and_congr_left fun _ => ⟨?_, ?_⟩
        · rintro ⟨taken, rfl, hpositions⟩
          exact ⟨item :: taken, rfl, by rw [List.map_cons, hplace, hpositions]⟩
        · rintro ⟨taken, heq, hpositions⟩
          cases taken with
          | nil => cases hpositions
          | cons first taken =>
            obtain ⟨rfl, rfl⟩ := List.cons.inj heq
            exact ⟨taken, rfl, (List.cons.inj hpositions).2⟩
      · -- an item out of place
        rw [if_pos hplace]
        refine iff_of_false nofun ?_
        rintro ⟨⟨taken, heq, hpositions⟩, hhead⟩
        cases taken with
        | nil =>
          obtain rfl : item :: rest = left := heq
          exact absurd (hhead item rfl) (Nat.not_le.2 hlt)
        | cons first taken =>
          obtain ⟨rfl, rfl⟩ := List.cons.inj heq
          have hfirst := congrArg List.head? hpositions
          rw [List.map_cons, List.head?_cons, List.head?_range'] at hfirst
          split at hfirst
          · cases hfirst
          · exact hplace (Option.some.inj hfirst)
    · rw [coverRange, if_neg hlt, Except.ok.injEq, Prod.mk.injEq]
      constructor
      · rintro ⟨rfl, rfl⟩
        exact ⟨⟨[], rfl, by simp⟩, by simpa using hlt⟩
      · rintro ⟨⟨taken, heq, hpositions⟩, -⟩
        cases taken with
        | nil => exact ⟨(range'_eq_nil h).1 hpositions.symm, heq⟩
        | cons first taken =>
          obtain ⟨rfl, rfl⟩ := List.cons.inj heq
          have hmem : item.position ∈ List.range' expected (stop - expected) := hpositions ▸ List.mem_cons_self
          rw [List.mem_range'_1] at hmem
          omega

theorem validateCoverageItems_ok {coverage : List MailboxViewCoverageRange} {items : List MailboxViewItem} {u : Unit}
    (h : Separated (coverage.map (·.bounds))) :
    validateCoverageItems coverage items = .ok u ↔ positions (coverage.map (·.bounds)) = items.map (·.position) := by
  induction coverage generalizing items with
  | nil =>
    rw [validateCoverageItems, typeErrorIf_ok, not_not]
    change items = [] ↔ [] = items.map (·.position)
    rw [eq_comm (a := []), List.map_eq_nil_iff]
  | cons range rest ih =>
    rw [List.map_cons, separated_cons] at h
    obtain ⟨hlt, hgap, hrest⟩ := h
    have hlt : range.start < range.endExclusive := hlt
    have hpositions : positions ((range :: rest).map (·.bounds)) =
        List.range' range.start (range.endExclusive - range.start) ++ positions (rest.map (·.bounds)) := List.flatMap_cons
    simp only [validateCoverageItems, except_bind_eq_ok, typeErrorIf_ok, not_not, Prod.exists, hpositions]
    constructor
    · rintro ⟨_, left, hcover, -, rfl, hleft⟩
      obtain ⟨⟨taken, rfl, htaken⟩, -⟩ := (coverRange_ok (le_of_lt hlt)).1 hcover
      rw [(ih hrest).1 hleft, List.map_append, htaken]
    · intro heq
      obtain ⟨taken, left, rfl, htaken, hleft⟩ := List.map_eq_append_iff.1 heq.symm
      refine ⟨_, left, (coverRange_ok (le_of_lt hlt)).2 ⟨⟨taken, rfl, htaken⟩, fun i hi => ?_⟩, (), rfl, (ih hrest).2 hleft.symm⟩
      have hi : i ∈ left := List.mem_of_mem_head? hi
      obtain ⟨r, hr, hp⟩ := mem_positions.1 (hleft ▸ List.mem_map_of_mem hi)
      exact (le_of_lt (hgap r hr)).trans hp.1

/-- A view is accepted if its total is safe and it is well formed. -/
theorem mailboxView_ok {v v' : MailboxView} : mailboxView v = .ok v' ↔ v' = v ∧ v.total ≤ maxSafeInteger ∧ v.WellFormed := by
  simp only [mailboxView, except_bind_eq_ok, assertNonNegativeSafeInteger_ok, validateCoverage_ok, validateItems_ok, pure, Except.pure,
    Except.ok.injEq]
  constructor
  · rintro ⟨-, htotal, -, ⟨hsep, hends, -⟩, -, ⟨hsorted, -, hitems, hnodup⟩, _, hcovers, rfl⟩
    have hpositions := (validateCoverageItems_ok hsep).1 hcovers
    refine ⟨rfl, htotal, MailboxView.wellFormed_iff.2 ⟨⟨hsep, hpositions⟩, fun i hi => ?_, hnodup, fun i hi => (hitems i hi).2.1⟩⟩
    -- the position is in a range, which ends within the total
    obtain ⟨r, hr, hp⟩ := mem_positions.1 (hpositions ▸ List.mem_map_of_mem hi)
    obtain ⟨range, hrange, rfl⟩ := List.mem_map.1 hr
    exact hp.2.trans_le (hends range hrange).2
  · rintro ⟨rfl, htotal, h⟩
    obtain ⟨⟨hsep, hpositions⟩, hbelow, hnodup, howned⟩ := MailboxView.wellFormed_iff.1 h
    refine ⟨(), htotal, (), ⟨hsep, fun r hr => ?_, by simp⟩, (), ⟨h.ascending, by simp, fun i hi => ?_, hnodup⟩, (),
      (validateCoverageItems_ok hsep).2 hpositions, rfl⟩
    · have hend := (h.within hr).2
      exact ⟨hend.trans htotal, hend⟩
    · exact ⟨(le_of_lt (hbelow i hi)).trans htotal, howned i hi, List.not_mem_nil⟩

end Boxplot.Domain
