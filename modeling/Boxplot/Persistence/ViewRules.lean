import Boxplot.Lib.MaximalRuns
import Boxplot.Persistence.Statements
/-!
# Which views are stored

`validate_view` compares all numbers of the ranges with the positions, and the
table takes each email of a view once.
-/

namespace Boxplot.Persistence

open Lib

variable {db db' : Db} {v : MailboxView} {u : Unit}

def CoverageRange.bounds (r : CoverageRange) : ℕ × ℕ := (r.start.toNat, r.endExclusive.toNat)

/-! ## The checks -/

theorem validateCoverage_ok {total : UInt64} {last : Option UInt64} {coverage : List CoverageRange} :
    validateCoverage total last coverage = .ok u ↔
      Separated (coverage.map (·.bounds)) ∧ (∀ r ∈ coverage, r.endExclusive.toNat ≤ total.toNat) ∧
        ∀ stop ∈ last, ∀ r ∈ coverage, stop.toNat < r.start.toNat := by
  induction coverage generalizing last with
  | nil => simp [validateCoverage, Separated]
  | cons range rest ih =>
    simp only [validateCoverage, except_bind_eq_ok, corruptIf_ok, ih, List.map_cons, separated_cons, List.forall_mem_cons,
      List.forall_mem_map, CoverageRange.bounds, not_or, UInt64.lt_iff_toNat_lt, UInt64.le_iff_toNat_le, Nat.not_le, Nat.not_lt]
    constructor
    · rintro ⟨-, ⟨hlt, htotal, hlast⟩, hsep, hrest, hgap⟩
      have hgap := hgap _ rfl
      refine ⟨⟨hlt, hgap, hsep⟩, ⟨htotal, hrest⟩, fun stop hstop => ?_⟩
      obtain rfl : last = some stop := hstop
      have hstop : stop.toNat < range.start.toNat := by simpa using hlast
      exact ⟨hstop, fun r hr => by have := hgap r hr; omega⟩
    · rintro ⟨⟨hlt, hgap, hsep⟩, ⟨htotal, hrest⟩, hlast⟩
      refine ⟨(), ⟨hlt, htotal, ?_⟩, hsep, hrest, fun stop hstop => ?_⟩
      · cases last with
        | none => simp
        | some stop => simpa using (hlast stop rfl).1
      · exact Option.some.inj hstop ▸ hgap

/-- The ranges are separated, their numbers are the positions, and these are below the total. -/
def MailboxView.Covered (v : MailboxView) : Prop :=
  (Separated (v.coverage.map (·.bounds)) ∧ positions (v.coverage.map (·.bounds)) = v.items.map (·.position.toNat)) ∧
    ∀ i ∈ v.items, i.position.toNat < v.total.toNat

theorem flatMap_positions (coverage : List CoverageRange) : coverage.flatMap (·.positions) = positions (coverage.map (·.bounds)) := by
  rw [positions, List.flatMap_map]
  rfl

theorem MailboxView.Covered.within (h : v.Covered) {r : CoverageRange} (hr : r ∈ v.coverage) :
    r.endExclusive.toNat ≤ v.total.toNat := by
  obtain ⟨⟨hsep, hpositions⟩, hbelow⟩ := h
  have hlt : r.start.toNat < r.endExclusive.toNat := hsep.1 r.bounds (List.mem_map_of_mem hr)
  have hlast : r.endExclusive.toNat - 1 ∈ positions (v.coverage.map (·.bounds)) :=
    mem_positions.2 ⟨r.bounds, List.mem_map_of_mem hr, Nat.le_sub_one_of_lt hlt, Nat.sub_one_lt_of_lt hlt⟩
  rw [hpositions] at hlast
  obtain ⟨i, hi, hposition⟩ := List.mem_map.1 hlast
  have := hbelow i hi
  omega

def MailboxViewSpec.Known (spec : MailboxViewSpec) : Prop :=
  spec.filterKind = "all" ∧ spec.sortProperty = "receivedAt" ∧ spec.sortDirection ∈ ["ascending", "descending"]

theorem validateView_ok : validateView v = .ok u ↔ (v.spec.Known ∧ v.queryState ≠ "") ∧ v.Covered := by
  simp only [validateView, except_bind_eq_ok, corruptIf_ok, validateCoverage_ok, not_or, not_not, flatMap_positions, not_exists, not_and,
    UInt64.not_le, UInt64.lt_iff_toNat_lt]
  constructor
  · rintro ⟨-, ⟨hfilter, hproperty, hdirection, hstate⟩, -, ⟨hsep, -⟩, -, ⟨-, hbelow⟩, hpositions⟩
    exact ⟨⟨⟨hfilter, hproperty, hdirection⟩, hstate⟩, ⟨hsep, hpositions⟩, hbelow⟩
  · rintro ⟨⟨⟨hfilter, hproperty, hdirection⟩, hstate⟩, h⟩
    obtain ⟨⟨hsep, hpositions⟩, hbelow⟩ := id h
    refine ⟨(), ⟨hfilter, hproperty, hdirection, hstate⟩, (), ⟨hsep, fun r hr => h.within hr, by simp⟩, (), ⟨?_, hbelow⟩, hpositions⟩
    -- the numbers of separated ranges ascend
    have hsorted := hsep.sorted
    rw [hpositions, List.pairwise_map] at hsorted
    rw [List.isChain_map]
    exact hsorted.isChain

/-! ## The rows -/

theorem MailboxView.Covered.safe (h : v.Covered) (htotal : v.total.toNat ≤ maxSafeInteger) :
    (∀ r ∈ v.coverage, r.start.toNat ≤ maxSafeInteger ∧ r.endExclusive.toNat ≤ maxSafeInteger) ∧
      ∀ i ∈ v.items, i.position.toNat ≤ maxSafeInteger := by
  refine ⟨fun r hr => ?_, fun i hi => (le_of_lt (h.2 i hi)).trans htotal⟩
  have hlt : r.start.toNat < r.endExclusive.toNat := h.1.1.1 r.bounds (List.mem_map_of_mem hr)
  have hend := (h.within hr).trans htotal
  exact ⟨(le_of_lt hlt).trans hend, hend⟩

def coverageRows (v : MailboxView) : List CoverageRow := v.coverage.map fun r => ⟨r.start.toNat, r.endExclusive.toNat⟩

def itemRows (v : MailboxView) : List (Int × String) := v.items.map fun i => (i.position.toNat, i.emailJmapId)

theorem mapM_coverageRowOf (h : ∀ r ∈ v.coverage, r.start.toNat ≤ maxSafeInteger ∧ r.endExclusive.toNat ≤ maxSafeInteger) :
    v.coverage.mapM coverageRowOf = .ok (coverageRows v) := by
  rw [mapM_eq_ok, coverageRows, List.forall₂_map_right_iff, List.forall₂_same]
  intro r hr
  rw [coverageRowOf, toI64_ok.2 ⟨(h r hr).1, rfl⟩, toI64_ok.2 ⟨(h r hr).2, rfl⟩]
  rfl

theorem mapM_itemRowOf (h : ∀ i ∈ v.items, i.position.toNat ≤ maxSafeInteger) : v.items.mapM itemRowOf = .ok (itemRows v) := by
  rw [mapM_eq_ok, itemRows, List.forall₂_map_right_iff, List.forall₂_same]
  intro i hi
  rw [itemRowOf, toI64_ok.2 ⟨h i hi, rfl⟩]
  rfl

/-- The texts of a view are texts to the schema too, which looks at what is before the first NUL. -/
def MailboxView.Textual (v : MailboxView) : Prop := hasText v.queryState = true ∧ ∀ i ∈ v.items, hasText i.emailJmapId = true

theorem upsertView_ok (hspec : v.spec.Known) {total : Int} (htotal : 0 ≤ total) :
    upsertView v.spec ⟨v.queryState, total⟩ db = some db' ↔ hasText v.queryState = true ∧
      db.mailboxExists v.spec.accountKey v.spec.mailboxJmapId = true ∧
        db' = { db with mailboxViews := db.mailboxViews.set v.spec ⟨v.queryState, total⟩ } := by
  obtain ⟨hfilter, hproperty, hdirection⟩ := hspec
  have hcheck : MailboxViewRow.check v.spec ⟨v.queryState, total⟩ = hasText v.queryState := by
    simp only [MailboxViewRow.check, hfilter, hproperty, htotal, List.contains_iff_mem.2 hdirection, decide_true, Bool.true_and,
      Bool.and_true]
  rw [upsertView, hcheck, Option.ite_none_right_eq_some, Bool.and_eq_true, and_assoc, Option.some.injEq, eq_comm (b := db')]
  rfl

theorem insertCoverage_ok (db : Db) (h : v.Covered) (hview : db.mailboxViews.has v.spec = true)
    (hclear : ∀ n, db.mailboxViewCoverage.get? (v.spec, n) = none) :
    ∃ t, insertCoverage v.spec (ordinals (coverageRows v)) db = some { db with mailboxViewCoverage := t } := by
  have hcheck : ∀ e ∈ ordinals (coverageRows v), e.2.check = true := by
    intro e he
    obtain ⟨r, hr, heq⟩ := List.mem_map.1 (mem_ordinals he)
    have hlt : r.start.toNat < r.endExclusive.toNat := h.1.1.1 r.bounds (List.mem_map_of_mem hr)
    rw [← heq]
    simp [CoverageRow.check, hlt]
  obtain ⟨t, ht⟩ : ∃ t, OrderedMap.insertEach (fun _ _ r => r.check) v.spec db.mailboxViewCoverage (ordinals (coverageRows v)) = some t :=
    OrderedMap.insertEach_checked.2 ⟨(ordinals_sorted (coverageRows v)).imp ne_of_lt, fun e _ => hclear e.1, hcheck⟩
  exact ⟨t, by rw [insertCoverage, if_pos (.inr hview)]; exact congrArg _ ht⟩

theorem insertItems_ok (db : Db) (h : v.Covered) (hview : db.mailboxViews.has v.spec = true)
    (hclear : ∀ n, db.mailboxViewItems.get? (v.spec, n) = none) :
    (∃ db', insertItems v.spec (itemRows v) db = some db') ↔
      (v.items.map (·.emailJmapId)).Nodup ∧ ∀ i ∈ v.items, hasText i.emailJmapId = true := by
  have hkeys : ((itemRows v).map (·.1)).Nodup := by
    have hpositions := h.1.1.sorted
    rw [h.1.2, List.pairwise_map] at hpositions
    rw [itemRows, List.map_map, List.Nodup, List.pairwise_map]
    exact hpositions.imp fun hlt heq => absurd (Int.ofNat.inj heq) (ne_of_lt hlt)
  have hvalues : (itemRows v).map (·.2) = v.items.map (·.emailJmapId) := by rw [itemRows, List.map_map]; rfl
  have hchecks : (∀ e ∈ itemRows v, (decide (0 ≤ e.1) && hasText e.2) = true) ↔ ∀ i ∈ v.items, hasText i.emailJmapId = true := by
    rw [itemRows, List.forall_mem_map]
    simp
  rw [insertItems, if_pos (.inr hview), ← Option.isSome_iff_exists, Option.isSome_map, Option.isSome_iff_exists,
    OrderedMap.insertEach_unique, hchecks, hvalues]
  constructor
  · rintro ⟨⟨-, -, htexts⟩, hdistinct, -⟩
    exact ⟨hdistinct, htexts⟩
  · rintro ⟨hdistinct, htexts⟩
    exact ⟨⟨hkeys, fun e _ => hclear e.1, htexts⟩, hdistinct, fun e _ k => by simp [hclear k]⟩

/-- A view is stored if it passes the checks, its total is safe, its mailbox is there, and the table may take its rows. -/
theorem replaceMailboxView_ok : (∃ db', db.replaceMailboxView v = .ok db') ↔
    validateView v = .ok () ∧ v.total.toNat ≤ maxSafeInteger ∧ db.mailboxExists v.spec.accountKey v.spec.mailboxJmapId = true ∧
      v.Textual ∧ (v.items.map (·.emailJmapId)).Nodup := by
  simp only [Db.replaceMailboxView, transaction_ok, bind_eq_ok, given_ok, conflictUnless_ok, orConflict_ok, writeView, execute_ok]
  constructor
  · rintro ⟨db', u, _, _, ⟨hv, rfl⟩, _, _, ⟨hmailbox, rfl⟩, total, _, ⟨htotal, rfl⟩, _, _, hview, _, _, hcoverage, _, _, hitems,
      rows, _, ⟨hrows, rfl⟩, _, _, hinsert, rows', _, ⟨hrows', rfl⟩, hinsert'⟩
    obtain ⟨⟨hspec, -⟩, hcovered⟩ := validateView_ok.1 hv
    obtain ⟨hsafe, rfl⟩ := toI64_ok.1 htotal
    obtain ⟨hranges, hpositions⟩ := hcovered.safe hsafe
    obtain ⟨htext, -, rfl⟩ := (upsertView_ok hspec (Int.natCast_nonneg _)).1 hview
    cases hcoverage
    cases hitems
    obtain ⟨t, -, rfl⟩ := insertCoverage_some hinsert
    obtain rfl := Except.ok.inj ((mapM_itemRowOf hpositions).symm.trans hrows')
    obtain ⟨hdistinct, htexts⟩ := (insertItems_ok _ hcovered (OrderedMap.has_set_self _ _ _) fun n => by simp [OrderedMap.get?_clear]).1
      ⟨_, hinsert'⟩
    exact ⟨hv, hsafe, hmailbox, ⟨htext, htexts⟩, hdistinct⟩
  · rintro ⟨hv, hsafe, hmailbox, ⟨htext, htexts⟩, hdistinct⟩
    obtain ⟨⟨hspec, -⟩, hcovered⟩ := validateView_ok.1 hv
    obtain ⟨hranges, hpositions⟩ := hcovered.safe hsafe
    obtain ⟨t, hinsert⟩ := insertCoverage_ok { db with
      mailboxViews := db.mailboxViews.set v.spec ⟨v.queryState, v.total.toNat⟩
      mailboxViewCoverage := db.mailboxViewCoverage.clear v.spec
      mailboxViewItems := db.mailboxViewItems.clear v.spec } hcovered (OrderedMap.has_set_self _ _ _) fun n => by simp [OrderedMap.get?_clear]
    obtain ⟨db', hinsert'⟩ := (insertItems_ok { db with
      mailboxViews := db.mailboxViews.set v.spec ⟨v.queryState, v.total.toNat⟩
      mailboxViewCoverage := t
      mailboxViewItems := db.mailboxViewItems.clear v.spec } hcovered (OrderedMap.has_set_self _ _ _) fun n => by
        simp [OrderedMap.get?_clear]).2 ⟨hdistinct, htexts⟩
    exact ⟨db', (), (), db, ⟨hv, rfl⟩, (), db, ⟨hmailbox, rfl⟩, v.total.toNat, db, ⟨toI64_ok.2 ⟨hsafe, rfl⟩, rfl⟩, (), _,
      (upsertView_ok hspec (Int.natCast_nonneg _)).2 ⟨htext, hmailbox, rfl⟩, (), _, rfl, (), _, rfl, coverageRows v, _,
      ⟨mapM_coverageRowOf hranges, rfl⟩, (), _, hinsert, itemRows v, _, ⟨mapM_itemRowOf hpositions, rfl⟩, hinsert'⟩

end Boxplot.Persistence
