import Boxplot.Lib.State
import Mathlib.Data.List.Sort
/-!
# Sorting

A stable sort by a comparison that may fail, carried along a relation between
two lists, and when a list sorted in one order is sorted in another one too.
-/

namespace Boxplot.Lib

variable {ε α β : Type}

/-! ## The sort -/

section

variable (compare : α → α → Except ε Int)

/-- Puts `a` before the first element that it need not go behind. -/
def insertM (a : α) : List α → Except ε (List α)
  | [] => .ok [a]
  | b :: rest => do
    let order ← compare a b
    if order ≤ 0 then .ok (a :: b :: rest)
    else do
      let inserted ← insertM a rest
      .ok (b :: inserted)

def sortM : List α → Except ε (List α)
  | [] => .ok []
  | a :: rest => do
    let sorted ← sortM rest
    insertM compare a sorted

variable {compare} {R : β → α → Prop} {r : β → β → Prop} [DecidableRel r]

theorem insertM_forall₂ (hcompare : ∀ x a y b, R x a → R y b → ∃ n, compare a b = .ok n ∧ (n ≤ 0 ↔ r x y)) {x : β} {a : α}
    (ha : R x a) {xs : List β} {l : List α} (hl : List.Forall₂ R xs l) :
    ∃ l', insertM compare a l = .ok l' ∧ List.Forall₂ R (xs.orderedInsert r x) l' := by
  induction hl with
  | nil => exact ⟨[a], rfl, .cons ha .nil⟩
  | @cons y b ys rest hb hrest ih =>
    obtain ⟨n, hn, hr⟩ := hcompare x a y b ha hb
    obtain ⟨l', hl', hforall⟩ := ih
    by_cases h : r x y
    · refine ⟨a :: b :: rest, ?_, ?_⟩
      · simp [insertM, hn, bind, Except.bind, hr.2 h]
      · rw [List.orderedInsert_cons, if_pos h]
        exact .cons ha (.cons hb hrest)
    · refine ⟨b :: l', ?_, ?_⟩
      · simp [insertM, hn, bind, Except.bind, mt hr.1 h, hl']
      · rw [List.orderedInsert_cons, if_neg h]
        exact .cons hb hforall

/-- Where the comparison follows an order on what the elements stand for, the sort does so. -/
theorem sortM_forall₂ (hcompare : ∀ x a y b, R x a → R y b → ∃ n, compare a b = .ok n ∧ (n ≤ 0 ↔ r x y)) {xs : List β} {l : List α}
    (hl : List.Forall₂ R xs l) : ∃ l', sortM compare l = .ok l' ∧ List.Forall₂ R (xs.insertionSort r) l' := by
  induction hl with
  | nil => exact ⟨[], rfl, .nil⟩
  | cons ha _ ih =>
    obtain ⟨sorted, hsorted, hforall⟩ := ih
    obtain ⟨l', hl', hforall'⟩ := insertM_forall₂ hcompare ha hforall
    refine ⟨l', ?_, hforall'⟩
    simp [sortM, hsorted, bind, Except.bind, hl']

end

/-! ## Two orders -/

/-- Of two elements in their order, and of an order that tells them apart, one of the two holds. -/
theorem pairwise_iff_agree {R S : α → α → Prop} {l : List α} (hnodup : l.Nodup) (hR : l.Pairwise R)
    (hanti : ∀ a ∈ l, ∀ b ∈ l, R a b → R b a → a = b) (hasymm : ∀ a b, S a b → ¬S b a)
    (htotal : ∀ a ∈ l, ∀ b ∈ l, a ≠ b → S a b ∨ S b a) :
    l.Pairwise S ↔ ∀ a ∈ l, ∀ b ∈ l, S a b → R a b := by
  induction l with
  | nil => simp
  | cons x rest ih =>
    rw [List.nodup_cons] at hnodup
    rw [List.pairwise_cons] at hR
    have hanti' := fun a ha b hb => hanti a (List.mem_cons_of_mem x ha) b (List.mem_cons_of_mem x hb)
    have htotal' := fun a ha b hb => htotal a (List.mem_cons_of_mem x ha) b (List.mem_cons_of_mem x hb)
    rw [List.pairwise_cons, ih hnodup.2 hR.2 hanti' htotal']
    constructor
    · rintro ⟨hhead, htail⟩ a ha b hb hab
      rcases List.mem_cons.1 ha with rfl | ha' <;> rcases List.mem_cons.1 hb with rfl | hb'
      · exact absurd hab (hasymm _ _ hab)
      · exact hR.1 b hb'
      · exact absurd hab (hasymm _ _ (hhead a ha'))
      · exact htail a ha' b hb' hab
    · intro h
      refine ⟨fun b hb => ?_, fun a ha b hb => h a (List.mem_cons_of_mem x ha) b (List.mem_cons_of_mem x hb)⟩
      have hne : x ≠ b := fun heq => hnodup.1 (heq ▸ hb)
      rcases htotal x List.mem_cons_self b (List.mem_cons_of_mem x hb) hne with hab | hba
      · exact hab
      · -- both orders would put them the other way round
        have hrev := h b (List.mem_cons_of_mem x hb) x List.mem_cons_self hba
        exact absurd (hanti x List.mem_cons_self b (List.mem_cons_of_mem x hb) (hR.1 b hb) hrev) hne

end Boxplot.Lib
