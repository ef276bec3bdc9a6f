import Mathlib.Tactic
import Mathlib.Data.List.TakeWhile
/-!
# Cutting a list at the first element of a kind

`List.span` in both directions: what it gives says where the list is cut, and
where a list is cut says what it gives.
-/

namespace Boxplot.Lib

variable {α : Type} {l a b : List α} {x : α} {p : α → Bool}

theorem span_eq_cons (h : l.span p = (a, x :: b)) : l = a ++ x :: b ∧ (∀ y ∈ a, p y = true) ∧ p x = false := by
  rw [List.span_eq_takeWhile_dropWhile, Prod.mk.injEq] at h
  obtain ⟨rfl, hdrop⟩ := h
  have hhead := List.head?_dropWhile_not p l
  rw [hdrop] at hhead
  refine ⟨?_, fun y hy => List.mem_takeWhile_imp hy, hhead⟩
  rw [← hdrop, List.takeWhile_append_dropWhile]

theorem span_eq_nil (h : l.span p = (a, [])) : l = a ∧ ∀ y ∈ l, p y = true := by
  rw [List.span_eq_takeWhile_dropWhile, Prod.mk.injEq, List.dropWhile_eq_nil_iff] at h
  obtain ⟨rfl, hall⟩ := h
  exact ⟨(List.takeWhile_eq_self_iff.2 hall).symm, hall⟩

theorem span_append (h : ∀ y ∈ a, p y = true) (hx : p x = false) (b : List α) : (a ++ x :: b).span p = (a, x :: b) := by
  rw [List.span_eq_takeWhile_dropWhile, List.takeWhile_append_of_pos h, List.dropWhile_append_of_pos h]
  simp [hx]

theorem span_all (h : ∀ y ∈ l, p y = true) : l.span p = (l, []) := by
  rw [List.span_eq_takeWhile_dropWhile, List.takeWhile_eq_self_iff.2 h, List.dropWhile_eq_nil_iff.2 h]

/-- A list has one first such element. -/
theorem cut_inj {a' b' : List α} (h : x ∉ a) (h' : x ∉ a') (heq : a ++ x :: b = a' ++ x :: b') : a = a' ∧ b = b' := by
  induction a generalizing a' with
  | nil =>
    cases a' with
    | nil => exact ⟨rfl, List.tail_eq_of_cons_eq heq⟩
    | cons y a' =>
      obtain ⟨rfl, -⟩ := List.cons.inj heq
      exact absurd List.mem_cons_self h'
  | cons y a ih =>
    cases a' with
    | nil =>
      obtain ⟨rfl, -⟩ := List.cons.inj heq
      exact absurd List.mem_cons_self h
    | cons z a' =>
      rw [List.mem_cons, not_or] at h h'
      obtain ⟨rfl, htail⟩ := List.cons.inj heq
      obtain ⟨rfl, rfl⟩ := ih h.2 h'.2 htail
      exact ⟨rfl, rfl⟩

end Boxplot.Lib
