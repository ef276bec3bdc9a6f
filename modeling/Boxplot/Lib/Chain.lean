import Mathlib.Tactic
/-!
# Chains of links

Each element links to at most one other. A walk along the links that remembers
where it was stops at an element without a link or at one it has seen. Over
finitely many links it always stops, and it finds a cycle if it leads into one.
-/

namespace Boxplot.Lib.Chain

variable {α : Type} (next : α → Option α)

/-- The element `n` links on. -/
def after : Nat → α → Option α
  | 0, x => some x
  | n + 1, x => (next x).bind (after n)

/-- The links from `x` come to an end. -/
def Ends (x : α) : Prop := ∃ n, after next n x = none

def OnCycle (x : α) : Prop := ∃ n, after next (n + 1) x = some x

/-- `x` is on a cycle, or the links from it lead to one. -/
def IntoCycle (x : α) : Prop := ∃ n y, after next n x = some y ∧ OnCycle next y

/-- The walk `while let Some(x) = current { if !seen.insert(x) { return false } current = next(x) }`, which returns
`true` at its end. A walk that does not stop has no result. -/
inductive Walk : List α → Option α → Bool → Prop
  | ends {seen : List α} : Walk seen none true
  | again {seen : List α} {x : α} (h : x ∈ seen) : Walk seen (some x) false
  | step {seen : List α} {x : α} {r : Bool} (h : x ∉ seen) (hrest : Walk (x :: seen) (next x) r) : Walk seen (some x) r

variable {next}

/-! ## Links -/

theorem after_add (m n : Nat) (x : α) : after next (m + n) x = (after next m x).bind (after next n) := by
  induction m generalizing x with
  | zero => simp [after]
  | succ m ih =>
    rw [Nat.succ_add]
    cases hx : next x with
    | none => simp [after, hx]
    | some y => simpa [after, hx] using ih y

theorem after_succ {n : Nat} {x y : α} (h : after next n x = some y) : after next (n + 1) x = next y := by
  rw [after_add, h]
  cases hy : next y <;> simp [after, hy]

/-- Behind the end there is nothing. -/
theorem after_none {m n : Nat} {x : α} (h : after next m x = none) (hmn : m ≤ n) : after next n x = none := by
  obtain ⟨k, rfl⟩ := Nat.exists_eq_add_of_le hmn
  rw [after_add, h]
  rfl

theorem ends_of_none {x : α} (h : next x = none) : Ends next x := ⟨1, by simp [after, h]⟩

theorem Ends.after {n : Nat} {x y : α} (h : Ends next x) (hy : Chain.after next n x = some y) : Ends next y := by
  obtain ⟨m, hm⟩ := h
  have hlate : Chain.after next (n + m) x = none := after_none hm (Nat.le_add_left m n)
  rw [after_add, hy] at hlate
  exact ⟨m, hlate⟩

/-- A cycle is walked any number of times. -/
theorem OnCycle.not_ends {x : α} (h : OnCycle next x) : ¬Ends next x := by
  obtain ⟨n, hn⟩ := h
  rintro ⟨m, hm⟩
  have hround : ∀ k, after next (k * (n + 1)) x = some x := by
    intro k
    induction k with
    | zero => simp [after]
    | succ k ih =>
      rw [Nat.succ_mul, after_add, ih]
      exact hn
  have hnone := after_none hm (Nat.le_mul_of_pos_right m n.succ_pos)
  rw [hround m] at hnone
  cases hnone

theorem IntoCycle.not_ends {x : α} (h : IntoCycle next x) : ¬Ends next x := by
  obtain ⟨n, y, hy, hcycle⟩ := h
  exact fun hx => hcycle.not_ends (hx.after hy)

/-! ## Walks -/

/-- A walk has one result. -/
theorem Walk.unique {seen : List α} {current : Option α} {r r' : Bool} (h : Walk next seen current r)
    (h' : Walk next seen current r') : r = r' := by
  induction h with
  | ends => cases h'; rfl
  | again hmem =>
    cases h' with
    | again => rfl
    | step hnot => exact absurd hmem hnot
  | step hnot _ ih =>
    cases h' with
    | again hmem => exact absurd hmem hnot
    | step _ hrest => exact ih hrest

/-- A walk that comes to its end followed links that end. -/
theorem Walk.ends_of_true {seen : List α} {x : α} (h : Walk next seen (some x) true) : Ends next x := by
  generalize hcurrent : some x = current at h
  generalize hresult : true = r at h
  induction h generalizing x with
  | ends => cases hcurrent
  | again => cases hresult
  | @step _ z _ _ hrest ih =>
    cases hcurrent
    cases hz : next z with
    | none => exact ends_of_none hz
    | some y =>
      obtain ⟨n, hn⟩ := ih hz.symm hresult
      exact ⟨n + 1, by simp [after, hz, hn]⟩

/-- A walk that meets an element it has seen has found a cycle: what it has seen leads to where it is. -/
theorem Walk.intoCycle_of_false {seen : List α} {x : α} (hseen : ∀ s ∈ seen, ∃ n, after next (n + 1) s = some x)
    (h : Walk next seen (some x) false) : IntoCycle next x := by
  generalize hcurrent : some x = current at h
  generalize hresult : false = r at h
  induction h generalizing x with
  | ends => cases hcurrent
  | @again _ z hmem =>
    cases hcurrent
    exact ⟨0, z, rfl, hseen z hmem⟩
  | @step seen z _ _ hrest ih =>
    cases hcurrent
    cases hz : next z with
    | none =>
      rw [hz] at hrest
      cases hrest
      cases hresult
    | some y =>
      have hseen' : ∀ s ∈ z :: seen, ∃ n, after next (n + 1) s = some y := by
        intro s hs
        rcases List.mem_cons.1 hs with rfl | hs
        · exact ⟨0, by simp [after, hz]⟩
        · obtain ⟨n, hn⟩ := hseen s hs
          exact ⟨n + 1, (after_succ hn).trans hz⟩
      obtain ⟨n, c, hc, hcycle⟩ := ih hseen' hz.symm hresult
      exact ⟨n + 1, c, by simp [after, hz, hc], hcycle⟩

section
variable {x : α} {r : Bool}

theorem Walk.iff_not_intoCycle (h : Walk next [] (some x) r) : r = true ↔ ¬IntoCycle next x := by
  constructor
  · rintro rfl
    exact fun hcycle => hcycle.not_ends h.ends_of_true
  · intro hx
    cases r with
    | true => rfl
    | false => exact absurd (Walk.intoCycle_of_false (by simp) h) hx

end

end Boxplot.Lib.Chain
