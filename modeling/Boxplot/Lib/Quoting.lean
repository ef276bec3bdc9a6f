import Mathlib.Data.List.Basic
/-!
# Quoted text

A text between two quotes, with an escape before each quote and each escape in
it, and what a reader finds that looks for the quotes from the end.
-/

namespace Boxplot.Lib

theorem mem_intercalate {α : Type} {a : α} {sep : List α} {parts : List (List α)} (h : a ∈ List.intercalate sep parts) :
    a ∈ sep ∨ ∃ part ∈ parts, a ∈ part := by
  induction parts with
  | nil => simp [List.intercalate] at h
  | cons part rest ih =>
    cases rest with
    | nil => exact .inr ⟨part, List.mem_cons_self, by simpa [List.intercalate] using h⟩
    | cons next rest =>
      have hcons : List.intercalate sep (part :: next :: rest) = part ++ (sep ++ List.intercalate sep (next :: rest)) := by
        simp [List.intercalate]
      rw [hcons, List.mem_append, List.mem_append] at h
      rcases h with h | h | h
      · exact .inr ⟨part, List.mem_cons_self, h⟩
      · exact .inl h
      · exact (ih h).imp_right fun ⟨p, hp, hmem⟩ => ⟨p, List.mem_cons_of_mem part hp, hmem⟩

variable {α : Type} [DecidableEq α] {a b c : α} {l r : List α}

/-! ## The last occurrence -/

/-- What stands before the last `b`, and what stands behind it. -/
def splitLast (b : α) : List α → Option (List α × List α)
  | [] => none
  | x :: rest =>
    match splitLast b rest with
    | some (before, after) => some (x :: before, after)
    | none => if x = b then some ([], rest) else none

theorem splitLast_eq_none : splitLast b l = none ↔ b ∉ l := by
  induction l with
  | nil => simp [splitLast]
  | cons x rest ih =>
    rw [splitLast, List.mem_cons, not_or]
    cases hrest : splitLast b rest with
    | some p =>
      have hmem : b ∈ rest := not_not.1 fun h => by simp [ih.2 h] at hrest
      exact iff_of_false nofun fun h => h.2 hmem
    | none =>
      dsimp only
      split
      · rename_i heq
        exact iff_of_false nofun fun h => h.1 heq.symm
      · rename_i hne
        exact iff_of_true rfl ⟨fun heq => hne heq.symm, ih.1 hrest⟩

theorem splitLast_append (h : b ∉ r) (l : List α) : splitLast b (l ++ b :: r) = some (l, r) := by
  induction l with
  | nil => rw [List.nil_append, splitLast, splitLast_eq_none.2 h, if_pos rfl]
  | cons x l ih => rw [List.cons_append, splitLast, ih]

/-- The last occurrence cuts the list. -/
theorem exists_splitLast (h : b ∈ l) : ∃ before after, l = before ++ b :: after ∧ b ∉ after := by
  induction l with
  | nil => cases h
  | cons x l ih =>
    by_cases hl : b ∈ l
    · obtain ⟨before, after, rfl, hafter⟩ := ih hl
      exact ⟨x :: before, after, rfl, hafter⟩
    · obtain rfl := (List.mem_cons.1 h).resolve_right hl
      exact ⟨[], l, rfl, hl⟩

/-! ## Replacing pairs -/

/-- Each `ab` becomes a `c`, from the left. -/
def replacePair (a b c : α) : List α → List α
  | x :: y :: rest => if x = a ∧ y = b then c :: replacePair a b c rest else x :: replacePair a b c (y :: rest)
  | l => l

theorem replacePair_of_notMem (h : b ∉ l) : replacePair a b c l = l := by
  fun_induction replacePair a b c l with
  | case1 x y rest hpair => exact absurd (hpair.2 ▸ List.mem_cons_of_mem x List.mem_cons_self) h
  | case2 x y rest hpair ih => rw [ih fun hmem => h (List.mem_cons_of_mem x hmem)]
  | case3 => rfl

/-! ## Escapes -/

/-- An escape before each escape and each quote. -/
def escape (slash quote : α) (l : List α) : List α := l.flatMap fun b => if b = slash ∨ b = quote then [slash, b] else [b]

variable {slash quote : α}

theorem escape_cons (b : α) (l : List α) :
    escape slash quote (b :: l) = (if b = slash ∨ b = quote then [slash, b] else [b]) ++ escape slash quote l := List.flatMap_cons

theorem escape_append (l r : List α) : escape slash quote (l ++ r) = escape slash quote l ++ escape slash quote r := List.flatMap_append

theorem length_le_escape (l : List α) : l.length ≤ (escape slash quote l).length := by
  induction l with
  | nil => exact Nat.le_refl 0
  | cons b l ih =>
    rw [escape_cons, List.length_append, List.length_cons]
    split <;> simp <;> omega

/-- No quote comes up. -/
theorem quote_notMem_escape (hne : slash ≠ quote) (h : quote ∉ l) : quote ∉ escape slash quote l := by
  induction l with
  | nil => exact h
  | cons b l ih =>
    rw [List.mem_cons, not_or] at h
    rw [escape_cons, List.mem_append, not_or]
    refine ⟨?_, ih h.2⟩
    split <;> simp [h.1, Ne.symm hne]

/-- Pairs of escapes are single ones again. -/
theorem replacePair_escape (h : quote ∉ l) : replacePair slash slash slash (escape slash quote l) = l := by
  induction l with
  | nil => rfl
  | cons b l ih =>
    rw [List.mem_cons, not_or] at h
    have hb : b ≠ quote := fun heq => h.1 heq.symm
    rw [escape_cons]
    by_cases hslash : b = slash
    · rw [if_pos (.inl hslash), hslash]
      change replacePair slash slash slash (slash :: slash :: escape slash quote l) = _
      rw [replacePair, if_pos ⟨rfl, rfl⟩, ih h.2]
    · rw [if_neg (not_or.2 ⟨hslash, hb⟩), List.singleton_append]
      -- the pair would begin here
      cases hrest : escape slash quote l with
      | nil =>
        rw [hrest] at ih
        rw [← ih h.2]
        rfl
      | cons y rest =>
        rw [replacePair, if_neg fun hpair => hslash hpair.1, ← hrest, ih h.2]

end Boxplot.Lib
