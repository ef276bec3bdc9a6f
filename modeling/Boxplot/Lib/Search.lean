import Mathlib.Tactic
/-!
# Searching and replacing

A pattern is tried at every place of a text, from the left. `search` finds the
first place where it begins, and `replaceMatches` replaces what it takes there and
goes on behind it. What is known of both is known piece by piece: in a piece
where the pattern `Misses`, nothing is found and nothing changes.
-/

namespace Boxplot.Lib

variable {α β : Type}

/-- What a pattern finds at the beginning of a text, and what is behind it. -/
abbrev Pattern (α β : Type) := List α → Option (β × List α)

/-- The first match: what is before it, what was found, and what is behind. -/
def search (p : Pattern α β) : List α → Option (List α × β × List α)
  | [] => (p []).map fun found => ([], found.1, found.2)
  | c :: text =>
    match p (c :: text) with
    | some found => some ([], found.1, found.2)
    | none => (search p text).map fun found => (c :: found.1, found.2)

/-- Every match is replaced; the first `skip` elements belong to the match before. -/
def replaceMatches (p : Pattern α β) (f : β → List α) : Nat → List α → List α
  | _, [] => []
  | skip + 1, _ :: text => replaceMatches p f skip text
  | 0, c :: text =>
    match p (c :: text) with
    | some found => f found.1 ++ replaceMatches p f (text.length - found.2.length) text
    | none => c :: replaceMatches p f 0 text

/-- The pattern begins nowhere in `a`, with `b` behind it. -/
def Misses (p : Pattern α β) (a b : List α) : Prop := ∀ s, s ≠ [] → s <:+ a → p (s ++ b) = none

variable {p : Pattern α β} {f : β → List α} {a b c : List α} {x : β}

theorem misses_nil : Misses p [] b := fun _ hne hs => absurd (List.suffix_nil.1 hs) hne

theorem Misses.tail {d : α} (h : Misses p (d :: a) b) : Misses p a b :=
  fun s hne hs => h s hne (hs.trans (List.suffix_cons d a))

theorem Misses.head {d : α} (h : Misses p (d :: a) b) : p (d :: (a ++ b)) = none := h (d :: a) (List.cons_ne_nil d a) List.suffix_rfl

theorem misses_cons {d : α} (hd : p (d :: (a ++ b)) = none) (h : Misses p a b) : Misses p (d :: a) b := by
  intro s hne hs
  rcases List.suffix_cons_iff.1 hs with rfl | hs
  · exact hd
  · exact h s hne hs

theorem Misses.append (ha : Misses p a (b ++ c)) (hb : Misses p b c) : Misses p (a ++ b) c := by
  induction a with
  | nil => exact hb
  | cons d a ih =>
    have hhead : p (d :: (a ++ (b ++ c))) = none := ha.head
    refine misses_cons ?_ (ih ha.tail)
    rwa [← List.append_assoc] at hhead

/-- A pattern that begins with a certain element misses a piece without it. -/
theorem misses_of_forall {k : α → Prop} (hp : ∀ d text, p (d :: text) ≠ none → k d) (ha : ∀ d ∈ a, ¬k d) : Misses p a b := by
  induction a with
  | nil => exact misses_nil
  | cons d a ih =>
    refine misses_cons ?_ (ih fun e he => ha e (List.mem_cons_of_mem d he))
    by_contra hne
    exact ha d List.mem_cons_self (hp d _ hne)

/-! ## Searching -/

theorem search_append (h : Misses p a b) : search p (a ++ b) = (search p b).map fun found => (a ++ found.1, found.2) := by
  induction a with
  | nil => cases hb : search p b <;> simp [hb]
  | cons d a ih =>
    rw [List.cons_append, search, h.head, ih h.tail, Option.map_map]
    rfl

theorem search_here (h : p b = some (x, c)) : search p b = some ([], x, c) := by
  cases b with
  | nil => rw [search, h]; rfl
  | cons d b => rw [search, h]

theorem search_hit (ha : Misses p a b) (hb : p b = some (x, c)) : search p (a ++ b) = some (a, x, c) := by
  rw [search_append ha, search_here hb, Option.map_some, List.append_nil]

theorem search_miss (h : Misses p a []) (hnil : p [] = none) : search p a = none := by
  have hsearch := search_append h
  rw [List.append_nil] at hsearch
  rw [hsearch, search, hnil]
  rfl

/-- What is found behind a piece, or something before it, is found. -/
theorem search_isSome_append (a : List α) (h : (search p b).isSome = true) : (search p (a ++ b)).isSome = true := by
  induction a with
  | nil => exact h
  | cons d a ih =>
    rw [List.cons_append, search]
    split
    · rfl
    · rw [Option.isSome_map]
      exact ih

/-! ## Replacing -/

theorem replaceMatches_skip (skip : Nat) (a : List α) : replaceMatches p f skip a = replaceMatches p f 0 (a.drop skip) := by
  induction a generalizing skip with
  | nil => cases skip <;> rfl
  | cons d a ih =>
    cases skip with
    | zero => rfl
    | succ skip => exact ih skip

theorem replaceMatches_append (h : Misses p a b) : replaceMatches p f 0 (a ++ b) = a ++ replaceMatches p f 0 b := by
  induction a with
  | nil => rfl
  | cons d a ih =>
    rw [List.cons_append, replaceMatches, h.head, ih h.tail]
    rfl

theorem replaceMatches_hit {d : α} (h : p (d :: a) = some (x, b)) (hb : b <:+ a) :
    replaceMatches p f 0 (d :: a) = f x ++ replaceMatches p f 0 b := by
  obtain ⟨t, rfl⟩ := hb
  have hlength : (t ++ b).length - b.length = t.length := by simp
  rw [replaceMatches, h]
  change f x ++ replaceMatches p f ((t ++ b).length - b.length) (t ++ b) = _
  rw [replaceMatches_skip, hlength, List.drop_left]

end Boxplot.Lib
