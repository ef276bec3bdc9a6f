import Boxplot.Lib.Spans
/-!
# Parts with their lengths before them

A list of parts joined to one text: each part behind its length and a separator
that no length is written with. The text says where each part ends, so different
lists have different texts, whatever is in the parts.
-/

namespace Boxplot.Lib

variable {α : Type}

/-- How a length is written, and what ends it. -/
structure LengthCode (α : Type) where
  digits : Nat → List α
  separator : α
  injective : ∀ {m n}, digits m = digits n → m = n
  apart : ∀ n, separator ∉ digits n

namespace LengthCode

variable (e : LengthCode α)

def prefixed (part : List α) : List α := e.digits part.length ++ e.separator :: part

def joined (parts : List (List α)) : List α := (parts.map e.prefixed).flatten

theorem joined_cons (part : List α) (parts : List (List α)) :
    e.joined (part :: parts) = e.digits part.length ++ e.separator :: (part ++ e.joined parts) := by
  simp [joined, prefixed]

theorem joined_ne_nil (part : List α) (parts : List (List α)) : e.joined (part :: parts) ≠ [] := by
  rw [joined_cons]
  exact List.append_ne_nil_of_right_ne_nil _ (List.cons_ne_nil _ _)

/-- The first part is cut off where its length says. -/
theorem joined_head {part part' : List α} {parts parts' : List (List α)} (h : e.joined (part :: parts) = e.joined (part' :: parts')) :
    part = part' ∧ e.joined parts = e.joined parts' := by
  rw [joined_cons, joined_cons] at h
  obtain ⟨hdigits, hrest⟩ := cut_inj (e.apart _) (e.apart _) h
  exact List.append_inj hrest (e.injective hdigits)

theorem joined_injective : Function.Injective e.joined := by
  intro parts
  induction parts with
  | nil =>
    intro parts' h
    cases parts' with
    | nil => rfl
    | cons part' parts' => exact absurd h.symm (e.joined_ne_nil part' parts')
  | cons part parts ih =>
    intro parts' h
    cases parts' with
    | nil => exact absurd h (e.joined_ne_nil part parts)
    | cons part' parts' =>
      obtain ⟨rfl, hrest⟩ := e.joined_head h
      rw [ih hrest]

end LengthCode

end Boxplot.Lib
