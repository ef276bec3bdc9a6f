import Mathlib.Tactic
/-!
# Strings of code units

A JavaScript string is any sequence of 16-bit units. A text has one or two of
them for each character, and two texts do not have the same.
-/

namespace Boxplot.Lib

abbrev CodeUnits := List UInt16

/-- The unit of a character of the basic plane. -/
def unit (c : Char) : UInt16 := UInt16.ofNat c.toNat

/-- A character beyond it is a high surrogate and a low one. -/
def charUnits (c : Char) : CodeUnits :=
  if c.toNat < 0x10000 then [unit c]
  else [UInt16.ofNat (0xD800 + (c.toNat - 0x10000) / 0x400), UInt16.ofNat (0xDC00 + (c.toNat - 0x10000) % 0x400)]

def units (s : String) : CodeUnits := s.toList.flatMap charUnits

theorem char_bounds (c : Char) : c.toNat < 0xD800 ∨ 0xE000 ≤ c.toNat ∧ c.toNat < 0x110000 := by
  rcases c.valid with h | ⟨h, h'⟩
  · exact Or.inl h
  · exact Or.inr ⟨h, h'⟩

theorem unit_toNat {c : Char} (h : c.toNat < 0x10000) : (unit c).toNat = c.toNat := by
  rw [unit, UInt16.toNat_ofNat']
  exact Nat.mod_eq_of_lt h

theorem charUnits_ne_nil (c : Char) : charUnits c ≠ [] := by
  unfold charUnits
  split <;> exact List.cons_ne_nil _ _

/-- A string's first character is told by its units. -/
theorem charUnits_inj {c c' : Char} {l l' : CodeUnits} (h : charUnits c ++ l = charUnits c' ++ l') : c = c' ∧ l = l' := by
  have hc := char_bounds c
  have hc' := char_bounds c'
  have hsame (hnat : c.toNat = c'.toNat) : c = c' := by rw [← Char.ofNat_toNat c, hnat, Char.ofNat_toNat]
  unfold charUnits at h
  split at h
  · rename_i hplane
    split at h
    · rename_i hplane'
      obtain ⟨hunit, hrest⟩ := List.cons.inj h
      have hnat := congrArg UInt16.toNat hunit
      rw [unit_toNat hplane, unit_toNat hplane'] at hnat
      exact ⟨hsame hnat, hrest⟩
    · -- a unit of its own is no high surrogate
      obtain ⟨hunit, -⟩ := List.cons.inj h
      have hnat := congrArg UInt16.toNat hunit
      rw [unit_toNat hplane, UInt16.toNat_ofNat'] at hnat
      omega
  · split at h
    · rename_i hplane'
      obtain ⟨hunit, -⟩ := List.cons.inj h
      have hnat := congrArg UInt16.toNat hunit
      rw [unit_toNat hplane', UInt16.toNat_ofNat'] at hnat
      omega
    · obtain ⟨hhigh, htail⟩ := List.cons.inj h
      obtain ⟨hlow, hrest⟩ := List.cons.inj htail
      have hhigh := congrArg UInt16.toNat hhigh
      have hlow := congrArg UInt16.toNat hlow
      rw [UInt16.toNat_ofNat', UInt16.toNat_ofNat'] at hhigh hlow
      exact ⟨hsame (by omega), hrest⟩

theorem units_injective {s t : String} (h : units s = units t) : s = t := by
  have hlists : ∀ l l' : List Char, l.flatMap charUnits = l'.flatMap charUnits → l = l' := by
    intro l
    induction l with
    | nil =>
      intro l' h
      cases l' with
      | nil => rfl
      | cons c l' => exact absurd (List.append_eq_nil_iff.1 h.symm).1 (charUnits_ne_nil c)
    | cons c l ih =>
      intro l' h
      cases l' with
      | nil => exact absurd (List.append_eq_nil_iff.1 h).1 (charUnits_ne_nil c)
      | cons c' l' =>
        obtain ⟨rfl, hrest⟩ := charUnits_inj h
        rw [ih l' hrest]
  exact String.toList_inj.1 (hlists _ _ h)

end Boxplot.Lib
