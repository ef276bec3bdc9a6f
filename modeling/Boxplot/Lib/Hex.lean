import Boxplot.Lib.Utf8
/-!
# Bytes in hexadecimal digits

Two digits in lower case for each byte. What is written is read back, and a text
is read exactly where it is an even number of digits.
-/

namespace Boxplot.Lib.Hex

def digit (n : Nat) : Char := if n < 10 then Char.ofNat (48 + n) else Char.ofNat (87 + n)

def value (b : UInt8) : Option Nat :=
  if 48 ≤ b.toNat ∧ b.toNat ≤ 57 then some (b.toNat - 48)
  else if 97 ≤ b.toNat ∧ b.toNat ≤ 102 then some (b.toNat - 87)
  else none

def isDigit (b : UInt8) : Bool := (value b).isSome

def text (l : List UInt8) : List Char := l.flatMap fun b => [digit (b.toNat / 16), digit (b.toNat % 16)]

def read : List UInt8 → Option (List UInt8)
  | [] => some []
  | [_] => none
  | a :: b :: rest => do
    let high ← value a
    let low ← value b
    let l ← read rest
    some (UInt8.ofNat (16 * high + low) :: l)

theorem value_lt {b : UInt8} {n : Nat} (h : value b = some n) : n < 16 := by
  unfold value at h
  split at h
  · cases h
    omega
  · split at h
    · cases h
      omega
    · cases h

theorem value_digit {n : Nat} (h : n < 16) : value (asciiByte (digit n)) = some n := by
  have hall : ∀ n < 16, value (asciiByte (digit n)) = some n := by decide
  exact hall n h

theorem digit_ascii {n : Nat} (h : n < 16) : (digit n).toNat < 128 := by
  have hall : ∀ n < 16, (digit n).toNat < 128 := by decide
  exact hall n h

theorem isDigit_iff {b : UInt8} : isDigit b = true ↔ 48 ≤ b.toNat ∧ b.toNat ≤ 57 ∨ 97 ≤ b.toNat ∧ b.toNat ≤ 102 := by
  unfold isDigit value
  split
  · rename_i h
    simp [h]
  · rename_i h
    split
    · rename_i h'
      simp [h']
    · rename_i h'
      simp [h, h']

theorem text_ascii (l : List UInt8) : ∀ c ∈ text l, c.toNat < 128 := by
  intro c hc
  obtain ⟨b, -, hc⟩ := List.mem_flatMap.1 hc
  have hb := b.toNat_lt
  simp only [List.mem_cons, List.not_mem_nil, or_false] at hc
  rcases hc with rfl | rfl
  · exact digit_ascii (by omega)
  · exact digit_ascii (by omega)

theorem read_text (l : List UInt8) : read ((text l).map asciiByte) = some l := by
  induction l with
  | nil => rfl
  | cons b rest ih =>
    have hb := b.toNat_lt
    have hsplit : 16 * (b.toNat / 16) + b.toNat % 16 = b.toNat := by omega
    change read (asciiByte (digit (b.toNat / 16)) :: asciiByte (digit (b.toNat % 16)) :: (text rest).map asciiByte) = _
    rw [read, value_digit (by omega), value_digit (by omega), ih]
    change some (UInt8.ofNat (16 * (b.toNat / 16) + b.toNat % 16) :: rest) = _
    rw [hsplit, UInt8.ofNat_toNat]

theorem length_read {digits l : List UInt8} (h : read digits = some l) : digits.length = 2 * l.length := by
  fun_induction read digits generalizing l with
  | case1 => cases h; rfl
  | case2 => cases h
  | case3 a b rest ih =>
    simp only [Option.bind_eq_bind, Option.bind_eq_some_iff] at h
    obtain ⟨high, -, low, -, tail, htail, h⟩ := h
    cases h
    have hrest := ih htail
    simp only [List.length_cons]
    omega

/-- A text is read where it is an even number of digits, and only there. -/
theorem read_isSome {digits : List UInt8} : (read digits).isSome = true ↔ digits.length % 2 = 0 ∧ ∀ b ∈ digits, isDigit b = true := by
  fun_induction read digits with
  | case1 => simp
  | case2 => simp
  | case3 a b rest ih =>
    have hlength : (a :: b :: rest).length % 2 = rest.length % 2 := by
      simp only [List.length_cons]
      omega
    rw [hlength, List.forall_mem_cons, List.forall_mem_cons]
    cases ha : value a with
    | none => simp [isDigit, ha]
    | some high =>
      cases hb : value b with
      | none => simp [isDigit, ha, hb]
      | some low =>
        have hsome : (do let l ← read rest; some (UInt8.ofNat (16 * high + low) :: l)).isSome = (read rest).isSome := by
          cases read rest <;> rfl
        simp only [Option.bind_eq_bind, Option.bind_some] at hsome ⊢
        rw [hsome, ih]
        simp [isDigit, ha, hb]

end Boxplot.Lib.Hex
