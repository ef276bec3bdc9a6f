import Mathlib.Tactic
/-!
# Base64

Encoding with a given alphabet, padded or not, the forgiving decoder of
unpadded text and the strict one of padded text.
-/

namespace Boxplot.Lib

/-- An alphabet of 64 characters, and whether groups are padded. -/
structure Base64Engine where
  alphabet : List Char
  pad : Bool

def standard : Base64Engine :=
  ⟨"ABCDEFGHIJKLMNOPQRSTUVWXYZabcdefghijklmnopqrstuvwxyz0123456789+/".toList, true⟩

def urlSafeNoPad : Base64Engine :=
  ⟨"ABCDEFGHIJKLMNOPQRSTUVWXYZabcdefghijklmnopqrstuvwxyz0123456789-_".toList, false⟩

namespace Base64Engine

/-- The `digits` leading base64 digits of 24 bits, padded to four characters. -/
def group (e : Base64Engine) (digits bits : Nat) : List Char :=
  let all := [bits / 2 ^ 18, bits / 2 ^ 12 % 64, bits / 2 ^ 6 % 64, bits % 64]
  (all.take digits).map (e.alphabet.getD · '=') ++ if e.pad then List.replicate (4 - digits) '=' else []

def encode (e : Base64Engine) : List UInt8 → List Char
  | a :: b :: c :: rest => e.group 4 (a.toNat * 65536 + b.toNat * 256 + c.toNat) ++ e.encode rest
  | [a, b] => e.group 3 (a.toNat * 65536 + b.toNat * 256)
  | [a] => e.group 2 (a.toNat * 65536)
  | [] => []

/-- The digit a character stands for. -/
def digit (e : Base64Engine) (c : Char) : Option Nat := e.alphabet.findIdx? (· = c)

/-- The bytes of a list of digits. A last group of one digit is refused; spare bits are dropped. -/
def ofDigits : List Nat → Option (List UInt8)
  | a :: b :: c :: d :: rest => do
    let bits := a * 2 ^ 18 + b * 2 ^ 12 + c * 2 ^ 6 + d
    let tail ← ofDigits rest
    some (UInt8.ofNat (bits / 65536) :: UInt8.ofNat (bits / 256 % 256) :: UInt8.ofNat (bits % 256) :: tail)
  | [a, b, c] =>
    let bits := a * 2 ^ 18 + b * 2 ^ 12 + c * 2 ^ 6
    some [UInt8.ofNat (bits / 65536), UInt8.ofNat (bits / 256 % 256)]
  | [a, b] => some [UInt8.ofNat ((a * 2 ^ 18 + b * 2 ^ 12) / 65536)]
  | [_] => none
  | [] => some []

def decode (e : Base64Engine) (text : List Char) : Option (List UInt8) := do
  let digits ← text.mapM e.digit
  ofDigits digits

/-- A decoder that refuses padding and spare bits: it takes only what the encoder writes. -/
def decodeExact (e : Base64Engine) (text : List Char) : Option (List UInt8) :=
  (e.decode text).filter fun bytes => e.encode bytes = text

/-! ## Reading what was written -/

section

variable {e : Base64Engine} (hpad : e.pad = false) (hdigit : ∀ n < 64, e.digit (e.alphabet.getD n '=') = some n)
include hpad hdigit

/-- A group is read back as its digits. -/
theorem group_digits {bits : Nat} (hbits : bits < 2 ^ 24) (digits : Nat) : (e.group digits bits).mapM e.digit =
    some ([bits / 2 ^ 18, bits / 2 ^ 12 % 64, bits / 2 ^ 6 % 64, bits % 64].take digits) := by
  have hall : ∀ d ∈ [bits / 2 ^ 18, bits / 2 ^ 12 % 64, bits / 2 ^ 6 % 64, bits % 64].take digits, d < 64 := by
    intro d hd
    have hd := List.mem_of_mem_take hd
    simp only [List.mem_cons, List.not_mem_nil, or_false] at hd
    omega
  simp only [group, hpad, Bool.false_eq_true, if_false, List.append_nil]
  generalize [bits / 2 ^ 18, bits / 2 ^ 12 % 64, bits / 2 ^ 6 % 64, bits % 64].take digits = l at hall ⊢
  induction l with
  | nil => rfl
  | cons d rest ih =>
    have hd := hdigit d (hall d List.mem_cons_self)
    have hrest := ih fun x hx => hall x (List.mem_cons_of_mem _ hx)
    simp only [List.map_cons, List.mapM_cons, hd, hrest]
    rfl

theorem decode_encode (l : List UInt8) : e.decode (e.encode l) = some l := by
  unfold decode
  fun_induction encode e l with
  | case1 a b c rest ih =>
    have ha := a.toNat_lt; have hb := b.toNat_lt; have hc := c.toNat_lt
    have hbits : a.toNat * 65536 + b.toNat * 256 + c.toNat < 2 ^ 24 := by omega
    obtain ⟨digits, hdigits, hrest⟩ := Option.bind_eq_some_iff.1 ih
    rw [List.mapM_append, group_digits hpad hdigit hbits, hdigits]
    simp only [bind, Option.bind, pure, List.take, List.cons_append, List.nil_append, ofDigits, hrest]
    have hsum : (a.toNat * 65536 + b.toNat * 256 + c.toNat) / 2 ^ 18 * 2 ^ 18 +
        (a.toNat * 65536 + b.toNat * 256 + c.toNat) / 2 ^ 12 % 64 * 2 ^ 12 +
        (a.toNat * 65536 + b.toNat * 256 + c.toNat) / 2 ^ 6 % 64 * 2 ^ 6 +
        (a.toNat * 65536 + b.toNat * 256 + c.toNat) % 64 = a.toNat * 65536 + b.toNat * 256 + c.toNat := by omega
    have h₁ : (a.toNat * 65536 + b.toNat * 256 + c.toNat) / 65536 = a.toNat := by omega
    have h₂ : (a.toNat * 65536 + b.toNat * 256 + c.toNat) / 256 % 256 = b.toNat := by omega
    have h₃ : (a.toNat * 65536 + b.toNat * 256 + c.toNat) % 256 = c.toNat := by omega
    simp only [hsum, h₁, h₂, h₃, UInt8.ofNat_toNat]
  | case2 a b =>
    have ha := a.toNat_lt; have hb := b.toNat_lt
    have hbits : a.toNat * 65536 + b.toNat * 256 < 2 ^ 24 := by omega
    rw [group_digits hpad hdigit hbits]
    have hsum : (a.toNat * 65536 + b.toNat * 256) / 2 ^ 18 * 2 ^ 18 + (a.toNat * 65536 + b.toNat * 256) / 2 ^ 12 % 64 * 2 ^ 12 +
        (a.toNat * 65536 + b.toNat * 256) / 2 ^ 6 % 64 * 2 ^ 6 = a.toNat * 65536 + b.toNat * 256 := by omega
    have h₁ : (a.toNat * 65536 + b.toNat * 256) / 65536 = a.toNat := by omega
    have h₂ : (a.toNat * 65536 + b.toNat * 256) / 256 % 256 = b.toNat := by omega
    simp only [bind, Option.bind, List.take, ofDigits, hsum, h₁, h₂, UInt8.ofNat_toNat]
  | case3 a =>
    have ha := a.toNat_lt
    have hbits : a.toNat * 65536 < 2 ^ 24 := by omega
    rw [group_digits hpad hdigit hbits]
    have h₁ : (a.toNat * 65536 / 2 ^ 18 * 2 ^ 18 + a.toNat * 65536 / 2 ^ 12 % 64 * 2 ^ 12) / 65536 = a.toNat := by omega
    simp only [bind, Option.bind, List.take, ofDigits, h₁, UInt8.ofNat_toNat]
  | case4 => rfl

theorem decodeExact_encode (l : List UInt8) : e.decodeExact (e.encode l) = some l := by
  simp [decodeExact, decode_encode hpad hdigit]

end

/-! ## Padding -/

/-- The same alphabet without padding. -/
def unpadded (e : Base64Engine) : Base64Engine := ⟨e.alphabet, false⟩

/-- The strict decoder of padded text: whole groups of four characters, the last one filled up with at most two signs. -/
def decodePadded (e : Base64Engine) (text : List Char) : Option (List UInt8) :=
  let digits := (text.reverse.dropWhile (· = '=')).reverse
  if text.length % 4 = 0 ∧ text.length ≤ digits.length + 2 then e.decode digits else none

section

variable {e : Base64Engine} (hpad : e.pad = true)
include hpad

/-- Padding fills up the last group. -/
theorem encode_padded (l : List UInt8) : ∃ n ≤ 2, e.encode l = e.unpadded.encode l ++ List.replicate n '=' ∧
    (e.encode l).length % 4 = 0 := by
  fun_induction encode e l with
  | case1 a b c rest ih =>
    obtain ⟨n, hn, hrest, hlen⟩ := ih
    refine ⟨n, hn, ?_, ?_⟩
    · rw [hrest, encode, ← List.append_assoc]
      simp [group, hpad, unpadded]
    · simp only [group, List.length_append, List.length_map, List.take, List.length_cons, List.length_nil, hpad, if_true,
        List.length_replicate]
      omega
  | case2 a b => exact ⟨1, by decide, by simp [encode, group, hpad, unpadded], by simp [group, hpad]⟩
  | case3 a => exact ⟨2, by decide, by simp [encode, group, hpad, unpadded, List.replicate], by simp [group, hpad]⟩
  | case4 => exact ⟨0, by decide, by simp [encode], by simp⟩

end

theorem length_group {e : Base64Engine} (hpad : e.pad = true) {digits : Nat} (hdigits : digits ≤ 4) (bits : Nat) :
    (e.group digits bits).length = 4 := by
  simp only [group, List.length_append, List.length_map, hpad, if_true, List.length_take, List.length_cons, List.length_nil,
    List.length_replicate]
  omega

/-- Four characters for every three bytes begun. -/
theorem length_encode {e : Base64Engine} (hpad : e.pad = true) (l : List UInt8) : (e.encode l).length = 4 * ((l.length + 2) / 3) := by
  fun_induction encode e l with
  | case1 a b c rest ih =>
    rw [List.length_append, length_group hpad (Nat.le_refl 4), ih]
    simp only [List.length_cons]
    omega
  | case2 a b => simp [length_group hpad]
  | case3 a => simp [length_group hpad]
  | case4 => rfl

/-- Without padding, a character is a digit. -/
theorem mem_encode_unpadded {e : Base64Engine} (hpad : e.pad = false) {l : List UInt8} {c : Char} (h : c ∈ e.encode l) :
    ∃ d < 64, c = e.alphabet.getD d '=' := by
  have hgroup (digits bits : Nat) (hbits : bits < 2 ^ 24) (h : c ∈ e.group digits bits) : ∃ d < 64, c = e.alphabet.getD d '=' := by
    simp only [group, hpad, Bool.false_eq_true, if_false, List.append_nil, List.mem_map] at h
    obtain ⟨d, hd, rfl⟩ := h
    have hd := List.mem_of_mem_take hd
    simp only [List.mem_cons, List.not_mem_nil, or_false] at hd
    exact ⟨d, by omega, rfl⟩
  fun_induction encode e l with
  | case1 a b c' rest ih =>
    have ha := a.toNat_lt; have hb := b.toNat_lt; have hc := c'.toNat_lt
    rcases List.mem_append.1 h with h | h
    · exact hgroup _ _ (by omega) h
    · exact ih h
  | case2 a b =>
    have ha := a.toNat_lt; have hb := b.toNat_lt
    exact hgroup _ _ (by omega) h
  | case3 a =>
    have ha := a.toNat_lt
    exact hgroup _ _ (by omega) h
  | case4 => cases h

/-- Text without padding signs, padded, is the text again when they are stripped. -/
theorem strip_padding {text : List Char} (h : '=' ∉ text) (n : Nat) :
    ((text ++ List.replicate n '=').reverse.dropWhile (· = '=')).reverse = text := by
  have hdrop : (List.replicate n '=' ++ text.reverse).dropWhile (· = '=') = text.reverse := by
    induction n with
    | zero =>
      cases hrev : text.reverse with
      | nil => rfl
      | cons c rest =>
        have hc : c ∈ text := List.mem_reverse.1 (hrev ▸ List.mem_cons_self)
        exact List.dropWhile_cons_of_neg (by simpa using fun heq : c = '=' => h (heq ▸ hc))
    | succ n ih => rw [List.replicate_succ, List.cons_append, List.dropWhile_cons_of_pos (by simp), ih]
  rw [List.reverse_append, List.reverse_replicate, hdrop, List.reverse_reverse]

theorem sign_notMem_unpadded {e : Base64Engine} (hdigit : ∀ n < 64, e.digit (e.alphabet.getD n '=') = some n)
    (hsign : e.digit '=' = none) (l : List UInt8) : '=' ∉ e.unpadded.encode l := by
  intro h
  obtain ⟨d, hd, heq⟩ := mem_encode_unpadded rfl h
  have hsome := hdigit d hd
  rw [← show '=' = e.alphabet.getD d '=' from heq, hsign] at hsome
  cases hsome

section

variable {e : Base64Engine} (hpad : e.pad = true) (hdigit : ∀ n < 64, e.digit (e.alphabet.getD n '=') = some n)
  (hsign : e.digit '=' = none)
include hpad hdigit hsign

/-- Stripped of its padding, a text is the one without padding. -/
theorem strip_encode (l : List UInt8) : ((e.encode l).reverse.dropWhile (· = '=')).reverse = e.unpadded.encode l := by
  obtain ⟨n, -, heq, -⟩ := encode_padded hpad l
  rw [heq, strip_padding (sign_notMem_unpadded hdigit hsign l)]

theorem decodePadded_encode (l : List UInt8) : e.decodePadded (e.encode l) = some l := by
  obtain ⟨n, hn, heq, hlen⟩ := encode_padded hpad l
  have hshort : (e.encode l).length ≤ (e.unpadded.encode l).length + 2 := by
    rw [heq, List.length_append, List.length_replicate]
    omega
  simp only [decodePadded, strip_encode hpad hdigit hsign, hlen, hshort, and_self, if_true]
  exact decode_encode (e := e.unpadded) rfl hdigit l

end

/-- Two alphabets, one mapped to the other. -/
theorem map_encode {e e' : Base64Engine} {f : Char → Char} (hpad : e.pad = false) (hpad' : e'.pad = false)
    (hf : ∀ n < 64, f (e.alphabet.getD n '=') = e'.alphabet.getD n '=') (l : List UInt8) : (e.encode l).map f = e'.encode l := by
  have hgroup (digits bits : Nat) (hbits : bits < 2 ^ 24) : (e.group digits bits).map f = e'.group digits bits := by
    simp only [group, hpad, hpad', Bool.false_eq_true, if_false, List.append_nil, List.map_map]
    refine List.map_congr_left fun d hd => hf d ?_
    have hd := List.mem_of_mem_take hd
    simp only [List.mem_cons, List.not_mem_nil, or_false] at hd
    omega
  fun_induction encode e l with
  | case1 a b c rest ih =>
    have ha := a.toNat_lt; have hb := b.toNat_lt; have hc := c.toNat_lt
    rw [List.map_append, hgroup _ _ (by omega), ih, encode]
  | case2 a b =>
    have ha := a.toNat_lt; have hb := b.toNat_lt
    rw [hgroup _ _ (by omega), encode]
  | case3 a =>
    have ha := a.toNat_lt
    rw [hgroup _ _ (by omega), encode]
  | case4 => rfl

end Base64Engine

theorem standard_digit : ∀ n < 64, standard.digit (standard.alphabet.getD n '=') = some n := by
  decide +kernel

theorem urlSafeNoPad_digit : ∀ n < 64, urlSafeNoPad.digit (urlSafeNoPad.alphabet.getD n '=') = some n := by
  decide +kernel

/-- The UTF-8 bytes of a string. -/
def bytes (s : String) : List UInt8 := s.toUTF8.toList

/-- Reading an array from an index on. -/
theorem byteArray_loop (a : ByteArray) (i : Nat) (r : List UInt8) :
    ByteArray.toList.loop a i r = r.reverse ++ a.data.toList.drop i := by
  fun_induction ByteArray.toList.loop a i r with
  | case1 i r h ih =>
    have hi : i < a.data.toList.length := by simpa using h
    have hget : a.get! i = a.data.toList[i] := by
      rw [ByteArray.get!, getElem!_pos a.data i (by simpa using h), Array.getElem_toList]
    rw [ih, List.drop_eq_getElem_cons hi, hget]
    simp
  | case2 i r h =>
    have hi : a.data.toList.length ≤ i := by simpa using h
    rw [List.drop_eq_nil_of_le hi, List.append_nil]

theorem byteArray_toList (a : ByteArray) : a.toList = a.data.toList := by
  rw [ByteArray.toList, byteArray_loop]
  rfl

theorem bytes_append (s t : String) : bytes (s ++ t) = bytes s ++ bytes t := by
  rw [bytes, bytes, bytes, byteArray_toList, byteArray_toList, byteArray_toList, ← ByteArray.toList_data_append]
  rfl

theorem bytes_injective {s t : String} (h : bytes s = bytes t) : s = t := by
  unfold bytes at h
  rw [byteArray_toList, byteArray_toList] at h
  exact String.toByteArray_inj.1 (ByteArray.ext (Array.toList_inj.1 h))

/-- The characters of an encoded text. -/
theorem mem_encode {e : Base64Engine} {l : List UInt8} {c : Char} (h : c ∈ e.encode l) : c ∈ '=' :: e.alphabet := by
  have hgroup (digits bits : Nat) (h : c ∈ e.group digits bits) : c ∈ '=' :: e.alphabet := by
    rcases List.mem_append.1 h with hdigit | hpad
    · obtain ⟨d, -, rfl⟩ := List.mem_map.1 hdigit
      rw [List.getD_eq_getElem?_getD]
      cases hget : e.alphabet[d]? with
      | none => exact List.mem_cons_self
      | some c => exact List.mem_cons_of_mem _ (List.mem_of_getElem? hget)
    · split at hpad
      · rw [List.eq_of_mem_replicate hpad]
        exact List.mem_cons_self
      · cases hpad
  induction l using Base64Engine.encode.induct with
  | case1 a b c' rest ih =>
    rcases List.mem_append.1 h with h | h
    · exact hgroup _ _ h
    · exact ih h
  | case2 | case3 => exact hgroup _ _ h
  | case4 => cases h

end Boxplot.Lib
