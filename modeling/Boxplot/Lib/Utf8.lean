import Boxplot.Lib.Base64
/-!
# UTF-8 text as bytes

The bytes of a text, character by character. A byte below 128 is always a
character of its own.
-/

namespace Boxplot.Lib

theorem bytes_ofList (l : List Char) : bytes (String.ofList l) = l.flatMap String.utf8EncodeChar := by
  rw [bytes, byteArray_toList]
  change (String.ofList l).toByteArray.data.toList = _
  rw [String.toByteArray_ofList, List.utf8Encode, List.toList_data_toByteArray]

theorem bytes_eq_flatMap (s : String) : bytes s = s.toList.flatMap String.utf8EncodeChar := by
  conv_lhs => rw [← String.ofList_toList (s := s)]
  exact bytes_ofList s.toList

/-! ## Characters -/

theorem charBytes_ascii {c : Char} (h : c.toNat < 128) : String.utf8EncodeChar c = [UInt8.ofNat c.toNat] := by
  unfold String.utf8EncodeChar
  exact if_pos (Nat.le_of_lt_succ h)

/-- Every byte of a character past ASCII has its top bit set. -/
theorem charBytes_high {c : Char} (h : 128 ≤ c.toNat) : ∀ b ∈ String.utf8EncodeChar c, 128 ≤ b.toNat := by
  have hlow : ¬c.val.toNat ≤ 0x7f := Nat.not_le.2 h
  have hmax : c.val.toNat < 0x110000 := by
    rcases c.valid with h | h
    · exact h.trans (by decide)
    · exact h.2
  intro b hb
  unfold String.utf8EncodeChar at hb
  simp only [hlow, if_false] at hb
  split at hb
  · simp only [List.mem_cons, List.not_mem_nil, or_false] at hb
    rcases hb with rfl | rfl <;> rw [UInt8.toNat_ofNat'] <;> omega
  · split at hb
    · simp only [List.mem_cons, List.not_mem_nil, or_false] at hb
      rcases hb with rfl | rfl | rfl <;> rw [UInt8.toNat_ofNat'] <;> omega
    · simp only [List.mem_cons, List.not_mem_nil, or_false] at hb
      rcases hb with rfl | rfl | rfl | rfl <;> rw [UInt8.toNat_ofNat'] <;> omega

/-- A text's first character is told by its bytes. -/
theorem charBytes_inj {c c' : Char} {l l' : List UInt8} (h : String.utf8EncodeChar c ++ l = String.utf8EncodeChar c' ++ l') :
    c = c' := by
  have hdecode : ∀ (c : Char) (l : List UInt8), ByteArray.utf8DecodeChar? (String.utf8EncodeChar c ++ l).toByteArray 0 = some c := by
    intro c l
    rw [List.toByteArray_append, ByteArray.utf8DecodeChar?_utf8EncodeChar_append]
  have heq := hdecode c' l'
  rw [← h, hdecode c l] at heq
  exact Option.some.inj heq

/-! ## ASCII -/

/-- A character as one byte. -/
def asciiByte (c : Char) : UInt8 := UInt8.ofNat c.toNat

/-- A byte as a character. -/
def asciiChar (b : UInt8) : Char := Char.ofNat b.toNat

theorem asciiByte_toNat {c : Char} (h : c.toNat < 128) : (asciiByte c).toNat = c.toNat := by
  rw [asciiByte, UInt8.toNat_ofNat']
  omega

theorem asciiChar_asciiByte {c : Char} (h : c.toNat < 128) : asciiChar (asciiByte c) = c := by
  rw [asciiChar, asciiByte_toNat h, Char.ofNat_toNat]

theorem asciiChar_toNat {b : UInt8} (h : b.toNat < 128) : (asciiChar b).toNat = b.toNat := by
  have hvalid : b.toNat.isValidChar := Or.inl (by omega)
  rw [asciiChar, Char.ofNat, dif_pos hvalid]
  rfl

theorem asciiByte_asciiChar {b : UInt8} (h : b.toNat < 128) : asciiByte (asciiChar b) = b := by
  rw [asciiByte, asciiChar_toNat h, UInt8.ofNat_toNat]

theorem bytes_ascii {s : String} (h : ∀ c ∈ s.toList, c.toNat < 128) : bytes s = s.toList.map asciiByte := by
  rw [bytes_eq_flatMap]
  generalize s.toList = l at h
  induction l with
  | nil => rfl
  | cons c rest ih =>
    rw [List.flatMap_cons, charBytes_ascii (h c List.mem_cons_self), ih fun d hd => h d (List.mem_cons_of_mem c hd)]
    rfl

/-- A byte below 128 is in the bytes of a text where its character is in the text. -/
theorem mem_bytes {s : String} {b : UInt8} (hb : b.toNat < 128) : b ∈ bytes s ↔ asciiChar b ∈ s.toList := by
  rw [bytes_eq_flatMap, List.mem_flatMap]
  constructor
  · rintro ⟨c, hc, hmem⟩
    by_cases hlow : c.toNat < 128
    · rw [charBytes_ascii hlow, List.mem_singleton] at hmem
      rw [hmem]
      change asciiChar (asciiByte c) ∈ s.toList
      rwa [asciiChar_asciiByte hlow]
    · have hhigh := charBytes_high (Nat.not_lt.1 hlow) b hmem
      omega
  · intro hc
    refine ⟨asciiChar b, hc, ?_⟩
    rw [charBytes_ascii (by rw [asciiChar_toNat hb]; exact hb), List.mem_singleton]
    exact (asciiByte_asciiChar hb).symm

/-- A text begins with an ASCII character where its bytes do. -/
theorem head_bytes {s : String} {c : Char} (hc : c.toNat < 128) : (bytes s).head? = some (asciiByte c) ↔ s.toList.head? = some c := by
  rw [bytes_eq_flatMap]
  cases s.toList with
  | nil => simp
  | cons d rest =>
    rw [List.flatMap_cons, List.head?_cons, List.head?_append]
    by_cases hlow : d.toNat < 128
    · rw [charBytes_ascii hlow]
      constructor
      · intro h
        have hd : asciiByte d = asciiByte c := Option.some.inj h
        rw [← asciiChar_asciiByte hlow, hd, asciiChar_asciiByte hc]
      · intro h
        rw [Option.some.inj h]
        rfl
    · have hhigh := charBytes_high (Nat.not_lt.1 hlow)
      obtain ⟨b, tail, hb⟩ := List.exists_cons_of_ne_nil (List.length_pos_iff.1 (by rw [String.length_utf8EncodeChar]; exact d.utf8Size_pos))
      rw [hb] at hhigh ⊢
      constructor
      · intro h
        have hlt := hhigh b List.mem_cons_self
        rw [show b = asciiByte c from Option.some.inj h, asciiByte_toNat hc] at hlt
        omega
      · intro h
        exact absurd (Option.some.inj h ▸ hc) hlow

/-! ## Decoding -/

/-- `from_utf8`. -/
def textOf (l : List UInt8) : Option String := String.fromUTF8? ⟨l.toArray⟩

theorem textOf_eq_some {l : List UInt8} {s : String} : textOf l = some s ↔ l = bytes s := by
  have hbytes : l = bytes s ↔ (⟨l.toArray⟩ : ByteArray) = s.toByteArray := by
    rw [bytes, byteArray_toList, ByteArray.ext_iff]
    change l = s.toByteArray.data.toList ↔ l.toArray = s.toByteArray.data
    rw [← Array.toList_inj]
  rw [hbytes, textOf, String.fromUTF8?]
  constructor
  · intro h
    split at h
    · cases h
      rfl
    · cases h
  · intro h
    rw [h, dif_pos s.isValidUTF8]
    rfl

@[simp] theorem textOf_bytes (s : String) : textOf (bytes s) = some s := textOf_eq_some.2 rfl

theorem textOf_ascii {l : List UInt8} (h : ∀ b ∈ l, b.toNat < 128) : textOf l = some (String.ofList (l.map asciiChar)) := by
  rw [textOf_eq_some, bytes_ascii, String.toList_ofList, List.map_map]
  · exact ((List.map_congr_left fun b hb => asciiByte_asciiChar (h b hb)).trans (List.map_id l)).symm
  · intro c hc
    rw [String.toList_ofList] at hc
    obtain ⟨b, hb, rfl⟩ := List.mem_map.1 hc
    rw [asciiChar_toNat (h b hb)]
    exact h b hb

/-! ## Pieces of a text -/

/-- A text cut at an ASCII byte is a text on either side. -/
theorem bytes_cut {s : String} {a b : List UInt8} {c : UInt8} (hc : c.toNat < 128) (h : bytes s = a ++ c :: b) :
    ∃ t u, a = bytes t ∧ b = bytes u := by
  rw [bytes_eq_flatMap] at h
  generalize s.toList = l at h
  induction l generalizing a with
  | nil => simp at h
  | cons d rest ih =>
    rw [List.flatMap_cons] at h
    by_cases hlow : d.toNat < 128
    · rw [charBytes_ascii hlow, List.singleton_append] at h
      cases a with
      | nil =>
        refine ⟨String.ofList [], String.ofList rest, (bytes_ofList []).symm, ?_⟩
        rw [bytes_ofList]
        exact (List.cons.inj h).2.symm
      | cons x a =>
        obtain ⟨hx, hrest⟩ := List.cons.inj h
        obtain ⟨t, u, rfl, rfl⟩ := ih hrest
        refine ⟨String.ofList (d :: t.toList), u, ?_, rfl⟩
        rw [bytes_ofList, List.flatMap_cons, ← bytes_eq_flatMap, charBytes_ascii hlow, ← hx]
        rfl
    · -- the cut is behind the bytes of this character
      have hhigh := charBytes_high (Nat.not_lt.1 hlow)
      rcases List.append_eq_append_iff.1 h with ⟨a', rfl, hrest⟩ | ⟨a', hd, hrest⟩
      · obtain ⟨t, u, rfl, rfl⟩ := ih hrest
        refine ⟨String.ofList (d :: t.toList), u, ?_, rfl⟩
        rw [bytes_ofList, List.flatMap_cons, ← bytes_eq_flatMap]
      · cases a' with
        | nil =>
          rw [List.append_nil] at hd
          obtain ⟨t, u, ht, rfl⟩ := ih (a := []) hrest.symm
          refine ⟨String.ofList [d], u, ?_, rfl⟩
          rw [bytes_ofList, List.flatMap_cons, hd]
          simp
        | cons x a' =>
          obtain ⟨rfl, -⟩ := List.cons.inj hrest
          have hx := hhigh c (hd ▸ List.mem_append_right a List.mem_cons_self)
          omega

end Boxplot.Lib
