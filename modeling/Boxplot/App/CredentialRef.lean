import Mathlib.Tactic.Tauto
import Boxplot.Domain.Email
import Boxplot.Lib.PercentEncoding
/-!
# References to Gmail credentials

The application writes an account's reference by `encodeURIComponent`
(`src/app/application.ts`), the host by the byte serialisation of HTML forms
(`src-tauri/src/oauth/google.rs`). Both are percent encodings of the key's UTF-8,
with different bytes left alone.
-/

namespace Boxplot.App

open Domain Lib

/-! ## The two encodings -/

def uriMarks : List Char := "-_.!~*'()".toList

def formMarks : List Char := "*-._".toList

/-- `encodeURIComponent`. -/
def uriLiteral (b : UInt8) : Option Char :=
  if (asciiChar b).isAlphanum || uriMarks.contains (asciiChar b) then some (asciiChar b) else none

/-- `byte_serialize`: a blank is a plus sign. -/
def formLiteral (b : UInt8) : Option Char :=
  if (asciiChar b).isAlphanum || formMarks.contains (asciiChar b) then some (asciiChar b)
  else if b = 32 then some '+' else none

theorem asciiChar_inj {a b : UInt8} (h : asciiChar a = asciiChar b) : a = b := by
  have hvalid : ∀ b : UInt8, (asciiChar b).toNat = b.toNat := by
    intro b
    have hsize := b.toNat_lt
    have hchar : b.toNat.isValidChar := Or.inl (by omega)
    rw [asciiChar, Char.ofNat, dif_pos hchar]
    rfl
  exact UInt8.toNat_inj.1 ((hvalid a).symm.trans ((congrArg Char.toNat h).trans (hvalid b)))

theorem uriLiteral_eq {b : UInt8} {c : Char} (h : uriLiteral b = some c) :
    c = asciiChar b ∧ (c.isAlphanum || uriMarks.contains c) = true := by
  unfold uriLiteral at h
  split at h
  · cases h
    exact ⟨rfl, by assumption⟩
  · cases h

theorem formLiteral_eq {b : UInt8} {c : Char} (h : formLiteral b = some c) :
    c = asciiChar b ∧ (c.isAlphanum || formMarks.contains c) = true ∨ c = '+' ∧ b = 32 := by
  unfold formLiteral at h
  split at h
  · cases h
    exact Or.inl ⟨rfl, by assumption⟩
  · split at h
    · cases h
      exact Or.inr ⟨rfl, by assumption⟩
    · cases h

def uriComponent : PercentSet where
  literal := uriLiteral
  literal_ne := by
    intro b h
    exact absurd (uriLiteral_eq h).2 (by decide)
  literal_inj := by
    intro a b c ha hb
    exact asciiChar_inj ((uriLiteral_eq ha).1.symm.trans (uriLiteral_eq hb).1)

def formUrlencoded : PercentSet where
  literal := formLiteral
  literal_ne := by
    intro b h
    rcases formLiteral_eq h with ⟨-, hmark⟩ | ⟨hsign, -⟩
    · exact absurd hmark (by decide)
    · exact absurd hsign (by decide)
  literal_inj := by
    intro a b c ha hb
    rcases formLiteral_eq ha with ⟨ha, hmark⟩ | ⟨rfl, rfl⟩
    · rcases formLiteral_eq hb with ⟨hb, -⟩ | ⟨rfl, -⟩
      · exact asciiChar_inj (ha.symm.trans hb)
      · exact absurd hmark (by decide)
    · rcases formLiteral_eq hb with ⟨-, hmark⟩ | ⟨-, rfl⟩
      · exact absurd hmark (by decide)
      · rfl

/-! ## The references -/

def encodeURIComponent (text : String) : String := uriComponent.encode text

/-- What `byte_serialize` yields, collected. -/
def byteSerialize (text : String) : String := formUrlencoded.encode text

def gmailCredentialRefForAccount (accountKey : AccountKey) : String := "gmail-oauth-v1/" ++ encodeURIComponent accountKey

def credentialRefForAccount (accountKey : AccountKey) : String := "gmail-oauth-v1/" ++ byteSerialize accountKey

/-- The characters of a key that only one of the two leaves alone. -/
def splitMarks : List Char := " !~'()".toList

theorem mem_uriMarks {c : Char} (h : c ∉ splitMarks) : uriMarks.contains c = formMarks.contains c := by
  have huri : uriMarks = ['-', '_', '.', '!', '~', '*', asciiChar 39, '(', ')'] := by decide
  have hform : formMarks = ['*', '-', '.', '_'] := by decide
  have hsplit : splitMarks = [' ', '!', '~', asciiChar 39, '(', ')'] := by decide
  rw [hsplit] at h
  simp only [List.mem_cons, List.not_mem_nil, or_false, not_or] at h
  rw [Bool.eq_iff_iff, List.contains_iff_mem, List.contains_iff_mem, huri, hform]
  simp only [List.mem_cons, List.not_mem_nil, or_false]
  tauto

theorem literal_eq_iff (b : UInt8) : uriLiteral b = formLiteral b ↔ asciiChar b ∉ splitMarks := by
  constructor
  · intro h hmark
    have hb : b = 32 ∨ b = 33 ∨ b = 126 ∨ b = 39 ∨ b = 40 ∨ b = 41 := by
      have hchars : splitMarks = [asciiChar 32, asciiChar 33, asciiChar 126, asciiChar 39, asciiChar 40, asciiChar 41] := by
        decide
      rw [hchars] at hmark
      simp only [List.mem_cons, List.not_mem_nil, or_false] at hmark
      exact hmark.imp asciiChar_inj (·.imp asciiChar_inj (·.imp asciiChar_inj (·.imp asciiChar_inj
        (·.imp asciiChar_inj asciiChar_inj))))
    rcases hb with rfl | rfl | rfl | rfl | rfl | rfl <;> exact absurd h (by decide)
  · intro h
    have hblank : b ≠ 32 := by
      rintro rfl
      exact h (by decide)
    rw [uriLiteral, formLiteral, mem_uriMarks h, if_neg hblank]

theorem splitMarks_ascii : ∀ c ∈ splitMarks, c.toNat < 128 := by
  have hall : splitMarks.all (·.toNat < 128) = true := by decide
  intro c hc
  exact of_decide_eq_true (List.all_eq_true.1 hall c hc)

theorem prefix_inj {text text' : String} (h : "gmail-oauth-v1/" ++ text = "gmail-oauth-v1/" ++ text') : text = text' := by
  refine String.toList_inj.1 ?_
  have hlist := congrArg String.toList h
  rw [String.toList_append, String.toList_append] at hlist
  exact List.append_cancel_left hlist

theorem gmailCredentialRefForAccount_injective : Function.Injective gmailCredentialRefForAccount :=
  fun _ _ h => uriComponent.encode_injective (prefix_inj h)

theorem credentialRefForAccount_injective : Function.Injective credentialRefForAccount :=
  fun _ _ h => formUrlencoded.encode_injective (prefix_inj h)

theorem encode_agrees_iff (accountKey : AccountKey) :
    encodeURIComponent accountKey = byteSerialize accountKey ↔ ∀ c ∈ accountKey.toList, c ∉ splitMarks := by
  rw [encodeURIComponent, byteSerialize, uriComponent.encode_eq_iff formUrlencoded]
  constructor
  · intro h c hc hmark
    have hlow := splitMarks_ascii c hmark
    have hb : asciiByte c ∈ bytes accountKey := by
      rw [mem_bytes (by rw [asciiByte_toNat hlow]; exact hlow), asciiChar_asciiByte hlow]
      exact hc
    refine (literal_eq_iff _).1 (h (asciiByte c) hb) ?_
    rwa [asciiChar_asciiByte hlow]
  · intro h b hb
    refine (literal_eq_iff b).2 fun hmark => ?_
    by_cases hlow : b.toNat < 128
    · exact h _ ((mem_bytes hlow).1 hb) hmark
    · have hchar := splitMarks_ascii _ hmark
      rw [asciiChar, Char.ofNat, dif_pos (Or.inl (by have := b.toNat_lt; omega))] at hchar
      exact hlow hchar

/-- For a key the application and the host name the same credential, and for no
other key, exactly where the key has no blank and none of `!`, `~`, `'`, `(`, `)`. -/
theorem credential_refs_agree_iff (accountKey : AccountKey) :
    (gmailCredentialRefForAccount accountKey = credentialRefForAccount accountKey ∧
      ∀ other : AccountKey, other ≠ accountKey →
        gmailCredentialRefForAccount other ≠ gmailCredentialRefForAccount accountKey ∧
        credentialRefForAccount other ≠ credentialRefForAccount accountKey) ↔
      ∀ c ∈ accountKey.toList, c ∉ splitMarks := by
  rw [← encode_agrees_iff]
  constructor
  · rintro ⟨h, -⟩
    exact prefix_inj h
  · intro h
    refine ⟨congrArg ("gmail-oauth-v1/" ++ ·) h, fun other hne => ⟨?_, ?_⟩⟩
    · exact fun heq => hne (gmailCredentialRefForAccount_injective heq)
    · exact fun heq => hne (credentialRefForAccount_injective heq)

/-- The reference under which the host has stored a token is not the one the
application asks for. -/
theorem credential_refs_differ : gmailCredentialRefForAccount "gmail:o'neil@example.com" ≠
    credentialRefForAccount "gmail:o'neil@example.com" := by
  intro h
  refine absurd ((encode_agrees_iff _).1 (prefix_inj h) (asciiChar 39) ?_) ?_
  · decide
  · exact not_not.2 (by decide)

end Boxplot.App
