import Mathlib
import Boxplot.Lib.Hex
/-!
# The key of the encrypted cache as a stored secret

`src-tauri/src/security/linux_dek_codec.rs`, with `Dek` of `dek.rs`. A secret of
32 bytes is an old raw key, and any other has the prefix and the key in digits.
No secret is both, so a stored key is read in one way or not at all.
-/

namespace Boxplot.Security

open Lib

/-! ## Keys -/

structure Dek where
  bytes : Vector UInt8 32
  deriving DecidableEq

structure InvalidDekLength where
  actual : Nat
  deriving DecidableEq, Repr

inductive DekStoreError
  | unavailable
  | corrupt
  | invalidStoredDek
  | configuration
  deriving DecidableEq, Repr

def Dek.fromSecret (secret : List UInt8) : Except InvalidDekLength Dek :=
  if h : secret.length = 32 then .ok ⟨⟨secret.toArray, h⟩⟩ else .error ⟨secret.length⟩

def Dek.expose (dek : Dek) : List UInt8 := dek.bytes.toList

theorem Dek.expose_inj {k k' : Dek} : k.expose = k'.expose ↔ k = k' := by
  cases k
  cases k'
  simp [Dek.expose, Vector.toList_inj]

theorem Dek.length_expose (k : Dek) : k.expose.length = 32 := Vector.length_toList

namespace LinuxDekCodec

/-! ## The codec -/

/-- `PREFIX`. -/
def dekPrefix : String := "cbx-dek-v1:"

def encode (dek : Dek) : String := dekPrefix ++ String.ofList (dek.expose.flatMap fun byte => [Hex.digit (byte.toNat / 16), Hex.digit (byte.toNat % 16)])

def hexNibble (value : UInt8) : Except DekStoreError UInt8 :=
  if 48 ≤ value ∧ value ≤ 57 then .ok (value - 48)
  else if 97 ≤ value ∧ value ≤ 102 then .ok (value - 97 + 10)
  else .error .invalidStoredDek

/-- The pairs of digits are written from `index` on. -/
def writeNibbles (decoded : Vector UInt8 32) (index : Nat) : List UInt8 → Except DekStoreError (Vector UInt8 32)
  | a :: b :: rest => do
    let high ← hexNibble a
    let low ← hexNibble b
    writeNibbles (decoded.setIfInBounds index (high <<< 4 ||| low)) (index + 1) rest
  | _ => .ok decoded

def decode (secret : List UInt8) : Except DekStoreError Dek :=
  if secret.length = 32 then (Dek.fromSecret secret).mapError fun _ => .invalidStoredDek
  else
    match textOf secret with
    | none => .error .invalidStoredDek
    | some encoded =>
      match (bytes dekPrefix).isPrefixOf? (bytes encoded) with
      | none => .error .invalidStoredDek
      | some payload =>
        if payload.length ≠ 64 ∨ ¬payload.all fun byte => (48 ≤ byte && byte ≤ 57) || (97 ≤ byte && byte ≤ 102) then .error .invalidStoredDek
        else do
          let decoded ← writeNibbles (Vector.replicate 32 0) 0 payload
          .ok ⟨decoded⟩

/-! ## Digits -/

theorem hexNibble_eq (b : UInt8) : hexNibble b = match Hex.value b with
    | some n => .ok (UInt8.ofNat n)
    | none => .error .invalidStoredDek := by
  have hlow : (48 ≤ b ∧ b ≤ 57) ↔ 48 ≤ b.toNat ∧ b.toNat ≤ 57 := by simp [UInt8.le_iff_toNat_le]
  have hhigh : (97 ≤ b ∧ b ≤ 102) ↔ 97 ≤ b.toNat ∧ b.toNat ≤ 102 := by simp [UInt8.le_iff_toNat_le]
  unfold hexNibble Hex.value
  by_cases hdigit : 48 ≤ b.toNat ∧ b.toNat ≤ 57
  · rw [if_pos (hlow.2 hdigit), if_pos hdigit]
    refine congrArg Except.ok (UInt8.toNat_inj.1 ?_)
    rw [UInt8.toNat_sub_of_le _ _ (hlow.2 hdigit).1, UInt8.toNat_ofNat']
    simp only [UInt8.reduceToNat]
    omega
  · rw [if_neg (mt hlow.1 hdigit), if_neg hdigit]
    by_cases hletter : 97 ≤ b.toNat ∧ b.toNat ≤ 102
    · rw [if_pos (hhigh.2 hletter), if_pos hletter]
      refine congrArg Except.ok (UInt8.toNat_inj.1 ?_)
      rw [UInt8.toNat_add, UInt8.toNat_sub_of_le _ _ (hhigh.2 hletter).1, UInt8.toNat_ofNat']
      simp only [UInt8.reduceToNat]
      omega
    · rw [if_neg (mt hhigh.1 hletter), if_neg hletter]

/-- Two nibbles are one byte. -/
theorem nibbles_eq {high low : Nat} (hhigh : high < 16) (hlow : low < 16) :
    UInt8.ofNat high <<< 4 ||| UInt8.ofNat low = UInt8.ofNat (16 * high + low) := by
  have hall : ∀ high < 16, ∀ low < 16, UInt8.ofNat high <<< 4 ||| UInt8.ofNat low = UInt8.ofNat (16 * high + low) := by decide
  exact hall high hhigh low hlow

/-- The bytes of the digits, one after the other. -/
theorem writeNibbles_eq {payload l : List UInt8} (h : Hex.read payload = some l) (decoded : Vector UInt8 32) {index : Nat}
    (hindex : index + l.length ≤ 32) : ∃ decoded', writeNibbles decoded index payload = .ok decoded' ∧
      decoded'.toList = decoded.toList.take index ++ (l ++ decoded.toList.drop (index + l.length)) := by
  fun_induction Hex.read payload generalizing l decoded index with
  | case1 =>
    cases h
    exact ⟨decoded, rfl, by simp⟩
  | case2 => cases h
  | case3 a b rest ih =>
    simp only [Option.bind_eq_bind, Option.bind_eq_some_iff] at h
    obtain ⟨high, hhigh, low, hlow, tail, htail, h⟩ := h
    cases h
    rw [List.length_cons] at hindex
    have hrest : index + 1 + tail.length ≤ 32 := by omega
    obtain ⟨decoded', hwrite, hlist⟩ := ih htail (decoded.setIfInBounds index (UInt8.ofNat (16 * high + low))) hrest
    refine ⟨decoded', ?_, ?_⟩
    · rw [writeNibbles, hexNibble_eq, hexNibble_eq, hhigh, hlow]
      change writeNibbles (decoded.setIfInBounds index (UInt8.ofNat high <<< 4 ||| UInt8.ofNat low)) (index + 1) rest = _
      rw [nibbles_eq (Hex.value_lt hhigh) (Hex.value_lt hlow), hwrite]
    · have hlength : decoded.toList.length = 32 := Vector.length_toList
      have htake (v : UInt8) : (decoded.toList.set index v).take (index + 1) = decoded.toList.take index ++ [v] := by
        rw [List.take_add_one, List.take_set_of_le (le_refl index), List.getElem?_set_self (by omega)]
        rfl
      have hdrop (v : UInt8) : (decoded.toList.set index v).drop (index + 1 + tail.length) = decoded.toList.drop (index + (tail.length + 1)) := by
        rw [List.drop_set_of_lt (by omega)]
        congr 1
        omega
      rw [hlist, Vector.toList_setIfInBounds, htake, hdrop, List.append_assoc]
      rfl

/-! ## The two forms -/

/-- The prefix, and 64 digits behind it. -/
def Prefixed (secret digits : List UInt8) : Prop :=
  secret = bytes dekPrefix ++ digits ∧ digits.length = 64 ∧ ∀ b ∈ digits, Hex.isDigit b = true

theorem length_dekPrefix : (bytes dekPrefix).length = 11 := by decide_cbv

theorem length_prefixed {secret digits : List UInt8} (h : Prefixed secret digits) : secret.length = 75 := by
  obtain ⟨rfl, hdigits, -⟩ := h
  rw [List.length_append, length_dekPrefix, hdigits]

theorem isDigit_eq (b : UInt8) : ((48 ≤ b && b ≤ 57) || (97 ≤ b && b ≤ 102)) = Hex.isDigit b := by
  rw [Bool.eq_iff_iff, Hex.isDigit_iff]
  simp [UInt8.le_iff_toNat_le]

theorem prefixed_text {secret digits : List UInt8} (h : Prefixed secret digits) : (textOf secret).isSome = true := by
  have hascii : ∀ b ∈ secret, b.toNat < 128 := by
    obtain ⟨rfl, -, hdigits⟩ := h
    intro b hb
    rcases List.mem_append.1 hb with hb | hb
    · have hall : (bytes dekPrefix).all (·.toNat < 128) = true := by decide_cbv
      simpa using List.all_eq_true.1 hall b hb
    · rcases Hex.isDigit_iff.1 (hdigits b hb) with hb | hb
      · omega
      · omega
  rw [textOf_ascii hascii]
  rfl

theorem decode_raw {secret : List UInt8} (h : secret.length = 32) : ∃ k, decode secret = .ok k ∧ k.expose = secret := by
  refine ⟨⟨⟨secret.toArray, h⟩⟩, ?_, ?_⟩
  · rw [decode, if_pos h, Dek.fromSecret, dif_pos h]
    rfl
  · simp [Dek.expose]

theorem decode_prefixed {secret digits : List UInt8} (h : Prefixed secret digits) :
    ∃ k, decode secret = .ok k ∧ Hex.read digits = some k.expose := by
  have hlength : ¬secret.length = 32 := by
    rw [length_prefixed h]
    decide
  obtain ⟨encoded, hencoded⟩ := Option.isSome_iff_exists.1 (prefixed_text h)
  have hsecret := textOf_eq_some.1 hencoded
  obtain ⟨hstart, hdigits, hall⟩ := h
  have hpayload : (bytes dekPrefix).isPrefixOf? (bytes encoded) = some digits := by
    rw [List.isPrefixOf?_eq_some_iff_append_eq, ← hsecret, hstart]
  have hread : (Hex.read digits).isSome = true := Hex.read_isSome.2 ⟨by rw [hdigits], hall⟩
  obtain ⟨l, hl⟩ := Option.isSome_iff_exists.1 hread
  have hcount := Hex.length_read hl
  have hfits : 0 + l.length ≤ 32 := by omega
  obtain ⟨decoded, hwrite, hlist⟩ := writeNibbles_eq hl (Vector.replicate 32 0) hfits
  refine ⟨⟨decoded⟩, ?_, ?_⟩
  · have hcheck : ¬(digits.length ≠ 64 ∨ ¬(digits.all fun byte => (48 ≤ byte && byte ≤ 57) || (97 ≤ byte && byte ≤ 102)) = true) := by
      simp only [isDigit_eq, not_or, not_not]
      exact ⟨hdigits, List.all_eq_true.2 hall⟩
    rw [decode, if_neg hlength, hencoded]
    simp only [hpayload, if_neg hcheck, hwrite]
    rfl
  · have hrest : (Vector.replicate 32 (0 : UInt8)).toList.drop (0 + l.length) = [] := List.drop_eq_nil_of_le (by simp; omega)
    rw [hl, Dek.expose, hlist, hrest]
    simp

/-- A secret of neither form is refused. -/
theorem decode_neither {secret : List UInt8} (hraw : secret.length ≠ 32) (h : ∀ digits, ¬Prefixed secret digits) :
    decode secret = .error .invalidStoredDek := by
  rw [decode, if_neg hraw]
  cases hencoded : textOf secret with
  | none => rfl
  | some encoded =>
    have hsecret := textOf_eq_some.1 hencoded
    simp only
    cases hpayload : (bytes dekPrefix).isPrefixOf? (bytes encoded) with
    | none => rfl
    | some digits =>
      have hstart := List.isPrefixOf?_eq_some_iff_append_eq.1 hpayload
      refine if_pos ?_
      by_contra hcheck
      simp only [isDigit_eq, not_or, not_not] at hcheck
      exact h digits ⟨by rw [hsecret, hstart], hcheck.1, List.all_eq_true.1 hcheck.2⟩

theorem encode_prefixed (k : Dek) : ∃ digits, Prefixed (bytes (encode k)) digits ∧ Hex.read digits = some k.expose := by
  have hbytes : bytes (encode k) = bytes dekPrefix ++ (Hex.text k.expose).map asciiByte := by
    have htext : bytes (String.ofList (Hex.text k.expose)) = (Hex.text k.expose).map asciiByte := by
      rw [bytes_ascii, String.toList_ofList]
      rw [String.toList_ofList]
      exact Hex.text_ascii k.expose
    rw [← htext, ← bytes_append]
    rfl
  have hread := Hex.read_text k.expose
  have hlength := Hex.length_read hread
  rw [k.length_expose] at hlength
  exact ⟨_, ⟨hbytes, hlength, (Hex.read_isSome.1 (by rw [hread]; rfl)).2⟩, hread⟩

/-- A key comes back from its text; a secret is read exactly in one of the two forms, as what it says; and no secret has both. -/
theorem dek_codec : (∀ k, decode (bytes (encode k)) = .ok k) ∧
    (∀ secret k, decode secret = .ok k ↔ secret.length = 32 ∧ secret = k.expose ∨
      ∃ digits, Prefixed secret digits ∧ Hex.read digits = some k.expose) ∧
    (∀ secret, (∃ k, decode secret = .ok k) ↔ secret.length = 32 ∨ ∃ digits, Prefixed secret digits) ∧
    ∀ secret digits, Prefixed secret digits → secret.length ≠ 32 := by
  have hread : ∀ secret k, decode secret = .ok k ↔ secret.length = 32 ∧ secret = k.expose ∨
      ∃ digits, Prefixed secret digits ∧ Hex.read digits = some k.expose := by
    intro secret k
    constructor
    · intro h
      by_cases hraw : secret.length = 32
      · obtain ⟨k', hk, hexpose⟩ := decode_raw hraw
        obtain rfl := Except.ok.inj (h.symm.trans hk)
        exact Or.inl ⟨hraw, hexpose.symm⟩
      · by_cases hprefixed : ∃ digits, Prefixed secret digits
        · obtain ⟨digits, hdigits⟩ := hprefixed
          obtain ⟨k', hk, hvalue⟩ := decode_prefixed hdigits
          obtain rfl := Except.ok.inj (h.symm.trans hk)
          exact Or.inr ⟨digits, hdigits, hvalue⟩
        · cases h.symm.trans (decode_neither hraw (not_exists.1 hprefixed))
    · rintro (⟨hraw, rfl⟩ | ⟨digits, hdigits, hvalue⟩)
      · obtain ⟨k', hk, hexpose⟩ := decode_raw hraw
        exact hk.trans (congrArg _ (Dek.expose_inj.1 hexpose))
      · obtain ⟨k', hk, hvalue'⟩ := decode_prefixed hdigits
        exact hk.trans (congrArg _ (Dek.expose_inj.1 (Option.some.inj (hvalue'.symm.trans hvalue))))
  refine ⟨fun k => (hread _ k).2 (Or.inr (encode_prefixed k)), hread, fun secret => ⟨?_, ?_⟩, fun secret digits h => ?_⟩
  · rintro ⟨k, hk⟩
    rcases (hread secret k).1 hk with ⟨hraw, -⟩ | ⟨digits, hdigits, -⟩
    · exact Or.inl hraw
    · exact Or.inr ⟨digits, hdigits⟩
  · rintro (hraw | ⟨digits, hdigits⟩)
    · obtain ⟨k, hk, -⟩ := decode_raw hraw
      exact ⟨k, hk⟩
    · obtain ⟨k, hk, -⟩ := decode_prefixed hdigits
      exact ⟨k, hk⟩
  · rw [length_prefixed h]
    decide

end LinuxDekCodec

end Boxplot.Security
