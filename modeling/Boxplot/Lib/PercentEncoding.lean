import Boxplot.Lib.Utf8
/-!
# Percent encoding

A text byte by byte: some bytes stand for themselves, the others are `%` and two
digits. Encodings differ in the bytes they leave alone. Every one of them is
injective, and two of them give one text the same code exactly where they treat
each of its bytes alike.
-/

namespace Boxplot.Lib

/-- The bytes an encoding writes as one character. -/
structure PercentSet where
  literal : UInt8 → Option Char
  literal_ne : ∀ b, literal b ≠ some '%'
  literal_inj : ∀ {a b c}, literal a = some c → literal b = some c → a = b

/-- A digit to base 16, in upper case. -/
def hexDigit (n : Nat) : Char := if n < 10 then Char.ofNat (48 + n) else Char.ofNat (55 + n)

theorem hexDigit_inj {m n : Nat} (hm : m < 16) (hn : n < 16) (h : hexDigit m = hexDigit n) : m = n := by
  have hall : ∀ m < 16, ∀ n < 16, hexDigit m = hexDigit n → m = n := by decide
  exact hall m hm n hn h

namespace PercentSet

variable (e f : PercentSet)

def encodeByte (b : UInt8) : List Char :=
  match e.literal b with
  | some c => [c]
  | none => ['%', hexDigit (b.toNat / 16), hexDigit (b.toNat % 16)]

def encode (text : String) : String := String.ofList ((bytes text).flatMap e.encodeByte)

theorem encodeByte_ne_nil (b : UInt8) : e.encodeByte b ≠ [] := by
  unfold encodeByte
  split <;> exact List.cons_ne_nil _ _

theorem head_encodeByte (b : UInt8) : (e.encodeByte b).head? = some ((e.literal b).getD '%') := by
  unfold encodeByte
  split
  · rename_i h
    rw [h]
    rfl
  · rename_i h
    rw [h]
    rfl

/-- Two bytes whose codes begin alike are both written as one character or both
as digits. -/
theorem literal_eq_of_head {a b : UInt8} {l l' : List Char} (h : e.encodeByte a ++ l = f.encodeByte b ++ l') :
    e.literal a = f.literal b := by
  have hhead : (e.literal a).getD '%' = (f.literal b).getD '%' := by
    have hsome := congrArg List.head? h
    rw [List.head?_append, List.head?_append, head_encodeByte, head_encodeByte] at hsome
    exact Option.some.inj hsome
  have hsign := e.literal_ne a
  have hsign' := f.literal_ne b
  cases ha : e.literal a with
  | none =>
    cases hb : f.literal b with
    | none => rfl
    | some c =>
      rw [ha, hb] at hhead
      exact absurd (congrArg some hhead).symm (hb ▸ hsign')
  | some c =>
    cases hb : f.literal b with
    | none =>
      rw [ha, hb] at hhead
      exact absurd (congrArg some hhead) (ha ▸ hsign)
    | some d =>
      rw [ha, hb] at hhead
      exact congrArg some hhead

theorem encodeByte_inj {a b : UInt8} {l l' : List Char} (h : e.encodeByte a ++ l = e.encodeByte b ++ l') :
    a = b ∧ l = l' := by
  have hliteral := e.literal_eq_of_head e h
  unfold encodeByte at h
  cases ha : e.literal a with
  | some c =>
    rw [ha] at hliteral h
    rw [← hliteral] at h
    exact ⟨e.literal_inj ha hliteral.symm, (List.cons.inj h).2⟩
  | none =>
    rw [ha] at hliteral h
    rw [← hliteral] at h
    simp only [List.cons_append, List.nil_append, List.cons.injEq, true_and] at h
    obtain ⟨hhigh, hlow, hrest⟩ := h
    have hsize := a.toNat_lt
    have hsize' := b.toNat_lt
    have hdiv := hexDigit_inj (by omega) (by omega) hhigh
    have hmod := hexDigit_inj (by omega) (by omega) hlow
    exact ⟨UInt8.toNat_inj.1 (by omega), hrest⟩

theorem flatMap_injective : ∀ {a b : List UInt8}, a.flatMap e.encodeByte = b.flatMap e.encodeByte → a = b
  | [], [], _ => rfl
  | [], b :: bs, h => by
    rw [List.flatMap_cons] at h
    exact absurd (List.append_eq_nil_iff.1 h.symm).1 (e.encodeByte_ne_nil b)
  | a :: as, [], h => by
    rw [List.flatMap_cons] at h
    exact absurd (List.append_eq_nil_iff.1 h).1 (e.encodeByte_ne_nil a)
  | a :: as, b :: bs, h => by
    obtain ⟨rfl, hrest⟩ := e.encodeByte_inj h
    rw [flatMap_injective hrest]

theorem encode_injective : Function.Injective e.encode := by
  intro text text' h
  exact bytes_injective (e.flatMap_injective (String.ofList_injective h))

theorem flatMap_eq_iff {l : List UInt8} :
    l.flatMap e.encodeByte = l.flatMap f.encodeByte ↔ ∀ b ∈ l, e.literal b = f.literal b := by
  induction l with
  | nil => simp
  | cons b l ih =>
    rw [List.forall_mem_cons, List.flatMap_cons, List.flatMap_cons]
    constructor
    · intro h
      have hb := e.literal_eq_of_head f h
      have hcode : e.encodeByte b = f.encodeByte b := by rw [encodeByte, encodeByte, hb]
      rw [hcode] at h
      exact ⟨hb, ih.1 (List.append_cancel_left h)⟩
    · rintro ⟨hb, hl⟩
      rw [ih.2 hl, encodeByte, encodeByte, hb]

/-- Two encodings agree on a text where they treat each of its bytes alike. -/
theorem encode_eq_iff {text : String} : e.encode text = f.encode text ↔ ∀ b ∈ bytes text, e.literal b = f.literal b := by
  rw [← e.flatMap_eq_iff f, encode, encode]
  exact ⟨fun h => String.ofList_injective h, congrArg String.ofList⟩

end PercentSet

end Boxplot.Lib
