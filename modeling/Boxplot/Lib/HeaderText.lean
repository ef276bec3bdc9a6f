import Boxplot.Lib.EncodedWord
import Boxplot.Lib.Spans
import Boxplot.Lib.State
import Mathlib.Data.List.DropRight
import Mathlib.Data.List.SplitBy
/-!
# Unstructured text in a header

How a reader takes the text of a header field. The blanks around it are no part
of it, a word that is an encoded word in a character set it knows is decoded, and
blanks between two of these are dropped. Everything else is kept, so a text reads
as it is where nothing in it is decoded or dropped.
-/

namespace Boxplot.Lib.HeaderText

/-! ## Encoded words of any kind -/

/-- The character sets a reader knows, by their names in lower case. UTF-8 is one of them, and no byte makes two characters. -/
structure Charsets where
  decoder : List Char → Option (List UInt8 → Option String)
  utf8 : decoder "utf-8".toList = some textOf
  short : ∀ name decode l text, decoder name = some decode → decode l = some text → text.toList.length ≤ l.length

/-- Printable, and none of the characters with a meaning in a structured field. -/
def isTokenChar (c : Char) : Bool :=
  33 ≤ c.toNat && c.toNat ≤ 126 && !("()<>@,;:/[]?.=".toList ++ [asciiChar 34, asciiChar 92]).contains c

def isTextChar (c : Char) : Bool := 33 ≤ c.toNat && c.toNat ≤ 126

/-- What is before the first question mark, and what is behind it. -/
def cut (text : List Char) : Option (List Char × List Char) :=
  match text.span (· ≠ '?') with
  | (before, _ :: after) => some (before, after)
  | (_, []) => none

structure Parts where
  charset : List Char
  encoding : List Char
  text : List Char

/-- The parts of a word with the form of an encoded word. -/
def parts : List Char → Option Parts
  | '=' :: '?' :: word => do
    let (charset, behind) ← cut word
    let (encoding, behind) ← cut behind
    let (text, behind) ← cut behind
    if word.length + 2 ≤ encodedWordLimit && charset ≠ [] && charset.all isTokenChar && text ≠ [] && text.all isTextChar && behind = ['=']
    then some ⟨charset, encoding, text⟩ else none
  | _ => none

def hexValue (c : Char) : Option Nat := "0123456789abcdef".toList.findIdx? (· = c.toLower)

/-- An underscore is a space, and an equals sign begins a byte in two digits. -/
def decodeQ : List Char → Option (List UInt8)
  | [] => some []
  | '=' :: a :: b :: text => do
    let high ← hexValue a
    let low ← hexValue b
    let l ← decodeQ text
    some (UInt8.ofNat (16 * high + low) :: l)
  | c :: text => if c = '=' then none else (decodeQ text).map ((if c = '_' then 32 else asciiByte c) :: ·)

def Parts.bytes (p : Parts) : Option (List UInt8) :=
  if p.encoding.map Char.toLower = ['b'] then standard.decodePadded p.text
  else if p.encoding.map Char.toLower = ['q'] then decodeQ p.text
  else none

/-- What the word says, where it is an encoded word that the reader can decode. -/
def decode (charsets : Charsets) (word : List Char) : Option (List Char) := do
  let p ← parts word
  let l ← p.bytes
  let decoder ← charsets.decoder (p.charset.map Char.toLower)
  (decoder l).map String.toList

/-! ## Texts -/

/-- A space or a tab. -/
def isBlank (c : Char) : Bool := c = ' ' || c.toNat = 9

def trimBlanks (text : List Char) : List Char := (text.dropWhile isBlank).rdropWhile isBlank

/-- The words and the blanks between them. -/
def runs (text : List Char) : List (List Char) := text.splitBy fun a b => isBlank a = isBlank b

/-- `blanks` is what is not yet written of what is between words, and `behind` says that the word before it was decoded. -/
def decodeRuns (charsets : Charsets) : (blanks : List Char) → (behind : Bool) → List (List Char) → List Char
  | blanks, _, [] => blanks
  | blanks, behind, run :: rest =>
    if run.all isBlank then decodeRuns charsets (blanks ++ run) behind rest
    else
      match decode charsets run with
      | some text => (if behind then [] else blanks) ++ (text ++ decodeRuns charsets [] true rest)
      | none => blanks ++ (run ++ decodeRuns charsets [] false rest)

/-- The text that the body of the field stands for. -/
def decodeBody (charsets : Charsets) (body : List Char) : List Char := decodeRuns charsets [] false (runs (trimBlanks body))

/-! ## A decoded word is shorter -/

theorem cut_append {a : List Char} (h : '?' ∉ a) (b : List Char) : cut (a ++ '?' :: b) = some (a, b) := by
  have hall : ∀ c ∈ a, decide (c ≠ '?') = true := fun c hc => decide_eq_true fun heq => h (heq ▸ hc)
  rw [cut, span_append hall (by decide)]

theorem eq_of_cut {text a b : List Char} (h : cut text = some (a, b)) : text = a ++ '?' :: b := by
  unfold cut at h
  split at h
  · rename_i hspan
    cases h
    obtain ⟨heq, -, hmark⟩ := span_eq_cons hspan
    rw [heq, of_decide_eq_false hmark |> Classical.not_not.1]
  · cases h

theorem parts_eq_some {word : List Char} {p : Parts} (h : parts word = some p) :
    word = '=' :: '?' :: (p.charset ++ '?' :: (p.encoding ++ '?' :: (p.text ++ ['?', '=']))) := by
  unfold parts at h
  split at h
  · simp only [Option.bind_eq_bind, Option.bind_eq_some_iff] at h
    obtain ⟨⟨charset, w2⟩, h2, ⟨encoding, w3⟩, h3, ⟨text, w4⟩, h4, h⟩ := h
    split at h
    · rename_i hform
      cases h
      simp only [Bool.and_eq_true, decide_eq_true_eq] at hform
      have hbehind : w4 = ['='] := hform.2
      have hword := eq_of_cut h2
      have hencoding : w2 = encoding ++ '?' :: w3 := eq_of_cut h3
      have htext : w3 = text ++ '?' :: w4 := eq_of_cut h4
      rw [hword, hencoding, htext, hbehind]
    · cases h
  · cases h

theorem parts_length {word : List Char} {p : Parts} (h : parts word = some p) : word.length ≤ encodedWordLimit := by
  unfold parts at h
  split at h
  · simp only [Option.bind_eq_bind, Option.bind_eq_some_iff] at h
    obtain ⟨_, _, _, _, _, _, h⟩ := h
    split at h
    · rename_i hform
      simp only [Bool.and_eq_true, decide_eq_true_eq] at hform
      exact hform.1.1.1.1.1
    · cases h
  · cases h

/-- A word with three parts that fit has them. -/
theorem parts_eq {charset encoding text : List Char} (hcharset : charset ≠ []) (htoken : charset.all isTokenChar = true)
    (hmark : '?' ∉ charset) (hencoding : '?' ∉ encoding) (htext : text ≠ []) (hprintable : text.all isTextChar = true) (hmark' : '?' ∉ text)
    (hlimit : charset.length + encoding.length + text.length + 6 ≤ encodedWordLimit) :
    parts ('=' :: '?' :: (charset ++ '?' :: (encoding ++ '?' :: (text ++ ['?', '='])))) = some ⟨charset, encoding, text⟩ := by
  have hlength : (charset ++ '?' :: (encoding ++ '?' :: (text ++ ['?', '=']))).length + 2 ≤ encodedWordLimit := by
    simp only [List.length_append, List.length_cons, List.length_nil]
    omega
  simp only [parts, cut_append hmark, cut_append hencoding, cut_append hmark', Option.bind_eq_bind, Option.bind_some, hlength, hcharset,
    htoken, htext, hprintable, decide_true, ne_eq, not_false_eq_true, Bool.and_self, if_true]

theorem length_ofDigits {digits : List Nat} {l : List UInt8} (h : Base64Engine.ofDigits digits = some l) : l.length ≤ digits.length := by
  fun_induction Base64Engine.ofDigits digits generalizing l with
  | case1 a b c d rest bits =>
    rename_i ih
    simp only [Option.bind_eq_bind, Option.bind_eq_some_iff] at h
    obtain ⟨tail, htail, h⟩ := h
    cases h
    have htail := ih htail
    simp only [List.length_cons]
    omega
  | case2 => cases h; simp
  | case3 => cases h; simp
  | case4 => cases h
  | case5 => cases h; simp

theorem length_decodePadded {e : Base64Engine} {text : List Char} {l : List UInt8} (h : e.decodePadded text = some l) :
    l.length ≤ text.length := by
  simp only [Base64Engine.decodePadded] at h
  split at h
  · simp only [Base64Engine.decode, Option.bind_eq_bind, Option.bind_eq_some_iff] at h
    obtain ⟨digits, hdigits, h⟩ := h
    calc l.length ≤ digits.length := length_ofDigits h
      _ = (text.reverse.dropWhile (· = '=')).reverse.length := (mapM_eq_some_iff.1 hdigits).length_eq.symm
      _ = (text.reverse.dropWhile (· = '=')).length := List.length_reverse
      _ ≤ text.reverse.length := (List.dropWhile_sublist _).length_le
      _ = text.length := List.length_reverse
  · cases h

theorem length_decodeQ {text : List Char} {l : List UInt8} (h : decodeQ text = some l) : l.length ≤ text.length := by
  fun_induction decodeQ text generalizing l with
  | case1 => cases h; simp
  | case2 a b text ih =>
    simp only [Option.bind_eq_bind, Option.bind_eq_some_iff] at h
    obtain ⟨high, -, low, -, tail, htail, h⟩ := h
    cases h
    have htail := ih htail
    simp only [List.length_cons]
    omega
  | case3 => cases h
  | case4 c text _ _ ih =>
    obtain ⟨tail, htail, rfl⟩ := Option.map_eq_some_iff.1 h
    simpa using ih htail

theorem Parts.length_bytes {p : Parts} {l : List UInt8} (h : p.bytes = some l) : l.length ≤ p.text.length := by
  unfold Parts.bytes at h
  split at h
  · exact length_decodePadded h
  · split at h
    · exact length_decodeQ h
    · cases h

theorem decode_eq_some {charsets : Charsets} {word text : List Char} (h : decode charsets word = some text) :
    ∃ p l decoder s, parts word = some p ∧ p.bytes = some l ∧ charsets.decoder (p.charset.map Char.toLower) = some decoder ∧
      decoder l = some s ∧ text = s.toList := by
  simp only [decode, Option.bind_eq_bind, Option.bind_eq_some_iff, Option.map_eq_some_iff] at h
  obtain ⟨p, hp, l, hl, decoder, hdecoder, s, hs, rfl⟩ := h
  exact ⟨p, l, decoder, s, hp, hl, hdecoder, hs, rfl⟩

theorem length_decode {charsets : Charsets} {word text : List Char} (h : decode charsets word = some text) : text.length < word.length := by
  obtain ⟨p, l, decoder, s, hp, hl, hdecoder, hs, rfl⟩ := decode_eq_some h
  have hword := congrArg List.length (parts_eq_some hp)
  simp only [List.length_append, List.length_cons, List.length_nil] at hword
  have htext := charsets.short _ _ _ _ hdecoder hs
  have hbytes := p.length_bytes hl
  omega

/-- Blanks are no encoded word. -/
theorem decode_blank {charsets : Charsets} {run : List Char} (h : run.all isBlank = true) : decode charsets run = none := by
  by_contra hne
  obtain ⟨text, htext⟩ := Option.ne_none_iff_exists'.1 hne
  obtain ⟨p, -, -, -, hp, -⟩ := decode_eq_some htext
  rw [parts_eq_some hp] at h
  exact absurd (List.all_eq_true.1 h '=' List.mem_cons_self) (by decide)

/-! ## Texts that read as they are -/

section

variable {charsets : Charsets}

theorem decodeRuns_eq {all : List (List Char)} (h : ∀ run ∈ all, decode charsets run = none) (blanks : List Char) (behind : Bool) :
    decodeRuns charsets blanks behind all = blanks ++ all.flatten := by
  induction all generalizing blanks behind with
  | nil => simp [decodeRuns]
  | cons run rest ih =>
    obtain ⟨hrun, hrest⟩ := List.forall_mem_cons.1 h
    rw [decodeRuns, List.flatten_cons]
    split
    · rw [ih hrest, List.append_assoc]
    · simp only [hrun, ih hrest, List.nil_append]

variable (charsets) in
theorem length_decodeRuns (all : List (List Char)) (blanks : List Char) (behind : Bool) :
    (decodeRuns charsets blanks behind all).length ≤ blanks.length + all.flatten.length := by
  induction all generalizing blanks behind with
  | nil => simp [decodeRuns]
  | cons run rest ih =>
    rw [decodeRuns, List.flatten_cons, List.length_append]
    split
    · have hrest := ih (blanks ++ run) behind
      rw [List.length_append] at hrest
      omega
    · split
      · rename_i text htext
        have hrest := ih [] true
        have hshort := length_decode htext
        have hblanks : (if behind then [] else blanks).length ≤ blanks.length := by split <;> simp
        rw [List.length_append, List.length_append]
        simp only [List.length_nil] at hrest
        omega
      · have hrest := ih [] false
        simp only [List.length_append, List.length_nil] at hrest ⊢
        omega

/-- Where a word is decoded, the text gets shorter. -/
theorem length_decodeRuns_lt {all : List (List Char)} (h : ∃ run ∈ all, decode charsets run ≠ none) (blanks : List Char) (behind : Bool) :
    (decodeRuns charsets blanks behind all).length < blanks.length + all.flatten.length := by
  induction all generalizing blanks behind with
  | nil => simp at h
  | cons run rest ih =>
    rw [decodeRuns, List.flatten_cons, List.length_append]
    split
    · rename_i hblank
      have hrest := ih ((List.exists_mem_cons_iff ..).1 h |>.resolve_left (· (decode_blank hblank))) (blanks ++ run) behind
      rw [List.length_append] at hrest
      omega
    · split
      · rename_i text htext
        have hrest := length_decodeRuns charsets rest [] true
        have hshort := length_decode htext
        have hblanks : (if behind then [] else blanks).length ≤ blanks.length := by split <;> simp
        rw [List.length_append, List.length_append]
        simp only [List.length_nil] at hrest
        omega
      · rename_i hnone
        have hrest := ih ((List.exists_mem_cons_iff ..).1 h |>.resolve_left (· hnone)) [] false
        simp only [List.length_append, List.length_nil] at hrest ⊢
        omega

theorem flatten_runs (text : List Char) : (runs text).flatten = text := List.flatten_splitBy _ _

theorem trimBlanks_sublist (text : List Char) : (trimBlanks text).Sublist text :=
  (List.rdropWhile_prefix isBlank (l := text.dropWhile isBlank)).sublist.trans (List.dropWhile_sublist _)

theorem trimBlanks_eq_self {text : List Char} :
    trimBlanks text = text ↔ (∀ c ∈ text.head?, isBlank c = false) ∧ ∀ c ∈ text.getLast?, isBlank c = false := by
  have hhead : text.dropWhile isBlank = text ↔ ∀ c ∈ text.head?, isBlank c = false := by
    cases text with
    | nil => simp
    | cons c rest => simp [List.dropWhile_eq_self_iff]
  have hlast : text.rdropWhile isBlank = text ↔ ∀ c ∈ text.getLast?, isBlank c = false := by
    rw [List.rdropWhile_eq_self_iff]
    cases text with
    | nil => simp
    | cons c rest => simp [List.getLast?_eq_some_getLast]
  rw [← hhead, ← hlast]
  constructor
  · intro h
    have hdrop : text.dropWhile isBlank = text := by
      refine (List.dropWhile_sublist _).eq_of_length_le ?_
      have hlength := (List.rdropWhile_prefix isBlank (l := text.dropWhile isBlank)).length_le
      rwa [show (text.dropWhile isBlank).rdropWhile isBlank = text from h] at hlength
    refine ⟨hdrop, ?_⟩
    unfold trimBlanks at h
    rwa [hdrop] at h
  · rintro ⟨hdrop, hrdrop⟩
    rw [trimBlanks, hdrop, hrdrop]

/-- A text reads as it is if no blank is around it and no word in it is decoded. -/
theorem decodeBody_eq_self {text : List Char} :
    decodeBody charsets text = text ↔ trimBlanks text = text ∧ ∀ run ∈ runs text, decode charsets run = none := by
  unfold decodeBody
  constructor
  · intro h
    have hlength := length_decodeRuns charsets (runs (trimBlanks text)) [] false
    have htrim : trimBlanks text = text := by
      refine (trimBlanks_sublist text).eq_of_length_le ?_
      rw [h, flatten_runs] at hlength
      simpa using hlength
    rw [htrim] at h
    refine ⟨htrim, fun run hrun => ?_⟩
    by_contra hne
    have hshort := length_decodeRuns_lt ⟨run, hrun, hne⟩ [] false
    rw [h, flatten_runs] at hshort
    simp at hshort
  · rintro ⟨htrim, hnone⟩
    rw [htrim, decodeRuns_eq hnone, flatten_runs, List.nil_append]

end

/-! ## The word that is written for a text -/

theorem standard_textChar {l : List UInt8} {c : Char} (h : c ∈ standard.encode l) : isTextChar c = true ∧ c ≠ '?' := by
  have halphabet : ('=' :: standard.alphabet).all (fun c => isTextChar c && c ≠ '?') = true := by decide
  simpa using List.all_eq_true.1 halphabet c (mem_encode h)

theorem encodeWord_eq (text : String) :
    encodeWord text = '=' :: '?' :: ("UTF-8".toList ++ '?' :: ("B".toList ++ '?' :: (standard.encode (bytes text) ++ ['?', '=']))) := rfl

theorem decode_encodeWord {charsets : Charsets} {text : String} (hne : text ≠ "") :
    decode charsets (encodeWord text) = if (bytes text).length ≤ 45 then some text.toList else none := by
  have hlength := length_encodeWord text
  split
  · rename_i hshort
    have hparts : parts (encodeWord text) = some ⟨"UTF-8".toList, "B".toList, standard.encode (bytes text)⟩ := by
      rw [encodeWord_eq]
      refine parts_eq (by decide) (by decide) (by decide) (by decide) (encode_ne_nil hne) ?_ (fun hmem => (standard_textChar hmem).2 rfl) ?_
      · exact List.all_eq_true.2 fun c hc => (standard_textChar hc).1
      · rw [Base64Engine.length_encode rfl]
        have hcharset : "UTF-8".toList.length = 5 := by decide
        have hencoding : "B".toList.length = 1 := by decide
        rw [hcharset, hencoding, encodedWordLimit]
        omega
    have hbytes : Parts.bytes ⟨"UTF-8".toList, "B".toList, standard.encode (bytes text)⟩ = some (bytes text) := by
      have hencoding : "B".toList.map Char.toLower = ['b'] := by decide
      rw [Parts.bytes, if_pos hencoding]
      exact Base64Engine.decodePadded_encode rfl standard_digit (by decide) (bytes text)
    have hdecoder : charsets.decoder ("UTF-8".toList.map Char.toLower) = some textOf := charsets.utf8
    simp only [decode, hparts, hbytes, hdecoder, Option.bind_eq_bind, Option.bind_some, textOf_bytes, Option.map_some]
  · rename_i hlong
    by_contra hsome
    obtain ⟨text', htext⟩ := Option.ne_none_iff_exists'.1 hsome
    obtain ⟨p, -, -, -, hp, -⟩ := decode_eq_some htext
    have hlimit := parts_length hp
    rw [hlength, encodedWordLimit] at hlimit
    omega

theorem encodeWord_notBlank (text : String) : ∀ c ∈ encodeWord text, isBlank c = false := by
  have hmarks : ("=?UTF-8?B?".toList ++ "?=".toList).all (fun c => !isBlank c) = true := by decide
  have halphabet : ('=' :: standard.alphabet).all (fun c => !isBlank c) = true := by decide
  intro c hc
  unfold encodeWord at hc
  rcases List.mem_append.1 hc with hc | hc
  · simpa using List.all_eq_true.1 hmarks c (List.mem_append_left _ hc)
  · rcases List.mem_append.1 hc with hc | hc
    · simpa using List.all_eq_true.1 halphabet c (mem_encode hc)
    · simpa using List.all_eq_true.1 hmarks c (List.mem_append_right _ hc)

theorem runs_encodeWord (text : String) : runs (encodeWord text) = [encodeWord text] := by
  have hsame : (encodeWord text).Pairwise fun a b => isBlank a = isBlank b := by
    refine List.pairwise_of_forall_mem_list fun a ha b hb => ?_
    rw [encodeWord_notBlank text a ha, encodeWord_notBlank text b hb]
  refine List.splitBy_of_isChain (by simp [encodeWord_eq]) ?_
  simpa using hsame.isChain

/-- The word reads as the text where it is not too long. -/
theorem decodeBody_encodeWord {charsets : Charsets} {text : String} (hne : text ≠ "") :
    decodeBody charsets (encodeWord text) = if (bytes text).length ≤ 45 then text.toList else encodeWord text := by
  have hplain := encodeWord_notBlank text
  have htrim : trimBlanks (encodeWord text) = encodeWord text :=
    trimBlanks_eq_self.2 ⟨fun c hc => hplain c (List.mem_of_mem_head? hc), fun c hc => hplain c (List.mem_of_getLast? hc)⟩
  have hword : (encodeWord text).all isBlank = false := by
    rw [encodeWord_eq]
    rfl
  rw [decodeBody, htrim, runs_encodeWord, decodeRuns, hword, if_neg Bool.false_ne_true, decode_encodeWord hne]
  by_cases hshort : (bytes text).length ≤ 45
  · rw [if_pos hshort, if_pos hshort]
    simp [decodeRuns]
  · rw [if_neg hshort, if_neg hshort]
    simp [decodeRuns]

/-! ## A reader -/

theorem length_utf8 (l : List Char) : l.length ≤ (l.flatMap String.utf8EncodeChar).length := by
  induction l with
  | nil => simp
  | cons c rest ih =>
    have hc : 0 < (String.utf8EncodeChar c).length := by
      rw [String.length_utf8EncodeChar]
      exact c.utf8Size_pos
    rw [List.flatMap_cons, List.length_append, List.length_cons]
    omega

/-- A reader of UTF-8 and Latin-1. -/
def western : Charsets where
  decoder name :=
    if name = "utf-8".toList then some textOf
    else if name = "iso-8859-1".toList then some fun l => some (String.ofList (l.map asciiChar))
    else none
  utf8 := if_pos rfl
  short name decode l text hname htext := by
    split at hname
    · cases hname
      rw [textOf_eq_some.1 htext, bytes_eq_flatMap]
      exact length_utf8 text.toList
    · split at hname
      · cases hname
        cases htext
        simp
      · cases hname

end Boxplot.Lib.HeaderText
