import Mathlib
import Boxplot.Lib.State
import Boxplot.Net.ImapCommand
/-!
# How a response is framed

A response of untagged lines, some with a literal, and a tagged line. Whatever
the literals contain and however the bytes arrive, the lines are read as they
are. They must be UTF-8, and the tagged line must not look like it announces a
literal.
-/

namespace Boxplot.Net

open Lib

/-! ## Lines -/

/-- A text that is a line of its own. -/
structure TextLine (text : List UInt8) : Prop where
  lf : 10 ∉ text
  cr : 13 ∉ text
  short : text.length + 2 ≤ maxImapLineBytes

theorem trimLine_crlf {text : List UInt8} (hlf : 10 ∉ text) (hcr : 13 ∉ text) : trimLine (text ++ [13, 10]) = text := by
  have hdrop : text.reverse.dropWhile (fun b => b = 10 || b = 13) = text.reverse := by
    cases hrev : text.reverse with
    | nil => rfl
    | cons b rest =>
      have hb : b ∈ text := by rw [← List.mem_reverse, hrev]; exact List.mem_cons_self
      have h10 : b ≠ 10 := fun h => hlf (h ▸ hb)
      have h13 : b ≠ 13 := fun h => hcr (h ▸ hb)
      rw [List.dropWhile_cons_of_neg (by simp [h10, h13])]
  simp [trimLine, hdrop]

/-- A line is read up to its end, and accepted if it is UTF-8. -/
theorem readBoundedTextLine_line {c : ImapWire} {text after : List UInt8} (ht : TextLine text)
    (h : c.reader.rest = text ++ [13, 10] ++ after) :
    ∃ reader, reader.rest = after ∧ readBoundedTextLine c =
      if utf8Valid text then .ok text { c with reader } else .error (.protocol "imap_utf8_invalid") { c with reader } := by
  have hlf : 10 ∉ text ++ [13] := by simp [ht.lf]
  have hrest : c.reader.rest = (text ++ [13]) ++ 10 :: after := by simpa using h
  have hlimit : (text ++ [13]).length + 1 ≤ maxImapLineBytes := by
    rw [List.length_append]
    exact ht.short
  obtain ⟨reader, hr, hafter, -⟩ := BufReader.readLine_of_line hrest hlf hlimit
  refine ⟨reader, hafter, ?_⟩
  have hcrlf : text ++ [13] ++ [10] = text ++ [13, 10] := by simp
  simp only [readBoundedTextLine, hr, hcrlf, trimLine_crlf ht.lf ht.cr]

theorem readBoundedTextLine_of_line {c : ImapWire} {text after : List UInt8} (ht : TextLine text) (hutf8 : utf8Valid text = true)
    (h : c.reader.rest = text ++ [13, 10] ++ after) :
    ∃ reader, readBoundedTextLine c = .ok text { c with reader } ∧ reader.rest = after := by
  obtain ⟨reader, hafter, hread⟩ := readBoundedTextLine_line ht h
  rw [if_pos hutf8] at hread
  exact ⟨reader, hread, hafter⟩

theorem readLiteral_of_bytes {c : ImapWire} {value after : List UInt8} (h : c.reader.rest = value ++ after) :
    ∃ reader, readLiteral value.length c = .ok value { c with reader } ∧ reader.rest = after := by
  obtain ⟨reader, hr, hafter, -⟩ := BufReader.readExact_of_bytes h
  exact ⟨reader, by simp only [readLiteral, hr], hafter⟩

theorem orOutcome_ok {α : Type} {mutation : Bool} {x : Imap α} {c c' : ImapWire} {a : α} (h : x c = .ok a c') :
    orOutcome mutation x c = .ok a c' := by
  rw [orOutcome, tryCatch_apply, h]

theorem orOutcome_error {α : Type} {mutation : Bool} {x : Imap α} {c c' : ImapWire} {e : NativeMailErrorDto} (h : x c = .error e c') :
    orOutcome mutation x c = .error (mutationOutcome e mutation) c' := by
  rw [orOutcome, tryCatch_apply, h]
  rfl

/-! ## Responses -/

/-- An untagged line, or a line that announces a literal, with it. -/
inductive ResponseItem
  | line (text : List UInt8)
  | fetch (text literal : List UInt8)

namespace ResponseItem

def toLine : ResponseItem → ResponseLine
  | line text => ⟨text, none⟩
  | fetch text literal => ⟨text, some literal⟩

/-- The item on the wire. -/
def wire : ResponseItem → List UInt8
  | line text => text ++ [13, 10]
  | fetch text literal => text ++ [13, 10] ++ literal ++ [41] ++ [13, 10]

/-- What is counted as lines. -/
def texts : ResponseItem → List (List UInt8)
  | line text => [text]
  | fetch text _ => [text, [41]]

def literalLength : ResponseItem → Nat
  | line _ => 0
  | fetch _ literal => literal.length

def text : ResponseItem → List UInt8
  | line text => text
  | fetch text _ => text

/-- An item begins with its line. -/
theorem wire_eq (item : ResponseItem) : ∃ tail, item.wire = item.text ++ [13, 10] ++ tail := by
  cases item with
  | line text => exact ⟨[], by simp [wire, ResponseItem.text]⟩
  | fetch text literal => exact ⟨literal ++ [41] ++ [13, 10], by simp [wire, ResponseItem.text]⟩

/-- The line ends as it should: not with a brace, or with the length of its literal. -/
def Ends : ResponseItem → Prop
  | line text => text.getLast? ≠ some 125
  | fetch text literal => ∃ head digits, text = head ++ 123 :: digits ++ [125] ∧ digits ≠ [] ∧ digits.all isDigitByte = true ∧
      decimal digits = literal.length

structure WellFormed (item : ResponseItem) : Prop where
  line : TextLine item.text
  untagged : ∃ rest, item.text = 42 :: 32 :: rest
  ends : item.Ends

end ResponseItem

/-- A tagged line that says `OK`. -/
structure TaggedOk (tag tagged : List UInt8) : Prop where
  line : TextLine tagged
  ok : ∃ rest, tagged = tag ++ [32] ++ bytes "OK" ++ rest ∧ (rest = [] ∨ rest.head? = some 32)

/-- What a response counts for. -/
def accountsOf (items : List ResponseItem) (tagged : List UInt8) : Accounts where
  lines := (items.flatMap ResponseItem.texts).length + 1
  text := ((items.flatMap ResponseItem.texts).map List.length).sum + tagged.length
  literals := (items.map ResponseItem.literalLength).sum

def Accounts.within (a : Accounts) : Prop :=
  a.lines ≤ maxImapResponseLines ∧ a.text ≤ maxImapResponseTextBytes ∧ a.literals ≤ maxImapLiteralBytes

/-! ## Literal lengths -/

theorem parseLiteralLength_line {text : List UInt8} (h : text.getLast? ≠ some 125) : parseLiteralLength text = .ok none := by
  rw [parseLiteralLength, if_pos h]

theorem parseLiteralLength_fetch {head digits : List UInt8} (hne : digits ≠ []) (hd : digits.all isDigitByte = true)
    (hmax : decimal digits ≤ maxImapLiteralBytes) :
    parseLiteralLength (head ++ 123 :: digits ++ [125]) = .ok (some (decimal digits)) := by
  have hlast : (head ++ 123 :: digits ++ [125]).getLast? = some 125 := List.getLast?_concat
  have hin : (123 : UInt8) ∈ head ++ 123 :: digits ++ [125] := by simp
  have hno : ∀ b ∈ digits, b ≠ 123 := by
    rintro b hb rfl
    have h := List.all_eq_true.1 hd _ hb
    simp [isDigitByte] at h
  have htake : ((head ++ 123 :: digits ++ [125]).reverse.takeWhile (· ≠ 123)).reverse.dropLast = digits := by
    have hrev : (head ++ 123 :: digits ++ [125]).reverse = (125 :: digits.reverse) ++ 123 :: head.reverse := by simp
    have hall : ∀ b ∈ 125 :: digits.reverse, (decide (b ≠ 123)) = true := by
      intro b hb
      rcases List.mem_cons.1 hb with rfl | hb
      · decide
      · simpa using hno b (List.mem_reverse.1 hb)
    rw [hrev, List.takeWhile_append_of_pos hall, List.takeWhile_cons_of_neg (by decide), List.append_nil]
    simp
  have hsmall : ¬ 2 ^ 64 ≤ decimal digits := by
    have : maxImapLiteralBytes < 2 ^ 64 := by decide
    omega
  rw [parseLiteralLength, if_neg (not_not_intro hlast), if_neg (not_not_intro hin)]
  simp only [htake]
  rw [if_neg (by simp [hne, hd]; omega), if_neg (by omega)]

/-! ## One item -/

theorem accountResponseText_within {a : Accounts} {text : List UInt8} (hl : a.lines + 1 ≤ maxImapResponseLines)
    (ht : a.text + text.length ≤ maxImapResponseTextBytes) :
    accountResponseText a text = .ok { a with lines := a.lines + 1, text := a.text + text.length } := by
  rw [accountResponseText, if_neg (by omega), if_neg (by omega)]

/-- What an item adds to the accounts. -/
def Accounts.add (a : Accounts) (item : ResponseItem) : Accounts where
  lines := a.lines + item.texts.length
  text := a.text + (item.texts.map List.length).sum
  literals := a.literals + item.literalLength

/-- The literal of an item is read with it. -/
theorem readLiteralOf_item {c : ImapWire} {item : ResponseItem} {a : Accounts} {after : List UInt8} (hw : item.WellFormed)
    (ha : (a.add item).within) (hr : item.text ++ [13, 10] ++ c.reader.rest = item.wire ++ after) :
    ∃ reader, readLiteralOf { a with lines := a.lines + 1, text := a.text + item.text.length } item.text c =
      .ok (item.toLine.literal, a.add item) { c with reader } ∧ reader.rest = after := by
  obtain ⟨hlines, htext, hliterals⟩ := ha
  cases item with
  | line text =>
    refine ⟨c.reader, ?_, by simpa [ResponseItem.wire, ResponseItem.text] using hr⟩
    have hp : parseLiteralLength text = .ok none := parseLiteralLength_line hw.ends
    simp only [readLiteralOf, ResponseItem.text, hp, ofNetResult]
    rfl
  | fetch text literal =>
    obtain ⟨head, digits, rfl, hne, hd, hlen⟩ := hw.ends
    have hrest : c.reader.rest = literal ++ ([41] ++ [13, 10] ++ after) := by
      simpa [ResponseItem.wire, ResponseItem.text] using hr
    obtain ⟨reader₁, hlit, hrest₁⟩ := readLiteral_of_bytes hrest
    obtain ⟨reader₂, htrail, hrest₂⟩ :=
      @readBoundedTextLine_of_line { c with reader := reader₁ } [41] after ⟨by decide, by decide, by decide⟩ (by decide) hrest₁
    simp only [Accounts.add, ResponseItem.texts, ResponseItem.literalLength, List.length_cons, List.length_nil, List.map_cons,
      List.map_nil, List.sum_cons, List.sum_nil] at hlines htext hliterals
    have hmax : decimal digits ≤ maxImapLiteralBytes := by rw [hlen]; omega
    have hp := @parseLiteralLength_fetch head digits hne hd hmax
    have haccount : accountLiteral { a with lines := a.lines + 1, text := a.text + (head ++ 123 :: digits ++ [125]).length }
        literal.length = .ok ⟨a.lines + 1, a.text + (head ++ 123 :: digits ++ [125]).length, a.literals + literal.length⟩ := by
      rw [accountLiteral, if_neg (by simpa using hliterals)]
    refine ⟨reader₂, ?_, hrest₂⟩
    simp only [readLiteralOf, ResponseItem.text, hp, hlen, ofNetResult, haccount, pure_bind]
    have htrailer : accountResponseText
        ⟨a.lines + 1, a.text + (head ++ 123 :: digits ++ [125]).length, a.literals + literal.length⟩ [41] =
          .ok (a.add (.fetch (head ++ 123 :: digits ++ [125]) literal)) := by
      rw [accountResponseText_within (by dsimp only; omega) (by dsimp only [List.length_singleton]; omega)]
      simp [Accounts.add, ResponseItem.texts, ResponseItem.literalLength, Nat.add_assoc]
    rw [bind_ok hlit, bind_ok htrail, htrailer]
    rfl

/-! ## Tags -/

theorem tagOf_cons (n : UInt32) : ∃ rest, tagOf n = 66 :: rest := by
  have hB : bytes "B" = [66] := by decide_cbv
  simp only [tagOf, bytes_append, hB]
  exact ⟨_, rfl⟩

theorem taggedWord_untagged {n : UInt32} {text : List UInt8} (h : ∃ rest, text = 42 :: 32 :: rest) : taggedWord (tagOf n) text = none := by
  obtain ⟨rest, rfl⟩ := h
  obtain ⟨tail, ht⟩ := tagOf_cons n
  have hno : List.isPrefixOf (tagOf n ++ [32]) (42 :: 32 :: rest) = false := by
    rw [ht]
    rfl
  rw [taggedWord, stripPrefix, hno]
  rfl

theorem stripPrefix_append (start text : List UInt8) : stripPrefix start (start ++ text) = some text := by
  have hp : start.isPrefixOf (start ++ text) = true := List.isPrefixOf_iff_prefix.2 (List.prefix_append _ _)
  rw [stripPrefix, if_pos hp, List.drop_left]

theorem taggedWord_ok {tag tagged : List UInt8} (h : TaggedOk tag tagged) : taggedWord tag tagged = some (some (bytes "OK")) := by
  obtain ⟨rest, rfl, hrest⟩ := h.ok
  rw [taggedWord, List.append_assoc (tag ++ [32]), stripPrefix_append]
  have hok : bytes "OK" = [79, 75] := by decide_cbv
  have hwords : (words (bytes "OK" ++ rest)).head? = some (bytes "OK") := by
    rw [hok]
    rcases hrest with rfl | hrest
    · decide
    · cases rest with
      | nil => cases hrest
      | cons b rest =>
        obtain rfl : b = 32 := by simpa using hrest
        simp [words, wordsFrom, dropSpace]
  rw [Option.map_some, hwords]

/-! ## The whole response -/

theorem foldl_add_lines (items : List ResponseItem) (a : Accounts) : a.lines ≤ (items.foldl Accounts.add a).lines ∧
    a.text ≤ (items.foldl Accounts.add a).text ∧ a.literals ≤ (items.foldl Accounts.add a).literals := by
  induction items generalizing a with
  | nil => exact ⟨Nat.le_refl _, Nat.le_refl _, Nat.le_refl _⟩
  | cons item rest ih =>
    obtain ⟨hl, ht, hb⟩ := ih (a.add item)
    have hl₁ : a.lines ≤ (a.add item).lines := Nat.le_add_right _ _
    have ht₁ : a.text ≤ (a.add item).text := Nat.le_add_right _ _
    have hb₁ : a.literals ≤ (a.add item).literals := Nat.le_add_right _ _
    exact ⟨hl₁.trans hl, ht₁.trans ht, hb₁.trans hb⟩

/-- The limits hold all along. -/
theorem Accounts.within_of_foldl {items : List ResponseItem} {a : Accounts} (h : (items.foldl Accounts.add a).within) : a.within := by
  obtain ⟨hl, ht, hb⟩ := foldl_add_lines items a
  exact ⟨hl.trans h.1, ht.trans h.2.1, hb.trans h.2.2⟩

/-- The items are read one after the other. -/
theorem responseLines_items {n : UInt32} {mutation : Bool} {items : List ResponseItem} {fuel : Nat} {a : Accounts}
    {lines : List ResponseLine} {c : ImapWire} {after : List UInt8} (hw : ∀ item ∈ items, item.WellFormed)
    (hu : ∀ item ∈ items, utf8Valid item.text = true) (ha : (items.foldl Accounts.add a).within)
    (hr : c.reader.rest = items.flatMap ResponseItem.wire ++ after) :
    ∃ reader, responseLines (tagOf n) mutation (items.length + fuel) a lines c =
      responseLines (tagOf n) mutation fuel (items.foldl Accounts.add a) (lines ++ items.map ResponseItem.toLine) { c with reader } ∧
      reader.rest = after := by
  induction items generalizing a lines c with
  | nil => exact ⟨c.reader, by simp, by simpa using hr⟩
  | cons item rest ih =>
    have hitem := hw item List.mem_cons_self
    have hwithin : (a.add item).within := Accounts.within_of_foldl ha
    obtain ⟨tail, htail⟩ := item.wire_eq
    rw [List.flatMap_cons, htail, List.append_assoc, List.append_assoc] at hr
    -- its line
    obtain ⟨reader₁, hline, hrest₁⟩ := readBoundedTextLine_of_line hitem.line (hu item List.mem_cons_self) (by simpa using hr)
    have hlines : a.lines + 1 ≤ maxImapResponseLines := by
      have h := hwithin.1
      cases item <;> simp only [Accounts.add, ResponseItem.texts, List.length_cons, List.length_nil] at h <;> omega
    have htext : a.text + item.text.length ≤ maxImapResponseTextBytes := by
      have h := hwithin.2.1
      cases item <;> simp only [Accounts.add, ResponseItem.texts, ResponseItem.text, List.map_cons, List.map_nil, List.sum_cons,
        List.sum_nil] at h ⊢ <;> omega
    have haccount := accountResponseText_within hlines htext
    -- its literal
    have hliteral : item.text ++ [13, 10] ++ ({ c with reader := reader₁ } : ImapWire).reader.rest =
        item.wire ++ (rest.flatMap ResponseItem.wire ++ after) := by
      rw [htail]
      simp [hrest₁]
    obtain ⟨reader₂, hread, hrest₂⟩ := readLiteralOf_item hitem hwithin hliteral
    -- it is not tagged, so the loop goes on
    obtain ⟨reader₃, hloop, hrest₃⟩ := @ih (a.add item) (lines ++ [item.toLine]) { c with reader := reader₂ }
      (fun x hx => hw x (List.mem_cons_of_mem _ hx)) (fun x hx => hu x (List.mem_cons_of_mem _ hx)) ha hrest₂
    refine ⟨reader₃, ?_, hrest₃⟩
    have hfuel : (item :: rest).length + fuel = (rest.length + fuel) + 1 := by rw [List.length_cons]; omega
    rw [hfuel, responseLines, bind_ok (orOutcome_ok hline), haccount]
    have htagged : taggedWord (tagOf n) item.text = none := taggedWord_untagged hitem.untagged
    have hread' : orOutcome mutation (readLiteralOf { a with lines := a.lines + 1, text := a.text + item.text.length } item.text)
        { c with reader := reader₁ } = .ok (item.toLine.literal, a.add item) { c with reader := reader₂ } := orOutcome_ok hread
    have hpure : orOutcome mutation (ofNetResult (.ok { a with lines := a.lines + 1, text := a.text + item.text.length }))
        { c with reader := reader₁ } = .ok { a with lines := a.lines + 1, text := a.text + item.text.length }
          { c with reader := reader₁ } := orOutcome_ok rfl
    have hitemLine : item.toLine = ⟨item.text, item.toLine.literal⟩ := by cases item <;> rfl
    rw [bind_ok hpure, bind_ok hread']
    simp only [htagged]
    rw [hitemLine] at hloop
    rw [hloop, List.foldl_cons, List.map_cons, ← hitemLine, List.append_assoc]
    rfl

/-- A tagged line ends the response, unless it looks like it announces a literal. -/
theorem responseLines_tagged {tag tagged after : List UInt8} {mutation : Bool} {fuel : Nat} {a : Accounts} {lines : List ResponseLine}
    {c : ImapWire} (ht : TaggedOk tag tagged) (hutf8 : utf8Valid tagged = true) (hl : a.lines + 1 ≤ maxImapResponseLines)
    (hx : a.text + tagged.length ≤ maxImapResponseTextBytes) (hr : c.reader.rest = tagged ++ [13, 10] ++ after)
    (hp : parseLiteralLength tagged = .ok none) :
    ∃ reader, responseLines tag mutation (fuel + 1) a lines c = .ok lines { c with reader } ∧ reader.rest = after := by
  obtain ⟨reader, hline, hrest⟩ := readBoundedTextLine_of_line ht.line hutf8 hr
  refine ⟨reader, ?_, hrest⟩
  have haccount := accountResponseText_within hl hx
  have hpure : orOutcome mutation (ofNetResult (.ok { a with lines := a.lines + 1, text := a.text + tagged.length }))
      { c with reader } = .ok { a with lines := a.lines + 1, text := a.text + tagged.length } { c with reader } := orOutcome_ok rfl
  have hread : orOutcome mutation (readLiteralOf { a with lines := a.lines + 1, text := a.text + tagged.length } tagged)
      { c with reader } = .ok (none, { a with lines := a.lines + 1, text := a.text + tagged.length }) { c with reader } := by
    refine orOutcome_ok ?_
    rw [readLiteralOf, hp]
    rfl
  rw [responseLines, bind_ok (orOutcome_ok hline), haccount, bind_ok hpure, bind_ok hread]
  simp only [taggedWord_ok ht, if_true]
  rfl

/-! ## A tagged line that looks like it announces a literal -/

theorem readBoundedTextLine_ok {c c' : ImapWire} {text : List UInt8} (h : readBoundedTextLine c = .ok text c') :
    ∃ line reader, c' = { c with reader } ∧ c.reader.rest = line ++ reader.rest ∧ trimLine line = text := by
  unfold readBoundedTextLine at h
  split at h
  · cases h
  · rename_i line reader hread
    split at h
    · cases h
      exact ⟨line, reader, rfl, (BufReader.readLine_ok hread).1, rfl⟩
    · cases h

theorem readLiteral_ok {n : Nat} {c c' : ImapWire} {value : List UInt8} (h : readLiteral n c = .ok value c') :
    ∃ reader, c' = { c with reader } ∧ c.reader.rest = value ++ reader.rest ∧ value.length = n := by
  unfold readLiteral at h
  split at h
  · cases h
  · rename_i value' reader hread
    cases h
    obtain ⟨hrest, hlength, -⟩ := BufReader.readExact_ok hread
    exact ⟨reader, rfl, hrest, hlength⟩

theorem ofNetResult_eq_ok {α : Type} {x : NetResult α} {c c' : ImapWire} {a : α} (h : ofNetResult x c = .ok a c') : x = .ok a ∧ c' = c := by
  cases x with
  | error e => cases h
  | ok a' =>
    cases h
    exact ⟨rfl, rfl⟩

theorem orOutcome_eq_ok {α : Type} {mutation : Bool} {x : Imap α} {c c' : ImapWire} {a : α} (h : orOutcome mutation x c = .ok a c') :
    x c = .ok a c' := by
  rw [orOutcome, tryCatch_apply] at h
  split at h
  · rename_i hx
    rw [hx]
    exact h
  · cases h

theorem parseLiteralLength_none {text : List UInt8} :
    parseLiteralLength text = .ok none ↔ ¬ (text.getLast? = some 125 ∧ 123 ∈ text) := by
  unfold parseLiteralLength
  by_cases hlast : text.getLast? = some 125
  · rw [if_neg (not_not_intro hlast)]
    by_cases hin : (123 : UInt8) ∈ text
    · rw [if_neg (not_not_intro hin)]
      dsimp only
      split
      · simp [hlast, hin]
      · split <;> simp [hlast, hin]
    · rw [if_pos hin]
      simp [hin]
  · rw [if_pos hlast]
    simp [hlast]

/-- A literal that is read leaves less. -/
theorem readLiteralOf_shorter {a a' : Accounts} {text : List UInt8} {literal : Option (List UInt8)} {c c' : ImapWire}
    (hp : parseLiteralLength text ≠ .ok none) (h : readLiteralOf a text c = .ok (literal, a') c') :
    c'.reader.rest.length < c.reader.rest.length := by
  obtain ⟨length?, t₀, h₀, hrun⟩ := bind_eq_ok.1 h
  obtain ⟨hlen, rfl⟩ := ofNetResult_eq_ok h₀
  cases length? with
  | none => exact absurd hlen hp
  | some length =>
    obtain ⟨a₁, t₁, h₁, hrun₁⟩ := bind_eq_ok.1 hrun
    obtain ⟨-, rfl⟩ := ofNetResult_eq_ok h₁
    obtain ⟨value, t₂, hvalue, hrun₂⟩ := bind_eq_ok.1 hrun₁
    obtain ⟨reader₂, rfl, hrest₂, -⟩ := readLiteral_ok hvalue
    obtain ⟨trailer, t₃, htrailer, hrun₃⟩ := bind_eq_ok.1 hrun₂
    obtain ⟨line, reader₃, rfl, hrest₃, htrim⟩ := readBoundedTextLine_ok htrailer
    obtain ⟨a₄, t₄, h₄, hrun₄⟩ := bind_eq_ok.1 hrun₃
    obtain ⟨-, rfl⟩ := ofNetResult_eq_ok h₄
    split at hrun₄
    · rename_i hparen
      cases hrun₄
      -- the closing parenthesis is a byte at least
      have hline : 0 < line.length := by
        cases line with
        | nil => rw [← htrim] at hparen; cases hparen
        | cons b rest => exact Nat.succ_pos _
      have h₂ := congrArg List.length hrest₂
      have h₃ := congrArg List.length hrest₃
      simp only [List.length_append] at h₂ h₃
      change reader₃.rest.length < t₁.reader.rest.length
      omega
    · cases hrun₄

/-- A tagged line that looks like it announces a literal takes more than itself, or fails. -/
theorem responseLines_announcing {tag tagged after : List UInt8} {mutation : Bool} {fuel : Nat} {a : Accounts}
    {lines lines' : List ResponseLine} {c c' : ImapWire} (ht : TaggedOk tag tagged) (hutf8 : utf8Valid tagged = true)
    (hr : c.reader.rest = tagged ++ [13, 10] ++ after) (hp : parseLiteralLength tagged ≠ .ok none)
    (h : responseLines tag mutation (fuel + 1) a lines c = .ok lines' c') : c'.reader.rest.length < after.length := by
  obtain ⟨reader, hline, hrest⟩ := readBoundedTextLine_of_line ht.line hutf8 hr
  rw [responseLines, bind_ok (orOutcome_ok hline)] at h
  obtain ⟨a₁, t₁, h₁, hrun₁⟩ := bind_eq_ok.1 h
  obtain ⟨-, rfl⟩ := ofNetResult_eq_ok (orOutcome_eq_ok h₁)
  obtain ⟨⟨literal, a₂⟩, t₂, h₂, hrun₂⟩ := bind_eq_ok.1 hrun₁
  have hshorter := readLiteralOf_shorter hp (orOutcome_eq_ok h₂)
  simp only [taggedWord_ok ht, if_true] at hrun₂
  cases hrun₂
  rw [← hrest]
  exact hshorter

/-! ## Lines that are no UTF-8 -/

/-- The next line is read, so it is UTF-8. -/
theorem utf8_of_responseLines {tag text after : List UInt8} {mutation : Bool} {fuel : Nat} {a : Accounts}
    {lines lines' : List ResponseLine} {c c' : ImapWire} (ht : TextLine text) (hr : c.reader.rest = text ++ [13, 10] ++ after)
    (h : responseLines tag mutation (fuel + 1) a lines c = .ok lines' c') : utf8Valid text = true := by
  obtain ⟨reader, -, hread⟩ := readBoundedTextLine_line ht hr
  rw [responseLines] at h
  obtain ⟨text', c₁, hline, -⟩ := bind_eq_ok.1 h
  have hok := orOutcome_eq_ok hline
  rw [hread] at hok
  by_contra hnot
  rw [if_neg hnot] at hok
  cases hok

/-- A response that is read has UTF-8 lines only. -/
theorem items_utf8 {n : UInt32} {mutation : Bool} {items : List ResponseItem} {fuel : Nat} {a : Accounts}
    {lines lines' : List ResponseLine} {c c' : ImapWire} {after : List UInt8} (hw : ∀ item ∈ items, item.WellFormed)
    (ha : (items.foldl Accounts.add a).within) (hr : c.reader.rest = items.flatMap ResponseItem.wire ++ after)
    (h : responseLines (tagOf n) mutation (items.length + fuel) a lines c = .ok lines' c') :
    ∀ item ∈ items, utf8Valid item.text = true := by
  induction items generalizing a lines c with
  | nil => simp
  | cons item rest ih =>
    have hitem := hw item List.mem_cons_self
    have hfuel : (item :: rest).length + fuel = [item].length + (rest.length + fuel) := by
      rw [List.length_cons, List.length_singleton]
      omega
    rw [hfuel] at h
    rw [List.flatMap_cons, List.append_assoc] at hr
    have hutf8 : utf8Valid item.text = true := by
      obtain ⟨tail, htail⟩ := item.wire_eq
      rw [htail, List.append_assoc _ tail] at hr
      rw [Nat.add_comm] at h
      exact utf8_of_responseLines hitem.line hr h
    -- so the item is read, and the loop goes on with the rest
    have hwithin : ([item].foldl Accounts.add a).within := Accounts.within_of_foldl ha
    obtain ⟨reader, hloop, hrest⟩ := @responseLines_items n mutation [item] (rest.length + fuel) a lines c
      (rest.flatMap ResponseItem.wire ++ after) (List.forall_mem_singleton.2 hitem) (List.forall_mem_singleton.2 hutf8) hwithin
      (by simpa using hr)
    rw [hloop] at h
    exact List.forall_mem_cons.2 ⟨hutf8, @ih _ _ { c with reader } (fun x hx => hw x (List.mem_cons_of_mem _ hx)) ha hrest h⟩

/-! ## The command -/

/-- Five writes that succeed send the command. -/
theorem writeImapCommand_ok {c : ImapWire} {tag command : List UInt8} {e : NativeMailErrorDto} (h : ∀ f ∈ c.faults.take 5, f = none) :
    ∃ faults, writeImapCommand tag command e c =
      .ok () { c with faults, sent := c.sent ++ tag ++ [32] ++ command ++ [13, 10] } := by
  have hwrite (c : ImapWire) (data : List UInt8) (k : Nat) (h : ∀ f ∈ c.faults.take (k + 1), f = none) :
      ∃ faults, ImapWire.write data e c = .ok () { c with faults, sent := c.sent ++ data } ∧ ∀ f ∈ faults.take k, f = none := by
    cases hf : c.faults with
    | nil => exact ⟨[], by simp [ImapWire.write, hf], by simp⟩
    | cons f rest =>
      rw [hf, List.take_succ_cons] at h
      obtain rfl := h f List.mem_cons_self
      exact ⟨rest, by simp [ImapWire.write, hf], fun g hg => h g (List.mem_cons_of_mem _ hg)⟩
  obtain ⟨f₁, h₁, hf₁⟩ := hwrite c tag 4 h
  obtain ⟨f₂, h₂, hf₂⟩ := hwrite { c with faults := f₁, sent := c.sent ++ tag } [32] 3 hf₁
  obtain ⟨f₃, h₃, hf₃⟩ := hwrite { c with faults := f₂, sent := c.sent ++ tag ++ [32] } command 2 hf₂
  obtain ⟨f₄, h₄, hf₄⟩ := hwrite { c with faults := f₃, sent := c.sent ++ tag ++ [32] ++ command } [13, 10] 1 hf₃
  obtain ⟨f₅, h₅, -⟩ := hwrite { c with faults := f₄, sent := c.sent ++ tag ++ [32] ++ command ++ [13, 10] } [] 0 hf₄
  refine ⟨f₅, ?_⟩
  rw [writeImapCommand, bind_ok h₁, bind_ok h₂, bind_ok h₃, bind_ok h₄, h₅, List.append_nil]

theorem foldl_add (items : List ResponseItem) (a : Accounts) : items.foldl Accounts.add a =
    ⟨a.lines + (items.flatMap ResponseItem.texts).length, a.text + ((items.flatMap ResponseItem.texts).map List.length).sum,
      a.literals + (items.map ResponseItem.literalLength).sum⟩ := by
  induction items generalizing a with
  | nil => rfl
  | cons item rest ih =>
    rw [List.foldl_cons, ih]
    simp [Accounts.add, Nat.add_assoc]

theorem length_le_texts (items : List ResponseItem) : items.length ≤ (items.flatMap ResponseItem.texts).length := by
  induction items with
  | nil => exact Nat.le_refl _
  | cons item rest ih =>
    have hitem : 1 ≤ item.texts.length := by cases item <;> simp [ResponseItem.texts]
    rw [List.flatMap_cons, List.length_append, List.length_cons]
    omega

/-- However the response is cut into chunks, its lines and literals are what the command returns, and it is all that is
read, just when every line is UTF-8 and the tagged one does not end like one that announces a literal. -/
theorem commandWithOutcome_framed {c : ImapWire} {command : List UInt8} {mutation : Bool} {items : List ResponseItem}
    {tagged after : List UInt8} (hwrites : ∀ f ∈ c.faults.take 5, f = none)
    (hr : c.reader.rest = items.flatMap ResponseItem.wire ++ (tagged ++ [13, 10] ++ after))
    (hw : ∀ item ∈ items, item.WellFormed) (ht : TaggedOk (tagOf c.nextTag) tagged) (ha : (accountsOf items tagged).within) :
    (∃ c', commandWithOutcome command mutation c = .ok (items.map ResponseItem.toLine) c' ∧ c'.reader.rest = after) ↔
      (∀ item ∈ items, utf8Valid item.text = true) ∧ utf8Valid tagged = true ∧ ¬ (tagged.getLast? = some 125 ∧ 123 ∈ tagged) := by
  obtain ⟨hl, hx, hb⟩ := ha
  simp only [accountsOf] at hl hx hb
  have hlength := length_le_texts items
  obtain ⟨fuel, hfuel⟩ : ∃ fuel, maxImapResponseLines + 1 = items.length + (fuel + 1) :=
    ⟨maxImapResponseLines - items.length, by omega⟩
  -- the command goes out, and the items are read
  obtain ⟨c₁, htake, hc₁⟩ : ∃ c₁, takeTag c = .ok (tagOf c.nextTag) c₁ ∧ c₁.faults = c.faults ∧ c₁.reader = c.reader :=
    ⟨_, rfl, rfl, rfl⟩
  rw [← hc₁.1] at hwrites
  rw [← hc₁.2] at hr
  obtain ⟨faults, hwrite⟩ := @writeImapCommand_ok c₁ (tagOf c.nextTag) command (.unavailable "imap_write_failed") hwrites
  obtain ⟨c₂, hc₂, hr₂⟩ : ∃ c₂, orOutcome mutation (writeImapCommand (tagOf c.nextTag) command (.unavailable "imap_write_failed")) c₁ =
      .ok () c₂ ∧ c₂.reader.rest = items.flatMap ResponseItem.wire ++ (tagged ++ [13, 10] ++ after) := ⟨_, orOutcome_ok hwrite, hr⟩
  have hwithin : (items.foldl Accounts.add ⟨0, 0, 0⟩).within := by
    rw [foldl_add]
    exact ⟨by dsimp only; omega, by dsimp only; omega, by dsimp only; omega⟩
  have hsent : commandWithOutcome command mutation c =
      responseLines (tagOf c.nextTag) mutation (items.length + (fuel + 1)) ⟨0, 0, 0⟩ [] c₂ := by
    rw [commandWithOutcome, bind_ok htake, bind_ok hc₂, hfuel]
  by_cases hutf8 : ∀ item ∈ items, utf8Valid item.text = true
  case neg =>
    refine iff_of_false ?_ fun h => hutf8 h.1
    rintro ⟨c', hok, -⟩
    exact hutf8 (items_utf8 hw hwithin hr₂ (hsent ▸ hok))
  rw [and_iff_right hutf8]
  obtain ⟨reader, hitems, hrest⟩ := @responseLines_items c.nextTag mutation items (fuel + 1) ⟨0, 0, 0⟩ [] c₂ _ hw hutf8 hwithin hr₂
  rw [List.nil_append] at hitems
  rw [hsent, hitems, ← parseLiteralLength_none]
  constructor
  · rintro ⟨c', hok, hafter⟩
    have htagged := utf8_of_responseLines (c := { c₂ with reader }) ht.line hrest hok
    refine ⟨htagged, ?_⟩
    by_contra hp
    have hshorter := responseLines_announcing ht htagged hrest hp hok
    rw [hafter] at hshorter
    exact Nat.lt_irrefl _ hshorter
  · rintro ⟨htagged, hp⟩
    have hlines : (items.foldl Accounts.add ⟨0, 0, 0⟩).lines + 1 ≤ maxImapResponseLines := by
      rw [foldl_add]
      dsimp only
      omega
    have htext : (items.foldl Accounts.add ⟨0, 0, 0⟩).text + tagged.length ≤ maxImapResponseTextBytes := by
      rw [foldl_add]
      dsimp only
      omega
    obtain ⟨reader', hok, hafter⟩ := @responseLines_tagged _ _ _ mutation fuel _ (items.map ResponseItem.toLine)
      { c₂ with reader } ht htagged hlines htext hrest hp
    exact ⟨_, hok, hafter⟩

/-! ## A connection where it goes well, and one where it does not -/

/-- A response with a mail that looks like the end of the response, in chunks. -/
def framedWire : ImapWire where
  reader := ⟨[], [bytes "* 1 FETCH (UID 1 BODY[] \x7b10", bytes "\x7d\r", bytes "\nB0001 OK\r\n)\r\nB00", bytes "01 OK done\r\n* BYE"], .closed⟩
  faults := []
  sent := []
  nextTag := 1

def framedItem : ResponseItem := .fetch (bytes "* 1 FETCH (UID 1 BODY[] \x7b10\x7d") (bytes "B0001 OK\r\n")

theorem framedItem_wellFormed : framedItem.WellFormed where
  line := ⟨by decide_cbv, by decide_cbv, by decide_cbv⟩
  untagged := ⟨bytes "1 FETCH (UID 1 BODY[] \x7b10\x7d", by decide_cbv⟩
  ends := ⟨bytes "* 1 FETCH (UID 1 BODY[] ", bytes "10", by decide_cbv, by decide_cbv, by decide_cbv, by decide_cbv⟩

theorem framedWire_tagged : TaggedOk (tagOf 1) (bytes "B0001 OK done") where
  line := ⟨by decide_cbv, by decide_cbv, by decide_cbv⟩
  ok := ⟨bytes " done", by decide_cbv, .inr (by decide_cbv)⟩

theorem commandWithOutcome_framed_mail : ∃ c', commandWithOutcome (bytes "UID FETCH 1 (UID BODY.PEEK[])") false framedWire =
    .ok ([framedItem].map ResponseItem.toLine) c' ∧ c'.reader.rest = bytes "* BYE" := by
  have hw : ∀ item ∈ [framedItem], item.WellFormed := by
    intro item hitem
    rw [List.mem_singleton.1 hitem]
    exact framedItem_wellFormed
  have hrest : framedWire.reader.rest =
      [framedItem].flatMap ResponseItem.wire ++ (bytes "B0001 OK done" ++ [13, 10] ++ bytes "* BYE") := by decide_cbv
  have hwithin : (accountsOf [framedItem] (bytes "B0001 OK done")).within := ⟨by decide_cbv, by decide_cbv, by decide_cbv⟩
  have hend : ¬ ((bytes "B0001 OK done").getLast? = some 125 ∧ 123 ∈ bytes "B0001 OK done") := by decide +kernel
  have hutf8 : ∀ item ∈ [framedItem], utf8Valid item.text = true := by decide_cbv
  exact (commandWithOutcome_framed (by decide) hrest hw framedWire_tagged hwithin).2 ⟨hutf8, by decide_cbv, hend⟩

/-- The tagged line ends like one that announces a literal. -/
def announcingWire : ImapWire := ⟨⟨bytes "B0001 OK \x7b3\x7d\r\n", [], .closed⟩, [], [], 1⟩

/-- The error a computation ends with. -/
def failureOf {ε σ α : Type} : EStateM.Result ε σ α → Option ε
  | .ok _ _ => none
  | .error e _ => some e

/-- The line is a tagged one that says `OK`, and the command fails. -/
theorem announcing_fails : TaggedOk (tagOf announcingWire.nextTag) (bytes "B0001 OK \x7b3\x7d") ∧
    (accountsOf [] (bytes "B0001 OK \x7b3\x7d")).within ∧ announcingWire.reader.rest = bytes "B0001 OK \x7b3\x7d" ++ [13, 10] ∧
    ∃ c', commandWithOutcome (bytes "NOOP") false announcingWire = .error (.unavailable "imap_literal_failed") c' := by
  have hline : TextLine (bytes "B0001 OK \x7b3\x7d") := ⟨by decide_cbv, by decide_cbv, by decide_cbv⟩
  have htag : bytes "B0001 OK \x7b3\x7d" = tagOf 1 ++ [32] ++ bytes "OK" ++ bytes " \x7b3\x7d" := by decide_cbv
  refine ⟨⟨hline, _, htag, .inr (by decide_cbv)⟩, ⟨by decide_cbv, by decide_cbv, by decide_cbv⟩,
    by decide_cbv, ?_⟩
  have hrun : failureOf (commandWithOutcome (bytes "NOOP") false announcingWire) = some (.unavailable "imap_literal_failed") := by
    decide_cbv
  cases h : commandWithOutcome (bytes "NOOP") false announcingWire with
  | ok lines c' => rw [h] at hrun; cases hrun
  | error e c' =>
    rw [h] at hrun
    exact ⟨c', by cases hrun; rfl⟩

end Boxplot.Net
