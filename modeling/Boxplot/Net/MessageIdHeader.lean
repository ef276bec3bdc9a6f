import Mathlib.Data.List.TakeWhile
import Boxplot.Net.ImapCommand
import Boxplot.Net.MimeReader
/-!
# The message id in a header block

`exact_message_id_header` of `src-tauri/src/net/imap.rs`, and the message ids a
block has whatever the spacing and the folding of its fields. They agree unless
the only spaced line has company.
-/

namespace Boxplot.Net

open Lib

/-! ## The code's reading -/

def messageIdName : List UInt8 := bytes "Message-ID"

/-- What follows `Message-ID: ` on a line, the name in any case. -/
def messageIdOfLine (line : List UInt8) : Option (List UInt8) :=
  match line.span (· ≠ 58) with
  | (name, _ :: 32 :: value) => if sameName name messageIdName then some value else none
  | _ => none

/-- The lines up to the first empty one. -/
def headerLines (raw : List UInt8) : List (List UInt8) := (splitLines raw).takeWhile (· ≠ [])

def exactMessageIdHeader (raw : List UInt8) : NetResult (Option String) :=
  match textOf raw with
  | none => .error (.protocol "imap_message_id_header_invalid")
  | some _ =>
    match (headerLines raw).filterMap messageIdOfLine with
    | [value] => .ok (textOf value)
    | _ => .ok none

/-! ## The fields of the block -/

/-- The values of the `Message-ID` fields, unfolded. -/
def messageIds (raw : List UInt8) : List (List UInt8) :=
  ((readFields (headerLines raw)).filter (sameName ·.name messageIdName)).map (·.value)

/-- A line that begins a `Message-ID` field. -/
def isMessageIdLine (line : List UInt8) : Bool := (fieldOfLine line).any (sameName ·.name messageIdName)

/-- The values of the lines that have a blank behind the colon. -/
def spacedIds (raw : List UInt8) : List (List UInt8) := (headerLines raw).filterMap messageIdOfLine

/-- A `Message-ID` line is continued. -/
def continuedId : List (List UInt8) → Bool
  | [] => false
  | line :: rest => isMessageIdLine line && rest.head?.any continuesField || continuedId rest

/-- If one line has the name and the blank, no other line has the name, and the line is not continued. -/
def Unaccompanied (raw : List UInt8) : Prop :=
  (spacedIds raw).length = 1 → ((headerLines raw).filter isMessageIdLine).length = 1 ∧ continuedId (headerLines raw) = false

instance (raw : List UInt8) : Decidable (Unaccompanied raw) := inferInstanceAs (Decidable (_ → _))

/-! ## Lines and fields -/

variable {line tail value : List UInt8} {lines : List (List UInt8)}

/-- Names compare the same if they are the same but for case. -/
theorem sameName_iff {left right : List UInt8} : sameName left right = true ↔ left.map lowerByte = right.map lowerByte :=
  decide_eq_true_iff

/-- A name with a blank in it is none of ours. -/
theorem blank_not_sameName {name : List UInt8} {b : UInt8} (hb : isBlank b = true) (h : b ∈ name) :
    sameName name messageIdName = false := by
  rw [Bool.eq_false_iff, Ne, sameName_iff]
  intro heq
  have hmem : lowerByte b ∈ messageIdName.map lowerByte := heq ▸ List.mem_map_of_mem h
  have hblank : b = 32 ∨ b = 9 := by simpa [isBlank] using hb
  rcases hblank with rfl | rfl <;> exact absurd hmem (by decide +kernel)

theorem span_colon {name : List UInt8} (h : 58 ∉ name) (rest : List UInt8) :
    (name ++ 58 :: rest).span (· ≠ 58) = (name, 58 :: rest) := by
  have hpos : ∀ b ∈ name, decide (b ≠ 58) = true := fun b hb => decide_eq_true fun heq => h (heq ▸ hb)
  rw [List.span_eq_takeWhile_dropWhile, List.takeWhile_append_of_pos hpos, List.dropWhile_append_of_pos hpos]
  simp

theorem span_no_colon (h : 58 ∉ line) : line.span (· ≠ 58) = (line, []) := by
  have hpos : ∀ b ∈ line, decide (b ≠ 58) = true := fun b hb => decide_eq_true fun heq => h (heq ▸ hb)
  rw [List.span_eq_takeWhile_dropWhile, List.takeWhile_eq_self_iff.2 hpos, List.dropWhile_eq_nil_iff.2 hpos]

/-- What follows the colon, without one blank. -/
def afterColon : List UInt8 → List UInt8
  | 32 :: value => value
  | rest => rest

theorem fieldOfLine_colon {name : List UInt8} (h : 58 ∉ name) (rest : List UInt8) :
    fieldOfLine (name ++ 58 :: rest) = some ⟨name, afterColon rest⟩ := by
  rw [fieldOfLine, span_colon h]
  fun_cases afterColon rest <;> simp_all

theorem fieldOfLine_no_colon (h : 58 ∉ line) : fieldOfLine line = none := by
  rw [fieldOfLine, span_no_colon h]

/-- A line of a `Message-ID` field is the name, a colon and the rest. -/
theorem isMessageIdLine_iff : isMessageIdLine line = true ↔
    ∃ name rest, 58 ∉ name ∧ line = name ++ 58 :: rest ∧ sameName name messageIdName = true := by
  constructor
  · intro h
    by_cases hcolon : 58 ∈ line
    · obtain ⟨name, rest, rfl, hname⟩ := List.eq_append_cons_of_mem hcolon
      rw [isMessageIdLine, fieldOfLine_colon hname, Option.any_some] at h
      exact ⟨name, rest, hname, rfl, h⟩
    · rw [isMessageIdLine, fieldOfLine_no_colon hcolon] at h
      cases h
  · rintro ⟨name, rest, hname, rfl, hsame⟩
    rwa [isMessageIdLine, fieldOfLine_colon hname, Option.any_some]

theorem messageIdOfLine_eq_some : messageIdOfLine line = some value ↔
    ∃ name, 58 ∉ name ∧ line = name ++ 58 :: 32 :: value ∧ sameName name messageIdName = true := by
  constructor
  · intro h
    by_cases hcolon : 58 ∈ line
    · obtain ⟨name, rest, rfl, hname⟩ := List.eq_append_cons_of_mem hcolon
      rw [messageIdOfLine, span_colon hname] at h
      split at h
      · rename_i heq
        cases heq
        split at h
        · cases h
          exact ⟨name, hname, rfl, ‹_›⟩
        · cases h
      · cases h
    · rw [messageIdOfLine, span_no_colon hcolon] at h
      cases h
  · rintro ⟨name, hname, rfl, hsame⟩
    rw [messageIdOfLine, span_colon hname]
    exact if_pos hsame

theorem isMessageIdLine_of_some (h : messageIdOfLine line = some value) : isMessageIdLine line = true := by
  obtain ⟨name, hname, rfl, hsame⟩ := messageIdOfLine_eq_some.1 h
  exact isMessageIdLine_iff.2 ⟨name, _, hname, rfl, hsame⟩

/-- A line that continues another begins no field of ours. -/
theorem not_messageId_of_continues (h : continuesField line = true) : isMessageIdLine line = false := by
  rw [Bool.eq_false_iff]
  intro hline
  obtain ⟨name, rest, -, rfl, hsame⟩ := isMessageIdLine_iff.1 hline
  cases name with
  | nil => exact absurd hsame (by decide +kernel)
  | cons b name =>
    rw [blank_not_sameName (by simpa [continuesField] using h) List.mem_cons_self] at hsame
    cases hsame

/-- What continues a line: nothing, or something that begins with a blank. -/
def Continuation (tail : List UInt8) : Prop := tail = [] ∨ continuesField tail = true

/-- A continued line begins a field of ours where it does by itself. -/
theorem isMessageIdLine_append (h : Continuation tail) : isMessageIdLine (line ++ tail) = isMessageIdLine line := by
  rcases h with rfl | h
  · rw [List.append_nil]
  · by_cases hcolon : 58 ∈ line
    · obtain ⟨name, rest, rfl, hname⟩ := List.eq_append_cons_of_mem hcolon
      rw [List.append_assoc, List.cons_append, isMessageIdLine, isMessageIdLine, fieldOfLine_colon hname, fieldOfLine_colon hname]
      rfl
    · have hline : isMessageIdLine line = false := by rw [isMessageIdLine, fieldOfLine_no_colon hcolon]; rfl
      rw [hline]
      by_cases htail : 58 ∈ tail
      · -- a name that reaches into the continuation has its blank in it
        obtain ⟨part, rest, rfl, hpart⟩ := List.eq_append_cons_of_mem htail
        have hname : 58 ∉ line ++ part := by simp [hcolon, hpart]
        rw [← List.append_assoc, isMessageIdLine, fieldOfLine_colon hname, Option.any_some]
        cases part with
        | nil => exact absurd h (by simp [continuesField, isBlank])
        | cons b part =>
          exact blank_not_sameName (by simpa [continuesField] using h) (List.mem_append_right line List.mem_cons_self)
      · rw [isMessageIdLine, fieldOfLine_no_colon (by simp [hcolon, htail])]
        rfl

/-! ## Folded fields -/

/-- The ids among fields that are unfolded. -/
def idsOf (fields : List (List UInt8)) : List (List UInt8) :=
  ((fields.filterMap fieldOfLine).filter (sameName ·.name messageIdName)).map (·.value)

/-- The value behind the name of a line. -/
def valueOfLine (line : List UInt8) : List UInt8 := ((fieldOfLine line).map (·.value)).getD []

theorem idsOf_cons (field : List UInt8) (fields : List (List UInt8)) :
    idsOf (field :: fields) = (if isMessageIdLine field then [valueOfLine field] else []) ++ idsOf fields := by
  unfold idsOf isMessageIdLine valueOfLine
  rw [List.filterMap_cons]
  cases fieldOfLine field with
  | none => simp
  | some f =>
    by_cases hf : sameName f.name messageIdName = true
    · simp [hf]
    · simp [hf]

/-- What continues the line before these. -/
def continuation (rest : List (List UInt8)) : List UInt8 :=
  if rest.head?.any continuesField then (unfoldLines rest).headD [] else []

theorem unfoldLines_head {rest : List (List UInt8)} (h : rest.head?.any continuesField = true) :
    ∃ fields, unfoldLines rest = continuation rest :: fields ∧ continuesField (continuation rest) = true := by
  rw [continuation, if_pos h]
  cases rest with
  | nil => cases h
  | cons next rest =>
    have hnext : continuesField next = true := h
    have happend (tail : List UInt8) : continuesField (next ++ tail) = true := by
      cases next with
      | nil => cases hnext
      | cons => exact hnext
    rw [unfoldLines]
    split
    · exact ⟨_, rfl, happend _⟩
    · exact ⟨_, rfl, hnext⟩

theorem idsOf_unfoldLines (line : List UInt8) (rest : List (List UInt8)) : idsOf (unfoldLines (line :: rest)) =
    (if isMessageIdLine line then [valueOfLine (line ++ continuation rest)] else []) ++ idsOf (unfoldLines rest) := by
  cases hrest : rest.head?.any continuesField with
  | false =>
    have hunfold : unfoldLines (line :: rest) = line :: unfoldLines rest := by rw [unfoldLines, hrest]
    rw [hunfold, idsOf_cons, continuation, hrest, if_neg Bool.false_ne_true, List.append_nil]
  | true =>
    obtain ⟨fields, hfields, hblank⟩ := unfoldLines_head hrest
    have hunfold : unfoldLines (line :: rest) = (line ++ continuation rest) :: fields := by rw [unfoldLines, hrest, hfields]
    rw [hunfold, hfields, idsOf_cons, idsOf_cons, isMessageIdLine_append (.inr hblank), not_messageId_of_continues hblank]
    simp

theorem messageIds_eq (raw : List UInt8) : messageIds raw = idsOf (unfoldLines (headerLines raw)) := rfl

/-- As many fields as lines that begin one. -/
theorem length_idsOf (lines : List (List UInt8)) : (idsOf (unfoldLines lines)).length = (lines.filter isMessageIdLine).length := by
  induction lines with
  | nil => rfl
  | cons line rest ih =>
    rw [idsOf_unfoldLines, List.length_append, ih, List.filter_cons]
    split <;> simp [Nat.add_comm]

/-- Lines that begin none of the fields do not count. -/
theorem idsOf_append {before : List (List UInt8)} (h : ∀ line ∈ before, isMessageIdLine line = false) (rest : List (List UInt8)) :
    idsOf (unfoldLines (before ++ rest)) = idsOf (unfoldLines rest) := by
  induction before with
  | nil => rfl
  | cons line before ih =>
    rw [List.cons_append, idsOf_unfoldLines, h line List.mem_cons_self, ih fun l hl => h l (List.mem_cons_of_mem line hl)]
    rfl

/-- The only field is its line with what continues it. -/
theorem idsOf_single {before after : List (List UInt8)} (hbefore : ∀ l ∈ before, isMessageIdLine l = false)
    (hafter : ∀ l ∈ after, isMessageIdLine l = false) (hline : messageIdOfLine line = some value) :
    idsOf (unfoldLines (before ++ line :: after)) = [value ++ continuation after] := by
  have hnone : idsOf (unfoldLines after) = [] := by
    refine List.eq_nil_of_length_eq_zero ?_
    rw [length_idsOf, List.filter_eq_nil_iff.2 (by simpa using hafter), List.length_nil]
  rw [idsOf_append hbefore, idsOf_unfoldLines, if_pos (isMessageIdLine_of_some hline), hnone]
  obtain ⟨name, hname, rfl, -⟩ := messageIdOfLine_eq_some.1 hline
  rw [List.append_assoc, List.cons_append, List.cons_append, valueOfLine, fieldOfLine_colon hname]
  rfl

/-! ## Where they agree -/

/-- A block with one field, and the line of it. -/
theorem exists_line_of_spaced {raw : List UInt8} (hspaced : spacedIds raw = [value])
    (hone : ((headerLines raw).filter isMessageIdLine).length = 1) :
    ∃ before line after, headerLines raw = before ++ line :: after ∧ messageIdOfLine line = some value ∧
      (∀ l ∈ before, isMessageIdLine l = false) ∧ ∀ l ∈ after, isMessageIdLine l = false := by
  have hmem : value ∈ spacedIds raw := hspaced ▸ List.mem_cons_self
  obtain ⟨line, hline, hvalue⟩ := List.mem_filterMap.1 hmem
  obtain ⟨before, after, hsplit⟩ := List.append_of_mem hline
  refine ⟨before, line, after, hsplit, hvalue, ?_⟩
  rw [hsplit, List.filter_append, List.filter_cons_of_pos (isMessageIdLine_of_some hvalue), List.length_append, List.length_cons] at hone
  have hbefore : before.filter isMessageIdLine = [] := List.eq_nil_of_length_eq_zero (by omega)
  have hafter : after.filter isMessageIdLine = [] := List.eq_nil_of_length_eq_zero (by omega)
  exact ⟨by simpa using List.filter_eq_nil_iff.1 hbefore, by simpa using List.filter_eq_nil_iff.1 hafter⟩

/-- What is read of the lines. -/
theorem exactMessageIdHeader_ok {raw : List UInt8} {header : Option String} (h : exactMessageIdHeader raw = .ok header) :
    (∃ text, raw = bytes text) ∧ ∀ v, header = some v ↔ spacedIds raw = [bytes v] := by
  unfold exactMessageIdHeader at h
  cases htext : textOf raw with
  | none =>
    rw [htext] at h
    cases h
  | some text =>
    rw [htext] at h
    obtain rfl := textOf_eq_some.1 htext
    refine ⟨⟨text, rfl⟩, fun v => ?_⟩
    change (match spacedIds (bytes text) with
      | [value] => Except.ok (textOf value)
      | _ => .ok none) = Except.ok header at h
    split at h
    · rename_i value hspaced
      cases h
      rw [hspaced, List.cons.injEq, and_iff_left rfl, textOf_eq_some]
    · rename_i hother
      cases h
      exact iff_of_false (by simp) (hother _)

theorem exactMessageIdHeader_text (text : String) : ∃ header, exactMessageIdHeader (bytes text) = .ok header := by
  rw [exactMessageIdHeader, textOf_bytes]
  dsimp only
  split <;> exact ⟨_, rfl⟩

/-- The value of a line of a text is a text. -/
theorem spacedIds_text {text : String} (h : value ∈ spacedIds (bytes text)) : ∃ v, value = bytes v := by
  obtain ⟨line, hline, hvalue⟩ := List.mem_filterMap.1 h
  obtain ⟨t, rfl⟩ := text_of_mem_splitLines ((List.takeWhile_sublist _).subset hline)
  obtain ⟨name, -, heq, -⟩ := messageIdOfLine_eq_some.1 hvalue
  obtain ⟨_, v, -, hv⟩ := bytes_cut (c := 32) (by decide) (a := name ++ [58]) (b := value) (by rw [heq]; simp)
  exact ⟨v, hv⟩

theorem continuedId_eq_false (h : ∀ l ∈ lines, isMessageIdLine l = false) : continuedId lines = false := by
  induction lines with
  | nil => rfl
  | cons line rest ih =>
    rw [continuedId, h line List.mem_cons_self, ih fun l hl => h l (List.mem_cons_of_mem line hl)]
    rfl

/-- Whether the only such line is continued is seen by the line after it. -/
theorem continuedId_append {before after : List (List UInt8)} (hbefore : ∀ l ∈ before, isMessageIdLine l = false)
    (hafter : ∀ l ∈ after, isMessageIdLine l = false) (hline : isMessageIdLine line = true) :
    continuedId (before ++ line :: after) = after.head?.any continuesField := by
  induction before with
  | nil => rw [List.nil_append, continuedId, hline, continuedId_eq_false hafter, Bool.true_and, Bool.or_false]
  | cons first before ih =>
    rw [List.cons_append, continuedId, hbefore first List.mem_cons_self, ih fun l hl => hbefore l (List.mem_cons_of_mem first hl),
      Bool.false_and, Bool.false_or]

/-- A line that is not continued has no continuation. -/
theorem continues_iff (rest : List (List UInt8)) : rest.head?.any continuesField = false ↔ continuation rest = [] := by
  cases hrest : rest.head?.any continuesField with
  | false => simp [continuation, hrest]
  | true =>
    obtain ⟨_, -, hblank⟩ := unfoldLines_head hrest
    refine iff_of_false (by simp) fun hnil => ?_
    rw [hnil] at hblank
    cases hblank

/-- What is found is the only field, with its value. -/
def FoundExactly (raw : List UInt8) : Prop := ∀ v, exactMessageIdHeader raw = .ok (some v) → messageIds raw = [bytes v]

/-- The only field of the block is the line `Message-ID: v`. -/
def OnlyLine (raw value : List UInt8) : Prop :=
  ∃ before name after, headerLines raw = before ++ (name ++ 58 :: 32 :: value) :: after ∧ 58 ∉ name ∧
    sameName name messageIdName = true ∧ ∀ l ∈ before ++ after, isMessageIdLine l = false

/-- It is found, as it stands there, in a block that is UTF-8. -/
theorem exactMessageIdHeader_onlyLine {raw : List UInt8} {v : String} (h : OnlyLine raw (bytes v)) :
    exactMessageIdHeader raw = .ok (some v) ↔ ∃ text, raw = bytes text := by
  refine ⟨fun hok => (exactMessageIdHeader_ok hok).1, ?_⟩
  rintro ⟨text, rfl⟩
  obtain ⟨before, name, after, hlines, hname, hsame, hothers⟩ := h
  have hnone (l : List UInt8) (hl : isMessageIdLine l = false) : messageIdOfLine l = none := by
    rw [Option.eq_none_iff_forall_ne_some]
    intro value hvalue
    rw [isMessageIdLine_of_some hvalue] at hl
    cases hl
  have hspaced : spacedIds (bytes text) = [bytes v] := by
    rw [List.forall_mem_append] at hothers
    rw [spacedIds, hlines, List.filterMap_append, List.filterMap_cons, messageIdOfLine_eq_some.2 ⟨name, hname, rfl, hsame⟩,
      List.filterMap_eq_nil_iff.2 fun l hl => hnone l (hothers.1 l hl),
      List.filterMap_eq_nil_iff.2 fun l hl => hnone l (hothers.2 l hl)]
    rfl
  obtain ⟨header, hheader⟩ := exactMessageIdHeader_text text
  rw [hheader, ((exactMessageIdHeader_ok hheader).2 v).2 hspaced]

/-- The value of the only spaced line is the only value where the line has no company. -/
theorem messageIds_spaced {raw : List UInt8} (hspaced : spacedIds raw = [value]) :
    messageIds raw = [value] ↔ Unaccompanied raw := by
  have hone : (spacedIds raw).length = 1 := by rw [hspaced]; rfl
  constructor
  · intro hids _
    have hcount : ((headerLines raw).filter isMessageIdLine).length = 1 := by
      rw [← length_idsOf, ← messageIds_eq, hids]
      rfl
    refine ⟨hcount, ?_⟩
    obtain ⟨before, line, after, hlines, hline, hbefore, hafter⟩ := exists_line_of_spaced hspaced hcount
    -- a continuation would be part of the value
    rw [messageIds_eq, hlines, idsOf_single hbefore hafter hline] at hids
    rw [hlines, continuedId_append hbefore hafter (isMessageIdLine_of_some hline), continues_iff]
    simpa using hids
  · intro h
    obtain ⟨hcount, hcontinued⟩ := h hone
    obtain ⟨before, line, after, hlines, hline, hbefore, hafter⟩ := exists_line_of_spaced hspaced hcount
    rw [hlines, continuedId_append hbefore hafter (isMessageIdLine_of_some hline)] at hcontinued
    rw [messageIds_eq, hlines, idsOf_single hbefore hafter hline, (continues_iff after).1 hcontinued, List.append_nil]

/-- So is what is found, in a block that is a text. -/
theorem foundExactly_iff {raw : List UInt8} : FoundExactly raw ↔ ((∃ text, raw = bytes text) → Unaccompanied raw) := by
  constructor
  · rintro h ⟨text, rfl⟩ hone
    obtain ⟨value, hspaced⟩ := List.length_eq_one_iff.1 hone
    obtain ⟨v, rfl⟩ := spacedIds_text (hspaced ▸ List.mem_cons_self)
    obtain ⟨header, hheader⟩ := exactMessageIdHeader_text text
    obtain rfl := ((exactMessageIdHeader_ok hheader).2 v).2 hspaced
    exact (messageIds_spaced hspaced).1 (h v hheader) hone
  · intro h v hv
    obtain ⟨htext, hspaced⟩ := exactMessageIdHeader_ok hv
    exact (messageIds_spaced ((hspaced v).1 rfl)).2 (h htext)

end Boxplot.Net
