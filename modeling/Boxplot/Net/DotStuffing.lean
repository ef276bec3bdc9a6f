import Boxplot.Net.MimeStructure
import Boxplot.Net.Smtp
/-!
# The data phase of SMTP

What goes out after `DATA`: the message with the dots after line breaks
doubled, and the closing dot. The receiver finds the end of the data where it
is, and gets the message back.
-/

namespace Boxplot.Net

open Lib

/-! ## The receiver -/

/-- A dot on a line of its own. -/
def endOfData : List UInt8 := [13, 10, 46, 13, 10]

/-- All the bytes of the data phase. -/
def dataPhase (message : List UInt8) : List UInt8 := dotStuff message ++ endOfData

/-- A line that begins with a dot, without it. -/
def unstuffLine : List UInt8 → List UInt8
  | 46 :: line => line
  | line => line

/-- Reads lines until there is a single dot. Gives the lines before it, each without a leading dot and with its line
break, and the bytes after it. -/
def receiveLines : List (List UInt8) → Option (List UInt8 × List UInt8)
  | [] => none
  | line :: lines =>
    if line = [46] then some ([], joinLines lines)
    else (receiveLines lines).map fun r => (unstuffLine line ++ crlf ++ r.1, r.2)

def receiveData (wire : List UInt8) : Option (List UInt8 × List UInt8) := receiveLines (splitLines wire)

/-! ## Stuffed lines -/

/-- A line as it is sent, unless it is the first one. -/
def stuffLine : List UInt8 → List UInt8
  | 46 :: line => 46 :: 46 :: line
  | line => line

/-- Every line but the first one. -/
def stuffLines : List (List UInt8) → List (List UInt8)
  | [] => []
  | line :: lines => line :: lines.map stuffLine

theorem unstuffLine_stuffLine (line : List UInt8) : unstuffLine (stuffLine line) = line := by
  fun_cases stuffLine line with
  | case1 => rfl
  | case2 _ h => fun_cases unstuffLine line <;> simp_all

theorem stuffLine_ne (line : List UInt8) : stuffLine line ≠ [46] := by
  fun_cases stuffLine line <;> simp_all

theorem stuffLine_eq (line : List UInt8) : stuffLine line = if line.head? = some 46 then 46 :: line else line := by
  fun_cases stuffLine line with
  | case1 => rfl
  | case2 _ h =>
    refine (if_neg fun hline => ?_).symm
    obtain ⟨tail, rfl⟩ := List.head?_eq_some_iff.1 hline
    exact h tail rfl

theorem unstuffLine_of_head {line : List UInt8} (h : line.head? ≠ some 46) : unstuffLine line = line := by
  fun_cases unstuffLine line with
  | case1 => exact absurd rfl h
  | case2 => rfl

/-- A first line begins with a dot where the text does. -/
theorem head_of_splitLines {l line : List UInt8} {lines : List (List UInt8)} (h : splitLines l = line :: lines) :
    line.head? = some 46 ↔ l.head? = some 46 := by
  fun_cases splitLines l with
  | case1 rest =>
    cases h
    simp
  | case2 b rest _ hnil => exact absurd hnil (splitLines_ne_nil rest)
  | case3 b rest hb line' lines' hrest =>
    rw [splitLines_cons hb hrest] at h
    cases h
    rfl
  | case4 =>
    cases h
    simp

/-! ## The message stuffed -/

theorem dotStuff_cons {b : UInt8} {rest : List UInt8} (h : ∀ tail, b = 13 → rest ≠ 10 :: 46 :: tail) :
    dotStuff (b :: rest) = b :: dotStuff rest := dotStuff.eq_2 b rest h

theorem head_dotStuff (l : List UInt8) : (dotStuff l).head? = l.head? := by
  fun_cases dotStuff l <;> rfl

/-- A line break is kept, and the dot after it doubled. -/
theorem dotStuff_crlf (rest : List UInt8) :
    dotStuff (13 :: 10 :: rest) = 13 :: 10 :: (if rest.head? = some 46 then 46 :: dotStuff rest else dotStuff rest) := by
  cases rest with
  | nil => rfl
  | cons b tail =>
    rw [List.head?_cons]
    by_cases hb : b = 46
    · subst hb
      rw [if_pos rfl, dotStuff_cons (b := 46) (by simp)]
      rfl
    · have h46 : some b ≠ some 46 := fun h => hb (Option.some.inj h)
      rw [if_neg h46, dotStuff_cons (by simp [hb]), dotStuff_cons (by simp)]

theorem splitLines_dotStuff (message : List UInt8) : splitLines (dotStuff message) = stuffLines (splitLines message) := by
  induction message using splitLines.induct with
  | case1 rest ih =>
    obtain ⟨line, lines, hrest⟩ := List.exists_cons_of_ne_nil (splitLines_ne_nil rest)
    rw [hrest] at ih
    rw [dotStuff_crlf]
    change [] :: splitLines (if rest.head? = some 46 then 46 :: dotStuff rest else dotStuff rest) =
      [] :: (splitLines rest).map stuffLine
    simp only [hrest, List.map_cons, stuffLine_eq line, head_of_splitLines hrest]
    split
    · rw [splitLines_cons (by simp) ih]
    · rw [ih, stuffLines]
  | case2 b rest _ hnil => exact absurd hnil (splitLines_ne_nil rest)
  | case3 b rest hb line lines hrest ih =>
    rw [hrest] at ih
    rw [dotStuff_cons fun tail hcr hl => hb _ hcr hl, splitLines_cons hb hrest]
    refine splitLines_cons ?_ ih
    -- stuffing does not change what a text begins with
    intro tail hcr hl
    have hhead := head_dotStuff rest
    rw [hl, List.head?_cons] at hhead
    obtain ⟨rest', rfl⟩ := List.head?_eq_some_iff.1 hhead.symm
    exact hb rest' hcr rfl
  | case4 => rfl

/-! ## Reading it back -/

theorem receiveLines_of_ne {lines : List (List UInt8)} (h : [46] ∉ lines) (rest : List (List UInt8)) :
    receiveLines (lines ++ [46] :: rest) = some (lines.flatMap fun line => unstuffLine line ++ crlf, joinLines rest) := by
  induction lines with
  | nil => rw [List.nil_append, receiveLines, if_pos rfl, List.flatMap_nil]
  | cons line lines ih =>
    rw [List.mem_cons, not_or] at h
    rw [List.cons_append, receiveLines, if_neg fun hline => h.1 hline.symm, ih h.2, List.flatMap_cons]
    rfl

/-- The lines of a text with their breaks are the text with one more break. -/
theorem flatMap_crlf {lines : List (List UInt8)} (h : lines ≠ []) : (lines.flatMap fun line => line ++ crlf) = joinLines lines ++ crlf := by
  induction lines with
  | nil => exact absurd rfl h
  | cons line rest ih =>
    cases hrest : rest with
    | nil => simp
    | cons line' rest' =>
      rw [← hrest]
      have hne : rest ≠ [] := by rw [hrest]; exact List.cons_ne_nil _ _
      rw [List.flatMap_cons, ih hne, joinLines_cons _ hne]
      simp only [List.append_assoc]

theorem receiveData_dataPhase {message : List UInt8} (h : message.head? ≠ some 46) (rest : List UInt8) :
    receiveData (dataPhase message ++ rest) = some (message ++ crlf, rest) := by
  obtain ⟨line, lines, hlines⟩ := List.exists_cons_of_ne_nil (splitLines_ne_nil message)
  have hsplit : splitLines (dataPhase message ++ rest) = (line :: lines.map stuffLine) ++ [46] :: splitLines rest := by
    have hwire : dataPhase message ++ rest = dotStuff message ++ crlf ++ ([46] ++ crlf ++ rest) := by
      simp [dataPhase, endOfData, crlf]
    rw [hwire, splitLines_append, splitLines_append, splitLines_dotStuff, hlines]
    rfl
  have hfirst : line.head? ≠ some 46 := fun hline => h ((head_of_splitLines hlines).1 hline)
  have hdot : [46] ∉ line :: lines.map stuffLine := by
    rw [List.mem_cons, List.mem_map, not_or]
    refine ⟨fun heq => hfirst (heq ▸ rfl), ?_⟩
    rintro ⟨l, -, hl⟩
    exact stuffLine_ne l hl
  have hback : ((line :: lines.map stuffLine).flatMap fun l => unstuffLine l ++ crlf) = (line :: lines).flatMap fun l => l ++ crlf := by
    rw [List.flatMap_cons, List.flatMap_cons, List.flatMap_map]
    simp only [unstuffLine_stuffLine, unstuffLine_of_head hfirst]
  rw [receiveData, hsplit, receiveLines_of_ne hdot, joinLines_splitLines, hback, ← hlines,
    flatMap_crlf (splitLines_ne_nil message), joinLines_splitLines]

/-! ## The end of the data -/

/-- What is sent begins as the message does, up to the end of the data. -/
theorem cons_of_prefix {x : UInt8} {xs l : List UInt8} (hx : x ≠ 13) (h : x :: xs <+: dotStuff l ++ endOfData) : ∃ tail, l = x :: tail := by
  obtain ⟨rest, hrest⟩ := h
  have hhead : some x = (dotStuff l ++ endOfData).head? := by rw [← hrest]; rfl
  rw [List.head?_append, head_dotStuff] at hhead
  cases l with
  | nil => exact absurd (Option.some.inj hhead) hx
  | cons b tail => exact ⟨tail, by rw [Option.some.inj hhead]⟩

/-- The end of the data is nowhere but behind the message. -/
theorem endOfData_once (message : List UInt8) (i : Nat) :
    endOfData <+: (dataPhase message).drop i ↔ i = (dotStuff message).length := by
  constructor
  · unfold dataPhase
    intro h
    induction message using dotStuff.induct generalizing i with
    | case1 rest ih =>
      rw [dotStuff] at h ⊢
      rcases i with _ | _ | _ | _ | i
      · simp [endOfData] at h
      · simp [endOfData] at h
      · simp [endOfData] at h
      · simp [endOfData] at h
      · simp only [List.length_cons, ih i h]
    | case2 b rest hb ih =>
      rw [dotStuff_cons fun tail hcr hl => hb tail hcr hl] at h ⊢
      cases i with
      | succ i => rw [List.length_cons, ih i h]
      | zero =>
        -- the data would end in the message, at a dot that was not doubled
        obtain ⟨rfl, hfeed⟩ := List.cons_prefix_cons.1 h
        obtain ⟨tail, rfl⟩ := cons_of_prefix (by decide) hfeed
        rw [dotStuff_cons (by simp)] at hfeed
        obtain ⟨tail, rfl⟩ := cons_of_prefix (by decide) (List.cons_prefix_cons.1 hfeed).2
        exact absurd rfl (hb tail rfl)
    | case3 =>
      have hlen := h.length_le
      simp only [dotStuff, List.nil_append, List.length_drop, endOfData, List.length_cons, List.length_nil] at hlen ⊢
      omega
  · rintro rfl
    rw [dataPhase, List.drop_left]

/-! ## What is sent -/

theorem write_sent {data : List UInt8} {e : NativeMailErrorDto} {s s' : SmtpConn} {u : Unit} (h : write data e s = .ok u s') :
    s'.conn.sent = s.conn.sent ++ data := by
  unfold write Conn.write at h
  split at h
  · rename_i conn hwrite
    cases h
    split at hwrite <;> cases hwrite <;> rfl
  · cases h

theorem writePayload_sent {message : List UInt8} {s s' : SmtpConn} {u : Unit} (h : writePayload (dotStuff message) s = .ok u s') :
    s'.conn.sent = s.conn.sent ++ dataPhase message := by
  unfold writePayload payloadWrites at h
  obtain ⟨_, s₁, hmessage, h⟩ := bind_eq_ok.1 h
  obtain ⟨_, s₂, hend, hflush⟩ := bind_eq_ok.1 h
  rw [write_sent hflush, write_sent hend, write_sent hmessage]
  simp [dataPhase, endOfData]

/-- The data phase carries the message: the bytes written are its bytes, they have the end of the data once, and whatever
is sent next, the receiver gets the message with a final line break and goes on with the rest. -/
structure Transparent (message : List UInt8) : Prop where
  sent : ∀ s u s', writePayload (dotStuff message) s = .ok u s' → s'.conn.sent = s.conn.sent ++ dataPhase message
  once : ∀ i, endOfData <+: (dataPhase message).drop i ↔ i = (dotStuff message).length
  received : ∀ rest, receiveData (dataPhase message ++ rest) = some (message ++ crlf, rest)

theorem transparent_of_head {message : List UInt8} (h : message.head? ≠ some 46) : Transparent message where
  sent _ _ _ hwrite := writePayload_sent hwrite
  once := endOfData_once message
  received := receiveData_dataPhase h

/-- A message begins with its sender. -/
theorem head_buildMessage {date : String} {request : NativeSmtpSubmitRequest} {built : BuiltMessage}
    (h : buildMessage date request = .ok built) : built.message.head? = some 70 := by
  obtain ⟨rfl, -⟩ := buildMessage_render h
  have hfrom : (bytes "From").head? = some 70 := by decide +kernel
  change (render (⟨"From", addressText request.from⟩ :: _) _).head? = some 70
  rw [render, bytes_append, bytes_append, List.append_assoc, List.head?_append, bytes_intercalate, List.map_cons, List.map_cons,
    head_joinLines (HeaderField.line_ne_nil _), HeaderField.line_bytes, List.head?_append, hfrom]
  rfl

/-- Every text that does not begin with a dot is sent transparently, and every message that is built is such a text. -/
theorem data_phase_transparent : (∀ text : String, text.toList.head? ≠ some '.' → Transparent (bytes text)) ∧
    ∀ date request built, buildMessage date request = .ok built → Transparent built.message := by
  constructor
  · exact fun text h => transparent_of_head fun hbytes => h ((head_bytes (c := '.') (by decide)).1 hbytes)
  · intro date request built h
    refine transparent_of_head ?_
    rw [head_buildMessage h]
    decide

theorem data_phase_transparent_dots : Transparent (bytes "Hi\r\n.\r\n..QUIT") := data_phase_transparent.1 _ (by decide)

end Boxplot.Net
