import Mathlib.Tactic
/-!
# A connection read line by line

The client's end of a byte stream: what the peer still sends, how the stream
ends, and which of the coming writes fail. `readLine` is a buffered reader's
`read_line` into a string: up to a line feed or the end, and only valid UTF-8.
-/

namespace Boxplot.Lib

/-- After the last byte the peer sends: an orderly close, or a failed or timed-out read. -/
inductive Tail
  | closed
  | failed
  deriving DecidableEq, Repr

structure Conn where
  input : List UInt8
  tail : Tail
  /-- How the coming writes and flushes go: `true` is a failure. Past its end they succeed. -/
  faults : List Bool
  /-- The bytes of the writes that went well. -/
  sent : List UInt8
  deriving DecidableEq, Repr

/-! ## UTF-8 -/

def isContinuationByte (b : UInt8) : Bool := 0x80 ≤ b ∧ b ≤ 0xBF

/-- Well-formed UTF-8 byte sequences: no overlong forms, no surrogates, nothing past U+10FFFF. -/
def utf8Valid : List UInt8 → Bool
  | [] => true
  | a :: rest =>
    if a < 0x80 then utf8Valid rest
    else match rest with
      | [] => false
      | b :: rest =>
        if 0xC2 ≤ a ∧ a ≤ 0xDF ∧ isContinuationByte b then utf8Valid rest
        else match rest with
          | [] => false
          | c :: rest =>
            if 0xE0 ≤ a ∧ a ≤ 0xEF ∧ isContinuationByte b ∧ isContinuationByte c ∧
                (a = 0xE0 → 0xA0 ≤ b) ∧ (a = 0xED → b ≤ 0x9F) then utf8Valid rest
            else match rest with
              | [] => false
              | d :: rest =>
                if 0xF0 ≤ a ∧ a ≤ 0xF4 ∧ isContinuationByte b ∧ isContinuationByte c ∧ isContinuationByte d ∧
                    (a = 0xF0 → 0x90 ≤ b) ∧ (a = 0xF4 → b ≤ 0x8F) then utf8Valid rest
                else false

/-! ## Lines -/

/-- The bytes up to and with the first line feed, and what follows it if there is one. -/
def takeLine : List UInt8 → List UInt8 × Option (List UInt8)
  | [] => ([], none)
  | b :: bs => if b = 10 then ([b], some bs) else (b :: (takeLine bs).1, (takeLine bs).2)

/-- A line read as a string. The empty line is the end of the stream. -/
def asText (line : List UInt8) : Except Unit (List UInt8) := if utf8Valid line then .ok line else .error ()

def Conn.readLine (c : Conn) : Except Unit (List UInt8) × Conn :=
  match takeLine c.input with
  | (line, some rest) => (asText line, { c with input := rest })
  | (line, none) =>
    match c.tail with
    | .closed => (asText line, { c with input := [] })
    | .failed => (.error (), { c with input := [] })

/-- One write, or one flush of nothing. -/
def Conn.write (c : Conn) (bytes : List UInt8) : Except Unit Unit × Conn :=
  match c.faults with
  | [] => (.ok (), { c with sent := c.sent ++ bytes })
  | true :: rest => (.error (), { c with faults := rest })
  | false :: rest => (.ok (), { c with faults := rest, sent := c.sent ++ bytes })

theorem takeLine_length (bs : List UInt8) :
    (takeLine bs).1.length + ((takeLine bs).2.getD []).length = bs.length := by
  induction bs with
  | nil => rfl
  | cons b bs ih =>
    unfold takeLine
    split
    · simp; omega
    · simp only [List.length_cons]; omega

/-- Reading a line uses it up. -/
theorem Conn.readLine_length {c c' : Conn} {line : List UInt8} (h : c.readLine = (.ok line, c')) :
    line.length + c'.input.length = c.input.length := by
  have hlen := takeLine_length c.input
  unfold Conn.readLine at h
  have text : ∀ l, asText l = .ok line → l = line := by
    intro l hl
    unfold asText at hl
    split at hl
    · cases hl; rfl
    · cases hl
  split at h
  · rename_i l rest hl
    simp only [Prod.mk.injEq] at h
    obtain ⟨ht, rfl⟩ := h
    rw [hl, text l ht] at hlen
    exact hlen
  · rename_i l hl
    split at h
    · simp only [Prod.mk.injEq] at h
      obtain ⟨ht, rfl⟩ := h
      rw [hl, text l ht] at hlen
      exact hlen
    · cases h

end Boxplot.Lib
