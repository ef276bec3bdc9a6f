import Boxplot.Lib.Utf8
/-!
# Lines that end in CRLF

Bytes split at each carriage return with a line feed. The lines, joined again,
are the bytes; a line has no line break in it, but may have one of its two
halves.
-/

namespace Boxplot.Lib

def crlf : List UInt8 := [13, 10]

/-- The lines of a text. The last one is what follows the last line break. -/
def splitLines : List UInt8 → List (List UInt8)
  | 13 :: 10 :: rest => [] :: splitLines rest
  | b :: rest =>
    match splitLines rest with
    | [] => [[b]]
    | line :: lines => (b :: line) :: lines
  | [] => [[]]

def joinLines (lines : List (List UInt8)) : List UInt8 := List.intercalate crlf lines

/-- No line break inside. -/
def OneLine (l : List UInt8) : Prop := splitLines l = [l]

instance (l : List UInt8) : Decidable (OneLine l) := inferInstanceAs (Decidable (_ = _))

variable {l line : List UInt8} {lines : List (List UInt8)}

theorem splitLines_ne_nil (l : List UInt8) : splitLines l ≠ [] := by
  fun_cases splitLines l <;> simp_all

@[simp] theorem joinLines_singleton (line : List UInt8) : joinLines [line] = line := by simp [joinLines, List.intercalate]

theorem joinLines_cons (line : List UInt8) (h : lines ≠ []) : joinLines (line :: lines) = line ++ crlf ++ joinLines lines := by
  cases lines with
  | nil => exact absurd rfl h
  | cons line' rest => simp [joinLines, List.intercalate]

theorem head_joinLines (h : line ≠ []) : (joinLines (line :: lines)).head? = line.head? := by
  obtain ⟨b, rest, rfl⟩ := List.exists_cons_of_ne_nil h
  cases lines with
  | nil => rw [joinLines_singleton]
  | cons line' lines => rw [joinLines_cons _ (List.cons_ne_nil _ _)]; rfl

/-- A byte that does not start a line break goes to the first line. -/
theorem splitLines_cons {b : UInt8} (h : ∀ rest, b = 13 → l ≠ 10 :: rest) (hl : splitLines l = line :: lines) :
    splitLines (b :: l) = (b :: line) :: lines := by
  rw [splitLines.eq_2 b l h, hl]

/-- Lines are split at each line break. -/
theorem splitLines_append (a b : List UInt8) : splitLines (a ++ crlf ++ b) = splitLines a ++ splitLines b := by
  induction a using splitLines.induct with
  | case1 rest ih =>
    change [] :: splitLines (rest ++ crlf ++ b) = [] :: splitLines rest ++ splitLines b
    rw [ih]
    rfl
  | case2 c rest h hnil => exact absurd hnil (splitLines_ne_nil rest)
  | case3 c rest h line lines hrest ih =>
    rw [hrest] at ih
    rw [splitLines_cons h hrest]
    refine splitLines_cons ?_ ih
    -- a carriage return before the break is followed by the break's own carriage return
    intro tail hc hl
    cases rest with
    | nil => cases hl
    | cons d rest => exact h rest hc (by rw [(List.cons.inj hl).1])
  | case4 => rfl

theorem joinLines_splitLines (l : List UInt8) : joinLines (splitLines l) = l := by
  induction l using splitLines.induct with
  | case1 rest ih =>
    change joinLines ([] :: splitLines rest) = _
    rw [joinLines_cons _ (splitLines_ne_nil rest), ih]
    rfl
  | case2 c rest h hnil => exact absurd hnil (splitLines_ne_nil rest)
  | case3 c rest h line lines hrest ih =>
    rw [splitLines_cons h hrest]
    rw [hrest] at ih
    cases lines with
    | nil =>
      rw [joinLines_singleton] at ih ⊢
      rw [ih]
    | cons line' rest' =>
      rw [joinLines_cons _ (List.cons_ne_nil _ _)] at ih ⊢
      rw [← ih]
      rfl
  | case4 => rfl

/-- Without a line feed or without a carriage return there is no line break. -/
theorem oneLine_of_notMem (h : 13 ∉ l ∨ 10 ∉ l) : OneLine l := by
  induction l with
  | nil => rfl
  | cons b rest ih =>
    have hrest : 13 ∉ rest ∨ 10 ∉ rest :=
      h.imp (fun h hm => h (List.mem_cons_of_mem b hm)) fun h hm => h (List.mem_cons_of_mem b hm)
    refine splitLines_cons (fun tail hb htail => ?_) (ih hrest)
    rcases h with h | h
    · exact h (hb ▸ List.mem_cons_self)
    · exact h (List.mem_cons_of_mem b (htail ▸ List.mem_cons_self))

theorem OneLine.split (h : OneLine line) (l : List UInt8) : splitLines (line ++ crlf ++ l) = line :: splitLines l := by
  rw [splitLines_append, h]
  rfl

theorem splitLines_joinLines (hne : lines ≠ []) (h : ∀ line ∈ lines, OneLine line) : splitLines (joinLines lines) = lines := by
  induction lines with
  | nil => exact absurd rfl hne
  | cons line rest ih =>
    have hline := h line List.mem_cons_self
    cases hrest : rest with
    | nil => rw [joinLines_singleton]; exact hline
    | cons line' rest' =>
      rw [← hrest]
      have hrest : rest ≠ [] := by rw [hrest]; exact List.cons_ne_nil _ _
      rw [joinLines_cons _ hrest, hline.split, ih hrest fun l hl => h l (List.mem_cons_of_mem line hl)]

/-! ## Lines of text -/

theorem bytes_crlf : bytes "\r\n" = crlf := by decide +kernel

/-- Texts joined by line breaks are, in bytes, the joined lines. -/
theorem bytes_intercalate (texts : List String) : bytes (String.intercalate "\r\n" texts) = joinLines (texts.map bytes) := by
  induction texts with
  | nil => decide +kernel
  | cons text rest ih =>
    cases hrest : rest with
    | nil => simp [String.intercalate_singleton]
    | cons text' rest' =>
      rw [String.intercalate_cons_cons, bytes_append, bytes_append, bytes_crlf, ← hrest, ih, List.map_cons,
        joinLines_cons _ (by rw [hrest]; exact List.cons_ne_nil _ _)]

/-- Without a carriage return in it, a text is one line. -/
theorem oneLine_bytes {s : String} (h : '\r' ∉ s.toList) : OneLine (bytes s) :=
  oneLine_of_notMem (.inl fun hmem => h ((mem_bytes (by decide)).1 hmem))

/-- The lines of a text are texts. -/
theorem text_of_mem_splitLines {s : String} (h : line ∈ splitLines (bytes s)) : ∃ t, line = bytes t := by
  have hjoin := joinLines_splitLines (bytes s)
  generalize splitLines (bytes s) = lines at h hjoin
  induction lines generalizing s with
  | nil => cases h
  | cons first rest ih =>
    cases hrest : rest with
    | nil =>
      rw [hrest, joinLines_singleton] at hjoin
      rw [hrest, List.mem_singleton] at h
      exact ⟨s, h.trans hjoin⟩
    | cons second rest' =>
      rw [joinLines_cons _ (by rw [hrest]; exact List.cons_ne_nil _ _)] at hjoin
      -- the first line is cut off at the carriage return, the others behind the line feed
      obtain ⟨t, u, hfirst, hlf⟩ := bytes_cut (c := 13) (by decide) (a := first) (b := 10 :: joinLines rest)
        (by rw [← hjoin]; simp [crlf])
      obtain ⟨_, v, -, hothers⟩ := bytes_cut (c := 10) (by decide) (a := []) (b := joinLines rest) (by rw [← hlf]; rfl)
      rcases List.mem_cons.1 h with rfl | h
      · exact ⟨t, hfirst⟩
      · exact ih h hothers

end Boxplot.Lib
