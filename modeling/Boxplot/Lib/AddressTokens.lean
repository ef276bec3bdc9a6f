import Mathlib.Tactic
import Mathlib.Data.Bool.AllAny
/-!
# The words of address fields

Structured mail header fields, character by character: atoms, quoted strings,
domain literals and the special characters between them. Blanks and nested
comments separate words and mean nothing. The obsolete forms are read too.
-/

namespace Boxplot.Lib.Address

/-! ## Characters -/

def isBlank (c : Char) : Bool := c = ' ' || c = '\t'

def isAscii (c : Char) : Bool := c.toNat < 128

def isAtext (c : Char) : Bool := 33 ≤ c.toNat && c.toNat ≤ 126 && !"()<>[]:;@\\,.\"".toList.contains c

/-- The characters that have a meaning of their own. -/
def isSpecial (c : Char) : Bool := "<>:;@,.".toList.contains c

/-- Control characters that only the obsolete forms have, and no line break. -/
def isControl (c : Char) : Bool := 1 ≤ c.toNat && c.toNat ≤ 31 && c.toNat ≠ 10 && c.toNat ≠ 13 || c.toNat = 127

def isPrintable (c : Char) : Bool := 33 ≤ c.toNat && c.toNat ≤ 126

/-- Stands for itself in a quoted string. -/
def isQtext (c : Char) : Bool := (isPrintable c || isBlank c || isControl c) && c ≠ '"' && c ≠ '\\'

/-- Stands for itself in a domain literal. -/
def isDtext (c : Char) : Bool := (isPrintable c || isControl c) && !isBlank c && c ≠ '[' && c ≠ ']' && c ≠ '\\'

/-- Stands for itself in a comment. -/
def isCtext (c : Char) : Bool := (isPrintable c || isBlank c || isControl c) && c ≠ '(' && c ≠ ')' && c ≠ '\\'

/-! ## Words -/

/-- Quoted strings and literals are kept as they are written. -/
inductive Token
  | atom (text : List Char)
  | quoted (raw : List Char)
  | literal (raw : List Char)
  | special (c : Char)
  deriving DecidableEq, Repr

def Token.text : Token → List Char
  | atom text => text
  | quoted raw => '"' :: (raw ++ ['"'])
  | literal raw => '[' :: (raw ++ [']'])
  | special c => [c]

/-- Characters that stand for themselves, and others after a backslash. -/
inductive Escaped (plain other : Char → Bool) : List Char → Prop
  | nil : Escaped plain other []
  | char {raw : List Char} {c : Char} : Escaped plain other raw → plain c = true → Escaped plain other (raw ++ [c])
  | pair {raw : List Char} {c : Char} : Escaped plain other raw → other c = true → Escaped plain other (raw ++ ['\\', c])

theorem Escaped.append {plain other : Char → Bool} {raw raw' : List Char} (h : Escaped plain other raw)
    (h' : Escaped plain other raw') : Escaped plain other (raw ++ raw') := by
  induction h' with
  | nil => rwa [List.append_nil]
  | char _ hc ih =>
    rw [← List.append_assoc]
    exact ih.char hc
  | pair _ hc ih =>
    rw [← List.append_assoc]
    exact ih.pair hc

/-- A word as it may be written. -/
def Token.Valid : Token → Prop
  | atom text => text ≠ [] ∧ ∀ c ∈ text, isAtext c = true
  | quoted raw => Escaped isQtext isAscii raw
  | literal raw => Escaped isDtext isAscii raw
  | special c => isSpecial c = true

/-! ## Reading -/

/-- What has been begun. -/
inductive Mode
  | between
  | atom (text : List Char)
  | quoted (raw : List Char)
  | quotedPair (raw : List Char)
  | literal (raw : List Char)
  | literalPair (raw : List Char)
  /-- In a comment and in as many around it. -/
  | comment (outer : Nat)
  | commentPair (outer : Nat)
  deriving DecidableEq, Repr

structure Lexer where
  tokens : List Token
  mode : Mode
  deriving DecidableEq, Repr

namespace Lexer

/-- The first character behind a word. -/
def start (tokens : List Token) (c : Char) : Option Lexer :=
  if isAtext c then some ⟨tokens, .atom [c]⟩
  else if isSpecial c then some ⟨tokens ++ [.special c], .between⟩
  else if c = '"' then some ⟨tokens, .quoted []⟩
  else if c = '[' then some ⟨tokens, .literal []⟩
  else if c = '(' then some ⟨tokens, .comment 0⟩
  else if isBlank c then some ⟨tokens, .between⟩
  else none

def step : Lexer → Char → Option Lexer
  | ⟨tokens, .between⟩, c => start tokens c
  | ⟨tokens, .atom text⟩, c => if isAtext c then some ⟨tokens, .atom (text ++ [c])⟩ else start (tokens ++ [.atom text]) c
  | ⟨tokens, .quoted raw⟩, c =>
    if c = '"' then some ⟨tokens ++ [.quoted raw], .between⟩
    else if c = '\\' then some ⟨tokens, .quotedPair raw⟩
    else if isQtext c then some ⟨tokens, .quoted (raw ++ [c])⟩
    else none
  | ⟨tokens, .quotedPair raw⟩, c => if isAscii c then some ⟨tokens, .quoted (raw ++ ['\\', c])⟩ else none
  | ⟨tokens, .literal raw⟩, c =>
    if c = ']' then some ⟨tokens ++ [.literal raw], .between⟩
    else if c = '\\' then some ⟨tokens, .literalPair raw⟩
    else if isBlank c then some ⟨tokens, .literal raw⟩
    else if isDtext c then some ⟨tokens, .literal (raw ++ [c])⟩
    else none
  | ⟨tokens, .literalPair raw⟩, c => if isAscii c then some ⟨tokens, .literal (raw ++ ['\\', c])⟩ else none
  | ⟨tokens, .comment outer⟩, c =>
    if c = '(' then some ⟨tokens, .comment (outer + 1)⟩
    else if c = ')' then
      match outer with
      | 0 => some ⟨tokens, .between⟩
      | outer + 1 => some ⟨tokens, .comment outer⟩
    else if c = '\\' then some ⟨tokens, .commentPair outer⟩
    else if isCtext c then some ⟨tokens, .comment outer⟩
    else none
  | ⟨tokens, .commentPair outer⟩, c => if isAscii c then some ⟨tokens, .comment outer⟩ else none

/-- A text ends between words or with an atom. -/
def finish : Lexer → Option (List Token)
  | ⟨tokens, .between⟩ => some tokens
  | ⟨tokens, .atom text⟩ => some (tokens ++ [.atom text])
  | _ => none

def run : Lexer → List Char → Option (List Token)
  | x, [] => x.finish
  | x, c :: text => (x.step c).bind (run · text)

end Lexer

def lex (text : List Char) : Option (List Token) := Lexer.run ⟨[], .between⟩ text

/-! ## What is read is valid -/

/-- What has been begun may become a word. -/
def Mode.Valid : Mode → Prop
  | .atom text => (Token.atom text).Valid
  | .quoted raw | .quotedPair raw => Escaped isQtext isAscii raw
  | .literal raw | .literalPair raw => Escaped isDtext isAscii raw
  | .between | .comment _ | .commentPair _ => True

structure Lexer.Valid (x : Lexer) : Prop where
  tokens : ∀ t ∈ x.tokens, t.Valid
  mode : x.mode.Valid

section
variable {tokens : List Token} {t : Token} {c : Char} {x x' : Lexer} {text : List Char}

theorem valid_snoc (h : ∀ t ∈ tokens, t.Valid) (ht : t.Valid) : ∀ u ∈ tokens ++ [t], u.Valid := by
  rw [List.forall_mem_append, List.forall_mem_singleton]
  exact ⟨h, ht⟩

theorem Lexer.start_valid (h : ∀ t ∈ tokens, t.Valid) (hstart : Lexer.start tokens c = some x) : x.Valid := by
  unfold Lexer.start at hstart
  split at hstart
  · rename_i hc
    cases hstart
    exact ⟨h, by simp, by simpa using hc⟩
  · split at hstart
    · rename_i hc
      cases hstart
      exact ⟨valid_snoc h hc, trivial⟩
    · split at hstart
      · cases hstart
        exact ⟨h, .nil⟩
      · split at hstart
        · cases hstart
          exact ⟨h, .nil⟩
        · split at hstart
          · cases hstart
            exact ⟨h, trivial⟩
          · split at hstart <;> cases hstart
            exact ⟨h, trivial⟩

theorem Lexer.step_valid (h : x.Valid) (hstep : x.step c = some x') : x'.Valid := by
  obtain ⟨tokens, mode⟩ := x
  obtain ⟨htokens, hmode⟩ := h
  cases mode with
  | between => exact Lexer.start_valid htokens hstep
  | atom text =>
    simp only [Lexer.step] at hstep
    split at hstep
    · rename_i hc
      cases hstep
      refine ⟨htokens, by simp, ?_⟩
      rw [List.forall_mem_append, List.forall_mem_singleton]
      exact ⟨hmode.2, hc⟩
    · exact Lexer.start_valid (valid_snoc (t := .atom text) htokens hmode) hstep
  | quoted raw =>
    simp only [Lexer.step] at hstep
    split at hstep
    · cases hstep
      exact ⟨valid_snoc htokens hmode, trivial⟩
    · split at hstep
      · cases hstep
        exact ⟨htokens, hmode⟩
      · split at hstep
        · rename_i hc
          cases hstep
          exact ⟨htokens, .char hmode hc⟩
        · cases hstep
  | quotedPair raw =>
    simp only [Lexer.step] at hstep
    split at hstep
    · rename_i hc
      cases hstep
      exact ⟨htokens, .pair hmode hc⟩
    · cases hstep
  | literal raw =>
    simp only [Lexer.step] at hstep
    split at hstep
    · cases hstep
      exact ⟨valid_snoc htokens hmode, trivial⟩
    · split at hstep
      · cases hstep
        exact ⟨htokens, hmode⟩
      · split at hstep
        · cases hstep
          exact ⟨htokens, hmode⟩
        · split at hstep
          · rename_i hc
            cases hstep
            exact ⟨htokens, .char hmode hc⟩
          · cases hstep
  | literalPair raw =>
    simp only [Lexer.step] at hstep
    split at hstep
    · rename_i hc
      cases hstep
      exact ⟨htokens, .pair hmode hc⟩
    · cases hstep
  | comment outer =>
    -- a comment leaves no word
    simp only [Lexer.step] at hstep
    have hkeep : x'.tokens = tokens ∧ x'.mode.Valid := by
      repeat' split at hstep
      all_goals cases hstep
      all_goals exact ⟨rfl, trivial⟩
    exact ⟨hkeep.1 ▸ htokens, hkeep.2⟩
  | commentPair outer =>
    simp only [Lexer.step] at hstep
    split at hstep
    · cases hstep
      exact ⟨htokens, trivial⟩
    · cases hstep

theorem Lexer.finish_valid (h : x.Valid) (hfinish : x.finish = some tokens) : ∀ t ∈ tokens, t.Valid := by
  unfold Lexer.finish at hfinish
  split at hfinish
  · cases hfinish
    exact h.tokens
  · cases hfinish
    exact valid_snoc h.tokens h.mode
  · cases hfinish

theorem Lexer.run_valid (h : x.Valid) (hrun : x.run text = some tokens) : ∀ t ∈ tokens, t.Valid := by
  induction text generalizing x with
  | nil => exact Lexer.finish_valid h hrun
  | cons c text ih =>
    obtain ⟨x', hstep, hrun⟩ := Option.bind_eq_some_iff.1 hrun
    exact ih (Lexer.step_valid h hstep) hrun

theorem lex_valid (h : lex text = some tokens) : ∀ t ∈ tokens, t.Valid := Lexer.run_valid (x := ⟨[], .between⟩) ⟨by simp, trivial⟩ h

end

/-! ## What is valid is read -/

/-- A word ends before this. -/
def Apart (rest : List Char) : Prop := ∀ c ∈ rest.head?, isAtext c = false

/-- The text is read as these words wherever it stands. -/
def Reads (text : List Char) (tokens : List Token) : Prop :=
  ∀ before rest, Apart rest → Lexer.run ⟨before, .between⟩ (text ++ rest) = Lexer.run ⟨before ++ tokens, .between⟩ rest

section
variable {text text' raw rest : List Char} {tokens tokens' before : List Token} {c : Char}

theorem apart_cons (h : isAtext c = false) : Apart (c :: rest) := by
  simpa [Apart] using h

theorem Reads.lex (h : Reads text tokens) : lex text = some tokens := by
  have hrun := h [] [] (by simp [Apart])
  rwa [List.append_nil] at hrun

/-- An atom goes on as long as there are characters for it. -/
theorem run_atom (h : ∀ c ∈ text', isAtext c = true) (hrest : Apart rest) :
    Lexer.run ⟨before, .atom text⟩ (text' ++ rest) = Lexer.run ⟨before ++ [.atom (text ++ text')], .between⟩ rest := by
  induction text' generalizing text with
  | nil =>
    rw [List.append_nil]
    cases rest with
    | nil => rfl
    | cons c rest =>
      have hc : isAtext c = false := hrest c rfl
      simp only [List.nil_append, Lexer.run, Lexer.step, hc, Bool.false_eq_true, if_false]
  | cons c text' ih =>
    have hc := h c List.mem_cons_self
    rw [List.cons_append, Lexer.run, Lexer.step, if_pos hc, Option.bind_some, ih fun d hd => h d (List.mem_cons_of_mem c hd)]
    simp

theorem reads_atom (hne : text ≠ []) (h : ∀ c ∈ text, isAtext c = true) : Reads text [.atom text] := by
  obtain ⟨c, text', rfl⟩ := List.exists_cons_of_ne_nil hne
  intro before rest hrest
  rw [List.cons_append, Lexer.run, Lexer.step, Lexer.start, if_pos (h c List.mem_cons_self), Option.bind_some,
    run_atom (fun d hd => h d (List.mem_cons_of_mem c hd)) hrest]
  rfl

theorem not_isAtext_of_isSpecial (h : isSpecial c = true) : isAtext c = false := by
  have hall : ∀ d ∈ "<>:;@,.".toList, isAtext d = false := List.all_iff_forall_prop.1 (by decide)
  exact hall c (List.contains_iff_mem.1 h)

/-- A special character is a word wherever it stands between words. -/
theorem run_special (h : isSpecial c = true) (before : List Token) (rest : List Char) :
    Lexer.run ⟨before, .between⟩ (c :: rest) = Lexer.run ⟨before ++ [.special c], .between⟩ rest := by
  simp only [Lexer.run, Lexer.step, Lexer.start, h, not_isAtext_of_isSpecial h, Bool.false_eq_true, if_false, if_true,
    Option.bind_some]

theorem run_blank (before : List Token) (rest : List Char) :
    Lexer.run ⟨before, .between⟩ (' ' :: rest) = Lexer.run ⟨before, .between⟩ rest := rfl

theorem reads_nil : Reads [] [] := by
  intro before rest _
  rw [List.nil_append, List.append_nil]

/-- A special character ends a word, and another may follow. -/
theorem Reads.special (h : Reads text tokens) (hc : isSpecial c = true) (h' : Reads text' tokens') :
    Reads (text ++ c :: text') (tokens ++ .special c :: tokens') := by
  intro before rest hrest
  rw [List.append_assoc, List.cons_append, h before _ (apart_cons (not_isAtext_of_isSpecial hc)), run_special hc, h' _ rest hrest]
  simp only [List.append_assoc, List.singleton_append]

theorem Reads.blank (h : Reads text tokens) (h' : Reads text' tokens') : Reads (text ++ ' ' :: text') (tokens ++ tokens') := by
  intro before rest hrest
  rw [List.append_assoc, List.cons_append, h before _ (apart_cons (by decide)), run_blank, h' _ rest hrest, List.append_assoc]

theorem run_escaped (h : Escaped isQtext isAscii raw) (before : List Token) (rest : List Char) :
    Lexer.run ⟨before, .quoted []⟩ (raw ++ rest) = Lexer.run ⟨before, .quoted raw⟩ rest := by
  induction h generalizing rest with
  | nil => rfl
  | @char raw c _ hc ih =>
    have hquote : c ≠ '"' := by rintro rfl; exact absurd hc (by decide)
    have hslash : c ≠ '\\' := by rintro rfl; exact absurd hc (by decide)
    rw [List.append_assoc, ih, List.singleton_append, Lexer.run, Lexer.step, if_neg hquote, if_neg hslash, if_pos hc]
    rfl
  | @pair raw c _ hc ih =>
    rw [List.append_assoc, ih]
    simp [Lexer.run, Lexer.step, hc]

/-- A quoted string is a word, whatever follows it. -/
theorem run_quoted (h : Escaped isQtext isAscii raw) (before : List Token) (rest : List Char) :
    Lexer.run ⟨before, .between⟩ ((Token.quoted raw).text ++ rest) = Lexer.run ⟨before ++ [.quoted raw], .between⟩ rest := by
  have hopen : Lexer.start before '"' = some ⟨before, .quoted []⟩ := by simp [Lexer.start, isAtext, isSpecial]
  rw [Token.text, List.cons_append, List.append_assoc, Lexer.run, Lexer.step, hopen, Option.bind_some, run_escaped h]
  rfl

theorem run_escapedLiteral (h : Escaped isDtext isAscii raw) (before : List Token) (rest : List Char) :
    Lexer.run ⟨before, .literal []⟩ (raw ++ rest) = Lexer.run ⟨before, .literal raw⟩ rest := by
  induction h generalizing rest with
  | nil => rfl
  | @char raw c _ hc ih =>
    have hclose : c ≠ ']' := by rintro rfl; exact absurd hc (by decide)
    have hslash : c ≠ '\\' := by rintro rfl; exact absurd hc (by decide)
    have hblank : ¬ isBlank c = true := by
      intro hb
      simp [isDtext, hb] at hc
    rw [List.append_assoc, ih, List.singleton_append, Lexer.run, Lexer.step, if_neg hclose, if_neg hslash, if_neg hblank, if_pos hc]
    rfl
  | @pair raw c _ hc ih =>
    rw [List.append_assoc, ih]
    simp [Lexer.run, Lexer.step, hc]

theorem run_literal (h : Escaped isDtext isAscii raw) (before : List Token) (rest : List Char) :
    Lexer.run ⟨before, .between⟩ ((Token.literal raw).text ++ rest) = Lexer.run ⟨before ++ [.literal raw], .between⟩ rest := by
  have hopen : Lexer.start before '[' = some ⟨before, .literal []⟩ := by simp [Lexer.start, isAtext, isSpecial]
  rw [Token.text, List.cons_append, List.append_assoc, Lexer.run, Lexer.step, hopen, Option.bind_some, run_escapedLiteral h]
  rfl

end

theorem Token.Valid.reads {t : Token} (h : t.Valid) : Reads t.text [t] := by
  cases t with
  | atom text => exact reads_atom h.1 h.2
  | quoted raw => exact fun before rest _ => run_quoted h before rest
  | literal raw => exact fun before rest _ => run_literal h before rest
  | special c => exact fun before rest _ => run_special h before rest

end Boxplot.Lib.Address
