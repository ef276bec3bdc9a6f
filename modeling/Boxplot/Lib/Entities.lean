import Boxplot.Lib.Search
/-!
# Entities

Some elements of a text are replaced by codes that all begin with one element,
the mark. The replacements are made one after the other over the whole text, the
mark first, so that no code is replaced again. A reader replaces codes by what
they stand for, from the left, and gets the text back.
-/

namespace Boxplot.Lib

variable {α : Type} [DecidableEq α]

/-- Every occurrence of one element becomes `code`. -/
def replaceOne (a : α) (code : List α) (text : List α) : List α := text.flatMap fun b => if b = a then code else [b]

/-- The replacements one after the other. -/
def replaceEach : List (α × List α) → List α → List α
  | [], text => text
  | (a, code) :: rest, text => replaceEach rest (replaceOne a code text)

/-- The replacements all at once. -/
def codeOf (table : List (α × List α)) (a : α) : List α := (table.lookup a).getD [a]

/-- The code at the beginning of a text. -/
def codeAt : List (α × List α) → Pattern α α
  | [], _ => none
  | (a, code) :: rest, text =>
    match code.isPrefixOf? text with
    | some behind => some (a, behind)
    | none => codeAt rest text

theorem codeOf_cons (a : α) (code : List α) (rest : List (α × List α)) (b : α) :
    codeOf ((a, code) :: rest) b = if b = a then code else codeOf rest b := by
  unfold codeOf
  by_cases h : b = a
  · simp [h]
  · have hne : (b == a) = false := by simpa using h
    simp [List.lookup_cons, hne, h]

theorem codeOf_of_notMem {table : List (α × List α)} {a : α} (h : a ∉ table.map Prod.fst) : codeOf table a = [a] := by
  induction table with
  | nil => rfl
  | cons e rest ih =>
    rw [List.map_cons, List.mem_cons, not_or] at h
    rw [codeOf_cons, if_neg h.1, ih h.2]

theorem codeOf_of_mem {table : List (α × List α)} (hnodup : (table.map Prod.fst).Nodup) {e : α × List α} (h : e ∈ table) :
    codeOf table e.1 = e.2 := by
  induction table with
  | nil => cases h
  | cons e' rest ih =>
    rw [List.map_cons, List.nodup_cons] at hnodup
    rw [codeOf_cons]
    rcases List.mem_cons.1 h with rfl | h
    · exact if_pos rfl
    · have hne : e.1 ≠ e'.1 := fun heq => hnodup.1 (heq ▸ List.mem_map_of_mem h)
      rw [if_neg hne, ih hnodup.2 h]

/-- Replacing in turn is replacing at once if no code holds an element whose turn comes later. -/
theorem replaceEach_eq {table : List (α × List α)} (h : table.Pairwise fun e e' => e'.1 ∉ e.2) (text : List α) :
    replaceEach table text = text.flatMap (codeOf table) := by
  induction table generalizing text with
  | nil =>
    change text = text.flatMap fun b => [b]
    exact (List.flatMap_singleton' text).symm
  | cons e rest ih =>
    obtain ⟨a, code⟩ := e
    obtain ⟨hcode, hrest⟩ := List.pairwise_cons.1 h
    have hkept : code.flatMap (codeOf rest) = code := by
      have hsingle : ∀ b ∈ code, codeOf rest b = [b] := by
        intro b hb
        refine codeOf_of_notMem fun hmem => ?_
        obtain ⟨e', he', rfl⟩ := List.mem_map.1 hmem
        exact hcode e' he' hb
      calc code.flatMap (codeOf rest) = code.flatMap fun b => [b] := List.flatMap_congr hsingle
        _ = code := List.flatMap_singleton' code
    rw [replaceEach, ih hrest, replaceOne, List.flatMap_assoc]
    refine List.flatMap_congr fun b _ => ?_
    rw [codeOf_cons]
    split
    · exact hkept
    · simp

/-- The codes of the mark and of the other elements. -/
structure Entities (α : Type) [DecidableEq α] where
  mark : α
  code : List α
  others : List (α × List α)
  distinct : (mark :: others.map Prod.fst).Nodup
  marked : ∀ e ∈ (mark, code) :: others, ∃ name, e.2 = mark :: name ∧ mark ∉ name
  apart : ∀ e ∈ (mark, code) :: others, ∀ e' ∈ others, e'.1 ∉ e.2
  free : ∀ e ∈ (mark, code) :: others, ∀ e' ∈ (mark, code) :: others, e.2 <+: e'.2 → e = e'

namespace Entities

variable (e : Entities α)

def table : List (α × List α) := (e.mark, e.code) :: e.others

/-- The text with codes in it. -/
def escape (text : List α) : List α := replaceEach e.table text

/-- The text that is meant, from the left. -/
def unescape (text : List α) : List α := replaceMatches (codeAt e.table) (fun a => [a]) 0 text

theorem nodup : (e.table.map Prod.fst).Nodup := e.distinct

theorem escape_eq (text : List α) : e.escape text = text.flatMap (codeOf e.table) := by
  refine replaceEach_eq (List.pairwise_cons.2 ⟨fun e' he' => e.apart _ List.mem_cons_self e' he', ?_⟩) text
  exact List.pairwise_of_forall_mem_list fun a ha b hb => e.apart a (List.mem_cons_of_mem _ ha) b hb

theorem codeOf_cases (a : α) : (∃ c ∈ e.table, c.1 = a ∧ codeOf e.table a = c.2) ∨ a ∉ e.table.map Prod.fst ∧ codeOf e.table a = [a] := by
  by_cases h : a ∈ e.table.map Prod.fst
  · obtain ⟨c, hc, rfl⟩ := List.mem_map.1 h
    exact Or.inl ⟨c, hc, rfl, codeOf_of_mem e.nodup hc⟩
  · exact Or.inr ⟨h, codeOf_of_notMem h⟩

/-- None of the other elements is left. -/
theorem escape_free (text : List α) {c : α × List α} (hc : c ∈ e.others) : c.1 ∉ e.escape text := by
  rw [escape_eq]
  intro hmem
  obtain ⟨a, -, ha⟩ := List.mem_flatMap.1 hmem
  rcases e.codeOf_cases a with ⟨c', hc', -, hcode⟩ | ⟨hnot, hcode⟩
  · rw [hcode] at ha
    exact e.apart c' hc' c hc ha
  · rw [hcode, List.mem_singleton] at ha
    exact hnot (ha ▸ List.mem_cons_of_mem _ (List.mem_map_of_mem hc))

theorem codeAt_eq_some {table : List (α × List α)} {text behind : List α} {a : α} (h : codeAt table text = some (a, behind)) :
    ∃ code, (a, code) ∈ table ∧ text = code ++ behind := by
  induction table with
  | nil => cases h
  | cons c rest ih =>
    obtain ⟨a', code⟩ := c
    rw [codeAt] at h
    split at h
    · rename_i hprefix
      cases h
      exact ⟨code, List.mem_cons_self, (List.isPrefixOf?_eq_some_iff_append_eq.1 hprefix).symm⟩
    · obtain ⟨code', hmem, htext⟩ := ih h
      exact ⟨code', List.mem_cons_of_mem _ hmem, htext⟩

/-- A code is found where it stands. -/
theorem codeAt_code {c : α × List α} (hc : c ∈ e.table) (behind : List α) : codeAt e.table (c.2 ++ behind) = some (c.1, behind) := by
  have hsome : ∀ table : List (α × List α), c ∈ table → (codeAt table (c.2 ++ behind)).isSome = true := by
    intro table hmem
    induction table with
    | nil => cases hmem
    | cons c' rest ih =>
      obtain ⟨a, code⟩ := c'
      rw [codeAt]
      split
      · rfl
      · rename_i hnone
        rcases List.mem_cons.1 hmem with rfl | hmem
        · have hself : code.isPrefixOf? (code ++ behind) = some behind := List.isPrefixOf?_eq_some_iff_append_eq.2 rfl
          cases hnone.symm.trans hself
        · exact ih hmem
  obtain ⟨⟨a, behind'⟩, hfound⟩ := Option.isSome_iff_exists.1 (hsome _ hc)
  obtain ⟨code, hmem, htext⟩ := codeAt_eq_some hfound
  -- of two codes at the same place one begins the other
  have hsame : (a, code) = c := by
    rcases List.prefix_or_prefix_of_prefix (List.prefix_append code behind') (htext ▸ List.prefix_append c.2 behind) with h | h
    · exact e.free _ hmem _ hc h
    · exact (e.free _ hc _ hmem h).symm
  subst hsame
  rw [hfound, List.append_cancel_left htext]

/-- Only the mark begins a code. -/
theorem codeAt_unmarked {a : α} (h : a ≠ e.mark) (text : List α) : codeAt e.table (a :: text) = none := by
  by_contra hsome
  obtain ⟨⟨b, behind⟩, hfound⟩ := Option.ne_none_iff_exists'.1 hsome
  obtain ⟨code, hmem, htext⟩ := codeAt_eq_some hfound
  obtain ⟨name, hcode, -⟩ := e.marked _ hmem
  have hcode : code = e.mark :: name := hcode
  rw [hcode, List.cons_append] at htext
  exact h (List.cons.inj htext).1

/-- The text comes back. -/
theorem unescape_escape (text : List α) : e.unescape (e.escape text) = text := by
  rw [escape_eq]
  unfold unescape
  induction text with
  | nil => rfl
  | cons a rest ih =>
    rw [List.flatMap_cons]
    rcases e.codeOf_cases a with ⟨c, hc, rfl, hcode⟩ | ⟨hnot, hcode⟩
    · obtain ⟨name, hname, -⟩ := e.marked c hc
      have hat := e.codeAt_code hc (rest.flatMap (codeOf e.table))
      rw [hname, List.cons_append] at hat
      rw [hcode, hname, List.cons_append, replaceMatches_hit hat (List.suffix_append _ _), ih]
      rfl
    · have hmark : a ≠ e.mark := fun heq => hnot (heq ▸ List.mem_cons_self)
      have hmiss : Misses (codeAt e.table) [a] (rest.flatMap (codeOf e.table)) := misses_cons (e.codeAt_unmarked hmark _) misses_nil
      rw [hcode, replaceMatches_append hmiss, ih]
      rfl

/-- Every mark begins a code. -/
theorem escape_marked (text : List α) {behind : List α} (h : e.mark :: behind <:+ e.escape text) :
    ∃ c ∈ e.table, c.2 <+: e.mark :: behind := by
  rw [escape_eq] at h
  induction text with
  | nil => cases List.suffix_nil.1 h
  | cons a rest ih =>
    rw [List.flatMap_cons] at h
    obtain ⟨t, ht⟩ := h
    rcases List.append_eq_append_iff.1 ht with ⟨u, hcode, hbehind⟩ | ⟨u, -, hrest⟩
    · cases u with
      | nil => exact ih ⟨[], hbehind⟩
      | cons b u =>
        obtain ⟨rfl, -⟩ := List.cons.inj hbehind
        rcases e.codeOf_cases a with ⟨c, hc, -, heq⟩ | ⟨hnot, heq⟩
        · -- a code has the mark at its beginning only
          obtain ⟨name, hname, hfree⟩ := e.marked c hc
          rw [heq, hname] at hcode
          cases t with
          | nil =>
            refine ⟨c, hc, ?_⟩
            rw [hbehind, hname, hcode]
            exact List.prefix_append _ _
          | cons d t =>
            rw [List.cons_append] at hcode
            exact absurd ((List.cons.inj hcode).2 ▸ List.mem_append_right t List.mem_cons_self) hfree
        · have hmem : e.mark ∈ codeOf e.table a := hcode ▸ List.mem_append_right t List.mem_cons_self
          rw [heq, List.mem_singleton] at hmem
          exact absurd (hmem ▸ List.mem_cons_self) hnot
    · exact ih ⟨u, hrest.symm⟩

end Entities

end Boxplot.Lib
