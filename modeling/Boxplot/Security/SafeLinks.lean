import Mathlib
import Boxplot.Security.Sanitizer
/-!
# Safe links

What `forceSafeLinks` makes of a document as the sanitiser writes it. Where the
patterns find the attributes they are meant for, every link comes out as it
should and nothing else changes; a value with `target=` in it is enough for a
link to keep its target.
-/

namespace Boxplot.Security

open Lib

/-! ## Where a pattern finds something in a value -/

/-- The word is somewhere in the value. -/
def mentions (name : String) (value : List Char) : Bool := value.tails.any fun s => (word (assigns name) s).isSome

/-- A line break comes before any quotation mark, so that no quoted text that begins before the value ends in it. -/
def breaks (value : List Char) : Bool :=
  match value.find? fun c => isQuote c || isLineTerminator c with
  | some c => isLineTerminator c
  | none => false

/-- The pattern begins somewhere in the value: the word with a quoted text behind it, or with the value's end behind it,
which is a quoted text when the attribute is not the last. -/
def opens (name : String) (value : List Char) (last : Bool) : Bool :=
  value.tails.any fun s => match word (assigns name) s with
    | some (_, q :: text) => isQuote q && !breaks text
    | some (_, []) => !last
    | none => false

/-- The beginning of a link is somewhere in the value. -/
def mentionsAnchor (value : List Char) : Bool :=
  value.tails.any fun
    | '<' :: c :: s :: _ => c.toLower = 'a' && isSpace s
    | _ => false

/-! ## Names -/

theorem allowed_lower : ∀ name ∈ allowedAttr, lower name.toList = name.toList := by decide

theorem allowed_sign : ∀ name ∈ allowedAttr, '=' ∉ name.toList := by decide

theorem allowed_suffix : ∀ name ∈ allowedAttr, ∀ other ∈ allowedAttr, name.toList <:+ other.toList → name = other := by decide

theorem allowed_head : ∀ name ∈ allowedAttr, (name.toList.head?.all Char.isAlpha) = true := by decide

theorem lower_append (a b : List Char) : lower (a ++ b) = lower a ++ lower b := List.map_append

theorem lower_suffix {s l : List Char} (h : lower l = l) (hs : s <:+ l) : lower s = s := by
  obtain ⟨t, rfl⟩ := hs
  rw [lower_append] at h
  exact (List.append_inj' h (List.length_map ..)).2

theorem lower_assigns {name : String} (h : name ∈ allowedAttr) : lower (assigns name) = assigns name := by
  rw [assigns, lower_append, allowed_lower name h]
  rfl

/-- A character that is not a letter is no other's lower case. -/
theorem eq_of_toLower {c d : Char} (h : c.toLower = d) (hd : d.isAlpha = false) : c = d := by
  unfold Char.toLower at h
  split at h
  · rename_i hupper
    have hlow : 65 ≤ c.val.toNat := UInt32.le_iff_toNat_le.1 hupper.1
    have hhigh : c.val.toNat ≤ 90 := UInt32.le_iff_toNat_le.1 hupper.2
    have hval : (c.val + 32).toNat = d.val.toNat := congrArg (fun e => e.val.toNat) h
    rw [UInt32.toNat_add] at hval
    have hnum : (32 : UInt32).toNat = 32 := rfl
    have hlower : d.isLower = true := by
      simp only [Char.isLower, Bool.and_eq_true, decide_eq_true_eq, ge_iff_le, UInt32.le_iff_toNat_le]
      have ha : 'a'.val.toNat = 97 := rfl
      have hz : 'z'.val.toNat = 122 := rfl
      constructor <;> omega
    simp [Char.isAlpha, hlower] at hd
  · exact h

theorem isAlpha_of_toLower {c : Char} (h : c.toLower.isAlpha = true) : c.isAlpha = true := by
  by_contra hnot
  have hsame : c.toLower = c := by
    unfold Char.toLower
    split
    · rename_i hupper
      have hc : c.isUpper = true := decide_eq_true hupper
      exact absurd (by rw [Char.isAlpha, hc, Bool.true_or]) hnot
    · rfl
  rw [hsame] at h
  exact hnot h

/-! ## Words -/

theorem word_eq_some {w text rest : List Char} : word w text = some ((), rest) ↔ ∃ x, text = x ++ rest ∧ lower x = w := by
  unfold word
  constructor
  · intro h
    split at h
    · rename_i hlower
      cases h
      exact ⟨text.take w.length, (List.take_append_drop _ _).symm, hlower⟩
    · cases h
  · rintro ⟨x, rfl, rfl⟩
    have hlength : (lower x).length = x.length := List.length_map ..
    rw [hlength, List.take_left, List.drop_left, if_pos rfl]

theorem word_isSome {w text : List Char} (h : word w text ≠ none) : ∃ x rest, text = x ++ rest ∧ lower x = w := by
  obtain ⟨found, hfound⟩ := Option.ne_none_iff_exists'.1 h
  obtain ⟨x, hx⟩ := word_eq_some.1 hfound
  exact ⟨x, found.2, hx⟩

theorem quoted_word {name : String} {text : List Char} (h : quoted name text ≠ none) : word (assigns name) text ≠ none := by
  intro hnone
  rw [quoted, hnone] at h
  exact h rfl

/-- A word with the sign has the sign at its end only. -/
theorem lower_eq_assigns {name : String} {x : List Char} (h : lower x = assigns name) : ∃ y, x = y ++ ['='] ∧ lower y = name.toList := by
  obtain ⟨y, z, rfl, hy, hz⟩ := List.map_eq_append_iff.1 h
  obtain ⟨c, z', rfl, hc, hz'⟩ := List.map_eq_cons_iff.1 hz
  rw [List.map_eq_nil_iff] at hz'
  subst hz'
  exact ⟨y, by rw [eq_of_toLower hc (by decide)], hy⟩

theorem head_isAlpha {name : String} (hname : name ∈ allowedAttr) {x : List Char} (h : lower x = assigns name) :
    ∃ c y, x = c :: y ∧ c.isAlpha = true := by
  obtain ⟨y, rfl, hy⟩ := lower_eq_assigns h
  cases y with
  | nil =>
    have hne : ∀ name ∈ allowedAttr, name.toList ≠ [] := by decide
    exact absurd hy.symm (hne name hname)
  | cons c y =>
    refine ⟨c, y ++ ['='], rfl, isAlpha_of_toLower ?_⟩
    have hhead := allowed_head name hname
    rwa [← hy] at hhead

/-! ## Where a pattern begins nowhere -/

section

variable {β : Type} {p : Pattern Char β} {name : String}

theorem misses_letters (hname : name ∈ allowedAttr) (hp : ∀ text, p text ≠ none → word (assigns name) text ≠ none) {a b : List Char}
    (ha : a.all (!·.isAlpha) = true) : Misses p a b := by
  refine misses_of_forall (k := fun c => c.isAlpha = true) (fun d text hd => ?_) fun c hc => by simpa using List.all_eq_true.1 ha c hc
  obtain ⟨x, rest, htext, hx⟩ := word_isSome (hp _ hd)
  obtain ⟨c, y, rfl, hc⟩ := head_isAlpha hname hx
  exact (List.cons.inj htext).1 ▸ hc

/-- No name of an attribute is the end of another. -/
theorem misses_name (hname : name ∈ allowedAttr) (hp : ∀ text, p text ≠ none → word (assigns name) text ≠ none) {other : String}
    (hother : other ∈ allowedAttr) (hne : other ≠ name) (b : List Char) : Misses p other.toList ('=' :: b) := by
  intro s _ hs
  by_contra hsome
  obtain ⟨x, rest, htext, hx⟩ := word_isSome (hp _ hsome)
  obtain ⟨y, rfl, hy⟩ := lower_eq_assigns hx
  have hsign : '=' ∉ s := fun hmem => allowed_sign other hother (hs.subset hmem)
  have hsign' : '=' ∉ y := by
    intro hmem
    exact allowed_sign name hname (hy ▸ List.mem_map.2 ⟨'=', hmem, rfl⟩)
  rw [List.append_assoc, List.singleton_append] at htext
  obtain ⟨rfl, -⟩ := cut_inj hsign hsign' htext
  rw [lower_suffix (allowed_lower other hother) hs] at hy
  exact hne (allowed_suffix name hname other hother (hy ▸ hs)).symm

/-- Where the value has nothing for the pattern, there is nothing for it in the attribute. -/
theorem misses_attribute (hname : name ∈ allowedAttr) (hp : ∀ text, p text ≠ none → word (assigns name) text ≠ none) {a : Attribute}
    (hne : a.name ≠ name) {b : List Char} (hvalue : Misses p a.value ('"' :: b)) : Misses p a.text b := by
  have hsigns : Misses p ['=', '"'] ((a.value ++ ['"']) ++ b) := misses_letters hname hp (by decide)
  have hend : Misses p ['"'] b := misses_letters hname hp (by decide)
  have hrest : Misses p (['=', '"'] ++ (a.value ++ ['"'])) b := hsigns.append (hvalue.append hend)
  have hattribute : Misses p (a.name.toList ++ (['=', '"'] ++ (a.value ++ ['"']))) b :=
    (misses_name hname hp a.allowed hne _).append hrest
  have htext : attributeText a.name a.value = a.name.toList ++ (['=', '"'] ++ (a.value ++ ['"'])) := by
    simp [attributeText, assigns]
  change Misses p ([' '] ++ attributeText a.name a.value) b
  rw [htext]
  exact (misses_letters hname hp (by decide)).append hattribute

end

/-- A word without quotation marks that begins in front of one ends before it. -/
theorem word_before_quote {name : String} (hname : name ∈ allowedAttr) {s b rest : List Char}
    (h : word (assigns name) (s ++ '"' :: b) = some ((), rest)) :
    ∃ r, word (assigns name) s = some ((), r) ∧ rest = r ++ '"' :: b := by
  obtain ⟨x, htext, hx⟩ := word_eq_some.1 h
  have hquote : '"' ∉ x := by
    intro hmem
    have hassigns : ∀ name ∈ allowedAttr, '"' ∉ assigns name := by decide
    exact hassigns name hname (hx ▸ List.mem_map.2 ⟨'"', hmem, rfl⟩)
  rcases List.append_eq_append_iff.1 htext with ⟨t, rfl, ht⟩ | ⟨t, rfl, ht⟩
  · cases t with
    | nil => exact ⟨[], word_eq_some.2 ⟨s, by simp, by simpa using hx⟩, ht.symm⟩
    | cons d t =>
      obtain ⟨rfl, -⟩ := List.cons.inj ht
      exact absurd (List.mem_append_right s List.mem_cons_self) hquote
  · exact ⟨t, word_eq_some.2 ⟨x, rfl, hx⟩, ht⟩

theorem misses_mentions {name : String} (hname : name ∈ allowedAttr) {value b : List Char} (h : mentions name value = false) :
    Misses (word (assigns name)) value ('"' :: b) := by
  intro s _ hs
  by_contra hsome
  obtain ⟨⟨⟨⟩, rest⟩, hfound⟩ := Option.ne_none_iff_exists'.1 hsome
  obtain ⟨r, hr, -⟩ := word_before_quote hname hfound
  unfold mentions at h
  rw [List.any_eq_false] at h
  exact h s ((List.mem_tails _ _).2 hs) (by rw [hr]; rfl)

/-- A line break ends the search for the second quotation mark. -/
theorem enclosed_breaks {value : List Char} (h : breaks value = true) (q : Char) (b : List Char) :
    enclosed (q :: (value ++ '"' :: b)) = none := by
  unfold breaks at h
  split at h
  · rename_i c hfind
    obtain ⟨-, before, after, rfl, hbefore⟩ := List.find?_eq_some_iff_append.1 hfind
    have hplain : ∀ d ∈ before, (!isQuote d && !isLineTerminator d) = true := fun d hd => by simpa using hbefore d hd
    have hquote : isQuote c = false := by
      simp only [isLineTerminator, List.contains_iff_mem, List.mem_cons, List.not_mem_nil, or_false] at h
      simp only [isQuote, List.contains_eq_mem, List.mem_cons, List.not_mem_nil, or_false, decide_eq_false_iff_not]
      omega
    rw [enclosed, List.append_assoc, List.cons_append, span_append hplain (by simp [h])]
    simp [hquote]
  · cases h

theorem misses_opens {name : String} (hname : name ∈ allowedAttr) {value b : List Char} {last : Bool}
    (h : opens name value last = false) (hlast : last = true → b = []) : Misses (quoted name) value ('"' :: b) := by
  intro s _ hs
  by_contra hsome
  obtain ⟨⟨⟨⟩, rest⟩, hfound⟩ := Option.ne_none_iff_exists'.1 (quoted_word hsome)
  obtain ⟨r, hr, hrest⟩ := word_before_quote hname hfound
  unfold opens at h
  rw [List.any_eq_false] at h
  have hopen := h s ((List.mem_tails _ _).2 hs)
  rw [hr] at hopen
  refine hsome ?_
  rw [quoted, hfound, Option.bind_some, hrest]
  cases r with
  | nil =>
    rw [hlast (by simpa using hopen)]
    rfl
  | cons q r =>
    cases hq : isQuote q with
    | false =>
      change enclosed (q :: (r ++ '"' :: b)) = none
      rw [enclosed, hq]
      rfl
    | true => exact enclosed_breaks (by simpa [hq] using hopen) q b

/-! ## Where a pattern finds its attribute -/

/-- Neither a quotation mark nor a line break. -/
def plain (value : List Char) : Bool := value.all fun c => !isQuote c && !isLineTerminator c

theorem word_attribute {name : String} (hname : name ∈ allowedAttr) (value b : List Char) :
    word (assigns name) (attributeText name value ++ b) = some ((), '"' :: (value ++ ['"'] ++ b)) := by
  refine word_eq_some.2 ⟨assigns name, by simp [attributeText], lower_assigns hname⟩

theorem enclosed_plain {value b : List Char} (h : plain value = true) : enclosed ('"' :: (value ++ '"' :: b)) = some (value, b) := by
  have hspan := span_append (x := '"') (p := fun c => !isQuote c && !isLineTerminator c) (List.all_eq_true.1 h) (by decide) b
  rw [enclosed, hspan]
  rfl

theorem quoted_attribute {name : String} (hname : name ∈ allowedAttr) {value : List Char} (h : plain value = true) (b : List Char) :
    quoted name (attributeText name value ++ b) = some (value, b) := by
  rw [quoted, word_attribute hname, Option.bind_some, List.append_assoc, List.singleton_append, enclosed_plain h]

/-- A value is found up to its first quotation mark, if no line break comes before. -/
theorem quoted_prefix {name : String} (hname : name ∈ allowedAttr) {value : List Char} (h : breaks value = false) (b : List Char) :
    ∃ group after rest, quoted name (attributeText name value ++ b) = some (group, after) ∧ value = group ++ rest ∧
      ∀ c ∈ rest.head?, isQuote c = true := by
  rw [quoted, word_attribute hname, Option.bind_some, List.append_assoc, List.singleton_append]
  unfold breaks at h
  split at h
  · rename_i c hfind
    obtain ⟨hc, group, rest, rfl, hgroup⟩ := List.find?_eq_some_iff_append.1 hfind
    have hplain : ∀ d ∈ group, (!isQuote d && !isLineTerminator d) = true := fun d hd => by simpa using hgroup d hd
    have hquote : isQuote c = true := by simpa [h] using hc
    have hstop : (!isQuote c && !isLineTerminator c) = false := by rw [hquote]; rfl
    refine ⟨group, rest ++ '"' :: b, c :: rest, ?_, rfl, by simpa using hquote⟩
    rw [enclosed, List.append_assoc, List.cons_append, span_append hplain hstop]
    simp [hquote]
    decide
  · rename_i hfind
    have hplain : plain value = true := List.all_eq_true.2 fun c hc => by simpa using List.find?_eq_none.1 hfind c hc
    exact ⟨value, b, [], enclosed_plain hplain, (List.append_nil _).symm, by simp⟩

/-! ## One attribute -/

/-- In place of the attribute of that name, or at the end. -/
def setAttribute (new : Attribute) : List Attribute → List Attribute
  | [] => [new]
  | a :: rest => if a.name = new.name then new :: rest else a :: setAttribute new rest

/-- The name is no attribute's, and in no value. -/
def Absent (name : String) (attributes : List Attribute) : Prop := ∀ a ∈ attributes, a.name ≠ name ∧ mentions name a.value = false

/-- There is an attribute of that name, and the values before it do not look like it. -/
def Present (name : String) : List Attribute → Prop
  | [] => False
  | a :: rest => a.name = name ∧ plain a.value = true ∨ a.name ≠ name ∧ opens name a.value false = false ∧ Present name rest

theorem attributesText_cons (a : Attribute) (rest : List Attribute) : attributesText (a :: rest) = a.text ++ attributesText rest :=
  List.flatMap_cons

section

variable {new : Attribute}

theorem search_mentions_none {attributes : List Attribute} (h : Absent new.name attributes) :
    search (word (assigns new.name)) (attributesText attributes) = none := by
  refine search_miss ?_ ?_
  · induction attributes with
    | nil => exact misses_nil
    | cons a rest ih =>
      obtain ⟨ha, hrest⟩ := List.forall_mem_cons.1 h
      rw [attributesText_cons]
      exact (misses_attribute new.allowed (fun _ hw => hw) ha.1 (misses_mentions new.allowed ha.2)).append (ih hrest)
  · unfold word
    refine if_neg ?_
    rw [List.take_nil]
    intro hnil
    exact absurd (congrArg List.length hnil) (by simp [lower, assigns])

theorem setAttribute_absent {attributes : List Attribute} (h : Absent new.name attributes) : setAttribute new attributes = attributes ++ [new] := by
  induction attributes with
  | nil => rfl
  | cons a rest ih =>
    obtain ⟨ha, hrest⟩ := List.forall_mem_cons.1 h
    rw [setAttribute, if_neg ha.1, ih hrest]
    rfl

/-- The first text that looks like the attribute is the attribute. -/
theorem search_present {attributes : List Attribute} (h : Present new.name attributes) :
    ∃ before group after, search (quoted new.name) (attributesText attributes) = some (before, group, after) ∧
      (search (word (assigns new.name)) (attributesText attributes)).isSome = true ∧
      before ++ (attributeText new.name new.value ++ after) = attributesText (setAttribute new attributes) := by
  induction attributes with
  | nil => exact h.elim
  | cons a rest ih =>
    rw [attributesText_cons]
    rcases h with ⟨ha, hplain⟩ | ⟨ha, hopens, hrest⟩
    · have htext : a.text ++ attributesText rest = [' '] ++ (attributeText new.name a.value ++ attributesText rest) := by
        rw [Attribute.text, ha]
        rfl
      have hblank : ∀ {β : Type} {p : Pattern Char β} (_ : ∀ text, p text ≠ none → word (assigns new.name) text ≠ none) (b : List Char),
          Misses p [' '] b := fun hp _ => misses_letters new.allowed hp (by decide)
      have hquoted := search_hit (hblank (fun _ => quoted_word) _) (quoted_attribute new.allowed hplain (attributesText rest))
      have hword := search_hit (hblank (fun _ hw => hw) _) (word_attribute new.allowed a.value (attributesText rest))
      rw [← htext] at hquoted hword
      refine ⟨[' '], a.value, attributesText rest, hquoted, by rw [hword]; rfl, ?_⟩
      rw [setAttribute, if_pos ha, attributesText_cons]
      rfl
    · obtain ⟨before, group, after, hsearch, hsome, hset⟩ := ih hrest
      have hmiss := misses_attribute (b := attributesText rest) new.allowed (fun _ => quoted_word) ha (misses_opens new.allowed hopens (by simp))
      refine ⟨a.text ++ before, group, after, ?_, ?_, ?_⟩
      · rw [search_append hmiss, hsearch]
        rfl
      · exact search_isSome_append a.text hsome
      · rw [setAttribute, if_neg ha, attributesText_cons, ← hset, List.append_assoc]

variable (new) in
theorem forceAttribute_eq {attributes : List Attribute} (h : Absent new.name attributes ∨ Present new.name attributes) :
    forceAttribute new.name new.value (attributesText attributes) = attributesText (setAttribute new attributes) := by
  unfold forceAttribute
  rcases h with h | h
  · rw [search_mentions_none h, setAttribute_absent h, attributesText, attributesText, List.flatMap_append, List.flatMap_singleton]
    rfl
  · obtain ⟨before, group, after, hsearch, hsome, hset⟩ := search_present h
    have hnone : (search (word (assigns new.name)) (attributesText attributes)).isNone = false := by
      rw [← Option.not_isSome, hsome]
      rfl
    rw [hnone, if_neg Bool.false_ne_true, hsearch]
    exact hset

end

/-! ## The address of a link -/

/-- What `trim` leaves of a text begins with what the text begins with behind its white space. -/
theorem trim_append {blank x : List Char} (hblank : ∀ c ∈ blank, isSpace c = true) (hhead : ∀ c ∈ x.head?, isSpace c = false)
    (hlast : ∀ c ∈ x.getLast?, isSpace c = false) (hne : x ≠ []) (t : List Char) : ∃ t', trim (blank ++ (x ++ t)) = x ++ t' := by
  have hdrop : (blank ++ (x ++ t)).dropWhile isSpace = x ++ t := by
    rw [List.dropWhile_append_of_pos hblank]
    cases x with
    | nil => exact absurd rfl hne
    | cons c x => simp [hhead c rfl]
  have hreverse : x.reverse.dropWhile isSpace = x.reverse := by
    rw [List.getLast?_eq_head?_reverse] at hlast
    cases hx : x.reverse with
    | nil => rfl
    | cons c y =>
      rw [hx] at hlast
      simp [hlast c rfl]
  rw [trim, hdrop, List.reverse_append, List.dropWhile_append, hreverse]
  split
  · exact ⟨[], by rw [List.reverse_reverse, List.append_nil]⟩
  · exact ⟨(t.reverse.dropWhile isSpace).reverse, by rw [List.reverse_append, List.reverse_reverse]⟩

theorem trim_prefix (text : List Char) : ∃ blank t, text = blank ++ (trim text ++ t) ∧ ∀ c ∈ blank, isSpace c = true := by
  have hsuffix := List.dropWhile_suffix isSpace (l := (text.dropWhile isSpace).reverse)
  obtain ⟨t, ht⟩ := hsuffix
  refine ⟨text.takeWhile isSpace, t.reverse, ?_, fun c hc => List.mem_takeWhile_imp hc⟩
  have htrim : trim text ++ t.reverse = text.dropWhile isSpace := by
    rw [trim, ← List.reverse_append, ht, List.reverse_reverse]
  rw [htrim, List.takeWhile_append_dropWhile]

def schemes : List (List Char) := ["http://".toList, "https://".toList]

/-- Behind white space, in any case. -/
def BeginsWithHttp (url : List Char) : Prop :=
  ∃ blank x t, url = blank ++ (x ++ t) ∧ (∀ c ∈ blank, isSpace c = true) ∧ lower x ∈ schemes

theorem toLower_eq {c : Char} (h : c.isUpper = false) : c.toLower = c := by
  unfold Char.toLower
  split
  · rename_i hupper
    have hc : c.isUpper = true := decide_eq_true hupper
    rw [hc] at h
    cases h
  · rfl

/-- Neither white space nor a quotation mark is a letter. -/
theorem isUpper_mark {c : Char} (h : isSpace c = true ∨ isQuote c = true) : c.isUpper = false := by
  rw [Char.isUpper, decide_eq_false_iff_not]
  rintro ⟨hlow, hhigh⟩
  have hlow : 65 ≤ c.toNat := UInt32.le_iff_toNat_le.1 hlow
  have hhigh : c.toNat ≤ 90 := UInt32.le_iff_toNat_le.1 hhigh
  simp only [isSpace, isQuote, Bool.or_eq_true, Bool.and_eq_true, decide_eq_true_eq, List.contains_iff_mem, List.mem_cons,
    List.not_mem_nil, or_false] at h
  omega

theorem isSpace_quote {c : Char} (h : isQuote c = true) : isSpace c = false := by
  simp only [isQuote, List.contains_iff_mem, List.mem_cons, List.not_mem_nil, or_false] at h
  unfold isSpace
  rcases h with h | h
  · rw [h]
    decide
  · rw [h]
    decide

theorem scheme_plain {x : List Char} (h : lower x ∈ schemes) : ∀ c ∈ x, isSpace c = false ∧ isQuote c = false := by
  intro c hc
  have hall : ∀ scheme ∈ schemes, scheme.all (fun c => !isSpace c && !isQuote c) = true := by decide
  have hlower := List.all_eq_true.1 (hall _ h) c.toLower (List.mem_map.2 ⟨c, hc, rfl⟩)
  simp only [Bool.and_eq_true, Bool.not_eq_true'] at hlower
  constructor
  · by_contra hspace
    rw [Bool.not_eq_false] at hspace
    rw [toLower_eq (isUpper_mark (Or.inl hspace)), hspace] at hlower
    exact absurd hlower.1 (by decide)
  · by_contra hquote
    rw [Bool.not_eq_false] at hquote
    rw [toLower_eq (isUpper_mark (Or.inr hquote)), hquote] at hlower
    exact absurd hlower.2 (by decide)

theorem scheme_ne_nil {x : List Char} (h : lower x ∈ schemes) : x ≠ [] := by
  rintro rfl
  exact absurd h (by decide)

theorem trim_scheme {blank x : List Char} (hblank : ∀ c ∈ blank, isSpace c = true) (hx : lower x ∈ schemes) (t : List Char) :
    ∃ t', trim (blank ++ (x ++ t)) = x ++ t' :=
  trim_append hblank (fun c hc => (scheme_plain hx c (List.mem_of_mem_head? hc)).1)
    (fun c hc => (scheme_plain hx c (List.mem_of_getLast? hc)).1) (scheme_ne_nil hx) t

/-- The schemes that are refused are none of these two. -/
theorem isSafeUrl_iff (url : List Char) : isSafeUrl url = true ↔ BeginsWithHttp url := by
  constructor
  · intro h
    have hscheme : ∃ scheme ∈ schemes, scheme <+: lower (trim url) := by
      simp only [isSafeUrl] at h
      split at h
      · cases h
      · split at h
        · cases h
        · rcases Bool.or_eq_true _ _ ▸ h with h | h
          · exact ⟨_, List.mem_cons_self, List.isPrefixOf_iff_prefix.1 h⟩
          · exact ⟨_, List.mem_cons_of_mem _ List.mem_cons_self, List.isPrefixOf_iff_prefix.1 h⟩
    obtain ⟨scheme, hmem, r, hr⟩ := hscheme
    obtain ⟨x, y, hxy, hx, -⟩ := List.map_eq_append_iff.1 hr.symm
    obtain ⟨blank, t, hurl, hblank⟩ := trim_prefix url
    refine ⟨blank, x, y ++ t, ?_, hblank, ?_⟩
    · rw [hurl, hxy, List.append_assoc]
    · exact (show lower x = scheme from hx) ▸ hmem
  · rintro ⟨blank, x, t, rfl, hblank, hx⟩
    obtain ⟨t', ht⟩ := trim_scheme hblank hx t
    have hne : blank ++ (x ++ t) ≠ [] := by simp [scheme_ne_nil hx]
    simp only [isSafeUrl]
    rw [if_neg hne, ht, lower_append]
    rcases List.mem_cons.1 hx with hx | hx
    · rw [hx]
      rfl
    · rw [List.mem_singleton.1 hx]
      rfl

/-- An address that is cut at its first quotation mark begins as it did. -/
theorem isSafeUrl_cut {group rest : List Char} (h : isSafeUrl (group ++ rest) = true) (hrest : ∀ c ∈ rest.head?, isQuote c = true) :
    isSafeUrl (trim group) = true := by
  rw [isSafeUrl_iff] at h ⊢
  obtain ⟨blank, x, t, hurl, hblank, hx⟩ := h
  have hquote : ∀ c ∈ blank ++ x, isQuote c = false := by
    intro c hc
    rcases List.mem_append.1 hc with hc | hc
    · by_contra hnot
      have hspace := hblank c hc
      rw [isSpace_quote (Bool.not_eq_false _ ▸ hnot)] at hspace
      cases hspace
    · exact (scheme_plain hx c hc).2
  have hgroup : ∃ u, group = blank ++ (x ++ u) := by
    rw [← List.append_assoc] at hurl
    rcases List.append_eq_append_iff.1 hurl with ⟨u, hu, hr⟩ | ⟨u, hu, -⟩
    · cases u with
      | nil => exact ⟨[], by rw [List.append_nil, hu, List.append_nil]⟩
      | cons c u =>
        have hc := hrest c (by rw [hr]; rfl)
        rw [hquote c (hu ▸ List.mem_append_right group List.mem_cons_self)] at hc
        cases hc
    · exact ⟨u, by rw [hu, List.append_assoc]⟩
  obtain ⟨u, rfl⟩ := hgroup
  obtain ⟨t', ht⟩ := trim_scheme hblank hx u
  rw [ht]
  exact ⟨[], x, t', rfl, fun c hc => (List.not_mem_nil hc).elim, hx⟩

theorem isSafeUrl_of_trim {url : List Char} (h : isSafeUrl (trim url) = true) : isSafeUrl url = true := by
  rw [isSafeUrl_iff] at h ⊢
  obtain ⟨blank, x, t, htrim, hblank, hx⟩ := h
  obtain ⟨blank', t', hurl, hblank'⟩ := trim_prefix url
  refine ⟨blank' ++ blank, x, t ++ t', ?_, fun c hc => (List.mem_append.1 hc).elim (hblank' c) (hblank c), hx⟩
  rw [hurl, htrim]
  simp only [List.append_assoc]

/-! ## The attributes of a link -/

theorem href_allowed : "href" ∈ allowedAttr := by decide

def noHref : Attribute := ⟨"href", ['#'], href_allowed, by decide⟩

def blankTarget : Attribute := ⟨"target", "_blank".toList, by decide, by decide⟩

def noOpener : Attribute := ⟨"rel", "noopener noreferrer".toList, by decide, by decide⟩

/-- An address that is not safe is replaced. -/
def secureHref : List Attribute → List Attribute
  | [] => []
  | a :: rest => if a.name = "href" then (if isSafeUrl a.value then a else noHref) :: rest else a :: secureHref rest

/-- The pattern finds the address and nothing before it, and the address is safe or has no quotation mark; or it finds
nothing, and the address, if there is one, is safe. -/
def HrefClear : List Attribute → Prop
  | [] => True
  | a :: rest =>
    if a.name = "href" ∧ breaks a.value = false then isSafeUrl a.value = true ∨ plain a.value = true
    else (a.name = "href" → isSafeUrl a.value = true) ∧ opens "href" a.value rest.isEmpty = false ∧ HrefClear rest

theorem misses_blank {β : Type} {p : Pattern Char β} {name : String} (hname : name ∈ allowedAttr)
    (hp : ∀ text, p text ≠ none → word (assigns name) text ≠ none) (b : List Char) : Misses p [' '] b :=
  misses_letters hname hp (by decide)

theorem quoted_href_head {c : Char} {text : List Char} (h : quoted "href" (c :: text) ≠ none) : c.toLower = 'h' := by
  obtain ⟨x, rest, htext, hx⟩ := word_isSome (quoted_word h)
  cases x with
  | nil => exact absurd hx (by decide)
  | cons d x =>
    obtain ⟨rfl, -⟩ := List.cons.inj htext
    exact (List.cons.inj hx).1

/-- An address with a line break before its first quotation mark is not found. -/
theorem misses_address {a : Attribute} (hname : a.name = "href") (hbreaks : breaks a.value = true) {b : List Char}
    (hvalue : Misses (quoted "href") a.value ('"' :: b)) : Misses (quoted "href") a.text b := by
  have hhead : quoted "href" (attributeText "href" a.value ++ b) = none := by
    rw [quoted, word_attribute href_allowed, Option.bind_some, List.append_assoc, List.singleton_append, enclosed_breaks hbreaks]
  have hletters : Misses (quoted "href") ['r', 'e', 'f', '=', '"'] ((a.value ++ ['"']) ++ b) :=
    misses_of_forall (k := fun c => c.toLower = 'h') (fun _ _ => quoted_href_head) (by simp)
  have hend : Misses (quoted "href") ['"'] b := misses_letters href_allowed (fun _ => quoted_word) (by decide)
  have htext : a.text = [' '] ++ 'h' :: (['r', 'e', 'f', '=', '"'] ++ (a.value ++ ['"'])) := by
    rw [Attribute.text, hname]
    rfl
  rw [htext]
  refine (misses_blank href_allowed (fun _ => quoted_word) _).append (misses_cons ?_ (hletters.append (hvalue.append hend)))
  rwa [List.append_assoc]

/-- What is before the first place where an address is found stays. -/
theorem checkHref_append {a b : List Char} (h : Misses (quoted "href") a b) : checkHref (a ++ b) = a ++ checkHref b := by
  unfold checkHref
  rw [search_append h]
  cases search (quoted "href") b with
  | none => rfl
  | some found =>
    change (if isSafeUrl (trim found.2.1) then _ else _) = a ++ (if isSafeUrl (trim found.2.1) then _ else _)
    split
    · rfl
    · exact List.append_assoc ..

theorem secureHref_absent {attributes : List Attribute} (h : ∀ a ∈ attributes, a.name ≠ "href") : secureHref attributes = attributes := by
  induction attributes with
  | nil => rfl
  | cons a rest ih =>
    obtain ⟨ha, hrest⟩ := List.forall_mem_cons.1 h
    rw [secureHref, if_neg ha, ih hrest]

theorem distinct_cons {a : Attribute} {rest : List Attribute} : Distinct (a :: rest) ↔ (∀ b ∈ rest, b.name ≠ a.name) ∧ Distinct rest := by
  simp [Distinct, eq_comm]

/-- The address is the first thing that is found. -/
theorem checkHref_address {a : Attribute} {b : List Char} (hname : a.name = "href") (hbreaks : breaks a.value = false)
    (h : isSafeUrl a.value = true ∨ plain a.value = true) :
    checkHref (a.text ++ b) = (if isSafeUrl a.value then a else noHref).text ++ b := by
  have htext : a.text ++ b = [' '] ++ (attributeText "href" a.value ++ b) := by
    rw [Attribute.text, hname]
    rfl
  have hblank : Misses (quoted "href") [' '] (attributeText "href" a.value ++ b) :=
    misses_blank href_allowed (fun _ => quoted_word) _
  rw [htext, checkHref_append hblank]
  cases hsafe : isSafeUrl a.value with
  | true =>
    obtain ⟨group, after, tail, hquoted, hvalue, hhead⟩ := quoted_prefix href_allowed hbreaks b
    have hgroup : isSafeUrl (trim group) = true := isSafeUrl_cut (hvalue ▸ hsafe) hhead
    change _ = a.text ++ b
    rw [checkHref, search_here hquoted, htext]
    exact congrArg ([' '] ++ ·) (if_pos hgroup)
  | false =>
    have hplain : plain a.value = true := h.resolve_left (by simp [hsafe])
    have hgroup : isSafeUrl (trim a.value) = false := by
      by_contra htrue
      rw [isSafeUrl_of_trim (Bool.not_eq_false _ ▸ htrue)] at hsafe
      cases hsafe
    change _ = noHref.text ++ b
    rw [checkHref, search_here (quoted_attribute href_allowed hplain b)]
    simp only [hgroup, Bool.false_eq_true, if_false, List.nil_append]
    rfl

theorem checkHref_eq {attributes : List Attribute} (hdistinct : Distinct attributes) (h : HrefClear attributes) :
    checkHref (attributesText attributes) = attributesText (secureHref attributes) := by
  induction attributes with
  | nil => rfl
  | cons a rest ih =>
    obtain ⟨ha, hrest⟩ := distinct_cons.1 hdistinct
    rw [attributesText_cons]
    by_cases hfound : a.name = "href" ∧ breaks a.value = false
    · rw [HrefClear, if_pos hfound] at h
      rw [checkHref_address hfound.1 hfound.2 h, secureHref, if_pos hfound.1, attributesText_cons]
    · rw [HrefClear, if_neg hfound] at h
      obtain ⟨hsafe, hopens, hclear⟩ := h
      have hvalue : Misses (quoted "href") a.value ('"' :: attributesText rest) :=
        misses_opens href_allowed hopens fun hlast => by rw [List.isEmpty_iff.1 hlast]; rfl
      by_cases hname : a.name = "href"
      · have hbreaks : breaks a.value = true := by simpa [hname] using hfound
        have hsame : secureHref rest = rest := secureHref_absent fun b hb => hname ▸ ha b hb
        rw [checkHref_append (misses_address hname hbreaks hvalue), ih hrest hclear, hsame, secureHref, if_pos hname,
          if_pos (hsafe hname), attributesText_cons]
      · rw [checkHref_append (misses_attribute href_allowed (fun _ => quoted_word) hname hvalue), ih hrest hclear, secureHref,
          if_neg hname, attributesText_cons]

end Boxplot.Security
