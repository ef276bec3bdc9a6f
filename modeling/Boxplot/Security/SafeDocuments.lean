import Boxplot.Security.SafeLinks
/-!
# Safe links in a document

`forceSafeLinks` over a whole document as the sanitiser writes it. In a document
where the patterns find what they are meant for, every link that leads somewhere
opens in a new window without a handle on this one, and everything else is as it
was. A value that looks like an attribute, or like the end of a tag, is enough
for a link that keeps its target.
-/

namespace Boxplot.Security

open Lib

/-! ## What is asked of a link -/

/-- The attributes of a link before and after; what leads nowhere stays as it is. -/
structure SafeLink (attributes attributes' : List Attribute) : Prop where
  target : (∃ a ∈ attributes', a.name = "href") → attributes'.filter (·.name = "target") = [blankTarget]
  rel : (∃ a ∈ attributes', a.name = "href") → attributes'.filter (·.name = "rel") = [noOpener]
  safe : ∀ a ∈ attributes', a.name = "href" → a.value = ['#'] ∨ BeginsWithHttp a.value
  addresses : attributes'.filter (·.name = "href") = (attributes.filter (·.name = "href")).map fun a => if isSafeUrl a.value then a else noHref
  others : attributes'.filter (·.name ∉ ["href", "target", "rel"]) = attributes.filter (·.name ∉ ["href", "target", "rel"])
  bare : (∀ a ∈ attributes, a.name ≠ "href") → attributes' = attributes

/-- A piece of the document before and after. -/
inductive Secured : Token → Token → Prop
  | link {attributes attributes' : List Attribute} {allowed allowed' distinct distinct'} (safe : SafeLink attributes attributes') :
      Secured (.start "a" attributes allowed distinct) (.start "a" attributes' allowed' distinct')
  | tag {name : String} {attributes : List Attribute} {allowed distinct} (other : name ≠ "a") :
      Secured (.start name attributes allowed distinct) (.start name attributes allowed distinct)
  | text {content : List Char} {written} : Secured (.text content written) (.text content written)
  | close {name : String} {allowed} : Secured (.close name allowed) (.close name allowed)

/-- `forceSafeLinks` does to the document what it is there for. -/
def Completes (document : List Token) : Prop :=
  ∃ document', forceSafeLinks (serialize document) = serialize document' ∧ List.Forall₂ Secured document document'

/-! ## Where the patterns find what they are meant for -/

/-- It is no address, or one that is not replaced. -/
def Attribute.stays (a : Attribute) : Bool := a.name ≠ "href" || isSafeUrl a.value

/-- In a link no value ends the tag, and every pattern finds its own attribute before anything that looks like it,
or finds nothing where there is none. A value that has been replaced by then does not count. A link that leads nowhere
has nothing to add to. -/
structure Clear (attributes : List Attribute) : Prop where
  tag : ∀ a ∈ attributes, '>' ∉ a.value
  href : HrefClear attributes
  target : Absent "target" (attributes.filter Attribute.stays) ∨ Present "target" (attributes.filter Attribute.stays)
  rel : Absent "rel" ((attributes.filter (·.name ≠ "target")).filter Attribute.stays) ∨
    Present "rel" ((attributes.filter (·.name ≠ "target")).filter Attribute.stays)
  bare : (∃ a ∈ attributes, a.name = "href") ∨ attributes = [] ∨ blankTarget ∈ attributes ∧ noOpener ∈ attributes

/-- Outside a link no value looks like the beginning of one. -/
def Token.Unambiguous : Token → Prop
  | .start name attributes _ _ => if name = "a" then Clear attributes else ∀ a ∈ attributes, mentionsAnchor a.value = false
  | _ => True

instance decidablePresent (name : String) : (attributes : List Attribute) → Decidable (Present name attributes)
  | [] => inferInstanceAs (Decidable False)
  | _ :: rest =>
    have := decidablePresent name rest
    inferInstanceAs (Decidable (_ ∧ _ ∨ _ ∧ _ ∧ _))

instance decidableHrefClear : (attributes : List Attribute) → Decidable (HrefClear attributes)
  | [] => inferInstanceAs (Decidable True)
  | _ :: rest =>
    have := decidableHrefClear rest
    inferInstanceAs (Decidable (if _ ∧ _ then _ ∨ _ else _ ∧ _ ∧ _))

instance (name : String) (attributes : List Attribute) : Decidable (Absent name attributes) :=
  inferInstanceAs (Decidable (∀ a ∈ attributes, a.name ≠ name ∧ mentions name a.value = false))

instance : DecidableEq Attribute := fun a b =>
  decidable_of_iff (a.name = b.name ∧ a.value = b.value) ⟨fun ⟨hname, hvalue⟩ => by
    cases a
    cases b
    cases hname
    cases hvalue
    rfl, fun h => h ▸ ⟨rfl, rfl⟩⟩

instance (attributes : List Attribute) : Decidable (Clear attributes) :=
  decidable_of_iff (_ ∧ _ ∧ _ ∧ _ ∧ _) ⟨fun ⟨tag, href, target, rel, bare⟩ => ⟨tag, href, target, rel, bare⟩,
    fun h => ⟨h.tag, h.href, h.target, h.rel, h.bare⟩⟩

instance : DecidablePred Token.Unambiguous
  | .start name attributes _ _ => inferInstanceAs (Decidable (if name = "a" then Clear attributes else ∀ a ∈ attributes, mentionsAnchor a.value = false))
  | .text .. | .close .. => inferInstanceAs (Decidable True)

/-! ## The attributes that are written -/

section

variable {name : String} {new : Attribute} {attributes : List Attribute}

theorem Distinct.filter (h : Distinct attributes) (p : Attribute → Bool) : Distinct (attributes.filter p) :=
  h.sublist (List.filter_sublist.map _)

theorem names_secureHref (attributes : List Attribute) : (secureHref attributes).map (·.name) = attributes.map (·.name) := by
  induction attributes with
  | nil => rfl
  | cons a rest ih =>
    rw [secureHref]
    split
    · rename_i ha
      split
      · rfl
      · rw [List.map_cons, List.map_cons, ha]
        rfl
    · rw [List.map_cons, ih, List.map_cons]

theorem distinct_secureHref (h : Distinct attributes) : Distinct (secureHref attributes) := by
  unfold Distinct
  rw [names_secureHref]
  exact h

theorem mem_setAttribute {b : Attribute} (h : b ∈ setAttribute new attributes) : b = new ∨ b ∈ attributes := by
  induction attributes with
  | nil => exact Or.inl (List.mem_singleton.1 h)
  | cons a rest ih =>
    rw [setAttribute] at h
    split at h
    · exact (List.mem_cons.1 h).imp_right (List.mem_cons_of_mem a)
    · rcases List.mem_cons.1 h with rfl | h
      · exact Or.inr List.mem_cons_self
      · exact (ih h).imp_right (List.mem_cons_of_mem a)

variable (new) in
theorem distinct_setAttribute (h : Distinct attributes) : Distinct (setAttribute new attributes) := by
  induction attributes with
  | nil => simp [setAttribute, Distinct]
  | cons a rest ih =>
    obtain ⟨ha, hrest⟩ := distinct_cons.1 h
    rw [setAttribute]
    split
    · rename_i hname
      exact distinct_cons.2 ⟨fun b hb => hname ▸ ha b hb, hrest⟩
    · rename_i hname
      refine distinct_cons.2 ⟨fun b hb => ?_, ih hrest⟩
      rcases mem_setAttribute hb with rfl | hb
      · exact fun h => hname h.symm
      · exact ha b hb

variable (new) in
/-- Attributes of other names are as they were. -/
theorem filter_setAttribute {p : Attribute → Bool} (hp : ∀ a : Attribute, a.name = new.name → p a = false) :
    (setAttribute new attributes).filter p = attributes.filter p := by
  induction attributes with
  | nil => simp [setAttribute, hp new rfl]
  | cons a rest ih =>
    rw [setAttribute]
    split
    · rename_i hname
      rw [List.filter_cons_of_neg (by simp [hp new rfl]), List.filter_cons_of_neg (by simp [hp a hname])]
    · rw [List.filter_cons, ih, List.filter_cons]

variable (new) in
theorem filter_setAttribute_self (h : Distinct attributes) : (setAttribute new attributes).filter (·.name = new.name) = [new] := by
  induction attributes with
  | nil => simp [setAttribute]
  | cons a rest ih =>
    obtain ⟨ha, hrest⟩ := distinct_cons.1 h
    rw [setAttribute]
    split
    · rename_i hname
      have hnone : rest.filter (·.name = new.name) = [] := by
        rw [List.filter_eq_nil_iff]
        intro b hb
        simpa [hname] using ha b hb
      rw [List.filter_cons_of_pos (by simp), hnone]
    · rename_i hname
      rw [List.filter_cons_of_neg (by simp [hname]), ih hrest]

theorem filter_secureHref {p : Attribute → Bool} (hp : ∀ a : Attribute, a.name = "href" → p a = false) :
    (secureHref attributes).filter p = attributes.filter p := by
  induction attributes with
  | nil => rfl
  | cons a rest ih =>
    rw [secureHref]
    split
    · rename_i hname
      have hnew : p (if isSafeUrl a.value then a else noHref) = false := by
        split
        · exact hp a hname
        · exact hp noHref rfl
      rw [List.filter_cons_of_neg (by simp [hnew]), List.filter_cons_of_neg (by simp [hp a hname])]
    · rw [List.filter_cons, ih, List.filter_cons]

theorem addresses_secureHref (h : Distinct attributes) : (secureHref attributes).filter (·.name = "href") =
    (attributes.filter (·.name = "href")).map fun a => if isSafeUrl a.value then a else noHref := by
  induction attributes with
  | nil => rfl
  | cons a rest ih =>
    obtain ⟨ha, hrest⟩ := distinct_cons.1 h
    rw [secureHref]
    split
    · rename_i hname
      have hnone : rest.filter (·.name = "href") = [] := by
        rw [List.filter_eq_nil_iff]
        intro b hb
        simpa [hname] using ha b hb
      have hnew : (if isSafeUrl a.value then a else noHref).name = "href" := by
        split
        · exact hname
        · rfl
      rw [List.filter_cons_of_pos (by simp [hnew]), List.filter_cons_of_pos (by simp [hname]), hnone]
      rfl
    · rename_i hname
      rw [List.filter_cons_of_neg (by simp [hname]), List.filter_cons_of_neg (by simp [hname]), ih hrest]

/-- An attribute that is there already is put in its own place. -/
theorem setAttribute_mem (h : Distinct attributes) (hmem : new ∈ attributes) : setAttribute new attributes = attributes := by
  induction attributes with
  | nil => exact absurd hmem List.not_mem_nil
  | cons a rest ih =>
    obtain ⟨ha, hrest⟩ := distinct_cons.1 h
    rw [setAttribute]
    rcases List.mem_cons.1 hmem with rfl | hmem
    · exact if_pos rfl
    · rw [if_neg (ha new hmem).symm, ih hrest hmem]

/-! ## What is replaced no longer counts -/

theorem filter_stays_of_href {a : Attribute} (h : ∀ b ∈ attributes, b.name ≠ a.name) (hhref : a.name = "href") :
    attributes.filter Attribute.stays = attributes := by
  rw [List.filter_eq_self]
  intro b hb
  simp [Attribute.stays, hhref ▸ h b hb]

theorem keeps_secureHref {P : List Attribute → Prop} (hnew : ∀ l, P l → P (noHref :: l))
    (hcons : ∀ a l l', (P l → P l') → P (a :: l) → P (a :: l')) (hdistinct : Distinct attributes)
    (h : P (attributes.filter Attribute.stays)) : P (secureHref attributes) := by
  induction attributes with
  | nil => exact h
  | cons a rest ih =>
    obtain ⟨ha, hrest⟩ := distinct_cons.1 hdistinct
    rw [secureHref]
    by_cases hhref : a.name = "href"
    · rw [if_pos hhref]
      by_cases hsafe : isSafeUrl a.value = true
      · rw [List.filter_cons_of_pos (by simp [Attribute.stays, hsafe]), filter_stays_of_href ha hhref] at h
        rwa [if_pos hsafe]
      · rw [List.filter_cons_of_neg (by simp [Attribute.stays, hhref, hsafe]), filter_stays_of_href ha hhref] at h
        rw [if_neg hsafe]
        exact hnew rest h
    · rw [List.filter_cons_of_pos (by simp [Attribute.stays, hhref])] at h
      rw [if_neg hhref]
      exact hcons a _ _ (ih hrest) h

theorem keeps_setAttribute {P : List Attribute → Prop} (hnew : ∀ l, P l → P (new :: l))
    (hcons : ∀ a l l', (P l → P l') → P (a :: l) → P (a :: l')) (hdistinct : Distinct attributes)
    (h : P (attributes.filter (·.name ≠ new.name))) : P (setAttribute new attributes) := by
  induction attributes with
  | nil => exact hnew [] h
  | cons a rest ih =>
    obtain ⟨ha, hrest⟩ := distinct_cons.1 hdistinct
    rw [setAttribute]
    by_cases hname : a.name = new.name
    · have hsame : rest.filter (·.name ≠ new.name) = rest := List.filter_eq_self.2 fun b hb => by simpa using hname ▸ ha b hb
      rw [List.filter_cons_of_neg (by simp [hname]), hsame] at h
      rw [if_pos hname]
      exact hnew rest h
    · rw [List.filter_cons_of_pos (by simp [hname])] at h
      rw [if_neg hname]
      exact hcons a _ _ (ih hrest) h

theorem absent_cons {a : Attribute} {rest : List Attribute} :
    Absent name (a :: rest) ↔ (a.name ≠ name ∧ mentions name a.value = false) ∧ Absent name rest := List.forall_mem_cons

theorem absent_or_present_secureHref (hname : name ≠ "href") (hmentions : mentions name noHref.value = false)
    (hopens : opens name noHref.value false = false) (hdistinct : Distinct attributes)
    (h : Absent name (attributes.filter Attribute.stays) ∨ Present name (attributes.filter Attribute.stays)) :
    Absent name (secureHref attributes) ∨ Present name (secureHref attributes) := by
  refine h.imp (keeps_secureHref (fun _ hl => ?_) (fun _ _ _ himp => ?_) hdistinct)
    (keeps_secureHref (fun _ hl => ?_) (fun _ _ _ himp => ?_) hdistinct)
  · exact absent_cons.2 ⟨⟨hname.symm, hmentions⟩, hl⟩
  · exact fun hl => absent_cons.2 ((absent_cons.1 hl).imp_right himp)
  · exact Or.inr ⟨hname.symm, hopens, hl⟩
  · exact Or.imp_right fun ⟨hne, hvalue, hl⟩ => ⟨hne, hvalue, himp hl⟩

theorem absent_or_present_setAttribute (hname : new.name ≠ name) (hmentions : mentions name new.value = false)
    (hopens : opens name new.value false = false) (hdistinct : Distinct attributes)
    (h : Absent name (attributes.filter (·.name ≠ new.name)) ∨ Present name (attributes.filter (·.name ≠ new.name))) :
    Absent name (setAttribute new attributes) ∨ Present name (setAttribute new attributes) := by
  refine h.imp (keeps_setAttribute (fun _ hl => ?_) (fun _ _ _ himp => ?_) hdistinct)
    (keeps_setAttribute (fun _ hl => ?_) (fun _ _ _ himp => ?_) hdistinct)
  · exact absent_cons.2 ⟨⟨hname, hmentions⟩, hl⟩
  · exact fun hl => absent_cons.2 ((absent_cons.1 hl).imp_right himp)
  · exact Or.inr ⟨hname, hopens, hl⟩
  · exact Or.imp_right fun ⟨hne, hvalue, hl⟩ => ⟨hne, hvalue, himp hl⟩

theorem filter_target_secureHref (attributes : List Attribute) :
    (secureHref attributes).filter (·.name ≠ "target") = secureHref (attributes.filter (·.name ≠ "target")) := by
  induction attributes with
  | nil => rfl
  | cons a rest ih =>
    rw [secureHref]
    by_cases hhref : a.name = "href"
    · have hnew : (if isSafeUrl a.value then a else noHref).name ≠ "target" := by
        split
        · rw [hhref]
          decide
        · decide
      rw [if_pos hhref, List.filter_cons_of_pos (by simpa using hnew), List.filter_cons_of_pos (by simp [hhref]), secureHref, if_pos hhref]
    · rw [if_neg hhref]
      by_cases htarget : a.name = "target"
      · rw [List.filter_cons_of_neg (by simp [htarget]), List.filter_cons_of_neg (by simp [htarget]), ih]
      · rw [List.filter_cons_of_pos (by simp [htarget]), List.filter_cons_of_pos (by simp [htarget]), secureHref, if_neg hhref, ih]

end

/-! ## The attributes of a link, rewritten -/

def linkAttributes (attributes : List Attribute) : List Attribute :=
  setAttribute noOpener (setAttribute blankTarget (secureHref attributes))

section

variable {attributes : List Attribute}

theorem safeAttributes_eq (hdistinct : Distinct attributes) (h : Clear attributes) :
    safeAttributes (attributesText attributes) = attributesText (linkAttributes attributes) := by
  have htarget := absent_or_present_secureHref (by decide : "target" ≠ "href") (by decide) (by decide) hdistinct h.target
  have hrest := absent_or_present_secureHref (by decide : "rel" ≠ "href") (by decide) (by decide) (hdistinct.filter _) h.rel
  rw [← filter_target_secureHref] at hrest
  have hrel := absent_or_present_setAttribute (by decide : blankTarget.name ≠ "rel") (by decide) (by decide)
    (distinct_secureHref hdistinct) hrest
  have hset : forceAttribute "target" "_blank".toList (attributesText (secureHref attributes)) =
      attributesText (setAttribute blankTarget (secureHref attributes)) := forceAttribute_eq blankTarget htarget
  unfold safeAttributes linkAttributes
  rw [checkHref_eq hdistinct h.href, hset]
  exact forceAttribute_eq noOpener hrel

theorem distinct_linkAttributes (h : Distinct attributes) : Distinct (linkAttributes attributes) :=
  distinct_setAttribute noOpener (distinct_setAttribute blankTarget (distinct_secureHref h))

theorem addresses_linkAttributes (h : Distinct attributes) : (linkAttributes attributes).filter (·.name = "href") =
    (attributes.filter (·.name = "href")).map fun a => if isSafeUrl a.value then a else noHref := by
  unfold linkAttributes
  rw [filter_setAttribute noOpener, filter_setAttribute blankTarget, addresses_secureHref h]
  · intro a ha
    simp [ha, blankTarget]
  · intro a ha
    simp [ha, noOpener]

/-- A link that leads nowhere is as it was, if it opens in a new window already. -/
theorem linkAttributes_bare (h : Distinct attributes) (hhref : ∀ a ∈ attributes, a.name ≠ "href")
    (htarget : blankTarget ∈ attributes) (hrel : noOpener ∈ attributes) : linkAttributes attributes = attributes := by
  rw [linkAttributes, secureHref_absent hhref, setAttribute_mem h htarget, setAttribute_mem h hrel]

theorem safeLink_linkAttributes (h : Distinct attributes) (hne : attributes ≠ []) (hclear : Clear attributes) :
    SafeLink attributes (linkAttributes attributes) := by
  have hset := distinct_setAttribute blankTarget (distinct_secureHref h)
  refine ⟨fun _ => ?_, fun _ => filter_setAttribute_self noOpener hset, fun a ha hhref => ?_, addresses_linkAttributes h, ?_,
    fun hhref => ?_⟩
  · unfold linkAttributes
    rw [filter_setAttribute noOpener]
    · exact filter_setAttribute_self blankTarget (distinct_secureHref h)
    · intro a ha
      simp [ha, noOpener]
  · have hmem : a ∈ (linkAttributes attributes).filter (·.name = "href") := List.mem_filter.2 ⟨ha, by simpa using hhref⟩
    rw [addresses_linkAttributes h] at hmem
    obtain ⟨b, -, rfl⟩ := List.mem_map.1 hmem
    split
    · rename_i hsafe
      exact Or.inr ((isSafeUrl_iff b.value).1 hsafe)
    · exact Or.inl rfl
  · unfold linkAttributes
    rw [filter_setAttribute noOpener, filter_setAttribute blankTarget, filter_secureHref]
    · intro a ha
      simp [ha]
    · intro a ha
      simp [ha, blankTarget]
    · intro a ha
      simp [ha, noOpener]
  · rcases hclear.bare with ⟨a, ha, haddress⟩ | hnil | ⟨htarget, hrel⟩
    · exact absurd haddress (hhref a ha)
    · exact absurd hnil hne
    · exact linkAttributes_bare h hhref htarget hrel

end

/-! ## Behind the name of the tag -/

theorem checkHref_blank (text : List Char) : checkHref (' ' :: text) = ' ' :: checkHref text :=
  checkHref_append (misses_blank href_allowed (fun _ => quoted_word) text)

theorem forceAttribute_blank {name : String} (hname : name ∈ allowedAttr) (value text : List Char) :
    forceAttribute name value (' ' :: text) = ' ' :: forceAttribute name value text := by
  have hword : search (word (assigns name)) (' ' :: text) = _ := search_append (misses_blank hname (fun _ h => h) text)
  have hquoted : search (quoted name) (' ' :: text) = _ := search_append (misses_blank hname (fun _ => quoted_word) text)
  unfold forceAttribute
  rw [hword, hquoted]
  cases search (word (assigns name)) text with
  | none => rfl
  | some found => cases search (quoted name) text <;> rfl

theorem safeAttributes_blank (text : List Char) : safeAttributes (' ' :: text) = ' ' :: safeAttributes text := by
  unfold safeAttributes
  rw [checkHref_blank, forceAttribute_blank (by decide), forceAttribute_blank (by decide)]

/-! ## Where a link begins -/

theorem anchorTag_head {c : Char} {text : List Char} (h : anchorTag (c :: text) ≠ none) : c = '<' := by
  by_contra hne
  refine h ?_
  unfold anchorTag
  split
  · rename_i heq
    exact absurd (List.cons.inj heq).1 hne
  · rfl

theorem anchorTag_misses {a : List Char} (h : '<' ∉ a) (b : List Char) : Misses anchorTag a b :=
  misses_of_forall (k := (· = '<')) (fun _ _ => anchorTag_head) fun _ hc heq => h (heq ▸ hc)

theorem anchorTag_value {value : List Char} (h : mentionsAnchor value = false) (b : List Char) :
    Misses anchorTag value ('"' :: b) := by
  intro s hne hs
  unfold mentionsAnchor at h
  rw [List.any_eq_false] at h
  have hvalue := h s ((List.mem_tails _ _).2 hs)
  cases s with
  | nil => exact absurd rfl hne
  | cons l s =>
    by_contra hsome
    obtain rfl := anchorTag_head hsome
    refine hsome ?_
    match s with
    | [] => cases b <;> rfl
    | [c] =>
      change (if c.toLower = 'a' && isSpace '"' then _ else none) = none
      rw [if_neg (by simp [isSpace])]
    | c :: d :: s =>
      change (if c.toLower = 'a' && isSpace d then _ else none) = none
      exact if_neg hvalue

theorem anchorTag_attributes {attributes : List Attribute} (h : ∀ a ∈ attributes, mentionsAnchor a.value = false) (b : List Char) :
    Misses anchorTag (attributesText attributes) b := by
  have hplain : ∀ name ∈ allowedAttr, '<' ∉ ' ' :: assigns name ++ ['"'] := by decide
  induction attributes with
  | nil => exact misses_nil
  | cons a rest ih =>
    obtain ⟨ha, hrest⟩ := List.forall_mem_cons.1 h
    have htext : a.text = (' ' :: assigns a.name ++ ['"']) ++ (a.value ++ ['"']) := by simp [Attribute.text, attributeText]
    have hvalue : Misses anchorTag (a.value ++ ['"']) (attributesText rest ++ b) :=
      (anchorTag_value ha _).append (anchorTag_misses (by decide) _)
    rw [attributesText_cons, htext]
    exact ((anchorTag_misses (hplain a.name a.allowed) _).append hvalue).append (ih hrest)

theorem anchorTag_second {c : Char} (h : c.toLower ≠ 'a') (text : List Char) : anchorTag ('<' :: c :: text) = none := by
  cases text with
  | nil => rfl
  | cons s text => exact if_neg (by simp [h])

/-- No other tag begins like a link. -/
theorem anchorTag_other {name : String} (hname : name ∈ allowedTags) (hne : name ≠ "a") (text : List Char) :
    anchorTag ('<' :: (name.toList ++ text)) = none := by
  have hhead : ∀ name ∈ allowedTags, name = "a" ∨ name.toList.head?.any (·.toLower ≠ 'a') = true := by decide
  obtain ⟨c, hc, hlower⟩ := (Option.any_eq_true _ _).1 ((hhead name hname).resolve_left hne)
  obtain ⟨t, ht⟩ := List.head?_eq_some_iff.1 hc
  rw [ht]
  exact anchorTag_second (by simpa using hlower) (t ++ text)

theorem attributesText_end {attributes : List Attribute} (h : ∀ a ∈ attributes, '>' ∉ a.value) : '>' ∉ attributesText attributes := by
  have hname : ∀ name ∈ allowedAttr, '>' ∉ assigns name := by decide
  rw [attributesText, List.mem_flatMap]
  rintro ⟨a, ha, hmem⟩
  simp only [Attribute.text, attributeText, List.mem_cons, List.mem_append, List.not_mem_nil, or_false] at hmem
  rcases hmem with hblank | hmem | hquote | hmem | hquote
  · exact absurd hblank (by decide)
  · exact hname a.name a.allowed hmem
  · exact absurd hquote (by decide)
  · exact h a ha hmem
  · exact absurd hquote (by decide)

theorem anchorTag_link {a : Attribute} {rest : List Attribute} (h : ∀ b ∈ a :: rest, '>' ∉ b.value) (more : List Char) :
    anchorTag ('<' :: 'a' :: (attributesText (a :: rest) ++ '>' :: more)) =
      some (attributeText a.name a.value ++ attributesText rest, more) := by
  have hend : '>' ∉ attributeText a.name a.value ++ attributesText rest := fun hmem => attributesText_end h (List.mem_cons_of_mem ' ' hmem)
  have hdrop : ((attributeText a.name a.value ++ attributesText rest) ++ '>' :: more).dropWhile isSpace =
      (attributeText a.name a.value ++ attributesText rest) ++ '>' :: more := by
    have hhead : ∀ name ∈ allowedAttr, (assigns name).head?.any (!isSpace ·) = true := by decide
    obtain ⟨c, hc, hspace⟩ := (Option.any_eq_true _ _).1 (hhead a.name a.allowed)
    obtain ⟨t, ht⟩ := List.head?_eq_some_iff.1 hc
    rw [Bool.not_eq_true'] at hspace
    rw [attributeText, ht]
    simp [hspace]
  have hall : ∀ c ∈ attributeText a.name a.value ++ attributesText rest, decide (c ≠ '>') = true := by
    intro c hc
    exact decide_eq_true fun heq => hend (heq ▸ hc)
  have hspan := span_append (x := '>') hall (by decide) more
  have htext : attributesText (a :: rest) ++ '>' :: more =
      ' ' :: ((attributeText a.name a.value ++ attributesText rest) ++ '>' :: more) := rfl
  rw [htext, anchorTag, if_pos (by decide), hdrop, hspan]

/-! ## A document, piece by piece -/

theorem forceSafeLinks_append {a b : List Char} (h : Misses anchorTag a b) : forceSafeLinks (a ++ b) = a ++ forceSafeLinks b :=
  replaceMatches_append h

theorem serialize_start {name : String} {attributes : List Attribute} {allowed distinct} :
    (Token.start name attributes allowed distinct).serialize = '<' :: (name.toList ++ (attributesText attributes ++ ['>'])) := rfl

theorem unambiguous_start {name : String} {attributes : List Attribute} {allowed distinct} :
    (Token.start name attributes allowed distinct).Unambiguous ↔
      if name = "a" then Clear attributes else ∀ a ∈ attributes, mentionsAnchor a.value = false := Iff.rfl

/-- A piece is secured whatever is behind it. -/
theorem forceSafeLinks_token {token : Token} (h : token.Unambiguous) :
    ∃ token', Secured token token' ∧ ∀ rest, forceSafeLinks (token.serialize ++ rest) = token'.serialize ++ forceSafeLinks rest := by
  cases token with
  | text content written =>
    exact ⟨_, Secured.text, fun rest => forceSafeLinks_append (anchorTag_misses written rest)⟩
  | close name allowed =>
    have hname : ∀ name ∈ allowedTags, '<' ∉ '/' :: (name.toList ++ ['>']) := by decide
    exact ⟨_, Secured.close, fun rest => forceSafeLinks_append
      (misses_cons (anchorTag_second (by decide) _) (anchorTag_misses (hname name allowed) rest))⟩
  | start name attributes allowed distinct =>
    by_cases hname : name = "a"
    · subst hname
      have hclear : Clear attributes := h
      cases attributes with
      | nil =>
        refine ⟨_, Secured.link ⟨?_, ?_, ?_, rfl, rfl, fun _ => rfl⟩, fun rest => forceSafeLinks_append ?_⟩
        · exact fun ⟨_, ha, _⟩ => absurd ha List.not_mem_nil
        · exact fun ⟨_, ha, _⟩ => absurd ha List.not_mem_nil
        · exact fun _ ha => absurd ha List.not_mem_nil
        · exact misses_cons rfl (anchorTag_misses (by decide) rest)
      | cons a attributes =>
        refine ⟨.start "a" (linkAttributes (a :: attributes)) allowed (distinct_linkAttributes distinct),
          Secured.link (safeLink_linkAttributes distinct (List.cons_ne_nil a attributes) hclear), fun rest => ?_⟩
        have hhit := replaceMatches_hit (f := fun attrs => "<a ".toList ++ (safeAttributes attrs ++ ['>']))
          (anchorTag_link hclear.tag rest) ⟨'a' :: (attributesText (a :: attributes) ++ ['>']), by simp⟩
        have hbefore : (Token.start "a" (a :: attributes) allowed distinct).serialize ++ rest =
            '<' :: 'a' :: (attributesText (a :: attributes) ++ '>' :: rest) := by
          simp [Token.serialize]
        have hafter : "<a ".toList ++ (safeAttributes (attributeText a.name a.value ++ attributesText attributes) ++ ['>']) =
            (Token.start "a" (linkAttributes (a :: attributes)) allowed (distinct_linkAttributes distinct)).serialize := by
          have hattributes : ' ' :: safeAttributes (attributeText a.name a.value ++ attributesText attributes) =
              attributesText (linkAttributes (a :: attributes)) := by
            rw [← safeAttributes_eq distinct hclear, ← safeAttributes_blank]
            rfl
          rw [serialize_start, ← hattributes]
          rfl
        rw [hbefore, ← hafter]
        exact hhit
    · refine ⟨_, Secured.tag hname, fun rest => forceSafeLinks_append ?_⟩
      have hvalues : ∀ a ∈ attributes, mentionsAnchor a.value = false := by
        rwa [unambiguous_start, if_neg hname] at h
      have hplain : ∀ name ∈ allowedTags, '<' ∉ name.toList := by decide
      refine misses_cons ?_ ((anchorTag_misses (hplain name allowed) _).append
        ((anchorTag_attributes hvalues _).append (anchorTag_misses (by decide) _)))
      rw [List.append_assoc]
      exact anchorTag_other allowed hname _

/-- Where every pattern finds what it is meant for, every link is safe and everything else is as it was. -/
theorem forceSafeLinks_complete {document : List Token} (h : ∀ token ∈ document, token.Unambiguous) : Completes document := by
  induction document with
  | nil => exact ⟨[], rfl, List.Forall₂.nil⟩
  | cons token document ih =>
    obtain ⟨htoken, hdocument⟩ := List.forall_mem_cons.1 h
    obtain ⟨token', hsecured, hserialize⟩ := forceSafeLinks_token htoken
    obtain ⟨document', hrest, hall⟩ := ih hdocument
    refine ⟨token' :: document', ?_, List.Forall₂.cons hsecured hall⟩
    rw [serialize, List.flatMap_cons, hserialize]
    change _ ++ forceSafeLinks (serialize document) = _
    rw [hrest]
    rfl

/-- Two links, one of them to an address that is not opened, and an attribute that mentions a target. -/
def offers : List Token :=
  [.start "p" [⟨"class", "target=news".toList, by decide, by decide⟩] (by decide) (by decide),
    .start "a" [⟨"title", "5 or more".toList, by decide, by decide⟩, ⟨"href", "https://example.com/?a=b".toList, href_allowed, by decide⟩]
      (by decide) (by decide),
    .text "offers > 5".toList (by decide), .close "a" (by decide),
    .start "a" [⟨"href", "mailto:news@example.com?rel=1".toList, href_allowed, by decide⟩] (by decide) (by decide),
    .text "news".toList (by decide), .close "a" (by decide), .close "p" (by decide)]

theorem forceSafeLinks_offers : Completes offers := forceSafeLinks_complete (by decide)

/-- A link to an address with a parameter of that name. -/
def advert : List Token :=
  [.start "a" [⟨"href", "https://example.com/?target=1".toList, href_allowed, by decide⟩] (by decide) (by decide),
    .text "offer".toList (by decide), .close "a" (by decide)]

theorem forceSafeLinks_advert : forceSafeLinks (serialize advert) =
    "<a href=\"https://example.com/?target=1\" rel=\"noopener noreferrer\">offer</a>".toList := by
  decide +kernel

/-- It opens in the window it is shown in. -/
theorem advert_untargeted : ¬Completes advert := by
  rintro ⟨document', hserialize, hall⟩
  cases hall with
  | @cons _ _ _ rest hsecured hrest =>
    cases hsecured with
    | tag hother => exact hother rfl
    | @link _ attributes' _ allowed' _ distinct' safe =>
      have haddress : attributes'.filter (·.name = "href") = [⟨"href", "https://example.com/?target=1".toList, href_allowed, by decide⟩] :=
        safe.addresses
      have hhref := List.mem_filter.1 (haddress ▸ List.mem_singleton_self _)
      have htarget : blankTarget ∈ attributes' := List.mem_of_mem_filter (safe.target ⟨_, hhref.1, rfl⟩ ▸ List.mem_singleton_self _)
      have hmem : '_' ∈ forceSafeLinks (serialize advert) := by
        rw [hserialize]
        refine List.mem_flatMap.2 ⟨_, List.mem_cons_self, ?_⟩
        have htext : '_' ∈ attributesText attributes' := List.mem_flatMap.2 ⟨blankTarget, htarget, by decide⟩
        simp [Token.serialize, htext]
      rw [forceSafeLinks_advert] at hmem
      exact absurd hmem (by decide)

end Boxplot.Security
