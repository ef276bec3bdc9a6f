import Boxplot.Lib.AddressTokens
import Boxplot.Lib.EncodedWord
import Boxplot.Lib.Spans
import Boxplot.Lib.State
/-!
# Address lists

The address lists of mail header fields: mailboxes and groups between commas,
with names or without, routes and empty elements as the obsolete forms have
them. `AddrSpec` is what an address may be, and the only thing that is read as
one.
-/

namespace Boxplot.Lib.Address

/-! ## Addresses -/

def Token.isAtom : Token → Bool
  | .atom _ => true
  | _ => false

def Token.isWord : Token → Bool
  | .atom _ | .quoted _ => true
  | _ => false

/-- The words as they are written, one after the other. -/
def written (tokens : List Token) : List Char := tokens.flatMap Token.text

/-- Words with dots between them. -/
def dotted (p : Token → Bool) : List Token → Bool
  | [t] => p t
  | t :: .special '.' :: rest => p t && dotted p rest
  | _ => false

def isLocalPart (tokens : List Token) : Bool := dotted Token.isWord tokens

def isDomain : List Token → Bool
  | [.literal _] => true
  | tokens => dotted Token.isAtom tokens

/-- A local part and a domain. -/
def addrSpec (tokens : List Token) : Option (List Char) :=
  match tokens.span (· ≠ .special '@') with
  | (_, []) => none
  | (localPart, _ :: domain) => if isLocalPart localPart && isDomain domain then some (written tokens) else none

/-- Domains with an `@` before each, between commas. -/
def isRoute (tokens : List Token) : Bool :=
  let parts := (tokens.splitOnP (· = .special ',')).filter (· ≠ [])
  parts ≠ [] && parts.all fun
    | .special '@' :: domain => isDomain domain
    | _ => false

/-- What stands in angle brackets. A route is not part of the address. -/
def angleAddr (tokens : List Token) : Option (List Char) :=
  match tokens.span (· ≠ .special ':') with
  | (tokens, []) => addrSpec tokens
  | (route, _ :: tokens) => if isRoute route then addrSpec tokens else none

/-! ## Names -/

/-- A backslash goes, the character behind it stays. -/
def unescape : List Char → List Char
  | '\\' :: c :: rest => c :: unescape rest
  | c :: rest => c :: unescape rest
  | [] => []

def Token.encoded : Token → Option String
  | .atom text => decodeWord text
  | _ => none

def wordText : Token → String
  | .quoted raw => String.ofList (unescape raw)
  | t => t.encoded.getD (String.ofList t.text)

/-- A word, then words and dots. -/
def isPhrase : List Token → Bool
  | [] => false
  | t :: rest => t.isWord && rest.all fun t => t.isWord || t = .special '.'

/-- Blanks between words, but for two encoded ones. -/
def phraseText : List Token → String
  | [] => ""
  | [t] => wordText t
  | t :: u :: rest =>
    wordText t ++ (if t.encoded.isSome && u.encoded.isSome || u = .special '.' then "" else " ") ++ phraseText (u :: rest)

/-! ## Lists -/

structure Mailbox where
  name : Option String
  address : String
  deriving DecidableEq, Repr

inductive Entry
  | mailbox (m : Mailbox)
  | group (name : String) (members : List Mailbox)
  deriving DecidableEq, Repr

/-- Within what a word stands. -/
inductive Nest
  | outside
  | angle
  | group
  | groupAngle
  deriving DecidableEq

def Nest.next : Nest → Token → Nest
  | .outside, .special '<' => .angle
  | .outside, .special ':' => .group
  | .angle, .special '>' => .outside
  | .group, .special '<' => .groupAngle
  | .group, .special ';' => .outside
  | .groupAngle, .special '>' => .group
  | nest, _ => nest

/-- The elements between the commas that stand in no brackets and no group. -/
def elements : Nest → List Token → List (List Token)
  | _, [] => [[]]
  | nest, t :: rest =>
    if t = .special ',' ∧ nest = .outside then [] :: elements .outside rest
    else (elements (nest.next t) rest).modifyHead (t :: ·)

/-- The elements that are not empty. -/
def listOf {α : Type} (f : List Token → Option α) (tokens : List Token) : Option (List α) :=
  ((elements .outside tokens).filter (· ≠ [])).mapM f

def mailbox (tokens : List Token) : Option Mailbox :=
  match tokens.span (· ≠ .special '<') with
  | (tokens, []) => (addrSpec tokens).map fun address => ⟨none, String.ofList address⟩
  | (phrase, _ :: rest) =>
    if (phrase = [] || isPhrase phrase) && rest.getLast? = some (.special '>') then
      (angleAddr rest.dropLast).map fun address => ⟨if phrase = [] then none else some (phraseText phrase), String.ofList address⟩
    else none

def entry (tokens : List Token) : Option Entry :=
  match tokens.span fun t => t ≠ .special ':' && t ≠ .special '<' with
  | (phrase, .special ':' :: rest) =>
    if isPhrase phrase && rest.getLast? = some (.special ';') then (listOf mailbox rest.dropLast).map (.group (phraseText phrase))
    else none
  | _ => (mailbox tokens).map .mailbox

/-- At least one address. -/
def addressList (tokens : List Token) : Option (List Entry) := (listOf entry tokens).filter (!·.isEmpty)

def parseAddresses (text : String) : Option (List Entry) := (lex text.toList).bind addressList

/-! ## What an address may be -/

/-- A local part and a domain, written without anything between their words. -/
def AddrSpec (address : List Char) : Prop :=
  ∃ localPart domain : List Token, (∀ t ∈ localPart, t.Valid) ∧ (∀ t ∈ domain, t.Valid) ∧ isLocalPart localPart = true ∧
    isDomain domain = true ∧ address = written (localPart ++ .special '@' :: domain)

section
variable {tokens ts : List Token} {p : Token → Bool} {t : Token} {address : List Char}

/-! ## What is read is an address -/

/-- What is read as an address is one. -/
theorem addrSpec_sound (hvalid : ∀ t ∈ tokens, t.Valid) (h : addrSpec tokens = some address) : AddrSpec address := by
  unfold addrSpec at h
  split at h
  · cases h
  · rename_i localPart at_ domain hspan
    obtain ⟨rfl, -, hat⟩ := span_eq_cons hspan
    have hat : at_ = .special '@' := by simpa using hat
    subst hat
    split at h
    · rename_i hparts
      cases h
      obtain ⟨hlocal, hdomain⟩ := Bool.and_eq_true_iff.1 hparts
      rw [List.forall_mem_append, List.forall_mem_cons] at hvalid
      exact ⟨localPart, domain, hvalid.1, hvalid.2.2, hlocal, hdomain, rfl⟩
    · cases h

theorem angleAddr_sound (hvalid : ∀ t ∈ tokens, t.Valid) (h : angleAddr tokens = some address) : AddrSpec address := by
  unfold angleAddr at h
  split at h
  · rename_i hspan
    obtain ⟨rfl, -⟩ := span_eq_nil hspan
    exact addrSpec_sound hvalid h
  · rename_i route colon ts hspan
    obtain ⟨rfl, -, -⟩ := span_eq_cons hspan
    split at h
    · exact addrSpec_sound (fun t ht => hvalid t (by simp [ht])) h
    · cases h

theorem mailbox_sound {m : Mailbox} (hvalid : ∀ t ∈ tokens, t.Valid) (h : mailbox tokens = some m) : AddrSpec m.address.toList := by
  unfold mailbox at h
  split at h
  · rename_i hspan
    obtain ⟨rfl, -⟩ := span_eq_nil hspan
    obtain ⟨address, haddress, rfl⟩ := Option.map_eq_some_iff.1 h
    rw [String.toList_ofList]
    exact addrSpec_sound hvalid haddress
  · rename_i phrase angle rest hspan
    obtain ⟨rfl, -, -⟩ := span_eq_cons hspan
    split at h
    · obtain ⟨address, haddress, rfl⟩ := Option.map_eq_some_iff.1 h
      rw [String.toList_ofList]
      exact angleAddr_sound (fun t ht => hvalid t (by simp [List.mem_of_mem_dropLast ht])) haddress
    · cases h

theorem entry_sound {m : Mailbox} (hvalid : ∀ t ∈ tokens, t.Valid) (h : entry tokens = some (.mailbox m)) : AddrSpec m.address.toList := by
  unfold entry at h
  split at h
  · split at h
    · obtain ⟨_, -, hgroup⟩ := Option.map_eq_some_iff.1 h
      cases hgroup
    · cases h
  · obtain ⟨m', hm, heq⟩ := Option.map_eq_some_iff.1 h
    cases heq
    exact mailbox_sound hvalid hm

/-- The elements are made of the words of the list. -/
theorem mem_of_mem_elements {nest : Nest} {element : List Token} (h : element ∈ elements nest tokens) (ht : t ∈ element) :
    t ∈ tokens := by
  fun_induction elements nest tokens generalizing element with
  | case1 =>
    rw [List.mem_singleton.1 h] at ht
    exact ht
  | case2 nest u rest _ ih =>
    rcases List.mem_cons.1 h with rfl | h
    · cases ht
    · exact List.mem_cons_of_mem u (ih h ht)
  | case3 nest u rest _ ih =>
    cases hrest : elements (nest.next u) rest with
    | nil =>
      rw [hrest] at h
      cases h
    | cons first others =>
      rw [hrest, List.modifyHead_cons] at h
      rcases List.mem_cons.1 h with rfl | h
      · rcases List.mem_cons.1 ht with rfl | ht
        · exact List.mem_cons_self
        · exact List.mem_cons_of_mem u (ih (hrest ▸ List.mem_cons_self) ht)
      · exact List.mem_cons_of_mem u (ih (hrest ▸ List.mem_cons_of_mem first h) ht)

theorem listOf_mem {α : Type} {f : List Token → Option α} {l : List α} {x : α} (h : listOf f tokens = some l) (hx : x ∈ l) :
    ∃ element, (∀ t ∈ element, t ∈ tokens) ∧ f element = some x := by
  unfold listOf at h
  obtain ⟨element, helement, hf⟩ := exists_of_forall₂ (mapM_eq_some_iff.1 h).flip hx
  exact ⟨element, fun t ht => mem_of_mem_elements (List.mem_of_mem_filter helement) ht, hf⟩

/-- The address of every mailbox that is read is one. -/
theorem parseAddresses_sound {text : String} {entries : List Entry} {m : Mailbox} (h : parseAddresses text = some entries)
    (hm : .mailbox m ∈ entries) : AddrSpec m.address.toList := by
  obtain ⟨tokens, hlex, hlist⟩ := Option.bind_eq_some_iff.1 h
  obtain ⟨hentries, -⟩ := Option.filter_eq_some_iff.1 hlist
  obtain ⟨element, hsub, hentry⟩ := listOf_mem hentries hm
  exact entry_sound (fun t ht => lex_valid hlex t (hsub t ht)) hentry

/-! ## What is an address is read -/

theorem written_cons (t : Token) (tokens : List Token) : written (t :: tokens) = t.text ++ written tokens := List.flatMap_cons

theorem written_append (tokens ts : List Token) : written (tokens ++ ts) = written tokens ++ written ts := List.flatMap_append

theorem mem_dotted (h : dotted p tokens = true) (ht : t ∈ tokens) : p t = true ∨ t = .special '.' := by
  fun_induction dotted p tokens with
  | case1 u =>
    rw [List.mem_singleton.1 ht]
    exact .inl h
  | case2 u rest ih =>
    obtain ⟨hu, hrest⟩ := Bool.and_eq_true_iff.1 h
    rcases List.mem_cons.1 ht with rfl | ht
    · exact .inl hu
    · rcases List.mem_cons.1 ht with rfl | ht
      · exact .inr rfl
      · exact ih hrest ht
  | case3 => cases h

theorem reads_dotted (h : dotted p tokens = true) (hvalid : ∀ t ∈ tokens, t.Valid) : Reads (written tokens) tokens := by
  fun_induction dotted p tokens with
  | case1 u =>
    rw [written_cons, written, List.flatMap_nil, List.append_nil]
    exact (hvalid u List.mem_cons_self).reads
  | case2 u rest ih =>
    have hrest := ih (Bool.and_eq_true_iff.1 h).2 fun t ht => hvalid t (by simp [ht])
    exact (hvalid u List.mem_cons_self).reads.special (by decide) hrest
  | case3 => cases h

theorem reads_domain (h : isDomain tokens = true) (hvalid : ∀ t ∈ tokens, t.Valid) : Reads (written tokens) tokens := by
  unfold isDomain at h
  split at h
  · rename_i raw
    rw [written_cons, written, List.flatMap_nil, List.append_nil]
    exact (hvalid _ List.mem_cons_self).reads
  · exact reads_dotted h hvalid

/-- No delimiter of a list, and no bracket. -/
def Token.isPlain : Token → Bool
  | .special c => c = '.' || c = '@'
  | _ => true

theorem isPlain_of_isWord (h : t.isWord = true) : t.isPlain = true := by
  cases t <;> simp_all [Token.isWord, Token.isPlain]

theorem isPlain_localPart (h : isLocalPart tokens = true) (ht : t ∈ tokens) : t.isPlain = true ∧ t ≠ .special '@' := by
  rcases mem_dotted h ht with hword | rfl
  · refine ⟨isPlain_of_isWord hword, ?_⟩
    rintro rfl
    cases hword
  · decide

theorem isPlain_domain (h : isDomain tokens = true) (ht : t ∈ tokens) : t.isPlain = true := by
  unfold isDomain at h
  split at h
  · rw [List.mem_singleton.1 ht]
    rfl
  · rcases mem_dotted h ht with hatom | rfl
    · cases t <;> simp_all [Token.isAtom, Token.isPlain]
    · decide

/-- An address is read wherever it stands, as words without a delimiter. -/
theorem AddrSpec.reads (h : AddrSpec address) : ∃ tokens, tokens ≠ [] ∧ (∀ t ∈ tokens, t.isPlain = true) ∧
    Reads address tokens ∧ addrSpec tokens = some address := by
  obtain ⟨localPart, domain, hlocal, hdomain, hisLocal, hisDomain, rfl⟩ := h
  refine ⟨localPart ++ .special '@' :: domain, by simp, ?_, ?_, ?_⟩
  · rw [List.forall_mem_append, List.forall_mem_cons]
    exact ⟨fun t ht => (isPlain_localPart hisLocal ht).1, by decide, fun t ht => isPlain_domain hisDomain ht⟩
  · rw [written_append, written_cons]
    exact (reads_dotted hisLocal hlocal).special (by decide) (reads_domain hisDomain hdomain)
  · have hspan : (localPart ++ .special '@' :: domain).span (· ≠ Token.special '@') = (localPart, .special '@' :: domain) :=
      span_append (fun t ht => decide_eq_true (isPlain_localPart hisLocal ht).2) (by decide) domain
    rw [addrSpec, hspan]
    simp only [hisLocal, hisDomain, Bool.and_self, if_true]

/-- The words stand in one element. -/
def Passes (nest : Nest) (tokens : List Token) (nest' : Nest) : Prop :=
  ∀ rest, elements nest (tokens ++ rest) = (elements nest' rest).modifyHead (tokens ++ ·)

theorem passes_nil (nest : Nest) : Passes nest [] nest := by
  intro rest
  rw [List.nil_append]
  cases elements nest rest <;> rfl

theorem Passes.cons {nest nest' : Nest} (h : Passes (nest.next t) tokens nest') (ht : t ≠ .special ',' ∨ nest ≠ .outside) :
    Passes nest (t :: tokens) nest' := by
  intro rest
  have hcomma : ¬ (t = .special ',' ∧ nest = .outside) := by
    rintro ⟨rfl, rfl⟩
    simp at ht
  rw [List.cons_append, elements, if_neg hcomma, h rest, List.modifyHead_modifyHead]
  rfl

theorem passes_plain {nest nest' : Nest} (h : ∀ t ∈ tokens, t.isPlain = true) (h' : Passes nest ts nest') :
    Passes nest (tokens ++ ts) nest' := by
  induction tokens with
  | nil => exact h'
  | cons t rest ih =>
    have ht := h t List.mem_cons_self
    have hnext : nest.next t = nest := by
      cases t with
      | special c =>
        have hc : c = '.' ∨ c = '@' := by simpa [Token.isPlain] using ht
        rcases hc with rfl | rfl <;> cases nest <;> rfl
      | _ => cases nest <;> rfl
    refine Passes.cons ?_ (.inl ?_)
    · rw [hnext]
      exact ih fun u hu => h u (List.mem_cons_of_mem t hu)
    · rintro rfl
      exact absurd ht (by decide)

/-- The text stands for the entry in a list. -/
def Written (text : List Char) (e : Entry) : Prop :=
  ∃ tokens, tokens ≠ [] ∧ Reads text tokens ∧ Passes .outside tokens .outside ∧ entry tokens = some e

theorem AddrSpec.written (h : AddrSpec address) : Written address (.mailbox ⟨none, String.ofList address⟩) := by
  obtain ⟨tokens, hne, hplain, hreads, haddr⟩ := h.reads
  have hspecial {c : Char} (hc : (Token.special c).isPlain = false) : ∀ t ∈ tokens, t ≠ .special c := by
    rintro t ht rfl
    rw [hplain _ ht] at hc
    cases hc
  have hentry : tokens.span (fun t => t ≠ .special ':' && t ≠ .special '<') = (tokens, []) :=
    span_all fun t ht => by simp [hspecial (c := ':') rfl t ht, hspecial (c := '<') rfl t ht]
  have hmailbox : tokens.span (· ≠ .special '<') = (tokens, []) := span_all fun t ht => by simp [hspecial (c := '<') rfl t ht]
  have hpasses : Passes .outside (tokens ++ []) .outside := passes_plain hplain (passes_nil _)
  refine ⟨tokens, hne, hreads, by rwa [List.append_nil] at hpasses, ?_⟩
  rw [entry, hentry, mailbox, hmailbox]
  simp only [haddr, Option.map_some]

/-- A word before an address in angle brackets is its name. -/
theorem AddrSpec.written_named (h : AddrSpec address) (hvalid : t.Valid) (hword : t.isWord = true) :
    Written (t.text ++ ' ' :: '<' :: (address ++ ['>'])) (.mailbox ⟨some (wordText t), String.ofList address⟩) := by
  obtain ⟨tokens, -, hplain, hreads, haddr⟩ := h.reads
  have hcolon : tokens.span (· ≠ .special ':') = (tokens, []) := span_all fun u hu => by
    refine decide_eq_true ?_
    rintro rfl
    exact absurd (hplain _ hu) (by decide)
  have hangle : angleAddr tokens = some address := by
    rw [angleAddr, hcolon]
    exact haddr
  have hspecial (c : Char) : t ≠ .special c := by
    rintro rfl
    cases hword
  have hentry : (t :: .special '<' :: (tokens ++ [.special '>'])).span (fun u => u ≠ .special ':' && u ≠ .special '<') =
      ([t], .special '<' :: (tokens ++ [.special '>'])) :=
    span_append (a := [t]) (by simp [hspecial]) (by decide) _
  have hmailbox : (t :: .special '<' :: (tokens ++ [.special '>'])).span (· ≠ .special '<') =
      ([t], .special '<' :: (tokens ++ [.special '>'])) :=
    span_append (a := [t]) (by simp [hspecial]) (by decide) _
  refine ⟨t :: .special '<' :: (tokens ++ [.special '>']), by simp, ?_, ?_, ?_⟩
  · exact hvalid.reads.blank (reads_nil.special (by decide) (hreads.special (by decide) reads_nil))
  · have hnext : Nest.outside.next t = .outside := by
      cases t with
      | special c => exact absurd rfl (hspecial c)
      | _ => rfl
    refine Passes.cons ?_ (.inl (hspecial ','))
    rw [hnext]
    refine Passes.cons (passes_plain hplain ?_) (.inl (by decide))
    exact Passes.cons (passes_nil _) (.inr (by decide))
  · rw [entry, hentry, mailbox, hmailbox]
    simp [isPhrase, hword, hangle, phraseText]

/-- Entries between commas are words that are read as these entries. -/
theorem reads_list {texts : List (List Char)} {entries : List Entry} (h : List.Forall₂ Written texts entries) (hne : texts ≠ []) :
    ∃ tokens, Reads (List.intercalate [',', ' '] texts) tokens ∧ (∀ element ∈ elements .outside tokens, element ≠ []) ∧
      List.Forall₂ (fun element e => entry element = some e) (elements .outside tokens) entries := by
  induction h with
  | nil => exact absurd rfl hne
  | @cons text e texts entries hfirst hrest ih =>
    obtain ⟨tokens, hnil, hreads, hpasses, hentry⟩ := hfirst
    cases texts with
    | nil =>
      cases hrest
      have helements : elements .outside tokens = [tokens] := by
        have hpass := hpasses []
        rw [List.append_nil] at hpass
        rw [hpass]
        simp [elements]
      refine ⟨tokens, by rwa [List.intercalate_singleton], ?_, ?_⟩
      · simpa [helements] using hnil
      · rw [helements]
        exact .cons hentry .nil
    | cons text' texts =>
      obtain ⟨tokens', hreads', hne', hentries⟩ := ih (List.cons_ne_nil _ _)
      have helements : elements .outside (tokens ++ .special ',' :: tokens') = tokens :: elements .outside tokens' := by
        rw [hpasses, elements, if_pos ⟨rfl, rfl⟩, List.modifyHead_cons, List.append_nil]
      refine ⟨tokens ++ .special ',' :: tokens', ?_, ?_, ?_⟩
      · rw [List.intercalate_cons_cons, List.append_assoc]
        exact hreads.special (by decide) (reads_nil.blank hreads')
      · rw [helements, List.forall_mem_cons]
        exact ⟨hnil, hne'⟩
      · rw [helements]
        exact .cons hentry hentries

/-- Entries that are written between commas are read. -/
theorem parseAddresses_written {texts : List String} {entries : List Entry}
    (h : List.Forall₂ Written (texts.map String.toList) entries) (hne : texts ≠ []) :
    parseAddresses (String.intercalate ", " texts) = some entries := by
  obtain ⟨tokens, hreads, hnonempty, hentries⟩ := reads_list h (by simpa using hne)
  have hlist : listOf entry tokens = some entries := by
    rw [listOf, List.filter_eq_self.2 (by simpa using hnonempty)]
    exact mapM_eq_some_iff.2 hentries
  have hsome : entries ≠ [] := by
    rintro rfl
    cases texts with
    | nil => exact hne rfl
    | cons text texts => cases h
  have hsep : ", ".toList = [',', ' '] := by decide
  rw [parseAddresses, String.toList_intercalate, hsep, hreads.lex, Option.bind_some, addressList, hlist]
  simpa using hsome

end

end Boxplot.Lib.Address
