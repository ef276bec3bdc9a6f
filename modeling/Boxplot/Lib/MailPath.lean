import Boxplot.Lib.AddressTokens
import Boxplot.Lib.Quoting
import Boxplot.Lib.Spans
/-!
# Paths of mail commands

What a mail server finds behind `MAIL FROM:` and `RCPT TO:`: a path in angle
brackets, perhaps with a route, and parameters behind it. `IsMailbox` is what
a path may hold, and exactly the addresses that make a command of their own.
-/

namespace Boxplot.Lib.MailPath

open Address

/-! ## Mailboxes -/

def isDigit (c : Char) : Bool := 48 ≤ c.toNat && c.toNat ≤ 57

def isLetterDigit (c : Char) : Bool := isDigit c || 65 ≤ c.toNat && c.toNat ≤ 90 || 97 ≤ c.toNat && c.toNat ≤ 122

def isLdh (c : Char) : Bool := isLetterDigit c || c = '-'

/-- Printable, or a space. -/
def isGraphic (c : Char) : Bool := 32 ≤ c.toNat && c.toNat ≤ 126

/-- Stands for itself in a quoted local part. -/
def isQuotable (c : Char) : Bool := isGraphic c && c ≠ '"' && c ≠ '\\'

/-- Stands in an address literal. -/
def isDcontent (c : Char) : Bool := isPrintable c && c ≠ '[' && c ≠ ']' && c ≠ '\\'

/-- Atoms with dots between them. -/
def isDotString (text : List Char) : Bool := (text.splitOn '.').all fun part => part ≠ [] && part.all isAtext

def isSubDomain (part : List Char) : Bool := part.all isLdh && part.head?.any isLetterDigit && part.getLast?.any isLetterDigit

def isDomainName (text : List Char) : Bool := (text.splitOn '.').all isSubDomain

/-- A number of a byte. -/
def isByteNumber (part : List Char) : Bool :=
  part ≠ [] && part.length ≤ 3 && part.all isDigit && part.foldl (fun n c => 10 * n + (c.toNat - 48)) 0 ≤ 255

def isIpv4 (text : List Char) : Bool := (text.splitOn '.').length = 4 && (text.splitOn '.').all isByteNumber

/-- A tag, a colon and what the tag says. The literals of IPv6 have this form. -/
def isTagged (text : List Char) : Bool :=
  match text.span (· ≠ ':') with
  | (tag, _ :: rest) => tag.all isLdh && tag.getLast?.any isLetterDigit && rest ≠ []
  | (_, []) => false

def isAddressLiteral (text : List Char) : Bool := text.all isDcontent && (isIpv4 text || isTagged text)

def IsLocalPart (text : List Char) : Prop :=
  isDotString text = true ∨ ∃ raw, Escaped isQuotable isGraphic raw ∧ text = '"' :: (raw ++ ['"'])

def IsDomain (text : List Char) : Prop :=
  isDomainName text = true ∨ ∃ literal, isAddressLiteral literal = true ∧ text = '[' :: (literal ++ [']'])

def IsMailbox (address : List Char) : Prop :=
  ∃ localPart domain, IsLocalPart localPart ∧ IsDomain domain ∧ address = localPart ++ '@' :: domain

/-! ## Reading a command -/

/-- Up to the closing quote. -/
def readQuoted : List Char → Option (List Char × List Char)
  | [] => none
  | '"' :: rest => some ([], rest)
  | '\\' :: c :: rest => if isGraphic c then (readQuoted rest).map fun r => ('\\' :: c :: r.1, r.2) else none
  | c :: rest => if isQuotable c then (readQuoted rest).map fun r => (c :: r.1, r.2) else none

def readLocalPart : List Char → Option (List Char × List Char)
  | '"' :: text => (readQuoted text).map fun r => ('"' :: (r.1 ++ ['"']), r.2)
  | text =>
    let (localPart, rest) := text.span (· ≠ '@')
    if isDotString localPart then some (localPart, rest) else none

def readDomain : List Char → Option (List Char × List Char)
  | '[' :: text =>
    match text.span (· ≠ ']') with
    | (literal, _ :: rest) => if isAddressLiteral literal then some ('[' :: (literal ++ [']']), rest) else none
    | (_, []) => none
  | text =>
    let (domain, rest) := text.span fun c => isLdh c || c = '.'
    if isDomainName domain then some (domain, rest) else none

def readMailbox (text : List Char) : Option (List Char × List Char) := do
  let (localPart, rest) ← readLocalPart text
  match rest with
  | '@' :: rest => do
    let (domain, rest) ← readDomain rest
    some (localPart ++ '@' :: domain, rest)
  | _ => none

/-- A domain behind an `@`. -/
def isAtDomain : List Char → Bool
  | '@' :: domain => isDomainName domain
  | _ => false

/-- What is behind the route, if there is one. -/
def skipRoute (text : List Char) : Option (List Char) :=
  if text.head? = some '@' then
    match text.span (· ≠ ':') with
    | (route, _ :: rest) => if (route.splitOn ',').all isAtDomain then some rest else none
    | (_, []) => none
  else some text

/-- The mailbox of a path, and what is behind it. -/
def readPath : List Char → Option (List Char × List Char)
  | '<' :: text => do
    let text ← skipRoute text
    let (address, rest) ← readMailbox text
    match rest with
    | '>' :: rest => some (address, rest)
    | _ => none
  | _ => none

def isParameter (text : List Char) : Bool :=
  match text.span (· ≠ '=') with
  | (keyword, []) => keyword.all isLdh && keyword.head?.any isLetterDigit
  | (keyword, _ :: value) => keyword.all isLdh && keyword.head?.any isLetterDigit && value ≠ [] && value.all fun c => isPrintable c && c ≠ '='

/-- What a command names, and what is asked of the server with it. -/
structure Command where
  address : String
  parameters : List String
  deriving DecidableEq, Repr

/-- Verbs are written in any case. -/
def readCommand (verb line : List Char) : Option Command :=
  if (line.take verb.length).map Char.toLower = verb.map Char.toLower then
    match readPath (line.drop verb.length) with
    | some (address, []) => some ⟨String.ofList address, []⟩
    | some (address, ' ' :: rest) =>
      if (rest.splitOn ' ').all isParameter then some ⟨String.ofList address, (rest.splitOn ' ').map String.ofList⟩ else none
    | _ => none
  else none

/-! ## What is read is a mailbox -/

section
variable {text rest raw address localPart domain verb line : List Char}

theorem readQuoted_sound (h : readQuoted text = some (raw, rest)) : Escaped isQuotable isGraphic raw := by
  fun_induction readQuoted text generalizing raw with
  | case1 => cases h
  | case2 => cases h; exact .nil
  | case3 c tail hc ih =>
    obtain ⟨⟨raw', rest'⟩, hread, heq⟩ := Option.map_eq_some_iff.1 h
    cases heq
    exact (Escaped.nil.pair hc).append (ih hread)
  | case4 => cases h
  | case5 c tail _ _ hc ih =>
    obtain ⟨⟨raw', rest'⟩, hread, heq⟩ := Option.map_eq_some_iff.1 h
    cases heq
    exact (Escaped.nil.char hc).append (ih hread)
  | case6 => cases h

theorem readLocalPart_sound (h : readLocalPart text = some (localPart, rest)) : IsLocalPart localPart := by
  unfold readLocalPart at h
  split at h
  · obtain ⟨⟨raw, rest'⟩, hread, heq⟩ := Option.map_eq_some_iff.1 h
    cases heq
    exact .inr ⟨raw, readQuoted_sound hread, rfl⟩
  · dsimp only at h
    split at h
    · rename_i hdot
      cases h
      exact .inl hdot
    · cases h

theorem readDomain_sound (h : readDomain text = some (domain, rest)) : IsDomain domain := by
  unfold readDomain at h
  split at h
  · split at h
    · split at h
      · rename_i hliteral
        cases h
        exact .inr ⟨_, hliteral, rfl⟩
      · cases h
    · cases h
  · dsimp only at h
    split at h
    · rename_i hdomain
      cases h
      exact .inl hdomain
    · cases h

theorem readMailbox_sound (h : readMailbox text = some (address, rest)) : IsMailbox address := by
  unfold readMailbox at h
  obtain ⟨⟨localPart, tail⟩, hlocal, h⟩ := Option.bind_eq_some_iff.1 h
  dsimp only at h
  split at h
  · obtain ⟨⟨domain, rest'⟩, hdomain, heq⟩ := Option.bind_eq_some_iff.1 h
    cases heq
    exact ⟨localPart, domain, readLocalPart_sound hlocal, readDomain_sound hdomain, rfl⟩
  · cases h

theorem readPath_sound (h : readPath text = some (address, rest)) : IsMailbox address := by
  unfold readPath at h
  split at h
  · obtain ⟨tail, -, h⟩ := Option.bind_eq_some_iff.1 h
    obtain ⟨⟨address', rest'⟩, hread, h⟩ := Option.bind_eq_some_iff.1 h
    dsimp only at h
    split at h
    · cases h
      exact readMailbox_sound hread
    · cases h
  · cases h

theorem readCommand_sound {c : Command} (h : readCommand verb line = some c) : IsMailbox c.address.toList := by
  unfold readCommand at h
  split at h
  · split at h
    · rename_i hread
      cases h
      rw [String.toList_ofList]
      exact readPath_sound hread
    · rename_i hread
      split at h
      · cases h
        rw [String.toList_ofList]
        exact readPath_sound hread
      · cases h
    · cases h
  · cases h

/-! ## A mailbox is read -/

theorem readQuoted_append {raw' : List Char} (h : Escaped isQuotable isGraphic raw) (hread : readQuoted text = some (raw', rest)) :
    readQuoted (raw ++ text) = some (raw ++ raw', rest) := by
  induction h generalizing text raw' with
  | nil => exact hread
  | @char raw c _ hc ih =>
    have hquote : c ≠ '"' := by rintro rfl; exact absurd hc (by decide)
    have hslash : c ≠ '\\' := by rintro rfl; exact absurd hc (by decide)
    have hstep : readQuoted (c :: text) = some (c :: raw', rest) := by
      rw [readQuoted.eq_4 c text (fun h => hquote h) (fun d tail h _ => hslash h), if_pos hc, hread]
      rfl
    rw [List.append_assoc, List.append_assoc]
    exact ih hstep
  | @pair raw c _ hc ih =>
    have hstep : readQuoted ('\\' :: c :: text) = some ('\\' :: c :: raw', rest) := by
      rw [readQuoted, if_pos hc, hread]
      rfl
    rw [List.append_assoc, List.append_assoc]
    exact ih hstep

theorem mem_splitOn {c sep : Char} (h : c ∈ text) : c = sep ∨ ∃ part ∈ text.splitOn sep, c ∈ part := by
  have hback : List.intercalate [sep] (text.splitOn sep) = text := List.intercalate_splitOn sep
  rw [← hback] at h
  exact (mem_intercalate h).imp_left List.mem_singleton.1

theorem dotString_ne_nil (h : isDotString text = true) : text ≠ [] := by
  rintro rfl
  cases h

theorem dotString_char {c : Char} (h : isDotString text = true) (hc : c ∈ text) : c = '.' ∨ isAtext c = true := by
  refine (mem_splitOn hc).imp_right fun ⟨part, hpart, hmem⟩ => ?_
  exact List.all_eq_true.1 (Bool.and_eq_true_iff.1 (List.all_eq_true.1 h part hpart)).2 c hmem

theorem domainName_char {c : Char} (h : isDomainName text = true) (hc : c ∈ text) : isLdh c = true ∨ c = '.' := by
  refine (mem_splitOn hc).symm.imp_left fun ⟨part, hpart, hmem⟩ => ?_
  have hsub := List.all_eq_true.1 h part hpart
  simp only [isSubDomain, Bool.and_eq_true, List.all_eq_true] at hsub
  exact hsub.1.1 c hmem

theorem readLocalPart_append (h : IsLocalPart localPart) (rest : List Char) :
    readLocalPart (localPart ++ '@' :: rest) = some (localPart, '@' :: rest) := by
  rcases h with h | ⟨raw, hraw, rfl⟩
  · have hat : ∀ c ∈ localPart, decide (c ≠ '@') = true := by
      intro c hc
      refine decide_eq_true ?_
      rintro rfl
      rcases dotString_char h hc with hdot | hatext
      · cases hdot
      · exact absurd hatext (by decide)
    have hquote : ∀ tail, localPart ++ '@' :: rest ≠ '"' :: tail := by
      intro tail heq
      obtain ⟨c, cs, rfl⟩ := List.exists_cons_of_ne_nil (dotString_ne_nil h)
      obtain ⟨rfl, -⟩ := List.cons.inj heq
      rcases dotString_char h List.mem_cons_self with hdot | hatext
      · cases hdot
      · exact absurd hatext (by decide)
    rw [readLocalPart.eq_2 _ hquote, span_append hat (by decide)]
    simp only [h, if_true]
  · have hread := readQuoted_append hraw (show readQuoted ('"' :: '@' :: rest) = some ([], '@' :: rest) by rw [readQuoted])
    rw [List.append_nil] at hread
    rw [List.cons_append, List.append_assoc, readLocalPart]
    change (readQuoted (raw ++ '"' :: '@' :: rest)).map _ = _
    rw [hread]
    rfl

theorem readDomain_append (h : IsDomain domain) (rest : List Char) :
    readDomain (domain ++ '>' :: rest) = some (domain, '>' :: rest) := by
  rcases h with h | ⟨literal, hliteral, rfl⟩
  · have hbracket : ∀ tail, domain ++ '>' :: rest ≠ '[' :: tail := by
      intro tail heq
      cases domain with
      | nil => cases heq
      | cons c cs =>
        obtain ⟨rfl, -⟩ := List.cons.inj heq
        exact absurd (domainName_char h List.mem_cons_self) (by decide)
    have hchar : ∀ c ∈ domain, (isLdh c || decide (c = '.')) = true := by
      intro c hc
      simpa using domainName_char h hc
    rw [readDomain.eq_2 _ hbracket, span_append hchar (by decide)]
    simp only [h, if_true]
  · have hclose : ∀ c ∈ literal, decide (c ≠ ']') = true := by
      intro c hc
      refine decide_eq_true ?_
      rintro rfl
      exact absurd (List.all_eq_true.1 (Bool.and_eq_true_iff.1 hliteral).1 _ hc) (by decide)
    rw [List.cons_append, List.append_assoc, readDomain]
    change (match (literal ++ ']' :: '>' :: rest).span (· ≠ ']') with
      | (literal, _ :: rest) => if isAddressLiteral literal then some ('[' :: (literal ++ [']']), rest) else none
      | (_, []) => none) = _
    rw [span_append hclose (by decide)]
    simp only [hliteral, if_true]

theorem readMailbox_append (h : IsMailbox address) (rest : List Char) :
    readMailbox (address ++ '>' :: rest) = some (address, '>' :: rest) := by
  obtain ⟨localPart, domain, hlocal, hdomain, rfl⟩ := h
  rw [readMailbox, List.append_assoc, List.cons_append, readLocalPart_append hlocal]
  change (readDomain (domain ++ '>' :: rest)).bind _ = _
  rw [readDomain_append hdomain]
  rfl

theorem skipRoute_mailbox (h : IsMailbox address) (rest : List Char) : skipRoute (address ++ rest) = some (address ++ rest) := by
  obtain ⟨localPart, domain, hlocal, -, rfl⟩ := h
  refine if_neg fun hhead => ?_
  rcases hlocal with hlocal | ⟨raw, -, rfl⟩
  · obtain ⟨c, cs, rfl⟩ := List.exists_cons_of_ne_nil (dotString_ne_nil hlocal)
    obtain rfl : c = '@' := Option.some.inj hhead
    rcases dotString_char hlocal List.mem_cons_self with hdot | hatext
    · cases hdot
    · exact absurd hatext (by decide)
  · cases hhead

theorem readPath_append (h : IsMailbox address) (rest : List Char) :
    readPath ('<' :: (address ++ '>' :: rest)) = some (address, rest) := by
  rw [readPath, skipRoute_mailbox h]
  change (readMailbox (address ++ '>' :: rest)).bind _ = _
  rw [readMailbox_append h]
  rfl

/-- An address makes a command of its own if it is a mailbox, and only then. -/
theorem readCommand_path (verb : List Char) (address : String) :
    readCommand verb (verb ++ '<' :: (address.toList ++ ['>'])) = some ⟨address, []⟩ ↔ IsMailbox address.toList := by
  constructor
  · exact readCommand_sound
  · intro h
    have htake : (verb ++ '<' :: (address.toList ++ ['>'])).take verb.length = verb := List.take_left
    have hdrop : (verb ++ '<' :: (address.toList ++ ['>'])).drop verb.length = '<' :: (address.toList ++ ['>']) := List.drop_left
    rw [readCommand, htake, hdrop, if_pos rfl, readPath_append h]
    simp only [String.ofList_toList]

end

end Boxplot.Lib.MailPath
