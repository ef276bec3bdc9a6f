import Boxplot.Lib.Quoting
import Boxplot.Net.MessageIdSearch
/-!
# Mailbox names in a listing

`last_quoted` of `src-tauri/src/net/imap.rs`, and the lines of a server that
lists a mailbox: the flags, the delimiter, and the name as an atom or quoted as
`quote` does it.
-/

namespace Boxplot.Net.ImapText

open Lib

/-! ## The name that is extracted -/

def lastQuoted (value : List UInt8) : Option (List UInt8) := do
  let (front, _) ← splitLast 34 value
  let (_, inner) ← splitLast 34 front
  some (replacePair 92 92 92 (replacePair 92 34 34 inner))

/-- The name that `list_mailboxes` takes from a line. -/
def listedName (text : List UInt8) : Option (List UInt8) := if startsWithBytes (bytes "* LIST ") text then lastQuoted text else none

/-! ## The line of a mailbox -/

/-- `ASTRING-CHAR`. -/
def isAtomByte (b : UInt8) : Bool := 32 < b && b < 127 && !([34, 37, 40, 41, 42, 92, 123] : List UInt8).contains b

def IsAtom (text : List UInt8) : Prop := text ≠ [] ∧ ∀ b ∈ text, isAtomByte b = true

instance (text : List UInt8) : Decidable (IsAtom text) := inferInstanceAs (Decidable (_ ∧ _))

/-- A backslash and an atom. -/
def IsFlag (flag : List UInt8) : Prop := ∃ atom, IsAtom atom ∧ flag = 92 :: atom

def quotedText (value : String) : List UInt8 := 34 :: escape 92 34 (bytes value) ++ [34]

/-- A quoted character, or `NIL`. -/
def delimiterText : Option Char → List UInt8
  | none => bytes "NIL"
  | some c => quotedText (String.singleton c)

/-- `name`: the mailbox as it is written there. -/
def listText (flags : List (List UInt8)) (delimiter : Option Char) (name : List UInt8) : List UInt8 :=
  bytes "* LIST (" ++ List.intercalate [32] flags ++ bytes ") " ++ delimiterText delimiter ++ 32 :: name

theorem quote_eq {value : String} {text : List UInt8} (h : quote value = .ok text) : text = quotedText value := by
  unfold quote at h
  split at h
  · cases h
  · cases h
    rfl

/-! ## What is extracted -/

/-- What stands behind the last quote, or everything. -/
def lastPart (l : List UInt8) : List UInt8 := ((splitLast 34 l).map (·.2)).getD l

theorem lastPart_of_notMem {l : List UInt8} (h : 34 ∉ l) : lastPart l = l := by
  rw [lastPart, splitLast_eq_none.2 h]
  rfl

theorem lastPart_append {r : List UInt8} (h : 34 ∉ r) (l : List UInt8) : lastPart (l ++ 34 :: r) = r := by
  rw [lastPart, splitLast_append h]
  rfl

/-- A text is its last part unless it has a quote in it. -/
theorem lastPart_eq_self {l : List UInt8} : lastPart l = l ↔ 34 ∉ l := by
  refine ⟨fun heq hmem => ?_, lastPart_of_notMem⟩
  obtain ⟨before, after, rfl, hafter⟩ := exists_splitLast hmem
  rw [lastPart_append hafter] at heq
  have hlength := congrArg List.length heq
  rw [List.length_append, List.length_cons] at hlength
  omega

/-- Between the last two quotes is an escaped text. -/
theorem lastQuoted_escape {inner r : List UInt8} (hinner : 34 ∉ inner) (hr : 34 ∉ r) (l : List UInt8) :
    lastQuoted ((l ++ 34 :: escape 92 34 inner) ++ 34 :: r) = some inner := by
  have hescaped : 34 ∉ escape 92 34 inner := quote_notMem_escape (by decide) hinner
  simp only [lastQuoted, Option.bind_eq_bind, splitLast_append hr, splitLast_append hescaped, Option.bind_some,
    replacePair_of_notMem hescaped, replacePair_escape hinner]

/-- The last quoted text is read back from its last quote on. -/
theorem lastQuoted_quotedText (l : List UInt8) (value : String) {r : List UInt8} (hr : 34 ∉ r) :
    lastQuoted (l ++ quotedText value ++ r) = some (lastPart (bytes value)) := by
  have hclose : l ++ quotedText value ++ r = (l ++ 34 :: escape 92 34 (bytes value)) ++ 34 :: r := by simp [quotedText]
  rw [hclose]
  by_cases hquote : 34 ∈ bytes value
  · obtain ⟨before, after, hvalue, hafter⟩ := exists_splitLast hquote
    -- the quote is taken for the opening one, behind its escape
    have hescaped : l ++ 34 :: escape 92 34 (bytes value) = (l ++ 34 :: escape 92 34 before ++ [92]) ++ 34 :: escape 92 34 after := by
      rw [hvalue, escape_append, escape_cons, if_pos (.inr rfl)]
      simp
    rw [hescaped, lastQuoted_escape hafter hr, hvalue, lastPart_append hafter]
  · rw [lastQuoted_escape hquote hr, lastPart_of_notMem hquote]

theorem lastQuoted_of_notMem {value : List UInt8} (h : 34 ∉ value) : lastQuoted value = none := by
  rw [lastQuoted, splitLast_eq_none.2 h]
  rfl

theorem IsAtom.quote_notMem {atom : List UInt8} (h : IsAtom atom) : 34 ∉ atom := fun hmem => by
  have hquote := h.2 34 hmem
  exact absurd hquote (by decide)

theorem listedName_listText (flags : List (List UInt8)) (delimiter : Option Char) (name : List UInt8) :
    listedName (listText flags delimiter name) = lastQuoted (listText flags delimiter name) := by
  have hstart : bytes "* LIST (" = bytes "* LIST " ++ [40] := by decide_cbv
  refine if_pos ?_
  rw [listText, hstart]
  simp only [List.append_assoc]
  exact startsWithBytes_append _ _

variable {flags : List (List UInt8)} {delimiter : Option Char} {name : String}

theorem listedName_quoted : listedName (listText flags delimiter (quotedText name)) = some (lastPart (bytes name)) := by
  have hread := lastQuoted_quotedText (bytes "* LIST (" ++ List.intercalate [32] flags ++ bytes ") " ++ delimiterText delimiter ++ [32])
    name (r := []) List.not_mem_nil
  rw [listedName_listText, listText, ← hread]
  simp

theorem listedName_atom (hflags : ∀ flag ∈ flags, IsFlag flag) {atom : List UInt8} (hatom : IsAtom atom) :
    listedName (listText flags delimiter atom) = delimiter.map fun c => lastPart (bytes (String.singleton c)) := by
  have hrest : 34 ∉ 32 :: atom := by simp [hatom.quote_notMem]
  rw [listedName_listText, listText]
  cases delimiter with
  | some c => exact lastQuoted_quotedText _ (String.singleton c) hrest
  | none =>
    refine lastQuoted_of_notMem ?_
    have hopen : 34 ∉ bytes "* LIST (" := by decide_cbv
    have hclose : 34 ∉ bytes ") " := by decide_cbv
    have hnil : 34 ∉ bytes "NIL" := by decide_cbv
    have hinside : 34 ∉ List.intercalate [32] flags := fun hmem => by
      rcases mem_intercalate hmem with hmem | ⟨flag, hflag, hmem⟩
      · exact absurd hmem (by decide)
      · obtain ⟨atom, hatom, rfl⟩ := hflags flag hflag
        exact (List.mem_cons.1 hmem).elim (by decide) hatom.quote_notMem
    simp only [delimiterText, List.mem_append, not_or]
    exact ⟨⟨⟨⟨hopen, hinside⟩, hclose⟩, hnil⟩, hrest⟩

/-- A listed name is extracted if it is quoted and has no quote in it, or if it is an atom and the delimiter as well. -/
theorem listed_name_iff (hflags : ∀ flag ∈ flags, IsFlag flag) :
    (∀ text, quote name = .ok text → (listedName (listText flags delimiter text) = some (bytes name) ↔ '"' ∉ name.toList)) ∧
    (IsAtom (bytes name) →
      (listedName (listText flags delimiter (bytes name)) = some (bytes name) ↔ delimiter.map String.singleton = some name)) := by
  constructor
  · rintro text htext
    rw [quote_eq htext, listedName_quoted, Option.some_inj, lastPart_eq_self, mem_bytes (by decide)]
    rfl
  · intro hatom
    rw [listedName_atom hflags hatom, Option.map_eq_some_iff, Option.map_eq_some_iff]
    refine exists_congr fun c => and_congr_right fun _ => ⟨fun h => ?_, ?_⟩
    · by_cases hc : c = '"'
      · have hnothing : lastPart (bytes (String.singleton '"')) = [] := by decide_cbv
        rw [hc, hnothing] at h
        exact absurd h.symm hatom.1
      · have hplain : 34 ∉ bytes (String.singleton c) := by
          rw [mem_bytes (by decide), String.toList_singleton, List.mem_singleton]
          exact fun hquote => hc hquote.symm
        rw [lastPart_of_notMem hplain] at h
        exact bytes_injective h
    · rintro rfl
      exact lastPart_of_notMem hatom.quote_notMem

/-- A quoted name with a backslash survives, and so does an atom that is the delimiter. -/
theorem listed_name_backslash :
    listedName (listText [bytes "\\Sent"] none (quotedText "Sent \\ mail")) = some (bytes "Sent \\ mail") ∧
      listedName (listText [] (some '.') (bytes ".")) = some (bytes ".") := by
  have hflag : ∀ flag ∈ [bytes "\\Sent"], IsFlag flag := by
    simp only [List.forall_mem_singleton]
    exact ⟨bytes "Sent", by decide +kernel, by decide +kernel⟩
  have hquote : quote "Sent \\ mail" = .ok (quotedText "Sent \\ mail") := if_neg (by decide)
  have hnone : ∀ flag ∈ ([] : List (List UInt8)), IsFlag flag := nofun
  exact ⟨((listed_name_iff hflag).1 _ hquote).2 (by decide), ((listed_name_iff hnone).2 (by decide +kernel)).2 rfl⟩

/-- The names that a listing gives survive it, however they are written. -/
def NamesSurvive : Prop := ∀ flags delimiter name, (∀ flag ∈ flags, IsFlag flag) →
  (∀ text, quote name = .ok text → listedName (listText flags delimiter text) = some (bytes name)) ∧
  (IsAtom (bytes name) → listedName (listText flags delimiter (bytes name)) = some (bytes name))

/-- The line `* LIST () "/" INBOX` names the mailbox `/`, and a name with a quote loses what is before it. -/
theorem listed_name_lost : ¬NamesSurvive ∧ listText [] (some '/') (bytes "INBOX") = bytes "* LIST () \"/\" INBOX" ∧
    listedName (bytes "* LIST () \"/\" INBOX") = some (bytes "/") ∧
    listedName (listText [] (some '/') (quotedText "a\"b")) = some (bytes "b") := by
  have hinbox : listedName (bytes "* LIST () \"/\" INBOX") = some (bytes "/") := by decide_cbv
  have htext : listText [] (some '/') (bytes "INBOX") = bytes "* LIST () \"/\" INBOX" := by decide_cbv
  refine ⟨fun h => ?_, htext, hinbox, by decide_cbv⟩
  have hname := (h [] (some '/') "INBOX" fun flag hflag => absurd hflag List.not_mem_nil).2 (by decide +kernel)
  rw [htext, hinbox] at hname
  exact absurd hname (by decide_cbv)

end Boxplot.Net.ImapText
