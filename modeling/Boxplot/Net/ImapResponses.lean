import Boxplot.Net.InternalDate
import Boxplot.Net.StatusNumbers
/-!
# Reading the lines of a response

How `select`, `list_mailboxes`, `status`, `search_uids`, `fetch` and
`fetch_flag_snapshot` of `src-tauri/src/net/imap.rs` read the lines that a
command is answered with, and what they read of the lines that a server writes.
A line is searched for its words as it stands, and so a word may be found where
the server meant something else.
-/

namespace Boxplot.Net.ImapText

open Lib

/-! ## Reading a line -/

/-- The text between a marker and the next such byte. -/
def between (start : List UInt8) (stop : UInt8) (text : List UInt8) : Option (List UInt8) :=
  (after start text).bind fun rest => if stop ∈ rest then some (upTo stop rest) else none

/-- A line with `FETCH` in it. -/
def isFetchLine (line : ResponseLine) : Bool :=
  startsWithBytes (bytes "* ") line.text && (after (bytes " FETCH ") line.text).isSome

/-- `split_whitespace`; the words of a text are texts. -/
def flagWords (text : List UInt8) : List String := (words text).filterMap textOf

def readFlags (text : List UInt8) : Option (List String) := (between (bytes "FLAGS (") 41 text).map flagWords

/-- Where the date panics, the call ends without a result, as it does without a date. -/
def readInternalDate (text : List UInt8) : Option String :=
  ((between (bytes "INTERNALDATE \"") 34 text).bind fun value => (imapDateToRfc3339 value).join).bind textOf

/-- The two commands that fetch a message read the uid in two ways. -/
def fetchLine (uid : NetResult UInt32) (line : ResponseLine) : ImapLine :=
  if isFetchLine line then
    .fetch { uid, flags := readFlags line.text, internalDate := readInternalDate line.text,
             size := numberAfter line.text (bytes "RFC822.SIZE"), literal := line.literal }
  else .other

/-- The number behind the first `UID` of the line. -/
def flagsUid (text : List UInt8) : NetResult UInt32 := do
  let n ← numberAfter text (bytes "UID")
  toU32 n "imap_uid_invalid"

def specialUses : List String := ["\\Sent", "\\Trash", "\\Drafts", "\\Junk", "\\All", "\\Flagged", "\\Important"]

def specialUseFromList (text : List UInt8) : Option String := specialUses.find? fun use => (after (bytes use) text).isSome

/-- What a line is to the command that it answers. -/
def readLine (call : ImapCall) (line : ResponseLine) : ImapLine :=
  match call with
  | .select _ =>
    match uidValidityOf line.text with
    | some uidValidity => .uidValidity uidValidity
    | none => .other
  | .list =>
    match listedName line.text with
    | some name => .list (textOf name) (specialUseFromList line.text)
    | none => .other
  | .status _ => statusLine line
  | .searchAll => if startsWithBytes searchMarker line.text then .search (((words line.text).drop 2).mapM parseUid) else .other
  | .fetch _ => fetchLine (fetchUid line.text) line
  | .fetchFlags _ => fetchLine (flagsUid line.text) line

/-! ## On a connection -/

/-- A request as it is sent. -/
def callText : ImapCall → List UInt8
  | .select mailbox => selectCommand (quotedText mailbox)
  | .list => bytes "LIST \"\" \"*\""
  | .status mailbox => statusCommand (quotedText mailbox)
  | .searchAll => bytes "UID SEARCH ALL"
  | .fetch uid => bytes ("UID FETCH " ++ toString uid.toNat ++ " (UID FLAGS INTERNALDATE RFC822.SIZE BODY.PEEK[])")
  | .fetchFlags uid => bytes ("UID FETCH " ++ toString uid.toNat ++ " (UID FLAGS)")

section

variable {S α : Type} (command : ImapCommands S)

/-- A request is answered with the lines that `command` gets for it, as they are read. -/
def answerOver (s : S) (call : ImapCall) : Option (ImapReply call × S) :=
  some (match command (callText call) s with
    | .ok lines s' => (.ok (lines.map (readLine call)), s')
    | .error e s' => (.error e, s'))

/-- How a computation ended. -/
def ended : EStateM.Result NativeMailErrorDto S α → Option (NetResult α) × S
  | .ok a s => (some (.ok a), s)
  | .error e s => (some (.error e), s)

theorem play_quoted (mailbox : String) (f : List UInt8 → ImapProgram α) (g : List UInt8 → EStateM NativeMailErrorDto S α) (s : S)
    (h : (f (quotedText mailbox)).run.play (answerOver command) s = ended (g (quotedText mailbox) s)) :
    (Async.lift (quote mailbox) >>= f : ImapProgram α).run.play (answerOver command) s =
      ended ((settle (quote mailbox) >>= g) s) := by
  cases hquote : quote mailbox with
  | error e => rfl
  | ok quoted =>
    obtain rfl := quote_eq hquote
    exact h

theorem play_sendCommand (call : ImapCall) (f : List ImapLine → ImapProgram α) (g : List ResponseLine → EStateM NativeMailErrorDto S α)
    (s : S) (h : ∀ lines s', (f (lines.map (readLine call))).run.play (answerOver command) s' = ended (g lines s')) :
    (sendCommand call >>= f : ImapProgram α).run.play (answerOver command) s = ended ((command (callText call) >>= g) s) := by
  change Prog.play (answerOver command) (.await call _) s = _
  rw [Prog.play, answerOver]
  cases hcommand : command (callText call) s with
  | ok lines s' =>
    rw [bind_ok hcommand]
    exact h lines s'
  | error e s' =>
    rw [bind_error hcommand]
    rfl

theorem play_lift (r : NetResult α) (s : S) : (Async.lift r : ImapProgram α).run.play (answerOver command) s = ended (settle r s) := by
  cases r <;> rfl

/-- What is looked for in the lines as they are read can be looked for in the text. -/
theorem findSome_readLine {β : Type} {call : ImapCall} {f : ImapLine → Option β} {g : ResponseLine → Option β}
    (h : ∀ line, f (readLine call line) = g line) (lines : List ResponseLine) :
    (lines.map (readLine call)).findSome? f = lines.findSome? g := by
  rw [List.findSome?_map]
  exact congrArg (lines.findSome? ·) (funext h)

/-- The mailbox is selected as `select` does it. -/
theorem play_selectMailbox (mailbox : String) (s : S) :
    (selectMailbox mailbox).run.play (answerOver command) s = ended (select command mailbox s) := by
  refine play_quoted command mailbox _ _ s (play_sendCommand command (.select mailbox) _ _ s fun lines s' => ?_)
  rw [findSome_readLine fun line => ?_]
  · cases lines.findSome? (uidValidityOf ·.text) <;> rfl
  · rw [readLine]
    cases uidValidityOf line.text <;> rfl

/-- The numbers of a mailbox are read as `status` does it. -/
theorem play_mailboxStatus (mailbox : String) (s : S) :
    (mailboxStatus mailbox).run.play (answerOver command) s = ended (status command mailbox s) :=
  play_quoted command mailbox _ _ s (play_sendCommand command (.status mailbox) _ _ s fun lines s' =>
    play_lift command (readStatus mailbox (lines.map statusLine)) s')

/-- The uids of a search are read as those of a search for a message id. -/
theorem searchUidsFromResponse_readLine (lines : List ResponseLine) :
    Net.searchUidsFromResponse (lines.map (readLine .searchAll)) = searchUidsFromResponse lines := by
  induction lines with
  | nil => rfl
  | cons line lines ih =>
    unfold Net.searchUidsFromResponse searchUidsFromResponse at ih ⊢
    rw [List.map_cons, List.findSome?_cons, List.find?_cons, readLine]
    cases startsWithBytes searchMarker line.text with
    | false => exact ih
    | true =>
      dsimp only
      cases ((words line.text).drop 2).mapM parseUid <;> rfl

end

/-! ## The lines of a server -/

/-- A flag is a word without a closing parenthesis. -/
def IsFlagWord (flag : String) : Prop := bytes flag ≠ [] ∧ ∀ b ∈ bytes flag, PlainByte b ∧ b ≠ 41

instance (flag : String) : Decidable (IsFlagWord flag) :=
  have (b : UInt8) : Decidable (PlainByte b) := inferInstanceAs (Decidable (_ ∧ _))
  inferInstanceAs (Decidable (_ ∧ _))

inductive FetchItem
  | uid (uid : UInt32)
  | flags (flags : List String) (written : ∀ flag ∈ flags, IsFlagWord flag)
  /-- Any other item, with its value. -/
  | other (text : List UInt8)

def flagsText (flags : List String) : List UInt8 := bytes "FLAGS (" ++ (List.intercalate [32] (flags.map bytes) ++ [41])

def FetchItem.text : FetchItem → List UInt8
  | .uid n => bytes "UID " ++ decimalText n
  | .flags words _ => flagsText words
  | .other rest => rest

/-- What is said of the message with this number in the mailbox. A literal belongs to the last item. -/
structure FetchResponse where
  sequence : UInt32
  items : List FetchItem
  literal : Option (List UInt8)

namespace FetchResponse

def start (r : FetchResponse) : List UInt8 := bytes "* " ++ (decimalText r.sequence ++ bytes " FETCH (")

def text (r : FetchResponse) : List UInt8 :=
  r.start ++ (List.intercalate [32] (r.items.map FetchItem.text) ++ if r.literal.isSome then [] else [41])

end FetchResponse

/-- The line of a mailbox whose name is written so, with its items in this order. -/
def namedStatusText (name : List UInt8) (numbers : StatusNumbers) (order : List StatusItem) : List UInt8 :=
  bytes "* STATUS" ++ 32 :: (name ++ 32 :: 40 :: (List.intercalate [32] (order.map (·.text numbers)) ++ [41]))

/-- Quoted, or as an atom. -/
def Writes (mailbox : String) (name : List UInt8) : Prop := name = quotedText mailbox ∨ IsAtom name ∧ name = bytes mailbox

inductive ServerLine
  | fetch (response : FetchResponse)
  | search (uids : List UInt32)
  | status (name : List UInt8) (numbers : StatusNumbers) (order : List StatusItem)
  | list (flags : List (List UInt8)) (delimiter : Option Char) (mailbox : String) (name : List UInt8) (written : Writes mailbox name)
  /-- Any line that is neither a search nor a status. -/
  | other (line : ResponseLine) (search : startsWithBytes searchMarker line.text = false)
      (status : startsWithBytes (bytes "* STATUS ") line.text = false)

def ServerLine.line : ServerLine → ResponseLine
  | .fetch response => ⟨response.text, response.literal⟩
  | .search uids => ⟨searchText uids, none⟩
  | .status name numbers order => ⟨namedStatusText name numbers order, none⟩
  | .list flags delimiter _ name _ => ⟨listText flags delimiter name, none⟩
  | .other line _ _ => line

/-! ## Where a word is found -/

/-- The keyword is found in the name, and another number behind it. -/
def misleads (name : List UInt8) (numbers : StatusNumbers) (item : StatusItem) : Bool :=
  match after (bytes item.key) name with
  | none => false
  | some rest =>
    let digits := (trimStart rest).takeWhile isDigitByte
    digits ≠ [] && decimal digits ≠ item.number numbers

/-- The flags of the first item that has flags, if nothing before it looks like that. -/
def ownFlags (before : List UInt8) : List FetchItem → Option (List String)
  | [] => none
  | .flags flags _ :: _ => if (after (bytes "FLAGS (") before).isNone then some flags else none
  | item :: rest => ownFlags (before ++ item.text ++ [32]) rest

/-- The line is about the message, and its flags are found where they are. -/
def ServerLine.shows (uid : UInt32) : ServerLine → Bool
  | .fetch response =>
    (response.items.any fun | .uid own => own = uid | _ => false) && (ownFlags response.start response.items).isSome
  | _ => false

/-- If the line is read as being about the message, it shows the message's flags. -/
def ServerLine.unmistaken (readUid : List UInt8 → NetResult UInt32) (uid : UInt32) (line : ServerLine) : Bool :=
  match readUid line.line.text with
  | .ok found => found ≠ uid || line.shows uid
  | .error _ => true

/-- The line that a fetch reads is not taken for another message's, nor its flags for other flags. -/
def unmistaken : ImapCall → List ServerLine → Bool
  | .fetch uid, lines =>
    match lines.filter fun line => line.line.literal.isSome && isFetchLine line.line with
    | [line] => line.unmistaken fetchUid uid
    | _ => true
  | .fetchFlags uid, lines => ((lines.find? fun line => isFetchLine line.line).map (·.unmistaken flagsUid uid)).getD true
  | _, _ => true

/-- No mailbox is listed under another name, and none has a name that is taken for its numbers. -/
def unmisled : ImapCall → List ServerLine → Bool
  | .list, lines => lines.all fun
    | .list _ _ mailbox name _ => name = quotedText mailbox && 34 ∉ bytes mailbox
    | _ => true
  | .status _, lines => lines.all fun
    | .status name numbers _ => [StatusItem.messages, .uidNext, .uidValidity].all fun item => !misleads name numbers item
    | _ => true
  | _, _ => true

/-! ## Numbers of a status -/

theorem append_eq_cons_space {l t r : List UInt8} {c : UInt8} (hc : c ≠ 32) (h : l ++ 32 :: t = c :: r) :
    ∃ l', l = c :: l' ∧ r = l' ++ 32 :: t := by
  cases l with
  | nil => exact absurd (List.cons.inj h).1.symm hc
  | cons b l =>
    obtain ⟨rfl, rfl⟩ := List.cons.inj h
    exact ⟨l, rfl, rfl⟩

/-- A space that follows belongs to no character before it. -/
theorem dropSpace_append {l : List UInt8} (hne : l ≠ []) (t : List UInt8) : dropSpace (l ++ 32 :: t) = (dropSpace l).map (· ++ 32 :: t) := by
  fun_cases dropSpace l
  case case4 c rest h => exact if_pos h
  case case5 c rest h => exact if_neg h
  case case8 b rest _ _ _ _ _ _ h => exact dropSpace_blank h _
  case case9 b rest h1 h2 h3 h4 h5 h6 h =>
    rw [List.cons_append]
    unfold dropSpace
    split
    case h_4 heq =>
      obtain ⟨rfl, hrest⟩ := List.cons.inj heq
      obtain ⟨l', rfl, hl'⟩ := append_eq_cons_space (by decide) hrest
      refine if_neg fun hc => ?_
      obtain ⟨l'', rfl, -⟩ := append_eq_cons_space (by rintro rfl; exact absurd hc (by decide)) hl'.symm
      exact h4 _ _ rfl rfl
    case h_7 heq =>
      cases heq
      exact if_neg h
    case h_8 => rfl
    all_goals
      rename_i heq
      obtain ⟨rfl, hrest⟩ := List.cons.inj heq
      obtain ⟨l', rfl, hl'⟩ := append_eq_cons_space (by decide) hrest
      try obtain ⟨l'', rfl, -⟩ := append_eq_cons_space (by decide) hl'.symm
      first
        | exact (h1 _ rfl rfl).elim
        | exact (h2 _ rfl rfl).elim
        | exact (h3 _ rfl rfl).elim
        | exact (h5 _ rfl rfl).elim
        | exact (h6 _ rfl rfl).elim
  case case10 => exact absurd rfl hne
  all_goals rfl

theorem takeWhile_digits_append (l t : List UInt8) : (l ++ 32 :: t).takeWhile isDigitByte = l.takeWhile isDigitByte := by
  induction l with
  | nil => rfl
  | cons b l ih => rw [List.cons_append, List.takeWhile_cons, List.takeWhile_cons, ih]

theorem digitsFrom_append {l : List UInt8} {fuel fuel' : Nat} (h : l.length ≤ fuel) (h' : l.length < fuel') (t : List UInt8) :
    (trimStartFrom fuel' (l ++ 32 :: 40 :: t)).takeWhile isDigitByte = (trimStartFrom fuel l).takeWhile isDigitByte := by
  have hnil : ∀ {fuel fuel' : Nat}, 0 < fuel' →
      (trimStartFrom fuel' (32 :: 40 :: t)).takeWhile isDigitByte = (trimStartFrom fuel []).takeWhile isDigitByte := by
    intro fuel fuel' hpos
    obtain ⟨n, rfl⟩ : ∃ n, fuel' = n + 1 := ⟨fuel' - 1, by omega⟩
    have hspace : trimStartFrom (n + 1) (32 :: 40 :: t) = trimStartFrom n (40 :: t) := rfl
    have hopen : trimStartFrom n (40 :: t) = 40 :: t := by cases n <;> rfl
    rw [hspace, hopen]
    cases fuel <;> rfl
  induction fuel generalizing l fuel' with
  | zero =>
    obtain rfl := List.length_eq_zero_iff.1 (Nat.le_zero.1 h)
    exact hnil h'
  | succ fuel ih =>
    by_cases hl : l = []
    · subst hl
      exact hnil h'
    obtain ⟨fuel', rfl⟩ : ∃ n, fuel' = n + 1 := ⟨fuel' - 1, by omega⟩
    have hspace := dropSpace_append hl (40 :: t)
    cases hdrop : dropSpace l with
    | none =>
      rw [hdrop] at hspace
      simp only [trimStartFrom, hdrop, hspace, Option.map_none]
      exact takeWhile_digits_append l (40 :: t)
    | some r =>
      rw [hdrop] at hspace
      have hlength := dropSpace_length hdrop
      simp only [trimStartFrom, hdrop, hspace, Option.map_some]
      exact ih (by omega) (by omega)

theorem digits_append (l t : List UInt8) :
    (trimStart (l ++ 32 :: 40 :: t)).takeWhile isDigitByte = (trimStart l).takeWhile isDigitByte :=
  digitsFrom_append (Nat.le_refl _) (by simp) t

/-- A keyword is found in the name first, and in the list if the name has it not. -/
theorem after_namedStatusText (name : List UInt8) (numbers : StatusNumbers) (order : List StatusItem) (item : StatusItem) :
    after (bytes item.key) (namedStatusText name numbers order) =
      ((after (bytes item.key) name).map (· ++ 32 :: 40 :: (List.intercalate [32] (order.map (·.text numbers)) ++ [41]))).or
        (after (bytes item.key) (List.intercalate [32] (order.map (·.text numbers)) ++ [41])) := by
  have hstart : after (bytes item.key) (bytes "* STATUS") = none := by cases item <;> decide_cbv
  have hspace : 32 ∉ bytes item.key := notMem_key (by decide) item
  rw [namedStatusText, after_separated hspace, hstart, Option.map_none, Option.none_or, after_separated hspace,
    after_cons (key_ne_nil item) (notMem_key (by decide) item)]

/-- What is read of an item is its number, unless the name misleads about it. -/
theorem numberAfter_named {name : List UInt8} {numbers : StatusNumbers} {order : List StatusItem} {item : StatusItem} (h : item ∈ order)
    (hname : misleads name numbers item = false) {n : UInt64}
    (hread : numberAfter (namedStatusText name numbers order) (bytes item.key) = .ok n) : n.toNat = item.number numbers := by
  obtain ⟨rest, hafter, hne, hdecimal⟩ := numberAfter_eq_ok.1 hread
  rw [after_namedStatusText] at hafter
  unfold misleads at hname
  cases hkey : after (bytes item.key) name with
  | none =>
    obtain ⟨b, more, hb, hitems⟩ := after_items numbers h
    rw [hkey, Option.map_none, Option.none_or, hitems] at hafter
    obtain rfl := Option.some.inj hafter
    rw [digits_space _ hb, decimal_toString] at hdecimal
    exact hdecimal.symm
  | some text =>
    rw [hkey, Option.map_some, Option.some_or] at hafter
    obtain rfl := Option.some.inj hafter
    rw [digits_append] at hne hdecimal
    simp only [hkey, Bool.and_eq_false_iff, decide_eq_false_iff_not, not_not] at hname
    exact hdecimal.symm.trans (hname.resolve_left hne)

/-! ## Flags of a message -/

theorem stripPrefix_cons (m b : UInt8) (marker text : List UInt8) :
    stripPrefix (m :: marker) (b :: text) = if m = b then stripPrefix marker text else none := by
  unfold stripPrefix
  by_cases h : m = b <;> simp [h]

/-- The first occurrence of a marker is the one behind a text without it, if its first byte is nowhere else in it. -/
theorem after_first {m : UInt8} {marker before : List UInt8} (hm : m ∉ marker) (h : after (m :: marker) before = none)
    (rest : List UInt8) : after (m :: marker) (before ++ (m :: marker ++ rest)) = some rest := by
  induction before with
  | nil => rw [List.nil_append, after.eq_def, stripPrefix_append]
  | cons b before ih =>
    rw [after.eq_def] at h
    cases hstrip : stripPrefix (m :: marker) (b :: before) with
    | some found => rw [hstrip] at h; cases h
    | none =>
      rw [hstrip] at h
      -- an occurrence that reaches into the one behind would have its first byte in it
      have hseparated := stripPrefix_separated hm before (marker ++ rest)
      have hnone : stripPrefix (m :: marker) (b :: (before ++ m :: (marker ++ rest))) = none := by
        rw [stripPrefix_cons] at hstrip ⊢
        split at hstrip
        · rename_i heq
          rw [if_pos heq, hseparated, hstrip]
          rfl
        · rename_i hne
          exact if_neg hne
      rw [List.cons_append, List.cons_append, after.eq_def, hnone]
      exact ih h

theorem flagWords_intercalate {flags : List String} (h : ∀ flag ∈ flags, IsFlagWord flag) :
    flagWords (List.intercalate [32] (flags.map bytes)) = flags := by
  rw [flagWords, words_intercalate, List.filterMap_map]
  · have hsome : textOf ∘ bytes = some := funext textOf_bytes
    rw [hsome, List.filterMap_some]
  · exact List.forall_mem_map.2 fun flag hflag => (h flag hflag).1
  · exact List.forall_mem_map.2 fun flag hflag b hb => ((h flag hflag).2 b hb).1

/-- The flags of an item are read, if nothing before it looks like them. -/
theorem readFlags_flagsText {flags : List String} (hflags : ∀ flag ∈ flags, IsFlagWord flag) {before : List UInt8}
    (h : after (bytes "FLAGS (") before = none) (rest : List UInt8) : readFlags (before ++ (flagsText flags ++ rest)) = some flags := by
  have hmarker : bytes "FLAGS (" = 70 :: bytes "LAGS (" := by decide_cbv
  have hhead : 70 ∉ bytes "LAGS (" := by decide_cbv
  have hafter : after (bytes "FLAGS (") (before ++ (flagsText flags ++ rest)) =
      some (List.intercalate [32] (flags.map bytes) ++ 41 :: rest) := by
    rw [hmarker] at h ⊢
    rw [flagsText, hmarker, List.append_assoc, List.append_assoc, List.singleton_append]
    exact after_first hhead h _
  have hclose : 41 ∉ List.intercalate [32] (flags.map bytes) := fun hmem => by
    rcases mem_intercalate hmem with hmem | ⟨word, hword, hmem⟩
    · exact absurd hmem (by decide)
    · obtain ⟨flag, hflag, rfl⟩ := List.mem_map.1 hword
      exact ((hflags flag hflag).2 41 hmem).2 rfl
  have hupTo : upTo 41 (List.intercalate [32] (flags.map bytes) ++ 41 :: rest) = List.intercalate [32] (flags.map bytes) := by
    rw [upTo, List.takeWhile_append_of_pos fun b hb => by simpa using fun heq : b = 41 => hclose (heq ▸ hb)]
    simp
  rw [readFlags, between, hafter, Option.bind_some, if_pos (by simp), hupTo, Option.map_some, flagWords_intercalate hflags]

theorem ownFlags_eq_some {before : List UInt8} {items : List FetchItem} {flags : List String} (h : ownFlags before items = some flags)
    (close : List UInt8) : (∃ written, .flags flags written ∈ items) ∧
      readFlags (before ++ (List.intercalate [32] (items.map FetchItem.text) ++ close)) = some flags := by
  induction items generalizing before with
  | nil => cases h
  | cons item items ih =>
    have hskip (htail : ownFlags (before ++ item.text ++ [32]) items = some flags) : (∃ written, .flags flags written ∈ item :: items) ∧
        readFlags (before ++ (List.intercalate [32] ((item :: items).map FetchItem.text) ++ close)) = some flags := by
      obtain ⟨⟨written, hmem⟩, hread⟩ := ih htail
      refine ⟨⟨written, List.mem_cons_of_mem item hmem⟩, ?_⟩
      obtain ⟨next, items, rfl⟩ := List.exists_cons_of_ne_nil (List.ne_nil_of_mem hmem)
      have hsplit : before ++ (List.intercalate [32] ((item :: next :: items).map FetchItem.text) ++ close) =
          before ++ item.text ++ [32] ++ (List.intercalate [32] ((next :: items).map FetchItem.text) ++ close) := by
        simp [List.intercalate]
      rwa [hsplit]
    cases item with
    | uid n => exact hskip h
    | other text => exact hskip h
    | flags words written =>
      rw [ownFlags] at h
      split at h
      · rename_i hnone
        obtain rfl := Option.some.inj h
        refine ⟨⟨written, List.mem_cons_self⟩, ?_⟩
        have hbefore := Option.isNone_iff_eq_none.1 hnone
        cases items with
        | nil =>
          have hone : List.intercalate [32] ([FetchItem.flags words written].map FetchItem.text) = flagsText words := by
            simp [List.intercalate, FetchItem.text]
          rw [hone]
          exact readFlags_flagsText written hbefore close
        | cons next items =>
          have hsplit : List.intercalate [32] ((FetchItem.flags words written :: next :: items).map FetchItem.text) ++ close =
              flagsText words ++ (32 :: List.intercalate [32] ((next :: items).map FetchItem.text) ++ close) := by
            simp [List.intercalate, FetchItem.text]
          rw [hsplit]
          exact readFlags_flagsText written hbefore _
      · cases h

theorem ServerLine.shows_fetch {uid : UInt32} {line : ServerLine} (h : line.shows uid = true) : ∃ response, line = .fetch response ∧
    .uid uid ∈ response.items ∧ ∃ flags written, .flags flags written ∈ response.items ∧ readFlags line.line.text = some flags := by
  unfold ServerLine.shows at h
  split at h
  · rename_i response
    obtain ⟨hown, hflags⟩ := Bool.and_eq_true_iff.1 h
    obtain ⟨item, hitem, huid⟩ := List.any_eq_true.1 hown
    obtain ⟨flags, hflags⟩ := Option.isSome_iff_exists.1 hflags
    obtain ⟨⟨written, hmem⟩, hread⟩ := ownFlags_eq_some hflags (if response.literal.isSome then [] else [41])
    refine ⟨response, rfl, ?_, flags, written, hmem, hread⟩
    cases item with
    | uid own =>
      obtain rfl : own = uid := of_decide_eq_true huid
      exact hitem
    | _ => cases huid
  · cases h

/-! ## One line is not another -/

/-- A text does not begin like one that differs from it in the first `k` bytes. -/
theorem startsWithBytes_false {start head : List UInt8} (k : Nat) (hstart : k ≤ start.length) (hhead : k ≤ head.length)
    (hne : start.take k ≠ head.take k) (rest : List UInt8) : startsWithBytes start (head ++ rest) = false := by
  rw [← Bool.not_eq_true, startsWithBytes_iff]
  rintro ⟨t, ht⟩
  have htake := congrArg (List.take k) ht
  rw [List.take_append_of_le_length hstart, List.take_append_of_le_length hhead] at htake
  exact hne htake

/-- A line of a message has a number where others have a word. -/
theorem startsWithBytes_fetch {start : List UInt8} {b : UInt8} (hb : start[2]? = some b) (hdigit : isDigitByte b = false)
    (r : FetchResponse) : startsWithBytes start r.text = false := by
  obtain ⟨d, digits, hdigits⟩ := List.exists_cons_of_ne_nil (decimalText_ne_nil r.sequence)
  have hd : isDigitByte d = true := decimalText_digits (hdigits ▸ List.mem_cons_self)
  rw [← Bool.not_eq_true, startsWithBytes_iff]
  intro hprefix
  have hget : r.text[2]? = some b := by
    obtain ⟨t, ht⟩ := hprefix
    rw [← ht, List.getElem?_append_left (List.getElem?_eq_some_iff.1 hb).1, hb]
  have hstar : bytes "* " = [42, 32] := by decide_cbv
  have hhead : r.text[2]? = some d := by
    rw [FetchResponse.text, FetchResponse.start, hstar, hdigits]
    rfl
  rw [hhead, Option.some.injEq] at hget
  rw [hget, hdigit] at hd
  cases hd

theorem startsWithBytes_status {start : List UInt8} (hstart : 4 ≤ start.length) (hne : start.take 4 ≠ (bytes "* STATUS").take 4)
    (name : List UInt8) (numbers : StatusNumbers) (order : List StatusItem) :
    startsWithBytes start (namedStatusText name numbers order) = false :=
  startsWithBytes_false 4 hstart (by decide_cbv) hne _

theorem startsWithBytes_list {start : List UInt8} (hstart : 4 ≤ start.length) (hne : start.take 4 ≠ (bytes "* LIST (").take 4)
    (flags : List (List UInt8)) (delimiter : Option Char) (name : List UInt8) :
    startsWithBytes start (listText flags delimiter name) = false := by
  have hfalse := startsWithBytes_false 4 hstart (by decide_cbv) hne
    (List.intercalate [32] flags ++ (bytes ") " ++ (delimiterText delimiter ++ 32 :: name)))
  rwa [← List.append_assoc, ← List.append_assoc, ← List.append_assoc] at hfalse

theorem ServerLine.search_of_starts {line : ServerLine} (h : startsWithBytes searchMarker line.line.text = true) :
    ∃ uids, line = .search uids := by
  have hfalse : startsWithBytes searchMarker line.line.text = false → ∃ uids, line = .search uids :=
    fun hline => absurd h (Bool.eq_false_iff.1 hline)
  cases line with
  | search uids => exact ⟨uids, rfl⟩
  | fetch response => exact hfalse (startsWithBytes_fetch (b := 83) (by decide_cbv) (by decide) response)
  | status name numbers order => exact hfalse (startsWithBytes_status (by decide_cbv) (by decide_cbv) name numbers order)
  | list flags delimiter mailbox name written => exact hfalse (startsWithBytes_list (by decide_cbv) (by decide_cbv) flags delimiter name)
  | other line search status => exact hfalse search

theorem ServerLine.status_of_starts {line : ServerLine} (h : startsWithBytes (bytes "* STATUS ") line.line.text = true) :
    ∃ name numbers order, line = .status name numbers order := by
  have hfalse : startsWithBytes (bytes "* STATUS ") line.line.text = false → ∃ name numbers order, line = .status name numbers order :=
    fun hline => absurd h (Bool.eq_false_iff.1 hline)
  cases line with
  | status name numbers order => exact ⟨name, numbers, order, rfl⟩
  | fetch response => exact hfalse (startsWithBytes_fetch (b := 83) (by decide_cbv) (by decide) response)
  | search uids =>
    obtain ⟨rest, hrest⟩ := searchText_append uids
    have hline : startsWithBytes (bytes "* STATUS ") (searchMarker ++ rest) = false :=
      startsWithBytes_false 4 (by decide_cbv) (by decide_cbv) (by decide_cbv) rest
    rw [← hrest] at hline
    exact hfalse hline
  | list flags delimiter mailbox name written => exact hfalse (startsWithBytes_list (by decide_cbv) (by decide_cbv) flags delimiter name)
  | other line search status => exact hfalse status

/-! ## What is read of a server's line -/

theorem readLine_searchAll {line : ServerLine} {found : List UInt32} (h : readLine .searchAll line.line = .search (.ok found)) :
    line = .search found := by
  rw [readLine] at h
  split at h
  · rename_i hsearch
    obtain ⟨uids, rfl⟩ := ServerLine.search_of_starts hsearch
    change ImapLine.search (((words (searchText uids)).drop 2).mapM parseUid) = _ at h
    rw [words_searchText, List.drop_succ_cons, List.drop_succ_cons, List.drop_zero, mapM_parseUid] at h
    cases h
    rfl
  · cases h

theorem readLine_status {mailbox : String} {line : ServerLine} {read : StatusLine} (h : readLine (.status mailbox) line.line = .status read) :
    ∃ name numbers order, line = .status name numbers order ∧ read =
      ⟨numberAfter (namedStatusText name numbers order) (bytes "MESSAGES"), numberAfter (namedStatusText name numbers order) (bytes "UNSEEN"),
        numberAfter (namedStatusText name numbers order) (bytes "UIDNEXT"),
        numberAfter (namedStatusText name numbers order) (bytes "UIDVALIDITY")⟩ := by
  rw [readLine, statusLine] at h
  split at h
  · rename_i hstatus
    obtain ⟨name, numbers, order, rfl⟩ := ServerLine.status_of_starts hstatus
    cases h
    exact ⟨name, numbers, order, rfl, rfl⟩
  · cases h

/-- A mailbox is listed under its name, if that is quoted and has no quotation mark. -/
theorem readLine_list {mailbox : String} (h : 34 ∉ bytes mailbox) (flags : List (List UInt8)) (delimiter : Option Char) :
    ∃ specialUse, readLine .list ⟨listText flags delimiter (quotedText mailbox), none⟩ = .list (some mailbox) specialUse := by
  have hname : listedName (listText flags delimiter (quotedText mailbox)) = some (bytes mailbox) := by
    have hread := lastQuoted_quotedText (bytes "* LIST (" ++ List.intercalate [32] flags ++ bytes ") " ++ delimiterText delimiter ++ [32])
      mailbox (r := []) List.not_mem_nil
    rw [listedName_listText, listText, ← lastPart_of_notMem h, ← hread]
    simp
  refine ⟨specialUseFromList (listText flags delimiter (quotedText mailbox)), ?_⟩
  simp only [readLine, hname, textOf_bytes]

end Boxplot.Net.ImapText
